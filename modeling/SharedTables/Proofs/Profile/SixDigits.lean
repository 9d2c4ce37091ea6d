import Mathlib.Algebra.Order.Ring.Nat
import Mathlib.Data.List.Induction
import Mathlib.Tactic.Ring
import SharedTables.Profile.Expiration
import SharedTables.Proofs.Time.Reading

/-! How a time of expiration is written anew before it is read: a final `Z`
becomes an offset, and a fraction of any length becomes one of six digits. What
the six digits say is the fraction in microseconds, cut and not rounded. -/
namespace SharedTables

namespace DateTime

variable {cs : List Char}

theorem digitsNumber_append (xs ys : List Char) :
    digitsNumber (xs ++ ys) = digitsNumber xs * 10 ^ ys.length + digitsNumber ys := by
  induction ys using List.reverseRecOn with
  | nil => simp [digitsNumber]
  | append_singleton ys y ih =>
    rw [← List.append_assoc]
    simp only [digitsNumber, List.foldl_append, List.foldl_cons, List.foldl_nil, List.length_append,
      List.length_singleton] at ih ⊢
    rw [ih]
    ring

theorem digitsNumber_lt (digits : ∀ c ∈ cs, c.isDigit = true) : digitsNumber cs < 10 ^ cs.length := by
  induction cs using List.reverseRecOn with
  | nil => simp [digitsNumber]
  | append_singleton cs c ih =>
    have fewer := ih fun d member => digits d (List.mem_append_left _ member)
    have digit : c.toNat - 48 < 10 :=
      forall_digit (P := fun c => c.toNat - 48 < 10) (by decide) (digits c (by simp))
    have last : digitsNumber [c] = c.toNat - 48 := by simp [digitsNumber]
    simp only [digitsNumber_append, List.length_append, List.length_singleton, pow_succ, pow_zero, one_mul, last]
    omega

theorem digitsNumber_zeros (k : Nat) : digitsNumber (List.replicate k '0') = 0 := by
  induction k with
  | zero => rfl
  | succ k ih =>
    rw [List.replicate_succ', digitsNumber_append, ih]
    rfl

end DateTime

namespace Profile
open DateTime

variable {fraction cs rest : List Char}

/-! The six digits of a fraction. -/

/-- The first six digits of a fraction, with zeros in place of those that it lacks. -/
def cutFraction (fraction : List Char) : List Char :=
  fraction.take 6 ++ List.replicate (6 - fraction.length) '0'

theorem length_cutFraction (fraction : List Char) : (cutFraction fraction).length = 6 := by
  simp only [cutFraction, List.length_append, List.length_take, List.length_replicate]
  omega

theorem digit_of_mem_cutFraction (digits : ∀ c ∈ fraction, c.isDigit = true) :
    ∀ c ∈ cutFraction fraction, c.isDigit = true := by
  intro c member
  rcases List.mem_append.mp member with kept | filled
  · exact digits c (List.mem_of_mem_take kept)
  · rw [List.eq_of_mem_replicate filled]
    decide

/-- The six digits are the microseconds of the fraction, cut to a whole number. -/
theorem digitsNumber_cutFraction (digits : ∀ c ∈ fraction, c.isDigit = true) :
    digitsNumber (cutFraction fraction) = digitsNumber fraction * 10 ^ 6 / 10 ^ fraction.length := by
  by_cases short : fraction.length ≤ 6
  · -- The zeros that are filled in multiply by the powers of ten that the length lacks.
    have whole : 10 ^ 6 = 10 ^ (6 - fraction.length) * 10 ^ fraction.length := by
      rw [← Nat.pow_add, Nat.sub_add_cancel short]
    rw [cutFraction, List.take_of_length_le short, digitsNumber_append, digitsNumber_zeros, List.length_replicate,
      whole, ← Nat.mul_assoc, Nat.mul_div_cancel _ (Nat.pow_pos (by decide)), Nat.add_zero]
  · -- The digits that are cut off are less than one in the last place that is kept.
    have dropped : digitsNumber (fraction.drop 6) < 10 ^ (fraction.drop 6).length :=
      digitsNumber_lt fun c member => digits c (List.mem_of_mem_drop member)
    have long : 10 ^ fraction.length = 10 ^ 6 * 10 ^ (fraction.drop 6).length := by
      rw [← Nat.pow_add, List.length_drop]
      congr 1
      omega
    have parts := digitsNumber_append (fraction.take 6) (fraction.drop 6)
    rw [List.take_append_drop] at parts
    rw [cutFraction, show 6 - fraction.length = 0 by omega, List.replicate_zero, List.append_nil, parts, long,
      Nat.mul_comm, Nat.mul_div_mul_left _ _ (by decide), Nat.add_comm,
      Nat.add_mul_div_right _ _ (Nat.pow_pos (by decide)), Nat.div_eq_of_lt dropped, Nat.zero_add]

/-! What is written anew. -/

/-- Text without a point is left as it is. -/
theorem sixDigits_append (plain : '.' ∉ cs) (rest : List Char) :
    sixDigits none (cs ++ rest) = cs ++ sixDigits none rest := by
  induction cs with
  | nil => rfl
  | cons c cs ih =>
    obtain ⟨noPoint, plain⟩ := List.ne_and_not_mem_of_not_mem_cons plain
    simp [sixDigits, sixDigits.fill, noPoint.symm, ih plain]

theorem sixDigits_eq_self (plain : '.' ∉ cs) : sixDigits none cs = cs := by
  have same := sixDigits_append plain []
  rwa [List.append_nil, sixDigits, sixDigits.fill, List.append_nil] at same

/-- Digits are copied up to the sixth; where they end, zeros are filled in. -/
theorem sixDigits_digits (digits : ∀ c ∈ fraction, c.isDigit = true) (ended : ∀ c ∈ rest.head?, Text.isDigit c = false)
    (plain : '.' ∉ rest) {count : Nat} (few : count ≤ 6) : sixDigits (some count) (fraction ++ rest) =
      fraction.take (6 - count) ++ List.replicate (6 - count - fraction.length) '0' ++ rest := by
  induction fraction generalizing count with
  | nil =>
    cases rest with
    | nil => simp [sixDigits, sixDigits.fill, fractionDigits]
    | cons c rest =>
      obtain ⟨noPoint, plain⟩ := List.ne_and_not_mem_of_not_mem_cons plain
      simp [sixDigits, sixDigits.fill, fractionDigits, ended c rfl, noPoint.symm, sixDigits_eq_self plain]
  | cons c fraction ih =>
    obtain ⟨digit, digits⟩ := List.forall_mem_cons.mp digits
    have known : Text.isDigit c = true := by rw [Text.isDigit, digitValue?_digit digit, Option.isSome_some]
    by_cases room : count < 6
    · have kept : sixDigits (some count) (c :: fraction ++ rest) =
          c :: sixDigits (some (count + 1)) (fraction ++ rest) := by
        simp [sixDigits, known, fractionDigits, room]
      rw [kept, ih digits (by omega), show 6 - count = 6 - (count + 1) + 1 by omega, List.take_succ_cons,
        List.length_cons, Nat.add_sub_add_right]
      rfl
    · obtain rfl : count = 6 := by omega
      have dropped : sixDigits (some 6) (c :: fraction ++ rest) = sixDigits (some 6) (fraction ++ rest) := by
        simp [sixDigits, known, fractionDigits]
      rw [dropped, ih digits (Nat.le_refl 6)]
      simp

/-- A fraction is written with six digits, and nothing else is changed. -/
theorem sixDigits_fraction (plain : '.' ∉ cs) (digits : ∀ c ∈ fraction, c.isDigit = true)
    (ended : ∀ c ∈ rest.head?, Text.isDigit c = false) (plain' : '.' ∉ rest) (some_digit : fraction ≠ []) :
    sixDigits none (cs ++ '.' :: (fraction ++ rest)) = cs ++ '.' :: (cutFraction fraction ++ rest) := by
  have written := sixDigits_digits digits ended plain' (Nat.zero_le 6)
  obtain ⟨c, fraction, rfl⟩ := List.exists_cons_of_ne_nil some_digit
  have known : Text.isDigit c = true := by
    rw [Text.isDigit, digitValue?_digit (digits c List.mem_cons_self), Option.isSome_some]
  rw [sixDigits_append plain, cutFraction, ← written]
  simp [sixDigits, sixDigits.fill, known]

/-- The fraction of a time as it is written anew; a time without one gets none. -/
def sixFraction (fraction : List Char) : List Char := if fraction = [] then [] else cutFraction fraction

theorem length_sixFraction (fraction : List Char) : sixFraction fraction = [] ∨ (sixFraction fraction).length = 6 := by
  unfold sixFraction
  split
  · exact .inl rfl
  · exact .inr (length_cutFraction fraction)

theorem digit_of_mem_sixFraction (digits : ∀ c ∈ fraction, c.isDigit = true) :
    ∀ c ∈ sixFraction fraction, c.isDigit = true := by
  unfold sixFraction
  split
  · exact fun _ member => nomatch member
  · exact digit_of_mem_cutFraction digits

theorem digitsNumber_sixFraction (digits : ∀ c ∈ fraction, c.isDigit = true) :
    digitsNumber (sixFraction fraction) = digitsNumber fraction * 10 ^ 6 / 10 ^ fraction.length := by
  unfold sixFraction
  split
  · rename_i without
    rw [without]
    rfl
  · exact digitsNumber_cutFraction digits

theorem sixDigits_pointed (plain : '.' ∉ cs) (digits : ∀ c ∈ fraction, c.isDigit = true)
    (ended : ∀ c ∈ rest.head?, Text.isDigit c = false) (plain' : '.' ∉ rest) :
    sixDigits none (cs ++ (pointed fraction ++ rest)) = cs ++ (pointed (sixFraction fraction) ++ rest) := by
  by_cases without : fraction = []
  · rw [sixFraction, if_pos without, pointed, if_pos without, sixDigits_append plain]
    exact congrArg (cs ++ ·) (sixDigits_eq_self plain')
  · have written : cutFraction fraction ≠ [] := fun nothing => by
      have six := length_cutFraction fraction
      rw [nothing] at six
      cases six
    rw [sixFraction, if_neg without, pointed, if_neg without, pointed, if_neg written, List.cons_append,
      List.cons_append, sixDigits_fraction plain digits ended plain' without]

theorem spellOutUtc_of_not_mem (absent : 'Z' ∉ cs) : spellOutUtc cs = cs := by
  rw [spellOutUtc, if_neg fun last => absent (List.mem_of_getLast? last)]

theorem spellOutUtc_append (cs : List Char) : spellOutUtc (cs ++ ['Z']) = cs ++ signedChars false 0 0 := by
  rw [spellOutUtc, if_pos List.getLast?_concat, List.dropLast_concat]
  rfl

end Profile
end SharedTables
