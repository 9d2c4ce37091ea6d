import SharedTables.Predicate.Canonical

/-! Texts from which what they stand for can be read back. Numbers have
different texts, which hold no colon, so a text preceded by its length can be
told apart from whatever follows it. -/
namespace SharedTables

/-- Whatever follows a text of this family, it is clear where the text ends
and what it is the text of. -/
def SelfDelimiting (text : α → String) : Prop :=
  ∀ (a b : α) (rest rest' : List Char),
    (text a).toList ++ rest = (text b).toList ++ rest' → a = b ∧ rest = rest'

theorem SelfDelimiting.injective {text : α → String} (delimited : SelfDelimiting text)
    (same : text a = text b) : a = b :=
  (delimited a b [] [] (by rw [same])).1

namespace Text

/-- Lists that are followed by a mark which neither of them holds. -/
theorem marked_inj {mark : α} {xs ys : List α} (absent : mark ∉ xs) (absent' : mark ∉ ys)
    (same : xs ++ mark :: rest = ys ++ mark :: rest') : xs = ys ∧ rest = rest' := by
  induction xs generalizing ys with
  | nil =>
    cases ys with
    | nil => exact ⟨rfl, (List.cons.inj same).2⟩
    | cons y ys => exact absurd ((List.cons.inj same).1 ▸ List.mem_cons_self) absent'
  | cons x xs ih =>
    cases ys with
    | nil => exact absurd ((List.cons.inj same).1 ▸ List.mem_cons_self) absent
    | cons y ys =>
      obtain ⟨rfl, tails⟩ := List.cons.inj same
      obtain ⟨rfl, rests⟩ :=
        ih (mt (List.mem_cons_of_mem x) absent) (mt (List.mem_cons_of_mem x) absent') tails
      exact ⟨rfl, rests⟩

theorem nat_text_digits {n : Nat} {c : Char} (member : c ∈ (toString n).toList) :
    c.isDigit = true := by
  rw [Nat.toString_eq_repr, Nat.toList_repr] at member
  exact Nat.isDigit_of_mem_toDigits (by decide) (by decide) member

theorem nat_text_injective {m n : Nat} (same : toString m = toString n) : m = n := by
  have digits : Nat.toDigits 10 m = Nat.toDigits 10 n := by
    simpa only [Nat.toString_eq_repr, Nat.toList_repr] using congrArg String.toList same
  rw [← Nat.ofDigitChars_ten_toDigits (n := m), digits, Nat.ofDigitChars_ten_toDigits]

/-- The text of an integer holds digits, after a minus if it is negative. -/
theorem int_text (n : Int) :
    (∃ m : Nat, n = m ∧ (toString n).toList = (toString m).toList) ∨
      ∃ m : Nat, n = -(m : Int) ∧ (toString n).toList = '-' :: (toString m).toList := by
  cases n with
  | ofNat m => exact Or.inl ⟨m, rfl, rfl⟩
  | negSucc m =>
    refine Or.inr ⟨m + 1, rfl, ?_⟩
    show ("-" ++ (m + 1).repr).toList = _
    rw [String.toList_append]
    rfl

theorem int_text_chars {n : Int} {c : Char} (member : c ∈ (toString n).toList) :
    c.isDigit = true ∨ c = '-' := by
  obtain ⟨m, -, text⟩ | ⟨m, -, text⟩ := int_text n <;> rw [text] at member
  · exact Or.inl (nat_text_digits member)
  · obtain sign | digit := List.mem_cons.mp member
    · exact Or.inr sign
    · exact Or.inl (nat_text_digits digit)

theorem int_text_injective {m n : Int} (same : toString m = toString n) : m = n := by
  have lists := congrArg String.toList same
  obtain ⟨i, rfl, text⟩ | ⟨i, rfl, text⟩ := int_text m <;>
    obtain ⟨j, rfl, text'⟩ | ⟨j, rfl, text'⟩ := int_text n <;> rw [text, text'] at lists
  · rw [nat_text_injective (String.toList_inj.mp lists)]
  · exact absurd (nat_text_digits (lists ▸ List.mem_cons_self)) (by decide)
  · exact absurd (nat_text_digits (lists ▸ List.mem_cons_self)) (by decide)
  · rw [nat_text_injective (String.toList_inj.mp (List.cons.inj lists).2)]

end Text

/-- The digits of a length end at the first colon. -/
theorem atom_selfDelimiting : SelfDelimiting atom := by
  intro s t rest rest' same
  have noColon (n : Nat) : ':' ∉ (toString n).toList := fun member =>
    absurd (Text.nat_text_digits member) (by decide)
  have split : (toString s.length).toList ++ ':' :: (s.toList ++ rest) =
      (toString t.length).toList ++ ':' :: (t.toList ++ rest') := by
    simpa [atom] using same
  obtain ⟨lengths, bodies⟩ := Text.marked_inj (noColon _) (noColon _) split
  have sameLength : s.toList.length = t.toList.length :=
    Text.nat_text_injective (String.toList_inj.mp lengths)
  obtain ⟨texts, rests⟩ := List.append_inj bodies sameLength
  exact ⟨String.toList_inj.mp texts, rests⟩

end SharedTables
