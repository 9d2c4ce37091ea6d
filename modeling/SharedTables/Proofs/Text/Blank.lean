import Mathlib.Data.List.DropRight
import Mathlib.Data.List.TakeWhile
import SharedTables.Text.Blank

/-! White space at the ends of a text. Trimming takes it off, and nothing else. -/
namespace SharedTables.Text

/-- What is true of the characters of white space one by one is true of any. -/
theorem forall_blank {P : Char → Prop}
    (all : ∀ range ∈ blankRanges, ∀ k < range.2 + 1 - range.1, P (Char.ofNat (range.1 + k))) {c : Char}
    (blank : isBlank c = true) : P c := by
  obtain ⟨range, member, inside⟩ := List.any_eq_true.mp blank
  obtain ⟨above, below⟩ : range.1 ≤ c.toNat ∧ c.toNat ≤ range.2 := by simpa using inside
  have known := all range member (c.toNat - range.1) (by omega)
  rwa [Nat.add_sub_cancel' above, Char.ofNat_toNat] at known

/-- What trimming leaves, with the white space it takes off. -/
theorem exists_padding (cs : List Char) :
    ∃ before after, cs = before ++ trimChars cs ++ after ∧ (∀ c ∈ before, isBlank c = true) ∧
      ∀ c ∈ after, isBlank c = true := by
  refine ⟨cs.takeWhile isBlank, ((cs.dropWhile isBlank).reverse.takeWhile isBlank).reverse, ?_,
    fun _ member => List.mem_takeWhile_imp member,
    fun _ member => List.mem_takeWhile_imp (List.mem_reverse.mp member)⟩
  rw [trimChars, List.append_assoc, ← List.reverse_append, List.takeWhile_append_dropWhile, List.reverse_reverse,
    List.takeWhile_append_dropWhile]

theorem mem_of_mem_trimChars {c : Char} {cs : List Char} (member : c ∈ trimChars cs) : c ∈ cs := by
  obtain ⟨before, after, whole, -⟩ := exists_padding cs
  rw [whole]
  simp [member]

/-- White space before a text is dropped, and nothing else. -/
theorem dropWhile_blank {before cs : List Char} (front : ∀ c ∈ before, isBlank c = true)
    (solid : ∀ c ∈ cs.head?, isBlank c = false) : (before ++ cs).dropWhile isBlank = cs := by
  rw [List.dropWhile_append_of_pos front]
  cases cs with
  | nil => rfl
  | cons c cs => exact List.dropWhile_cons_of_neg (by simp [solid c rfl])

/-- Text that neither begins nor ends with white space; inside there may be some. -/
structure Bare (cs : List Char) : Prop where
  first : ∀ c ∈ cs.head?, isBlank c = false
  last : ∀ c ∈ cs.getLast?, isBlank c = false

theorem Bare.of_solid {cs : List Char} (solid : ∀ c ∈ cs, isBlank c = false) : Bare cs :=
  ⟨fun c first => solid c (List.mem_of_mem_head? first), fun c last => solid c (List.mem_of_mem_getLast? last)⟩

/-- What trimming leaves of a text that is surrounded by white space. -/
theorem trimChars_surrounded {before cs after : List Char} (front : ∀ c ∈ before, isBlank c = true) (bare : Bare cs)
    (back : ∀ c ∈ after, isBlank c = true) : trimChars (before ++ cs ++ after) = cs := by
  cases cs with
  | nil =>
    have blank : ∀ c ∈ before ++ [] ++ after, isBlank c = true := by simpa using fun c => Or.rec (front c) (back c)
    have nothing : (before ++ [] ++ after ++ []).dropWhile isBlank = [] := dropWhile_blank blank (by simp)
    rw [List.append_nil] at nothing
    rw [trimChars, nothing]
    rfl
  | cons c cs =>
    have first : ∀ d ∈ (c :: cs ++ after).head?, isBlank d = false := by simpa using bare.first
    have last : ∀ d ∈ (c :: cs).reverse.head?, isBlank d = false := by
      rw [List.head?_reverse]
      exact bare.last
    rw [trimChars, List.append_assoc, dropWhile_blank front first, List.reverse_append,
      dropWhile_blank (by simpa using back) last, List.reverse_reverse]

/-- Text without white space is what trimming leaves of it, whatever white
space stands around it. -/
theorem trimChars_padded {before cs after : List Char} (front : ∀ c ∈ before, isBlank c = true)
    (solid : ∀ c ∈ cs, isBlank c = false) (back : ∀ c ∈ after, isBlank c = true) :
    trimChars (before ++ cs ++ after) = cs :=
  trimChars_surrounded front (.of_solid solid) back

theorem Bare.trimChars_eq {cs : List Char} (bare : Bare cs) : trimChars cs = cs := by
  have same : trimChars ([] ++ cs ++ []) = cs := trimChars_surrounded (by simp) bare (by simp)
  rwa [List.nil_append, List.append_nil] at same

/-- Trimming leaves no white space at the ends. -/
theorem bare_trimChars (cs : List Char) : Bare (trimChars cs) := by
  -- What is dropped at the end does not change where the text begins.
  have kept : trimChars cs <+: cs.dropWhile isBlank := List.rdropWhile_prefix isBlank _
  constructor
  · intro c first
    obtain ⟨rest, whole⟩ := kept
    have known := List.head?_dropWhile_not isBlank cs
    rwa [← whole, List.head?_append, Option.mem_def.mp first] at known
  · intro c last
    have known := List.head?_dropWhile_not isBlank (cs.dropWhile isBlank).reverse
    rw [trimChars, List.getLast?_reverse, Option.mem_def] at last
    rwa [last] at known

/-- Trimming leaves something exactly of a text that is not all white space. -/
theorem trimChars_ne_nil_iff {cs : List Char} : trimChars cs ≠ [] ↔ ∃ c ∈ cs, isBlank c = false := by
  constructor
  · intro left
    by_contra blank
    have same : trimChars (cs ++ [] ++ []) = [] :=
      trimChars_surrounded (by simpa using blank) (.of_solid (by simp)) (by simp)
    rw [List.append_nil, List.append_nil] at same
    exact left same
  · rintro ⟨c, member, solid⟩ nothing
    obtain ⟨before, after, whole, front, back⟩ := exists_padding cs
    rw [whole, nothing, List.append_nil, List.mem_append] at member
    rw [member.elim (front c) (back c)] at solid
    cases solid

/-- Text without white space has none at its ends. -/
theorem trim_eq_self {s : String} (solid : ∀ c ∈ s.toList, isBlank c = false) : trim s = s := by
  rw [trim, (Bare.of_solid solid).trimChars_eq, String.ofList_toList]

end SharedTables.Text
