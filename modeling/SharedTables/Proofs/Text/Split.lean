import Mathlib.Data.List.Basic
import SharedTables.Text.Split

/-! Text that is split at a mark: at the last one, or at all of them. Either
way the parts, put together with marks between them, are the text. -/
namespace SharedTables.Text

variable {mark : Char} {cs : List Char}

theorem splitLast?_eq_none_iff : splitLast? mark cs = none ↔ mark ∉ cs := by
  induction cs with
  | nil => simp [splitLast?]
  | cons c cs ih =>
    cases later : splitLast? mark cs with
    | some parts =>
      have marked : mark ∈ cs := Decidable.not_not.mp fun absent => by simp [ih.mpr absent] at later
      simp [splitLast?, later, marked]
    | none =>
      by_cases same : c = mark
      · simp [splitLast?, later, same]
      · simp [splitLast?, later, same, ih.mp later, Ne.symm same]

/-- The last mark stands before the part that holds none. -/
theorem splitLast?_append {after : List Char} (absent : mark ∉ after) (before : List Char) :
    splitLast? mark (before ++ mark :: after) = some (before, after) := by
  induction before with
  | nil => simp [splitLast?, splitLast?_eq_none_iff.mpr absent]
  | cons c before ih => simp [splitLast?, ih]

theorem splitLast?_eq_some_iff {before after : List Char} :
    splitLast? mark cs = some (before, after) ↔ cs = before ++ mark :: after ∧ mark ∉ after := by
  constructor
  · intro parted
    induction cs generalizing before with
    | nil => cases parted
    | cons c cs ih =>
      cases later : splitLast? mark cs with
      | some parts =>
        simp only [splitLast?, later, Option.some.injEq, Prod.mk.injEq] at parted
        obtain ⟨rfl, rfl⟩ := parted
        obtain ⟨rfl, absent⟩ := ih later
        exact ⟨rfl, absent⟩
      | none =>
        simp only [splitLast?, later, Option.ite_none_right_eq_some, Option.some.injEq, Prod.mk.injEq] at parted
        obtain ⟨rfl, rfl, rfl⟩ := parted
        exact ⟨rfl, splitLast?_eq_none_iff.mp later⟩
  · rintro ⟨rfl, absent⟩
    exact splitLast?_append absent before

/-- Text is split at a mark like any other list. -/
theorem splitAll_eq_splitOn (mark : Char) (cs : List Char) : splitAll mark cs = cs.splitOn mark := by
  induction cs with
  | nil => rfl
  | cons c cs ih =>
    obtain ⟨first, others, parts⟩ := List.exists_cons_of_ne_nil (List.splitOn_ne_nil mark cs)
    rw [List.splitOn_cons_eq_if_modifyHead, splitAll, ih, parts]
    simp only [beq_iff_eq, List.modifyHead_cons]

theorem mark_not_mem_splitAll : ∀ piece ∈ splitAll mark cs, mark ∉ piece := by
  induction cs with
  | nil => simp [splitAll]
  | cons c cs ih =>
    obtain ⟨first, others, parts⟩ :=
      List.exists_cons_of_ne_nil (splitAll_eq_splitOn mark cs ▸ List.splitOn_ne_nil mark cs)
    rw [parts] at ih
    rw [splitAll, parts]
    split
    · simpa using ih
    · rename_i other
      obtain ⟨clear, rest⟩ := List.forall_mem_cons.mp ih
      exact List.forall_mem_cons.mpr ⟨by simp [clear, Ne.symm other], rest⟩

/-- The pieces of a text are those without a mark of which it is made, with
marks between them. -/
theorem splitAll_eq_iff {pieces : List (List Char)} : splitAll mark cs = pieces ↔
    pieces ≠ [] ∧ (∀ piece ∈ pieces, mark ∉ piece) ∧ cs = [mark].intercalate pieces := by
  constructor
  · rintro rfl
    refine ⟨splitAll_eq_splitOn mark cs ▸ List.splitOn_ne_nil mark cs, mark_not_mem_splitAll, ?_⟩
    rw [splitAll_eq_splitOn, List.intercalate_splitOn]
  · rintro ⟨some_piece, clear, rfl⟩
    rw [splitAll_eq_splitOn, List.splitOn_intercalate mark clear some_piece]

end SharedTables.Text
