/-! Sets of texts in the order of their code points. -/
namespace SharedTables.Text

/-- Texts in the order of their code points. -/
def sorted (xs : List String) : List String := xs.mergeSort fun a b => decide (a ≤ b)

/-- The different texts of a list, in the order of their code points. -/
def distinctSorted (xs : List String) : List String := sorted xs.eraseDups

theorem sorted_perm (xs : List String) : (sorted xs).Perm xs := List.mergeSort_perm ..

@[simp] theorem mem_sorted {s : String} {xs : List String} : s ∈ sorted xs ↔ s ∈ xs :=
  (sorted_perm xs).mem_iff

@[simp] theorem mem_distinctSorted {s : String} {xs : List String} :
    s ∈ distinctSorted xs ↔ s ∈ xs := by
  simp [distinctSorted, List.mem_eraseDups]

end SharedTables.Text
