import SharedTables.Text.Sorted

/-! Sets of texts: a list of different texts in order is determined by what
is in it. -/
namespace SharedTables.Text

theorem sorted_pairwise (xs : List String) : (sorted xs).Pairwise (· ≤ ·) := by
  let le (a b : String) : Bool := decide (a ≤ b)
  have trans (a b c : String) (before : le a b) (after : le b c) : le a c :=
    decide_eq_true (String.le_trans (of_decide_eq_true before) (of_decide_eq_true after))
  have total (a b : String) : le a b || le b a := by simpa [le] using String.le_total a b
  have ordered : (xs.mergeSort le).Pairwise fun a b => le a b := List.pairwise_mergeSort trans total xs
  exact ordered.imp fun le => of_decide_eq_true le

/-- Only what is in a list and how often counts for its order. -/
theorem sorted_congr {xs ys : List String} (same : xs.Perm ys) : sorted xs = sorted ys :=
  List.Perm.eq_of_pairwise (fun _ _ _ _ => String.le_antisymm) (sorted_pairwise _)
    (sorted_pairwise _) ((sorted_perm xs).trans (same.trans (sorted_perm ys).symm))

theorem sorted_append_comm (xs ys : List String) : sorted (xs ++ ys) = sorted (ys ++ xs) :=
  sorted_congr List.perm_append_comm

@[simp] theorem sorted_sorted_append (xs ys : List String) :
    sorted (sorted xs ++ ys) = sorted (xs ++ ys) :=
  sorted_congr ((sorted_perm xs).append_right ys)

@[simp] theorem sorted_append_sorted (xs ys : List String) :
    sorted (xs ++ sorted ys) = sorted (xs ++ ys) :=
  sorted_congr ((sorted_perm ys).append_left xs)

@[simp] theorem sorted_singleton (s : String) : sorted [s] = [s] := List.mergeSort_singleton s

theorem eraseDups_nodup (xs : List String) : xs.eraseDups.Nodup := by
  match xs with
  | [] => simp
  | x :: rest =>
    rw [List.eraseDups_cons, List.nodup_cons]
    exact ⟨by simp [List.mem_eraseDups], eraseDups_nodup (rest.filter _)⟩
termination_by xs.length
decreasing_by exact Nat.lt_succ_of_le (List.length_filter_le ..)

/-- Only what is in a list counts, in whichever order and however often. -/
theorem distinctSorted_congr {xs ys : List String} (same : ∀ s, s ∈ xs ↔ s ∈ ys) :
    distinctSorted xs = distinctSorted ys := by
  refine sorted_congr ((List.perm_ext_iff_of_nodup (eraseDups_nodup xs) (eraseDups_nodup ys)).mpr fun s => ?_)
  rw [List.mem_eraseDups, List.mem_eraseDups, same]

/-- Texts may be put in order before others are added or after. -/
theorem distinctSorted_append (xs ys : List String) :
    distinctSorted (distinctSorted xs ++ ys) = distinctSorted (xs ++ ys) :=
  distinctSorted_congr fun s => by simp

end SharedTables.Text
