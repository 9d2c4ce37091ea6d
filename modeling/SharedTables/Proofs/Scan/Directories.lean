import Mathlib.Data.List.Induction
import Mathlib.Data.List.Nodup
import SharedTables.Proofs.Data.OrderedMap
import SharedTables.Proofs.Text.Codes
import SharedTables.Scan.Resolved

/-! Directories of a scan. They split the files without loss or repetition, also
when ids repeat: each directory has the files that agree in their derived
values, in the order of the listing. -/
namespace SharedTables

/-- The derived values of a file: of a group of changes, or of one version of a table. -/
def derivedValues : Option ChangeKind → FileReference → PartitionValues
  | none => snapshotValues
  | some kind => changeValues kind

/-- Whether two files agree in everything that the columns of a scan are derived
from. The order of partition values does not count, and a missing value is no text. -/
def FileReference.SameValues (f g : FileReference) : Option ChangeKind → Prop
  | none => ∀ column, f.partitionValues.get? column = g.partitionValues.get? column
  | some kind => f.commitVersion = g.commitVersion ∧ f.commitTimestamp = g.commitTimestamp ∧
    (kind.derivesType = true → f.changeType = g.changeType)

private theorem changeValues_entries (kind : ChangeKind) (f : FileReference) : (changeValues kind f).entries =
    [(ChangeKind.versionColumn, some (toString f.commitVersion)),
      (ChangeKind.timestampColumn, f.commitTimestamp.map toString)] ++
      (if kind.derivesType then [(ChangeKind.typeColumn, f.changeType)] else []) := by
  cases kind <;> rfl

/-- Files have the same derived values exactly if they agree. -/
theorem derivedValues_eq_iff {kind : Option ChangeKind} {f g : FileReference} :
    derivedValues kind f = derivedValues kind g ↔ f.SameValues g kind := by
  cases kind with
  | none => exact OrderedMap.sortByKey_eq_iff
  | some kind =>
    have texts : Function.Injective (toString : Int → String) := fun _ _ => Text.int_text_injective
    have versions := texts.eq_iff (a := f.commitVersion) (b := g.commitVersion)
    have timestamps := (Option.map_injective texts).eq_iff (a := f.commitTimestamp) (b := g.commitTimestamp)
    rw [derivedValues, ← OrderedMap.entries_inj, changeValues_entries, changeValues_entries]
    cases kind <;>
      simp only [FileReference.SameValues, ChangeKind.derivesType, ↓reduceIte, List.cons_append, List.nil_append,
        List.cons.injEq, Prod.mk.injEq, Option.some.injEq, true_and, and_true, versions, timestamps,
        Bool.false_eq_true, false_implies, forall_const]

namespace PartitionDirectory

/-- Whether directories are a split of files. -/
structure Split (kind : Option ChangeKind) (files : List FileReference) (directories : List PartitionDirectory) :
    Prop where
  /-- Each file is in one directory, as often as it was listed. -/
  whole : (directories.flatMap (·.files)).Perm files
  /-- The files of a directory keep their order. -/
  ordered : ∀ d ∈ directories, d.files ≠ [] ∧ d.files.Sublist files
  /-- Files share a directory exactly if they agree. -/
  shared : ∀ d ∈ directories, ∀ f ∈ d.files, ∀ g ∈ files, g ∈ d.files ↔ f.SameValues g kind
  named : ∀ d ∈ directories, ∀ f ∈ d.files, d.values = derivedValues kind f
  /-- Of two directories the first has a file before all files of the second. -/
  firstCome : directories.Pairwise fun d d' => ∃ n, (∃ f ∈ files.take n, f ∈ d.files) ∧ ∀ f ∈ files.take n, f ∉ d'.files

/-- Values without repeats come in the order in which they occur first. -/
theorem eraseDups_firstCome [BEq α] [LawfulBEq α] (xs : List α) :
    xs.eraseDups.Pairwise fun x y => ∃ n, x ∈ xs.take n ∧ y ∉ xs.take n := by
  induction xs using List.reverseRecOn with
  | nil => simp
  | append_singleton xs last ih =>
    rw [List.eraseDups_append, List.pairwise_append]
    have alone : ([last].removeAll xs).eraseDups.Pairwise fun x y =>
        ∃ n, x ∈ (xs ++ [last]).take n ∧ y ∉ (xs ++ [last]).take n := by
      by_cases old : last ∈ xs <;> simp [List.removeAll, List.eraseDups_cons, old]
    refine ⟨ih.imp ?_, alone, fun x before y after => ⟨xs.length, ?_⟩⟩
    · rintro x y ⟨n, found, absent⟩
      refine ⟨min n xs.length, ?_⟩
      rw [List.take_append_of_le_length (Nat.min_le_right _ _), ← List.take_eq_take_min]
      exact ⟨found, absent⟩
    · rw [List.take_left]
      rw [List.mem_eraseDups] at before after
      obtain ⟨-, new⟩ : y ∈ [last] ∧ y ∉ xs := by simpa [List.removeAll] using after
      exact ⟨before, new⟩

private theorem flatMap_filter_perm [DecidableEq β] {v : α → β} {xs : List α} {us : List β} (distinct : us.Nodup)
    (all : ∀ x ∈ xs, v x ∈ us) : (us.flatMap fun u => xs.filter fun x => decide (v x = u)).Perm xs := by
  induction xs with
  | nil => simp
  | cons x xs ih =>
    obtain ⟨first, others⟩ := List.forall_mem_cons.mp all
    have rest := ih others
    obtain ⟨before, after, rfl⟩ := List.append_of_mem first
    have apart (part : List β) (absent : v x ∉ part) :
        (part.flatMap fun u => (x :: xs).filter fun x => decide (v x = u)) =
          part.flatMap fun u => xs.filter fun x => decide (v x = u) := by
      refine List.flatMap_congr fun u member => ?_
      have differ : v x ≠ u := fun same => absent (same ▸ member)
      simp [differ]
    obtain ⟨unbefore, unafter⟩ : v x ∉ before ∧ v x ∉ after := by
      have parts := List.nodup_append.mp distinct
      grind
    simp only [List.flatMap_append, List.flatMap_cons] at rest ⊢
    rw [apart before unbefore, apart after unafter, List.filter_cons_of_pos (by simp), List.cons_append]
    exact List.perm_middle.trans (rest.cons x)

/-- Directories by derived values split the files of a listing. -/
theorem group_split (kind : Option ChangeKind) (files : List FileReference) :
    Split kind files (group (derivedValues kind) files) where
  whole := by
    rw [group, List.flatMap_map]
    refine flatMap_filter_perm ((eraseDups_firstCome _).imp ?_) fun file listed => ?_
    · rintro u w ⟨n, found, absent⟩ rfl
      exact absent found
    · exact List.mem_eraseDups.mpr (List.mem_map_of_mem listed)
  ordered d member := by
    obtain ⟨values, occurs, rfl⟩ := List.mem_map.mp member
    obtain ⟨file, listed, rfl⟩ := List.mem_map.mp (List.mem_eraseDups.mp occurs)
    refine ⟨List.ne_nil_of_mem (a := file) (by simp [listed]), List.filter_sublist⟩
  shared d member f inside g listed := by
    obtain ⟨values, occurs, rfl⟩ := List.mem_map.mp member
    obtain ⟨-, rfl⟩ : f ∈ files ∧ derivedValues kind f = values := by simpa using inside
    simp [listed, ← derivedValues_eq_iff, eq_comm]
  named d member f inside := by
    obtain ⟨values, occurs, rfl⟩ := List.mem_map.mp member
    obtain ⟨-, rfl⟩ : f ∈ files ∧ derivedValues kind f = values := by simpa using inside
    rfl
  firstCome := by
    refine List.pairwise_map.mpr ((eraseDups_firstCome _).imp ?_)
    rintro u w ⟨n, found, absent⟩
    rw [← List.map_take] at found absent
    obtain ⟨f, front, rfl⟩ := List.mem_map.mp found
    refine ⟨n, ⟨f, front, ?_⟩, fun g front' inside => absent ?_⟩
    · simp [List.mem_of_mem_take front]
    · obtain ⟨-, rfl⟩ : g ∈ files ∧ derivedValues kind g = w := by simpa using inside
      exact List.mem_map_of_mem front'

end PartitionDirectory

end SharedTables
