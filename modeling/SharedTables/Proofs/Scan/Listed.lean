import SharedTables.Proofs.Scan.Directories

/-! Scans as a whole. A scan is made of what has been listed for it: each file has
one reference, in the order of the listing, and changes stay in their groups. -/
namespace SharedTables

/-- What has been listed for a scan: files of one version, or changes, each in its group. -/
inductive Listed
  | files (actions : List FileAction)
  | changes (entries : List (ChangeKind × FileAction))

/-- The listed files without their groups. -/
def Listed.actions : Listed → List FileAction
  | .files actions => actions
  | .changes entries => entries.map (·.2)

/-- The first of some items, as many as a limit allows. -/
def firstOf (limit : Option Int) (items : List α) : List α :=
  match limit with
  | some limit => items.take limit.toNat
  | none => items

theorem filesWithin_eq (actions : List FileAction) (limit : Option Int) :
    filesWithin actions limit = firstOf limit actions := by
  cases limit <;> rfl

theorem firstOf_sublist (limit : Option Int) (items : List α) : (firstOf limit items).Sublist items := by
  cases limit with
  | none => exact List.Sublist.refl _
  | some limit => exact List.take_sublist _ _

namespace ChangeFiles

/-- All changes: those of the added files, then of the removed ones, then the changed rows. -/
def inOrder (changes : ChangeFiles) : List (ChangeKind × FileAction) :=
  changes.added.map (.add, ·) ++ changes.removed.map (.remove, ·) ++ changes.changed.map (.cdc, ·)

/-- The files of groups, each with the name of its group. -/
def entriesOf (groups : List (ChangeKind × List FileAction)) : List (ChangeKind × FileAction) :=
  groups.flatMap fun group => group.2.map (group.1, ·)

/-- Cutting groups to a room cuts their files to it. -/
theorem entriesOf_cutGroups (room : Nat) (groups : List (ChangeKind × List FileAction)) :
    entriesOf (cutGroups room groups) = (entriesOf groups).take room := by
  induction groups generalizing room with
  | nil => simp [entriesOf, cutGroups]
  | cons group rest ih =>
    obtain ⟨kind, actions⟩ := group
    have later := ih (room - actions.length)
    simp only [entriesOf, cutGroups, List.flatMap_cons] at later ⊢
    rw [later, List.take_append, List.length_map, List.map_take]

/-- A limit that ends inside a group leaves later groups empty. -/
theorem entriesOf_within (changes : ChangeFiles) (limit : Option Int) :
    entriesOf (changes.within limit) = firstOf limit changes.inOrder := by
  have whole : entriesOf changes.groups = changes.inOrder := by simp [entriesOf, groups, inOrder]
  cases limit with
  | none => exact whole
  | some limit => exact (entriesOf_cutGroups ..).trans (congrArg _ whole)

theorem actions_entriesOf (groups : List (ChangeKind × List FileAction)) :
    (Listed.changes (entriesOf groups)).actions = groups.flatMap (·.2) := by
  simp [Listed.actions, entriesOf, List.map_flatMap, Function.comp_def]

/-- A limit adds no files to those of a change listing. -/
theorem actions_within_sublist (changes : ChangeFiles) (limit : Option Int) :
    ((changes.within limit).flatMap (·.2)).Sublist (changes.groups.flatMap (·.2)) := by
  have whole : entriesOf changes.groups = changes.inOrder := entriesOf_within changes none
  rw [← actions_entriesOf, ← actions_entriesOf, entriesOf_within, whole]
  exact (firstOf_sublist limit _).map _

theorem kinds_within (changes : ChangeFiles) (limit : Option Int) :
    (changes.within limit).map (·.1) = ChangeKind.all := by
  cases limit <;> rfl

/-- The files of a group are found again by its name, if no other has that name. -/
theorem filter_entriesOf {groups : List (ChangeKind × List FileAction)} (distinct : (groups.map (·.1)).Nodup)
    (member : group ∈ groups) :
    (entriesOf groups).filter (·.1 = group.1) = group.2.map (group.1, ·) := by
  induction groups with
  | nil => cases member
  | cons first rest ih =>
    obtain ⟨absent, distinct⟩ := List.nodup_cons.mp distinct
    have others (group : ChangeKind × List FileAction) (kind : ChangeKind) (differ : group.1 ≠ kind) :
        (group.2.map (group.1, ·)).filter (·.1 = kind) = [] := by simp [differ]
    have same (group : ChangeKind × List FileAction) :
        (group.2.map (group.1, ·)).filter (·.1 = group.1) = group.2.map (group.1, ·) := by simp
    simp only [entriesOf, List.flatMap_cons, List.filter_append] at ih ⊢
    obtain rfl | member := List.mem_cons.mp member
    · have none : (rest.flatMap fun group => group.2.map (group.1, ·)).filter (·.1 = group.1) = [] := by
        simp only [List.filter_flatMap, List.flatMap_eq_nil_iff]
        intro other member
        exact others other group.1 fun same => absent (List.mem_map.mpr ⟨other, member, same⟩)
      rw [same, none, List.append_nil]
    · have differ : first.1 ≠ group.1 := fun same => absent (List.mem_map.mpr ⟨group, member, same.symm⟩)
      rw [others first group.1 differ, ih distinct member, List.nil_append]

end ChangeFiles

namespace ResolvedScan

variable {place : ScanPlace}

/-- Whether a scan has the references of the listed files of one version. -/
structure HoldsFiles (scan : ResolvedScan) (place : ScanPlace) (actions : List FileAction) : Prop where
  files : scan.files = actions.map place.snapshotReference
  directories : PartitionDirectory.Split none scan.files scan.directories
  ungrouped : scan.changeGroups = []

/-- Whether a scan has the references of the listed changes, each in its group. -/
structure HoldsChanges (scan : ResolvedScan) (place : ScanPlace) (entries : List (ChangeKind × FileAction)) :
    Prop where
  files : scan.files = entries.map fun entry => place.changeReference entry.1 entry.2
  directories : scan.directories = scan.changeGroups.flatMap (·.2)
  kinds : scan.changeGroups.map (·.1) = ChangeKind.all
  groups : ∀ group ∈ scan.changeGroups, PartitionDirectory.Split (some group.1)
    ((entries.filter (·.1 = group.1)).map fun entry => place.changeReference entry.1 entry.2) group.2

/-- Whether a scan is made of the listed files, of each once, and of no others. -/
structure Holds (scan : ResolvedScan) (place : ScanPlace) (listed : Listed) : Prop where
  key : scan.tableKey = place.tableKey
  whole : match listed with
    | .files actions => scan.HoldsFiles place actions
    | .changes entries => scan.HoldsChanges place entries

theorem ofListing_holds (place : ScanPlace) (actions : List FileAction) :
    (ofListing place actions).Holds place (.files actions) where
  key := rfl
  whole := ⟨rfl, PartitionDirectory.group_split none _, rfl⟩

theorem ofChanges_holds (place : ScanPlace) {groups : List (ChangeKind × List FileAction)}
    (kinds : groups.map (·.1) = ChangeKind.all) :
    (ofChanges place groups).Holds place (.changes (ChangeFiles.entriesOf groups)) where
  key := rfl
  whole := by
    have references (group : ChangeKind × List FileAction) : changeFiles place group =
        (group.2.map (group.1, ·)).map fun entry => place.changeReference entry.1 entry.2 := by
      simp [changeFiles]
    refine ⟨?_, ?_, ?_, ?_⟩
    · rw [ChangeFiles.entriesOf, List.map_flatMap]
      exact List.flatMap_congr fun group _ => references group
    · simp only [ofChanges, List.flatMap_map]
    · simp only [ofChanges, List.map_map, ← kinds, Function.comp_def]
    · intro directories member
      obtain ⟨group, grouped, rfl⟩ := List.mem_map.mp member
      have distinct : (groups.map (·.1)).Nodup := kinds ▸ by decide
      rw [ChangeFiles.filter_entriesOf distinct grouped, ← references]
      exact PartitionDirectory.group_split (some group.1) _

/-- The files of a scan have the listed ids. -/
theorem Holds.fileIds {scan : ResolvedScan} {listed : Listed} (holds : scan.Holds place listed) :
    scan.files.map (·.fileId) = listed.actions.map (·.id) := by
  obtain ⟨-, whole⟩ := holds
  cases listed with
  | files actions =>
    simp only [whole.files, Listed.actions, List.map_map]
    rfl
  | changes entries =>
    simp only [whole.files, Listed.actions, List.map_map]
    rfl

end ResolvedScan
end SharedTables
