import SharedTables.File.Reference
import SharedTables.Scan.ChangeKind

/-! Scans that have been resolved into references to files. -/
namespace SharedTables

/-- What references of one scan have in common. -/
structure ScanPlace where
  tableLocation : String
  fingerprint : String
  scheme : String
  deriving DecidableEq, Repr

/-- `ResolvedScan`: a scan resolved into files. -/
structure ResolvedScan where
  /-- Every file in the order of the listing. -/
  files : List FileReference
  fingerprint : String
  tableKey : String
  directories : List PartitionDirectory
  /-- The predicates that were sent with the listing request. -/
  hints : Option String
  partitionSchema : Option Schema
  /-- The directories of each group of changes. -/
  changeGroups : List (ChangeKind × List PartitionDirectory)

namespace ScanPlace

/-- The key under which the links of the scan are kept. -/
def tableKey (place : ScanPlace) : String :=
  locationWithFingerprint place.tableLocation place.fingerprint

/-- `ScanResolver._reference`: the reference to a listed file with a type of change. -/
def reference (place : ScanPlace) (changeType : Option String) (action : FileAction) :
    FileReference :=
  { tableLocation := place.tableLocation
    fingerprint := place.fingerprint
    fileId := action.id
    size := action.size.getD 0
    partitionValues := action.partitionValues
    commitVersion := action.version.getD 0
    commitTimestamp := action.timestamp
    changeType
    scheme := place.scheme }

/-- The reference to a file of one version of a table. -/
def snapshotReference (place : ScanPlace) (action : FileAction) : FileReference :=
  place.reference action.changeType action

/-- The reference to a file of a group of changes. -/
def changeReference (place : ScanPlace) (kind : ChangeKind) (action : FileAction) :
    FileReference :=
  place.reference (kind.changeType action.changeType) action

end ScanPlace

/-- `ScanResolver._partition_key`: the derived values of a file of one version, which are the
listed ones in the order of their names. -/
def snapshotValues (file : FileReference) : PartitionValues := file.partitionValues.sortByKey

/-- `ScanResolver._partition_key`: the derived values of a file of a group of changes. -/
def changeValues (kind : ChangeKind) (file : FileReference) : PartitionValues :=
  .ofList ([(ChangeKind.versionColumn, some (toString file.commitVersion)),
      (ChangeKind.timestampColumn, file.commitTimestamp.map toString)] ++
    (if kind.derivesType then [(ChangeKind.typeColumn, file.changeType)] else []))

namespace ChangeFiles

/-- The groups of a change listing, in order. -/
def groups (changes : ChangeFiles) : List (ChangeKind × List FileAction) :=
  [(.add, changes.added), (.remove, changes.removed), (.cdc, changes.changed)]

/-- The first files of a sequence of groups. -/
def cutGroups : Nat → List (ChangeKind × List FileAction) → List (ChangeKind × List FileAction)
  | _, [] => []
  | room, (kind, actions) :: rest =>
    (kind, actions.take room) :: cutGroups (room - actions.length) rest

/-- The groups, cut to a limit if there is one. -/
def within (changes : ChangeFiles) : Option Int → List (ChangeKind × List FileAction)
  | some limit => cutGroups limit.toNat changes.groups
  | none => changes.groups

end ChangeFiles

/-- A listing, cut to a limit if there is one. -/
def filesWithin (actions : List FileAction) : Option Int → List FileAction
  | some limit => actions.take limit.toNat
  | none => actions

namespace ResolvedScan

/-- The scan of one version of a table with the listed files. -/
def ofListing (place : ScanPlace) (actions : List FileAction) : ResolvedScan :=
  let files := actions.map place.snapshotReference
  { files
    fingerprint := place.fingerprint
    tableKey := place.tableKey
    directories := PartitionDirectory.group snapshotValues files
    hints := none
    partitionSchema := none
    changeGroups := [] }

/-- The references of a group of changes. -/
def changeFiles (place : ScanPlace) (group : ChangeKind × List FileAction) : List FileReference :=
  group.2.map (place.changeReference group.1)

/-- The directories of a group of changes. -/
def changeDirectories (place : ScanPlace) (group : ChangeKind × List FileAction) :
    List PartitionDirectory :=
  PartitionDirectory.group (changeValues group.1) (changeFiles place group)

/-- The scan of changes with the listed groups. -/
def ofChanges (place : ScanPlace) (groups : List (ChangeKind × List FileAction)) : ResolvedScan :=
  { files := groups.flatMap (changeFiles place)
    fingerprint := place.fingerprint
    tableKey := place.tableKey
    directories := groups.flatMap (changeDirectories place)
    hints := none
    partitionSchema := none
    changeGroups := groups.map fun group => (group.1, changeDirectories place group) }

/-- `ResolvedScan.paths`: the paths of all files. -/
def paths (scan : ResolvedScan) : Except PathError (List String) :=
  scan.files.mapM FileReference.path

end ResolvedScan
end SharedTables
