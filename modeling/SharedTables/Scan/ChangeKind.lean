import SharedTables.Schema.Basic

/-! The three groups of files in which the changes of a table are listed. -/
namespace SharedTables

/-- A group of change files. -/
inductive ChangeKind
  | add
  | remove
  /-- Files that hold the changed rows themselves. -/
  | cdc
  deriving DecidableEq, Repr

namespace ChangeKind

/-- The groups in the order of a listing. -/
def all : List ChangeKind := [.add, .remove, .cdc]

/-- The name of a group. -/
def name : ChangeKind → String
  | .add => "add"
  | .remove => "remove"
  | .cdc => "cdc"

/-- The group of a name. -/
def ofName? (s : String) : Option ChangeKind := all.find? (·.name = s)

/-- The words for a name that belongs to no group. -/
def unknownMessage (s : String) : String := "Unknown change file group: " ++ s

/-- The columns derived from the place of a change. -/
def versionColumn : String := "_commit_version"

@[inherit_doc versionColumn]
def timestampColumn : String := "_commit_timestamp"

@[inherit_doc versionColumn]
def typeColumn : String := "_change_type"

/-- Whether the type of change is derived from the group; changed rows carry it themselves. -/
def derivesType : ChangeKind → Bool
  | .cdc => false
  | _ => true

/-- `cdf_partition_schema`: the derived columns of a group. -/
def partitionSchema (kind : ChangeKind) : Schema :=
  [⟨versionColumn, .plain .int64, true⟩, ⟨timestampColumn, .plain .int64, true⟩] ++
    (if kind.derivesType then [⟨typeColumn, .plain .string, true⟩] else [])

/-- `change_type_for`: the type of change of a file in a group; an empty one counts as none. -/
def changeType (kind : ChangeKind) (listed : Option String) : Option String :=
  let listed := listed.filter (· ≠ "")
  match kind with
  | .add => some (listed.getD "insert")
  | .remove => some (listed.getD "delete")
  | .cdc => none

end ChangeKind
end SharedTables
