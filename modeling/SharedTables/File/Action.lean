import SharedTables.Credential

/-! The files of a table as a server lists them. -/
namespace SharedTables

/-- The values of partition columns, as text or null. -/
abbrev PartitionValues := OrderedMap String (Option String)

/-- A listed file. -/
structure FileAction where
  id : String
  /-- The link that came with the listing; empty when there is none. -/
  url : String
  size : Option Int
  partitionValues : PartitionValues
  version : Option Int
  timestamp : Option Int
  /-- When the link expires. -/
  expiration : Option Int
  changeType : Option String
  deriving DecidableEq

namespace FileAction

/-- The link that came with a listed file: an address together with its expiration. -/
def link? (a : FileAction) : Option Link :=
  if a.url = "" then none else a.expiration.map fun expiration => ⟨a.url, expiration⟩

end FileAction

/-- The files of a change listing. -/
structure ChangeFiles where
  added : List FileAction
  removed : List FileAction
  /-- Files that hold changed rows. -/
  changed : List FileAction
  deriving DecidableEq

end SharedTables
