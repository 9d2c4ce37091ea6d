import SharedTables.File.Action
import SharedTables.File.Path

/-! References to remote files, and directories that hold the files with the same partition
values. -/
namespace SharedTables

/-- `FileReference`: a remote file as an engine sees it. -/
structure FileReference where
  tableLocation : String
  fingerprint : String
  fileId : String
  size : Int
  /-- The partition values as they were listed. -/
  partitionValues : PartitionValues
  commitVersion : Int
  commitTimestamp : Option Int
  changeType : Option String
  scheme : String
  deriving DecidableEq

namespace FileReference

/-- The key under which the links of the scan are kept. -/
def tableKey (file : FileReference) : String :=
  locationWithFingerprint file.tableLocation file.fingerprint

/-- `FileReference.path`: the path of the file; it names the batch of links that the file belongs
to. -/
def path (file : FileReference) : Except PathError String :=
  FilePath.encode file.scheme ⟨file.tableKey, file.fileId, file.commitVersion⟩

end FileReference

/-- Files with the same derived partition values. -/
structure PartitionDirectory where
  values : PartitionValues
  files : List FileReference
  deriving DecidableEq

namespace PartitionDirectory

/-- `ScanResolver._group`: puts files into directories by their derived values. Directories come in
the order in which their first files do, and files keep their order. -/
def group (valuesOf : FileReference → PartitionValues) (files : List FileReference) :
    List PartitionDirectory :=
  (files.map valuesOf).eraseDups.map fun values =>
    ⟨values, files.filter fun file => decide (valuesOf file = values)⟩

end PartitionDirectory
end SharedTables
