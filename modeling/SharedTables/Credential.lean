import SharedTables.Data.OrderedMap
import SharedTables.Table.Reference
import SharedTables.Time.Seconds

/-! Signed links to files, the services that sign them, and the ways in which a link can fail to be
had. -/
namespace SharedTables

/-- A link to a file and the millisecond since 1970 at which it expires. -/
structure Link where
  url : String
  expiration : Int
  deriving DecidableEq, Repr, Inhabited

/-- Links by file id. -/
abbrev Links := OrderedMap String Link

/-- A service that signs links. It is only passed on; whoever runs an operation calls it. -/
structure Issuer where
  name : String
  deriving DecidableEq, Repr

/-- The kinds of failure to obtain a link. -/
inductive CredentialErrorKind
  | unavailable
  /-- Another caller's refresh did not finish in time. -/
  | refreshTimeout
  /-- No batch is registered for a table. -/
  | unknownKey
  deriving DecidableEq, Repr

/-- Why a link was not obtained. -/
inductive CredentialError
  | unknownBatch (tableKey : String)
  | notInBatch (fileId tableKey : String)
  | timedOut (limit : Seconds) (tableKey : String)
  | refreshFailed (tableKey reason : String)
  | notSignedInBatch (fileId tableKey : String)
  | noIssuerForBatch (tableKey : String)
  | noIssuerForFiles (count : Nat) (table : TableReference)
  | signingFilesFailed (count : Nat) (table : TableReference) (reason : String)
  | notResolved (path : String)
  | noIssuerForFile (fileId : String)
  | signingFileFailed (fileId : String) (table : TableReference) (reason : String)
  | notSigned (fileId : String) (table : TableReference)
  /-- Raised by a service itself. -/
  | raised (kind : CredentialErrorKind) (message : String)
  deriving DecidableEq, Repr

namespace CredentialError

/-- The kind of a failure. -/
def kind : CredentialError → CredentialErrorKind
  | .unknownBatch _ => .unknownKey
  | .timedOut _ _ => .refreshTimeout
  | .raised kind _ => kind
  | _ => .unavailable

/-- The words for a failure. -/
def message : CredentialError → String
  | .unknownBatch tableKey => "No pre-signed URL batch registered for " ++ tableKey
  | .notInBatch fileId tableKey => "File " ++ fileId ++ " is not part of batch " ++ tableKey
  | .timedOut limit tableKey =>
    "Timed out after " ++ Seconds.text limit ++ "s waiting for the pre-signed URL refresh of " ++
      tableKey
  | .refreshFailed tableKey reason =>
    "Refreshing pre-signed URLs for " ++ tableKey ++ " failed: " ++ reason
  | .notSignedInBatch fileId tableKey =>
    "Credential issuer did not sign file " ++ fileId ++ " of " ++ tableKey
  | .noIssuerForBatch tableKey => "No credential issuer available to refresh " ++ tableKey
  | .noIssuerForFiles count table =>
    "No credential issuer available to sign " ++ toString count ++ " files of " ++ table.text
  | .signingFilesFailed count table reason =>
    "Signing " ++ toString count ++ " files of " ++ table.text ++ " failed: " ++ reason
  | .notResolved path => "Path was not resolved by this scan: " ++ path
  | .noIssuerForFile fileId => "No credential issuer available to sign " ++ fileId
  | .signingFileFailed fileId table reason =>
    "Signing " ++ fileId ++ " of " ++ table.text ++ " failed: " ++ reason
  | .notSigned fileId table =>
    "Credential issuer did not sign file " ++ fileId ++ " of " ++ table.text
  | .raised _ message => message

end CredentialError

/-- What a collaborator or the cache fails with. Interruptions that are meant to end the program are
no answers of a collaborator and have no place here. -/
inductive Fault
  | credential (e : CredentialError)
  /-- Any other failure of a collaborator or a clock, with its own name. -/
  | other (name message : String)
  deriving DecidableEq, Repr

/-- The words for a fault. -/
def Fault.message : Fault → String
  | .credential e => e.message
  | .other _ message => message

/-- What a service answers: links for some files, nothing at all, or a fault. -/
abbrev Signature := Except Fault (Option Links)

end SharedTables
