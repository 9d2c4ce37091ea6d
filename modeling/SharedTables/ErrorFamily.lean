import SharedTables.Credential

/-! The families of errors that a caller can tell apart, from narrow to wide. -/
namespace SharedTables

/-- A family of errors. -/
inductive ErrorFamily
  /-- Every error of this library. -/
  | any
  /-- A profile is malformed or incomplete. -/
  | validation
  /-- A table is no longer the one that a scan was planned against. -/
  | schemaMismatch
  /-- A link could not be obtained. -/
  | credential
  /-- Another caller's refresh did not finish in time. -/
  | refreshTimeout
  /-- No batch is registered for a table. -/
  | unknownKey
  deriving DecidableEq, Repr

namespace ErrorFamily

/-- The families that a family belongs to: itself, then wider and wider ones. -/
def widening : ErrorFamily → List ErrorFamily
  | .any => [.any]
  | .validation => [.validation, .any]
  | .schemaMismatch => [.schemaMismatch, .any]
  | .credential => [.credential, .any]
  | .refreshTimeout => [.refreshTimeout, .credential, .any]
  | .unknownKey => [.unknownKey, .credential, .any]

end ErrorFamily

/-- The family of a failure to obtain a link. -/
def CredentialErrorKind.family : CredentialErrorKind → ErrorFamily
  | .unavailable => .credential
  | .refreshTimeout => .refreshTimeout
  | .unknownKey => .unknownKey

end SharedTables
