import Mathlib.Logic.Function.Basic

namespace Persistency.Rust
set_option autoImplicit true

inductive ErrorCode where
  | unmappedError
  | fileNotFound
  | kvsFileReadError
  | kvsHashFileReadError
  | jsonParserError
  | jsonGeneratorError
  | physicalStorageFailure
  | integrityCorrupted
  | validationFailed
  | encryptionFailed
  | resourceBusy
  | outOfStorageSpace
  | quotaExceeded
  | authenticationFailed
  | keyNotFound
  | keyDefaultNotFound
  | serializationFailed (msg : String)
  | deserializationFailed (msg : String)
  | invalidSnapshotId
  | invalidInstanceId
  | conversionFailed
  | mutexLockFailed
  | instanceParametersMismatch
  deriving DecidableEq

/-- The kinds of I/O error that the model produces: a missing file, and text that is not UTF-8. -/
inductive IoErrorKind where
  | notFound
  | invalidData
  deriving DecidableEq

def ErrorCode.ofIo : IoErrorKind → ErrorCode
  | .notFound => .fileNotFound
  | .invalidData => .unmappedError

abbrev InstanceId := Nat

abbrev SnapshotId := Nat

inductive KvsDefaults where
  | ignored
  | optional
  | required
  deriving DecidableEq

inductive KvsLoad where
  | ignored
  | optional
  | required
  deriving DecidableEq

end Persistency.Rust
