import Mathlib.Logic.Function.Basic

namespace Persistency.Cpp
set_option autoImplicit true

inductive ErrorCode where
  | unmappedError
  | fileNotFound
  | kvsFileReadError
  | kvsHashFileReadError
  | jsonParserError
  | jsonGeneratorError
  | physicalStorageFailure
  | integrityCorrupted
  | validationFailed
  | encryptionFailed
  | resourceBusy
  | outOfStorageSpace
  | quotaExceeded
  | authenticationFailed
  | keyNotFound
  | keyDefaultNotFound
  | serializationFailed
  | invalidSnapshotId
  | conversionFailed
  | mutexLockFailed
  | invalidValueType
  deriving DecidableEq

end Persistency.Cpp
