import Persistency.Rust.JsonBackend

namespace Persistency.Rust
set_option autoImplicit true

structure KvsParameters where
  instanceId : InstanceId
  defaults : KvsDefaults
  kvsLoad : KvsLoad
  backend : JsonBackend
  deriving DecidableEq

structure KvsData where
  kvsMap : KvsMap
  defaultsMap : KvsMap

inductive Variant where
  | i32 | u32 | i64 | u64 | f64 | boolean | string | null | array | object
  deriving DecidableEq

def variant : KvsValue → Variant
  | .i32 _ => .i32
  | .u32 _ => .u32
  | .i64 _ => .i64
  | .u64 _ => .u64
  | .f64 _ => .f64
  | .boolean _ => .boolean
  | .string _ => .string
  | .null => .null
  | .array _ _ => .array
  | .object _ _ => .object

/-- `TryFrom<&KvsValue>` for the Rust type of a variant. -/
def tryFrom (target : Variant) (value : KvsValue) : Option KvsValue :=
  if variant value = target then some value else none

namespace Kvs

def reset (data : KvsData) : Except ErrorCode Unit × KvsData :=
  (.ok (), { data with kvsMap := .empty })

def resetKey (key : String) (data : KvsData) : Except ErrorCode Unit × KvsData :=
  if !data.defaultsMap.contains key then (.error .keyDefaultNotFound, data)
  else (.ok (), { data with kvsMap := data.kvsMap.remove key })

def getAllKeys (data : KvsData) : Except ErrorCode (Finset String) := .ok data.kvsMap.keys

def keyExists (key : String) (data : KvsData) : Except ErrorCode Bool :=
  .ok (data.kvsMap.contains key)

def getValue (key : String) (data : KvsData) : Except ErrorCode KvsValue :=
  match data.kvsMap.get? key with
  | some value => .ok value
  | none =>
    match data.defaultsMap.get? key with
    | some value => .ok value
    | none => .error .keyNotFound

def getValueAs (target : Variant) (key : String) (data : KvsData) : Except ErrorCode KvsValue :=
  match data.kvsMap.get? key with
  | some value =>
    match tryFrom target value with
    | some value => .ok value
    | none => .error .conversionFailed
  | none =>
    match data.defaultsMap.get? key with
    | some value =>
      match tryFrom target value with
      | some value => .ok value
      | none => .error .conversionFailed
    | none => .error .keyNotFound

def getDefaultValue (key : String) (data : KvsData) : Except ErrorCode KvsValue :=
  match data.defaultsMap.get? key with
  | some value => .ok value
  | none => .error .keyNotFound

def isValueDefault (key : String) (data : KvsData) : Except ErrorCode Bool :=
  if data.kvsMap.contains key then .ok false
  else if data.defaultsMap.contains key then .ok true
  else .error .keyNotFound

def setValue (key : String) (value : KvsValue) (data : KvsData) :
    Except ErrorCode Unit × KvsData :=
  (.ok (), { data with kvsMap := data.kvsMap.insert key value })

def removeKey (key : String) (data : KvsData) : Except ErrorCode Unit × KvsData :=
  let removed := data.kvsMap.get? key
  let data := { data with kvsMap := data.kvsMap.remove key }
  if removed.isSome then (.ok (), data) else (.error .keyNotFound, data)

variable (parameters : KvsParameters)

def snapshotMaxCount : Nat := parameters.backend.snapshotMaxCount

def snapshotCount (disk : Fs) : Nat := parameters.backend.snapshotCount parameters.instanceId disk

def flush (c : Crates) (data : KvsData) : FsM Unit :=
  if snapshotMaxCount parameters = 0 then pure ()
  else parameters.backend.flush c parameters.instanceId data.kvsMap

def snapshotRestore (c : Crates) (snapshotId : SnapshotId) (disk : Fs) (data : KvsData) :
    Except ErrorCode Unit × KvsData :=
  match parameters.backend.snapshotRestore c parameters.instanceId snapshotId disk with
  | .ok kvsMap => (.ok (), { data with kvsMap })
  | .error e => (.error e, data)

end Kvs

end Persistency.Rust
