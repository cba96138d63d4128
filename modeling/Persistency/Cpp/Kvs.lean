import Persistency.Library.Disk
import Persistency.Cpp.Hash
import Persistency.Cpp.Json

namespace Persistency.Cpp
set_option autoImplicit true

abbrev InstanceId := Nat

abbrev SnapshotId := Nat

abbrev Fs := Disk String Bytes

abbrev FsM (α : Type) := Disk.Prog String Bytes ErrorCode α

def kvsMaxSnapshots : Nat := 3

inductive OpenNeedDefaults where
  | optional
  | required
  deriving DecidableEq

inductive OpenNeedKvs where
  | optional
  | required
  deriving DecidableEq

inductive OpenJsonNeedFile where
  | optional
  | required
  deriving DecidableEq

/-- The code that the store takes from other packages, and the order in which a hash map with
these keys is walked. -/
structure Baselibs (N : Type) where
  number : Numbers N
  fromBuffer : Bytes → Option (Json N)
  toBuffer : JsonObject N → Option Bytes
  order : (keys : Finset String) → List {k // k ∈ keys}
  mem_order : ∀ keys k, k ∈ order keys
  join : String → String → String
  parentPath : String → String

/-- The loop of the two conversions: members are added until one cannot be converted. -/
def emplaceAll {keys : Finset String} (conv : {k // k ∈ keys} → Except ErrorCode V) :
    List {k // k ∈ keys} → FiniteMap String V → Except ErrorCode (FiniteMap String V)
  | [], result => .ok result
  | element :: rest, result =>
    match conv element with
    | .error e => .error e
    | .ok v => emplaceAll conv rest (result.emplace element v)

structure Kvs where
  kvs : KvsMap
  defaultValues : KvsMap
  filenamePrefix : String

section Files

variable (base : Baselibs N)

def parseJsonData (data : Bytes) : Except ErrorCode KvsMap :=
  match base.fromBuffer data with
  | none => .error .jsonParserError
  | some root =>
    match root with
    | .object keys vals =>
      emplaceAll (fun k => anyToKvsvalue base.number (vals k)) (base.order keys) .empty
    | _ => .error .jsonParserError

def openJson (filePrefix : String) (needFile : OpenJsonNeedFile) (disk : Fs) :
    Except ErrorCode KvsMap :=
  match disk (filePrefix ++ ".json") with
  | none => if needFile = .required then .error .kvsFileReadError else .ok .empty
  | some data =>
    match disk (filePrefix ++ ".hash") with
    | none => .error .kvsHashFileReadError
    | some hin => if checkHash data hin then parseJsonData base data else .error .validationFailed

def instancePrefix (dir : String) (instanceId : InstanceId) : String :=
  base.join dir ("kvs_" ++ toString instanceId)

def Kvs.open (instanceId : InstanceId) (needDefaults : OpenNeedDefaults) (needKvs : OpenNeedKvs)
    (dir : String) (disk : Fs) : Except ErrorCode Kvs :=
  let filenamePrefix := instancePrefix base dir instanceId
  match openJson base (filenamePrefix ++ "_default")
      (if needDefaults = .required then .required else .optional) disk with
  | .error e => .error e
  | .ok defaultValues =>
    match openJson base (filenamePrefix ++ "_0")
        (if needKvs = .required then .required else .optional) disk with
    | .error e => .error e
    | .ok kvs => .ok { kvs, defaultValues, filenamePrefix }

end Files

def snapFile (filenamePrefix : String) (idx : Nat) : String :=
  filenamePrefix ++ "_" ++ toString idx ++ ".json"

def hashFile (filenamePrefix : String) (idx : Nat) : String :=
  filenamePrefix ++ "_" ++ toString idx ++ ".hash"

namespace Kvs

/-- Like every call that tries the mutex, it gets whether it owns the lock. -/
def reset (ownsLock : Bool) (self : Kvs) : Except ErrorCode Unit × Kvs :=
  if ownsLock then (.ok (), { self with kvs := .empty }) else (.error .mutexLockFailed, self)

def getAllKeys (ownsLock : Bool) (self : Kvs) : Except ErrorCode (Finset String) :=
  if ownsLock then .ok self.kvs.keys else .error .mutexLockFailed

def keyExists (ownsLock : Bool) (key : String) (self : Kvs) : Except ErrorCode Bool :=
  if ownsLock then
    match self.kvs.get? key with
    | some _ => .ok true
    | none => .ok false
  else .error .mutexLockFailed

def getValue (ownsLock : Bool) (key : String) (self : Kvs) : Except ErrorCode KvsValue :=
  if ownsLock then
    match self.kvs.get? key with
    | some value => .ok value
    | none =>
      match self.defaultValues.get? key with
      | some value => .ok value
      | none => .error .keyNotFound
  else .error .mutexLockFailed

/-- The defaults are read without the mutex. -/
def getDefaultValue (key : String) (self : Kvs) : Except ErrorCode KvsValue :=
  match self.defaultValues.get? key with
  | some value => .ok value
  | none => .error .keyNotFound

def resetKey (ownsLock : Bool) (key : String) (self : Kvs) : Except ErrorCode Unit × Kvs :=
  if !ownsLock then (.error .mutexLockFailed, self)
  else
    match self.defaultValues.get? key with
    | none => (.error .keyDefaultNotFound, self)
    | some _ =>
      match self.kvs.get? key with
      | some _ => (.ok (), { self with kvs := self.kvs.remove key })
      | none => (.ok (), self)

def isValueDefault (key : String) (self : Kvs) : Except ErrorCode Bool :=
  if (self.kvs.get? key).isSome then .ok false
  else if (self.defaultValues.get? key).isSome then .ok true
  else .error .keyNotFound

def setValue (ownsLock : Bool) (key : String) (value : KvsValue) (self : Kvs) :
    Except ErrorCode Unit × Kvs :=
  if ownsLock then (.ok (), { self with kvs := self.kvs.insert key value })
  else (.error .mutexLockFailed, self)

def removeKey (ownsLock : Bool) (key : String) (self : Kvs) : Except ErrorCode Unit × Kvs :=
  if ownsLock then
    let erased := if self.kvs.contains key then 1 else 0
    let self := { self with kvs := self.kvs.remove key }
    if erased > 0 then (.ok (), self) else (.error .keyNotFound, self)
  else (.error .mutexLockFailed, self)

variable (base : Baselibs N)

/-- Writes the data file and the hash file; the directory can always be created. -/
def writeJsonData (self : Kvs) (buf : Bytes) : FsM Unit :=
  let jsonPath := self.filenamePrefix ++ "_0.json"
  if base.parentPath jsonPath ≠ "" then do
    Disk.Prog.write jsonPath buf
    Disk.Prog.write (self.filenamePrefix ++ "_0.hash") (getHashBytes buf)
  else Disk.Prog.throw .physicalStorageFailure

/-- The loop of the rotation. A rename of a file that does not exist is no error. -/
def rotateFrom (filenamePrefix : String) : Nat → FsM Unit
  | 0 => pure ()
  | idx + 1 => do
    let _ ← Disk.Prog.rename (hashFile filenamePrefix idx) (hashFile filenamePrefix (idx + 1))
    let _ ← Disk.Prog.rename (snapFile filenamePrefix idx) (snapFile filenamePrefix (idx + 1))
    rotateFrom filenamePrefix idx

def snapshotRotate (ownsLock : Bool) (self : Kvs) : FsM Unit :=
  if ownsLock then rotateFrom self.filenamePrefix kvsMaxSnapshots
  else Disk.Prog.throw .mutexLockFailed

/-- The object that a flush makes of the map while it holds the mutex. -/
def rootObj (kvs : KvsMap) : Except ErrorCode (JsonObject N) :=
  emplaceAll (fun k => kvsvalueToAny base.number (kvs.val k)) (base.order kvs.keys) .empty

def buffer (kvs : KvsMap) : Except ErrorCode Bytes :=
  match rootObj base kvs with
  | .error e => .error e
  | .ok root =>
    match base.toBuffer root with
    | none => .error .jsonGeneratorError
    | some buf => .ok buf

/-- The first part of a flush, up to the serialized buffer. -/
def collectBuffer (ownsLock : Bool) (self : Kvs) : Except ErrorCode Bytes :=
  if ownsLock then buffer base self.kvs else .error .mutexLockFailed

/-- The mutex is tried twice, to collect the map and to rotate. -/
def flush (ownsLock ownsLockRotate : Bool) (self : Kvs) : FsM Unit := do
  let buf ← Disk.Prog.query fun _ => collectBuffer base ownsLock self
  snapshotRotate ownsLockRotate self
  writeJsonData base self buf

/-- The loop of the count: `n` more places from `idx` on, up to the first missing file. -/
def countFrom (filenamePrefix : String) (disk : Fs) (idx : Nat) : Nat → Nat
  | 0 => idx
  | n + 1 =>
    if (disk (snapFile filenamePrefix idx)).isSome then countFrom filenamePrefix disk (idx + 1) n
    else idx

def snapshotCount (self : Kvs) (disk : Fs) : Except ErrorCode Nat :=
  .ok (countFrom self.filenamePrefix disk 0 kvsMaxSnapshots)

def snapshotMaxCount : Nat := kvsMaxSnapshots

def snapshotRestore (ownsLock : Bool) (snapshotId : SnapshotId) (disk : Fs) (self : Kvs) :
    Except ErrorCode Unit × Kvs :=
  if ownsLock then
    match snapshotCount self disk with
    | .error e => (.error e, self)
    | .ok count =>
      if snapshotId = 0 then (.error .invalidSnapshotId, self)
      else if count < snapshotId then (.error .invalidSnapshotId, self)
      else
        match openJson base (self.filenamePrefix ++ "_" ++ toString snapshotId) .required disk with
        | .error e => (.error e, self)
        | .ok kvs => (.ok (), { self with kvs })
  else (.error .mutexLockFailed, self)

end Kvs

end Persistency.Cpp
