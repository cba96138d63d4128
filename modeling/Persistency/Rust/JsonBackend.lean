import Mathlib
import Persistency.Library.BigEndian
import Persistency.Library.Disk
import Persistency.Rust.Api
import Persistency.Rust.JsonValue
import Persistency.TextFormat

namespace Persistency.Rust
set_option autoImplicit true

abbrev Bytes := BigEndian.Bytes

/-- The crates `tinyjson` and `adler32`, whose code is not in the repository. -/
structure Crates where
  parse : String → Option JsonValue
  stringify : JsonValue → Option String
  adler32 : Bytes → UInt32

/-- What `tinyjson` documents: it writes and reads back every tree of finite numbers, and refuses
to write any other tree. -/
structure Crates.TinyJson (c : Crates) : Prop where
  finite : ∀ j : JsonValue, j.Numbers Binary64.IsFinite →
    ∃ s, c.stringify j = some s ∧ c.parse s = some j
  refuses : ∀ j : JsonValue, ¬ j.Numbers Binary64.IsFinite → c.stringify j = none

structure Path where
  parent : String
  fileName : String
  deriving DecidableEq

/-- `Path::extension`: what follows the last dot, unless that dot starts the file name. -/
def Path.extension (p : Path) : Option String :=
  let name := p.fileName.toList
  let after := (name.reverse.takeWhile (· != '.')).reverse
  let before := (name.reverse.dropWhile (· != '.')).tail
  if p.fileName = ".." then none
  else if '.' ∈ name ∧ before ≠ [] then some (String.ofList after)
  else none

abbrev Fs := Disk Path Bytes

abbrev FsM := Disk.Prog Path Bytes ErrorCode

def fsRead (disk : Fs) (p : Path) : Except ErrorCode Bytes :=
  match disk p with
  | some b => .ok b
  | none => .error (.ofIo .notFound)

def fsReadToString (disk : Fs) (p : Path) : Except ErrorCode String := do
  let b ← fsRead disk p
  match ofUtf8? b with
  | some s => .ok s
  | none => .error (.ofIo .invalidData)

def fsRename (src dst : Path) : FsM Unit := do
  if ← Disk.Prog.rename src dst then pure () else Disk.Prog.throw (.ofIo .notFound)

structure JsonBackend where
  workingDir : String
  snapshotMaxCount : Nat
  deriving DecidableEq

/-- The backend of a `JsonBackendBuilder` with no setting changed. -/
def JsonBackend.default : JsonBackend := ⟨"", 3⟩

namespace JsonBackend

def kvsFileName (instanceId : InstanceId) (snapshotId : SnapshotId) : String :=
  s!"kvs_{instanceId}_{snapshotId}.json"

def hashFileName (instanceId : InstanceId) (snapshotId : SnapshotId) : String :=
  s!"kvs_{instanceId}_{snapshotId}.hash"

def defaultsFileName (instanceId : InstanceId) : String := s!"kvs_{instanceId}_default.json"

def defaultsHashFileName (instanceId : InstanceId) : String := s!"kvs_{instanceId}_default.hash"

def checkPathExtensions (kvsPath hashPath : Path) : Except ErrorCode Unit :=
  if kvsPath.extension ≠ some "json" then .error .kvsFileReadError
  else if hashPath.extension ≠ some "hash" then .error .kvsHashFileReadError
  else .ok ()

def load (c : Crates) (kvsPath hashPath : Path) (disk : Fs) : Except ErrorCode KvsMap := do
  checkPathExtensions kvsPath hashPath
  let jsonStr ← fsReadToString disk kvsPath
  let hashBytes ← fsRead disk hashPath
  match hashBytes with
  | [b₀, b₁, b₂, b₃] =>
    let fileHash := BigEndian.ofBytes b₀ b₁ b₂ b₃
    let hashKvs := c.adler32 (utf8 jsonStr)
    if hashKvs ≠ fileHash then .error .validationFailed
    else
      match c.parse jsonStr with
      | none => .error .jsonParserError
      | some jsonValue =>
        match kvsValueFrom jsonValue with
        | .object keys vals => .ok ⟨keys, vals⟩
        | _ => .error .jsonParserError
  | _ => .error .validationFailed

def save (c : Crates) (kvsMap : KvsMap) (kvsPath hashPath : Path) : FsM Unit := do
  Disk.Prog.query fun _ => checkPathExtensions kvsPath hashPath
  let jsonValue := jsonValueFrom (.ofMap kvsMap)
  match c.stringify jsonValue with
  | none => Disk.Prog.throw .jsonGeneratorError
  | some jsonStr =>
    Disk.Prog.write kvsPath (utf8 jsonStr)
    let hash := c.adler32 (utf8 jsonStr)
    Disk.Prog.write hashPath (BigEndian.toBytes hash)

variable (self : JsonBackend)

def kvsFilePath (instanceId : InstanceId) (snapshotId : SnapshotId) : Path :=
  ⟨self.workingDir, kvsFileName instanceId snapshotId⟩

def hashFilePath (instanceId : InstanceId) (snapshotId : SnapshotId) : Path :=
  ⟨self.workingDir, hashFileName instanceId snapshotId⟩

def defaultsFilePath (instanceId : InstanceId) : Path :=
  ⟨self.workingDir, defaultsFileName instanceId⟩

def defaultsHashFilePath (instanceId : InstanceId) : Path :=
  ⟨self.workingDir, defaultsHashFileName instanceId⟩

/-- The rounds of `snapshot_rotate` for `idx`, `idx - 1`, .., `1`. -/
def rotateFrom (instanceId : InstanceId) : Nat → FsM Unit
  | 0 => pure ()
  | old + 1 => do
    let hashPathOld := self.hashFilePath instanceId old
    let snapPathOld := self.kvsFilePath instanceId old
    let snapOldExists ← Disk.Prog.exists snapPathOld
    let hashOldExists ← Disk.Prog.exists hashPathOld
    if !snapOldExists && !hashOldExists then rotateFrom instanceId old
    else if !snapOldExists || !hashOldExists then Disk.Prog.throw .integrityCorrupted
    else
      let hashPathNew := self.hashFilePath instanceId (old + 1)
      let snapPathNew := self.kvsFilePath instanceId (old + 1)
      fsRename hashPathOld hashPathNew
      fsRename snapPathOld snapPathNew
      rotateFrom instanceId old

def snapshotRotate (instanceId : InstanceId) : FsM Unit :=
  self.rotateFrom instanceId (self.snapshotMaxCount - 1)

def loadKvs (c : Crates) (instanceId : InstanceId) (snapshotId : SnapshotId) (disk : Fs) :
    Except ErrorCode KvsMap :=
  load c (self.kvsFilePath instanceId snapshotId) (self.hashFilePath instanceId snapshotId) disk

def loadDefaults (c : Crates) (instanceId : InstanceId) (disk : Fs) : Except ErrorCode KvsMap :=
  load c (self.defaultsFilePath instanceId) (self.defaultsHashFilePath instanceId) disk

def flush (c : Crates) (instanceId : InstanceId) (kvsMap : KvsMap) : FsM Unit := do
  self.snapshotRotate instanceId
  save c kvsMap (self.kvsFilePath instanceId 0) (self.hashFilePath instanceId 0)

/-- The loop of `snapshot_count`, with `n` indices left to look at from `idx` on. -/
def countFrom (instanceId : InstanceId) (disk : Fs) (idx : Nat) : Nat → Nat
  | 0 => 0
  | n + 1 =>
    if (disk (self.kvsFilePath instanceId idx)).isSome then
      countFrom instanceId disk (idx + 1) n + 1
    else 0

def snapshotCount (instanceId : InstanceId) (disk : Fs) : Nat :=
  self.countFrom instanceId disk 0 self.snapshotMaxCount

def snapshotRestore (c : Crates) (instanceId : InstanceId) (snapshotId : SnapshotId)
    (disk : Fs) : Except ErrorCode KvsMap :=
  if snapshotId = 0 then .error .invalidSnapshotId
  else if self.snapshotCount instanceId disk < snapshotId then .error .invalidSnapshotId
  else self.loadKvs c instanceId snapshotId disk

end JsonBackend

end Persistency.Rust
