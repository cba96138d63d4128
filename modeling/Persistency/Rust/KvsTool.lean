import Persistency.Rust.KvsBuilder

namespace Persistency.Rust.KvsTool
set_option autoImplicit true

/-- What `pico_args` finds under the long and under the short name of an option; there is nothing
also when the value cannot be read. -/
structure Flag (α : Type) where
  long : Option α
  short : Option α

def Flag.value (f : Flag α) : Option α := f.long.or f.short

structure Arguments where
  help : Bool
  directory : Flag String
  operation : Flag String
  key : Flag String
  payload : Flag String
  snapshotId : Flag UInt32

/-- The payload is the only option whose short name goes first. -/
def Arguments.valueStr (args : Arguments) : Option String := args.payload.short.or args.payload.long

def fromTinyjson : JsonValue → KvsValue
  | .number n => .f64 n
  | .boolean b => .boolean b
  | .string s => .string s
  | .null => .null
  | .array n arr => .array n fun i => fromTinyjson (arr i)
  | .object keys obj => .object keys fun k => fromTinyjson (obj k)

/-- What an operation prints. -/
inductive Report where
  | nothing
  | key (keyExists isDefault : Bool) (value : Option (Except ErrorCode KvsValue))
      (default : Except ErrorCode KvsValue)
  | keys (ks : Finset String)
  | count (n : Nat)
  | filename (p : Path)

def vec (elems : List KvsValue) : KvsValue := .array elems.length fun i => elems.get i

def hashMap (entries : List (String × KvsValue)) : KvsMap :=
  entries.foldl (fun m entry => m.insert entry.1 entry.2) .empty

def testData : List (String × KvsValue) :=
  [("number", .f64 (.ofInt 123)), ("bool", .boolean true), ("string", .string "First"),
    ("null", .null), ("array", vec [.f64 (.ofInt 456), .boolean false, .string "Second"]),
    ("object", .ofMap (hashMap
      [("sub-number", .f64 (.ofInt 789)), ("sub-bool", .boolean true),
        ("sub-string", .string "Third"), ("sub-null", .null),
        ("sub-array", vec [.f64 (.ofInt 1246), .boolean false, .string "Fourth"])]))]

section Operations

variable (c : Crates) (parameters : KvsParameters) (args : Arguments) (data : KvsData)

def getkey : Except ErrorCode Report :=
  match args.key.value with
  | none => .error .unmappedError
  | some key => do
    let keyExist ← Kvs.keyExists key data
    let isDefault ← Kvs.isValueDefault key data
    let value := if keyExist then some (Kvs.getValue key data) else none
    if !keyExist && !isDefault then .error .keyNotFound
    else .ok (.key keyExist isDefault value (Kvs.getDefaultValue key data))

def editAndFlush (r : Except ErrorCode Unit × KvsData) : FsM Report :=
  match r.1 with
  | .error e => Disk.Prog.throw e
  | .ok () => do
    Kvs.flush parameters c r.2
    return .nothing

def setkey : FsM Report :=
  match args.key.value with
  | none => Disk.Prog.throw .unmappedError
  | some key =>
    match args.valueStr with
    | some value =>
      match c.parse value with
      | some jsonVal =>
        let kvsVal := fromTinyjson jsonVal
        editAndFlush c parameters (Kvs.setValue key kvsVal data)
      | none => editAndFlush c parameters (Kvs.setValue key (.string value) data)
    | none => editAndFlush c parameters (Kvs.setValue key .null data)

def removekey : FsM Report :=
  match args.key.value with
  | none => Disk.Prog.throw .unmappedError
  | some key => editAndFlush c parameters (Kvs.removeKey key data)

def listkeys : Except ErrorCode Report := (Kvs.getAllKeys data).map .keys

def reset : FsM Report := editAndFlush c parameters (Kvs.reset data)

def snapshotcount (disk : Fs) : Except ErrorCode Report :=
  .ok (.count (Kvs.snapshotCount parameters disk))

def snapshotmaxcount : Except ErrorCode Report := .ok (.count (Kvs.snapshotMaxCount parameters))

def snapshotrestore : FsM Report := fun disk =>
  match args.snapshotId.value with
  | none => Disk.Prog.throw .unmappedError disk
  | some snapshotId =>
    editAndFlush c parameters (Kvs.snapshotRestore parameters c snapshotId.toNat disk data) disk

def getkvsfilename : Except ErrorCode Report :=
  match args.snapshotId.value with
  | none => .error .unmappedError
  | some snapshotId =>
    .ok (.filename (parameters.backend.kvsFilePath parameters.instanceId snapshotId.toNat))

def gethashfilename : Except ErrorCode Report :=
  match args.snapshotId.value with
  | none => .error .unmappedError
  | some snapshotId =>
    .ok (.filename (parameters.backend.hashFilePath parameters.instanceId snapshotId.toNat))

/-- The loop over the test data; setting a value never fails. -/
def setAll : List (String × KvsValue) → KvsData → Except ErrorCode Unit × KvsData
  | [], data => (.ok (), data)
  | entry :: entries, data =>
    match Kvs.setValue entry.1 entry.2 data with
    | (.error e, data) => (.error e, data)
    | (.ok (), data) => setAll entries data

def createtestdata : FsM Report := editAndFlush c parameters (setAll testData data)

def operate (operation : String) : FsM Report :=
  match operation with
  | "getkey" => Disk.Prog.query fun _ => getkey args data
  | "setkey" => setkey c parameters args data
  | "removekey" => removekey c parameters args data
  | "listkeys" => Disk.Prog.query fun _ => listkeys data
  | "reset" => reset c parameters data
  | "createtestdata" => createtestdata c parameters data
  | "snapshotcount" => Disk.Prog.query fun disk => snapshotcount parameters disk
  | "snapshotmaxcount" => Disk.Prog.query fun _ => snapshotmaxcount parameters
  | "snapshotrestore" => snapshotrestore c parameters args data
  | "getkvsfilename" => Disk.Prog.query fun _ => getkvsfilename parameters args
  | "gethashfilename" => Disk.Prog.query fun _ => gethashfilename parameters args
  | _ => Disk.Prog.throw .unmappedError

end Operations

def builder (directory : Flag String) : KvsBuilder :=
  ⟨0, some .optional, some .optional,
    directory.value.map fun dir => { JsonBackend.default with workingDir := dir }⟩

def openKvs (c : Crates) (directory : Flag String) (disk : Fs) :
    Except ErrorCode (KvsParameters × KvsData) :=
  match (builder directory).build c disk .start with
  | (.error e, _) => .error e
  | (.ok kvs, process) => .ok (kvs.parameters, process.cells kvs.data)

/-- A process of the tool, from its arguments to what it prints or its error. -/
def main (c : Crates) (args : Arguments) : FsM Report :=
  if args.help then pure .nothing
  else do
    let (parameters, data) ← Disk.Prog.query fun disk => openKvs c args.directory disk
    match args.operation.value with
    | none => Disk.Prog.throw .unmappedError
    | some operation => operate c parameters args data operation

def mainAll (c : Crates) (runs : List Arguments) (disk : Fs) : Fs :=
  runs.foldl (fun disk args => ((main c args).run disk).2) disk

/-- A process that opens the store as the tool does, and reads a key. -/
def readBack (c : Crates) (directory : Flag String) (key : String) (disk : Fs) :
    Except ErrorCode KvsValue := do
  let (_, data) ← openKvs c directory disk
  Kvs.getValue key data

end Persistency.Rust.KvsTool
