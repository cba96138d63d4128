import Persistency.Rust.Codec
import Persistency.Rust.KvsBuilder

namespace Persistency.Rust
set_option autoImplicit true

inductive Call where
  | reset
  | resetKey (key : String)
  | getAllKeys
  | keyExists (key : String)
  | getValue (key : String)
  | getValueAs (target : Variant) (key : String)
  | getDefaultValue (key : String)
  | isValueDefault (key : String)
  | setValue (key : String) (value : KvsValue)
  | removeKey (key : String)
  | flush
  | snapshotCount
  | snapshotMaxCount
  | snapshotRestore (snapshotId : SnapshotId)

inductive Answer where
  | unit
  | value (v : KvsValue)
  | boolean (b : Bool)
  | keys (ks : Finset String)
  | count (n : Nat)

def Call.perform (c : Crates) (parameters : KvsParameters) (disk : Fs) (data : KvsData) :
    Call → Except ErrorCode Answer × KvsData × Fs
  | .reset => edit (Kvs.reset data)
  | .resetKey key => edit (Kvs.resetKey key data)
  | .getAllKeys => get .keys (Kvs.getAllKeys data)
  | .keyExists key => get .boolean (Kvs.keyExists key data)
  | .getValue key => get .value (Kvs.getValue key data)
  | .getValueAs target key => get .value (Kvs.getValueAs target key data)
  | .getDefaultValue key => get .value (Kvs.getDefaultValue key data)
  | .isValueDefault key => get .boolean (Kvs.isValueDefault key data)
  | .setValue key value => edit (Kvs.setValue key value data)
  | .removeKey key => edit (Kvs.removeKey key data)
  | .flush =>
    let r := (Kvs.flush parameters c data).run disk
    (r.1.map fun _ => .unit, data, r.2)
  | .snapshotCount => get .count (.ok (Kvs.snapshotCount parameters disk))
  | .snapshotMaxCount => get .count (.ok (Kvs.snapshotMaxCount parameters))
  | .snapshotRestore snapshotId => edit (Kvs.snapshotRestore parameters c snapshotId disk data)
where
  edit (r : Except ErrorCode Unit × KvsData) : Except ErrorCode Answer × KvsData × Fs :=
    (r.1.map fun _ => .unit, r.2, disk)
  get {α : Type} (answer : α → Answer) (r : Except ErrorCode α) :
      Except ErrorCode Answer × KvsData × Fs :=
    (r.map answer, data, disk)

/-- A process with the result of its `build`, over the files. -/
structure World where
  disk : Fs
  process : Process
  handle : Except ErrorCode KvsInner

namespace World

/-- A call fails as the `build` did when there is no handle. -/
def call (c : Crates) (w : World) (request : Call) : World × Except ErrorCode Answer :=
  match w.handle with
  | .error e => (w, .error e)
  | .ok kvs =>
    let (reply, data, disk) := request.perform c kvs.parameters w.disk (w.process.cells kvs.data)
    ({ w with disk, process := w.process.store kvs.data data }, reply)

def restart (c : Crates) (builder : KvsBuilder) (disk : Fs) : World × Except ErrorCode Answer :=
  let (handle, process) := builder.build c disk .start
  (⟨disk, process, handle⟩, handle.map fun _ => .unit)

end World

/-- The defaults that a process finds when it starts: a mode, the text of the defaults file with
its hash if there is one, and the map that they load as. -/
structure Defaults (c : Crates) where
  mode : KvsDefaults
  text : Option String
  map : KvsMap
  loads :
    match mode, text with
    | .ignored, _ => map = .empty
    | .optional, none => map = .empty
    | .required, none => False
    | .optional, some text | .required, some text => decodeText c text = .ok map

def deploy (c : Crates) (backend : JsonBackend) (i : InstanceId) (text : Option String)
    (disk : Fs) : Fs := fun p =>
  if p = backend.defaultsFilePath i then text.map utf8
  else if p = backend.defaultsHashFilePath i then text.map (hashOf c)
  else disk p

inductive Action (c : Crates) where
  | call (request : Call)
  | restart (defaults : Defaults c)

def Action.step (backend : JsonBackend) (i : InstanceId) (w : World) :
    Action c → World × Except ErrorCode Answer
  | .call request => w.call c request
  | .restart defaults =>
    World.restart c ⟨i, some defaults.mode, some .optional, some backend⟩
      (deploy c backend i defaults.text w.disk)

end Persistency.Rust
