import Persistency.Rust.KvsBuilder

namespace Persistency.Rust
set_option autoImplicit true

/-- A type that implements `KvsBackend`, as far as `build` uses it; the two methods may read
anything outside of the process. -/
structure BackendType (D : Type) where
  Self : Type
  eq : Self → Self → Bool
  loadKvs : Self → InstanceId → SnapshotId → D → Except ErrorCode KvsMap
  loadDefaults : Self → InstanceId → D → Except ErrorCode KvsMap

/-- `Box<dyn KvsBackend>`: a value together with its type, one of a family of types. -/
structure DynBackend {D ι : Type} (types : ι → BackendType D) where
  typeId : ι
  self : (types typeId).Self

namespace DynBackend

variable {D ι : Type} {types : ι → BackendType D}

section DynEq

variable [DecidableEq ι]

def downcastRef (other : DynBackend types) (typeId : ι) : Option (types typeId).Self :=
  if h : other.typeId = typeId then some (h ▸ other.self) else none

def dynEq (self other : DynBackend types) : Bool :=
  match other.downcastRef self.typeId with
  | some other => (types self.typeId).eq self.self other
  | none => false

end DynEq

def loadKvs (self : DynBackend types) (instanceId : InstanceId) (snapshotId : SnapshotId)
    (world : D) : Except ErrorCode KvsMap :=
  (types self.typeId).loadKvs self.self instanceId snapshotId world

def loadDefaults (self : DynBackend types) (instanceId : InstanceId) (world : D) :
    Except ErrorCode KvsMap :=
  (types self.typeId).loadDefaults self.self instanceId world

end DynBackend

namespace Dyn

section Build

variable {D ι : Type} (types : ι → BackendType D)

structure KvsParameters where
  instanceId : InstanceId
  defaults : KvsDefaults
  kvsLoad : KvsLoad
  backend : DynBackend types

structure KvsInner where
  parameters : KvsParameters types
  data : Nat

structure Process where
  pool : Vector (Option (KvsInner types)) kvsMaxInstances
  cells : Nat → KvsData
  next : Nat

def Process.start : Process types := ⟨Vector.replicate _ none, fun _ => ⟨.empty, .empty⟩, 0⟩

structure KvsBuilder where
  instanceId : InstanceId
  defaults : Option KvsDefaults
  kvsLoad : Option KvsLoad
  backend : Option (DynBackend types)

variable {types}

def Process.alloc (process : Process types) (value : KvsData) : Nat × Process types :=
  (process.next, { process with
    cells := fun n => if n = process.next then value else process.cells n
    next := process.next + 1 })

namespace KvsBuilder

def loadDefaultsMap (parameters : KvsParameters types) (world : D) : Except ErrorCode KvsMap :=
  match parameters.defaults with
  | .ignored => .ok .empty
  | .optional =>
    match parameters.backend.loadDefaults parameters.instanceId world with
    | .ok map => .ok map
    | .error .fileNotFound => .ok .empty
    | .error e => .error e
  | .required => parameters.backend.loadDefaults parameters.instanceId world

def loadKvsMap (parameters : KvsParameters types) (world : D) : Except ErrorCode KvsMap :=
  match parameters.kvsLoad with
  | .ignored => .ok .empty
  | .optional =>
    match parameters.backend.loadKvs parameters.instanceId 0 world with
    | .ok map => .ok map
    | .error .fileNotFound => .ok .empty
    | .error e => .error e
  | .required => parameters.backend.loadKvs parameters.instanceId 0 world

variable (self : KvsBuilder types)

section Compare

variable [DecidableEq ι]

def compareParameters (other : KvsParameters types) : Bool :=
  if self.instanceId ≠ other.instanceId then false
  else if self.defaults.any (· ≠ other.defaults) then false
  else if self.kvsLoad.any (· ≠ other.kvsLoad) then false
  else if self.backend.any fun v => !v.dynEq other.backend then false
  else true

def lookup (process : Process types) : Except ErrorCode (Option (KvsInner types)) :=
  match process.pool[self.instanceId]? with
  | some (some kvsInner) =>
    if self.compareParameters kvsInner.parameters then .ok (some kvsInner)
    else .error .instanceParametersMismatch
  | some none => .ok none
  | none => .error .invalidInstanceId

end Compare

/-- The parameters of a first build; `default` is the backend of a `JsonBackendBuilder` with no
setting changed. -/
def parameters (default : DynBackend types) : KvsParameters types where
  instanceId := self.instanceId
  defaults := self.defaults.getD .optional
  kvsLoad := self.kvsLoad.getD .optional
  backend := self.backend.getD default

def load (default : DynBackend types) (world : D) : Except ErrorCode KvsData := do
  let defaultsMap ← loadDefaultsMap (self.parameters default) world
  let kvsMap ← loadKvsMap (self.parameters default) world
  return { kvsMap, defaultsMap }

def insert (default : DynBackend types) (data : KvsData) (process : Process types) :
    Except ErrorCode (KvsInner types) × Process types :=
  let (cell, process) := process.alloc data
  let kvsInner : KvsInner types := ⟨self.parameters default, cell⟩
  if h : self.instanceId < kvsMaxInstances then
    (.ok kvsInner, { process with pool := process.pool.set self.instanceId (some kvsInner) })
  else (.error .invalidInstanceId, process)

def build [DecidableEq ι] (default : DynBackend types) (world : D) (process : Process types) :
    Except ErrorCode (KvsInner types) × Process types :=
  match self.lookup process with
  | .error e => (.error e, process)
  | .ok (some kvsInner) => (.ok kvsInner, process)
  | .ok none =>
    match self.load default world with
    | .error e => (.error e, process)
    | .ok data => self.insert default data process

end KvsBuilder

end Build

end Dyn

section Json

variable (c : Crates)

def jsonTypes : Unit → BackendType Fs := fun _ =>
  ⟨JsonBackend, fun backend other => backend = other, fun backend => backend.loadKvs c,
    fun backend => backend.loadDefaults c⟩

def JsonBackend.toDyn (backend : JsonBackend) : DynBackend (jsonTypes c) := ⟨(), backend⟩

def KvsParameters.toDyn (parameters : KvsParameters) : Dyn.KvsParameters (jsonTypes c) :=
  ⟨parameters.instanceId, parameters.defaults, parameters.kvsLoad, parameters.backend.toDyn c⟩

def KvsInner.toDyn (kvs : KvsInner) : Dyn.KvsInner (jsonTypes c) :=
  ⟨kvs.parameters.toDyn c, kvs.data⟩

def Process.toDyn (process : Process) : Dyn.Process (jsonTypes c) :=
  ⟨process.pool.map (Option.map (KvsInner.toDyn c)), process.cells, process.next⟩

def KvsBuilder.toDyn (builder : KvsBuilder) : Dyn.KvsBuilder (jsonTypes c) :=
  ⟨builder.instanceId, builder.defaults, builder.kvsLoad,
    builder.backend.map (JsonBackend.toDyn c)⟩

variable (self : KvsBuilder)

theorem dynEq_toDyn (backend other : JsonBackend) :
    (backend.toDyn c).dynEq (other.toDyn c) = decide (backend = other) := rfl

namespace KvsBuilder

theorem compareParameters_toDyn (other : KvsParameters) :
    (self.toDyn c).compareParameters (other.toDyn c) = self.compareParameters other := by
  obtain ⟨instanceId, defaults, kvsLoad, backend⟩ := self
  cases backend with
  | none => rfl
  | some backend =>
    have hbackend : (!(backend.toDyn c).dynEq (other.backend.toDyn c)) =
        decide (backend ≠ other.backend) := by
      rw [dynEq_toDyn, decide_not]
    simp only [Dyn.KvsBuilder.compareParameters, toDyn, KvsParameters.toDyn, Option.map_some,
      Option.any_some, hbackend, compareParameters]
    rfl

theorem lookup_toDyn (process : Process) :
    (self.toDyn c).lookup (process.toDyn c) =
      (self.lookup process).map (Option.map (KvsInner.toDyn c)) := by
  have hpool : (process.toDyn c).pool[(self.toDyn c).instanceId]? =
      process.pool[self.instanceId]?.map (Option.map (KvsInner.toDyn c)) := by
    rw [Process.toDyn, Vector.getElem?_map]
    rfl
  rw [Dyn.KvsBuilder.lookup, hpool, lookup]
  rcases process.pool[self.instanceId]? with - | - | kvs
  · rfl
  · rfl
  · simp only [Option.map_some, KvsInner.toDyn, compareParameters_toDyn]
    split
    · rfl
    · rfl

theorem parameters_toDyn :
    (self.toDyn c).parameters (JsonBackend.default.toDyn c) = self.parameters.toDyn c := by
  obtain ⟨instanceId, defaults, kvsLoad, backend⟩ := self
  cases backend with
  | none => rfl
  | some backend => rfl

theorem load_toDyn (disk : Fs) :
    (self.toDyn c).load (JsonBackend.default.toDyn c) disk = self.load c disk := by
  rw [Dyn.KvsBuilder.load, parameters_toDyn]
  rfl

theorem insert_toDyn (data : KvsData) (process : Process) :
    (self.toDyn c).insert (JsonBackend.default.toDyn c) data (process.toDyn c) =
      ((self.insert data process).1.map (KvsInner.toDyn c),
        (self.insert data process).2.toDyn c) := by
  by_cases hi : self.instanceId < kvsMaxInstances
  · have hi' : (self.toDyn c).instanceId < kvsMaxInstances := hi
    simp only [Dyn.KvsBuilder.insert, insert, dif_pos hi, dif_pos hi', parameters_toDyn,
      Process.toDyn, Vector.map_set]
    rfl
  · have hi' : ¬ (self.toDyn c).instanceId < kvsMaxInstances := hi
    simp only [Dyn.KvsBuilder.insert, insert, dif_neg hi, dif_neg hi']
    rfl

/-- The builder over `JsonBackend` only is the general one for this family of types. -/
theorem build_toDyn (disk : Fs) (process : Process) :
    (self.toDyn c).build (JsonBackend.default.toDyn c) disk (process.toDyn c) =
      ((self.build c disk process).1.map (KvsInner.toDyn c),
        (self.build c disk process).2.toDyn c) := by
  rw [Dyn.KvsBuilder.build, lookup_toDyn, load_toDyn, build]
  rcases self.lookup process with e | - | kvs
  · rfl
  · cases self.load c disk with
    | error e => rfl
    | ok data => exact self.insert_toDyn c data process
  · rfl

end KvsBuilder

end Json

end Persistency.Rust
