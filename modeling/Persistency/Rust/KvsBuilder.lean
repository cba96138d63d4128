import Persistency.Rust.Kvs

namespace Persistency.Rust
set_option autoImplicit true

def kvsMaxInstances : Nat := 10

/-- An entry of the pool, and also the handle that `build` hands out: the cell of the instance
data and the parameters. -/
structure KvsInner where
  parameters : KvsParameters
  data : Nat

/-- The memory of a process: `KVS_POOL`, and the data cells, of which `next` are allocated. -/
structure Process where
  pool : Vector (Option KvsInner) kvsMaxInstances
  cells : Nat → KvsData
  next : Nat

def Process.start : Process := ⟨Vector.replicate _ none, fun _ => ⟨.empty, .empty⟩, 0⟩

def Process.store (process : Process) (data : Nat) (value : KvsData) : Process :=
  { process with cells := fun n => if n = data then value else process.cells n }

/-- `Arc::new(Mutex::new(value))`. -/
def Process.alloc (process : Process) (value : KvsData) : Nat × Process :=
  (process.next, { process.store process.next value with next := process.next + 1 })

structure KvsBuilder where
  instanceId : InstanceId
  defaults : Option KvsDefaults
  kvsLoad : Option KvsLoad
  backend : Option JsonBackend

namespace KvsBuilder

variable (self : KvsBuilder)

def compareParameters (other : KvsParameters) : Bool :=
  if self.instanceId ≠ other.instanceId then false
  else if self.defaults.any (· ≠ other.defaults) then false
  else if self.kvsLoad.any (· ≠ other.kvsLoad) then false
  else if self.backend.any (· ≠ other.backend) then false
  else true

/-- The first critical section of `build`. -/
def lookup (process : Process) : Except ErrorCode (Option KvsInner) :=
  match process.pool[self.instanceId]? with
  | some (some kvsInner) =>
    if self.compareParameters kvsInner.parameters then .ok (some kvsInner)
    else .error .instanceParametersMismatch
  | some none => .ok none
  | none => .error .invalidInstanceId

def parameters : KvsParameters where
  instanceId := self.instanceId
  defaults := self.defaults.getD .optional
  kvsLoad := self.kvsLoad.getD .optional
  backend := self.backend.getD .default

def loadDefaultsMap (c : Crates) (parameters : KvsParameters) (disk : Fs) :
    Except ErrorCode KvsMap :=
  match parameters.defaults with
  | .ignored => .ok .empty
  | .optional =>
    match parameters.backend.loadDefaults c parameters.instanceId disk with
    | .ok map => .ok map
    | .error .fileNotFound => .ok .empty
    | .error e => .error e
  | .required => parameters.backend.loadDefaults c parameters.instanceId disk

def loadKvsMap (c : Crates) (parameters : KvsParameters) (disk : Fs) : Except ErrorCode KvsMap :=
  match parameters.kvsLoad with
  | .ignored => .ok .empty
  | .optional =>
    match parameters.backend.loadKvs c parameters.instanceId 0 disk with
    | .ok map => .ok map
    | .error .fileNotFound => .ok .empty
    | .error e => .error e
  | .required => parameters.backend.loadKvs c parameters.instanceId 0 disk

/-- What `build` does between its critical sections. -/
def load (c : Crates) (disk : Fs) : Except ErrorCode KvsData := do
  let defaultsMap ← loadDefaultsMap c self.parameters disk
  let kvsMap ← loadKvsMap c self.parameters disk
  return { kvsMap, defaultsMap }

/-- The second critical section of `build`, with the allocation of the data cell. -/
def insert (data : KvsData) (process : Process) : Except ErrorCode KvsInner × Process :=
  let (cell, process) := process.alloc data
  let kvsInner : KvsInner := ⟨self.parameters, cell⟩
  if h : self.instanceId < kvsMaxInstances then
    (.ok kvsInner, { process with pool := process.pool.set self.instanceId (some kvsInner) })
  else (.error .invalidInstanceId, process)

def build (c : Crates) (disk : Fs) (process : Process) : Except ErrorCode KvsInner × Process :=
  match self.lookup process with
  | .error e => (.error e, process)
  | .ok (some kvsInner) => (.ok kvsInner, process)
  | .ok none =>
    match self.load c disk with
    | .error e => (.error e, process)
    | .ok data => self.insert data process

variable {c : Crates} {disk : Fs}

theorem lookup_some (h : self.lookup process = .ok (some kvs)) :
    process.pool[self.instanceId]? = some (some kvs) := by
  simp only [lookup] at h
  split at h
  · rename_i hentry
    split at h
    · cases h
      exact hentry
    · cases h
  · cases h
  · cases h

theorem lookup_start (hi : self.instanceId < kvsMaxInstances) : self.lookup .start = .ok none := by
  have hpool : Process.start.pool[self.instanceId]? = some none := by
    rw [Process.start, Vector.getElem?_replicate, if_pos hi]
  rw [lookup, hpool]

theorem build_start (hi : self.instanceId < kvsMaxInstances) (hload : self.load c disk = .ok data) :
    ∃ process, self.build c disk .start = (.ok ⟨self.parameters, 0⟩, process) ∧
      process.cells 0 = data := by
  simp only [build, self.lookup_start hi, hload, insert, dif_pos hi]
  exact ⟨_, rfl, rfl⟩

theorem build_start_error (hi : self.instanceId < kvsMaxInstances)
    (hload : self.load c disk = .error e) : self.build c disk .start = (.error e, .start) := by
  simp only [build, self.lookup_start hi, hload]

end KvsBuilder

end Persistency.Rust
