import Persistency.Library.Task
import Persistency.Rust.Isolation
import Persistency.Rust.Store

namespace Persistency.Rust
set_option autoImplicit true

abbrev FsTask := Disk.TaskE Path Bytes ErrorCode

open Disk (TaskE)

def ofExcept (r : Except ErrorCode α) : FsTask α := .mk (.done r)

def readTask (p : Path) : FsTask Bytes := do
  match ← TaskE.read p with
  | some b => pure b
  | none => throw (.ofIo .notFound)

def readToStringTask (p : Path) : FsTask String := do
  let b ← readTask p
  match ofUtf8? b with
  | some s => pure s
  | none => throw (.ofIo .invalidData)

def renameTask (src dst : Path) : FsTask Unit := do
  if ← TaskE.rename src dst then pure () else throw (.ofIo .notFound)

namespace JsonBackend

def verify (c : Crates) (jsonStr : String) : Bytes → Except ErrorCode KvsMap
  | [b₀, b₁, b₂, b₃] =>
    let fileHash := BigEndian.ofBytes b₀ b₁ b₂ b₃
    let hashKvs := c.adler32 (utf8 jsonStr)
    if hashKvs ≠ fileHash then .error .validationFailed
    else
      match c.parse jsonStr with
      | none => .error .jsonParserError
      | some jsonValue =>
        match kvsValueFrom jsonValue with
        | .object keys vals => .ok ⟨keys, vals⟩
        | _ => .error .jsonParserError
  | _ => .error .validationFailed

def loadTask (c : Crates) (kvsPath hashPath : Path) : FsTask KvsMap := do
  ofExcept (checkPathExtensions kvsPath hashPath)
  let jsonStr ← readToStringTask kvsPath
  let hashBytes ← readTask hashPath
  ofExcept (verify c jsonStr hashBytes)

def saveTask (c : Crates) (kvsMap : KvsMap) (kvsPath hashPath : Path) : FsTask Unit := do
  ofExcept (checkPathExtensions kvsPath hashPath)
  let jsonValue := jsonValueFrom (.ofMap kvsMap)
  match c.stringify jsonValue with
  | none => throw .jsonGeneratorError
  | some jsonStr =>
    TaskE.write kvsPath (utf8 jsonStr)
    let hash := c.adler32 (utf8 jsonStr)
    TaskE.write hashPath (BigEndian.toBytes hash)

variable (self : JsonBackend)

def rotateTask (instanceId : InstanceId) : Nat → FsTask Unit
  | 0 => pure ()
  | old + 1 => do
    let hashPathOld := self.hashFilePath instanceId old
    let snapPathOld := self.kvsFilePath instanceId old
    let snapOldExists ← TaskE.exists snapPathOld
    let hashOldExists ← TaskE.exists hashPathOld
    if !snapOldExists && !hashOldExists then rotateTask instanceId old
    else if !snapOldExists || !hashOldExists then throw .integrityCorrupted
    else
      let hashPathNew := self.hashFilePath instanceId (old + 1)
      let snapPathNew := self.kvsFilePath instanceId (old + 1)
      renameTask hashPathOld hashPathNew
      renameTask snapPathOld snapPathNew
      rotateTask instanceId old

def loadKvsTask (c : Crates) (instanceId : InstanceId) (snapshotId : SnapshotId) :
    FsTask KvsMap :=
  loadTask c (self.kvsFilePath instanceId snapshotId) (self.hashFilePath instanceId snapshotId)

def flushTask (c : Crates) (instanceId : InstanceId) (kvsMap : KvsMap) : FsTask Unit := do
  self.rotateTask instanceId (self.snapshotMaxCount - 1)
  saveTask c kvsMap (self.kvsFilePath instanceId 0) (self.hashFilePath instanceId 0)

def countTask (instanceId : InstanceId) (idx count : Nat) : Nat → Disk.Task Path Bytes Nat
  | 0 => .done count
  | n + 1 => .read (self.kvsFilePath instanceId idx) fun b =>
    if b.isSome then countTask instanceId (idx + 1) (count + 1) n else .done count

def snapshotCountTask (instanceId : InstanceId) : Disk.Task Path Bytes Nat :=
  self.countTask instanceId 0 0 self.snapshotMaxCount

def snapshotRestoreTask (c : Crates) (instanceId : InstanceId) (snapshotId : SnapshotId) :
    FsTask KvsMap := do
  if snapshotId = 0 then throw .invalidSnapshotId
  else if (← ExceptT.lift (self.snapshotCountTask instanceId)) < snapshotId then
    throw .invalidSnapshotId
  else self.loadKvsTask c instanceId snapshotId

end JsonBackend

def Call.task (c : Crates) (parameters : KvsParameters) (data : KvsData) :
    Call → Disk.Task Path Bytes (Except ErrorCode Answer × KvsData)
  | .reset => edit (Kvs.reset data)
  | .resetKey key => edit (Kvs.resetKey key data)
  | .getAllKeys => get .keys (Kvs.getAllKeys data)
  | .keyExists key => get .boolean (Kvs.keyExists key data)
  | .getValue key => get .value (Kvs.getValue key data)
  | .getValueAs target key => get .value (Kvs.getValueAs target key data)
  | .getDefaultValue key => get .value (Kvs.getDefaultValue key data)
  | .isValueDefault key => get .boolean (Kvs.isValueDefault key data)
  | .setValue key value => edit (Kvs.setValue key value data)
  | .removeKey key => edit (Kvs.removeKey key data)
  | .flush =>
    if Kvs.snapshotMaxCount parameters = 0 then .done (.ok .unit, data)
    else do
      let r ← (parameters.backend.flushTask c parameters.instanceId data.kvsMap).run
      pure (r.map fun _ => .unit, data)
  | .snapshotCount => do
    let count ← parameters.backend.snapshotCountTask parameters.instanceId
    pure (.ok (.count count), data)
  | .snapshotMaxCount => get .count (.ok (Kvs.snapshotMaxCount parameters))
  | .snapshotRestore snapshotId => do
    match ← (parameters.backend.snapshotRestoreTask c parameters.instanceId snapshotId).run with
    | .ok kvsMap => pure (.ok .unit, { data with kvsMap })
    | .error e => pure (.error e, data)
where
  edit (r : Except ErrorCode Unit × KvsData) :
      Disk.Task Path Bytes (Except ErrorCode Answer × KvsData) :=
    .done (r.1.map fun _ => .unit, r.2)
  get {α : Type} (answer : α → Answer) (r : Except ErrorCode α) :
      Disk.Task Path Bytes (Except ErrorCode Answer × KvsData) :=
    .done (r.map answer, data)

def Call.locks (parameters : KvsParameters) : Call → Bool
  | .flush => Kvs.snapshotMaxCount parameters ≠ 0
  | .snapshotCount => false
  | .snapshotMaxCount => false
  | _ => true

section Alone

open Disk

variable (c : Crates)

theorem prog_ofExcept (r : Except ErrorCode α) :
    TaskE.prog (ofExcept r) = (Prog.query fun _ => r : FsM α) := rfl

theorem prog_readTask (p : Path) : TaskE.prog (readTask p) = Prog.query fun d => fsRead d p := by
  rw [readTask, TaskE.prog_bind, TaskE.prog_read]
  have hrest (found : Option Bytes) : TaskE.prog (match found with
      | some b => pure b
      | none => throw (.ofIo .notFound) : FsTask Bytes) =
        Prog.query fun _ => match found with
          | some b => .ok b
          | none => .error (.ofIo .notFound) := by
    cases found with
    | none => rfl
    | some b => rfl
  simp only [hrest]
  exact Prog.query_bind _ _

theorem prog_readToStringTask (p : Path) :
    TaskE.prog (readToStringTask p) = Prog.query fun d => fsReadToString d p := by
  rw [readToStringTask, TaskE.prog_bind, prog_readTask]
  have hrest (b : Bytes) : TaskE.prog (match ofUtf8? b with
      | some s => pure s
      | none => throw (.ofIo .invalidData) : FsTask String) =
        Prog.query fun _ => match ofUtf8? b with
          | some s => .ok s
          | none => .error (.ofIo .invalidData) := by
    cases ofUtf8? b with
    | none => rfl
    | some s => rfl
  simp only [hrest]
  exact Prog.query_bind _ _

theorem prog_renameTask (src dst : Path) : TaskE.prog (renameTask src dst) = fsRename src dst := by
  rw [renameTask, TaskE.prog_bind, TaskE.prog_rename, fsRename]
  congr 1
  funext found
  cases found with
  | true => rfl
  | false => rfl

namespace JsonBackend

theorem prog_loadTask (p q : Path) : TaskE.prog (loadTask c p q) = Prog.query (load c p q) := by
  rw [loadTask]
  simp only [TaskE.prog_bind, prog_ofExcept, prog_readToStringTask, prog_readTask,
    Prog.query_bind]
  congr 1

theorem prog_saveTask (m : KvsMap) (p q : Path) :
    TaskE.prog (saveTask c m p q) = save c m p q := by
  rw [saveTask, save, TaskE.prog_bind, prog_ofExcept]
  congr 1
  funext _
  cases ht : c.stringify (jsonValueFrom (.ofMap m)) with
  | none =>
    simp only [ht]
    rfl
  | some text => simp only [ht, TaskE.prog_bind, TaskE.prog_write]

variable (self : JsonBackend) (i : InstanceId)

theorem prog_rotateTask (n : Nat) : TaskE.prog (self.rotateTask i n) = self.rotateFrom i n := by
  induction n with
  | zero => rfl
  | succ n ih =>
    simp only [rotateTask, rotateFrom, TaskE.prog_bind, TaskE.prog_exists]
    congr 1
    funext snapOldExists
    congr 1
    funext hashOldExists
    cases snapOldExists <;> cases hashOldExists
    · exact ih
    · rfl
    · rfl
    · simp only [Bool.not_true, Bool.and_self, Bool.or_self, Bool.false_eq_true, ↓reduceIte,
        TaskE.prog_bind, prog_renameTask, ih]

theorem prog_flushTask (m : KvsMap) :
    TaskE.prog (self.flushTask c i m) = self.flush c i m := by
  simp only [flushTask, flush, TaskE.prog_bind, prog_rotateTask, prog_saveTask]
  rfl

theorem countTask_exec (disk : Fs) (idx count n : Nat) :
    (self.countTask i idx count n).exec disk = (count + self.countFrom i disk idx n, []) := by
  induction n generalizing idx count with
  | zero => rfl
  | succ n ih =>
    rw [countTask, countFrom, Task.exec]
    split
    · rw [ih, Nat.add_right_comm, Nat.add_assoc]
    · rfl

theorem snapshotCountTask_exec (disk : Fs) :
    (self.snapshotCountTask i).exec disk = (self.snapshotCount i disk, []) := by
  rw [snapshotCountTask, countTask_exec, Nat.zero_add]
  rfl

theorem prog_snapshotRestoreTask (s : SnapshotId) :
    TaskE.prog (self.snapshotRestoreTask c i s) = Prog.query (self.snapshotRestore c i s) := by
  rw [snapshotRestoreTask]
  split
  · rename_i hs
    subst hs
    rfl
  · rename_i hs
    have hcount : TaskE.prog (ExceptT.lift (self.snapshotCountTask i) : FsTask Nat) =
        Prog.query fun disk => .ok (self.snapshotCount i disk) := by
      funext disk
      rw [TaskE.prog_lift, snapshotCountTask_exec]
      rfl
    have hrest (count : Nat) : TaskE.prog (if count < s then throw .invalidSnapshotId
        else self.loadKvsTask c i s : FsTask KvsMap) =
          Prog.query fun disk => if count < s then .error .invalidSnapshotId
            else self.loadKvs c i s disk := by
      split
      · rfl
      · exact prog_loadTask c _ _
    rw [TaskE.prog_bind, hcount]
    simp only [hrest, Prog.query_bind]
    congr 1
    funext disk
    rw [snapshotRestore, if_neg hs]
    rfl

end JsonBackend

theorem Call.task_run (parameters : KvsParameters) (data : KvsData) (request : Call) (disk : Fs) :
    (request.task c parameters data).run disk =
      (((request.perform c parameters disk data).1, (request.perform c parameters disk data).2.1),
        (request.perform c parameters disk data).2.2) := by
  cases request with
  | flush =>
    simp only [task, perform, Kvs.flush]
    split
    · rfl
    · rw [Task.run_bind, TaskE.run_prog, JsonBackend.prog_flushTask]
      rfl
  | snapshotCount =>
    have hcount := JsonBackend.snapshotCountTask_exec parameters.backend parameters.instanceId disk
    rw [task, Task.run_bind]
    simp only [Task.run, hcount]
    rfl
  | snapshotRestore snapshotId =>
    rw [task, Task.run_bind, TaskE.run_prog, JsonBackend.prog_snapshotRestoreTask, Prog.run_query,
      perform, Kvs.snapshotRestore]
    cases parameters.backend.snapshotRestore c parameters.instanceId snapshotId disk with
    | ok m => rfl
    | error e => rfl
  | _ => rfl

end Alone

/-- The file has one of the names of the instance, in whatever directory. -/
def InstanceFile (i : InstanceId) (p : Path) : Prop :=
  ∃ f : BackendFile, f.instanceId = i ∧ p.fileName = f.fileName

/-- No two instances have a file in common, also with different backends. -/
theorem instanceFile_disjoint (i j : InstanceId) (p : Path) (hi : InstanceFile i p)
    (hj : InstanceFile j p) : i = j := by
  obtain ⟨f, rfl, hf⟩ := hi
  obtain ⟨g, rfl, hg⟩ := hj
  rw [BackendFile.fileName_injective (hf.symm.trans hg)]

section Within

open Disk TaskE

theorem readTask_within (hp : S p) : (readTask p).run.Within S := by
  apply within_bind (within_read hp)
  intro found
  cases found with
  | none => trivial
  | some b => trivial

theorem readToStringTask_within (hp : S p) : (readToStringTask p).run.Within S := by
  apply within_bind (readTask_within hp)
  intro b
  split
  · trivial
  · trivial

theorem renameTask_within (hsrc : S src) (hdst : S dst) : (renameTask src dst).run.Within S := by
  apply within_bind (within_rename hsrc hdst)
  intro found
  cases found with
  | true => trivial
  | false => trivial

namespace JsonBackend

variable (c : Crates)

theorem ofExcept_within (r : Except ErrorCode α) : (ofExcept r).run.Within S := trivial

theorem loadTask_within (hp : S p) (hq : S q) : (loadTask c p q).run.Within S := by
  apply within_bind (ofExcept_within _)
  intro _
  apply within_bind (readToStringTask_within hp)
  intro jsonStr
  apply within_bind (readTask_within hq)
  intro hashBytes
  trivial

theorem saveTask_within (m : KvsMap) (hp : S p) (hq : S q) :
    (saveTask c m p q).run.Within S := by
  apply within_bind (ofExcept_within _)
  intro _
  dsimp only
  split
  · trivial
  · exact within_bind (within_write hp _) fun _ => within_write hq _

variable (self : JsonBackend) (i : InstanceId)

theorem kvsFilePath_file (s : SnapshotId) : InstanceFile i (self.kvsFilePath i s) :=
  ⟨.kvs i s, rfl, rfl⟩

theorem hashFilePath_file (s : SnapshotId) : InstanceFile i (self.hashFilePath i s) :=
  ⟨.hash i s, rfl, rfl⟩

theorem rotateTask_within (n : Nat) : (self.rotateTask i n).run.Within (InstanceFile i) := by
  induction n with
  | zero => trivial
  | succ n ih =>
    apply within_bind (within_exists (self.kvsFilePath_file i n))
    intro snapOldExists
    apply within_bind (within_exists (self.hashFilePath_file i n))
    intro hashOldExists
    dsimp only
    split
    · exact ih
    · split
      · trivial
      · apply within_bind
          (renameTask_within (self.hashFilePath_file i n) (self.hashFilePath_file i (n + 1)))
        intro _
        apply within_bind
          (renameTask_within (self.kvsFilePath_file i n) (self.kvsFilePath_file i (n + 1)))
        intro _
        exact ih

theorem flushTask_within (m : KvsMap) : (self.flushTask c i m).run.Within (InstanceFile i) := by
  apply within_bind (self.rotateTask_within i _)
  intro _
  exact saveTask_within c m (self.kvsFilePath_file i 0) (self.hashFilePath_file i 0)

theorem countTask_within (idx count n : Nat) :
    (self.countTask i idx count n).Within (InstanceFile i) := by
  induction n generalizing idx count with
  | zero => trivial
  | succ n ih =>
    refine ⟨self.kvsFilePath_file i idx, ?_⟩
    intro b
    dsimp only
    split
    · exact ih _ _
    · trivial

theorem countTask_silent (idx count n : Nat) : (self.countTask i idx count n).Silent := by
  induction n generalizing idx count with
  | zero => trivial
  | succ n ih =>
    intro b
    dsimp only
    split
    · exact ih _ _
    · trivial

theorem snapshotRestoreTask_within (s : SnapshotId) :
    (self.snapshotRestoreTask c i s).run.Within (InstanceFile i) := by
  unfold snapshotRestoreTask
  split
  · trivial
  · apply within_bind (within_lift (self.countTask_within i 0 0 _))
    intro count
    split
    · trivial
    · exact loadTask_within c (self.kvsFilePath_file i s) (self.hashFilePath_file i s)

end JsonBackend

variable (c : Crates) (parameters : KvsParameters) (data : KvsData)

theorem Call.task_within (request : Call) :
    (request.task c parameters data).Within (InstanceFile parameters.instanceId) := by
  cases request with
  | flush =>
    rw [task]
    split
    · trivial
    · exact Task.Within.bind (JsonBackend.flushTask_within c _ _ _) fun _ => trivial
  | snapshotCount =>
    exact Task.Within.bind (JsonBackend.countTask_within _ _ _ _ _) fun _ => trivial
  | snapshotRestore snapshotId =>
    apply Task.Within.bind (JsonBackend.snapshotRestoreTask_within c _ _ _)
    intro r
    cases r with
    | ok m => trivial
    | error e => trivial
  | _ => trivial

section Silent

open JsonBackend

theorem JsonBackend.ofExcept_silent (r : Except ErrorCode α) : (ofExcept r).run.Silent := trivial

theorem JsonBackend.loadTask_silent (p q : Path) : (loadTask c p q).run.Silent := by
  have hread (p : Path) : (readTask p).run.Silent := by
    apply silent_bind (silent_read p)
    intro found
    cases found with
    | none => trivial
    | some b => trivial
  have hstring : (readToStringTask p).run.Silent := by
    apply silent_bind (hread p)
    intro b
    split
    · trivial
    · trivial
  apply silent_bind (ofExcept_silent _)
  intro _
  apply silent_bind hstring
  intro jsonStr
  apply silent_bind (hread q)
  intro hashBytes
  trivial

theorem JsonBackend.snapshotRestoreTask_silent (self : JsonBackend) (i : InstanceId)
    (s : SnapshotId) : (self.snapshotRestoreTask c i s).run.Silent := by
  unfold snapshotRestoreTask
  split
  · trivial
  · apply silent_bind (silent_lift (self.countTask_silent i 0 0 _))
    intro count
    split
    · trivial
    · exact loadTask_silent c _ _

/-- Only a flush changes files, and only when there are snapshots. -/
theorem Call.task_silent (request : Call)
    (h : request = .flush → Kvs.snapshotMaxCount parameters = 0) :
    (request.task c parameters data).Silent := by
  cases request with
  | flush =>
    rw [task, if_pos (h rfl)]
    trivial
  | snapshotCount => exact Task.Silent.bind (countTask_silent _ _ _ _ _) fun _ => trivial
  | snapshotRestore snapshotId =>
    apply Task.Silent.bind (snapshotRestoreTask_silent c _ _ _)
    intro r
    cases r with
    | ok m => trivial
    | error e => trivial
  | _ => trivial

theorem Call.task_silent_of_unlocked (request : Call) (h : request.locks parameters = false) :
    (request.task c parameters data).Silent := by
  apply request.task_silent c parameters data
  rintro rfl
  simpa [locks] using h

end Silent

end Within

end Persistency.Rust
