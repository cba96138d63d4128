import Persistency.Rust.Codec

namespace Persistency.Rust
set_option autoImplicit true

inductive BackendFile where
  | kvs (instanceId : InstanceId) (snapshotId : SnapshotId)
  | hash (instanceId : InstanceId) (snapshotId : SnapshotId)
  | defaults (instanceId : InstanceId)
  | defaultsHash (instanceId : InstanceId)
  deriving DecidableEq

namespace BackendFile

def fileName : BackendFile → String
  | .kvs i s => JsonBackend.kvsFileName i s
  | .hash i s => JsonBackend.hashFileName i s
  | .defaults i => JsonBackend.defaultsFileName i
  | .defaultsHash i => JsonBackend.defaultsHashFileName i

def instanceId : BackendFile → InstanceId
  | .kvs i _ => i
  | .hash i _ => i
  | .defaults i => i
  | .defaultsHash i => i

/-- What stands between the instance and the extension. -/
def suffix : BackendFile → String
  | .kvs _ s => s.repr
  | .hash _ s => s.repr
  | .defaults _ => "default"
  | .defaultsHash _ => "default"

def isHash : BackendFile → Bool
  | .kvs _ _ => false
  | .hash _ _ => true
  | .defaults _ => false
  | .defaultsHash _ => true

theorem fileName_eq (f : BackendFile) : f.fileName =
    "kvs_" ++ f.instanceId.repr ++ "_" ++ f.suffix ++ if f.isHash then ".hash" else ".json" := by
  have hdefault : "_default" = "_" ++ "default" := rfl
  cases f with
  | kvs i s => exact JsonBackend.kvsFileName_eq i s
  | hash i s => exact JsonBackend.hashFileName_eq i s
  | defaults i =>
    rw [fileName, JsonBackend.defaultsFileName_eq, hdefault, ← String.append_assoc]
    rfl
  | defaultsHash i =>
    rw [fileName, JsonBackend.defaultsHashFileName_eq, hdefault, ← String.append_assoc]
    rfl

theorem fileName_injective : Function.Injective fileName := by
  intro f g h
  rw [fileName_eq, fileName_eq] at h
  have hhash : f.isHash = g.isHash := by
    cases hf : f.isHash <;> cases hg : g.isHash <;> rw [hf, hg] at h
    · exact absurd h (FileNames.json_ne_hash _ _)
    · exact absurd h.symm (FileNames.json_ne_hash _ _)
  rw [hhash, String.append_left_inj] at h
  obtain ⟨hinstance, hsuffix⟩ := FileNames.separated_injective h
  cases f <;> cases g <;> cases hhash <;> cases hinstance
  · rw [Nat.repr_injective hsuffix]
  · exact absurd hsuffix (FileNames.repr_ne_default _)
  · rw [Nat.repr_injective hsuffix]
  · exact absurd hsuffix (FileNames.repr_ne_default _)
  · exact absurd hsuffix.symm (FileNames.repr_ne_default _)
  · rfl
  · exact absurd hsuffix.symm (FileNames.repr_ne_default _)
  · rfl

def path (workingDir : String) (f : BackendFile) : Path := ⟨workingDir, f.fileName⟩

theorem path_injective (workingDir : String) : Function.Injective (path workingDir) :=
  fun _ _ h => fileName_injective (congrArg Path.fileName h)

end BackendFile

inductive BackendCall where
  | loadKvs (snapshotId : SnapshotId)
  | loadDefaults
  | flush (kvsMap : KvsMap)
  | snapshotCount
  | snapshotRestore (snapshotId : SnapshotId)

inductive BackendAnswer where
  | unit
  | count (n : Nat)
  | map (m : KvsMap)

def BackendCall.perform (c : Crates) (backend : JsonBackend) (i : InstanceId) :
    BackendCall → FsM BackendAnswer
  | .loadKvs id => Disk.Prog.query fun disk => (backend.loadKvs c i id disk).map .map
  | .loadDefaults => Disk.Prog.query fun disk => (backend.loadDefaults c i disk).map .map
  | .flush m => do
    backend.flush c i m
    pure .unit
  | .snapshotCount => Disk.Prog.query fun disk => .ok (.count (backend.snapshotCount i disk))
  | .snapshotRestore id =>
    Disk.Prog.query fun disk => (backend.snapshotRestore c i id disk).map .map

/-- A call to a backend that keeps some number of snapshots. The file system may fail at one of
its steps, and a failed write leaves some contents or none. -/
structure Attempt where
  snapshotMaxCount : Nat
  call : BackendCall
  failure : Option (Nat × Option Bytes)

def Attempt.step (c : Crates) (workingDir : String) (i : InstanceId) (disk : Fs)
    (attempt : Attempt) : Fs :=
  let call := attempt.call.perform c ⟨workingDir, attempt.snapshotMaxCount⟩ i
  match attempt.failure with
  | none => (call.run disk).2
  | some (n, left) => call.fail n left disk

def attemptAll (c : Crates) (workingDir : String) (i : InstanceId) (attempts : List Attempt)
    (disk : Fs) : Fs :=
  attempts.foldl (Attempt.step c workingDir i) disk

/-- What can be read of instance `j` and of the defaults of instance `i`, by any backend in the
directory. -/
def SameReads (c : Crates) (workingDir : String) (i j : InstanceId) (disk disk' : Fs) : Prop :=
  ∀ snapshotMaxCount, let backend : JsonBackend := ⟨workingDir, snapshotMaxCount⟩
    (∀ id, backend.loadKvs c j id disk' = backend.loadKvs c j id disk) ∧
    (∀ id, backend.snapshotRestore c j id disk' = backend.snapshotRestore c j id disk) ∧
    backend.snapshotCount j disk' = backend.snapshotCount j disk ∧
    backend.loadDefaults c j disk' = backend.loadDefaults c j disk ∧
    backend.loadDefaults c i disk' = backend.loadDefaults c i disk

section Isolation

variable (c : Crates) (workingDir : String) (i : InstanceId)

theorem perform_within (snapshotMaxCount : Nat) (call : BackendCall) :
    Disk.Prog.Within (IsSlot ⟨workingDir, snapshotMaxCount⟩ i)
      (call.perform c ⟨workingDir, snapshotMaxCount⟩ i) := by
  cases call with
  | flush m => exact Disk.Prog.Within.bind (flush_within c _ i m) fun _ => Disk.Prog.within_pure _
  | loadKvs id => exact Disk.Prog.within_query _
  | loadDefaults => exact Disk.Prog.within_query _
  | snapshotCount => exact Disk.Prog.within_query _
  | snapshotRestore id => exact Disk.Prog.within_query _

theorem step_frame (hp : ¬ IsSlot ⟨workingDir, 0⟩ i p) (attempt : Attempt) (disk : Fs) :
    attempt.step c workingDir i disk p = disk p := by
  obtain ⟨snapshotMaxCount, call, failure⟩ := attempt
  have hwithin := perform_within c workingDir i snapshotMaxCount call
  cases failure with
  | none => exact hwithin.run_frame hp disk
  | some failure => exact hwithin.fail_frame hp failure.1 failure.2 disk

theorem attemptAll_frame (hp : ¬ IsSlot ⟨workingDir, 0⟩ i p) (attempts : List Attempt)
    (disk : Fs) : attemptAll c workingDir i attempts disk p = disk p := by
  induction attempts generalizing disk with
  | nil => rfl
  | cons attempt attempts ih =>
    rw [attemptAll, List.foldl_cons]
    exact (ih _).trans (step_frame c workingDir i hp attempt disk)

theorem path_notSlot (f : BackendFile) (hkvs : ∀ s, f ≠ .kvs i s) (hhash : ∀ s, f ≠ .hash i s) :
    ¬ IsSlot ⟨workingDir, 0⟩ i (f.path workingDir) := by
  rintro ⟨s, hs | hs⟩
  · exact hkvs s (BackendFile.path_injective workingDir hs)
  · exact hhash s (BackendFile.path_injective workingDir hs)

end Isolation

/-- Whatever is attempted on instance `i` leaves what can be read of another instance, and of the
defaults, as it was. -/
theorem instances_isolated (c : Crates) (workingDir : String) (hij : i ≠ j)
    (attempts : List Attempt) (disk : Fs) :
    SameReads c workingDir i j disk (attemptAll c workingDir i attempts disk) ∧
      Function.Injective BackendFile.fileName := by
  apply And.intro _ BackendFile.fileName_injective
  have hframe (f : BackendFile) (hkvs : ∀ s, f ≠ .kvs i s) (hhash : ∀ s, f ≠ .hash i s) :
      attemptAll c workingDir i attempts disk (f.path workingDir) = disk (f.path workingDir) :=
    attemptAll_frame c workingDir i (path_notSlot workingDir i f hkvs hhash) attempts disk
  have hother {f : BackendFile} (hf : f.instanceId = j) :
      attemptAll c workingDir i attempts disk (f.path workingDir) = disk (f.path workingDir) := by
    apply hframe f
    · rintro s rfl
      exact hij hf
    · rintro s rfl
      exact hij hf
  intro snapshotMaxCount backend
  have hkvs (s : SnapshotId) : attemptAll c workingDir i attempts disk (backend.kvsFilePath j s) =
      disk (backend.kvsFilePath j s) := @hother (.kvs j s) rfl
  have hhash (s : SnapshotId) : attemptAll c workingDir i attempts disk (backend.hashFilePath j s) =
      disk (backend.hashFilePath j s) := @hother (.hash j s) rfl
  refine ⟨loadKvs_congr hkvs hhash, snapshotRestore_congr hkvs hhash, snapshotCount_congr hkvs,
    ?_, ?_⟩
  · exact load_congr (@hother (.defaults j) rfl) (@hother (.defaultsHash j) rfl)
  · exact load_congr (hframe (.defaults i) nofun nofun) (hframe (.defaultsHash i) nofun nofun)

theorem instances_isolated_two : ∃ c : Crates, c.TinyJson ∧
    c.stringify (jsonValueFrom (.ofMap answer)) = some answerText ∧
    SameReads c "" 1 12 (fun _ => none) (attemptAll c "" 1 [⟨3, .flush answer, none⟩,
      ⟨3, .flush answer, some (2, some [0x7b])⟩, ⟨2, .snapshotRestore 1, none⟩] fun _ => none) ∧
      Function.Injective BackendFile.fileName := by
  obtain ⟨c, hc, -, ht⟩ := exists_crates answer answer_exact.1 answerText
  exact ⟨c, hc, ht, instances_isolated c "" (by decide) _ _⟩

end Persistency.Rust
