import Persistency.Rust.FailedFlush

namespace Persistency.Rust
set_option autoImplicit true

inductive Event (c : Crates) where
  | act (action : Action c)
  /-- A flush that stops at its step `n`, where a write leaves some contents in its file. -/
  | interrupted (n : Nat) (left : Option Bytes)

/-- A world with the map of the latest successful flush, and those of the flushes since then that
failed or were interrupted, as they load. -/
structure Trace where
  world : World
  candidates : List KvsMap

section Step

variable (c : Crates) (backend : JsonBackend) (i : InstanceId)

/-- The map that a flush would write, as it loads. -/
def World.attempted (w : World) : List KvsMap :=
  match w.handle with
  | .ok kvs => [decoded (w.process.cells kvs.data).kvsMap]
  | .error _ => []

def Event.step (t : Trace) : Event c → Trace × Except ErrorCode Answer
  | .act (.call .flush) =>
    match t.world.call c .flush with
    | (world, .ok answer) => (⟨world, t.world.attempted⟩, .ok answer)
    | (world, .error e) => (⟨world, t.world.attempted ++ t.candidates⟩, .error e)
  | .act action =>
    let r := action.step backend i t.world
    ({ t with world := r.1 }, r.2)
  | .interrupted n left =>
    match t.world.handle with
    | .ok kvs =>
      let flush := Kvs.flush kvs.parameters c (t.world.process.cells kvs.data)
      let disk := flush.fail n left t.world.disk
      (⟨{ t.world with disk }, t.world.attempted ++ t.candidates⟩, .error .physicalStorageFailure)
    | .error e => (t, .error e)

def Linked (w : World) : Prop :=
  ∀ kvs, w.handle = .ok kvs →
    kvs.parameters.backend = backend ∧ kvs.parameters.instanceId = i

inductive Effect (t : Trace) : Event c → Trace × Except ErrorCode Answer → Prop
  | act (ha : action ≠ .call .flush)
    (hdisk : world.disk = t.world.disk ∨
      ∃ text, world.disk = deploy c backend i text t.world.disk) :
    Effect t (.act action) (⟨world, t.candidates⟩, reply)
  | flush (hkvs : t.world.handle = .ok kvs) (hm : (t.world.process.cells kvs.data).kvsMap = m)
    (hrun : (backend.flush c i m).run t.world.disk = (.ok (), world.disk)) :
    Effect t (.act (.call .flush)) (⟨world, [decoded m]⟩, .ok .unit)
  | flushError (hkvs : t.world.handle = .ok kvs)
    (hm : (t.world.process.cells kvs.data).kvsMap = m)
    (hrun : (backend.flush c i m).run t.world.disk = (.error e, world.disk)) :
    Effect t (.act (.call .flush)) (⟨world, decoded m :: t.candidates⟩, .error e)
  | interrupted (hdisk : world.disk = (backend.flush c i m).fail n left t.world.disk) :
    Effect t (.interrupted n left) (⟨world, decoded m :: t.candidates⟩, reply)
  | dead (hdead : t.world.handle = .error e') : Effect t e (t, .error e')

variable {c backend i} {t : Trace}

theorem Event.step_act (t : Trace) (a : Action c) :
    (Event.step c backend i t (.act a)).1.world = (a.step backend i t.world).1 := by
  cases a with
  | restart defaults => rfl
  | call request =>
    cases request with
    | flush =>
      simp only [Event.step, Action.step]
      split
      · rename_i hcall
        rw [hcall]
      · rename_i hcall
        rw [hcall]
    | _ => rfl

/-- Without interruptions the events are the calls and restarts of a program. -/
theorem Event.run_act (t : Trace) (as : List (Action c)) :
    (Transition.run (Event.step c backend i) t (as.map .act)).1.world =
      (Transition.run (Action.step backend i) t.world as).1 := by
  induction as generalizing t with
  | nil => rfl
  | cons a as ih => rw [List.map_cons, Transition.run, ih, Event.step_act, Transition.run]

theorem KvsBuilder.build_start_ok {self : KvsBuilder} (hi : self.instanceId < kvsMaxInstances)
    (hbuild : (self.build c disk .start).1 = .ok kvs) :
    kvs.parameters = self.parameters ∧
      self.load c disk = .ok ((self.build c disk .start).2.cells kvs.data) := by
  cases hload : self.load c disk with
  | error e =>
    rw [self.build_start_error hi hload] at hbuild
    cases hbuild
  | ok data =>
    obtain ⟨process, hstart, hcell⟩ := self.build_start hi hload
    rw [hstart] at hbuild
    cases hbuild
    rw [hstart]
    exact ⟨rfl, congrArg _ hcell.symm⟩

theorem kvs_flush_eq {parameters : KvsParameters} (hmax : 1 < parameters.backend.snapshotMaxCount)
    (data : KvsData) : Kvs.flush parameters c data =
      parameters.backend.flush c parameters.instanceId data.kvsMap :=
  if_neg (by rw [Kvs.snapshotMaxCount]; omega)

theorem World.call_handle (w : World) (request : Call) :
    (w.call c request).1.handle = w.handle := by
  unfold World.call
  split
  · rfl
  · rfl

theorem World.call_disk {w : World} {request : Call} (h : request ≠ .flush) :
    (w.call c request).1.disk = w.disk := by
  unfold World.call
  cases w.handle with
  | error e => rfl
  | ok kvs => exact perform_disk h c _ _ _

theorem Linked.call (h : Linked backend i w) (request : Call) :
    Linked backend i (w.call c request).1 := by
  intro kvs hkvs
  rw [World.call_handle] at hkvs
  exact h kvs hkvs

theorem Linked.restart (hi : i < kvsMaxInstances) (w : World) (d : Defaults c) :
    Linked backend i (Action.step backend i w (.restart d)).1 := by
  intro kvs hkvs
  rw [(KvsBuilder.build_start_ok hi hkvs).1]
  exact ⟨rfl, rfl⟩

theorem Linked.step (h : Linked backend i t.world) (hi : i < kvsMaxInstances) (e : Event c) :
    Linked backend i (e.step c backend i t).1.world := by
  cases e with
  | interrupted n left =>
    obtain ⟨⟨disk, process, handle⟩, candidates⟩ := t
    cases handle with
    | error e => exact h
    | ok kvs => exact h
  | act action =>
    cases action with
    | restart defaults => exact .restart hi t.world defaults
    | call request =>
      cases request with
      | flush =>
        have hflush := h.call (c := c) .flush
        simp only [Event.step]
        split
        · rename_i hworld
          rwa [hworld] at hflush
        · rename_i hworld
          rwa [hworld] at hflush
      | _ => exact h.call _

theorem step_flush_effect (h : Linked backend i t.world) (hmax : 1 < backend.snapshotMaxCount) :
    Effect c backend i t (.act (.call .flush))
      (Event.step c backend i t (.act (.call .flush))) := by
  obtain ⟨⟨disk, process, handle⟩, candidates⟩ := t
  cases handle with
  | error e => exact .dead rfl
  | ok kvs =>
    obtain ⟨rfl, rfl⟩ := h kvs rfl
    cases hrun : (kvs.parameters.backend.flush c kvs.parameters.instanceId
        (process.cells kvs.data).kvsMap).run disk with
    | mk r disk' =>
      have hcall : World.call c ⟨disk, process, .ok kvs⟩ .flush =
          (⟨disk', process.store kvs.data (process.cells kvs.data), .ok kvs⟩,
            r.map fun _ => .unit) := by
        simp only [World.call, Call.perform, kvs_flush_eq hmax, hrun]
      simp only [Event.step, hcall]
      cases r with
      | ok u => exact .flush rfl rfl hrun
      | error e => exact .flushError rfl rfl hrun

theorem step_effect (h : Linked backend i t.world) (hmax : 1 < backend.snapshotMaxCount)
    (e : Event c) : Effect c backend i t e (e.step c backend i t) := by
  cases e with
  | interrupted n left =>
    obtain ⟨⟨disk, process, handle⟩, candidates⟩ := t
    cases handle with
    | error e => exact .dead rfl
    | ok kvs =>
      obtain ⟨rfl, rfl⟩ := h kvs rfl
      simp only [Event.step, kvs_flush_eq hmax]
      exact .interrupted rfl
  | act action =>
    cases action with
    | restart defaults => exact .act (by simp) (.inr ⟨defaults.text, rfl⟩)
    | call request =>
      by_cases hrequest : request = .flush
      · subst hrequest
        exact step_flush_effect h hmax
      · have hne : (Action.call request : Action c) ≠ .call .flush := by simpa using hrequest
        have hdisk : (t.world.call c request).1.disk = t.world.disk := World.call_disk hrequest
        have hact : Effect c backend i t (.act (.call request))
          (⟨(t.world.call c request).1, t.candidates⟩, (t.world.call c request).2) :=
            .act hne (.inl hdisk)
        cases request with
        | flush => exact absurd rfl hrequest
        | _ => exact hact

end Step

end Persistency.Rust
