import Persistency.Library.Guarded
import Persistency.Rust.Refinement
import Persistency.Rust.Tasks

namespace Persistency.Rust
set_option autoImplicit true

/-- The parameters of the handles of a process, one for each instance. -/
structure Handles where
  parameters : InstanceId → KvsParameters
  instanceId : ∀ i, (parameters i).instanceId = i

namespace Handles

variable (c : Crates) (h : Handles)

/-- The data of an instance is locked while a call works on it, also while the call works on the
files; a call waits for the lock. -/
def calls : Guarded.Calls InstanceId Call (Except ErrorCode Answer) KvsData Path Bytes where
  locks i := Call.locks (h.parameters i)
  busy _ _ := none
  task i request data := request.task c (h.parameters i) data
  files := InstanceFile
  within i request data := by
    have hwithin := request.task_within c (h.parameters i) data
    rwa [h.instanceId] at hwithin
  disjoint := instanceFile_disjoint
  silent i request data := request.task_silent_of_unlocked c (h.parameters i) data

def perform (s : (InstanceId → KvsData) × Fs) (r : InstanceId × Call) :
    ((InstanceId → KvsData) × Fs) × Except ErrorCode Answer :=
  let (reply, data, disk) := r.2.perform c (h.parameters r.1) s.2 (s.1 r.1)
  ((Function.update s.1 r.1 data, disk), reply)

theorem serialStep_eq : (h.calls c).serialStep = h.perform c := by
  funext s r
  simp only [Guarded.Calls.serialStep, calls, Call.task_run, perform]

def abstract (s : InstanceId → History) (r : InstanceId × Call) :
    (InstanceId → History) × Option Answer :=
  let (store, reply) := (s r.1).call (h.parameters r.1).backend.snapshotMaxCount r.2
  (Function.update s r.1 store, reply)

/-- The data and the slots of an instance are those of an abstract store. -/
structure Holds (i : InstanceId) (data : KvsData) (disk : Fs) (s : History) : Prop where
  data : data = ⟨s.cur, s.defaults⟩
  keeps : Keeps c (h.parameters i).backend i s.hist disk
  exact : s.Exact

def Stand (w : (InstanceId → KvsData) × Fs) (stores : InstanceId → History) : Prop :=
  ∀ i, h.Holds c i (w.1 i) w.2 (stores i)

variable {c} {h}

theorem Holds.congr {i : InstanceId} {held : KvsData} {disk disk' : Fs} {s : History}
    (hs : h.Holds c i held disk s) (hdisk : ∀ p, InstanceFile i p → disk' p = disk p) :
    h.Holds c i held disk' s := by
  obtain ⟨texts, hslots, hall⟩ := hs.keeps.texts
  refine ⟨hs.data, ⟨⟨texts, hslots.congr ?_ ?_, hall⟩, hs.keeps.bound⟩, hs.exact⟩
  · intro id
    exact hdisk _ (JsonBackend.kvsFilePath_file _ i id)
  · intro id
    exact hdisk _ (JsonBackend.hashFilePath_file _ i id)

theorem perform_frame {w : (InstanceId → KvsData) × Fs} {r : InstanceId × Call} {p : Path}
    (hp : ¬ InstanceFile r.1 p) : (h.perform c w r).1.2 p = w.2 p := by
  have hwithin := r.2.task_within c (h.parameters r.1) (w.1 r.1)
  rw [h.instanceId] at hwithin
  have hframe := hwithin.run_frame hp w.2
  rwa [Call.task_run] at hframe

theorem Holds.call (hc : c.TinyJson) {i : InstanceId} {held : KvsData} {disk : Fs} {s : History}
    (hs : h.Holds c i held disk s) (request : Call) (hr : request.Exact) :
    let r := request.perform c (h.parameters i) disk held
    let r' := s.call (h.parameters i).backend.snapshotMaxCount request
    h.Holds c i r.2.1 r.2.2 r'.1 ∧ r.1.toOption = r'.2 := by
  have hm : Matches c (h.parameters i) (request.perform c (h.parameters i) disk held)
      (s.call (h.parameters i).backend.snapshotMaxCount request) := by
    rw [hs.data]
    apply request.perform_matches hc hs.exact
    rw [h.instanceId]
    exact hs.keeps
  have hkeeps := hm.keeps
  rw [h.instanceId] at hkeeps
  exact ⟨⟨hm.data, hkeeps, hs.exact.call _ request hr⟩, hm.reply⟩

theorem Stand.step (hc : c.TinyJson) {w : (InstanceId → KvsData) × Fs}
    {stores : InstanceId → History} (hs : h.Stand c w stores) (r : InstanceId × Call)
    (hr : r.2.Exact) :
    h.Stand c (h.perform c w r).1 (h.abstract stores r).1 ∧
      (h.perform c w r).2.toOption = (h.abstract stores r).2 := by
  obtain ⟨i, request⟩ := r
  obtain ⟨hholds, hreply⟩ := (hs i).call hc request hr
  refine ⟨?_, hreply⟩
  intro j
  by_cases hji : j = i
  · subst hji
    simp only [perform, abstract, Function.update_self]
    exact hholds
  · simp only [perform, abstract, Function.update_of_ne hji]
    apply (hs j).congr
    intro p hp
    apply perform_frame (h := h) (r := (i, request))
    intro hp'
    exact hji (instanceFile_disjoint j i p hp hp')

def single : Handles := ⟨fun i => ⟨i, .optional, .optional, .default⟩, fun _ => rfl⟩

def overlap : List (Guarded.Action InstanceId Nat Call) :=
  [.call 0 0 (.setValue "answer" (.i32 42)), .lock 0, .call 1 0 .flush,
    .call 2 1 (.getValue "answer"), .unlock 0, .lock 1, .advance 1, .lock 2, .unlock 2, .advance 1]

theorem exec_overlap (c : Crates) : ∃ s, Transition.exec (single.calls c).step
    (.start (fun _ => ⟨.empty, .empty⟩) fun _ => none) overlap = some s ∧ s.holder 0 = some 1 ∧
      s.log.map Guarded.Entry.call =
        [(0, .setValue "answer" (.i32 42)), (1, .getValue "answer")] :=
  ⟨_, rfl, rfl, rfl⟩

theorem single_stand (c : Crates) :
    single.Stand c (fun _ => ⟨.empty, .empty⟩, fun _ => none) fun _ => .start := by
  intro i
  exact ⟨rfl, .empty (fun _ => rfl) fun _ => rfl, jsonExact_empty, fun m hm => by cases hm⟩

section Threads

abbrev Config (T : Type) :=
  Guarded.State InstanceId T Call (Except ErrorCode Answer) KvsData Path Bytes

/-- The abstract store of an instance after the calls of the log. -/
def store (h : Handles) (stores : InstanceId → History) (s : Config T) (i : InstanceId) : History :=
  (Transition.run h.abstract stores (s.log.map Guarded.Entry.call)).1 i

variable {T : Type} [DecidableEq T] {data : InstanceId → KvsData} {disk : Fs}
  {acts : List (Guarded.Action InstanceId T Call)}
  {s : Config T} {stores : InstanceId → History}

structure Runs (c : Crates) (h : Handles) (stores : InstanceId → History) (s : Config T) :
    Prop where
  base : ∃ base, (h.calls c).Stands base s ∧ h.Stand c base (h.store stores s)
  replies : s.log.map (fun e => e.reply.toOption) =
    (Transition.run h.abstract stores (s.log.map Guarded.Entry.call)).2

omit [DecidableEq T] in
theorem runs_of_serial (hc : c.TinyJson) (hstart : h.Stand c (data, disk) stores)
    (hserial : Guarded.Calls.Serial (h.calls c) (data, disk) s)
    (hasked : Guarded.Calls.Asked (fun r => r.2.Exact) s) : Runs c h stores s := by
  obtain ⟨hstands, hreplies⟩ := hserial
  rw [Guarded.Calls.serial, serialStep_eq] at hstands hreplies
  have hexact : ∀ r ∈ s.log.map Guarded.Entry.call, r.2.Exact := by
    intro r hr
    obtain ⟨e, he, rfl⟩ := List.mem_map.1 hr
    exact hasked.log e he
  obtain ⟨hends, hos⟩ := Transition.run_simulates (R := h.Stand c) (Q := fun r => r.2.Exact)
    (E := fun r o => Except.toOption r = o) (fun _ _ r hs hr => hs.step hc r hr) hstart _ hexact
  rw [← List.forall₂_map_left_iff, List.forall₂_eq_eq_eq, hreplies, List.map_map] at hos
  exact ⟨⟨_, hstands, hends⟩, hos⟩

/-- Whatever the interleaving of the steps of all threads, the calls that lock the data reply as
they do one after the other, in the order in which they return, and leave the same data and files.
All calls under way can be brought to their ends. -/
theorem calls_serializable
    (hrun : Transition.exec (h.calls c).step (.start data disk) acts = some s) :
    let r := Transition.run (h.perform c) (data, disk) (s.log.map Guarded.Entry.call)
    s.log.map Guarded.Entry.reply = r.2 ∧ s.memory = r.1.1 ∧
      (∀ i, s.holder i = none → ∀ p, InstanceFile i p → s.disk p = r.1.2 p) ∧
      ((∀ i, s.holder i = none) → s.disk = r.1.2) ∧
      ∃ acts' s', Transition.exec (h.calls c).step s acts' = some s' ∧
        ∀ t, s'.phase t = .idle := by
  obtain ⟨hreplies, hmemory, hfiles, hdisk⟩ := Guarded.Calls.serializable hrun
  rw [Guarded.Calls.serial, serialStep_eq] at hreplies hmemory hfiles hdisk
  exact ⟨hreplies, hmemory, hfiles, hdisk, Guarded.Calls.can_quiesce hrun⟩

theorem calls_serializable_overlap : ∃ (c : Crates) (s : _),
    Transition.exec (single.calls c).step (.start (fun _ => ⟨.empty, .empty⟩) fun _ => none)
      overlap = some s ∧ s.holder 0 = some 1 ∧
    s.log.map Guarded.Entry.reply = [.ok .unit, .error .keyNotFound] := by
  obtain ⟨c, -⟩ := exists_crates answer answer_exact.1 answerText
  obtain ⟨s, hrun, hholder, hlog⟩ := exec_overlap c
  refine ⟨c, s, hrun, hholder, ?_⟩
  rw [(calls_serializable hrun).1, hlog]
  rfl

/-- A linearization: in every interleaving the calls that lock the data reply as the abstract
stores do in the order of the returns. The data of every instance are those of its store, and so
are the slots of an instance whose data are not locked. -/
theorem calls_refine (hc : c.TinyJson)
    (hstart : h.Stand c (data, disk) stores)
    (hacts : ∀ t i request, .call t i request ∈ acts → request.Exact)
    (hrun : Transition.exec (h.calls c).step (.start data disk) acts = some s) :
    let r := Transition.run h.abstract stores (s.log.map Guarded.Entry.call)
    s.log.map (fun e => e.reply.toOption) = r.2 ∧
      ∀ i, s.memory i = ⟨(r.1 i).cur, (r.1 i).defaults⟩ ∧
        (s.holder i = none → Keeps c (h.parameters i).backend i (r.1 i).hist s.disk) := by
  obtain ⟨⟨base, hstands, hstand⟩, hreplies⟩ := runs_of_serial hc hstart
    (Guarded.Calls.serial_reachable hrun) (Guarded.Calls.asked_reachable hacts hrun)
  refine ⟨hreplies, ?_⟩
  intro i
  refine ⟨(congrFun hstands.memory i).trans (hstand i).data, ?_⟩
  intro hfree
  exact ((hstand i).congr (hstands.free i hfree)).keeps

theorem calls_refine_overlap : ∃ (c : Crates) (s : _), c.TinyJson ∧
    Transition.exec (single.calls c).step (.start (fun _ => ⟨.empty, .empty⟩) fun _ => none)
      overlap = some s ∧
    s.log.map (fun e => e.reply.toOption) = [some .unit, none] ∧
      s.memory 0 = ⟨answer, .empty⟩ := by
  obtain ⟨c, hc, -⟩ := exists_crates answer answer_exact.1 answerText
  obtain ⟨s, hrun, -, hlog⟩ := exec_overlap c
  have hacts : ∀ t i request, .call t i request ∈ overlap → request.Exact := by
    intro t i request hmem
    simp only [overlap, List.mem_cons, List.not_mem_nil, or_false] at hmem
    simp only [Guarded.Action.call.injEq, reduceCtorEq, false_or, or_false] at hmem
    rcases hmem with ⟨-, -, rfl⟩ | ⟨-, -, rfl⟩ | ⟨-, -, rfl⟩
    · exact ⟨trivial, trivial⟩
    · trivial
    · trivial
  have h := calls_refine hc (single_stand c) hacts hrun
  rw [hlog] at h
  exact ⟨c, s, hc, hrun, h.1, (h.2 0).1⟩

end Threads

end Handles

end Persistency.Rust
