import Persistency.Library.Transition
import Persistency.Rust.Snapshots
import Persistency.Rust.Store

namespace Persistency.Rust
set_option autoImplicit true

/-- The data and the files behind a handle, with the map of the latest flush that returned `Ok`. -/
structure Session where
  data : KvsData
  disk : Fs
  last : Option KvsMap

def Session.step (c : Crates) (parameters : KvsParameters) (s : Session) (request : Call) :
    Session × Except ErrorCode Answer :=
  let r := request.perform c parameters s.disk s.data
  match request, r.1 with
  | .flush, .ok _ => (⟨r.2.1, r.2.2, some s.data.kvsMap⟩, r.1)
  | _, _ => (⟨r.2.1, r.2.2, s.last⟩, r.1)

/-- After the call, slot `0` loads as the latest map whose flush returned `Ok`, and if the call was
a flush that failed then every slot loads as before. -/
def Safe (c : Crates) (parameters : KvsParameters) (s : Session) (request : Call) : Prop :=
  let r := s.step c parameters request
  let load := parameters.backend.loadKvs c parameters.instanceId
  (∀ m, r.1.last = some m → load 0 r.1.disk = .ok m) ∧
    (request = .flush → r.2.isOk = false → ∀ id, load id r.1.disk = load id s.disk)

/-- The call is no flush, or flushes a map that can be written and whose integers fit, or flushes
a map that cannot be written while there is no snapshot to rename. -/
def Writable (parameters : KvsParameters) (s : Session) (request : Call) : Prop :=
  request = .flush →
    ((KvsValue.ofMap s.data.kvsMap).Finite ∧ IntegersFit (.ofMap s.data.kvsMap)) ∨
    (¬ (KvsValue.ofMap s.data.kvsMap).Finite ∧
      (parameters.backend.snapshotMaxCount = 1 ∨ s.last = none))

structure Session.Good (c : Crates) (parameters : KvsParameters) (s : Session) : Prop where
  keeps : ∃ hist, Keeps c parameters.backend parameters.instanceId hist s.disk ∧
    s.last = hist.head?

variable {c : Crates} {parameters : KvsParameters} {s : Session}

theorem Session.Good.load (h : s.Good c parameters) (hs : s.last = some m) :
    parameters.backend.loadKvs c parameters.instanceId 0 s.disk = .ok m := by
  obtain ⟨hist, hk, hl⟩ := h.keeps
  apply hk.loadKvs_some
  rw [← List.head?_eq_getElem?, ← hl, hs]

theorem perform_disk (hr : request ≠ .flush) (c : Crates) (parameters : KvsParameters) (disk : Fs)
    (data : KvsData) : (Call.perform c parameters disk data request).2.2 = disk := by
  cases request with
  | flush => exact absurd rfl hr
  | _ => rfl

theorem step_other (hr : request ≠ .flush) (c : Crates) (parameters : KvsParameters)
    (s : Session) :
    (s.step c parameters request).1.disk = s.disk ∧
      (s.step c parameters request).1.last = s.last := by
  have hd := perform_disk hr c parameters s.disk s.data
  cases request with
  | flush => exact absurd rfl hr
  | _ => exact ⟨hd, rfl⟩

theorem flush_perform (hmax : 1 ≤ parameters.backend.snapshotMaxCount) (data : KvsData)
    (hrun : (parameters.backend.flush c parameters.instanceId data.kvsMap).run disk =
      (r, disk')) :
    Call.perform c parameters disk data .flush = (r.map fun _ => .unit, data, disk') := by
  have hne : parameters.backend.snapshotMaxCount ≠ 0 := Nat.ne_of_gt hmax
  simp only [Call.perform, Kvs.flush, Kvs.snapshotMaxCount, hne, ↓reduceIte, hrun]

theorem step_flush_ok (hmax : 1 ≤ parameters.backend.snapshotMaxCount)
    (hrun : ((parameters.backend.flush c parameters.instanceId s.data.kvsMap).run s.disk).1 =
      .ok ()) :
    s.step c parameters .flush =
      (⟨s.data, ((parameters.backend.flush c parameters.instanceId s.data.kvsMap).run s.disk).2,
        some s.data.kvsMap⟩, .ok .unit) := by
  have hp := flush_perform hmax s.data (Prod.ext hrun rfl)
  simp only [Session.step, hp]
  rfl

theorem step_flush_error (hmax : 1 ≤ parameters.backend.snapshotMaxCount)
    (hrun : (parameters.backend.flush c parameters.instanceId s.data.kvsMap).run s.disk =
      (.error e, disk)) :
    s.step c parameters .flush = (⟨s.data, disk, s.last⟩, .error e) := by
  have hp := flush_perform hmax s.data hrun
  simp only [Session.step, hp]
  rfl

namespace Session.Good

theorem safe_other (h : s.Good c parameters) (hr : request ≠ .flush) :
    Safe c parameters s request := by
  obtain ⟨hd, hl⟩ := step_other hr c parameters s
  refine ⟨?_, fun hf => absurd hf hr⟩
  intro m hm
  rw [hd]
  exact h.load (hl ▸ hm)

theorem safe_finite (h : s.Good c parameters) (hc : c.TinyJson)
    (hmax : 1 ≤ parameters.backend.snapshotMaxCount)
    (hfin : (KvsValue.ofMap s.data.kvsMap).Finite) :
    Safe c parameters s .flush ↔ IntegersFit (.ofMap s.data.kvsMap) := by
  obtain ⟨hist, hk, -⟩ := h.keeps
  obtain ⟨hrun, hk'⟩ := hk.flush_finite hc hfin hmax
  have hload := hk'.loadKvs_some (s := 0) (m := decoded s.data.kvsMap) (by
    rw [← List.head?_eq_getElem?, List.head?_take, if_neg (Nat.ne_of_gt hmax), List.head?_cons])
  rw [← decoded_eq_iff hfin, Safe, step_flush_ok hmax hrun]
  simp only [hload, Option.some.injEq, Except.ok.injEq]
  apply Iff.intro
  · intro hs
    exact hs.1 _ rfl
  · intro he
    exact ⟨fun m hm => he.trans hm, fun _ hb => by cases hb⟩

theorem flush_unchanged (h : s.Good c parameters) (hc : c.TinyJson)
    (hfin : ¬ (KvsValue.ofMap s.data.kvsMap).Finite)
    (hno : parameters.backend.snapshotMaxCount = 1 ∨ s.last = none) :
    (parameters.backend.flush c parameters.instanceId s.data.kvsMap).run s.disk =
      (.error .jsonGeneratorError, s.disk) := by
  obtain ⟨hist, hk, hl⟩ := h.keeps
  have h0 : min hist.length (parameters.backend.snapshotMaxCount - 1) = 0 := by
    rcases hno with hno | hno
    · rw [hno, Nat.min_zero]
    · rw [hl, List.head?_eq_none_iff] at hno
      rw [hno, List.length_nil, Nat.zero_min]
  rw [hk.flush_refused hc hfin, h0]
  rfl

theorem safe_refused (h : s.Good c parameters) (hc : c.TinyJson)
    (hmax : 1 ≤ parameters.backend.snapshotMaxCount)
    (hfin : ¬ (KvsValue.ofMap s.data.kvsMap).Finite) :
    Safe c parameters s .flush ↔
      (parameters.backend.snapshotMaxCount = 1 ∨ s.last = none) := by
  by_cases hno : parameters.backend.snapshotMaxCount = 1 ∨ s.last = none
  · rw [Safe, step_flush_error hmax (h.flush_unchanged hc hfin hno)]
    exact iff_of_true ⟨fun m hm => h.load hm, fun _ _ _ => rfl⟩ hno
  · refine iff_of_false ?_ hno
    obtain ⟨hist, hk, hl⟩ := h.keeps
    rw [not_or] at hno
    obtain ⟨m, hm⟩ := Option.ne_none_iff_exists'.1 hno.2
    have hpos : 0 < hist.length := by
      rw [List.length_pos_iff]
      rintro rfl
      exact hno.2 hl
    obtain ⟨n, hn⟩ : ∃ n, min hist.length (parameters.backend.snapshotMaxCount - 1) = n + 1 :=
      ⟨min hist.length (parameters.backend.snapshotMaxCount - 1) - 1, by omega⟩
    intro hs
    rw [Safe, step_flush_error hmax (hk.flush_refused hc hfin), hn] at hs
    have hload := hs.1 m hm
    rw [JsonBackend.loadKvs, load_missing (parameters.backend.checkPathExtensions_slot _ 0)
      (renames_kvs _ _ n s.disk)] at hload
    cases hload

theorem safe_iff (h : s.Good c parameters) (hc : c.TinyJson)
    (hmax : 1 ≤ parameters.backend.snapshotMaxCount) (request : Call) :
    Safe c parameters s request ↔ Writable parameters s request := by
  by_cases hr : request = .flush
  · subst hr
    by_cases hfin : (KvsValue.ofMap s.data.kvsMap).Finite
    · rw [h.safe_finite hc hmax hfin]
      simp only [Writable, hfin, true_and, not_true_eq_false, false_and, or_false, forall_const]
    · rw [h.safe_refused hc hmax hfin]
      simp only [Writable, hfin, false_and, not_false_eq_true, true_and, false_or, forall_const]
  · exact iff_of_true (h.safe_other hr) fun hf => absurd hf hr

theorem step (h : s.Good c parameters) (hc : c.TinyJson)
    (hmax : 1 ≤ parameters.backend.snapshotMaxCount) (request : Call)
    (hw : Writable parameters s request) : (s.step c parameters request).1.Good c parameters := by
  obtain ⟨hist, hk, hl⟩ := h.keeps
  by_cases hr : request = .flush
  · subst hr
    rcases hw rfl with hm | ⟨hfin, hno⟩
    · obtain ⟨hrun, hk'⟩ := hk.flush hc hm hmax
      rw [step_flush_ok hmax hrun]
      refine ⟨_, hk', ?_⟩
      rw [List.head?_take, if_neg (Nat.ne_of_gt hmax), List.head?_cons]
    · rw [step_flush_error hmax (h.flush_unchanged hc hfin hno)]
      exact ⟨hist, hk, hl⟩
  · obtain ⟨hd, hl'⟩ := step_other hr c parameters s
    exact ⟨hist, hd ▸ hk, hl'.trans hl⟩

end Session.Good

/-- In a run from a directory without snapshots, the last good state stays in place exactly when
every call is writable in this sense. -/
theorem flush_safe_iff (hc : c.TinyJson) (hmax : 1 ≤ parameters.backend.snapshotMaxCount)
    (hkvs : ∀ s, disk (parameters.backend.kvsFilePath parameters.instanceId s) = none)
    (hhash : ∀ s, disk (parameters.backend.hashFilePath parameters.instanceId s) = none)
    (data : KvsData) (calls : List Call) :
    Transition.Along (Session.step c parameters) (Safe c parameters) ⟨data, disk, none⟩ calls ↔
      Transition.Along (Session.step c parameters) (Writable parameters) ⟨data, disk, none⟩ calls :=
  Transition.along_iff (I := Session.Good c parameters) (fun _ a h => h.safe_iff hc hmax a)
    (fun _ a h hw => h.step hc hmax a hw) ⟨[], .empty hkvs hhash, rfl⟩ calls

def sampleParameters : KvsParameters := ⟨1, .optional, .optional, .default⟩

theorem flush_safe_answer : ∃ c : Crates, c.TinyJson ∧
    c.stringify (jsonValueFrom (.ofMap answer)) = some answerText ∧
    Transition.Along (Session.step c sampleParameters) (Safe c sampleParameters)
      ⟨⟨.empty, .empty⟩, fun _ => none, none⟩ [.setValue "answer" (.i32 42), .flush, .reset] := by
  obtain ⟨c, hc, -, ht⟩ := exists_crates answer answer_exact.1 answerText
  refine ⟨c, hc, ht, (flush_safe_iff hc (by decide) (fun _ => rfl) (fun _ => rfl) _ _).2 ?_⟩
  exact ⟨nofun, fun _ => .inl answer_exact, nofun, trivial⟩

/-- A map with a NaN, flushed after a good map: the flush fails and slot `0` is gone. -/
theorem flush_unsafe_nan : ∃ c : Crates, c.TinyJson ∧
    c.stringify (jsonValueFrom (.ofMap answer)) = some answerText ∧
    ¬ Transition.Along (Session.step c sampleParameters) (Safe c sampleParameters)
      ⟨⟨.empty, .empty⟩, fun _ => none, none⟩
      [.setValue "answer" (.i32 42), .flush, .setValue "nan" (.f64 .nan), .flush] := by
  obtain ⟨c, hc, -, ht⟩ := exists_crates answer answer_exact.1 answerText
  refine ⟨c, hc, ht, ?_⟩
  have hempty : Keeps c .default 1 [] fun _ => none := .empty (fun _ => rfl) (fun _ => rfl)
  have hgood : Session.Good c sampleParameters ⟨⟨.empty, .empty⟩, fun _ => none, none⟩ :=
    ⟨[], hempty, rfl⟩
  rw [Transition.along_iff (fun _ a h => h.safe_iff hc (by decide) a)
    (fun _ a h hw => h.step hc (by decide) a hw) hgood]
  rintro ⟨-, -, -, hw, -⟩
  have hset : (Session.step c sampleParameters ⟨⟨.empty, .empty⟩, fun _ => none, none⟩
      (.setValue "answer" (.i32 42))).1 = ⟨⟨answer, .empty⟩, fun _ => none, none⟩ := rfl
  have hflush : Session.step c sampleParameters ⟨⟨answer, .empty⟩, fun _ => none, none⟩ .flush =
      _ := step_flush_ok (by decide) (hempty.flush hc answer_exact (by decide)).1
  rw [hset, hflush] at hw
  rcases hw rfl with ⟨hfin, -⟩ | ⟨-, hone | hnone⟩
  · exact nan_not_finite _ hfin
  · cases hone
  · cases hnone

end Persistency.Rust
