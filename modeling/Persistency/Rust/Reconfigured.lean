import Persistency.Library.Transition
import Persistency.Rust.FailedFlush

namespace Persistency.Rust
set_option autoImplicit true

def KvsParameters.keeping (parameters : KvsParameters) (snapshotMaxCount : Nat) : KvsParameters :=
  { parameters with backend := { parameters.backend with snapshotMaxCount } }

/-- A flush through a handle or through the backend itself, with the maximum that is configured
for it. -/
inductive Flush where
  | kvs (snapshotMaxCount : Nat) (data : KvsData)
  | backend (snapshotMaxCount : Nat) (kvsMap : KvsMap)

namespace Flush

def snapshotMaxCount : Flush → Nat
  | .kvs max _ => max
  | .backend max _ => max

def kvsMap : Flush → KvsMap
  | .kvs _ data => data.kvsMap
  | .backend _ m => m

/-- A handle that keeps no snapshots does not flush. -/
def skipped : Flush → Bool
  | .kvs max _ => max == 0
  | .backend _ _ => false

def perform (c : Crates) (parameters : KvsParameters) : Flush → FsM Unit
  | .kvs max data => Kvs.flush (parameters.keeping max) c data
  | .backend max m => (parameters.keeping max).backend.flush c parameters.instanceId m

end Flush

namespace Flush

theorem perform_skipped (c : Crates) (parameters : KvsParameters) (hs : skipped request = true)
    (disk : Fs) : request.perform c parameters disk = (.ok (), []) := by
  cases request with
  | kvs max data =>
    have hmax : max = 0 := beq_iff_eq.1 hs
    subst hmax
    rfl
  | backend max m => cases hs

theorem perform_eq (c : Crates) (parameters : KvsParameters) (hs : skipped request = false) :
    request.perform c parameters =
      (parameters.keeping request.snapshotMaxCount).backend.flush c parameters.instanceId
        request.kvsMap := by
  cases request with
  | kvs max data =>
    have hmax : max ≠ 0 := beq_eq_false_iff_ne.1 hs
    exact if_neg hmax
  | backend max m => rfl

end Flush

/-- The files with, for each of them, the number of the flush that wrote it, and the number of
the latest flush that wrote anything. -/
structure Provenance where
  disk : Fs
  origin : Disk Path Nat
  flushes : Nat
  latest : Option Nat

/-- The origins are moved by the same renames as the files, and written by the same writes. -/
def Provenance.step (c : Crates) (parameters : KvsParameters) (s : Provenance) (request : Flush) :
    Provenance × Except ErrorCode Unit :=
  let r := request.perform c parameters s.disk
  let number := s.flushes + 1
  (⟨Disk.replay s.disk r.2, Disk.replay s.origin (r.2.map (.map fun _ => number)), number,
    if r.1.isOk && !request.skipped then some number else s.latest⟩, r.1)

def Provenance.start (disk : Fs) : Provenance := ⟨disk, fun p => (disk p).map fun _ => 0, 0, none⟩

section InOrder

variable (parameters : KvsParameters) (s : Provenance)

abbrev kvsPath (id : SnapshotId) : Path := parameters.backend.kvsFilePath parameters.instanceId id

abbrev hashPath (id : SnapshotId) : Path := parameters.backend.hashFilePath parameters.instanceId id

structure InOrder : Prop where
  contiguous : ∃ count, ∀ id, ((s.disk (kvsPath parameters id)).isSome ↔ id < count) ∧
    ((s.disk (hashPath parameters id)).isSome ↔ id < count)
  paired : ∀ id, s.origin (kvsPath parameters id) = s.origin (hashPath parameters id)
  latest : s.origin (kvsPath parameters 0) = s.latest
  newer : ∀ id, (s.disk (kvsPath parameters (id + 1))).isSome →
    ∃ k k', s.origin (kvsPath parameters id) = some k ∧
      s.origin (kvsPath parameters (id + 1)) = some k' ∧ k' < k

/-- The flush is of a map that can be written, or it is skipped, or it has no slot to rename. -/
def Harmless (request : Flush) : Prop :=
  (KvsValue.ofMap request.kvsMap).Finite ∨ request.skipped ∨ request.snapshotMaxCount ≤ 1 ∨
    s.latest = none

/-- The slots hold the listed entries: the number of a flush and the text that it wrote. -/
structure Tracked (c : Crates) (entries : List (Nat × String)) : Prop where
  slots : Slots c parameters.backend parameters.instanceId (entries.map Prod.snd) s.disk
  origins : Disk.Holds (hashPath parameters) (kvsPath parameters) id id (entries.map Prod.fst)
    s.origin
  sorted : (entries.map Prod.fst).Pairwise (· > ·)
  bound : ∀ entry ∈ entries, entry.1 ≤ s.flushes
  latest : s.latest = (entries.map Prod.fst).head?
  decodes : ∀ entry ∈ entries, ∃ m, decodeText c entry.2 = .ok m

end InOrder

namespace Tracked

variable {c : Crates} {parameters : KvsParameters} {s : Provenance} {entries : List (Nat × String)}

theorem start (hkvs : ∀ id, disk (kvsPath parameters id) = none)
    (hhash : ∀ id, disk (hashPath parameters id) = none) :
    Tracked parameters (.start disk) c [] where
  slots := ⟨hkvs, hhash⟩
  origins := ⟨fun id => congrArg (Option.map _) (hhash id),
    fun id => congrArg (Option.map _) (hkvs id)⟩
  sorted := .nil
  bound := nofun
  latest := rfl
  decodes := nofun

theorem inOrder (h : Tracked parameters s c entries) : InOrder parameters s where
  contiguous := by
    have hkvs (id : SnapshotId) :
        (s.disk (kvsPath parameters id)).isSome ↔ id < entries.length := by
      rw [h.slots.kvs_isSome, List.length_map, decide_eq_true_iff]
    have hhash (id : SnapshotId) :
        (s.disk (hashPath parameters id)).isSome ↔ id < entries.length := by
      rw [h.slots.hash_isSome, List.length_map, decide_eq_true_iff]
    exact ⟨entries.length, fun id => ⟨hkvs id, hhash id⟩⟩
  paired id := (h.origins.right id).trans (h.origins.left id).symm
  latest := by
    rw [h.origins.right, h.latest, Option.map_id, List.head?_eq_getElem?]
    rfl
  newer id hid := by
    rw [h.slots.kvs_isSome, List.length_map, decide_eq_true_iff] at hid
    have hlt' : id + 1 < (entries.map Prod.fst).length := by rwa [List.length_map]
    have hlt := Nat.lt_of_succ_lt hlt'
    have hsorted := List.pairwise_iff_getElem.1 h.sorted id (id + 1) hlt hlt' (Nat.lt_succ_self id)
    have hnewer := h.origins.right id
    rw [List.getElem?_eq_getElem hlt] at hnewer
    have holder := h.origins.right (id + 1)
    rw [List.getElem?_eq_getElem hlt'] at holder
    exact ⟨_, _, hnewer, holder, hsorted⟩

theorem step_skipped (h : Tracked parameters s c entries) (hs : request.skipped = true) :
    Tracked parameters (s.step c parameters request).1 c entries ∧
      (s.step c parameters request).2 = .ok () := by
  have hp := Flush.perform_skipped c parameters hs s.disk
  simp only [Provenance.step, hp, hs]
  exact ⟨⟨h.slots, h.origins, h.sorted, fun e he => Nat.le_succ_of_le (h.bound e he), h.latest,
    h.decodes⟩, trivial⟩

theorem pushed (h : Tracked parameters s c entries) (hd : decodeText c text = .ok m) (n : Nat) :
    Tracked parameters
      ⟨Disk.replay s.disk (renames parameters.backend parameters.instanceId n ++
          slotSteps c parameters.backend parameters.instanceId text),
        Disk.replay s.origin ((renames parameters.backend parameters.instanceId n ++
          slotSteps c parameters.backend parameters.instanceId text).map
            (.map fun _ => s.flushes + 1)),
        s.flushes + 1, some (s.flushes + 1)⟩ c
      ((s.flushes + 1, text) :: entries.eraseIdx n) where
  slots := by
    rw [List.map_cons, ← List.eraseIdx_map]
    exact h.slots.rotated n text
  origins := by
    have horigins := h.origins.rotate (parameters.backend.families parameters.instanceId) n
      (s.flushes + 1)
    rw [List.map_append, Disk.map_shiftUp, List.map_cons, ← List.eraseIdx_map]
    exact horigins
  sorted := by
    rw [List.map_cons, List.pairwise_cons, ← List.eraseIdx_map]
    apply And.intro
    · intro k hk
      obtain ⟨entry, he, rfl⟩ := List.mem_map.1 (List.mem_of_mem_eraseIdx hk)
      exact Nat.lt_succ_of_le (h.bound entry he)
    · exact h.sorted.sublist (List.eraseIdx_sublist _ _)
  bound entry he := by
    rcases List.mem_cons.1 he with rfl | he
    · exact Nat.le_refl _
    · exact Nat.le_succ_of_le (h.bound entry (List.mem_of_mem_eraseIdx he))
  latest := rfl
  decodes entry he := by
    rcases List.mem_cons.1 he with rfl | he
    · exact ⟨_, hd⟩
    · exact h.decodes entry (List.mem_of_mem_eraseIdx he)

/-- A flush of a map that can be written puts its entry in front. The entry that the rotation
would move out of the configured range is dropped, those behind it stay. -/
theorem step_written (h : Tracked parameters s c entries) (hc : c.TinyJson)
    (hs : request.skipped = false) (hfin : (KvsValue.ofMap request.kvsMap).Finite) :
    (∃ text, Tracked parameters (s.step c parameters request).1 c
      ((s.flushes + 1, text) ::
        entries.eraseIdx (min entries.length (request.snapshotMaxCount - 1)))) ∧
      (s.step c parameters request).2 = .ok () := by
  obtain ⟨text, ht, hd⟩ := hc.text hfin
  have hslots : Slots c (parameters.keeping request.snapshotMaxCount).backend
    parameters.instanceId (entries.map Prod.snd) s.disk := ⟨h.slots.kvs, h.slots.hash⟩
  have hp : request.perform c parameters s.disk =
      (.ok (), renames parameters.backend parameters.instanceId
        (min entries.length (request.snapshotMaxCount - 1)) ++
          slotSteps c parameters.backend parameters.instanceId text) := by
    rw [Flush.perform_eq c parameters hs, hslots.flush_ok ht, List.length_map]
    rfl
  simp only [Provenance.step, hp, hs]
  exact ⟨⟨text, h.pushed hd _⟩, trivial⟩

theorem step_refused (h : Tracked parameters s c entries) (hc : c.TinyJson)
    (hs : request.skipped = false) (hfin : ¬ (KvsValue.ofMap request.kvsMap).Finite) :
    s.step c parameters request =
      (⟨Disk.replay s.disk (renames parameters.backend parameters.instanceId
          (min entries.length (request.snapshotMaxCount - 1))),
        Disk.replay s.origin (Disk.shiftUp (hashPath parameters) (kvsPath parameters)
          (min entries.length (request.snapshotMaxCount - 1))),
        s.flushes + 1, s.latest⟩, .error .jsonGeneratorError) := by
  have hslots : Slots c (parameters.keeping request.snapshotMaxCount).backend
    parameters.instanceId (entries.map Prod.snd) s.disk := ⟨h.slots.kvs, h.slots.hash⟩
  have hp : request.perform c parameters s.disk =
      (.error .jsonGeneratorError, renames parameters.backend parameters.instanceId
        (min entries.length (request.snapshotMaxCount - 1))) := by
    rw [Flush.perform_eq c parameters hs, hslots.flush_refused (hc.refused hfin), List.length_map]
    rfl
  simp only [Provenance.step, hp, Disk.map_shiftUp]
  rfl

theorem step_unmoved (h : Tracked parameters s c entries) (hc : c.TinyJson)
    (hs : request.skipped = false) (hfin : ¬ (KvsValue.ofMap request.kvsMap).Finite)
    (hno : request.snapshotMaxCount ≤ 1 ∨ s.latest = none) :
    Tracked parameters (s.step c parameters request).1 c entries := by
  have h0 : min entries.length (request.snapshotMaxCount - 1) = 0 := by
    rcases hno with hno | hno
    · omega
    · rw [h.latest, List.head?_eq_none_iff, List.map_eq_nil_iff] at hno
      rw [hno, List.length_nil, Nat.zero_min]
  rw [h.step_refused hc hs hfin, h0]
  exact ⟨h.slots, h.origins, h.sorted, fun e he => Nat.le_succ_of_le (h.bound e he), h.latest,
    h.decodes⟩

theorem step_moved (h : Tracked parameters s c entries) (hc : c.TinyJson)
    (hs : request.skipped = false) (hfin : ¬ (KvsValue.ofMap request.kvsMap).Finite)
    (hmax : ¬ request.snapshotMaxCount ≤ 1) (hlatest : s.latest ≠ none) :
    ¬ InOrder parameters (s.step c parameters request).1 := by
  intro hin
  have hpos : 0 < entries.length := by
    rw [List.length_pos_iff]
    rintro rfl
    exact hlatest h.latest
  obtain ⟨n, hn⟩ : ∃ n, min entries.length (request.snapshotMaxCount - 1) = n + 1 :=
    ⟨min entries.length (request.snapshotMaxCount - 1) - 1, by omega⟩
  have hl := hin.latest
  rw [h.step_refused hc hs hfin, hn] at hl
  have hmoved := (Disk.replay_shiftUp (parameters.backend.families parameters.instanceId)
    s.origin (n + 1) 0).2
  rw [Disk.shifted_zero] at hmoved
  exact hlatest (hl.symm.trans hmoved)

theorem inOrder_iff (h : Tracked parameters s c entries) (hc : c.TinyJson) (request : Flush) :
    InOrder parameters (s.step c parameters request).1 ↔ Harmless s request := by
  by_cases hs : request.skipped = true
  · exact iff_of_true (h.step_skipped hs).1.inOrder (.inr (.inl hs))
  · have hs' := Bool.eq_false_of_not_eq_true hs
    by_cases hfin : (KvsValue.ofMap request.kvsMap).Finite
    · obtain ⟨⟨text, ht⟩, -⟩ := h.step_written hc hs' hfin
      exact iff_of_true ht.inOrder (.inl hfin)
    · by_cases hno : request.snapshotMaxCount ≤ 1 ∨ s.latest = none
      · exact iff_of_true (h.step_unmoved hc hs' hfin hno).inOrder (.inr (.inr hno))
      · apply iff_of_false
        · rw [not_or] at hno
          exact h.step_moved hc hs' hfin hno.1 hno.2
        · rintro (hf | hf | hf)
          · exact hfin hf
          · exact hs hf
          · exact hno hf

theorem step (h : Tracked parameters s c entries) (hc : c.TinyJson)
    (hw : Harmless s request) :
    ∃ entries, Tracked parameters (s.step c parameters request).1 c entries := by
  by_cases hs : request.skipped = true
  · exact ⟨_, (h.step_skipped hs).1⟩
  · have hs' := Bool.eq_false_of_not_eq_true hs
    by_cases hfin : (KvsValue.ofMap request.kvsMap).Finite
    · obtain ⟨⟨text, ht⟩, -⟩ := h.step_written hc hs' hfin
      exact ⟨_, ht⟩
    · rcases hw with hf | hf | hno
      · exact absurd hf hfin
      · exact absurd hf hs
      · exact ⟨_, h.step_unmoved hc hs' hfin hno⟩

end Tracked

/-- In a run from a directory without slots, the slots are in order after every flush exactly when
every flush is harmless in this sense. -/
theorem order_iff (hc : c.TinyJson) (hkvs : ∀ id, disk (kvsPath parameters id) = none)
    (hhash : ∀ id, disk (hashPath parameters id) = none) (requests : List Flush) :
    Transition.Along (Provenance.step c parameters)
        (fun s request => InOrder parameters (s.step c parameters request).1) (.start disk)
        requests ↔
      Transition.Along (Provenance.step c parameters) Harmless (.start disk) requests :=
  Transition.along_iff (I := fun s => ∃ entries, Tracked parameters s c entries)
    (fun _ request h => h.elim fun _ h => h.inOrder_iff hc request)
    (fun _ _ h hw => h.elim fun _ h => h.step hc hw) ⟨[], .start hkvs hhash⟩ requests

theorem first_flush (hc : c.TinyJson) : ∃ text,
    Tracked sampleParameters
        (Provenance.step c sampleParameters (.start fun _ => none) (.backend 3 answer)).1 c
        [(1, text)] ∧
      (Provenance.step c sampleParameters (.start fun _ => none) (.backend 3 answer)).2 =
        .ok () := by
  have hstart : Tracked sampleParameters (.start fun _ => none) c [] :=
    .start (fun _ => rfl) (fun _ => rfl)
  have hs : (Flush.backend 3 answer).skipped = false := rfl
  have hfin : (KvsValue.ofMap (Flush.backend 3 answer).kvsMap).Finite := answer_exact.1
  obtain ⟨⟨text, hfirst⟩, hok⟩ := hstart.step_written hc hs hfin
  exact ⟨text, hfirst, hok⟩

theorem order_lowered : ∃ c : Crates, c.TinyJson ∧
    c.stringify (jsonValueFrom (.ofMap answer)) = some answerText ∧
    Transition.Along (Provenance.step c sampleParameters)
      (fun s request => InOrder sampleParameters (s.step c sampleParameters request).1)
      (.start fun _ => none)
      [.backend 3 answer, .kvs 3 ⟨answer, .empty⟩, .kvs 1 ⟨answer, .empty⟩, .backend 3 answer] := by
  obtain ⟨c, hc, -, ht⟩ := exists_crates answer answer_exact.1 answerText
  refine ⟨c, hc, ht, (order_iff hc (fun _ => rfl) (fun _ => rfl) _).2 ?_⟩
  exact ⟨.inl answer_exact.1, .inl answer_exact.1, .inl answer_exact.1, .inl answer_exact.1,
    trivial⟩

/-- A map with a NaN, flushed after a good one. -/
theorem order_nan : ∃ c : Crates, c.TinyJson ∧
    c.stringify (jsonValueFrom (.ofMap answer)) = some answerText ∧
    ¬ Transition.Along (Provenance.step c sampleParameters)
      (fun s request => InOrder sampleParameters (s.step c sampleParameters request).1)
      (.start fun _ => none) [.backend 3 answer, .backend 3 (answer.insert "nan" (.f64 .nan))] := by
  obtain ⟨c, hc, -, ht⟩ := exists_crates answer answer_exact.1 answerText
  refine ⟨c, hc, ht, ?_⟩
  obtain ⟨text, hfirst, -⟩ := first_flush hc
  rintro ⟨-, hin, -⟩
  refine absurd hin (hfirst.step_moved hc rfl (nan_not_finite answer) (by decide) ?_)
  rw [hfirst.latest]
  nofun

/-- A snapshot is restored exactly when it is one of those counted, and any other id is refused
as invalid. -/
def RestoreBoundary (c : Crates) (backend : JsonBackend) (i : InstanceId) (id : SnapshotId)
    (disk : Fs) : Prop :=
  let counted := 1 ≤ id ∧ id < backend.snapshotCount i disk
  ((backend.snapshotRestore c i id disk).isOk = true ↔ counted) ∧
    (¬ counted → backend.snapshotRestore c i id disk = .error .invalidSnapshotId)

section Restore

variable {c : Crates} {backend : JsonBackend} {i : InstanceId} {texts : List String} {disk : Fs}

theorem restoreBoundary_invalid {id : SnapshotId}
    (hr : backend.snapshotRestore c i id disk = .error .invalidSnapshotId)
    (hid : ¬ (1 ≤ id ∧ id < backend.snapshotCount i disk)) :
    RestoreBoundary c backend i id disk := by
  rw [RestoreBoundary, hr]
  exact ⟨iff_of_false nofun hid, fun _ => rfl⟩

theorem Slots.restoreBoundary_iff (h : Slots c backend i texts disk)
    (hd : ∀ text ∈ texts, ∃ m, decodeText c text = .ok m) (id : SnapshotId) :
    RestoreBoundary c backend i id disk ↔
      id = 0 ∨ id ≠ min backend.snapshotMaxCount texts.length := by
  have hcount := h.snapshotCount_eq
  have hrestore : backend.snapshotRestore c i id disk = if id = 0 then .error .invalidSnapshotId
      else if min backend.snapshotMaxCount texts.length < id then .error .invalidSnapshotId
      else backend.loadKvs c i id disk := by
    rw [JsonBackend.snapshotRestore, hcount]
  have hload (hlt : id < texts.length) : ∃ m, backend.loadKvs c i id disk = .ok m := by
    rw [h.loadKvs_some (List.getElem?_eq_getElem hlt)]
    exact hd _ (List.getElem_mem hlt)
  by_cases h0 : id = 0
  · rw [if_pos h0] at hrestore
    apply iff_of_true _ (.inl h0)
    exact restoreBoundary_invalid hrestore fun hcounted => absurd h0 (Nat.ne_of_gt hcounted.1)
  rw [if_neg h0] at hrestore
  rcases Nat.lt_trichotomy id (min backend.snapshotMaxCount texts.length) with hlt | heq | hgt
  · obtain ⟨m, hm⟩ := hload (Nat.lt_of_lt_of_le hlt (Nat.min_le_right _ _))
    rw [if_neg (Nat.lt_asymm hlt), hm] at hrestore
    have hcounted : 1 ≤ id ∧ id < min backend.snapshotMaxCount texts.length :=
      ⟨Nat.pos_of_ne_zero h0, hlt⟩
    apply iff_of_true _ (.inr (Nat.ne_of_lt hlt))
    rw [RestoreBoundary, hrestore, hcount]
    exact ⟨iff_of_true rfl hcounted, fun hno => absurd hcounted hno⟩
  · -- the guard lets the first id through that is not counted
    rw [if_neg (Nat.not_lt.2 (Nat.le_of_eq heq))] at hrestore
    apply iff_of_false _ (by rintro (hid | hid) <;> contradiction)
    rw [RestoreBoundary, hrestore, hcount]
    rintro ⟨-, hinvalid⟩
    have hinvalid := hinvalid fun hcounted => absurd heq (Nat.ne_of_lt hcounted.2)
    by_cases hlt : id < texts.length
    · obtain ⟨m, hm⟩ := hload hlt
      rw [hm] at hinvalid
      cases hinvalid
    · rw [h.loadKvs_none (List.getElem?_eq_none (Nat.not_lt.1 hlt))] at hinvalid
      cases hinvalid
  · rw [if_pos hgt] at hrestore
    apply iff_of_true _ (.inr (Nat.ne_of_gt hgt))
    apply restoreBoundary_invalid hrestore
    rw [hcount]
    exact fun hcounted => absurd hgt (Nat.lt_asymm hcounted.2)

end Restore

theorem Tracked.harmless_of_ok (h : Tracked parameters s c entries) (hc : c.TinyJson)
    (hok : (s.step c parameters request).2 = .ok ()) : Harmless s request := by
  by_cases hs : request.skipped = true
  · exact .inr (.inl hs)
  · by_cases hfin : (KvsValue.ofMap request.kvsMap).Finite
    · exact .inl hfin
    · rw [h.step_refused hc (Bool.eq_false_of_not_eq_true hs) hfin] at hok
      cases hok

/-- After any successful flushes, whatever they were configured to keep, the slots are those up
to some count, and for any configuration the boundary of a restore is as it should be except at
the first id that is not counted. -/
theorem restore_boundary_iff (hc : c.TinyJson) (hkvs : ∀ id, disk (kvsPath parameters id) = none)
    (hhash : ∀ id, disk (hashPath parameters id) = none)
    (hok : Transition.Along (Provenance.step c parameters)
      (fun s request => (s.step c parameters request).2 = .ok ()) (.start disk) requests) :
    ∃ count, let s := (Transition.run (Provenance.step c parameters) (.start disk) requests).1
      (∀ id, (s.disk (kvsPath parameters id)).isSome ↔ id < count) ∧
        ∀ snapshotMaxCount id,
          RestoreBoundary c (parameters.keeping snapshotMaxCount).backend parameters.instanceId id
            s.disk ↔ id = 0 ∨ id ≠ min snapshotMaxCount count := by
  obtain ⟨entries, h⟩ := Transition.along_invariant
    (I := fun s => ∃ entries, Tracked parameters s c entries)
    (fun _ _ h hok => h.elim fun _ h => h.step hc (h.harmless_of_ok hc hok))
    ⟨[], .start hkvs hhash⟩ hok
  refine ⟨(entries.map Prod.snd).length, ?_, ?_⟩
  · intro id
    rw [h.slots.kvs_isSome, decide_eq_true_iff]
  · intro snapshotMaxCount id
    have hslots : Slots c (parameters.keeping snapshotMaxCount).backend parameters.instanceId
      (entries.map Prod.snd) _ := ⟨h.slots.kvs, h.slots.hash⟩
    apply hslots.restoreBoundary_iff
    intro text htext
    obtain ⟨entry, he, rfl⟩ := List.mem_map.1 htext
    exact h.decodes entry he

theorem restore_boundary_first : ∃ c : Crates, c.TinyJson ∧
    c.stringify (jsonValueFrom (.ofMap answer)) = some answerText ∧
    ∃ count, let s := (Transition.run (Provenance.step c sampleParameters) (.start fun _ => none)
        [.backend 3 answer]).1
      (∀ id, (s.disk (kvsPath sampleParameters id)).isSome ↔ id < count) ∧
        ∀ snapshotMaxCount id,
          RestoreBoundary c (sampleParameters.keeping snapshotMaxCount).backend 1 id s.disk ↔
            id = 0 ∨ id ≠ min snapshotMaxCount count := by
  obtain ⟨c, hc, -, ht⟩ := exists_crates answer answer_exact.1 answerText
  obtain ⟨-, -, hok⟩ := first_flush hc
  exact ⟨c, hc, ht, restore_boundary_iff hc (fun _ => rfl) (fun _ => rfl) ⟨hok, trivial⟩⟩

/-- One snapshot is counted, and restoring number `1` gets as far as the missing file. -/
theorem restore_boundary_missing : ∃ c : Crates, c.TinyJson ∧
    c.stringify (jsonValueFrom (.ofMap answer)) = some answerText ∧
    let r := Provenance.step c sampleParameters (.start fun _ => none) (.backend 3 answer)
    r.2 = .ok () ∧
      JsonBackend.default.snapshotRestore c 1 1 r.1.disk = .error .fileNotFound ∧
      ¬ RestoreBoundary c .default 1 1 r.1.disk := by
  obtain ⟨c, hc, -, ht⟩ := exists_crates answer answer_exact.1 answerText
  obtain ⟨text, hfirst, hok⟩ := first_flush hc
  refine ⟨c, hc, ht, ?_⟩
  intro r
  have hslots : Slots c .default 1 [text] r.1.disk := hfirst.slots
  have hcount : JsonBackend.default.snapshotCount 1 r.1.disk = 1 := hslots.snapshotCount_eq
  have hrestore : JsonBackend.default.snapshotRestore c 1 1 r.1.disk = .error .fileNotFound := by
    rw [JsonBackend.snapshotRestore, hcount]
    exact hslots.loadKvs_none rfl
  refine ⟨hok, hrestore, ?_⟩
  rw [RestoreBoundary, hrestore, hcount]
  rintro ⟨-, hinvalid⟩
  have hinvalid := hinvalid fun hcounted => absurd hcounted.2 (Nat.lt_irrefl 1)
  cases hinvalid

end Persistency.Rust
