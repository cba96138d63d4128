import Persistency.Cpp.FailedFlush
import Persistency.Cpp.Snapshots
import Persistency.Library.Stoppable

namespace Persistency.Cpp
set_option autoImplicit true

open Disk (Spec)

section Slot

variable (base : Baselibs N) (p : String) (candidates : List KvsMap) (disk : Fs)

/-- Slot `0` has no data, or no hash, or the text of one of the maps. -/
def Whole : Prop :=
  disk (snapFile p 0) = none ∨ disk (hashFile p 0) = none ∨
    ∃ m ∈ candidates, ∃ buf, Kvs.buffer base m = .ok buf ∧ disk (snapFile p 0) = some buf

def Stored (idx : Nat) (m : KvsMap) : Prop :=
  ∃ buf, Kvs.buffer base m = .ok buf ∧ disk (snapFile p idx) = some buf ∧
    disk (hashFile p idx) = some (getHashBytes buf)

def Gone : Prop := disk (snapFile p 0) = none ∧ disk (hashFile p 0) = none

variable {base p candidates disk}

theorem Whole.mono (h : Whole base p candidates disk) (hsub : candidates ⊆ candidates') :
    Whole base p candidates' disk := by
  rcases h with h | h | ⟨m, hm, hrest⟩
  · exact .inl h
  · exact .inr (.inl h)
  · exact .inr (.inr ⟨m, hsub hm, hrest⟩)

theorem Gone.whole (h : Gone p disk) : Whole base p candidates disk := .inl h.1

theorem Stored.whole (h : Stored base p disk 0 m) (hm : m ∈ candidates) :
    Whole base p candidates disk := by
  obtain ⟨buf, hbuf, hsnap, -⟩ := h
  exact .inr (.inr ⟨m, hm, buf, hbuf, hsnap⟩)

theorem Whole.congr (h : Whole base p candidates disk)
    (hsnap : disk' (snapFile p 0) = disk (snapFile p 0))
    (hhash : disk' (hashFile p 0) = disk (hashFile p 0)) : Whole base p candidates disk' := by
  rwa [Whole, hsnap, hhash]

end Slot

section Spec

variable {base : Baselibs N} {p : String} {candidates : List KvsMap} {self : Kvs}

theorem rename_spec (hsrc : ∀ q, q = snapFile p 0 ∨ q = hashFile p 0 → q ≠ src ∧ q ≠ dst) :
    Spec (Whole base p candidates) (Disk.Prog.rename src dst : FsM Bool)
      (fun _ => Whole base p candidates) (fun _ _ => False) (Whole base p candidates) := by
  have happly (d : Fs) (h : Whole base p candidates d) :
      Whole base p candidates (Disk.Step.apply d (.rename src dst)) := by
    apply h.congr
    · exact Disk.Step.apply_frame _ d (not_or.2 (hsrc _ (.inl rfl)))
    · exact Disk.Step.apply_frame _ d (not_or.2 (hsrc _ (.inr rfl)))
  exact .rename happly (fun _ h => h) happly

theorem rotateFrom_spec (n : Nat) :
    Spec (Whole base p candidates) (Kvs.rotateFrom p (n + 1)) (fun _ => Gone p)
      (fun _ _ => False) (Whole base p candidates) := by
  have hfamilies := families p
  induction n with
  | zero =>
    have hhash (d : Fs) : Disk.Step.apply d (.rename (hashFile p 0) (hashFile p 1))
        (hashFile p 0) = none := by
      rw [Disk.apply_rename, if_neg fun h => absurd (hfamilies.inj_left h) (by decide), if_pos rfl]
    have hsnap (d : Fs) : Disk.Step.apply d (.rename (snapFile p 0) (snapFile p 1))
        (snapFile p 0) = none := by
      rw [Disk.apply_rename, if_neg fun h => absurd (hfamilies.inj_right h) (by decide), if_pos rfl]
    have hkept (d : Fs) : Disk.Step.apply d (.rename (snapFile p 0) (snapFile p 1))
        (hashFile p 0) = d (hashFile p 0) :=
      Disk.Step.apply_frame _ d (not_or.2 ⟨hfamilies.disjoint 0 0, hfamilies.disjoint 0 1⟩)
    apply Spec.bind fun _ d => d (hashFile p 0) = none
    · exact .rename (fun d _ => hhash d) (fun _ h => h) fun d _ => .inr (.inl (hhash d))
    intro _
    apply Spec.bind fun _ => Gone p
    · refine .rename (fun d h => ⟨hsnap d, (hkept d).trans h⟩) (fun d h => .inr (.inl h)) ?_
      exact fun d _ => .inl (hsnap d)
    intro _
    exact .pure (fun _ h => h) fun _ h => h.whole
  | succ n ih =>
    have hother (idx : Nat) (q : String) (hq : q = snapFile p 0 ∨ q = hashFile p 0) :
        (q ≠ hashFile p (idx + 1) ∧ q ≠ hashFile p (idx + 2)) ∧
          q ≠ snapFile p (idx + 1) ∧ q ≠ snapFile p (idx + 2) := by
      rcases hq with rfl | rfl
      · refine ⟨⟨(hfamilies.disjoint _ _).symm, (hfamilies.disjoint _ _).symm⟩, ?_, ?_⟩
        · exact fun h => absurd (hfamilies.inj_right h) (by omega)
        · exact fun h => absurd (hfamilies.inj_right h) (by omega)
      · refine ⟨⟨?_, ?_⟩, hfamilies.disjoint _ _, hfamilies.disjoint _ _⟩
        · exact fun h => absurd (hfamilies.inj_left h) (by omega)
        · exact fun h => absurd (hfamilies.inj_left h) (by omega)
    apply Spec.bind _ (rename_spec fun q hq => (hother n q hq).1)
    intro _
    apply Spec.bind _ (rename_spec fun q hq => (hother n q hq).2)
    intro _
    exact ih

theorem writeJsonData_spec (hbuf : Kvs.buffer base m = .ok buf) (hm : m ∈ candidates)
    (hself : self.filenamePrefix = p) :
    Spec (Gone p) (Kvs.writeJsonData base self buf) (fun _ d => Stored base p d 0 m)
      (fun _ => Gone p) (Whole base p candidates) := by
  have hdisjoint := (families p).disjoint 0 0
  subst hself
  unfold Kvs.writeJsonData
  dsimp only
  rw [snapFile_zero, hashFile_zero]
  split
  · apply Spec.bind fun _ d => d (snapFile self.filenamePrefix 0) = some buf
    · refine .write (fun d _ => if_pos rfl) (fun _ h => h.whole) ?_
      intro d b h
      right
      left
      exact (Disk.Step.apply_frame (.write _ b) d hdisjoint).trans h.2
    intro _
    have hsnap (d : Fs) (b : Bytes) (h : d (snapFile self.filenamePrefix 0) = some buf) :
        Disk.Step.apply d (.write (hashFile self.filenamePrefix 0) b)
          (snapFile self.filenamePrefix 0) = some buf :=
      (Disk.Step.apply_frame (.write _ b) d hdisjoint.symm).trans h
    refine .write (fun d h => ⟨buf, hbuf, hsnap d _ h, if_pos rfl⟩) ?_ ?_
    · exact fun d h => .inr (.inr ⟨m, hm, buf, hbuf, h⟩)
    · exact fun d b h => .inr (.inr ⟨m, hm, buf, hbuf, hsnap d b h⟩)
  · exact .throw (fun _ h => h) fun _ h => h.whole

/-- Wherever a flush is stopped, slot `0` is whole. -/
theorem flush_spec (base : Baselibs N) (candidates : List KvsMap)
    (hself : self.filenamePrefix = p) :
    Spec (Whole base p candidates) (Kvs.flush base true true self)
      (fun _ d => Stored base p d 0 self.kvs) (fun _ => Whole base p (self.kvs :: candidates))
      (Whole base p (self.kvs :: candidates)) := by
  have hmono (d : Fs) (h : Whole base p candidates d) : Whole base p (self.kvs :: candidates) d :=
    h.mono (List.subset_cons_self _ _)
  apply Spec.bind fun buf d => Kvs.buffer base self.kvs = .ok buf ∧
    Whole base p (self.kvs :: candidates) d
  · exact .query (fun d buf h hbuf => ⟨hbuf, hmono d h⟩) (fun d _ h _ => hmono d h) hmono
  intro buf
  by_cases hbuf : Kvs.buffer base self.kvs = .ok buf
  · apply Spec.bind fun _ => Gone p
    · subst hself
      refine (rotateFrom_spec 2).imp (fun _ h => h.2) (fun _ _ h => h) ?_ fun _ h => h
      exact fun _ _ h => h.elim
    intro _
    refine (writeJsonData_spec hbuf List.mem_cons_self hself).imp (fun _ h => h) (fun _ _ h => h)
      (fun _ _ h => h.whole) fun _ h => h
  · exact ⟨fun d _ _ h => absurd h.1 hbuf, fun d _ _ h => absurd h.1 hbuf,
      fun d _ _ h => absurd h.1 hbuf⟩

end Spec

inductive Event where
  | call (action : Action)
  /-- A flush that stops at its step `n`, where a write leaves some contents in its file. -/
  | interrupted (n : Nat) (left : Option Bytes)

/-- A session with the maps that the next `open` may find: the one of the latest successful flush,
and those of the flushes since then that failed or were interrupted. -/
structure Trace where
  session : Session
  candidates : List KvsMap

section Trace

variable (base : Baselibs N) (dir : String) (instanceId : InstanceId)

def Event.step (t : Trace) : Event → Trace × Except ErrorCode Unit
  | .call .flush =>
    match Action.flush.step base dir instanceId t.session with
    | (session, .ok ()) => (⟨session, [t.session.store.kvs]⟩, .ok ())
    | (session, .error e) => (⟨session, t.session.store.kvs :: t.candidates⟩, .error e)
  | .call action =>
    let r := action.step base dir instanceId t.session
    ({ t with session := r.1 }, r.2)
  | .interrupted n left =>
    let disk := (Kvs.flush base true true t.session.store).fail n left t.session.disk
    (⟨{ t.session with disk }, t.session.store.kvs :: t.candidates⟩, .error .physicalStorageFailure)

structure Trace.Sound (t : Trace) : Prop where
  named : t.session.store.filenamePrefix = instancePrefix base dir instanceId
  whole : Whole base (instancePrefix base dir instanceId) t.candidates t.session.disk

variable {base : Baselibs N} {dir : String} {instanceId : InstanceId} {s : Session} {t : Trace}

theorem Action.step_kept {a : Action} (ha : a ≠ .flush)
    (hnamed : s.store.filenamePrefix = instancePrefix base dir instanceId) :
    (a.step base dir instanceId s).1.disk = s.disk ∧
      (a.step base dir instanceId s).1.flushed = s.flushed ∧
      (a.step base dir instanceId s).1.store.filenamePrefix =
        instancePrefix base dir instanceId := by
  cases a with
  | flush => exact absurd rfl ha
  | setValue key value => exact ⟨rfl, rfl, hnamed⟩
  | reset => exact ⟨rfl, rfl, hnamed⟩
  | removeKey key =>
    refine ⟨rfl, rfl, Eq.trans ?_ hnamed⟩
    simp only [step, step.edit]
    unfold Kvs.removeKey
    grind
  | resetKey key =>
    refine ⟨rfl, rfl, Eq.trans ?_ hnamed⟩
    simp only [step, step.edit]
    unfold Kvs.resetKey
    grind
  | snapshotRestore snapshotId =>
    refine ⟨rfl, rfl, Eq.trans ?_ hnamed⟩
    simp only [step, step.edit]
    unfold Kvs.snapshotRestore
    grind
  | reopen needDefaults =>
    simp only [step]
    cases hopen : Kvs.open base instanceId needDefaults .optional dir s.disk with
    | ok store => exact ⟨rfl, rfl, open_filenamePrefix hopen⟩
    | error e => exact ⟨rfl, rfl, hnamed⟩

theorem Trace.Sound.step (h : t.Sound base dir instanceId) (e : Event) :
    (e.step base dir instanceId t).1.Sound base dir instanceId := by
  obtain ⟨hnamed, hwhole⟩ := h
  have hspec := flush_spec base t.candidates hnamed
  cases e with
  | interrupted n left => exact ⟨hnamed, hspec.stop _ n left hwhole⟩
  | call a =>
    by_cases ha : a = .flush
    · subst ha
      simp only [Event.step, Action.step]
      cases hrun : (Kvs.flush base true true t.session.store).run t.session.disk with
      | mk r disk =>
        cases r with
        | ok u => exact ⟨hnamed, (hspec.ok _ u _ hwhole hrun).whole (List.mem_singleton_self _)⟩
        | error e => exact ⟨hnamed, hspec.bad _ e _ hwhole hrun⟩
    · obtain ⟨hdisk, -, hnamed'⟩ := Action.step_kept ha hnamed
      have hstep : (Event.step base dir instanceId t (.call a)).1 =
          { t with session := (a.step base dir instanceId t.session).1 } := by
        cases a with
        | flush => exact absurd rfl ha
        | _ => rfl
      rw [hstep]
      refine ⟨hnamed', ?_⟩
      rw [hdisk]
      exact hwhole

theorem openJson_ok (hopen : openJson base p need disk = .ok m) :
    (disk (p ++ ".json") = none ∧ need = .optional ∧ m = .empty) ∨
      ∃ data hin, disk (p ++ ".json") = some data ∧ disk (p ++ ".hash") = some hin ∧
        parseJsonData base data = .ok m := by
  unfold openJson at hopen
  split at hopen
  · rename_i hjson
    left
    cases need with
    | required => cases hopen
    | optional =>
      cases hopen
      exact ⟨hjson, rfl, rfl⟩
  · rename_i data hjson
    split at hopen
    · cases hopen
    · rename_i hin hhash
      split at hopen
      · exact .inr ⟨data, hin, hjson, hhash, hopen⟩
      · cases hopen

theorem Whole.openJson (h : Whole base p candidates disk) (hbase : base.Lawful)
    (hopen : openJson base (p ++ "_0") need disk = .ok m) :
    m ∈ candidates ∨ m = .empty ∧ need = .optional ∧ disk (snapFile p 0) = none := by
  rw [slotPrefix_zero] at hopen
  rcases openJson_ok hopen with ⟨hjson, hneed, hm⟩ | ⟨data, hin, hjson, hhash, hparse⟩
  · exact .inr ⟨hm, hneed, hjson⟩
  · left
    rcases h with hsnap | hnone | ⟨m', hm', buf, hbuf, hsnap⟩
    · cases hsnap.symm.trans hjson
    · cases hnone.symm.trans hhash
    · cases hsnap.symm.trans hjson
      cases (hbase.parse_buffer hbuf).symm.trans hparse
      exact hm'

/-- Whatever was interrupted before, a store that opens has the map of the latest successful flush
or of one that failed or was interrupted since then, or it is empty because slot `0` has no data
file. -/
theorem open_interrupted (hbase : base.Lawful)
    (hnamed : s.store.filenamePrefix = instancePrefix base dir instanceId)
    (hdisk : s.disk (snapFile (instancePrefix base dir instanceId) 0) = none)
    (events : List Event) (needDefaults : OpenNeedDefaults) (needKvs : OpenNeedKvs)
    (opened : Kvs) :
    let t := (Transition.run (Event.step base dir instanceId) ⟨s, []⟩ events).1
    Kvs.open base instanceId needDefaults needKvs dir t.session.disk = .ok opened →
      opened.kvs ∈ t.candidates ∨ opened.kvs = .empty ∧ needKvs = .optional ∧
        t.session.disk (snapFile (instancePrefix base dir instanceId) 0) = none := by
  intro t hopen
  have hsound : t.Sound base dir instanceId := by
    apply Transition.run_invariant (I := Trace.Sound base dir instanceId)
    · exact fun t e h => h.step e
    · exact ⟨hnamed, .inl hdisk⟩
  unfold Kvs.open at hopen
  dsimp only at hopen
  split at hopen
  · cases hopen
  · split at hopen
    · cases hopen
    · rename_i hkvs
      cases hopen
      rcases hsound.whole.openJson hbase hkvs with hm | ⟨hm, hneed, hnone⟩
      · exact .inl hm
      · refine .inr ⟨hm, ?_, hnone⟩
        cases needKvs with
        | optional => rfl
        | required => cases hneed

end Trace

section Start

variable {base : Baselibs N} {dir : String} {instanceId : InstanceId} {t : Trace}
  {maps : List KvsMap} {disk : Fs} {self : Kvs}

theorem Keeps.fail_slot (h : Keeps base self.filenamePrefix maps disk)
    (hbuf : Kvs.buffer base self.kvs = .ok buf)
    (hn : n < 2 * (min maps.length kvsMaxSnapshots - 1)) (left : Option Bytes)
    (hs : ∀ i, q ≠ snapFile self.filenamePrefix (i + 1))
    (hh : ∀ i, q ≠ hashFile self.filenamePrefix (i + 1)) :
    (Kvs.flush base true true self).fail n left disk q = disk q := by
  obtain ⟨texts, hslots, hall⟩ := h.texts
  rw [← hall.length_eq] at hn
  obtain ⟨k, hk⟩ : ∃ k, min texts.length kvsMaxSnapshots = k + 1 :=
    ⟨min texts.length kvsMaxSnapshots - 1, by omega⟩
  have hrotate := hslots.snapshotRotate_eq
  have hcollect : Kvs.collectBuffer base true self = .ok buf := hbuf
  rw [hk, Disk.shiftUp_succ] at hrotate
  have hjournal : ∃ rest, (Kvs.flush base true true self disk).2 =
      Disk.shiftUp (fun i => hashFile self.filenamePrefix (i + 1))
        (fun i => snapFile self.filenamePrefix (i + 1)) k ++ rest := by
    rw [Kvs.flush, Disk.Prog.bind_query hcollect, Disk.Prog.bind_ok hrotate, List.append_assoc]
    exact ⟨_, rfl⟩
  obtain ⟨rest, hrest⟩ := hjournal
  refine Disk.Prog.fail_frame hrest ?_ (.inl ?_) left
  · intro step hstep ht
    obtain ⟨i, -, hq⟩ := Disk.shiftUp_touches hstep ht
    exact hq.elim (hh i) (hs i)
  · rw [Disk.shiftUp_length]
    omega

theorem open_congr (h : ∀ q, (∀ i, q ≠ snapFile (instancePrefix base dir instanceId) (i + 1)) →
      (∀ i, q ≠ hashFile (instancePrefix base dir instanceId) (i + 1)) → disk' q = disk q) :
    Kvs.open base instanceId needDefaults needKvs dir disk' =
      Kvs.open base instanceId needDefaults needKvs dir disk := by
  have hfamilies := families (instancePrefix base dir instanceId)
  have hslot (need : OpenJsonNeedFile) :
      openJson base (instancePrefix base dir instanceId ++ "_0") need disk' =
        openJson base (instancePrefix base dir instanceId ++ "_0") need disk := by
    rw [slotPrefix_zero]
    apply openJson_congr
    · apply h
      · exact fun i he => absurd (hfamilies.inj_right he) (by omega)
      · exact fun i => (hfamilies.disjoint _ _).symm
    · apply h
      · exact fun i => hfamilies.disjoint _ _
      · exact fun i he => absurd (hfamilies.inj_left he) (by omega)
  have hdefaults (need : OpenJsonNeedFile) :
      openJson base (instancePrefix base dir instanceId ++ "_default") need disk' =
        openJson base (instancePrefix base dir instanceId ++ "_default") need disk :=
    openJson_default fun q hs hh => h q (fun i => hs (i + 1)) fun i => hh (i + 1)
  simp only [Kvs.open, hslot, hdefaults]

theorem Event.step_flush (hbuf : Kvs.buffer base t.session.store.kvs = .ok buf)
    (hparent : base.parentPath (snapFile t.session.store.filenamePrefix 0) ≠ "") :
    (Event.step base dir instanceId t (.call .flush)).1 =
      ⟨(Action.step base dir instanceId t.session .flush).1, [t.session.store.kvs]⟩ := by
  rw [Event.step, Action.step_flush hbuf hparent]

end Start

/-- A third flush stops between the two renames of slot `1`, and the next `open` has the map of the
second one. -/
theorem open_interrupted_second : ∃ write read, (textBaselibs write read).Lawful ∧
    let t := (Transition.run (Event.step (textBaselibs write read) "/data" 1) ⟨.start, []⟩
      [.call .flush, .call (.setValue "answer" (.i32 42)), .call .flush, .call .reset,
        .interrupted 1 none]).1
    t.candidates = [.empty, answer] ∧
      Kvs.open (textBaselibs write read) 1 .optional .optional "/data" t.session.disk =
        .ok ⟨answer, .empty, "/data/kvs_1"⟩ ∧
      (answer ∈ t.candidates ∨ answer = .empty ∧ OpenNeedKvs.optional = .optional ∧
        t.session.disk (snapFile (instancePrefix (textBaselibs write read) "/data" 1) 0) =
          none) := by
  obtain ⟨write, read, hlawful, hall, hanswer⟩ := exists_baselibs answer answerText
  obtain ⟨buf, hempty⟩ := hall .empty
  refine ⟨write, read, hlawful, ?_⟩
  have hflush {disk : Fs} {kvs : KvsMap} {maps candidates : List KvsMap} {buf : Bytes}
      (hbuf : Kvs.buffer (textBaselibs write read) kvs = .ok buf) :
      (Event.step (textBaselibs write read) "/data" 1
        ⟨⟨disk, ⟨kvs, .empty, "/data/kvs_1"⟩, maps⟩, candidates⟩ (.call .flush)).1 =
          ⟨⟨Disk.replay disk (flushSteps "/data/kvs_1" buf), ⟨kvs, .empty, "/data/kvs_1"⟩,
            kvs :: maps⟩, [kvs]⟩ := by
    rw [Event.step_flush hbuf parentPath_data, Action.step_flush hbuf parentPath_data]
  have hset {disk : Fs} {maps candidates : List KvsMap} :
      (Event.step (textBaselibs write read) "/data" 1
        ⟨⟨disk, ⟨.empty, .empty, "/data/kvs_1"⟩, maps⟩, candidates⟩
          (.call (.setValue "answer" (.i32 42)))).1 =
        ⟨⟨disk, ⟨answer, .empty, "/data/kvs_1"⟩, maps⟩, candidates⟩ := rfl
  have hreset {disk : Fs} {kvs : KvsMap} {maps candidates : List KvsMap} :
      (Event.step (textBaselibs write read) "/data" 1
        ⟨⟨disk, ⟨kvs, .empty, "/data/kvs_1"⟩, maps⟩, candidates⟩ (.call .reset)).1 =
        ⟨⟨disk, ⟨.empty, .empty, "/data/kvs_1"⟩, maps⟩, candidates⟩ := rfl
  intro t
  obtain ⟨disk, hsound, ht⟩ : ∃ disk,
      Session.Sound (textBaselibs write read) "/data" 1 Session.start.disk
        ⟨disk, ⟨.empty, .empty, "/data/kvs_1"⟩, [answer, .empty]⟩ ∧
      t = (Event.step (textBaselibs write read) "/data" 1
        ⟨⟨disk, ⟨.empty, .empty, "/data/kvs_1"⟩, [answer, .empty]⟩, [answer]⟩
          (.interrupted 1 none)).1 := by
    simp only [t, Transition.run, Session.start, hflush hempty, hset, hflush hanswer, hreset]
    refine ⟨_, ?_, rfl⟩
    have h : Session.Sound (textBaselibs write read) "/data" 1 Session.start.disk .start :=
      .start start_named (start_disk _)
    have h := h.flush parentPath_start
    rw [Action.step_flush hempty parentPath_data] at h
    have h := (h.step hlawful parentPath_start (.setValue "answer" (.i32 42))).flush
      parentPath_start
    rw [Action.step_flush hanswer parentPath_data] at h
    exact h.step hlawful parentPath_start .reset
  have hcut (q : String) (hs : ∀ i, q ≠ snapFile "/data/kvs_1" (i + 1))
      (hh : ∀ i, q ≠ hashFile "/data/kvs_1" (i + 1)) : t.session.disk q = disk q := by
    have hkeeps : Keeps (textBaselibs write read)
        (Kvs.mk .empty .empty "/data/kvs_1").filenamePrefix [answer, .empty] disk := by
      have hkeeps := hsound.keeps
      rwa [instancePrefix_start] at hkeeps
    rw [ht]
    exact hkeeps.fail_slot hempty Nat.one_lt_two none hs hh
  have hopen : Kvs.open (textBaselibs write read) 1 .optional .optional "/data" t.session.disk =
      .ok ⟨answer, .empty, "/data/kvs_1"⟩ := by
    have hopen := hsound.open hlawful .optional
    rw [openJson_missing rfl] at hopen
    rw [open_congr, hopen, instancePrefix_start]
    · rfl
    · intro q hs hh
      rw [instancePrefix_start] at hs hh
      exact hcut q hs hh
  refine ⟨?_, hopen, ?_⟩
  · rw [ht]
    rfl
  · exact open_interrupted (s := .start) hlawful start_named rfl _ .optional .optional _ hopen

end Persistency.Cpp
