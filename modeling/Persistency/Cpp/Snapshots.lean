import Persistency.Library.Transition
import Persistency.Cpp.Slots

namespace Persistency.Cpp
set_option autoImplicit true

structure Keeps (base : Baselibs N) (p : String) (maps : List KvsMap) (disk : Fs) : Prop where
  texts : ∃ texts, Slots p texts disk ∧
    List.Forall₂ (fun text m => Kvs.buffer base m = .ok text) texts maps
  bound : maps.length ≤ kvsMaxSnapshots + 1

namespace Keeps

variable {base : Baselibs N} {p : String} {maps : List KvsMap} {disk : Fs} {self : Kvs}

theorem empty (h : ∀ i, disk (snapFile p i) = none ∧ disk (hashFile p i) = none) :
    Keeps base p [] disk where
  texts := ⟨[], ⟨fun i => (h i).1, fun i => (h i).2⟩, .nil⟩
  bound := Nat.zero_le _

theorem slot_some (h : Keeps base p maps disk) (hi : i < maps.length) :
    ∃ buf, Kvs.buffer base (maps.get ⟨i, hi⟩) = .ok buf ∧ disk (snapFile p i) = some buf ∧
      disk (hashFile p i) = some (getHashBytes buf) := by
  obtain ⟨texts, hslots, hall⟩ := h.texts
  have hlt : i < texts.length := hall.length_eq ▸ hi
  have ht : texts[i]? = some (texts.get ⟨i, hlt⟩) := List.getElem?_eq_getElem hlt
  exact ⟨texts.get ⟨i, hlt⟩, hall.get hlt hi, (hslots.snap i).trans ht,
    (hslots.hash i).trans (congrArg _ ht)⟩

theorem slot_none (h : Keeps base p maps disk) (hi : maps.length ≤ i) :
    disk (snapFile p i) = none ∧ disk (hashFile p i) = none := by
  obtain ⟨texts, hslots, hall⟩ := h.texts
  have ht : texts[i]? = none := List.getElem?_eq_none_iff.2 (hall.length_eq ▸ hi)
  exact ⟨(hslots.snap i).trans ht, (hslots.hash i).trans (congrArg _ ht)⟩

theorem slots_eq (h : Keeps base p maps disk) :
    {i | (disk (snapFile p i)).isSome ∧ (disk (hashFile p i)).isSome} =
      Set.Iio maps.length := by
  ext i
  apply Iff.intro
  · rintro ⟨hs, -⟩
    by_contra hi
    rw [(h.slot_none (Nat.not_lt.1 hi)).1] at hs
    cases hs
  · intro hi
    obtain ⟨buf, -, hs, hh⟩ := h.slot_some hi
    exact ⟨by rw [hs]; rfl, by rw [hh]; rfl⟩

theorem openJson_some (h : Keeps base p maps disk) (hbase : base.Lawful) (hi : i < maps.length) :
    openJson base (p ++ "_" ++ toString i) need disk = .ok (maps.get ⟨i, hi⟩) := by
  obtain ⟨buf, hbuf, hs, hh⟩ := h.slot_some hi
  exact (openJson_pair hs hh).trans (hbase.parse_buffer hbuf)

theorem openJson_none (h : Keeps base p maps disk) (hi : maps.length ≤ i) :
    openJson base (p ++ "_" ++ toString i) need disk =
      if need = .required then .error .kvsFileReadError else .ok .empty :=
  openJson_missing (h.slot_none hi).1

theorem openJson_latest (h : Keeps base p maps disk) (hbase : base.Lawful) :
    openJson base (p ++ "_0") .optional disk = .ok (maps.headD .empty) := by
  rw [slotPrefix_zero]
  cases maps with
  | nil => exact h.openJson_none (Nat.zero_le 0)
  | cons m maps => exact h.openJson_some hbase (Nat.zero_lt_succ _)

theorem snapshotCount (h : Keeps base self.filenamePrefix maps disk) :
    Kvs.snapshotCount self disk = .ok (min kvsMaxSnapshots maps.length) := by
  obtain ⟨texts, hslots, hall⟩ := h.texts
  rw [Kvs.snapshotCount, hslots.countFrom_eq _ _ (Nat.zero_le _), Nat.zero_add, hall.length_eq]

theorem snapshotRestore_ok (h : Keeps base self.filenamePrefix maps disk) (hbase : base.Lawful)
    (h1 : 1 ≤ snapshotId) (hmax : snapshotId ≤ kvsMaxSnapshots) (hid : snapshotId < maps.length) :
    Kvs.snapshotRestore base true snapshotId disk self =
      (.ok (), { self with kvs := maps.get ⟨snapshotId, hid⟩ }) := by
  have hcount : ¬ min kvsMaxSnapshots maps.length < snapshotId := by omega
  simp only [Kvs.snapshotRestore, h.snapshotCount, Nat.ne_of_gt h1, hcount,
    h.openJson_some hbase hid, ↓reduceIte]

theorem snapshotRestore_invalid (h : Keeps base self.filenamePrefix maps disk)
    (hid : snapshotId = 0 ∨ min kvsMaxSnapshots maps.length < snapshotId) :
    Kvs.snapshotRestore base true snapshotId disk self = (.error .invalidSnapshotId, self) := by
  simp only [Kvs.snapshotRestore, h.snapshotCount, ↓reduceIte]
  by_cases h0 : snapshotId = 0
  · rw [if_pos h0]
  · rw [if_neg h0, if_pos (hid.resolve_left h0)]

/-- The guard lets the first identifier pass that has no slot. -/
theorem snapshotRestore_unread (h : Keeps base self.filenamePrefix maps disk) (h1 : 1 ≤ snapshotId)
    (hmax : snapshotId ≤ kvsMaxSnapshots) (hid : snapshotId = maps.length) :
    Kvs.snapshotRestore base true snapshotId disk self = (.error .kvsFileReadError, self) := by
  have hcount : ¬ min kvsMaxSnapshots maps.length < snapshotId := by omega
  simp only [Kvs.snapshotRestore, h.snapshotCount, Nat.ne_of_gt h1, hcount,
    h.openJson_none (Nat.le_of_eq hid.symm), ↓reduceIte]

theorem flush (h : Keeps base p maps disk) (hbuf : Kvs.buffer base m = .ok buf) :
    Keeps base p ((m :: maps).take (kvsMaxSnapshots + 1))
      (Disk.replay disk (flushSteps p buf)) := by
  obtain ⟨texts, hslots, hall⟩ := h.texts
  have hlen : texts.length ≤ kvsMaxSnapshots + 1 := hall.length_eq ▸ h.bound
  have hbound : ((m :: maps).take (kvsMaxSnapshots + 1)).length ≤ kvsMaxSnapshots + 1 := by
    rw [List.length_take]
    exact Nat.min_le_left _ _
  exact ⟨⟨_, hslots.flushed hlen buf, List.forall₂_take _ (.cons hbuf hall)⟩, hbound⟩

end Keeps

theorem Kvs.snapshotRestore_error
    (h : snapshotRestore base ownsLock snapshotId disk self = (.error e, self')) :
    self' = self := by
  unfold snapshotRestore at h
  grind

structure Session where
  disk : Fs
  store : Kvs
  /-- The maps of the successful flushes, the latest first. -/
  flushed : List KvsMap

inductive Action where
  | setValue (key : String) (value : KvsValue)
  | removeKey (key : String)
  | reset
  | resetKey (key : String)
  | flush
  | snapshotRestore (snapshotId : SnapshotId)
  | reopen (needDefaults : OpenNeedDefaults)

section Session

variable (base : Baselibs N) (dir : String) (instanceId : InstanceId)

def Action.step (s : Session) : Action → Session × Except ErrorCode Unit
  | .setValue key value => edit (Kvs.setValue true key value s.store)
  | .removeKey key => edit (Kvs.removeKey true key s.store)
  | .reset => edit (Kvs.reset true s.store)
  | .resetKey key => edit (Kvs.resetKey true key s.store)
  | .flush =>
    match (Kvs.flush base true true s.store).run s.disk with
    | (.ok (), disk) => ({ s with disk, flushed := s.store.kvs :: s.flushed }, .ok ())
    | (.error e, disk) => ({ s with disk }, .error e)
  | .snapshotRestore snapshotId => edit (Kvs.snapshotRestore base true snapshotId s.disk s.store)
  | .reopen needDefaults =>
    match Kvs.open base instanceId needDefaults .optional dir s.disk with
    | .ok store => ({ s with store }, .ok ())
    | .error e => (s, .error e)
where
  edit (r : Except ErrorCode Unit × Kvs) : Session × Except ErrorCode Unit :=
    ({ s with store := r.2 }, r.1)

/-- What holds in every session that started over the files `disk`. -/
structure Session.Sound (disk : Fs) (s : Session) : Prop where
  keeps : Keeps base (instancePrefix base dir instanceId)
    (s.flushed.take (kvsMaxSnapshots + 1)) s.disk
  named : s.store.filenamePrefix = instancePrefix base dir instanceId
  others : ∀ q, (∀ i, q ≠ snapFile (instancePrefix base dir instanceId) i) →
    (∀ i, q ≠ hashFile (instancePrefix base dir instanceId) i) → s.disk q = disk q

variable {base : Baselibs N} {dir : String} {instanceId : InstanceId} {disk : Fs} {store : Kvs}
  {s : Session}

theorem Action.step_edit (h : s.Sound base dir instanceId disk)
    (hr : r.2.filenamePrefix = s.store.filenamePrefix) :
    (Action.step.edit s r).1.Sound base dir instanceId disk :=
  ⟨h.keeps, hr.trans h.named, h.others⟩

theorem Session.Sound.flush (h : s.Sound base dir instanceId disk)
    (hparent : base.parentPath (snapFile (instancePrefix base dir instanceId) 0) ≠ "") :
    (Action.step base dir instanceId s .flush).1.Sound base dir instanceId disk := by
  simp only [Action.step]
  cases hbuf : Kvs.buffer base s.store.kvs with
  | error e =>
    rw [flush_error hbuf]
    exact h
  | ok buf =>
    rw [flush_ok (h.named ▸ hparent) hbuf, h.named]
    have hkeeps := h.keeps.flush hbuf
    rw [← List.take_succ_cons, List.take_take] at hkeeps
    have hothers (q : String) (hs : ∀ i, q ≠ snapFile (instancePrefix base dir instanceId) i)
        (hh : ∀ i, q ≠ hashFile (instancePrefix base dir instanceId) i) :
        Disk.replay s.disk (flushSteps (instancePrefix base dir instanceId) buf) q = disk q :=
      (flushSteps_frame hs hh).trans (h.others q hs hh)
    exact ⟨hkeeps, h.named, hothers⟩

theorem Session.Sound.open (h : s.Sound base dir instanceId disk) (hbase : base.Lawful)
    (needDefaults : OpenNeedDefaults) :
    Kvs.open base instanceId needDefaults .optional dir s.disk =
      (openJson base (instancePrefix base dir instanceId ++ "_default")
        (if needDefaults = .required then .required else .optional) disk).map fun defaultValues =>
          ⟨s.flushed.headD .empty, defaultValues, instancePrefix base dir instanceId⟩ := by
  have hdefaults (need : OpenJsonNeedFile) :
      openJson base (instancePrefix base dir instanceId ++ "_default") need s.disk =
        openJson base (instancePrefix base dir instanceId ++ "_default") need disk :=
    openJson_default h.others
  have hlatest : (s.flushed.take (kvsMaxSnapshots + 1)).headD FiniteMap.empty =
      s.flushed.headD .empty := by
    cases s.flushed <;> rfl
  simp only [Kvs.open, hdefaults, reduceCtorEq, ↓reduceIte, h.keeps.openJson_latest hbase, hlatest]
  cases openJson base (instancePrefix base dir instanceId ++ "_default")
    (if needDefaults = .required then .required else .optional) disk <;> rfl

theorem Session.Sound.step (h : s.Sound base dir instanceId disk) (hbase : base.Lawful)
    (hparent : base.parentPath (snapFile (instancePrefix base dir instanceId) 0) ≠ "")
    (a : Action) : (a.step base dir instanceId s).1.Sound base dir instanceId disk := by
  cases a with
  | setValue key value => exact Action.step_edit h rfl
  | removeKey key =>
    apply Action.step_edit h
    unfold Kvs.removeKey
    grind
  | reset => exact Action.step_edit h rfl
  | resetKey key =>
    apply Action.step_edit h
    unfold Kvs.resetKey
    grind
  | flush => exact h.flush hparent
  | snapshotRestore snapshotId =>
    apply Action.step_edit h
    unfold Kvs.snapshotRestore
    grind
  | reopen needDefaults =>
    simp only [Action.step, h.open hbase]
    cases openJson base (instancePrefix base dir instanceId ++ "_default")
      (if needDefaults = .required then .required else .optional) disk with
    | error e => exact h
    | ok defaultValues => exact ⟨h.keeps, rfl, h.others⟩

theorem Session.Sound.start (hnamed : store.filenamePrefix = instancePrefix base dir instanceId)
    (hdisk : ∀ i, disk (snapFile (instancePrefix base dir instanceId) i) = none ∧
      disk (hashFile (instancePrefix base dir instanceId) i) = none) :
    Session.Sound base dir instanceId disk ⟨disk, store, []⟩ :=
  ⟨.empty hdisk, hnamed, fun _ _ _ => rfl⟩

theorem run_sound (hparent : base.parentPath (snapFile (instancePrefix base dir instanceId) 0) ≠ "")
    (hbase : base.Lawful) (hnamed : store.filenamePrefix = instancePrefix base dir instanceId)
    (hdisk : ∀ i, disk (snapFile (instancePrefix base dir instanceId) i) = none ∧
      disk (hashFile (instancePrefix base dir instanceId) i) = none) (actions : List Action) :
    (Transition.run (Action.step base dir instanceId) ⟨disk, store, []⟩ actions).1.Sound
      base dir instanceId disk := by
  apply Transition.run_invariant (I := Session.Sound base dir instanceId disk)
  · exact fun s a h => h.step hbase hparent a
  · exact .start hnamed hdisk

/-- The history of the store as its slots, its calls and its next `open` show it. -/
structure Session.History (base : Baselibs N) (dir : String) (instanceId : InstanceId) (disk : Fs)
    (s : Session) : Prop where
  slots : ∀ i (hi : i < s.flushed.length), i < kvsMaxSnapshots + 1 →
    ∃ buf, Kvs.buffer base (s.flushed.get ⟨i, hi⟩) = .ok buf ∧
      s.disk (snapFile (instancePrefix base dir instanceId) i) = some buf ∧
      s.disk (hashFile (instancePrefix base dir instanceId) i) = some (getHashBytes buf)
  others : ∀ i, min s.flushed.length (kvsMaxSnapshots + 1) ≤ i →
    s.disk (snapFile (instancePrefix base dir instanceId) i) = none ∧
      s.disk (hashFile (instancePrefix base dir instanceId) i) = none
  reopens : ∀ needDefaults, Kvs.open base instanceId needDefaults .optional dir s.disk =
    (openJson base (instancePrefix base dir instanceId ++ "_default")
      (if needDefaults = .required then .required else .optional) disk).map fun defaultValues =>
        ⟨s.flushed.headD .empty, defaultValues, instancePrefix base dir instanceId⟩
  restores : ∀ i (hi : i < s.flushed.length), 1 ≤ i → i ≤ kvsMaxSnapshots →
    Kvs.snapshotRestore base true i s.disk s.store =
      (.ok (), { s.store with kvs := s.flushed.get ⟨i, hi⟩ })
  refuses : ∀ i e self', Kvs.snapshotRestore base true i s.disk s.store = (.error e, self') →
    self' = s.store

theorem Session.Sound.history (h : s.Sound base dir instanceId disk) (hbase : base.Lawful) :
    s.History base dir instanceId disk where
  slots i hi hmax := by
    have hlt : i < (s.flushed.take (kvsMaxSnapshots + 1)).length := by
      rw [List.length_take]
      omega
    obtain ⟨buf, hbuf, hfiles⟩ := h.keeps.slot_some hlt
    rw [List.get_eq_getElem, List.getElem_take] at hbuf
    exact ⟨buf, hbuf, hfiles⟩
  others i hi := by
    apply h.keeps.slot_none
    rwa [List.length_take, Nat.min_comm]
  reopens := h.open hbase
  restores i hi h1 hmax := by
    have hlt : i < (s.flushed.take (kvsMaxSnapshots + 1)).length := by
      rw [List.length_take]
      omega
    have hkeeps := h.keeps
    rw [← h.named] at hkeeps
    rw [hkeeps.snapshotRestore_ok hbase h1 hmax hlt, List.get_eq_getElem, List.get_eq_getElem,
      List.getElem_take]
  refuses _ _ _ := Kvs.snapshotRestore_error

/-- In every session that starts without slots, the slots, the next `open` and the restores show
the flushed maps. -/
theorem run_history (hbase : base.Lawful)
    (hparent : base.parentPath (snapFile (instancePrefix base dir instanceId) 0) ≠ "")
    (hnamed : store.filenamePrefix = instancePrefix base dir instanceId)
    (hdisk : ∀ i, disk (snapFile (instancePrefix base dir instanceId) i) = none ∧
      disk (hashFile (instancePrefix base dir instanceId) i) = none) (actions : List Action) :
    (Transition.run (Action.step base dir instanceId) ⟨disk, store, []⟩ actions).1.History
      base dir instanceId disk :=
  (run_sound hparent hbase hnamed hdisk actions).history hbase

theorem Action.step_flush (hbuf : Kvs.buffer base s.store.kvs = .ok buf)
    (hparent : base.parentPath (snapFile s.store.filenamePrefix 0) ≠ "") :
    Action.step base dir instanceId s .flush =
      (⟨Disk.replay s.disk (flushSteps s.store.filenamePrefix buf), s.store,
        s.store.kvs :: s.flushed⟩, .ok ()) := by
  rw [Action.step, flush_ok hparent hbuf]

end Session

section Bookkeeping

/-- The identifiers that have a data file and a hash file. -/
def Session.slots (s : Session) : Set Nat :=
  {i | (s.disk (snapFile s.store.filenamePrefix i)).isSome ∧
    (s.disk (hashFile s.store.filenamePrefix i)).isSome}

/-- The count is the number of slots, and the restore of `snapshotId` follows it. -/
def Session.Bookkeeping (base : Baselibs N) (s : Session) (snapshotId : Nat) : Prop :=
  ∃ count, Kvs.snapshotCount s.store s.disk = .ok count ∧ s.slots.ncard = count ∧
    count ≤ Kvs.snapshotMaxCount ∧
    ((Kvs.snapshotRestore base true snapshotId s.disk s.store).1 = .ok () ↔
      1 ≤ snapshotId ∧ snapshotId < count) ∧
    (¬ (1 ≤ snapshotId ∧ snapshotId < count) →
      (Kvs.snapshotRestore base true snapshotId s.disk s.store).1 = .error .invalidSnapshotId)

theorem Keeps.bookkeeping_iff {base : Baselibs N} {s : Session}
    (h : Keeps base s.store.filenamePrefix maps s.disk) (hbase : base.Lawful)
    (snapshotId : Nat) : s.Bookkeeping base snapshotId ↔
      maps.length ≤ kvsMaxSnapshots ∧ (maps.length = 0 ∨ snapshotId ≠ maps.length) := by
  have hslots : s.slots.ncard = maps.length := by
    rw [Session.slots, h.slots_eq, Set.ncard_eq_toFinset_card', Set.toFinset_Iio, Nat.card_Iio]
  apply Iff.intro
  · rintro ⟨count, hcount, hcard, hmax, -, hrefuse⟩
    rw [hslots] at hcard
    subst hcard
    refine ⟨hmax, ?_⟩
    by_contra hne
    rw [not_or, not_not] at hne
    obtain ⟨h0, hid⟩ := hne
    have hr := hrefuse (by omega)
    rw [h.snapshotRestore_unread (by omega) (by rw [hid]; exact hmax) hid] at hr
    cases hr
  · rintro ⟨hmax, hid⟩
    refine ⟨maps.length, ?_, hslots, hmax, ?_, ?_⟩
    · rw [h.snapshotCount, Nat.min_eq_right hmax]
    · apply Iff.intro
      · intro hok
        by_contra hn
        rw [h.snapshotRestore_invalid (by omega)] at hok
        cases hok
      · rintro ⟨h1, hlt⟩
        rw [h.snapshotRestore_ok hbase h1 (by omega) hlt]
    · intro hn
      rw [h.snapshotRestore_invalid (by omega)]

/-- In a session that starts without slots the bookkeeping is exact as long as there were no more
than `kvsMaxSnapshots` flushes, except for the first identifier after the slots. -/
theorem run_bookkeeping {base : Baselibs N} (hbase : base.Lawful)
    (hparent : base.parentPath (snapFile (instancePrefix base dir instanceId) 0) ≠ "")
    (hnamed : store.filenamePrefix = instancePrefix base dir instanceId)
    (hdisk : ∀ i, disk (snapFile (instancePrefix base dir instanceId) i) = none ∧
      disk (hashFile (instancePrefix base dir instanceId) i) = none) (actions : List Action)
    (snapshotId : Nat) :
    let s := (Transition.run (Action.step base dir instanceId) ⟨disk, store, []⟩ actions).1
    s.Bookkeeping base snapshotId ↔ s.flushed.length ≤ kvsMaxSnapshots ∧
      (s.flushed.length = 0 ∨ snapshotId ≠ s.flushed.length) := by
  intro s
  have h : s.Sound base dir instanceId disk := run_sound hparent hbase hnamed hdisk actions
  have hkeeps := h.keeps
  rw [← h.named] at hkeeps
  rw [hkeeps.bookkeeping_iff hbase, List.length_take]
  omega

end Bookkeeping

def Session.start : Session := ⟨fun _ => none, ⟨.empty, .empty, "/data/kvs_1"⟩, []⟩

section Start

variable {write : Json (Int ⊕ Binary64) → String} {read : String → Option (Json (Int ⊕ Binary64))}

theorem instancePrefix_start :
    instancePrefix (textBaselibs write read) "/data" 1 = "/data/kvs_1" := by
  simp only [instancePrefix, textBaselibs]
  decide

theorem start_named : Session.start.store.filenamePrefix =
    instancePrefix (textBaselibs write read) "/data" 1 := instancePrefix_start.symm

theorem start_disk (p : String) (i : Nat) : Session.start.disk (snapFile p i) = none ∧
    Session.start.disk (hashFile p i) = none := ⟨rfl, rfl⟩

theorem parentPath_start : (textBaselibs write read).parentPath
    (snapFile (instancePrefix (textBaselibs write read) "/data" 1) 0) ≠ "" := by
  rw [instancePrefix_start]
  exact parentPath_data

theorem run_flushes (disk : Fs) (hanswer : Kvs.buffer (textBaselibs write read) answer = .ok buf)
    (hempty : Kvs.buffer (textBaselibs write read) .empty = .ok buf') :
    ∃ disk', (Transition.run (Action.step (textBaselibs write read) "/data" 1)
      ⟨disk, ⟨.empty, .empty, "/data/kvs_1"⟩, []⟩
      [.setValue "answer" (.i32 42), .flush, .reset, .flush]).1 =
        ⟨disk', ⟨.empty, .empty, "/data/kvs_1"⟩, [.empty, answer]⟩ := by
  have hparent : (textBaselibs write read).parentPath (snapFile "/data/kvs_1" 0) ≠ "" :=
    parentPath_data
  have hset : Action.step (textBaselibs write read) "/data" 1
      ⟨disk, ⟨.empty, .empty, "/data/kvs_1"⟩, []⟩ (.setValue "answer" (.i32 42)) =
        (⟨disk, ⟨answer, .empty, "/data/kvs_1"⟩, []⟩, .ok ()) := rfl
  have hreset (disk : Fs) : Action.step (textBaselibs write read) "/data" 1
      ⟨disk, ⟨answer, .empty, "/data/kvs_1"⟩, [answer]⟩ .reset =
        (⟨disk, ⟨.empty, .empty, "/data/kvs_1"⟩, [answer]⟩, .ok ()) := rfl
  simp only [Transition.run, hset]
  rw [Action.step_flush (s := ⟨_, ⟨answer, _, _⟩, _⟩) hanswer hparent, hreset,
    Action.step_flush (s := ⟨_, ⟨.empty, _, _⟩, _⟩) hempty hparent]
  exact ⟨_, rfl⟩

end Start

theorem run_history_answer : ∃ write read, (textBaselibs write read).Lawful ∧
    Kvs.buffer (textBaselibs write read) answer = .ok (utf8 answerText) ∧
    let s := (Transition.run (Action.step (textBaselibs write read) "/data" 1) .start
      [.setValue "answer" (.i32 42), .flush, .reset, .flush]).1
    s.disk "/data/kvs_1_1.json" = some (utf8 answerText) ∧
      (Kvs.open (textBaselibs write read) 1 .optional .optional "/data" s.disk).map Kvs.kvs =
        .ok .empty ∧
      (Kvs.snapshotRestore (textBaselibs write read) true 1 s.disk s.store).2.kvs = answer := by
  obtain ⟨write, read, hbase, hall, hanswer⟩ := exists_baselibs answer answerText
  obtain ⟨buf, hempty⟩ := hall .empty
  refine ⟨write, read, hbase, hanswer, ?_⟩
  intro s
  have h : s.History _ "/data" 1 _ := run_history hbase parentPath_start start_named
    (start_disk _) [.setValue "answer" (.i32 42), .flush, .reset, .flush]
  obtain ⟨disk, hs⟩ := run_flushes _ hanswer hempty
  change s = _ at hs
  rw [hs] at h ⊢
  refine ⟨?_, ?_, ?_⟩
  · obtain ⟨text, htext, hfile, -⟩ := h.slots 1 Nat.one_lt_two (by decide)
    cases hanswer.symm.trans htext
    rw [instancePrefix_start] at hfile
    exact hfile
  · rw [h.reopens, openJson_missing rfl]
    rfl
  · rw [h.restores 1 Nat.one_lt_two (by decide) (by decide)]
    rfl

theorem run_bookkeeping_first : ∃ write read, (textBaselibs write read).Lawful ∧
    Kvs.buffer (textBaselibs write read) answer = .ok (utf8 answerText) ∧
    (Transition.run (Action.step (textBaselibs write read) "/data" 1) .start
      [.setValue "answer" (.i32 42), .flush, .reset, .flush]).1.Bookkeeping
        (textBaselibs write read) 1 := by
  obtain ⟨write, read, hbase, hall, hanswer⟩ := exists_baselibs answer answerText
  obtain ⟨buf, hempty⟩ := hall .empty
  refine ⟨write, read, hbase, hanswer, ?_⟩
  obtain ⟨disk, hs⟩ := run_flushes _ hanswer hempty
  have h := run_bookkeeping hbase parentPath_start start_named (start_disk _)
    [.setValue "answer" (.i32 42), .flush, .reset, .flush] 1
  have hlen : _ = 2 := congrArg (fun s : Session => s.flushed.length) hs
  refine h.2 ⟨?_, .inr ?_⟩
  · exact hlen.trans_le (Nat.le_succ 2)
  · exact fun h1 => absurd (h1.trans hlen) (by decide)

/-- After two flushes there is no slot `2`, but the guard lets the identifier pass. -/
theorem bookkeeping_second : ∃ write read, (textBaselibs write read).Lawful ∧
    Kvs.buffer (textBaselibs write read) answer = .ok (utf8 answerText) ∧
    ¬ (Transition.run (Action.step (textBaselibs write read) "/data" 1) .start
      [.setValue "answer" (.i32 42), .flush, .reset, .flush]).1.Bookkeeping
        (textBaselibs write read) 2 := by
  obtain ⟨write, read, hbase, hall, hanswer⟩ := exists_baselibs answer answerText
  obtain ⟨buf, hempty⟩ := hall .empty
  refine ⟨write, read, hbase, hanswer, ?_⟩
  obtain ⟨disk, hs⟩ := run_flushes _ hanswer hempty
  change (Transition.run _ Session.start _).1 = _ at hs
  have h : Session.Sound _ "/data" 1 _ (Transition.run _ Session.start _).1 :=
    run_sound parentPath_start hbase start_named (start_disk _)
      [.setValue "answer" (.i32 42), .flush, .reset, .flush]
  rw [hs] at h ⊢
  have hkeeps := h.keeps
  rw [instancePrefix_start] at hkeeps
  rw [Keeps.bookkeeping_iff hkeeps hbase]
  rintro ⟨-, h0 | h2⟩
  · cases h0
  · exact h2 rfl

end Persistency.Cpp
