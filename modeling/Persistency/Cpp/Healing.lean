import Persistency.Cpp.InterruptedFlush

namespace Persistency.Cpp
set_option autoImplicit true

section Slots

variable {base : Baselibs N} {p : String} {disk : Fs} {maps : List KvsMap} {self : Kvs}

/-- The first slots are the listed maps; nothing is said of the others. -/
def Heads (base : Baselibs N) (p : String) (maps : List KvsMap) (disk : Fs) : Prop :=
  ∀ idx (hi : idx < maps.length), idx ≤ kvsMaxSnapshots →
    Stored base p disk idx (maps.get ⟨idx, hi⟩)

theorem Heads.flush (h : Heads base p maps disk) (hbuf : Kvs.buffer base m = .ok buf) :
    Heads base p (m :: maps) (Disk.replay disk (flushSteps p buf)) := by
  have hfamilies := families p
  intro idx hi hmax
  rw [flushSteps, Disk.replay_append]
  cases idx with
  | zero =>
    refine ⟨buf, hbuf, ?_, if_pos rfl⟩
    exact (Disk.Step.apply_frame (.write _ _) _ (hfamilies.disjoint 0 0).symm).trans (if_pos rfl)
  | succ idx =>
    obtain ⟨buf', hbuf', hsnap, hhash⟩ := h idx (Nat.lt_of_succ_lt_succ hi) (Nat.le_of_lt hmax)
    obtain ⟨hhash', hsnap'⟩ := Disk.replay_shiftUp hfamilies disk kvsMaxSnapshots (idx + 1)
    have hframe {q : String} (hs : q ≠ snapFile p 0) (hh : q ≠ hashFile p 0) (d : Fs) :
        Disk.replay d (slotSteps p buf) q = d q := by
      apply Disk.replay_frame
      intro step hstep
      simp only [slotSteps, List.mem_cons, List.not_mem_nil, or_false] at hstep
      rcases hstep with rfl | rfl
      · exact hs
      · exact hh
    refine ⟨buf', hbuf', ?_, ?_⟩
    · rw [hframe _ (hfamilies.disjoint _ _).symm, hsnap']
      · exact Disk.shifted_some hsnap hmax
      · exact fun h => absurd (hfamilies.inj_right h) (by omega)
    · rw [hframe (hfamilies.disjoint _ _), hhash']
      · exact Disk.shifted_some hhash hmax
      · exact fun h => absurd (hfamilies.inj_left h) (by omega)

theorem Stored.openJson (h : Stored base p disk idx m) (hbase : base.Lawful) :
    openJson base (p ++ "_" ++ toString idx) need disk = .ok m := by
  obtain ⟨buf, hbuf, hsnap, hhash⟩ := h
  exact (openJson_pair hsnap hhash).trans (hbase.parse_buffer hbuf)

theorem le_countFrom (n idx k : Nat) (hk : k ≤ n)
    (h : ∀ j, idx ≤ j → j < idx + k → (disk (snapFile p j)).isSome = true) :
    idx + k ≤ Kvs.countFrom p disk idx n := by
  induction n generalizing idx k with
  | zero =>
    rw [Nat.le_zero.1 hk]
    exact Nat.le_refl _
  | succ n ih =>
    cases k with
    | zero =>
      rw [Kvs.countFrom]
      split
      · have hle := ih (idx + 1) 0 (Nat.zero_le _) fun j h₁ h₂ => absurd h₂ (by omega)
        omega
      · exact Nat.le_refl _
    | succ k =>
      rw [Kvs.countFrom, if_pos (h idx (Nat.le_refl _) (by omega)), ← Nat.add_assoc,
        Nat.add_right_comm]
      exact ih (idx + 1) k (Nat.le_of_succ_le_succ hk) fun j h₁ h₂ => h j (by omega) (by omega)

theorem Heads.le_count (h : Heads base self.filenamePrefix maps disk) (hmax : k ≤ kvsMaxSnapshots)
    (hk : k ≤ maps.length) : k ≤ Kvs.countFrom self.filenamePrefix disk 0 kvsMaxSnapshots := by
  have hcount : 0 + k ≤ Kvs.countFrom self.filenamePrefix disk 0 kvsMaxSnapshots := by
    apply le_countFrom _ _ _ hmax
    intro j _ hj
    rw [Nat.zero_add] at hj
    obtain ⟨buf, -, hsnap, -⟩ := h j (Nat.lt_of_lt_of_le hj hk) (by omega)
    rw [hsnap]
    rfl
  rwa [Nat.zero_add] at hcount

theorem Heads.snapshotRestore (h : Heads base self.filenamePrefix maps disk) (hbase : base.Lawful)
    (h1 : 1 ≤ snapshotId) (hmax : snapshotId ≤ kvsMaxSnapshots) (hid : snapshotId < maps.length) :
    Kvs.snapshotRestore base true snapshotId disk self =
      (.ok (), { self with kvs := maps.get ⟨snapshotId, hid⟩ }) := by
  have hcount := h.le_count hmax (Nat.le_of_lt hid)
  simp only [Kvs.snapshotRestore, Kvs.snapshotCount, ↓reduceIte, Nat.ne_of_gt h1,
    Nat.not_lt.2 hcount, (h snapshotId hid hmax).openJson hbase]

end Slots

section Session

variable {base : Baselibs N} {dir : String} {instanceId : InstanceId} {disk : Fs} {store : Kvs}
  {s : Session}

/-- The latest flushes of a session as its slots, its restores and its next `open` show them. -/
structure Session.Healed (base : Baselibs N) (dir : String) (instanceId : InstanceId)
    (s : Session) : Prop where
  slots : Heads base (instancePrefix base dir instanceId) s.flushed s.disk
  reopens : ∀ m, s.flushed.head? = some m → ∀ needDefaults needKvs,
    Kvs.open base instanceId needDefaults needKvs dir s.disk =
      (openJson base (instancePrefix base dir instanceId ++ "_default")
        (if needDefaults = .required then .required else .optional) s.disk).map fun defaultValues =>
          ⟨m, defaultValues, instancePrefix base dir instanceId⟩
  restores : ∀ i (hi : i < s.flushed.length), 1 ≤ i → i ≤ kvsMaxSnapshots →
    Kvs.snapshotRestore base true i s.disk s.store =
      (.ok (), { s.store with kvs := s.flushed.get ⟨i, hi⟩ })
  counts : ∃ n, Kvs.snapshotCount s.store s.disk = .ok n ∧ min s.flushed.length kvsMaxSnapshots ≤ n
  flushes : (∃ buf, Kvs.buffer base s.store.kvs = .ok buf) →
    (Action.flush.step base dir instanceId s).2 = .ok ()

theorem Heads.healed (h : Heads base (instancePrefix base dir instanceId) s.flushed s.disk)
    (hbase : base.Lawful)
    (hparent : base.parentPath (snapFile (instancePrefix base dir instanceId) 0) ≠ "")
    (hnamed : s.store.filenamePrefix = instancePrefix base dir instanceId) :
    s.Healed base dir instanceId where
  slots := h
  reopens m hm needDefaults needKvs := by
    cases hflushed : s.flushed with
    | nil =>
      rw [hflushed] at hm
      cases hm
    | cons m' maps =>
      rw [hflushed] at hm h
      cases hm
      have hopen (need : OpenJsonNeedFile) :
          openJson base (instancePrefix base dir instanceId ++ "_0") need s.disk = .ok m := by
        rw [slotPrefix_zero]
        exact (h 0 (Nat.zero_lt_succ _) (Nat.zero_le _)).openJson hbase
      simp only [Kvs.open, hopen]
      cases openJson base (instancePrefix base dir instanceId ++ "_default")
        (if needDefaults = .required then .required else .optional) s.disk <;> rfl
  restores i hi h1 hmax := by
    rw [← hnamed] at h
    exact h.snapshotRestore hbase h1 hmax hi
  counts := by
    rw [← hnamed] at h
    exact ⟨_, rfl, h.le_count (Nat.min_le_right _ _) (Nat.min_le_left _ _)⟩
  flushes hbuf := by
    obtain ⟨buf, hbuf⟩ := hbuf
    rw [Action.step_flush hbuf (hnamed ▸ hparent)]

theorem Heads.step (h : Heads base (instancePrefix base dir instanceId) s.flushed s.disk)
    (hparent : base.parentPath (snapFile (instancePrefix base dir instanceId) 0) ≠ "")
    (hnamed : s.store.filenamePrefix = instancePrefix base dir instanceId) (a : Action) :
    Heads base (instancePrefix base dir instanceId) (a.step base dir instanceId s).1.flushed
        (a.step base dir instanceId s).1.disk ∧
      (a.step base dir instanceId s).1.store.filenamePrefix =
        instancePrefix base dir instanceId := by
  by_cases ha : a = .flush
  · subst ha
    cases hbuf : Kvs.buffer base s.store.kvs with
    | error e =>
      rw [Action.step, flush_error hbuf]
      exact ⟨h, hnamed⟩
    | ok buf =>
      rw [Action.step_flush hbuf (hnamed ▸ hparent)]
      refine ⟨?_, hnamed⟩
      rw [hnamed]
      exact h.flush hbuf
  · obtain ⟨hdisk, hflushed, hnamed'⟩ := Action.step_kept ha hnamed
    rw [hdisk, hflushed]
    exact ⟨h, hnamed'⟩

/-- Whatever the files are when a session starts, after its first flushes their maps are what the
slots, the restores and the next `open` show, and no flush of a map that can be written fails. -/
theorem run_heals (hbase : base.Lawful)
    (hparent : base.parentPath (snapFile (instancePrefix base dir instanceId) 0) ≠ "")
    (hnamed : store.filenamePrefix = instancePrefix base dir instanceId) (actions : List Action) :
    (Transition.run (Action.step base dir instanceId) ⟨disk, store, []⟩ actions).1.Healed
      base dir instanceId := by
  have hstart : Heads base (instancePrefix base dir instanceId) [] disk := by
    intro idx hi
    exact absurd hi (Nat.not_lt_zero idx)
  obtain ⟨hheads, hnamed'⟩ := Transition.run_invariant (s := ⟨disk, store, []⟩)
    (I := fun s : Session => Heads base (instancePrefix base dir instanceId) s.flushed s.disk ∧
      s.store.filenamePrefix = instancePrefix base dir instanceId)
    (fun s a h => h.1.step hparent h.2 a) ⟨hstart, hnamed⟩ actions
  exact hheads.healed hbase hparent hnamed'

end Session

def torn : Fs := fun q => if q = snapFile "/data/kvs_1" 0 then some [0x7b] else none

theorem run_heals_torn : ∃ write read, (textBaselibs write read).Lawful ∧
    Kvs.buffer (textBaselibs write read) answer = .ok (utf8 answerText) ∧
    let s := (Transition.run (Action.step (textBaselibs write read) "/data" 1)
      ⟨torn, ⟨.empty, .empty, "/data/kvs_1"⟩, []⟩
      ([.setValue "answer" (.i32 42), .flush, .reset, .flush] ++ [.snapshotRestore 1])).1
    s.flushed = [.empty, answer] ∧ s.store.kvs = answer ∧
      s.Healed (textBaselibs write read) "/data" 1 := by
  obtain ⟨write, read, hlawful, hall, hanswer⟩ := exists_baselibs answer answerText
  obtain ⟨buf, hempty⟩ := hall .empty
  refine ⟨write, read, hlawful, hanswer, ?_⟩
  obtain ⟨disk, hrun⟩ := run_flushes torn hanswer hempty
  have hrestore : Kvs.snapshotRestore (textBaselibs write read) true 1 disk
      ⟨.empty, .empty, "/data/kvs_1"⟩ = (.ok (), ⟨answer, .empty, "/data/kvs_1"⟩) := by
    have hheals : Session.Healed _ "/data" 1
        (Transition.run _ ⟨torn, ⟨.empty, .empty, "/data/kvs_1"⟩, []⟩ _).1 :=
      run_heals hlawful parentPath_start start_named
        [.setValue "answer" (.i32 42), .flush, .reset, .flush]
    rw [hrun] at hheals
    exact hheals.restores 1 Nat.one_lt_two Nat.le.refl (by decide)
  intro s
  have hs : s = ⟨disk, ⟨answer, .empty, "/data/kvs_1"⟩, [.empty, answer]⟩ := by
    simp only [s]
    rw [Transition.run_concat, hrun]
    change (Action.step.edit _ _).1 = _
    rw [hrestore]
    rfl
  have hheals : s.Healed (textBaselibs write read) "/data" 1 :=
    run_heals hlawful parentPath_start start_named _
  rw [hs] at hheals ⊢
  exact ⟨rfl, rfl, hheals⟩

end Persistency.Cpp
