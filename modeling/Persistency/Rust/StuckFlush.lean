import Persistency.Rust.BrokenPair
import Persistency.Rust.InterruptedFlush

namespace Persistency.Rust
set_option autoImplicit true

section Rotate

variable (backend : JsonBackend) (i : InstanceId) {disk : Fs}

def LowSlot (b : Nat) (p : Path) : Prop :=
  ∃ s ≤ b, p = backend.kvsFilePath i s ∨ p = backend.hashFilePath i s

theorem renameSlot_touches (hs : st ∈ renameSlot backend i n) (hb : b < n)
    (hp : LowSlot backend i b p) : ¬ st.Touches p := by
  have hf := backend.families i
  obtain ⟨s, hsb, hp⟩ := hp
  have hlt : s < n := Nat.lt_of_le_of_lt hsb hb
  simp only [renameSlot, List.mem_cons, List.not_mem_nil, or_false] at hs
  rcases hs with rfl | rfl <;> rcases hp with rfl | rfl <;>
    simp only [Disk.Step.Touches, hf.inj_left.eq_iff, hf.inj_right.eq_iff, hf.disjoint,
      (hf.disjoint _ _).symm, or_self, not_false_eq_true]
  · exact not_or.2 ⟨Nat.ne_of_lt hlt, Nat.ne_of_lt (Nat.lt_succ_of_lt hlt)⟩
  · exact not_or.2 ⟨Nat.ne_of_lt hlt, Nat.ne_of_lt (Nat.lt_succ_of_lt hlt)⟩

/-- A rotation stops at a broken slot, or before it, and touches neither it nor the slots below. -/
theorem rotateFrom_stuck (h : Broken backend i disk b) (hb : b < n) :
    ∃ js, backend.rotateFrom i n disk = (.error .integrityCorrupted, js) ∧
      ∀ st ∈ js, ∀ p, LowSlot backend i b p → ¬ st.Touches p := by
  induction n generalizing disk with
  | zero => exact absurd hb (Nat.not_lt_zero b)
  | succ n ih =>
    by_cases hn : Broken backend i disk n
    · exact ⟨[], rotateFrom_broken backend i hn, fun st hst => absurd hst List.not_mem_nil⟩
    · have hlt : b < n := Nat.lt_of_le_of_ne (Nat.le_of_lt_succ hb) (by rintro rfl; exact hn h)
      by_cases hc : Complete backend i disk n
      · obtain ⟨js, hjs, htouch⟩ := ih ((renameSlot_same backend i disk hlt).1.2 h) hlt
        refine ⟨_, rotateFrom_pair backend i hc.1 hc.2 hjs, ?_⟩
        intro st hst p hp
        rcases List.mem_append.1 hst with hst | hst
        · exact renameSlot_touches backend i hst hlt hp
        · exact htouch st hst p hp
      · obtain ⟨hk, hh⟩ := absent_of_not hn hc
        rw [rotateFrom_absent backend i hk hh]
        exact ih h hlt

end Rotate

section Stuck

variable {c : Crates} {backend : JsonBackend} {i : InstanceId} {disk : Fs} {b : Nat}

theorem flush_stuck (h : Broken backend i disk b) (hb : b < backend.snapshotMaxCount - 1)
    (m : KvsMap) : ((backend.flush c i m).run disk).1 = .error .integrityCorrupted ∧
      ∀ p, LowSlot backend i b p → ((backend.flush c i m).run disk).2 p = disk p ∧
        ∀ n left, (backend.flush c i m).fail n left disk p = disk p := by
  obtain ⟨js, hjs, htouch⟩ := rotateFrom_stuck backend i h hb
  have hflush := flush_rotate_error (c := c) hjs m
  rw [Disk.Prog.run, hflush]
  refine ⟨rfl, ?_⟩
  intro p hp
  refine ⟨Disk.replay_frame _ _ fun st hst => htouch st hst p hp, ?_⟩
  intro n left
  refine Disk.Prog.fail_frame ?_ (fun st hst => htouch st hst p hp) (.inr rfl) left
  rw [hflush, List.append_nil]

structure Stuck (backend : JsonBackend) (i : InstanceId) (b : Nat) (disk : Fs) (t : Trace) :
    Prop where
  linked : Linked backend i t.world
  low : ∀ p, LowSlot backend i b p → t.world.disk p = disk p

theorem LowSlot.deploy (hp : LowSlot backend i b p) (text : Option String) (disk : Fs) :
    deploy c backend i text disk p = disk p := by
  obtain ⟨s, -, rfl | rfl⟩ := hp
  · obtain ⟨h₁, h₂⟩ := backend.kvsFilePath_ne_defaults i s
    rw [Rust.deploy, if_neg h₁, if_neg h₂]
  · obtain ⟨h₁, h₂⟩ := backend.hashFilePath_ne_defaults i s
    rw [Rust.deploy, if_neg h₁, if_neg h₂]

theorem Stuck.broken (h : Stuck backend i b disk t) (hbroken : Broken backend i disk b) :
    Broken backend i t.world.disk b := by
  rwa [Broken, h.low _ ⟨b, Nat.le_refl b, .inl rfl⟩, h.low _ ⟨b, Nat.le_refl b, .inr rfl⟩]

theorem Stuck.step (h : Stuck backend i b disk t) (hbroken : Broken backend i disk b)
    (hb : b < backend.snapshotMaxCount - 1) (hi : i < kvsMaxInstances) (e : Event c) :
    Stuck backend i b disk (e.step c backend i t).1 ∧
      (e = .act (.call .flush) → ∀ kvs, t.world.handle = .ok kvs →
        (e.step c backend i t).2 = .error .integrityCorrupted) := by
  have hmax : 1 < backend.snapshotMaxCount := by omega
  have hlinked := h.linked.step hi e
  have hstuck (m : KvsMap) := flush_stuck (c := c) (h.broken hbroken) hb m
  have heffect := step_effect h.linked hmax e
  revert heffect hlinked
  generalize e.step c backend i t = r
  intro hlinked heffect
  cases heffect with
  | act ha hdisk =>
    refine ⟨⟨hlinked, ?_⟩, ?_⟩
    · intro p hp
      rcases hdisk with hdisk | ⟨text, hdisk⟩
      · rw [hdisk]
        exact h.low p hp
      · rw [hdisk, hp.deploy]
        exact h.low p hp
    · rintro he
      cases he
      exact absurd rfl ha
  | @flush _ m _ hkvs hm hrun =>
    have herror := (hstuck m).1
    rw [hrun] at herror
    cases herror
  | @flushError _ m _ _ hkvs hm hrun =>
    obtain ⟨herror, hlow⟩ := hstuck m
    rw [hrun] at herror hlow
    cases herror
    exact ⟨⟨hlinked, fun p hp => (hlow p hp).1.trans (h.low p hp)⟩, fun _ _ _ => rfl⟩
  | interrupted hdisk =>
    refine ⟨⟨hlinked, ?_⟩, ?_⟩
    · intro p hp
      rw [hdisk]
      exact (((hstuck _).2 p hp).2 _ _).trans (h.low p hp)
    · intro he
      cases he
  | dead hdead =>
    refine ⟨h, ?_⟩
    intro _ kvs hkvs
    cases hdead.symm.trans hkvs

/-- In every run that comes after, every flush is refused, and the slots up to the broken one load
as they did. -/
structure NeverAgain (c : Crates) (backend : JsonBackend) (i : InstanceId) (b : Nat)
    (t : Trace) (events : List (Event c)) : Prop where
  refused : Transition.Along (Event.step c backend i)
    (fun t e => e = .act (.call .flush) → ∀ kvs, t.world.handle = .ok kvs →
      (e.step c backend i t).2 = .error .integrityCorrupted) t events
  loads : ∀ s ≤ b, backend.loadKvs c i s
    (Transition.run (Event.step c backend i) t events).1.world.disk =
      backend.loadKvs c i s t.world.disk

theorem Stuck.neverAgain (h : Stuck backend i b t.world.disk t)
    (hbroken : Broken backend i t.world.disk b) (hb : b < backend.snapshotMaxCount - 1)
    (hi : i < kvsMaxInstances) (events : List (Event c)) :
    NeverAgain c backend i b t events where
  refused := by
    apply Transition.along_of_invariant (I := Stuck backend i b t.world.disk)
      (Q := fun _ => True)
    · exact fun t' e ht _ => (ht.step hbroken hb hi e).2
    · exact fun t' e ht _ => (ht.step hbroken hb hi e).1
    · exact h
    · exact fun _ _ => trivial
  loads s hs := by
    have hends := Transition.run_invariant (fun t' e ht => (ht.step hbroken hb hi e).1) h events
    exact load_congr (hends.low _ ⟨s, hs, .inl rfl⟩) (hends.low _ ⟨s, hs, .inr rfl⟩)

end Stuck

section Cut

variable {c : Crates} {backend : JsonBackend} {i : InstanceId} {disk : Fs}

def Unbroken (backend : JsonBackend) (i : InstanceId) (disk : Fs) : Prop :=
  ∀ s : Nat, ¬ Broken backend i disk s

theorem renameSlot_apply (backend : JsonBackend) (i : InstanceId) (disk : Fs) (n s : Nat) :
    Disk.replay disk (renameSlot backend i n) (backend.kvsFilePath i s) =
        (if s = n + 1 then
            (disk (backend.kvsFilePath i n)).or (disk (backend.kvsFilePath i (n + 1)))
          else if s = n then none else disk (backend.kvsFilePath i s)) ∧
      Disk.replay disk (renameSlot backend i n) (backend.hashFilePath i s) =
        (if s = n + 1 then
            (disk (backend.hashFilePath i n)).or (disk (backend.hashFilePath i (n + 1)))
          else if s = n then none else disk (backend.hashFilePath i s)) := by
  have hf := backend.families i
  simp only [renameSlot, Disk.replay_cons, Disk.replay_nil, Disk.apply_rename,
    hf.inj_left.eq_iff, hf.inj_right.eq_iff, hf.disjoint, (hf.disjoint _ _).symm, ↓reduceIte,
    and_self]

theorem renameSlot_next (n : Nat) (hc : Complete backend i disk n) :
    Complete backend i (Disk.replay disk (renameSlot backend i n)) (n + 1) := by
  obtain ⟨hkvs, hhash⟩ := renameSlot_apply backend i disk n (n + 1)
  obtain ⟨hk, hh⟩ := hc
  rw [Complete, hkvs, hhash, if_pos rfl, if_pos rfl, Option.isSome_or, Option.isSome_or, hk, hh]
  exact ⟨rfl, rfl⟩

theorem renameSlot_absent (backend : JsonBackend) (i : InstanceId) (disk : Fs) (n : Nat) :
    Disk.replay disk (renameSlot backend i n) (backend.kvsFilePath i n) = none ∧
      Disk.replay disk (renameSlot backend i n) (backend.hashFilePath i n) = none := by
  obtain ⟨hkvs, hhash⟩ := renameSlot_apply backend i disk n n
  have hn : n ≠ n + 1 := Nat.ne_of_lt (Nat.lt_succ_self n)
  rw [hkvs, hhash, if_neg hn, if_neg hn, if_pos rfl, if_pos rfl]
  exact ⟨rfl, rfl⟩

theorem renameSlot_above (disk : Fs) (hs : n + 1 < s) :
    Broken backend i (Disk.replay disk (renameSlot backend i n)) s ↔ Broken backend i disk s := by
  obtain ⟨hkvs, hhash⟩ := renameSlot_apply backend i disk n s
  have h₁ : s ≠ n + 1 := Nat.ne_of_gt hs
  have h₂ : s ≠ n := Nat.ne_of_gt (Nat.lt_of_succ_lt hs)
  rw [Broken, Broken, hkvs, hhash, if_neg h₁, if_neg h₁, if_neg h₂, if_neg h₂]

theorem Unbroken.renameSlot (h : Unbroken backend i disk) (hc : Complete backend i disk n) :
    Unbroken backend i (Disk.replay disk (renameSlot backend i n)) := by
  intro s
  rcases Nat.lt_trichotomy s n with hs | rfl | hs
  · rw [(renameSlot_same backend i disk hs).1]
    exact h s
  · obtain ⟨hkvs, hhash⟩ := renameSlot_absent backend i disk s
    rw [Broken, hkvs, hhash]
    exact not_not.2 rfl
  · rcases Nat.lt_or_eq_of_le hs with hs | rfl
    · rw [renameSlot_above disk hs]
      exact h s
    · have hnext := renameSlot_next n hc
      intro hb
      exact hb (hnext.1.trans hnext.2.symm)

/-- A rotation that is cut between two pairs leaves none broken, and one that is cut inside a pair
breaks it. -/
theorem renames_cut {k n : Nat} (h : Unbroken backend i disk)
    (hc : ∀ s : Nat, s < k → Complete backend i disk s) (hn : n ≤ 2 * k) :
    let d := Disk.replay disk ((renames backend i k).take n)
    (n % 2 = 0 → Unbroken backend i d) ∧ (n % 2 = 1 → ∃ b < k, Broken backend i d b) := by
  induction k generalizing n disk with
  | zero =>
    cases Nat.le_zero.1 hn
    exact ⟨fun _ => h, fun hodd => absurd hodd (by decide)⟩
  | succ k ih =>
    have hk := hc k (Nat.lt_succ_self k)
    cases n with
    | zero => exact ⟨fun _ => h, fun hodd => absurd hodd (by decide)⟩
    | succ n =>
      cases n with
      | zero =>
        -- the hash has moved, the data has not
        refine ⟨fun heven => absurd heven (by decide), fun _ => ⟨k, Nat.lt_succ_self k, ?_⟩⟩
        have hf := backend.families i
        have hhash : Disk.Step.apply disk
            (.rename (backend.hashFilePath i k) (backend.hashFilePath i (k + 1)))
              (backend.hashFilePath i k) = none := by
          rw [Disk.apply_rename, if_neg fun he => absurd (hf.inj_left he) (by simp), if_pos rfl]
        have hkvs : Disk.Step.apply disk
            (.rename (backend.hashFilePath i k) (backend.hashFilePath i (k + 1)))
              (backend.kvsFilePath i k) = disk (backend.kvsFilePath i k) :=
          Disk.Step.apply_frame _ disk
            (not_or.2 ⟨(hf.disjoint _ _).symm, (hf.disjoint _ _).symm⟩)
        have hbroken : Broken backend i (Disk.Step.apply disk
            (.rename (backend.hashFilePath i k) (backend.hashFilePath i (k + 1)))) k := by
          rw [Broken, hhash, hkvs, hk.1]
          decide
        exact hbroken
      | succ n =>
        have hlow (s : Nat) (hs : s < k) :
            Complete backend i (Disk.replay disk (renameSlot backend i k)) s := by
          rw [(renameSlot_same backend i disk hs).2]
          exact hc s (Nat.lt_succ_of_lt hs)
        have hle : n ≤ 2 * k := by omega
        obtain ⟨heven, hodd⟩ := ih (h.renameSlot hk) hlow hle
        refine ⟨fun hn => heven (by omega), fun hn => ?_⟩
        obtain ⟨b, hb, hbroken⟩ := hodd (by omega)
        exact ⟨b, Nat.lt_succ_of_lt hb, hbroken⟩

theorem written_broken (h : Gone backend i disk) (text : Bytes) :
    Broken backend i (Disk.Step.apply disk (.write (backend.kvsFilePath i 0) text)) 0 := by
  have hkvs : Disk.Step.apply disk (.write (backend.kvsFilePath i 0) text)
      (backend.kvsFilePath i 0) = some text := if_pos rfl
  have hhash : Disk.Step.apply disk (.write (backend.kvsFilePath i 0) text)
      (backend.hashFilePath i 0) = none :=
    (Disk.Step.apply_frame (.write _ _) disk ((backend.families i).disjoint 0 0)).trans h.2
  rw [Broken, hkvs, hhash]
  intro h
  cases h

theorem Unbroken.written (h : Unbroken backend i disk) (text hash : Bytes) :
    Unbroken backend i (Disk.replay disk
      [.write (backend.kvsFilePath i 0) text, .write (backend.hashFilePath i 0) hash]) := by
  have hf := backend.families i
  intro s
  simp only [Broken, Disk.replay_cons, Disk.replay_nil, Disk.Step.apply, hf.inj_left.eq_iff,
    hf.inj_right.eq_iff, hf.disjoint, (hf.disjoint _ _).symm, ↓reduceIte]
  split
  · exact not_not.2 rfl
  · exact h s

theorem Keeps.unbroken (h : Keeps c backend i hist disk) : Unbroken backend i disk := by
  obtain ⟨texts, hslots, -⟩ := h.texts
  intro s
  rw [Broken, hslots.kvs_isSome, hslots.hash_isSome]
  exact not_not.2 rfl

theorem Keeps.complete (h : Keeps c backend i hist disk) {s : Nat} (hs : s < hist.length) :
    Complete backend i disk s := by
  obtain ⟨texts, hslots, hall⟩ := h.texts
  rw [Complete, hslots.kvs_isSome, hslots.hash_isSome, hall.length_eq]
  exact ⟨decide_eq_true hs, decide_eq_true hs⟩

theorem Keeps.renamed (h : Keeps c backend i hist disk) (hmax : 1 < backend.snapshotMaxCount) :
    let d := Disk.replay disk (renames backend i (min hist.length (backend.snapshotMaxCount - 1)))
    Unbroken backend i d ∧ Gone backend i d := by
  intro d
  have hlen := Disk.shiftUp_length (a := backend.hashFilePath i) (b := backend.kvsFilePath i)
    (B := Bytes) (min hist.length (backend.snapshotMaxCount - 1))
  have hcut := renames_cut h.unbroken (k := min hist.length (backend.snapshotMaxCount - 1))
    (fun s hs => h.complete (Nat.lt_of_lt_of_le hs (Nat.min_le_left _ _))) (Nat.le_refl _)
  rw [← hlen, List.take_length, hlen] at hcut
  have hunbroken : Unbroken backend i d := hcut.1 (Nat.mul_mod_right 2 _)
  have hkvs : d (backend.kvsFilePath i 0) = none := by
    cases hist with
    | nil => exact h.kvs_none (Nat.le_refl _)
    | cons m hist =>
      obtain ⟨j, hj⟩ : ∃ j, min (m :: hist).length (backend.snapshotMaxCount - 1) = j + 1 := by
        refine ⟨min hist.length (backend.snapshotMaxCount - 2), ?_⟩
        rw [List.length_cons]
        omega
      have hd : d = Disk.replay disk (renames backend i (j + 1)) := by rw [← hj]
      rw [hd]
      exact renames_kvs backend i j disk
  refine ⟨hunbroken, hkvs, ?_⟩
  have hzero := hunbroken 0
  rw [Broken, hkvs] at hzero
  simpa using hzero

/-- The steps after which a flush over `k` slots to rename can stop without harm. -/
def Recovers (k n : Nat) (left : Option Bytes) : Prop :=
  n < 2 * k ∧ n % 2 = 0 ∨ n = 2 * k ∧ left = none ∨ n = 2 * k + 1 ∧ left ≠ none ∨ 2 * k + 2 ≤ n

theorem writes_cut (hunbroken : Unbroken backend i disk) (hgone : Gone backend i disk)
    (hbound : 0 < bound) (text : String) (k j : Nat) (left : Option Bytes) :
    let d := Disk.replay disk (List.take j (slotSteps c backend i text) ++
      Disk.Step.spoiled left (slotSteps c backend i text)[j]?)
    (Recovers k (2 * k + j) left → Unbroken backend i d) ∧
      (¬ Recovers k (2 * k + j) left → ∃ b : Nat, b < bound ∧ Broken backend i d b) := by
  intro d
  unfold Recovers
  cases j with
  | zero =>
    cases left with
    | none => exact ⟨fun _ => hunbroken, fun h => absurd (.inr (.inl ⟨rfl, rfl⟩)) h⟩
    | some b =>
      refine ⟨fun h => ?_, fun _ => ⟨0, hbound, written_broken hgone b⟩⟩
      simp at h
  | succ j =>
    cases j with
    | zero =>
      cases left with
      | none =>
        refine ⟨fun h => ?_, fun _ => ⟨0, hbound, written_broken hgone _⟩⟩
        simp at h
      | some b =>
        refine ⟨fun _ => hunbroken.written _ _, fun h => ?_⟩
        exact absurd (.inr (.inr (.inl ⟨rfl, by simp⟩))) h
    | succ j =>
      refine ⟨fun _ => ?_, fun h => absurd (.inr (.inr (.inr (by omega)))) h⟩
      have hd : d = Disk.replay disk (slotSteps c backend i text) := by
        have hlen : (slotSteps c backend i text).length ≤ j + 1 + 1 := Nat.le_add_left 2 j
        change Disk.replay disk (List.take (j + 1 + 1) (slotSteps c backend i text) ++
          Disk.Step.spoiled left (slotSteps c backend i text)[j + 1 + 1]?) = _
        rw [List.take_of_length_le hlen, List.getElem?_eq_none hlen]
        cases left <;> rfl
      rw [hd]
      exact hunbroken.written _ _

theorem Keeps.flush_cut (h : Keeps c backend i hist disk) (hc : c.TinyJson)
    (hm : (KvsValue.ofMap m).Finite) (hmax : 1 < backend.snapshotMaxCount) (n : Nat)
    (left : Option Bytes) :
    let k := min hist.length (backend.snapshotMaxCount - 1)
    let d := (backend.flush c i m).fail n left disk
    (Recovers k n left → Unbroken backend i d) ∧
      (¬ Recovers k n left →
        ∃ b : Nat, b < backend.snapshotMaxCount - 1 ∧ Broken backend i d b) := by
  intro k d
  obtain ⟨hunbroken, hgone⟩ := h.renamed hmax
  obtain ⟨rest, hj, ⟨hnot, -⟩ | ⟨-, text, rfl, -⟩⟩ := h.flush_journal hc m
  · exact absurd hm hnot
  have hlen : (renames backend i k).length = 2 * k := Disk.shiftUp_length _
  have hd : d = Disk.replay disk (List.take n (renames backend i k ++ slotSteps c backend i text) ++
      Disk.Step.spoiled left (renames backend i k ++ slotSteps c backend i text)[n]?) := by
    change (backend.flush c i m).fail n left disk = _
    rw [Disk.Prog.fail, hj]
  have hzero : 0 < backend.snapshotMaxCount - 1 := by omega
  rw [hd]
  rcases Nat.lt_or_ge n (2 * k) with hn | hn
  · have hle : n ≤ (renames backend i k).length := by omega
    rw [List.take_append_of_le_length hle, List.getElem?_append_left (by omega),
      Disk.spoiled_shiftUp, List.append_nil]
    obtain ⟨heven, hodd⟩ := renames_cut h.unbroken (k := k)
      (fun s hs => h.complete (Nat.lt_of_lt_of_le hs (Nat.min_le_left _ _))) (Nat.le_of_lt hn)
    refine ⟨?_, ?_⟩
    · intro hr
      apply heven
      unfold Recovers at hr
      omega
    · intro hr
      obtain ⟨b, hb, hbroken⟩ := hodd (by unfold Recovers at hr; omega)
      exact ⟨b, Nat.lt_of_lt_of_le hb (Nat.min_le_right _ _), hbroken⟩
  · obtain ⟨j, rfl⟩ := Nat.exists_eq_add_of_le hn
    rw [List.take_append, List.take_of_length_le (by omega), List.getElem?_append_right (by omega),
      hlen, Nat.add_sub_cancel_left, List.append_assoc, Disk.replay_append]
    exact writes_cut hunbroken hgone hzero text k j left

theorem rotateFrom_unbroken_run (h : Unbroken backend i disk) (n : Nat) :
    ∃ js, backend.rotateFrom i n disk = (.ok (), js) ∧
      Unbroken backend i (Disk.replay disk js) := by
  induction n generalizing disk with
  | zero => exact ⟨[], rfl, h⟩
  | succ n ih =>
    by_cases hc : Complete backend i disk n
    · obtain ⟨js, hjs, hends⟩ := ih (h.renameSlot hc)
      refine ⟨_, rotateFrom_pair backend i hc.1 hc.2 hjs, ?_⟩
      rw [Disk.replay_append]
      exact hends
    · obtain ⟨hk, hh⟩ := absent_of_not (h n) hc
      rw [rotateFrom_absent backend i hk hh]
      exact ih h

theorem Unbroken.flush (h : Unbroken backend i disk) (hc : c.TinyJson) (m : KvsMap) :
    Unbroken backend i ((backend.flush c i m).run disk).2 ∧
      ((KvsValue.ofMap m).Finite → ((backend.flush c i m).run disk).1 = .ok ()) := by
  obtain ⟨js, hjs, hends⟩ := rotateFrom_unbroken_run h (backend.snapshotMaxCount - 1)
  have hext := backend.checkPathExtensions_slot i 0
  have hrun : (backend.flush c i m).run disk =
      (JsonBackend.save c m (backend.kvsFilePath i 0) (backend.hashFilePath i 0)).run
        (Disk.replay disk js) := by
    have hrotate : (backend.snapshotRotate i).run disk = (.ok (), Disk.replay disk js) := by
      rw [Disk.Prog.run, JsonBackend.snapshotRotate, hjs]
    rw [JsonBackend.flush, Disk.Prog.run_bind hrotate]
  rw [hrun, Disk.Prog.run]
  cases ht : c.stringify (jsonValueFrom (.ofMap m)) with
  | none =>
    rw [save_refused hext ht]
    refine ⟨hends, ?_⟩
    intro hm
    obtain ⟨text, htext, -⟩ := hc.text hm
    cases ht.symm.trans htext
  | some text =>
    rw [save_ok hext ht]
    exact ⟨hends.written _ _, fun _ => rfl⟩

end Cut

section Runs

variable {c : Crates} {backend : JsonBackend} {i : InstanceId} {disk : Fs} {t : Trace}

structure Sane (backend : JsonBackend) (i : InstanceId) (t : Trace) : Prop where
  linked : Linked backend i t.world
  unbroken : Unbroken backend i t.world.disk

/-- Flushes succeed in every run that comes after and has no further interruption, unless the map
cannot be written. -/
def GoesOn (c : Crates) (backend : JsonBackend) (i : InstanceId) (t : Trace)
    (events : List (Event c)) : Prop :=
  (∀ e ∈ events, ∀ n left, e ≠ .interrupted n left) →
    Transition.Along (Event.step c backend i)
      (fun t e => e = .act (.call .flush) → ∀ kvs, t.world.handle = .ok kvs →
        (KvsValue.ofMap (t.world.process.cells kvs.data).kvsMap).Finite →
          (e.step c backend i t).2 = .ok .unit) t events

theorem Unbroken.deploy (h : Unbroken backend i disk) (text : Option String) :
    Unbroken backend i (deploy c backend i text disk) := by
  intro s
  have hkvs : LowSlot backend i s (backend.kvsFilePath i s) := ⟨s, Nat.le_refl s, .inl rfl⟩
  have hhash : LowSlot backend i s (backend.hashFilePath i s) := ⟨s, Nat.le_refl s, .inr rfl⟩
  rw [Broken, hkvs.deploy, hhash.deploy]
  exact h s

theorem Sane.step (h : Sane backend i t) (hc : c.TinyJson) (hmax : 1 < backend.snapshotMaxCount)
    (hi : i < kvsMaxInstances) (e : Event c) (he : ∀ n left, e ≠ .interrupted n left) :
    Sane backend i (e.step c backend i t).1 ∧
      (e = .act (.call .flush) → ∀ kvs, t.world.handle = .ok kvs →
        (KvsValue.ofMap (t.world.process.cells kvs.data).kvsMap).Finite →
          (e.step c backend i t).2 = .ok .unit) := by
  have hlinked := h.linked.step hi e
  have heffect := step_effect h.linked hmax e
  revert heffect hlinked
  generalize e.step c backend i t = r
  intro hlinked heffect
  cases heffect with
  | act ha hdisk =>
    refine ⟨⟨hlinked, ?_⟩, ?_⟩
    · rcases hdisk with hdisk | ⟨text, hdisk⟩
      · rw [hdisk]
        exact h.unbroken
      · rw [hdisk]
        exact h.unbroken.deploy text
    · rintro he
      cases he
      exact absurd rfl ha
  | @flush _ m _ hkvs hm hrun =>
    have hends := (h.unbroken.flush hc m).1
    rw [hrun] at hends
    exact ⟨⟨hlinked, hends⟩, fun _ _ _ _ => rfl⟩
  | @flushError kvs m _ _ hkvs hm hrun =>
    obtain ⟨hends, hok⟩ := h.unbroken.flush hc m
    rw [hrun] at hends hok
    refine ⟨⟨hlinked, hends⟩, ?_⟩
    intro _ kvs' hkvs' hfinite
    cases hkvs.symm.trans hkvs'
    rw [hm] at hfinite
    cases hok hfinite
  | interrupted hdisk => exact absurd rfl (he _ _)
  | dead hdead =>
    refine ⟨h, ?_⟩
    intro _ kvs hkvs
    cases hdead.symm.trans hkvs

theorem Sane.goesOn (h : Sane backend i t) (hc : c.TinyJson) (hmax : 1 < backend.snapshotMaxCount)
    (hi : i < kvsMaxInstances) (events : List (Event c)) : GoesOn c backend i t events := by
  apply Transition.along_of_invariant (I := Sane backend i)
  · exact fun t' e ht he => (ht.step hc hmax hi e he).2
  · exact fun t' e ht he => (ht.step hc hmax hi e he).1
  · exact h

/-- After a flush that was stopped, the store goes on if no pair of files was torn apart, and
otherwise it never flushes again. -/
theorem interrupted_dichotomy (hc : c.TinyJson) (hi : i < kvsMaxInstances)
    (hmax : 1 < backend.snapshotMaxCount) (hk : Keeps c backend i hist disk)
    (hm : (KvsValue.ofMap m).Finite) (n : Nat) (left : Option Bytes)
    (hdisk : t.world.disk = (backend.flush c i m).fail n left disk)
    (hlinked : Linked backend i t.world) :
    let k := min hist.length (backend.snapshotMaxCount - 1)
    (Recovers k n left ↔ Unbroken backend i t.world.disk) ∧
      (Unbroken backend i t.world.disk → ∀ events, GoesOn c backend i t events) ∧
      (¬ Unbroken backend i t.world.disk →
        (∃ b : Nat, b < backend.snapshotMaxCount - 1 ∧ Broken backend i t.world.disk b) ∧
        ∀ b : Nat, b < backend.snapshotMaxCount - 1 → Broken backend i t.world.disk b →
          ∀ events, NeverAgain c backend i b t events) := by
  intro k
  obtain ⟨hrecovers, hbroken⟩ := hk.flush_cut hc hm hmax n left
  rw [← hdisk] at hrecovers hbroken
  have hiff : Recovers k n left ↔ Unbroken backend i t.world.disk := by
    refine ⟨hrecovers, ?_⟩
    intro hunbroken
    by_contra hr
    obtain ⟨b, -, hslot⟩ := hbroken hr
    exact hunbroken b hslot
  refine ⟨hiff, ?_, ?_⟩
  · intro hunbroken events
    exact Sane.goesOn ⟨hlinked, hunbroken⟩ hc hmax hi events
  · intro htorn
    refine ⟨hbroken fun hr => htorn (hiff.1 hr), ?_⟩
    intro b hb hslot events
    exact Stuck.neverAgain ⟨hlinked, fun _ _ => rfl⟩ hslot hb hi events

/-- A second flush is stopped between the two renames of slot `0`; no process flushes again. -/
theorem interrupted_dichotomy_second : ∃ (c : Crates) (disk : Fs) (b : Nat), c.TinyJson ∧
    c.stringify (jsonValueFrom (.ofMap answer)) = some answerText ∧
    Keeps c .default 1 [answer] disk ∧
    Broken .default 1 ((JsonBackend.default.flush c 1 .empty).fail 1 none disk) b ∧
    ∀ events, NeverAgain c .default 1 b
      ⟨⟨(JsonBackend.default.flush c 1 .empty).fail 1 none disk, .start, .error .unmappedError⟩, []⟩
      events := by
  obtain ⟨c, hc, -, ht⟩ := exists_crates answer answer_exact.1 answerText
  have hempty : Keeps c .default 1 [] fun _ => none := .empty (fun _ => rfl) fun _ => rfl
  obtain ⟨-, hkeeps⟩ := hempty.flush hc answer_exact (by decide)
  have hlinked (disk : Fs) : Linked .default 1 (World.mk disk .start (.error .unmappedError)) := by
    intro kvs hkvs
    cases hkvs
  obtain ⟨hiff, -, htorn⟩ := interrupted_dichotomy (t := ⟨_, []⟩) hc (by decide) (by decide) hkeeps
    jsonExact_empty.1 1 none rfl (hlinked _)
  have hnot : ¬ Recovers 1 1 none := by
    unfold Recovers
    simp
  obtain ⟨⟨b, hb, hbroken⟩, hnever⟩ := htorn (mt hiff.2 hnot)
  exact ⟨c, _, b, hc, ht, hkeeps, hbroken, hnever b hb hbroken⟩

end Runs

end Persistency.Rust
