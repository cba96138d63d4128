import Persistency.Rust.Codec

namespace Persistency.Rust
set_option autoImplicit true

section Slot

variable (backend : JsonBackend) (i : InstanceId) (disk : Fs)

/-- The slot has only one file of its pair. -/
def Broken (s : SnapshotId) : Prop :=
  (disk (backend.kvsFilePath i s)).isSome ≠ (disk (backend.hashFilePath i s)).isSome

def Complete (s : SnapshotId) : Prop :=
  (disk (backend.kvsFilePath i s)).isSome = true ∧ (disk (backend.hashFilePath i s)).isSome = true

/-- The first broken slot that a rotation over `n` places comes to. -/
structure HighestBroken (n b : Nat) : Prop where
  lt : b < n
  broken : Broken backend i disk b
  above : ∀ s, b < s → s < n → ¬ Broken backend i disk s

variable {backend i disk}

theorem exists_highest (h : Broken backend i disk s) (hs : s < n) :
    ∃ b, HighestBroken backend i disk n b := by
  classical
  have hs' : s ≤ n - 1 := Nat.le_sub_one_of_lt hs
  refine ⟨Nat.findGreatest (Broken backend i disk) (n - 1), ?_, Nat.findGreatest_spec hs' h, ?_⟩
  · exact Nat.lt_of_le_sub_one (Nat.zero_lt_of_lt hs) (Nat.findGreatest_le _)
  · intro t ht ht'
    exact Nat.findGreatest_is_greatest ht (Nat.le_sub_one_of_lt ht')

theorem HighestBroken.pred (h : HighestBroken backend i disk (n + 1) b)
    (hn : ¬ Broken backend i disk n) : HighestBroken backend i disk n b where
  lt := Nat.lt_of_le_of_ne (Nat.le_of_lt_succ h.lt) (by rintro rfl; exact hn h.broken)
  broken := h.broken
  above t ht ht' := h.above t ht (Nat.lt_succ_of_lt ht')

theorem Complete.present (h : Complete backend i disk s) :
    disk (backend.kvsFilePath i s) ≠ none := by
  intro hnone
  rw [Complete, hnone] at h
  exact Bool.false_ne_true h.1

theorem absent_of_not (hb : ¬ Broken backend i disk n) (hc : ¬ Complete backend i disk n) :
    disk (backend.kvsFilePath i n) = none ∧ disk (backend.hashFilePath i n) = none := by
  rw [Broken, not_not] at hb
  rw [Complete, hb, and_self, Bool.not_eq_true] at hc
  rw [hc] at hb
  exact ⟨Option.isSome_eq_false_iff.1 hb |> Option.isNone_iff_eq_none.1,
    Option.isSome_eq_false_iff.1 hc |> Option.isNone_iff_eq_none.1⟩

end Slot

section Rotate

variable (backend : JsonBackend) (i : InstanceId) {disk : Fs}

theorem rotateFrom_broken (h : Broken backend i disk n) :
    backend.rotateFrom i (n + 1) disk = (.error .integrityCorrupted, []) := by
  simp only [JsonBackend.rotateFrom, Disk.Prog.exists]
  rw [Disk.Prog.bind_query (a := (disk (backend.kvsFilePath i n)).isSome) rfl,
    Disk.Prog.bind_query (a := (disk (backend.hashFilePath i n)).isSome) rfl]
  rw [Broken] at h
  cases hk : (disk (backend.kvsFilePath i n)).isSome <;>
    cases hh : (disk (backend.hashFilePath i n)).isSome <;> rw [hk, hh] at h
  · exact absurd rfl h
  · rfl
  · rfl
  · exact absurd rfl h

theorem renameSlot_same (disk : Fs) (hs : s < n) :
    (Broken backend i (Disk.replay disk (renameSlot backend i n)) s ↔ Broken backend i disk s) ∧
      (Complete backend i (Disk.replay disk (renameSlot backend i n)) s ↔
        Complete backend i disk s) := by
  obtain ⟨hk, hh⟩ := renameSlot_frame backend i disk hs
  simp only [Broken, Complete, hk, hh, and_self]

theorem HighestBroken.renamed (h : HighestBroken backend i disk n b) :
    HighestBroken backend i (Disk.replay disk (renameSlot backend i n)) n b where
  lt := h.lt
  broken := (renameSlot_same backend i disk h.lt).1.2 h.broken
  above s hs hs' hb := h.above s hs hs' ((renameSlot_same backend i disk hs').1.1 hb)

theorem renameSlot_gone (n : Nat) :
    Disk.replay disk (renameSlot backend i n) (backend.kvsFilePath i n) = none := by
  have hf := backend.families i
  have hne : n ≠ n + 1 := Nat.ne_of_lt (Nat.lt_succ_self n)
  simp only [renameSlot, Disk.replay_cons, Disk.replay_nil, Disk.apply_rename,
    hf.inj_right.eq_iff, hne, ↓reduceIte]

/-- Without a complete pair above the highest broken slot, the rotation stops before any rename. -/
theorem rotateFrom_stops (h : HighestBroken backend i disk n b)
    (hno : ∀ s, b < s → s < n → ¬ Complete backend i disk s) :
    backend.rotateFrom i n disk = (.error .integrityCorrupted, []) := by
  induction n with
  | zero => exact absurd h.lt (Nat.not_lt_zero b)
  | succ n ih =>
    by_cases hn : Broken backend i disk n
    · exact rotateFrom_broken backend i hn
    · have hpred := h.pred hn
      obtain ⟨hk, hh⟩ := absent_of_not hn (hno n hpred.lt (Nat.lt_succ_self n))
      rw [rotateFrom_absent backend i hk hh]
      exact ih hpred fun s hs hs' => hno s hs (Nat.lt_succ_of_lt hs')

theorem rotateFrom_moves (h : HighestBroken backend i disk n b) (hbs : b < s) (hs : s < n)
    (hc : Complete backend i disk s) (hmin : ∀ t, b < t → t < s → ¬ Complete backend i disk t) :
    ∃ js, backend.rotateFrom i n disk = (.error .integrityCorrupted, js) ∧
      Disk.replay disk js (backend.kvsFilePath i s) = none := by
  induction n generalizing disk with
  | zero => exact absurd hs (Nat.not_lt_zero s)
  | succ n ih =>
    have hn : ¬ Broken backend i disk n := h.above n (by omega) (Nat.lt_succ_self n)
    have hpred := h.pred hn
    have hsame {t : SnapshotId} (ht : t < n) := renameSlot_same backend i disk ht
    rcases Nat.lt_succ_iff_lt_or_eq.1 hs with hlt | rfl
    · by_cases hcn : Complete backend i disk n
      · obtain ⟨js, hjs, hgone⟩ := ih (hpred.renamed backend i) hlt ((hsame hlt).2.2 hc)
          fun t ht ht' hct => hmin t ht ht' ((hsame (Nat.lt_trans ht' hlt)).2.1 hct)
        refine ⟨_, rotateFrom_pair backend i hcn.1 hcn.2 hjs, ?_⟩
        rw [Disk.replay_append]
        exact hgone
      · obtain ⟨hk, hh⟩ := absent_of_not hn hcn
        rw [rotateFrom_absent backend i hk hh]
        exact ih hpred hlt hc hmin
    · have hstops := rotateFrom_stops backend i (hpred.renamed backend i)
        fun t ht ht' hct => hmin t ht ht' ((hsame ht').2.1 hct)
      refine ⟨_, rotateFrom_pair backend i hc.1 hc.2 hstops, ?_⟩
      rw [List.append_nil]
      exact renameSlot_gone backend i s

theorem rotateFrom_unbroken (h : ∀ s < n, ¬ Broken backend i disk s) :
    ∃ js, backend.rotateFrom i n disk = (.ok (), js) := by
  induction n generalizing disk with
  | zero => exact ⟨_, rfl⟩
  | succ n ih =>
    have hn := h n (Nat.lt_succ_self n)
    by_cases hc : Complete backend i disk n
    · obtain ⟨js, hjs⟩ := @ih (Disk.replay disk (renameSlot backend i n)) fun s hs hb =>
        h s (Nat.lt_succ_of_lt hs) ((renameSlot_same backend i disk hs).1.1 hb)
      exact ⟨_, rotateFrom_pair backend i hc.1 hc.2 hjs⟩
    · obtain ⟨hk, hh⟩ := absent_of_not hn hc
      rw [rotateFrom_absent backend i hk hh]
      exact ih fun s hs => h s (Nat.lt_succ_of_lt hs)

end Rotate

section Flush

variable {c : Crates} {backend : JsonBackend} {i : InstanceId} {disk : Fs}

theorem flush_rotate_error
    (h : backend.snapshotRotate i disk = (.error e, js)) (m : KvsMap) :
    backend.flush c i m disk = (.error e, js) := by
  rw [JsonBackend.flush, Disk.Prog.bind_error h]

theorem flush_rotate_ok (h : backend.snapshotRotate i disk = (.ok (), js)) (m : KvsMap) :
    (backend.flush c i m disk).1 ≠ .error .integrityCorrupted := by
  rw [JsonBackend.flush, Disk.Prog.bind_ok h]
  cases ht : c.stringify (jsonValueFrom (.ofMap m)) with
  | none =>
    rw [save_refused (backend.checkPathExtensions_slot i 0) ht]
    intro h
    cases h
  | some text =>
    rw [save_ok (backend.checkPathExtensions_slot i 0) ht]
    intro h
    cases h

end Flush

/-- A flush that is refused for integrity leaves every file as it was, exactly when the rotation
meets no complete pair before it comes to a broken slot. -/
theorem refused_unchanged_iff (c : Crates) (backend : JsonBackend) (i : InstanceId) (m : KvsMap)
    (disk : Fs) :
    (((backend.flush c i m).run disk).1 = .error .integrityCorrupted →
        ((backend.flush c i m).run disk).2 = disk) ↔
      ∀ b, HighestBroken backend i disk (backend.snapshotMaxCount - 1) b →
        ∀ s, b < s → s < backend.snapshotMaxCount - 1 → ¬ Complete backend i disk s := by
  classical
  apply Iff.intro
  · intro h b hb s hs hs' hc
    have hex : ∃ s, b < s ∧ Complete backend i disk s := ⟨s, hs, hc⟩
    obtain ⟨hlow, hcomplete⟩ := Nat.find_spec hex
    have hle : Nat.find hex ≤ s := Nat.find_min' hex ⟨hs, hc⟩
    obtain ⟨js, hjs, hgone⟩ := rotateFrom_moves backend i hb hlow (Nat.lt_of_le_of_lt hle hs')
      hcomplete fun t ht ht' hct => Nat.find_min hex ht' ⟨ht, hct⟩
    have hflush := flush_rotate_error (c := c) hjs m
    rw [Disk.Prog.run, hflush] at h
    exact hcomplete.present ((congrFun (h rfl) _).symm.trans hgone)
  · intro h hrefused
    by_cases hex : ∃ s, s < backend.snapshotMaxCount - 1 ∧ Broken backend i disk s
    · obtain ⟨s, hs, hbroken⟩ := hex
      obtain ⟨b, hb⟩ := exists_highest hbroken hs
      have hflush := flush_rotate_error (c := c) (rotateFrom_stops backend i hb (h b hb)) m
      rw [Disk.Prog.run, hflush]
      rfl
    · obtain ⟨js, hjs⟩ := rotateFrom_unbroken backend i
        fun s hs hbroken => hex ⟨s, hs, hbroken⟩
      exact absurd hrefused (flush_rotate_ok hjs m)

def halfLost : Fs := fun p =>
  if p = JsonBackend.default.kvsFilePath 1 0 ∨ p = JsonBackend.default.kvsFilePath 1 1 ∨
    p = JsonBackend.default.hashFilePath 1 1 then some [] else none

/-- The flush that is refused has moved slot `1` to slot `2`. -/
theorem refused_changed : ∃ c : Crates, c.TinyJson ∧
    ((JsonBackend.default.flush c 1 answer).run halfLost).1 = .error .integrityCorrupted ∧
    ((JsonBackend.default.flush c 1 answer).run halfLost).2 ≠ halfLost := by
  obtain ⟨c, hc, -, -⟩ := exists_crates answer answer_exact.1 answerText
  have hf := JsonBackend.default.families 1
  have hkvs (s : SnapshotId) :
      (halfLost (JsonBackend.default.kvsFilePath 1 s)).isSome = decide (s = 0 ∨ s = 1) := by
    simp only [halfLost, hf.inj_right.eq_iff, hf.symm.disjoint, or_false]
    split <;> simp_all
  have hhash (s : SnapshotId) :
      (halfLost (JsonBackend.default.hashFilePath 1 s)).isSome = decide (s = 1) := by
    simp only [halfLost, hf.inj_left.eq_iff, hf.disjoint, false_or]
    split <;> simp_all
  have hbroken : HighestBroken .default 1 halfLost 2 0 := by
    refine ⟨by decide, ?_, ?_⟩
    · rw [Broken, hkvs, hhash]
      decide
    · intro s hs hs'
      obtain rfl : s = 1 := by omega
      rw [Broken, hkvs, hhash]
      decide
  have hcomplete : Complete .default 1 halfLost 1 := by
    rw [Complete, hkvs, hhash]
    decide
  obtain ⟨js, hjs, hgone⟩ := rotateFrom_moves .default 1 hbroken (by decide) (by decide) hcomplete
    fun t ht ht' => absurd ht (by omega)
  have hflush : JsonBackend.default.flush c 1 answer halfLost = _ := flush_rotate_error hjs answer
  refine ⟨c, hc, ?_⟩
  rw [Disk.Prog.run, hflush]
  exact ⟨rfl, fun h => hcomplete.present ((congrFun h _).symm.trans hgone)⟩

end Persistency.Rust
