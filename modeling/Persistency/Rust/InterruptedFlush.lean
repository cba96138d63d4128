import Persistency.Library.Stoppable
import Persistency.Rust.FlushEvents
import Persistency.Rust.LoadModes
import Persistency.Rust.Refinement

namespace Persistency.Rust
set_option autoImplicit true

open Disk (Spec)

section Slot

variable (c : Crates) (backend : JsonBackend) (i : InstanceId) (candidates : List KvsMap)
  (disk : Fs)

/-- Slot `0` has no data, or no hash, or a text that loads as one of the maps. -/
def Whole : Prop :=
  disk (backend.kvsFilePath i 0) = none ∨ disk (backend.hashFilePath i 0) = none ∨
    ∃ m ∈ candidates, ∃ text, decodeText c text = .ok m ∧
      disk (backend.kvsFilePath i 0) = some (utf8 text)

def Gone : Prop :=
  disk (backend.kvsFilePath i 0) = none ∧ disk (backend.hashFilePath i 0) = none

variable {c backend i candidates disk}

theorem Whole.mono (h : Whole c backend i candidates disk) (hsub : candidates ⊆ candidates') :
    Whole c backend i candidates' disk := by
  rcases h with h | h | ⟨m, hm, hrest⟩
  · exact .inl h
  · exact .inr (.inl h)
  · exact .inr (.inr ⟨m, hsub hm, hrest⟩)

theorem Gone.whole (h : Gone backend i disk) : Whole c backend i candidates disk := .inl h.1

theorem Whole.congr (h : Whole c backend i candidates disk)
    (hkvs : disk' (backend.kvsFilePath i 0) = disk (backend.kvsFilePath i 0))
    (hhash : disk' (backend.hashFilePath i 0) = disk (backend.hashFilePath i 0)) :
    Whole c backend i candidates disk' := by
  rwa [Whole, hkvs, hhash]

theorem load_ok (hext : JsonBackend.checkPathExtensions p q = .ok ())
    (hp : disk p = some (utf8 text)) (hload : JsonBackend.load c p q disk = .ok m) :
    decodeText c text = .ok m := by
  obtain ⟨text', j, hp', hq, -⟩ := (load_ok_iff hext).1 hload
  rw [hp, Option.some.injEq, utf8_injective.eq_iff] at hp'
  rw [← hp'] at hq
  exact (load_pair hext hp hq).symm.trans hload

theorem Whole.loadKvs (h : Whole c backend i candidates disk)
    (hload : backend.loadKvs c i 0 disk = .ok m) : m ∈ candidates := by
  have hext := backend.checkPathExtensions_slot i 0
  rcases h with hkvs | hhash | ⟨m', hm', text, hdecode, hkvs⟩
  · cases (load_missing hext hkvs).symm.trans hload
  · obtain ⟨text, j, -, hq, -⟩ := (load_ok_iff hext).1 hload
    cases hhash.symm.trans hq
  · cases hdecode.symm.trans (load_ok hext hkvs hload)
    exact hm'

theorem loadKvs_missing (hload : backend.loadKvs c i 0 disk = .error .fileNotFound) :
    disk (backend.kvsFilePath i 0) = none ∨ disk (backend.hashFilePath i 0) = none := by
  rcases (load_notFound_iff (backend.checkPathExtensions_slot i 0)).1 hload with hkvs | ⟨-, hhash⟩
  · exact .inl hkvs
  · exact .inr hhash

end Slot

section Spec

variable {c : Crates} {backend : JsonBackend} {i : InstanceId} {candidates : List KvsMap}

theorem fsRename_spec {pre stop : Fs → Prop} {ok : Unit → Fs → Prop} {bad : ErrorCode → Fs → Prop}
    (hok : ∀ d, pre d → ok () (Disk.Step.apply d (.rename src dst)))
    (hbad : ∀ d, pre d → bad (.ofIo .notFound) (Disk.Step.apply d (.rename src dst)))
    (hkeep : ∀ d, pre d → stop d)
    (hstop : ∀ d, pre d → stop (Disk.Step.apply d (.rename src dst))) :
    Spec pre (fsRename src dst) ok bad stop := by
  apply Spec.bind fun _ d' => ∃ d, pre d ∧ d' = Disk.Step.apply d (.rename src dst)
  · exact .rename (fun d h => ⟨d, h, rfl⟩) hkeep hstop
  intro found
  have hstop' : ∀ d', (∃ d, pre d ∧ d' = Disk.Step.apply d (.rename src dst)) → stop d' := by
    rintro d' ⟨d, h, rfl⟩
    exact hstop d h
  cases found with
  | true =>
    refine .pure ?_ hstop'
    rintro d' ⟨d, h, rfl⟩
    exact hok d h
  | false =>
    refine .throw ?_ hstop'
    rintro d' ⟨d, h, rfl⟩
    exact hbad d h

theorem fsRename_other
    (h : ∀ q, q = backend.kvsFilePath i 0 ∨ q = backend.hashFilePath i 0 → q ≠ src ∧ q ≠ dst) :
    Spec (Whole c backend i candidates) (fsRename src dst) (fun _ => Whole c backend i candidates)
      (fun _ => Whole c backend i candidates) (Whole c backend i candidates) := by
  have happly (d : Fs) (hd : Whole c backend i candidates d) :
      Whole c backend i candidates (Disk.Step.apply d (.rename src dst)) := by
    apply hd.congr
    · exact Disk.Step.apply_frame _ d (not_or.2 (h _ (.inl rfl)))
    · exact Disk.Step.apply_frame _ d (not_or.2 (h _ (.inr rfl)))
  exact fsRename_spec happly happly (fun _ h => h) happly

theorem rotateFrom_spec (n : Nat) :
    Spec (Whole c backend i candidates) (backend.rotateFrom i (n + 1)) (fun _ => Gone backend i)
      (fun _ => Whole c backend i candidates) (Whole c backend i candidates) := by
  have hfamilies := backend.families i
  induction n with
  | zero =>
    have hhash (d : Fs) : Disk.Step.apply d
        (.rename (backend.hashFilePath i 0) (backend.hashFilePath i 1))
          (backend.hashFilePath i 0) = none := by
      rw [Disk.apply_rename, if_neg fun h => absurd (hfamilies.inj_left h) (by decide), if_pos rfl]
    have hkvs (d : Fs) : Disk.Step.apply d
        (.rename (backend.kvsFilePath i 0) (backend.kvsFilePath i 1))
          (backend.kvsFilePath i 0) = none := by
      rw [Disk.apply_rename, if_neg fun h => absurd (hfamilies.inj_right h) (by decide), if_pos rfl]
    have hkept (d : Fs) : Disk.Step.apply d
        (.rename (backend.kvsFilePath i 0) (backend.kvsFilePath i 1))
          (backend.hashFilePath i 0) = d (backend.hashFilePath i 0) :=
      Disk.Step.apply_frame _ d (not_or.2 ⟨hfamilies.disjoint 0 0, hfamilies.disjoint 0 1⟩)
    apply Spec.bind fun snapOldExists d => Whole c backend i candidates d ∧
      snapOldExists = (d (backend.kvsFilePath i 0)).isSome
    · exact .exists (fun d h => ⟨h, rfl⟩) fun _ h => h
    intro snapOldExists
    apply Spec.bind fun hashOldExists d => (Whole c backend i candidates d ∧
      snapOldExists = (d (backend.kvsFilePath i 0)).isSome) ∧
        hashOldExists = (d (backend.hashFilePath i 0)).isSome
    · exact .exists (fun d h => ⟨h, rfl⟩) fun _ h => h.1
    intro hashOldExists
    dsimp only
    split
    · rename_i hnone
      refine .pure ?_ fun _ h => h.1.1
      rintro d ⟨⟨-, hsnap⟩, hold⟩
      rw [hsnap, hold] at hnone
      simpa [Gone] using hnone
    split
    · exact .throw (fun _ h => h.1.1) fun _ h => h.1.1
    apply Spec.bind fun _ d => d (backend.hashFilePath i 0) = none
    · refine fsRename_spec (fun d _ => hhash d) (fun d _ => .inr (.inl (hhash d))) ?_ ?_
      · exact fun _ h => h.1.1
      · exact fun d _ => .inr (.inl (hhash d))
    intro _
    apply Spec.bind fun _ => Gone backend i
    · refine fsRename_spec (fun d h => ⟨hkvs d, (hkept d).trans h⟩) (fun d _ => .inl (hkvs d)) ?_ ?_
      · exact fun d h => .inr (.inl h)
      · exact fun d _ => .inl (hkvs d)
    intro _
    exact .pure (fun _ h => h) fun _ h => h.whole
  | succ n ih =>
    have hother (idx : Nat) (q : Path)
        (hq : q = backend.kvsFilePath i 0 ∨ q = backend.hashFilePath i 0) :
        (q ≠ backend.hashFilePath i (idx + 1) ∧ q ≠ backend.hashFilePath i (idx + 2)) ∧
          q ≠ backend.kvsFilePath i (idx + 1) ∧ q ≠ backend.kvsFilePath i (idx + 2) := by
      rcases hq with rfl | rfl
      · refine ⟨⟨(hfamilies.disjoint _ _).symm, (hfamilies.disjoint _ _).symm⟩, ?_, ?_⟩
        · exact fun h => absurd (hfamilies.inj_right h) (by omega)
        · exact fun h => absurd (hfamilies.inj_right h) (by omega)
      · refine ⟨⟨?_, ?_⟩, hfamilies.disjoint _ _, hfamilies.disjoint _ _⟩
        · exact fun h => absurd (hfamilies.inj_left h) (by omega)
        · exact fun h => absurd (hfamilies.inj_left h) (by omega)
    apply Spec.bind fun _ => Whole c backend i candidates
    · exact .exists (fun _ h => h) fun _ h => h
    intro snapOldExists
    apply Spec.bind fun _ => Whole c backend i candidates
    · exact .exists (fun _ h => h) fun _ h => h
    intro hashOldExists
    dsimp only
    split
    · exact ih
    split
    · exact .throw (fun _ h => h) fun _ h => h
    apply Spec.bind _ (fsRename_other fun q hq => (hother n q hq).1)
    intro _
    apply Spec.bind _ (fsRename_other fun q hq => (hother n q hq).2)
    intro _
    exact ih

theorem save_spec (hc : c.TinyJson) (hm : decoded m ∈ candidates) :
    Spec (Gone backend i)
      (JsonBackend.save c m (backend.kvsFilePath i 0) (backend.hashFilePath i 0))
      (fun _ => Whole c backend i [decoded m]) (fun _ => Gone backend i)
      (Whole c backend i candidates) := by
  have hdisjoint := (backend.families i).disjoint 0 0
  apply Spec.bind fun _ => Gone backend i
  · exact .query (fun _ _ h _ => h) (fun _ _ h _ => h) fun _ h => h.whole
  intro _
  dsimp only
  cases ht : c.stringify (jsonValueFrom (.ofMap m)) with
  | none => exact .throw (fun _ h => h) fun _ h => h.whole
  | some text =>
    have hfinite : (KvsValue.ofMap m).Finite := by
      by_contra hm
      cases ht.symm.trans (hc.refused hm)
    have hdecode := hc.decodeText_written ht hfinite
    have hkvs (d : Fs) (b : Bytes) (h : d (backend.kvsFilePath i 0) = some (utf8 text)) :
        Disk.Step.apply d (.write (backend.hashFilePath i 0) b) (backend.kvsFilePath i 0) =
          some (utf8 text) :=
      (Disk.Step.apply_frame (.write _ b) d hdisjoint.symm).trans h
    have hwhole (d : Fs) (h : d (backend.kvsFilePath i 0) = some (utf8 text)) {ms : List KvsMap}
        (hms : decoded m ∈ ms) : Whole c backend i ms d :=
      .inr (.inr ⟨decoded m, hms, text, hdecode, h⟩)
    apply Spec.bind fun _ d => d (backend.kvsFilePath i 0) = some (utf8 text)
    · refine .write (fun d _ => if_pos rfl) (fun _ h => h.whole) ?_
      intro d b h
      right
      left
      exact (Disk.Step.apply_frame (.write _ b) d hdisjoint).trans h.2
    intro _
    refine .write (fun d h => hwhole _ (hkvs d _ h) (List.mem_singleton_self _)) ?_ ?_
    · exact fun d h => hwhole d h hm
    · exact fun d b h => hwhole _ (hkvs d b h) hm

/-- Wherever a flush is stopped, slot `0` is whole. -/
theorem flush_spec (hc : c.TinyJson) (hmax : 1 < backend.snapshotMaxCount) (m : KvsMap) :
    Spec (Whole c backend i candidates) (backend.flush c i m)
      (fun _ => Whole c backend i [decoded m])
      (fun _ => Whole c backend i (decoded m :: candidates))
      (Whole c backend i (decoded m :: candidates)) := by
  have hmono (d : Fs) (h : Whole c backend i candidates d) :
      Whole c backend i (decoded m :: candidates) d := h.mono (List.subset_cons_self _ _)
  obtain ⟨n, hn⟩ : ∃ n, backend.snapshotMaxCount - 1 = n + 1 :=
    ⟨backend.snapshotMaxCount - 2, by omega⟩
  apply Spec.bind fun _ => Gone backend i
  · rw [JsonBackend.snapshotRotate, hn]
    exact (rotateFrom_spec n).imp (fun _ h => h) (fun _ _ h => h) (fun _ d h => hmono d h) hmono
  intro _
  exact (save_spec hc List.mem_cons_self).imp (fun _ h => h) (fun _ _ h => h)
    (fun _ _ h => h.whole) fun _ h => h

end Spec

section Trace

variable {c : Crates} {backend : JsonBackend} {i : InstanceId} {t : Trace}

theorem Whole.deploy (h : Whole c backend i candidates disk) (text : Option String) :
    Whole c backend i candidates (deploy c backend i text disk) := by
  obtain ⟨h₁, h₂⟩ := backend.kvsFilePath_ne_defaults i 0
  obtain ⟨h₃, h₄⟩ := backend.hashFilePath_ne_defaults i 0
  apply h.congr
  · rw [Rust.deploy, if_neg h₁, if_neg h₂]
  · rw [Rust.deploy, if_neg h₃, if_neg h₄]

theorem Whole.step (h : Whole c backend i t.candidates t.world.disk)
    (hlinked : Linked backend i t.world) (hc : c.TinyJson) (hmax : 1 < backend.snapshotMaxCount)
    (e : Event c) : Whole c backend i (e.step c backend i t).1.candidates
      (e.step c backend i t).1.world.disk := by
  have heffect := step_effect hlinked hmax e
  revert heffect
  generalize e.step c backend i t = r
  intro heffect
  cases heffect with
  | act ha hdisk =>
    rcases hdisk with hdisk | ⟨text, hdisk⟩
    · rw [hdisk]
      exact h
    · rw [hdisk]
      exact h.deploy text
  | flush hkvs hm hrun => exact (flush_spec hc hmax _).ok _ _ _ h hrun
  | flushError hkvs hm hrun => exact (flush_spec hc hmax _).bad _ _ _ h hrun
  | interrupted hdisk =>
    rw [hdisk]
    exact (flush_spec hc hmax _).stop _ _ _ h
  | dead hdead => exact h

theorem KvsBuilder.load_ok {self : KvsBuilder} (hload : self.load c disk = .ok data) :
    KvsBuilder.loadKvsMap c self.parameters disk = .ok data.kvsMap := by
  unfold KvsBuilder.load at hload
  cases hdefaults : KvsBuilder.loadDefaultsMap c self.parameters disk with
  | error e =>
    rw [hdefaults] at hload
    cases hload
  | ok defaultsMap =>
    cases hkvs : KvsBuilder.loadKvsMap c self.parameters disk with
    | error e =>
      rw [hdefaults, hkvs] at hload
      cases hload
    | ok kvsMap =>
      rw [hdefaults, hkvs] at hload
      cases hload
      rfl

/-- Whatever was interrupted before, the next process finds the map of the latest successful flush
or of one that failed or was interrupted since then, or it starts with an empty one because a file
of slot `0` is missing, or it fails to start. -/
theorem restart_interrupted (hc : c.TinyJson) (hmax : 1 < backend.snapshotMaxCount)
    (hi : i < kvsMaxInstances) (hslot : disk (backend.kvsFilePath i 0) = none)
    (events : List (Event c)) (defaults : Defaults c) :
    let t := (Transition.run (Event.step c backend i)
      ⟨⟨disk, .start, .error .unmappedError⟩, []⟩ events).1
    let w := (Action.step backend i t.world (.restart defaults)).1
    ∀ kvs, w.handle = .ok kvs → (w.process.cells kvs.data).kvsMap ∈ t.candidates ∨
      (w.process.cells kvs.data).kvsMap = .empty ∧
        (t.world.disk (backend.kvsFilePath i 0) = none ∨
          t.world.disk (backend.hashFilePath i 0) = none) := by
  intro t w kvs hkvs
  have hsound : Linked backend i t.world ∧ Whole c backend i t.candidates t.world.disk := by
    apply Transition.run_invariant (I := fun t : Trace => Linked backend i t.world ∧
      Whole c backend i t.candidates t.world.disk)
    · exact fun t e h => ⟨h.1.step hi e, h.2.step h.1 hc hmax e⟩
    · refine ⟨?_, .inl hslot⟩
      intro kvs h
      cases h
  obtain ⟨-, hload⟩ := KvsBuilder.build_start_ok hi hkvs
  have hmap := KvsBuilder.load_ok hload
  simp only [KvsBuilder.loadKvsMap, KvsBuilder.parameters, Option.getD_some] at hmap
  split at hmap
  · rename_i m hm
    left
    have hw : (w.process.cells kvs.data).kvsMap = m := (Except.ok.inj hmap).symm
    rw [hw]
    exact (hsound.2.deploy defaults.text).loadKvs hm
  · rename_i hmissing
    obtain ⟨h₁, h₂⟩ := backend.kvsFilePath_ne_defaults i 0
    obtain ⟨h₃, h₄⟩ := backend.hashFilePath_ne_defaults i 0
    have hfiles := loadKvs_missing hmissing
    rw [Rust.deploy, Rust.deploy, if_neg h₁, if_neg h₂, if_neg h₃, if_neg h₄] at hfiles
    exact .inr ⟨(Except.ok.inj hmap).symm, hfiles⟩
  · cases hmap

theorem restart_loads (hi : i < kvsMaxInstances) {w : World} (d : Defaults c)
    (hload : backend.loadKvs c i 0 w.disk = .ok m) :
    ∃ kvs, (Action.step backend i w (.restart d)).1.handle = .ok kvs ∧
      (Action.step backend i w (.restart d)).1.process.cells kvs.data = ⟨m, d.map⟩ := by
  have hslot : backend.loadKvs c i 0 (deploy c backend i d.text w.disk) = .ok m := by
    obtain ⟨h₁, h₂⟩ := backend.kvsFilePath_ne_defaults i 0
    obtain ⟨h₃, h₄⟩ := backend.hashFilePath_ne_defaults i 0
    rw [← hload]
    apply load_congr
    · rw [Rust.deploy, if_neg h₁, if_neg h₂]
    · rw [Rust.deploy, if_neg h₃, if_neg h₄]
  have hbuild : KvsBuilder.load ⟨i, some d.mode, some .optional, some backend⟩ c
      (deploy c backend i d.text w.disk) = .ok ⟨m, d.map⟩ := by
    rw [load_deploy, KvsBuilder.loadKvsMap, hslot]
    rfl
  obtain ⟨process, hbuild, hcell⟩ := KvsBuilder.build_start _ hi hbuild
  simp only [Action.step, World.restart, hbuild]
  exact ⟨_, rfl, hcell⟩

theorem Keeps.fail_slot (h : Keeps c backend i hist disk) (hc : c.TinyJson) (m : KvsMap)
    (hn : n < 2 * (min hist.length (backend.snapshotMaxCount - 1) - 1)) (left : Option Bytes) :
    backend.loadKvs c i 0 ((backend.flush c i m).fail n left disk) =
      backend.loadKvs c i 0 disk := by
  have hf := backend.families i
  obtain ⟨k, hk⟩ : ∃ k, min hist.length (backend.snapshotMaxCount - 1) = k + 1 :=
    ⟨min hist.length (backend.snapshotMaxCount - 1) - 1, by omega⟩
  obtain ⟨rest, hjournal, -⟩ := h.flush_journal hc m
  rw [hk, renames, Disk.shiftUp_succ, List.append_assoc] at hjournal
  have hkept (q : Path) (hhash : ∀ s : Nat, q ≠ backend.hashFilePath i (s + 1))
      (hkvs : ∀ s : Nat, q ≠ backend.kvsFilePath i (s + 1)) :
      (backend.flush c i m).fail n left disk q = disk q := by
    refine Disk.Prog.fail_frame hjournal ?_ (.inl ?_) left
    · intro st hst ht
      obtain ⟨s, -, hq⟩ := Disk.shiftUp_touches hst ht
      exact hq.elim (hhash s) (hkvs s)
    · rw [Disk.shiftUp_length]
      omega
  apply load_congr
  · apply hkept
    · exact fun s => (hf.disjoint _ _).symm
    · exact fun s he => absurd (hf.inj_right he) (Nat.succ_ne_zero s).symm
  · apply hkept
    · exact fun s he => absurd (hf.inj_left he) (Nat.succ_ne_zero s).symm
    · exact fun s => hf.disjoint _ _

theorem Shows.interrupted {s : History} (h : Shows c backend i t.world s)
    (hmax : 1 < backend.snapshotMaxCount) (n : Nat) (left : Option Bytes) :
    (Event.step c backend i t (.interrupted n left)).1.world.disk =
      (backend.flush c i s.cur).fail n left t.world.disk := by
  obtain ⟨kvs, hkvs, rfl, rfl, hcell⟩ := h.handle
  simp only [Event.step, hkvs, kvs_flush_eq hmax, hcell]

/-- The third flush of a process stops between the two renames of slot `1`; the next process finds
the map of the second one. -/
theorem restart_interrupted_second : ∃ (c : Crates) (kvs : KvsInner), c.TinyJson ∧
    c.stringify (jsonValueFrom (.ofMap answer)) = some answerText ∧
    let t := (Transition.run (Event.step c .default 1) ⟨.off, []⟩
      ([.restart (.none c), .call .flush, .call (.setValue "answer" (.i32 42)), .call .flush,
        .call .reset].map .act ++ [.interrupted 1 none])).1
    let w := (Action.step .default 1 t.world (.restart (.none c))).1
    w.handle = .ok kvs ∧ (w.process.cells kvs.data).kvsMap = answer ∧
      ((w.process.cells kvs.data).kvsMap ∈ t.candidates ∨
        (w.process.cells kvs.data).kvsMap = .empty ∧
          (t.world.disk (JsonBackend.default.kvsFilePath 1 0) = none ∨
            t.world.disk (JsonBackend.default.hashFilePath 1 0) = none)) := by
  obtain ⟨c, hc, -, htext⟩ := exists_crates answer answer_exact.1 answerText
  have hexact (a : Action c) (ha : a ∈ [.call .flush, .call (.setValue "answer" (.i32 42)),
      .call .flush, .call .reset]) : a.Exact := by
    simp only [List.mem_cons, List.not_mem_nil, or_false] at ha
    rcases ha with rfl | rfl | rfl | rfl
    · trivial
    · exact ⟨trivial, trivial⟩
    · trivial
    · trivial
  obtain ⟨hshows, -⟩ := @run_shows c .default 1 .off hc (by decide) (fun _ => rfl) (fun _ => rfl)
    (.none c) _ hexact
  have hcut {t : Trace} {s : History} (h : Shows c .default 1 t.world s)
      (hhist : s.hist = [answer, .empty]) : JsonBackend.default.loadKvs c 1 0
        (Event.step c .default 1 t (.interrupted 1 none)).1.world.disk = .ok answer := by
    have hkeeps := h.keeps
    rw [hhist] at hkeeps
    rw [h.interrupted (by decide), hkeeps.fail_slot hc _ Nat.one_lt_two]
    exact hkeeps.loadKvs_some rfl
  have hload := hcut (t := (Transition.run (Event.step c .default 1) ⟨.off, []⟩
    ([.restart (.none c), .call .flush, .call (.setValue "answer" (.i32 42)), .call .flush,
      .call .reset].map .act)).1) (by rw [Event.run_act]; exact hshows) rfl
  rw [← Transition.run_concat] at hload
  obtain ⟨kvs, hkvs, hcell⟩ := restart_loads (by decide) (.none c) hload
  have hnext := @restart_interrupted c .default 1 World.off.disk hc (by decide) (by decide) rfl
    ([.restart (.none c), .call .flush, .call (.setValue "answer" (.i32 42)), .call .flush,
      .call .reset].map .act ++ [.interrupted 1 none]) (.none c)
  have hoff : World.mk World.off.disk .start (.error .unmappedError) = World.off := rfl
  rw [hoff] at hnext
  refine ⟨c, kvs, hc, htext, hkvs, ?_, hnext kvs hkvs⟩
  rw [hcell]

end Trace

end Persistency.Rust
