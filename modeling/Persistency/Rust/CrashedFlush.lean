import Persistency.Rust.KvsBuilder
import Persistency.Rust.Snapshots

namespace Persistency.Rust
set_option autoImplicit true

def flushAll (c : Crates) (backend : JsonBackend) (i : InstanceId) (ms : List KvsMap) (disk : Fs) :
    Fs :=
  ms.foldl (fun disk m => ((backend.flush c i m).run disk).2) disk

/-- The new map is read back as it was, or as the last one. -/
def ReadsBack (last new : KvsMap) : Prop := IntegersFit (.ofMap new) ∨ decoded new = last

def hashOfMap (c : Crates) (m : KvsMap) : Option Bytes :=
  (c.stringify (jsonValueFrom (.ofMap m))).map (hashOf c)

def nextBuilder (backend : JsonBackend) (i : InstanceId) : KvsBuilder :=
  ⟨i, none, some .optional, some backend⟩

/-- The next process fails to open the store, or finds one of the two maps and not an empty one. -/
def Survives (c : Crates) (backend : JsonBackend) (i : InstanceId) (last new : KvsMap)
    (disk : Fs) : Prop :=
  ∀ kvs process, (nextBuilder backend i).build c disk .start = (.ok kvs, process) →
    (process.cells kvs.data).kvsMap ≠ .empty ∧
      ((process.cells kvs.data).kvsMap = last ∨ (process.cells kvs.data).kvsMap = new)

variable {c : Crates} {backend : JsonBackend} {i : InstanceId} {disk : Fs} {hist : List KvsMap}

theorem flushAll_keeps (hc : c.TinyJson) (hmax : 0 < backend.snapshotMaxCount) (ms : List KvsMap)
    (hms : ∀ m ∈ ms, JsonExact (.ofMap m)) (h : Keeps c backend i hist disk) :
    Keeps c backend i ((ms.reverse ++ hist).take backend.snapshotMaxCount)
      (flushAll c backend i ms disk) := by
  induction ms generalizing hist disk with
  | nil =>
    rw [List.reverse_nil, List.nil_append, List.take_of_length_le h.bound]
    exact h
  | cons m ms ih =>
    have hk := ih (fun m' hm => hms m' (List.mem_cons_of_mem m hm))
      (h.flush hc (hms m List.mem_cons_self) hmax).2
    have htake : ((m :: ms).reverse ++ hist).take backend.snapshotMaxCount =
        (ms.reverse ++ (m :: hist).take backend.snapshotMaxCount).take
          backend.snapshotMaxCount := by
      rw [List.reverse_cons, List.append_assoc, List.singleton_append, List.take_append,
        List.take_append, List.take_take, Nat.min_eq_left (Nat.sub_le _ _)]
    rw [htake]
    exact hk

theorem flushAll_defaults (ms : List KvsMap) :
    flushAll c backend i ms disk (backend.defaultsFilePath i) =
      disk (backend.defaultsFilePath i) := by
  induction ms generalizing disk with
  | nil => rfl
  | cons m ms ih =>
    have hflush := (flush_within c backend i m).run_frame (defaults_not_slot backend i) disk
    exact ih.trans hflush

section Next

theorem nextBuilder_load (hd : disk (backend.defaultsFilePath i) = none) :
    (nextBuilder backend i).load c disk =
      match backend.loadKvs c i 0 disk with
      | .ok map => .ok ⟨map, .empty⟩
      | .error .fileNotFound => .ok ⟨.empty, .empty⟩
      | .error e => .error e := by
  have hdefaults : backend.loadDefaults c i disk = .error .fileNotFound :=
    load_missing (backend.checkPathExtensions_defaults i) hd
  simp only [KvsBuilder.load, KvsBuilder.parameters, KvsBuilder.loadDefaultsMap,
    KvsBuilder.loadKvsMap, nextBuilder, Option.getD_some, Option.getD_none, hdefaults]
  cases backend.loadKvs c i 0 disk with
  | ok map => rfl
  | error e => cases e <;> rfl

theorem survives_iff (hi : i < kvsMaxInstances) (hd : disk (backend.defaultsFilePath i) = none)
    (hload : backend.loadKvs c i 0 disk = .ok m) (hm : m ≠ .empty) :
    Survives c backend i last new disk ↔ m = last ∨ m = new := by
  have hdata : (nextBuilder backend i).load c disk = .ok ⟨m, .empty⟩ := by
    rw [nextBuilder_load hd, hload]
  obtain ⟨process, hbuild, hcell⟩ := (nextBuilder backend i).build_start hi hdata
  apply Iff.intro
  · intro hs
    have hfound := (hs _ _ hbuild).2
    rwa [hcell] at hfound
  · intro hfound kvs process' hb
    rw [hbuild] at hb
    cases hb
    rw [hcell]
    exact ⟨hm, hfound⟩

theorem survives_of_error (hi : i < kvsMaxInstances)
    (hd : disk (backend.defaultsFilePath i) = none)
    (hload : backend.loadKvs c i 0 disk = .error .validationFailed) :
    Survives c backend i last new disk := by
  intro kvs process hb
  rw [(nextBuilder backend i).build_start_error hi (e := .validationFailed)
    (by rw [nextBuilder_load hd, hload])] at hb
  cases hb

theorem not_survives (hi : i < kvsMaxInstances) (hd : disk (backend.defaultsFilePath i) = none)
    (hload : backend.loadKvs c i 0 disk = .error .fileNotFound) :
    ¬ Survives c backend i last new disk := by
  intro hs
  have hdata : (nextBuilder backend i).load c disk = .ok ⟨.empty, .empty⟩ := by
    rw [nextBuilder_load hd, hload]
  obtain ⟨process, hbuild, hcell⟩ := (nextBuilder backend i).build_start hi hdata
  exact (hs _ _ hbuild).1 (congrArg KvsData.kvsMap hcell)

end Next

section Cut

variable {texts : List String}

/-- The renames of a rotation that come before those of slot `0`. -/
abbrev laterRenames (backend : JsonBackend) (i : InstanceId) (r : Nat) :
    List (Disk.Step Path Bytes) :=
  Disk.shiftUp (fun s => backend.hashFilePath i (s + 1)) (fun s => backend.kvsFilePath i (s + 1)) r

theorem laterRenames_frame (backend : JsonBackend) (i : InstanceId) (n r : Nat) (disk : Fs) :
    Disk.replay disk ((laterRenames backend i r).take n) (backend.kvsFilePath i 0) =
        disk (backend.kvsFilePath i 0) ∧
      Disk.replay disk ((laterRenames backend i r).take n) (backend.hashFilePath i 0) =
        disk (backend.hashFilePath i 0) := by
  have hf := backend.families i
  have hkeep (p : Path) (hp : ∀ s, p ≠ backend.hashFilePath i (s + 1))
      (hq : ∀ s, p ≠ backend.kvsFilePath i (s + 1)) :
      Disk.replay disk ((laterRenames backend i r).take n) p = disk p := by
    apply Disk.replay_frame
    intro s hs ht
    obtain ⟨j, -, hj⟩ := Disk.shiftUp_touches (List.mem_of_mem_take hs) ht
    exact hj.elim (hp j) (hq j)
  have hkvs := hkeep (backend.kvsFilePath i 0) (fun s => (hf.disjoint _ _).symm)
    fun s he => Nat.zero_ne_add_one s (hf.inj_right he)
  have hhash := hkeep (backend.hashFilePath i 0)
    (fun s he => Nat.zero_ne_add_one s (hf.inj_left he)) fun s => hf.disjoint _ _
  exact ⟨hkvs, hhash⟩

theorem cut_early (h : Slots c backend i (text :: texts) disk) (hn : n ≤ 2 * r)
    (rest : List (Disk.Step Path Bytes)) :
    backend.loadKvs c i 0 (Disk.replay disk ((renames backend i (r + 1) ++ rest).take n)) =
      decodeText c text := by
  have htake : (renames backend i (r + 1) ++ rest).take n = (laterRenames backend i r).take n := by
    rw [renames, Disk.shiftUp_succ, List.append_assoc, List.take_append_of_le_length]
    rwa [Disk.shiftUp_length]
  obtain ⟨hkvs, hhash⟩ := laterRenames_frame backend i n r disk
  rw [htake]
  apply load_pair (backend.checkPathExtensions_slot i 0)
  · rw [hkvs, h.kvs 0]
    rfl
  · rw [hhash, h.hash 0]
    rfl

/-- Slot `0` has no hash, and no data or a text. -/
structure Unhashed (backend : JsonBackend) (i : InstanceId) (disk : Fs) : Prop where
  hash : disk (backend.hashFilePath i 0) = none
  kvs : disk (backend.kvsFilePath i 0) = none ∨
    ∃ text, disk (backend.kvsFilePath i 0) = some (utf8 text)

/-- The steps that come between the rename of the hash of slot `0` and its next write. -/
def Between (backend : JsonBackend) (i : InstanceId) (s : Disk.Step Path Bytes) : Prop :=
  s = .rename (backend.kvsFilePath i 0) (backend.kvsFilePath i 1) ∨
    ∃ text, s = .write (backend.kvsFilePath i 0) (utf8 text)

theorem Unhashed.apply (h : Unhashed backend i disk) (hs : Between backend i s) :
    Unhashed backend i (s.apply disk) := by
  have hf := backend.families i
  rcases hs with rfl | ⟨text, rfl⟩
  · have hhash : Disk.Step.apply disk (.rename (backend.kvsFilePath i 0) (backend.kvsFilePath i 1))
        (backend.hashFilePath i 0) = none := by
      rw [Disk.apply_rename, if_neg (hf.disjoint _ _), if_neg (hf.disjoint _ _), h.hash]
    have hkvs : Disk.Step.apply disk (.rename (backend.kvsFilePath i 0) (backend.kvsFilePath i 1))
        (backend.kvsFilePath i 0) = none := by
      rw [Disk.apply_rename, if_neg (fun he => Nat.zero_ne_one (hf.inj_right he)), if_pos rfl]
    exact ⟨hhash, .inl hkvs⟩
  · exact ⟨(if_neg (hf.disjoint _ _)).trans h.hash, .inr ⟨text, if_pos rfl⟩⟩

theorem Unhashed.replay (h : Unhashed backend i disk) (hs : ∀ s ∈ steps, Between backend i s) :
    Unhashed backend i (Disk.replay disk steps) := by
  induction steps generalizing disk with
  | nil => exact h
  | cons s steps ih =>
    exact ih (h.apply (hs s List.mem_cons_self)) fun t ht => hs t (List.mem_cons_of_mem s ht)

theorem Unhashed.loadKvs (h : Unhashed backend i disk) (c : Crates) :
    backend.loadKvs c i 0 disk = .error .fileNotFound := by
  rcases h.kvs with hk | ⟨text, hk⟩
  · exact load_missing (backend.checkPathExtensions_slot i 0) hk
  · exact load_unhashed (backend.checkPathExtensions_slot i 0) hk h.hash

/-- Once the hash of slot `0` is moved, and until it is written again, slot `0` reads as absent. -/
theorem cut_late (h : Slots c backend i (text :: texts) disk)
    (hrest : rest = [] ∨ ∃ text', rest = slotSteps c backend i text' ∧ n ≤ 2 * r + 3)
    (hlo : 2 * r + 1 ≤ n) :
    backend.loadKvs c i 0 (Disk.replay disk ((renames backend i (r + 1) ++ rest).take n)) =
      .error .fileNotFound := by
  have hf := backend.families i
  obtain ⟨j, rfl⟩ := Nat.exists_eq_add_of_le hlo
  have hlen : (laterRenames backend i r).length = 2 * r := Disk.shiftUp_length r
  have htake : (renames backend i (r + 1) ++ rest).take (2 * r + 1 + j) =
      laterRenames backend i r ++
      .rename (backend.hashFilePath i 0) (backend.hashFilePath i 1) ::
        (.rename (backend.kvsFilePath i 0) (backend.kvsFilePath i 1) :: rest).take j := by
    have hfirst : (laterRenames backend i r).take (2 * r + 1 + j) = laterRenames backend i r :=
      List.take_of_length_le (by omega)
    have hj : 2 * r + 1 + j - 2 * r = j + 1 := by omega
    rw [renames, Disk.shiftUp_succ, List.append_assoc, List.take_append, hlen, hj, hfirst]
    rfl
  obtain ⟨hkvs, -⟩ := laterRenames_frame backend i (2 * r) r disk
  rw [List.take_of_length_le (Nat.le_of_eq hlen)] at hkvs
  have hmoved : Unhashed backend i (Disk.Step.apply
      (Disk.replay disk (laterRenames backend i r))
      (.rename (backend.hashFilePath i 0) (backend.hashFilePath i 1))) := by
    apply Unhashed.mk
    · rw [Disk.apply_rename, if_neg (fun he => Nat.zero_ne_one (hf.inj_left he)), if_pos rfl]
    · rw [Disk.apply_rename, if_neg (hf.disjoint _ _).symm, if_neg (hf.disjoint _ _).symm, hkvs,
        h.kvs 0]
      exact .inr ⟨text, rfl⟩
  rw [htake, Disk.replay_append, Disk.replay_cons]
  apply (hmoved.replay ?_).loadKvs c
  intro s hs
  rcases hrest with rfl | ⟨text', rfl, hhi⟩
  · have hs := List.mem_of_mem_take hs
    rw [List.mem_singleton] at hs
    exact .inl hs
  · have hj : j ≤ 2 := by omega
    rw [← Nat.min_eq_left hj, ← List.take_take] at hs
    have hs := List.mem_of_mem_take hs
    simp only [slotSteps, saveSteps, List.take_succ_cons, List.take_zero, List.mem_cons,
      List.not_mem_nil, or_false] at hs
    rcases hs with rfl | rfl
    · exact .inl rfl
    · exact .inr ⟨text', rfl⟩

theorem cut_single (h : Slots c backend i (text :: texts) disk) (text' : String) :
    backend.loadKvs c i 0 (Disk.replay disk ((slotSteps c backend i text').take 1)) =
      if disk (backend.hashFilePath i 0) ≠ some (hashOf c text') then .error .validationFailed
      else decodeText c text' := by
  have hf := backend.families i
  have hhash : disk (backend.hashFilePath i 0) = some (hashOf c text) := h.hash 0
  have hload : backend.loadKvs c i 0 (Disk.replay disk ((slotSteps c backend i text').take 1)) =
      if c.adler32 (utf8 text') ≠ c.adler32 (utf8 text) then .error .validationFailed
      else decodeText c text' :=
    load_hashed (backend.checkPathExtensions_slot i 0) (if_pos rfl)
      ((if_neg (hf.disjoint _ _)).trans hhash)
  have hsame : disk (backend.hashFilePath i 0) = some (hashOf c text') ↔
      c.adler32 (utf8 text') = c.adler32 (utf8 text) := by
    rw [hhash, Option.some.injEq]
    exact ⟨fun he => (BigEndian.toBytes_injective he).symm,
      fun he => congrArg BigEndian.toBytes he.symm⟩
  simp only [hload, ne_eq, hsame]

end Cut

section Survives

variable {last new : KvsMap}

theorem survives_decoded (hi : i < kvsMaxInstances)
    (hd : disk (backend.defaultsFilePath i) = none) (hnew : new ≠ .empty)
    (hfin : (KvsValue.ofMap new).Finite) (hload : backend.loadKvs c i 0 disk = .ok (decoded new)) :
    Survives c backend i last new disk ↔ ReadsBack last new := by
  have hne : decoded new ≠ .empty := fun he => hnew (FiniteMap.mapVal_eq_empty he)
  rw [survives_iff hi hd hload hne, decoded_eq_iff hfin, or_comm]
  rfl

theorem crash_survives_single (hc : c.TinyJson) (hi : i < kvsMaxInstances)
    (hone : backend.snapshotMaxCount = 1) (hk : Keeps c backend i (last :: older) disk)
    (hd : disk (backend.defaultsFilePath i) = none) (hlast : last ≠ .empty) (hnew : new ≠ .empty)
    (n : Nat) :
    Survives c backend i last new ((backend.flush c i new).crash n disk) ↔
      n = 0 ∨ ¬ (KvsValue.ofMap new).Finite ∨
        n = 1 ∧ disk (backend.hashFilePath i 0) ≠ hashOfMap c new ∨ ReadsBack last new := by
  have hd' : (backend.flush c i new).crash n disk (backend.defaultsFilePath i) = none := by
    rw [(flush_within c backend i new).crash_frame (defaults_not_slot backend i), hd]
  obtain ⟨rest, hj, hrest⟩ := hk.flush_journal hc new
  obtain ⟨_ | ⟨text, texts⟩, hslots, hall⟩ := hk.texts
  · cases hall
  obtain ⟨htext, -⟩ := List.forall₂_cons.1 hall
  have hold : backend.loadKvs c i 0 disk = .ok last :=
    (hslots.loadKvs_some (s := 0) rfl).trans htext
  rw [Disk.Prog.crash, hj, hone, Nat.sub_self, Nat.min_zero] at hd' ⊢
  rcases hrest with ⟨hfin, rfl⟩ | ⟨hfin, text', rfl, hdec, ht⟩
  · have hnone : (renames backend i 0 ++ []).take n = [] := List.take_nil
    rw [hnone] at hd' ⊢
    exact iff_of_true ((survives_iff hi hd' hold hlast).2 (.inl rfl)) (.inr (.inl hfin))
  · have hhash : hashOfMap c new = some (hashOf c text') := congrArg (Option.map (hashOf c)) ht
    rcases n with _ | _ | n
    · exact iff_of_true ((survives_iff hi hd' hold hlast).2 (.inl rfl)) (.inl rfl)
    · have hload := cut_single hslots text'
      rw [hhash]
      by_cases hdiffer : disk (backend.hashFilePath i 0) ≠ some (hashOf c text')
      · rw [if_pos hdiffer] at hload
        exact iff_of_true (survives_of_error hi hd' hload) (.inr (.inr (.inl ⟨rfl, hdiffer⟩)))
      · rw [if_neg hdiffer, hdec] at hload
        rw [survives_decoded hi hd' hnew hfin hload]
        simp only [hfin, hdiffer, Nat.zero_add, one_ne_zero, and_false, not_true_eq_false, false_or]
    · have hall : (renames backend i 0 ++ slotSteps c backend i text').take (n + 1 + 1) =
          slotSteps c backend i text' := List.take_of_length_le (Nat.le_add_left 2 n)
      have hload : backend.loadKvs c i 0 (Disk.replay disk (slotSteps c backend i text')) =
          .ok (decoded new) := by
        rw [JsonBackend.loadKvs, load_saved (backend.checkPathExtensions_slot i 0), hdec]
      rw [hall] at hd' ⊢
      rw [survives_decoded hi hd' hnew hfin hload]
      simp only [hfin, Nat.add_eq_zero_iff, one_ne_zero, and_false, Nat.add_eq_right, false_and,
        not_true_eq_false, false_or]

theorem crash_survives_renamed (hc : c.TinyJson) (hi : i < kvsMaxInstances)
    (hk : Keeps c backend i (last :: older) disk)
    (hd : disk (backend.defaultsFilePath i) = none) (hlast : last ≠ .empty) (hnew : new ≠ .empty)
    (n : Nat) (hr : min (older.length + 1) (backend.snapshotMaxCount - 1) = r + 1) :
    Survives c backend i last new ((backend.flush c i new).crash n disk) ↔
      n ≤ 2 * r ∨ (KvsValue.ofMap new).Finite ∧ 2 * (r + 1) + 2 ≤ n ∧ ReadsBack last new := by
  have hd' : (backend.flush c i new).crash n disk (backend.defaultsFilePath i) = none := by
    rw [(flush_within c backend i new).crash_frame (defaults_not_slot backend i), hd]
  obtain ⟨rest, hj, hrest⟩ := hk.flush_journal hc new
  obtain ⟨_ | ⟨text, texts⟩, hslots, hall⟩ := hk.texts
  · cases hall
  obtain ⟨htext, -⟩ := List.forall₂_cons.1 hall
  rw [Disk.Prog.crash, hj, List.length_cons, hr] at hd' ⊢
  by_cases hearly : n ≤ 2 * r
  · apply iff_of_true _ (.inl hearly)
    exact (survives_iff hi hd' ((cut_early hslots hearly rest).trans htext) hlast).2 (.inl rfl)
  · have hlate : 2 * r + 1 ≤ n := by omega
    rcases hrest with ⟨hfin, rfl⟩ | ⟨hfin, text', rfl, hdec, -⟩
    · apply iff_of_false (not_survives hi hd' (cut_late hslots (.inl rfl) hlate))
      simp only [hearly, hfin, false_and, or_self, not_false_eq_true]
    · by_cases hdone : 2 * (r + 1) + 2 ≤ n
      · have hall : (renames backend i (r + 1) ++ slotSteps c backend i text').take n =
            renames backend i (r + 1) ++ slotSteps c backend i text' := by
          apply List.take_of_length_le
          rw [List.length_append, Disk.shiftUp_length]
          exact hdone
        have hload : backend.loadKvs c i 0 (Disk.replay disk
            (renames backend i (r + 1) ++ slotSteps c backend i text')) = .ok (decoded new) := by
          rw [JsonBackend.loadKvs, Disk.replay_append,
            load_saved (backend.checkPathExtensions_slot i 0), hdec]
        rw [hall] at hd' ⊢
        rw [survives_decoded hi hd' hnew hfin hload]
        simp only [hearly, hfin, hdone, true_and, false_or]
      · apply iff_of_false (not_survives hi hd'
          (cut_late hslots (.inr ⟨text', rfl, by omega⟩) hlate))
        simp only [hearly, hdone, false_and, and_false, or_self, not_false_eq_true]

theorem crash_survives (hc : c.TinyJson) (hi : i < kvsMaxInstances)
    (hmax : 1 ≤ backend.snapshotMaxCount) (hk : Keeps c backend i (last :: older) disk)
    (hd : disk (backend.defaultsFilePath i) = none) (hlast : last ≠ .empty) (hnew : new ≠ .empty)
    (n : Nat) :
    let r := min (older.length + 1) (backend.snapshotMaxCount - 1)
    Survives c backend i last new ((backend.flush c i new).crash n disk) ↔
      n ≤ 2 * (r - 1) ∨ (KvsValue.ofMap new).Finite ∧ 2 * r + 2 ≤ n ∧ ReadsBack last new ∨
        backend.snapshotMaxCount = 1 ∧ (¬ (KvsValue.ofMap new).Finite ∨
          n = 1 ∧ (disk (backend.hashFilePath i 0) ≠ hashOfMap c new ∨ ReadsBack last new)) := by
  intro r
  by_cases hone : backend.snapshotMaxCount = 1
  · have hr : r = 0 := by
      simp only [r, hone, Nat.sub_self, Nat.min_zero]
    rw [crash_survives_single hc hi hone hk hd hlast hnew n, hr]
    by_cases hfin : (KvsValue.ofMap new).Finite
    · by_cases hback : ReadsBack last new
      · simp only [hfin, hback, hone, not_true_eq_false, or_true, and_true, true_and, true_iff]
        omega
      · simp only [hfin, hback, hone, not_true_eq_false, or_false, and_false, true_and, false_or,
          Nat.zero_sub, Nat.mul_zero, Nat.le_zero]
    · simp only [hfin, hone, not_false_eq_true, true_or, or_true, true_and]
  · have hslots : 0 < backend.snapshotMaxCount - 1 := by omega
    have hpos : 0 < r := Nat.lt_min.2 ⟨Nat.succ_pos _, hslots⟩
    obtain ⟨r', hr⟩ := Nat.exists_eq_succ_of_ne_zero (Nat.ne_of_gt hpos)
    rw [crash_survives_renamed hc hi hk hd hlast hnew n hr, hr, Nat.succ_eq_add_one,
      Nat.add_sub_cancel]
    simp only [hone, false_and, or_false]

/-- After flushes of maps that are not empty, a flush that is cut after `n` steps leaves the last
map or the new one, or no store that opens, exactly when slot `0` is not renamed yet, or the flush
is complete and its text reads back as one of the two, or there is one slot, to which nothing is
written or whose new data do not go with its old hash. -/
theorem crash_survives_iff (hc : c.TinyJson) (hi : i < kvsMaxInstances)
    (hmax : 1 ≤ backend.snapshotMaxCount) (ms : List KvsMap) (hms : ms ≠ [])
    (hexact : ∀ m ∈ ms, JsonExact (.ofMap m)) (hne : ∀ m ∈ ms, m ≠ .empty) (hnew : new ≠ .empty)
    (n : Nat) :
    let last := ms.getLast hms
    let before := flushAll c backend i ms fun _ => none
    let r := min ms.length (backend.snapshotMaxCount - 1)
    Survives c backend i last new ((backend.flush c i new).crash n before) ↔
      n ≤ 2 * (r - 1) ∨ (KvsValue.ofMap new).Finite ∧ 2 * r + 2 ≤ n ∧ ReadsBack last new ∨
        backend.snapshotMaxCount = 1 ∧ (¬ (KvsValue.ofMap new).Finite ∨
          n = 1 ∧ (before (backend.hashFilePath i 0) ≠ hashOfMap c new ∨ ReadsBack last new)) := by
  intro last before r
  have hempty : Keeps c backend i [] fun _ => none := .empty (fun _ => rfl) (fun _ => rfl)
  have hk : Keeps c backend i _ before := flushAll_keeps hc hmax ms hexact hempty
  have hd : before (backend.defaultsFilePath i) = none := flushAll_defaults ms
  have hrev : ms.reverse = last :: ms.dropLast.reverse := by
    rw [← List.reverse_concat, List.dropLast_append_getLast hms]
  obtain ⟨max, hmax'⟩ := Nat.exists_eq_add_of_le' hmax
  rw [List.append_nil, hrev, hmax', List.take_succ_cons] at hk
  have hlen :
      min ((ms.dropLast.reverse.take max).length + 1) (backend.snapshotMaxCount - 1) = r := by
    have hpos := List.length_pos_iff.2 hms
    rw [List.length_take, List.length_reverse, List.length_dropLast]
    omega
  have hcrash := crash_survives hc hi hmax hk hd (hne _ (List.getLast_mem hms)) hnew n
  rwa [hlen] at hcrash

end Survives

theorem answer_ne : answer ≠ .empty := by
  intro h
  have hkeys := congrArg FiniteMap.keys h
  exact absurd hkeys (by decide)

/-- The third flush of a map, cut between the renames of slot `1` and those of slot `0`. -/
theorem crash_survives_answer : ∃ c : Crates, c.TinyJson ∧
    c.stringify (jsonValueFrom (.ofMap answer)) = some answerText ∧
    Survives c .default 1 answer answer
      ((JsonBackend.default.flush c 1 answer).crash 2
        (flushAll c .default 1 [answer, answer] fun _ => none)) := by
  obtain ⟨c, hc, -, ht⟩ := exists_crates answer answer_exact.1 answerText
  have hms : ∀ m ∈ [answer, answer], m = answer := by
    intro m hm
    simpa using hm
  have hsurvives := @crash_survives_iff c .default 1 answer hc (by decide) (by decide)
    [answer, answer] (by simp) (fun m hm => hms m hm ▸ answer_exact)
    (fun m hm => hms m hm ▸ answer_ne) answer_ne 2
  exact ⟨c, hc, ht, hsurvives.2 (.inl (by decide))⟩

/-- The second flush of a map, cut between the renames and the writes, leaves an empty store. -/
theorem crash_loses_answer : ∃ c : Crates, c.TinyJson ∧
    c.stringify (jsonValueFrom (.ofMap answer)) = some answerText ∧
    ¬ Survives c .default 1 answer answer
      ((JsonBackend.default.flush c 1 answer).crash 2
        (flushAll c .default 1 [answer] fun _ => none)) := by
  obtain ⟨c, hc, -, ht⟩ := exists_crates answer answer_exact.1 answerText
  refine ⟨c, hc, ht, ?_⟩
  have hempty : Keeps c .default 1 [] fun _ => none := .empty (fun _ => rfl) (fun _ => rfl)
  have hexact : ∀ m ∈ [answer], JsonExact (.ofMap m) := by
    intro m hm
    rw [List.mem_singleton] at hm
    exact hm ▸ answer_exact
  have hk := flushAll_keeps hc (by decide) [answer] hexact hempty
  have hd : flushAll c .default 1 [answer] (fun _ => none)
      (JsonBackend.default.defaultsFilePath 1) = none := flushAll_defaults [answer]
  intro hs
  rcases (crash_survives hc (by decide) (by decide) hk hd answer_ne answer_ne 2).1 hs with
    h | ⟨-, h, -⟩ | ⟨h, -⟩
  · exact absurd h (by decide)
  · exact absurd h (by decide)
  · exact absurd h (by decide)

end Persistency.Rust
