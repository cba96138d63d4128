import Persistency.FileNames
import Persistency.Rust.JsonBackend

namespace Persistency.Rust
set_option autoImplicit true

namespace JsonBackend

open FileNames

theorem kvsFileName_eq (i s : Nat) :
    kvsFileName i s = "kvs_" ++ i.repr ++ "_" ++ s.repr ++ ".json" := rfl

theorem hashFileName_eq (i s : Nat) :
    hashFileName i s = "kvs_" ++ i.repr ++ "_" ++ s.repr ++ ".hash" := rfl

theorem defaultsFileName_eq (i : Nat) :
    defaultsFileName i = "kvs_" ++ i.repr ++ "_default" ++ ".json" := by
  rw [String.append_assoc]
  rfl

theorem defaultsHashFileName_eq (i : Nat) :
    defaultsHashFileName i = "kvs_" ++ i.repr ++ "_default" ++ ".hash" := by
  rw [String.append_assoc]
  rfl

theorem kvsFileName_injective (i : InstanceId) : Function.Injective (kvsFileName i) :=
  FileNames.numbered_injective ("kvs_" ++ i.repr ++ "_") ".json"

theorem hashFileName_injective (i : InstanceId) : Function.Injective (hashFileName i) :=
  FileNames.numbered_injective ("kvs_" ++ i.repr ++ "_") ".hash"

theorem extension_append (dir base : String) (ext : List Char) (hb : base ≠ "")
    (hdot : '.' ∉ ext) (hext : ext ≠ []) :
    Path.extension ⟨dir, base ++ String.ofList ('.' :: ext)⟩ = some (String.ofList ext) := by
  have hl : (base ++ String.ofList ('.' :: ext)).toList = base.toList ++ '.' :: ext := by
    rw [String.toList_append, String.toList_ofList]
  have hne : base ++ String.ofList ('.' :: ext) ≠ ".." := by
    intro h
    have hlast := congrArg (fun s => s.toList.getLast?) h
    simp only [hl, List.getLast?_append, List.getLast?_cons] at hlast
    obtain ⟨l, c, rfl⟩ := List.eq_nil_or_concat ext |>.resolve_left hext
    have hc : c = '.' := by simpa using hlast
    exact hdot (by simp [hc])
  have hrev : ∀ c ∈ ext.reverse, (c != '.') = true := by
    intro c hc
    rw [List.mem_reverse] at hc
    rw [bne_iff_ne]
    intro he
    exact hdot (he ▸ hc)
  have hbase : base.toList ≠ [] := fun h => hb (String.toList_eq_nil_iff.mp h)
  unfold Path.extension
  simp only [hl, if_neg hne]
  simp [List.takeWhile_append_of_pos hrev, List.dropWhile_append_of_pos hrev, hb]

variable (self : JsonBackend) (i : InstanceId)

theorem kvsFilePath_extension (s : SnapshotId) :
    (self.kvsFilePath i s).extension = some "json" := by
  have hne : "kvs_" ++ i.repr ++ "_" ++ s.repr ≠ "" := by simp
  exact extension_append _ _ ['j', 's', 'o', 'n'] hne (by decide) (by decide)

theorem hashFilePath_extension (s : SnapshotId) :
    (self.hashFilePath i s).extension = some "hash" := by
  have hne : "kvs_" ++ i.repr ++ "_" ++ s.repr ≠ "" := by simp
  exact extension_append _ _ ['h', 'a', 's', 'h'] hne (by decide) (by decide)

theorem checkPathExtensions_slot (s : SnapshotId) :
    checkPathExtensions (self.kvsFilePath i s) (self.hashFilePath i s) = .ok () := by
  simp only [checkPathExtensions, kvsFilePath_extension, hashFilePath_extension, ne_eq,
    not_true_eq_false, ↓reduceIte]

theorem families : Disk.Families (self.hashFilePath i) (self.kvsFilePath i) where
  inj_left _ _ h := hashFileName_injective i (congrArg Path.fileName h)
  inj_right _ _ h := kvsFileName_injective i (congrArg Path.fileName h)
  disjoint _ _ h := json_ne_hash _ _ (congrArg Path.fileName h).symm

theorem kvsFilePath_ne_defaults (s : SnapshotId) :
    self.kvsFilePath i s ≠ self.defaultsFilePath i ∧
      self.kvsFilePath i s ≠ self.defaultsHashFilePath i := by
  simp only [kvsFilePath, defaultsFilePath, defaultsHashFilePath, ne_eq, Path.mk.injEq, true_and,
    kvsFileName_eq, defaultsFileName_eq, defaultsHashFileName_eq]
  exact ⟨numbered_ne_default _ s ".json", json_ne_hash _ _⟩

theorem hashFilePath_ne_defaults (s : SnapshotId) :
    self.hashFilePath i s ≠ self.defaultsFilePath i ∧
      self.hashFilePath i s ≠ self.defaultsHashFilePath i := by
  simp only [hashFilePath, defaultsFilePath, defaultsHashFilePath, ne_eq, Path.mk.injEq, true_and,
    hashFileName_eq, defaultsFileName_eq, defaultsHashFileName_eq]
  exact ⟨(json_ne_hash _ _).symm, numbered_ne_default _ s ".hash"⟩

theorem defaults_ne : self.defaultsFilePath i ≠ self.defaultsHashFilePath i := by
  simp only [defaultsFilePath, defaultsHashFilePath, ne_eq, Path.mk.injEq, true_and,
    defaultsFileName_eq, defaultsHashFileName_eq]
  exact json_ne_hash _ _

theorem checkPathExtensions_defaults :
    checkPathExtensions (self.defaultsFilePath i) (self.defaultsHashFilePath i) = .ok () := by
  have hne : "kvs_" ++ i.repr ++ "_default" ≠ "" := by simp
  have hkvs : (self.defaultsFilePath i).extension = some "json" := by
    rw [defaultsFilePath, defaultsFileName_eq]
    exact extension_append _ _ ['j', 's', 'o', 'n'] hne (by decide) (by decide)
  have hhash : (self.defaultsHashFilePath i).extension = some "hash" := by
    rw [defaultsHashFilePath, defaultsHashFileName_eq]
    exact extension_append _ _ ['h', 'a', 's', 'h'] hne (by decide) (by decide)
  simp only [checkPathExtensions, hkvs, hhash, ne_eq, not_true_eq_false, ↓reduceIte]

end JsonBackend

def hashOf (c : Crates) (text : String) : Bytes := BigEndian.toBytes (c.adler32 (utf8 text))

/-- What `load` makes of a text with a matching hash. -/
def decodeText (c : Crates) (text : String) : Except ErrorCode KvsMap :=
  match c.parse text with
  | none => .error .jsonParserError
  | some jsonValue =>
    match kvsValueFrom jsonValue with
    | .object keys vals => .ok ⟨keys, vals⟩
    | _ => .error .jsonParserError

/-- The slots of the instance hold exactly the listed texts, the latest in slot `0`, each with its
hash. -/
structure Slots (c : Crates) (backend : JsonBackend) (i : InstanceId) (texts : List String)
    (disk : Fs) : Prop where
  kvs : ∀ s, disk (backend.kvsFilePath i s) = texts[s]?.map utf8
  hash : ∀ s, disk (backend.hashFilePath i s) = texts[s]?.map (hashOf c)

section Load

variable {c : Crates} {disk : Fs}

theorem load_congr (hp : disk p = disk' p) (hq : disk q = disk' q) :
    JsonBackend.load c p q disk = JsonBackend.load c p q disk' := by
  simp only [JsonBackend.load, fsReadToString, fsRead, hp, hq]

theorem loadKvs_congr {backend : JsonBackend}
    (hkvs : ∀ s, disk (backend.kvsFilePath i s) = disk' (backend.kvsFilePath i s))
    (hhash : ∀ s, disk (backend.hashFilePath i s) = disk' (backend.hashFilePath i s))
    (s : SnapshotId) : backend.loadKvs c i s disk = backend.loadKvs c i s disk' :=
  load_congr (hkvs s) (hhash s)

theorem snapshotCount_congr {backend : JsonBackend}
    (hkvs : ∀ s, disk (backend.kvsFilePath i s) = disk' (backend.kvsFilePath i s)) :
    backend.snapshotCount i disk = backend.snapshotCount i disk' := by
  have hcount (n idx : Nat) :
      backend.countFrom i disk idx n = backend.countFrom i disk' idx n := by
    induction n generalizing idx with
    | zero => rfl
    | succ n ih => simp only [JsonBackend.countFrom, hkvs, ih]
  exact hcount _ _

theorem snapshotRestore_congr {backend : JsonBackend}
    (hkvs : ∀ s, disk (backend.kvsFilePath i s) = disk' (backend.kvsFilePath i s))
    (hhash : ∀ s, disk (backend.hashFilePath i s) = disk' (backend.hashFilePath i s))
    (s : SnapshotId) :
    backend.snapshotRestore c i s disk = backend.snapshotRestore c i s disk' := by
  rw [JsonBackend.snapshotRestore, JsonBackend.snapshotRestore, snapshotCount_congr hkvs,
    loadKvs_congr hkvs hhash]

theorem fsReadToString_text (hp : disk p = some (utf8 text)) :
    fsReadToString disk p = .ok text := by
  simp only [fsReadToString, fsRead, hp, bind, Except.bind, ofUtf8_utf8]

theorem load_hashed (hext : JsonBackend.checkPathExtensions p q = .ok ())
    (hp : disk p = some (utf8 text)) (hq : disk q = some (hashOf c text')) :
    JsonBackend.load c p q disk =
      if c.adler32 (utf8 text) ≠ c.adler32 (utf8 text') then .error .validationFailed
      else decodeText c text := by
  have hhash : fsRead disk q = .ok (hashOf c text') := by simp only [fsRead, hq]
  simp only [JsonBackend.load, hext, fsReadToString_text hp, hhash, bind, Except.bind, hashOf,
    BigEndian.toBytes, BigEndian.ofBytes_toBytes]
  rfl

theorem load_pair (hext : JsonBackend.checkPathExtensions p q = .ok ())
    (hp : disk p = some (utf8 text)) (hq : disk q = some (hashOf c text)) :
    JsonBackend.load c p q disk = decodeText c text := by
  rw [load_hashed hext hp hq, if_neg (not_not.2 rfl)]

theorem load_mismatch (hext : JsonBackend.checkPathExtensions p q = .ok ())
    (hp : disk p = some (utf8 text)) (hq : disk q = some h) (hne : h ≠ hashOf c text) :
    JsonBackend.load c p q disk = .error .validationFailed := by
  have hread : fsRead disk q = .ok h := by simp only [fsRead, hq]
  simp only [JsonBackend.load, hext, fsReadToString_text hp, hread, bind, Except.bind]
  split
  · rename_i b₀ b₁ b₂ b₃
    rw [if_pos]
    intro heq
    apply hne
    rw [hashOf, heq, BigEndian.toBytes_ofBytes]
  · rfl

theorem load_unhashed (hext : JsonBackend.checkPathExtensions p q = .ok ())
    (hp : disk p = some (utf8 text)) (hq : disk q = none) :
    JsonBackend.load c p q disk = .error .fileNotFound := by
  simp only [JsonBackend.load, hext, fsReadToString_text hp, fsRead, hq, bind, Except.bind,
    ErrorCode.ofIo]

theorem load_missing (hext : JsonBackend.checkPathExtensions p q = .ok ()) (hp : disk p = none) :
    JsonBackend.load c p q disk = .error .fileNotFound := by
  simp only [JsonBackend.load, hext, fsReadToString, fsRead, hp, bind, Except.bind,
    ErrorCode.ofIo]

end Load

namespace Slots

variable {c : Crates} {backend : JsonBackend} {i : InstanceId} {texts : List String} {disk : Fs}

theorem loadKvs_some (h : Slots c backend i texts disk) (ht : texts[s]? = some t) :
    backend.loadKvs c i s disk = decodeText c t := by
  apply load_pair (backend.checkPathExtensions_slot i s)
  · rw [h.kvs, ht, Option.map_some]
  · rw [h.hash, ht, Option.map_some]

theorem loadKvs_none (h : Slots c backend i texts disk) (ht : texts[s]? = none) :
    backend.loadKvs c i s disk = .error .fileNotFound := by
  apply load_missing (backend.checkPathExtensions_slot i s)
  rw [h.kvs, ht, Option.map_none]

theorem kvs_isSome (h : Slots c backend i texts disk) (s : SnapshotId) :
    (disk (backend.kvsFilePath i s)).isSome = decide (s < texts.length) := by
  rw [h.kvs, Option.isSome_map, Bool.eq_iff_iff, isSome_getElem?, decide_eq_true_iff]

theorem hash_isSome (h : Slots c backend i texts disk) (s : SnapshotId) :
    (disk (backend.hashFilePath i s)).isSome = decide (s < texts.length) := by
  rw [h.hash, Option.isSome_map, Bool.eq_iff_iff, isSome_getElem?, decide_eq_true_iff]

theorem congr (h : Slots c backend i texts disk)
    (hkvs : ∀ s, disk' (backend.kvsFilePath i s) = disk (backend.kvsFilePath i s))
    (hhash : ∀ s, disk' (backend.hashFilePath i s) = disk (backend.hashFilePath i s)) :
    Slots c backend i texts disk' :=
  ⟨fun s => (hkvs s).trans (h.kvs s), fun s => (hhash s).trans (h.hash s)⟩

theorem countFrom_eq (h : Slots c backend i texts disk) (n idx : Nat) :
    backend.countFrom i disk idx n = min n (texts.length - idx) := by
  induction n generalizing idx with
  | zero => simp only [JsonBackend.countFrom, Nat.zero_min]
  | succ n ih =>
    simp only [JsonBackend.countFrom, h.kvs_isSome, decide_eq_true_eq, ih]
    by_cases hlt : idx < texts.length
    · rw [if_pos hlt]
      omega
    · rw [if_neg hlt]
      omega

theorem snapshotCount_eq (h : Slots c backend i texts disk) :
    backend.snapshotCount i disk = min backend.snapshotMaxCount texts.length := by
  rw [JsonBackend.snapshotCount, h.countFrom_eq, Nat.sub_zero]

end Slots

section Within

open Disk.Prog

variable (c : Crates) (backend : JsonBackend) (i : InstanceId)

def IsSlot (p : Path) : Prop := ∃ s, p = backend.kvsFilePath i s ∨ p = backend.hashFilePath i s

theorem fsRename_within (hsrc : S src) (hdst : S dst) : Within S (fsRename src dst) := by
  rw [fsRename]
  apply Within.bind (within_rename hsrc hdst)
  intro renamed
  cases renamed with
  | false => exact within_throw _
  | true => exact within_pure _

theorem rotateFrom_within (n : Nat) : Within (IsSlot backend i) (backend.rotateFrom i n) := by
  induction n with
  | zero => exact within_pure _
  | succ n ih =>
    have hkvs (s : SnapshotId) : IsSlot backend i (backend.kvsFilePath i s) := ⟨s, .inl rfl⟩
    have hhash (s : SnapshotId) : IsSlot backend i (backend.hashFilePath i s) := ⟨s, .inr rfl⟩
    rw [JsonBackend.rotateFrom]
    refine Within.bind (within_exists _) fun snapOldExists => ?_
    refine Within.bind (within_exists _) fun hashOldExists => ?_
    split
    · exact ih
    · split
      · exact within_throw _
      · refine Within.bind (fsRename_within (hhash n) (hhash (n + 1))) fun _ => ?_
        refine Within.bind (fsRename_within (hkvs n) (hkvs (n + 1))) fun _ => ?_
        exact ih

theorem save_within (m : KvsMap) (hp : S p) (hq : S q) :
    Within S (JsonBackend.save c m p q) := by
  rw [JsonBackend.save]
  refine Within.bind (within_query _) fun _ => ?_
  dsimp only
  split
  · exact within_throw _
  · exact Within.bind (within_write hp _) fun _ => within_write hq _

/-- On any disk, a flush touches files of the slots of its instance only. -/
theorem flush_within (m : KvsMap) : Within (IsSlot backend i) (backend.flush c i m) := by
  rw [JsonBackend.flush]
  exact Within.bind (rotateFrom_within backend i _) fun _ =>
    save_within c m ⟨0, .inl rfl⟩ ⟨0, .inr rfl⟩

theorem defaults_not_slot : ¬ IsSlot backend i (backend.defaultsFilePath i) := by
  rintro ⟨s, hs | hs⟩
  · exact (backend.kvsFilePath_ne_defaults i s).1 hs.symm
  · exact (backend.hashFilePath_ne_defaults i s).1 hs.symm

theorem defaultsHash_not_slot : ¬ IsSlot backend i (backend.defaultsHashFilePath i) := by
  rintro ⟨s, hs | hs⟩
  · exact (backend.kvsFilePath_ne_defaults i s).2 hs.symm
  · exact (backend.hashFilePath_ne_defaults i s).2 hs.symm

theorem flush_loadDefaults (m : KvsMap) (disk : Fs) :
    backend.loadDefaults c i ((backend.flush c i m).run disk).2 =
      backend.loadDefaults c i disk := by
  have hwithin := flush_within c backend i m
  apply load_congr
  · exact hwithin.run_frame (defaults_not_slot backend i) disk
  · exact hwithin.run_frame (defaultsHash_not_slot backend i) disk

end Within

section Rotate

variable (backend : JsonBackend) (i : InstanceId)

abbrev renames (n : Nat) : List (Disk.Step Path Bytes) :=
  Disk.shiftUp (backend.hashFilePath i) (backend.kvsFilePath i) n

theorem renames_kvs (n : Nat) (disk : Fs) :
    Disk.replay disk (renames backend i (n + 1)) (backend.kvsFilePath i 0) = none := by
  rw [(Disk.replay_shiftUp (backend.families i) _ _ _).2]
  exact (if_neg (by simp)).trans (if_pos rfl)

theorem fsRename_present (h : (disk src).isSome = true) :
    fsRename src dst disk = (.ok (), [.rename src dst]) := by
  rw [fsRename, Disk.Prog.bind_ok (Disk.Prog.rename_present h)]
  rfl

variable {disk : Fs}

abbrev renameSlot (n : Nat) : List (Disk.Step Path Bytes) :=
  [.rename (backend.hashFilePath i n) (backend.hashFilePath i (n + 1)),
    .rename (backend.kvsFilePath i n) (backend.kvsFilePath i (n + 1))]

theorem renameSlot_frame (disk : Fs) (hs : s < n) :
    Disk.replay disk (renameSlot backend i n) (backend.kvsFilePath i s) =
        disk (backend.kvsFilePath i s) ∧
      Disk.replay disk (renameSlot backend i n) (backend.hashFilePath i s) =
        disk (backend.hashFilePath i s) := by
  have hf := backend.families i
  simp only [renameSlot, Disk.replay_cons, Disk.replay_nil, Disk.apply_rename,
    hf.inj_left.eq_iff, hf.inj_right.eq_iff, hf.disjoint, hf.symm.disjoint,
    Nat.ne_of_lt hs, Nat.ne_of_lt (Nat.lt_succ_of_lt hs), ↓reduceIte, and_self]

theorem rotateFrom_pair (hs : (disk (backend.kvsFilePath i n)).isSome = true)
    (hh : (disk (backend.hashFilePath i n)).isSome = true)
    (hrest : backend.rotateFrom i n (Disk.replay disk (renameSlot backend i n)) = (r, js)) :
    backend.rotateFrom i (n + 1) disk = (r, renameSlot backend i n ++ js) := by
  have hf := backend.families i
  have hs' : (Disk.replay disk [.rename (backend.hashFilePath i n)
      (backend.hashFilePath i (n + 1))] (backend.kvsFilePath i n)).isSome = true := by
    rw [Disk.replay_cons, Disk.replay_nil, Disk.apply_rename, if_neg (hf.disjoint _ _).symm,
      if_neg (hf.disjoint _ _).symm, hs]
  simp only [JsonBackend.rotateFrom, Disk.Prog.exists]
  rw [Disk.Prog.bind_query (a := true) (by rw [hs]),
    Disk.Prog.bind_query (a := true) (by rw [hh])]
  simp only [Bool.not_true, Bool.and_self, Bool.or_self, Bool.false_eq_true, ↓reduceIte]
  rw [Disk.Prog.bind_ok (fsRename_present hh), Disk.Prog.bind_ok (fsRename_present hs'),
    ← Disk.replay_append, List.singleton_append, hrest]
  rfl

theorem rotateFrom_absent (hs : disk (backend.kvsFilePath i n) = none)
    (hh : disk (backend.hashFilePath i n) = none) :
    backend.rotateFrom i (n + 1) disk = backend.rotateFrom i n disk := by
  simp only [JsonBackend.rotateFrom, Disk.Prog.exists]
  rw [Disk.Prog.bind_query (a := false) (by rw [hs]; rfl),
    Disk.Prog.bind_query (a := false) (by rw [hh]; rfl)]
  rfl

theorem rotateFrom_apply (n k : Nat)
    (hs : ∀ s < n, (disk (backend.kvsFilePath i s)).isSome = decide (s < k))
    (hh : ∀ s < n, (disk (backend.hashFilePath i s)).isSome = decide (s < k)) :
    backend.rotateFrom i n disk = (.ok (), renames backend i (min k n)) := by
  induction n generalizing disk with
  | zero => rw [Nat.min_zero]; rfl
  | succ n ih =>
    have hsn := hs n (Nat.lt_succ_self n)
    have hhn := hh n (Nat.lt_succ_self n)
    by_cases hk : n < k
    · rw [decide_eq_true hk] at hsn hhn
      have hrest := @ih (Disk.replay disk (renameSlot backend i n))
        (fun s hl => by rw [(renameSlot_frame backend i disk hl).1, hs s (Nat.lt_succ_of_lt hl)])
        (fun s hl => by rw [(renameSlot_frame backend i disk hl).2, hh s (Nat.lt_succ_of_lt hl)])
      rw [rotateFrom_pair backend i hsn hhn hrest, Nat.min_eq_right (Nat.le_of_lt hk),
        Nat.min_eq_right hk]
      rfl
    · rw [decide_eq_false hk, Option.isSome_eq_false_iff, Option.isNone_iff_eq_none] at hsn hhn
      rw [rotateFrom_absent backend i hsn hhn,
        ih (fun s hl => hs s (Nat.lt_succ_of_lt hl)) fun s hl => hh s (Nat.lt_succ_of_lt hl),
        Nat.min_eq_left (Nat.not_lt.1 hk), Nat.min_eq_left (Nat.le_succ_of_le (Nat.not_lt.1 hk))]

end Rotate

section Flush

variable {c : Crates} {backend : JsonBackend} {i : InstanceId} {texts : List String} {disk : Fs}

theorem Slots.snapshotRotate_eq (h : Slots c backend i texts disk) :
    backend.snapshotRotate i disk =
      (.ok (), renames backend i (min texts.length (backend.snapshotMaxCount - 1))) :=
  rotateFrom_apply backend i _ _ (fun s _ => h.kvs_isSome s) fun s _ => h.hash_isSome s

def saveSteps (c : Crates) (p q : Path) (text : String) : List (Disk.Step Path Bytes) :=
  [.write p (utf8 text), .write q (hashOf c text)]

theorem save_ok (hext : JsonBackend.checkPathExtensions p q = .ok ())
    (ht : c.stringify (jsonValueFrom (.ofMap m)) = some text) :
    JsonBackend.save c m p q disk = (.ok (), saveSteps c p q text) := by
  rw [JsonBackend.save, Disk.Prog.bind_query hext]
  simp only [ht]
  rfl

theorem save_refused (hext : JsonBackend.checkPathExtensions p q = .ok ())
    (ht : c.stringify (jsonValueFrom (.ofMap m)) = none) :
    JsonBackend.save c m p q disk = (.error .jsonGeneratorError, []) := by
  rw [JsonBackend.save, Disk.Prog.bind_query hext]
  simp only [ht]
  rfl

theorem paths_ne (hext : JsonBackend.checkPathExtensions p q = .ok ()) : p ≠ q := by
  rintro rfl
  simp only [JsonBackend.checkPathExtensions] at hext
  split at hext
  · cases hext
  · rename_i hp
    rw [not_not] at hp
    rw [hp] at hext
    cases hext

theorem load_saved (hext : JsonBackend.checkPathExtensions p q = .ok ()) :
    JsonBackend.load c p q (Disk.replay disk (saveSteps c p q text)) = decodeText c text := by
  apply load_pair hext
  · simp only [saveSteps, Disk.replay_cons, Disk.replay_nil, Disk.Step.apply,
      if_neg (paths_ne hext), ↓reduceIte]
  · simp only [saveSteps, Disk.replay_cons, Disk.replay_nil, Disk.Step.apply, ↓reduceIte]

abbrev slotSteps (c : Crates) (backend : JsonBackend) (i : InstanceId) (text : String) :
    List (Disk.Step Path Bytes) :=
  saveSteps c (backend.kvsFilePath i 0) (backend.hashFilePath i 0) text

/-- A flush that succeeds renames the slots and then writes slot `0`. -/
theorem Slots.flush_ok (h : Slots c backend i texts disk)
    (ht : c.stringify (jsonValueFrom (.ofMap m)) = some text) :
    backend.flush c i m disk =
      (.ok (), renames backend i (min texts.length (backend.snapshotMaxCount - 1)) ++
        slotSteps c backend i text) := by
  rw [JsonBackend.flush, Disk.Prog.bind_ok h.snapshotRotate_eq,
    save_ok (backend.checkPathExtensions_slot i 0) ht]

/-- A flush of a map that cannot be written has renamed the slots when it fails. -/
theorem Slots.flush_refused (h : Slots c backend i texts disk)
    (ht : c.stringify (jsonValueFrom (.ofMap m)) = none) :
    backend.flush c i m disk =
      (.error .jsonGeneratorError,
        renames backend i (min texts.length (backend.snapshotMaxCount - 1))) := by
  rw [JsonBackend.flush, Disk.Prog.bind_ok h.snapshotRotate_eq,
    save_refused (backend.checkPathExtensions_slot i 0) ht, List.append_nil]

theorem Slots.rotated (h : Slots c backend i texts disk) (n : Nat) (text : String) :
    Slots c backend i (text :: texts.eraseIdx n)
      (Disk.replay disk (renames backend i n ++ slotSteps c backend i text)) := by
  have hd : Disk.Holds (backend.hashFilePath i) (backend.kvsFilePath i) (hashOf c) utf8 texts
      disk := ⟨h.hash, h.kvs⟩
  obtain ⟨hhash, hkvs⟩ := hd.rotate (backend.families i) n text
  exact ⟨hkvs, hhash⟩

theorem Slots.flushed (h : Slots c backend i texts disk)
    (hlen : texts.length ≤ backend.snapshotMaxCount) (hmax : 0 < backend.snapshotMaxCount)
    (text : String) :
    Slots c backend i ((text :: texts).take backend.snapshotMaxCount)
      (Disk.replay disk (renames backend i (min texts.length (backend.snapshotMaxCount - 1)) ++
        slotSteps c backend i text)) := by
  have hl : texts.length ≤ min texts.length (backend.snapshotMaxCount - 1) + 1 := by omega
  have htake : (text :: texts).take backend.snapshotMaxCount =
      (text :: texts).take (min texts.length (backend.snapshotMaxCount - 1) + 1) := by
    rw [List.take_eq_take_iff, List.length_cons]
    omega
  rw [htake, ← Disk.cons_eraseIdx text hl]
  exact h.rotated _ text

end Flush

end Persistency.Rust
