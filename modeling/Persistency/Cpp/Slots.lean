import Persistency.Cpp.Kvs
import Persistency.FileNames
import Persistency.TextFormat

namespace Persistency.Cpp
set_option autoImplicit true

theorem emplaceAll_ok {keys : Finset String} {conv : {k // k ∈ keys} → Except ErrorCode V}
    {vals : {k // k ∈ keys} → V} (l : List {k // k ∈ keys}) (result : FiniteMap String V)
    (hconv : ∀ k ∈ l, conv k = .ok (vals k)) (hmem : ∀ k, k ∈ l ∨ k.1 ∈ result.keys)
    (hres : ∀ k v, result.get? k = some v → (FiniteMap.mk keys vals).get? k = some v) :
    emplaceAll conv l result = .ok ⟨keys, vals⟩ := by
  induction l generalizing result with
  | nil =>
    rw [emplaceAll]
    congr 1
    apply FiniteMap.ext_get?
    intro k
    cases hk : result.get? k with
    | some v => exact (hres k v hk).symm
    | none =>
      refine (FiniteMap.get?_of_notMem _ fun hkeys => ?_).symm
      have hr := (hmem ⟨k, hkeys⟩).resolve_left List.not_mem_nil
      rw [result.mem_keys_iff, hk] at hr
      cases hr
  | cons element l ih =>
    rw [emplaceAll, hconv element List.mem_cons_self]
    apply ih
    · exact fun k hk => hconv k (List.mem_cons_of_mem element hk)
    · intro k
      rw [FiniteMap.mem_keys_iff, FiniteMap.get?_emplace]
      split
      · exact .inr rfl
      · rename_i hne
        rw [← FiniteMap.mem_keys_iff]
        refine (hmem k).imp_left fun hk => ?_
        exact (List.mem_cons.1 hk).resolve_left fun h => hne (congrArg _ h)
    · intro k v hk
      rw [FiniteMap.get?_emplace] at hk
      split at hk
      · rename_i he
        cases hk
        rw [he]
        cases hg : result.get? element.1 with
        | some w => exact hres _ _ hg
        | none => exact FiniteMap.get?_of_mem _ element.2
      · exact hres k v hk

section Converted

variable (base : Baselibs N)

theorem emplaceAll_order {keys : Finset String}
    {conv : {k // k ∈ keys} → Except ErrorCode V} {vals : {k // k ∈ keys} → V}
    (h : ∀ k, conv k = .ok (vals k)) :
    emplaceAll conv (base.order keys) .empty = .ok ⟨keys, vals⟩ := by
  apply emplaceAll_ok
  · exact fun k _ => h k
  · exact fun k => .inl (base.mem_order keys k)
  · intro k v hk
    rw [FiniteMap.get?_empty] at hk
    cases hk

theorem rootObj_eq (kvs : KvsMap) : Kvs.rootObj base kvs = .ok (kvs.mapVal (encoded base.number)) :=
  emplaceAll_order base fun k => kvsvalueToAny_eq base.number (kvs.val k)

/-- The parser undoes the writer on the objects that a flush makes. -/
structure Baselibs.Lawful : Prop where
  number : base.number.Lawful
  fromBuffer : ∀ kvs root buf, Kvs.rootObj base kvs = .ok root → base.toBuffer root = some buf →
    base.fromBuffer buf = some (.ofMap root)

variable {base : Baselibs N}

theorem parseJsonData_rootObj (hnum : base.number.Lawful) (hroot : Kvs.rootObj base kvs = .ok root)
    (hparse : base.fromBuffer data = some (.ofMap root)) : parseJsonData base data = .ok kvs := by
  cases hroot.symm.trans (rootObj_eq base kvs)
  rw [parseJsonData, hparse]
  exact emplaceAll_order base fun k => anyToKvsvalue_encoded base.number hnum (kvs.val k)

theorem buffer_ok (hb : Kvs.buffer base kvs = .ok buf) :
    ∃ root, Kvs.rootObj base kvs = .ok root ∧ base.toBuffer root = some buf := by
  rw [Kvs.buffer] at hb
  split at hb
  · cases hb
  · rename_i root hroot
    split at hb
    · cases hb
    · rename_i text ht
      cases hb
      exact ⟨root, hroot, ht⟩

theorem Baselibs.Lawful.parse_buffer (h : base.Lawful) (hb : Kvs.buffer base kvs = .ok buf) :
    parseJsonData base buf = .ok kvs := by
  obtain ⟨root, hroot, ht⟩ := buffer_ok hb
  exact parseJsonData_rootObj h.number hroot (h.fromBuffer kvs root buf hroot ht)

end Converted

def numbers : Numbers (Int ⊕ Binary64) where
  ofI32 n := .inl n.toInt
  ofU32 n := .inl n.toNat
  ofI64 n := .inl n.toInt
  ofU64 n := .inl n.toNat
  ofF64 x := .inr x
  asI32 x := x.getLeft?.bind fun z => if (Int32.ofInt z).toInt = z then some (.ofInt z) else none
  asU32 x := x.getLeft?.bind fun z =>
    if (UInt32.ofNat z.toNat).toNat = z then some (.ofNat z.toNat) else none
  asI64 x := x.getLeft?.bind fun z => if (Int64.ofInt z).toInt = z then some (.ofInt z) else none
  asU64 x := x.getLeft?.bind fun z =>
    if (UInt64.ofNat z.toNat).toNat = z then some (.ofNat z.toNat) else none
  asF64 x := x.getRight?

theorem numbers_lawful : numbers.Lawful where
  i32 n := by simp only [numbers, Sum.getLeft?_inl, Option.bind_some, Int32.ofInt_toInt, ↓reduceIte]
  u32 n := by
    simp only [numbers, Sum.getLeft?_inl, Option.bind_some, Int.toNat_natCast, UInt32.ofNat_toNat,
      ↓reduceIte]
  i64 n := by simp only [numbers, Sum.getLeft?_inl, Option.bind_some, Int64.ofInt_toInt, ↓reduceIte]
  u64 n := by
    simp only [numbers, Sum.getLeft?_inl, Option.bind_some, Int.toNat_natCast, UInt64.ofNat_toNat,
      ↓reduceIte]
  f64 x := rfl

/-- What stands before the last slash. -/
def parentPath (path : String) : String :=
  .ofList ((path.toList.reverse.dropWhile (· != '/')).drop 1).reverse

noncomputable def textBaselibs (write : Json (Int ⊕ Binary64) → String)
    (read : String → Option (Json (Int ⊕ Binary64))) : Baselibs (Int ⊕ Binary64) where
  number := numbers
  fromBuffer buf := (ofUtf8? buf).bind read
  toBuffer root := some (utf8 (write (.ofMap root)))
  order keys := keys.attach.toList
  mem_order keys k := Finset.mem_toList.2 (Finset.mem_attach keys k)
  join dir name := dir ++ "/" ++ name
  parentPath := parentPath

section TextBaselibs

variable {write : Json (Int ⊕ Binary64) → String} {read : String → Option (Json (Int ⊕ Binary64))}

theorem textBaselibs_buffer (m : KvsMap) : Kvs.buffer (textBaselibs write read) m =
    .ok (utf8 (write (.ofMap (m.mapVal (encoded numbers))))) := by
  have hroot : Kvs.rootObj (textBaselibs write read) m = .ok (m.mapVal (encoded numbers)) :=
    rootObj_eq _ m
  rw [Kvs.buffer, hroot]
  rfl

theorem textBaselibs_lawful (h : ∀ j, read (write j) = some j) :
    (textBaselibs write read).Lawful where
  number := numbers_lawful
  fromBuffer kvs root buf _ hbuf := by
    cases hbuf
    simp only [textBaselibs, ofUtf8_utf8, Option.bind_some, h]

end TextBaselibs

theorem exists_baselibs (m : KvsMap) (text : String) : ∃ write read,
    (textBaselibs write read).Lawful ∧
      (∀ kvs, ∃ buf, Kvs.buffer (textBaselibs write read) kvs = .ok buf) ∧
      Kvs.buffer (textBaselibs write read) m = .ok (utf8 text) := by
  obtain ⟨write, read, hread, hwrite⟩ :=
    exists_textFormat (.ofMap (m.mapVal (encoded numbers))) text
  have hbuf : Kvs.buffer (textBaselibs write read) m = .ok (utf8 text) := by
    rw [textBaselibs_buffer, hwrite]
  exact ⟨write, read, textBaselibs_lawful hread, fun kvs => ⟨_, textBaselibs_buffer kvs⟩, hbuf⟩

def answerText : String := "\x7b\"answer\":\x7b\"t\":\"i32\",\"v\":42\x7d\x7d"

section Paths

variable (p : String)

theorem families : Disk.Families (hashFile p) (snapFile p) where
  inj_left := FileNames.numbered_injective (p ++ "_") ".hash"
  inj_right := FileNames.numbered_injective (p ++ "_") ".json"
  disjoint _ _ h := FileNames.json_ne_hash _ _ h.symm

theorem slotPrefix_zero : p ++ "_0" = p ++ "_" ++ toString 0 := by
  rw [String.append_assoc]
  rfl

theorem snapFile_zero : p ++ "_0.json" = snapFile p 0 := by
  rw [snapFile, String.append_assoc, String.append_assoc]
  rfl

theorem hashFile_zero : p ++ "_0.hash" = hashFile p 0 := by
  rw [hashFile, String.append_assoc, String.append_assoc]
  rfl

theorem parentPath_data : parentPath (snapFile "/data/kvs_1" 0) ≠ "" := by decide

end Paths

/-- The slots hold exactly the listed texts, the latest in slot `0`, each with its hash. -/
structure Slots (p : String) (texts : List Bytes) (disk : Fs) : Prop where
  snap : ∀ s, disk (snapFile p s) = texts[s]?
  hash : ∀ s, disk (hashFile p s) = texts[s]?.map getHashBytes

section OpenJson

variable {base : Baselibs N} {disk : Fs}

theorem openJson_pair (hj : disk (p ++ ".json") = some buf)
    (hh : disk (p ++ ".hash") = some (getHashBytes buf)) :
    openJson base p need disk = parseJsonData base buf := by
  simp only [openJson, hj, hh, checkHash_getHashBytes, ↓reduceIte]

theorem openJson_missing (hj : disk (p ++ ".json") = none) :
    openJson base p need disk =
      if need = .required then .error .kvsFileReadError else .ok .empty := by
  simp only [openJson, hj]

theorem openJson_congr (hj : disk' (p ++ ".json") = disk (p ++ ".json"))
    (hh : disk' (p ++ ".hash") = disk (p ++ ".hash")) :
    openJson base p need disk' = openJson base p need disk := by
  simp only [openJson, hj, hh]

theorem openJson_default (h : ∀ q, (∀ i, q ≠ snapFile p i) → (∀ i, q ≠ hashFile p i) →
      disk' q = disk q) :
    openJson base (p ++ "_default") need disk' = openJson base (p ++ "_default") need disk := by
  apply openJson_congr
  · apply h
    · exact fun i => (FileNames.numbered_ne_default _ i ".json").symm
    · exact fun i => FileNames.json_ne_hash _ _
  · apply h
    · exact fun i => (FileNames.json_ne_hash _ _).symm
    · exact fun i => (FileNames.numbered_ne_default _ i ".hash").symm

end OpenJson

section Flush

variable {base : Baselibs N} {p : String} {disk : Fs} {self : Kvs} {texts : List Bytes}

theorem rotateFrom_run (n : Nat) : (Kvs.rotateFrom p n).run disk =
    (.ok (), Disk.replay disk (Disk.shiftUp (hashFile p) (snapFile p) n)) := by
  induction n generalizing disk with
  | zero => rfl
  | succ n ih =>
    rw [Kvs.rotateFrom, Disk.Prog.run_bind (Disk.Prog.run_rename _ _ _),
      Disk.Prog.run_bind (Disk.Prog.run_rename _ _ _), ih]
    rfl

theorem rotateFrom_apply (n k : Nat)
    (hs : ∀ idx < n, (disk (snapFile p idx)).isSome = decide (idx < k))
    (hh : ∀ idx < n, (disk (hashFile p idx)).isSome = decide (idx < k)) :
    Kvs.rotateFrom p n disk = (.ok (), Disk.shiftUp (hashFile p) (snapFile p) (min k n)) := by
  have hf := families p
  induction n generalizing disk with
  | zero => rw [Nat.min_zero]; rfl
  | succ n ih =>
    have hsn := hs n (Nat.lt_succ_self n)
    have hhn := hh n (Nat.lt_succ_self n)
    rw [Kvs.rotateFrom]
    by_cases hk : n < k
    · rw [decide_eq_true hk] at hsn hhn
      have hsn' : (Disk.replay disk [.rename (hashFile p n) (hashFile p (n + 1))]
          (snapFile p n)).isSome = true := by
        rw [Disk.replay_cons, Disk.replay_nil, Disk.apply_rename, if_neg (hf.disjoint _ _).symm,
          if_neg (hf.disjoint _ _).symm, hsn]
      have hframe {q : String} (hh₀ : q ≠ hashFile p n) (hh₁ : q ≠ hashFile p (n + 1))
          (hs₀ : q ≠ snapFile p n) (hs₁ : q ≠ snapFile p (n + 1)) :
          Disk.replay (Disk.replay disk [.rename (hashFile p n) (hashFile p (n + 1))])
            [.rename (snapFile p n) (snapFile p (n + 1))] q = disk q := by
        simp only [Disk.replay_cons, Disk.replay_nil, Disk.apply_rename, hh₀, hh₁, hs₀, hs₁,
          ↓reduceIte]
      rw [Disk.Prog.bind_ok (Disk.Prog.rename_present hhn),
        Disk.Prog.bind_ok (Disk.Prog.rename_present hsn'), ih, Nat.min_eq_right (Nat.le_of_lt hk),
        Nat.min_eq_right hk]
      · rfl
      · intro idx hidx
        rw [hframe (hf.disjoint _ _).symm (hf.disjoint _ _).symm
          (fun h => absurd (hf.inj_right h) (by omega))
          (fun h => absurd (hf.inj_right h) (by omega)), hs idx (Nat.lt_succ_of_lt hidx)]
      · intro idx hidx
        rw [hframe (fun h => absurd (hf.inj_left h) (by omega))
          (fun h => absurd (hf.inj_left h) (by omega)) (hf.disjoint _ _) (hf.disjoint _ _),
          hh idx (Nat.lt_succ_of_lt hidx)]
    · rw [decide_eq_false hk, Option.isSome_eq_false_iff, Option.isNone_iff_eq_none] at hsn hhn
      have hskip {src dst : String} (h : disk src = none) :
          (Disk.Prog.rename src dst : FsM Bool) disk = (.ok false, []) := by
        simp only [Disk.Prog.rename, h, Option.isSome_none, Bool.false_eq_true, ↓reduceIte]
      rw [Disk.Prog.bind_ok (hskip hhn), Disk.replay_nil, Disk.Prog.bind_ok (hskip hsn),
        Disk.replay_nil, ih (fun s hl => hs s (Nat.lt_succ_of_lt hl))
          fun s hl => hh s (Nat.lt_succ_of_lt hl),
        Nat.min_eq_left (Nat.not_lt.1 hk), Nat.min_eq_left (Nat.le_succ_of_le (Nat.not_lt.1 hk))]
      rfl

theorem snapshotRotate_run : (Kvs.snapshotRotate true self).run disk =
    (.ok (), Disk.replay disk (Disk.shiftUp (hashFile self.filenamePrefix)
      (snapFile self.filenamePrefix) kvsMaxSnapshots)) := rotateFrom_run kvsMaxSnapshots

def slotSteps (p : String) (buf : Bytes) : List (Disk.Step String Bytes) :=
  [.write (snapFile p 0) buf, .write (hashFile p 0) (getHashBytes buf)]

theorem writeJsonData_run (hparent : base.parentPath (snapFile self.filenamePrefix 0) ≠ "") :
    (Kvs.writeJsonData base self buf).run disk =
      (.ok (), Disk.replay disk (slotSteps self.filenamePrefix buf)) := by
  rw [Kvs.writeJsonData, snapFile_zero, hashFile_zero, if_pos hparent,
    Disk.Prog.run_bind (Disk.Prog.run_write _ _ _)]
  rfl

/-- What a flush does to the files: the slots move up, and slot `0` is written. -/
def flushSteps (p : String) (buf : Bytes) : List (Disk.Step String Bytes) :=
  Disk.shiftUp (hashFile p) (snapFile p) kvsMaxSnapshots ++ slotSteps p buf

theorem collect_error (h : Kvs.collectBuffer base ownsLock self = .error e) :
    (Kvs.flush base ownsLock ownsLockRotate self).run disk = (.error e, disk) := by
  rw [Kvs.flush, Disk.Prog.run_bind_error]
  rw [Disk.Prog.run_query, h]

theorem flush_collected (h : Kvs.collectBuffer base ownsLock self = .ok buf) :
    (Kvs.flush base ownsLock ownsLockRotate self).run disk =
      (Kvs.snapshotRotate ownsLockRotate self >>= fun _ =>
        Kvs.writeJsonData base self buf).run disk := by
  have hq : (Disk.Prog.query fun _ => Kvs.collectBuffer base ownsLock self : FsM Bytes).run disk =
      (.ok buf, disk) := by
    rw [Disk.Prog.run_query, h]
  rw [Kvs.flush, Disk.Prog.run_bind hq]

theorem flush_ok (hparent : base.parentPath (snapFile self.filenamePrefix 0) ≠ "")
    (hbuf : Kvs.buffer base self.kvs = .ok buf) : (Kvs.flush base true true self).run disk =
      (.ok (), Disk.replay disk (flushSteps self.filenamePrefix buf)) := by
  have hcollect : Kvs.collectBuffer base true self = .ok buf := hbuf
  rw [flush_collected hcollect, Disk.Prog.run_bind snapshotRotate_run, writeJsonData_run hparent,
    flushSteps, Disk.replay_append]

/-- A map that cannot be written is noticed before any file is touched. -/
theorem flush_error (hbuf : Kvs.buffer base self.kvs = .error e) :
    (Kvs.flush base true true self).run disk = (.error e, disk) :=
  collect_error hbuf

theorem Slots.flushed (h : Slots p texts disk) (hlen : texts.length ≤ kvsMaxSnapshots + 1)
    (buf : Bytes) : Slots p ((buf :: texts).take (kvsMaxSnapshots + 1))
      (Disk.replay disk (flushSteps p buf)) := by
  have hd : Disk.Holds (hashFile p) (snapFile p) getHashBytes id texts disk :=
    ⟨h.hash, fun s => by rw [h.snap, Option.map_id_fun, id]⟩
  obtain ⟨hhash, hsnap⟩ := hd.rotate (families p) kvsMaxSnapshots buf
  rw [← Disk.cons_eraseIdx buf hlen]
  apply Slots.mk
  · intro s
    exact (hsnap s).trans (by rw [Option.map_id_fun, id])
  · exact hhash

theorem flushSteps_frame (hsnap : ∀ s, q ≠ snapFile p s) (hhash : ∀ s, q ≠ hashFile p s) :
    Disk.replay disk (flushSteps p buf) q = disk q := by
  rw [flushSteps, Disk.replay_append, Disk.replay_frame]
  · exact Disk.replay_shiftUp_frame disk hhash hsnap
  · intro step hstep
    simp only [slotSteps, List.mem_cons, List.not_mem_nil, or_false] at hstep
    rcases hstep with rfl | rfl
    · exact hsnap 0
    · exact hhash 0

theorem Slots.snapshotRotate_eq (h : Slots self.filenamePrefix texts disk) :
    Kvs.snapshotRotate true self disk = (.ok (), Disk.shiftUp (hashFile self.filenamePrefix)
      (snapFile self.filenamePrefix) (min texts.length kvsMaxSnapshots)) := by
  apply rotateFrom_apply
  · intro idx _
    rw [h.snap, Bool.eq_iff_iff, isSome_getElem?, decide_eq_true_iff]
  · intro idx _
    rw [h.hash, Option.isSome_map, Bool.eq_iff_iff, isSome_getElem?, decide_eq_true_iff]

theorem Slots.countFrom_eq (h : Slots p texts disk) (n idx : Nat) (hidx : idx ≤ texts.length) :
    Kvs.countFrom p disk idx n = min (idx + n) texts.length := by
  induction n generalizing idx with
  | zero => rw [Kvs.countFrom, Nat.add_zero, Nat.min_eq_left hidx]
  | succ n ih =>
    simp only [Kvs.countFrom, h.snap, isSome_getElem?]
    by_cases hlt : idx < texts.length
    · rw [if_pos hlt, ih _ hlt]
      congr 1
      omega
    · rw [if_neg hlt]
      omega

end Flush

end Persistency.Cpp
