import Persistency.Cpp.Slots

namespace Persistency.Cpp
set_option autoImplicit true

/-- What is assumed of paths: a name joined to the empty path is the name, and a name has no
parent. -/
structure Baselibs.NativePaths (base : Baselibs N) : Prop where
  join_empty : ∀ name, base.join "" name = name
  parentPath_name : ∀ name : String, '/' ∉ name.toList → base.parentPath name = ""

section AllOrNothing

variable (base : Baselibs N) (self : Kvs) (disk : Fs)

/-- Slot `0` holds the current map with its hash, and reads back as that map. -/
structure HoldsCurrent : Prop where
  files : ∃ buf, Kvs.buffer base self.kvs = .ok buf ∧
    disk (snapFile self.filenamePrefix 0) = some buf ∧
    disk (hashFile self.filenamePrefix 0) = some (getHashBytes buf)
  reads : base.Lawful → openJson base (self.filenamePrefix ++ "_0") .required disk = .ok self.kvs

def AllOrNothing (ownsLock ownsLockRotate : Bool) : Prop :=
  let r := (Kvs.flush base ownsLock ownsLockRotate self).run disk
  (r.1 = .ok () ∧ HoldsCurrent base self r.2) ∨ (∃ e, r.1 = .error e) ∧ r.2 = disk

/-- No slot that the rotation moves has a file. -/
def NothingToRotate (filenamePrefix : String) : Prop :=
  ∀ idx < kvsMaxSnapshots,
    disk (hashFile filenamePrefix idx) = none ∧ disk (snapFile filenamePrefix idx) = none

variable {base self disk}

theorem holdsCurrent_of_written (hbuf : Kvs.buffer base self.kvs = .ok buf) :
    HoldsCurrent base self (Disk.replay disk (flushSteps self.filenamePrefix buf)) := by
  have hne := (families self.filenamePrefix).disjoint 0 0
  have hsnap : Disk.replay disk (flushSteps self.filenamePrefix buf)
      (snapFile self.filenamePrefix 0) = some buf := by
    rw [flushSteps, Disk.replay_append]
    simp only [slotSteps, Disk.replay_cons, Disk.replay_nil, Disk.Step.apply, if_neg hne.symm,
      ↓reduceIte]
  have hhash : Disk.replay disk (flushSteps self.filenamePrefix buf)
      (hashFile self.filenamePrefix 0) = some (getHashBytes buf) := by
    rw [flushSteps, Disk.replay_append]
    simp only [slotSteps, Disk.replay_cons, Disk.replay_nil, Disk.Step.apply, ↓reduceIte]
  refine ⟨⟨buf, hbuf, hsnap, hhash⟩, fun hbase => ?_⟩
  have hopen : openJson base (self.filenamePrefix ++ "_0") .required
      (Disk.replay disk (flushSteps self.filenamePrefix buf)) = parseJsonData base buf := by
    rw [slotPrefix_zero]
    exact openJson_pair hsnap hhash
  rw [hopen, hbase.parse_buffer hbuf]

theorem rotate_unlocked (h : Kvs.collectBuffer base ownsLock self = .ok buf) :
    (Kvs.flush base ownsLock false self).run disk = (.error .mutexLockFailed, disk) := by
  rw [flush_collected h, Disk.Prog.run_bind_error]
  rfl

/-- A path without a parent is noticed after the slots have been moved. -/
theorem flush_no_parent (hparent : base.parentPath (snapFile self.filenamePrefix 0) = "")
    (hbuf : Kvs.buffer base self.kvs = .ok buf) :
    (Kvs.flush base true true self).run disk =
      (.error .physicalStorageFailure, Disk.replay disk (Disk.shiftUp
        (hashFile self.filenamePrefix) (snapFile self.filenamePrefix) kvsMaxSnapshots)) := by
  have hcollect : Kvs.collectBuffer base true self = .ok buf := hbuf
  have hwrite (d : Fs) : (Kvs.writeJsonData base self buf).run d =
      (.error .physicalStorageFailure, d) := by
    rw [Kvs.writeJsonData, snapFile_zero, if_neg (not_not.2 hparent)]
    rfl
  rw [flush_collected hcollect, Disk.Prog.run_bind snapshotRotate_run, hwrite]

theorem buffer_refused (h : base.toBuffer (kvs.mapVal (encoded base.number)) = none) :
    Kvs.buffer base kvs = .error .jsonGeneratorError := by
  simp only [Kvs.buffer, rootObj_eq, h]

theorem buffer_written (h : base.toBuffer (kvs.mapVal (encoded base.number)) = some buf) :
    Kvs.buffer base kvs = .ok buf := by
  simp only [Kvs.buffer, rootObj_eq, h]

theorem allOrNothing_error (h : (Kvs.flush base ownsLock ownsLockRotate self).run disk =
    (.error e, disk)) : AllOrNothing base self disk ownsLock ownsLockRotate := by
  rw [AllOrNothing, h]
  exact .inr ⟨⟨e, rfl⟩, rfl⟩

end AllOrNothing

theorem open_filenamePrefix
    (h : Kvs.open base instanceId needDefaults needKvs dir disk = .ok opened) :
    opened.filenamePrefix = instancePrefix base dir instanceId := by
  rw [Kvs.open] at h
  split at h
  · cases h
  · split at h
    · cases h
    · cases h
      rfl

theorem allOrNothing_iff (base : Baselibs N) (self : Kvs) (disk : Fs)
    (ownsLock ownsLockRotate : Bool) :
    AllOrNothing base self disk ownsLock ownsLockRotate ↔
      base.parentPath (snapFile self.filenamePrefix 0) ≠ "" ∨ ownsLock = false ∨
        ownsLockRotate = false ∨ base.toBuffer (self.kvs.mapVal (encoded base.number)) = none ∨
        NothingToRotate disk self.filenamePrefix := by
  cases ownsLock with
  | false => exact iff_of_true (allOrNothing_error (collect_error rfl)) (.inr (.inl rfl))
  | true =>
    cases ht : base.toBuffer (self.kvs.mapVal (encoded base.number)) with
    | none =>
      have hbuf : Kvs.collectBuffer base true self = .error .jsonGeneratorError := by
        rw [Kvs.collectBuffer, if_pos rfl, buffer_refused ht]
      exact iff_of_true (allOrNothing_error (collect_error hbuf))
        (.inr (.inr (.inr (.inl rfl))))
    | some buf =>
      have hbuf := buffer_written ht
      cases ownsLockRotate with
      | false =>
        have hcollect : Kvs.collectBuffer base true self = .ok buf := hbuf
        exact iff_of_true (allOrNothing_error (rotate_unlocked hcollect))
          (.inr (.inr (.inl rfl)))
      | true =>
        by_cases hparent : base.parentPath (snapFile self.filenamePrefix 0) = ""
        · have hrotated := Disk.replay_shiftUp_eq_self_iff (families self.filenamePrefix) disk
            kvsMaxSnapshots
          rw [AllOrNothing, flush_no_parent hparent hbuf]
          simp only [reduceCtorEq, false_and, false_or, Except.error.injEq, exists_eq',
            true_and, hrotated, hparent, ne_eq, not_true_eq_false, Bool.true_eq_false]
          rfl
        · apply iff_of_true _ (.inl hparent)
          rw [AllOrNothing, flush_ok hparent hbuf]
          exact .inl ⟨rfl, holdsCurrent_of_written hbuf⟩

/-- A store that was opened in some directory, with any map in memory: a flush does all or nothing
exactly when the path has a parent, or it is noticed before the rotation that the flush must fail,
or there is nothing to rotate. -/
theorem flush_allOrNothing_iff
    (hopen : Kvs.open base instanceId needDefaults needKvs dir disk₀ = .ok opened) (kvs : KvsMap)
    (ownsLock ownsLockRotate : Bool) (disk : Fs) :
    AllOrNothing base { opened with kvs } disk ownsLock ownsLockRotate ↔
      base.parentPath (snapFile (instancePrefix base dir instanceId) 0) ≠ "" ∨
        ownsLock = false ∨ ownsLockRotate = false ∨
        base.toBuffer (kvs.mapVal (encoded base.number)) = none ∨
        NothingToRotate disk (instancePrefix base dir instanceId) := by
  rw [← open_filenamePrefix hopen]
  exact allOrNothing_iff base { opened with kvs } disk ownsLock ownsLockRotate

noncomputable def nativeBaselibs (write : Json (Int ⊕ Binary64) → String)
    (read : String → Option (Json (Int ⊕ Binary64))) : Baselibs (Int ⊕ Binary64) :=
  { textBaselibs write read with
    join := fun dir name => if dir = "" then name else dir ++ "/" ++ name }

section NativeBaselibs

variable {write : Json (Int ⊕ Binary64) → String} {read : String → Option (Json (Int ⊕ Binary64))}

theorem nativeBaselibs_paths : (nativeBaselibs write read).NativePaths where
  join_empty name := by simp only [nativeBaselibs, ↓reduceIte]
  parentPath_name name h := by
    have hdrop : name.toList.reverse.dropWhile (· != '/') = [] := by
      rw [List.dropWhile_eq_nil_iff]
      intro c hc
      rw [bne_iff_ne]
      rintro rfl
      exact h (List.mem_reverse.1 hc)
    change parentPath name = ""
    rw [parentPath, hdrop]
    rfl

theorem nativeBaselibs_lawful (h : (textBaselibs write read).Lawful) :
    (nativeBaselibs write read).Lawful where
  number := h.number
  fromBuffer := h.fromBuffer

end NativeBaselibs

theorem flush_allOrNothing_data : ∃ write read, (nativeBaselibs write read).NativePaths ∧
    (nativeBaselibs write read).Lawful ∧ AllOrNothing (nativeBaselibs write read)
      ⟨answer, .empty, "/data/kvs_1"⟩ (fun _ => none) true true := by
  obtain ⟨write, read, hbase, -, -⟩ := exists_baselibs answer answerText
  have hopen : Kvs.open (nativeBaselibs write read) 1 .optional .optional "/data" (fun _ => none) =
      .ok ⟨.empty, .empty, "/data/kvs_1"⟩ := rfl
  exact ⟨write, read, nativeBaselibs_paths, nativeBaselibs_lawful hbase,
    (flush_allOrNothing_iff hopen answer true true fun _ => none).2 (.inl parentPath_data)⟩

theorem open_current {base : Baselibs N} (hpaths : base.NativePaths)
    (hparse : parseJsonData base buf = .ok m) (hsnap : disk (snapFile "kvs_1" 0) = some buf)
    (hhash : disk (hashFile "kvs_1" 0) = some (getHashBytes buf))
    (hdefault : disk ("kvs_1" ++ "_default" ++ ".json") = none) :
    Kvs.open base 1 .optional .optional "" disk = .ok ⟨m, .empty, "kvs_1"⟩ := by
  have hprefix : instancePrefix base "" 1 = "kvs_1" := hpaths.join_empty _
  have hslot : openJson base ("kvs_1" ++ "_0") .optional disk = .ok m := by
    rw [slotPrefix_zero, ← hparse]
    exact openJson_pair hsnap hhash
  simp only [Kvs.open, hprefix, openJson_missing hdefault, hslot, reduceCtorEq, ↓reduceIte]

def currentDirectory : Fs := fun p =>
  if p = "kvs_1_0.json" then some (utf8 answerText)
  else if p = "kvs_1_0.hash" then some (getHashBytes (utf8 answerText))
  else none

theorem currentDirectory_snap : currentDirectory (snapFile "kvs_1" 0) = some (utf8 answerText) :=
  if_pos (by decide)

theorem currentDirectory_hash :
    currentDirectory (hashFile "kvs_1" 0) = some (getHashBytes (utf8 answerText)) :=
  (if_neg (by decide)).trans (if_pos (by decide))

theorem currentDirectory_default : currentDirectory ("kvs_1" ++ "_default" ++ ".json") = none :=
  (if_neg (by decide)).trans (if_neg (by decide))

/-- A store in the current directory is opened with its map, and its flush fails after slot `0`
has been moved. -/
theorem flush_moved_current : ∃ write read, (nativeBaselibs write read).NativePaths ∧
    (nativeBaselibs write read).Lawful ∧
    Kvs.open (nativeBaselibs write read) 1 .optional .optional "" currentDirectory =
      .ok ⟨answer, .empty, "kvs_1"⟩ ∧
    ((Kvs.flush (nativeBaselibs write read) true true ⟨answer, .empty, "kvs_1"⟩).run
      currentDirectory).1 = .error .physicalStorageFailure ∧
    ¬ AllOrNothing (nativeBaselibs write read) ⟨answer, .empty, "kvs_1"⟩ currentDirectory true
      true := by
  obtain ⟨write, read, htext, -, hbuf⟩ := exists_baselibs answer answerText
  have hpaths : (nativeBaselibs write read).NativePaths := nativeBaselibs_paths
  have hbase : (nativeBaselibs write read).Lawful := nativeBaselibs_lawful htext
  have hbuf' : Kvs.buffer (nativeBaselibs write read) answer = .ok (utf8 answerText) := hbuf
  have hparent : (nativeBaselibs write read).parentPath (snapFile "kvs_1" 0) = "" :=
    hpaths.parentPath_name _ (by decide)
  have hrun : (Kvs.flush (nativeBaselibs write read) true true ⟨answer, .empty, "kvs_1"⟩).run
      currentDirectory = (.error .physicalStorageFailure, _) := flush_no_parent hparent hbuf'
  refine ⟨write, read, hpaths, hbase, ?_, ?_, ?_⟩
  · exact open_current hpaths (hbase.parse_buffer hbuf') currentDirectory_snap
      currentDirectory_hash currentDirectory_default
  · rw [hrun]
  · rw [allOrNothing_iff]
    rintro (h | h | h | h | h)
    · exact h hparent
    · cases h
    · cases h
    · cases hbuf'.symm.trans (buffer_refused h)
    · have hgone := (h 0 (by decide)).2
      rw [currentDirectory_snap] at hgone
      cases hgone

end Persistency.Cpp
