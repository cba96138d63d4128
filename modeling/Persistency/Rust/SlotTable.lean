import Persistency.Library.Adler32
import Persistency.Rust.StuckFlush

namespace Persistency.Rust
set_option autoImplicit true

structure Cell where
  data : Bytes
  hash : Bytes

def Cell.ofText (c : Crates) (text : String) : Cell := ⟨utf8 text, hashOf c text⟩

/-- The pair is a text with its hash that loads as the map, or it is no text with its hash. -/
def Cell.Stores (c : Crates) (cell : Cell) : Option KvsMap → Prop
  | some m => ∃ text, cell = .ofText c text ∧ decodeText c text = .ok m
  | none => ∀ text, cell ≠ .ofText c text

section Load

variable {c : Crates} {disk : Fs} {cell : Cell}

theorem load_damaged (hext : JsonBackend.checkPathExtensions p q = .ok ())
    (hp : disk p = some cell.data) (hq : disk q = some cell.hash) (h : cell.Stores c none) :
    ∃ e, JsonBackend.load c p q disk = .error e ∧ e ≠ .fileNotFound := by
  cases htext : ofUtf8? cell.data with
  | none =>
    refine ⟨.unmappedError, ?_, fun h => by cases h⟩
    simp only [JsonBackend.load, hext, fsReadToString, fsRead, hp, htext, bind, Except.bind,
      ErrorCode.ofIo]
  | some text =>
    have hdata := utf8_of_ofUtf8 htext
    have hne : cell.hash ≠ hashOf c text := by
      intro hhash
      exact h text (by rw [Cell.ofText, ← hdata, ← hhash])
    exact ⟨.validationFailed, load_mismatch hext (hdata ▸ hp) hq hne,
      fun h => by cases h⟩

end Load

open Adler32 in
/-- One byte, or two that are not too far apart, of the second are not those of the first. -/
structure Garbled (d d' : Bytes) : Prop where
  length : d.length = d'.length
  positions : (∃ p, differing d d' = {p}) ∨
    ∃ p q, p < q ∧ q - p < Adler32.base ∧ differing d d' = {p, q}

theorem Garbled.checksum_ne (h : Garbled d d') : Adler32.checksum d ≠ Adler32.checksum d' := by
  obtain ⟨hlen, ⟨p, hp⟩ | ⟨p, q, hpq, hnear, hp⟩⟩ := h
  · exact Adler32.checksum_ne_of_one hlen hp
  · exact Adler32.checksum_ne_of_two hlen hpq hnear hp

section Damage

variable {c : Crates}

theorem Cell.damaged_data (hadler : c.adler32 = Adler32.checksum) (h : Garbled (utf8 text) d) :
    Cell.Stores c { Cell.ofText c text with data := d } none := by
  intro text' he
  simp only [ofText, mk.injEq, hashOf] at he
  obtain ⟨rfl, hhash⟩ := he
  have hsum := BigEndian.toBytes_injective hhash
  rw [hadler] at hsum
  exact h.checksum_ne hsum

theorem Cell.damaged_hash (h : d ≠ hashOf c text) :
    Cell.Stores c { Cell.ofText c text with hash := d } none := by
  intro text' he
  simp only [ofText, mk.injEq] at he
  obtain ⟨hdata, rfl⟩ := he
  rw [utf8_injective hdata] at h
  exact h rfl

end Damage

section Rotate

variable (backend : JsonBackend) (i : InstanceId) {disk : Fs}

theorem apply_rename_absent {disk : Fs} (h : disk src = none) (dst : Path) :
    Disk.Step.apply disk (.rename src dst) = disk := by
  rw [Disk.Step.apply, h]
  rfl

/-- A rotation that meets no broken pair moves all slots up, where it passes over the gaps. -/
theorem rotateFrom_table (h : Unbroken backend i disk) (n : Nat) :
    ∃ js, backend.rotateFrom i n disk = (.ok (), js) ∧
      Disk.replay disk js = Disk.replay disk (renames backend i n) := by
  induction n generalizing disk with
  | zero => exact ⟨[], rfl, rfl⟩
  | succ n ih =>
    have hsplit : renames backend i (n + 1) = renameSlot backend i n ++ renames backend i n := rfl
    by_cases hc : Complete backend i disk n
    · obtain ⟨js, hjs, hreplay⟩ := ih (h.renameSlot hc)
      refine ⟨_, rotateFrom_pair backend i hc.1 hc.2 hjs, ?_⟩
      rw [hsplit, Disk.replay_append, Disk.replay_append, hreplay]
    · obtain ⟨hk, hh⟩ := absent_of_not (h n) hc
      have hslot : Disk.replay disk (renameSlot backend i n) = disk := by
        rw [Disk.replay_cons, apply_rename_absent hh, Disk.replay_cons, apply_rename_absent hk,
          Disk.replay_nil]
      rw [rotateFrom_absent backend i hk hh, hsplit, Disk.replay_append, hslot]
      exact ih h

end Rotate

section Slots

variable (c : Crates) (backend : JsonBackend) (i : InstanceId)

abbrev Cells (cells : SnapshotId → Option Cell) (disk : Fs) : Prop :=
  Disk.Table (backend.hashFilePath i) (backend.kvsFilePath i) Cell.hash Cell.data cells disk

/-- What the slots store: nothing, a map, or a damaged pair. -/
abbrev SlotTable := SnapshotId → Option (Option KvsMap)

def Stored (slots : SlotTable) (disk : Fs) : Prop :=
  ∃ cells, Cells backend i cells disk ∧ ∀ s, Option.Rel (Cell.Stores c) (cells s) (slots s)

variable {c backend i} {slots : SlotTable} {disk : Fs} {slot : SnapshotId}

theorem Stored.unbroken (h : Stored c backend i slots disk) : Unbroken backend i disk := by
  obtain ⟨cells, hcells, -⟩ := h
  intro s
  rw [Broken, hcells.left, hcells.right, Option.isSome_map, Option.isSome_map, not_not]

theorem Stored.kvs_isSome (h : Stored c backend i slots disk) (s : SnapshotId) :
    (disk (backend.kvsFilePath i s)).isSome = (slots s).isSome := by
  obtain ⟨cells, hcells, hall⟩ := h
  have hs := hall s
  rw [hcells.right, Option.isSome_map]
  generalize cells s = x at hs
  generalize slots s = y at hs
  cases hs with
  | some _ => rfl
  | none => rfl

theorem Stored.loadKvs_none (h : Stored c backend i slots disk) (hs : slots slot = none) :
    backend.loadKvs c i slot disk = .error .fileNotFound := by
  apply load_missing (backend.checkPathExtensions_slot i slot)
  have hsome := h.kvs_isSome slot
  rw [hs] at hsome
  simpa using hsome

theorem Stored.exists_cell (h : Stored c backend i slots disk) (hs : slots slot = some m) :
    ∃ (cells : SnapshotId → Option Cell) (cell : Cell), Cells backend i cells disk ∧
      (∀ s, Option.Rel (Cell.Stores c) (cells s) (slots s)) ∧ cells slot = some cell ∧
      cell.Stores c m := by
  obtain ⟨cells, hcells, hall⟩ := h
  have hrel := hall slot
  rw [hs] at hrel
  generalize hcell : cells slot = x at hrel
  cases hrel with
  | some hstores => exact ⟨cells, _, hcells, hall, hcell, hstores⟩

theorem Stored.loadKvs_some (h : Stored c backend i slots disk) (hs : slots slot = some (some m)) :
    backend.loadKvs c i slot disk = .ok m := by
  obtain ⟨cells, cell, hcells, -, hcell, text, rfl, hd⟩ := h.exists_cell hs
  rw [← hd]
  apply load_pair (backend.checkPathExtensions_slot i slot)
  · rw [hcells.right, hcell, Option.map_some, Cell.ofText]
  · rw [hcells.left, hcell, Option.map_some, Cell.ofText]

theorem Stored.loadKvs_damaged (h : Stored c backend i slots disk) (hs : slots slot = some none) :
    ∃ e, backend.loadKvs c i slot disk = .error e ∧ e ≠ .fileNotFound := by
  obtain ⟨cells, cell, hcells, -, hcell, hstores⟩ := h.exists_cell hs
  apply load_damaged (backend.checkPathExtensions_slot i slot) _ _ hstores
  · rw [hcells.right, hcell, Option.map_some]
  · rw [hcells.left, hcell, Option.map_some]

theorem Stored.loadKvs_toOption (h : Stored c backend i slots disk) (slot : SnapshotId) :
    (backend.loadKvs c i slot disk).toOption = (slots slot).join := by
  cases hs : slots slot with
  | none =>
    rw [h.loadKvs_none hs]
    rfl
  | some m =>
    cases m with
    | none =>
      obtain ⟨e, he, -⟩ := h.loadKvs_damaged hs
      rw [he]
      rfl
    | some m =>
      rw [h.loadKvs_some hs]
      rfl

theorem Stored.exists_text (h : Stored c backend i slots disk)
    (hload : backend.loadKvs c i slot disk = .ok m) :
    ∃ (cells : SnapshotId → Option Cell) (text : String), Cells backend i cells disk ∧
      (∀ s, Option.Rel (Cell.Stores c) (cells s) (slots s)) ∧
      cells slot = some (.ofText c text) := by
  have hjoin := h.loadKvs_toOption slot
  rw [hload] at hjoin
  obtain ⟨cells, cell, hcells, hall, hcell, text, rfl, -⟩ :=
    h.exists_cell (Option.join_eq_some_iff.1 hjoin.symm)
  exact ⟨cells, text, hcells, hall, hcell⟩

/-- The number of slots up to the first gap. -/
def SlotTable.count (slots : SlotTable) (max : Nat) : Nat :=
  ((List.range max).takeWhile fun s => (slots s).isSome).length

theorem Stored.countFrom_eq (h : Stored c backend i slots disk) (n idx : Nat) :
    backend.countFrom i disk idx n =
      ((List.range' idx n).takeWhile fun s => (slots s).isSome).length := by
  induction n generalizing idx with
  | zero => rfl
  | succ n ih =>
    rw [JsonBackend.countFrom, h.kvs_isSome, ih, List.range'_succ, List.takeWhile_cons]
    split
    · rfl
    · rfl

theorem Stored.snapshotCount (h : Stored c backend i slots disk) :
    backend.snapshotCount i disk = slots.count backend.snapshotMaxCount := by
  rw [JsonBackend.snapshotCount, h.countFrom_eq, SlotTable.count, List.range_eq_range']

theorem Stored.snapshotRestore_toOption (h : Stored c backend i slots disk) (id : SnapshotId) :
    (backend.snapshotRestore c i id disk).toOption =
      if id = 0 ∨ slots.count backend.snapshotMaxCount < id then none else (slots id).join := by
  rw [JsonBackend.snapshotRestore, h.snapshotCount]
  by_cases h0 : id = 0
  · rw [if_pos h0, if_pos (.inl h0)]
    rfl
  · rw [if_neg h0]
    by_cases hcount : slots.count backend.snapshotMaxCount < id
    · rw [if_pos hcount, if_pos (.inr hcount)]
      rfl
    · rw [if_neg hcount, if_neg (not_or.2 ⟨h0, hcount⟩)]
      exact h.loadKvs_toOption id

theorem Stored.rotate (h : Stored c backend i slots disk) (n : Nat) :
    Stored c backend i (Disk.shifted n slots) (Disk.replay disk (renames backend i n)) := by
  obtain ⟨cells, hcells, hall⟩ := h
  exact ⟨_, hcells.shift (backend.families i) n, Disk.shifted_rel hall n⟩

theorem Stored.update {cells : SnapshotId → Option Cell}
    (hall : ∀ s, Option.Rel (Cell.Stores c) (cells s) (slots s)) {x : Option Cell}
    {y : Option (Option KvsMap)} (hxy : Option.Rel (Cell.Stores c) x y)
    (hcells : Cells backend i (Function.update cells slot x) disk) :
    Stored c backend i (Function.update slots slot y) disk := by
  refine ⟨_, hcells, ?_⟩
  intro s
  by_cases hs : s = slot
  · subst hs
    rw [Function.update_self, Function.update_self]
    exact hxy
  · rw [Function.update_of_ne hs, Function.update_of_ne hs]
    exact hall s

/-- The slots after a flush: all moved up, and the map, if it can be written, in slot `0`. -/
theorem Stored.flush (h : Stored c backend i slots disk) (hc : c.TinyJson) (m : KvsMap) :
    let r := (backend.flush c i m).run disk
    let rotated := Disk.shifted (backend.snapshotMaxCount - 1) slots
    ((KvsValue.ofMap m).Finite → r.1 = .ok () ∧
      Stored c backend i (Function.update rotated 0 (some (some (decoded m)))) r.2) ∧
    (¬ (KvsValue.ofMap m).Finite → r.1 = .error .jsonGeneratorError ∧
      Stored c backend i rotated r.2) := by
  intro r rotated
  obtain ⟨js, hjs, hreplay⟩ := rotateFrom_table backend i h.unbroken (backend.snapshotMaxCount - 1)
  have hrotated : Stored c backend i rotated (Disk.replay disk js) := by
    rw [hreplay]
    exact h.rotate _
  have hrotate : (backend.snapshotRotate i).run disk = (.ok (), Disk.replay disk js) := by
    rw [Disk.Prog.run, JsonBackend.snapshotRotate, hjs]
  have hr : r = (JsonBackend.save c m (backend.kvsFilePath i 0) (backend.hashFilePath i 0)).run
      (Disk.replay disk js) := Disk.Prog.run_bind hrotate
  have hext := backend.checkPathExtensions_slot i 0
  apply And.intro
  · intro hm
    obtain ⟨text, ht, hd⟩ := hc.text hm
    obtain ⟨cells, hcells, hall⟩ := hrotated
    have hcell : (Cell.ofText c text).Stores c (some (decoded m)) := ⟨text, rfl, hd⟩
    have hwritten := hcells.write (backend.families i) 0 (Cell.ofText c text)
    rw [hr, Disk.Prog.run, save_ok hext ht]
    exact ⟨rfl, .update hall (.some hcell) hwritten⟩
  · intro hm
    rw [hr, Disk.Prog.run, save_refused hext (hc.refused hm)]
    exact ⟨rfl, hrotated⟩

theorem Stored.deploy (h : Stored c backend i slots disk) (text : Option String) :
    Stored c backend i slots (deploy c backend i text disk) := by
  obtain ⟨cells, hcells, hall⟩ := h
  refine ⟨cells, ⟨?_, ?_⟩, hall⟩
  · intro s
    obtain ⟨h₁, h₂⟩ := backend.hashFilePath_ne_defaults i s
    rw [Rust.deploy, if_neg h₁, if_neg h₂, hcells.left]
  · intro s
    obtain ⟨h₁, h₂⟩ := backend.kvsFilePath_ne_defaults i s
    rw [Rust.deploy, if_neg h₁, if_neg h₂, hcells.right]

end Slots

end Persistency.Rust
