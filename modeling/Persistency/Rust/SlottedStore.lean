import Persistency.Rust.Refinement
import Persistency.Rust.SlotTable

namespace Persistency.Rust
set_option autoImplicit true

/-- The abstract store in full: what is in memory if the process did start, and the slots. -/
structure Slotted where
  memory : Option KvsData
  slots : SlotTable

namespace Slotted

def inMemory (max : Nat) (data : KvsData) (request : Call) : KvsData × Option Answer :=
  let (s, reply) := History.call max ⟨data.kvsMap, data.defaultsMap, []⟩ request
  (⟨s.cur, s.defaults⟩, reply)

open Classical in
/-- The slots move up before it is seen whether the map can be written. -/
noncomputable def flush (max : Nat) (slots : SlotTable) (m : KvsMap) : SlotTable × Option Answer :=
  if max = 0 then (slots, some .unit)
  else
    let rotated := Disk.shifted (max - 1) slots
    if (KvsValue.ofMap m).Finite then
      (Function.update rotated 0 (some (some (decoded m))), some .unit)
    else (rotated, none)

noncomputable def call (max : Nat) (s : Slotted) (request : Call) : Slotted × Option Answer :=
  match s.memory with
  | none => (s, none)
  | some data =>
    match request with
    | .flush =>
      let (slots, reply) := flush max s.slots data.kvsMap
      ({ s with slots }, reply)
    | .snapshotCount => (s, some (.count (s.slots.count max)))
    | .snapshotRestore id =>
      match if id = 0 ∨ s.slots.count max < id then none else (s.slots id).join with
      | some m => ({ s with memory := some { data with kvsMap := m } }, some .unit)
      | none => (s, none)
    | request =>
      let (data, reply) := inMemory max data request
      ({ s with memory := some data }, reply)

/-- A process does not start over a damaged slot `0`, and starts empty over a missing one. -/
def restart (s : Slotted) (defaults : KvsMap) : Slotted × Option Answer :=
  match (s.slots 0).getD (some .empty) with
  | some m => ({ s with memory := some ⟨m, defaults⟩ }, some .unit)
  | none => ({ s with memory := none }, none)

variable (c : Crates) (backend : JsonBackend) (i : InstanceId)

inductive Event where
  | act (action : Action c)
  | damageData (slot : SnapshotId) (contents : Bytes)
  | damageHash (slot : SnapshotId) (contents : Bytes)
  | remove (slot : SnapshotId)

def Event.step (w : World) : Event c → World × Except ErrorCode Answer
  | .act action => action.step backend i w
  | .damageData slot contents =>
    ({ w with disk := Disk.Step.apply w.disk (.write (backend.kvsFilePath i slot) contents) },
      .ok .unit)
  | .damageHash slot contents =>
    ({ w with disk := Disk.Step.apply w.disk (.write (backend.hashFilePath i slot) contents) },
      .ok .unit)
  | .remove slot =>
    ({ w with disk := fun p =>
      if p = backend.hashFilePath i slot ∨ p = backend.kvsFilePath i slot then none
      else w.disk p }, .ok .unit)

/-- A slot that loads gets one or two wrong bytes in its data, or any other hash file. -/
def Event.Occurs (w : World) : Event c → Prop
  | .act _ => True
  | .damageData slot contents => (∃ m, backend.loadKvs c i slot w.disk = .ok m) ∧
      ∃ d, w.disk (backend.kvsFilePath i slot) = some d ∧ Garbled d contents
  | .damageHash slot contents => (∃ m, backend.loadKvs c i slot w.disk = .ok m) ∧
      w.disk (backend.hashFilePath i slot) ≠ some contents
  | .remove _ => True

noncomputable def step (max : Nat) (s : Slotted) : Event c → Slotted × Option Answer
  | .act (.call request) => s.call max request
  | .act (.restart defaults) => s.restart defaults.map
  | .damageData slot _ => ({ s with slots := Function.update s.slots slot (some none) }, some .unit)
  | .damageHash slot _ => ({ s with slots := Function.update s.slots slot (some none) }, some .unit)
  | .remove slot => ({ s with slots := Function.update s.slots slot none }, some .unit)

structure Shows (w : World) (s : Slotted) : Prop where
  linked : Linked backend i w
  memory : w.handle.toOption.map (fun kvs => w.process.cells kvs.data) = s.memory
  stored : Stored c backend i s.slots w.disk

variable {c backend i} {w : World} {s : Slotted}

theorem perform_inMemory (parameters : KvsParameters) (request : Call) (hflush : request ≠ .flush)
    (hcount : request ≠ .snapshotCount) (hrestore : ∀ id, request ≠ .snapshotRestore id)
    (disk : Fs) (data : KvsData) :
    let r := request.perform c parameters disk data
    let r' := inMemory parameters.backend.snapshotMaxCount data request
    r.1.toOption = r'.2 ∧ r.2.1 = r'.1 ∧ r.2.2 = disk := by
  cases request with
  | flush => exact absurd rfl hflush
  | snapshotCount => exact absurd rfl hcount
  | snapshotRestore id => exact absurd rfl (hrestore id)
  | getValue key =>
    have hvalue := Kvs.getValue_toOption key data
    exact ⟨(toOption_map _ _).trans (congrArg _ hvalue), rfl, rfl⟩
  | getValueAs target key =>
    have hvalue := Kvs.getValueAs_toOption target key data
    exact ⟨(toOption_map _ _).trans (congrArg _ hvalue), rfl, rfl⟩
  | getDefaultValue key =>
    have hvalue := Kvs.getDefaultValue_toOption key data
    exact ⟨(toOption_map _ _).trans (congrArg _ hvalue), rfl, rfl⟩
  | isValueDefault key =>
    have hreply : ((Kvs.isValueDefault key data).map Answer.boolean).toOption =
        (inMemory parameters.backend.snapshotMaxCount data (.isValueDefault key)).2 := by
      rw [toOption_map, Kvs.isValueDefault_toOption, Option.map_map]
      rfl
    exact ⟨hreply, rfl, rfl⟩
  | resetKey key =>
    simp only [Call.perform, Call.perform.edit, Kvs.resetKey_eq, inMemory, History.call]
    split
    · exact ⟨rfl, rfl, trivial⟩
    · exact ⟨rfl, rfl, trivial⟩
  | removeKey key =>
    simp only [Call.perform, Call.perform.edit, Kvs.removeKey_eq, inMemory, History.call]
    split
    · exact ⟨rfl, rfl, trivial⟩
    · exact ⟨rfl, rfl, trivial⟩
  | _ => exact ⟨rfl, rfl, rfl⟩

theorem flush_finite {max : Nat} {m : KvsMap} (hmax : max ≠ 0) (hm : (KvsValue.ofMap m).Finite)
    (slots : SlotTable) : flush max slots m =
      (Function.update (Disk.shifted (max - 1) slots) 0 (some (some (decoded m))), some .unit) :=
  (if_neg hmax).trans (if_pos hm)

theorem flush_infinite {max : Nat} {m : KvsMap} (hmax : max ≠ 0)
    (hm : ¬ (KvsValue.ofMap m).Finite) (slots : SlotTable) :
    flush max slots m = (Disk.shifted (max - 1) slots, none) :=
  (if_neg hmax).trans (if_neg hm)

theorem perform_flush {parameters : KvsParameters} {slots : SlotTable} {disk : Fs}
    (h : Stored c parameters.backend parameters.instanceId slots disk) (hc : c.TinyJson)
    (data : KvsData) :
    let r := (Kvs.flush parameters c data).run disk
    let r' := flush parameters.backend.snapshotMaxCount slots data.kvsMap
    r.1.toOption.map (fun _ => Answer.unit) = r'.2 ∧
      Stored c parameters.backend parameters.instanceId r'.1 r.2 := by
  intro r r'
  obtain ⟨hfinite, hinfinite⟩ := h.flush hc data.kvsMap
  by_cases hmax : parameters.backend.snapshotMaxCount = 0
  · have hr : r = (.ok (), disk) := congrArg (Disk.Prog.run · disk) (if_pos hmax)
    have hr' : r' = (slots, some .unit) := if_pos hmax
    rw [hr, hr']
    exact ⟨rfl, h⟩
  · have hr : r = (parameters.backend.flush c parameters.instanceId data.kvsMap).run disk :=
      congrArg (Disk.Prog.run · disk) (if_neg hmax)
    by_cases hm : (KvsValue.ofMap data.kvsMap).Finite
    · obtain ⟨hok, hs⟩ := hfinite hm
      have hr' : r' = _ := flush_finite hmax hm slots
      rw [hr, hr', hok]
      exact ⟨rfl, hs⟩
    · obtain ⟨herror, hs⟩ := hinfinite hm
      have hr' : r' = _ := flush_infinite hmax hm slots
      rw [hr, hr', herror]
      exact ⟨rfl, hs⟩

theorem perform_matches {parameters : KvsParameters} {slots : SlotTable} {disk : Fs}
    (h : Stored c parameters.backend parameters.instanceId slots disk) (hc : c.TinyJson)
    (data : KvsData) (request : Call) :
    let r := request.perform c parameters disk data
    let r' := call parameters.backend.snapshotMaxCount ⟨some data, slots⟩ request
    r.1.toOption = r'.2 ∧ some r.2.1 = r'.1.memory ∧
      Stored c parameters.backend parameters.instanceId r'.1.slots r.2.2 := by
  intro r r'
  have hmemory := perform_inMemory (c := c) parameters request
  cases request with
  | flush =>
    obtain ⟨hreply, hslots⟩ := perform_flush h hc data
    exact ⟨(toOption_map _ _).trans hreply, rfl, hslots⟩
  | snapshotCount =>
    have hreply : r.1.toOption = some (.count (slots.count parameters.backend.snapshotMaxCount)) :=
      congrArg (some ∘ Answer.count) h.snapshotCount
    exact ⟨hreply, rfl, h⟩
  | snapshotRestore id =>
    have hload := h.snapshotRestore_toOption id
    simp only [r, r', Call.perform, Call.perform.edit, Kvs.snapshotRestore, call, ← hload]
    cases parameters.backend.snapshotRestore c parameters.instanceId id disk with
    | error e => exact ⟨rfl, rfl, h⟩
    | ok m => exact ⟨rfl, rfl, h⟩
  | _ =>
    obtain ⟨hreply, hdata, hdisk⟩ := hmemory (fun h => by cases h) (fun h => by cases h)
      (fun id h => by cases h) disk data
    exact ⟨hreply, congrArg some hdata, hdisk.symm ▸ h⟩

theorem Shows.call (h : Shows c backend i w s) (hc : c.TinyJson) (request : Call) :
    Shows c backend i (w.call c request).1 (s.call backend.snapshotMaxCount request).1 ∧
      (w.call c request).2.toOption = (s.call backend.snapshotMaxCount request).2 := by
  obtain ⟨memory, slots⟩ := s
  obtain ⟨hlinked, rfl, hstored⟩ := h
  have hcalled := hlinked.call (c := c) request
  obtain ⟨disk, process, handle⟩ := w
  cases handle with
  | error e => exact ⟨⟨hlinked, rfl, hstored⟩, rfl⟩
  | ok kvs =>
    obtain ⟨rfl, rfl⟩ := hlinked kvs rfl
    obtain ⟨hreply, hmemory, hslots⟩ := perform_matches hstored hc _ request
    have hcell := congrArg some (Process.store_cells process kvs.data
      (request.perform c kvs.parameters disk (process.cells kvs.data)).2.1)
    exact ⟨⟨hcalled, hcell.trans hmemory, hslots⟩, hreply⟩

theorem loadKvsMap_stored {slots : SlotTable} {disk : Fs} (h : Stored c backend i slots disk)
    (mode : KvsDefaults) :
    (KvsBuilder.loadKvsMap c ⟨i, mode, .optional, backend⟩ disk).toOption =
      (slots 0).getD (some .empty) := by
  simp only [KvsBuilder.loadKvsMap]
  cases hs : slots 0 with
  | none =>
    rw [h.loadKvs_none hs]
    rfl
  | some m =>
    cases m with
    | none =>
      obtain ⟨e, he, hne⟩ := h.loadKvs_damaged hs
      rw [he]
      split
      · rename_i hok
        cases hok
      · rename_i herror
        cases herror
        exact absurd rfl hne
      · rfl
    | some m =>
      rw [h.loadKvs_some hs]
      rfl

theorem Shows.restart (h : Shows c backend i w s) (hi : i < kvsMaxInstances) (d : Defaults c) :
    Shows c backend i (Action.step backend i w (.restart d)).1 (s.restart d.map).1 ∧
      (Action.step backend i w (.restart d)).2.toOption = (s.restart d.map).2 := by
  have hlinked : Linked backend i (Action.step backend i w (.restart d)).1 := .restart hi w d
  have hstored := h.stored.deploy d.text
  have hmap := loadKvsMap_stored hstored d.mode
  have hload : KvsBuilder.load ⟨i, some d.mode, some .optional, some backend⟩ c
      (deploy c backend i d.text w.disk) = _ := load_deploy d w.disk
  cases hr : KvsBuilder.loadKvsMap c ⟨i, d.mode, .optional, backend⟩
      (deploy c backend i d.text w.disk) with
  | error e =>
    rw [hr] at hmap hload
    have hbuild := KvsBuilder.build_start_error _ hi hload
    have hworld : Action.step backend i w (.restart d) =
        (⟨deploy c backend i d.text w.disk, .start, .error e⟩, .error e) := by
      rw [Action.step, World.restart, hbuild]
      rfl
    have hs : s.restart d.map = ({ s with memory := none }, none) := by
      rw [Slotted.restart, ← hmap]
      rfl
    rw [hworld] at hlinked
    rw [hworld, hs]
    exact ⟨⟨hlinked, rfl, hstored⟩, rfl⟩
  | ok m =>
    rw [hr] at hmap hload
    obtain ⟨process, hbuild, hcell⟩ := KvsBuilder.build_start _ hi hload
    have hworld : Action.step backend i w (.restart d) =
        (⟨deploy c backend i d.text w.disk, process, .ok ⟨⟨i, d.mode, .optional, backend⟩, 0⟩⟩,
          .ok .unit) := by
      rw [Action.step, World.restart, hbuild]
      rfl
    have hs : s.restart d.map = ({ s with memory := some ⟨m, d.map⟩ }, some .unit) := by
      rw [Slotted.restart, ← hmap]
      rfl
    rw [hworld] at hlinked
    rw [hworld, hs]
    exact ⟨⟨hlinked, congrArg some hcell, hstored⟩, rfl⟩

theorem Shows.step (h : Shows c backend i w s) (hc : c.TinyJson)
    (hadler : c.adler32 = Adler32.checksum) (hi : i < kvsMaxInstances) (e : Event c)
    (he : e.Occurs c backend i w) :
    Shows c backend i (e.step c backend i w).1 (s.step c backend.snapshotMaxCount e).1 ∧
      (e.step c backend i w).2.toOption = (s.step c backend.snapshotMaxCount e).2 := by
  have hfamilies := backend.families i
  cases e with
  | act action =>
    cases action with
    | call request => exact h.call hc request
    | restart defaults => exact h.restart hi defaults
  | damageData slot contents =>
    obtain ⟨⟨m, hload⟩, d, hd, hgarbled⟩ := he
    obtain ⟨cells, text, hcells, hall, hcell⟩ := h.stored.exists_text hload
    rw [hcells.right, hcell] at hd
    cases hd
    have hdamaged := Cell.damaged_data hadler hgarbled
    have hwritten := hcells.write_right (y := { Cell.ofText c text with data := contents })
      hfamilies hcell rfl
    exact ⟨⟨h.linked, h.memory, .update hall (.some hdamaged) hwritten⟩, rfl⟩
  | damageHash slot contents =>
    obtain ⟨⟨m, hload⟩, hne⟩ := he
    obtain ⟨cells, text, hcells, hall, hcell⟩ := h.stored.exists_text hload
    rw [hcells.left, hcell] at hne
    have hdamaged : Cell.Stores c { Cell.ofText c text with hash := contents } none :=
      Cell.damaged_hash fun heq => hne (congrArg some heq.symm)
    have hwritten := (hcells.symm.write_right (y := { Cell.ofText c text with hash := contents })
      hfamilies.symm hcell rfl).symm
    exact ⟨⟨h.linked, h.memory, .update hall (.some hdamaged) hwritten⟩, rfl⟩
  | remove slot =>
    obtain ⟨cells, hcells, hall⟩ := h.stored
    exact ⟨⟨h.linked, h.memory, .update hall .none (hcells.remove hfamilies slot)⟩, rfl⟩

end Slotted

end Persistency.Rust
