import Persistency.Rust.Payload
import Persistency.Rust.SlottedStore

namespace Persistency.Rust.KvsTool
set_option autoImplicit true

/-- An operation prints something, or it stores a map, where it does not fail. -/
inductive Effect where
  | print (report : Option Report)
  | store (m : Option KvsMap)

/-- A map to store is flushed to the slots. -/
noncomputable def Effect.apply (max : Nat) (slots : SlotTable) :
    Effect → SlotTable × Option Report
  | .print report => (slots, report)
  | .store none => (slots, none)
  | .store (some m) =>
    let (slots, reply) := Slotted.flush max slots m
    (slots, reply.map fun _ => .nothing)

section Command

variable (c : Crates) (backend : JsonBackend)

/-- What is shown of a key: its value and its default, of which there must be one. -/
def shown (data : KvsData) (key : String) : Option Report :=
  match data.kvsMap.get? key, data.defaultsMap.get? key with
  | some value, some default => some (.key true false (some (.ok value)) (.ok default))
  | some value, none => some (.key true false (some (.ok value)) (.error .keyNotFound))
  | none, some default => some (.key false true none (.ok default))
  | none, none => none

/-- What an operation does, from the data that the process found and the slots. -/
def effect (slots : SlotTable) (args : Arguments) (data : KvsData) (operation : String) : Effect :=
  match operation with
  | "getkey" => .print (args.key.value.bind (shown data))
  | "setkey" => .store <| args.key.value.map fun key =>
    data.kvsMap.insert key (payloadValue c args.valueStr)
  | "removekey" => .store <| args.key.value.bind fun key =>
    if key ∈ data.kvsMap.keys then some (data.kvsMap.remove key) else none
  | "listkeys" => .print (some (.keys data.kvsMap.keys))
  | "reset" => .store (some .empty)
  | "createtestdata" => .store <| some <|
    testData.foldl (fun m entry => m.insert entry.1 entry.2) data.kvsMap
  | "snapshotcount" => .print (some (.count (slots.count backend.snapshotMaxCount)))
  | "snapshotmaxcount" => .print (some (.count backend.snapshotMaxCount))
  | "snapshotrestore" => .store <| args.snapshotId.value.bind fun id =>
    if id.toNat = 0 ∨ slots.count backend.snapshotMaxCount < id.toNat then none
    else (slots id.toNat).join
  | "getkvsfilename" => .print <| args.snapshotId.value.map fun id =>
    .filename (backend.kvsFilePath 0 id.toNat)
  | "gethashfilename" => .print <| args.snapshotId.value.map fun id =>
    .filename (backend.hashFilePath 0 id.toNat)
  | _ => .print none

/-- A process of the tool: it does nothing over a damaged slot `0`. -/
noncomputable def command (defaults : KvsMap) (slots : SlotTable) (args : Arguments) :
    SlotTable × Option Report :=
  if args.help then (slots, some .nothing)
  else
    match (slots 0).getD (some .empty), args.operation.value with
    | some m, some operation =>
      (effect c backend slots args ⟨m, defaults⟩ operation).apply backend.snapshotMaxCount slots
    | _, _ => (slots, none)

def process (disk : Fs) (args : Arguments) : Fs × Except ErrorCode Report :=
  let (reply, disk) := (main c args).run disk
  (disk, reply)

structure Directory (defaults : KvsMap) (slots : SlotTable) (disk : Fs) : Prop where
  stored : Stored c backend 0 slots disk
  defaults : KvsBuilder.loadDefaultsMap c ⟨0, .optional, .optional, backend⟩ disk = .ok defaults

end Command

section Matches

variable {c : Crates} {slots : SlotTable} {defaults : KvsMap} {disk : Fs}
variable {parameters : KvsParameters}

theorem flush_defaults (hid : parameters.instanceId = 0)
    (hdefaults : KvsBuilder.loadDefaultsMap c ⟨0, .optional, .optional, parameters.backend⟩ disk =
      .ok defaults) (data : KvsData) :
    KvsBuilder.loadDefaultsMap c ⟨0, .optional, .optional, parameters.backend⟩
      ((Kvs.flush parameters c data).run disk).2 = .ok defaults := by
  rw [Kvs.flush]
  split
  · exact hdefaults
  · rw [hid]
    simp only [KvsBuilder.loadDefaultsMap] at hdefaults ⊢
    rwa [flush_loadDefaults]

theorem getkey_toOption (args : Arguments) (data : KvsData) :
    (getkey args data).toOption = args.key.value.bind (shown data) := by
  unfold getkey
  cases args.key.value with
  | none => rfl
  | some key =>
    simp only [Kvs.keyExists, Kvs.isValueDefault, Kvs.getValue, Kvs.getDefaultValue, shown,
      FiniteMap.contains_eq, Option.bind_some]
    cases data.kvsMap.get? key with
    | some value => cases data.defaultsMap.get? key <;> rfl
    | none => cases data.defaultsMap.get? key <;> rfl

theorem editAndFlush_matches (h : Directory c parameters.backend defaults slots disk)
    (hc : c.TinyJson) (hid : parameters.instanceId = 0)
    {r : Except ErrorCode Unit × KvsData} {edit : Option KvsMap}
    (hedit : r.1.toOption.map (fun _ => r.2.kvsMap) = edit) :
    let p := (editAndFlush c parameters r).run disk
    let p' := (Effect.store edit).apply parameters.backend.snapshotMaxCount slots
    p.1.toOption = p'.2 ∧ Directory c parameters.backend defaults p'.1 p.2 := by
  intro p p'
  obtain ⟨result, data⟩ := r
  cases result with
  | error e =>
    obtain rfl : edit = none := hedit.symm
    exact ⟨rfl, h⟩
  | ok u =>
    obtain rfl : edit = some data.kvsMap := hedit.symm
    obtain ⟨hreply, hstored⟩ := Slotted.perform_flush (hid ▸ h.stored) hc data
    have hdefaults := flush_defaults hid h.defaults data
    rw [hid] at hstored
    have hdir := Directory.mk hstored hdefaults
    cases hrun : (Kvs.flush parameters c data).run disk with
    | mk reply disk' =>
      rw [hrun] at hreply hdir
      have hp : p = (reply.map fun _ => .nothing, disk') := by
        cases reply with
        | error e => exact Disk.Prog.run_bind_error hrun
        | ok u' => exact Disk.Prog.run_bind hrun
      have hp' : p' = ((Slotted.flush parameters.backend.snapshotMaxCount slots data.kvsMap).1,
          reply.toOption.map fun _ => .nothing) := by
        simp only [p', Effect.apply, ← hreply, Option.map_map]
        rfl
      rw [hp, hp']
      exact ⟨toOption_map _ _, hdir⟩

theorem operate_matches (parameters : KvsParameters) (hid : parameters.instanceId = 0)
    (h : Directory c parameters.backend defaults slots disk) (hc : c.TinyJson)
    (args : Arguments) (data : KvsData) (operation : String) :
    let p := (operate c parameters args data operation).run disk
    let p' := (effect c parameters.backend slots args data operation).apply
      parameters.backend.snapshotMaxCount slots
    p.1.toOption = p'.2 ∧ Directory c parameters.backend defaults p'.1 p.2 := by
  fun_cases operate c parameters args data operation with
  | case1 => exact ⟨getkey_toOption args data, h⟩
  | case2 =>
    rw [effect]
    cases hkey : args.key.value with
    | none =>
      rw [setkey, hkey]
      exact ⟨rfl, h⟩
    | some key =>
      rw [setkey_eq hkey]
      exact editAndFlush_matches h hc hid rfl
  | case3 =>
    rw [effect]
    cases hkey : args.key.value with
    | none =>
      rw [removekey, hkey]
      exact ⟨rfl, h⟩
    | some key =>
      rw [removekey, hkey]
      apply editAndFlush_matches h hc hid
      rw [Kvs.removeKey_eq, Option.bind_some]
      split
      · rfl
      · rfl
  | case4 => exact ⟨rfl, h⟩
  | case5 => exact editAndFlush_matches h hc hid rfl
  | case6 =>
    rw [effect]
    apply editAndFlush_matches h hc hid
    rw [setAll_eq]
    rfl
  | case7 =>
    rw [effect, ← h.stored.snapshotCount, ← hid]
    exact ⟨rfl, h⟩
  | case8 => exact ⟨rfl, h⟩
  | case9 =>
    rw [effect]
    cases hid' : args.snapshotId.value with
    | none =>
      simp only [snapshotrestore, Disk.Prog.run, hid']
      exact ⟨rfl, h⟩
    | some id =>
      simp only [snapshotrestore, Disk.Prog.run, hid']
      apply editAndFlush_matches h hc hid
      rw [Option.bind_some, ← h.stored.snapshotRestore_toOption, Kvs.snapshotRestore, hid]
      split
      · rename_i hok
        rw [hok]
        rfl
      · rename_i herror
        rw [herror]
        rfl
  | case10 =>
    rw [effect]
    cases hid' : args.snapshotId.value with
    | none =>
      rw [getkvsfilename, hid']
      exact ⟨rfl, h⟩
    | some id =>
      rw [getkvsfilename, hid', hid]
      exact ⟨rfl, h⟩
  | case11 =>
    rw [effect]
    cases hid' : args.snapshotId.value with
    | none =>
      rw [gethashfilename, hid']
      exact ⟨rfl, h⟩
    | some id =>
      rw [gethashfilename, hid', hid]
      exact ⟨rfl, h⟩
  | case12 =>
    rw [effect]
    · exact ⟨rfl, h⟩
    all_goals assumption

end Matches

section Process

variable {c : Crates} {directory : Flag String} {args : Arguments} {slots : SlotTable}
variable {defaults : KvsMap} {disk : Fs}

theorem Directory.openKvs (h : Directory c (backendOf directory) defaults slots disk) :
    (openKvs c directory disk).toOption = ((slots 0).getD (some .empty)).map fun m =>
      (⟨0, .optional, .optional, backendOf directory⟩, ⟨m, defaults⟩) := by
  rw [openKvs_map h.defaults, toOption_map, Slotted.loadKvsMap_stored h.stored .optional]

theorem Directory.process (h : Directory c (backendOf args.directory) defaults slots disk)
    (hc : c.TinyJson) :
    let p := process c disk args
    let p' := command c (backendOf args.directory) defaults slots args
    Directory c (backendOf args.directory) defaults p'.1 p.1 ∧ p.2.toOption = p'.2 := by
  have hopen := h.openKvs
  simp only [KvsTool.process, KvsTool.main, command]
  cases args.help with
  | true => exact ⟨h, rfl⟩
  | false =>
    simp only [Bool.false_eq_true, ↓reduceIte]
    cases hm : (slots 0).getD (some .empty) with
    | none =>
      rw [hm] at hopen
      cases hkvs : KvsTool.openKvs c args.directory disk with
      | ok kvs =>
        rw [hkvs] at hopen
        cases hopen
      | error e =>
        rw [Disk.Prog.run_bind_error (congrArg (·, disk) hkvs)]
        exact ⟨h, rfl⟩
    | some m =>
      rw [hm] at hopen
      cases hkvs : KvsTool.openKvs c args.directory disk with
      | error e =>
        rw [hkvs] at hopen
        cases hopen
      | ok kvs =>
        rw [hkvs] at hopen
        cases hopen
        rw [Disk.Prog.run_bind (congrArg (·, disk) hkvs)]
        cases args.operation.value with
        | none => exact ⟨h, rfl⟩
        | some operation =>
          have hmatches := operate_matches (builder args.directory).parameters rfl h hc args
            ⟨m, defaults⟩ operation
          exact hmatches.symm

end Process

end Persistency.Rust.KvsTool
