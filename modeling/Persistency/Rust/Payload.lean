import Persistency.Rust.KvsTool
import Persistency.Rust.Refinement

namespace Persistency.Rust.KvsTool
set_option autoImplicit true

theorem fromTinyjson_finite (j : JsonValue) :
    (fromTinyjson j).Finite ↔ j.Numbers Binary64.IsFinite := by
  induction j with
  | array n elems ih => exact forall_congr' ih
  | object keys vals ih => exact forall_congr' ih
  | _ => rfl

theorem fromTinyjson_fits (j : JsonValue) : IntegersFit (fromTinyjson j) := by
  induction j with
  | array n elems ih => exact ih
  | object keys vals ih => exact ih
  | _ => trivial

theorem fromTinyjson_exact (h : j.Numbers Binary64.IsFinite) : JsonExact (fromTinyjson j) :=
  ⟨(fromTinyjson_finite j).2 h, fromTinyjson_fits j⟩

def FinitePayload (c : Crates) (args : Arguments) : Prop :=
  ∀ p j, args.valueStr = some p → c.parse p = some j → j.Numbers Binary64.IsFinite

/-- What `setkey` makes of a payload. -/
def payloadValue (c : Crates) : Option String → KvsValue
  | some payload =>
    match c.parse payload with
    | some jsonVal => fromTinyjson jsonVal
    | none => .string payload
  | none => .null

section PayloadValue

variable {c : Crates} {args : Arguments}

theorem payloadValue_parsed (hp : c.parse payload = some j) :
    payloadValue c (some payload) = fromTinyjson j := by
  simp only [payloadValue, hp]

theorem payloadValue_unparsed (hp : c.parse payload = none) :
    payloadValue c (some payload) = .string payload := by
  simp only [payloadValue, hp]

theorem payloadValue_exact (hargs : FinitePayload c args) :
    JsonExact (payloadValue c args.valueStr) := by
  cases hvalue : args.valueStr with
  | none => exact ⟨trivial, trivial⟩
  | some payload =>
    cases hp : c.parse payload with
    | none =>
      rw [payloadValue_unparsed hp]
      exact ⟨trivial, trivial⟩
    | some j =>
      rw [payloadValue_parsed hp]
      exact fromTinyjson_exact (hargs payload j hvalue hp)

theorem setkey_eq (hkey : args.key.value = some key) (parameters : KvsParameters)
    (data : KvsData) : setkey c parameters args data = editAndFlush c parameters
      (Kvs.setValue key (payloadValue c args.valueStr) data) := by
  rw [setkey, hkey]
  cases args.valueStr with
  | none => rfl
  | some payload =>
    simp only [payloadValue]
    cases c.parse payload with
    | some jsonVal => rfl
    | none => rfl

end PayloadValue

/-- A directory with the flushed maps that the slots hold, and the defaults beside them. -/
structure Store (c : Crates) (backend : JsonBackend) (defaults : KvsMap) (hist : List KvsMap)
    (disk : Fs) : Prop where
  keeps : Keeps c backend 0 hist disk
  exact : ∀ m ∈ hist, JsonExact (.ofMap m)
  defaults : KvsBuilder.loadDefaultsMap c ⟨0, .optional, .optional, backend⟩ disk = .ok defaults

def found (defaults : KvsMap) (hist : List KvsMap) : KvsData := ⟨hist.head?.getD .empty, defaults⟩

section Store

variable {c : Crates} {backend : JsonBackend} {defaults : KvsMap} {hist : List KvsMap} {disk : Fs}

theorem Store.found_exact (h : Store c backend defaults hist disk) :
    JsonExact (.ofMap (found defaults hist).kvsMap) := by
  cases hist with
  | nil => exact jsonExact_empty
  | cons m hist => exact h.exact m List.mem_cons_self

theorem Store.flush (h : Store c backend defaults hist disk) (hc : c.TinyJson)
    (hm : JsonExact (.ofMap m)) (hmax : 0 < backend.snapshotMaxCount) :
    ((backend.flush c 0 m).run disk).1 = .ok () ∧
      Store c backend defaults ((m :: hist).take backend.snapshotMaxCount)
        ((backend.flush c 0 m).run disk).2 := by
  obtain ⟨hok, hkeeps⟩ := h.keeps.flush hc hm hmax
  have hexact : ∀ m' ∈ (m :: hist).take backend.snapshotMaxCount, JsonExact (.ofMap m') := by
    intro m' hm'
    rcases List.mem_cons.1 (List.mem_of_mem_take hm') with rfl | hmem
    · exact hm
    · exact h.exact m' hmem
  have hdefaults := h.defaults
  simp only [KvsBuilder.loadDefaultsMap] at hdefaults
  rw [← flush_loadDefaults c backend 0 m disk] at hdefaults
  exact ⟨hok, hkeeps, hexact, hdefaults⟩

variable (parameters : KvsParameters)

theorem Store.editAndFlush (h : Store c parameters.backend defaults hist disk) (hc : c.TinyJson)
    (hid : parameters.instanceId = 0) (hmax : 0 < parameters.backend.snapshotMaxCount)
    (data : KvsData) (hm : JsonExact (.ofMap data.kvsMap)) :
    ((KvsTool.editAndFlush c parameters (.ok (), data)).run disk).1 = .ok .nothing ∧
      Store c parameters.backend defaults
        ((data.kvsMap :: hist).take parameters.backend.snapshotMaxCount)
        ((KvsTool.editAndFlush c parameters (.ok (), data)).run disk).2 := by
  obtain ⟨hok, hstore⟩ := h.flush hc hm hmax
  have hflush : (Kvs.flush parameters c data).run disk =
      (.ok (), ((parameters.backend.flush c 0 data.kvsMap).run disk).2) := by
    rw [Kvs.flush, Kvs.snapshotMaxCount, if_neg (Nat.ne_of_gt hmax), hid]
    exact Prod.ext hok rfl
  rw [KvsTool.editAndFlush, Disk.Prog.run_bind hflush]
  exact ⟨rfl, hstore⟩

theorem Store.editAndFlush_refused (h : Store c parameters.backend defaults hist disk)
    (hc : c.TinyJson) (hid : parameters.instanceId = 0)
    (hmax : 0 < parameters.backend.snapshotMaxCount) (data : KvsData)
    (hm : ¬ (KvsValue.ofMap data.kvsMap).Finite) :
    (KvsTool.editAndFlush c parameters (.ok (), data)).run disk =
      (.error .jsonGeneratorError, ((parameters.backend.flush c 0 data.kvsMap).run disk).2) := by
  have hrefused := h.keeps.flush_refused hc hm
  have hflush : (Kvs.flush parameters c data).run disk = (.error .jsonGeneratorError,
      ((parameters.backend.flush c 0 data.kvsMap).run disk).2) := by
    rw [Kvs.flush, Kvs.snapshotMaxCount, if_neg (Nat.ne_of_gt hmax), hid, hrefused]
  exact Disk.Prog.run_bind_error hflush

theorem Store.edited (h : Store c parameters.backend defaults hist disk) (hc : c.TinyJson)
    (hid : parameters.instanceId = 0) (hmax : 0 < parameters.backend.snapshotMaxCount)
    {r : Except ErrorCode Unit × KvsData} (hm : JsonExact (.ofMap r.2.kvsMap)) :
    ∃ hist', Store c parameters.backend defaults hist'
      ((KvsTool.editAndFlush c parameters r).run disk).2 := by
  obtain ⟨result, data⟩ := r
  cases result with
  | error e => exact ⟨hist, h⟩
  | ok u => exact ⟨_, (h.editAndFlush parameters hc hid hmax data hm).2⟩

theorem vec_exact (elems : List KvsValue) (h : ∀ v ∈ elems, JsonExact v) :
    JsonExact (vec elems) :=
  ⟨fun i => (h _ (List.get_mem elems i)).1, fun i => (h _ (List.get_mem elems i)).2⟩

theorem foldl_insert_exact (entries : List (String × KvsValue)) (h : ∀ e ∈ entries, JsonExact e.2)
    (hm : JsonExact (.ofMap m)) :
    JsonExact (.ofMap (entries.foldl (fun m entry => m.insert entry.1 entry.2) m)) := by
  induction entries generalizing m with
  | nil => exact hm
  | cons entry entries ih =>
    have hv := h entry List.mem_cons_self
    exact ih (fun e hmem => h e (List.mem_cons_of_mem entry hmem)) (hm.insert hv entry.1)

theorem setAll_eq (entries : List (String × KvsValue)) (data : KvsData) :
    setAll entries data = (.ok (), { data with
      kvsMap := entries.foldl (fun m entry => m.insert entry.1 entry.2) data.kvsMap }) := by
  induction entries generalizing data with
  | nil => rfl
  | cons entry entries ih => exact ih _

theorem setAll_exact (entries : List (String × KvsValue)) (he : ∀ e ∈ entries, JsonExact e.2)
    {data : KvsData} (hm : JsonExact (.ofMap data.kvsMap)) :
    JsonExact (.ofMap (setAll entries data).2.kvsMap) := by
  rw [setAll_eq]
  exact foldl_insert_exact entries he hm

theorem hashMap_exact (entries : List (String × KvsValue)) (h : ∀ e ∈ entries, JsonExact e.2) :
    JsonExact (.ofMap (hashMap entries)) :=
  foldl_insert_exact entries h jsonExact_empty

theorem ofInt_exact (n : Int) (h : n.natAbs.log2 < 1023) : JsonExact (.f64 (.ofInt n)) :=
  ⟨Binary64.ofInt_isFinite h, trivial⟩

theorem testData_exact : ∀ e ∈ testData, JsonExact e.2 := by
  have hboolean (b : Bool) : JsonExact (.boolean b) := ⟨trivial, trivial⟩
  have hstring (s : String) : JsonExact (.string s) := ⟨trivial, trivial⟩
  have hnull : JsonExact .null := ⟨trivial, trivial⟩
  have harray (n : Int) (h : n.natAbs.log2 < 1023) (s : String) :
      JsonExact (vec [.f64 (.ofInt n), .boolean false, .string s]) := by
    apply vec_exact
    simp only [List.forall_mem_cons]
    exact ⟨ofInt_exact n h, hboolean _, hstring s, by simp⟩
  have hobject : JsonExact (.ofMap (hashMap [("sub-number", .f64 (.ofInt 789)),
      ("sub-bool", .boolean true), ("sub-string", .string "Third"), ("sub-null", .null),
      ("sub-array", vec [.f64 (.ofInt 1246), .boolean false, .string "Fourth"])])) := by
    apply hashMap_exact
    simp only [List.forall_mem_cons]
    exact ⟨ofInt_exact 789 (by decide), hboolean _, hstring _, hnull, harray 1246 (by decide) _,
      by simp⟩
  simp only [testData, List.forall_mem_cons]
  exact ⟨ofInt_exact 123 (by decide), hboolean _, hstring _, hnull, harray 456 (by decide) _,
    hobject, by simp⟩

theorem Store.setkey_store (h : Store c parameters.backend defaults hist disk) (hc : c.TinyJson)
    (hid : parameters.instanceId = 0) (hmax : 0 < parameters.backend.snapshotMaxCount)
    (hargs : FinitePayload c args) :
    ∃ hist', Store c parameters.backend defaults hist'
      ((KvsTool.setkey c parameters args (found defaults hist)).run disk).2 := by
  cases hkey : args.key.value with
  | none =>
    rw [KvsTool.setkey, hkey]
    exact ⟨hist, h⟩
  | some key =>
    rw [setkey_eq hkey]
    exact h.edited parameters hc hid hmax (h.found_exact.insert (payloadValue_exact hargs) key)

theorem Store.removekey_store (h : Store c parameters.backend defaults hist disk) (hc : c.TinyJson)
    (hid : parameters.instanceId = 0) (hmax : 0 < parameters.backend.snapshotMaxCount)
    (args : Arguments) :
    ∃ hist', Store c parameters.backend defaults hist'
      ((KvsTool.removekey c parameters args (found defaults hist)).run disk).2 := by
  cases hkey : args.key.value with
  | none =>
    rw [KvsTool.removekey, hkey]
    exact ⟨hist, h⟩
  | some key =>
    rw [KvsTool.removekey, hkey]
    apply h.edited parameters hc hid hmax
    rw [Kvs.removeKey_eq]
    split
    · exact h.found_exact.remove key
    · exact h.found_exact

theorem Store.snapshotrestore_store (h : Store c parameters.backend defaults hist disk)
    (hc : c.TinyJson) (hid : parameters.instanceId = 0)
    (hmax : 0 < parameters.backend.snapshotMaxCount) (args : Arguments) :
    ∃ hist', Store c parameters.backend defaults hist'
      ((KvsTool.snapshotrestore c parameters args (found defaults hist)).run disk).2 := by
  cases hid' : args.snapshotId.value with
  | none =>
    have hrun : (KvsTool.snapshotrestore c parameters args (found defaults hist)).run disk =
        (.error .unmappedError, disk) := by
      simp only [Disk.Prog.run, KvsTool.snapshotrestore, hid']
      rfl
    rw [hrun]
    exact ⟨hist, h⟩
  | some id =>
    have hrun : (KvsTool.snapshotrestore c parameters args (found defaults hist)).run disk =
        (KvsTool.editAndFlush c parameters (Kvs.snapshotRestore parameters c id.toNat disk
          (found defaults hist))).run disk := by
      simp only [Disk.Prog.run, KvsTool.snapshotrestore, hid']
    rw [hrun]
    apply h.edited parameters hc hid hmax
    rw [Kvs.snapshotRestore, hid]
    by_cases hkept : 1 ≤ id.toNat ∧ id.toNat < hist.length
    · rw [h.keeps.snapshotRestore_ok hkept.1 hkept.2]
      exact h.exact _ (List.get_mem _ _)
    · obtain ⟨e, he⟩ := h.keeps.snapshotRestore_error hkept
      rw [he]
      exact h.found_exact

/-- Every operation leaves the directory with a history. -/
theorem Store.operate (h : Store c parameters.backend defaults hist disk) (hc : c.TinyJson)
    (hid : parameters.instanceId = 0) (hmax : 0 < parameters.backend.snapshotMaxCount)
    (hargs : FinitePayload c args) (operation : String) :
    ∃ hist', Store c parameters.backend defaults hist'
      ((KvsTool.operate c parameters args (found defaults hist) operation).run disk).2 := by
  unfold KvsTool.operate
  split
  · exact ⟨hist, h⟩
  · exact h.setkey_store parameters hc hid hmax hargs
  · exact h.removekey_store parameters hc hid hmax args
  · exact ⟨hist, h⟩
  · exact h.edited parameters hc hid hmax jsonExact_empty
  · exact h.edited parameters hc hid hmax (setAll_exact testData testData_exact h.found_exact)
  · exact ⟨hist, h⟩
  · exact ⟨hist, h⟩
  · exact h.snapshotrestore_store parameters hc hid hmax args
  · exact ⟨hist, h⟩
  · exact ⟨hist, h⟩
  · exact ⟨hist, h⟩

end Store

def backendOf (directory : Flag String) : JsonBackend := (builder directory).parameters.backend

theorem backendOf_snapshotMaxCount (directory : Flag String) :
    (backendOf directory).snapshotMaxCount = 3 := by
  rw [backendOf, builder, KvsBuilder.parameters]
  cases directory.value with
  | none => rfl
  | some dir => rfl

section Main

variable {c : Crates} {directory : Flag String} {defaults : KvsMap} {hist : List KvsMap} {disk : Fs}

theorem openKvs_eq (c : Crates) (directory : Flag String) (disk : Fs) :
    openKvs c directory disk =
      ((builder directory).load c disk).map fun data => ((builder directory).parameters, data) := by
  have hi : (builder directory).instanceId < kvsMaxInstances := Nat.zero_lt_succ 9
  unfold openKvs
  cases hload : (builder directory).load c disk with
  | error e =>
    have hbuild := KvsBuilder.build_start_error _ hi hload
    split
    · rename_i herror
      cases hbuild.symm.trans herror
      rfl
    · rename_i hok
      cases hbuild.symm.trans hok
  | ok data =>
    obtain ⟨process, hbuild, hcell⟩ := KvsBuilder.build_start _ hi hload
    split
    · rename_i herror
      cases hbuild.symm.trans herror
    · rename_i hok
      cases hbuild.symm.trans hok
      rw [hcell]
      rfl

theorem openKvs_map
    (hdefaults : KvsBuilder.loadDefaultsMap c ⟨0, .optional, .optional, backendOf directory⟩ disk =
      .ok defaults) :
    openKvs c directory disk =
      (KvsBuilder.loadKvsMap c ⟨0, .optional, .optional, backendOf directory⟩ disk).map fun m =>
        (⟨0, .optional, .optional, backendOf directory⟩, ⟨m, defaults⟩) := by
  have hparameters : (builder directory).parameters =
      ⟨0, .optional, .optional, backendOf directory⟩ := rfl
  rw [openKvs_eq, KvsBuilder.load, hparameters, hdefaults]
  cases KvsBuilder.loadKvsMap c ⟨0, .optional, .optional, backendOf directory⟩ disk with
  | error e => rfl
  | ok m => rfl

theorem openKvs_loaded {m : KvsMap}
    (hdefaults : KvsBuilder.loadDefaultsMap c ⟨0, .optional, .optional, backendOf directory⟩ disk =
      .ok defaults)
    (hkvs : KvsBuilder.loadKvsMap c ⟨0, .optional, .optional, backendOf directory⟩ disk = .ok m) :
    openKvs c directory disk =
      .ok (⟨0, .optional, .optional, backendOf directory⟩, ⟨m, defaults⟩) := by
  rw [openKvs_map hdefaults, hkvs]
  rfl

theorem Store.openKvs (h : Store c (backendOf directory) defaults hist disk) :
    openKvs c directory disk =
      .ok (⟨0, .optional, .optional, backendOf directory⟩, found defaults hist) :=
  openKvs_loaded h.defaults (loadKvsMap_keeps h.keeps _)

theorem Store.main_eq (h : Store c (backendOf args.directory) defaults hist disk)
    (hhelp : args.help = false) (hop : args.operation.value = some operation) :
    (main c args).run disk = (KvsTool.operate c ⟨0, .optional, .optional, backendOf args.directory⟩
      args (found defaults hist) operation).run disk := by
  simp only [KvsTool.main, hhelp, Bool.false_eq_true, ↓reduceIte]
  rw [Disk.Prog.run, Disk.Prog.bind_query h.openKvs]
  simp only [hop]
  rfl

theorem Store.main_store (h : Store c (backendOf args.directory) defaults hist disk)
    (hc : c.TinyJson) (hargs : FinitePayload c args) :
    ∃ hist',
      Store c (backendOf args.directory) defaults hist' ((KvsTool.main c args).run disk).2 := by
  cases hhelp : args.help with
  | true =>
    simp only [KvsTool.main, hhelp, ↓reduceIte]
    exact ⟨hist, h⟩
  | false =>
    cases hop : args.operation.value with
    | none =>
      simp only [KvsTool.main, hhelp, Bool.false_eq_true, ↓reduceIte]
      rw [Disk.Prog.run, Disk.Prog.bind_query h.openKvs]
      simp only [hop]
      exact ⟨hist, h⟩
    | some operation =>
      have hmax : 0 < (backendOf args.directory).snapshotMaxCount := by
        rw [backendOf_snapshotMaxCount]
        decide
      rw [h.main_eq hhelp hop]
      exact h.operate (builder args.directory).parameters hc rfl hmax hargs operation

theorem Store.mainAll (h : Store c (backendOf directory) defaults hist disk) (hc : c.TinyJson)
    (runs : List Arguments)
    (hruns : ∀ args ∈ runs, backendOf args.directory = backendOf directory ∧ FinitePayload c args) :
    ∃ hist', Store c (backendOf directory) defaults hist' (mainAll c runs disk) := by
  induction runs generalizing hist disk with
  | nil => exact ⟨hist, h⟩
  | cons args runs ih =>
    obtain ⟨hdir, hargs⟩ := hruns args List.mem_cons_self
    obtain ⟨hist', h'⟩ := Store.main_store (hdir ▸ h) hc hargs
    exact ih (hdir ▸ h') fun a ha => hruns a (List.mem_cons_of_mem args ha)

theorem Store.readBack (h : Store c (backendOf directory) defaults hist disk) (key : String) :
    readBack c directory key disk = Kvs.getValue key (found defaults hist) := by
  rw [KvsTool.readBack, h.openKvs]
  rfl

end Main

structure Arguments.Sets (args : Arguments) (key : String) : Prop where
  help : args.help = false
  operation : args.operation.value = some "setkey"
  key : args.key.value = some key

section Setkey

variable {c : Crates} {args : Arguments} {defaults : KvsMap} {hist : List KvsMap} {disk : Fs}

theorem getValue_insert (key key' : String) (value : KvsValue) (data : KvsData) :
    Kvs.getValue key' { data with kvsMap := data.kvsMap.insert key value } =
      if key' = key then .ok value else Kvs.getValue key' data := by
  simp only [Kvs.getValue, FiniteMap.get?_insert]
  by_cases hkey : key' = key
  · simp only [hkey, ↓reduceIte]
  · simp only [hkey, ↓reduceIte]

theorem Store.setkey (h : Store c (backendOf args.directory) defaults hist disk) (hc : c.TinyJson)
    (hset : args.Sets key) (hargs : FinitePayload c args) :
    ((KvsTool.main c args).run disk).1 = .ok .nothing ∧
      Store c (backendOf args.directory) defaults
        (((found defaults hist).kvsMap.insert key (payloadValue c args.valueStr) :: hist).take 3)
        ((KvsTool.main c args).run disk).2 := by
  have hexact := h.found_exact.insert (payloadValue_exact hargs) key
  have hmax := backendOf_snapshotMaxCount args.directory
  have hpos : 0 < (backendOf args.directory).snapshotMaxCount := hmax ▸ Nat.zero_lt_succ 2
  obtain ⟨hok, hstore⟩ := h.editAndFlush (builder args.directory).parameters hc rfl hpos
    (Kvs.setValue key (payloadValue c args.valueStr) (found defaults hist)).2 hexact
  rw [h.main_eq hset.help hset.operation, KvsTool.operate, setkey_eq hset.key]
  exact ⟨hok, hmax ▸ hstore⟩

/-- After a `setkey`, the next process reads the new value at its key and the old ones elsewhere. -/
theorem Store.setkey_readBack (h : Store c (backendOf args.directory) defaults hist disk)
    (hc : c.TinyJson) (hset : args.Sets key) (hargs : FinitePayload c args) (key' : String) :
    KvsTool.readBack c args.directory key' ((KvsTool.main c args).run disk).2 =
      if key' = key then .ok (payloadValue c args.valueStr)
      else KvsTool.readBack c args.directory key' disk := by
  rw [(h.setkey hc hset hargs).2.readBack, h.readBack, ← getValue_insert]
  rfl

/-- A payload with a number that is not finite is not stored: the flush fails after its renames. -/
theorem Store.setkey_refused (h : Store c (backendOf args.directory) defaults hist disk)
    (hc : c.TinyJson) (hset : args.Sets key)
    (hvalue : ¬ (payloadValue c args.valueStr).Finite) :
    (KvsTool.main c args).run disk = (.error .jsonGeneratorError,
      Disk.replay disk (renames (backendOf args.directory) 0 (min hist.length 2))) := by
  have hinfinite := insert_not_finite hvalue (found defaults hist).kvsMap key
  have hmax := backendOf_snapshotMaxCount args.directory
  have hpos : 0 < (backendOf args.directory).snapshotMaxCount := hmax ▸ Nat.zero_lt_succ 2
  have hflush := h.keeps.flush_refused hc hinfinite
  rw [hmax] at hflush
  have hrefused := h.editAndFlush_refused (builder args.directory).parameters hc rfl hpos
    (Kvs.setValue key (payloadValue c args.valueStr) (found defaults hist)).2 hinfinite
  rw [h.main_eq hset.help hset.operation, KvsTool.operate, setkey_eq hset.key]
  exact hrefused.trans (congrArg _ (congrArg Prod.snd hflush))

theorem Store.setkey_lost (h : Store c (backendOf args.directory) defaults (m :: hist) disk)
    (hc : c.TinyJson) (hset : args.Sets key)
    (hvalue : ¬ (payloadValue c args.valueStr).Finite) (key' : String) :
    KvsTool.readBack c args.directory key' ((KvsTool.main c args).run disk).2 =
      Kvs.getValue key' ⟨.empty, defaults⟩ := by
  have hmoved : min (m :: hist).length 2 = min hist.length 1 + 1 := by
    rw [List.length_cons]
    omega
  have hrefused := h.setkey_refused hc hset hvalue
  have hflush := h.keeps.flush_refused hc (insert_not_finite hvalue m key)
  have hdefaults := h.defaults
  simp only [KvsBuilder.loadDefaultsMap] at hdefaults
  rw [← flush_loadDefaults c (backendOf args.directory) 0 (m.insert key _) disk, hflush,
    backendOf_snapshotMaxCount, hmoved] at hdefaults
  rw [hrefused, hmoved]
  have hkvs : KvsBuilder.loadKvsMap c ⟨0, .optional, .optional, backendOf args.directory⟩
      (Disk.replay disk (renames (backendOf args.directory) 0 (min hist.length 1 + 1))) =
        .ok .empty := by
    simp only [KvsBuilder.loadKvsMap, JsonBackend.loadKvs,
      load_missing (JsonBackend.checkPathExtensions_slot _ 0 0) (renames_kvs _ _ _ disk)]
  rw [KvsTool.readBack, openKvs_loaded hdefaults hkvs]
  rfl

end Setkey

theorem Store.start {backend : JsonBackend} {defaults : KvsMap}
    (hkvs : ∀ s, disk (backend.kvsFilePath 0 s) = none)
    (hhash : ∀ s, disk (backend.hashFilePath 0 s) = none)
    (hdefaults : KvsBuilder.loadDefaultsMap c ⟨0, .optional, .optional, backend⟩ disk =
      .ok defaults) : Store c backend defaults [] disk where
  keeps := .empty hkvs hhash
  exact m hm := by cases hm
  defaults := hdefaults

/-- Whatever members its objects have, a payload that parses as a tree of finite numbers is read
back by the next process as its untyped conversion, and a payload that does not parse as its text;
the other keys read as before. A payload that parses with a number that is not finite is refused. -/
theorem payload_survives {c : Crates} (hc : c.TinyJson)
    (hkvs : ∀ s, disk ((backendOf args.directory).kvsFilePath 0 s) = none)
    (hhash : ∀ s, disk ((backendOf args.directory).hashFilePath 0 s) = none)
    (hdefaults : KvsBuilder.loadDefaultsMap c
      ⟨0, .optional, .optional, backendOf args.directory⟩ disk = .ok defaults)
    (runs : List Arguments)
    (hruns : ∀ run ∈ runs,
      backendOf run.directory = backendOf args.directory ∧ FinitePayload c run)
    (hset : args.Sets key) (hpayload : args.valueStr = some payload) :
    let before := mainAll c runs disk
    let r := (main c args).run before
    let read := readBack c args.directory
    (∀ j, c.parse payload = some j → j.Numbers Binary64.IsFinite →
      r.1 = .ok .nothing ∧ read key r.2 = .ok (fromTinyjson j)) ∧
    (c.parse payload = none → r.1 = .ok .nothing ∧ read key r.2 = .ok (.string payload)) ∧
    (FinitePayload c args → ∀ key' ≠ key, read key' r.2 = read key' before) ∧
    ∀ j, c.parse payload = some j → ¬ j.Numbers Binary64.IsFinite →
      r.1 = .error .jsonGeneratorError := by
  obtain ⟨hist, h⟩ := (Store.start hkvs hhash hdefaults).mainAll hc runs hruns
  intro before r read
  refine ⟨?parsed, ?unparsed, ?others, ?refused⟩
  case parsed =>
    intro j hp hj
    have hargs : FinitePayload c args := by
      intro p j' hp' hparse
      cases hpayload.symm.trans hp'
      cases hp.symm.trans hparse
      exact hj
    have hread := h.setkey_readBack hc hset hargs key
    rw [if_pos rfl, hpayload, payloadValue_parsed hp] at hread
    exact ⟨(h.setkey hc hset hargs).1, hread⟩
  case unparsed =>
    intro hp
    have hargs : FinitePayload c args := by
      intro p j hp' hparse
      cases hpayload.symm.trans hp'
      cases hp.symm.trans hparse
    have hread := h.setkey_readBack hc hset hargs key
    rw [if_pos rfl, hpayload, payloadValue_unparsed hp] at hread
    exact ⟨(h.setkey hc hset hargs).1, hread⟩
  case others =>
    intro hargs key' hkey
    have hread := h.setkey_readBack hc hset hargs key'
    rwa [if_neg hkey] at hread
  case refused =>
    intro j hp hj
    have hvalue : ¬ (payloadValue c args.valueStr).Finite := by
      rw [hpayload, payloadValue_parsed hp, fromTinyjson_finite]
      exact hj
    exact congrArg Prod.fst (h.setkey_refused hc hset hvalue)

def setkeyArgs (key : String) (payload : Option String) : Arguments where
  help := false
  directory := ⟨none, none⟩
  operation := ⟨none, some "setkey"⟩
  key := ⟨none, some key⟩
  payload := ⟨none, payload⟩
  snapshotId := ⟨none, none⟩

/-- A payload that looks like a tagged integer. -/
def imitation : JsonValue := .tagged "i32" (.number (.ofInt 42))

theorem imitation_ne : fromTinyjson imitation ≠ .i32 42 := by
  intro h
  rw [imitation, Json.tagged, Json.ofMap, fromTinyjson] at h
  cases h

theorem start_defaults (c : Crates) (directory : Flag String) :
    KvsBuilder.loadDefaultsMap c ⟨0, .optional, .optional, backendOf directory⟩ (fun _ => none) =
      .ok .empty := by
  have hmissing : (backendOf directory).loadDefaults c 0 (fun _ => none) =
      .error .fileNotFound := load_missing (JsonBackend.checkPathExtensions_defaults _ 0) rfl
  simp only [KvsBuilder.loadDefaultsMap, hmissing]

theorem payload_survives_imitation : ∃ c : Crates, c.TinyJson ∧
    let before := mainAll c [setkeyArgs "a" none] fun _ => none
    let r := (main c (setkeyArgs "k" (some "\x7b\"t\":\"i32\",\"v\":42\x7d"))).run before
    r.1 = .ok .nothing ∧ readBack c ⟨none, none⟩ "k" r.2 = .ok (fromTinyjson imitation) ∧
      fromTinyjson imitation ≠ .i32 42 ∧
      readBack c ⟨none, none⟩ "a" r.2 = readBack c ⟨none, none⟩ "a" before := by
  have hfinite : imitation.Numbers Binary64.IsFinite := by
    rw [imitation, Json.numbers_tagged]
    exact Binary64.ofInt_isFinite (by decide)
  obtain ⟨c, hc, -, -, hparse⟩ :=
    exists_crates_tree imitation hfinite "\x7b\"t\":\"i32\",\"v\":42\x7d"
  have hset : (setkeyArgs "k" (some "\x7b\"t\":\"i32\",\"v\":42\x7d")).Sets "k" := ⟨rfl, rfl, rfl⟩
  have hruns : ∀ run ∈ [setkeyArgs "a" none],
      backendOf run.directory = backendOf ⟨none, none⟩ ∧ FinitePayload c run := by
    intro run hrun
    cases List.mem_singleton.1 hrun
    exact ⟨rfl, fun p j hp _ => by cases hp⟩
  obtain ⟨hparsed, -, hothers, -⟩ := payload_survives hc (fun _ => rfl) (fun _ => rfl)
    (start_defaults c ⟨none, none⟩) [setkeyArgs "a" none] hruns hset rfl
  obtain ⟨hok, hread⟩ := hparsed imitation hparse hfinite
  refine ⟨c, hc, hok, hread, imitation_ne, hothers ?_ "a" (by decide)⟩
  intro p j hp hp'
  cases hp
  cases hparse.symm.trans hp'
  exact hfinite

/-- A number beyond the range parses as infinity: neither its text nor its conversion is stored, and
the value that was stored before is not found. -/
theorem payload_infinite : ∃ c : Crates, c.TinyJson ∧
    c.parse "1e999" = some (.number (.infinity false)) ∧
    let before := mainAll c [setkeyArgs "a" none] fun _ => none
    let r := (main c (setkeyArgs "k" (some "1e999"))).run before
    readBack c ⟨none, none⟩ "a" before = .ok .null ∧ r.1 = .error .jsonGeneratorError ∧
      readBack c ⟨none, none⟩ "k" r.2 = .error .keyNotFound ∧
      readBack c ⟨none, none⟩ "a" r.2 = .error .keyNotFound := by
  obtain ⟨c, hc, -, hparse, -⟩ := exists_crates_parse (.number (.infinity false)) "1e999"
  have hstart : Store c (backendOf (setkeyArgs "a" none).directory) .empty [] fun _ => none :=
    .start (fun _ => rfl) (fun _ => rfl) (start_defaults c _)
  have hnull : FinitePayload c (setkeyArgs "a" none) := fun p j hp _ => by cases hp
  have hseta : (setkeyArgs "a" none).Sets "a" := ⟨rfl, rfl, rfl⟩
  have hread := hstart.setkey_readBack hc hseta hnull "a"
  have hbefore : Store c (backendOf (setkeyArgs "k" (some "1e999")).directory) _ _ _ :=
    (hstart.setkey hc hseta hnull).2
  have hsetk : (setkeyArgs "k" (some "1e999")).Sets "k" := ⟨rfl, rfl, rfl⟩
  have hvalue : ¬ (payloadValue c (some "1e999")).Finite := by
    rw [payloadValue_parsed hparse, fromTinyjson_finite]
    exact fun h => h
  have hrefused := hbefore.setkey_refused hc hsetk hvalue
  have hlost := hbefore.setkey_lost hc hsetk hvalue
  exact ⟨c, hc, hparse, hread, congrArg Prod.fst hrefused, hlost "k", hlost "a"⟩

end Persistency.Rust.KvsTool
