import Persistency.Library.Transition
import Persistency.Rust.History
import Persistency.Rust.Snapshots

namespace Persistency.Rust
set_option autoImplicit true

namespace Kvs

theorem resetKey_eq (key : String) (data : KvsData) :
    resetKey key data =
      if key ∈ data.defaultsMap.keys then
        (.ok (), { data with kvsMap := data.kvsMap.remove key })
      else (.error .keyDefaultNotFound, data) := by
  simp only [resetKey, FiniteMap.contains]
  by_cases hk : key ∈ data.defaultsMap.keys
  · simp only [hk, decide_true, Bool.not_true, Bool.false_eq_true, ↓reduceIte]
  · simp only [hk, decide_false, Bool.not_false, ↓reduceIte]

theorem removeKey_eq (key : String) (data : KvsData) :
    removeKey key data =
      if key ∈ data.kvsMap.keys then (.ok (), { data with kvsMap := data.kvsMap.remove key })
      else (.error .keyNotFound, data) := by
  by_cases hk : key ∈ data.kvsMap.keys
  · simp only [removeKey, ← data.kvsMap.mem_keys_iff, hk, ↓reduceIte]
  · simp only [removeKey, ← data.kvsMap.mem_keys_iff, hk, ↓reduceIte,
      data.kvsMap.remove_of_notMem hk]

theorem getValue_toOption (key : String) (data : KvsData) :
    (getValue key data).toOption = (data.kvsMap.get? key).or (data.defaultsMap.get? key) := by
  unfold getValue
  cases data.kvsMap.get? key with
  | some value => rfl
  | none => cases data.defaultsMap.get? key <;> rfl

theorem getValueAs_toOption (target : Variant) (key : String) (data : KvsData) :
    (getValueAs target key data).toOption =
      ((data.kvsMap.get? key).or (data.defaultsMap.get? key)).bind (tryFrom target) := by
  unfold getValueAs
  cases data.kvsMap.get? key with
  | some value =>
    rw [Option.some_or, Option.bind_some]
    dsimp only
    cases tryFrom target value <;> rfl
  | none =>
    rw [Option.none_or]
    cases data.defaultsMap.get? key with
    | some value =>
      rw [Option.bind_some]
      dsimp only
      cases tryFrom target value <;> rfl
    | none => rfl

theorem getDefaultValue_toOption (key : String) (data : KvsData) :
    (getDefaultValue key data).toOption = data.defaultsMap.get? key := by
  unfold getDefaultValue
  cases data.defaultsMap.get? key <;> rfl

theorem isValueDefault_toOption (key : String) (data : KvsData) :
    (isValueDefault key data).toOption =
      ((data.kvsMap.get? key).or (data.defaultsMap.get? key)).map
        fun _ => decide (key ∉ data.kvsMap.keys) := by
  simp only [isValueDefault, FiniteMap.contains_eq, data.kvsMap.mem_keys_iff]
  cases data.kvsMap.get? key with
  | some value => rfl
  | none => cases data.defaultsMap.get? key <;> rfl

end Kvs

theorem Keeps.deploy (h : Keeps c backend i hist disk) (text : Option String) :
    Keeps c backend i hist (deploy c backend i text disk) := by
  obtain ⟨texts, hslots, hall⟩ := h.texts
  refine ⟨⟨texts, hslots.congr ?_ ?_, hall⟩, h.bound⟩
  · intro s
    obtain ⟨h₁, h₂⟩ := backend.kvsFilePath_ne_defaults i s
    rw [Rust.deploy, if_neg h₁, if_neg h₂]
  · intro s
    obtain ⟨h₁, h₂⟩ := backend.hashFilePath_ne_defaults i s
    rw [Rust.deploy, if_neg h₁, if_neg h₂]

/-- The values that a call stores come back from their encoding. -/
def Call.Exact : Call → Prop
  | .setValue _ value => JsonExact value
  | _ => True

structure History.Exact (s : History) : Prop where
  cur : JsonExact (.ofMap s.cur)
  hist : ∀ m ∈ s.hist, JsonExact (.ofMap m)

theorem History.Exact.call {s : History} (h : s.Exact) (max : Nat) (request : Call)
    (hq : request.Exact) : (s.call max request).1.Exact := by
  cases request with
  | reset => exact ⟨jsonExact_empty, h.hist⟩
  | resetKey key | removeKey key =>
    simp only [History.call]
    split
    · exact ⟨h.cur.remove key, h.hist⟩
    · exact h
  | setValue key value => exact ⟨h.cur.insert hq key, h.hist⟩
  | flush =>
    refine ⟨h.cur, ?_⟩
    intro m hm
    cases List.mem_of_mem_take hm with
    | head => exact h.cur
    | tail _ hm => exact h.hist m hm
  | snapshotRestore id =>
    simp only [History.call]
    split
    · exact ⟨h.hist _ (List.get_mem _ _), h.hist⟩
    · exact h
  | _ => exact h

section Perform

variable {c : Crates} {parameters : KvsParameters} {disk : Fs} {s : History}

/-- A call matches the abstract store: the reply, the data and the slots. -/
structure Matches (c : Crates) (parameters : KvsParameters)
    (r : Except ErrorCode Answer × KvsData × Fs) (r' : History × Option Answer) : Prop where
  reply : r.1.toOption = r'.2
  data : r.2.1 = ⟨r'.1.cur, r'.1.defaults⟩
  keeps : Keeps c parameters.backend parameters.instanceId r'.1.hist r.2.2

theorem toOption_map (f : α → β) (r : Except ErrorCode α) :
    (r.map f).toOption = r.toOption.map f := by
  cases r <;> rfl

theorem Call.perform_matches (hc : c.TinyJson) (hs : s.Exact)
    (h : Keeps c parameters.backend parameters.instanceId s.hist disk) (request : Call) :
    Matches c parameters (request.perform c parameters disk ⟨s.cur, s.defaults⟩)
      (s.call parameters.backend.snapshotMaxCount request) := by
  cases request with
  | reset => exact ⟨rfl, rfl, h⟩
  | setValue key value => exact ⟨rfl, rfl, h⟩
  | getAllKeys => exact ⟨rfl, rfl, h⟩
  | keyExists key => exact ⟨rfl, rfl, h⟩
  | snapshotMaxCount => exact ⟨rfl, rfl, h⟩
  | snapshotCount =>
    have hreply := congrArg (some ∘ Answer.count) h.snapshotCount
    exact ⟨hreply, rfl, h⟩
  | getValue key =>
    have hvalue := Kvs.getValue_toOption key ⟨s.cur, s.defaults⟩
    exact ⟨(toOption_map _ _).trans (congrArg _ hvalue), rfl, h⟩
  | getValueAs target key =>
    have hvalue := Kvs.getValueAs_toOption target key ⟨s.cur, s.defaults⟩
    exact ⟨(toOption_map _ _).trans (congrArg _ hvalue), rfl, h⟩
  | getDefaultValue key =>
    have hvalue := Kvs.getDefaultValue_toOption key ⟨s.cur, s.defaults⟩
    exact ⟨(toOption_map _ _).trans (congrArg _ hvalue), rfl, h⟩
  | isValueDefault key =>
    have hreply : ((Kvs.isValueDefault key ⟨s.cur, s.defaults⟩).map Answer.boolean).toOption =
        (s.call parameters.backend.snapshotMaxCount (.isValueDefault key)).2 := by
      rw [toOption_map, Kvs.isValueDefault_toOption, Option.map_map]
      rfl
    exact ⟨hreply, rfl, h⟩
  | resetKey key =>
    simp only [Call.perform, Call.perform.edit, Kvs.resetKey_eq, History.call]
    split
    · exact ⟨rfl, rfl, h⟩
    · exact ⟨rfl, rfl, h⟩
  | removeKey key =>
    simp only [Call.perform, Call.perform.edit, Kvs.removeKey_eq, History.call]
    split
    · exact ⟨rfl, rfl, h⟩
    · exact ⟨rfl, rfl, h⟩
  | flush =>
    by_cases hmax : parameters.backend.snapshotMaxCount = 0
    · simp only [Call.perform, Kvs.flush, Kvs.snapshotMaxCount, hmax, ↓reduceIte, History.call,
        List.take_zero]
      have hb := h.bound
      rw [hmax, Nat.le_zero, List.length_eq_zero_iff] at hb
      exact ⟨rfl, rfl, hb ▸ h⟩
    · simp only [Call.perform, Kvs.flush, Kvs.snapshotMaxCount, hmax, ↓reduceIte, History.call]
      obtain ⟨hr, hk⟩ := h.flush hc hs.cur (Nat.pos_of_ne_zero hmax)
      refine ⟨?_, rfl, hk⟩
      rw [hr]
      rfl
  | snapshotRestore id =>
    simp only [Call.perform, Call.perform.edit, Kvs.snapshotRestore, History.call]
    by_cases hid : 1 ≤ id ∧ id < s.hist.length
    · rw [h.snapshotRestore_ok hid.1 hid.2, dif_pos hid]
      exact ⟨rfl, rfl, h⟩
    · obtain ⟨e, he⟩ := h.snapshotRestore_error hid
      rw [he, dif_neg hid]
      exact ⟨rfl, rfl, h⟩

end Perform

/-- A world behind whose handle the abstract store stands, memory and files. -/
structure Shows (c : Crates) (backend : JsonBackend) (i : InstanceId) (w : World)
    (s : History) : Prop where
  handle : ∃ kvs, w.handle = .ok kvs ∧ kvs.parameters.backend = backend ∧
    kvs.parameters.instanceId = i ∧ w.process.cells kvs.data = ⟨s.cur, s.defaults⟩
  keeps : Keeps c backend i s.hist w.disk
  exact : s.Exact

theorem Process.store_cells (process : Process) (data : Nat) (value : KvsData) :
    (process.store data value).cells data = value := if_pos rfl

section Step

variable {c : Crates} {backend : JsonBackend} {i : InstanceId} {w : World} {s : History}

theorem Shows.call (h : Shows c backend i w s) (hc : c.TinyJson) (request : Call)
    (hq : request.Exact) :
    Shows c backend i (w.call c request).1 (s.call backend.snapshotMaxCount request).1 ∧
      (w.call c request).2.toOption = (s.call backend.snapshotMaxCount request).2 := by
  obtain ⟨kvs, hkvs, rfl, rfl, hcell⟩ := h.handle
  have hm := request.perform_matches hc h.exact h.keeps
  simp only [World.call, hkvs, hcell]
  refine ⟨⟨⟨kvs, rfl, rfl, rfl, ?_⟩, hm.keeps, h.exact.call _ request hq⟩, hm.reply⟩
  rw [Process.store_cells, hm.data]

theorem loadDefaults_deploy_some (disk : Fs) (text : String) :
    backend.loadDefaults c i (deploy c backend i (some text) disk) = decodeText c text := by
  apply load_pair (backend.checkPathExtensions_defaults i)
  · exact if_pos rfl
  · rw [deploy, if_neg (backend.defaults_ne i).symm, if_pos rfl]
    rfl

theorem loadDefaults_deploy_none (disk : Fs) :
    backend.loadDefaults c i (deploy c backend i none disk) = .error .fileNotFound :=
  load_missing (backend.checkPathExtensions_defaults i) (if_pos rfl)

theorem loadDefaultsMap_deploy (d : Defaults c) (disk : Fs) :
    KvsBuilder.loadDefaultsMap c ⟨i, d.mode, load, backend⟩ (deploy c backend i d.text disk) =
      .ok d.map := by
  obtain ⟨mode, text, map, loads⟩ := d
  simp only [KvsBuilder.loadDefaultsMap]
  cases mode with
  | ignored => exact congrArg _ loads.symm
  | optional =>
    cases text with
    | none => rw [loadDefaults_deploy_none]; exact congrArg _ loads.symm
    | some text => rw [loadDefaults_deploy_some, loads]
  | required =>
    cases text with
    | none => exact loads.elim
    | some text => exact (loadDefaults_deploy_some disk text).trans loads

theorem loadKvsMap_keeps (h : Keeps c backend i hist disk) (defaults : KvsDefaults) :
    KvsBuilder.loadKvsMap c ⟨i, defaults, .optional, backend⟩ disk =
      .ok (hist.head?.getD .empty) := by
  simp only [KvsBuilder.loadKvsMap]
  cases hist with
  | nil => rw [h.loadKvs_none (s := 0) rfl]; rfl
  | cons m hist => rw [h.loadKvs_some (s := 0) (m := m) rfl]; rfl

theorem load_deploy (d : Defaults c) (disk : Fs) :
    KvsBuilder.load ⟨i, some d.mode, some .optional, some backend⟩ c
        (deploy c backend i d.text disk) =
      (KvsBuilder.loadKvsMap c ⟨i, d.mode, .optional, backend⟩
        (deploy c backend i d.text disk)).map fun m => ⟨m, d.map⟩ := by
  simp only [KvsBuilder.load, KvsBuilder.parameters, Option.getD_some, loadDefaultsMap_deploy]
  rfl

theorem restart_shows (hi : i < kvsMaxInstances) (h : Keeps c backend i s.hist w.disk)
    (hs : s.Exact) (d : Defaults c) :
    Shows c backend i (Action.step backend i w (.restart d)).1
        (s.step backend.snapshotMaxCount (.restart d)).1 ∧
      (Action.step backend i w (.restart d)).2.toOption =
        (s.step backend.snapshotMaxCount (.restart d)).2 := by
  have hk := h.deploy d.text
  have hload : KvsBuilder.load ⟨i, some d.mode, some .optional, some backend⟩ c
      (deploy c backend i d.text w.disk) = .ok ⟨s.hist.head?.getD .empty, d.map⟩ := by
    rw [load_deploy, loadKvsMap_keeps hk]
    rfl
  obtain ⟨process, hbuild, hcell⟩ := KvsBuilder.build_start _ hi hload
  simp only [Action.step, World.restart, hbuild]
  refine ⟨⟨⟨_, rfl, rfl, rfl, hcell⟩, hk, ?_, hs.hist⟩, rfl⟩
  simp only [History.step]
  cases hhist : s.hist with
  | nil => exact jsonExact_empty
  | cons m hist => exact hs.hist m (hhist ▸ List.mem_cons_self)

def Action.Exact : Action c → Prop
  | .call request => request.Exact
  | .restart _ => True

theorem Shows.step (hc : c.TinyJson) (hi : i < kvsMaxInstances) (h : Shows c backend i w s)
    (a : Action c) (hq : a.Exact) :
    Shows c backend i (a.step backend i w).1 (s.step backend.snapshotMaxCount a).1 ∧
      (a.step backend i w).2.toOption = (s.step backend.snapshotMaxCount a).2 := by
  cases a with
  | call request => exact h.call hc request hq
  | restart defaults => exact restart_shows hi h.keeps h.exact defaults

theorem run_shows (hc : c.TinyJson) (hi : i < kvsMaxInstances)
    (hkvs : ∀ s, w.disk (backend.kvsFilePath i s) = none)
    (hhash : ∀ s, w.disk (backend.hashFilePath i s) = none) (d : Defaults c)
    (as : List (Action c)) (hq : ∀ a ∈ as, a.Exact) :
    Shows c backend i (Transition.run (Action.step backend i) w (.restart d :: as)).1
        (Transition.run (History.step backend.snapshotMaxCount) .start (.restart d :: as)).1 ∧
      (Transition.run (Action.step backend i) w (.restart d :: as)).2.map
          Except.toOption =
        (Transition.run (History.step backend.snapshotMaxCount) .start (.restart d :: as)).2 := by
  obtain ⟨hs, hr⟩ := restart_shows (s := .start) hi (.empty hkvs hhash)
    ⟨jsonExact_empty, fun m hm => by cases hm⟩ d
  obtain ⟨hs', hrs⟩ := Transition.run_simulates (R := Shows c backend i) (Q := Action.Exact)
    (E := fun r o => Except.toOption r = o) (fun _ _ a h hq => Shows.step hc hi h a hq) hs as hq
  refine ⟨hs', ?_⟩
  rw [← List.forall₂_eq_eq_eq, List.forall₂_map_left_iff]
  exact .cons hr hrs

/-- Every run of calls and restarts replies as the abstract store does and ends with its maps, in
memory and in the slots; a call that fails leaves the abstract store as it was. -/
theorem run_refines (hc : c.TinyJson) (hi : i < kvsMaxInstances)
    (hkvs : ∀ s, w.disk (backend.kvsFilePath i s) = none)
    (hhash : ∀ s, w.disk (backend.hashFilePath i s) = none) (d : Defaults c)
    (as : List (Action c)) (hq : ∀ a ∈ as, a.Exact) :
    let r := Transition.run (Action.step backend i) w (.restart d :: as)
    let r' := Transition.run (History.step backend.snapshotMaxCount) .start (.restart d :: as)
    r.2.map Except.toOption = r'.2 ∧ Shows c backend i r.1 r'.1 ∧
      ∀ (s : History) (a : Action c), (s.step backend.snapshotMaxCount a).2 = none →
        (s.step backend.snapshotMaxCount a).1 = s := by
  obtain ⟨hs, hr⟩ := run_shows hc hi hkvs hhash d as hq
  exact ⟨hr, hs, fun s a => s.step_error _ a⟩

end Step

def World.off : World := ⟨fun _ => none, .start, .error .unmappedError⟩

def Defaults.none (c : Crates) : Defaults c := ⟨.optional, .none, .empty, rfl⟩

def Defaults.ofMap (hc : c.TinyJson) (hm : JsonExact (.ofMap m))
    (ht : c.stringify (jsonValueFrom (.ofMap m)) = some t) : Defaults c :=
  ⟨.optional, some t, m, (hc.decodeText_written ht hm.1).trans (by rw [decoded_eq m hm.2])⟩

theorem run_refines_answer : ∃ c : Crates, c.TinyJson ∧
    c.stringify (jsonValueFrom (.ofMap answer)) = some answerText ∧
    (Transition.run (Action.step .default 1) .off [.restart (.none c),
      .call (.setValue "answer" (.i32 42)), .call .flush, .restart (.none c),
      .call (.getValue "answer"), .call (.snapshotRestore 1)]).2.map Except.toOption =
        [some .unit, some .unit, some .unit, some .unit, some (.value (.i32 42)), none] := by
  obtain ⟨c, hc, -, ht⟩ := exists_crates answer answer_exact.1 answerText
  refine ⟨c, hc, ht, ?_⟩
  refine (run_refines (w := .off) hc (by decide) (fun _ => rfl) (fun _ => rfl) (.none c) _ ?_).1
    |>.trans rfl
  intro a ha
  simp only [List.mem_cons, List.not_mem_nil, or_false] at ha
  rcases ha with rfl | rfl | rfl | rfl | rfl
  · exact ⟨trivial, trivial⟩
  · trivial
  · trivial
  · trivial
  · trivial

/-- A key that has a default only is in the overlay, but does not exist. -/
theorem keyExists_default : ∃ (c : Crates) (d : Defaults c), c.TinyJson ∧ d.map = answer ∧
    (Transition.run (Action.step .default 1) .off
      [.restart d, .call (.keyExists "answer"), .call .getAllKeys]).2.map Except.toOption =
        [some .unit, some (.boolean false), some (.keys ∅)] ∧
    (History.start.step 3 (.restart d)).1.overlay "answer" = some (.i32 42) := by
  obtain ⟨c, hc, -, ht⟩ := exists_crates answer answer_exact.1 answerText
  refine ⟨c, .ofMap hc answer_exact ht, hc, rfl, ?_, rfl⟩
  refine (run_shows (w := .off) hc (by decide) (fun _ => rfl) (fun _ => rfl) _ _ ?_).2.trans rfl
  intro a ha
  simp only [List.mem_cons, List.not_mem_nil, or_false] at ha
  rcases ha with rfl | rfl
  · trivial
  · trivial

end Persistency.Rust
