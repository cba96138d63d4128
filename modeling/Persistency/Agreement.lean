import Persistency.Library.Transition
import Persistency.Rust.Kvs
import Persistency.Cpp.Kvs

namespace Persistency.Agreement
set_option autoImplicit true

inductive Call where
  | setValue (key : String) (value : KvsValue)
  | removeKey (key : String)
  | reset
  | resetKey (key : String)
  | getValue (key : String)
  | getDefaultValue (key : String)
  | isValueDefault (key : String)
  | keyExists (key : String)
  | getAllKeys

inductive Answer where
  | unit
  | value (v : KvsValue)
  | boolean (b : Bool)
  | keys (ks : Finset String)

def rustStep (data : Rust.KvsData) : Call → Rust.KvsData × Except Rust.ErrorCode Answer
  | .setValue key value => edit (Rust.Kvs.setValue key value data)
  | .removeKey key => edit (Rust.Kvs.removeKey key data)
  | .reset => edit (Rust.Kvs.reset data)
  | .resetKey key => edit (Rust.Kvs.resetKey key data)
  | .getValue key => (data, (Rust.Kvs.getValue key data).map .value)
  | .getDefaultValue key => (data, (Rust.Kvs.getDefaultValue key data).map .value)
  | .isValueDefault key => (data, (Rust.Kvs.isValueDefault key data).map .boolean)
  | .keyExists key => (data, (Rust.Kvs.keyExists key data).map .boolean)
  | .getAllKeys => (data, (Rust.Kvs.getAllKeys data).map .keys)
where
  edit (r : Except Rust.ErrorCode Unit × Rust.KvsData) :
      Rust.KvsData × Except Rust.ErrorCode Answer := (r.2, r.1.map fun _ => .unit)

/-- In one thread every call owns the lock that it tries. -/
def cppStep (store : Cpp.Kvs) : Call → Cpp.Kvs × Except Cpp.ErrorCode Answer
  | .setValue key value => edit (Cpp.Kvs.setValue true key value store)
  | .removeKey key => edit (Cpp.Kvs.removeKey true key store)
  | .reset => edit (Cpp.Kvs.reset true store)
  | .resetKey key => edit (Cpp.Kvs.resetKey true key store)
  | .getValue key => (store, (Cpp.Kvs.getValue true key store).map .value)
  | .getDefaultValue key => (store, (Cpp.Kvs.getDefaultValue key store).map .value)
  | .isValueDefault key => (store, (Cpp.Kvs.isValueDefault key store).map .boolean)
  | .keyExists key => (store, (Cpp.Kvs.keyExists true key store).map .boolean)
  | .getAllKeys => (store, (Cpp.Kvs.getAllKeys true store).map .keys)
where
  edit (r : Except Cpp.ErrorCode Unit × Cpp.Kvs) : Cpp.Kvs × Except Cpp.ErrorCode Answer :=
    (r.2, r.1.map fun _ => .unit)

/-- The errors of the calls under their names in both languages. -/
inductive SameError : Rust.ErrorCode → Cpp.ErrorCode → Prop where
  | keyNotFound : SameError .keyNotFound .keyNotFound
  | keyDefaultNotFound : SameError .keyDefaultNotFound .keyDefaultNotFound

inductive SameReply : Except Rust.ErrorCode α → Except Cpp.ErrorCode α → Prop where
  | ok (a : α) : SameReply (.ok a) (.ok a)
  | error (h : SameError e e') : SameReply (.error e) (.error e')

structure SameData (data : Rust.KvsData) (store : Cpp.Kvs) : Prop where
  kvs : data.kvsMap = store.kvs
  defaults : data.defaultsMap = store.defaultValues

theorem SameReply.map {r : Except Rust.ErrorCode α} {r' : Except Cpp.ErrorCode α}
    (h : SameReply r r') (f : α → β) : SameReply (r.map f) (r'.map f) := by
  cases h with
  | ok a => exact .ok (f a)
  | error h => exact .error h

section Calls

variable (key : String) {data : Rust.KvsData} {store : Cpp.Kvs}

theorem SameData.getValue (h : SameData data store) :
    SameReply (Rust.Kvs.getValue key data) (Cpp.Kvs.getValue true key store) := by
  simp only [Rust.Kvs.getValue, Cpp.Kvs.getValue, h.kvs, h.defaults, ↓reduceIte]
  cases store.kvs.get? key with
  | some value => exact .ok value
  | none =>
    cases store.defaultValues.get? key with
    | some value => exact .ok value
    | none => exact .error .keyNotFound

theorem SameData.getDefaultValue (h : SameData data store) :
    SameReply (Rust.Kvs.getDefaultValue key data) (Cpp.Kvs.getDefaultValue key store) := by
  simp only [Rust.Kvs.getDefaultValue, Cpp.Kvs.getDefaultValue, h.defaults]
  cases store.defaultValues.get? key with
  | some value => exact .ok value
  | none => exact .error .keyNotFound

theorem SameData.isValueDefault (h : SameData data store) :
    SameReply (Rust.Kvs.isValueDefault key data) (Cpp.Kvs.isValueDefault key store) := by
  simp only [Rust.Kvs.isValueDefault, Cpp.Kvs.isValueDefault, FiniteMap.contains_eq, h.kvs,
    h.defaults]
  cases (store.kvs.get? key).isSome with
  | true => exact .ok false
  | false =>
    cases (store.defaultValues.get? key).isSome with
    | true => exact .ok true
    | false => exact .error .keyNotFound

theorem SameData.keyExists (h : SameData data store) :
    SameReply (Rust.Kvs.keyExists key data) (Cpp.Kvs.keyExists true key store) := by
  simp only [Rust.Kvs.keyExists, Cpp.Kvs.keyExists, FiniteMap.contains_eq, h.kvs, ↓reduceIte]
  cases store.kvs.get? key with
  | some value => exact .ok true
  | none => exact .ok false

theorem SameData.removeKey (h : SameData data store) :
    SameReply (Rust.Kvs.removeKey key data).1 (Cpp.Kvs.removeKey true key store).1 ∧
      SameData (Rust.Kvs.removeKey key data).2 (Cpp.Kvs.removeKey true key store).2 := by
  simp only [Rust.Kvs.removeKey, Cpp.Kvs.removeKey, FiniteMap.contains_eq, h.kvs, ↓reduceIte]
  have hremoved : SameData { data with kvsMap := store.kvs.remove key }
      { store with kvs := store.kvs.remove key } := ⟨rfl, h.defaults⟩
  cases (store.kvs.get? key).isSome with
  | true => exact ⟨.ok (), hremoved⟩
  | false => exact ⟨.error .keyNotFound, hremoved⟩

theorem SameData.resetKey (h : SameData data store) :
    SameReply (Rust.Kvs.resetKey key data).1 (Cpp.Kvs.resetKey true key store).1 ∧
      SameData (Rust.Kvs.resetKey key data).2 (Cpp.Kvs.resetKey true key store).2 := by
  simp only [Rust.Kvs.resetKey, Cpp.Kvs.resetKey, FiniteMap.contains_eq, h.kvs, h.defaults]
  cases store.defaultValues.get? key with
  | none => exact ⟨.error .keyDefaultNotFound, h⟩
  | some value =>
    cases hk : store.kvs.get? key with
    | some stored => exact ⟨.ok (), rfl, rfl⟩
    | none =>
      -- removing a key that is not there changes nothing
      have hmem : key ∉ store.kvs.keys := by
        rw [store.kvs.mem_keys_iff, hk]
        exact Bool.false_ne_true
      exact ⟨.ok (), store.kvs.remove_of_notMem hmem, rfl⟩

end Calls

theorem SameData.step (h : SameData data store) (call : Call) :
    SameData (rustStep data call).1 (cppStep store call).1 ∧
      SameReply (rustStep data call).2 (cppStep store call).2 := by
  cases call with
  | setValue key value => exact ⟨⟨congrArg (·.insert key value) h.kvs, h.defaults⟩, .ok _⟩
  | reset => exact ⟨⟨rfl, h.defaults⟩, .ok _⟩
  | removeKey key => exact ⟨(h.removeKey key).2, (h.removeKey key).1.map _⟩
  | resetKey key => exact ⟨(h.resetKey key).2, (h.resetKey key).1.map _⟩
  | getValue key => exact ⟨h, (h.getValue key).map _⟩
  | getDefaultValue key => exact ⟨h, (h.getDefaultValue key).map _⟩
  | isValueDefault key => exact ⟨h, (h.isValueDefault key).map _⟩
  | keyExists key => exact ⟨h, (h.keyExists key).map _⟩
  | getAllKeys =>
    refine ⟨h, ?_⟩
    rw [rustStep, Rust.Kvs.getAllKeys, h.kvs]
    exact .ok _

theorem rustStep_defaults (data : Rust.KvsData) (call : Call) :
    (rustStep data call).1.defaultsMap = data.defaultsMap := by
  cases call with
  | removeKey key =>
    simp only [rustStep, rustStep.edit, Rust.Kvs.removeKey]
    split <;> rfl
  | resetKey key =>
    simp only [rustStep, rustStep.edit, Rust.Kvs.resetKey]
    split <;> rfl
  | _ => rfl

theorem rustStep_error {data : Rust.KvsData} (h : (rustStep data call).2 = .error e) :
    (rustStep data call).1 = data := by
  cases call with
  | removeKey key =>
    simp only [rustStep, rustStep.edit, Rust.Kvs.removeKey] at h ⊢
    split at h
    · cases h
    · rename_i hk
      rw [if_neg hk]
      rw [← data.kvsMap.mem_keys_iff] at hk
      rw [data.kvsMap.remove_of_notMem hk]
  | resetKey key =>
    simp only [rustStep, rustStep.edit, Rust.Kvs.resetKey] at h ⊢
    split at h
    · rename_i hk
      rw [if_pos hk]
    · cases h
  | setValue key value => cases h
  | reset => cases h
  | _ => rfl

theorem cppStep_error {store : Cpp.Kvs} (h : (cppStep store call).2 = .error e) :
    (cppStep store call).1 = store := by
  cases call with
  | removeKey key =>
    simp only [cppStep, cppStep.edit, Cpp.Kvs.removeKey, FiniteMap.contains, ↓reduceIte] at h ⊢
    by_cases hk : key ∈ store.kvs.keys
    · simp only [hk, decide_true, ↓reduceIte, Nat.lt_add_one] at h
      cases h
    · simp only [hk, decide_false, Bool.false_eq_true, ↓reduceIte, Nat.lt_irrefl]
      rw [store.kvs.remove_of_notMem hk]
  | resetKey key =>
    simp only [cppStep, cppStep.edit, Cpp.Kvs.resetKey] at h ⊢
    cases hd : store.defaultValues.get? key with
    | none => rfl
    | some value =>
      rw [hd] at h
      cases hk : store.kvs.get? key with
      | none => rfl
      | some stored =>
        rw [hk] at h
        cases h
  | setValue key value => cases h
  | reset => cases h
  | _ => rfl

/-- Runs from equal maps give equal replies and end with equal maps; the defaults stay, and a call
that fails changes neither store. -/
theorem run_agrees (kvsMap defaults : KvsMap) (filenamePrefix : String) (calls : List Call) :
    let r := Transition.run rustStep ⟨kvsMap, defaults⟩ calls
    let r' := Transition.run cppStep ⟨kvsMap, defaults, filenamePrefix⟩ calls
    List.Forall₂ SameReply r.2 r'.2 ∧ r.1.kvsMap = r'.1.kvs ∧
      r.1.defaultsMap = defaults ∧ r'.1.defaultValues = defaults ∧
      (∀ data call e, (rustStep data call).2 = .error e → (rustStep data call).1 = data) ∧
      ∀ store call e, (cppStep store call).2 = .error e → (cppStep store call).1 = store := by
  intro r r'
  obtain ⟨hdata, hreplies⟩ := Transition.run_simulates (R := SameData) (Q := fun _ => True)
    (E := SameReply) (fun _ _ call h _ => h.step call)
    (show SameData ⟨kvsMap, defaults⟩ ⟨kvsMap, defaults, filenamePrefix⟩ from ⟨rfl, rfl⟩) calls
    fun _ _ => trivial
  have hrust : r.1.defaultsMap = defaults :=
    Transition.run_invariant (I := fun data : Rust.KvsData => data.defaultsMap = defaults)
      (fun data call h => (rustStep_defaults data call).trans h) rfl calls
  exact ⟨hreplies, hdata.kvs, hrust, hdata.defaults.symm.trans hrust,
    fun _ _ _ => rustStep_error, fun _ _ _ => cppStep_error⟩

end Persistency.Agreement
