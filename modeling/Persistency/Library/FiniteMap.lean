import Mathlib.Data.Finset.Basic
import Mathlib.Data.Fintype.Basic

set_option autoImplicit true

/-- A finite map: a key set and one value for each key. Two maps are equal exactly when
their lookups agree, so no order of the entries can be observed. -/
structure FiniteMap (K V : Type) where
  keys : Finset K
  val : {k // k ∈ keys} → V

namespace FiniteMap

variable {K V W : Type} [DecidableEq K]

def empty : FiniteMap K V := ⟨∅, fun k => absurd k.2 (Finset.notMem_empty _)⟩

def get? (m : FiniteMap K V) (k : K) : Option V :=
  if h : k ∈ m.keys then some (m.val ⟨k, h⟩) else none

def contains (m : FiniteMap K V) (k : K) : Bool := decide (k ∈ m.keys)

def insert (m : FiniteMap K V) (k : K) (v : V) : FiniteMap K V where
  keys := Insert.insert k m.keys
  val x := if h : x.1 = k then v else m.val ⟨x.1, Finset.mem_of_mem_insert_of_ne x.2 h⟩

def emplace (m : FiniteMap K V) (k : K) (v : V) : FiniteMap K V :=
  if m.contains k then m else m.insert k v

def remove (m : FiniteMap K V) (k : K) : FiniteMap K V where
  keys := m.keys.erase k
  val x := m.val ⟨x.1, Finset.mem_of_mem_erase x.2⟩

def mapVal (f : V → W) (m : FiniteMap K V) : FiniteMap K W := ⟨m.keys, fun k => f (m.val k)⟩

omit [DecidableEq K] in
@[simp] theorem mapVal_keys (f : V → W) (m : FiniteMap K V) : (m.mapVal f).keys = m.keys := rfl

@[simp] theorem insert_keys (m : FiniteMap K V) (k : K) (v : V) :
    (m.insert k v).keys = Insert.insert k m.keys := rfl

@[simp] theorem remove_keys (m : FiniteMap K V) (k : K) :
    (m.remove k).keys = m.keys.erase k := rfl

omit [DecidableEq K] in
@[simp] theorem empty_keys : (empty : FiniteMap K V).keys = ∅ := rfl

theorem get?_of_mem (m : FiniteMap K V) (h : k ∈ m.keys) : m.get? k = some (m.val ⟨k, h⟩) := by
  simp only [get?, dif_pos h]

theorem get?_of_notMem (m : FiniteMap K V) (h : k ∉ m.keys) : m.get? k = none := by
  simp only [get?, dif_neg h]

theorem get?_eq_some (m : FiniteMap K V) :
    m.get? k = some v ↔ ∃ h : k ∈ m.keys, m.val ⟨k, h⟩ = v := by
  by_cases h : k ∈ m.keys
  · simp only [m.get?_of_mem h, Option.some.injEq, h, exists_true_left]
  · simp only [m.get?_of_notMem h, h, reduceCtorEq, IsEmpty.exists_iff]

theorem mem_keys_iff (m : FiniteMap K V) : k ∈ m.keys ↔ (m.get? k).isSome = true := by
  by_cases h : k ∈ m.keys
  · simp only [h, m.get?_of_mem h, Option.isSome_some]
  · simp only [h, m.get?_of_notMem h, Option.isSome_none, Bool.false_eq_true]

theorem contains_eq (m : FiniteMap K V) (k : K) : m.contains k = (m.get? k).isSome := by
  rw [Bool.eq_iff_iff, contains, decide_eq_true_iff, mem_keys_iff]

theorem ext_get? {m m' : FiniteMap K V} (h : ∀ k, m.get? k = m'.get? k) : m = m' := by
  have hkeys : m.keys = m'.keys := by
    ext k
    rw [mem_keys_iff, mem_keys_iff, h k]
  obtain ⟨ks, f⟩ := m
  obtain ⟨ks', f'⟩ := m'
  cases hkeys
  congr 1
  funext k
  have hk := h k.1
  rw [get?_of_mem _ k.2, get?_of_mem _ k.2] at hk
  exact Option.some.inj hk

@[simp] theorem get?_empty (k : K) : (empty : FiniteMap K V).get? k = none :=
  get?_of_notMem _ (Finset.notMem_empty k)

@[simp] theorem get?_insert (m : FiniteMap K V) (k k' : K) (v : V) :
    (m.insert k v).get? k' = if k' = k then some v else m.get? k' := by
  by_cases h : k' = k
  · rw [get?_of_mem _ (h ▸ Finset.mem_insert_self k m.keys), if_pos h]
    simp only [insert, dif_pos h]
  · rw [if_neg h]
    by_cases hm : k' ∈ m.keys
    · rw [get?_of_mem _ (Finset.mem_insert_of_mem hm), get?_of_mem _ hm]
      simp only [insert, dif_neg h]
    · rw [get?_of_notMem _ hm, get?_of_notMem]
      exact fun hi => hm (Finset.mem_of_mem_insert_of_ne hi h)

theorem get?_emplace (m : FiniteMap K V) (k k' : K) (v : V) :
    (m.emplace k v).get? k' = if k' = k then some ((m.get? k).getD v) else m.get? k' := by
  by_cases hk : k ∈ m.keys
  · rw [emplace, contains, if_pos (decide_eq_true hk)]
    split
    · rename_i h
      rw [h, m.get?_of_mem hk, Option.getD_some]
    · rfl
  · rw [emplace, contains, if_neg (by rw [decide_eq_true_iff]; exact hk), get?_insert,
      m.get?_of_notMem hk, Option.getD_none]

@[simp] theorem get?_remove (m : FiniteMap K V) (k k' : K) :
    (m.remove k).get? k' = if k' = k then none else m.get? k' := by
  by_cases h : k' = k
  · rw [if_pos h, get?_of_notMem]
    exact fun hm => Finset.ne_of_mem_erase hm h
  · rw [if_neg h]
    by_cases hm : k' ∈ m.keys
    · rw [get?_of_mem _ (Finset.mem_erase_of_ne_of_mem h hm), get?_of_mem _ hm]
      rfl
    · rw [get?_of_notMem _ hm, get?_of_notMem]
      exact fun hi => hm (Finset.mem_of_mem_erase hi)

@[simp] theorem get?_mapVal (f : V → W) (m : FiniteMap K V) (k : K) :
    (m.mapVal f).get? k = (m.get? k).map f := by
  by_cases h : k ∈ m.keys
  · rw [get?_of_mem _ (show k ∈ (m.mapVal f).keys from h), get?_of_mem _ h]
    rfl
  · rw [get?_of_notMem _ (show k ∉ (m.mapVal f).keys from h), get?_of_notMem _ h]
    rfl

theorem mapVal_eq_empty {f : V → W} {m : FiniteMap K V} (h : m.mapVal f = empty) : m = empty := by
  apply ext_get?
  intro k
  have hk := congrArg (get? · k) h
  rw [get?_mapVal, get?_empty, Option.map_eq_none_iff] at hk
  rw [hk, get?_empty]

theorem remove_of_notMem (m : FiniteMap K V) (h : k ∉ m.keys) : m.remove k = m := by
  apply ext_get?
  intro k'
  rw [get?_remove]
  split
  · rename_i he
    rw [he, get?_of_notMem _ h]
  · rfl

end FiniteMap
