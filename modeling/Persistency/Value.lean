import Persistency.Library.FiniteMap
import Persistency.Library.Binary64

namespace Persistency
set_option autoImplicit true

/-- A value of the store. Both implementations have the same ten alternatives; a vector is a
family over its indices and a map is a family over its keys. -/
inductive KvsValue where
  | i32 (n : Int32)
  | u32 (n : UInt32)
  | i64 (n : Int64)
  | u64 (n : UInt64)
  | f64 (x : Binary64)
  | boolean (b : Bool)
  | string (s : String)
  | null
  | array (n : Nat) (elems : Fin n → KvsValue)
  | object (keys : Finset String) (vals : {k // k ∈ keys} → KvsValue)

abbrev KvsMap := FiniteMap String KvsValue

def KvsValue.ofMap (m : KvsMap) : KvsValue := .object m.keys m.val

theorem KvsValue.ofMap_injective : Function.Injective ofMap := by
  intro m m' h
  obtain ⟨keys, val⟩ := m
  obtain ⟨keys', val'⟩ := m'
  simpa only [ofMap, object.injEq, FiniteMap.mk.injEq] using h

def answer : KvsMap := .insert .empty "answer" (.i32 42)

inductive Json (N : Type) where
  | null
  | boolean (b : Bool)
  | number (x : N)
  | string (s : String)
  | array (n : Nat) (elems : Fin n → Json N)
  | object (keys : Finset String) (vals : {k // k ∈ keys} → Json N)

abbrev JsonObject (N : Type) := FiniteMap String (Json N)

def Json.ofMap (m : JsonObject N) : Json N := .object m.keys m.val

def Json.tagged (t : String) (v : Json N) : Json N :=
  .ofMap ((FiniteMap.empty.insert "t" (.string t)).insert "v" v)

def Json.Numbers (P : N → Prop) : Json N → Prop
  | .number x => P x
  | .array _ elems => ∀ i, (elems i).Numbers P
  | .object _ vals => ∀ k, (vals k).Numbers P
  | _ => True

theorem Json.numbers_ofMap (P : N → Prop) (m : JsonObject N) :
    (Json.ofMap m).Numbers P ↔ ∀ k v, m.get? k = some v → v.Numbers P := by
  apply Iff.intro
  · intro h k v hv
    obtain ⟨hk, rfl⟩ := m.get?_eq_some.1 hv
    exact h ⟨k, hk⟩
  · intro h k
    exact h k.1 _ (m.get?_of_mem k.2)

theorem Json.numbers_tagged (P : N → Prop) (t : String) (v : Json N) :
    (tagged t v).Numbers P ↔ v.Numbers P := by
  rw [tagged, numbers_ofMap]
  apply Iff.intro
  · intro h
    exact h "v" v (by rw [FiniteMap.get?_insert, if_pos rfl])
  · intro h k w hw
    rw [FiniteMap.get?_insert, FiniteMap.get?_insert, FiniteMap.get?_empty] at hw
    split at hw
    · cases hw
      exact h
    · split at hw
      · cases hw
        trivial
      · cases hw

def KvsValue.Floats (P : Binary64 → Prop) : KvsValue → Prop
  | .f64 x => P x
  | .array _ elems => ∀ i, (elems i).Floats P
  | .object _ vals => ∀ k, (vals k).Floats P
  | _ => True

theorem KvsValue.floats_ofMap (P : Binary64 → Prop) (m : KvsMap) :
    (ofMap m).Floats P ↔ ∀ k v, m.get? k = some v → v.Floats P := by
  apply Iff.intro
  · intro h k v hv
    obtain ⟨hk, rfl⟩ := m.get?_eq_some.1 hv
    exact h ⟨k, hk⟩
  · intro h k
    exact h k.1 _ (m.get?_of_mem k.2)

theorem KvsValue.Floats.mono {P Q : Binary64 → Prop} (hpq : ∀ x, P x → Q x) {v : KvsValue}
    (h : v.Floats P) : v.Floats Q := by
  induction v with
  | f64 x => exact hpq x h
  | array n elems ih => exact fun i => ih i (h i)
  | object keys vals ih => exact fun k => ih k (h k)
  | _ => trivial

abbrev KvsValue.Finite : KvsValue → Prop := KvsValue.Floats Binary64.IsFinite

/-- The derived equality of values: floats are compared by `==`, everything else structurally. -/
def KvsValue.eq : KvsValue → KvsValue → Prop
  | .f64 x, .f64 y => x.eq y = true
  | .array n elems, .array n' elems' =>
    n = n' ∧ ∀ i (h : i < n) (h' : i < n'), (elems ⟨i, h⟩).eq (elems' ⟨i, h'⟩)
  | .object keys vals, .object keys' vals' =>
    keys = keys' ∧ ∀ k (h : k ∈ keys) (h' : k ∈ keys'), (vals ⟨k, h⟩).eq (vals' ⟨k, h'⟩)
  | .i32 n, .i32 n' => n = n'
  | .u32 n, .u32 n' => n = n'
  | .i64 n, .i64 n' => n = n'
  | .u64 n, .u64 n' => n = n'
  | .boolean b, .boolean b' => b = b'
  | .string s, .string s' => s = s'
  | .null, .null => True
  | _, _ => False

theorem KvsValue.eq_self {v : KvsValue} (h : v.Floats (· ≠ .nan)) : v.eq v := by
  induction v with
  | f64 x => exact x.eq_self h
  | array n elems ih => exact ⟨rfl, fun i hi _ => ih ⟨i, hi⟩ (h _)⟩
  | object keys vals ih => exact ⟨rfl, fun k hk _ => ih ⟨k, hk⟩ (h _)⟩
  | null => trivial
  | _ => rfl

end Persistency
