import Persistency.Cpp.Error
import Persistency.Value

namespace Persistency.Cpp
set_option autoImplicit true

/-- The numbers of `score::json`, whose code is not in the repository: an `Any` is made from a
number of a C++ type, and `As` reads it as one. -/
structure Numbers (N : Type) where
  ofI32 : Int32 → N
  ofU32 : UInt32 → N
  ofI64 : Int64 → N
  ofU64 : UInt64 → N
  ofF64 : Binary64 → N
  asI32 : N → Option Int32
  asU32 : N → Option UInt32
  asI64 : N → Option Int64
  asU64 : N → Option UInt64
  asF64 : N → Option Binary64

/-- `As` of the type that an `Any` was made from gives the number back. -/
structure Numbers.Lawful (num : Numbers N) : Prop where
  i32 : ∀ n, num.asI32 (num.ofI32 n) = some n
  u32 : ∀ n, num.asU32 (num.ofU32 n) = some n
  i64 : ∀ n, num.asI64 (num.ofI64 n) = some n
  u64 : ∀ n, num.asU64 (num.ofU64 n) = some n
  f64 : ∀ x, num.asF64 (num.ofF64 x) = some x

/-- The loops of the converters: all elements are converted, or the loop stops at a failure. -/
def collect [Fintype I] (f : I → Except ErrorCode α) : Option (I → α) :=
  if h : ∀ i, (f i).toOption.isSome = true then some fun i => (f i).toOption.get (h i) else none

theorem collect_ok [Fintype I] {f : I → Except ErrorCode α} (h : ∀ i, f i = .ok (g i)) :
    collect f = some g := by
  have hs : ∀ i, (f i).toOption.isSome = true := fun i => by rw [h i]; rfl
  rw [collect, dif_pos hs]
  congr 1
  funext i
  simp only [h i, Except.toOption, Option.get_some]

theorem collect_some [Fintype I] {f : I → Except ErrorCode α} (h : collect f = some g) (i : I) :
    f i = .ok (g i) := by
  rw [collect, Option.dite_none_right_eq_some] at h
  obtain ⟨hs, hg⟩ := h
  have hi := hs i
  cases hf : f i with
  | error e =>
    rw [hf] at hi
    cases hi
  | ok a =>
    have hget := congrFun (Option.some.inj hg) i
    simp only [hf, Except.toOption, Option.get_some] at hget
    rw [hget]

section Convert

variable (num : Numbers N)

mutual

def anyToKvsvalue : Json N → Except ErrorCode KvsValue
  | .object keys vals =>
    if h : "t" ∈ keys ∧ "v" ∈ keys then
      match vals ⟨"t", h.1⟩ with
      | .string typeStr => taggedAny typeStr (vals ⟨"v", h.2⟩)
      | _ => .error .invalidValueType
    else .error .invalidValueType
  | _ => .error .invalidValueType

def taggedAny : String → Json N → Except ErrorCode KvsValue
  | "i32", .number x =>
    match num.asI32 x with
    | some n => .ok (.i32 n)
    | none => .error .invalidValueType
  | "u32", .number x =>
    match num.asU32 x with
    | some n => .ok (.u32 n)
    | none => .error .invalidValueType
  | "i64", .number x =>
    match num.asI64 x with
    | some n => .ok (.i64 n)
    | none => .error .invalidValueType
  | "u64", .number x =>
    match num.asU64 x with
    | some n => .ok (.u64 n)
    | none => .error .invalidValueType
  | "f64", .number x =>
    match num.asF64 x with
    | some n => .ok (.f64 n)
    | none => .error .invalidValueType
  | "bool", .boolean b => .ok (.boolean b)
  | "str", .string s => .ok (.string s)
  | "null", .null => .ok .null
  | "arr", .array n elems =>
    match collect fun i => anyToKvsvalue (elems i) with
    | some arr => .ok (.array n arr)
    | none => .error .invalidValueType
  | "obj", .object keys vals =>
    match collect fun k => anyToKvsvalue (vals k) with
    | some map => .ok (.object keys map)
    | none => .error .invalidValueType
  | _, _ => .error .invalidValueType

end

def kvsvalueToAny : KvsValue → Except ErrorCode (Json N)
  | .i32 n => .ok (.tagged "i32" (.number (num.ofI32 n)))
  | .u32 n => .ok (.tagged "u32" (.number (num.ofU32 n)))
  | .i64 n => .ok (.tagged "i64" (.number (num.ofI64 n)))
  | .u64 n => .ok (.tagged "u64" (.number (num.ofU64 n)))
  | .f64 x => .ok (.tagged "f64" (.number (num.ofF64 x)))
  | .boolean b => .ok (.tagged "bool" (.boolean b))
  | .string s => .ok (.tagged "str" (.string s))
  | .null => .ok (.tagged "null" .null)
  | .array n elems =>
    match collect fun i => kvsvalueToAny (elems i) with
    | some list => .ok (.tagged "arr" (.array n list))
    | none => .error .invalidValueType
  | .object keys vals =>
    match collect fun k => kvsvalueToAny (vals k) with
    | some inner => .ok (.tagged "obj" (.object keys inner))
    | none => .error .invalidValueType

theorem anyToKvsvalue_ofMap (m : JsonObject N) :
    anyToKvsvalue num (.ofMap m) =
      match m.get? "t", m.get? "v" with
      | some (.string typeStr), some value => taggedAny num typeStr value
      | _, _ => .error .invalidValueType := by
  obtain ⟨keys, vals⟩ := m
  simp only [Json.ofMap, anyToKvsvalue]
  by_cases ht : "t" ∈ keys
  · by_cases hv : "v" ∈ keys
    · rw [dif_pos ⟨ht, hv⟩, FiniteMap.get?_of_mem _ ht, FiniteMap.get?_of_mem _ hv]
      dsimp only
      cases vals ⟨"t", ht⟩ <;> rfl
    · rw [dif_neg fun h => hv h.2, FiniteMap.get?_of_mem _ ht, FiniteMap.get?_of_notMem _ hv]
      dsimp only
      cases vals ⟨"t", ht⟩ <;> rfl
  · rw [dif_neg fun h => ht h.1, FiniteMap.get?_of_notMem _ ht]

theorem anyToKvsvalue_tagged (t : String) (v : Json N) :
    anyToKvsvalue num (.tagged t v) = taggedAny num t v := by
  rw [Json.tagged, anyToKvsvalue_ofMap]
  simp only [FiniteMap.get?_insert, String.reduceEq, ↓reduceIte]

def encoded : KvsValue → Json N
  | .i32 n => .tagged "i32" (.number (num.ofI32 n))
  | .u32 n => .tagged "u32" (.number (num.ofU32 n))
  | .i64 n => .tagged "i64" (.number (num.ofI64 n))
  | .u64 n => .tagged "u64" (.number (num.ofU64 n))
  | .f64 x => .tagged "f64" (.number (num.ofF64 x))
  | .boolean b => .tagged "bool" (.boolean b)
  | .string s => .tagged "str" (.string s)
  | .null => .tagged "null" .null
  | .array n elems => .tagged "arr" (.array n fun i => encoded (elems i))
  | .object keys vals => .tagged "obj" (.object keys fun k => encoded (vals k))

theorem kvsvalueToAny_eq (v : KvsValue) : kvsvalueToAny num v = .ok (encoded num v) := by
  induction v with
  | array n elems ih => rw [kvsvalueToAny, collect_ok ih, encoded]
  | object keys vals ih => rw [kvsvalueToAny, collect_ok ih, encoded]
  | _ => rfl

theorem anyToKvsvalue_encoded (hnum : num.Lawful) (v : KvsValue) :
    anyToKvsvalue num (encoded num v) = .ok v := by
  induction v with
  | i32 n => rw [encoded, anyToKvsvalue_tagged, taggedAny, hnum.i32]
  | u32 n => rw [encoded, anyToKvsvalue_tagged, taggedAny, hnum.u32]
  | i64 n => rw [encoded, anyToKvsvalue_tagged, taggedAny, hnum.i64]
  | u64 n => rw [encoded, anyToKvsvalue_tagged, taggedAny, hnum.u64]
  | f64 x => rw [encoded, anyToKvsvalue_tagged, taggedAny, hnum.f64]
  | boolean b => rw [encoded, anyToKvsvalue_tagged, taggedAny]
  | string s => rw [encoded, anyToKvsvalue_tagged, taggedAny]
  | null => rw [encoded, anyToKvsvalue_tagged, taggedAny]
  | array n elems ih => rw [encoded, anyToKvsvalue_tagged, taggedAny, collect_ok ih]
  | object keys vals ih => rw [encoded, anyToKvsvalue_tagged, taggedAny, collect_ok ih]

end Convert

end Persistency.Cpp
