import Persistency.Value

namespace Persistency.Rust
set_option autoImplicit true

abbrev JsonValue := Json Binary64

mutual

/-- `From<JsonValue> for KvsValue`. An object with a string under `t` and anything under `v` is
read as a tagged value; the two members are removed from the object before that is decided. -/
def kvsValueFrom : JsonValue → KvsValue
  | .object keys vals =>
    let rest := KvsValue.object ((keys.erase "t").erase "v") fun k =>
      kvsValueFrom (vals ⟨k.1, Finset.mem_of_mem_erase (Finset.mem_of_mem_erase k.2)⟩)
    if ht : "t" ∈ keys then
      match vals ⟨"t", ht⟩ with
      | .string typeStr =>
        if hv : "v" ∈ keys then taggedValue typeStr (vals ⟨"v", hv⟩) else rest
      | _ => rest
    else rest
  | _ => .null

def taggedValue : String → JsonValue → KvsValue
  | "i32", .number v => .i32 v.toI32
  | "u32", .number v => .u32 v.toU32
  | "i64", .number v => .i64 v.toI64
  | "u64", .number v => .u64 v.toU64
  | "f64", .number v => .f64 v
  | "bool", .boolean v => .boolean v
  | "str", .string v => .string v
  | "null", .null => .null
  | "arr", .array n v => .array n fun i => kvsValueFrom (v i)
  | "obj", .object keys v => .object keys fun k => kvsValueFrom (v k)
  | _, _ => .null

end

/-- `From<KvsValue> for JsonValue`. -/
def jsonValueFrom : KvsValue → JsonValue
  | .i32 n => .tagged "i32" (.number (.ofInt n.toInt))
  | .u32 n => .tagged "u32" (.number (.ofInt n.toNat))
  | .i64 n => .tagged "i64" (.number (.ofInt n.toInt))
  | .u64 n => .tagged "u64" (.number (.ofInt n.toNat))
  | .f64 n => .tagged "f64" (.number n)
  | .boolean b => .tagged "bool" (.boolean b)
  | .string s => .tagged "str" (.string s)
  | .null => .tagged "null" .null
  | .array n arr => .tagged "arr" (.array n fun i => jsonValueFrom (arr i))
  | .object keys map => .tagged "obj" (.object keys fun k => jsonValueFrom (map k))

theorem kvsValueFrom_ofMap (m : JsonObject Binary64) :
    kvsValueFrom (.ofMap m) =
      match m.get? "t", m.get? "v" with
      | some (.string typeStr), some value => taggedValue typeStr value
      | _, _ => .ofMap (((m.remove "t").remove "v").mapVal kvsValueFrom) := by
  obtain ⟨keys, vals⟩ := m
  simp only [Json.ofMap, kvsValueFrom]
  by_cases ht : "t" ∈ keys
  · rw [dif_pos ht, FiniteMap.get?_of_mem _ ht]
    dsimp only
    cases vals ⟨"t", ht⟩ with
    | string typeStr =>
      by_cases hv : "v" ∈ keys
      · rw [FiniteMap.get?_of_mem _ hv]
        exact dif_pos hv
      · rw [FiniteMap.get?_of_notMem _ hv]
        exact dif_neg hv
    | _ => rfl
  · rw [dif_neg ht, FiniteMap.get?_of_notMem _ ht]
    rfl

theorem kvsValueFrom_tagged (t : String) (v : JsonValue) :
    kvsValueFrom (.tagged t v) = taggedValue t v := by
  rw [Json.tagged, kvsValueFrom_ofMap]
  simp only [FiniteMap.get?_insert, String.reduceEq, ↓reduceIte]

theorem kvsValueFrom_untagged (m : JsonObject Binary64) (h : ∀ s, m.get? "t" ≠ some (.string s)) :
    kvsValueFrom (.ofMap m) = .ofMap (((m.remove "t").remove "v").mapVal kvsValueFrom) := by
  rw [kvsValueFrom_ofMap]
  split
  · rename_i s _ ht _
    exact absurd ht (h s)
  · rfl

/-- Every 64-bit integer leaf has a 53-bit significand or is the largest of its type. -/
def IntegersFit : KvsValue → Prop
  | .i64 n => Binary64.Fits53 n.toInt.natAbs ∨ n.toInt = 2 ^ 63 - 1
  | .u64 n => Binary64.Fits53 n.toNat ∨ n.toNat = 2 ^ 64 - 1
  | .array _ elems => ∀ i, IntegersFit (elems i)
  | .object _ vals => ∀ k, IntegersFit (vals k)
  | _ => True

theorem roundTrip (v : KvsValue) : IntegersFit v → kvsValueFrom (jsonValueFrom v) = v := by
  intro h
  induction v with
  | i32 n => simp only [jsonValueFrom, kvsValueFrom_tagged, taggedValue, Binary64.toI32_ofInt]
  | u32 n => simp only [jsonValueFrom, kvsValueFrom_tagged, taggedValue, Binary64.toU32_ofInt]
  | i64 n =>
    simp only [jsonValueFrom, kvsValueFrom_tagged, taggedValue, (Binary64.toI64_ofInt_iff n).2 h]
  | u64 n =>
    simp only [jsonValueFrom, kvsValueFrom_tagged, taggedValue, (Binary64.toU64_ofInt_iff n).2 h]
  | f64 x => simp only [jsonValueFrom, kvsValueFrom_tagged, taggedValue]
  | boolean b => simp only [jsonValueFrom, kvsValueFrom_tagged, taggedValue]
  | string s => simp only [jsonValueFrom, kvsValueFrom_tagged, taggedValue]
  | null => simp only [jsonValueFrom, kvsValueFrom_tagged, taggedValue]
  | array n elems ih =>
    simp only [jsonValueFrom, kvsValueFrom_tagged, taggedValue]
    congr 1
    funext i
    exact ih i (h i)
  | object keys vals ih =>
    simp only [jsonValueFrom, kvsValueFrom_tagged, taggedValue]
    congr 1
    funext k
    exact ih k (h k)

end Persistency.Rust
