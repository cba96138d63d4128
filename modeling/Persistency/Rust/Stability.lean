import Persistency.Rust.JsonValue

namespace Persistency.Rust
set_option autoImplicit true

/-- The values that encoding and decoding leave alone. -/
structure Stable (v : KvsValue) : Prop where
  fits : IntegersFit v
  floats : v.Floats (· ≠ .nan)

theorem stable_null : Stable .null := ⟨trivial, trivial⟩

theorem Stable.array {elems : Fin n → KvsValue} (h : ∀ i, Stable (elems i)) :
    Stable (.array n elems) := ⟨fun i => (h i).fits, fun i => (h i).floats⟩

theorem Stable.object {keys : Finset String} {vals : {k // k ∈ keys} → KvsValue}
    (h : ∀ k, Stable (vals k)) : Stable (.object keys vals) :=
  ⟨fun k => (h k).fits, fun k => (h k).floats⟩

theorem Stable.roundTrip (h : Stable v) : (kvsValueFrom (jsonValueFrom v)).eq v := by
  rw [Rust.roundTrip v h.fits]
  exact KvsValue.eq_self h.floats

theorem stable_taggedValue (t : String) (h : j.Numbers (· ≠ .nan))
    (harray : ∀ n elems, j = .array n elems → ∀ i, Stable (kvsValueFrom (elems i)))
    (hobject : ∀ keys vals, j = .object keys vals → ∀ k, Stable (kvsValueFrom (vals k))) :
    Stable (taggedValue t j) := by
  fun_cases taggedValue t j with
  | case1 x => exact ⟨trivial, trivial⟩
  | case2 x => exact ⟨trivial, trivial⟩
  | case3 x => exact ⟨x.toI64_fits53, trivial⟩
  | case4 x => exact ⟨x.toU64_fits53, trivial⟩
  | case5 x => exact ⟨trivial, h⟩
  | case6 b => exact ⟨trivial, trivial⟩
  | case7 s => exact ⟨trivial, trivial⟩
  | case8 => exact stable_null
  | case9 n elems => exact .array (harray n elems rfl)
  | case10 keys vals => exact .object (hobject keys vals rfl)
  | case11 => exact stable_null

theorem stable_kvsValueFrom (j : JsonValue) :
    j.Numbers (· ≠ .nan) → Stable (kvsValueFrom j) ∧ ∀ t, Stable (taggedValue t j) := by
  intro h
  induction j with
  | array n elems ih =>
    apply And.intro stable_null
    intro t
    apply stable_taggedValue t h
    · rintro n elems ⟨⟩ i
      exact (ih i (h i)).1
    · intro keys vals he
      cases he
  | object keys vals ih =>
    apply And.intro
    · have hrest : Stable (.object ((keys.erase "t").erase "v") fun k => kvsValueFrom
          (vals ⟨k.1, Finset.mem_of_mem_erase (Finset.mem_of_mem_erase k.2)⟩)) :=
        .object fun k => (ih _ (h _)).1
      rw [kvsValueFrom]
      split
      · split
        · split
          · exact (ih _ (h _)).2 _
          · exact hrest
        · exact hrest
      · exact hrest
    · intro t
      apply stable_taggedValue t h
      · intro n elems he
        cases he
      · rintro keys vals ⟨⟩ k
        exact (ih k (h k)).1
  | _ =>
    apply And.intro stable_null
    intro t
    apply stable_taggedValue t h
    · intro n elems he
      cases he
    · intro keys vals he
      cases he

/-- Decoding a tree without NaN reaches a fixed point of encoding and decoding at once. -/
theorem decode_stable (j : JsonValue) (h : j.Numbers (· ≠ .nan)) :
    (kvsValueFrom (jsonValueFrom (kvsValueFrom j))).eq (kvsValueFrom j) :=
  (stable_kvsValueFrom j h).1.roundTrip

/-- An infinity read as an `i64` is saturated to the largest one, which the next pass keeps. -/
theorem decode_stable_infinity :
    (kvsValueFrom (jsonValueFrom (kvsValueFrom (.tagged "i64" (.number (.infinity false)))))).eq
      (kvsValueFrom (.tagged "i64" (.number (.infinity false)))) := by
  apply decode_stable
  rw [Json.numbers_tagged]
  nofun

end Persistency.Rust
