import Persistency.Library.Adler32
import Persistency.Rust.Slots

namespace Persistency.Rust
set_option autoImplicit true

theorem integer_isFinite {n : Int} (hlo : -2 ^ 63 ≤ n) (hhi : n < 2 ^ 64) :
    (Binary64.ofInt n).IsFinite := by
  apply Binary64.ofInt_isFinite
  have hlog : n.natAbs.log2 < 65 := Binary64.log2_lt_of_lt (by omega) (by omega)
  omega

theorem jsonValueFrom_finite (v : KvsValue) :
    (jsonValueFrom v).Numbers Binary64.IsFinite ↔ v.Finite := by
  induction v with
  | i32 n =>
    have hlo := n.le_toInt
    have hhi := n.toInt_lt
    rw [jsonValueFrom, Json.numbers_tagged]
    exact iff_of_true (integer_isFinite (by omega) (by omega)) trivial
  | u32 n =>
    have hhi := n.toNat_lt
    rw [jsonValueFrom, Json.numbers_tagged]
    exact iff_of_true (integer_isFinite (by omega) (by omega)) trivial
  | i64 n =>
    have hlo := n.le_toInt
    have hhi := n.toInt_lt
    rw [jsonValueFrom, Json.numbers_tagged]
    exact iff_of_true (integer_isFinite (by omega) (by omega)) trivial
  | u64 n =>
    have hhi := n.toNat_lt
    rw [jsonValueFrom, Json.numbers_tagged]
    exact iff_of_true (integer_isFinite (by omega) (by omega)) trivial
  | f64 x =>
    rw [jsonValueFrom, Json.numbers_tagged]
    rfl
  | boolean b | string s | null =>
    rw [jsonValueFrom, Json.numbers_tagged]
    rfl
  | array n elems ih =>
    rw [jsonValueFrom, Json.numbers_tagged]
    exact forall_congr' ih
  | object keys vals ih =>
    rw [jsonValueFrom, Json.numbers_tagged]
    exact forall_congr' ih

/-- The map that comes back from the encoding of a map. -/
def decoded (m : KvsMap) : KvsMap := m.mapVal fun v => kvsValueFrom (jsonValueFrom v)

theorem kvsValueFrom_map (m : KvsMap) :
    kvsValueFrom (jsonValueFrom (.ofMap m)) = .ofMap (decoded m) := by
  simp only [KvsValue.ofMap, jsonValueFrom, kvsValueFrom_tagged, taggedValue]
  rfl

theorem integersFit_ofMap (m : KvsMap) :
    IntegersFit (.ofMap m) ↔ ∀ k v, m.get? k = some v → IntegersFit v := by
  apply Iff.intro
  · intro h k v hv
    obtain ⟨hk, rfl⟩ := m.get?_eq_some.1 hv
    exact h ⟨k, hk⟩
  · intro h k
    exact h k.1 _ (m.get?_of_mem k.2)

theorem decoded_eq (m : KvsMap) (h : IntegersFit (.ofMap m)) : decoded m = m := by
  apply KvsValue.ofMap_injective
  rw [← kvsValueFrom_map, roundTrip _ h]

theorem integersFit_of_eq (v : KvsValue) (h : (kvsValueFrom (jsonValueFrom v)).eq v) :
    IntegersFit v := by
  induction v with
  | i64 n =>
    simp only [jsonValueFrom, kvsValueFrom_tagged, taggedValue, KvsValue.eq] at h
    exact (Binary64.toI64_ofInt_iff n).1 h
  | u64 n =>
    simp only [jsonValueFrom, kvsValueFrom_tagged, taggedValue, KvsValue.eq] at h
    exact (Binary64.toU64_ofInt_iff n).1 h
  | array n elems ih =>
    simp only [jsonValueFrom, kvsValueFrom_tagged, taggedValue, KvsValue.eq, true_and] at h
    exact fun i => ih i (h i.1 i.2 i.2)
  | object keys vals ih =>
    simp only [jsonValueFrom, kvsValueFrom_tagged, taggedValue, KvsValue.eq, true_and] at h
    exact fun k => ih k (h k.1 k.2 k.2)
  | _ => trivial

theorem eq_iff_integersFit (h : v.Finite) :
    (kvsValueFrom (jsonValueFrom v)).eq v ↔ IntegersFit v := by
  apply Iff.intro
  · exact integersFit_of_eq v
  · intro hfit
    rw [roundTrip v hfit]
    exact KvsValue.eq_self (h.mono fun x hx => by rintro rfl; exact hx)

theorem decoded_eq_iff (h : (KvsValue.ofMap m).Finite) :
    decoded m = m ↔ IntegersFit (.ofMap m) := by
  apply Iff.intro
  · intro he
    rw [← eq_iff_integersFit h, kvsValueFrom_map, he]
    exact KvsValue.eq_self (h.mono fun x hx => by rintro rfl; exact hx)
  · exact decoded_eq m

/-- The values that come back from their encoding. -/
def JsonExact (v : KvsValue) : Prop := v.Finite ∧ IntegersFit v

theorem jsonExact_ofMap (m : KvsMap) :
    JsonExact (.ofMap m) ↔ ∀ k v, m.get? k = some v → JsonExact v := by
  rw [JsonExact, KvsValue.Finite, KvsValue.floats_ofMap, integersFit_ofMap]
  apply Iff.intro
  · intro h k v hv
    exact ⟨h.1 k v hv, h.2 k v hv⟩
  · intro h
    exact ⟨fun k v hv => (h k v hv).1, fun k v hv => (h k v hv).2⟩

theorem jsonExact_empty : JsonExact (.ofMap .empty) := by
  rw [jsonExact_ofMap]
  intro k v hv
  rw [FiniteMap.get?_empty] at hv
  cases hv

theorem JsonExact.insert (hm : JsonExact (.ofMap m)) (hv : JsonExact v) (key : String) :
    JsonExact (.ofMap (m.insert key v)) := by
  rw [jsonExact_ofMap] at hm ⊢
  intro k w hw
  rw [FiniteMap.get?_insert] at hw
  split at hw
  · cases hw
    exact hv
  · exact hm k w hw

theorem JsonExact.remove (hm : JsonExact (.ofMap m)) (key : String) :
    JsonExact (.ofMap (m.remove key)) := by
  rw [jsonExact_ofMap] at hm ⊢
  intro k w hw
  rw [FiniteMap.get?_remove] at hw
  split at hw
  · cases hw
  · exact hm k w hw

section Text

variable {c : Crates} {m : KvsMap}

theorem Crates.TinyJson.decodeText_written (hc : c.TinyJson)
    (ht : c.stringify (jsonValueFrom (.ofMap m)) = some text) (hm : (KvsValue.ofMap m).Finite) :
    decodeText c text = .ok (decoded m) := by
  obtain ⟨text', hs, hp⟩ := hc.finite _ ((jsonValueFrom_finite _).2 hm)
  rw [ht, Option.some.injEq] at hs
  simp only [decodeText, hs, hp, kvsValueFrom_map]
  rfl

theorem Crates.TinyJson.text (hc : c.TinyJson) (hm : (KvsValue.ofMap m).Finite) :
    ∃ text, c.stringify (jsonValueFrom (.ofMap m)) = some text ∧
      decodeText c text = .ok (decoded m) := by
  obtain ⟨text, ht, -⟩ := hc.finite _ ((jsonValueFrom_finite _).2 hm)
  exact ⟨text, ht, hc.decodeText_written ht hm⟩

theorem Crates.TinyJson.refused (hc : c.TinyJson) (hm : ¬ (KvsValue.ofMap m).Finite) :
    c.stringify (jsonValueFrom (.ofMap m)) = none :=
  hc.refuses _ fun h => hm ((jsonValueFrom_finite _).1 h)

end Text

/-- Encoding and decoding a value of finite numbers gives an equal value exactly when its integers
fit, and so does saving and loading a map. -/
theorem roundTrip_iff (hc : c.TinyJson) :
    (∀ v : KvsValue, v.Finite → ((kvsValueFrom (jsonValueFrom v)).eq v ↔ IntegersFit v)) ∧
    ∀ (m : KvsMap) (p q : Path) (disk : Fs), (KvsValue.ofMap m).Finite →
      JsonBackend.checkPathExtensions p q = .ok () →
      ((JsonBackend.save c m p q).run disk).1 = .ok () ∧
        ∃ m', JsonBackend.load c p q ((JsonBackend.save c m p q).run disk).2 = .ok m' ∧
          ((KvsValue.ofMap m').eq (.ofMap m) ↔ IntegersFit (.ofMap m)) := by
  refine ⟨fun v hv => eq_iff_integersFit hv, ?_⟩
  intro m p q disk hm hext
  obtain ⟨text, ht, hd⟩ := hc.text hm
  have hsave : JsonBackend.save c m p q disk = _ := save_ok hext ht
  rw [Disk.Prog.run, hsave]
  refine ⟨rfl, decoded m, ?_, ?_⟩
  · rw [load_saved hext, hd]
  · rw [← kvsValueFrom_map]
    exact eq_iff_integersFit hm

theorem i64_not_fits : ¬ IntegersFit (.i64 9007199254740993) := by
  intro h
  rcases h with h | h
  · exact absurd h (by decide)
  · exact absurd h (by decide)

/-- The integer `2 ^ 53 + 1` comes back as `2 ^ 53`. -/
theorem roundTrip_inexact :
    ¬ (kvsValueFrom (jsonValueFrom (.i64 9007199254740993))).eq (.i64 9007199254740993) :=
  fun h => i64_not_fits (integersFit_of_eq _ h)

theorem exists_crates_parse (j : JsonValue) (text : String) :
    ∃ c : Crates, c.TinyJson ∧ c.adler32 = Adler32.checksum ∧ c.parse text = some j ∧
      (j.Numbers Binary64.IsFinite → c.stringify j = some text) := by
  classical
  obtain ⟨write, read, hread, rfl⟩ := exists_textFormat j text
  refine ⟨⟨read, fun j => if j.Numbers Binary64.IsFinite then some (write j) else none,
    Adler32.checksum⟩, ⟨?_, ?_⟩, rfl, hread j, fun hj => if_pos hj⟩
  · intro j hj
    exact ⟨write j, if_pos hj, hread j⟩
  · intro j hj
    exact if_neg hj

theorem exists_crates_tree (j : JsonValue) (hj : j.Numbers Binary64.IsFinite) (text : String) :
    ∃ c : Crates, c.TinyJson ∧ c.adler32 = Adler32.checksum ∧ c.stringify j = some text ∧
      c.parse text = some j := by
  obtain ⟨c, hc, hadler, hparse, hwrite⟩ := exists_crates_parse j text
  exact ⟨c, hc, hadler, hwrite hj, hparse⟩

theorem exists_crates (m : KvsMap) (hm : (KvsValue.ofMap m).Finite) (text : String) :
    ∃ c : Crates, c.TinyJson ∧ c.adler32 = Adler32.checksum ∧
      c.stringify (jsonValueFrom (.ofMap m)) = some text := by
  obtain ⟨c, hc, hadler, ht, -⟩ :=
    exists_crates_tree _ ((jsonValueFrom_finite (.ofMap m)).2 hm) text
  exact ⟨c, hc, hadler, ht⟩

theorem insert_not_finite (hv : ¬ v.Finite) (m : KvsMap) (key : String) :
    ¬ (KvsValue.ofMap (m.insert key v)).Finite := by
  rw [KvsValue.Finite, KvsValue.floats_ofMap]
  intro h
  exact hv (h key v (by rw [FiniteMap.get?_insert, if_pos rfl]))

theorem nan_not_finite (m : KvsMap) : ¬ (KvsValue.ofMap (m.insert "nan" (.f64 .nan))).Finite :=
  insert_not_finite (v := .f64 .nan) (fun h => h) m "nan"

def answerText : String :=
  "\x7b\"t\":\"obj\",\"v\":\x7b\"answer\":\x7b\"t\":\"i32\",\"v\":42\x7d\x7d\x7d"

theorem answer_exact : JsonExact (.ofMap answer) :=
  jsonExact_empty.insert (v := .i32 42) ⟨trivial, trivial⟩ "answer"

theorem roundTrip_answer : ∃ c : Crates, c.TinyJson ∧
    c.stringify (jsonValueFrom (.ofMap answer)) = some answerText ∧
    (kvsValueFrom (jsonValueFrom (.ofMap answer))).eq (.ofMap answer) ∧
    ∃ m', JsonBackend.load c (JsonBackend.default.kvsFilePath 1 0)
        (JsonBackend.default.hashFilePath 1 0)
        ((JsonBackend.save c answer (JsonBackend.default.kvsFilePath 1 0)
          (JsonBackend.default.hashFilePath 1 0)).run fun _ => none).2 = .ok m' ∧
      (KvsValue.ofMap m').eq (.ofMap answer) := by
  obtain ⟨c, hc, -, ht⟩ := exists_crates answer answer_exact.1 answerText
  obtain ⟨hv, hm⟩ := roundTrip_iff hc
  obtain ⟨-, m', hl, he⟩ := hm answer _ _ (fun _ => none) answer_exact.1
    (JsonBackend.default.checkPathExtensions_slot 1 0)
  exact ⟨c, hc, ht, (hv _ answer_exact.1).2 answer_exact.2, m', hl, he.2 answer_exact.2⟩

end Persistency.Rust
