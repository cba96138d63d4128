import Persistency.Cpp.Slots

namespace Persistency.Cpp
set_option autoImplicit true

/-- The value comes back from its conversion to an `Any`, with the same type, the same elements
in the same order and the same keys at every node. -/
theorem codec_roundTrip (num : Numbers N) (hnum : num.Lawful) (v : KvsValue) :
    ∃ any, kvsvalueToAny num v = .ok any ∧ anyToKvsvalue num any = .ok v :=
  ⟨encoded num v, kvsvalueToAny_eq num v, anyToKvsvalue_encoded num hnum v⟩

theorem codec_roundTrip_tags :
    let v : KvsValue := .ofMap ((FiniteMap.empty.insert "t" (.string "arr")).insert "v"
      (.array 2 fun i => if i = 0 then .i64 (-9223372036854775808) else .null))
    ∃ any, kvsvalueToAny numbers v = .ok any ∧ anyToKvsvalue numbers any = .ok v :=
  codec_roundTrip numbers numbers_lawful _

/-- `As` succeeds exactly on the numbers that have the value of some number of the type, and
gives a number with that value. -/
structure Reads (same : N → N → Prop) (of : T → N) (as : N → Option T) : Prop where
  sound : ∀ x n, as x = some n → same (of n) x
  complete : ∀ x, (∃ n, same (of n) x) → (as x).isSome = true

structure Numbers.Exact (num : Numbers N) (same : N → N → Prop) : Prop where
  i32 : Reads same num.ofI32 num.asI32
  u32 : Reads same num.ofU32 num.asU32
  i64 : Reads same num.ofI64 num.asI64
  u64 : Reads same num.ofU64 num.asU64
  f64 : Reads same num.ofF64 num.asF64

def Tagged (j : Json N) (t : String) (v : Json N) : Prop :=
  ∃ m : JsonObject N, j = .ofMap m ∧ m.get? "t" = some (.string t) ∧ m.get? "v" = some v

theorem tagged_self (t : String) (v : Json N) : Tagged (.tagged t v) t v :=
  ⟨_, rfl, by simp, by simp⟩

section Grammar

variable (num : Numbers N) (same : N → N → Prop) (float : N → Prop)

/-- The tagged grammar. An integer type takes the numbers that it can represent, and the type
`f64` takes the numbers in `float`. -/
inductive WellTyped : Json N → Prop
  | i32 (h : Tagged j "i32" (.number x)) (hx : same (num.ofI32 n) x) : WellTyped j
  | u32 (h : Tagged j "u32" (.number x)) (hx : same (num.ofU32 n) x) : WellTyped j
  | i64 (h : Tagged j "i64" (.number x)) (hx : same (num.ofI64 n) x) : WellTyped j
  | u64 (h : Tagged j "u64" (.number x)) (hx : same (num.ofU64 n) x) : WellTyped j
  | f64 (h : Tagged j "f64" (.number x)) (hx : float x) : WellTyped j
  | boolean (h : Tagged j "bool" (.boolean b)) : WellTyped j
  | string (h : Tagged j "str" (.string s)) : WellTyped j
  | null (h : Tagged j "null" .null) : WellTyped j
  | arr (h : Tagged j "arr" (.array n elems)) (he : ∀ i, WellTyped (elems i)) : WellTyped j
  | obj (h : Tagged j "obj" (.object keys vals)) (hv : ∀ k, WellTyped (vals k)) : WellTyped j

/-- The second tree is the first one with nothing but `t` and `v` left at each tagged node; numbers
are compared by value. -/
inductive Stripped : Json N → Json N → Prop
  | number (h : Tagged j t (.number x)) (hx : same x' x) : Stripped j (.tagged t (.number x'))
  | boolean (h : Tagged j t (.boolean b)) : Stripped j (.tagged t (.boolean b))
  | string (h : Tagged j t (.string s)) : Stripped j (.tagged t (.string s))
  | null (h : Tagged j t .null) : Stripped j (.tagged t .null)
  | arr {n : Nat} {elems elems' : Fin n → Json N} (h : Tagged j t (.array n elems))
    (he : ∀ i, Stripped (elems i) (elems' i)) : Stripped j (.tagged t (.array n elems'))
  | obj {keys : Finset String} {vals vals' : {k // k ∈ keys} → Json N}
    (h : Tagged j t (.object keys vals)) (hv : ∀ k, Stripped (vals k) (vals' k)) :
    Stripped j (.tagged t (.object keys vals'))

def IsDouble (x : N) : Prop := ∃ y, same (num.ofF64 y) x

def Sound (j : Json N) : Prop :=
  ∀ v, anyToKvsvalue num j = .ok v → WellTyped num same (IsDouble num same) j

variable {num same float}

theorem Tagged.anyToKvsvalue (h : Tagged j t v) : anyToKvsvalue num j = taggedAny num t v := by
  obtain ⟨m, rfl, ht, hv⟩ := h
  rw [anyToKvsvalue_ofMap, ht, hv]

theorem exists_tagged (h : anyToKvsvalue num j = .ok v) :
    ∃ t value, Tagged j t value ∧ taggedAny num t value = .ok v := by
  cases j with
  | object keys vals =>
    have hm := anyToKvsvalue_ofMap num ⟨keys, vals⟩
    rw [Json.ofMap, h] at hm
    split at hm
    · rename_i t value ht hv
      exact ⟨t, value, ⟨_, rfl, ht, hv⟩, hm.symm⟩
    · cases hm
  | _ => cases h

theorem taggedAny_error (h : taggedAny num t v = .error e) : e = .invalidValueType := by
  unfold taggedAny at h
  grind

/-- Every well-typed tree is decoded, and encoding the value gives the tree back, stripped. -/
theorem WellTyped.decodes (hnum : num.Exact same)
    (h : WellTyped num same (IsDouble num same) j) :
    ∃ v, Cpp.anyToKvsvalue num j = .ok v ∧ Stripped same j (encoded num v) := by
  induction h with
  | i32 h hx =>
    obtain ⟨n, hn⟩ := Option.isSome_iff_exists.1 (hnum.i32.complete _ ⟨_, hx⟩)
    exact ⟨.i32 n, by rw [h.anyToKvsvalue, taggedAny, hn], .number h (hnum.i32.sound _ n hn)⟩
  | u32 h hx =>
    obtain ⟨n, hn⟩ := Option.isSome_iff_exists.1 (hnum.u32.complete _ ⟨_, hx⟩)
    exact ⟨.u32 n, by rw [h.anyToKvsvalue, taggedAny, hn], .number h (hnum.u32.sound _ n hn)⟩
  | i64 h hx =>
    obtain ⟨n, hn⟩ := Option.isSome_iff_exists.1 (hnum.i64.complete _ ⟨_, hx⟩)
    exact ⟨.i64 n, by rw [h.anyToKvsvalue, taggedAny, hn], .number h (hnum.i64.sound _ n hn)⟩
  | u64 h hx =>
    obtain ⟨n, hn⟩ := Option.isSome_iff_exists.1 (hnum.u64.complete _ ⟨_, hx⟩)
    exact ⟨.u64 n, by rw [h.anyToKvsvalue, taggedAny, hn], .number h (hnum.u64.sound _ n hn)⟩
  | f64 h hx =>
    obtain ⟨y, hy⟩ := Option.isSome_iff_exists.1 (hnum.f64.complete _ hx)
    exact ⟨.f64 y, by rw [h.anyToKvsvalue, taggedAny, hy], .number h (hnum.f64.sound _ y hy)⟩
  | boolean h => exact ⟨_, by rw [h.anyToKvsvalue, taggedAny], .boolean h⟩
  | string h => exact ⟨_, by rw [h.anyToKvsvalue, taggedAny], .string h⟩
  | null h => exact ⟨.null, by rw [h.anyToKvsvalue, taggedAny], .null h⟩
  | @arr j n elems h he ih =>
    obtain ⟨arr, harr⟩ := Classical.axiomOfChoice ih
    have hdecode : Cpp.anyToKvsvalue num j = .ok (.array n arr) := by
      rw [h.anyToKvsvalue, taggedAny, collect_ok fun i => (harr i).1]
    exact ⟨.array n arr, hdecode, .arr h fun i => (harr i).2⟩
  | @obj j keys vals h hv ih =>
    obtain ⟨map, hmap⟩ := Classical.axiomOfChoice ih
    have hdecode : Cpp.anyToKvsvalue num j = .ok (.object keys map) := by
      rw [h.anyToKvsvalue, taggedAny, collect_ok fun k => (hmap k).1]
    exact ⟨.object keys map, hdecode, .obj h fun k => (hmap k).2⟩

def Below (P : Json N → Prop) : Json N → Prop
  | .array _ elems => ∀ i, P (elems i)
  | .object _ vals => ∀ k, P (vals k)
  | _ => True

theorem wellTyped_tagged (hnum : num.Exact same) (hj : Tagged j t value)
    (h : taggedAny num t value = .ok v) (hbelow : Below (Sound num same) value) :
    WellTyped num same (IsDouble num same) j := by
  unfold taggedAny at h
  split at h
  · split at h
    · rename_i n hn
      exact .i32 hj (hnum.i32.sound _ n hn)
    · cases h
  · split at h
    · rename_i n hn
      exact .u32 hj (hnum.u32.sound _ n hn)
    · cases h
  · split at h
    · rename_i n hn
      exact .i64 hj (hnum.i64.sound _ n hn)
    · cases h
  · split at h
    · rename_i n hn
      exact .u64 hj (hnum.u64.sound _ n hn)
    · cases h
  · split at h
    · rename_i y hy
      exact .f64 hj ⟨y, hnum.f64.sound _ y hy⟩
    · cases h
  · exact .boolean hj
  · exact .string hj
  · exact .null hj
  · split at h
    · rename_i arr harr
      exact .arr hj fun i => hbelow i (arr i) (collect_some harr i)
    · cases h
  · split at h
    · rename_i map hmap
      exact .obj hj fun k => hbelow k (map k) (collect_some hmap k)
    · cases h
  · cases h

/-- Every tree that is decoded is well-typed. The induction carries the children along, because
what is decoded next lies two levels below. -/
theorem sound (hnum : num.Exact same) (j : Json N) :
    Sound num same j ∧ Below (Sound num same) j := by
  induction j with
  | array n elems ih =>
    have hself : Sound num same (.array n elems) := fun v h => by cases h
    exact ⟨hself, fun i => (ih i).1⟩
  | object keys vals ih =>
    have hself : Sound num same (.object keys vals) := by
      intro v h
      obtain ⟨t, value, hj, hv⟩ := exists_tagged h
      apply wellTyped_tagged hnum hj hv
      obtain ⟨m, hm, -, hvalue⟩ := hj
      cases hm
      obtain ⟨hk, rfl⟩ := (FiniteMap.get?_eq_some _).1 hvalue
      exact (ih ⟨"v", hk⟩).2
    exact ⟨hself, fun k => (ih k).1⟩
  | _ =>
    apply And.intro
    · intro v h
      cases h
    · trivial

theorem anyToKvsvalue_error (h : anyToKvsvalue num j = .error e) : e = .invalidValueType := by
  cases j with
  | object keys vals =>
    have hm := anyToKvsvalue_ofMap num ⟨keys, vals⟩
    rw [Json.ofMap, h] at hm
    split at hm
    · exact taggedAny_error hm.symm
    · cases hm
      rfl
  | _ =>
    cases h
    rfl

theorem decodes_iff (hnum : num.Exact same) (j : Json N) :
    (∃ v, anyToKvsvalue num j = .ok v) ↔ WellTyped num same (IsDouble num same) j := by
  apply Iff.intro
  · rintro ⟨v, h⟩
    exact (sound hnum j).1 v h
  · intro h
    obtain ⟨v, hv, -⟩ := h.decodes hnum
    exact ⟨v, hv⟩

theorem emplaceAll_converts {keys : Finset String} {conv : {k // k ∈ keys} → Except ErrorCode V}
    {l : List {k // k ∈ keys}} {result : FiniteMap String V}
    (h : emplaceAll conv l result = .ok m) : ∀ k ∈ l, ∃ v, conv k = .ok v := by
  induction l generalizing result with
  | nil => nofun
  | cons element l ih =>
    rw [emplaceAll] at h
    split at h
    · cases h
    · rename_i v hv
      intro k hk
      rcases List.mem_cons.1 hk with rfl | hk
      · exact ⟨v, hv⟩
      · exact ih h k hk

theorem parseJsonData_ok {base : Baselibs N} (hparse : base.fromBuffer data = some root)
    (h : parseJsonData base data = .ok kvs) : ∃ members : JsonObject N, root = .ofMap members ∧
      kvs.keys = members.keys ∧
      ∀ k j, members.get? k = some j → ∃ v, Cpp.anyToKvsvalue base.number j = .ok v := by
  rw [parseJsonData, hparse] at h
  cases root with
  | object keys vals =>
    obtain ⟨map, hmap⟩ := Classical.axiomOfChoice fun k =>
      emplaceAll_converts h k (base.mem_order keys k)
    cases h.symm.trans (emplaceAll_order base hmap)
    have hmembers (k : String) (j : Json N) (hj : FiniteMap.get? ⟨keys, vals⟩ k = some j) :
        ∃ v, Cpp.anyToKvsvalue base.number j = .ok v := by
      obtain ⟨hk, rfl⟩ := (FiniteMap.get?_eq_some _).1 hj
      exact ⟨map ⟨k, hk⟩, hmap ⟨k, hk⟩⟩
    exact ⟨⟨keys, vals⟩, rfl, rfl, hmembers⟩
  | _ => cases h

theorem exists_parseJsonData {base : Baselibs N} {members : JsonObject N}
    (hparse : base.fromBuffer data = some (.ofMap members))
    (h : ∀ k j, members.get? k = some j → ∃ v, Cpp.anyToKvsvalue base.number j = .ok v) :
    ∃ kvs, parseJsonData base data = .ok kvs := by
  obtain ⟨map, hmap⟩ := Classical.axiomOfChoice fun k : {k // k ∈ members.keys} =>
    h k.1 (members.val k) (members.get?_of_mem k.2)
  rw [parseJsonData, hparse]
  exact ⟨⟨members.keys, map⟩, emplaceAll_order base hmap⟩

/-- The decoder accepts exactly the well-typed trees, fails in one way only, and loses nothing but
what is stripped; a document is read exactly when all its members are well-typed, with the keys
that it has. -/
theorem decoder_grammar (base : Baselibs N) (hnum : base.number.Exact same) :
    (∀ j, ((∃ v, Cpp.anyToKvsvalue base.number j = .ok v) ↔
        WellTyped base.number same (IsDouble base.number same) j) ∧
      (∀ e, Cpp.anyToKvsvalue base.number j = .error e → e = .invalidValueType) ∧
      ∀ v, Cpp.anyToKvsvalue base.number j = .ok v →
        ∃ any, kvsvalueToAny base.number v = .ok any ∧ Stripped same j any) ∧
    ∀ data root, base.fromBuffer data = some root →
      ((∃ kvs, parseJsonData base data = .ok kvs) ↔
        ∃ members : JsonObject N, root = .ofMap members ∧ ∀ k j, members.get? k = some j →
          WellTyped base.number same (IsDouble base.number same) j) ∧
      ∀ kvs, parseJsonData base data = .ok kvs →
        ∃ members : JsonObject N, root = .ofMap members ∧ kvs.keys = members.keys := by
  apply And.intro
  · intro j
    have hstripped (v : KvsValue) (hv : Cpp.anyToKvsvalue base.number j = .ok v) :
        ∃ any, kvsvalueToAny base.number v = .ok any ∧ Stripped same j any := by
      obtain ⟨w, hw, hs⟩ := ((sound hnum j).1 v hv).decodes hnum
      cases hv.symm.trans hw
      exact ⟨_, kvsvalueToAny_eq base.number v, hs⟩
    exact ⟨decodes_iff hnum j, fun e => anyToKvsvalue_error, hstripped⟩
  · intro data root hparse
    have hiff : (∃ kvs, parseJsonData base data = .ok kvs) ↔
        ∃ members : JsonObject N, root = .ofMap members ∧ ∀ k j, members.get? k = some j →
          WellTyped base.number same (IsDouble base.number same) j := by
      apply Iff.intro
      · rintro ⟨kvs, h⟩
        obtain ⟨members, hroot, -, hmembers⟩ := parseJsonData_ok hparse h
        exact ⟨members, hroot, fun k j hj => (decodes_iff hnum j).1 (hmembers k j hj)⟩
      · rintro ⟨members, rfl, hmembers⟩
        exact exists_parseJsonData hparse fun k j hj => (decodes_iff hnum j).2 (hmembers k j hj)
    have hkeys (kvs : KvsMap) (h : parseJsonData base data = .ok kvs) :
        ∃ members : JsonObject N, root = .ofMap members ∧ kvs.keys = members.keys := by
      obtain ⟨members, hroot, hkeys, -⟩ := parseJsonData_ok hparse h
      exact ⟨members, hroot, hkeys⟩
    exact ⟨hiff, hkeys⟩

end Grammar

def intValue : Int ⊕ Binary64 → Option Int
  | .inl z => some z
  | .inr y => y.toInt?

/-- The same integer or float, or an integer and a float without fraction of the same value. -/
def SameNumber (x x' : Int ⊕ Binary64) : Prop :=
  x = x' ∨ ∃ z, intValue x = some z ∧ intValue x' = some z

def asFloat : Int ⊕ Binary64 → Option Binary64
  | .inl z => if (Binary64.ofInt z).toInt? = some z then some (.ofInt z) else none
  | .inr y => some y

def asInteger (toInt : T → Int) (ofInt : Int → T) (x : Int ⊕ Binary64) : Option T :=
  (intValue x).bind fun z => if toInt (ofInt z) = z then some (ofInt z) else none

def exactNumbers : Numbers (Int ⊕ Binary64) where
  ofI32 n := .inl n.toInt
  ofU32 n := .inl n.toNat
  ofI64 n := .inl n.toInt
  ofU64 n := .inl n.toNat
  ofF64 y := .inr y
  asI32 := asInteger Int32.toInt Int32.ofInt
  asU32 := asInteger (fun n : UInt32 => n.toNat) fun z => .ofNat z.toNat
  asI64 := asInteger Int64.toInt Int64.ofInt
  asU64 := asInteger (fun n : UInt64 => n.toNat) fun z => .ofNat z.toNat
  asF64 := asFloat

theorem reads_asInteger {toInt : T → Int} {ofInt : Int → T} (h : ∀ n, ofInt (toInt n) = n) :
    Reads SameNumber (fun n => .inl (toInt n)) (asInteger toInt ofInt) where
  sound x n hn := by
    obtain ⟨z, hz, hn⟩ := Option.bind_eq_some_iff.1 hn
    rw [Option.ite_none_right_eq_some] at hn
    obtain ⟨hfit, hn⟩ := hn
    cases hn
    exact .inr ⟨z, congrArg some hfit, hz⟩
  complete x hx := by
    obtain ⟨n, hn⟩ := hx
    have hz : intValue x = some (toInt n) := by
      rcases hn with rfl | ⟨z, hz, hx⟩
      · rfl
      · cases hz
        exact hx
    rw [asInteger, hz, Option.bind_some, h n, if_pos rfl, Option.isSome_some]

theorem reads_asFloat : Reads SameNumber .inr asFloat where
  sound x y hy := by
    cases x with
    | inl z =>
      rw [asFloat, Option.ite_none_right_eq_some] at hy
      obtain ⟨hz, hy⟩ := hy
      cases hy
      exact .inr ⟨z, hz, rfl⟩
    | inr y' =>
      cases hy
      exact .inl rfl
  complete x hx := by
    cases x with
    | inl z =>
      obtain ⟨y, hy | ⟨z', hy, hz⟩⟩ := hx
      · cases hy
      · cases hz
        rw [asFloat, if_pos (Binary64.toInt?_ofInt hy), Option.isSome_some]
    | inr y' => rfl

theorem exactNumbers_exact : exactNumbers.Exact SameNumber where
  i32 := reads_asInteger fun n => Int32.ofInt_toInt n
  u32 := reads_asInteger fun n => by rw [Int.toNat_natCast, UInt32.ofNat_toNat]
  i64 := reads_asInteger fun n => Int64.ofInt_toInt n
  u64 := reads_asInteger fun n => by rw [Int.toNat_natCast, UInt64.ofNat_toNat]
  f64 := reads_asFloat

theorem decoder_grammar_one : ∃ v, anyToKvsvalue exactNumbers
    (.tagged "i32" (.number (.inr (.ofInt 1)))) = .ok v := by
  have hone : SameNumber (.inl (1 : Int32).toInt) (.inr (.ofInt 1)) :=
    .inr ⟨1, by decide, by decide⟩
  have hgrammar := decoder_grammar
    { textBaselibs (fun _ => "") (fun _ => none) with number := exactNumbers } exactNumbers_exact
  exact (hgrammar.1 _).1.2 (.i32 (n := 1) (tagged_self _ _) hone)

/-- An integer that no float represents is a number, but not one that is read as an `f64`. -/
theorem float_rejected : exactNumbers.Exact SameNumber ∧
    WellTyped exactNumbers SameNumber (fun _ => True)
      (.tagged "f64" (.number (.inl 9007199254740993))) ∧
    anyToKvsvalue exactNumbers (.tagged "f64" (.number (.inl 9007199254740993))) =
      .error .invalidValueType := by
  have htyped : WellTyped exactNumbers SameNumber (fun _ => True)
      (.tagged "f64" (.number (.inl 9007199254740993))) := .f64 (tagged_self _ _) trivial
  have hread : exactNumbers.asF64 (.inl 9007199254740993) = none := by decide
  have herror : anyToKvsvalue exactNumbers (.tagged "f64" (.number (.inl 9007199254740993))) =
      .error .invalidValueType := by
    rw [anyToKvsvalue_tagged, taggedAny, hread]
  exact ⟨exactNumbers_exact, htyped, herror⟩

end Persistency.Cpp
