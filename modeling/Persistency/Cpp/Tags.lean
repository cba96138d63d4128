import Persistency.Library.Acyclic
import Persistency.Library.Transition
import Persistency.Cpp.Objects
import Persistency.Cpp.Slots

namespace Persistency.Cpp.Objects
set_option autoImplicit true

open Acyclic

inductive Denotes (heap : Heap) : Variant → KvsValue → Prop where
  | i32 (n : Int32) : Denotes heap (.i32 n) (.i32 n)
  | u32 (n : UInt32) : Denotes heap (.u32 n) (.u32 n)
  | i64 (n : Int64) : Denotes heap (.i64 n) (.i64 n)
  | u64 (n : UInt64) : Denotes heap (.u64 n) (.u64 n)
  | f64 (x : Binary64) : Denotes heap (.f64 x) (.f64 x)
  | boolean (b : Bool) : Denotes heap (.boolean b) (.boolean b)
  | string (s : String) : Denotes heap (.string s) (.string s)
  | null : Denotes heap .null .null
  | array (elems : List Addr) (objs : Fin elems.length → KvsObject)
      (vals : Fin elems.length → KvsValue) (hobjs : ∀ i, heap[elems.get i]? = some (objs i))
      (hvals : ∀ i, Denotes heap (objs i).value (vals i)) :
      Denotes heap (.array elems) (.array elems.length vals)
  | object (members : FiniteMap String Addr) (objs : {k // k ∈ members.keys} → KvsObject)
      (vals : {k // k ∈ members.keys} → KvsValue)
      (hobjs : ∀ k, heap[members.val k]? = some (objs k))
      (hvals : ∀ k, Denotes heap (objs k).value (vals k)) :
      Denotes heap (.object members) (.object members.keys vals)

def Represents (heap : Heap) (a : Addr) (v : KvsValue) : Prop :=
  ∃ obj, heap[a]? = some obj ∧ Denotes heap obj.value v

section Denotes

variable {heap heap' : Heap}

theorem Denotes.unique (h : Denotes heap x v) (h' : Denotes heap x w) : v = w := by
  induction h generalizing w with
  | array elems objs vals hobjs _ ih =>
    cases h' with
    | array _ objs' vals' hobjs' hvals' =>
      congr 1
      funext i
      have hobj : objs i = objs' i := Option.some.inj ((hobjs i).symm.trans (hobjs' i))
      exact ih i (hobj ▸ hvals' i)
  | object members objs vals hobjs _ ih =>
    cases h' with
    | object _ objs' vals' hobjs' hvals' =>
      congr 1
      funext k
      have hobj : objs k = objs' k := Option.some.inj ((hobjs k).symm.trans (hobjs' k))
      exact ih k (hobj ▸ hvals' k)
  | _ =>
    cases h'
    rfl

theorem Represents.unique (h : Represents heap a v) (h' : Represents heap a w) : v = w := by
  obtain ⟨obj, hobj, hv⟩ := h
  obtain ⟨obj', hobj', hw⟩ := h'
  cases hobj.symm.trans hobj'
  exact hv.unique hw

theorem points_get (elems : List Addr) (i : Fin elems.length) :
    (Variant.array elems).Points (elems.get i) := List.get_mem elems i

theorem points_val (members : FiniteMap String Addr) (k : {k // k ∈ members.keys}) :
    (Variant.object members).Points (members.val k) := ⟨k.1, members.get?_of_mem k.2⟩

theorem Denotes.congr (h : Denotes heap x v)
    (hsame : ∀ p, x.Points p → ∀ a, Nested heap a p → heap'[a]? = heap[a]?) :
    Denotes heap' x v := by
  induction h with
  | array elems objs vals hobjs _ ih =>
    refine .array elems objs vals ?_ ?_
    · intro i
      rw [hsame _ (points_get elems i) _ .refl, hobjs i]
    · intro i
      apply ih i
      intro p hp a ha
      exact hsame _ (points_get elems i) a (ha.tail ⟨objs i, hobjs i, hp⟩)
  | object members objs vals hobjs _ ih =>
    refine .object members objs vals ?_ ?_
    · intro k
      rw [hsame _ (points_val members k) _ .refl, hobjs k]
    · intro k
      apply ih k
      intro p hp a ha
      exact hsame _ (points_val members k) a (ha.tail ⟨objs k, hobjs k, hp⟩)
  | i32 n => exact .i32 n
  | u32 n => exact .u32 n
  | i64 n => exact .i64 n
  | u64 n => exact .u64 n
  | f64 x => exact .f64 x
  | boolean b => exact .boolean b
  | string s => exact .string s
  | null => exact .null

theorem Represents.congr (h : Represents heap a v)
    (hsame : ∀ b, Nested heap b a → heap'[b]? = heap[b]?) : Represents heap' a v := by
  obtain ⟨obj, hobj, hv⟩ := h
  refine ⟨obj, (hsame a .refl).trans hobj, hv.congr ?_⟩
  intro p hp b hb
  exact hsame b (hb.tail ⟨obj, hobj, hp⟩)

def ofList (vs : List KvsValue) : KvsValue := .array vs.length vs.get

theorem array_ext {f : Fin n → KvsValue} {g : Fin m → KvsValue} (hn : n = m)
    (h : f = g ∘ Fin.cast hn) : KvsValue.array n f = .array m g := by
  have hpair : (⟨n, f⟩ : Σ n, Fin n → KvsValue) = ⟨m, g⟩ := Fin.sigma_eq_of_eq_comp_cast hn h
  exact congrArg (fun s : Σ n, Fin n → KvsValue => KvsValue.array s.1 s.2) hpair

theorem denotes_array_iff {elems : List Addr} : Denotes heap (.array elems) v ↔
    ∃ vs, List.Forall₂ (Represents heap) elems vs ∧ v = ofList vs := by
  apply Iff.intro
  · intro h
    cases h with
    | array _ objs vals hobjs hvals =>
      refine ⟨List.ofFn vals, ?_, ?_⟩
      · rw [List.forall₂_iff_get]
        refine ⟨(List.length_ofFn).symm, ?_⟩
        intro i hi hi'
        rw [List.get_ofFn]
        exact ⟨objs ⟨i, hi⟩, hobjs ⟨i, hi⟩, hvals ⟨i, hi⟩⟩
      · apply array_ext List.length_ofFn.symm
        funext i
        rw [Function.comp_apply, List.get_ofFn]
        rfl
  · rintro ⟨vs, hvs, rfl⟩
    have hlen := hvs.length_eq
    have hget (i : Fin elems.length) : Represents heap (elems.get i) (vs.get (i.cast hlen)) :=
      (List.forall₂_iff_get.1 hvs).2 i.1 i.2 (hlen ▸ i.2)
    choose objs hobjs hvals using hget
    have harray : ofList vs = .array elems.length fun i => vs.get (i.cast hlen) :=
      array_ext hlen.symm rfl
    rw [harray]
    exact .array elems objs _ hobjs hvals

theorem denotes_object_iff {members : FiniteMap String Addr} : Denotes heap (.object members) v ↔
    ∃ map : KvsMap, map.keys = members.keys ∧
      (∀ k p, members.get? k = some p → ∃ w, map.get? k = some w ∧ Represents heap p w) ∧
      v = .ofMap map := by
  apply Iff.intro
  · intro h
    cases h with
    | object _ objs vals hobjs hvals =>
      refine ⟨⟨members.keys, vals⟩, rfl, ?_, rfl⟩
      intro k p hp
      obtain ⟨hk, rfl⟩ := members.get?_eq_some.1 hp
      exact ⟨_, (⟨members.keys, vals⟩ : KvsMap).get?_of_mem hk, objs ⟨k, hk⟩, hobjs ⟨k, hk⟩,
        hvals ⟨k, hk⟩⟩
  · rintro ⟨⟨keys, vals⟩, hkeys, hmembers, rfl⟩
    cases hkeys
    have hget (k : {k // k ∈ members.keys}) : Represents heap (members.val k) (vals k) := by
      obtain ⟨w, hw, hrep⟩ := hmembers k.1 _ (members.get?_of_mem k.2)
      cases hw.symm.trans ((⟨members.keys, vals⟩ : KvsMap).get?_of_mem k.2)
      exact hrep
    choose objs hobjs hvals using hget
    exact .object members objs vals hobjs hvals

def Fits : KvsValue → Nat → Prop
  | _, 0 => False
  | .array _ elems, n + 1 => ∀ i, Fits (elems i) n
  | .object _ vals, n + 1 => ∀ k, Fits (vals k) n
  | _, _ + 1 => True

theorem not_fits_zero (v : KvsValue) : ¬ Fits v 0 := by
  cases v <;> exact fun h => h

end Denotes

/-- Every type is that of the active alternative, every pointer leads to an object, and no object is
nested in itself. -/
structure Sound (heap : Heap) : Prop where
  tags : ∀ (a : Addr) obj, heap[a]? = some obj → obj.type = obj.value.type
  valid : ∀ p a, Child heap p a → p < heap.length
  acyclic : WellFounded (Child heap)

section Sound

variable {heap heap' : Heap}

theorem Child.lt (h : Child heap p a) : a < heap.length := by
  obtain ⟨obj, hobj, -⟩ := h
  exact (List.getElem?_eq_some_iff.1 hobj).1

theorem Represents.lt (h : Represents heap a v) : a < heap.length := by
  obtain ⟨obj, hobj, -⟩ := h
  exact (List.getElem?_eq_some_iff.1 hobj).1

theorem exists_denotes (x : Variant) (h : ∀ p, x.Points p → ∃ v, Represents heap p v) :
    ∃ v, Denotes heap x v := by
  cases x with
  | array elems =>
    have hget (i : Fin elems.length) := h _ (points_get elems i)
    choose vals objs hobjs hvals using hget
    exact ⟨_, .array elems objs vals hobjs hvals⟩
  | object members =>
    have hget (k : {k // k ∈ members.keys}) := h _ (points_val members k)
    choose vals objs hobjs hvals using hget
    exact ⟨_, .object members objs vals hobjs hvals⟩
  | i32 n => exact ⟨_, .i32 n⟩
  | u32 n => exact ⟨_, .u32 n⟩
  | i64 n => exact ⟨_, .i64 n⟩
  | u64 n => exact ⟨_, .u64 n⟩
  | f64 x => exact ⟨_, .f64 x⟩
  | boolean b => exact ⟨_, .boolean b⟩
  | string s => exact ⟨_, .string s⟩
  | null => exact ⟨_, .null⟩

theorem Sound.exists_represents (h : Sound heap) (ha : a < heap.length) :
    ∃ v, Represents heap a v := by
  induction a using h.acyclic.induction with
  | _ a ih =>
    have hobj := List.getElem?_eq_getElem ha
    obtain ⟨v, hv⟩ := exists_denotes heap[a].value fun p hp =>
      ih p ⟨_, hobj, hp⟩ (h.valid p a ⟨_, hobj, hp⟩)
    exact ⟨v, _, hobj, hv⟩

theorem Denotes.fits (h : Denotes heap x v)
    (hn : ∀ p, x.Points p → ∀ w, Represents heap p w → Fits w n) : Fits v (n + 1) := by
  cases h with
  | array elems objs vals hobjs hvals =>
    exact fun i => hn _ (points_get elems i) _ ⟨objs i, hobjs i, hvals i⟩
  | object members objs vals hobjs hvals =>
    exact fun k => hn _ (points_val members k) _ ⟨objs k, hobjs k, hvals k⟩
  | _ => trivial

theorem Sound.fits (h : Sound heap) (hv : Represents heap a v) : Fits v heap.length := by
  have hrange : ∀ p x, Child heap p x → p ∈ Finset.range heap.length := by
    intro p x hp
    exact Finset.mem_range.2 (h.valid p x hp)
  have hstep (n : Nat) (x : Addr) (ih : ∀ p, Child heap p x → ∀ w, Represents heap p w → Fits w n)
      (w : KvsValue) (hw : Represents heap x w) : Fits w (n + 1) := by
    obtain ⟨obj, hobj, hden⟩ := hw
    exact hden.fits fun p hp => ih p ⟨obj, hobj, hp⟩
  have ha : a ∈ Finset.range heap.length := Finset.mem_range.2 hv.lt
  have hbound := bounded_induction (P := fun n a => ∀ v, Represents heap a v → Fits v n)
    h.acyclic (Finset.range heap.length) hrange hstep ha v hv
  rwa [Finset.card_range] at hbound

end Sound

/-- The old objects stay, and each new one has the right type and owns older new ones only. -/
structure Extends (heap heap' : Heap) : Prop where
  length : heap.length ≤ heap'.length
  old : ∀ a, a < heap.length → heap'[a]? = heap[a]?
  tags : ∀ (a : Addr) obj, heap.length ≤ a → heap'[a]? = some obj → obj.type = obj.value.type
  fresh : ∀ p a, heap.length ≤ a → Child heap' p a → heap.length ≤ p ∧ p < a

section Extends

variable {heap heap' heap'' : Heap}

theorem Extends.refl (heap : Heap) : Extends heap heap where
  length := Nat.le_refl _
  old _ _ := rfl
  tags a obj ha hobj := by
    rw [List.getElem?_eq_none ha] at hobj
    cases hobj
  fresh p a ha hp := by
    obtain ⟨obj, hobj, -⟩ := hp
    rw [List.getElem?_eq_none ha] at hobj
    cases hobj

theorem Extends.child (h : Extends heap heap') (ha : a < heap.length) :
    Child heap' p a ↔ Child heap p a := by
  simp only [Child, h.old a ha]

theorem Extends.trans (h : Extends heap heap') (h' : Extends heap' heap'') :
    Extends heap heap'' where
  length := h.length.trans h'.length
  old a ha := (h'.old a (ha.trans_le h.length)).trans (h.old a ha)
  tags a obj ha hobj := by
    by_cases hlt : a < heap'.length
    · rw [h'.old a hlt] at hobj
      exact h.tags a obj ha hobj
    · exact h'.tags a obj (Nat.not_lt.1 hlt) hobj
  fresh p a ha hp := by
    by_cases hlt : a < heap'.length
    · exact h.fresh p a ha ((h'.child hlt).1 hp)
    · obtain ⟨hle, hpa⟩ := h'.fresh p a (Nat.not_lt.1 hlt) hp
      exact ⟨h.length.trans hle, hpa⟩

theorem Sound.nested_lt (h : Sound heap) (ha : a < heap.length) (hn : Nested heap b a) :
    b < heap.length := by
  induction hn using Relation.ReflTransGen.head_induction_on with
  | refl => exact ha
  | head hp _ _ => exact h.valid _ _ hp

theorem Extends.represents (h : Extends heap heap') (hs : Sound heap) (hv : Represents heap a v) :
    Represents heap' a v :=
  hv.congr fun b hb => h.old b (hs.nested_lt hv.lt hb)

theorem Extends.sound (h : Extends heap heap') (hs : Sound heap) : Sound heap' where
  tags a obj hobj := by
    by_cases ha : a < heap.length
    · rw [h.old a ha] at hobj
      exact hs.tags a obj hobj
    · exact h.tags a obj (Nat.not_lt.1 ha) hobj
  valid p a hp := by
    by_cases ha : a < heap.length
    · exact (hs.valid p a ((h.child ha).1 hp)).trans_le h.length
    · exact (h.fresh p a (Nat.not_lt.1 ha) hp).2.trans hp.lt
  acyclic := by
    have hold (a : Addr) (ha : a < heap.length) : Acc (Child heap') a := by
      induction a using hs.acyclic.induction with
      | _ a ih =>
        constructor
        intro p hp
        have hp' := (h.child ha).1 hp
        exact ih p hp' (hs.valid p a hp')
    constructor
    intro a
    induction a using Nat.strongRecOn with
    | ind a ih =>
      by_cases ha : a < heap.length
      · exact hold a ha
      · constructor
        intro p hp
        exact ih p (h.fresh p a (Nat.not_lt.1 ha) hp).2

/-- An object over an extended heap that owns new objects only, and the value that it stands for. -/
structure Made (heap heap' : Heap) (obj : KvsObject) (v : KvsValue) : Prop where
  grown : Extends heap heap'
  tag : obj.type = obj.value.type
  fresh : ∀ p, obj.value.Points p → heap.length ≤ p ∧ p < heap'.length
  denotes : Denotes heap' obj.value v

theorem getElem?_concat {heap : Heap} (h : (heap ++ [obj])[a]? = some obj') :
    heap[a]? = some obj' ∨ a = heap.length ∧ obj' = obj := by
  by_cases ha : a < heap.length
  · rw [List.getElem?_append_left ha] at h
    exact .inl h
  · rw [List.getElem?_append_right (Nat.not_lt.1 ha), List.getElem?_singleton] at h
    split at h
    · rename_i hsub
      cases h
      exact .inr ⟨by omega, rfl⟩
    · cases h

theorem Made.pushed (h : Made heap heap' obj v) : Extends heap (heap' ++ [obj]) where
  length := by
    rw [List.length_append]
    exact Nat.le_add_right_of_le h.grown.length
  old a ha := by
    rw [List.getElem?_append_left (ha.trans_le h.grown.length)]
    exact h.grown.old a ha
  tags a obj' ha hobj := by
    rcases getElem?_concat hobj with hobj | ⟨-, rfl⟩
    · exact h.grown.tags a obj' ha hobj
    · exact h.tag
  fresh p a ha hp := by
    obtain ⟨obj', hobj, hp⟩ := hp
    rcases getElem?_concat hobj with hobj | ⟨rfl, rfl⟩
    · exact h.grown.fresh p a ha ⟨obj', hobj, hp⟩
    · exact h.fresh p hp

theorem Made.represents (h : Made heap heap' obj v) (hs : Sound heap) :
    Represents (heap' ++ [obj]) heap'.length v := by
  refine ⟨obj, List.getElem?_concat_length, h.denotes.congr ?_⟩
  intro p hp a ha
  have hlt := (h.grown.sound hs).nested_lt (h.fresh p hp).2 ha
  exact List.getElem?_append_left hlt

end Extends

section Copy

variable {copy : Addr → Heap → Option (KvsObject × Heap)} {P : KvsValue → Prop} {heap : Heap}

def Copies (copy : Addr → Heap → Option (KvsObject × Heap)) (P : KvsValue → Prop) : Prop :=
  ∀ heap item v, Sound heap → Represents heap item v → P v →
    ∃ obj heap', copy item heap = some (obj, heap') ∧ Made heap heap' obj v

structure Shared (lo : Nat) (heap : Heap) (p : Addr) (v : KvsValue) : Prop where
  fresh : lo ≤ p
  represents : Represents heap p v

theorem Shared.extend (h : Shared lo heap p v) (hs : Sound heap) (he : Extends heap heap') :
    Shared lo heap' p v := ⟨h.fresh, he.represents hs h.represents⟩

theorem makeShared_spec (hcopy : Copies copy P) (hs : Sound heap) (hv : Represents heap item v)
    (hp : P v) : ∃ shared heap', makeShared copy item heap = some (shared, heap') ∧
      Extends heap heap' ∧ Shared heap.length heap' shared v := by
  obtain ⟨obj, heap', hrun, hmade⟩ := hcopy heap item v hs hv hp
  refine ⟨heap'.length, heap' ++ [obj], ?_, hmade.pushed, hmade.grown.length, hmade.represents hs⟩
  simp only [makeShared, hrun]
  rfl

theorem copyItems_spec (hcopy : Copies copy P) (hs : Sound heap)
    (hvs : List.Forall₂ (Represents heap) items vs) (hp : ∀ v ∈ vs, P v) :
    ∃ shared heap', copyItems copy items heap = some (shared, heap') ∧ Extends heap heap' ∧
      List.Forall₂ (Shared heap.length heap') shared vs := by
  induction items generalizing heap vs with
  | nil =>
    cases hvs
    exact ⟨[], heap, rfl, .refl heap, .nil⟩
  | cons item items ih =>
    cases hvs with
    | cons hv hvs =>
      rename_i v vs
      obtain ⟨p, heap₁, hrun₁, he₁, hp₁⟩ :=
        makeShared_spec hcopy hs hv (hp v List.mem_cons_self)
      have hs₁ := he₁.sound hs
      obtain ⟨ps, heap₂, hrun₂, he₂, hps⟩ := ih hs₁
        (hvs.imp fun _ _ h => he₁.represents hs h) fun w hw => hp w (List.mem_cons_of_mem v hw)
      refine ⟨p :: ps, heap₂, ?_, he₁.trans he₂, .cons (hp₁.extend hs₁ he₂) ?_⟩
      · simp only [copyItems, hrun₁, Option.bind_eq_bind, Option.bind_some, hrun₂]
        rfl
      · exact hps.imp fun _ _ h => ⟨he₁.length.trans h.fresh, h.represents⟩

def SharedMembers (lo : Nat) (heap : Heap) (map : KvsMap) (shared : FiniteMap String Addr) : Prop :=
  ∀ k p, shared.get? k = some p → ∃ w, map.get? k = some w ∧ Shared lo heap p w

theorem SharedMembers.extend (h : SharedMembers lo heap map shared) (hs : Sound heap)
    (he : Extends heap heap') : SharedMembers lo heap' map shared := by
  intro k p hkp
  obtain ⟨w, hw, hp⟩ := h k p hkp
  exact ⟨w, hw, hp.extend hs he⟩

theorem SharedMembers.insert (h : SharedMembers lo heap map shared) (hw : map.get? k = some w)
    (hp : Shared lo heap p w) : SharedMembers lo heap map (shared.insert k p) := by
  intro k' p' hkp
  rw [FiniteMap.get?_insert] at hkp
  split at hkp
  · rename_i hk
    cases hkp
    exact ⟨w, hk ▸ hw, hp⟩
  · exact h k' p' hkp

theorem copyMembers_spec {members : FiniteMap String Addr} (hcopy : Copies copy P) (hs : Sound heap)
    (hmembers : ∀ k p, members.get? k = some p →
      ∃ w, map.get? k = some w ∧ Represents heap p w ∧ P w)
    (keys : List {k // k ∈ members.keys}) (hlo : lo ≤ heap.length)
    (hshared : SharedMembers lo heap map shared) :
    ∃ shared' heap', copyMembers copy members keys shared heap = some (shared', heap') ∧
      Extends heap heap' ∧ SharedMembers lo heap' map shared' ∧
      ∀ k, k ∈ shared.keys ∨ k ∈ keys.map Subtype.val → k ∈ shared'.keys := by
  induction keys generalizing heap shared with
  | nil =>
    refine ⟨shared, heap, rfl, .refl heap, hshared, ?_⟩
    intro k hk
    exact hk.resolve_right List.not_mem_nil
  | cons key keys ih =>
    obtain ⟨w, hw, hv, hp⟩ := hmembers key.1 _ (members.get?_of_mem key.2)
    obtain ⟨p, heap₁, hrun₁, he₁, hp₁⟩ := makeShared_spec hcopy hs hv hp
    have hmembers₁ : ∀ k p, members.get? k = some p →
        ∃ w, map.get? k = some w ∧ Represents heap₁ p w ∧ P w := by
      intro k p hkp
      obtain ⟨w, hw, hv, hp⟩ := hmembers k p hkp
      exact ⟨w, hw, he₁.represents hs hv, hp⟩
    have hshared₁ : SharedMembers lo heap₁ map (shared.insert key p) :=
      (hshared.extend hs he₁).insert hw ⟨hlo.trans hp₁.fresh, hp₁.represents⟩
    obtain ⟨shared', heap₂, hrun₂, he₂, hshared₂, hkeys⟩ :=
      ih (he₁.sound hs) hmembers₁ (hlo.trans he₁.length) hshared₁
    refine ⟨shared', heap₂, ?_, he₁.trans he₂, hshared₂, ?_⟩
    · simp only [copyMembers, hrun₁]
      exact hrun₂
    · intro k hk
      apply hkeys
      rw [FiniteMap.insert_keys, Finset.mem_insert]
      rw [List.map_cons, List.mem_cons] at hk
      tauto

end Copy

section CopyConstruct

variable (base : Baselibs N) {heap : Heap}

theorem made_array (he : Extends heap heap')
    (hvs : List.Forall₂ (Shared heap.length heap') shared vs) :
    Made heap heap' ⟨.array shared, .array⟩ (ofList vs) where
  grown := he
  tag := rfl
  fresh p hp := by
    obtain ⟨i, rfl⟩ := List.mem_iff_get.1 hp
    have hi := (List.forall₂_iff_get.1 hvs).2 i.1 i.2 (hvs.length_eq ▸ i.2)
    exact ⟨hi.fresh, hi.represents.lt⟩
  denotes := denotes_array_iff.2 ⟨vs, hvs.imp fun _ _ h => h.represents, rfl⟩

theorem made_object (he : Extends heap heap') (hshared : SharedMembers heap.length heap' map shared)
    (hkeys : map.keys ⊆ shared.keys) :
    Made heap heap' ⟨.object shared, .object⟩ (.ofMap map) where
  grown := he
  tag := rfl
  fresh p hp := by
    obtain ⟨k, hk⟩ := hp
    obtain ⟨w, -, hp⟩ := hshared k p hk
    exact ⟨hp.fresh, hp.represents.lt⟩
  denotes := by
    refine denotes_object_iff.2 ⟨map, ?_, ?_, rfl⟩
    · apply Finset.Subset.antisymm hkeys
      intro k hk
      obtain ⟨w, hw, -⟩ := hshared k _ (shared.get?_of_mem hk)
      exact (map.get?_eq_some.1 hw).1
    · intro k p hkp
      obtain ⟨w, hw, hp⟩ := hshared k p hkp
      exact ⟨w, hw, hp.represents⟩

theorem Denotes.made_leaf (h : Denotes heap obj.value v) (htag : obj.type = obj.value.type)
    (hleaf : ∀ p, ¬ obj.value.Points p) : Made heap heap obj v where
  grown := .refl heap
  tag := htag
  fresh p hp := absurd hp (hleaf p)
  denotes := h

theorem copyMembers_all {members : FiniteMap String Addr} (hcopy : Copies copy P) (hs : Sound heap)
    (hmembers : ∀ k p, members.get? k = some p →
      ∃ w, map.get? k = some w ∧ Represents heap p w ∧ P w) (hkeys : map.keys = members.keys) :
    ∃ shared heap', copyMembers copy members (base.order members.keys) .empty heap =
        some (shared, heap') ∧ Made heap heap' ⟨.object shared, .object⟩ (.ofMap map) := by
  have hempty : SharedMembers heap.length heap map .empty := by
    intro k p hk
    rw [FiniteMap.get?_empty] at hk
    cases hk
  obtain ⟨shared, heap', hrun, he, hshared, hall⟩ := copyMembers_spec hcopy hs hmembers
    (base.order members.keys) (Nat.le_refl _) hempty
  refine ⟨shared, heap', hrun, made_object he hshared ?_⟩
  intro k hk
  apply hall
  rw [hkeys] at hk
  exact .inr (List.mem_map.2 ⟨⟨k, hk⟩, base.mem_order _ _, rfl⟩)

/-- The copy constructor makes a copy, at any depth that the fuel allows. -/
theorem copyConstruct_spec (fuel : Nat) :
    Copies (copyConstruct base fuel) fun v => Fits v fuel := by
  induction fuel with
  | zero =>
    intro heap item v _ _ hfits
    exact absurd hfits (not_fits_zero v)
  | succ fuel ih =>
    intro heap item v hs hv hfits
    obtain ⟨⟨value, type⟩, hobj, hden⟩ := hv
    have htag : type = value.type := hs.tags item _ hobj
    subst htag
    simp only [copyConstruct, hobj, Option.bind_eq_bind, Option.bind_some]
    cases value with
    | array elems =>
      obtain ⟨vs, hvs, rfl⟩ := denotes_array_iff.1 hden
      have hp : ∀ v ∈ vs, Fits v fuel := by
        intro v hmem
        obtain ⟨i, rfl⟩ := List.mem_iff_get.1 hmem
        exact hfits i
      obtain ⟨shared, heap', hrun, he, hshared⟩ := copyItems_spec ih hs hvs hp
      refine ⟨⟨.array shared, .array⟩, heap', ?_, made_array he hshared⟩
      simp only [Variant.type, Variant.getArray, Option.bind_some, hrun]
      rfl
    | object members =>
      obtain ⟨map, hkeys, hmembers, rfl⟩ := denotes_object_iff.1 hden
      have hmembers' : ∀ k p, members.get? k = some p →
          ∃ w, map.get? k = some w ∧ Represents heap p w ∧ Fits w fuel := by
        intro k p hkp
        obtain ⟨w, hw, hv⟩ := hmembers k p hkp
        obtain ⟨hk, rfl⟩ := map.get?_eq_some.1 hw
        exact ⟨_, hw, hv, hfits ⟨k, hk⟩⟩
      obtain ⟨shared, heap', hrun, hmade⟩ := copyMembers_all base ih hs hmembers' hkeys
      refine ⟨⟨.object shared, .object⟩, heap', ?_, hmade⟩
      simp only [Variant.type, Variant.getObject, Option.bind_some, hrun]
      rfl
    | _ => exact ⟨_, heap, rfl, hden.made_leaf rfl fun p hp => hp⟩

theorem copyAny_spec : Copies (copyAny base) fun _ => True := by
  intro heap item v hs hv _
  exact copyConstruct_spec base heap.length heap item v hs hv (hs.fits hv)

theorem arrayConstruct_spec (hs : Sound heap) (hvs : List.Forall₂ (Represents heap) items vs) :
    ∃ obj heap', arrayConstruct base items heap = some (obj, heap') ∧
      Made heap heap' obj (ofList vs) := by
  obtain ⟨shared, heap', hrun, he, hshared⟩ :=
    copyItems_spec (copyAny_spec base) hs hvs fun _ _ => trivial
  refine ⟨_, heap', ?_, made_array he hshared⟩
  simp only [arrayConstruct, hrun]
  rfl

theorem objectConstruct_spec {members : FiniteMap String Addr} (hs : Sound heap)
    (hmembers : ∀ k p, members.get? k = some p → ∃ w, map.get? k = some w ∧ Represents heap p w)
    (hkeys : map.keys = members.keys) :
    ∃ obj heap', objectConstruct base members heap = some (obj, heap') ∧
      Made heap heap' obj (.ofMap map) := by
  have hmembers' : ∀ k p, members.get? k = some p →
      ∃ w, map.get? k = some w ∧ Represents heap p w ∧ True := by
    intro k p hkp
    obtain ⟨w, hw, hv⟩ := hmembers k p hkp
    exact ⟨w, hw, hv, trivial⟩
  obtain ⟨shared, heap', hrun, hmade⟩ :=
    copyMembers_all base (copyAny_spec base) hs hmembers' hkeys
  refine ⟨_, heap', ?_, hmade⟩
  simp only [objectConstruct, hrun]
  rfl

end CopyConstruct

section Replace

variable {heap heap' : Heap} {S : Addr → Prop}

/-- New contents at the addresses of `S`, from which `S` is not reached. -/
theorem Sound.replace (hs : Sound heap) (hlength : heap'.length = heap.length)
    (hsame : ∀ a, ¬ S a → heap'[a]? = heap[a]?)
    (hnew : ∀ (a : Addr) obj, S a → heap'[a]? = some obj → obj.type = obj.value.type ∧
      ∀ p, obj.value.Points p → p < heap.length ∧ Avoids (Child heap) S p) : Sound heap' where
  tags a obj hobj := by
    by_cases ha : S a
    · exact (hnew a obj ha hobj).1
    · rw [hsame a ha] at hobj
      exact hs.tags a obj hobj
  valid p a hp := by
    obtain ⟨obj, hobj, hp⟩ := hp
    rw [hlength]
    by_cases ha : S a
    · exact ((hnew a obj ha hobj).2 p hp).1
    · rw [hsame a ha] at hobj
      exact hs.valid p a ⟨obj, hobj, hp⟩
  acyclic := by
    apply wellFounded_replaced (S := S) hs.acyclic
    · intro a ha p hp
      obtain ⟨obj, hobj, hp⟩ := hp
      rw [hsame a ha] at hobj
      exact ⟨obj, hobj, hp⟩
    · intro a ha p hp
      obtain ⟨obj, hobj, hp⟩ := hp
      exact ((hnew a obj ha hobj).2 p hp).2

theorem Denotes.replace (h : Denotes heap x v) (hsame : ∀ a, ¬ S a → heap'[a]? = heap[a]?)
    (havoid : ∀ p, x.Points p → Avoids (Child heap) S p) : Denotes heap' x v :=
  h.congr fun p hp a ha => hsame a (havoid p hp a ha)

def typeOf : KvsValue → ValueType
  | .i32 _ => .i32
  | .u32 _ => .u32
  | .i64 _ => .i64
  | .u64 _ => .u64
  | .f64 _ => .f64
  | .boolean _ => .boolean
  | .string _ => .string
  | .null => .null
  | .array _ _ => .array
  | .object _ _ => .object

theorem Denotes.type (h : Denotes heap x v) : x.type = typeOf v := by
  cases h <;> rfl

theorem Extends.nested_ge (h : Extends heap heap') (hp : heap.length ≤ p)
    (hn : Nested heap' b p) : heap.length ≤ b := by
  induction hn using Relation.ReflTransGen.head_induction_on with
  | refl => exact hp
  | head hstep _ ih => exact (h.fresh _ _ ih hstep).1

theorem Extends.nested (h : Extends heap heap') (hs : Sound heap) (ha : a < heap.length)
    (hn : Nested heap' b a) : Nested heap b a := by
  have hboth : b < heap.length ∧ Nested heap b a := by
    induction hn using Relation.ReflTransGen.head_induction_on with
    | refl => exact ⟨ha, .refl⟩
    | head hstep _ ih =>
      have hstep' := (h.child ih.1).1 hstep
      exact ⟨hs.valid _ _ hstep', .head hstep' ih.2⟩
  exact hboth.2

theorem copyAssign_spec (base : Baselibs N) (hs : Sound heap) (hself : self < heap.length)
    (hv : Represents heap other v) : ∃ heap', copyAssign base self other heap = some heap' ∧
      Sound heap' ∧ Represents heap' self v ∧
      (¬ Nested heap self other → Represents heap' other v) := by
  by_cases heq : self = other
  · subst heq
    exact ⟨heap, if_pos rfl, hs, hv, fun _ => hv⟩
  · obtain ⟨temp, heap₁, hrun, hmade⟩ := copyAny_spec base heap other v hs hv trivial
    obtain ⟨obj, hobj, hden⟩ := hv
    have hs₁ := hmade.grown.sound hs
    have hother : other < heap.length := (List.getElem?_eq_some_iff.1 hobj).1
    have hobj₁ : heap₁[other]? = some obj := (hmade.grown.old other hother).trans hobj
    have htype : obj.type = temp.value.type := by
      rw [hs.tags other obj hobj, hden.type, hmade.denotes.type]
    have hself₁ : self < heap₁.length := hself.trans_le hmade.grown.length
    -- the new elements are above the old heap, and `self` is below
    have havoid : ∀ p, temp.value.Points p → Avoids (Child heap₁) (· = self) p := by
      rintro p hp a ha rfl
      have hge := hmade.grown.nested_ge (hmade.fresh p hp).1 ha
      exact absurd hge (Nat.not_le.2 hself)
    have hsame : ∀ a, ¬ a = self → (heap₁.set self ⟨temp.value, obj.type⟩)[a]? = heap₁[a]? :=
      fun a ha => List.getElem?_set_ne (Ne.symm ha)
    refine ⟨heap₁.set self ⟨temp.value, obj.type⟩, ?_, ?_, ?_, ?_⟩
    · simp only [copyAssign, if_neg heq, hrun, Option.bind_eq_bind, Option.bind_some, hobj₁]
      rfl
    · apply hs₁.replace (List.length_set) hsame
      rintro a obj' rfl hobj'
      rw [List.getElem?_set_self hself₁] at hobj'
      cases hobj'
      exact ⟨htype, fun p hp => ⟨(hmade.fresh p hp).2, havoid p hp⟩⟩
    · exact ⟨_, List.getElem?_set_self hself₁, hmade.denotes.replace hsame havoid⟩
    · intro hnested
      have hrep := hmade.grown.represents hs ⟨obj, hobj, hden⟩
      apply hrep.congr
      intro b hb
      apply hsame
      rintro rfl
      exact hnested (hmade.grown.nested hs hother hb)

theorem avoids_operands (hs : Sound heap) (h : ¬ Nested heap self other)
    (h' : ¬ Nested heap other self) (hp : Child heap p other ∨ Child heap p self) :
    Avoids (Child heap) (fun a => a = other ∨ a = self) p := by
  rcases hp with hp | hp
  · apply avoids_or (avoids_of_edge hs.acyclic hp)
    rintro a ha rfl
    exact h (Relation.ReflTransGen.tail ha hp)
  · apply avoids_or _ (avoids_of_edge hs.acyclic hp)
    rintro a ha rfl
    exact h' (Relation.ReflTransGen.tail ha hp)

/-- A move between operands that are not nested in one another. -/
theorem moved_spec (hs : Sound heap) (hself : self < heap.length) (hobj : heap[other]? = some obj)
    (hne : self ≠ other) (h : ¬ Nested heap self other) (h' : ¬ Nested heap other self)
    (hrest : MovedFrom heap other (fun p => Child heap p other ∨ Child heap p self) rest) :
    Sound ((heap.set other ⟨rest, obj.type⟩).set self obj) ∧
      ∀ v, Represents heap other v →
        Represents ((heap.set other ⟨rest, obj.type⟩).set self obj) self v := by
  have hother : other < heap.length := (List.getElem?_eq_some_iff.1 hobj).1
  have hself' : self < (heap.set other ⟨rest, obj.type⟩).length := by rwa [List.length_set]
  have hgetSelf : ((heap.set other ⟨rest, obj.type⟩).set self obj)[self]? = some obj :=
    List.getElem?_set_self hself'
  have hgetOther : ((heap.set other ⟨rest, obj.type⟩).set self obj)[other]? =
      some ⟨rest, obj.type⟩ := by
    rw [List.getElem?_set_ne hne, List.getElem?_set_self hother]
  have hsame : ∀ a, ¬ (a = other ∨ a = self) →
      ((heap.set other ⟨rest, obj.type⟩).set self obj)[a]? = heap[a]? := by
    intro a ha
    rw [not_or] at ha
    rw [List.getElem?_set_ne (Ne.symm ha.2), List.getElem?_set_ne (Ne.symm ha.1)]
  have hpoints (p : Addr) (hp : Child heap p other ∨ Child heap p self) :
      p < heap.length ∧ Avoids (Child heap) (fun a => a = other ∨ a = self) p :=
    ⟨hp.elim (hs.valid p other) (hs.valid p self), avoids_operands hs h h' hp⟩
  have htag := hs.tags other obj hobj
  refine ⟨?_, ?_⟩
  · apply hs.replace (by rw [List.length_set, List.length_set]) hsame
    rintro a obj' (rfl | rfl) hobj'
    · cases hgetOther.symm.trans hobj'
      obtain ⟨htype, hown⟩ := hrest obj hobj
      exact ⟨htag.trans htype.symm, fun p hp => hpoints p (hown p hp)⟩
    · cases hgetSelf.symm.trans hobj'
      exact ⟨htag, fun p hp => hpoints p (.inl ⟨obj, hobj, hp⟩)⟩
  · rintro v ⟨obj', hobj', hden⟩
    cases hobj.symm.trans hobj'
    exact ⟨obj, hgetSelf, hden.replace hsame fun p hp => (hpoints p (.inl ⟨obj, hobj, hp⟩)).2⟩

def nullObject : KvsObject := ⟨.null, .null⟩

theorem moveConstruct_spec (hs : Sound heap) (hobj : heap[other]? = some obj)
    (hrest : MovedFrom heap other (fun p => Child heap p other) rest) :
    Sound (heap.set other ⟨rest, obj.type⟩ ++ [obj]) ∧
      ∀ v, Represents heap other v →
        Represents (heap.set other ⟨rest, obj.type⟩ ++ [obj]) heap.length v := by
  have hother : other < heap.length := (List.getElem?_eq_some_iff.1 hobj).1
  have hmade : Made heap heap nullObject .null :=
    Denotes.made_leaf .null rfl fun p hp => hp
  have he := hmade.pushed
  have hheap : ((heap ++ [nullObject]).set other ⟨rest, obj.type⟩).set heap.length obj =
      heap.set other ⟨rest, obj.type⟩ ++ [obj] := by
    rw [List.set_append_left _ _ hother, List.set_append_right _ _ (by rw [List.length_set]),
      List.length_set, Nat.sub_self, List.set_cons_zero]
  have hself : heap.length < (heap ++ [nullObject]).length := by
    rw [List.length_append]
    exact Nat.lt_succ_self _
  have hnested : ¬ Nested (heap ++ [nullObject]) heap.length other :=
    fun hn => Nat.lt_irrefl _ (hs.nested_lt hother (he.nested hs hother hn))
  have hnested' : ¬ Nested (heap ++ [nullObject]) other heap.length := by
    intro hn
    rcases hn.cases_tail with heq | ⟨b, -, obj', hobj', hb⟩
    · exact Nat.ne_of_lt hother heq.symm
    · rw [List.getElem?_concat_length] at hobj'
      cases hobj'
      exact hb
  have hrest' : MovedFrom (heap ++ [nullObject]) other (fun p =>
      Child (heap ++ [nullObject]) p other ∨
        Child (heap ++ [nullObject]) p heap.length) rest := by
    intro obj' hobj'
    rw [he.old other hother] at hobj'
    obtain ⟨htype, hown⟩ := hrest obj' hobj'
    exact ⟨htype, fun p hp => .inl ((he.child hother).2 (hown p hp))⟩
  obtain ⟨hsound, hrep⟩ := moved_spec (he.sound hs) hself ((he.old other hother).trans hobj)
    (Nat.ne_of_gt hother) hnested hnested' hrest'
  rw [hheap] at hsound hrep
  exact ⟨hsound, fun v hv => hrep v (he.represents hs hv)⟩

end Replace

section ToAny

variable (base : Baselibs N) {heap : Heap}

theorem json_array_ext {f : Fin n → Json N} {g : Fin m → Json N} (hn : n = m)
    (h : f = g ∘ Fin.cast hn) : Json.array n f = .array m g := by
  have hpair : (⟨n, f⟩ : Σ n, Fin n → Json N) = ⟨m, g⟩ := Fin.sigma_eq_of_eq_comp_cast hn h
  exact congrArg (fun s : Σ n, Fin n → Json N => Json.array s.1 s.2) hpair

theorem convertItems_spec {conv : Addr → Option (Except ErrorCode (Json N))}
    (h : List.Forall₂ (fun a v => conv a = some (.ok (encoded base.number v))) elems vs) :
    convertItems conv elems = some (.ok (vs.map (encoded base.number))) := by
  induction h with
  | nil => rfl
  | cons hconv _ ih =>
    simp only [convertItems, hconv, Option.bind_eq_bind, Option.bind_some, ih]
    rfl

theorem convertMembers_spec (conv : Addr → Option (Except ErrorCode (Json N)))
    (members : FiniteMap String Addr) {f : {k // k ∈ members.keys} → Json N}
    (h : ∀ k, conv (members.val k) = some (.ok (f k))) (keys : List {k // k ∈ members.keys})
    (innerObj : JsonObject N) : convertMembers conv members keys innerObj =
      some (emplaceAll (fun k => .ok (f k)) keys innerObj) := by
  induction keys generalizing innerObj with
  | nil => rfl
  | cons key keys ih =>
    simp only [convertMembers, h, Option.bind_eq_bind, Option.bind_some, ih]
    rfl

theorem convertItems_array {conv : Addr → Option (Except ErrorCode (Json N))}
    (h : List.Forall₂ (fun a v => conv a = some (.ok (encoded base.number v))) elems vs) :
    ∃ list, convertItems conv elems = some (.ok list) ∧
      Json.tagged "arr" (.array list.length list.get) = encoded base.number (ofList vs) := by
  refine ⟨_, convertItems_spec base h, ?_⟩
  have harray : Json.array (vs.map (encoded base.number)).length
      (vs.map (encoded base.number)).get =
        .array vs.length fun i => encoded base.number (vs.get i) := by
    apply json_array_ext (List.length_map _)
    funext i
    exact List.getElem_map _
  rw [harray]
  rfl

theorem convertMembers_all (conv : Addr → Option (Except ErrorCode (Json N)))
    (members : FiniteMap String Addr) {f : {k // k ∈ members.keys} → Json N}
    (h : ∀ k, conv (members.val k) = some (.ok (f k))) :
    convertMembers conv members (base.order members.keys) .empty =
      some (.ok ⟨members.keys, f⟩) := by
  have hmap : emplaceAll (fun k => .ok (f k)) (base.order members.keys) .empty =
      .ok ⟨members.keys, f⟩ := emplaceAll_order base fun k => rfl
  rw [convertMembers_spec conv members h, hmap]

theorem kvsvalueToAny_spec (hs : Sound heap) (hv : Represents heap kv v) (hfits : Fits v fuel) :
    kvsvalueToAny base fuel kv heap = some (.ok (encoded base.number v)) := by
  induction fuel generalizing kv v with
  | zero => exact absurd hfits (not_fits_zero v)
  | succ fuel ih =>
    obtain ⟨⟨value, type⟩, hobj, hden⟩ := hv
    have htag : type = value.type := hs.tags kv _ hobj
    subst htag
    simp only [kvsvalueToAny, hobj, Option.bind_eq_bind, Option.bind_some]
    cases value with
    | array elems =>
      obtain ⟨vs, hvs, rfl⟩ := denotes_array_iff.1 hden
      have hconv : List.Forall₂ (fun a v =>
          kvsvalueToAny base fuel a heap = some (.ok (encoded base.number v))) elems vs := by
        rw [List.forall₂_iff_get] at hvs ⊢
        refine ⟨hvs.1, ?_⟩
        intro i hi hi'
        exact ih (hvs.2 i hi hi') (hfits ⟨i, hi'⟩)
      obtain ⟨list, hrun, htree⟩ := convertItems_array base hconv
      simp only [Variant.type, Variant.getArray, Option.bind_some, hrun, ← htree]
      rfl
    | object members =>
      obtain ⟨⟨keys, vals⟩, hkeys, hmembers, rfl⟩ := denotes_object_iff.1 hden
      cases hkeys
      have hconv (k : {k // k ∈ members.keys}) :
          kvsvalueToAny base fuel (members.val k) heap =
            some (.ok (encoded base.number (vals k))) := by
        obtain ⟨w, hw, hv⟩ := hmembers k.1 _ (members.get?_of_mem k.2)
        cases hw.symm.trans ((⟨members.keys, vals⟩ : KvsMap).get?_of_mem k.2)
        exact ih hv (hfits k)
      have hrun := convertMembers_all base (fun value => kvsvalueToAny base fuel value heap) members
        hconv
      simp only [Variant.type, Variant.getObject, Option.bind_some, hrun]
      rfl
    | _ =>
      cases hden
      rfl

end ToAny

section Runs

variable (base : Baselibs N) {heap : Heap}

theorem Sound.start : Sound [] where
  tags a obj hobj := by cases hobj
  valid p a hp := absurd hp.lt (Nat.not_lt_zero a)
  acyclic := ⟨fun a => ⟨a, fun p hp => absurd hp.lt (Nat.not_lt_zero a)⟩⟩

theorem construct_spec (hs : Sound heap) (hrun : made = some (obj, heap'))
    (h : Made heap heap' obj v) : ∃ heap'', construct made = some heap'' ∧ Sound heap'' ∧
      Represents heap'' (heap''.length - 1) v ∧
      ∀ a w, Represents heap a w → Represents heap'' a w := by
  refine ⟨heap' ++ [obj], ?_, h.pushed.sound hs, ?_, fun a w hw => h.pushed.represents hs hw⟩
  · rw [hrun, construct, Option.map_some]
  · rw [List.length_append, List.length_singleton, Nat.add_sub_cancel]
    exact h.represents hs

theorem exists_values (hs : Sound heap) (items : List Addr) (h : ∀ p ∈ items, p < heap.length) :
    ∃ vs, List.Forall₂ (Represents heap) items vs := by
  induction items with
  | nil => exact ⟨[], .nil⟩
  | cons item items ih =>
    obtain ⟨v, hv⟩ := hs.exists_represents (h item List.mem_cons_self)
    obtain ⟨vs, hvs⟩ := ih fun p hp => h p (List.mem_cons_of_mem item hp)
    exact ⟨v :: vs, .cons hv hvs⟩

theorem exists_map (hs : Sound heap) (members : FiniteMap String Addr)
    (h : ∀ k p, members.get? k = some p → p < heap.length) :
    ∃ map : KvsMap, map.keys = members.keys ∧
      ∀ k p, members.get? k = some p → ∃ w, map.get? k = some w ∧ Represents heap p w := by
  have hget (k : {k // k ∈ members.keys}) : ∃ v, Represents heap (members.val k) v :=
    hs.exists_represents (h k.1 _ (members.get?_of_mem k.2))
  choose vals hvals using hget
  refine ⟨⟨members.keys, vals⟩, rfl, ?_⟩
  intro k p hkp
  obtain ⟨hk, rfl⟩ := members.get?_eq_some.1 hkp
  exact ⟨_, (⟨members.keys, vals⟩ : KvsMap).get?_of_mem hk, hvals ⟨k, hk⟩⟩

theorem leaf_sound (hs : Sound heap) (hden : Denotes heap value v) (hnone : ∀ p, ¬ value.Points p) :
    ∃ heap', construct (some (⟨value, value.type⟩, heap)) = some heap' ∧ Sound heap' := by
  have hmade : Made heap heap ⟨value, value.type⟩ v := hden.made_leaf rfl hnone
  obtain ⟨heap', hrun, hsound, -⟩ := construct_spec hs rfl hmade
  exact ⟨heap', hrun, hsound⟩

theorem array_spec (hs : Sound heap) (hvs : List.Forall₂ (Represents heap) items vs) :
    ∃ heap', construct (arrayConstruct base items heap) = some heap' ∧ Sound heap' ∧
      Represents heap' (heap'.length - 1) (ofList vs) := by
  obtain ⟨obj, heap₁, hrun, hmade⟩ := arrayConstruct_spec base hs hvs
  obtain ⟨heap', hrun', hsound, hrep, -⟩ := construct_spec hs hrun hmade
  exact ⟨heap', hrun', hsound, hrep⟩

theorem object_spec {members : FiniteMap String Addr} (hs : Sound heap)
    (hkeys : map.keys = members.keys)
    (hmembers : ∀ k p, members.get? k = some p → ∃ w, map.get? k = some w ∧ Represents heap p w) :
    ∃ heap', construct (objectConstruct base members heap) = some heap' ∧ Sound heap' ∧
      Represents heap' (heap'.length - 1) (.ofMap map) := by
  obtain ⟨obj, heap₁, hrun, hmade⟩ := objectConstruct_spec base hs hmembers hkeys
  obtain ⟨heap', hrun', hsound, hrep, -⟩ := construct_spec hs hrun hmade
  exact ⟨heap', hrun', hsound, hrep⟩

theorem copy_spec (hs : Sound heap) (hv : Represents heap other v) :
    ∃ heap', construct (copyAny base other heap) = some heap' ∧ Sound heap' ∧
      Represents heap' (heap'.length - 1) v ∧
      ∀ a w, Represents heap a w → Represents heap' a w := by
  obtain ⟨obj, heap₁, hrun, hmade⟩ := copyAny_spec base heap other v hs hv trivial
  exact construct_spec hs hrun hmade

theorem move_sound (hs : Sound heap) (hother : other < heap.length)
    (hrest : MovedFrom heap other (fun p => Child heap p other) rest) :
    ∃ heap', construct (moveConstruct other rest heap) = some heap' ∧ Sound heap' := by
  have hobj := List.getElem?_eq_getElem hother
  refine ⟨_, ?_, (moveConstruct_spec hs hobj hrest).1⟩
  simp only [moveConstruct, hobj]
  rfl

theorem moveAssign_sound (hs : Sound heap) (hself : self < heap.length)
    (hother : other < heap.length)
    (hnested : self = other ∨ ¬ Nested heap self other ∧ ¬ Nested heap other self)
    (hrest : MovedFrom heap other (fun p => Child heap p other ∨ Child heap p self) rest) :
    ∃ heap', moveAssign self other rest heap = some heap' ∧ Sound heap' := by
  by_cases heq : self = other
  · exact ⟨heap, if_pos heq, hs⟩
  · obtain ⟨hno, hno'⟩ := hnested.resolve_left heq
    have hobj := List.getElem?_eq_getElem hother
    refine ⟨_, ?_, (moved_spec hs hself hobj heq hno hno' hrest).1⟩
    simp only [moveAssign, if_neg heq, hobj]
    rfl

theorem step_sound (hs : Sound heap) (op : Op) (hop : op.Valid heap) :
    ∃ heap', op.step base heap = some heap' ∧ Sound heap' := by
  cases op with
  | i32 number => exact leaf_sound hs (.i32 number) fun p hp => hp
  | u32 number => exact leaf_sound hs (.u32 number) fun p hp => hp
  | i64 number => exact leaf_sound hs (.i64 number) fun p hp => hp
  | u64 number => exact leaf_sound hs (.u64 number) fun p hp => hp
  | f64 number => exact leaf_sound hs (.f64 number) fun p hp => hp
  | boolean b => exact leaf_sound hs (.boolean b) fun p hp => hp
  | chars str | string str => exact leaf_sound hs (.string str) fun p hp => hp
  | nullptr => exact leaf_sound hs .null fun p hp => hp
  | array items | vector items =>
    obtain ⟨vs, hvs⟩ := exists_values hs items hop
    obtain ⟨heap', hrun, hsound, -⟩ := array_spec base hs hvs
    exact ⟨heap', hrun, hsound⟩
  | object members | unorderedMap members =>
    obtain ⟨map, hkeys, hmembers⟩ := exists_map hs members hop
    obtain ⟨heap', hrun, hsound, -⟩ := object_spec base hs hkeys hmembers
    exact ⟨heap', hrun, hsound⟩
  | copy other =>
    obtain ⟨v, hv⟩ := hs.exists_represents hop
    obtain ⟨heap', hrun, hsound, -⟩ := copy_spec base hs hv
    exact ⟨heap', hrun, hsound⟩
  | move other rest => exact move_sound hs hop.1 hop.2
  | copyAssign self other =>
    obtain ⟨v, hv⟩ := hs.exists_represents hop.2
    obtain ⟨heap', hrun, hsound, -⟩ := copyAssign_spec base hs hop.1 hv
    exact ⟨heap', hrun, hsound⟩
  | moveAssign self other rest =>
    obtain ⟨hself, hother, hnested, hrest⟩ := hop
    exact moveAssign_sound hs hself hother hnested hrest

/-- After any operations on valid operands, moves included, every object at any depth has the type
of its active alternative and stands for one value tree; the conversion to an `Any` is that of the
value and succeeds; and what is copied from an object stands for the same value. -/
theorem tags_match (ops : List Op)
    (hops : Transition.Always (Op.step base) (fun heap op => op.Valid heap) [] ops) :
    ∃ heap, Transition.exec (Op.step base) [] ops = some heap ∧
      (∀ (a : Addr) obj, heap[a]? = some obj →
        obj.type = obj.value.type ∧ ∀ p, obj.value.Points p → p < heap.length) ∧
      (∀ a < heap.length, ∃! v, Represents heap a v) ∧
      (∀ a v, Represents heap a v →
        kvsvalueToAny base heap.length a heap = some (Cpp.kvsvalueToAny base.number v) ∧
          Cpp.kvsvalueToAny base.number v = .ok (encoded base.number v)) ∧
      (∀ items vs, List.Forall₂ (Represents heap) items vs →
        ∃ heap', Op.step base heap (.array items) = some heap' ∧
          Op.step base heap (.vector items) = some heap' ∧
          Represents heap' (heap'.length - 1) (ofList vs)) ∧
      (∀ (members : FiniteMap String Addr) (map : KvsMap), map.keys = members.keys →
        (∀ k p, members.get? k = some p → ∃ w, map.get? k = some w ∧ Represents heap p w) →
        ∃ heap', Op.step base heap (.object members) = some heap' ∧
          Op.step base heap (.unorderedMap members) = some heap' ∧
          Represents heap' (heap'.length - 1) (.ofMap map)) ∧
      ∀ other v, Represents heap other v →
        (∃ heap', Op.step base heap (.copy other) = some heap' ∧
          Represents heap' (heap'.length - 1) v ∧ Represents heap' other v) ∧
        ∀ self < heap.length, ∃ heap', Op.step base heap (.copyAssign self other) = some heap' ∧
          Represents heap' self v ∧
            (¬ Nested heap self other → Represents heap' other v) := by
  obtain ⟨heap, hrun, hs⟩ := Transition.exec_progress
    (fun heap op hs hop => step_sound base hs op hop) Sound.start hops
  refine ⟨heap, hrun, ?tags, ?values, ?convert, ?arrays, ?objects, ?copies⟩
  case tags =>
    intro a obj hobj
    exact ⟨hs.tags a obj hobj, fun p hp => hs.valid p a ⟨obj, hobj, hp⟩⟩
  case values =>
    intro a ha
    obtain ⟨v, hv⟩ := hs.exists_represents ha
    exact ⟨v, hv, fun w hw => hw.unique hv⟩
  case convert =>
    intro a v hv
    have hpure := kvsvalueToAny_eq base.number v
    have hany := kvsvalueToAny_spec base hs hv (hs.fits hv)
    exact ⟨hany.trans (congrArg some hpure.symm), hpure⟩
  case arrays =>
    intro items vs hvs
    obtain ⟨heap', hrun', -, hrep⟩ := array_spec base hs hvs
    exact ⟨heap', hrun', hrun', hrep⟩
  case objects =>
    intro members map hkeys hmembers
    obtain ⟨heap', hrun', -, hrep⟩ := object_spec base hs hkeys hmembers
    exact ⟨heap', hrun', hrun', hrep⟩
  case copies =>
    intro other v hv
    apply And.intro
    · obtain ⟨heap', hrun', -, hcopy, hold⟩ := copy_spec base hs hv
      exact ⟨heap', hrun', hcopy, hold other v hv⟩
    · intro self hself
      obtain ⟨heap', hrun', -, hcopy, hold⟩ := copyAssign_spec base hs hself hv
      exact ⟨heap', hrun', hcopy, hold⟩

end Runs

def someOps : List Op := [.i32 42, .array [0], .moveAssign 0 2 (.array []), .copy 0]

def someHeap : Heap := [⟨.i32 42, .i32⟩, ⟨.i32 42, .i32⟩, ⟨.array [1], .array⟩]

theorem someHeap_apart : ¬ Nested someHeap 0 2 ∧ ¬ Nested someHeap 2 0 := by
  apply And.intro
  · intro h
    rcases h.cases_tail with heq | ⟨a, ha, obj, hobj, hp⟩
    · cases heq
    · cases hobj
      cases List.mem_singleton.1 hp
      rcases ha.cases_tail with heq | ⟨b, -, obj, hobj, hp⟩
      · cases heq
      · cases hobj
        exact hp
  · intro h
    rcases h.cases_tail with heq | ⟨a, -, obj, hobj, hp⟩
    · cases heq
    · cases hobj
      exact hp

theorem tags_match_ops : ∃ heap,
    Transition.exec (Op.step (textBaselibs (fun _ => "") fun _ => none)) [] someOps = some heap ∧
      heap.map KvsObject.type = [.array, .i32, .array, .i32, .array] ∧
      ∃! v, Represents heap 4 v := by
  have hmove : (Op.moveAssign 0 2 (.array [])).Valid someHeap := by
    refine ⟨by decide, by decide, .inr someHeap_apart, ?_⟩
    intro obj hobj
    cases hobj
    exact ⟨rfl, fun p hp => absurd hp List.not_mem_nil⟩
  have hops : Transition.Always (Op.step (textBaselibs (fun _ => "") fun _ => none))
      (fun heap op => op.Valid heap) [] someOps := by
    apply Transition.always_cons trivial rfl
    apply Transition.always_cons (fun p hp => List.mem_singleton.1 hp ▸ Nat.zero_lt_one) rfl
    apply Transition.always_cons hmove rfl
    exact Transition.always_cons (Nat.zero_lt_succ 2) rfl trivial
  obtain ⟨heap, hrun, -, hvalues, -⟩ := tags_match _ someOps hops
  cases hrun
  exact ⟨_, rfl, rfl, hvalues 4 (by decide)⟩

end Persistency.Cpp.Objects
