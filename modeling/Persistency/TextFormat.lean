import Mathlib
import Persistency.Library.BigEndian
import Persistency.Value

namespace Persistency
set_option autoImplicit true

def utf8 (s : String) : BigEndian.Bytes := s.toUTF8.data.toList

def ofUtf8? (b : BigEndian.Bytes) : Option String := String.fromUTF8? ⟨b.toArray⟩

theorem ofUtf8_utf8 (s : String) : ofUtf8? (utf8 s) = some s := by
  have hs := s.isValidUTF8
  unfold ofUtf8? utf8 String.fromUTF8?
  simp [hs, String.fromUTF8, String.toUTF8]

theorem utf8_injective : Function.Injective utf8 := by
  intro s t h
  have hs := congrArg ofUtf8? h
  rw [ofUtf8_utf8, ofUtf8_utf8] at hs
  exact Option.some.inj hs

theorem utf8_of_ofUtf8 (h : ofUtf8? b = some text) : b = utf8 text := by
  unfold ofUtf8? String.fromUTF8? at h
  split at h
  · cases h
    simp [utf8, String.fromUTF8]
  · cases h

instance : Countable Binary64.Finite := by
  apply Function.Injective.countable (f := fun x => (x.negative, x.mantissa, x.exponent))
  intro ⟨s, m, e, h⟩ ⟨s', m', e', h'⟩ heq
  cases heq
  rfl

instance : Countable Binary64 := by
  let code : Binary64 → Option (Bool ⊕ Binary64.Finite)
    | .nan => none
    | .infinity s => some (.inl s)
    | .finite x => some (.inr x)
  have hcode : Function.Injective code := by
    intro x y h
    cases x <;> cases y <;> simp_all [code]
  exact hcode.countable

namespace Json

abbrev Shape (N : Type) := Unit ⊕ Bool ⊕ N ⊕ String ⊕ Nat ⊕ Finset String

def Arity : Shape N → Type
  | .inr (.inr (.inr (.inr (.inl n)))) => Fin n
  | .inr (.inr (.inr (.inr (.inr keys)))) => {k // k ∈ keys}
  | _ => Empty

instance (s : Shape N) : Fintype (Arity s) :=
  match s with
  | .inr (.inr (.inr (.inr (.inl n)))) => inferInstanceAs (Fintype (Fin n))
  | .inr (.inr (.inr (.inr (.inr keys)))) => inferInstanceAs (Fintype {k // k ∈ keys})
  | .inl _ | .inr (.inl _) | .inr (.inr (.inl _)) | .inr (.inr (.inr (.inl _))) =>
    inferInstanceAs (Fintype Empty)

def toTree : Json N → WType (Arity (N := N))
  | .null => ⟨.inl (), Empty.elim⟩
  | .boolean b => ⟨.inr (.inl b), Empty.elim⟩
  | .number x => ⟨.inr (.inr (.inl x)), Empty.elim⟩
  | .string s => ⟨.inr (.inr (.inr (.inl s))), Empty.elim⟩
  | .array n elems => ⟨.inr (.inr (.inr (.inr (.inl n)))), fun i => (elems i).toTree⟩
  | .object keys vals => ⟨.inr (.inr (.inr (.inr (.inr keys)))), fun k => (vals k).toTree⟩

def ofTree : WType (Arity (N := N)) → Json N
  | ⟨.inl _, _⟩ => .null
  | ⟨.inr (.inl b), _⟩ => .boolean b
  | ⟨.inr (.inr (.inl x)), _⟩ => .number x
  | ⟨.inr (.inr (.inr (.inl s))), _⟩ => .string s
  | ⟨.inr (.inr (.inr (.inr (.inl n)))), f⟩ => .array n fun i : Fin n => ofTree (f i)
  | ⟨.inr (.inr (.inr (.inr (.inr keys)))), f⟩ =>
    .object keys fun k : {k // k ∈ keys} => ofTree (f k)

theorem ofTree_toTree (j : Json N) : ofTree j.toTree = j := by
  induction j with
  | array n elems ih =>
    rw [toTree, ofTree]
    congr 1
    exact funext ih
  | object keys vals ih =>
    rw [toTree, ofTree]
    congr 1
    exact funext ih
  | _ => rfl

instance : Countable Char :=
  Function.Injective.countable fun c c' (h : c.toNat = c'.toNat) => Char.toNat_inj.1 h

instance : Countable String :=
  Function.Injective.countable fun s s' (h : s.toList = s'.toList) => String.toList_inj.1 h

instance [Countable N] : Countable (Json N) := by
  have : Encodable N := .ofCountable N
  have : Encodable String := .ofCountable String
  have (s : Shape N) : Encodable (Arity s) := Fintype.toEncodable _
  exact (Function.LeftInverse.injective ofTree_toTree).countable

end Json

theorem exists_textFormat [Countable N] (j : Json N) (text : String) :
    ∃ (write : Json N → String) (read : String → Option (Json N)),
      (∀ j, read (write j) = some j) ∧ write j = text := by
  obtain ⟨code, hcode⟩ := exists_injective_nat (Json N)
  have hrepr : Function.Injective fun j => (code j).repr :=
    fun _ _ h => hcode (Nat.repr_injective h)
  have hwrite := (Equiv.swap (code j).repr text).injective.comp hrepr
  exact ⟨_, Function.partialInv _, Function.partialInv_left hwrite, Equiv.swap_apply_left _ _⟩

end Persistency
