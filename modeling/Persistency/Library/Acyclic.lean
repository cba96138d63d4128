import Mathlib.Data.Finset.Card
import Mathlib.Logic.Relation
import Mathlib.Order.WellFounded

set_option autoImplicit true

namespace Acyclic

variable {α : Type} {r r' : α → α → Prop} {S : α → Prop}

/-- No node of `S` is reached from `x`. -/
def Avoids (r : α → α → Prop) (S : α → Prop) (x : α) : Prop :=
  ∀ y, Relation.ReflTransGen r y x → ¬ S y

theorem Avoids.step (h : Avoids r S x) (hp : r p x) : Avoids r S p :=
  fun y hy => h y (hy.tail hp)

theorem Avoids.self (h : Avoids r S x) : ¬ S x := h x .refl

theorem avoids_or (h : Avoids r S x) (h' : Avoids r T x) : Avoids r (fun y => S y ∨ T y) x := by
  intro y hy hor
  rcases hor with hs | ht
  · exact h y hy hs
  · exact h' y hy ht

theorem avoids_of_edge (hr : WellFounded r) (hp : r p x) : Avoids r (· = x) p := by
  rintro y hy rfl
  have hcycle : Relation.TransGen r y y := Relation.TransGen.tail' hy hp
  exact hr.transGen.irrefl.irrefl y hcycle

theorem acc_of_avoids (hsame : ∀ x, ¬ S x → ∀ p, r' p x → r p x) (hacc : Acc r x)
    (h : Avoids r S x) : Acc r' x := by
  induction hacc with
  | intro x _ ih =>
    constructor
    intro p hp
    have hedge := hsame x h.self p hp
    exact ih p hedge (h.step hedge)

/-- New edges at the nodes of `S` make no cycle when they lead to where `S` is not reached. -/
theorem wellFounded_replaced (hr : WellFounded r) (hsame : ∀ x, ¬ S x → ∀ p, r' p x → r p x)
    (hnew : ∀ x, S x → ∀ p, r' p x → Avoids r S p) : WellFounded r' := by
  constructor
  intro x
  induction x using hr.induction with
  | _ x ih =>
    constructor
    intro p hp
    by_cases hx : S x
    · exact acc_of_avoids hsame (hr.apply p) (hnew x hx p hp)
    · exact ih p (hsame x hx p hp)

/-- An induction along the edges needs no more steps than there are nodes. -/
theorem bounded_induction (hr : WellFounded r) (nodes : Finset α)
    (hnodes : ∀ p x, r p x → p ∈ nodes) {P : Nat → α → Prop}
    (hstep : ∀ n x, (∀ p, r p x → P n p) → P (n + 1) x) (hx : x ∈ nodes) :
    P nodes.card x := by
  classical
  -- `above` are the nodes on the way to `x`; each of them reaches `x`
  have key (n : Nat) : ∀ (x : α) (above : Finset α), x ∈ nodes → above ⊆ nodes →
      (∀ y ∈ above, Relation.TransGen r x y) → nodes.card ≤ above.card + n → P n x := by
    induction n with
    | zero =>
      intro x above hx hsub habove hcard
      have heq := Finset.eq_of_subset_of_card_le hsub hcard
      exact absurd (habove x (heq ▸ hx)) (hr.transGen.irrefl.irrefl x)
    | succ n ih =>
      intro x above hx hsub habove hcard
      have hnot : x ∉ above := fun hmem => hr.transGen.irrefl.irrefl x (habove x hmem)
      apply hstep
      intro p hp
      apply ih p (insert x above) (hnodes p x hp) (Finset.insert_subset hx hsub)
      · intro y hy
        rcases Finset.mem_insert.1 hy with rfl | hy
        · exact .single hp
        · exact .head hp (habove y hy)
      · rw [Finset.card_insert_of_notMem hnot]
        omega
  exact key nodes.card x ∅ hx (Finset.empty_subset _)
    (fun y hy => absurd hy (Finset.notMem_empty y)) (Nat.le_add_left _ _)

end Acyclic
