import Persistency.Library.Disk

set_option autoImplicit true

namespace Disk

variable {P B ε α β : Type} [DecidableEq P]

/-- From a disk that meets `pre`, the program ends with `ok` or with `bad`, and where it is stopped
on its way it leaves a disk that meets `stop`. -/
structure Spec (pre : Disk P B → Prop) (m : Prog P B ε α) (ok : α → Disk P B → Prop)
    (bad : ε → Disk P B → Prop) (stop : Disk P B → Prop) : Prop where
  ok : ∀ d a d', pre d → m.run d = (.ok a, d') → ok a d'
  bad : ∀ d e d', pre d → m.run d = (.error e, d') → bad e d'
  stop : ∀ d n left, pre d → stop (m.fail n left d)

namespace Prog

theorem fail_nil {m : Prog P B ε α} (h : (m d).2 = []) (n : Nat) (left : Option B) :
    m.fail n left d = d := by
  rw [fail, h, List.take_nil]
  cases left <;> rfl

theorem fail_of_le {m : Prog P B ε α} (h : (m d).2.length ≤ n) (left : Option B) :
    m.fail n left d = (m.run d).2 := by
  rw [fail, List.take_of_length_le h, List.getElem?_eq_none h]
  cases left <;> exact congrArg _ (List.append_nil _)

theorem fail_frame {m : Prog P B ε α} (hm : (m d).2 = steps ++ rest)
    (h : ∀ s ∈ steps, ¬ s.Touches p) (hn : n < steps.length ∨ rest = []) (left : Option B) :
    m.fail n left d p = d p := by
  have hnext : (steps ++ rest)[n]? = steps[n]? ∧ (steps ++ rest).take n = steps.take n := by
    rcases hn with hn | rfl
    · exact ⟨List.getElem?_append_left hn, List.take_append_of_le_length (Nat.le_of_lt hn)⟩
    · rw [List.append_nil]
      exact ⟨rfl, rfl⟩
  rw [fail, hm, hnext.1, hnext.2]
  apply replay_frame
  intro s hs
  rcases List.mem_append.1 hs with htake | hlast
  · exact h s (List.mem_of_mem_take htake)
  · unfold Step.spoiled at hlast
    split at hlast
    · rename_i b q b' hn
      cases List.mem_singleton.1 hlast
      exact fun ht => h _ (List.mem_of_getElem? hn) ht
    · cases hlast

theorem fail_bind_ok {m : Prog P B ε α} {f : α → Prog P B ε β} (h : m d = (.ok a, js)) (n : Nat)
    (left : Option B) : (m >>= f).fail n left d =
      if n < js.length then m.fail n left d
      else (f a).fail (n - js.length) left (replay d js) := by
  have hbind := bind_ok (f := f) h
  split
  · rename_i hn
    simp only [fail, hbind, h]
    rw [List.take_append_of_le_length (Nat.le_of_lt hn), List.getElem?_append_left hn]
  · rename_i hn
    simp only [fail, hbind]
    rw [List.take_append, List.take_of_length_le (Nat.le_of_not_lt hn), List.append_assoc,
      replay_append, List.getElem?_append_right (Nat.le_of_not_lt hn)]

theorem fail_bind_error {m : Prog P B ε α} {f : α → Prog P B ε β} (h : m d = (.error e, js))
    (n : Nat) (left : Option B) : (m >>= f).fail n left d = m.fail n left d := by
  simp only [fail, bind_error h, h]

end Prog

namespace Spec

open Prog

variable {pre : Disk P B → Prop} {m : Prog P B ε α} {ok : α → Disk P B → Prop}
  {bad : ε → Disk P B → Prop} {stop : Disk P B → Prop}

theorem imp (h : Spec pre m ok bad stop) (hpre : ∀ d, pre' d → pre d)
    (hok : ∀ a d, ok a d → ok' a d) (hbad : ∀ e d, bad e d → bad' e d)
    (hstop : ∀ d, stop d → stop' d) : Spec pre' m ok' bad' stop' where
  ok d a d' hd hr := hok a d' (h.ok d a d' (hpre d hd) hr)
  bad d e d' hd hr := hbad e d' (h.bad d e d' (hpre d hd) hr)
  stop d n left hd := hstop _ (h.stop d n left (hpre d hd))

theorem query {f : Disk P B → Except ε α} (hok : ∀ d a, pre d → f d = .ok a → ok a d)
    (hbad : ∀ d e, pre d → f d = .error e → bad e d) (hstop : ∀ d, pre d → stop d) :
    Spec pre (Prog.query f) ok bad stop where
  ok d a d' hd hr := by
    obtain ⟨hf, rfl⟩ := Prod.mk.inj hr
    exact hok d a hd hf
  bad d e d' hd hr := by
    obtain ⟨hf, rfl⟩ := Prod.mk.inj hr
    exact hbad d e hd hf
  stop d n left hd := by
    rw [fail_nil rfl]
    exact hstop d hd

theorem pure {a : α} (hok : ∀ d, pre d → ok a d) (hstop : ∀ d, pre d → stop d) :
    Spec pre (Pure.pure a : Prog P B ε α) ok bad stop := by
  refine query ?_ ?_ hstop
  · intro d b hd hb
    cases hb
    exact hok d hd
  · intro d e hd he
    cases he

theorem throw {e : ε} (hbad : ∀ d, pre d → bad e d) (hstop : ∀ d, pre d → stop d) :
    Spec pre (Prog.throw e : Prog P B ε α) ok bad stop := by
  refine query (f := fun _ => .error e) ?_ ?_ hstop
  · intro d a hd ha
    cases ha
  · intro d e' hd he
    cases he
    exact hbad d hd

theorem «exists» {p : P} {ok : Bool → Disk P B → Prop} (hok : ∀ d, pre d → ok (d p).isSome d)
    (hstop : ∀ d, pre d → stop d) : Spec pre (Prog.exists p : Prog P B ε Bool) ok bad stop := by
  refine query ?_ ?_ hstop
  · intro d b hd hb
    cases hb
    exact hok d hd
  · intro d e hd he
    cases he

theorem write {p : P} {b : B} {ok : Unit → Disk P B → Prop}
    (hok : ∀ d, pre d → ok () (Step.apply d (.write p b))) (hkeep : ∀ d, pre d → stop d)
    (hstop : ∀ d b', pre d → stop (Step.apply d (.write p b'))) :
    Spec pre (Prog.write p b : Prog P B ε Unit) ok bad stop where
  ok d a d' hd hr := by
    rw [run_write] at hr
    obtain ⟨-, rfl⟩ := Prod.mk.inj hr
    exact hok d hd
  bad d e d' hd hr := by
    rw [run_write] at hr
    cases hr
  stop d n left hd := by
    cases n with
    | zero =>
      cases left with
      | none => exact hkeep d hd
      | some b' => exact hstop d b' hd
    | succ n =>
      rw [fail_of_le (Nat.le_add_left 1 n), run_write]
      exact hstop d b hd

theorem rename {src dst : P} {ok : Bool → Disk P B → Prop}
    (hok : ∀ d, pre d → ok (d src).isSome (Step.apply d (.rename src dst)))
    (hkeep : ∀ d, pre d → stop d) (hstop : ∀ d, pre d → stop (Step.apply d (.rename src dst))) :
    Spec pre (Prog.rename src dst : Prog P B ε Bool) ok bad stop where
  ok d a d' hd hr := by
    rw [run_rename] at hr
    cases hr
    exact hok d hd
  bad d e d' hd hr := by
    rw [run_rename] at hr
    cases hr
  stop d n left hd := by
    cases hsrc : (d src).isSome with
    | false =>
      have hnil : (Prog.rename src dst d : Except ε Bool × List (Step P B)).2 = [] := by
        simp only [Prog.rename, hsrc, Bool.false_eq_true, ↓reduceIte]
      rw [fail_nil hnil]
      exact hkeep d hd
    | true =>
      have hone : (Prog.rename src dst d : Except ε Bool × List (Step P B)).2 =
          [.rename src dst] := by
        simp only [Prog.rename, hsrc, ↓reduceIte]
      cases n with
      | zero =>
        rw [fail, hone]
        cases left <;> exact hkeep d hd
      | succ n =>
        rw [fail_of_le (by rw [hone]; exact Nat.le_add_left 1 n), run_rename]
        exact hstop d hd

theorem bind {f : α → Prog P B ε β} {ok : β → Disk P B → Prop} (mid : α → Disk P B → Prop)
    (hm : Spec pre m mid bad stop) (hf : ∀ a, Spec (mid a) (f a) ok bad stop) :
    Spec pre (m >>= f) ok bad stop where
  ok d b d' hd hr := by
    cases h : m.run d with
    | mk r d₁ =>
      cases r with
      | ok a =>
        rw [run_bind h] at hr
        exact (hf a).ok d₁ b d' (hm.ok d a d₁ hd h) hr
      | error e =>
        rw [run_bind_error h] at hr
        cases hr
  bad d e d' hd hr := by
    cases h : m.run d with
    | mk r d₁ =>
      cases r with
      | ok a =>
        rw [run_bind h] at hr
        exact (hf a).bad d₁ e d' (hm.ok d a d₁ hd h) hr
      | error e =>
        rw [run_bind_error h] at hr
        cases hr
        exact hm.bad d e _ hd h
  stop d n left hd := by
    cases h : m d with
    | mk r js =>
      cases r with
      | ok a =>
        rw [fail_bind_ok h]
        split
        · exact hm.stop d n left hd
        · have hrun : m.run d = (.ok a, replay d js) := by rw [run, h]
          exact (hf a).stop _ _ left (hm.ok d a _ hd hrun)
      | error e =>
        rw [fail_bind_error h]
        exact hm.stop d n left hd

end Spec

end Disk
