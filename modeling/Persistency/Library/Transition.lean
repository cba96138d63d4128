import Mathlib.Computability.StateTransition
import Mathlib.Data.List.Forall2

set_option autoImplicit true

namespace Transition

variable {S T A O O' : Type}

section Machine

variable (step : S → A → S × O)

def run : S → List A → S × List O
  | s, [] => (s, [])
  | s, a :: as =>
    let r := step s a
    ((run r.1 as).1, r.2 :: (run r.1 as).2)

/-- `P` holds of every action of a run in the state before it. -/
def Along (P : S → A → Prop) : S → List A → Prop
  | _, [] => True
  | s, a :: as => P s a ∧ Along P (step s a).1 as

variable {step}

theorem run_append (s : S) (as bs : List A) :
    run step s (as ++ bs) =
      ((run step (run step s as).1 bs).1,
        (run step s as).2 ++ (run step (run step s as).1 bs).2) := by
  induction as generalizing s with
  | nil => rfl
  | cons a as ih => simp only [List.cons_append, run, ih]

theorem run_concat (s : S) (as : List A) (a : A) :
    (run step s (as ++ [a])).1 = (step (run step s as).1 a).1 := by
  rw [run_append]
  rfl

theorem run_invariant {I : S → Prop} (hstep : ∀ s a, I s → I (step s a).1) (h : I s)
    (as : List A) : I (run step s as).1 := by
  induction as generalizing s with
  | nil => exact h
  | cons a as ih => exact ih (hstep s a h)

/-- An invariant that the steps meeting `P` preserve holds after every run of such steps. -/
theorem along_invariant {I : S → Prop} {P : S → A → Prop}
    (hstep : ∀ s a, I s → P s a → I (step s a).1) (h : I s) (hp : Along step P s as) :
    I (run step s as).1 := by
  induction as generalizing s with
  | nil => exact h
  | cons a as ih => exact ih (hstep s a h hp.1) hp.2

theorem along_of_invariant {I : S → Prop} {P : S → A → Prop} {Q : A → Prop}
    (hp : ∀ s a, I s → Q a → P s a) (hstep : ∀ s a, I s → Q a → I (step s a).1) (h : I s)
    (as : List A) (hq : ∀ a ∈ as, Q a) : Along step P s as := by
  induction as generalizing s with
  | nil => trivial
  | cons a as ih =>
    have ha := hq a List.mem_cons_self
    exact ⟨hp s a h ha, ih (hstep s a h ha) fun b hb => hq b (List.mem_cons_of_mem a hb)⟩

/-- Two properties of steps that agree wherever an invariant holds, which the second one
preserves, agree along every run. -/
theorem along_iff {I : S → Prop} {P Q : S → A → Prop} (hiff : ∀ s a, I s → (P s a ↔ Q s a))
    (hstep : ∀ s a, I s → Q s a → I (step s a).1) (h : I s) (as : List A) :
    Along step P s as ↔ Along step Q s as := by
  induction as generalizing s with
  | nil => rfl
  | cons a as ih =>
    simp only [Along]
    rw [hiff s a h]
    apply Iff.intro
    · rintro ⟨hq, hr⟩
      exact ⟨hq, (ih (hstep s a h hq)).1 hr⟩
    · rintro ⟨hq, hr⟩
      exact ⟨hq, (ih (hstep s a h hq)).2 hr⟩

theorem along_simulates {step' : T → A → T × O'} {R : S → T → Prop} {P : S → A → Prop}
    {E : O → O' → Prop}
    (hstep : ∀ s t a, R s t → P s a →
      R (step s a).1 (step' t a).1 ∧ E (step s a).2 (step' t a).2)
    (h : R s t) (hp : Along step P s as) :
    R (run step s as).1 (run step' t as).1 ∧
      List.Forall₂ E (run step s as).2 (run step' t as).2 := by
  induction as generalizing s t with
  | nil => exact ⟨h, .nil⟩
  | cons a as ih =>
    obtain ⟨hr, he⟩ := hstep s t a h hp.1
    obtain ⟨hf, hos⟩ := ih hr hp.2
    exact ⟨hf, .cons he hos⟩

/-- Forward simulation: related states stay related and every output is matched. -/
theorem run_simulates {step' : T → A → T × O'} {R : S → T → Prop} {Q : A → Prop}
    {E : O → O' → Prop}
    (hstep : ∀ s t a, R s t → Q a →
      R (step s a).1 (step' t a).1 ∧ E (step s a).2 (step' t a).2)
    (h : R s t) (as : List A) (hq : ∀ a ∈ as, Q a) :
    R (run step s as).1 (run step' t as).1 ∧
      List.Forall₂ E (run step s as).2 (run step' t as).2 := by
  have hp : Along step (fun _ a => Q a) s as :=
    along_of_invariant (I := fun _ => True) (fun _ _ _ ha => ha) (fun _ _ _ _ => trivial) trivial
      as hq
  exact along_simulates hstep h hp

end Machine

section Labelled

variable (step : S → A → Option S)

/-- The state after a run; there is none when some action is not enabled. -/
def exec : S → List A → Option S
  | s, [] => some s
  | s, a :: as => (step s a).bind fun s' => exec s' as

def Always (P : S → A → Prop) : S → List A → Prop
  | _, [] => True
  | s, a :: as => P s a ∧ ∀ s', step s a = some s' → Always P s' as

variable {step}

theorem exec_cons (h : exec step s (a :: as) = some s'') :
    ∃ s', step s a = some s' ∧ exec step s' as = some s'' := Option.bind_eq_some_iff.1 h

theorem exec_of_step (hs : step s a = some s') (h : exec step s' as = some s'') :
    exec step s (a :: as) = some s'' := Option.bind_eq_some_iff.2 ⟨s', hs, h⟩

theorem exec_append (h : exec step s as = some s') (h' : exec step s' bs = some s'') :
    exec step s (as ++ bs) = some s'' := by
  induction as generalizing s with
  | nil =>
    cases h
    exact h'
  | cons a as ih =>
    obtain ⟨s₁, hs, hr⟩ := exec_cons h
    exact exec_of_step hs (ih hr)

theorem exec_invariant {I : S → Prop} {P : S → A → Prop}
    (hstep : ∀ s a s', I s → P s a → step s a = some s' → I s') (h : I s)
    (hp : Always step P s as) (hrun : exec step s as = some s') : I s' := by
  induction as generalizing s with
  | nil =>
    cases hrun
    exact h
  | cons a as ih =>
    obtain ⟨s₁, hs, hr⟩ := exec_cons hrun
    exact ih (hstep s a s₁ h hp.1 hs) (hp.2 s₁ hs) hr

theorem always_cons {P : S → A → Prop} (hp : P s a) (hs : step s a = some s')
    (h : Always step P s' as) : Always step P s (a :: as) := by
  refine ⟨hp, ?_⟩
  intro s₁ hs₁
  cases hs.symm.trans hs₁
  exact h

/-- A run of steps that meet `P` goes on to its end when each such step keeps the invariant and
is enabled. -/
theorem exec_progress {I : S → Prop} {P : S → A → Prop}
    (hstep : ∀ s a, I s → P s a → ∃ s', step s a = some s' ∧ I s') (h : I s)
    (hp : Always step P s as) : ∃ s', exec step s as = some s' ∧ I s' := by
  induction as generalizing s with
  | nil => exact ⟨s, rfl, h⟩
  | cons a as ih =>
    obtain ⟨s₁, hs, h₁⟩ := hstep s a h hp.1
    obtain ⟨s', hr, h'⟩ := ih h₁ (hp.2 s₁ hs)
    exact ⟨s', exec_of_step hs hr, h'⟩

theorem always_of_mem {Q : A → Prop} (hq : ∀ a ∈ as, Q a) (s : S) :
    Always step (fun _ a => Q a) s as := by
  induction as generalizing s with
  | nil => trivial
  | cons a as ih =>
    refine ⟨hq a List.mem_cons_self, ?_⟩
    intro s' _
    exact ih (fun b hb => hq b (List.mem_cons_of_mem a hb)) s'

theorem Always.and {P Q : S → A → Prop} (hp : Always step P s as) (hq : Always step Q s as) :
    Always step (fun s a => P s a ∧ Q s a) s as := by
  induction as generalizing s with
  | nil => trivial
  | cons a as ih =>
    refine ⟨⟨hp.1, hq.1⟩, ?_⟩
    intro s' hs
    exact ih (hp.2 s' hs) (hq.2 s' hs)

theorem exists_not (hrun : exec step s as = some s') (h : ¬ Always step P s as) :
    ∃ before a after s₁ s₂, exec step s before = some s₁ ∧ ¬ P s₁ a ∧ step s₁ a = some s₂ ∧
      exec step s₂ after = some s' := by
  induction as generalizing s with
  | nil => exact absurd trivial h
  | cons a as ih =>
    obtain ⟨s₁, hs, hr⟩ := exec_cons hrun
    by_cases hp : P s a
    · have hrest : ¬ Always step P s₁ as := by
        intro hrest
        apply h
        apply And.intro hp
        intro s₂ hs₂
        cases hs.symm.trans hs₂
        exact hrest
      obtain ⟨before, b, after, s₂, s₃, hb, hnp, hstep, hafter⟩ := ih hr hrest
      refine ⟨a :: before, b, after, s₂, s₃, ?_, hnp, hstep, hafter⟩
      rw [exec, hs]
      exact hb
    · exact ⟨[], a, as, s, s₁, rfl, hp, hs, hr⟩

theorem always_true (s : S) (as : List A) : Always step (fun _ _ => True) s as := by
  induction as generalizing s with
  | nil => trivial
  | cons a as ih => exact ⟨trivial, fun s' _ => ih s'⟩

end Labelled

section Halting

variable {next : S → Option S} {I : S → Prop}

theorem reaches_invariant (hstep : ∀ s s', I s → next s = some s' → I s') (h : I s)
    (hr : StateTransition.Reaches next s s') : I s' := by
  induction hr with
  | refl => exact h
  | tail hr hs ih => exact hstep _ _ ih hs

theorem exists_halted (μ : S → Nat)
    (hstep : ∀ s s', I s → next s = some s' → I s' ∧ μ s' < μ s) (h : I s) :
    ∃ s', StateTransition.Reaches next s s' ∧ next s' = none ∧ I s' := by
  induction hn : μ s using Nat.strong_induction_on generalizing s with
  | _ n ih =>
    cases hs : next s with
    | none => exact ⟨s, .refl, hs, h⟩
    | some s₁ =>
      obtain ⟨h₁, hlt⟩ := hstep s s₁ h hs
      obtain ⟨s', hr, hnone, h'⟩ := ih (μ s₁) (hn ▸ hlt) h₁ rfl
      exact ⟨s', .head hs hr, hnone, h'⟩

end Halting

end Transition
