import Mathlib.Computability.StateTransition
import Persistency.Library.Disk

set_option autoImplicit true

namespace Disk

/-- What a program still has to do: it has a result, or makes a step and goes on with what the
step tells it. -/
inductive Task (P B α : Type) where
  | done (a : α)
  | read (p : P) (next : Option B → Task P B α)
  | write (p : P) (b : B) (next : Task P B α)
  | rename (src dst : P) (next : Bool → Task P B α)

namespace Task

variable {P B α β : Type}

protected def bind : Task P B α → (α → Task P B β) → Task P B β
  | .done a, f => f a
  | .read p next, f => .read p fun b => (next b).bind f
  | .write p b next, f => .write p b (next.bind f)
  | .rename src dst next, f => .rename src dst fun found => (next found).bind f

instance : Monad (Task P B) where
  pure := .done
  bind := Task.bind

theorem pure_eq (a : α) : (pure a : Task P B α) = .done a := rfl

theorem bind_eq (t : Task P B α) (f : α → Task P B β) : (t >>= f) = t.bind f := rfl

/-- Every file that the task looks at or changes is in `S`, whatever it finds there. -/
def Within (S : P → Prop) : Task P B α → Prop
  | .done _ => True
  | .read p next => S p ∧ ∀ b, (next b).Within S
  | .write p _ next => S p ∧ next.Within S
  | .rename src dst next => S src ∧ S dst ∧ ∀ found, (next found).Within S

theorem Within.bind {S : P → Prop} {t : Task P B α} {f : α → Task P B β} (ht : t.Within S)
    (hf : ∀ a, (f a).Within S) : (t >>= f).Within S := by
  rw [bind_eq]
  induction t with
  | done a => exact hf a
  | read p next ih => exact ⟨ht.1, fun b => ih b (ht.2 b)⟩
  | write p b next ih => exact ⟨ht.1, ih ht.2⟩
  | rename src dst next ih => exact ⟨ht.1, ht.2.1, fun found => ih found (ht.2.2 found)⟩

def Silent : Task P B α → Prop
  | .done _ => True
  | .read _ next => ∀ b, (next b).Silent
  | .write _ _ _ => False
  | .rename _ _ _ => False

theorem Silent.bind {t : Task P B α} {f : α → Task P B β} (ht : t.Silent)
    (hf : ∀ a, (f a).Silent) : (t >>= f).Silent := by
  rw [bind_eq]
  induction t with
  | done a => exact hf a
  | read p next ih => exact fun b => ih b (ht b)
  | write p b next => exact ht.elim
  | rename src dst next => exact ht.elim

variable [DecidableEq P]

def step : Task P B α → Disk P B → Option (Task P B α × Disk P B)
  | .done _, _ => none
  | .read p next, d => some (next (d p), d)
  | .write p b next, d => some (next, Step.apply d (.write p b))
  | .rename src dst next, d => some (next (d src).isSome, Step.apply d (.rename src dst))

theorem step_none {t : Task P B α} (h : t.step d = none) : ∃ a, t = .done a := by
  cases t with
  | done a => exact ⟨a, rfl⟩
  | _ => cases h

theorem step_induction {C : Task P B α → Prop}
    (h : ∀ t, (∀ d t' d', t.step d = some (t', d') → C t') → C t) (t : Task P B α) : C t := by
  induction t with
  | done a =>
    apply h
    intro d t' d' hs
    cases hs
  | read p next ih =>
    apply h
    intro d t' d' hs
    cases hs
    exact ih _
  | write p b next ih =>
    apply h
    intro d t' d' hs
    cases hs
    exact ih
  | rename src dst next ih =>
    apply h
    intro d t' d' hs
    cases hs
    exact ih _

/-- The result and the journal of a task that nothing comes between. -/
def exec : Task P B α → Disk P B → α × List (Step P B)
  | .done a, _ => (a, [])
  | .read p next, d => (next (d p)).exec d
  | .write p b next, d =>
    let r := next.exec (Step.apply d (.write p b))
    (r.1, .write p b :: r.2)
  | .rename src dst next, d =>
    if (d src).isSome then
      let r := (next true).exec (Step.apply d (.rename src dst))
      (r.1, .rename src dst :: r.2)
    else (next false).exec d

def run (t : Task P B α) (d : Disk P B) : α × Disk P B := ((t.exec d).1, replay d (t.exec d).2)

theorem run_done (a : α) (d : Disk P B) : (Task.done a).run d = (a, d) := rfl

theorem run_read (p : P) (next : Option B → Task P B α) (d : Disk P B) :
    (Task.read p next).run d = (next (d p)).run d := rfl

theorem run_write (p : P) (b : B) (next : Task P B α) (d : Disk P B) :
    (Task.write p b next).run d = next.run (Step.apply d (.write p b)) := rfl

theorem run_rename (src dst : P) (next : Bool → Task P B α) (d : Disk P B) :
    (Task.rename src dst next).run d =
      (next (d src).isSome).run (Step.apply d (.rename src dst)) := by
  cases hs : (d src).isSome with
  | true => simp only [run, exec, hs, ↓reduceIte, replay_cons]
  | false => simp only [run, exec, hs, Bool.false_eq_true, ↓reduceIte, Step.apply]

/-- A step does not change what the task will have done in the end. -/
theorem run_step {t : Task P B α} (h : t.step d = some (t', d')) : t'.run d' = t.run d := by
  cases t with
  | done a => cases h
  | read p next =>
    cases h
    rfl
  | write p b next =>
    cases h
    rfl
  | rename src dst next =>
    cases h
    rw [run_rename]

theorem exec_bind (t : Task P B α) (f : α → Task P B β) (d : Disk P B) :
    (t >>= f).exec d =
      let r := t.exec d
      let r' := (f r.1).exec (replay d r.2)
      (r'.1, r.2 ++ r'.2) := by
  rw [bind_eq]
  induction t generalizing d with
  | done a => rfl
  | read p next ih => exact ih (d p) d
  | write p b next ih =>
    simp only [Task.bind, exec, ih, replay_cons, List.cons_append]
  | rename src dst next ih =>
    simp only [Task.bind, exec]
    split
    · simp only [ih, replay_cons, List.cons_append]
    · exact ih false d

theorem run_bind (t : Task P B α) (f : α → Task P B β) (d : Disk P B) :
    (t >>= f).run d = (f (t.run d).1).run (t.run d).2 := by
  simp only [run, exec_bind, replay_append]

theorem Silent.step {t : Task P B α} (h : t.Silent) (hs : t.step d = some (t', d')) :
    t'.Silent ∧ d' = d := by
  cases t with
  | done a => cases hs
  | read p next =>
    cases hs
    exact ⟨h _, rfl⟩
  | write p b next => exact h.elim
  | rename src dst next => exact h.elim

theorem Silent.exec {t : Task P B α} (h : t.Silent) (d : Disk P B) : (t.exec d).2 = [] := by
  induction t with
  | done a => rfl
  | read p next ih => exact ih (d p) (h _)
  | write p b next => exact h.elim
  | rename src dst next => exact h.elim

section Frame

variable {S : P → Prop} {t : Task P B α}

theorem Within.step (h : t.Within S) (hs : t.step d = some (t', d')) :
    t'.Within S ∧ ∀ p, ¬ S p → d' p = d p := by
  cases t with
  | done a => cases hs
  | read p next =>
    cases hs
    exact ⟨h.2 _, fun _ _ => rfl⟩
  | write p b next =>
    cases hs
    refine ⟨h.2, fun q hq => Step.apply_frame _ d ?_⟩
    intro ht
    cases ht
    exact hq h.1
  | rename src dst next =>
    cases hs
    refine ⟨h.2.2 _, fun q hq => Step.apply_frame _ d ?_⟩
    intro ht
    rcases ht with rfl | rfl
    · exact hq h.1
    · exact hq h.2.1

theorem apply_congr {s : Step P B} (hs : ∀ p, s.Touches p → S p)
    (hd : ∀ p, S p → d p = d' p) (p : P) (hp : S p) : Step.apply d s p = Step.apply d' s p := by
  cases s with
  | write q b =>
    simp only [Step.apply]
    split
    · rfl
    · exact hd p hp
  | rename src dst =>
    rw [apply_rename, apply_rename, hd src (hs src (.inl rfl)), hd dst (hs dst (.inr rfl)), hd p hp]

theorem Within.step_congr (h : t.Within S) (hs : t.step d = some (t', d₁))
    (hd : ∀ p, S p → d p = d' p) :
    ∃ d₁', t.step d' = some (t', d₁') ∧ ∀ p, S p → d₁ p = d₁' p := by
  cases t with
  | done a => cases hs
  | read p next =>
    cases hs
    refine ⟨d', ?_, hd⟩
    rw [Task.step, hd p h.1]
  | write p b next =>
    cases hs
    refine ⟨_, rfl, apply_congr ?_ hd⟩
    intro q hq
    cases hq
    exact h.1
  | rename src dst next =>
    cases hs
    refine ⟨Step.apply d' (.rename src dst), ?_, apply_congr ?_ hd⟩
    · rw [Task.step, hd src h.1]
    · intro q hq
      rcases hq with rfl | rfl
      · exact h.1
      · exact h.2.1

theorem Within.run_congr (h : t.Within S) (hd : ∀ p, S p → d p = d' p) :
    (t.run d).1 = (t.run d').1 ∧ ∀ p, S p → (t.run d).2 p = (t.run d').2 p := by
  induction t generalizing d d' with
  | done a => exact ⟨rfl, hd⟩
  | read p next ih =>
    rw [run_read, run_read, hd p h.1]
    exact ih _ (h.2 _) hd
  | write p b next ih =>
    rw [run_write, run_write]
    apply ih h.2
    apply apply_congr _ hd
    intro q hq
    cases hq
    exact h.1
  | rename src dst next ih =>
    rw [run_rename, run_rename, hd src h.1]
    apply ih _ (h.2.2 _)
    apply apply_congr _ hd
    intro q hq
    rcases hq with rfl | rfl
    · exact h.1
    · exact h.2.1

theorem Within.run_frame (h : t.Within S) (hp : ¬ S p) (d : Disk P B) : (t.run d).2 p = d p := by
  induction t generalizing d with
  | done a => rfl
  | read q next ih => exact ih _ (h.2 _) d
  | write q b next ih =>
    have hstep := (Within.step (t := .write q b next) (d := d) h rfl).2 p hp
    exact (ih h.2 _).trans hstep
  | rename src dst next ih =>
    have hstep := (Within.step (t := .rename src dst next) (d := d) h rfl).2 p hp
    rw [run_rename]
    exact (ih _ (h.2.2 _) _).trans hstep

end Frame

section Alone

open StateTransition

def next (s : Task P B α × Disk P B) : Option (Task P B α × Disk P B) := s.1.step s.2

variable {s s' : Task P B α × Disk P B}

theorem reaches_run (h : Reaches next s s') : s'.1.run s'.2 = s.1.run s.2 := by
  induction h using Relation.ReflTransGen.head_induction_on with
  | refl => rfl
  | head hs _ ih => exact ih.trans (run_step hs)

theorem reaches_within (h : Reaches next s s') (ht : s.1.Within S) : s'.1.Within S := by
  induction h using Relation.ReflTransGen.head_induction_on with
  | refl => exact ht
  | head hs _ ih => exact ih (ht.step hs).1

theorem reaches_silent (h : Reaches next s s') (ht : s.1.Silent) : s'.1.Silent := by
  induction h using Relation.ReflTransGen.head_induction_on with
  | refl => exact ht
  | head hs _ ih => exact ih (ht.step hs).1

theorem reaches_congr (h : Reaches next s s') (ht : s.1.Within S)
    (hd : ∀ p, S p → s.2 p = d p) :
    ∃ d', Reaches next (s.1, d) (s'.1, d') ∧ ∀ p, S p → s'.2 p = d' p := by
  induction h with
  | refl => exact ⟨d, .refl, hd⟩
  | tail hr hs ih =>
    obtain ⟨d₁, hr₁, hd₁⟩ := ih
    obtain ⟨d₂, hs₂, hd₂⟩ := (reaches_within hr ht).step_congr hs hd₁
    exact ⟨d₂, hr₁.tail hs₂, hd₂⟩

theorem reaches_journal (h : Reaches next s s') :
    ∃ n, s'.2 = replay s.2 ((s.1.exec s.2).2.take n) := by
  induction h using Relation.ReflTransGen.head_induction_on with
  | refl => exact ⟨0, rfl⟩
  | @head s₁ s₂ hs _ ih =>
    obtain ⟨t, d⟩ := s₁
    obtain ⟨n, hn⟩ := ih
    cases t with
    | done a => cases hs
    | read p next =>
      cases hs
      exact ⟨n, hn⟩
    | write p b next =>
      cases hs
      exact ⟨n + 1, hn⟩
    | rename src dst next =>
      cases hs
      cases hsrc : (d src).isSome with
      | true =>
        refine ⟨n + 1, ?_⟩
        simp only [exec, hsrc, ↓reduceIte, List.take_succ_cons, replay_cons]
        simpa only [hsrc] using hn
      | false =>
        refine ⟨n, ?_⟩
        simp only [exec, hsrc, Bool.false_eq_true, ↓reduceIte]
        simpa only [hsrc, Step.apply, Bool.false_eq_true, ↓reduceIte] using hn

end Alone

end Task

section Fallible

variable {P B ε α β : Type}

abbrev TaskE (P B ε : Type) := ExceptT ε (Task P B)

namespace TaskE

def read (p : P) : TaskE P B ε (Option B) := .mk (.read p fun b => .done (.ok b))

def «exists» (p : P) : TaskE P B ε Bool := .mk (.read p fun b => .done (.ok b.isSome))

def write (p : P) (b : B) : TaskE P B ε Unit := .mk (.write p b (.done (.ok ())))

def rename (src dst : P) : TaskE P B ε Bool := .mk (.rename src dst fun found => .done (.ok found))

section Within

variable {S : P → Prop}

theorem within_read (hp : S p) : (read p : TaskE P B ε (Option B)).run.Within S :=
  ⟨hp, fun _ => trivial⟩

theorem within_exists (hp : S p) : (TaskE.exists p : TaskE P B ε Bool).run.Within S :=
  ⟨hp, fun _ => trivial⟩

theorem within_write (hp : S p) (b : B) : (write p b : TaskE P B ε Unit).run.Within S :=
  ⟨hp, trivial⟩

theorem within_rename (hsrc : S src) (hdst : S dst) :
    (rename src dst : TaskE P B ε Bool).run.Within S := ⟨hsrc, hdst, fun _ => trivial⟩

theorem within_pure (a : α) : (pure a : TaskE P B ε α).run.Within S := trivial

theorem within_throw (e : ε) : (throw e : TaskE P B ε α).run.Within S := trivial

theorem within_lift {t : Task P B α} (h : t.Within S) :
    (ExceptT.lift t : TaskE P B ε α).run.Within S := Task.Within.bind h fun _ => trivial

theorem within_bind {t : TaskE P B ε α} {f : α → TaskE P B ε β} (ht : t.run.Within S)
    (hf : ∀ a, (f a).run.Within S) : (t >>= f).run.Within S := by
  apply Task.Within.bind ht
  intro r
  cases r with
  | ok a => exact hf a
  | error e => trivial

end Within

theorem silent_read (p : P) : (TaskE.read p : TaskE P B ε (Option B)).run.Silent :=
  fun _ => trivial

theorem silent_lift {t : Task P B α} (h : t.Silent) :
    (ExceptT.lift t : TaskE P B ε α).run.Silent := Task.Silent.bind h fun _ => trivial

theorem silent_bind {t : TaskE P B ε α} {f : α → TaskE P B ε β} (ht : t.run.Silent)
    (hf : ∀ a, (f a).run.Silent) : (t >>= f).run.Silent := by
  apply Task.Silent.bind ht
  intro r
  cases r with
  | ok a => exact hf a
  | error e => trivial

variable [DecidableEq P]

def prog (t : TaskE P B ε α) : Prog P B ε α := Task.exec t.run

theorem prog_pure (a : α) : prog (pure a : TaskE P B ε α) = pure a := rfl

theorem prog_throw (e : ε) : prog (throw e : TaskE P B ε α) = Prog.throw e := rfl

theorem prog_exists (p : P) : prog (TaskE.exists p : TaskE P B ε Bool) = Prog.exists p := rfl

theorem prog_read (p : P) :
    prog (read p : TaskE P B ε (Option B)) = Prog.query fun d => .ok (d p) := rfl

theorem prog_write (p : P) (b : B) : prog (write p b : TaskE P B ε Unit) = Prog.write p b := rfl

theorem prog_rename (src dst : P) :
    prog (rename src dst : TaskE P B ε Bool) = Prog.rename src dst := rfl

theorem prog_bind (t : TaskE P B ε α) (f : α → TaskE P B ε β) :
    prog (t >>= f) = prog t >>= fun a => prog (f a) := by
  funext d
  have hexec : prog (t >>= f) d = _ := Task.exec_bind t.run (fun r =>
    match r with
    | .ok a => (f a).run
    | .error e => pure (.error e)) d
  cases h : prog t d with
  | mk r js =>
    rw [hexec, show t.run.exec d = (r, js) from h]
    cases r with
    | ok a =>
      rw [Prog.bind_ok h]
      rfl
    | error e =>
      rw [Prog.bind_error h]
      exact Prod.ext rfl (List.append_nil js)

theorem prog_lift (t : Task P B α) (d : Disk P B) :
    prog (ExceptT.lift t : TaskE P B ε α) d = (.ok (t.exec d).1, (t.exec d).2) := by
  change (t >>= fun a => pure (Except.ok a)).exec d = _
  rw [Task.exec_bind]
  exact Prod.ext rfl (List.append_nil _)

theorem run_prog (t : TaskE P B ε α) (d : Disk P B) : t.run.run d = (prog t).run d := rfl

end TaskE

end Fallible

end Disk
