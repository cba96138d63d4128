import Mathlib.Logic.Function.Basic
import Persistency.Library.Task
import Persistency.Library.Transition

set_option autoImplicit true

namespace Guarded

open Disk

/-- The calls of a family of objects with a mutex each and with disjoint files. A call is a task
that runs step by step while it holds the mutex; some calls run beside it without the mutex. -/
structure Calls (X A O D P B : Type) where
  locks : X → A → Bool
  /-- The reply of a call that finds the mutex taken, unless it waits for the mutex. -/
  busy : X → A → Option O
  task : X → A → D → Task P B (O × D)
  files : X → P → Prop
  within : ∀ x a d, (task x a d).Within (files x)
  disjoint : ∀ x y p, files x p → files y p → x = y
  silent : ∀ x a d, locks x a = false → (task x a d).Silent

inductive Phase (X A O D P B : Type) where
  | idle
  | waiting (x : X) (a : A)
  | holding (x : X) (a : A) (todo : Task P B (O × D))
  | beside (x : X) (a : A) (todo : Task P B (O × D))

def Phase.call : Phase X A O D P B → Option (X × A)
  | .idle => none
  | .waiting x a | .holding x a _ | .beside x a _ => some (x, a)

structure Entry (X T A O : Type) where
  object : X
  thread : T
  request : A
  reply : O

def Entry.call (e : Entry X T A O) : X × A := (e.object, e.request)

/-- The files, the memory and the holder of the mutex of each object, and where each thread is.
`log` lists the calls that held a mutex as they returned, and `seen` the other ones. -/
structure State (X T A O D P B : Type) where
  disk : Disk P B
  memory : X → D
  holder : X → Option T
  phase : T → Phase X A O D P B
  log : List (Entry X T A O)
  seen : List (Entry X T A O)

inductive Action (X T A : Type) where
  | call (t : T) (x : X) (a : A)
  | lock (t : T)
  | advance (t : T)
  | unlock (t : T)

variable {X T A O D P B : Type}

def State.start (memory : X → D) (disk : Disk P B) : State X T A O D P B :=
  ⟨disk, memory, fun _ => none, fun _ => .idle, [], []⟩

variable [DecidableEq X] [DecidableEq T] [DecidableEq P]

def State.move (s : State X T A O D P B) (t : T) (phase : Phase X A O D P B) :
    State X T A O D P B :=
  { s with phase := Function.update s.phase t phase }

def State.pending (s : State X T A O D P B) (x : X) : Option A :=
  (s.holder x).bind fun t => (s.phase t).call.map Prod.snd

namespace Calls

variable (c : Calls X A O D P B)

def step (s : State X T A O D P B) : Action X T A → Option (State X T A O D P B)
  | .call t x a =>
    match s.phase t with
    | .idle =>
      if c.locks x a then some (s.move t (.waiting x a))
      else some (s.move t (.beside x a (c.task x a (s.memory x))))
    | _ => none
  | .lock t =>
    match s.phase t with
    | .waiting x a =>
      match s.holder x, c.busy x a with
      | none, _ =>
        some { s.move t (.holding x a (c.task x a (s.memory x))) with
          holder := Function.update s.holder x (some t) }
      | some _, some o => some { s.move t .idle with seen := s.seen ++ [⟨x, t, a, o⟩] }
      | some _, none => none
    | _ => none
  | .advance t =>
    match s.phase t with
    | .holding x a todo =>
      (todo.step s.disk).map fun r => { s.move t (.holding x a r.1) with disk := r.2 }
    | .beside x a todo =>
      (todo.step s.disk).map fun r => { s.move t (.beside x a r.1) with disk := r.2 }
    | _ => none
  | .unlock t =>
    match s.phase t with
    | .holding x a (.done (o, d)) =>
      some { s.move t .idle with
        memory := Function.update s.memory x d
        holder := Function.update s.holder x none
        log := s.log ++ [⟨x, t, a, o⟩] }
    | .beside x a (.done (o, _)) => some { s.move t .idle with seen := s.seen ++ [⟨x, t, a, o⟩] }
    | _ => none

inductive Effect (s : State X T A O D P B) : Action X T A → State X T A O D P B → Prop
  | call (h : s.phase t = .idle) (hl : c.locks x a = true) :
    Effect s (.call t x a) (s.move t (.waiting x a))
  | callBeside (h : s.phase t = .idle) (hl : c.locks x a = false) :
    Effect s (.call t x a) (s.move t (.beside x a (c.task x a (s.memory x))))
  | lock (h : s.phase t = .waiting x a) (hx : s.holder x = none) :
    Effect s (.lock t) { s.move t (.holding x a (c.task x a (s.memory x))) with
      holder := Function.update s.holder x (some t) }
  | refuse (h : s.phase t = .waiting x a) (hx : s.holder x = some u) (hb : c.busy x a = some o) :
    Effect s (.lock t) { s.move t .idle with seen := s.seen ++ [⟨x, t, a, o⟩] }
  | advance (h : s.phase t = .holding x a todo) (hs : todo.step s.disk = some (todo', disk)) :
    Effect s (.advance t) { s.move t (.holding x a todo') with disk }
  | advanceBeside (h : s.phase t = .beside x a todo)
    (hs : todo.step s.disk = some (todo', disk)) :
    Effect s (.advance t) { s.move t (.beside x a todo') with disk }
  | unlock (h : s.phase t = .holding x a (.done (o, d))) :
    Effect s (.unlock t) { s.move t .idle with
      memory := Function.update s.memory x d
      holder := Function.update s.holder x none
      log := s.log ++ [⟨x, t, a, o⟩] }
  | leave (h : s.phase t = .beside x a (.done (o, d))) :
    Effect s (.unlock t) { s.move t .idle with seen := s.seen ++ [⟨x, t, a, o⟩] }

variable {c} {s s' : State X T A O D P B}

theorem step_effect {act : Action X T A} (h : c.step s act = some s') : c.Effect s act s' := by
  cases act with
  | call t x a =>
    simp only [step] at h
    split at h
    · rename_i hphase
      split at h
      · rename_i hl
        cases h
        exact .call hphase hl
      · rename_i hl
        cases h
        exact .callBeside hphase (Bool.not_eq_true _ ▸ hl)
    · cases h
  | lock t =>
    simp only [step] at h
    split at h
    · rename_i x a hphase
      split at h
      · rename_i hx
        cases h
        exact .lock hphase hx
      · rename_i hx hb
        cases h
        exact .refuse hphase hx hb
      · cases h
    · cases h
  | advance t =>
    simp only [step] at h
    split at h
    · rename_i hphase
      obtain ⟨⟨todo', disk⟩, hs, rfl⟩ := Option.map_eq_some_iff.1 h
      exact .advance hphase hs
    · rename_i hphase
      obtain ⟨⟨todo', disk⟩, hs, rfl⟩ := Option.map_eq_some_iff.1 h
      exact .advanceBeside hphase hs
    · cases h
  | unlock t =>
    simp only [step] at h
    split at h
    · rename_i hphase
      cases h
      exact .unlock hphase
    · rename_i hphase
      cases h
      exact .leave hphase
    · cases h

variable (c)

def serialStep (s : (X → D) × Disk P B) (r : X × A) : ((X → D) × Disk P B) × O :=
  let ((o, d), disk) := (c.task r.1 r.2 (s.1 r.1)).run s.2
  ((Function.update s.1 r.1 d, disk), o)

def serial (start : (X → D) × Disk P B) (log : List (Entry X T A O)) :
    ((X → D) × Disk P B) × List O :=
  Transition.run c.serialStep start (log.map Entry.call)

/-- The memory and the files are those of `base`, except for the files of an object whose mutex is
held: there they are as somewhere in the run of the holder's call from `base`. -/
structure Stands (base : (X → D) × Disk P B) (s : State X T A O D P B) : Prop where
  memory : s.memory = base.1
  free : ∀ x, s.holder x = none → ∀ p, c.files x p → s.disk p = base.2 p
  held : ∀ x t, s.holder x = some t → ∃ a todo disk, s.phase t = .holding x a todo ∧
    StateTransition.Reaches Task.next (c.task x a (base.1 x), base.2) (todo, disk) ∧
    ∀ p, c.files x p → s.disk p = disk p
  holding : ∀ t x a todo, s.phase t = .holding x a todo → s.holder x = some t
  beside : ∀ t x a todo, s.phase t = .beside x a todo → todo.Silent
  others : ∀ p, (∀ x, ¬ c.files x p) → s.disk p = base.2 p

variable {c} {base : (X → D) × Disk P B}

omit [DecidableEq X] [DecidableEq T] in
theorem Stands.start (memory : X → D) (disk : Disk P B) :
    c.Stands (memory, disk) (.start memory disk : State X T A O D P B) where
  memory := rfl
  free _ _ _ _ := rfl
  held _ _ h := by cases h
  holding _ _ _ _ h := by cases h
  beside _ _ _ _ h := by cases h
  others _ _ := rfl

omit [DecidableEq X] [DecidableEq P] in
theorem besides_update (h : ∀ u x a todo, s.phase u = .beside x a todo → todo.Silent)
    (hphase : s'.phase = Function.update s.phase t phase)
    (hto : ∀ x a todo, phase = .beside x a todo → todo.Silent) (u : T) (x : X) (a : A)
    (todo : Task P B (O × D)) (hu : s'.phase u = .beside x a todo) : todo.Silent := by
  rw [hphase] at hu
  by_cases hut : u = t
  · rw [hut, Function.update_self] at hu
    exact hto x a todo hu
  · rw [Function.update_of_ne hut] at hu
    exact h u x a todo hu

omit [DecidableEq X] in
theorem Stands.move (h : c.Stands base s) (hwas : ∀ x a todo, s.phase t ≠ .holding x a todo)
    (hto : ∀ x a todo, phase ≠ .holding x a todo)
    (hbeside : ∀ x a todo, phase = .beside x a todo → todo.Silent)
    (hmemory : s'.memory = s.memory) (hdisk : s'.disk = s.disk) (hholder : s'.holder = s.holder)
    (hphase : s'.phase = Function.update s.phase t phase) : c.Stands base s' where
  memory := hmemory.trans h.memory
  free := by
    rw [hholder, hdisk]
    exact h.free
  held x u hu := by
    rw [hholder] at hu
    obtain ⟨a, todo, disk, hu, hrest⟩ := h.held x u hu
    refine ⟨a, todo, disk, ?_, hdisk ▸ hrest⟩
    have hne : u ≠ t := by
      rintro rfl
      exact hwas x a todo hu
    rw [hphase, Function.update_of_ne hne, hu]
  holding u x a todo hu := by
    rw [hphase] at hu
    rw [hholder]
    by_cases hut : u = t
    · rw [hut, Function.update_self] at hu
      exact absurd hu (hto x a todo)
    · rw [Function.update_of_ne hut] at hu
      exact h.holding u x a todo hu
  beside := besides_update h.beside hphase hbeside
  others := by
    rw [hdisk]
    exact h.others

theorem Stands.lock (h : c.Stands base s) (hwait : s.phase t = .waiting x a)
    (hx : s.holder x = none) (hmemory : s'.memory = s.memory) (hdisk : s'.disk = s.disk)
    (hholder : s'.holder = Function.update s.holder x (some t))
    (hphase : s'.phase = Function.update s.phase t (.holding x a (c.task x a (s.memory x)))) :
    c.Stands base s' where
  memory := hmemory.trans h.memory
  free y hy := by
    rw [hholder] at hy
    rw [hdisk]
    have hne : y ≠ x := by
      rintro rfl
      rw [Function.update_self] at hy
      cases hy
    rw [Function.update_of_ne hne] at hy
    exact h.free y hy
  held y u hy := by
    rw [hholder] at hy
    rw [hdisk, hphase]
    by_cases hyx : y = x
    · subst hyx
      rw [Function.update_self] at hy
      cases hy
      refine ⟨a, _, base.2, Function.update_self .., ?_, h.free y hx⟩
      rw [h.memory]
      exact .refl
    · rw [Function.update_of_ne hyx] at hy
      obtain ⟨b, todo, disk, hb, hrest⟩ := h.held y u hy
      refine ⟨b, todo, disk, ?_, hrest⟩
      have hne : u ≠ t := by
        rintro rfl
        cases hwait.symm.trans hb
      rw [Function.update_of_ne hne, hb]
  holding u y b todo hu := by
    rw [hphase] at hu
    rw [hholder]
    by_cases hut : u = t
    · rw [hut, Function.update_self] at hu
      cases hu
      rw [hut, Function.update_self]
    · rw [Function.update_of_ne hut] at hu
      have hy := h.holding u y b todo hu
      have hne : y ≠ x := by
        rintro rfl
        cases hx.symm.trans hy
      rw [Function.update_of_ne hne, hy]
  beside := besides_update h.beside hphase fun _ _ _ hto => by cases hto
  others := by
    rw [hdisk]
    exact h.others

theorem Stands.advance (h : c.Stands base s) (hhold : s.phase t = .holding x a todo)
    (hs : todo.step s.disk = some (todo', s'.disk)) (hmemory : s'.memory = s.memory)
    (hholder : s'.holder = s.holder)
    (hphase : s'.phase = Function.update s.phase t (.holding x a todo')) : c.Stands base s' := by
  have hx := h.holding t x a todo hhold
  obtain ⟨a', todo', disk, hhold', hreach, hagree⟩ := h.held x t hx
  cases hhold.symm.trans hhold'
  have hwithin := Task.reaches_within hreach (c.within x a _)
  obtain ⟨hwithin', hframe⟩ := hwithin.step hs
  have hother (y : X) (hy : y ≠ x) (p : P) (hp : c.files y p) : s'.disk p = s.disk p :=
    hframe p fun hp' => hy (c.disjoint y x p hp hp')
  refine ⟨hmemory.trans h.memory, ?free, ?held, ?holding, ?beside, ?others⟩
  case free =>
    intro y hy p hp
    rw [hholder] at hy
    have hne : y ≠ x := by
      rintro rfl
      cases hx.symm.trans hy
    exact (hother y hne p hp).trans (h.free y hy p hp)
  case held =>
    intro y u hy
    rw [hholder] at hy
    rw [hphase]
    by_cases hyx : y = x
    · subst hyx
      cases hx.symm.trans hy
      obtain ⟨disk', hs', hagree'⟩ := hwithin.step_congr hs hagree
      exact ⟨a, _, disk', Function.update_self .., hreach.tail hs', hagree'⟩
    · obtain ⟨b, todo, disk, hb, hrest, hagree⟩ := h.held y u hy
      refine ⟨b, todo, disk, ?_, hrest, fun p hp => (hother y hyx p hp).trans (hagree p hp)⟩
      have hne : u ≠ t := by
        rintro rfl
        cases hhold.symm.trans hb
        exact hyx rfl
      rw [Function.update_of_ne hne, hb]
  case holding =>
    intro u y b todo hu
    rw [hphase] at hu
    rw [hholder]
    by_cases hut : u = t
    · rw [hut, Function.update_self] at hu
      cases hu
      rw [hut, hx]
    · rw [Function.update_of_ne hut] at hu
      exact h.holding u y b todo hu
  case beside => exact besides_update h.beside hphase fun _ _ _ hto => by cases hto
  case others =>
    intro p hp
    exact (hframe p (hp x)).trans (h.others p hp)

omit [DecidableEq T] in
theorem Stands.returned (h : c.Stands base s)
    (hhold : s.phase t = .holding x a (.done (o, d))) :
    ∃ disk, c.serialStep base (x, a) = ((Function.update base.1 x d, disk), o) ∧
      (∀ p, c.files x p → s.disk p = disk p) ∧ ∀ p, ¬ c.files x p → disk p = base.2 p := by
  obtain ⟨a', todo', disk, hhold', hreach, hagree⟩ := h.held x t (h.holding t x a _ hhold)
  cases hhold.symm.trans hhold'
  have hrun : (c.task x a (base.1 x)).run base.2 = ((o, d), disk) := (Task.reaches_run hreach).symm
  refine ⟨disk, ?_, hagree, ?_⟩
  · simp only [serialStep, hrun]
  · intro p hp
    have hf := (c.within x a (base.1 x)).run_frame hp base.2
    rwa [hrun] at hf

theorem Stands.unlock (h : c.Stands base s) (hhold : s.phase t = .holding x a (.done (o, d)))
    (hmemory : s'.memory = Function.update s.memory x d) (hdisk : s'.disk = s.disk)
    (hholder : s'.holder = Function.update s.holder x none)
    (hphase : s'.phase = Function.update s.phase t .idle) :
    c.Stands (c.serialStep base (x, a)).1 s' := by
  have hx := h.holding t x a _ hhold
  obtain ⟨disk, hstep, hagree, hframe⟩ := h.returned hhold
  have hother (y : X) (hy : y ≠ x) (p : P) (hp : c.files y p) : disk p = base.2 p :=
    hframe p fun hp' => hy (c.disjoint y x p hp hp')
  rw [hstep]
  refine ⟨?memory, ?free, ?held, ?holding, ?beside, ?others⟩
  case memory => rw [hmemory, h.memory]
  case free =>
    intro y hy p hp
    rw [hholder] at hy
    rw [hdisk]
    by_cases hyx : y = x
    · exact hagree p (hyx ▸ hp)
    · rw [Function.update_of_ne hyx] at hy
      exact (h.free y hy p hp).trans (hother y hyx p hp).symm
  case held =>
    intro y u hy
    rw [hholder] at hy
    rw [hdisk, hphase]
    have hyx : y ≠ x := by
      rintro rfl
      rw [Function.update_self] at hy
      cases hy
    rw [Function.update_of_ne hyx] at hy
    obtain ⟨b, todo, disk₁, hb, hreach₁, hagree₁⟩ := h.held y u hy
    have hsame (p : P) (hp : c.files y p) : base.2 p = disk p := (hother y hyx p hp).symm
    obtain ⟨disk₂, hreach₂, hagree₂⟩ := Task.reaches_congr hreach₁ (c.within y b _) hsame
    refine ⟨b, todo, disk₂, ?_, ?_, fun p hp => (hagree₁ p hp).trans (hagree₂ p hp)⟩
    · have hne : u ≠ t := by
        rintro rfl
        cases hhold.symm.trans hb
        exact hyx rfl
      rw [Function.update_of_ne hne, hb]
    · change StateTransition.Reaches _ (c.task y b (Function.update base.1 x d y), disk) _
      rw [Function.update_of_ne hyx]
      exact hreach₂
  case holding =>
    intro u y b todo hu
    rw [hphase] at hu
    rw [hholder]
    by_cases hut : u = t
    · rw [hut, Function.update_self] at hu
      cases hu
    · rw [Function.update_of_ne hut] at hu
      have hy := h.holding u y b todo hu
      have hne : y ≠ x := by
        rintro rfl
        exact hut (Option.some.inj (hy.symm.trans hx))
      rw [Function.update_of_ne hne, hy]
  case beside => exact besides_update h.beside hphase fun _ _ _ hto => by cases hto
  case others =>
    intro p hp
    rw [hdisk]
    exact (h.others p hp).trans (hframe p (hp x)).symm

/-- The calls of the log reply as they do one after the other, and the state stands on what these
leave. -/
structure Serial (c : Calls X A O D P B) (start : (X → D) × Disk P B)
    (s : State X T A O D P B) : Prop where
  stands : c.Stands (c.serial start s.log).1 s
  replies : (c.serial start s.log).2 = s.log.map Entry.reply

omit [DecidableEq T] in
theorem Serial.start (memory : X → D) (disk : Disk P B) :
    Serial c (memory, disk) (.start memory disk : State X T A O D P B) :=
  ⟨.start memory disk, rfl⟩

omit [DecidableEq T] in
theorem Serial.same {start : (X → D) × Disk P B} (h : Serial c start s)
    (hs : c.Stands (c.serial start s.log).1 s → c.Stands (c.serial start s.log).1 s')
    (hlog : s'.log = s.log) : Serial c start s' := by
  refine ⟨?_, ?_⟩
  · rw [hlog]
    exact hs h.stands
  · rw [hlog]
    exact h.replies

theorem Serial.step {start : (X → D) × Disk P B} (h : Serial c start s)
    (hs : c.step s act = some s') : Serial c start s' := by
  cases step_effect hs with
  | call hphase hl =>
    refine h.same (fun hst => hst.move ?_ ?_ ?_ rfl rfl rfl rfl) rfl
    · intro _ _ _ hu
      cases hphase.symm.trans hu
    · intro _ _ _ hu
      cases hu
    · intro _ _ _ hu
      cases hu
  | callBeside hphase hl =>
    refine h.same (fun hst => hst.move ?_ ?_ ?_ rfl rfl rfl rfl) rfl
    · intro _ _ _ hu
      cases hphase.symm.trans hu
    · intro _ _ _ hu
      cases hu
    · intro _ _ _ hu
      cases hu
      exact c.silent _ _ _ hl
  | lock hphase hx => exact h.same (fun hst => hst.lock hphase hx rfl rfl rfl rfl) rfl
  | refuse hphase hx hb =>
    refine h.same (fun hst => hst.move ?_ ?_ ?_ rfl rfl rfl rfl) rfl
    · intro _ _ _ hu
      cases hphase.symm.trans hu
    · intro _ _ _ hu
      cases hu
    · intro _ _ _ hu
      cases hu
  | advance hphase htodo => exact h.same (fun hst => hst.advance hphase htodo rfl rfl rfl) rfl
  | advanceBeside hphase htodo =>
    obtain ⟨hsilent, hdisk⟩ := (h.stands.beside _ _ _ _ hphase).step htodo
    refine h.same (fun hst => hst.move ?_ ?_ ?_ rfl hdisk rfl rfl) rfl
    · intro _ _ _ hu
      cases hphase.symm.trans hu
    · intro _ _ _ hu
      cases hu
    · intro _ _ _ hu
      cases hu
      exact hsilent
  | @unlock t x a o d hphase =>
    obtain ⟨disk, hstep, -⟩ := h.stands.returned hphase
    have hrun : c.serial start (s.log ++ [⟨x, t, a, o⟩]) =
        ((c.serialStep (c.serial start s.log).1 (x, a)).1, (c.serial start s.log).2 ++ [o]) := by
      have ho : (c.serialStep (c.serial start s.log).1 (x, a)).2 = o := by rw [hstep]
      rw [serial, List.map_append, Transition.run_append, ← ho]
      rfl
    refine ⟨?_, ?_⟩
    · rw [hrun]
      exact h.stands.unlock hphase rfl rfl rfl rfl
    · rw [hrun, h.replies, List.map_append]
      rfl
  | leave hphase =>
    refine h.same (fun hst => hst.move ?_ ?_ ?_ rfl rfl rfl rfl) rfl
    · intro _ _ _ hu
      cases hphase.symm.trans hu
    · intro _ _ _ hu
      cases hu
    · intro _ _ _ hu
      cases hu

theorem serial_reachable {memory : X → D} {disk : Disk P B}
    (hrun : Transition.exec c.step (.start memory disk) acts = some s) :
    Serial c (memory, disk) s :=
  Transition.exec_invariant (P := fun _ _ => True) (fun _ _ _ h _ hs => h.step hs)
    (.start memory disk) (Transition.always_true _ _) hrun

/-- In every interleaving the calls that held a mutex reply as they do one after the other in the
order of their returns, and so do the memory and the files of the objects that are not held. -/
theorem serializable {memory : X → D} {disk : Disk P B}
    (hrun : Transition.exec c.step (.start memory disk) acts = some s) :
    let r := c.serial (memory, disk) s.log
    s.log.map Entry.reply = r.2 ∧ s.memory = r.1.1 ∧
      (∀ x, s.holder x = none → ∀ p, c.files x p → s.disk p = r.1.2 p) ∧
      ((∀ x, s.holder x = none) → s.disk = r.1.2) := by
  have h := serial_reachable hrun
  refine ⟨h.replies.symm, h.stands.memory, h.stands.free, ?_⟩
  intro hfree
  funext p
  by_cases hp : ∃ x, c.files x p
  · obtain ⟨x, hx⟩ := hp
    exact h.stands.free x (hfree x) p hx
  · exact h.stands.others p (not_exists.1 hp)

section Pending

omit [DecidableEq X] [DecidableEq T] in
theorem Stands.pending_none (h : c.Stands base s) (hx : s.pending x = none) :
    s.holder x = none := by
  cases hholder : s.holder x with
  | none => rfl
  | some t =>
    obtain ⟨a, todo, -, hphase, -⟩ := h.held x t hholder
    rw [State.pending, hholder, Option.bind_some, hphase] at hx
    cases hx

omit [DecidableEq X] [DecidableEq T] in
theorem Stands.pending_some (h : c.Stands base s) (hx : s.pending x = some a) :
    ∃ t todo disk, s.holder x = some t ∧ s.phase t = .holding x a todo ∧
      StateTransition.Reaches Task.next (c.task x a (base.1 x), base.2) (todo, disk) ∧
      ∀ p, c.files x p → s.disk p = disk p := by
  cases hholder : s.holder x with
  | none =>
    rw [State.pending, hholder] at hx
    cases hx
  | some t =>
    obtain ⟨b, todo, disk, hphase, hrest⟩ := h.held x t hholder
    rw [State.pending, hholder, Option.bind_some, hphase] at hx
    cases hx
    exact ⟨t, todo, disk, rfl, hphase, hrest⟩

omit [DecidableEq X] in
theorem Stands.pending_update (h : c.Stands base s) (hholder : s'.holder x = s.holder x)
    (hphase : s'.phase = Function.update s.phase t next)
    (hnext : ∀ a todo, s.phase t = .holding x a todo → next.call = some (x, a)) :
    s'.pending x = s.pending x := by
  rw [State.pending, State.pending, hholder]
  cases hx : s.holder x with
  | none => rfl
  | some u =>
    rw [Option.bind_some, Option.bind_some, hphase]
    by_cases hut : u = t
    · subst hut
      obtain ⟨a, todo, -, hu, -⟩ := h.held x u hx
      rw [Function.update_self, hnext a todo hu, hu]
      rfl
    · rw [Function.update_of_ne hut]

inductive Touches (s s' : State X T A O D P B) (x : X) : Prop
  | nothing (hp : s'.pending x = s.pending x) (hlog : s'.log = s.log)
  | other (e : Entry X T A O) (he : e.object ≠ x) (hp : s'.pending x = s.pending x)
    (hlog : s'.log = s.log ++ [e])
  | begins (a : A) (hp : s.pending x = none) (hp' : s'.pending x = some a) (hlog : s'.log = s.log)
  | returns (e : Entry X T A O) (he : e.object = x) (hp : s.pending x = some e.request)
    (hp' : s'.pending x = none) (hlog : s'.log = s.log ++ [e])

theorem Stands.touches (h : c.Stands base s) (hs : c.step s act = some s') (x : X) :
    Touches s s' x := by
  cases step_effect hs with
  | call hphase hl | callBeside hphase hl =>
    refine .nothing (h.pending_update rfl rfl ?_) rfl
    intro a todo hx
    cases hphase.symm.trans hx
  | refuse hphase hx hb =>
    refine .nothing (h.pending_update rfl rfl ?_) rfl
    intro a todo hx
    cases hphase.symm.trans hx
  | leave hphase =>
    refine .nothing (h.pending_update rfl rfl ?_) rfl
    intro a todo hx
    cases hphase.symm.trans hx
  | advance hphase htodo =>
    refine .nothing (h.pending_update rfl rfl ?_) rfl
    intro a todo hx
    cases hphase.symm.trans hx
    rfl
  | advanceBeside hphase htodo =>
    refine .nothing (h.pending_update rfl rfl ?_) rfl
    intro a todo hx
    cases hphase.symm.trans hx
  | @lock t y a hphase hy =>
    by_cases hxy : x = y
    · subst hxy
      refine .begins a ?_ ?_ rfl
      · rw [State.pending, hy]
        rfl
      · simp only [State.pending, Function.update_self, Option.bind_some, State.move]
        rfl
    · refine .nothing (h.pending_update (Function.update_of_ne hxy ..) rfl ?_) rfl
      intro b todo hx
      cases hphase.symm.trans hx
  | @unlock t y a o d hphase =>
    by_cases hxy : x = y
    · subst hxy
      refine .returns ⟨x, t, a, o⟩ rfl ?_ ?_ rfl
      · rw [State.pending, h.holding t x a _ hphase, Option.bind_some, hphase]
        rfl
      · simp only [State.pending, Function.update_self, Option.bind_none]
    · refine .other ⟨y, t, a, o⟩ (Ne.symm hxy)
        (h.pending_update (Function.update_of_ne hxy ..) rfl ?_) rfl
      intro b todo hx
      cases hphase.symm.trans hx
      exact absurd rfl hxy

theorem Stands.step_files (h : c.Stands base s) (hs : c.step s act = some s')
    (hx : ∀ a, s.pending x = some a → ∀ d, (c.task x a d).Silent) (p : P) (hp : c.files x p) :
    s'.disk p = s.disk p := by
  cases step_effect hs with
  | @advance t y a _ _ _ hphase htodo =>
    obtain ⟨b, todo, disk, hphase', hreach, -⟩ := h.held y t (h.holding t y a _ hphase)
    cases hphase.symm.trans hphase'
    by_cases hxy : x = y
    · subst hxy
      have hpending : s.pending x = some a := by
        rw [State.pending, h.holding t x a _ hphase, Option.bind_some, hphase]
        rfl
      have hsilent := Task.reaches_silent hreach (hx a hpending _)
      exact congrFun (hsilent.step htodo).2 p
    · have hwithin := Task.reaches_within hreach (c.within y a _)
      exact (hwithin.step htodo).2 p fun hp' => hxy (c.disjoint x y p hp hp')
  | advanceBeside hphase htodo => exact congrFun ((h.beside _ _ _ _ hphase).step htodo).2 p
  | _ => rfl

theorem step_beside (hs : c.step s act = some s') (ht : s.phase t = .beside x a todo)
    (hact : act ≠ .unlock t) : s'.phase t = .beside x a todo ∨
      ∃ todo', todo.step s.disk = some (todo', s'.disk) ∧ s'.phase t = .beside x a todo' := by
  have hne {u : T} {f : Phase X A O D P B} (hu : s.phase u = f)
      (hf : f ≠ .beside x a todo) : t ≠ u := by
    rintro rfl
    exact hf (hu.symm.trans ht)
  cases step_effect hs with
  | call hphase hl | callBeside hphase hl | lock hphase hl | advance hphase hl | unlock hphase =>
    left
    exact (Function.update_of_ne (hne hphase (by simp)) ..).trans ht
  | refuse hphase hx hb =>
    left
    exact (Function.update_of_ne (hne hphase (by simp)) ..).trans ht
  | @advanceBeside u _ _ _ _ _ hphase htodo =>
    by_cases htu : t = u
    · subst htu
      cases ht.symm.trans hphase
      exact .inr ⟨_, htodo, Function.update_self ..⟩
    · left
      exact (Function.update_of_ne htu ..).trans ht
  | @leave u _ _ _ _ hphase =>
    left
    apply (Function.update_of_ne _ ..).trans ht
    rintro rfl
    exact hact rfl

end Pending

section Asked

variable {Q : X × A → Prop}

structure Asked (Q : X × A → Prop) (s : State X T A O D P B) : Prop where
  log : ∀ e ∈ s.log, Q e.call
  phase : ∀ t r, (s.phase t).call = some r → Q r

omit [DecidableEq X] [DecidableEq T] [DecidableEq P] in
theorem Asked.start (memory : X → D) (disk : Disk P B) :
    Asked Q (.start memory disk : State X T A O D P B) := by
  refine ⟨?_, ?_⟩
  · intro e he
    cases he
  · intro t r hr
    cases hr

omit [DecidableEq X] [DecidableEq P] in
theorem Asked.update {next : Phase X A O D P B} (h : Asked Q s)
    (hphase : s'.phase = Function.update s.phase t next)
    (hto : ∀ r, next.call = some r → Q r) (u : T) (r : X × A)
    (hu : (s'.phase u).call = some r) : Q r := by
  rw [hphase] at hu
  by_cases hut : u = t
  · rw [hut, Function.update_self] at hu
    exact hto r hu
  · rw [Function.update_of_ne hut] at hu
    exact h.phase u r hu

theorem Asked.step (h : Asked Q s) (hact : ∀ t x a, act = .call t x a → Q (x, a))
    (hs : c.step s act = some s') : Asked Q s' := by
  cases step_effect hs with
  | @call t x a hphase hl =>
    refine ⟨h.log, h.update rfl ?_⟩
    intro r hr
    cases hr
    exact hact t x a rfl
  | @callBeside t x a hphase hl =>
    refine ⟨h.log, h.update rfl ?_⟩
    intro r hr
    cases hr
    exact hact t x a rfl
  | @lock t x a hphase hx =>
    refine ⟨h.log, h.update rfl ?_⟩
    intro r hr
    cases hr
    exact h.phase t _ (by rw [hphase]; rfl)
  | refuse hphase hx hb =>
    refine ⟨h.log, h.update rfl ?_⟩
    intro r hr
    cases hr
  | @advance t x a _ _ _ hphase htodo =>
    refine ⟨h.log, h.update rfl ?_⟩
    intro r hr
    cases hr
    exact h.phase t _ (by rw [hphase]; rfl)
  | @advanceBeside t x a _ _ _ hphase htodo =>
    refine ⟨h.log, h.update rfl ?_⟩
    intro r hr
    cases hr
    exact h.phase t _ (by rw [hphase]; rfl)
  | @unlock t x a o d hphase =>
    refine ⟨?_, h.update rfl ?_⟩
    · intro e he
      rcases List.mem_append.1 he with he | he
      · exact h.log e he
      · cases List.mem_singleton.1 he
        exact h.phase t _ (by rw [hphase]; rfl)
    · intro r hr
      cases hr
  | leave hphase =>
    refine ⟨h.log, h.update rfl ?_⟩
    intro r hr
    cases hr

theorem always_asked (hacts : ∀ t x a, .call t x a ∈ acts → Q (x, a))
    (s : State X T A O D P B) :
    Transition.Always c.step (fun _ act => ∀ t x a, act = .call t x a → Q (x, a)) s acts := by
  apply Transition.always_of_mem
  rintro act hmem t x a rfl
  exact hacts t x a hmem

theorem asked_reachable {memory : X → D} {disk : Disk P B}
    (hacts : ∀ t x a, .call t x a ∈ acts → Q (x, a))
    (hrun : Transition.exec c.step (.start memory disk) acts = some s) : Asked Q s :=
  Transition.exec_invariant (fun _ _ _ h hact hs => h.step hact hs) (.start memory disk)
    (always_asked hacts _) hrun

end Asked

section Progress

theorem finish_holding (todo : Task P B (O × D)) : ∀ s : State X T A O D P B,
    s.phase t = .holding x a todo → ∃ acts s', Transition.exec c.step s acts = some s' ∧
      s'.phase t = .idle ∧ s'.holder x = none ∧ ∀ u, u ≠ t → s'.phase u = s.phase u := by
  induction todo using Task.step_induction with
  | h todo ih =>
    intro s hphase
    cases htodo : todo.step s.disk with
    | none =>
      obtain ⟨⟨o, d⟩, rfl⟩ := Task.step_none htodo
      have hstep : c.step s (.unlock t) = some { s.move t .idle with
          memory := Function.update s.memory x d
          holder := Function.update s.holder x none
          log := s.log ++ [⟨x, t, a, o⟩] } := by
        simp only [step, hphase]
      refine ⟨[.unlock t], _, Transition.exec_of_step hstep rfl, ?_, ?_, ?_⟩
      · exact Function.update_self ..
      · exact Function.update_self ..
      · exact fun u hu => Function.update_of_ne hu ..
    | some r =>
      obtain ⟨todo', d⟩ := r
      have hstep : c.step s (.advance t) =
          some { s.move t (.holding x a todo') with disk := d } := by
        simp only [step, hphase, htodo, Option.map_some]
      obtain ⟨acts, s', hrun, hidle, hholder, hothers⟩ :=
        ih _ _ _ htodo { s.move t (.holding x a todo') with disk := d } (Function.update_self ..)
      have hcons := Transition.exec_of_step hstep hrun
      refine ⟨.advance t :: acts, s', hcons, hidle, hholder, ?_⟩
      intro u hu
      exact (hothers u hu).trans (Function.update_of_ne hu ..)

theorem finish_beside (todo : Task P B (O × D)) : ∀ s : State X T A O D P B,
    s.phase t = .beside x a todo → ∃ acts s', Transition.exec c.step s acts = some s' ∧
      s'.phase t = .idle ∧ ∀ u, u ≠ t → s'.phase u = s.phase u := by
  induction todo using Task.step_induction with
  | h todo ih =>
    intro s hphase
    cases htodo : todo.step s.disk with
    | none =>
      obtain ⟨⟨o, d⟩, rfl⟩ := Task.step_none htodo
      have hstep : c.step s (.unlock t) =
          some { s.move t .idle with seen := s.seen ++ [⟨x, t, a, o⟩] } := by
        simp only [step, hphase]
      exact ⟨[.unlock t], _, Transition.exec_of_step hstep rfl, Function.update_self ..,
        fun u hu => Function.update_of_ne hu ..⟩
    | some r =>
      obtain ⟨todo', d⟩ := r
      have hstep : c.step s (.advance t) =
          some { s.move t (.beside x a todo') with disk := d } := by
        simp only [step, hphase, htodo, Option.map_some]
      obtain ⟨acts, s', hrun, hidle, hothers⟩ :=
        ih _ _ _ htodo { s.move t (.beside x a todo') with disk := d } (Function.update_self ..)
      refine ⟨.advance t :: acts, s', Transition.exec_of_step hstep hrun, hidle, ?_⟩
      intro u hu
      exact (hothers u hu).trans (Function.update_of_ne hu ..)

theorem finish_waiting (hphase : s.phase t = .waiting x a) (hx : s.holder x = none) :
    ∃ acts s', Transition.exec c.step s acts = some s' ∧ s'.phase t = .idle ∧
      ∀ u, u ≠ t → s'.phase u = s.phase u := by
  have hstep : c.step s (.lock t) =
      some { s.move t (.holding x a (c.task x a (s.memory x))) with
        holder := Function.update s.holder x (some t) } := by
    simp only [step, hphase, hx]
  obtain ⟨acts, s', hrun, hidle, -, hothers⟩ := finish_holding (c := c) (t := t) (x := x) (a := a)
    (c.task x a (s.memory x)) { s.move t (.holding x a (c.task x a (s.memory x))) with
      holder := Function.update s.holder x (some t) } (Function.update_self ..)
  refine ⟨.lock t :: acts, s', Transition.exec_of_step hstep hrun, hidle, ?_⟩
  intro u hu
  exact (hothers u hu).trans (Function.update_of_ne hu ..)

omit [DecidableEq X] [DecidableEq P] in
theorem idle_of_others (hidle : s'.phase t = .idle)
    (hothers : ∀ u, u ≠ t → s'.phase u = s.phase u) (u : T) (hu : s.phase u = .idle) :
    s'.phase u = .idle := by
  by_cases hut : u = t
  · rw [hut, hidle]
  · rw [hothers u hut, hu]

theorem can_finish (h : c.Stands base s) (t : T) :
    ∃ acts s', Transition.exec c.step s acts = some s' ∧ s'.phase t = .idle ∧
      ∀ u, s.phase u = .idle → s'.phase u = .idle := by
  cases hphase : s.phase t with
  | idle => exact ⟨[], s, rfl, hphase, fun u hu => hu⟩
  | holding x a todo =>
    obtain ⟨acts, s', hrun, hidle, -, hothers⟩ := finish_holding (c := c) todo s hphase
    exact ⟨acts, s', hrun, hidle, idle_of_others hidle hothers⟩
  | beside x a todo =>
    obtain ⟨acts, s', hrun, hidle, hothers⟩ := finish_beside (c := c) todo s hphase
    exact ⟨acts, s', hrun, hidle, idle_of_others hidle hothers⟩
  | waiting x a =>
    cases hx : s.holder x with
    | none =>
      obtain ⟨acts, s', hrun, hidle, hothers⟩ := finish_waiting (c := c) hphase hx
      exact ⟨acts, s', hrun, hidle, idle_of_others hidle hothers⟩
    | some u =>
      -- the holder returns first
      obtain ⟨b, todo, -, hu, -⟩ := h.held x u hx
      have hne : t ≠ u := by
        rintro rfl
        cases hphase.symm.trans hu
      obtain ⟨acts₁, s₁, hrun₁, hidle₁, hfree, hothers₁⟩ := finish_holding (c := c) todo s hu
      obtain ⟨acts₂, s₂, hrun₂, hidle₂, hothers₂⟩ :=
        finish_waiting (c := c) ((hothers₁ t hne).trans hphase) hfree
      refine ⟨acts₁ ++ acts₂, s₂, Transition.exec_append hrun₁ hrun₂, hidle₂, ?_⟩
      intro v hv
      exact idle_of_others hidle₂ hothers₂ v (idle_of_others hidle₁ hothers₁ v hv)

theorem step_idle {act : Action X T A} (hs : c.step s act = some s') :
    ∃ t, ∀ u, u ≠ t → s'.phase u = s.phase u := by
  cases step_effect hs with
  | @call t | @callBeside t | @lock t | @refuse t | @advance t | @advanceBeside t | @unlock t
  | @leave t => exact ⟨t, fun u hu => Function.update_of_ne hu ..⟩

theorem exists_busy {memory : X → D} {disk : Disk P B}
    (hrun : Transition.exec c.step (.start memory disk) acts = some s) :
    ∃ ts : List T, ∀ t, t ∉ ts → s.phase t = .idle := by
  refine Transition.exec_invariant (P := fun _ _ => True)
    (I := fun s : State X T A O D P B => ∃ ts : List T, ∀ t, t ∉ ts → s.phase t = .idle)
    ?_ ⟨[], fun _ _ => rfl⟩ (Transition.always_true _ _) hrun
  rintro s act s' ⟨ts, hidle⟩ - hs
  obtain ⟨t, hothers⟩ := step_idle hs
  refine ⟨t :: ts, ?_⟩
  intro u hu
  rw [List.mem_cons, not_or] at hu
  rw [hothers u hu.1, hidle u hu.2]

/-- From every state that an interleaving reaches, all calls under way can return. -/
theorem can_quiesce {memory : X → D} {disk : Disk P B}
    (hrun : Transition.exec c.step (.start memory disk) acts = some s) :
    ∃ acts' s', Transition.exec c.step s acts' = some s' ∧ ∀ t, s'.phase t = .idle := by
  obtain ⟨ts, hidle⟩ := exists_busy hrun
  induction ts generalizing s acts with
  | nil => exact ⟨[], s, rfl, fun t => hidle t List.not_mem_nil⟩
  | cons t ts ih =>
    obtain ⟨acts₁, s₁, hrun₁, hdone, hkeep⟩ := can_finish (serial_reachable hrun).stands t
    have hidle₁ : ∀ u, u ∉ ts → s₁.phase u = .idle := by
      intro u hu
      by_cases hut : u = t
      · rw [hut, hdone]
      · exact hkeep u (hidle u (List.not_mem_cons_of_ne_of_not_mem hut hu))
    obtain ⟨acts₂, s₂, hrun₂, hall⟩ := ih (Transition.exec_append hrun hrun₁) hidle₁
    exact ⟨acts₁ ++ acts₂, s₂, Transition.exec_append hrun₁ hrun₂, hall⟩

end Progress

end Calls

end Guarded
