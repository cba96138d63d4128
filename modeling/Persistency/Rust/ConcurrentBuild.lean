import Persistency.Library.Transition
import Persistency.Rust.KvsBuilder
import Persistency.Rust.Slots

namespace Persistency.Rust
set_option autoImplicit true

inductive Stage where
  | idle
  | missed
  | loaded (data : KvsData)
  | done (result : Except ErrorCode KvsInner)

structure Builds where
  process : Process
  stage : Nat → Stage

/-- The steps of the callers. The disk is what it is at the time of a load. -/
inductive BuildStep where
  | lookup (caller : Nat)
  | load (caller : Nat) (disk : Fs)
  | insert (caller : Nat)
  | setValue (caller : Nat) (key : String) (value : KvsValue)

namespace Builds

def start : Builds := ⟨.start, fun _ => .idle⟩

def enter (s : Builds) (process : Process) (caller : Nat) (stage : Stage) : Builds :=
  ⟨process, fun j => if j = caller then stage else s.stage j⟩

def step (c : Crates) (builder : Nat → KvsBuilder) (s : Builds) : BuildStep → Option Builds
  | .lookup j =>
    match s.stage j with
    | .idle =>
      match (builder j).lookup s.process with
      | .error e => some (s.enter s.process j (.done (.error e)))
      | .ok (some kvs) => some (s.enter s.process j (.done (.ok kvs)))
      | .ok none => some (s.enter s.process j .missed)
    | _ => none
  | .load j disk =>
    match s.stage j with
    | .missed =>
      match (builder j).load c disk with
      | .error e => some (s.enter s.process j (.done (.error e)))
      | .ok data => some (s.enter s.process j (.loaded data))
    | _ => none
  | .insert j =>
    match s.stage j with
    | .loaded data =>
      let (result, process) := (builder j).insert data s.process
      some (s.enter process j (.done result))
    | _ => none
  | .setValue j key value =>
    match s.stage j with
    | .done (.ok kvs) =>
      let (_, data) := Kvs.setValue key value (s.process.cells kvs.data)
      some { s with process := s.process.store kvs.data data }
    | _ => none

def Holds (s : Builds) (j : Nat) (kvs : KvsInner) : Prop := s.stage j = .done (.ok kvs)

/-- All handles for one instance are the same cell with the same parameters. -/
def Agree (builder : Nat → KvsBuilder) (s : Builds) : Prop :=
  ∀ j j' kvs kvs', s.Holds j kvs → s.Holds j' kvs' →
    (builder j).instanceId = (builder j').instanceId → kvs = kvs'

/-- An insertion finds the pool entry of its instance still empty. -/
def Fresh (builder : Nat → KvsBuilder) (s : Builds) : BuildStep → Prop
  | .insert j => ∀ kvs, s.process.pool[(builder j).instanceId]? ≠ some (some kvs)
  | _ => True

inductive Effect (builder : Nat → KvsBuilder) (s : Builds) (a : BuildStep) (s' : Builds) : Prop
  | quiet (hpool : s'.process.pool = s.process.pool) (hnext : s.process.next ≤ s'.process.next)
    (hholds : ∀ j kvs, s'.Holds j kvs ↔ s.Holds j kvs)
  | reuse (j : Nat) (kvs : KvsInner)
    (hentry : s.process.pool[(builder j).instanceId]? = some (some kvs))
    (hprocess : s'.process = s.process)
    (hholds : ∀ j' kvs', s'.Holds j' kvs' ↔ j' = j ∧ kvs' = kvs ∨ s.Holds j' kvs')
  | insert (j : Nat) (ha : a = .insert j) (hid : (builder j).instanceId < kvsMaxInstances)
    (hpool : s'.process.pool = s.process.pool.set (builder j).instanceId
      (some ⟨(builder j).parameters, s.process.next⟩))
    (hnext : s'.process.next = s.process.next + 1)
    (hholds : ∀ j' kvs', s'.Holds j' kvs' ↔
      j' = j ∧ kvs' = ⟨(builder j).parameters, s.process.next⟩ ∨ s.Holds j' kvs')

variable {c : Crates} {builder : Nat → KvsBuilder} {s s' : Builds}

theorem enter_holds (hst : ∀ kvs, s.stage j ≠ .done (.ok kvs)) (process : Process)
    (next : Stage) (j' : Nat) (kvs : KvsInner) :
    (s.enter process j next).Holds j' kvs ↔ j' = j ∧ next = .done (.ok kvs) ∨ s.Holds j' kvs := by
  simp only [Holds, enter]
  by_cases hj : j' = j
  · subst hj
    simp only [↓reduceIte, true_and, hst kvs, or_false]
  · simp only [hj, ↓reduceIte, false_and, false_or]

theorem enter_quiet {next : Stage} (hst : ∀ kvs, s.stage j ≠ .done (.ok kvs))
    (hnext : ∀ kvs, next ≠ .done (.ok kvs)) : Effect builder s a (s.enter s.process j next) := by
  refine .quiet rfl (Nat.le_refl _) fun j' kvs => ?_
  rw [enter_holds hst]
  simp only [hnext, and_false, false_or]

theorem effect (h : step c builder s a = some s') : Effect builder s a s' := by
  cases a with
  | lookup j =>
    simp only [step] at h
    split at h
    · rename_i hst
      have hno (kvs : KvsInner) : s.stage j ≠ .done (.ok kvs) := by rw [hst]; nofun
      split at h
      · cases h
        exact enter_quiet hno nofun
      · rename_i kvs hlookup
        cases h
        refine .reuse j kvs ((builder j).lookup_some hlookup) rfl fun j' kvs' => ?_
        rw [enter_holds hno]
        simp only [Stage.done.injEq, Except.ok.injEq, eq_comm]
      · cases h
        exact enter_quiet hno nofun
    · cases h
  | load j disk =>
    simp only [step] at h
    split at h
    · rename_i hst
      have hno (kvs : KvsInner) : s.stage j ≠ .done (.ok kvs) := by rw [hst]; nofun
      split at h
      · cases h
        exact enter_quiet hno nofun
      · cases h
        exact enter_quiet hno nofun
    · cases h
  | insert j =>
    simp only [step] at h
    split at h
    · rename_i data hst
      have hno (kvs : KvsInner) : s.stage j ≠ .done (.ok kvs) := by rw [hst]; nofun
      by_cases hid : (builder j).instanceId < kvsMaxInstances
      · simp only [KvsBuilder.insert, dif_pos hid] at h
        cases h
        refine .insert j rfl hid rfl rfl fun j' kvs' => ?_
        rw [enter_holds hno]
        simp only [Stage.done.injEq, Except.ok.injEq, eq_comm]
        rfl
      · simp only [KvsBuilder.insert, dif_neg hid] at h
        cases h
        refine .quiet rfl (Nat.le_succ _) fun j' kvs' => ?_
        rw [enter_holds hno]
        simp only [Stage.done.injEq, reduceCtorEq, and_false, false_or]
    · cases h
  | setValue j key value =>
    simp only [step] at h
    split at h
    · cases h
      exact .quiet rfl (Nat.le_refl _) fun j' kvs => Iff.rfl
    · cases h

theorem holds_step (h : step c builder s a = some s') (hj : s.Holds j kvs) : s'.Holds j kvs := by
  cases effect h with
  | quiet _ _ hholds => exact (hholds j kvs).2 hj
  | reuse _ _ _ _ hholds => exact (hholds j kvs).2 (.inr hj)
  | insert _ _ _ _ _ hholds => exact (hholds j kvs).2 (.inr hj)

theorem insert_holds (h : step c builder s (.insert j) = some s')
    (hid : (builder j).instanceId < kvsMaxInstances) :
    s'.Holds j ⟨(builder j).parameters, s.process.next⟩ := by
  simp only [step] at h
  split at h
  · simp only [KvsBuilder.insert, dif_pos hid] at h
    cases h
    exact if_pos rfl
  · cases h

/-- Every handle is the one in the pool. -/
def Pooled (builder : Nat → KvsBuilder) (s : Builds) : Prop :=
  ∀ j kvs, s.Holds j kvs → s.process.pool[(builder j).instanceId]? = some (some kvs)

theorem Pooled.agree (h : Pooled builder s) : Agree builder s := by
  intro j j' kvs kvs' hj hj' hid
  have he := h j kvs hj
  rw [hid, h j' kvs' hj'] at he
  exact (Option.some.inj (Option.some.inj he)).symm

theorem Pooled.step (h : Pooled builder s) (hf : Fresh builder s a)
    (hs : step c builder s a = some s') : Pooled builder s' := by
  intro j kvs hj
  cases effect hs with
  | quiet hpool _ hholds =>
    rw [hpool]
    exact h j kvs ((hholds j kvs).1 hj)
  | reuse j' kvs' hentry hprocess hholds =>
    rw [hprocess]
    rcases (hholds j kvs).1 hj with ⟨rfl, rfl⟩ | hj
    · exact hentry
    · exact h j kvs hj
  | insert j' ha hid hpool hnext hholds =>
    subst ha
    rw [hpool]
    rcases (hholds j kvs).1 hj with ⟨rfl, rfl⟩ | hj
    · exact Vector.getElem?_set_self hid
    · have hentry := h j kvs hj
      rw [Vector.getElem?_set_ne hid, hentry]
      intro he
      exact hf kvs (he ▸ hentry)

/-- Every entry of the pool is somebody's handle, and every handle is on an allocated cell. -/
structure Owned (builder : Nat → KvsBuilder) (s : Builds) : Prop where
  entry : ∀ n kvs, s.process.pool[n]? = some (some kvs) →
    ∃ j, s.Holds j kvs ∧ (builder j).instanceId = n
  cell : ∀ j kvs, s.Holds j kvs → kvs.data < s.process.next

theorem Owned.start (builder : Nat → KvsBuilder) : Owned builder start where
  entry n kvs h := by
    simp only [Builds.start, Process.start, Vector.getElem?_replicate] at h
    split at h
    · cases h
    · cases h
  cell j kvs h := by cases h

theorem Owned.step (h : Owned builder s) (hs : step c builder s a = some s') :
    Owned builder s' := by
  cases effect hs with
  | quiet hpool hnext hholds =>
    have hentry n kvs (hn : s'.process.pool[n]? = some (some kvs)) :
        ∃ j, s'.Holds j kvs ∧ (builder j).instanceId = n := by
      rw [hpool] at hn
      obtain ⟨j, hj, hid⟩ := h.entry n kvs hn
      exact ⟨j, (hholds j kvs).2 hj, hid⟩
    have hcell j kvs (hj : s'.Holds j kvs) : kvs.data < s'.process.next :=
      Nat.lt_of_lt_of_le (h.cell j kvs ((hholds j kvs).1 hj)) hnext
    exact ⟨hentry, hcell⟩
  | reuse j' kvs' hentry hprocess hholds =>
    have hpooled n kvs (hn : s'.process.pool[n]? = some (some kvs)) :
        ∃ j, s'.Holds j kvs ∧ (builder j).instanceId = n := by
      rw [hprocess] at hn
      obtain ⟨j, hj, hid⟩ := h.entry n kvs hn
      exact ⟨j, (hholds j kvs).2 (.inr hj), hid⟩
    have hcell j kvs (hj : s'.Holds j kvs) : kvs.data < s'.process.next := by
      rw [hprocess]
      rcases (hholds j kvs).1 hj with ⟨rfl, rfl⟩ | hj
      · obtain ⟨j, hj, -⟩ := h.entry _ _ hentry
        exact h.cell j kvs hj
      · exact h.cell j kvs hj
    exact ⟨hpooled, hcell⟩
  | insert j' ha hid hpool hnext hholds =>
    have hentry n kvs (hn : s'.process.pool[n]? = some (some kvs)) :
        ∃ j, s'.Holds j kvs ∧ (builder j).instanceId = n := by
      rw [hpool, Vector.getElem?_set hid] at hn
      split at hn
      · rename_i he
        cases hn
        exact ⟨j', (hholds _ _).2 (.inl ⟨rfl, rfl⟩), he⟩
      · obtain ⟨j, hj, hjn⟩ := h.entry n kvs hn
        exact ⟨j, (hholds j kvs).2 (.inr hj), hjn⟩
    have hcell j kvs (hj : s'.Holds j kvs) : kvs.data < s'.process.next := by
      rw [hnext]
      rcases (hholds j kvs).1 hj with ⟨rfl, rfl⟩ | hj
      · exact Nat.lt_succ_self _
      · exact Nat.lt_succ_of_lt (h.cell j kvs hj)
    exact ⟨hentry, hcell⟩

theorem Owned.not_agree (h : Owned builder s) (hf : ¬ Fresh builder s a)
    (hs : Builds.step c builder s a = some s') : ¬ Agree builder s' := by
  cases a with
  | insert j =>
    simp only [Fresh, not_forall, not_not] at hf
    obtain ⟨kvs, hentry⟩ := hf
    obtain ⟨j', hj', hid⟩ := h.entry _ kvs hentry
    have hcell := h.cell j' kvs hj'
    obtain ⟨hlt, -⟩ := Vector.getElem?_eq_some_iff.1 hentry
    intro hagree
    have he := hagree j' j kvs _ (holds_step hs hj') (insert_holds hs hlt) hid
    rw [he] at hcell
    exact Nat.lt_irrefl _ hcell
  | _ => exact absurd trivial hf

theorem not_agree_step (hs : step c builder s a = some s') (h : ¬ Agree builder s) :
    ¬ Agree builder s' := by
  intro hagree
  apply h
  intro j j' kvs kvs' hj hj' hid
  exact hagree j j' kvs kvs' (holds_step hs hj) (holds_step hs hj') hid

theorem Pooled.start (builder : Nat → KvsBuilder) : Pooled builder start := nofun

theorem Pooled.exec (h : Pooled builder s) (hf : Transition.Always (Builds.step c builder)
    (Fresh builder) s as) (hrun : Transition.exec (Builds.step c builder) s as = some s') :
    Pooled builder s' :=
  Transition.exec_invariant (fun _ _ _ hp hfresh hs => hp.step hfresh hs) h hf hrun

theorem Agree.setValue (h : Agree builder s) (hj : s.Holds j kvs) (hj' : s.Holds j' kvs')
    (hid : (builder j).instanceId = (builder j').instanceId)
    (hs : step c builder s (.setValue j key value) = some s') :
    Kvs.getValue key (s'.process.cells kvs'.data) = .ok value := by
  cases h j j' kvs kvs' hj hj' hid
  rw [Holds] at hj
  simp only [step, hj, Option.some.injEq] at hs
  cases hs
  simp only [Process.store, ↓reduceIte, Kvs.setValue, Kvs.getValue, FiniteMap.get?_insert]

/-- In every interleaving, the handles for one instance agree exactly when every insertion finds
the pool entry still empty; a value set through one of them is then read through every other. -/
theorem builds_agree_iff (builder : Nat → KvsBuilder) (as : List BuildStep)
    (hrun : Transition.exec (step c builder) start as = some s) :
    (Agree builder s ↔ Transition.Always (step c builder) (Fresh builder) start as) ∧
    (Transition.Always (step c builder) (Fresh builder) start as →
      ∀ j j' kvs kvs' key value s', s.Holds j kvs → s.Holds j' kvs' →
        (builder j).instanceId = (builder j').instanceId →
        step c builder s (.setValue j key value) = some s' →
        Kvs.getValue key (s'.process.cells kvs'.data) = .ok value) := by
  have hgood (hf : Transition.Always (step c builder) (Fresh builder) start as) :
      Agree builder s := ((Pooled.start builder).exec hf hrun).agree
  refine ⟨⟨?_, hgood⟩, ?_⟩
  · intro hagree
    by_contra hf
    obtain ⟨before, a, after, s₁, s₂, hbefore, hnot, hstep, hafter⟩ :=
      Transition.exists_not hrun hf
    have howned : Owned builder s₁ := Transition.exec_invariant
      (fun _ _ _ ho _ hs => ho.step hs) (.start builder) (Transition.always_true _ _) hbefore
    have hbad := howned.not_agree hnot hstep
    exact Transition.exec_invariant (I := fun s => ¬ Agree builder s)
      (fun _ _ _ hb _ hs => not_agree_step hs hb) hbad (Transition.always_true _ _) hafter hagree
  · intro hf j j' kvs kvs' key value s' hj hj' hid hs
    exact (hgood hf).setValue hj hj' hid hs

def sampleBuilder : KvsBuilder := ⟨1, none, none, none⟩

def sampleCrates : Crates := ⟨fun _ => none, fun _ => none, fun _ => 1⟩

theorem sample_load : sampleBuilder.load sampleCrates (fun _ => none) = .ok ⟨.empty, .empty⟩ := by
  have hdefaults : JsonBackend.default.loadDefaults sampleCrates 1 (fun _ => none) =
      .error .fileNotFound := load_missing (JsonBackend.default.checkPathExtensions_defaults 1) rfl
  have hkvs : JsonBackend.default.loadKvs sampleCrates 1 0 (fun _ => none) =
      .error .fileNotFound := load_missing (JsonBackend.default.checkPathExtensions_slot 1 0) rfl
  simp only [KvsBuilder.load, KvsBuilder.parameters, KvsBuilder.loadDefaultsMap,
    KvsBuilder.loadKvsMap, sampleBuilder, Option.getD_none, hdefaults, hkvs]
  rfl

theorem sample_load_step (hst : s.stage j = .missed) :
    step sampleCrates (fun _ => sampleBuilder) s (.load j fun _ => none) =
      some (s.enter s.process j (.loaded ⟨.empty, .empty⟩)) := by
  simp only [step, hst, sample_load]

theorem builds_agree_serial : ∃ s, Transition.exec (step sampleCrates fun _ => sampleBuilder) start
    [.lookup 0, .load 0 fun _ => none, .insert 0, .lookup 1] = some s ∧
    Agree (fun _ => sampleBuilder) s := by
  have hlookup : step sampleCrates (fun _ => sampleBuilder) start (.lookup 0) =
      some (start.enter .start 0 .missed) := rfl
  have hload := sample_load_step (j := 0) (s := start.enter .start 0 .missed) rfl
  have hrun : (Transition.exec (step sampleCrates fun _ => sampleBuilder) start
      [.lookup 0, .load 0 fun _ => none, .insert 0, .lookup 1]).isSome = true := by
    rw [Transition.exec, hlookup, Option.bind_some, Transition.exec, hload, Option.bind_some]
    rfl
  obtain ⟨s, hs⟩ := Option.isSome_iff_exists.1 hrun
  refine ⟨s, hs, (builds_agree_iff _ _ hs).1.2 ?_⟩
  refine ⟨trivial, fun s₁ h₁ => ⟨trivial, fun s₂ h₂ => ⟨?_, fun _ _ => ⟨trivial, fun _ _ =>
    trivial⟩⟩⟩⟩
  cases hlookup.symm.trans h₁
  cases hload.symm.trans h₂
  intro kvs h
  cases h

/-- Two builds that both miss the pool: the second one replaces the entry of the first. -/
theorem builds_disagree : ∃ s, Transition.exec (step sampleCrates fun _ => sampleBuilder) start
    [.lookup 0, .lookup 1, .load 0 fun _ => none, .load 1 fun _ => none, .insert 0, .insert 1] =
      some s ∧ ¬ Agree (fun _ => sampleBuilder) s := by
  have hlookup : step sampleCrates (fun _ => sampleBuilder) start (.lookup 0) =
      some (start.enter .start 0 .missed) := rfl
  have hlookup' : step sampleCrates (fun _ => sampleBuilder) (start.enter .start 0 .missed)
      (.lookup 1) = some ((start.enter .start 0 .missed).enter .start 1 .missed) := rfl
  have hload := sample_load_step (j := 0)
    (s := (start.enter .start 0 .missed).enter .start 1 .missed) rfl
  have hload' := sample_load_step (j := 1)
    (s := ((start.enter .start 0 .missed).enter .start 1 .missed).enter .start 0
      (.loaded ⟨.empty, .empty⟩)) rfl
  have hrun : Transition.exec (step sampleCrates fun _ => sampleBuilder) start
      [.lookup 0, .lookup 1, .load 0 fun _ => none, .load 1 fun _ => none, .insert 0, .insert 1] =
      Transition.exec (step sampleCrates fun _ => sampleBuilder)
        ((((start.enter .start 0 .missed).enter .start 1 .missed).enter .start 0
          (.loaded ⟨.empty, .empty⟩)).enter .start 1 (.loaded ⟨.empty, .empty⟩))
        [.insert 0, .insert 1] := by
    rw [Transition.exec, hlookup, Option.bind_some, Transition.exec, hlookup', Option.bind_some,
      Transition.exec, hload, Option.bind_some, Transition.exec]
    exact congrArg (Option.bind · _) hload'
  refine ⟨_, hrun.trans rfl, ?_⟩
  intro hagree
  have he := hagree 0 1 ⟨sampleBuilder.parameters, 0⟩ ⟨sampleBuilder.parameters, 1⟩ rfl rfl rfl
  exact absurd (congrArg KvsInner.data he) (by decide)

end Builds

end Persistency.Rust
