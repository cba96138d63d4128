import Persistency.Library.Transition
import Persistency.Rust.DynBackend

namespace Persistency.Rust.Dyn
set_option autoImplicit true

section Discipline

variable {D ι : Type} {types : ι → BackendType D}

/-- A call of `build`, with what is outside of the process at that time. -/
structure Request (types : ι → BackendType D) where
  builder : KvsBuilder types
  world : D

/-- The parameters that a builder sets are those that are given; `same` compares the backends. -/
structure KvsBuilder.Agrees (builder : KvsBuilder types)
    (same : DynBackend types → DynBackend types → Prop) (other : KvsParameters types) : Prop where
  defaults : ∀ mode ∈ builder.defaults, mode = other.defaults
  kvsLoad : ∀ mode ∈ builder.kvsLoad, mode = other.kvsLoad
  backend : ∀ backend ∈ builder.backend, same backend other.backend

theorem KvsBuilder.agrees_parameters (self : KvsBuilder types) (default : DynBackend types) :
    self.Agrees (fun backend other => backend = other) (self.parameters default) where
  defaults mode hmode := by rw [KvsBuilder.parameters, hmode, Option.getD_some]
  kvsLoad mode hmode := by rw [KvsBuilder.parameters, hmode, Option.getD_some]
  backend backend hbackend := by rw [KvsBuilder.parameters, hbackend, Option.getD_some]

theorem KvsBuilder.Agrees.mono {self : KvsBuilder types} {other : KvsParameters types}
    (h : self.Agrees same other)
    (himp : ∀ backend other, same backend other → same' backend other) :
    self.Agrees same' other :=
  ⟨h.defaults, h.kvsLoad, fun backend hbackend => himp _ _ (h.backend backend hbackend)⟩

/-- The handle of the first call for an instance that returned `Ok`. -/
def firstSuccess (i : InstanceId)
    (calls : List (Request types × Except ErrorCode (KvsInner types))) : Option (KvsInner types) :=
  calls.findSome? fun call =>
    if call.1.builder.instanceId = i then call.2.toOption else none

theorem firstSuccess_concat (i : InstanceId)
    (calls : List (Request types × Except ErrorCode (KvsInner types))) (request : Request types)
    (handle : Except ErrorCode (KvsInner types)) :
    firstSuccess i (calls ++ [(request, handle)]) = (firstSuccess i calls).or
      (if request.builder.instanceId = i then handle.toOption else none) := by
  rw [firstSuccess, List.findSome?_append, List.findSome?_singleton]
  rfl

/-- The entries of a pool after some calls: each is the handle of the first success. -/
structure Sound (process : Process types)
    (calls : List (Request types × Except ErrorCode (KvsInner types))) : Prop where
  pool : ∀ i < kvsMaxInstances, process.pool[i]? = some (firstSuccess i calls)
  own : ∀ (i : InstanceId) kvs, process.pool[i]? = some (some kvs) → kvs.parameters.instanceId = i

theorem Sound.start : Sound (.start types) [] where
  pool i hi := by
    rw [Process.start, Vector.getElem?_replicate, if_pos hi]
    rfl
  own i kvs hentry := by
    rw [Process.start, Vector.getElem?_replicate] at hentry
    split at hentry
    · cases hentry
    · cases hentry

theorem Sound.entry {process : Process types} {i : InstanceId} (h : Sound process calls)
    {entry : Option (KvsInner types)} (hentry : process.pool[i]? = some entry) :
    firstSuccess i calls = entry := by
  have hi : i < kvsMaxInstances := by
    by_contra hout
    rw [Vector.getElem?_eq_none (Nat.not_lt.1 hout)] at hentry
    cases hentry
  exact Option.some.inj ((h.pool i hi).symm.trans hentry)

theorem Sound.unchanged {process : Process types}
    {calls : List (Request types × Except ErrorCode (KvsInner types))} (h : Sound process calls)
    (request : Request types)
    (hhandle : ∀ kvs, handle = .ok kvs → firstSuccess request.builder.instanceId calls = some kvs) :
    Sound process (calls ++ [(request, handle)]) where
  pool i hi := by
    rw [h.pool i hi, firstSuccess_concat]
    by_cases hid : request.builder.instanceId = i
    · subst hid
      rw [if_pos rfl]
      cases handle with
      | error e => rw [Except.toOption, Option.or_none]
      | ok kvs => rw [hhandle kvs rfl]; rfl
    · rw [if_neg hid, Option.or_none]
  own := h.own

variable [DecidableEq ι] (default : DynBackend types)

def Request.step (process : Process types) (request : Request types) :
    Process types × Except ErrorCode (KvsInner types) :=
  let (handle, process) := request.builder.build default request.world process
  (process, handle)

namespace KvsBuilder

variable (self : KvsBuilder types) {world : D} {process : Process types}

theorem any_ne_iff [DecidableEq α] (o : Option α) (a : α) :
    o.any (· ≠ a) = true ↔ ¬ ∀ b ∈ o, b = a := by
  cases o with
  | none => simp
  | some b => simp

theorem any_not_iff (o : Option α) (p : α → Bool) :
    (o.any fun a => !p a) = true ↔ ¬ ∀ a ∈ o, p a = true := by
  cases o with
  | none => simp
  | some a => simp

/-- The comparison asks for the same instance, and for what the builder sets to be in the entry. -/
theorem compareParameters_iff (other : KvsParameters types) :
    self.compareParameters other = true ↔
      self.instanceId = other.instanceId ∧
        self.Agrees (fun backend other => backend.dynEq other = true) other := by
  have hagrees : self.Agrees (fun backend other => backend.dynEq other = true) other ↔
      (∀ mode ∈ self.defaults, mode = other.defaults) ∧
        (∀ mode ∈ self.kvsLoad, mode = other.kvsLoad) ∧
        ∀ backend ∈ self.backend, backend.dynEq other.backend = true :=
    ⟨fun h => ⟨h.defaults, h.kvsLoad, h.backend⟩, fun h => ⟨h.1, h.2.1, h.2.2⟩⟩
  rw [hagrees]
  simp only [compareParameters, any_ne_iff, any_not_iff]
  split_ifs <;> tauto

theorem build_outside (hi : kvsMaxInstances ≤ self.instanceId) :
    self.build default world process = (.error .invalidInstanceId, process) := by
  have hpool : process.pool[self.instanceId]? = none := Vector.getElem?_eq_none hi
  simp only [build, lookup, hpool]

theorem build_existing (hentry : process.pool[self.instanceId]? = some (some kvs)) :
    self.build default world process =
      (if self.compareParameters kvs.parameters then .ok kvs
        else .error .instanceParametersMismatch, process) := by
  simp only [build, lookup, hentry]
  by_cases hsame : self.compareParameters kvs.parameters
  · simp only [if_pos hsame]
  · simp only [if_neg hsame]

theorem build_failed (hopen : process.pool[self.instanceId]? = some none)
    (hload : self.load default world = .error e) :
    self.build default world process = (.error e, process) := by
  simp only [build, lookup, hopen, hload]

theorem build_loaded (hopen : process.pool[self.instanceId]? = some none)
    (hload : self.load default world = .ok data) :
    ∃ process', self.build default world process =
        (.ok ⟨self.parameters default, process.next⟩, process') ∧
      process'.cells process.next = data ∧
      ∀ i, process'.pool[i]? =
        if self.instanceId = i then some (some ⟨self.parameters default, process.next⟩)
        else process.pool[i]? := by
  have hi : self.instanceId < kvsMaxInstances := by
    by_contra hout
    rw [Vector.getElem?_eq_none (Nat.not_lt.1 hout)] at hopen
    cases hopen
  simp only [build, lookup, hopen, hload, insert, Process.alloc, dif_pos hi]
  refine ⟨_, rfl, if_pos rfl, ?_⟩
  intro i
  exact Vector.getElem?_set hi

/-- A build fails and changes nothing, or returns the entry and changes nothing, or fills an
entry that is open. -/
theorem build_cases (world : D) (process : Process types) :
    (∃ e, self.build default world process = (.error e, process)) ∨
    (∃ kvs, process.pool[self.instanceId]? = some (some kvs) ∧
      self.compareParameters kvs.parameters = true ∧
      self.build default world process = (.ok kvs, process)) ∨
    ∃ process', process.pool[self.instanceId]? = some none ∧
      self.build default world process =
        (.ok ⟨self.parameters default, process.next⟩, process') ∧
      ∀ i, process'.pool[i]? =
        if self.instanceId = i then some (some ⟨self.parameters default, process.next⟩)
        else process.pool[i]? := by
  rcases hentry : process.pool[self.instanceId]? with - | - | kvs
  · have hi : kvsMaxInstances ≤ self.instanceId := Vector.getElem?_eq_none_iff.1 hentry
    exact .inl ⟨_, self.build_outside default hi⟩
  · cases hload : self.load default world with
    | error e => exact .inl ⟨e, self.build_failed default hentry hload⟩
    | ok data =>
      obtain ⟨process', hbuild, -, hpool⟩ := self.build_loaded default hentry hload
      exact .inr (.inr ⟨process', rfl, hbuild, hpool⟩)
  · have hbuild : self.build default world process = _ := self.build_existing default hentry
    by_cases hsame : self.compareParameters kvs.parameters
    · rw [if_pos hsame] at hbuild
      exact .inr (.inl ⟨kvs, rfl, hsame, hbuild⟩)
    · rw [if_neg hsame] at hbuild
      exact .inl ⟨_, hbuild⟩

end KvsBuilder

section Step

variable {process : Process types} {i : InstanceId}
  {calls : List (Request types × Except ErrorCode (KvsInner types))}

theorem Sound.step (h : Sound process calls) (request : Request types) :
    Sound (request.step default process).1
      (calls ++ [(request, (request.step default process).2)]) := by
  obtain ⟨builder, world⟩ := request
  rcases builder.build_cases default world process with
    ⟨e, hbuild⟩ | ⟨kvs, hentry, -, hbuild⟩ | ⟨process', hopen, hbuild, hpool⟩
  · rw [Request.step, hbuild]
    exact h.unchanged _ fun kvs hok => by cases hok
  · rw [Request.step, hbuild]
    apply h.unchanged
    intro kvs' hok
    cases hok
    exact h.entry hentry
  · rw [Request.step, hbuild]
    refine ⟨?_, ?_⟩
    · intro i hi
      rw [hpool, firstSuccess_concat]
      by_cases hid : builder.instanceId = i
      · rw [if_pos hid, if_pos hid, ← hid, h.entry hopen]
        rfl
      · rw [if_neg hid, if_neg hid, Option.or_none, h.pool i hi]
    · intro i kvs hentry
      rw [hpool] at hentry
      split at hentry
      · rename_i hid
        cases hentry
        exact hid
      · exact h.own i kvs hentry

theorem step_keeps (hentry : process.pool[i]? = some (some kvs)) (request : Request types) :
    (request.step default process).1.pool[i]? = some (some kvs) := by
  obtain ⟨builder, world⟩ := request
  rcases builder.build_cases default world process with
    ⟨e, hbuild⟩ | ⟨kvs', -, -, hbuild⟩ | ⟨process', hopen, hbuild, hpool⟩
  · rw [Request.step, hbuild]
    exact hentry
  · rw [Request.step, hbuild]
    exact hentry
  · have hid : builder.instanceId ≠ i := by
      rintro rfl
      cases hopen.symm.trans hentry
    rw [Request.step, hbuild, hpool, if_neg hid]
    exact hentry

end Step

theorem Sound.run {process : Process types} (h : Sound process calls)
    (requests : List (Request types)) :
    Sound (Transition.run (Request.step default) process requests).1
      (calls ++ requests.zip (Transition.run (Request.step default) process requests).2) := by
  induction requests generalizing process calls with
  | nil =>
    rw [List.zip_nil_left, List.append_nil]
    exact h
  | cons request requests ih =>
    have hrest := ih (h.step default request)
    rw [List.append_assoc] at hrest
    exact hrest

section Next

variable {process : Process types}
  {calls : List (Request types × Except ErrorCode (KvsInner types))} (self : KvsBuilder types)

theorem Sound.build_existing (h : Sound process calls)
    (hentry : process.pool[self.instanceId]? = some (some kvs)) (world : D) :
    (self.Agrees (fun backend other => backend.dynEq other = true) kvs.parameters →
      self.build default world process = (.ok kvs, process)) ∧
    (¬ self.Agrees (fun backend other => backend.dynEq other = true) kvs.parameters →
      self.build default world process = (.error .instanceParametersMismatch, process)) := by
  have hbuild : self.build default world process = _ := self.build_existing default hentry
  have hsame := self.compareParameters_iff kvs.parameters
  rw [h.own _ _ hentry] at hsame
  apply And.intro
  · intro hagrees
    rw [hbuild, if_pos (hsame.2 ⟨rfl, hagrees⟩)]
  · intro hagrees
    rw [hbuild, if_neg fun hcompare => hagrees (hsame.1 hcompare).2]

theorem Sound.build_open (h : Sound process calls) (hi : self.instanceId < kvsMaxInstances)
    (hfirst : firstSuccess self.instanceId calls = none) (world : D) :
    (self.build default world process).1 =
      (self.load default world).map fun _ => ⟨self.parameters default, process.next⟩ := by
  have hopen := h.pool _ hi
  rw [hfirst] at hopen
  cases hload : self.load default world with
  | error e =>
    rw [self.build_failed default hopen hload]
    rfl
  | ok data =>
    obtain ⟨process', hbuild, -⟩ := self.build_loaded default hopen hload
    rw [hbuild]
    rfl

theorem build_error {world : D} (he : (self.build default world process).1 = .error e) :
    (self.build default world process).2 = process := by
  rcases self.build_cases default world process with
    ⟨e', hbuild⟩ | ⟨kvs, -, -, hbuild⟩ | ⟨process', -, hbuild, -⟩
  · rw [hbuild]
  · rw [hbuild]
  · rw [hbuild] at he
    cases he

theorem build_handle {world : D} (hkvs : (self.build default world process).1 = .ok kvs) :
    kvs.parameters.instanceId = self.instanceId ∧
      self.Agrees (fun backend other => backend = other ∨ backend.dynEq other = true)
        kvs.parameters := by
  rcases self.build_cases default world process with
    ⟨e', hbuild⟩ | ⟨kvs', -, hsame, hbuild⟩ | ⟨process', -, hbuild, -⟩
  · rw [hbuild] at hkvs
    cases hkvs
  · rw [hbuild] at hkvs
    cases hkvs
    rw [self.compareParameters_iff] at hsame
    exact ⟨hsame.1.symm, hsame.2.mono fun _ _ => .inr⟩
  · rw [hbuild] at hkvs
    cases hkvs
    exact ⟨rfl, (self.agrees_parameters default).mono fun _ _ => .inl⟩

end Next

/-- The discipline of the pool after any sequence of builds: an entry is the handle of the first
success and stays; the next build of its instance gets it exactly when what the builder sets is in
it, whatever the files; a build that fails changes nothing and leaves an open entry open; and every
handle has what its builder set. -/
theorem pool_discipline (requests : List (Request types)) :
    let r := Transition.run (Request.step default) (.start types) requests
    let first := fun i : InstanceId => firstSuccess i (requests.zip r.2)
    (∀ i < kvsMaxInstances, r.1.pool[i]? = some (first i)) ∧
    (∀ (later : List (Request types)) (i : InstanceId) (kvs : KvsInner types),
      r.1.pool[i]? = some (some kvs) →
      (Transition.run (Request.step default) r.1 later).1.pool[i]? = some (some kvs)) ∧
    ∀ (self : KvsBuilder types) (world : D),
      let b := self.build default world r.1
      let agrees := self.Agrees fun backend other => backend.dynEq other = true
      (kvsMaxInstances ≤ self.instanceId → b = (.error .invalidInstanceId, r.1)) ∧
      (∀ kvs, self.instanceId < kvsMaxInstances → first self.instanceId = some kvs →
        (agrees kvs.parameters → b = (.ok kvs, r.1)) ∧
        (¬ agrees kvs.parameters → b = (.error .instanceParametersMismatch, r.1)) ∧
        ∀ world', self.build default world' r.1 = b) ∧
      (self.instanceId < kvsMaxInstances → first self.instanceId = none →
        b.1 = (self.load default world).map fun _ => ⟨self.parameters default, r.1.next⟩) ∧
      (∀ e, b.1 = .error e → b.2 = r.1) ∧
      ∀ kvs, b.1 = .ok kvs → kvs.parameters.instanceId = self.instanceId ∧
        self.Agrees (fun backend other => backend = other ∨ backend.dynEq other = true)
          kvs.parameters := by
  intro r first
  have h : Sound r.1 (requests.zip r.2) := Sound.start.run default requests
  refine ⟨h.pool, ?_, ?_⟩
  · intro later i kvs hentry
    have hkept (process : Process types) (request : Request types)
        (hentry : process.pool[i]? = some (some kvs)) :
        (request.step default process).1.pool[i]? = some (some kvs) :=
      step_keeps default hentry request
    exact Transition.run_invariant (I := fun process : Process types =>
      process.pool[i]? = some (some kvs)) hkept hentry later
  · intro self world b agrees
    refine ⟨self.build_outside default, ?existing, ?opened, ?failed, ?handle⟩
    case opened => exact fun hi hfirst => h.build_open default self hi hfirst world
    case failed => exact fun e he => build_error default self he
    case handle => exact fun kvs hkvs => build_handle default self hkvs
    case existing =>
      intro kvs hi hfirst
      have hentry : r.1.pool[self.instanceId]? = some (some kvs) := by rw [h.pool _ hi, ← hfirst]
      obtain ⟨hok, hmismatch⟩ := h.build_existing default self hentry world
      refine ⟨hok, hmismatch, ?_⟩
      intro world'
      have hbuild (world : D) : self.build default world r.1 = _ :=
        self.build_existing default hentry
      exact (hbuild world').trans (hbuild world).symm

end Discipline

end Persistency.Rust.Dyn
