import Persistency.Library.Transition
import Persistency.Cpp.Slots

namespace Persistency.Cpp
set_option autoImplicit true

namespace Kvs

def writeJson (base : Baselibs N) (self : Kvs) (buf : Bytes) : FsM Unit :=
  let jsonPath := self.filenamePrefix ++ "_0.json"
  if base.parentPath jsonPath ≠ "" then Disk.Prog.write jsonPath buf
  else Disk.Prog.throw .physicalStorageFailure

def writeHash (self : Kvs) (buf : Bytes) : FsM Unit :=
  Disk.Prog.write (self.filenamePrefix ++ "_0.hash") (getHashBytes buf)

theorem writeJsonData_eq (base : Baselibs N) (self : Kvs) (buf : Bytes) :
    writeJsonData base self buf = (writeJson base self buf >>= fun _ => writeHash self buf) := by
  rw [writeJsonData, writeJson]
  split <;> rfl

theorem collectBuffer_ok {base : Baselibs N} (h : collectBuffer base ownsLock self = .ok buf) :
    buffer base self.kvs = .ok buf := by
  rw [collectBuffer] at h
  split at h
  · exact h
  · cases h

theorem snapshotRotate_refused (self : Kvs) (disk : Fs) :
    (snapshotRotate false self).run disk = (.error .mutexLockFailed, disk) := rfl

theorem writeJson_run {base : Baselibs N} {self : Kvs} {disk : Fs}
    (h : base.parentPath (snapFile self.filenamePrefix 0) ≠ "") :
    (writeJson base self buf).run disk =
      (.ok (), Disk.Step.apply disk (.write (snapFile self.filenamePrefix 0) buf)) := by
  rw [writeJson, snapFile_zero, if_pos h]
  rfl

theorem writeJson_refused {base : Baselibs N} {self : Kvs} {disk : Fs}
    (h : base.parentPath (snapFile self.filenamePrefix 0) = "") :
    (writeJson base self buf).run disk = (.error .physicalStorageFailure, disk) := by
  rw [writeJson, snapFile_zero, if_neg (not_not.2 h)]
  rfl

theorem writeHash_run (self : Kvs) (buf : Bytes) (disk : Fs) : (writeHash self buf).run disk =
    (.ok (),
      Disk.Step.apply disk (.write (hashFile self.filenamePrefix 0) (getHashBytes buf))) := by
  rw [writeHash, hashFile_zero]
  rfl

theorem setValue_named (ownsLock : Bool) (key : String) (value : KvsValue) (self : Kvs) :
    (setValue ownsLock key value self).2.filenamePrefix = self.filenamePrefix := by
  rw [setValue]
  split <;> rfl

end Kvs

structure Collected (base : Baselibs N) where
  kvs : KvsMap
  buf : Bytes
  buffer : Kvs.buffer base kvs = .ok buf

inductive Stage (base : Baselibs N) where
  | idle
  | collected (c : Collected base)
  | rotated (c : Collected base)
  | written (c : Collected base)
  | returned (result : Except ErrorCode Unit)

/-- The flush is between its rotation and its last write. -/
def Stage.Writing {base : Baselibs N} : Stage base → Prop
  | .rotated _ | .written _ => True
  | _ => False

def Stage.Returned {base : Baselibs N} : Stage base → Prop
  | .idle | .returned _ => True
  | _ => False

structure Flushes (base : Baselibs N) where
  disk : Fs
  store : Kvs
  stage : Nat → Stage base
  /-- The maps of the successful flushes, the latest first. -/
  succeeded : List KvsMap

/-- The steps of the callers, with the outcome of `try_lock`. -/
inductive FlushStep where
  | setValue (ownsLock : Bool) (key : String) (value : KvsValue)
  | collect (caller : Nat) (ownsLock : Bool)
  | rotate (caller : Nat) (ownsLock : Bool)
  | writeJson (caller : Nat)
  | writeHash (caller : Nat)

namespace Flushes

variable {base : Baselibs N}

def start (base : Baselibs N) (disk : Fs) (store : Kvs) : Flushes base :=
  ⟨disk, store, fun _ => .idle, []⟩

def enter (s : Flushes base) (caller : Nat) (stage : Stage base) : Flushes base :=
  { s with stage := fun j => if j = caller then stage else s.stage j }

def advance (s : Flushes base) (caller : Nat) (next : Stage base) :
    Except ErrorCode Unit × Fs → Flushes base
  | (.ok (), disk) => { s with disk }.enter caller next
  | (.error e, disk) => { s with disk }.enter caller (.returned (.error e))

def step (s : Flushes base) : FlushStep → Option (Flushes base)
  | .setValue ownsLock key value =>
    some { s with store := (Kvs.setValue ownsLock key value s.store).2 }
  | .collect j ownsLock =>
    match s.stage j with
    | .idle =>
      match h : Kvs.collectBuffer base ownsLock s.store with
      | .ok buf => some (s.enter j (.collected ⟨s.store.kvs, buf, Kvs.collectBuffer_ok h⟩))
      | .error e => some (s.enter j (.returned (.error e)))
    | _ => none
  | .rotate j ownsLock =>
    match s.stage j with
    | .collected c =>
      some (s.advance j (.rotated c) ((Kvs.snapshotRotate ownsLock s.store).run s.disk))
    | _ => none
  | .writeJson j =>
    match s.stage j with
    | .rotated c => some (s.advance j (.written c) ((Kvs.writeJson base s.store c.buf).run s.disk))
    | _ => none
  | .writeHash j =>
    match s.stage j with
    | .written c =>
      match (Kvs.writeHash s.store c.buf).run s.disk with
      | (.ok (), disk) =>
        some ({ s with disk, succeeded := c.kvs :: s.succeeded }.enter j (.returned (.ok ())))
      | (.error e, disk) => some ({ s with disk }.enter j (.returned (.error e)))
    | _ => none

/-- A rotation runs while no flush is between its rotation and its last write. -/
def Alone (s : Flushes base) : FlushStep → Prop
  | .rotate _ true => ∀ j, ¬ (s.stage j).Writing
  | _ => True

inductive Effect (s : Flushes base) (a : FlushStep) (s' : Flushes base) : Prop
  | edit (store : Kvs) (hnamed : store.filenamePrefix = s.store.filenamePrefix)
    (hs : s' = { s with store })
  | stay (j : Nat) (next : Stage base) (hold : ¬ (s.stage j).Writing) (hnew : ¬ next.Writing)
    (hs : s' = s.enter j next)
  | rotate (j : Nat) (c : Collected base) (ha : a = .rotate j true)
    (hs : s' = { s with
      disk := Disk.replay s.disk (Disk.shiftUp (hashFile s.store.filenamePrefix)
        (snapFile s.store.filenamePrefix) kvsMaxSnapshots) }.enter j (.rotated c))
  | writeJson (j : Nat) (c : Collected base) (hj : s.stage j = .rotated c)
    (hparent : base.parentPath (snapFile s.store.filenamePrefix 0) ≠ "")
    (hs : s' = { s with
      disk := Disk.Step.apply s.disk (.write (snapFile s.store.filenamePrefix 0) c.buf) }.enter j
        (.written c))
  | refuse (j : Nat) (c : Collected base) (hj : s.stage j = .rotated c)
    (hparent : base.parentPath (snapFile s.store.filenamePrefix 0) = "")
    (hs : s' = s.enter j (.returned (.error .physicalStorageFailure)))
  | writeHash (j : Nat) (c : Collected base) (hj : s.stage j = .written c)
    (hs : s' = { s with
      disk := Disk.Step.apply s.disk
        (.write (hashFile s.store.filenamePrefix 0) (getHashBytes c.buf))
      succeeded := c.kvs :: s.succeeded }.enter j (.returned (.ok ())))

theorem effect {s s' : Flushes base} (h : s.step a = some s') : Effect s a s' := by
  cases a with
  | setValue ownsLock key value =>
    cases h
    exact .edit _ (Kvs.setValue_named ownsLock key value s.store) rfl
  | collect j ownsLock =>
    simp only [step] at h
    split at h
    · rename_i hj
      split at h
      · cases h
        exact .stay j _ (hj ▸ id) id rfl
      · cases h
        exact .stay j _ (hj ▸ id) id rfl
    · cases h
  | rotate j ownsLock =>
    simp only [step] at h
    split at h
    · rename_i c hj
      cases ownsLock with
      | false =>
        rw [Kvs.snapshotRotate_refused] at h
        cases h
        exact .stay j _ (hj ▸ id) id rfl
      | true =>
        rw [snapshotRotate_run] at h
        cases h
        exact .rotate j c rfl rfl
    · cases h
  | writeJson j =>
    simp only [step] at h
    split at h
    · rename_i c hj
      by_cases hparent : base.parentPath (snapFile s.store.filenamePrefix 0) = ""
      · rw [Kvs.writeJson_refused hparent] at h
        cases h
        exact .refuse j c hj hparent rfl
      · rw [Kvs.writeJson_run hparent] at h
        cases h
        exact .writeJson j c hj hparent rfl
    · cases h
  | writeHash j =>
    simp only [step] at h
    split at h
    · rename_i c hj
      rw [Kvs.writeHash_run] at h
      cases h
      exact .writeHash j c hj rfl
    · cases h

end Flushes

/-- A slot whose two files exist and belong together. -/
def Valid (p : String) (n : Nat) (disk : Fs) : Prop :=
  ∃ buf hash, disk (snapFile p n) = some buf ∧ disk (hashFile p n) = some hash ∧
    checkHash buf hash = true

theorem Valid.shift (h : Valid p n disk) (hn : n < kvsMaxSnapshots) :
    Valid p (n + 1)
      (Disk.replay disk (Disk.shiftUp (hashFile p) (snapFile p) kvsMaxSnapshots)) := by
  obtain ⟨buf, hash, hs, hh, hcheck⟩ := h
  obtain ⟨h₁, h₂⟩ := Disk.replay_shiftUp (families p) disk kvsMaxSnapshots (n + 1)
  rw [Disk.shifted_some (s := fun j => disk (hashFile p j)) hh hn] at h₁
  rw [Disk.shifted_some (s := fun j => disk (snapFile p j)) hs hn] at h₂
  exact ⟨buf, hash, h₂, h₁, hcheck⟩

theorem Valid.congr (h : Valid p n disk) (hs : disk' (snapFile p n) = disk (snapFile p n))
    (hh : disk' (hashFile p n) = disk (hashFile p n)) : Valid p n disk' := by
  obtain ⟨buf, hash, h₁, h₂, hcheck⟩ := h
  exact ⟨buf, hash, hs.trans h₁, hh.trans h₂, hcheck⟩

namespace Flushes

variable {base : Baselibs N} {p : String} {k : Nat} {s s' : Flushes base}

/-- The number of slots that are in order when `k` of them were at the start. -/
def kept (s : Flushes base) (k : Nat) : Nat := min (k + s.succeeded.length) (kvsMaxSnapshots + 1)

def Latest (s : Flushes base) (p : String) : Prop :=
  ∃ m ∈ s.succeeded, ∃ buf, Kvs.buffer base m = .ok buf ∧ s.disk (snapFile p 0) = some buf ∧
    s.disk (hashFile p 0) = some (getHashBytes buf)

/-- The slots while at most one flush is writing. -/
inductive Files (p : String) (k : Nat) (s : Flushes base) : Prop
  | quiet (hnone : ∀ j, ¬ (s.stage j).Writing)
    (hslots : ∀ n < s.kept k, Valid p n s.disk) (hlatest : s.succeeded ≠ [] → s.Latest p)
  | rotated (j : Nat) (c : Collected base) (hj : s.stage j = .rotated c)
    (hothers : ∀ j', j' ≠ j → ¬ (s.stage j').Writing)
    (hslots : ∀ n < min (s.kept k) kvsMaxSnapshots, Valid p (n + 1) s.disk)
  | written (j : Nat) (c : Collected base) (hj : s.stage j = .written c)
    (hothers : ∀ j', j' ≠ j → ¬ (s.stage j').Writing)
    (hslots : ∀ n < min (s.kept k) kvsMaxSnapshots, Valid p (n + 1) s.disk)
    (hsnap : s.disk (snapFile p 0) = some c.buf)

theorem enter_self (s : Flushes base) (j : Nat) (next : Stage base) :
    (s.enter j next).stage j = next := if_pos rfl

theorem enter_other (s : Flushes base) (next : Stage base) (hj : j' ≠ j) :
    (s.enter j next).stage j' = s.stage j' := if_neg hj

theorem Files.congr (h : s.Files p k) (hdisk : s'.disk = s.disk)
    (hsucceeded : s'.succeeded = s.succeeded)
    (hstage : ∀ j, (s.stage j).Writing ∨ (s'.stage j).Writing → s'.stage j = s.stage j) :
    s'.Files p k := by
  have hkept : s'.kept k = s.kept k := by rw [kept, kept, hsucceeded]
  have hnot (j : Nat) (hj : ¬ (s.stage j).Writing) : ¬ (s'.stage j).Writing :=
    fun hw => hj (hstage j (.inr hw) ▸ hw)
  cases h with
  | quiet hnone hslots hlatest =>
    apply Files.quiet fun j => hnot j (hnone j)
    · rwa [hkept, hdisk]
    · rw [Latest, hdisk, hsucceeded]
      exact hlatest
  | rotated j c hj hothers hslots =>
    refine .rotated j c ?_ (fun j' hne => hnot j' (hothers j' hne)) ?_
    · rw [hstage j (.inl (hj ▸ trivial)), hj]
    · rwa [hkept, hdisk]
  | written j c hj hothers hslots hsnap =>
    refine .written j c ?_ (fun j' hne => hnot j' (hothers j' hne)) ?_ (hdisk ▸ hsnap)
    · rw [hstage j (.inl (hj ▸ trivial)), hj]
    · rwa [hkept, hdisk]

theorem Files.enter (h : s.Files p k) (hold : ¬ (s.stage j).Writing) (hnew : ¬ next.Writing) :
    (s.enter j next).Files p k := by
  have hstage j' (hw : (s.stage j').Writing ∨ ((s.enter j next).stage j').Writing) :
      (s.enter j next).stage j' = s.stage j' := by
    by_cases hj : j' = j
    · subst hj
      rw [enter_self] at hw
      exact absurd hw (not_or.2 ⟨hold, hnew⟩)
    · exact s.enter_other next hj
  exact h.congr rfl rfl hstage

theorem Files.rotate (h : s.Files p k) (hnone : ∀ j, ¬ (s.stage j).Writing) (c : Collected base) :
    let disk := Disk.replay s.disk (Disk.shiftUp (hashFile p) (snapFile p) kvsMaxSnapshots)
    Files p k ({ s with disk }.enter j (.rotated c)) := by
  intro disk
  have hslots : ∀ n < s.kept k, Valid p n s.disk := by
    cases h with
    | quiet _ hslots _ => exact hslots
    | rotated j c hj _ _ => exact absurd (hj ▸ trivial) (hnone j)
    | written j c hj _ _ _ => exact absurd (hj ▸ trivial) (hnone j)
  apply Files.rotated j c (enter_self _ j _)
  · intro j' hj
    rw [enter_other _ _ hj]
    exact hnone j'
  · intro n hn
    rw [Nat.lt_min] at hn
    exact (hslots n hn.1).shift hn.2

theorem Files.writeJson (h : s.Files p k) (hj : s.stage j = .rotated c) :
    let disk := Disk.Step.apply s.disk (.write (snapFile p 0) c.buf)
    Files p k ({ s with disk }.enter j (.written c)) := by
  intro disk
  cases h with
  | quiet hnone _ _ => exact absurd (hj ▸ trivial) (hnone j)
  | written i c' hi hothers _ _ =>
    by_cases hij : j = i
    · subst hij
      cases hi.symm.trans hj
    · exact absurd (hj ▸ trivial) (hothers j hij)
  | rotated i c' hi hothers hslots =>
    have hij : j = i := by
      by_contra hne
      exact absurd (hj ▸ trivial) (hothers j hne)
    subst hij
    cases hi.symm.trans hj
    refine .written j c (enter_self _ j _) ?_ ?_ (if_pos rfl)
    · intro j' hne
      rw [enter_other _ _ hne]
      exact hothers j' hne
    · intro n hn
      apply (hslots n hn).congr
      · exact if_neg fun h0 => Nat.succ_ne_zero n ((families p).inj_right h0)
      · exact if_neg ((families p).disjoint _ _)

theorem Files.writeHash (h : s.Files p k) (hj : s.stage j = .written c) :
    let disk := Disk.Step.apply s.disk (.write (hashFile p 0) (getHashBytes c.buf))
    Files p k
      ({ s with disk, succeeded := c.kvs :: s.succeeded }.enter j (.returned (.ok ()))) := by
  intro disk
  cases h with
  | quiet hnone _ _ => exact absurd (hj ▸ trivial) (hnone j)
  | rotated i c' hi hothers _ =>
    by_cases hij : j = i
    · subst hij
      cases hi.symm.trans hj
    · exact absurd (hj ▸ trivial) (hothers j hij)
  | written i c' hi hothers hslots hsnap =>
    have hij : j = i := by
      by_contra hne
      exact absurd (hj ▸ trivial) (hothers j hne)
    subst hij
    cases hi.symm.trans hj
    have hsnap' : disk (snapFile p 0) = some c.buf :=
      (if_neg ((families p).disjoint _ _).symm).trans hsnap
    apply Files.quiet
    · intro j' hw
      by_cases hne : j' = j
      · subst hne
        rw [enter_self] at hw
        exact hw
      · rw [enter_other _ _ hne] at hw
        exact hothers j' hne hw
    · intro n hn
      cases n with
      | zero => exact ⟨c.buf, _, hsnap', if_pos rfl, checkHash_getHashBytes c.buf⟩
      | succ n =>
        have hlt : n < min (s.kept k) kvsMaxSnapshots := by
          change n + 1 < min (k + (s.succeeded.length + 1)) (kvsMaxSnapshots + 1) at hn
          rw [kept]
          omega
        apply (hslots n hlt).congr
        · exact if_neg ((families p).disjoint _ _).symm
        · exact if_neg fun h0 => Nat.succ_ne_zero n ((families p).inj_left h0)
    · exact fun _ => ⟨c.kvs, List.mem_cons_self, c.buf, c.buffer, hsnap', if_pos rfl⟩

structure Sound (p : String) (k : Nat) (s : Flushes base) : Prop where
  named : s.store.filenamePrefix = p
  files : s.Files p k

theorem Sound.step (h : s.Sound p k) (hparent : base.parentPath (snapFile p 0) ≠ "")
    (ha : s.Alone a) (hs : s.step a = some s') : s'.Sound p k := by
  obtain ⟨rfl, hfiles⟩ := h
  cases effect hs with
  | edit store hnamed hs =>
    subst hs
    exact ⟨hnamed, hfiles.congr rfl rfl fun _ _ => rfl⟩
  | stay j next hold hnew hs =>
    subst hs
    exact ⟨rfl, hfiles.enter hold hnew⟩
  | rotate j c hrotate heq =>
    subst hrotate heq
    exact ⟨rfl, hfiles.rotate ha c⟩
  | writeJson j c hj _ hs =>
    subst hs
    exact ⟨rfl, hfiles.writeJson hj⟩
  | refuse j c _ hrefuse _ => exact absurd hrefuse hparent
  | writeHash j c hj hs =>
    subst hs
    exact ⟨rfl, hfiles.writeHash hj⟩

structure Unwritten (p : String) (s : Flushes base) : Prop where
  named : s.store.filenamePrefix = p
  succeeded : s.succeeded = []
  stage : ∀ j c, s.stage j ≠ .written c

theorem Unwritten.enter (h : s.Unwritten p) (hnext : ∀ c, next ≠ .written c) (disk : Fs) :
    ({ s with disk }.enter j next).Unwritten p := by
  have hstage j' c : ({ s with disk }.enter j next).stage j' ≠ .written c := by
    by_cases hj : j' = j
    · subst hj
      rw [enter_self]
      exact hnext c
    · rw [enter_other _ _ hj]
      exact h.stage j' c
  exact ⟨h.named, h.succeeded, hstage⟩

theorem Unwritten.start (disk : Fs) (store : Kvs) :
    (Flushes.start base disk store).Unwritten store.filenamePrefix where
  named := rfl
  succeeded := rfl
  stage j c h := by cases h

theorem Unwritten.step (h : s.Unwritten p) (hparent : base.parentPath (snapFile p 0) = "")
    (hs : s.step a = some s') : s'.Unwritten p := by
  cases effect hs with
  | edit store hnamed hs =>
    subst hs
    exact ⟨hnamed.trans h.named, h.succeeded, h.stage⟩
  | stay j next hold hnew hs =>
    subst hs
    have hnext (c : Collected base) : next ≠ .written c := by
      rintro rfl
      exact hnew trivial
    exact h.enter hnext s.disk
  | rotate j c _ hs =>
    subst hs
    exact h.enter (by nofun) _
  | writeJson j c _ hwrite _ => exact absurd (h.named ▸ hparent) hwrite
  | refuse j c _ _ hs =>
    subst hs
    exact h.enter (by nofun) s.disk
  | writeHash j c hj _ => exact absurd hj (h.stage j c)

theorem Sound.start {store : Kvs} {disk : Fs} (h : ∀ n < k, Valid store.filenamePrefix n disk) :
    (Flushes.start base disk store).Sound store.filenamePrefix k where
  named := rfl
  files := by
    refine .quiet (fun _ => id) ?_ fun hne => absurd rfl hne
    intro n hn
    exact h n (Nat.lt_min.1 hn).1

/-- When every rotation runs alone and all flushes have returned, slot `0` loads as a map of a
successful flush, and the slots from the start and one for each success are there. -/
theorem exec_flushes {store : Kvs} {disk : Fs} (hbase : base.Lawful)
    (hvalid : ∀ n < k, Valid store.filenamePrefix n disk)
    (halone : Transition.Always Flushes.step Alone (Flushes.start base disk store) steps)
    (hrun : Transition.exec Flushes.step (Flushes.start base disk store) steps = some s)
    (hreturned : ∀ j, (s.stage j).Returned) (hsucceeded : 1 ≤ s.succeeded.length) :
    Valid store.filenamePrefix 0 s.disk ∧
      (∃ m ∈ s.succeeded,
        openJson base (store.filenamePrefix ++ "_0") .required s.disk = .ok m) ∧
      ∀ n < min (k + s.succeeded.length) (kvsMaxSnapshots + 1),
        Valid store.filenamePrefix n s.disk := by
  have hparent : base.parentPath (snapFile store.filenamePrefix 0) ≠ "" := by
    intro hparent
    have h := Transition.exec_invariant (I := Unwritten store.filenamePrefix)
      (fun _ _ _ h _ hs => h.step hparent hs) (.start disk store)
      (Transition.always_true _ steps) hrun
    rw [h.succeeded] at hsucceeded
    cases hsucceeded
  have h := Transition.exec_invariant (I := Sound store.filenamePrefix k)
    (fun _ _ _ h ha hs => h.step hparent ha hs) (.start hvalid) halone hrun
  have hne : s.succeeded ≠ [] := List.ne_nil_of_length_pos hsucceeded
  cases h.files with
  | rotated j c hj _ _ => exact absurd (hreturned j) (hj ▸ id)
  | written j c hj _ _ _ => exact absurd (hreturned j) (hj ▸ id)
  | quiet _ hslots hlatest =>
    obtain ⟨m, hm, buf, hbuf, hsnap, hhash⟩ := hlatest hne
    have hopen : openJson base (store.filenamePrefix ++ "_0") .required s.disk = .ok m := by
      rw [← hbase.parse_buffer hbuf, slotPrefix_zero]
      exact openJson_pair hsnap hhash
    have hzero : 0 < s.kept k := by
      rw [kept]
      omega
    exact ⟨hslots 0 hzero, ⟨m, hm, hopen⟩, hslots⟩

theorem step_collect (hj : s.stage j = .idle) (hbuf : Kvs.buffer base s.store.kvs = .ok buf) :
    s.step (.collect j true) = some (s.enter j (.collected ⟨s.store.kvs, buf, hbuf⟩)) := by
  simp only [step, hj]
  split
  · rename_i buf' h
    cases hbuf.symm.trans (Kvs.collectBuffer_ok h)
    rfl
  · rename_i e h
    cases hbuf.symm.trans h

theorem step_rotate (hj : s.stage j = .collected c) : s.step (.rotate j true) =
    some ({ s with
      disk := Disk.replay s.disk (Disk.shiftUp (hashFile s.store.filenamePrefix)
        (snapFile s.store.filenamePrefix) kvsMaxSnapshots) }.enter j (.rotated c)) := by
  simp only [step, hj, snapshotRotate_run]
  rfl

theorem step_writeJson (hj : s.stage j = .rotated c)
    (hparent : base.parentPath (snapFile s.store.filenamePrefix 0) ≠ "") :
    s.step (.writeJson j) = some ({ s with
      disk := Disk.Step.apply s.disk (.write (snapFile s.store.filenamePrefix 0) c.buf) }.enter j
        (.written c)) := by
  simp only [step, hj, Kvs.writeJson_run hparent]
  rfl

theorem step_writeHash (hj : s.stage j = .written c) : s.step (.writeHash j) =
    some ({ s with
      disk := Disk.Step.apply s.disk
        (.write (hashFile s.store.filenamePrefix 0) (getHashBytes c.buf))
      succeeded := c.kvs :: s.succeeded }.enter j (.returned (.ok ()))) := by
  simp only [step, hj, Kvs.writeHash_run]

/-- The steps of one caller in a row are a flush. -/
theorem exec_flush (hj : s.stage j = .idle)
    (hparent : base.parentPath (snapFile s.store.filenamePrefix 0) ≠ "")
    (hbuf : Kvs.buffer base s.store.kvs = .ok buf) :
    ∃ disk, (Kvs.flush base true true s.store).run s.disk = (.ok (), disk) ∧
      Transition.exec step s [.collect j true, .rotate j true, .writeJson j, .writeHash j] =
        some ({ s with disk, succeeded := s.store.kvs :: s.succeeded }.enter j
          (.returned (.ok ()))) := by
  refine ⟨_, flush_ok hparent hbuf, ?_⟩
  simp only [Transition.exec]
  rw [step_collect hj hbuf, Option.bind_some, step_rotate (enter_self _ _ _), Option.bind_some,
    step_writeJson (enter_self _ _ _), Option.bind_some, step_writeHash (enter_self _ _ _),
    Option.bind_some, flushSteps, Disk.replay_append]
  · congr 1
    simp only [enter]
    congr 1
    funext j'
    split <;> rfl
  · exact hparent

/-- The second caller collects while the first one writes, and rotates when it has written. -/
def twoFlushes : List FlushStep :=
  [.collect 0 true, .rotate 0 true, .writeJson 0, .collect 1 true, .writeHash 0, .rotate 1 true,
    .writeJson 1, .writeHash 1]

theorem twoFlushes_alone {disk : Fs} {store : Kvs}
    (hparent : base.parentPath (snapFile store.filenamePrefix 0) ≠ "")
    (hbuf : Kvs.buffer base store.kvs = .ok buf) :
    Transition.Always step Alone (start base disk store) twoFlushes := by
  refine Transition.always_cons trivial (step_collect rfl hbuf) ?_
  refine Transition.always_cons ?_ (step_rotate rfl) ?_
  · intro j
    by_cases h0 : j = 0
    · simp only [enter, h0, ↓reduceIte]
      exact id
    · simp only [enter, h0, ↓reduceIte]
      exact id
  refine Transition.always_cons trivial (step_writeJson rfl (by exact hparent)) ?_
  refine Transition.always_cons trivial (step_collect rfl (by exact hbuf)) ?_
  refine Transition.always_cons trivial (step_writeHash rfl) ?_
  refine Transition.always_cons ?_ (step_rotate rfl)
    ⟨trivial, fun _ _ => ⟨trivial, fun _ _ => trivial⟩⟩
  intro j
  by_cases h0 : j = 0
  · simp only [enter, h0, ↓reduceIte]
    exact id
  · by_cases h1 : j = 1
    · simp only [enter, h1, ↓reduceIte]
      exact id
    · simp only [enter, h0, h1, ↓reduceIte]
      exact id

theorem exec_twoFlushes {disk : Fs} {store : Kvs}
    (hparent : base.parentPath (snapFile store.filenamePrefix 0) ≠ "")
    (hbuf : Kvs.buffer base store.kvs = .ok buf) :
    ∃ s, Transition.exec step (start base disk store) twoFlushes = some s ∧
      (∀ j, (s.stage j).Returned) ∧ s.succeeded = [store.kvs, store.kvs] := by
  simp only [twoFlushes, Transition.exec]
  rw [step_collect (j := 0) rfl hbuf, Option.bind_some, step_rotate (j := 0) rfl, Option.bind_some,
    step_writeJson (j := 0) rfl, Option.bind_some, step_collect (j := 1) rfl hbuf,
    Option.bind_some, step_writeHash (j := 0) rfl, Option.bind_some, step_rotate (j := 1) rfl,
    Option.bind_some, step_writeJson (j := 1) rfl, Option.bind_some, step_writeHash (j := 1) rfl,
    Option.bind_some]
  · refine ⟨_, rfl, ?_, rfl⟩
    intro j
    by_cases h1 : j = 1
    · simp only [enter, h1, ↓reduceIte]
      trivial
    · by_cases h0 : j = 0
      · simp only [enter, h0, ↓reduceIte]
        trivial
      · simp only [enter, h0, h1, ↓reduceIte]
        trivial
  · exact hparent
  · exact hparent

section Runs

variable {write : Json (Int ⊕ Binary64) → String} {read : String → Option (Json (Int ⊕ Binary64))}

def ofAnswer (base : Baselibs N) : Flushes base :=
  start base (fun _ => none) ⟨answer, .empty, "/data/kvs_1"⟩

def filled : Fs := Disk.replay (fun _ => none) (slotSteps "/data/kvs_1" [0x7b, 0x7d])

theorem filled_valid : Valid "/data/kvs_1" 0 filled := by
  have hf := families "/data/kvs_1"
  refine ⟨[0x7b, 0x7d], getHashBytes [0x7b, 0x7d], ?_, ?_, checkHash_getHashBytes _⟩
  · simp only [filled, slotSteps, Disk.replay_cons, Disk.replay_nil, Disk.Step.apply,
      hf.symm.disjoint, ↓reduceIte]
  · simp only [filled, slotSteps, Disk.replay_cons, Disk.replay_nil, Disk.Step.apply, ↓reduceIte]

theorem exec_flushes_two : ∃ write read, (textBaselibs write read).Lawful ∧
    Kvs.buffer (textBaselibs write read) answer = .ok (utf8 answerText) ∧
    ∃ s, Transition.exec step (start (textBaselibs write read) filled
        ⟨answer, .empty, "/data/kvs_1"⟩) twoFlushes = some s ∧
      openJson (textBaselibs write read) ("/data/kvs_1" ++ "_0") .required s.disk = .ok answer ∧
      ∀ n < 3, Valid "/data/kvs_1" n s.disk := by
  obtain ⟨write, read, hbase, -, hanswer⟩ := exists_baselibs answer answerText
  refine ⟨write, read, hbase, hanswer, ?_⟩
  have hslots (n : Nat) (hn : n < 1) : Valid "/data/kvs_1" n filled := by
    rw [Nat.lt_one_iff.1 hn]
    exact filled_valid
  have halone := @twoFlushes_alone _ (textBaselibs write read) _ filled
    ⟨answer, .empty, "/data/kvs_1"⟩ parentPath_data hanswer
  obtain ⟨s, hrun, hreturned, hsucceeded⟩ := @exec_twoFlushes _ (textBaselibs write read) _ filled
    ⟨answer, .empty, "/data/kvs_1"⟩ parentPath_data hanswer
  obtain ⟨-, ⟨m, hm, hopen⟩, hvalid⟩ := @exec_flushes _ _ 1 s _ ⟨answer, .empty, "/data/kvs_1"⟩
    filled hbase hslots halone hrun hreturned (by rw [hsucceeded]; exact one_le_two)
  rw [hsucceeded] at hm hvalid
  have hanswers : m = answer := by
    simpa using hm
  rw [hanswers] at hopen
  exact ⟨s, hrun, hopen, hvalid⟩

theorem rotations_snap (p : String) (disk : Fs) :
    Disk.replay (Disk.replay disk (Disk.shiftUp (hashFile p) (snapFile p) kvsMaxSnapshots))
      (Disk.shiftUp (hashFile p) (snapFile p) kvsMaxSnapshots) (snapFile p 1) = none := by
  rw [(Disk.replay_shiftUp (families p) _ kvsMaxSnapshots 1).2]
  exact (Disk.replay_shiftUp (families p) disk kvsMaxSnapshots 0).2

/-- Two flushes that both rotate before either writes leave no slot `1`. -/
theorem exec_rotations : ∃ write read, (textBaselibs write read).Lawful ∧
    Kvs.buffer (textBaselibs write read) answer = .ok (utf8 answerText) ∧
    ∃ s, Transition.exec step (ofAnswer (textBaselibs write read))
        [.collect 0 true, .collect 1 true, .rotate 0 true, .rotate 1 true, .writeJson 0,
          .writeHash 0, .writeJson 1, .writeHash 1] = some s ∧
      (∀ j, (s.stage j).Returned) ∧ s.succeeded.length = 2 ∧ ¬ Valid "/data/kvs_1" 1 s.disk := by
  obtain ⟨write, read, hbase, -, hanswer⟩ := exists_baselibs answer answerText
  refine ⟨write, read, hbase, hanswer, ?_⟩
  simp only [Transition.exec]
  rw [step_collect (s := ofAnswer (textBaselibs write read)) rfl hanswer, Option.bind_some,
    step_collect (j := 1) rfl hanswer, Option.bind_some,
    step_rotate (j := 0) rfl, Option.bind_some, step_rotate (j := 1) rfl, Option.bind_some,
    step_writeJson (j := 0) rfl parentPath_data, Option.bind_some, step_writeHash (j := 0) rfl,
    Option.bind_some, step_writeJson (j := 1) rfl parentPath_data, Option.bind_some,
    step_writeHash (j := 1) rfl, Option.bind_some]
  refine ⟨_, rfl, ?_, rfl, ?_⟩
  · intro j
    simp only [enter]
    split
    · trivial
    · split
      · trivial
      · trivial
  · rintro ⟨buf, hash, hsnap, -⟩
    have hf := families "/data/kvs_1"
    simp only [enter, ofAnswer, start, Disk.Step.apply, hf.inj_right.eq_iff, hf.symm.disjoint,
      Nat.one_ne_zero, ↓reduceIte] at hsnap
    cases (rotations_snap _ _).symm.trans hsnap

end Runs

end Flushes

end Persistency.Cpp
