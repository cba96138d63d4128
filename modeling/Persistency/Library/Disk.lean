import Mathlib.Logic.Function.Basic
import Mathlib.Data.List.Basic

set_option autoImplicit true

/-- The files of a directory tree; an absent file has no contents. -/
abbrev Disk (P B : Type) := P → Option B

namespace Disk

inductive Step (P B : Type) where
  | write (p : P) (b : B)
  | rename (src dst : P)

variable {P B : Type} [DecidableEq P]

def Step.apply (d : Disk P B) : Step P B → Disk P B
  | .write p b => fun q => if q = p then some b else d q
  | .rename src dst =>
    if (d src).isSome then fun q => if q = dst then d src else if q = src then none else d q
    else d

def replay (d : Disk P B) (steps : List (Step P B)) : Disk P B := steps.foldl Step.apply d

@[simp] theorem replay_nil (d : Disk P B) : replay d [] = d := rfl

@[simp] theorem replay_cons (d : Disk P B) (s : Step P B) (steps : List (Step P B)) :
    replay d (s :: steps) = replay (s.apply d) steps := rfl

theorem replay_append (d : Disk P B) (steps steps' : List (Step P B)) :
    replay d (steps ++ steps') = replay (replay d steps) steps' := List.foldl_append

def Step.map (f : B → C) : Step P B → Step P C
  | .write p b => .write p (f b)
  | .rename src dst => .rename src dst

/-- What a failed step does: a write can leave other contents in its file, a rename does nothing. -/
def Step.spoiled : Option B → Option (Step P B) → List (Step P B)
  | some b, some (.write p _) => [.write p b]
  | _, _ => []

def Step.Touches (p : P) : Step P B → Prop
  | .write q _ => p = q
  | .rename src dst => p = src ∨ p = dst

theorem Step.apply_frame (s : Step P B) (d : Disk P B) (h : ¬ s.Touches p) :
    s.apply d p = d p := by
  cases s with
  | write q b => exact if_neg h
  | rename src dst =>
    rw [Step.Touches, not_or] at h
    simp only [Step.apply]
    split
    · simp only [if_neg h.1, if_neg h.2]
    · rfl

theorem replay_frame (steps : List (Step P B)) (d : Disk P B)
    (h : ∀ s ∈ steps, ¬ s.Touches p) : replay d steps p = d p := by
  induction steps generalizing d with
  | nil => rfl
  | cons s steps ih =>
    rw [replay_cons, ih _ fun t ht => h t (List.mem_cons_of_mem s ht)]
    exact s.apply_frame d (h s List.mem_cons_self)

/-- A program over a disk. It returns a result and the journal of the steps that it made, also
when it fails: the disk that it leaves is the replay of its journal. -/
def Prog (P B ε α : Type) := Disk P B → Except ε α × List (Step P B)

namespace Prog

variable {ε α β : Type}

protected def pure (a : α) : Prog P B ε α := fun _ => (.ok a, [])

protected def bind (m : Prog P B ε α) (f : α → Prog P B ε β) : Prog P B ε β := fun d =>
  match m d with
  | (.ok a, js) => ((f a (replay d js)).1, js ++ (f a (replay d js)).2)
  | (.error e, js) => (.error e, js)

instance : Monad (Prog P B ε) where
  pure := Prog.pure
  bind := Prog.bind

def query (f : Disk P B → Except ε α) : Prog P B ε α := fun d => (f d, [])

def throw (e : ε) : Prog P B ε α := fun _ => (.error e, [])

def «exists» (p : P) : Prog P B ε Bool := query fun d => .ok (d p).isSome

def write (p : P) (b : B) : Prog P B ε Unit := fun _ => (.ok (), [.write p b])

/-- Renaming reports whether there was a source to rename; nothing happens when there was not. -/
def rename (src dst : P) : Prog P B ε Bool := fun d =>
  if (d src).isSome then (.ok true, [.rename src dst]) else (.ok false, [])

def run (m : Prog P B ε α) (d : Disk P B) : Except ε α × Disk P B :=
  ((m d).1, replay d (m d).2)

/-- The disk left behind when the program is cut after its first `n` steps. -/
def crash (n : Nat) (m : Prog P B ε α) (d : Disk P B) : Disk P B := replay d ((m d).2.take n)

omit [DecidableEq P] in
theorem query_apply (f : Disk P B → Except ε α) (d : Disk P B) : query f d = (f d, []) := rfl

theorem bind_ok {m : Prog P B ε α} {f : α → Prog P B ε β} (h : m d = (.ok a, js)) :
    (m >>= f) d = ((f a (replay d js)).1, js ++ (f a (replay d js)).2) := by
  change Prog.bind m f d = _
  simp only [Prog.bind, h]

theorem bind_error {m : Prog P B ε α} {f : α → Prog P B ε β} (h : m d = (.error e, js)) :
    (m >>= f) d = (.error e, js) := by
  change Prog.bind m f d = _
  simp only [Prog.bind, h]

theorem bind_query {f : Disk P B → Except ε α} {g : α → Prog P B ε β} (h : f d = .ok a) :
    (query f >>= g) d = g a d := by
  rw [bind_ok (show query f d = (.ok a, []) by rw [query_apply, h])]
  rfl

theorem query_bind (f : Disk P B → Except ε α) (g : α → Disk P B → Except ε β) :
    (query f >>= fun a => query (g a)) = query fun d => f d >>= fun a => g a d := by
  funext d
  cases h : f d with
  | ok a =>
    rw [bind_query h, query_apply, query_apply, h]
    rfl
  | error e =>
    rw [bind_error (show query f d = (.error e, []) by rw [query_apply, h]), query_apply, h]
    rfl

theorem run_bind {m : Prog P B ε α} {f : α → Prog P B ε β} (h : m.run d = (.ok a, d')) :
    (m >>= f).run d = (f a).run d' := by
  obtain ⟨hr, hd⟩ := Prod.mk.inj h
  rw [run, bind_ok (Prod.ext hr rfl), replay_append, hd]
  rfl

theorem run_bind_error {m : Prog P B ε α} {f : α → Prog P B ε β}
    (h : m.run d = (.error e, d')) : (m >>= f).run d = (.error e, d') := by
  obtain ⟨hr, hd⟩ := Prod.mk.inj h
  rw [run, bind_error (Prod.ext hr rfl), hd]

theorem run_query (f : Disk P B → Except ε α) (d : Disk P B) : (query f).run d = (f d, d) := rfl

theorem run_write (p : P) (b : B) (d : Disk P B) :
    (write p b : Prog P B ε Unit).run d = (.ok (), Step.apply d (.write p b)) := rfl

theorem run_rename (src dst : P) (d : Disk P B) : (rename src dst : Prog P B ε Bool).run d =
    (.ok (d src).isSome, Step.apply d (.rename src dst)) := by
  cases hs : (d src).isSome with
  | true => simp only [run, rename, hs, ↓reduceIte, replay_cons, replay_nil]
  | false =>
    simp only [run, rename, Step.apply, hs, Bool.false_eq_true, ↓reduceIte, replay_nil]

omit [DecidableEq P] in
theorem rename_present (h : (d src).isSome = true) :
    (rename src dst : Prog P B ε Bool) d = (.ok true, [.rename src dst]) := by
  simp only [rename, h, ↓reduceIte]

/-- The disk left behind when step `n` fails. -/
def fail (n : Nat) (left : Option B) (m : Prog P B ε α) (d : Disk P B) : Disk P B :=
  replay d ((m d).2.take n ++ Step.spoiled left (m d).2[n]?)

/-- On every disk, the program touches files in `S` only. -/
def Within (S : P → Prop) (m : Prog P B ε α) : Prop :=
  ∀ d, ∀ s ∈ (m d).2, ∀ p, s.Touches p → S p

section Within

variable {S : P → Prop} {m : Prog P B ε α}

omit [DecidableEq P] in
theorem within_query (f : Disk P B → Except ε α) : Within S (query f) := nofun

omit [DecidableEq P] in
theorem within_exists (p : P) : Within S («exists» p : Prog P B ε Bool) := nofun

omit [DecidableEq P] in
theorem within_throw (e : ε) : Within S (throw e : Prog P B ε α) := nofun

theorem within_pure (a : α) : Within S (pure a : Prog P B ε α) := nofun

omit [DecidableEq P] in
theorem within_write (hp : S p) (b : B) : Within S (write p b : Prog P B ε Unit) := by
  intro d s hs q hq
  cases List.mem_singleton.1 hs
  cases hq
  exact hp

omit [DecidableEq P] in
theorem within_rename (hsrc : S src) (hdst : S dst) :
    Within S (rename src dst : Prog P B ε Bool) := by
  intro d s hs q hq
  simp only [rename] at hs
  split at hs
  · cases List.mem_singleton.1 hs
    rcases hq with rfl | rfl
    · exact hsrc
    · exact hdst
  · cases hs

theorem Within.bind {f : α → Prog P B ε β} (hm : Within S m) (hf : ∀ a, Within S (f a)) :
    Within S (m >>= f) := by
  intro d s hs p hp
  cases h : m d with
  | mk r js =>
    have hjs : ∀ s ∈ js, ∀ p, s.Touches p → S p := by
      intro s hs
      exact hm d s (by rwa [h])
    cases r with
    | ok a =>
      rw [bind_ok h] at hs
      rcases List.mem_append.1 hs with hs | hs
      · exact hjs s hs p hp
      · exact hf a _ s hs p hp
    | error e =>
      rw [bind_error h] at hs
      exact hjs s hs p hp

theorem Within.run_frame (hm : Within S m) (hp : ¬ S p) (d : Disk P B) : (m.run d).2 p = d p :=
  replay_frame _ d fun s hs ht => hp (hm d s hs p ht)

theorem Within.crash_frame (hm : Within S m) (hp : ¬ S p) (n : Nat) (d : Disk P B) :
    m.crash n d p = d p :=
  replay_frame _ d fun s hs ht => hp (hm d s (List.mem_of_mem_take hs) p ht)

theorem Within.fail_frame (hm : Within S m) (hp : ¬ S p) (n : Nat) (left : Option B)
    (d : Disk P B) : m.fail n left d p = d p := by
  apply replay_frame
  intro s hs ht
  rcases List.mem_append.1 hs with htake | hlast
  · exact hp (hm d s (List.mem_of_mem_take htake) p ht)
  · unfold Step.spoiled at hlast
    split at hlast
    · rename_i b q b' hn
      cases List.mem_singleton.1 hlast
      exact hp (hm d _ (List.mem_of_getElem? hn) p ht)
    · cases hlast

end Within

end Prog

section Shift

variable (a b : Nat → P)

/-- Both families moved up, file `n` to `n + 1` down to file `0` to `1`. -/
def shiftUp : Nat → List (Step P B)
  | 0 => []
  | n + 1 => .rename (a n) (a (n + 1)) :: .rename (b n) (b (n + 1)) :: shiftUp n

structure Families : Prop where
  inj_left : Function.Injective a
  inj_right : Function.Injective b
  disjoint : ∀ i j, a i ≠ b j

/-- The contents of a family after its files `0..n` are moved up to `1..n+1`; a missing file
leaves the target alone. -/
def shifted (n : Nat) (s : Nat → Option B) (i : Nat) : Option B :=
  if n < i ∨ n = 0 then s i
  else if i = 0 then none
  else if i = n then (s (n - 1)).or (s n)
  else s (i - 1)

variable {a b}

omit [DecidableEq P] in
theorem Families.symm (h : Families a b) : Families b a :=
  ⟨h.inj_right, h.inj_left, fun i j he => h.disjoint j i he.symm⟩

omit [DecidableEq P] in
theorem shiftUp_touches (h : s ∈ (shiftUp a b n : List (Step P B))) (ht : s.Touches p) :
    ∃ i, i ≤ n ∧ (p = a i ∨ p = b i) := by
  induction n with
  | zero => simp only [shiftUp, List.not_mem_nil] at h
  | succ n ih =>
    rw [shiftUp, List.mem_cons, List.mem_cons] at h
    rcases h with rfl | rfl | h
    · rcases ht with ht | ht
      · exact ⟨n, by omega, .inl ht⟩
      · exact ⟨n + 1, by omega, .inl ht⟩
    · rcases ht with ht | ht
      · exact ⟨n, by omega, .inr ht⟩
      · exact ⟨n + 1, by omega, .inr ht⟩
    · obtain ⟨i, hi, hp⟩ := ih h
      exact ⟨i, by omega, hp⟩

omit [DecidableEq P] in
theorem spoiled_shiftUp (left : Option B) (n i : Nat) :
    Step.spoiled left (shiftUp a b n : List (Step P B))[i]? = [] := by
  induction n generalizing i with
  | zero => cases left <;> rfl
  | succ n ih =>
    cases i with
    | zero => cases left <;> rfl
    | succ i =>
      cases i with
      | zero => cases left <;> rfl
      | succ i => exact ih i

omit [DecidableEq P] in
theorem shiftUp_succ (n : Nat) : (shiftUp a b (n + 1) : List (Step P B)) =
    shiftUp (fun i => a (i + 1)) (fun i => b (i + 1)) n ++
      [.rename (a 0) (a 1), .rename (b 0) (b 1)] := by
  induction n with
  | zero => rfl
  | succ n ih => rw [shiftUp, ih]; rfl

omit [DecidableEq P] in
theorem shiftUp_length (n : Nat) : (shiftUp a b n : List (Step P B)).length = 2 * n := by
  induction n with
  | zero => rfl
  | succ n ih => rw [shiftUp, List.length_cons, List.length_cons, ih]; rfl

theorem replay_shiftUp_frame (d : Disk P B) (ha : ∀ i, p ≠ a i) (hb : ∀ i, p ≠ b i) :
    replay d (shiftUp a b n) p = d p := by
  apply replay_frame
  intro s hs ht
  obtain ⟨i, -, hp⟩ := shiftUp_touches hs ht
  exact hp.elim (ha i) (hb i)

theorem apply_rename (d : Disk P B) (src dst q : P) :
    Step.apply d (.rename src dst) q =
      if q = dst then (d src).or (d dst) else if q = src then none else d q := by
  simp only [Step.apply]
  cases hd : d src with
  | none =>
    simp only [Option.isSome_none, Bool.false_eq_true, ↓reduceIte, Option.none_or]
    split
    · rename_i hq
      rw [hq]
    · split
      · rename_i hq
        rw [hq, hd]
      · rfl
  | some c => simp only [Option.isSome_some, ↓reduceIte, Option.some_or]

theorem replay_shiftUp (h : Families a b) (d : Disk P B) (n i : Nat) :
    replay d (shiftUp a b n) (a i) = shifted n (fun j => d (a j)) i ∧
      replay d (shiftUp a b n) (b i) = shifted n (fun j => d (b j)) i := by
  induction n generalizing d with
  | zero => simp only [shiftUp, replay_nil, shifted, or_true, ↓reduceIte, and_self]
  | succ n ih =>
    rw [shiftUp, replay_cons, replay_cons]
    -- the two renames of this round, as seen from each family
    have hd (j : Nat) : Step.apply (Step.apply d (.rename (a n) (a (n + 1))))
        (.rename (b n) (b (n + 1))) (a j) =
          if j = n + 1 then (d (a n)).or (d (a (n + 1))) else if j = n then none else d (a j) := by
      rw [apply_rename, if_neg (h.disjoint _ _), if_neg (h.disjoint _ _), apply_rename]
      simp only [h.inj_left.eq_iff]
    have hd' (j : Nat) : Step.apply (Step.apply d (.rename (a n) (a (n + 1))))
        (.rename (b n) (b (n + 1))) (b j) =
          if j = n + 1 then (d (b n)).or (d (b (n + 1))) else if j = n then none else d (b j) := by
      have hf (k : Nat) : Step.apply d (.rename (a n) (a (n + 1))) (b k) = d (b k) := by
        rw [apply_rename, if_neg (h.disjoint _ _).symm, if_neg (h.disjoint _ _).symm]
      rw [apply_rename]
      simp only [hf, h.inj_right.eq_iff]
    obtain ⟨iha, ihb⟩ := ih (Step.apply (Step.apply d (.rename (a n) (a (n + 1))))
      (.rename (b n) (b (n + 1))))
    rw [iha, ihb]
    simp only [shifted, hd, hd']
    constructor <;> grind

theorem shifted_some {s : Nat → Option B} (h : s i = some c) (hi : i < n) :
    shifted n s (i + 1) = some c := by
  have hn : ¬ (n < i + 1 ∨ n = 0) := by omega
  rw [shifted, if_neg hn, if_neg (Nat.succ_ne_zero i), Nat.add_sub_cancel, h]
  split
  · rename_i he
    rw [← he, Nat.add_sub_cancel, h]
    rfl
  · rfl

omit [DecidableEq P] in
theorem map_shiftUp (f : B → C) (n : Nat) :
    (shiftUp a b n : List (Step P B)).map (Step.map f) = shiftUp a b n := by
  induction n with
  | zero => rfl
  | succ n ih => rw [shiftUp, List.map_cons, List.map_cons, ih]; rfl

theorem shifted_eraseIdx (l : List α) (f : α → B) (x : α) (n i : Nat) :
    (if i = 0 then some (f x) else shifted n (fun j => l[j]?.map f) i) =
      (x :: l.eraseIdx n)[i]?.map f := by
  cases i with
  | zero => rfl
  | succ i =>
    simp only [shifted, Nat.add_one_ne_zero, ↓reduceIte, List.getElem?_cons_succ,
      List.getElem?_eraseIdx]
    grind

/-- The files of both families hold the entries of a list, and no others are present. -/
structure Holds (a b : Nat → P) (f g : α → B) (l : List α) (d : Disk P B) : Prop where
  left : ∀ i, d (a i) = l[i]?.map f
  right : ∀ i, d (b i) = l[i]?.map g

/-- A rotation: the first `n` entries move up, over entry `n`, and a new entry is written. -/
theorem Holds.rotate {f g : α → B} {d : Disk P B} (hd : Holds a b f g l d) (h : Families a b)
    (n : Nat) (x : α) :
    Holds a b f g (x :: l.eraseIdx n)
      (replay d (shiftUp a b n ++ [.write (b 0) (g x), .write (a 0) (f x)])) where
  left i := by
    rw [← shifted_eraseIdx, replay_append, ← funext hd.left]
    simp only [replay_cons, replay_nil, Step.apply, h.inj_left.eq_iff, if_neg (h.disjoint _ _),
      (replay_shiftUp h d n i).1]
  right i := by
    rw [← shifted_eraseIdx, replay_append, ← funext hd.right]
    simp only [replay_cons, replay_nil, Step.apply, h.inj_right.eq_iff,
      if_neg (h.disjoint _ _).symm, (replay_shiftUp h d n i).2]

theorem cons_eraseIdx (x : α) (hl : l.length ≤ n + 1) :
    x :: l.eraseIdx n = (x :: l).take (n + 1) := by
  rw [List.eraseIdx_eq_take_drop_succ, List.drop_of_length_le hl, List.append_nil,
    List.take_succ_cons]

theorem shifted_zero (s : Nat → Option B) (n : Nat) : shifted (n + 1) s 0 = none := rfl

theorem shifted_eq_self_iff (s : Nat → Option B) (n : Nat) :
    shifted n s = s ↔ ∀ i < n, s i = none := by
  apply Iff.intro
  · intro h i hi
    induction i with
    | zero =>
      obtain ⟨n, rfl⟩ := Nat.exists_eq_add_of_lt hi
      rw [← h, Nat.zero_add, shifted_zero]
    | succ i ih =>
      have hmoved : shifted n s (i + 1) = s i := by
        rw [shifted, if_neg (by omega), if_neg (Nat.succ_ne_zero i), if_neg (Nat.ne_of_lt hi),
          Nat.add_sub_cancel]
      rw [← h, hmoved]
      exact ih (Nat.lt_of_succ_lt hi)
  · intro h
    funext i
    unfold shifted
    split
    · rfl
    · rename_i hn
      split
      · rename_i h0
        rw [h i (by omega)]
      · split
        · rename_i hi
          rw [h (n - 1) (by omega), Option.none_or, hi]
        · rw [h (i - 1) (by omega), h i (by omega)]

theorem replay_shiftUp_eq_self_iff (h : Families a b) (d : Disk P B) (n : Nat) :
    replay d (shiftUp a b n) = d ↔ ∀ i < n, d (a i) = none ∧ d (b i) = none := by
  have ha : (fun i => replay d (shiftUp a b n) (a i)) = shifted n fun j => d (a j) :=
    funext fun i => (replay_shiftUp h d n i).1
  have hb : (fun i => replay d (shiftUp a b n) (b i)) = shifted n fun j => d (b j) :=
    funext fun i => (replay_shiftUp h d n i).2
  apply Iff.intro
  · intro hd i hi
    rw [hd] at ha hb
    exact ⟨(shifted_eq_self_iff _ n).1 ha.symm i hi, (shifted_eq_self_iff _ n).1 hb.symm i hi⟩
  · intro hd
    have ha' := (shifted_eq_self_iff (fun j => d (a j)) n).2 fun i hi => (hd i hi).1
    have hb' := (shifted_eq_self_iff (fun j => d (b j)) n).2 fun i hi => (hd i hi).2
    funext p
    by_cases hpa : ∃ i, p = a i
    · obtain ⟨i, rfl⟩ := hpa
      exact congrFun (ha.trans ha') i
    · by_cases hpb : ∃ i, p = b i
      · obtain ⟨i, rfl⟩ := hpb
        exact congrFun (hb.trans hb') i
      · exact replay_shiftUp_frame d (not_exists.1 hpa) (not_exists.1 hpb)

/-- The files of both families hold the entries of a table, and no others are present. -/
structure Table (a b : Nat → P) (f g : α → B) (l : Nat → Option α) (d : Disk P B) : Prop where
  left : ∀ i, d (a i) = (l i).map f
  right : ∀ i, d (b i) = (l i).map g

omit [DecidableEq P] in
theorem Table.symm {f g : α → B} {d : Disk P B} (hd : Table a b f g l d) : Table b a g f l d :=
  ⟨hd.right, hd.left⟩

theorem shifted_map (f : α → B) (n : Nat) (l : Nat → Option α) (i : Nat) :
    shifted n (fun j => (l j).map f) i = (shifted n l i).map f := by
  simp only [shifted]
  split
  · rfl
  · split
    · rfl
    · split
      · cases l (n - 1) <;> rfl
      · rfl

theorem shifted_rel {R : α → β → Prop} {l : Nat → Option α} {l' : Nat → Option β}
    (h : ∀ i, Option.Rel R (l i) (l' i)) (n i : Nat) :
    Option.Rel R (shifted n l i) (shifted n l' i) := by
  simp only [shifted]
  split
  · exact h i
  · split
    · exact .none
    · split
      · have hprev := h (n - 1)
        generalize l (n - 1) = x at hprev
        generalize l' (n - 1) = y at hprev
        cases hprev with
        | some hxy => exact .some hxy
        | none => exact h n
      · exact h (i - 1)

theorem Table.shift {f g : α → B} {d : Disk P B} (hd : Table a b f g l d) (h : Families a b)
    (n : Nat) : Table a b f g (shifted n l) (replay d (shiftUp a b n)) where
  left i := by rw [(replay_shiftUp h d n i).1, ← shifted_map, ← funext hd.left]
  right i := by rw [(replay_shiftUp h d n i).2, ← shifted_map, ← funext hd.right]

theorem update_map (f : α → B) (l : Nat → Option α) (i : Nat) (x : Option α) (j : Nat) :
    (Function.update l i x j).map f = if j = i then x.map f else (l j).map f := by
  rw [Function.update_apply, apply_ite (Option.map f)]

theorem Table.write_right {f g : α → B} {d : Disk P B} (hd : Table a b f g l d)
    (h : Families a b) (hi : l i = some x) (hf : f y = f x) :
    Table a b f g (Function.update l i (some y)) (Step.apply d (.write (b i) (g y))) where
  left j := by
    have hne : a j ≠ b i := h.disjoint j i
    simp only [Step.apply, if_neg hne, hd.left, update_map]
    by_cases hj : j = i
    · rw [if_pos hj, hj, hi, Option.map_some, Option.map_some, hf]
    · rw [if_neg hj]
  right j := by
    simp only [Step.apply, h.inj_right.eq_iff, hd.right, update_map, Option.map_some]

theorem Table.write {f g : α → B} {d : Disk P B} (hd : Table a b f g l d) (h : Families a b)
    (i : Nat) (x : α) :
    Table a b f g (Function.update l i (some x))
      (replay d [.write (b i) (g x), .write (a i) (f x)]) where
  left j := by
    simp only [replay_cons, replay_nil, Step.apply, h.inj_left.eq_iff, if_neg (h.disjoint _ _),
      hd.left, update_map, Option.map_some]
  right j := by
    simp only [replay_cons, replay_nil, Step.apply, h.inj_right.eq_iff,
      if_neg (h.disjoint _ _).symm, hd.right, update_map, Option.map_some]

theorem Table.remove {f g : α → B} {d : Disk P B} (hd : Table a b f g l d) (h : Families a b)
    (i : Nat) :
    Table a b f g (Function.update l i none)
      (fun p => if p = a i ∨ p = b i then none else d p) where
  left j := by
    simp only [h.inj_left.eq_iff, h.disjoint, or_false, hd.left, update_map, Option.map_none]
  right j := by
    simp only [h.inj_right.eq_iff, (h.disjoint _ _).symm, false_or, hd.right, update_map,
      Option.map_none]

end Shift

end Disk
