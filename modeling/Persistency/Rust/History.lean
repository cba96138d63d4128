import Persistency.Rust.Store

namespace Persistency.Rust
set_option autoImplicit true

/-- The abstract store: the current map, the defaults, and the flushed maps that are kept, the
latest one first. -/
structure History where
  cur : KvsMap
  defaults : KvsMap
  hist : List KvsMap

namespace History

def start : History := ⟨.empty, .empty, []⟩

def overlay (s : History) (key : String) : Option KvsValue :=
  (s.cur.get? key).or (s.defaults.get? key)

/-- The reply of a call and the state after it; there is no reply when the call fails. -/
def call (max : Nat) (s : History) : Call → History × Option Answer
  | .reset => ({ s with cur := .empty }, some .unit)
  | .resetKey key =>
    if key ∈ s.defaults.keys then ({ s with cur := s.cur.remove key }, some .unit) else (s, none)
  | .getAllKeys => (s, some (.keys s.cur.keys))
  | .keyExists key => (s, some (.boolean (decide (key ∈ s.cur.keys))))
  | .getValue key => (s, (s.overlay key).map .value)
  | .getValueAs target key => (s, ((s.overlay key).bind (tryFrom target)).map .value)
  | .getDefaultValue key => (s, (s.defaults.get? key).map .value)
  | .isValueDefault key =>
    (s, (s.overlay key).map fun _ => .boolean (decide (key ∉ s.cur.keys)))
  | .setValue key value => ({ s with cur := s.cur.insert key value }, some .unit)
  | .removeKey key =>
    if key ∈ s.cur.keys then ({ s with cur := s.cur.remove key }, some .unit) else (s, none)
  | .flush => ({ s with hist := (s.cur :: s.hist).take max }, some .unit)
  | .snapshotCount => (s, some (.count s.hist.length))
  | .snapshotMaxCount => (s, some (.count max))
  | .snapshotRestore id =>
    if h : 1 ≤ id ∧ id < s.hist.length then ({ s with cur := s.hist.get ⟨id, h.2⟩ }, some .unit)
    else (s, none)

def step (max : Nat) (s : History) : Action c → History × Option Answer
  | .call request => s.call max request
  | .restart defaults => (⟨s.hist.head?.getD .empty, defaults.map, s.hist⟩, some .unit)

theorem step_error (max : Nat) (s : History) (a : Action c) (h : (s.step max a).2 = none) :
    (s.step max a).1 = s := by
  cases a with
  | restart defaults => cases h
  | call request =>
    cases request with
    | resetKey key | removeKey key =>
      simp only [step, call] at h ⊢
      split at h
      · cases h
      · rename_i hk
        rw [if_neg hk]
    | snapshotRestore id =>
      simp only [step, call] at h ⊢
      split at h
      · cases h
      · rename_i hid
        rw [dif_neg hid]
    | reset | setValue key value | flush => cases h
    | _ => rfl

end History

end Persistency.Rust
