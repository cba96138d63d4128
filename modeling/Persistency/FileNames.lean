import Mathlib

namespace Persistency.FileNames
set_option autoImplicit true

theorem numbered_injective (base ext : String) :
    Function.Injective fun n : Nat => base ++ n.repr ++ ext := by
  intro n n' h
  simp only [String.append_left_inj, String.append_right_inj] at h
  exact Nat.repr_injective h

theorem json_ne_hash (a b : String) : a ++ ".json" ≠ b ++ ".hash" := by
  intro h
  have hl := congrArg (fun s => s.toList.getLast?) h
  simp at hl

theorem repr_ne_default (n : Nat) : n.repr ≠ "default" := by
  intro h
  have hl := congrArg String.toList h
  have hd := Nat.isDigit_of_mem_toDigits (b := 10) (n := n) (c := 'd') (by decide) (by decide)
  simp only [Nat.repr, String.toList_ofList] at hl
  rw [hl] at hd
  exact absurd (hd (by decide)) (by decide)

theorem numbered_ne_default (base : String) (n : Nat) (ext : String) :
    base ++ "_" ++ n.repr ++ ext ≠ base ++ "_default" ++ ext := by
  intro h
  have he : "_default" = "_" ++ "default" := rfl
  rw [he, ← String.append_assoc, String.append_left_inj, String.append_right_inj] at h
  exact repr_ne_default n h

theorem append_cons_inj {a : α} (hl : a ∉ l) (hl' : a ∉ l') (h : l ++ a :: r = l' ++ a :: r') :
    l = l' ∧ r = r' := by
  induction l generalizing l' with
  | nil =>
    cases l' with
    | nil => exact ⟨rfl, (List.cons.inj h).2⟩
    | cons b l' =>
      obtain ⟨rfl, -⟩ := List.cons.inj h
      exact absurd List.mem_cons_self hl'
  | cons b l ih =>
    cases l' with
    | nil =>
      obtain ⟨rfl, -⟩ := List.cons.inj h
      exact absurd List.mem_cons_self hl
    | cons b' l' =>
      obtain ⟨rfl, htail⟩ := List.cons.inj h
      obtain ⟨rfl, hr⟩ := ih (fun hm => hl (List.mem_cons_of_mem b hm))
        (fun hm => hl' (List.mem_cons_of_mem b hm)) htail
      exact ⟨rfl, hr⟩

theorem underscore_notMem_repr (n : Nat) : '_' ∉ n.repr.toList := by
  intro h
  rw [Nat.repr, String.toList_ofList] at h
  exact absurd (Nat.isDigit_of_mem_toDigits (by decide) (by decide) h) (by decide)

/-- A number ends at the first underscore behind it, so numbers and what follows them are told
apart. -/
theorem separated_injective {n n' : Nat} {base rest rest' : String}
    (h : base ++ n.repr ++ "_" ++ rest = base ++ n'.repr ++ "_" ++ rest') :
    n = n' ∧ rest = rest' := by
  simp only [String.append_assoc, String.append_right_inj] at h
  have hl := congrArg String.toList h
  simp only [String.toList_append] at hl
  obtain ⟨hn, hrest⟩ := append_cons_inj (underscore_notMem_repr n) (underscore_notMem_repr n') hl
  exact ⟨Nat.repr_injective (String.toList_injective hn), String.toList_injective hrest⟩

end Persistency.FileNames
