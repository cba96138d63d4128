import Mathlib.Data.Nat.Bitwise
import Mathlib.Data.UInt
import Mathlib.Data.Int.ModEq
import Mathlib.Data.Nat.Prime.Int
import Mathlib.Tactic.LinearCombination
import Mathlib.Tactic.NormNum.Prime
import Mathlib.Tactic.Ring
import Persistency.Library.BigEndian

set_option autoImplicit true

namespace Adler32

def base : Nat := 65521

theorem base_prime : Nat.Prime base := by
  unfold base
  norm_num

@[ext] structure Sums where
  a : Nat
  b : Nat

def Sums.start : Sums := ⟨1, 0⟩

def Sums.add (s : Sums) (byte : UInt8) : Sums :=
  ⟨(s.a + byte.toNat) % base, (s.b + (s.a + byte.toNat)) % base⟩

def Sums.value (s : Sums) : UInt32 := .ofNat (s.b * 2 ^ 16 + s.a)

def checksum (data : BigEndian.Bytes) : UInt32 := (data.foldl Sums.add .start).value

structure Sums.Reduced (s : Sums) : Prop where
  a : s.a < base
  b : s.b < base

def Sums.plain (s : Sums) (byte : UInt8) : Sums :=
  ⟨s.a + byte.toNat, s.b + (s.a + byte.toNat)⟩

def Sums.reduce (s : Sums) : Sums := ⟨s.a % base, s.b % base⟩

theorem Sums.Reduced.reduce_eq (h : Sums.Reduced s) : s.reduce = s :=
  Sums.ext (Nat.mod_eq_of_lt h.a) (Nat.mod_eq_of_lt h.b)

theorem Sums.reduce_reduced (s : Sums) : s.reduce.Reduced :=
  ⟨Nat.mod_lt _ base_prime.pos, Nat.mod_lt _ base_prime.pos⟩

theorem Sums.reduce_add (s : Sums) (byte : UInt8) : s.reduce.add byte = (s.plain byte).reduce := by
  ext
  · exact Nat.mod_add_mod _ _ _
  · simp only [add, reduce, plain, Nat.add_mod, Nat.mod_mod]

/-- The reductions can be left to the end. -/
theorem foldl_reduce (data : BigEndian.Bytes) (s : Sums) :
    data.foldl Sums.add s.reduce = (data.foldl Sums.plain s).reduce := by
  induction data generalizing s with
  | nil => rfl
  | cons byte data ih => rw [List.foldl_cons, List.foldl_cons, s.reduce_add, ih]

theorem Sums.value_toNat (h : Sums.Reduced s) : s.value.toNat = s.b * 2 ^ 16 + s.a := by
  have ha := h.a
  have hb := h.b
  rw [base] at ha hb
  exact UInt32.toNat_ofNat_of_lt' (by rw [UInt32.size]; omega)

theorem Sums.value_injective (h : Sums.Reduced s) (h' : Sums.Reduced s')
    (he : s.value = s'.value) : s = s' := by
  have ha := h.a
  have ha' := h'.a
  rw [base] at ha ha'
  have hv := congrArg UInt32.toNat he
  rw [value_toNat h, value_toNat h'] at hv
  ext <;> omega

def total : BigEndian.Bytes → Nat
  | [] => 0
  | byte :: data => byte.toNat + total data

/-- Every byte counts once for itself and once for each byte behind it. -/
def weighted : BigEndian.Bytes → Nat
  | [] => 0
  | byte :: data => (data.length + 1) * byte.toNat + weighted data

theorem foldl_plain (data : BigEndian.Bytes) (s : Sums) : data.foldl Sums.plain s =
    ⟨s.a + total data, s.b + data.length * s.a + weighted data⟩ := by
  induction data generalizing s with
  | nil => simp only [List.foldl_nil, total, weighted, List.length_nil, Nat.zero_mul, Nat.add_zero]
  | cons byte data ih =>
    rw [List.foldl_cons, ih]
    simp only [Sums.plain, total, weighted, List.length_cons]
    ext
    · exact Nat.add_assoc _ _ _
    · ring

theorem total_set {data : BigEndian.Bytes} (h : data[p]? = some x) (y : UInt8) :
    total (data.set p y) + x.toNat = total data + y.toNat := by
  induction data generalizing p with
  | nil => cases h
  | cons byte data ih =>
    cases p with
    | zero =>
      cases h
      simp only [List.set_cons_zero, total]
      omega
    | succ p =>
      have hd := ih (p := p) h
      simp only [List.set_cons_succ, total]
      omega

theorem weighted_set {data : BigEndian.Bytes} (h : data[p]? = some x) (y : UInt8) :
    weighted (data.set p y) + (data.length - p) * x.toNat =
      weighted data + (data.length - p) * y.toNat := by
  induction data generalizing p with
  | nil => cases h
  | cons byte data ih =>
    cases p with
    | zero =>
      cases h
      simp only [List.set_cons_zero, weighted, List.length_cons, Nat.sub_zero]
      omega
    | succ p =>
      have hd := ih (p := p) h
      simp only [List.set_cons_succ, weighted, List.length_set, List.length_cons,
        Nat.add_sub_add_right]
      omega

theorem checksum_eq_iff {d d' : BigEndian.Bytes} (hlen : d.length = d'.length) :
    checksum d = checksum d' ↔
      total d ≡ total d' [MOD base] ∧ weighted d ≡ weighted d' [MOD base] := by
  have hstart : Sums.start = Sums.start.reduce := rfl
  have hsums (data : BigEndian.Bytes) : checksum data =
      (Sums.reduce ⟨1 + total data, 0 + data.length * 1 + weighted data⟩).value := by
    rw [checksum, hstart, foldl_reduce, foldl_plain]
    rfl
  rw [hsums, hsums]
  apply Iff.intro
  · intro h
    have hs := Sums.value_injective (Sums.reduce_reduced _) (Sums.reduce_reduced _) h
    rw [hlen] at hs
    exact ⟨Nat.ModEq.add_left_cancel' _ (congrArg Sums.a hs),
      Nat.ModEq.add_left_cancel' _ (congrArg Sums.b hs)⟩
  · rintro ⟨ha, hb⟩
    rw [hlen]
    exact congrArg _ (Sums.ext (ha.add_left 1) (hb.add_left _))

def differing (d d' : BigEndian.Bytes) : Set Nat := {i | d[i]? ≠ d'[i]?}

theorem exists_of_differing (hlen : d.length = d'.length) (h : p ∈ differing d d') :
    ∃ x y, d[p]? = some x ∧ d'[p]? = some y ∧ x ≠ y := by
  have hp : p < d.length := by
    by_contra hp
    apply h
    rw [List.getElem?_eq_none (Nat.not_lt.1 hp), List.getElem?_eq_none (hlen ▸ Nat.not_lt.1 hp)]
  have hp' : p < d'.length := hlen ▸ hp
  refine ⟨d[p], d'[p], List.getElem?_eq_getElem hp, List.getElem?_eq_getElem hp', ?_⟩
  intro he
  apply h
  rw [List.getElem?_eq_getElem hp, List.getElem?_eq_getElem hp', he]

theorem eq_of_notMem_differing (h : i ∉ differing d d') : d[i]? = d'[i]? := not_not.1 h

theorem eq_set_of_one (hy : d'[p]? = some y) (h : differing d d' = {p})
    (hp : p < d.length) : d' = d.set p y := by
  apply List.ext_getElem?
  intro i
  rw [List.getElem?_set]
  split
  · rename_i hi
    subst hi
    exact hy
  · rename_i hi
    exact (eq_of_notMem_differing (h ▸ fun hm => hi hm.symm)).symm

theorem eq_set_of_two (hy : d'[p]? = some y) (hv : d'[q]? = some v)
    (h : differing d d' = {p, q}) (hp : p < d.length) (hq : q < d.length) :
    d' = (d.set p y).set q v := by
  apply List.ext_getElem?
  intro i
  rw [List.getElem?_set, List.getElem?_set]
  split
  · rename_i hi
    subst hi
    rw [List.length_set, if_pos hq, hv]
  · rename_i hiq
    split
    · rename_i hip
      subst hip
      exact hy
    · rename_i hip
      have hi : i ∉ differing d d' := by
        rw [h]
        rintro (rfl | rfl)
        · exact hip rfl
        · exact hiq rfl
      exact (eq_of_notMem_differing hi).symm

/-- One corrupted byte is detected: it changes the first sum by less than the modulus. -/
theorem checksum_ne_of_one (hlen : d.length = d'.length) (h : differing d d' = {p}) :
    checksum d ≠ checksum d' := by
  obtain ⟨x, y, hx, hy, hne⟩ := exists_of_differing hlen (h ▸ Set.mem_singleton p)
  have htotal := total_set hx y
  rw [← eq_set_of_one hy h (List.getElem?_eq_some_iff.1 hx).1] at htotal
  intro hc
  have hdvd := Nat.modEq_iff_dvd.1 ((checksum_eq_iff hlen).1 hc).1
  have hx' := x.toNat_lt
  have hy' := y.toNat_lt
  rw [base] at hdvd
  exact hne (UInt8.toNat_inj.1 (by omega))

theorem weighted_set_set {d : BigEndian.Bytes} (hpq : p < q) (hx : d[p]? = some x)
    (hu : d[q]? = some u) (hsum : (x.toNat : Int) + u.toNat = y.toNat + v.toNat) :
    (weighted ((d.set p y).set q v) : Int) - weighted d =
      (q - p : Nat) * (y.toNat - x.toNat) := by
  have hq : (d.set p y)[q]? = some u := by
    rw [List.getElem?_set_ne (Nat.ne_of_lt hpq), hu]
  have hlt := (List.getElem?_eq_some_iff.1 hu).1
  have hcount : d.length - p = d.length - q + (q - p) := by omega
  have hp := congrArg (Nat.cast (R := Int)) (weighted_set hx y)
  have hv := congrArg (Nat.cast (R := Int)) (weighted_set hq v)
  rw [hcount] at hp
  rw [List.length_set] at hv
  push_cast at hp hv
  linear_combination hp + hv - (d.length - q : Nat) * hsum

/-- Two corrupted bytes are detected when they are closer than the modulus, a prime number. -/
theorem checksum_ne_of_two (hlen : d.length = d'.length) (hpq : p < q) (hnear : q - p < base)
    (h : differing d d' = {p, q}) : checksum d ≠ checksum d' := by
  obtain ⟨x, y, hx, hy, hne⟩ := exists_of_differing hlen (h ▸ Set.mem_insert p {q})
  obtain ⟨u, v, hu, hv, -⟩ :=
    exists_of_differing hlen (h ▸ Set.mem_insert_of_mem p (Set.mem_singleton q))
  have hset : d' = (d.set p y).set q v := eq_set_of_two hy hv h
    (List.getElem?_eq_some_iff.1 hx).1 (List.getElem?_eq_some_iff.1 hu).1
  have hq : (d.set p y)[q]? = some u := by
    rw [List.getElem?_set_ne (Nat.ne_of_lt hpq), hu]
  have htotal := total_set hx y
  have htotal' := total_set hq v
  rw [← hset] at htotal'
  intro hc
  obtain ⟨ht, hw⟩ := (checksum_eq_iff hlen).1 hc
  have hdvd := Nat.modEq_iff_dvd.1 ht
  have hx' := x.toNat_lt
  have hy' := y.toNat_lt
  have hu' := u.toNat_lt
  have hv' := v.toNat_lt
  have hsum : (x.toNat : Int) + u.toNat = y.toNat + v.toNat := by
    rw [base] at hdvd
    omega
  have hdvd' := Nat.modEq_iff_dvd.1 hw
  rw [hset, weighted_set_set hpq hx hu hsum] at hdvd'
  rcases (Nat.prime_iff_prime_int.1 base_prime).dvd_or_dvd hdvd' with hdist | hsize
  · exact absurd (Nat.le_of_dvd (by omega) (Int.natCast_dvd_natCast.1 hdist)) (by omega)
  · rw [base] at hsize
    exact hne (UInt8.toNat_inj.1 (by omega))

end Adler32
