import Mathlib.Data.Int.Order.Basic
import Mathlib.Data.Nat.Log
import Mathlib.Tactic.Linarith
import Mathlib.Tactic.Ring

set_option autoImplicit true

namespace Binary64

/-- The mantissa and exponent ranges of the format, with one pair for each magnitude:
only the smallest exponent leaves the leading bit of the mantissa clear. -/
def Canonical (m : Nat) (e : Int) : Prop :=
  m < 2 ^ 53 ∧ -1074 ≤ e ∧ e ≤ 971 ∧ (m < 2 ^ 52 → e = -1074)

instance (m : Nat) (e : Int) : Decidable (Canonical m e) :=
  inferInstanceAs (Decidable (_ ∧ _ ∧ _ ∧ _))

/-- A finite number, `± mantissa * 2 ^ exponent`. -/
structure Finite where
  negative : Bool
  mantissa : Nat
  exponent : Int
  canonical : Canonical mantissa exponent
  deriving DecidableEq

end Binary64

/-- A binary64 value; the payload of a NaN is not kept. -/
inductive Binary64 where
  | nan
  | infinity (negative : Bool)
  | finite (x : Binary64.Finite)
  deriving DecidableEq

namespace Binary64

def IsFinite : Binary64 → Prop
  | .finite _ => True
  | _ => False

instance : DecidablePred IsFinite
  | .finite _ => isTrue trivial
  | .nan | .infinity _ => isFalse id

/-- The IEEE comparison `==`: a NaN equals nothing and the two zeros are equal. -/
def eq : Binary64 → Binary64 → Bool
  | .infinity s, .infinity s' => s == s'
  | .finite x, .finite y => x == y || (x.mantissa == 0 && y.mantissa == 0)
  | _, _ => false

theorem eq_self (x : Binary64) (h : x ≠ .nan) : eq x x = true := by
  cases x with
  | nan => exact absurd rfl h
  | infinity s => simp only [eq, BEq.rfl]
  | finite x => simp only [eq, BEq.rfl, Bool.true_or]

/-- `a / 2 ^ s` rounded to the nearest integer, ties to even. -/
def roundShift (a s : Nat) : Nat :=
  let q := a / 2 ^ s
  let r := a % 2 ^ s
  if 2 * r < 2 ^ s then q
  else if 2 ^ s < 2 * r then q + 1
  else if q % 2 = 0 then q else q + 1

def roundNat (a : Nat) : Nat × Int :=
  if a = 0 then (0, -1074)
  else if a.log2 ≤ 52 then (a * 2 ^ (52 - a.log2), (a.log2 : Int) - 52)
  else
    let s := a.log2 - 52
    let q := roundShift a s
    if q = 2 ^ 53 then (2 ^ 52, (s : Int) + 1) else (q, s)

/-- The cast from an integer; it rounds to nearest, and overflows to infinity. -/
def ofInt (n : Int) : Binary64 :=
  let r := roundNat n.natAbs
  if h : Canonical r.1 r.2 then .finite ⟨decide (n < 0), r.1, r.2, h⟩
  else .infinity (decide (n < 0))

def floorMagnitude (m : Nat) (e : Int) : Nat :=
  if 0 ≤ e then m * 2 ^ e.toNat else m / 2 ^ (-e).toNat

def Finite.truncate (x : Finite) : Int :=
  if x.negative then -(floorMagnitude x.mantissa x.exponent : Int)
  else floorMagnitude x.mantissa x.exponent

/-- The cast to an integer type with range `lo..hi`: it truncates and saturates, and sends a
NaN to zero. -/
def toIntSat (lo hi : Int) : Binary64 → Int
  | .nan => 0
  | .infinity s => if s then lo else hi
  | .finite x => max lo (min hi x.truncate)

def toI32 (x : Binary64) : Int32 := .ofInt (x.toIntSat (-2 ^ 31) (2 ^ 31 - 1))
def toU32 (x : Binary64) : UInt32 := .ofNat (x.toIntSat 0 (2 ^ 32 - 1)).toNat
def toI64 (x : Binary64) : Int64 := .ofInt (x.toIntSat (-2 ^ 63) (2 ^ 63 - 1))
def toU64 (x : Binary64) : UInt64 := .ofNat (x.toIntSat 0 (2 ^ 64 - 1)).toNat

/-- The natural numbers with a 53-bit significand. -/
def Fits53 (a : Nat) : Prop := ∃ m e, m < 2 ^ 53 ∧ a = m * 2 ^ e

theorem log2_lt_of_lt (h : a < 2 ^ k) (hk : 0 < k) : a.log2 < k := by
  by_cases ha : a = 0
  · subst a
    simpa using hk
  · exact (Nat.log2_lt ha).2 h

theorem fits53_iff_dvd (a : Nat) : Fits53 a ↔ 2 ^ (a.log2 - 52) ∣ a := by
  apply Iff.intro
  · rintro ⟨m, e, hm, rfl⟩
    have hlt : m * 2 ^ e < 2 ^ (53 + e) := by
      rw [Nat.pow_add]
      exact Nat.mul_lt_mul_of_pos_right hm (Nat.two_pow_pos e)
    have hlog : (m * 2 ^ e).log2 < 53 + e := log2_lt_of_lt hlt (by omega)
    have hdvd : 2 ^ ((m * 2 ^ e).log2 - 52) ∣ 2 ^ e := Nat.pow_dvd_pow 2 (by omega)
    exact hdvd.trans (Nat.dvd_mul_left _ _)
  · intro h
    refine ⟨a / 2 ^ (a.log2 - 52), a.log2 - 52, ?_, (Nat.div_mul_cancel h).symm⟩
    rw [Nat.div_lt_iff_lt_mul (Nat.two_pow_pos _), ← Nat.pow_add]
    exact Nat.lt_log2_self.trans_le (Nat.pow_le_pow_right (by omega) (by omega))

instance : DecidablePred Fits53 := fun a => decidable_of_iff _ (fits53_iff_dvd a).symm

theorem fits53_of_lt (h : a < 2 ^ 53) : Fits53 a := ⟨a, 0, h, by rw [Nat.pow_zero, Nat.mul_one]⟩

theorem fits53_zero : Fits53 0 := fits53_of_lt (by decide)

def nearest (a : Nat) : Nat := roundShift a (a.log2 - 52) * 2 ^ (a.log2 - 52)

theorem roundShift_zero (a : Nat) : roundShift a 0 = a := by
  simp only [roundShift, Nat.pow_zero, Nat.div_one, Nat.mod_one, Nat.mul_zero, Nat.zero_lt_one,
    ↓reduceIte]

theorem roundShift_of_dvd (h : 2 ^ s ∣ a) : roundShift a s = a / 2 ^ s := by
  have hr : a % 2 ^ s = 0 := Nat.mod_eq_zero_of_dvd h
  simp only [roundShift, hr, Nat.mul_zero, Nat.two_pow_pos, ↓reduceIte]

theorem roundShift_bounds (a s : Nat) :
    a / 2 ^ s ≤ roundShift a s ∧ roundShift a s ≤ a / 2 ^ s + 1 := by
  simp only [roundShift]
  split
  · omega
  · split
    · omega
    · split <;> omega

/-- A number survives the rounding exactly when it has a 53-bit significand. -/
theorem nearest_eq_self_iff (a : Nat) : nearest a = a ↔ Fits53 a := by
  rw [fits53_iff_dvd]
  apply Iff.intro
  · intro h
    exact Dvd.intro_left _ h
  · intro h
    rw [nearest, roundShift_of_dvd h, Nat.div_mul_cancel h]

theorem quotient_bounds (h : 52 < a.log2) :
    2 ^ 52 ≤ a / 2 ^ (a.log2 - 52) ∧ a / 2 ^ (a.log2 - 52) < 2 ^ 53 := by
  have ha : a ≠ 0 := by
    rintro rfl
    simp at h
  have hlo : 2 ^ 52 ≤ a / 2 ^ (a.log2 - 52) := by
    rw [Nat.le_div_iff_mul_le (Nat.two_pow_pos _), ← Nat.pow_add]
    exact (Nat.pow_le_pow_right (by omega) (by omega)).trans (Nat.log2_self_le ha)
  have hhi : a / 2 ^ (a.log2 - 52) < 2 ^ 53 := by
    rw [Nat.div_lt_iff_lt_mul (Nat.two_pow_pos _), ← Nat.pow_add]
    exact Nat.lt_log2_self.trans_le (Nat.pow_le_pow_right (by omega) (by omega))
  exact ⟨hlo, hhi⟩

theorem roundNat_magnitude (a : Nat) :
    floorMagnitude (roundNat a).1 (roundNat a).2 = nearest a := by
  unfold roundNat
  split
  · rename_i h
    subst h
    rw [floorMagnitude, if_neg (by decide), Nat.zero_div]
    rfl
  · rename_i h0
    split
    · rename_i hle
      have hs : a.log2 - 52 = 0 := by omega
      rw [nearest, hs, roundShift_zero, Nat.pow_zero, Nat.mul_one]
      by_cases he : a.log2 = 52
      · simp only [floorMagnitude, he, Nat.sub_self, Nat.pow_zero, Nat.mul_one]
        simp
      · have hneg : ¬ (0 : Int) ≤ (a.log2 : Int) - 52 := by omega
        have hexp : (-((a.log2 : Int) - 52)).toNat = 52 - a.log2 := by omega
        simp only [floorMagnitude, if_neg hneg, hexp]
        exact Nat.mul_div_cancel _ (Nat.two_pow_pos _)
    · dsimp only
      rw [nearest]
      split
      · rename_i hq
        have hexp : (((a.log2 - 52 : Nat) : Int) + 1).toNat = a.log2 - 52 + 1 := by omega
        have hnn : (0 : Int) ≤ ((a.log2 - 52 : Nat) : Int) + 1 := by omega
        rw [floorMagnitude, if_pos hnn, hexp, hq]
        change 2 ^ 52 * 2 ^ (a.log2 - 52 + 1) = 2 ^ 53 * 2 ^ (a.log2 - 52)
        rw [Nat.pow_succ]
        ring
      · simp only [floorMagnitude, Int.natCast_nonneg, ↓reduceIte, Int.toNat_natCast]

theorem roundNat_canonical (h : a.log2 < 1023) :
    Canonical (roundNat a).1 (roundNat a).2 := by
  unfold roundNat
  split
  · decide
  · rename_i h0
    split
    · rename_i hle
      have hlo : 2 ^ 52 ≤ a * 2 ^ (52 - a.log2) := by
        calc 2 ^ 52 = 2 ^ a.log2 * 2 ^ (52 - a.log2) := by rw [← Nat.pow_add]; congr 1; omega
          _ ≤ a * 2 ^ (52 - a.log2) := Nat.mul_le_mul_right _ (Nat.log2_self_le h0)
      have hhi : a * 2 ^ (52 - a.log2) < 2 ^ 53 := by
        calc a * 2 ^ (52 - a.log2) < 2 ^ (a.log2 + 1) * 2 ^ (52 - a.log2) :=
              Nat.mul_lt_mul_of_pos_right Nat.lt_log2_self (Nat.two_pow_pos _)
          _ = 2 ^ 53 := by rw [← Nat.pow_add]; congr 1; omega
      refine ⟨hhi, ?_, ?_, fun hc => absurd hc (Nat.not_lt.2 hlo)⟩ <;> omega
    · rename_i hgt
      obtain ⟨hlo, hhi⟩ := quotient_bounds (a := a) (by omega)
      obtain ⟨hrlo, hrhi⟩ := roundShift_bounds a (a.log2 - 52)
      dsimp only
      split
      · refine ⟨by norm_num, ?_, ?_, fun hc => absurd hc (Nat.lt_irrefl _)⟩ <;> omega
      · rename_i hq
        refine ⟨by omega, ?_, ?_, fun hc => ?_⟩ <;> omega

theorem ofInt_isFinite (h : n.natAbs.log2 < 1023) : (ofInt n).IsFinite := by
  rw [ofInt, dif_pos (roundNat_canonical h)]
  trivial

theorem toIntSat_bounds (lo hi : Int) (x : Binary64) (hlo : lo ≤ 0) (hhi : 0 ≤ hi) :
    lo ≤ x.toIntSat lo hi ∧ x.toIntSat lo hi ≤ hi := by
  cases x with
  | nan => exact ⟨hlo, hhi⟩
  | infinity s => simp only [toIntSat]; split <;> omega
  | finite x => simp only [toIntSat]; omega

theorem toIntSat_ofInt (lo hi n : Int) (h : n.natAbs.log2 < 1023) :
    (ofInt n).toIntSat lo hi =
      max lo (min hi (if n < 0 then -(nearest n.natAbs : Int) else nearest n.natAbs)) := by
  have hc := roundNat_canonical h
  simp only [ofInt, dif_pos hc, toIntSat, Finite.truncate, roundNat_magnitude, decide_eq_true_eq]

/-- An integer of the range survives the two casts exactly when its magnitude has a 53-bit
significand or it is the upper bound and rounds up past it. -/
theorem toIntSat_ofInt_iff (lo hi : Int) {n : Int} (hlo : lo ≤ n) (hhi : n ≤ hi)
    (hb : n.natAbs.log2 < 1023) (hfit : Fits53 lo.natAbs) (h0 : lo ≤ 0)
    (hup : hi ≤ nearest hi.natAbs) (hpos : 0 ≤ hi) :
    (ofInt n).toIntSat lo hi = n ↔ Fits53 n.natAbs ∨ n = hi := by
  rw [toIntSat_ofInt lo hi n hb]
  apply Iff.intro
  · intro h
    by_cases hn : n = hi
    · exact .inr hn
    · left
      by_cases hl : n = lo
      · rw [hl]
        exact hfit
      · rw [← nearest_eq_self_iff]
        split at h <;> omega
  · rintro (hf | rfl)
    · rw [(nearest_eq_self_iff _).2 hf]
      split <;> omega
    · rw [if_neg (by omega)]
      omega

theorem toI32_ofInt (n : Int32) : (ofInt n.toInt).toI32 = n := by
  have hlo := n.le_toInt
  have hhi := n.toInt_lt
  have habs : n.toInt.natAbs < 2 ^ 53 := by omega
  have hlog : n.toInt.natAbs.log2 < 53 := log2_lt_of_lt habs (by omega)
  have h := (toIntSat_ofInt_iff (-2 ^ 31) (2 ^ 31 - 1) hlo (by omega) (by omega)
    (by decide) (by decide) (by decide) (by decide)).2 (.inl (fits53_of_lt habs))
  rw [toI32, h, Int32.ofInt_toInt]

theorem toU32_ofInt (n : UInt32) : (ofInt n.toNat).toU32 = n := by
  have hhi := n.toNat_lt
  have habs : (n.toNat : Int).natAbs < 2 ^ 53 := by omega
  have hlog : (n.toNat : Int).natAbs.log2 < 53 := log2_lt_of_lt habs (by omega)
  have h := (toIntSat_ofInt_iff 0 (2 ^ 32 - 1) (Int.natCast_nonneg n.toNat)
    (by omega) (by omega) (by decide) (by decide) (by decide) (by decide)).2
    (.inl (fits53_of_lt habs))
  rw [toU32, h, Int.toNat_natCast, UInt32.ofNat_toNat]

theorem toI64_ofInt_iff (n : Int64) :
    (ofInt n.toInt).toI64 = n ↔ Fits53 n.toInt.natAbs ∨ n.toInt = 2 ^ 63 - 1 := by
  have hlo := n.le_toInt
  have hhi := n.toInt_lt
  have hlog : n.toInt.natAbs.log2 < 64 := log2_lt_of_lt (by omega) (by omega)
  rw [← toIntSat_ofInt_iff (-2 ^ 63) (2 ^ 63 - 1) hlo (by omega) (by omega)
    (by decide) (by decide) (by decide) (by decide)]
  have hr := toIntSat_bounds (-2 ^ 63) (2 ^ 63 - 1) (ofInt n.toInt)
    (by decide) (by decide)
  apply Iff.intro
  · intro h
    have ht := congrArg Int64.toInt h
    rwa [toI64, Int64.toInt_ofInt_of_le (by omega) (by omega)] at ht
  · intro h
    rw [toI64, h, Int64.ofInt_toInt]

theorem toU64_ofInt_iff (n : UInt64) :
    (ofInt n.toNat).toU64 = n ↔ Fits53 n.toNat ∨ n.toNat = 2 ^ 64 - 1 := by
  have hhi := n.toNat_lt
  have hlog : (n.toNat : Int).natAbs.log2 < 65 := by
    rw [Int.natAbs_natCast]
    exact log2_lt_of_lt (by omega) (by omega)
  have hiff := toIntSat_ofInt_iff 0 (2 ^ 64 - 1) (Int.natCast_nonneg n.toNat)
    (by omega) (by omega) (by decide) (by decide) (by decide) (by decide)
  have hr := toIntSat_bounds 0 (2 ^ 64 - 1) (ofInt n.toNat)
    (by decide) (by decide)
  rw [Int.natAbs_natCast] at hiff
  rw [show n.toNat = 2 ^ 64 - 1 ↔ (n.toNat : Int) = 2 ^ 64 - 1 by omega, ← hiff]
  apply Iff.intro
  · intro h
    have ht := congrArg UInt64.toNat h
    rw [toU64, UInt64.toNat_ofNat_of_lt' (by simp only [UInt64.size]; omega)] at ht
    omega
  · intro h
    rw [toU64, h, Int.toNat_natCast, UInt64.ofNat_toNat]

def Finite.toInt? (x : Finite) : Option Int :=
  if 0 ≤ x.exponent ∨ 2 ^ (-x.exponent).toNat ∣ x.mantissa then some x.truncate else none

def toInt? : Binary64 → Option Int
  | .finite x => x.toInt?
  | _ => none

theorem fits53_floorMagnitude (h : m < 2 ^ 53) (e : Int) : Fits53 (floorMagnitude m e) := by
  unfold floorMagnitude
  split
  · exact ⟨m, e.toNat, h, rfl⟩
  · exact fits53_of_lt (lt_of_le_of_lt (Nat.div_le_self _ _) h)

theorem Finite.natAbs_truncate (x : Finite) :
    x.truncate.natAbs = floorMagnitude x.mantissa x.exponent := by
  rw [truncate]
  split
  · rw [Int.natAbs_neg, Int.natAbs_natCast]
  · exact Int.natAbs_natCast _

theorem Finite.fits53_truncate (x : Finite) : Fits53 x.truncate.natAbs := by
  rw [x.natAbs_truncate]
  exact fits53_floorMagnitude x.canonical.1 _

theorem Finite.log2_truncate (x : Finite) : x.truncate.natAbs.log2 < 1024 := by
  obtain ⟨hm, -, he, -⟩ := x.canonical
  have hlt : floorMagnitude x.mantissa x.exponent < 2 ^ (53 + x.exponent.toNat) := by
    rw [floorMagnitude, Nat.pow_add]
    split
    · exact Nat.mul_lt_mul_of_pos_right hm (Nat.two_pow_pos _)
    · calc x.mantissa / 2 ^ (-x.exponent).toNat
          ≤ x.mantissa := Nat.div_le_self _ _
        _ < 2 ^ 53 := hm
        _ ≤ 2 ^ 53 * 2 ^ x.exponent.toNat := Nat.le_mul_of_pos_right _ (Nat.two_pow_pos _)
  have hlog := log2_lt_of_lt hlt (Nat.lt_add_right _ (by decide))
  rw [x.natAbs_truncate]
  omega

theorem roundNat_of_fits53 (hf : Fits53 a) (h : a.log2 < 1024) :
    Canonical (roundNat a).1 (roundNat a).2 ∧
      (0 ≤ (roundNat a).2 ∨ 2 ^ (-(roundNat a).2).toNat ∣ (roundNat a).1) := by
  by_cases hlog : a.log2 ≤ 52
  · have hc := roundNat_canonical (a := a) (by omega)
    apply And.intro hc
    unfold roundNat
    split
    · exact .inr (Nat.dvd_zero _)
    · right
      dsimp only
      have hexp : (-((a.log2 : Int) - 52)).toNat = 52 - a.log2 := by omega
      rw [hexp]
      exact Nat.dvd_mul_left _ _
  · obtain ⟨hlo, hhi⟩ := quotient_bounds (a := a) (by omega)
    have h0 : a ≠ 0 := by
      rintro rfl
      exact hlog (by decide)
    have hround : roundNat a = (a / 2 ^ (a.log2 - 52), ((a.log2 - 52 : Nat) : Int)) := by
      rw [roundNat, if_neg h0, if_neg hlog]
      dsimp only
      rw [roundShift_of_dvd ((fits53_iff_dvd a).1 hf), if_neg (Nat.ne_of_lt hhi)]
    rw [hround]
    have hc : Canonical (a / 2 ^ (a.log2 - 52)) ((a.log2 - 52 : Nat) : Int) := by
      refine ⟨hhi, ?_, ?_, fun hlt => absurd hlt (Nat.not_lt.2 hlo)⟩ <;> omega
    exact ⟨hc, .inl (Int.natCast_nonneg _)⟩

theorem toInt?_ofInt {y : Binary64} (h : y.toInt? = some z) : (ofInt z).toInt? = some z := by
  cases y with
  | finite x =>
    rw [toInt?, Finite.toInt?, Option.ite_none_right_eq_some] at h
    obtain ⟨-, hz⟩ := h
    cases hz
    have hfits := x.fits53_truncate
    have hlog := x.log2_truncate
    generalize x.truncate = z at hfits hlog
    obtain ⟨hc, hint⟩ := roundNat_of_fits53 hfits hlog
    rw [ofInt, dif_pos hc, toInt?, Finite.toInt?, if_pos hint, Finite.truncate, roundNat_magnitude,
      (nearest_eq_self_iff _).2 hfits]
    simp only [decide_eq_true_eq, Option.some.injEq]
    split <;> omega
  | _ => cases h

theorem toIntSat_fits53 (lo hi : Int) (hlo : Fits53 lo.natAbs) (x : Binary64) :
    Fits53 (x.toIntSat lo hi).natAbs ∨ x.toIntSat lo hi = hi := by
  cases x with
  | nan => exact .inl fits53_zero
  | infinity s =>
    rw [toIntSat]
    split
    · exact .inl hlo
    · exact .inr rfl
  | finite x =>
    rw [toIntSat]
    rcases max_choice lo (min hi x.truncate) with h | h
    · rw [h]
      exact .inl hlo
    · rw [h]
      rcases min_choice hi x.truncate with h | h
      · exact .inr h
      · rw [h]
        exact .inl x.fits53_truncate

theorem toI64_fits53 (x : Binary64) :
    Fits53 x.toI64.toInt.natAbs ∨ x.toI64.toInt = 2 ^ 63 - 1 := by
  have hr := toIntSat_bounds (-2 ^ 63) (2 ^ 63 - 1) x (by decide) (by decide)
  rw [toI64, Int64.toInt_ofInt_of_le (by omega) (by omega)]
  exact toIntSat_fits53 _ _ (by decide) x

theorem toU64_fits53 (x : Binary64) : Fits53 x.toU64.toNat ∨ x.toU64.toNat = 2 ^ 64 - 1 := by
  have hr := toIntSat_bounds 0 (2 ^ 64 - 1) x (by decide) (by decide)
  have hf := toIntSat_fits53 0 (2 ^ 64 - 1) (by decide) x
  rw [toU64, UInt64.toNat_ofNat_of_lt' (by simp only [UInt64.size]; omega)]
  apply hf.imp
  · intro h
    rwa [← Int.toNat_of_nonneg hr.1, Int.natAbs_natCast] at h
  · intro h
    omega

end Binary64
