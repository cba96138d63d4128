import Mathlib.Tactic.Linarith
import Persistency.Cpp.Kvs
import Persistency.Library.Adler32

namespace Persistency.Cpp
set_option autoImplicit true

open Adler32

/-- The sums of a block, which cannot overflow when it has at most `n` more bytes. -/
def Room (n : Nat) (s : Sums) : Prop :=
  s.a + 255 * n < 2 ^ 32 ∧ 2 * (s.b + n * s.a) + 255 * (n * (n + 1)) < 2 ^ 33

theorem Room.plain (h : Room (n + 1) s) (byte : UInt8) : Room n (s.plain byte) := by
  obtain ⟨ha, hb⟩ := h
  have hbyte := byte.toNat_lt
  have hx : n * byte.toNat ≤ n * 255 := Nat.mul_le_mul_left n (by omega)
  have hroom : 2 * (s.b + (s.a + byte.toNat) + n * (s.a + byte.toNat)) + 255 * (n * (n + 1)) ≤
      2 * (s.b + (n + 1) * s.a) + 255 * ((n + 1) * (n + 1 + 1)) := by
    nlinarith
  exact ⟨by simp only [Sums.plain]; omega, lt_of_le_of_lt hroom hb⟩

def sums (s : UInt32 × UInt32) : Sums := ⟨s.1.toNat, s.2.toNat⟩

theorem adler32Block_eq (block : Bytes) (a b : UInt32) (h : Room block.length (sums (a, b))) :
    sums (adler32Block a b block) = block.foldl Sums.plain (sums (a, b)) := by
  induction block generalizing a b with
  | nil => rfl
  | cons byte block ih =>
    have hroom := h.plain byte
    obtain ⟨ha, hb⟩ := hroom
    have ha' : (a + byte.toUInt32).toNat = a.toNat + byte.toNat := by
      rw [UInt32.toNat_add, UInt8.toNat_toUInt32]
      apply Nat.mod_eq_of_lt
      simp only [sums, Sums.plain] at ha
      omega
    have hb' : (b + (a + byte.toUInt32)).toNat = b.toNat + (a.toNat + byte.toNat) := by
      rw [UInt32.toNat_add, ha']
      apply Nat.mod_eq_of_lt
      simp only [sums, Sums.plain] at hb
      omega
    have hstep : sums (a + byte.toUInt32, b + (a + byte.toUInt32)) = (sums (a, b)).plain byte :=
      Sums.ext ha' hb'
    have hrest := ih _ _ (hstep ▸ h.plain byte)
    rw [List.foldl_cons, ← hstep]
    exact hrest

theorem room_of_reduced (h : s.Reduced) (hn : n ≤ adler32Nmax) : Room n s := by
  obtain ⟨ha, hb⟩ := h
  rw [base] at ha hb
  rw [adler32Nmax] at hn
  have hna : n * s.a ≤ 5552 * 65520 := Nat.mul_le_mul hn (by omega)
  have hnn : n * (n + 1) ≤ 5552 * 5553 := Nat.mul_le_mul hn (by omega)
  exact ⟨by omega, by omega⟩

theorem adler32Loop_eq (a b : UInt32) (data : Bytes) (h : (sums (a, b)).Reduced) :
    sums (adler32Loop a b data) = data.foldl Sums.add (sums (a, b)) := by
  fun_induction adler32Loop a b data with
  | case1 a b => rfl
  | case2 a b byte rest s ih =>
    have hroom : Room ((byte :: rest).take adler32Nmax).length (sums (a, b)) :=
      room_of_reduced h (List.length_take_le _ _)
    have hblock := adler32Block_eq _ _ _ hroom
    have hmod : sums (s.1 % adler32Base, s.2 % adler32Base) = (sums s).reduce := rfl
    rw [ih (hmod ▸ Sums.reduce_reduced _), hmod, hblock, ← foldl_reduce, h.reduce_eq,
      ← List.foldl_append, List.take_append_drop]

theorem start_reduced : (sums (1, 0)).Reduced := ⟨by decide, by decide⟩

theorem value_eq (h : (sums s).Reduced) : s.2 <<< 16 ||| s.1 = (sums s).value := by
  apply UInt32.toNat_inj.1
  rw [Sums.value_toNat h]
  have ha : s.1.toNat < 65521 := h.a
  have hb : s.2.toNat < 65521 := h.b
  simp only [UInt32.toNat_or, UInt32.toNat_shiftLeft, UInt32.reduceToNat, Nat.reduceMod,
    Nat.shiftLeft_eq]
  rw [Nat.mod_eq_of_lt (by omega), BigEndian.shiftLeft_or (by omega)]
  rfl

theorem foldl_reduced (data : Bytes) : (data.foldl Sums.add .start).Reduced := by
  rw [show Sums.start = Sums.start.reduce from rfl, foldl_reduce]
  exact Sums.reduce_reduced _

/-- The checksum of the code is Adler-32. -/
theorem calculateHashAdler32_eq (data : Bytes) : calculateHashAdler32 data = checksum data := by
  have hs : sums (adler32Loop 1 0 data) = data.foldl Sums.add .start :=
    adler32Loop_eq 1 0 data start_reduced
  rw [calculateHashAdler32, value_eq (hs ▸ foldl_reduced data), hs, checksum]

/-- The positions at which the corrupted bytes may be. -/
def Corrupted (d d' : Bytes) : Prop :=
  (∃ p, differing d d' = {p}) ∨ ∃ p q, p < q ∧ q - p < 65521 ∧ differing d d' = {p, q}

theorem checkHash_corrupted (hlen : d.length = d'.length) (h : Corrupted d d') :
    checkHash d' (getHashBytes d) = false := by
  have hne : checksum d ≠ checksum d' := by
    rcases h with ⟨p, h⟩ | ⟨p, q, hpq, hnear, h⟩
    · exact checksum_ne_of_one hlen h
    · exact checksum_ne_of_two hlen hpq hnear h
  have hparse : parseHashAdler32 (getHashBytes d) = calculateHashAdler32 d :=
    BigEndian.ofBytes_toBytes _
  rw [checkHash, hparse, calculateHashAdler32_eq, calculateHashAdler32_eq, beq_eq_false_iff_ne]
  exact hne.symm

/-- Data with one or two corrupted bytes do not pass the check of the hash of the original. -/
theorem corrupted_rejected (d d' : Bytes) (hlen : d.length = d'.length) (h : Corrupted d d') :
    checkHash d' (getHashBytes d) = false ∧
    ∀ {N : Type} (base : Baselibs N) (filePrefix : String) (needFile : OpenJsonNeedFile)
      (disk : Fs), disk (filePrefix ++ ".json") = some d' →
      disk (filePrefix ++ ".hash") = some (getHashBytes d) →
      openJson base filePrefix needFile disk = .error .validationFailed := by
  have hcheck := checkHash_corrupted hlen h
  apply And.intro hcheck
  intro N base filePrefix needFile disk hj hh
  simp only [openJson, hj, hh, hcheck, Bool.false_eq_true, ↓reduceIte]

theorem corrupted_two : checkHash [0x7b, 0x22, 0x62, 0x22, 0x3a, 0x37, 0x7d]
    (getHashBytes [0x7b, 0x22, 0x61, 0x22, 0x3a, 0x31, 0x7d]) = false := by
  have hdiffering : differing [0x7b, 0x22, 0x61, 0x22, 0x3a, 0x31, 0x7d]
      [0x7b, 0x22, 0x62, 0x22, 0x3a, 0x37, 0x7d] = {2, 5} := by
    ext i
    match i with
    | 0 | 1 | 3 | 4 | 6 => exact iff_of_false (fun h => h rfl) (by decide)
    | 2 => exact iff_of_true (show some 0x61 ≠ some (0x62 : UInt8) by decide) (.inl rfl)
    | 5 => exact iff_of_true (show some 0x31 ≠ some (0x37 : UInt8) by decide) (.inr rfl)
    | i + 7 => exact iff_of_false (fun h => h rfl) (by simp)
  have hcorrupted : Corrupted _ _ := .inr ⟨2, 5, by decide, by decide, hdiffering⟩
  exact (corrupted_rejected _ _ (by rfl) hcorrupted).1

end Persistency.Cpp
