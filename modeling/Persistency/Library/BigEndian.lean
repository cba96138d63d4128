import Mathlib.Data.Nat.Bitwise
import Mathlib.Data.UInt

set_option autoImplicit true

namespace BigEndian

abbrev Bytes := List UInt8

def toBytes (h : UInt32) : Bytes :=
  [(h >>> 24).toUInt8, (h >>> 16).toUInt8, (h >>> 8).toUInt8, h.toUInt8]

def ofBytes (b₀ b₁ b₂ b₃ : UInt8) : UInt32 :=
  b₀.toUInt32 <<< 24 ||| b₁.toUInt32 <<< 16 ||| b₂.toUInt32 <<< 8 ||| b₃.toUInt32

theorem shiftLeft_or (h : b < 2 ^ k) : a * 2 ^ k ||| b = a * 2 ^ k + b := by
  rw [← Nat.shiftLeft_eq, Nat.shiftLeft_add_eq_or_of_lt h]

theorem ofBytes_toNat (b₀ b₁ b₂ b₃ : UInt8) :
    (ofBytes b₀ b₁ b₂ b₃).toNat =
      b₀.toNat * 2 ^ 24 + b₁.toNat * 2 ^ 16 + b₂.toNat * 2 ^ 8 + b₃.toNat := by
  have h₀ := b₀.toNat_lt
  have h₁ := b₁.toNat_lt
  have h₂ := b₂.toNat_lt
  have h₃ := b₃.toNat_lt
  have e₁ : b₀.toNat * 2 ^ 24 ||| b₁.toNat * 2 ^ 16 =
      (b₀.toNat * 2 ^ 8 + b₁.toNat) * 2 ^ 16 := by
    rw [shiftLeft_or (k := 24) (by omega)]
    omega
  have e₂ : (b₀.toNat * 2 ^ 8 + b₁.toNat) * 2 ^ 16 ||| b₂.toNat * 2 ^ 8 =
      (b₀.toNat * 2 ^ 16 + b₁.toNat * 2 ^ 8 + b₂.toNat) * 2 ^ 8 := by
    rw [shiftLeft_or (k := 16) (by omega)]
    omega
  simp only [ofBytes, UInt32.toNat_or, UInt32.toNat_shiftLeft, UInt8.toNat_toUInt32,
    UInt32.reduceToNat, Nat.reduceMod, Nat.shiftLeft_eq]
  rw [Nat.mod_eq_of_lt (show b₀.toNat * 2 ^ 24 < 2 ^ 32 by omega),
    Nat.mod_eq_of_lt (show b₁.toNat * 2 ^ 16 < 2 ^ 32 by omega),
    Nat.mod_eq_of_lt (show b₂.toNat * 2 ^ 8 < 2 ^ 32 by omega),
    e₁, e₂, shiftLeft_or (k := 8) (by omega)]
  omega

theorem ofBytes_toBytes (h : UInt32) :
    ofBytes (h >>> 24).toUInt8 (h >>> 16).toUInt8 (h >>> 8).toUInt8 h.toUInt8 = h := by
  apply UInt32.toNat_inj.1
  have hlt := h.toNat_lt
  simp only [ofBytes_toNat, UInt32.toNat_toUInt8, UInt32.toNat_shiftRight, UInt32.reduceToNat,
    Nat.reduceMod, Nat.shiftRight_eq_div_pow]
  omega

theorem toBytes_injective : Function.Injective toBytes := by
  intro h h' he
  simp only [toBytes, List.cons.injEq, and_true] at he
  rw [← ofBytes_toBytes h, ← ofBytes_toBytes h', he.1, he.2.1, he.2.2.1, he.2.2.2]

theorem toBytes_ofBytes (b₀ b₁ b₂ b₃ : UInt8) :
    toBytes (ofBytes b₀ b₁ b₂ b₃) = [b₀, b₁, b₂, b₃] := by
  have h₀ := b₀.toNat_lt
  have h₁ := b₁.toNat_lt
  have h₂ := b₂.toNat_lt
  have h₃ := b₃.toNat_lt
  simp only [toBytes, List.cons.injEq, and_true, ← UInt8.toNat_inj, UInt32.toNat_toUInt8,
    UInt32.toNat_shiftRight, UInt32.reduceToNat, Nat.reduceMod, Nat.shiftRight_eq_div_pow,
    ofBytes_toNat]
  omega

/-- A read of four bytes into a buffer of zeros. -/
def read (stream : Bytes) : UInt32 :=
  ofBytes (stream.getD 0 0) (stream.getD 1 0) (stream.getD 2 0) (stream.getD 3 0)

/-- Besides the four bytes of the word, the read accepts what goes on behind them, and what ends
before zeros. -/
theorem read_eq_iff (stream : Bytes) (w : UInt32) : read stream = w ↔
    stream = toBytes w ∨ (∃ extra, extra ≠ [] ∧ stream = toBytes w ++ extra) ∨
      ∃ n, 0 < n ∧ toBytes w = stream ++ List.replicate n 0 := by
  have hread (b₀ b₁ b₂ b₃ : UInt8) : ofBytes b₀ b₁ b₂ b₃ = w ↔ toBytes w = [b₀, b₁, b₂, b₃] := by
    apply Iff.intro
    · rintro rfl
      exact toBytes_ofBytes b₀ b₁ b₂ b₃
    · intro h
      exact toBytes_injective ((toBytes_ofBytes b₀ b₁ b₂ b₃).trans h.symm)
  rw [read, hread]
  apply Iff.intro
  · intro h
    rcases stream with _ | ⟨b₀, _ | ⟨b₁, _ | ⟨b₂, _ | ⟨b₃, rest⟩⟩⟩⟩
    · exact .inr (.inr ⟨4, by decide, h⟩)
    · exact .inr (.inr ⟨3, by decide, h⟩)
    · exact .inr (.inr ⟨2, by decide, h⟩)
    · exact .inr (.inr ⟨1, by decide, h⟩)
    · cases rest with
      | nil => exact .inl h.symm
      | cons b rest => exact .inr (.inl ⟨b :: rest, List.cons_ne_nil _ _, by rw [h]; rfl⟩)
  · rintro (rfl | ⟨extra, -, rfl⟩ | ⟨n, -, h⟩)
    · rfl
    · rfl
    · have hget (i : Nat) : stream.getD i 0 = (toBytes w).getD i 0 := by
        rw [h, List.getD_eq_getElem?_getD, List.getD_eq_getElem?_getD, List.getElem?_append]
        split
        · rfl
        · rename_i hi
          rw [List.getElem?_eq_none (Nat.not_lt.1 hi), List.getElem?_replicate]
          split <;> rfl
      simp only [hget]
      rfl

end BigEndian
