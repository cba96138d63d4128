import Persistency.Library.Transition
import Persistency.Cpp.Integrity

namespace Persistency.Cpp
set_option autoImplicit true

open Adler32 StateTransition

/-- The next statement of `calculate_hash_adler32`: the test of the outer or of the inner loop, or
one of the two additions. -/
inductive HashPoint where
  | outer
  | inner
  | addA
  | addB

structure HashLoop where
  point : HashPoint
  a : UInt32
  b : UInt32
  len : Nat
  i : Nat
  tlen : Nat
  j : Nat

namespace HashLoop

def start (data : Bytes) : HashLoop := ⟨.outer, 1, 0, data.length, 0, 0, 0⟩

/-- There is no step after the last block, and none that would read behind the data. -/
def next (data : Bytes) (s : HashLoop) : Option HashLoop :=
  match s.point with
  | .outer =>
    if s.len > 0 then
      let tlen := if s.len > adler32Nmax then adler32Nmax else s.len
      some { s with point := .inner, len := s.len - tlen, tlen, j := 0 }
    else none
  | .inner =>
    if s.j < s.tlen then some { s with point := .addA }
    else some { s with point := .outer, a := s.a % adler32Base, b := s.b % adler32Base }
  | .addA => data[s.i]?.map fun byte => { s with point := .addB, a := s.a + byte.toUInt32 }
  | .addB => some { s with point := .inner, b := s.b + s.a, j := s.j + 1, i := s.i + 1 }

def result (s : HashLoop) : UInt32 := s.b <<< 16 ||| s.a

/-- The next statement reads inside the data, and its sum is below `2 ^ 32`. -/
def Safe (data : Bytes) (s : HashLoop) : Prop :=
  match s.point with
  | .addA => ∃ _ : s.i < data.length, s.a.toNat + data[s.i].toNat < 2 ^ 32
  | .addB => s.b.toNat + s.a.toNat < 2 ^ 32
  | _ => True

end HashLoop

def adler32Add (s : UInt32 × UInt32) (c : UInt8) : UInt32 × UInt32 :=
  let a := (s.1 + c.toUInt32) % 65521
  (a, (s.2 + a) % 65521)

/-- The control instance of the tests, which reduces both sums after every byte. -/
def adler32 (data : Bytes) : UInt32 :=
  let s := data.foldl adler32Add (1, 0)
  s.2 <<< 16 ||| s.1

namespace HashLoop

/-- `t` is what the two sums are in the natural numbers, without the byte that is added to `a`
only. -/
def Stands (data : Bytes) (s : HashLoop) (t : Sums) : Prop :=
  match s.point with
  | .outer => t.Reduced ∧ s.j = s.tlen ∧ sums (s.a, s.b) = t
  | .inner => sums (s.a, s.b) = t
  | .addA => s.j < s.tlen ∧ sums (s.a, s.b) = t
  | .addB => s.j < s.tlen ∧ ∃ byte, data[s.i]? = some byte ∧
      sums (s.a, s.b) = ⟨t.a + byte.toNat, t.b⟩

structure Sound (data : Bytes) (s : HashLoop) (t : Sums) : Prop where
  position : s.len + (s.tlen - s.j) + s.i = data.length
  inBlock : s.j ≤ s.tlen
  read : t.reduce = (data.take s.i).foldl Sums.add .start
  room : Room (s.tlen - s.j) t
  stands : Stands data s t

variable {data : Bytes} {s s' : HashLoop} {t : Sums}

theorem sound_start (data : Bytes) : Sound data (start data) .start where
  position := by rw [start, Nat.sub_self, Nat.add_zero, Nat.add_zero]
  inBlock := Nat.le_refl 0
  read := rfl
  room := room_of_reduced start_reduced (Nat.zero_le _)
  stands := ⟨start_reduced, rfl, rfl⟩

theorem Sound.byte (h : Sound data s t) (hj : s.j < s.tlen) : s.i < data.length := by
  have hp := h.position
  omega

theorem Sound.safe (h : Sound data s t) : Safe data s := by
  have hst := h.stands
  simp only [Safe]
  split
  · rename_i hp
    simp only [Stands, hp] at hst
    obtain ⟨hj, rfl⟩ := hst
    have hroom := h.room.1
    have hlt := h.byte hj
    have hbyte := data[s.i].toNat_lt
    simp only [sums] at hroom
    exact ⟨hlt, by omega⟩
  · rename_i hp
    simp only [Stands, hp] at hst
    obtain ⟨hj, byte, -, hs⟩ := hst
    have hb := (Room.plain (n := s.tlen - s.j - 1) (by
      have hn : s.tlen - s.j - 1 + 1 = s.tlen - s.j := by omega
      rw [hn]
      exact h.room) byte).2
    have hsa := congrArg Sums.a hs
    have hsb := congrArg Sums.b hs
    simp only [sums, Sums.plain] at hb hsa hsb
    omega
  · trivial

/-- The statements that are left: three for each byte, and two for each block. -/
def left (s : HashLoop) : Nat :=
  match s.point with
  | .outer => 5 * s.len
  | .inner => 5 * s.len + 3 * (s.tlen - s.j) + 1
  | .addA => 5 * s.len + 3 * (s.tlen - s.j)
  | .addB => 5 * s.len + 3 * (s.tlen - s.j) - 1

theorem Sound.outer (h : Sound data s t) (hp : s.point = .outer) (hs : next data s = some s') :
    Sound data s' t ∧ s'.left < s.left := by
  have hst := h.stands
  simp only [Stands, hp] at hst
  obtain ⟨hred, hj, ht⟩ := hst
  have hpos := h.position
  simp only [next, hp] at hs
  split at hs
  · rename_i hlen
    have hle : (if s.len > adler32Nmax then adler32Nmax else s.len) ≤ adler32Nmax := by
      split <;> omega
    have hle' : (if s.len > adler32Nmax then adler32Nmax else s.len) ≤ s.len := by
      split <;> omega
    have hpos' : 0 < (if s.len > adler32Nmax then adler32Nmax else s.len) := by
      split
      · decide
      · exact hlen
    generalize (if s.len > adler32Nmax then adler32Nmax else s.len) = tlen at hs hle hle' hpos'
    cases hs
    apply And.intro
    · exact ⟨by dsimp only; omega, Nat.zero_le _, h.read, room_of_reduced hred hle, ht⟩
    · simp only [left, hp]
      omega
  · cases hs

theorem Sound.inner (h : Sound data s t) (hp : s.point = .inner) (hs : next data s = some s') :
    ∃ t', Sound data s' t' ∧ s'.left < s.left := by
  have ht : sums (s.a, s.b) = t := by
    have hst := h.stands
    simpa only [Stands, hp] using hst
  simp only [next, hp] at hs
  split at hs
  · rename_i hj
    cases hs
    refine ⟨t, ⟨h.position, h.inBlock, h.read, h.room, hj, ht⟩, ?_⟩
    simp only [left, hp]
    omega
  · rename_i hj
    have hend : s.j = s.tlen := Nat.le_antisymm h.inBlock (Nat.not_lt.1 hj)
    have hred := Sums.reduce_reduced t
    have hread : t.reduce.reduce = (data.take s.i).foldl Sums.add .start :=
      hred.reduce_eq.trans h.read
    have hmod : sums (s.a % adler32Base, s.b % adler32Base) = t.reduce := ht ▸ rfl
    cases hs
    refine ⟨t.reduce, ⟨h.position, h.inBlock, hread, ?_, hred, hend, hmod⟩, ?_⟩
    · exact room_of_reduced hred (by dsimp only; omega)
    · simp only [left, hp]
      omega

theorem Sound.addA (h : Sound data s t) (hp : s.point = .addA) (hs : next data s = some s') :
    Sound data s' t ∧ s'.left < s.left := by
  have hsafe := h.safe
  have hst := h.stands
  simp only [Stands, hp] at hst
  simp only [Safe, hp] at hsafe
  obtain ⟨hj, ht⟩ := hst
  obtain ⟨hlt, hsum⟩ := hsafe
  have hbyte := List.getElem?_eq_getElem hlt
  simp only [next, hp, hbyte, Option.map_some, Option.some.injEq] at hs
  subst hs
  have ha : (s.a + data[s.i].toUInt32).toNat = t.a + data[s.i].toNat := by
    rw [UInt32.toNat_add, UInt8.toNat_toUInt32, Nat.mod_eq_of_lt hsum, ← ht]
    rfl
  have hb : s.b.toNat = t.b := congrArg Sums.b ht
  apply And.intro
  · exact ⟨h.position, h.inBlock, h.read, h.room, hj, data[s.i], hbyte, Sums.ext ha hb⟩
  · simp only [left, hp]
    omega

theorem Sound.addB (h : Sound data s t) (hp : s.point = .addB) (hs : next data s = some s') :
    ∃ t', Sound data s' t' ∧ s'.left < s.left := by
  have hsafe := h.safe
  have hst := h.stands
  simp only [Stands, hp] at hst
  simp only [Safe, hp] at hsafe
  obtain ⟨hj, byte, hbyte, ht⟩ := hst
  simp only [next, hp, Option.some.injEq] at hs
  subst hs
  have hpos := h.position
  have hn : s.tlen - s.j = s.tlen - (s.j + 1) + 1 := by omega
  have hroom : Room (s.tlen - (s.j + 1) + 1) t := hn ▸ h.room
  have hread : (t.plain byte).reduce = (data.take (s.i + 1)).foldl Sums.add .start := by
    rw [List.take_add_one, hbyte, Option.toList_some, List.foldl_append, ← h.read,
      List.foldl_cons, List.foldl_nil, Sums.reduce_add]
  have hsum : sums (s.a, s.b + s.a) = t.plain byte := by
    have ha := congrArg Sums.a ht
    have hb := congrArg Sums.b ht
    have hb' : (s.b + s.a).toNat = s.b.toNat + s.a.toNat := by
      rw [UInt32.toNat_add, Nat.mod_eq_of_lt hsafe]
    simp only [sums] at ha hb
    exact Sums.ext ha (by simp only [sums, Sums.plain, hb', ha, hb])
  refine ⟨t.plain byte, ⟨?_, hj, hread, hroom.plain byte, hsum⟩, ?_⟩
  · dsimp only
    omega
  · simp only [left, hp]
    omega

theorem sound_next (h : ∃ t, Sound data s t) (hs : next data s = some s') :
    (∃ t, Sound data s' t) ∧ s'.left < s.left := by
  obtain ⟨t, h⟩ := h
  cases hp : s.point with
  | outer => exact (h.outer hp hs).imp_left fun h' => ⟨t, h'⟩
  | inner =>
    obtain ⟨t', h', hlt⟩ := h.inner hp hs
    exact ⟨⟨t', h'⟩, hlt⟩
  | addA => exact (h.addA hp hs).imp_left fun h' => ⟨t, h'⟩
  | addB =>
    obtain ⟨t', h', hlt⟩ := h.addB hp hs
    exact ⟨⟨t', h'⟩, hlt⟩

theorem Sound.halted (h : Sound data s t) (hs : next data s = none) :
    s.point = .outer ∧ s.len = 0 ∧ s.i = data.length ∧ s.result = checksum data := by
  have hst := h.stands
  have hpos := h.position
  cases hp : s.point with
  | outer =>
    simp only [Stands, hp] at hst
    obtain ⟨hred, hj, ht⟩ := hst
    have hlen : s.len = 0 := by
      simp only [next, hp, ite_eq_right_iff, reduceCtorEq, imp_false] at hs
      omega
    have hi : s.i = data.length := by omega
    have hread := h.read
    rw [hred.reduce_eq, hi, List.take_length] at hread
    refine ⟨rfl, hlen, hi, ?_⟩
    rw [result, value_eq (s := (s.a, s.b)) (ht ▸ hred), ht, hread, checksum]
  | inner =>
    simp only [next, hp] at hs
    split at hs <;> cases hs
  | addA =>
    simp only [Stands, hp] at hst
    rw [next, hp, List.getElem?_eq_getElem (h.byte hst.1)] at hs
    cases hs
  | addB =>
    rw [next, hp] at hs
    cases hs

end HashLoop

theorem adler32Add_eq (h : (sums s).Reduced) (c : UInt8) :
    sums (adler32Add s c) = (sums s).add c := by
  have ha : s.1.toNat < 65521 := h.a
  have hb : s.2.toNat < 65521 := h.b
  have hc := c.toNat_lt
  have hsum : ((s.1 + c.toUInt32) % 65521).toNat = (s.1.toNat + c.toNat) % base := by
    have hplain : s.1.toNat + c.toNat < 2 ^ 32 := by omega
    rw [UInt32.toNat_mod, UInt32.toNat_add, UInt8.toNat_toUInt32, Nat.mod_eq_of_lt hplain]
    rfl
  have hlt : (s.1.toNat + c.toNat) % base < 65521 := Nat.mod_lt _ base_prime.pos
  have hsum' : ((s.2 + (s.1 + c.toUInt32) % 65521) % 65521).toNat =
      (s.2.toNat + (s.1.toNat + c.toNat) % base) % base := by
    have hplain : s.2.toNat + (s.1.toNat + c.toNat) % base < 2 ^ 32 := by omega
    rw [UInt32.toNat_mod, UInt32.toNat_add, hsum, Nat.mod_eq_of_lt hplain]
    rfl
  apply Sums.ext hsum
  rw [sums, adler32Add, hsum', Sums.add, Nat.add_mod_mod]
  rfl

theorem adler32_eq (data : Bytes) : adler32 data = checksum data := by
  have hfold (s : UInt32 × UInt32) (h : (sums s).Reduced) :
      sums (data.foldl adler32Add s) = data.foldl Sums.add (sums s) := by
    induction data generalizing s with
    | nil => rfl
    | cons c data ih =>
      have hs := adler32Add_eq h c
      have hred : (sums (adler32Add s c)).Reduced := by
        rw [hs]
        exact ⟨Nat.mod_lt _ base_prime.pos, Nat.mod_lt _ base_prime.pos⟩
      rw [List.foldl_cons, List.foldl_cons, ih _ hred, hs]
  have hs : sums (data.foldl adler32Add (1, 0)) = data.foldl Sums.add .start :=
    hfold (1, 0) start_reduced
  rw [adler32, value_eq (hs ▸ foldl_reduced data), hs, checksum]

open HashLoop in
/-- Every statement of the loop reads inside the data and adds without an overflow, the loop ends,
and its result is the checksum with a reduction after every byte. -/
theorem hash_loop (data : Bytes) :
    (∀ s, Reaches (next data) (start data) s → Safe data s) ∧
    (∃ s, Reaches (next data) (start data) s ∧ next data s = none ∧ s.point = .outer ∧
      s.len = 0 ∧ s.i = data.length ∧ s.result = adler32 data) ∧
    calculateHashAdler32 data = adler32 data := by
  have hstart : ∃ t, Sound data (start data) t := ⟨.start, sound_start data⟩
  have hsafe (s : HashLoop) (hr : Reaches (next data) (start data) s) : Safe data s := by
    obtain ⟨t, h⟩ := Transition.reaches_invariant (I := fun s => ∃ t, Sound data s t)
      (fun _ _ h hs => (sound_next h hs).1) hstart hr
    exact h.safe
  obtain ⟨s, hr, hnone, t, h⟩ := Transition.exists_halted (I := fun s => ∃ t, Sound data s t) left
    (fun _ _ h hs => sound_next h hs) hstart
  obtain ⟨hp, hlen, hi, hresult⟩ := h.halted hnone
  rw [adler32_eq, calculateHashAdler32_eq]
  exact ⟨hsafe, ⟨s, hr, hnone, hp, hlen, hi, hresult⟩, rfl⟩

end Persistency.Cpp
