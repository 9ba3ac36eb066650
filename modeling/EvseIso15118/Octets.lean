import Mathlib

namespace EvseIso15118

abbrev Byte := UInt8

/-- The array `uint8_t x[n]`. -/
abbrev Octets (n : ℕ) := Fin n → Byte

/-- `m[i]`; reads past the end give zero. -/
def byteAt (m : List Byte) (i : ℕ) : Byte := m.getD i 0

theorem byteAt_of_lt {m : List Byte} {i : ℕ} (h : i < m.length) : byteAt m i = m[i] := by
  simp [byteAt, h]

theorem byteAt_append_left {a : List Byte} (b : List Byte) {i : ℕ} (h : i < a.length) :
    byteAt (a ++ b) i = byteAt a i := by
  simp [byteAt, List.getElem?_append_left h]

theorem byteAt_append_right {a : List Byte} (b : List Byte) {i : ℕ} (h : a.length ≤ i) :
    byteAt (a ++ b) i = byteAt b (i - a.length) := by
  simp [byteAt, List.getElem?_append_right h]

theorem byteAt_drop (m : List Byte) (k i : ℕ) : byteAt (m.drop k) i = byteAt m (k + i) := by
  simp [byteAt, List.getElem?_drop]

theorem byteAt_take {m : List Byte} {k i : ℕ} (h : i < k) : byteAt (m.take k) i = byteAt m i := by
  simp [byteAt, h]

def asciiBytes (s : String) : List Byte := s.toList.map fun c => UInt8.ofNat c.toNat

section copies
variable {α : Type*}

/-- `memcpy(&dst[off], src, src.length)`. -/
def overwrite (dst : List α) (off : ℕ) (src : List α) : List α :=
  dst.take off ++ src ++ dst.drop (off + src.length)

theorem overwrite_length {dst src : List α} {off : ℕ} (h : off + src.length ≤ dst.length) :
    (overwrite dst off src).length = dst.length := by
  simp [overwrite]
  omega

theorem take_overwrite {dst src : List α} {off : ℕ} (h : off + src.length ≤ dst.length) :
    (overwrite dst off src).take (off + src.length) = dst.take off ++ src := by
  have hl : (dst.take off ++ src).length = off + src.length := by simp; omega
  rw [overwrite, ← hl, List.take_left]

theorem take_drop_overwrite {dst : List α} (src : List α) {off : ℕ} (h : off ≤ dst.length) :
    ((overwrite dst off src).drop off).take src.length = src := by
  have hoff : (dst.take off).length = off := by
    rw [List.length_take]
    omega
  rw [overwrite, List.append_assoc, List.drop_left' hoff, List.take_left]

theorem overwrite_eq_self_iff {dst src : List α} {off : ℕ} (h : off ≤ dst.length) :
    overwrite dst off src = dst ↔ (dst.drop off).take src.length = src := by
  constructor
  · intro heq
    have hsrc := take_drop_overwrite src h
    rwa [heq] at hsrc
  · intro hsrc
    have hsplit : src ++ dst.drop (off + src.length) = dst.drop off := by
      rw [← List.drop_drop]
      nth_rewrite 1 [← hsrc]
      exact List.take_append_drop _ _
    rw [overwrite, List.append_assoc, hsplit, List.take_append_drop]

end copies

theorem byteAt_overwrite {bs src : List Byte} {off : ℕ} (h : off + src.length ≤ bs.length) (i : ℕ) :
    byteAt (overwrite bs off src) i =
      if off ≤ i ∧ i < off + src.length then byteAt src (i - off) else byteAt bs i := by
  have hl : (bs.take off ++ src).length = off + src.length := by
    rw [List.length_append, List.length_take]
    omega
  have ht : (bs.take off).length = off := by
    rw [List.length_take]
    omega
  by_cases hi : i < off + src.length
  · rw [overwrite, byteAt_append_left _ (by omega)]
    by_cases hoff : i < off
    · rw [byteAt_append_left _ (by omega), byteAt_take hoff, if_neg (by omega)]
    · rw [byteAt_append_right _ (by omega), ht, if_pos (by omega)]
  · rw [overwrite, byteAt_append_right _ (by omega), byteAt_drop, hl, if_neg (by omega),
      Nat.add_sub_cancel' (by omega)]

/-- Conversion to a 32-bit `int`. -/
def toInt32 (x : ℤ) : ℤ := (BitVec.ofInt 32 x).toInt

theorem toInt32_eq (x : ℤ) : toInt32 x =
    if x % 4294967296 < 2147483648 then x % 4294967296 else x % 4294967296 - 4294967296 := by
  rw [toInt32, BitVec.toInt_ofInt, Int.bmod_def]
  rfl

theorem toInt32_of_small {x : ℤ} (h : -2147483648 ≤ x) (h' : x < 2147483648) : toInt32 x = x := by
  rw [toInt32_eq]
  split_ifs <;> omega

theorem toInt32_bounds (x : ℤ) : -2147483648 ≤ toInt32 x ∧ toInt32 x < 2147483648 := by
  rw [toInt32_eq]
  split_ifs <;> omega

theorem toInt32_of_large {x : ℤ} (h : 2147483648 ≤ x) (h' : x < 6442450944) :
    toInt32 x = x - 4294967296 := by
  rw [toInt32_eq]
  split_ifs <;> omega

def be16 (hi lo : Byte) : UInt16 := (hi.toUInt16 <<< 8) ||| lo.toUInt16

def le16 (lo hi : Byte) : UInt16 := be16 hi lo

def be32 (a b c d : Byte) : UInt32 :=
  (a.toUInt32 <<< 24) ||| (b.toUInt32 <<< 16) ||| (c.toUInt32 <<< 8) ||| d.toUInt32

/-- The bytes `(n >> 8) & 0xFF, n & 0xFF`. -/
def be16Bytes (n : UInt16) : List Byte := [(n >>> 8 &&& 0xFF).toUInt8, (n &&& 0xFF).toUInt8]

def le16Bytes (n : UInt16) : List Byte := [(n &&& 0xFF).toUInt8, (n >>> 8 &&& 0xFF).toUInt8]

/-- The bytes `(n >> 24) & 0xFF, …, n & 0xFF`. -/
def be32Bytes (n : UInt32) : List Byte :=
  [(n >>> 24 &&& 0xFF).toUInt8, (n >>> 16 &&& 0xFF).toUInt8, (n >>> 8 &&& 0xFF).toUInt8,
    (n &&& 0xFF).toUInt8]

private theorem or_eq_add {a b i : ℕ} (h : b < 2 ^ i) : 2 ^ i * a ||| b = 2 ^ i * a + b :=
  (Nat.two_pow_add_eq_or_of_lt h a).symm

private theorem and_255 (n : ℕ) : n &&& 255 = n % 256 := Nat.and_two_pow_sub_one_eq_mod n 8

theorem be16_toNat (hi lo : Byte) : (be16 hi lo).toNat = 2 ^ 8 * hi.toNat + lo.toNat := by
  have hh := hi.toNat_lt
  have hl := lo.toNat_lt
  have he : (be16 hi lo).toNat = 2 ^ 8 * hi.toNat ||| lo.toNat := by
    simp only [be16, UInt16.toNat_or, UInt16.toNat_shiftLeft, UInt8.toNat_toUInt16,
      Nat.shiftLeft_eq, UInt16.reduceToNat, Nat.reduceMod]
    rw [Nat.mod_eq_of_lt (by omega), Nat.mul_comm]
  rw [he, or_eq_add hl]

theorem be32_toNat (a b c d : Byte) : (be32 a b c d).toNat =
    2 ^ 24 * a.toNat + 2 ^ 16 * b.toNat + 2 ^ 8 * c.toNat + d.toNat := by
  have ha := a.toNat_lt
  have hb := b.toNat_lt
  have hc := c.toNat_lt
  have hd := d.toNat_lt
  have he : (be32 a b c d).toNat =
      2 ^ 24 * a.toNat ||| (2 ^ 16 * b.toNat ||| (2 ^ 8 * c.toNat ||| d.toNat)) := by
    simp only [be32, UInt32.toNat_or, UInt32.toNat_shiftLeft, UInt8.toNat_toUInt32,
      Nat.shiftLeft_eq, Nat.or_assoc, UInt32.reduceToNat, Nat.reduceMod]
    rw [Nat.mod_eq_of_lt (by omega), Nat.mod_eq_of_lt (by omega), Nat.mod_eq_of_lt (by omega),
      Nat.mul_comm, Nat.mul_comm b.toNat, Nat.mul_comm c.toNat]
  have h8 : 2 ^ 8 * c.toNat + d.toNat < 2 ^ 16 := by omega
  have h16 : 2 ^ 16 * b.toNat + (2 ^ 8 * c.toNat + d.toNat) < 2 ^ 24 := by omega
  rw [he, or_eq_add hd, or_eq_add h8, or_eq_add h16]
  omega

theorem be16_be16Bytes (n : UInt16) :
    be16 (n >>> 8 &&& 0xFF).toUInt8 (n &&& 0xFF).toUInt8 = n := by
  apply UInt16.toNat_inj.mp
  have hn := n.toNat_lt
  rw [be16_toNat]
  simp only [UInt16.toNat_toUInt8, UInt16.toNat_and, UInt16.toNat_shiftRight,
    UInt16.reduceToNat, and_255, Nat.shiftRight_eq_div_pow, Nat.reduceMod, Nat.reducePow]
  omega

theorem be32_be32Bytes (n : UInt32) :
    be32 (n >>> 24 &&& 0xFF).toUInt8 (n >>> 16 &&& 0xFF).toUInt8 (n >>> 8 &&& 0xFF).toUInt8
      (n &&& 0xFF).toUInt8 = n := by
  apply UInt32.toNat_inj.mp
  have hn := n.toNat_lt
  rw [be32_toNat]
  simp only [UInt32.toNat_toUInt8, UInt32.toNat_and, UInt32.toNat_shiftRight,
    UInt32.reduceToNat, and_255, Nat.shiftRight_eq_div_pow, Nat.reduceMod, Nat.reducePow]
  omega

end EvseIso15118
