import Mathlib

/-!
# Fixed-width big-endian byte strings

Byte strings are lists of octets. `toBytesBE width n` writes `n` in exactly
`width` octets, most significant first, keeping leading zero octets, and
`ofBytesBE` reads a string back as a number. These are the encodings of
Solidity's ABI words and of Rust's `to_be_bytes` for fixed-width integers.

The round trip `ofBytesBE_toBytesBE` and its converse `toBytesBE_ofBytesBE`
carry every later decoding argument, also for bit vectors of whole octets
(`ofNat_ofBytesBE_toBytesBE`); `toBytesBE_injective` says that a fixed-width
field is determined by its encoding.
-/

namespace Abi

/-- One octet. -/
abbrev Byte := BitVec 8

/-- A byte string, as `bytes` in Solidity and `Vec<u8>` in Rust. -/
abbrev Bytes := List Byte

/-- `n` modulo `256 ^ width`, written in `width` octets, most significant first. -/
def toBytesBE : Nat → Nat → Bytes
  | 0, _ => []
  | width + 1, n => toBytesBE width (n / 256) ++ [BitVec.ofNat 8 n]

/-- The number a byte string denotes when read most significant octet first. -/
def ofBytesBE (bytes : Bytes) : Nat :=
  bytes.foldl (fun acc byte => acc * 256 + byte.toNat) 0

@[simp] theorem length_toBytesBE (width n : Nat) : (toBytesBE width n).length = width := by
  induction width generalizing n with
  | zero => rfl
  | succ width ih => simp [toBytesBE, ih]

@[simp] theorem ofBytesBE_nil : ofBytesBE [] = 0 := rfl

/-- Appending one octet shifts the number by one octet. -/
theorem ofBytesBE_append_singleton (bytes : Bytes) (byte : Byte) :
    ofBytesBE (bytes ++ [byte]) = ofBytesBE bytes * 256 + byte.toNat := by
  simp [ofBytesBE, List.foldl_append]

/-- Reading a concatenation shifts the first part by the length of the second. -/
theorem ofBytesBE_append (front back : Bytes) :
    ofBytesBE (front ++ back) = ofBytesBE front * 256 ^ back.length + ofBytesBE back := by
  induction back using List.reverseRecOn with
  | nil => simp [ofBytesBE]
  | append_singleton back byte ih =>
      rw [← List.append_assoc, ofBytesBE_append_singleton, ih, ofBytesBE_append_singleton,
        List.length_append, List.length_singleton, pow_succ]
      ring

/-- A string of `k` octets denotes a number below `256 ^ k`. -/
theorem ofBytesBE_lt (bytes : Bytes) : ofBytesBE bytes < 256 ^ bytes.length := by
  induction bytes using List.reverseRecOn with
  | nil => simp
  | append_singleton bytes byte ih =>
      have byteBound : byte.toNat < 256 := byte.isLt
      rw [ofBytesBE_append_singleton, List.length_append, List.length_singleton, pow_succ]
      omega

/-- Reading back a fixed-width encoding gives the number modulo `256 ^ width`. -/
theorem ofBytesBE_toBytesBE (width n : Nat) :
    ofBytesBE (toBytesBE width n) = n % 256 ^ width := by
  induction width generalizing n with
  | zero => simp [toBytesBE, Nat.mod_one]
  | succ width ih =>
      have lastByte : ofBytesBE [BitVec.ofNat 8 n] = n % 256 := by
        simp [ofBytesBE]
      rw [toBytesBE, ofBytesBE_append, ih, lastByte, List.length_singleton, pow_one,
        pow_succ', Nat.mod_mul]
      ring

/-- Every byte string is the fixed-width encoding of the number it denotes. -/
theorem toBytesBE_ofBytesBE (bytes : Bytes) :
    toBytesBE bytes.length (ofBytesBE bytes) = bytes := by
  induction bytes using List.reverseRecOn with
  | nil => rfl
  | append_singleton bytes byte ih =>
      have byteBound : byte.toNat < 256 := byte.isLt
      have quotient : ofBytesBE (bytes ++ [byte]) / 256 = ofBytesBE bytes := by
        rw [ofBytesBE_append_singleton]
        omega
      have lastByte : BitVec.ofNat 8 (ofBytesBE (bytes ++ [byte])) = byte := by
        apply BitVec.eq_of_toNat_eq
        rw [ofBytesBE_append_singleton, BitVec.toNat_ofNat]
        omega
      rw [List.length_append, List.length_singleton, toBytesBE, quotient, ih, lastByte]

/-- A bit vector of `width` octets is read back from its encoding. -/
theorem ofNat_ofBytesBE_toBytesBE (width : Nat) (value : BitVec (8 * width)) :
    BitVec.ofNat (8 * width) (ofBytesBE (toBytesBE width value.toNat)) = value := by
  have bound : value.toNat < 256 ^ width := by
    rw [show (256 : Nat) = 2 ^ 8 by norm_num, ← pow_mul]
    exact value.isLt
  rw [ofBytesBE_toBytesBE, Nat.mod_eq_of_lt bound, BitVec.ofNat_toNat, BitVec.setWidth_eq]

/-- A string of `width` octets reads as a bit vector exactly when it is that vector's
encoding. -/
theorem ofNat_ofBytesBE_eq_iff {width : Nat} {bytes : Bytes} (length : bytes.length = width)
    (value : BitVec (8 * width)) :
    BitVec.ofNat (8 * width) (ofBytesBE bytes) = value ↔ bytes = toBytesBE width value.toNat := by
  constructor
  · rintro rfl
    have bound : ofBytesBE bytes < 2 ^ (8 * width) := by
      rw [pow_mul, ← length]
      exact ofBytesBE_lt bytes
    rw [BitVec.toNat_ofNat, Nat.mod_eq_of_lt bound, ← length, toBytesBE_ofBytesBE]
  · rintro rfl
    exact ofNat_ofBytesBE_toBytesBE width value

/-- A wide encoding is the encoding of the high octets followed by that of the low ones. -/
theorem toBytesBE_add (front back n : Nat) :
    toBytesBE (front + back) n = toBytesBE front (n / 256 ^ back) ++ toBytesBE back n := by
  induction back generalizing n with
  | zero => simp [toBytesBE]
  | succ back inductionHypothesis =>
      rw [← Nat.add_assoc, toBytesBE, inductionHypothesis, toBytesBE, List.append_assoc,
        Nat.div_div_eq_div_mul, ← pow_succ']

/-- The encoding of zero is all zero octets. -/
theorem toBytesBE_zero (width : Nat) : toBytesBE width 0 = List.replicate width 0 := by
  induction width with
  | zero => rfl
  | succ width inductionHypothesis =>
      rw [toBytesBE, Nat.zero_div, inductionHypothesis, List.replicate_succ']
      rfl

/-- A fixed-width encoding keeps only the number's residue modulo `256 ^ width`. -/
theorem toBytesBE_mod (width n : Nat) : toBytesBE width (n % 256 ^ width) = toBytesBE width n := by
  have back := toBytesBE_ofBytesBE (toBytesBE width n)
  rwa [length_toBytesBE, ofBytesBE_toBytesBE] at back

/-- Octet `k` of an encoding, counted from the front, is the number's octet `width - 1 - k`
counted from the least significant. -/
theorem get_toBytesBE (width n : Nat) (index : Fin (toBytesBE width n).length) :
    (toBytesBE width n).get index = BitVec.ofNat 8 (n / 256 ^ (width - 1 - index)) := by
  obtain ⟨k, inBounds⟩ := index
  simp only [List.get_eq_getElem]
  induction width generalizing n k with
  | zero => simp at inBounds
  | succ width inductionHypothesis =>
      simp only [toBytesBE]
      by_cases last : k = width
      · subst last
        simp
      · -- an octet before the last is an octet of the number without its lowest octet
        have front : k < (toBytesBE width (n / 256)).length := by
          simp only [length_toBytesBE] at inBounds ⊢
          omega
        have exponent : width - 1 - k + 1 = width + 1 - 1 - k := by
          simp only [length_toBytesBE] at front
          omega
        rw [List.getElem_append_left front, inductionHypothesis _ _ front,
          Nat.div_div_eq_div_mul, ← pow_succ', exponent]

/-- Fixed-width encodings of numbers below `256 ^ width` are injective. -/
theorem toBytesBE_injective {width m n : Nat} (mBound : m < 256 ^ width) (nBound : n < 256 ^ width)
    (same : toBytesBE width m = toBytesBE width n) : m = n := by
  have readBack := congrArg ofBytesBE same
  rwa [ofBytesBE_toBytesBE, ofBytesBE_toBytesBE, Nat.mod_eq_of_lt mBound,
    Nat.mod_eq_of_lt nBound] at readBack

end Abi
