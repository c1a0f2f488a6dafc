import ZkGovernance.Abi.BigEndian

/-!
# Swapping blocks of bits

A byte-order reversal written with masks and shifts, as Solidity code does it,
is a sequence of stages: each stage keeps the bits a mask selects, moves one
half of every pair of neighbouring `s`-bit blocks down by `s` and the other
half up. Where the masks select as intended, bit `i` of a stage's result is
bit `i ^^^ s` of its input (`getLsbD_swapBlocks`). `SwapsBlocks hi lo s`
states that the masks do so at every bit; for fixed masks it is decided by
evaluation. Composing the stages composes the index maps. A word is
determined by its two halves (`eq_of_halves`).

A word whose bit `i` is bit `i % 8` of the other word's octet `width - 1 - i / 8`
is that word with its octets in reverse order: its big-endian encoding is the
other's reversed (`toBytesBE_reverse_of_getLsbD`), which is how a reversal
written with masks is read as a little-endian encoding. An octet shifted to the
top of a word is likewise the little-endian encoding of that octet
(`toBytesBE_shiftLeft`).
-/

namespace Abi

variable {w : Nat}

/-- At bit `i`, the masks `hi` and `lo` select the right half of a swap of `s`-bit blocks:
either bit `i ^^^ s` is `s` above `i` and only `hi` selects it, or it is `s` below `i` and only
`lo` selects it. -/
def SwapsBlocksAt (hi lo : BitVec w) (s i : Nat) : Prop :=
  (hi.getLsbD (s + i) = true ∧ (i < s ∨ lo.getLsbD (i - s) = false) ∧ i ^^^ s = s + i) ∨
    (hi.getLsbD (s + i) = false ∧ ¬ i < s ∧ lo.getLsbD (i - s) = true ∧ i ^^^ s = i - s)

/-- The masks select a swap of `s`-bit blocks at every bit. -/
def SwapsBlocks (hi lo : BitVec w) (s : Nat) : Prop :=
  ∀ i < w, SwapsBlocksAt hi lo s i

instance (hi lo : BitVec w) (s i : Nat) : Decidable (SwapsBlocksAt hi lo s i) :=
  inferInstanceAs (Decidable (_ ∨ _))

instance (hi lo : BitVec w) (s : Nat) : Decidable (SwapsBlocks hi lo s) :=
  inferInstanceAs (Decidable (∀ i < w, _))

/-- One stage of a block swap moves bit `i ^^^ s` of its input to bit `i`. -/
theorem getLsbD_swapBlocks {hi lo : BitVec w} {s : Nat} (swaps : SwapsBlocks hi lo s)
    (v : BitVec w) {i : Nat} (lt : i < w) :
    (((v &&& hi) >>> s) ||| ((v &&& lo) <<< s)).getLsbD i = v.getLsbD (i ^^^ s) := by
  simp only [BitVec.getLsbD_or, BitVec.getLsbD_and, BitVec.getLsbD_ushiftRight,
    BitVec.getLsbD_shiftLeft, lt, decide_true, Bool.true_and]
  rcases swaps i lt with ⟨upper, lower, flipped⟩ | ⟨upper, notBelow, lower, flipped⟩
  · -- the bit comes from the block above, which only `hi` keeps
    rw [flipped, upper]
    rcases lower with below | unselected
    · simp [below]
    · simp [unselected]
  · -- the bit comes from the block below, which only `lo` keeps
    rw [flipped, upper, lower]
    simp [notBelow]

/-- The last stage swaps the two halves of a word of `2 * s` bits without masks. -/
theorem getLsbD_swapHalves {s : Nat} (v : BitVec (2 * s)) {i : Nat} (lt : i < 2 * s) :
    ((v >>> s) ||| (v <<< s)).getLsbD i =
      v.getLsbD (if i < s then i + s else i - s) := by
  simp only [BitVec.getLsbD_or, BitVec.getLsbD_ushiftRight, BitVec.getLsbD_shiftLeft, lt,
    decide_true, Bool.true_and]
  by_cases lower : i < s
  · simp [lower, Nat.add_comm]
  · -- bit `s + i` lies beyond the word
    have beyond : v.getLsbD (s + i) = false := BitVec.getLsbD_of_ge v _ (by omega)
    simp [lower, beyond]

/-- A word of `2 * s` bits is determined by its lower and its upper half. -/
theorem eq_of_halves {s : Nat} {x y : BitVec (2 * s)} (lower : x.setWidth s = y.setWidth s)
    (upper : (x >>> s).setWidth s = (y >>> s).setWidth s) : x = y := by
  apply BitVec.eq_of_getLsbD_eq
  intro i lt
  by_cases low : i < s
  · have bit := congrArg (fun half => half.getLsbD i) lower
    simpa [BitVec.getLsbD_setWidth, low] using bit
  · -- bit `i` is bit `i - s` of the upper half
    have bit := congrArg (fun half => half.getLsbD (i - s)) upper
    have within : i - s < s := by omega
    have shifted : s + (i - s) = i := by omega
    simpa [BitVec.getLsbD_setWidth, BitVec.getLsbD_ushiftRight, within, shifted] using bit

/-- Bit `j` of the octet of `n` at `256 ^ m` is bit `8 * m + j` of `n`. -/
theorem getLsbD_ofNat_div {n m j : Nat} (lt : j < 8) :
    (BitVec.ofNat 8 (n / 256 ^ m)).getLsbD j = n.testBit (8 * m + j) := by
  rw [BitVec.getLsbD_ofNat, show (256 : Nat) ^ m = 2 ^ (8 * m) by rw [pow_mul]; norm_num,
    Nat.testBit_div_two_pow]
  simp [lt, Nat.add_comm]

/-- A word whose bit `i` is bit `i % 8` of octet `width - 1 - i / 8` of another word has the
other's octets in reverse order. -/
theorem toBytesBE_reverse_of_getLsbD {width : Nat} {v r : BitVec (8 * width)}
    (reversed : ∀ i < 8 * width, r.getLsbD i = v.getLsbD ((width - 1 - i / 8) * 8 + i % 8)) :
    toBytesBE width r.toNat = (toBytesBE width v.toNat).reverse := by
  apply List.ext_get (by simp)
  intro k inR _
  rw [List.get_reverse' _ _ (by simp; simp at inR; omega), get_toBytesBE, get_toBytesBE]
  -- compare the two octets bit by bit: both are bit `j` of octet `k` from the front
  apply BitVec.eq_of_getLsbD_eq
  intro j small
  rw [getLsbD_ofNat_div small, getLsbD_ofNat_div small, BitVec.testBit_toNat,
    BitVec.testBit_toNat, reversed _ (by simp at inR; omega)]
  congr 1
  simp only [length_toBytesBE] at inR ⊢
  omega

/-- An octet shifted to the top of a word of `width + 1` octets is the little-endian encoding of
that octet. -/
theorem toBytesBE_shiftLeft {value : Nat} (width : Nat) (small : value < 256) :
    toBytesBE (width + 1) (value <<< (8 * width)) = (toBytesBE (width + 1) value).reverse := by
  have shifted : value <<< (8 * width) = value * 256 ^ width := by
    rw [Nat.shiftLeft_eq, pow_mul]
    norm_num
  have top : value * 256 ^ width / 256 ^ width = value :=
    Nat.mul_div_cancel _ (by positivity)
  have rest : value * 256 ^ width % 256 ^ width = 0 := Nat.mul_mod_left _ _
  have low : value / 256 = 0 := Nat.div_eq_of_lt small
  have front : toBytesBE 1 value = [BitVec.ofNat 8 value] := rfl
  have whole : toBytesBE (width + 1) value = List.replicate width 0 ++ [BitVec.ofNat 8 value] := by
    rw [toBytesBE, low, toBytesBE_zero]
  calc toBytesBE (width + 1) (value <<< (8 * width))
      = toBytesBE (1 + width) (value * 256 ^ width) := by rw [shifted, Nat.add_comm]
    _ = toBytesBE 1 value ++ toBytesBE width 0 := by
      rw [toBytesBE_add, top, ← toBytesBE_mod width, rest]
    _ = (toBytesBE (width + 1) value).reverse := by
      rw [front, whole, toBytesBE_zero, List.reverse_append, List.reverse_replicate]
      rfl

end Abi
