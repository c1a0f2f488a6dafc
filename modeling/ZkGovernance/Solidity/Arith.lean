import Mathlib

/-!
# Checked arithmetic of Solidity 0.8

Outside an `unchecked` block, Solidity reverts with `Panic(0x11)` when an
addition or subtraction of fixed-width unsigned integers leaves the range of
the type. `checkedAdd` and `checkedSub` return `none` exactly then; inside
`unchecked` the operations wrap, which is `BitVec` arithmetic. OpenZeppelin's
`SafeCast.toUint{n}` narrows a value and reverts when it does not fit.

The lemmas read results back as natural numbers, which is how every bound on
the contract's counters is argued.
-/

namespace Solidity

variable {width : Nat}

/-- `a + b` outside `unchecked`: `none` on overflow. -/
def checkedAdd (a b : BitVec width) : Option (BitVec width) :=
  if a.toNat + b.toNat < 2 ^ width then some (a + b) else none

/-- `a - b` outside `unchecked`: `none` on underflow. -/
def checkedSub (a b : BitVec width) : Option (BitVec width) :=
  if b.toNat ≤ a.toNat then some (a - b) else none

/-- `SafeCast.toUint{narrow}`: `none` when the value does not fit. -/
def safeCast (narrow : Nat) (value : BitVec width) : Option (BitVec narrow) :=
  if value.toNat < 2 ^ narrow then some (value.setWidth narrow) else none

theorem checkedAdd_eq_some {a b c : BitVec width} :
    checkedAdd a b = some c ↔ a.toNat + b.toNat < 2 ^ width ∧ c.toNat = a.toNat + b.toNat := by
  unfold checkedAdd
  split
  · rename_i fits
    constructor
    · rintro ⟨⟩
      exact ⟨fits, by rw [BitVec.toNat_add, Nat.mod_eq_of_lt fits]⟩
    · rintro ⟨_, value⟩
      congr 1
      apply BitVec.eq_of_toNat_eq
      rw [BitVec.toNat_add, Nat.mod_eq_of_lt fits, value]
  · rename_i overflows
    simp only [reduceCtorEq, false_iff, not_and]
    intro fits
    exact absurd fits overflows

/-- `checkedAdd_eq_some` with the result as the wrapped sum, to eliminate it. -/
theorem checkedAdd_eq_some_iff_add {a b c : BitVec width} :
    checkedAdd a b = some c ↔ a.toNat + b.toNat < 2 ^ width ∧ a + b = c := by
  unfold checkedAdd
  split <;> simp [*]

theorem checkedSub_eq_some {a b c : BitVec width} :
    checkedSub a b = some c ↔ b.toNat ≤ a.toNat ∧ c.toNat = a.toNat - b.toNat := by
  unfold checkedSub
  split
  · rename_i fits
    constructor
    · rintro ⟨⟩
      exact ⟨fits, BitVec.toNat_sub_of_le fits⟩
    · rintro ⟨_, value⟩
      congr 1
      apply BitVec.eq_of_toNat_eq
      rw [BitVec.toNat_sub_of_le fits, value]
  · rename_i underflows
    simp only [reduceCtorEq, false_iff, not_and]
    intro fits
    exact absurd fits underflows

theorem safeCast_eq_some {narrow : Nat} {value : BitVec width} {result : BitVec narrow} :
    safeCast narrow value = some result ↔
      value.toNat < 2 ^ narrow ∧ result.toNat = value.toNat := by
  unfold safeCast
  split
  · rename_i fits
    constructor
    · rintro ⟨⟩
      exact ⟨fits, by rw [BitVec.toNat_setWidth, Nat.mod_eq_of_lt fits]⟩
    · rintro ⟨_, same⟩
      congr 1
      apply BitVec.eq_of_toNat_eq
      rw [BitVec.toNat_setWidth, Nat.mod_eq_of_lt fits, same]
  · rename_i tooLarge
    simp only [reduceCtorEq, false_iff, not_and]
    intro fits
    exact absurd fits tooLarge

/-- Adding back what was just subtracted gives back the old value. -/
theorem checkedAdd_of_checkedSub {a b c : BitVec width} (subtracted : checkedSub a b = some c) :
    checkedAdd c b = some a := by
  obtain ⟨enough, difference⟩ := checkedSub_eq_some.mp subtracted
  apply checkedAdd_eq_some.mpr
  have bound := a.isLt
  omega

/-- Subtracting what was just added gives back the old value. -/
theorem checkedSub_of_checkedAdd {a b c : BitVec width} (added : checkedAdd a b = some c) :
    checkedSub c b = some a := by
  obtain ⟨_, sum⟩ := checkedAdd_eq_some.mp added
  apply checkedSub_eq_some.mpr
  omega

end Solidity
