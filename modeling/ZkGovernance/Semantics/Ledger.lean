import Mathlib

/-!
# Totals of a ledger under point writes

A ledger assigns an amount to every account of a finite type; its total is
the sum over all accounts. Contracts keep balances in mappings and write one
slot at a time, so every conservation argument about them rests on one fact:
writing one entry changes the total by the new entry minus the old one
(`ledgerTotal_update_add`). No entry exceeds the total.
-/

namespace Semantics

open Finset

variable {Account : Type*} [Fintype Account]

/-- The total of a ledger: its amounts summed over every account. -/
def ledgerTotal (ledger : Account → ℕ) : ℕ :=
  ∑ account, ledger account

/-- Writing one entry changes the total by the new amount minus the replaced one. -/
theorem ledgerTotal_update_add [DecidableEq Account] (ledger : Account → ℕ) (account : Account)
    (amount : ℕ) :
    ledgerTotal (Function.update ledger account amount) + ledger account =
      ledgerTotal ledger + amount := by
  have others : ∑ other ∈ univ \ {account}, ledger other =
      ∑ other ∈ univ.erase account, ledger other := by
    rw [sdiff_singleton_eq_erase]
  have whole := add_sum_erase univ ledger (mem_univ account)
  unfold ledgerTotal
  rw [sum_update_of_mem (mem_univ account), others, ← whole]
  omega

/-- No entry exceeds the total. -/
theorem le_ledgerTotal (ledger : Account → ℕ) (account : Account) :
    ledger account ≤ ledgerTotal ledger :=
  single_le_sum (fun _ _ => Nat.zero_le _) (mem_univ account)

end Semantics
