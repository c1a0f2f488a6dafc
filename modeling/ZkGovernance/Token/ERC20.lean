import ZkGovernance.Plugin.Types
import ZkGovernance.Semantics.Ledger
import ZkGovernance.Semantics.Steps
import ZkGovernance.Semantics.Except

/-!
# The test token `ERC20`

`contracts/ERC20.sol` is the token the tests give voting power with. It keeps
a `totalSupply`, a `balanceOf` mapping and an `allowance` mapping, and changes
them with checked arithmetic only: every `+=` and `-=` reverts with
`Panic(0x11)` when it leaves the range of `uint256`. `mint` and `burn` are
external and check no permission, so any account may create or destroy any
account's tokens.

Whatever the order of calls, the balances of all accounts add up to
`totalSupply` (`balances_sum_to_totalSupply`): each `+=` or `-=` on a balance is
matched by the same change of another balance or of `totalSupply`, and a
revert undoes the whole call. In particular no balance exceeds `totalSupply`.
-/

namespace ZkGovernance

open Abi Solidity Semantics

namespace ERC20

/-- The storage of `ERC20` that its functions read and write; `name`, `symbol` and `decimals`
are written by the constructor and read by no function. -/
structure ERC20State where
  totalSupply : Uint256
  balanceOf : Address → Uint256
  allowance : Address → Address → Uint256

/-- The storage the constructor leaves: no supply, no balance, no allowance. -/
def ERC20State.initial : ERC20State where
  totalSupply := 0
  balanceOf _ := 0
  allowance _ _ := 0

/-- `balanceOf[account] += amount`. -/
def credit (state : ERC20State) (account : Address) (amount : Uint256) :
    Except Revert ERC20State := do
  let balance ← orRevert Revert.arithmetic (checkedAdd (state.balanceOf account) amount)
  pure { state with balanceOf := Function.update state.balanceOf account balance }

/-- `balanceOf[account] -= amount`. -/
def debit (state : ERC20State) (account : Address) (amount : Uint256) :
    Except Revert ERC20State := do
  let balance ← orRevert Revert.arithmetic (checkedSub (state.balanceOf account) amount)
  pure { state with balanceOf := Function.update state.balanceOf account balance }

/-- `transfer(recipient, amount)` sent by `sender`: the sender's balance is lowered first,
so a transfer to oneself reads the lowered balance. -/
def transfer (state : ERC20State) (sender recipient : Address) (amount : Uint256) :
    Except Revert ERC20State := do
  let debited ← debit state sender amount
  credit debited recipient amount

/-- `approve(spender, amount)` sent by `sender`. -/
def approve (state : ERC20State) (sender spender : Address) (amount : Uint256) : ERC20State :=
  { state with
    allowance := Function.update state.allowance sender
      (Function.update (state.allowance sender) spender amount) }

/-- `transferFrom(sender, recipient, amount)` sent by `caller`: the allowance is spent, then
the balances move as in `transfer`. -/
def transferFrom (state : ERC20State) (caller sender recipient : Address) (amount : Uint256) :
    Except Revert ERC20State := do
  let allowed ← orRevert Revert.arithmetic (checkedSub (state.allowance sender caller) amount)
  let spent := { state with
    allowance := Function.update state.allowance sender
      (Function.update (state.allowance sender) caller allowed) }
  let debited ← debit spent sender amount
  credit debited recipient amount

/-- `_mint(to, amount)`. -/
def _mint (state : ERC20State) (recipient : Address) (amount : Uint256) :
    Except Revert ERC20State := do
  let credited ← credit state recipient amount
  let supply ← orRevert Revert.arithmetic (checkedAdd credited.totalSupply amount)
  pure { credited with totalSupply := supply }

/-- `_burn(from, amount)`. -/
def _burn (state : ERC20State) (holder : Address) (amount : Uint256) :
    Except Revert ERC20State := do
  let debited ← debit state holder amount
  let supply ← orRevert Revert.arithmetic (checkedSub debited.totalSupply amount)
  pure { debited with totalSupply := supply }

/-- The token's external functions that write storage, with their caller where they read it. -/
inductive Call where
  | transfer (sender recipient : Address) (amount : Uint256)
  | approve (sender spender : Address) (amount : Uint256)
  | transferFrom (caller sender recipient : Address) (amount : Uint256)
  | mint (recipient : Address) (amount : Uint256)
  | burn (holder : Address) (amount : Uint256)

/-- The storage a call leaves, or its revert; `mint` and `burn` call `_mint` and `_burn`
without any check. -/
def Call.run (state : ERC20State) : Call → Except Revert ERC20State
  | .transfer sender recipient amount => ERC20.transfer state sender recipient amount
  | .approve sender spender amount => .ok (ERC20.approve state sender spender amount)
  | .transferFrom caller sender recipient amount =>
      ERC20.transferFrom state caller sender recipient amount
  | .mint recipient amount => _mint state recipient amount
  | .burn holder amount => _burn state holder amount

/-- One call that returns. -/
def Step (state : ERC20State) (call : Call) (next : ERC20State) : Prop :=
  call.run state = .ok next

/-! ## Balances and supply -/

/-- The balances of all accounts, added up without overflow. -/
def ERC20State.balanceTotal (state : ERC20State) : ℕ :=
  ledgerTotal fun account => (state.balanceOf account).toNat

/-- Writing one balance changes the total by the new balance minus the old. -/
theorem balanceTotal_update (state : ERC20State) (account : Address) (balance : Uint256) :
    ({ state with balanceOf := Function.update state.balanceOf account balance } :
        ERC20State).balanceTotal + (state.balanceOf account).toNat =
      state.balanceTotal + balance.toNat := by
  have written : (fun other => (Function.update state.balanceOf account balance other).toNat) =
      Function.update (fun other => (state.balanceOf other).toNat) account balance.toNat := by
    funext other
    exact Function.apply_update (fun _ => BitVec.toNat) state.balanceOf account balance other
  simp only [ERC20State.balanceTotal, written]
  exact ledgerTotal_update_add _ account balance.toNat

/-- A credit adds the amount to the total of the balances and leaves the supply alone. -/
theorem credit_spec {state next : ERC20State} {account : Address} {amount : Uint256}
    (credited : credit state account amount = .ok next) :
    next.balanceTotal = state.balanceTotal + amount.toNat ∧
      next.totalSupply = state.totalSupply := by
  simp only [credit, Except.bind_eq_ok, orRevert_eq_ok, Except.pure_eq_ok] at credited
  obtain ⟨balance, sum, rfl⟩ := credited
  have sumNat := (checkedAdd_eq_some.mp sum).2
  have total := balanceTotal_update state account balance
  exact ⟨by omega, rfl⟩

/-- A debit removes the amount from the total of the balances and leaves the supply alone. -/
theorem debit_spec {state next : ERC20State} {account : Address} {amount : Uint256}
    (debited : debit state account amount = .ok next) :
    next.balanceTotal + amount.toNat = state.balanceTotal ∧
      next.totalSupply = state.totalSupply := by
  simp only [debit, Except.bind_eq_ok, orRevert_eq_ok, Except.pure_eq_ok] at debited
  obtain ⟨balance, difference, rfl⟩ := debited
  have differenceNat := checkedSub_eq_some.mp difference
  have total := balanceTotal_update state account balance
  exact ⟨by omega, rfl⟩

/-- The balances add up to the supply. -/
def Conserved (state : ERC20State) : Prop :=
  state.balanceTotal = state.totalSupply.toNat

/-- Moving an amount from one balance to another keeps the balances' total. -/
theorem Conserved.move {state debited next : ERC20State} {sender recipient : Address}
    {amount : Uint256} (conserved : Conserved state)
    (debiting : debit state sender amount = .ok debited)
    (crediting : credit debited recipient amount = .ok next) : Conserved next := by
  obtain ⟨lowered, sameSupply⟩ := debit_spec debiting
  obtain ⟨raised, sameSupply'⟩ := credit_spec crediting
  unfold Conserved at conserved ⊢
  rw [sameSupply', sameSupply]
  omega

/-- Every call keeps the balances adding up to the supply: transfers move an amount between
balances, `_mint` and `_burn` change one balance and the supply by the same amount, and
`approve` writes no balance. -/
theorem Conserved.step {state next : ERC20State} {call : Call} (conserved : Conserved state)
    (step : Step state call next) : Conserved next := by
  cases call with
  | transfer sender recipient amount =>
      simp only [Step, Call.run, ERC20.transfer, Except.bind_eq_ok] at step
      obtain ⟨debited, debiting, crediting⟩ := step
      exact conserved.move debiting crediting
  | approve sender spender amount =>
      simp only [Step, Call.run, Except.ok.injEq] at step
      subst step
      exact conserved
  | transferFrom caller sender recipient amount =>
      simp only [Step, Call.run, ERC20.transferFrom, Except.bind_eq_ok, orRevert_eq_ok] at step
      obtain ⟨allowed, _, debited, debiting, crediting⟩ := step
      -- spending the allowance writes no balance
      have spentConserved : Conserved { state with
          allowance := Function.update state.allowance sender
            (Function.update (state.allowance sender) caller allowed) } := conserved
      exact spentConserved.move debiting crediting
  | mint recipient amount =>
      simp only [Step, Call.run, _mint, Except.bind_eq_ok, orRevert_eq_ok,
        Except.pure_eq_ok] at step
      obtain ⟨credited, crediting, supply, sum, rfl⟩ := step
      obtain ⟨raised, sameSupply⟩ := credit_spec crediting
      have supplyNat := (checkedAdd_eq_some.mp sum).2
      unfold Conserved at conserved ⊢
      rw [sameSupply] at supplyNat
      show credited.balanceTotal = supply.toNat
      omega
  | burn holder amount =>
      simp only [Step, Call.run, _burn, Except.bind_eq_ok, orRevert_eq_ok,
        Except.pure_eq_ok] at step
      obtain ⟨debited, debiting, supply, difference, rfl⟩ := step
      obtain ⟨lowered, sameSupply⟩ := debit_spec debiting
      have supplyNat := checkedSub_eq_some.mp difference
      unfold Conserved at conserved ⊢
      rw [sameSupply] at supplyNat
      show debited.balanceTotal = supply.toNat
      omega

/-- From deployment, over every sequence of calls that return, the balances of all accounts
add up to `totalSupply`, so no account holds more than `totalSupply`. -/
theorem balances_sum_to_totalSupply {final : ERC20State} {calls : List Call}
    (run : Steps (fun state call next => Step state call next) ERC20State.initial calls final) :
    final.balanceTotal = final.totalSupply.toNat ∧
      ∀ account, (final.balanceOf account).toNat ≤ final.totalSupply.toNat := by
  have conserved : Conserved final :=
    Steps.invariant Conserved (fun step conserved => conserved.step step) run
      (by simp [Conserved, ERC20State.balanceTotal, ledgerTotal, ERC20State.initial])
  refine ⟨conserved, fun account => ?_⟩
  rw [← conserved]
  exact le_ledgerTotal (fun account => (final.balanceOf account).toNat) account

/-- Alice mints `10` tokens and sends `3` to Bob. -/
theorem balances_sum_to_totalSupply_transfer :
    ∃ final, Steps (fun state call next => Step state call next) ERC20State.initial
        [.mint 0xa11ce 10, .transfer 0xa11ce 0xb0b 3] final ∧
      (final.balanceTotal = final.totalSupply.toNat ∧
        ∀ account, (final.balanceOf account).toNat ≤ final.totalSupply.toNat) := by
  obtain ⟨minted, final, minting, transferring⟩ : ∃ minted final,
      Step ERC20State.initial (.mint 0xa11ce 10) minted ∧
        Step minted (.transfer 0xa11ce 0xb0b 3) final :=
    ⟨_, _, rfl, rfl⟩
  have run : Steps (fun state call next => Step state call next) ERC20State.initial
      [.mint 0xa11ce 10, .transfer 0xa11ce 0xb0b 3] final :=
    .cons minting (.single transferring)
  exact ⟨final, run, balances_sum_to_totalSupply run⟩

/-! ## The external interface -/

/-- The signatures of the external functions of `ERC20`, from which its dispatcher's selectors
are computed: the getters Solidity generates for the public state variables, then the declared
functions. The contract has neither a fallback nor a receive function. -/
def externalFunctions : List String :=
  ["totalSupply()", "balanceOf(address)", "allowance(address,address)", "name()", "symbol()",
    "decimals()", "transfer(address,uint256)", "approve(address,uint256)",
    "transferFrom(address,address,uint256)", "mint(address,uint256)", "burn(address,uint256)"]

/-- What `ERC20` in storage `state` answers to a view call of the function `signature` with the
given argument words: the returned word, or `none` for a revert. The getters of `totalSupply`
and `balanceOf` return storage. A signature the contract does not have reverts: the dispatcher
matches no selector and there is no fallback (the selectors of the signatures compared here are
distinct). What the other functions return no strategy reads. -/
inductive ERC20State.Answers (state : ERC20State) :
    String → List Uint256 → Option Uint256 → Prop where
  | totalSupply : state.Answers "totalSupply()" [] (some state.totalSupply)
  | balanceOf (account : Address) :
      state.Answers "balanceOf(address)" [account.setWidth 256] (some (state.balanceOf account))
  | missing {signature : String} {arguments : List Uint256}
      (notExternal : signature ∉ externalFunctions) : state.Answers signature arguments none

/-- A call of a function `ERC20` does not have reverts. -/
theorem ERC20State.Answers.eq_none_of_not_mem {state : ERC20State} {signature : String}
    {arguments : List Uint256} {result : Option Uint256}
    (answers : state.Answers signature arguments result)
    (notExternal : signature ∉ externalFunctions) : result = none := by
  cases answers with
  | totalSupply => exact absurd (by simp [externalFunctions]) notExternal
  | balanceOf account => exact absurd (by simp [externalFunctions]) notExternal
  | missing _ => rfl

/-- The getter of `balanceOf` returns the stored balance of the account its word encodes. -/
theorem ERC20State.Answers.balanceOf_eq {state : ERC20State} {account : Address}
    {result : Option Uint256}
    (answers : state.Answers "balanceOf(address)" [account.setWidth 256] result) :
    result = some (state.balanceOf account) := by
  generalize named : "balanceOf(address)" = signature at answers
  generalize encoded : [account.setWidth 256] = arguments at answers
  cases answers with
  | totalSupply => simp at named
  | balanceOf holder =>
      -- the word zero-extends the address, so its low 160 bits give the address back
      have same : account = holder := by
        have words := congrArg (fun words : List Uint256 => (words.head!).setWidth 160) encoded
        simpa [BitVec.setWidth_setWidth_of_le] using words
      rw [same]
  | missing notExternal =>
      subst named
      simp [externalFunctions] at notExternal

end ERC20

end ZkGovernance
