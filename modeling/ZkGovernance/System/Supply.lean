import ZkGovernance.System.Execution
import ZkGovernance.System.Tally
import ZkGovernance.Token.ERC20

/-!
# The supply the execution guest reads

`BalanceOf` reads a token through the `sol!` interface `IERC20` of
`balance_of.rs`: its balance function is `balanceOf(address)` and its supply
function `getTotalSupply()`. The token the tests deploy, `contracts/ERC20.sol`,
has `balanceOf` and a public `totalSupply`, but no `getTotalSupply` and no
fallback. On a block where an asset's contract runs that code, the balance
read returns the stored balance (`ChainView.RunsERC20.balanceOf_process`),
while the supply read reverts and Steel's `call()` panics
(`ChainView.RunsERC20.processTotalSupply_eq_none`). The execution guest then
aborts on every config with such an asset, for every proposal and tally
(`total_voting_power_aborts_on_erc20`).

Where every supply read succeeds, the guest's total voting power is the sum of
the supplies modulo `2 ^ 256`, ruint's `+` wrapping
(`total_voting_power_sums_supplies`): it is the real total only while that
total is below `2 ^ 256`.
-/

namespace ZkGovernance

open Abi Strategies ERC20

/-- The view calls of a block at the address `contract` are answered by the code of `ERC20` in
storage `token`: each function of the strategies' `sol!` interfaces is called by its signature,
with its arguments as words. -/
structure Strategies.ChainView.RunsERC20 (view : ChainView) (contract : Address)
    (token : ERC20State) : Prop where
  balanceOf : ∀ account, token.Answers "balanceOf(address)" [account.setWidth 256]
    (view.balanceOf contract account)
  getTotalSupply : token.Answers "getTotalSupply()" [] (view.getTotalSupply contract)
  getPastVotes : ∀ account blockNumber, token.Answers "getPastVotes(address,uint256)"
    [account.setWidth 256, blockNumber] (view.getPastVotes contract account blockNumber)
  getPastTotalSupply : ∀ timepoint, token.Answers "getPastTotalSupply(uint256)" [timepoint]
    (view.getPastTotalSupply contract timepoint)

namespace Strategies.ChainView.RunsERC20

variable {view : ChainView} {asset : Asset} {token : ERC20State}

/-- `BalanceOf::process` reads the account's stored balance. -/
theorem balanceOf_process (runs : view.RunsERC20 asset.contract token) (account : Address) :
    BalanceOf.process view account asset = some (token.balanceOf account) :=
  (runs.balanceOf account).balanceOf_eq

/-- `BalanceOf::get_supply` reverts: `getTotalSupply()` is not a function of `ERC20`. -/
theorem balanceOf_getSupply (runs : view.RunsERC20 asset.contract token) :
    BalanceOf.getSupply view asset = none :=
  runs.getTotalSupply.eq_none_of_not_mem (by simp [externalFunctions])

/-- The supply read of a `BalanceOf` asset on such a token panics. -/
theorem processTotalSupply_eq_none (named : asset.votingPowerStrategy = "BalanceOf")
    (runs : view.RunsERC20 asset.contract token) :
    (Context.default view).processTotalSupply asset = none := by
  simp [Context.processTotalSupply, Context.default, defaultVotingPowerStrategies, named,
    VotingPowerStrategy.getSupply, runs.balanceOf_getSupply]

end Strategies.ChainView.RunsERC20

/-- On every block whose config has a `BalanceOf` asset on a token running `ERC20`, the
execution guest panics while summing the supplies, whatever the proposal and the tally: the
supply `ERC20` keeps is never read. -/
theorem total_voting_power_aborts_on_erc20 (libraries : Libraries) (view : ChainView)
    (input : ExecutionProtocol.Input) (configReturns : String)
    (config : RiscVotingProtocolConfig) (asset : Asset) (token : ERC20State)
    (configured : view.votingProtocolConfig input.configContract input.proposalId =
      some configReturns)
    (parsed : libraries.parseConfig configReturns = some config)
    (member : asset ∈ config.assets) (named : asset.votingPowerStrategy = "BalanceOf")
    (runs : view.RunsERC20 asset.contract token) :
    ExecutionProtocol.totalVotingPowerOf (Context.default view) config = none ∧
      ExecutionProtocol.main libraries view input = none := by
  have panics := ExecutionProtocol.totalVotingPowerOf_eq_none_of_mem member
    (runs.processTotalSupply_eq_none named)
  exact ⟨panics, ExecutionProtocol.main_eq_none_of_totalVotingPowerOf configured parsed panics⟩

/-- The execution guest's total voting power is defined exactly when every asset's supply read
succeeds, and is then the sum of the supplies modulo `2 ^ 256`. -/
theorem total_voting_power_sums_supplies (env : ChainView) (config : RiscVotingProtocolConfig)
    (total : Uint256) :
    ExecutionProtocol.totalVotingPowerOf (Context.default env) config = some total ↔
      (∀ asset ∈ config.assets, ((Context.default env).processTotalSupply asset).isSome) ∧
        total.toNat = totalSupplyOf env config % 2 ^ 256 := by
  have zero : (0 : Uint256).toNat = 0 := rfl
  rw [ExecutionProtocol.totalVotingPowerOf, List.foldlM_add_eq_some_iff, zero, Nat.zero_add]
  rfl

/-- A block on which every contract runs `ERC20` in storage `token` and the plugin serves the
config `"config"`. -/
def erc20Chain (token : ERC20State) : ChainView where
  number := 0xb10c
  hash := 0
  votingProtocolConfig _ _ := some "config"
  getDelegation _ _ _ := some []
  balanceOf _ account := some (token.balanceOf account)
  getTotalSupply _ := none
  getPastVotes _ _ _ := none
  getPastTotalSupply _ _ := none

/-- Every contract of `erc20Chain` answers as `ERC20` does. -/
theorem erc20Chain_runsERC20 (token : ERC20State) (contract : Address) :
    (erc20Chain token).RunsERC20 contract token where
  balanceOf account := .balanceOf account
  getTotalSupply := .missing (by simp [externalFunctions])
  getPastVotes _ _ := .missing (by simp [externalFunctions])
  getPastTotalSupply _ := .missing (by simp [externalFunctions])

/-- The sample config's `BalanceOf` asset on a freshly deployed `ERC20`: the execution guest
aborts on the test deployment's input. -/
theorem total_voting_power_aborts_on_erc20_sample :
    (erc20Chain ERC20State.initial).votingProtocolConfig sampleTallyInput.configContract
        sampleTallyInput.proposalId = some "config" ∧
      VotingProtocol.sampleLibraries.parseConfig "config" = some VotingProtocol.sampleConfig ∧
      VotingProtocol.sampleAsset ∈ VotingProtocol.sampleConfig.assets ∧
      VotingProtocol.sampleAsset.votingPowerStrategy = "BalanceOf" ∧
      (erc20Chain ERC20State.initial).RunsERC20 VotingProtocol.sampleAsset.contract
        ERC20State.initial ∧
      (ExecutionProtocol.totalVotingPowerOf (Context.default (erc20Chain ERC20State.initial))
          VotingProtocol.sampleConfig = none ∧
        ExecutionProtocol.main VotingProtocol.sampleLibraries (erc20Chain ERC20State.initial)
          sampleTallyInput = none) :=
  ⟨rfl, rfl, by simp [VotingProtocol.sampleConfig], rfl, erc20Chain_runsERC20 _ _,
    total_voting_power_aborts_on_erc20 VotingProtocol.sampleLibraries
      (erc20Chain ERC20State.initial) sampleTallyInput "config" VotingProtocol.sampleConfig
      VotingProtocol.sampleAsset ERC20State.initial rfl rfl
      (by simp [VotingProtocol.sampleConfig]) rfl (erc20Chain_runsERC20 _ _)⟩

end ZkGovernance
