import ZkGovernance.Guest.VotingProtocol

/-!
# The host's copies of the strategies

The publishers of `apps` run each guest's logic once on the host, against an RPC
node, to collect the state the guest will read (Steel's preflight). The strategies
they use are copies of the `strategies` crate kept in `apps/src`: `HostContext`
registers the same names as `Context`, `BalanceOf` and `MajorityVoting` are the
same text, and two copies differ.

* `process_delegate` prints the first entry of a registry list before it checks
  whether the list is empty, so an account without delegations, which the guest
  accepts with ratio `1`, makes the host panic.
* `GetPastVotes` reads at the parent block, `parent_num_hash().number`, where the
  guest reads at the block itself.

The host also differs on names `Context` does not know: its delegation lookup
panics where the guest's is an error result, and its supply and execution lookups
are error results where the guest's panic.

A host panic stops the publisher before it can prove anything, so where the copies
differ the guest's result is out of reach (`host_split_delegation_aborts`). On a
registry without empty delegation lists the two derive the same delegations
(`host_delegations_match_guest`).
-/

namespace ZkGovernance

open Abi Strategies VotingProtocol

namespace Apps

/-! ## Delegations -/

/-- The host's `process_delegate`: the registry call is unwrapped, then the `println!` reads
`delegations[0]` before the emptiness check, which panics on an empty list; what follows is
the guest's derivation. -/
def processDelegate (env : ChainView) (assetContract : Address) (context : String)
    (potentialDelegate account : Address) : Option (Option Delegation) := do
  let delegations ← env.getDelegation assetContract context potentialDelegate
  let _first ← delegations.head?
  delegationFromList account potentialDelegate delegations

/-- The host's `SplitDelegation::process`: its `for` loop awaits `process_delegate` for each
listed account in turn, as the guest's `map` calls its closure. -/
def SplitDelegation.process (libraries : Libraries) (env : ChainView) (account : Address)
    (asset : Asset) (additionalData : Bytes) : Option (Except String (List Delegation)) :=
  splitDelegation (fun potentialDelegate => processDelegate env asset.delegation.contract
    (libraries.addressToString asset.contract) potentialDelegate account) additionalData

/-- Where the registry list of a listed account is not empty, the host derives what the
guest derives. -/
theorem processDelegate_eq_delegationOf (libraries : Libraries) (env : ChainView)
    (account : Address) (asset : Asset) (potentialDelegate : Address)
    (listed : env.getDelegation asset.delegation.contract
      (libraries.addressToString asset.contract) potentialDelegate ≠ some []) :
    processDelegate env asset.delegation.contract (libraries.addressToString asset.contract)
        potentialDelegate account =
      Strategies.SplitDelegation.delegationOf libraries env account asset potentialDelegate := by
  unfold processDelegate Strategies.SplitDelegation.delegationOf
  -- a reverted call panics on both sides; a non-empty list has a first entry
  cases reading : env.getDelegation asset.delegation.contract
      (libraries.addressToString asset.contract) potentialDelegate with
  | none => rfl
  | some delegations =>
      rw [reading] at listed
      cases delegations with
      | nil => exact absurd rfl listed
      | cons first rest => rfl

/-- On a registry that holds no empty delegation list for the asset's context, the host's
`SplitDelegation::process` is the guest's. -/
theorem SplitDelegation.process_eq_guest (libraries : Libraries) (env : ChainView)
    (account : Address) (asset : Asset)
    (noEmptyList : ∀ potentialDelegate, env.getDelegation asset.delegation.contract
      (libraries.addressToString asset.contract) potentialDelegate ≠ some []) :
    SplitDelegation.process libraries env account asset =
      Strategies.SplitDelegation.process libraries env account asset := by
  funext additionalData
  unfold SplitDelegation.process Strategies.SplitDelegation.process
  congr 1
  funext potentialDelegate
  exact processDelegate_eq_delegationOf libraries env account asset potentialDelegate
    (noEmptyList potentialDelegate)

/-! ## Voting power -/

/-- alloy's `Header::parent_num_hash().number`, the number of the parent block. -/
def parentNumber (env : ChainView) : Uint256 :=
  BitVec.ofNat 256 (env.number.toNat - 1)

/-- The host's `GetPastVotes::process`: `getPastVotes(account, parent number)`. -/
def GetPastVotes.process (env : ChainView) (account : Address) (asset : Asset) :
    Option Uint256 :=
  env.getPastVotes asset.contract account (parentNumber env)

/-- The host's `GetPastVotes::get_supply`: `getPastTotalSupply(parent number)`. -/
def GetPastVotes.getSupply (env : ChainView) (asset : Asset) : Option Uint256 :=
  env.getPastTotalSupply asset.contract (parentNumber env)

/-- The host's `VotingPowerStrategy::process`, dispatched; `BalanceOf` is the guest's text. -/
def VotingPowerStrategy.process : VotingPowerStrategy → ChainView → Address → Asset →
    Option Uint256
  | .balanceOf => BalanceOf.process
  | .getPastVotes => GetPastVotes.process

/-- The host's `VotingPowerStrategy::get_supply`, dispatched. -/
def VotingPowerStrategy.getSupply : VotingPowerStrategy → ChainView → Asset → Option Uint256
  | .balanceOf => BalanceOf.getSupply
  | .getPastVotes => GetPastVotes.getSupply

/-! ## The host context -/

/-- `HostContext`: the three registries and the host's environment. -/
structure HostContext where
  votingPowerStrategies : String → Option VotingPowerStrategy
  delegationStrategies : String → Option DelegationStrategy
  executionStrategies : String → Option ExecutionStrategy
  env : ChainView

/-- `HostContext::default(env)`: the names `Context::default` registers. -/
def HostContext.default (env : ChainView) : HostContext where
  votingPowerStrategies := defaultVotingPowerStrategies
  delegationStrategies := defaultDelegationStrategies
  executionStrategies := defaultExecutionStrategies
  env := env

/-- `HostContext::process_voting_power_strategy`: an unknown name panics. -/
def HostContext.processVotingPowerStrategy (context : HostContext) (name : String)
    (account : Address) (asset : Asset) : Option Uint256 := do
  let strategy ← context.votingPowerStrategies name
  strategy.process context.env account asset

/-- `HostContext::process_delegation_strategy`: an unknown name panics. -/
def HostContext.processDelegationStrategy (libraries : Libraries) (context : HostContext)
    (account : Address) (asset : Asset) (additionalData : Bytes) :
    Option (Except String (List Delegation)) := do
  let strategy ← context.delegationStrategies asset.delegation.strategy
  match strategy with
  | .splitDelegation =>
      SplitDelegation.process libraries context.env account asset additionalData

/-- `HostContext::process_total_supply`: an unknown name is an error result. -/
def HostContext.processTotalSupply (context : HostContext) (asset : Asset) :
    Option (Except String Uint256) :=
  match context.votingPowerStrategies asset.votingPowerStrategy with
  | some strategy => (strategy.getSupply context.env asset).map .ok
  | none => some (.error ("Strategy not found: " ++ asset.votingPowerStrategy))

/-- `HostContext::process_execution_strategy`: an unknown name is an error result. -/
def HostContext.processExecutionStrategy (context : HostContext) (name : String)
    (totalSupply : Uint256) (tally : Vector Uint256 3) : Except String Bool :=
  match context.executionStrategies name with
  | some .majorityVoting => .ok (MajorityVoting.proofExecution totalSupply tally)
  | none => .error ("Strategy not found: " ++ name)

/-- Both contexts register `SplitDelegation` under its name. -/
theorem defaultDelegationStrategies_splitDelegation {asset : Asset}
    (named : asset.delegation.strategy = "SplitDelegation") :
    defaultDelegationStrategies asset.delegation.strategy = some .splitDelegation := by
  rw [named]
  rfl

/-- Where no registry list for the asset's context is empty, the host's preflight derives
the delegations the guest derives, for every voter and every `additional_data`. -/
theorem host_delegations_match_guest (libraries : Libraries) (env : ChainView)
    (account : Address) (asset : Asset) (additionalData : Bytes)
    (named : asset.delegation.strategy = "SplitDelegation")
    (noEmptyList : ∀ potentialDelegate, env.getDelegation asset.delegation.contract
      (libraries.addressToString asset.contract) potentialDelegate ≠ some []) :
    (HostContext.default env).processDelegationStrategy libraries account asset additionalData =
      (Context.default env).processDelegationStrategy libraries account asset additionalData := by
  simp only [HostContext.processDelegationStrategy, Context.processDelegationStrategy,
    HostContext.default, Context.default, defaultDelegationStrategies_splitDelegation named,
    Option.bind_eq_bind, Option.bind_some]
  rw [SplitDelegation.process_eq_guest libraries env account asset noEmptyList]

/-- A block of the sample chain whose registry lists, for every account, one delegation to
`0xa11ce`. -/
def delegatedChain : ChainView :=
  { sampleChain with getDelegation := fun _ _ _ => some [{ delegate := 0xa11ce, ratio := 1 }] }

/-- On `delegatedChain` the host and the guest agree on the sample asset. -/
theorem host_delegations_match_guest_delegated :
    sampleAsset.delegation.strategy = "SplitDelegation" ∧
      (∀ potentialDelegate, delegatedChain.getDelegation sampleAsset.delegation.contract
        (sampleLibraries.addressToString sampleAsset.contract) potentialDelegate ≠ some []) ∧
      (HostContext.default delegatedChain).processDelegationStrategy sampleLibraries 0xa11ce
          sampleAsset (toBytesBE 20 sampleHolder.toNat) =
        (Context.default delegatedChain).processDelegationStrategy sampleLibraries 0xa11ce
          sampleAsset (toBytesBE 20 sampleHolder.toNat) := by
  have noEmptyList : ∀ potentialDelegate, delegatedChain.getDelegation
      sampleAsset.delegation.contract (sampleLibraries.addressToString sampleAsset.contract)
        potentialDelegate ≠ some [] := fun _ => by simp [delegatedChain]
  exact ⟨rfl, noEmptyList, host_delegations_match_guest sampleLibraries delegatedChain 0xa11ce
    sampleAsset (toBytesBE 20 sampleHolder.toNat) rfl noEmptyList⟩

/-- A voter who lists one account that never delegated: the guest's `SplitDelegation` accepts
the account with ratio `1`, and the host's panics. -/
theorem host_split_delegation_aborts (libraries : Libraries) (env : ChainView)
    (account : Address) (asset : Asset) (holder : Address)
    (named : asset.delegation.strategy = "SplitDelegation")
    (undelegated : env.getDelegation asset.delegation.contract
      (libraries.addressToString asset.contract) holder = some []) :
    (Context.default env).processDelegationStrategy libraries account asset
        (toBytesBE 20 holder.toNat) = some (.ok [{ delegate := holder, ratio := 1 }]) ∧
      (HostContext.default env).processDelegationStrategy libraries account asset
        (toBytesBE 20 holder.toNat) = none := by
  have registered := defaultDelegationStrategies_splitDelegation named
  constructor
  · simp only [Context.processDelegationStrategy, Context.default, registered]
    exact Strategies.SplitDelegation.process_undelegated libraries env account asset holder
      undelegated
  · simp only [HostContext.processDelegationStrategy, HostContext.default, registered,
      Option.bind_eq_bind, Option.bind_some, SplitDelegation.process]
    exact splitDelegation_single_panic (by simp [processDelegate, undelegated])

/-- The sample voter of the guest's run lists the sample holder, who has no delegations. -/
theorem host_split_delegation_aborts_sample :
    sampleAsset.delegation.strategy = "SplitDelegation" ∧
      sampleChain.getDelegation sampleAsset.delegation.contract
        (sampleLibraries.addressToString sampleAsset.contract) sampleHolder = some [] ∧
      ((Context.default sampleChain).processDelegationStrategy sampleLibraries 0xa11ce
          sampleAsset (toBytesBE 20 sampleHolder.toNat) =
          some (.ok [{ delegate := sampleHolder, ratio := 1 }]) ∧
        (HostContext.default sampleChain).processDelegationStrategy sampleLibraries 0xa11ce
          sampleAsset (toBytesBE 20 sampleHolder.toNat) = none) :=
  ⟨rfl, rfl, host_split_delegation_aborts sampleLibraries sampleChain 0xa11ce sampleAsset
    sampleHolder rfl rfl⟩

end Apps

end ZkGovernance
