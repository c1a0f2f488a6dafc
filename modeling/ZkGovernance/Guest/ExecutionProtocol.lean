import ZkGovernance.Guest.Strategies
import ZkGovernance.Semantics.Except

/-!
# The `execution_protocol` guest

`methods/guest/src/bin/execution_protocol.rs` reads a proposal id, a tally
and a config contract, reads the proposal's config at the block of its input,
sums the supplies of the config's assets, asks the config's execution strategy
whether the tally passes, and commits the ABI encoding of its `Journal`, whose
last member is the tally as a dynamic `uint256[]`.

The tally is an input of the guest: nothing relates it to the votes the
plugin counted. `MajorityVoting::proof_execution` adds its entries with
ruint's wrapping `+` and compares them with halves taken by floor division.
Over the naturals it decides that twice the wrapped sum of the votes exceeds
the supply and that twice the Yes votes exceed the wrapped sum of Yes and No
(`proofExecution_eq_true_iff`). The sums wrap: for every supply, a tie whose Yes
and No votes add up to `2 ^ 256` passes (`majority_passes_wrapped_tie`).
-/

namespace ZkGovernance

open Abi Strategies

namespace ExecutionProtocol

/-- The guest's `Journal`, with the block's commitment and the tally as an array. -/
structure Journal where
  commitment : Risc0Steel.Commitment
  configContract : Address
  proposalId : Uint256
  tally : List Uint256
  deriving DecidableEq, Repr

/-- The ABI value of a journal, as `sol!` tokenizes it: a tuple with a dynamic array. -/
def Journal.toAbi (libraries : Libraries) (journal : Journal) : AbiValue :=
  .tuple [libraries.commitmentToAbi journal.commitment,
    .word (journal.configContract.setWidth 256), .word journal.proposalId,
    .array (journal.tally.map .word)]

/-- `journal.abi_encode()`. -/
def Journal.abiEncode (libraries : Libraries) (journal : Journal) : Bytes :=
  Abi.abiEncode [journal.toAbi libraries]

/-- The guest's inputs after the EVM input, in the order it reads them; the DAO is read and
never used. -/
structure Input where
  dao : Address
  proposalId : Uint256
  tally : Vector Uint256 3
  configContract : Address

/-- `total_voting_power`: the supplies of the config's assets, summed. -/
def totalVotingPowerOf (context : Context) (config : RiscVotingProtocolConfig) :
    Option Uint256 :=
  config.assets.foldlM (fun total asset => do
      let supply ← context.processTotalSupply asset
      pure (total + supply)) 0

/-- The journal `main` commits once the strategy has accepted the tally. -/
def Input.journal (input : Input) (commitment : Risc0Steel.Commitment) : Journal where
  commitment := commitment
  configContract := input.configContract
  proposalId := input.proposalId
  tally := input.tally.toList

/-- `main`: the journal the guest commits on a block, or `none` when it panics. -/
def main (libraries : Libraries) (env : ChainView) (input : Input) : Option Bytes := do
  let configReturns ← env.votingProtocolConfig input.configContract input.proposalId
  let config ← libraries.parseConfig configReturns
  let context := Context.default env
  let totalVotingPower ← totalVotingPowerOf context config
  let passed ← context.processExecutionStrategy config.executionStrategy totalVotingPower
    input.tally
  guard passed
  pure ((input.journal context.blockCommitment).abiEncode libraries)

/-- The converse of `main_spec`: when every step succeeds and the strategy accepts the
tally, the guest commits the journal. -/
theorem main_eq_of_checks {libraries : Libraries} {env : ChainView} {input : Input}
    {configReturns : String} {config : RiscVotingProtocolConfig} {totalVotingPower : Uint256}
    (configured : env.votingProtocolConfig input.configContract input.proposalId =
      some configReturns)
    (parsed : libraries.parseConfig configReturns = some config)
    (summed : totalVotingPowerOf (Context.default env) config = some totalVotingPower)
    (passed : (Context.default env).processExecutionStrategy config.executionStrategy
      totalVotingPower input.tally = some true) :
    main libraries env input = some ((input.journal env.commitment).abiEncode libraries) := by
  simp only [main, configured, parsed, summed, passed, Option.bind_eq_bind, Option.bind, guard,
    if_true]
  rfl

/-- Summing the supplies panics as soon as one asset's supply read panics. -/
theorem totalVotingPowerOf_eq_none_of_mem {context : Context} {config : RiscVotingProtocolConfig}
    {asset : Asset} (member : asset ∈ config.assets)
    (panics : context.processTotalSupply asset = none) :
    totalVotingPowerOf context config = none :=
  List.foldlM_eq_none_of_mem member (fun total => by simp [panics]) 0

/-- When summing the supplies panics, so does the guest, for every input whose config the
block serves. -/
theorem main_eq_none_of_totalVotingPowerOf {libraries : Libraries} {env : ChainView}
    {input : Input} {configReturns : String} {config : RiscVotingProtocolConfig}
    (configured : env.votingProtocolConfig input.configContract input.proposalId =
      some configReturns)
    (parsed : libraries.parseConfig configReturns = some config)
    (panics : totalVotingPowerOf (Context.default env) config = none) :
    main libraries env input = none := by
  simp [main, configured, parsed, panics]

/-! ## The majority criterion -/

/-- `MajorityVoting::proof_execution` with the tally's entries read by `get`, whose index
needs no bound to be proved. -/
theorem proofExecution_eq (totalSupply : Uint256) (tally : Vector Uint256 3) :
    MajorityVoting.proofExecution totalSupply tally =
      if tally.get 0 + tally.get 1 + tally.get 2 ≤ totalSupply / 2 then false
      else decide (tally.get 0 > (tally.get 0 + tally.get 1) / 2) :=
  rfl

/-- What `MajorityVoting::proof_execution` decides, over the naturals: twice the wrapped sum of
all votes exceeds the supply, and twice the Yes votes exceed the wrapped sum of Yes and No. The
floor halves turn into doublings: `t > ⌊S / 2⌋ ↔ 2 t > S`. -/
theorem proofExecution_eq_true_iff (totalSupply : Uint256) (tally : Vector Uint256 3) :
    MajorityVoting.proofExecution totalSupply tally = true ↔
      totalSupply.toNat <
          2 * (((tally.get 0).toNat + (tally.get 1).toNat + (tally.get 2).toNat) % 2 ^ 256) ∧
        ((tally.get 0).toNat + (tally.get 1).toNat) % 2 ^ 256 < 2 * (tally.get 0).toNat := by
  have total : (tally.get 0 + tally.get 1 + tally.get 2).toNat =
      ((tally.get 0).toNat + (tally.get 1).toNat + (tally.get 2).toNat) % 2 ^ 256 := by
    rw [BitVec.toNat_add, BitVec.toNat_add, Nat.mod_add_mod]
  have nonAbstain : (tally.get 0 + tally.get 1).toNat =
      ((tally.get 0).toNat + (tally.get 1).toNat) % 2 ^ 256 :=
    BitVec.toNat_add _ _
  have half : (totalSupply / 2).toNat = totalSupply.toNat / 2 := by
    rw [BitVec.toNat_udiv]
    rfl
  have threshold : ((tally.get 0 + tally.get 1) / 2).toNat =
      ((tally.get 0).toNat + (tally.get 1).toNat) % 2 ^ 256 / 2 := by
    rw [BitVec.toNat_udiv, nonAbstain]
    rfl
  rw [proofExecution_eq]
  simp only [BitVec.le_def, BitVec.lt_def, gt_iff_lt, total, half, threshold]
  split_ifs with short
  · -- too little participation
    simp only [false_iff, not_and]
    intro more
    omega
  · simp only [decide_eq_true_eq]
    omega

/-- For every supply there is a tally with as many Yes as No votes that passes: Yes and No are
`2 ^ 255` each, their sum wraps to `0`, so the threshold is `0`, and the abstentions alone make
the wrapped total exceed half the supply. Over the naturals Yes does not beat No, so the
majority criterion fails. -/
theorem majority_passes_wrapped_tie (totalSupply : Uint256) :
    ∃ tally : Vector Uint256 3, MajorityVoting.proofExecution totalSupply tally = true ∧
      ¬ (totalSupply.toNat <
          2 * ((tally.get 0).toNat + (tally.get 1).toNat + (tally.get 2).toNat) ∧
        (tally.get 1).toNat < (tally.get 0).toNat) := by
  let half : Uint256 := BitVec.ofNat 256 (2 ^ 255)
  have halfValue : half.toNat = 2 ^ 255 := by
    simp only [half, BitVec.toNat_ofNat]
    norm_num
  have abstainValue : (totalSupply / 2 + 1).toNat = totalSupply.toNat / 2 + 1 := by
    have below := totalSupply.isLt
    have two : (2 : Uint256).toNat = 2 := rfl
    have one : (1 : Uint256).toNat = 1 := rfl
    rw [BitVec.toNat_add, BitVec.toNat_udiv, two, one]
    omega
  let tally : Vector Uint256 3 := ⟨#[half, half, totalSupply / 2 + 1], rfl⟩
  have yes : tally.get 0 = half := rfl
  have no : tally.get 1 = half := rfl
  have abstain : tally.get 2 = totalSupply / 2 + 1 := rfl
  refine ⟨tally, (proofExecution_eq_true_iff totalSupply tally).mpr ?_, ?_⟩
  · rw [yes, no, abstain, halfValue, abstainValue]
    have below := totalSupply.isLt
    omega
  · rw [yes, no]
    omega

end ExecutionProtocol

end ZkGovernance
