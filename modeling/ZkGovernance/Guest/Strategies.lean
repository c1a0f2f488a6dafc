import ZkGovernance.Steel.Commitment

/-!
# The `strategies` crate

What the guests compute about a block: the config a proposal names, the
delegations a voter claims, the voting power and supply of each asset and the
execution decision. Every read of the chain is a Steel view call against the
state of the block the guest runs on; `ChainView` is that state, one function
per view function the crates call, `none` where the call reverts.

A guest that panics commits no journal, so every function here that can panic
returns an `Option`, `none` being the panic: a reverted view call (Steel's
`call()` panics), a division by zero, a strategy name `Context` does not know.
`SplitDelegation::process` also has an error result (`anyhow::bail!`), hence
`Option (Except String _)`.

`U256` arithmetic is ruint's: `+` wraps (ruint's operators are its
`wrapping_*` functions) and division by zero panics.

The external crates the guests call are `Libraries`: Keccak-256, k256's
signature recovery, `serde_json`'s parse of the config, alloy's `Display` of an
address, the hexadecimal decoding of the inputs, and the ABI value of Steel's
commitment. None of them is in the repository; the results state what they
need of them as hypotheses.
-/

namespace ZkGovernance

open Abi

namespace Strategies

/-- `DelegationObject` of the config. -/
structure DelegationObject where
  contract : Address
  strategy : String
  deriving DecidableEq, Repr

/-- `Asset` of the config. -/
structure Asset where
  contract : Address
  chainId : Uint64
  votingPowerStrategy : String
  delegation : DelegationObject
  deriving DecidableEq, Repr

/-- `RiscVotingProtocolConfig`, the JSON a proposal's `votingProtocolConfig` holds. -/
structure RiscVotingProtocolConfig where
  votingProtocolVersion : String
  assets : List Asset
  executionStrategy : String
  deriving DecidableEq, Repr

/-- `Delegation` of the crate: an account whose power a voter uses, and the divisor applied
to that account's power. -/
structure Delegation where
  delegate : Address
  ratio : Uint256
  deriving DecidableEq, Repr

/-- `DelegateRegistry.Delegation`, one entry of a registry delegation list. -/
structure RegistryDelegation where
  delegate : Bytes32
  ratio : Uint256
  deriving DecidableEq, Repr

/-- The state of one block as the view calls read it. `number` and `hash` are the block
header's; `getDelegation registry context account` is the registry's delegation list (its
expiration timestamp is never read). -/
structure ChainView where
  number : Uint64
  hash : Bytes32
  votingProtocolConfig : Address → Uint256 → Option String
  getDelegation : Address → String → Address → Option (List RegistryDelegation)
  balanceOf : Address → Address → Option Uint256
  getTotalSupply : Address → Option Uint256
  getPastVotes : Address → Address → Uint256 → Option Uint256
  getPastTotalSupply : Address → Uint256 → Option Uint256

/-- `env.commitment()` for a block: version `0`, the header's number and hash. -/
def ChainView.commitment (view : ChainView) : Risc0Steel.Commitment :=
  .new 0 view.number view.hash

/-- What the guests and the host use of external crates: tiny-keccak's Keccak-256; k256's
`Signature::from_slice` and `VerifyingKey::recover_from_prehash` with the SEC1 uncompressed
encoding of the key (`none` when either fails); `serde_json::from_str` of the config; alloy's
`Display` of an address, the registry's delegation context; the `hex` crate's `Vec::from_hex`
and alloy's `Bytes::from_str` (`none` on invalid input); and the ABI value `sol!` gives
risc0-steel's `Commitment`. -/
structure Libraries where
  keccak256 : Bytes → Bytes32
  recoverFromPrehash : Bytes32 → Bytes → Uint8 → Option Bytes
  parseConfig : String → Option RiscVotingProtocolConfig
  addressToString : Address → String
  fromHex : String → Option Bytes
  bytesFromStr : String → Option Bytes
  commitmentToAbi : Risc0Steel.Commitment → AbiValue

/-! ## Bytes -/

/-- `chunks_exact(size)`: consecutive chunks of `size` bytes, a shorter remainder dropped. -/
def chunksExact (size : Nat) (bytes : Bytes) : List Bytes :=
  if 0 < size ∧ size ≤ bytes.length then
    bytes.take size :: chunksExact size (bytes.drop size)
  else []
termination_by bytes.length
decreasing_by
  simp only [List.length_drop]
  omega

/-- No chunk is cut from no data. -/
theorem chunksExact_nil (size : Nat) : chunksExact size [] = [] := by
  rw [chunksExact, if_neg (by simp only [List.length_nil]; omega)]

/-- A first chunk of exactly `size` bytes is split off as it is. -/
theorem chunksExact_append {size : Nat} {chunk : Bytes} (positive : 0 < size)
    (exact : chunk.length = size) (rest : Bytes) :
    chunksExact size (chunk ++ rest) = chunk :: chunksExact size rest := by
  rw [chunksExact, if_pos ⟨positive, by simp [exact]⟩, List.take_left' exact,
    List.drop_left' exact]

/-- Data of exactly one chunk is that chunk. -/
theorem chunksExact_of_length {size : Nat} {bytes : Bytes} (positive : 0 < size)
    (exact : bytes.length = size) : chunksExact size bytes = [bytes] := by
  have split := chunksExact_append positive exact []
  rwa [List.append_nil, chunksExact_nil] at split

/-- `Address::from_slice` of a 20-byte chunk. -/
def addressFromSlice (chunk : Bytes) : Address :=
  BitVec.ofNat 160 (ofBytesBE chunk)

/-- The 20 bytes of an address are read back as the address. -/
theorem addressFromSlice_toBytesBE (address : Address) :
    addressFromSlice (toBytesBE 20 address.toNat) = address := by
  apply BitVec.eq_of_toNat_eq
  have bound := address.isLt
  simp only [addressFromSlice, ofBytesBE_toBytesBE, BitVec.toNat_ofNat]
  have fits : address.toNat < 256 ^ 20 := by simpa using bound
  rw [Nat.mod_eq_of_lt fits, Nat.mod_eq_of_lt bound]

/-- ruint's `U256` division, which panics on a zero divisor. -/
def divOrPanic (dividend divisor : Uint256) : Option Uint256 :=
  if divisor = 0 then none else some (dividend / divisor)

/-! ## Delegation -/

/-- `compare_bytes32_to_address`: the last 20 bytes of the word against the address. -/
def compareBytes32ToAddress (bytes32 : Bytes32) (address : Address) : Bool :=
  bytes32.setWidth 160 == address

/-- The delegation `SplitDelegation::process` derives from a potential delegate's registry
list, once that list is read: the delegate with ratio `1` when the list is empty, otherwise
the delegate with the list's total ratio divided by the ratio of the entry naming `account`,
and `some none` when no entry names it. -/
def delegationFromList (account potentialDelegate : Address)
    (delegations : List RegistryDelegation) : Option (Option Delegation) :=
  if delegations.isEmpty then some (some { delegate := potentialDelegate, ratio := 1 })
  else
    let totalRatios := delegations.foldl (fun total entry => total + entry.ratio) 0
    match delegations.find? (fun entry => compareBytes32ToAddress entry.delegate account) with
    | none => some none
    | some entry =>
        (divOrPanic totalRatios entry.ratio).map fun ratio =>
          some { delegate := potentialDelegate, ratio }

/-- The closure `SplitDelegation::process` maps over the potential delegates: read the
delegate's registry list for the asset's contract, then derive the delegation. -/
def SplitDelegation.delegationOf (libraries : Libraries) (env : ChainView) (account : Address)
    (asset : Asset) (potentialDelegate : Address) : Option (Option Delegation) := do
  let delegations ← env.getDelegation asset.delegation.contract
    (libraries.addressToString asset.contract) potentialDelegate
  delegationFromList account potentialDelegate delegations

/-- The body of `SplitDelegation::process`, the same in the guest and on the host:
`additional_data` lists, 20 bytes each, the accounts whose power the voter claims, and
`delegationOf` derives the delegation of each (`none` a panic, `some none` an account whose
registry list does not name the voter). -/
def splitDelegation (delegationOf : Address → Option (Option Delegation))
    (additionalData : Bytes) : Option (Except String (List Delegation)) :=
  if additionalData.length % 20 ≠ 0 then
    some (.error "Input byte vector is not a valid length for Address conversion")
  else do
    let delegations := (chunksExact 20 additionalData).map addressFromSlice
    let accountDelegates ← delegations.mapM delegationOf
    if accountDelegates.any Option.isNone then pure (.error "One or more delegations are invalid")
    else pure (.ok accountDelegates.reduceOption)

/-- The chunks of the 20 bytes of one address are that address. -/
theorem chunksExact_toBytesBE_address (holder : Address) :
    (chunksExact 20 (toBytesBE 20 holder.toNat)).map addressFromSlice = [holder] := by
  rw [chunksExact_of_length (by norm_num) (length_toBytesBE 20 _), List.map_singleton,
    addressFromSlice_toBytesBE]

/-- One listed account whose delegation is derived gives that delegation alone. -/
theorem splitDelegation_single {delegationOf : Address → Option (Option Delegation)}
    {holder : Address} {delegation : Delegation}
    (derived : delegationOf holder = some (some delegation)) :
    splitDelegation delegationOf (toBytesBE 20 holder.toNat) = some (.ok [delegation]) := by
  simp [splitDelegation, chunksExact_toBytesBE_address, derived]

/-- One listed account whose derivation panics makes the whole call panic. -/
theorem splitDelegation_single_panic {delegationOf : Address → Option (Option Delegation)}
    {holder : Address} (panics : delegationOf holder = none) :
    splitDelegation delegationOf (toBytesBE 20 holder.toNat) = none := by
  simp [splitDelegation, chunksExact_toBytesBE_address, panics]

/-- `SplitDelegation::process` of the guest. -/
def SplitDelegation.process (libraries : Libraries) (env : ChainView) (account : Address)
    (asset : Asset) (additionalData : Bytes) : Option (Except String (List Delegation)) :=
  splitDelegation (SplitDelegation.delegationOf libraries env account asset) additionalData

/-- An account listed alone in `additional_data` that has no registry delegation is accepted
with ratio `1`, whoever the voter is. -/
theorem SplitDelegation.process_undelegated (libraries : Libraries) (env : ChainView)
    (account : Address) (asset : Asset) (holder : Address)
    (undelegated : env.getDelegation asset.delegation.contract
      (libraries.addressToString asset.contract) holder = some []) :
    SplitDelegation.process libraries env account asset (toBytesBE 20 holder.toNat) =
      some (.ok [{ delegate := holder, ratio := 1 }]) :=
  splitDelegation_single (by simp [SplitDelegation.delegationOf, undelegated, delegationFromList])

/-! ## Voting power, supply and execution -/

/-- `BalanceOf::process`: the ERC-20 balance. -/
def BalanceOf.process (env : ChainView) (account : Address) (asset : Asset) : Option Uint256 :=
  env.balanceOf asset.contract account

/-- `BalanceOf::get_supply`: `getTotalSupply()`. -/
def BalanceOf.getSupply (env : ChainView) (asset : Asset) : Option Uint256 :=
  env.getTotalSupply asset.contract

/-- `GetPastVotes::process`: `getPastVotes(account, header.number)`. -/
def GetPastVotes.process (env : ChainView) (account : Address) (asset : Asset) : Option Uint256 :=
  env.getPastVotes asset.contract account (env.number.setWidth 256)

/-- `GetPastVotes::get_supply`: `getPastTotalSupply(header.number)`. -/
def GetPastVotes.getSupply (env : ChainView) (asset : Asset) : Option Uint256 :=
  env.getPastTotalSupply asset.contract (env.number.setWidth 256)

/-- `MajorityVoting::proof_execution`: more than half of the supply voted, and Yes has more
than half of Yes and No, in wrapping `U256` arithmetic with floor division. -/
def MajorityVoting.proofExecution (totalSupply : Uint256) (tally : Vector Uint256 3) : Bool :=
  let yesVotes := tally[0]
  let noVotes := tally[1]
  let abstainVotes := tally[2]
  let totalVotes := yesVotes + noVotes + abstainVotes
  if totalVotes ≤ totalSupply / 2 then false
  else
    let nonAbstainVotes := yesVotes + noVotes
    let threshold := nonAbstainVotes / 2
    decide (yesVotes > threshold)

/-- The voting-power strategies the crate implements. -/
inductive VotingPowerStrategy where
  | balanceOf
  | getPastVotes
  deriving DecidableEq, Repr

/-- The delegation strategies the crate implements. -/
inductive DelegationStrategy where
  | splitDelegation
  deriving DecidableEq, Repr

/-- The execution strategies the crate implements. -/
inductive ExecutionStrategy where
  | majorityVoting
  deriving DecidableEq, Repr

/-- `VotingPowerStrategy::process`, dispatched. -/
def VotingPowerStrategy.process : VotingPowerStrategy → ChainView → Address → Asset →
    Option Uint256
  | .balanceOf => BalanceOf.process
  | .getPastVotes => GetPastVotes.process

/-- `VotingPowerStrategy::get_supply`, dispatched. -/
def VotingPowerStrategy.getSupply : VotingPowerStrategy → ChainView → Asset → Option Uint256
  | .balanceOf => BalanceOf.getSupply
  | .getPastVotes => GetPastVotes.getSupply

/-! ## The strategy context -/

/-- `Context`: the three registries, by name, and the environment of the block. -/
structure Context where
  votingPowerStrategies : String → Option VotingPowerStrategy
  delegationStrategies : String → Option DelegationStrategy
  executionStrategies : String → Option ExecutionStrategy
  env : ChainView

/-- The names `Context::default` registers. -/
def defaultVotingPowerStrategies (name : String) : Option VotingPowerStrategy :=
  if name = "BalanceOf" then some .balanceOf
  else if name = "GetPastVotes" then some .getPastVotes
  else none

/-- The delegation strategy names `Context::default` registers. -/
def defaultDelegationStrategies (name : String) : Option DelegationStrategy :=
  if name = "SplitDelegation" then some .splitDelegation else none

/-- The execution strategy names `Context::default` registers. -/
def defaultExecutionStrategies (name : String) : Option ExecutionStrategy :=
  if name = "MajorityVoting" then some .majorityVoting else none

/-- `Context::default(env)`. -/
def Context.default (env : ChainView) : Context where
  votingPowerStrategies := defaultVotingPowerStrategies
  delegationStrategies := defaultDelegationStrategies
  executionStrategies := defaultExecutionStrategies
  env := env

/-- `Context::process_voting_strategy`: an unknown name panics. -/
def Context.processVotingStrategy (context : Context) (name : String) (account : Address)
    (asset : Asset) : Option Uint256 := do
  let strategy ← context.votingPowerStrategies name
  strategy.process context.env account asset

/-- `Context::process_total_supply`: an unknown name panics. -/
def Context.processTotalSupply (context : Context) (asset : Asset) : Option Uint256 := do
  let strategy ← context.votingPowerStrategies asset.votingPowerStrategy
  strategy.getSupply context.env asset

/-- `Context::process_delegation_strategy`: an unknown name is an error result. -/
def Context.processDelegationStrategy (libraries : Libraries) (context : Context)
    (account : Address) (asset : Asset) (additionalData : Bytes) :
    Option (Except String (List Delegation)) :=
  match context.delegationStrategies asset.delegation.strategy with
  | some .splitDelegation =>
      SplitDelegation.process libraries context.env account asset additionalData
  | none => some (.error ("Strategy not found: " ++ asset.delegation.strategy))

/-- `Context::process_execution_strategy`: an unknown name panics. -/
def Context.processExecutionStrategy (context : Context) (name : String)
    (totalSupply : Uint256) (tally : Vector Uint256 3) : Option Bool := do
  let strategy ← context.executionStrategies name
  match strategy with
  | .majorityVoting => pure (MajorityVoting.proofExecution totalSupply tally)

/-- `Context::block_commitment`. -/
def Context.blockCommitment (context : Context) : Risc0Steel.Commitment :=
  context.env.commitment

end Strategies

end ZkGovernance
