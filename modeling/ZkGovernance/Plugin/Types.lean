import ZkGovernance.Abi.Encoding
import ZkGovernance.Solidity.Arith

/-!
# Storage of the voting plugin

The data of `MajorityVotingBase` and `RiscVotingProtocolPlugin`: the voting
settings, the per-proposal record with its parameters, tally and voters, and
the plugin's storage. Fixed-width Solidity types are `BitVec`s of their width,
so a stored value always fits its type.

Two parts of the storage belong to Aragon OSx code that is not in the
repository. `proposalCounter` counts the proposals OSx `ProposalUpgradeable`'s
`_createProposal` created; the id it hands out is a parameter of the
environment (`Environment.createProposalId`), and the results that need a
fresh id for every proposal assume it (`Environment.FreshIds`).
`executionRequests` is not storage: it records, in order, the proposal ids for
which `_executeProposal` asked the DAO to run the actions.
-/

namespace ZkGovernance

open Abi

/-- `uint256`, also `U256` on the Rust side. -/
abbrev Uint256 := BitVec 256

/-- `bytes32`. -/
abbrev Bytes32 := BitVec 256

/-- `address`. -/
abbrev Address := BitVec 160

/-- `uint64`. -/
abbrev Uint64 := BitVec 64

/-- `uint32`. -/
abbrev Uint32 := BitVec 32

/-- `uint8`. -/
abbrev Uint8 := BitVec 8

/-- `IMajorityVoting.VoteOption`. -/
inductive VoteOption where
  | none
  | abstain
  | yes
  | no
  deriving DecidableEq, Repr

/-- `MajorityVotingBase.VotingMode`. -/
inductive VotingMode where
  | standard
  | earlyExecution
  | voteReplacement
  deriving DecidableEq, Repr

/-- The conversion `VoteOption(x)` of a `uint8`, which reverts for values past the last
option. -/
def VoteOption.ofUint8 (value : Uint8) : Option VoteOption :=
  match value.toNat with
  | 0 => some .none
  | 1 => some .abstain
  | 2 => some .yes
  | 3 => some .no
  | _ => Option.none

/-- `MajorityVotingBase.VotingSettings`. -/
structure VotingSettings where
  votingMode : VotingMode
  supportThreshold : Uint32
  minParticipation : Uint32
  minDuration : Uint64
  minProposerVotingPower : Uint256
  votingProtocolConfig : String
  verifier : Address
  votingProtocolImageId : Bytes32
  executionProtocolImageId : Bytes32

/-- `MajorityVotingBase.ProposalParameters`. -/
structure ProposalParameters where
  votingMode : VotingMode
  supportThreshold : Uint32
  startDate : Uint64
  endDate : Uint64
  snapshotBlock : Uint64
  snapshotBlockHash : Bytes32
  votingProtocolConfig : String
  verifier : Address
  votingProtocolImageId : Bytes32
  executionProtocolImageId : Bytes32
  deriving DecidableEq

/-- `MajorityVotingBase.Tally`. -/
structure Tally where
  abstain : Uint256
  yes : Uint256
  no : Uint256
  deriving DecidableEq, Repr

/-- OSx `IDAO.Action`: a call the DAO makes when a proposal is executed; `target` is the
action's `to`. -/
structure Action where
  target : Address
  value : Uint256
  data : Bytes
  deriving DecidableEq

/-- `MajorityVotingBase.Proposal`. -/
structure Proposal where
  executed : Bool
  parameters : ProposalParameters
  tally : Tally
  voters : Address → VoteOption
  actions : List Action
  allowFailureMap : Uint256

/-- Parameters never written: every field holds the zero value of its type. -/
def ProposalParameters.unset : ProposalParameters where
  votingMode := .standard
  supportThreshold := 0
  startDate := 0
  endDate := 0
  snapshotBlock := 0
  snapshotBlockHash := 0
  votingProtocolConfig := ""
  verifier := 0
  votingProtocolImageId := 0
  executionProtocolImageId := 0

/-- The tally of a proposal nobody voted on. -/
def Tally.zero : Tally := ⟨0, 0, 0⟩

/-- A proposal slot never written. -/
def Proposal.unset : Proposal where
  executed := false
  parameters := .unset
  tally := .zero
  voters := fun _ => .none
  actions := []
  allowFailureMap := 0

/-- The storage of `RiscVotingProtocolPlugin` that its functions read and write. -/
structure PluginState where
  proposals : Uint256 → Proposal
  votingSettings : VotingSettings
  proposalCounter : Nat
  executionRequests : List Uint256

/-- Why a call reverts: a `require` message, a `Panic` code, an undecodable argument, a
rejected proof, or one of the contracts' custom errors. -/
inductive Revert where
  | message (text : String)
  | panic (code : Nat)
  | decoding
  | verification
  | daoUnauthorized (who : Address)
  | ratioOutOfBounds (limit actual : Nat)
  | minDurationOutOfBounds (limit actual : Uint64)
  | dateOutOfBounds (limit actual : Uint64)
  | proposalExecutionForbidden (proposalId : Uint256)
  deriving DecidableEq, Repr

/-- `Panic(0x11)`: checked arithmetic left the range of its type. -/
def Revert.arithmetic : Revert := .panic 0x11

/-- `Panic(0x21)`: a value was converted to an enum it is not a member of. -/
def Revert.enumConversion : Revert := .panic 0x21

/-- The revert of OpenZeppelin's `SafeCast.toUint64`. -/
def Revert.safeCastUint64 : Revert := .message "SafeCast: value doesn't fit in 64 bits"

/-- An optional result, reverting with `error` when absent. -/
def orRevert {α : Type} (error : Revert) : Option α → Except Revert α
  | some value => .ok value
  | none => .error error

/-- `require(condition, message)`. -/
def require (condition : Bool) (error : Revert) : Except Revert Unit :=
  if condition then .ok () else .error error

@[simp] theorem orRevert_eq_ok {α : Type} {error : Revert} {option : Option α} {value : α} :
    orRevert error option = .ok value ↔ option = some value := by
  cases option <;> simp [orRevert]

@[simp] theorem require_eq_ok {condition : Bool} {error : Revert} {result : Unit} :
    require condition error = .ok result ↔ condition = true := by
  cases condition <;> simp [require]

/-- The block a transaction runs in, as the EVM exposes it. -/
structure BlockContext where
  number : Uint256
  timestamp : Uint256
  blockhash : Uint256 → Bytes32

/-- The permissions the plugin's functions check with OSx `auth`. -/
inductive Permission where
  | createProposal
  | updateVotingSettings
  deriving DecidableEq, Repr

/-- What the plugin's functions read from outside its storage: its own address, its DAO,
the DAO's permission table for the plugin, the RISC Zero verifier contracts, the `sha256`
precompile, and the id OSx's `_createProposal` hands out to a proposal created after `count`
others (`createProposalId count`). `verify` holds when
`IRiscZeroVerifier(verifier).verify(seal, imageId, digest)` returns without reverting. -/
structure Environment where
  self : Address
  dao : Address
  isGranted : Address → Permission → Bool
  verify : Address → Bytes → Bytes32 → Bytes32 → Bool
  sha256 : Bytes → Bytes32
  createProposalId : Nat → Uint256

/-- The ids `_createProposal` hands out to the first `count` proposals, in order. -/
def Environment.issuedIds (environment : Environment) (count : Nat) : List Uint256 :=
  (List.range count).map environment.createProposalId

/-- The ids `_createProposal` hands out to the first `count` proposals are distinct: OSx gives
each proposal a fresh id. -/
def Environment.FreshIds (environment : Environment) (count : Nat) : Prop :=
  (environment.issuedIds count).Nodup

instance (environment : Environment) (count : Nat) : Decidable (environment.FreshIds count) :=
  inferInstanceAs (Decidable (environment.issuedIds count).Nodup)

namespace Environment

variable (environment : Environment)

theorem issuedIds_succ (count : Nat) :
    environment.issuedIds (count + 1) =
      environment.issuedIds count ++ [environment.createProposalId count] := by
  rw [issuedIds, issuedIds, List.range_succ, List.map_append, List.map_singleton]

theorem mem_issuedIds_succ {proposalId : Uint256} {count : Nat} :
    proposalId ∈ environment.issuedIds (count + 1) ↔
      proposalId ∈ environment.issuedIds count ∨ proposalId = environment.createProposalId count := by
  rw [issuedIds_succ, List.mem_append, List.mem_singleton]

/-- Ids handed out before are handed out again in every longer prefix. -/
theorem issuedIds_subset {count more : Nat} (fewer : count ≤ more) :
    environment.issuedIds count ⊆ environment.issuedIds more :=
  List.map_subset _ (List.range_subset.mpr fewer)

variable {environment}

/-- Under fresh ids, the id of the next proposal has not been handed out before. -/
theorem FreshIds.not_mem {count : Nat} (fresh : environment.FreshIds (count + 1)) :
    environment.createProposalId count ∉ environment.issuedIds count := by
  rw [FreshIds, issuedIds_succ, List.nodup_append] at fresh
  exact fun member => fresh.2.2 _ member _ (List.mem_singleton_self _) rfl

/-- Ids fresh among more proposals are fresh among fewer. -/
theorem FreshIds.mono {count more : Nat} (fresh : environment.FreshIds more) (fewer : count ≤ more) :
    environment.FreshIds count :=
  fresh.sublist ((List.range_sublist.mpr fewer).map _)

end Environment

end ZkGovernance
