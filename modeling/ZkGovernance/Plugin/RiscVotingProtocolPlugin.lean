import ZkGovernance.Plugin.MajorityVotingBase
import ZkGovernance.Steel.Commitment

/-!
# `RiscVotingProtocolPlugin`

The plugin's own functions: `createProposal`, the proof-carrying `vote` and
`execute`, and the view `_canVote`. A vote or an execution arrives as a
journal, the ABI-encoded output of a guest program, with a seal that the
RISC Zero verifier named in the proposal checks against the journal's
`sha256`. The plugin decodes the journal as a `VotingJournal`, compares its
commitment with the proposal's snapshot block and then trusts its fields.

`vote` does not call `_canVote`, and neither `vote` nor `execute` reads the
proposal's dates or tally beyond what `_canExecute` checks; the lemmas of
`ZkGovernance.Plugin.Calls` and `ZkGovernance.Plugin.Tally` state what follows.
-/

namespace ZkGovernance

open Abi Solidity

/-- `VotingJournal`, the journal layout the plugin decodes. `ExecutionJournal` is declared
separately in the source with the same fields. -/
structure VotingJournal where
  commitment : Steel.Commitment
  configContract : Address
  proposalId : Uint256
  voter : Address
  balance : Uint256
  direction : Uint8
  deriving DecidableEq, Repr

/-- `ExecutionJournal`: the same fields as `VotingJournal`. -/
abbrev ExecutionJournal := VotingJournal

/-- The ABI type of `VotingJournal` and of `ExecutionJournal`. -/
def votingJournalType : AbiType :=
  .tuple [Steel.commitmentType, .address, .uint 256, .address, .uint 256, .uint 8]

/-- Read a decoded `VotingJournal` value back into the struct. -/
def VotingJournal.ofAbi : AbiValue → Option VotingJournal
  | .tuple [.tuple [.word id, .word digest, .word configID], .word configContract,
      .word proposalId, .word voter, .word balance, .word direction] =>
      some { commitment := { id, digest, configID }
             configContract := configContract.setWidth 160
             proposalId
             voter := voter.setWidth 160
             balance
             direction := direction.setWidth 8 }
  | _ => none

/-- `abi.decode(journalData, (VotingJournal))`, and the same for `ExecutionJournal`. -/
def decodeVotingJournal (journalData : Bytes) : Option VotingJournal :=
  match abiDecode [votingJournalType] journalData with
  | some [value] => VotingJournal.ofAbi value
  | _ => none

/-- The bucket of the tally an option counts in; `None` counts nowhere. -/
def Tally.update (tally : Tally) (option : VoteOption) (change : Uint256 → Option Uint256) :
    Option Tally :=
  match option with
  | .none => some tally
  | .abstain => (change tally.abstain).map fun abstain => { tally with abstain }
  | .yes => (change tally.yes).map fun yes => { tally with yes }
  | .no => (change tally.no).map fun no => { tally with no }

/-- The votes of an option, `0` for `None`. -/
def Tally.votes (tally : Tally) : VoteOption → Uint256
  | .none => 0
  | .abstain => tally.abstain
  | .yes => tally.yes
  | .no => tally.no

/-- The first `if` chain of `vote`: the previously recorded option loses `votingPower`,
with checked subtraction. -/
def Tally.retract (tally : Tally) (previous : VoteOption) (votingPower : Uint256) : Option Tally :=
  tally.update previous fun votes => checkedSub votes votingPower

/-- The second `if` chain of `vote`: the new option gains `votingPower`, with checked
addition. -/
def Tally.record (tally : Tally) (option : VoteOption) (votingPower : Uint256) : Option Tally :=
  tally.update option fun votes => checkedAdd votes votingPower

/-- Check a journal's commitment against a proposal's snapshot block: the digest must be
the stored block hash and the claim id the stored block number. -/
def checkCommitment (commitment : Steel.Commitment) (proposal : Proposal) : Except Revert Unit := do
  require (commitment.digest == proposal.parameters.snapshotBlockHash)
    (.message "Invalid commitment")
  let (claimID, _version) := Encoding.decodeVersionedID commitment.id
  require (claimID.toNat == proposal.parameters.snapshotBlock.toNat) (.message "Invalid commitment")

/-- `vote(journalData, seal)`. -/
def vote (environment : Environment) (state : PluginState) (journalData sealData : Bytes) :
    Except Revert PluginState := do
  let journal ← orRevert .decoding (decodeVotingJournal journalData)
  require (journal.configContract == environment.self) (.message "Invalid token address")
  let proposal := state.proposals journal.proposalId
  checkCommitment journal.commitment proposal
  require (environment.verify proposal.parameters.verifier sealData
      proposal.parameters.votingProtocolImageId (environment.sha256 journalData)) .verification
  let votingPower := journal.balance
  let voter := journal.voter
  let retracted ← orRevert Revert.arithmetic
    (proposal.tally.retract (proposal.voters voter) votingPower)
  let voteOption ← orRevert Revert.enumConversion (VoteOption.ofUint8 journal.direction)
  let tally ← orRevert Revert.arithmetic (retracted.record voteOption votingPower)
  return state.setProposal journal.proposalId
    { proposal with
      tally
      voters := fun account => if account = voter then voteOption else proposal.voters account }

/-- `_canVote`, also the view `canVote`: the vote is open, the option is not `None`, and
an account that voted may vote again only in vote-replacement mode. -/
def _canVote (block : BlockContext) (state : PluginState) (proposalId : Uint256)
    (account : Address) (voteOption : VoteOption) : Except Revert Bool := do
  let proposal := state.proposals proposalId
  let isOpen ← _isProposalOpen block proposal
  return isOpen && voteOption != .none &&
    !(proposal.voters account != .none && proposal.parameters.votingMode != .voteReplacement)

/-- `execute(journalData, seal)` up to the call into the DAO: the journal is decoded and
checked, `_canExecute` must hold, and `_execute` marks the proposal and asks the DAO to run
its actions. Returns the proposal id. -/
def execute (environment : Environment) (block : BlockContext) (state : PluginState)
    (journalData sealData : Bytes) : Except Revert (Uint256 × PluginState) := do
  let executionJournal ← orRevert .decoding (decodeVotingJournal journalData)
  require (executionJournal.configContract == environment.self) (.message "Invalid token address")
  let proposalId := executionJournal.proposalId
  let proposal := state.proposals proposalId
  let allowed ← _canExecute block state proposalId
  if !allowed then throw (.proposalExecutionForbidden proposalId)
  checkCommitment executionJournal.commitment proposal
  require (environment.verify proposal.parameters.verifier sealData
      proposal.parameters.executionProtocolImageId (environment.sha256 journalData)) .verification
  return (proposalId, _execute state proposalId)

/-- OSx `ProposalUpgradeable._createProposal`: the id OSx hands out after `proposalCounter`
creations, and one more creation counted. -/
def _createProposal (environment : Environment) (state : PluginState) : Uint256 × PluginState :=
  (environment.createProposalId state.proposalCounter,
    { state with proposalCounter := state.proposalCounter + 1 })

/-- The parameters `createProposal` stores: the validated dates, the snapshot block and its
hash, and the current settings. -/
def ProposalParameters.ofSettings (settings : VotingSettings) (startDate endDate : Uint64)
    (snapshotBlock : Uint64) (snapshotBlockHash : Bytes32) : ProposalParameters where
  votingMode := settings.votingMode
  supportThreshold := settings.supportThreshold
  startDate := startDate
  endDate := endDate
  snapshotBlock := snapshotBlock
  snapshotBlockHash := snapshotBlockHash
  votingProtocolConfig := settings.votingProtocolConfig
  verifier := settings.verifier
  votingProtocolImageId := settings.votingProtocolImageId
  executionProtocolImageId := settings.executionProtocolImageId

/-- `createProposal(_metadata, _actions, _allowFailureMap, _startDate, _endDate)`, guarded by
`CREATE_PROPOSAL_PERMISSION_ID`. The snapshot is the previous block, computed without overflow
checks. Returns the new proposal's id. -/
def createProposal (environment : Environment) (block : BlockContext) (sender : Address)
    (state : PluginState) (_metadata : Bytes) (actions : List Action) (allowFailureMap : Uint256)
    (startDate endDate : Uint64) : Except Revert (Uint256 × PluginState) := do
  auth environment sender .createProposal
  let snapshotBlock := block.number - 1
  let (startDate, endDate) ← _validateProposalDates block state startDate endDate
  let (proposalId, created) := _createProposal environment state
  let proposal := created.proposals proposalId
  let snapshotBlock64 ← orRevert .safeCastUint64 (safeCast 64 snapshotBlock)
  let parameters := ProposalParameters.ofSettings created.votingSettings startDate endDate
    snapshotBlock64 (block.blockhash snapshotBlock)
  return (proposalId, created.setProposal proposalId
    { proposal with
      parameters
      allowFailureMap := if allowFailureMap != 0 then allowFailureMap else proposal.allowFailureMap
      actions := proposal.actions ++ actions })

/-- The plugin's storage before `initialize`: no proposal and zero settings. -/
def PluginState.empty : PluginState where
  proposals := fun _ => .unset
  votingSettings :=
    { votingMode := .standard, supportThreshold := 0, minParticipation := 0, minDuration := 0,
      minProposerVotingPower := 0, votingProtocolConfig := "", verifier := 0,
      votingProtocolImageId := 0, executionProtocolImageId := 0 }
  proposalCounter := 0
  executionRequests := []

/-- `initialize(_dao, _votingSettings)`: the settings are validated and stored. -/
def initializePlugin (settings : VotingSettings) : Except Revert PluginState :=
  _updateVotingSettings .empty settings

end ZkGovernance
