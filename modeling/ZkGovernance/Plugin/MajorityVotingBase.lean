import ZkGovernance.Plugin.Types
import ZkGovernance.Semantics.Except

/-!
# `MajorityVotingBase`

The functions of the abstract base contract that the plugin uses: the
settings validation, the proposal-date validation, the openness and
executability checks, the per-proposal config getter and `_execute`.

Every function returns `Except Revert`: `.error` is a revert, which undoes the
whole call. Internal functions keep their Solidity names, underscore included.

The date validation is characterised over the naturals: on a block whose
timestamp fits in `uint64`, it succeeds exactly when a nonzero start is not in
the past, `start + minDuration` fits in `uint64` and a nonzero end is not
before that sum (`_validateProposalDates_succeeds_iff`), and then the start is
now or later and the end at least `minDuration` after it
(`_validateProposalDates_toNat`).
-/

namespace ZkGovernance

open Solidity

/-- `RATIO_BASE` of OSx `Ratio.sol`: ratios are parts per million. -/
def ratioBase : Nat := 10 ^ 6

/-- `60 minutes`, the least admissible `minDuration`. -/
def minDurationLowerBound : Uint64 := 3600

/-- `365 days`, the greatest admissible `minDuration`. -/
def minDurationUpperBound : Uint64 := 365 * 86400

/-- `block.timestamp.toUint64()`. -/
def BlockContext.currentTime (block : BlockContext) : Except Revert Uint64 :=
  orRevert .safeCastUint64 (safeCast 64 block.timestamp)

/-- `_isProposalOpen`: started, not ended and not executed. -/
def _isProposalOpen (block : BlockContext) (proposal : Proposal) : Except Revert Bool := do
  let currentTime ← block.currentTime
  return decide (proposal.parameters.startDate ≤ currentTime) &&
    decide (currentTime < proposal.parameters.endDate) && !proposal.executed

/-- `_canExecute`, also the view `canExecute`: not executed, and if the vote is still open
then only in early-execution mode. No tally is consulted. -/
def _canExecute (block : BlockContext) (state : PluginState) (proposalId : Uint256) :
    Except Revert Bool :=
  let proposal := state.proposals proposalId
  if proposal.executed then .ok false
  else do
    let isOpen ← _isProposalOpen block proposal
    return !(isOpen && proposal.parameters.votingMode != .earlyExecution)

/-- `_updateVotingSettings`: the bounds on the ratios and on the minimal duration, then
the new settings are stored. -/
def _updateVotingSettings (state : PluginState) (settings : VotingSettings) :
    Except Revert PluginState := do
  if settings.supportThreshold.toNat > ratioBase - 1 then
    throw (.ratioOutOfBounds (ratioBase - 1) settings.supportThreshold.toNat)
  if settings.minParticipation.toNat > ratioBase then
    throw (.ratioOutOfBounds ratioBase settings.minParticipation.toNat)
  if settings.minDuration < minDurationLowerBound then
    throw (.minDurationOutOfBounds minDurationLowerBound settings.minDuration)
  if settings.minDuration > minDurationUpperBound then
    throw (.minDurationOutOfBounds minDurationUpperBound settings.minDuration)
  return { state with votingSettings := settings }

/-- OSx `auth(permission)`: the caller must hold the permission on the plugin. -/
def auth (environment : Environment) (sender : Address) (permission : Permission) :
    Except Revert Unit :=
  require (environment.isGranted sender permission) (.daoUnauthorized sender)

/-- `updateVotingSettings`, guarded by `UPDATE_VOTING_SETTINGS_PERMISSION_ID`. -/
def updateVotingSettings (environment : Environment) (sender : Address) (state : PluginState)
    (settings : VotingSettings) : Except Revert PluginState := do
  auth environment sender .updateVotingSettings
  _updateVotingSettings state settings

/-- `_validateProposalDates`: a zero start means now and a zero end means the earliest
end; a start in the past, an end before `start + minDuration`, and an overflow of that
`uint64` sum revert. -/
def _validateProposalDates (block : BlockContext) (state : PluginState) (start finish : Uint64) :
    Except Revert (Uint64 × Uint64) := do
  let currentTimestamp ← block.currentTime
  let startDate ←
    if start = 0 then pure currentTimestamp
    else if start < currentTimestamp then throw (.dateOutOfBounds currentTimestamp start)
    else pure start
  let earliestEndDate ←
    orRevert Revert.arithmetic (checkedAdd startDate state.votingSettings.minDuration)
  let endDate ←
    if finish = 0 then pure earliestEndDate
    else if finish < earliestEndDate then throw (.dateOutOfBounds earliestEndDate finish)
    else pure finish
  return (startDate, endDate)

/-- `block.timestamp.toUint64()` succeeds on every timestamp below `2 ^ 64`. -/
theorem BlockContext.currentTime_eq_ok {block : BlockContext}
    (fits : block.timestamp.toNat < 2 ^ 64) :
    block.currentTime = .ok (block.timestamp.setWidth 64) := by
  have fitsLiteral : block.timestamp.toNat < 18446744073709551616 := fits
  simp [BlockContext.currentTime, safeCast, fitsLiteral]

section ProposalDates

variable {block : BlockContext} {state : PluginState} {start finish : Uint64}

/-- `_validateProposalDates` succeeds exactly when a nonzero start is not before now, the
earliest end fits in `uint64` and a nonzero end is not before it; it returns the start, now
when zero, and the end, the earliest end when zero. -/
theorem _validateProposalDates_eq_ok_iff {dates : Uint64 × Uint64}
    (fits : block.timestamp.toNat < 2 ^ 64) :
    _validateProposalDates block state start finish = .ok dates ↔
      ¬ (¬ start = 0 ∧ start < block.timestamp.setWidth 64) ∧
      ∃ earliestEndDate, checkedAdd (if start = 0 then block.timestamp.setWidth 64 else start)
          state.votingSettings.minDuration = some earliestEndDate ∧
        ¬ (¬ finish = 0 ∧ finish < earliestEndDate) ∧
        (if start = 0 then block.timestamp.setWidth 64 else start,
          if finish = 0 then earliestEndDate else finish) = dates := by
  rw [_validateProposalDates, BlockContext.currentTime_eq_ok fits, Except.ok_bind,
    Except.ite_ite_bind_eq_ok]
  simp only [Except.bind_eq_ok, orRevert_eq_ok, Except.ite_ite_bind_eq_ok, Except.pure_eq_ok]

/-- The current time, as a number, is the block's timestamp while it fits in `uint64`. -/
theorem toNat_currentTime (fits : block.timestamp.toNat < 2 ^ 64) :
    (block.timestamp.setWidth 64).toNat = block.timestamp.toNat := by
  rw [BitVec.toNat_setWidth, Nat.mod_eq_of_lt fits]

/-- The start `_validateProposalDates` picks, as a number. -/
theorem toNat_startDate (fits : block.timestamp.toNat < 2 ^ 64) :
    (if start = 0 then block.timestamp.setWidth 64 else start).toNat =
      if start = 0 then block.timestamp.toNat else start.toNat := by
  by_cases zeroStart : start = 0
  · rw [if_pos zeroStart, if_pos zeroStart, toNat_currentTime fits]
  · rw [if_neg zeroStart, if_neg zeroStart]

/-- Over the naturals, `_validateProposalDates` succeeds exactly when a nonzero start is not
before now, `start + minDuration` is below `2 ^ 64`, and a nonzero end is not before it. -/
theorem _validateProposalDates_succeeds_iff (fits : block.timestamp.toNat < 2 ^ 64) :
    (∃ dates, _validateProposalDates block state start finish = .ok dates) ↔
      ¬ (start ≠ 0 ∧ start.toNat < block.timestamp.toNat) ∧
        (if start = 0 then block.timestamp.toNat else start.toNat) +
          state.votingSettings.minDuration.toNat < 2 ^ 64 ∧
        ¬ (finish ≠ 0 ∧ finish.toNat < (if start = 0 then block.timestamp.toNat else start.toNat) +
          state.votingSettings.minDuration.toNat) := by
  simp only [_validateProposalDates_eq_ok_iff fits, checkedAdd_eq_some_iff_add, BitVec.lt_def,
    toNat_currentTime fits, toNat_startDate fits, and_assoc, exists_and_left, exists_eq_left', exists_eq',
    and_true, BitVec.toNat_add]
  -- without overflow the wrapped earliest end is the sum
  exact and_congr_right fun _ => and_congr_right fun sumFits => by rw [Nat.mod_eq_of_lt sumFits]

/-- The dates `_validateProposalDates` returns, over the naturals: the start is now or later,
and the end is the earliest end, `start + minDuration`, or later. -/
theorem _validateProposalDates_toNat {dates : Uint64 × Uint64}
    (fits : block.timestamp.toNat < 2 ^ 64)
    (accepted : _validateProposalDates block state start finish = .ok dates) :
    dates.1.toNat = (if start = 0 then block.timestamp.toNat else start.toNat) ∧
      dates.2.toNat = (if finish = 0 then
        (if start = 0 then block.timestamp.toNat else start.toNat) +
          state.votingSettings.minDuration.toNat else finish.toNat) ∧
      block.timestamp.toNat ≤ dates.1.toNat ∧
      dates.1.toNat + state.votingSettings.minDuration.toNat ≤ dates.2.toNat := by
  obtain ⟨notEarly, earliestEndDate, added, notShort, rfl⟩ :=
    (_validateProposalDates_eq_ok_iff fits).mp accepted
  obtain ⟨sumFits, rfl⟩ := checkedAdd_eq_some_iff_add.mp added
  rw [toNat_startDate fits] at sumFits
  have earliest : ((if start = 0 then block.timestamp.setWidth 64 else start) +
      state.votingSettings.minDuration).toNat =
        (if start = 0 then block.timestamp.toNat else start.toNat) +
          state.votingSettings.minDuration.toNat := by
    rw [BitVec.toNat_add, toNat_startDate fits, Nat.mod_eq_of_lt sumFits]
  have notPast : block.timestamp.toNat ≤
      if start = 0 then block.timestamp.toNat else start.toNat := by
    by_cases zeroStart : start = 0
    · rw [if_pos zeroStart]
    · -- a nonzero start is checked against now
      have late : ¬ start.toNat < block.timestamp.toNat := by
        rw [← toNat_currentTime fits, ← BitVec.lt_def]
        exact fun early => notEarly ⟨zeroStart, early⟩
      rw [if_neg zeroStart]
      omega
  dsimp only
  rw [toNat_startDate fits]
  by_cases zeroFinish : finish = 0
  · -- a zero end is the earliest end
    rw [if_pos zeroFinish, if_pos zeroFinish, earliest]
    exact ⟨rfl, rfl, notPast, le_refl _⟩
  · -- a nonzero end is checked against the earliest end
    have long : ¬ finish.toNat < (if start = 0 then block.timestamp.toNat else start.toNat) +
        state.votingSettings.minDuration.toNat := by
      rw [← earliest, ← BitVec.lt_def]
      exact fun short => notShort ⟨zeroFinish, short⟩
    rw [if_neg zeroFinish, if_neg zeroFinish]
    exact ⟨rfl, rfl, notPast, by omega⟩

end ProposalDates

/-- `votingProtocolConfig(uint256)`: the config string stored with a proposal. -/
def votingProtocolConfigOf (state : PluginState) (proposalId : Uint256) : String :=
  (state.proposals proposalId).parameters.votingProtocolConfig

/-- Write one proposal slot. -/
def PluginState.setProposal (state : PluginState) (proposalId : Uint256) (proposal : Proposal) :
    PluginState :=
  { state with
    proposals := fun id => if id = proposalId then proposal else state.proposals id }

@[simp] theorem PluginState.setProposal_same (state : PluginState) (proposalId : Uint256)
    (proposal : Proposal) :
    (state.setProposal proposalId proposal).proposals proposalId = proposal := by
  simp [PluginState.setProposal]

@[simp] theorem PluginState.setProposal_other (state : PluginState) {proposalId id : Uint256}
    (proposal : Proposal) (other : id ≠ proposalId) :
    (state.setProposal proposalId proposal).proposals id = state.proposals id := by
  simp [PluginState.setProposal, other]

/-- Writing back the proposal a slot holds changes nothing. -/
@[simp] theorem PluginState.setProposal_self (state : PluginState) (proposalId : Uint256) :
    state.setProposal proposalId (state.proposals proposalId) = state := by
  have unchanged : (fun id => if id = proposalId then state.proposals proposalId
      else state.proposals id) = state.proposals := by
    funext id
    split_ifs with same
    · rw [same]
    · rfl
  simp only [PluginState.setProposal, unchanged]

@[simp] theorem PluginState.setProposal_votingSettings (state : PluginState) (proposalId : Uint256)
    (proposal : Proposal) :
    (state.setProposal proposalId proposal).votingSettings = state.votingSettings :=
  rfl

@[simp] theorem PluginState.setProposal_proposalCounter (state : PluginState)
    (proposalId : Uint256) (proposal : Proposal) :
    (state.setProposal proposalId proposal).proposalCounter = state.proposalCounter :=
  rfl

@[simp] theorem PluginState.setProposal_executionRequests (state : PluginState)
    (proposalId : Uint256) (proposal : Proposal) :
    (state.setProposal proposalId proposal).executionRequests = state.executionRequests :=
  rfl

/-- Writing one slot with a proposal that keeps a field of the slot's proposal keeps that field
in every slot. -/
theorem PluginState.setProposal_field {β : Type} (field : Proposal → β) {state : PluginState}
    {proposalId : Uint256} {proposal : Proposal}
    (kept : field proposal = field (state.proposals proposalId)) (id : Uint256) :
    field ((state.setProposal proposalId proposal).proposals id) = field (state.proposals id) := by
  by_cases same : id = proposalId
  · rw [same, PluginState.setProposal_same, kept]
  · rw [PluginState.setProposal_other _ _ same]

/-- `_execute`: the proposal is marked executed, and then OSx `_executeProposal` asks the
DAO to run its actions. The DAO's run is the caller's business (see `Run`); here the
request is recorded. -/
def _execute (state : PluginState) (proposalId : Uint256) : PluginState :=
  let marked := state.setProposal proposalId { state.proposals proposalId with executed := true }
  { marked with executionRequests := marked.executionRequests ++ [proposalId] }

end ZkGovernance
