import ZkGovernance.Plugin.Deployment
import ZkGovernance.Semantics.Steps
import ZkGovernance.Semantics.Except

/-!
# Calls, re-entrant runs and reachable storage

The plugin is a state machine over `PluginState`: each external function
that writes storage is a `Call`, and `Call.run` is its effect or its revert.

`execute` is the one function that hands control to other code while it
runs: after `_execute` has marked the proposal, the DAO performs the
proposal's actions, and those may call the plugin again before `execute`
returns. `Run` describes a transaction with such nested calls. Since
`execute` writes all its storage before the DAO is called and nothing after,
a nested run has the effect of its calls taken one after the other in the
order they start (`Run.steps`); every invariant of single calls is then an
invariant of nested runs.

A call that reverts leaves no trace, so runs list only the calls that
return. `Reachable` storage is what `initialize` followed by any sequence of
transactions, in any blocks, leaves.
-/

namespace ZkGovernance

open Abi Solidity Semantics

/-- The plugin's external functions that write storage, with their arguments. -/
inductive Call where
  | createProposal (sender : Address) (metadata : Bytes) (actions : List Action)
      (allowFailureMap : Uint256) (startDate endDate : Uint64)
  | vote (journalData sealData : Bytes)
  | execute (journalData sealData : Bytes)
  | updateVotingSettings (sender : Address) (settings : VotingSettings)

/-- The storage a call leaves, or its revert. For `execute` this is the storage when the DAO
is handed the proposal's actions. -/
def Call.run (environment : Environment) (block : BlockContext) (state : PluginState) :
    Call → Except Revert PluginState
  | .createProposal sender metadata actions allowFailureMap startDate endDate =>
      Prod.snd <$>
        ZkGovernance.createProposal environment block sender state metadata actions
          allowFailureMap startDate endDate
  | .vote journalData sealData => ZkGovernance.vote environment state journalData sealData
  | .execute journalData sealData =>
      Prod.snd <$> ZkGovernance.execute environment block state journalData sealData
  | .updateVotingSettings sender settings =>
      ZkGovernance.updateVotingSettings environment sender state settings

/-- One call that returns, in a given block. -/
def Step (environment : Environment) (block : BlockContext) (state : PluginState) (call : Call)
    (next : PluginState) : Prop :=
  call.run environment block state = .ok next

/-- A transaction's calls into the plugin, in the order they start. An `execute` hands control
to the DAO once the proposal is marked; the calls of the DAO's actions back into the plugin
(`inner`) all finish before `execute` returns. -/
inductive Run (environment : Environment) (block : BlockContext) :
    PluginState → List Call → PluginState → Prop where
  | done (state : PluginState) : Run environment block state [] state
  | call {state middle final : PluginState} {calls : List Call} (call : Call)
      (returns : Step environment block state call middle)
      (rest : Run environment block middle calls final) :
      Run environment block state (call :: calls) final
  | execute {state marked afterActions final : PluginState} {inner calls : List Call}
      {journalData sealData : Bytes} {proposalId : Uint256}
      (checked : ZkGovernance.execute environment block state journalData sealData =
        .ok (proposalId, marked))
      (actions : Run environment block marked inner afterActions)
      (rest : Run environment block afterActions calls final) :
      Run environment block state (.execute journalData sealData :: inner ++ calls) final

/-- A nested run has the effect of its calls made one after the other: `execute` writes its
storage before the DAO runs the actions and nothing after. -/
theorem Run.steps {environment : Environment} {block : BlockContext}
    {state final : PluginState} {calls : List Call}
    (run : Run environment block state calls final) :
    Steps (Step environment block) state calls final := by
  induction run with
  | done state => exact .done state
  | call call returns _ restSteps => exact .cons returns restSteps
  | execute checked _ _ actionSteps restSteps =>
      -- the outer `execute` is the step that reaches the state the DAO starts from
      refine .cons ?_ (actionSteps.append restSteps)
      simp only [Step, Call.run, checked]
      rfl

/-- A transaction: a nested run of calls in one block. -/
def Transaction (environment : Environment) (state : PluginState)
    (transaction : BlockContext × List Call) (next : PluginState) : Prop :=
  Run environment transaction.1 state transaction.2 next

/-- One call that returns, labelled with the block it runs in. A run of such steps is any
sequence of calls: the calls of one transaction, or of many. -/
def CallStep (environment : Environment) (state : PluginState)
    (blockCall : BlockContext × Call) (next : PluginState) : Prop :=
  Step environment blockCall.1 state blockCall.2 next

/-- Storage that `initialize` and then a sequence of transactions leave. -/
def Reachable (environment : Environment) (state : PluginState) : Prop :=
  ∃ settings initial transactions, initializePlugin settings = .ok initial ∧
    Steps (Transaction environment) initial transactions state

/-- A transaction from reachable storage leaves reachable storage. -/
theorem Reachable.transaction {environment : Environment} {state next : PluginState}
    {block : BlockContext} {calls : List Call} (reachable : Reachable environment state)
    (run : Run environment block state calls next) : Reachable environment next := by
  obtain ⟨settings, initial, transactions, initialized, history⟩ := reachable
  exact ⟨settings, initial, transactions ++ [(block, calls)], initialized,
    history.append (.single run)⟩

/-- Calls that return from reachable storage, one after the other in any blocks, leave
reachable storage: each is a transaction of its own. -/
theorem Reachable.calls {environment : Environment} {state next : PluginState}
    {calls : List (BlockContext × Call)} (reachable : Reachable environment state)
    (run : Steps (CallStep environment) state calls next) : Reachable environment next := by
  induction run with
  | done => exact reachable
  | cons step _ inductionHypothesis =>
      exact inductionHypothesis (reachable.transaction (Run.call _ step (.done _)))

/-- A property that `initialize` establishes and every call that returns keeps holds in all
reachable storage: each transaction's nested run is a sequence of such calls. -/
theorem Reachable.invariant {environment : Environment} (holds : PluginState → Prop)
    (initially : ∀ {settings initial}, initializePlugin settings = .ok initial → holds initial)
    (preserved : ∀ {block state call next}, Step environment block state call next →
      holds state → holds next)
    {state : PluginState} (reachable : Reachable environment state) : holds state := by
  obtain ⟨settings, initial, transactions, initialized, history⟩ := reachable
  exact Steps.invariant holds
    (fun nested before => Steps.invariant holds preserved (Run.steps nested) before) history
    (initially initialized)

/-! ## The commitment check -/

/-- The check `vote` and `execute` make on a journal's commitment accepts exactly the
commitments whose digest is the proposal's snapshot block hash and whose id packs the snapshot
block number with any version: unlike `Steel.validateCommitment`, no version is rejected,
and the commitment's `configID` is not read. The packing of the claim id and the version is
read back both ways. -/
theorem checkCommitment_eq_ok_iff (commitment : Steel.Commitment) (proposal : Proposal) :
    (checkCommitment commitment proposal = .ok () ↔
      commitment.digest = proposal.parameters.snapshotBlockHash ∧
        ∃ version, commitment.id =
          Encoding.encodeVersionedID (proposal.parameters.snapshotBlock.setWidth 240) version) ∧
      (∀ id version, Encoding.decodeVersionedID (Encoding.encodeVersionedID id version) =
        (id, version)) ∧
      ∀ id, Encoding.encodeVersionedID (Encoding.decodeVersionedID id).1
        (Encoding.decodeVersionedID id).2 = id := by
  refine ⟨?_, Encoding.decodeVersionedID_encodeVersionedID,
    Encoding.encodeVersionedID_decodeVersionedID⟩
  -- the claim id is compared as a number with the 64-bit block number
  have widened : (proposal.parameters.snapshotBlock.setWidth 240).toNat =
      proposal.parameters.snapshotBlock.toNat := by
    rw [BitVec.toNat_setWidth, Nat.mod_eq_of_lt (proposal.parameters.snapshotBlock.isLt.trans_le
      (Nat.pow_le_pow_right (by norm_num) (by norm_num)))]
  have sameBlock : ∀ claimID : BitVec 240,
      claimID.toNat = proposal.parameters.snapshotBlock.toNat ↔
        claimID = proposal.parameters.snapshotBlock.setWidth 240 := by
    intro claimID
    rw [← widened, BitVec.toNat_inj]
  simp only [checkCommitment, Except.bind_eq_ok, require_eq_ok, beq_iff_eq, exists_const,
    sameBlock, Encoding.decodeVersionedID_fst_eq_iff]

/-! ## What each call writes -/

section Specs

variable {environment : Environment} {block : BlockContext} {state next : PluginState}

/-- A successful `vote`: the journal decoded, named this plugin, matched the proposal's snapshot
block and was verified; the voter's previous option lost the journal's balance and the new
option gained it; only the proposal's tally and voters changed. -/
theorem vote_spec {journalData sealData : Bytes}
    (accepted : vote environment state journalData sealData = .ok next) :
    ∃ journal retracted voteOption tally,
      decodeVotingJournal journalData = some journal ∧
      journal.configContract = environment.self ∧
      checkCommitment journal.commitment (state.proposals journal.proposalId) = .ok () ∧
      environment.verify (state.proposals journal.proposalId).parameters.verifier sealData
        (state.proposals journal.proposalId).parameters.votingProtocolImageId
        (environment.sha256 journalData) = true ∧
      (state.proposals journal.proposalId).tally.retract
        ((state.proposals journal.proposalId).voters journal.voter) journal.balance =
          some retracted ∧
      VoteOption.ofUint8 journal.direction = some voteOption ∧
      retracted.record voteOption journal.balance = some tally ∧
      next = state.setProposal journal.proposalId
        { state.proposals journal.proposalId with
          tally
          voters := fun account =>
            if account = journal.voter then voteOption
            else (state.proposals journal.proposalId).voters account } := by
  simp only [vote, Except.bind_eq_ok, orRevert_eq_ok, require_eq_ok, beq_iff_eq,
    Except.pure_eq_ok, exists_const] at accepted
  obtain ⟨journal, decoded, configured, ⟨⟩, commitment, verified, retracted, retractOk,
    voteOption, optionOk, tally, recordOk, written⟩ := accepted
  exact ⟨journal, retracted, voteOption, tally, decoded, configured, commitment, verified,
    retractOk, optionOk, recordOk, written.symm⟩

/-- The converse of `vote_spec`: a journal that passes every check is counted. -/
theorem vote_eq_ok_of_checks {journalData sealData : Bytes} {journal : VotingJournal}
    {retracted tally : Tally} {voteOption : VoteOption}
    (decoded : decodeVotingJournal journalData = some journal)
    (configured : journal.configContract = environment.self)
    (commitment : checkCommitment journal.commitment (state.proposals journal.proposalId) = .ok ())
    (verified : environment.verify (state.proposals journal.proposalId).parameters.verifier sealData
        (state.proposals journal.proposalId).parameters.votingProtocolImageId
        (environment.sha256 journalData) = true)
    (retractOk : (state.proposals journal.proposalId).tally.retract
        ((state.proposals journal.proposalId).voters journal.voter) journal.balance =
          some retracted)
    (optionOk : VoteOption.ofUint8 journal.direction = some voteOption)
    (recordOk : retracted.record voteOption journal.balance = some tally) :
    vote environment state journalData sealData = .ok (state.setProposal journal.proposalId
        { state.proposals journal.proposalId with
          tally
          voters := fun account =>
            if account = journal.voter then voteOption
            else (state.proposals journal.proposalId).voters account }) := by
  simp only [vote, decoded, orRevert, configured, commitment, verified, retractOk, optionOk,
    recordOk, require, beq_self_eq_true, if_true, Except.ok_bind]
  rfl

/-- `_canExecute` allows exactly a proposal not yet executed whose vote is not open at the
block's time, or one in early-execution mode: no tally is read, and a vote that has not
started yet does not stop the execution. -/
theorem canExecute_eq_ok_true_iff (proposalId : Uint256) :
    _canExecute block state proposalId = .ok true ↔
      (state.proposals proposalId).executed = false ∧ ∃ time, block.currentTime = .ok time ∧
        (time < (state.proposals proposalId).parameters.startDate ∨
          (state.proposals proposalId).parameters.endDate ≤ time ∨
          (state.proposals proposalId).parameters.votingMode = .earlyExecution) := by
  unfold _canExecute _isProposalOpen
  cases executed : (state.proposals proposalId).executed with
  | true => simp [executed]
  | false =>
      -- the clock is read only for a proposal not yet executed
      cases clock : block.currentTime with
      | error revert => simp [executed]
      | ok time => simp [executed, pure, Except.pure, BitVec.not_le, BitVec.not_lt, or_assoc]

/-- `_canExecute` allows only proposals not yet executed. -/
theorem not_executed_of_canExecute {proposalId : Uint256}
    (allowed : _canExecute block state proposalId = .ok true) :
    (state.proposals proposalId).executed = false :=
  ((canExecute_eq_ok_true_iff proposalId).mp allowed).1

/-- A successful `execute`: the journal decoded, named this plugin and the proposal, the
proposal could be executed, the commitment matched its snapshot block and the journal was
verified; then `_execute` marked it and asked the DAO to run its actions. -/
theorem execute_spec {journalData sealData : Bytes} {proposalId : Uint256}
    (accepted : execute environment block state journalData sealData = .ok (proposalId, next)) :
    ∃ journal, decodeVotingJournal journalData = some journal ∧
      journal.configContract = environment.self ∧ journal.proposalId = proposalId ∧
      _canExecute block state proposalId = .ok true ∧
      checkCommitment journal.commitment (state.proposals proposalId) = .ok () ∧
      environment.verify (state.proposals proposalId).parameters.verifier sealData
        (state.proposals proposalId).parameters.executionProtocolImageId
        (environment.sha256 journalData) = true ∧
      next = _execute state proposalId := by
  simp only [execute, Except.bind_eq_ok, orRevert_eq_ok, require_eq_ok, beq_iff_eq] at accepted
  obtain ⟨journal, decoded, _, configured, allowed, allowedOk, rest⟩ := accepted
  -- a forbidden execution throws before anything else runs
  cases allowed with
  | false => simp at rest
  | true =>
      simp only [Bool.not_true, Bool.false_eq_true, if_false, Except.bind_eq_ok,
        require_eq_ok, Except.pure_eq_ok, Prod.mk.injEq, exists_const] at rest
      obtain ⟨⟨⟩, commitment, verified, sameId, written⟩ := rest
      subst sameId
      exact ⟨journal, decoded, configured, rfl, allowedOk, commitment, verified, written.symm⟩

/-- The converse of `execute_spec`: a journal that passes every check executes its proposal. -/
theorem execute_eq_ok_of_checks {journalData sealData : Bytes} {journal : VotingJournal}
    (decoded : decodeVotingJournal journalData = some journal)
    (configured : journal.configContract = environment.self)
    (allowed : _canExecute block state journal.proposalId = .ok true)
    (commitment : checkCommitment journal.commitment (state.proposals journal.proposalId) = .ok ())
    (verified : environment.verify (state.proposals journal.proposalId).parameters.verifier sealData
        (state.proposals journal.proposalId).parameters.executionProtocolImageId
        (environment.sha256 journalData) = true) :
    execute environment block state journalData sealData =
      .ok (journal.proposalId, _execute state journal.proposalId) := by
  simp only [execute, decoded, orRevert, configured, allowed, commitment, verified, require,
    beq_self_eq_true, if_true, Bool.not_true, Bool.false_eq_true, if_false, Except.ok_bind]
  rfl

/-- A successful `createProposal`: the caller held the permission, the dates were validated
and the snapshot block fits `uint64`; the slot of the id handed out for the counter's current
value received the validated dates, the snapshot block and its hash and the current settings,
the failure map when it is not zero and the actions after those it held; and the counter was
incremented. -/
theorem createProposal_stores {sender : Address} {metadata : Bytes} {actions : List Action}
    {allowFailureMap : Uint256} {startDate endDate : Uint64} {proposalId : Uint256}
    (accepted : createProposal environment block sender state metadata actions allowFailureMap
      startDate endDate = .ok (proposalId, next)) :
    ∃ (dates : Uint64 × Uint64) (snapshotBlock : Uint64),
      environment.isGranted sender .createProposal = true ∧
      _validateProposalDates block state startDate endDate = .ok dates ∧
      safeCast 64 (block.number - 1) = some snapshotBlock ∧
      proposalId = environment.createProposalId state.proposalCounter ∧
      next = { state with proposalCounter := state.proposalCounter + 1 }.setProposal proposalId
        { state.proposals proposalId with
          parameters := ProposalParameters.ofSettings state.votingSettings dates.1 dates.2
            snapshotBlock (block.blockhash (block.number - 1))
          allowFailureMap :=
            if allowFailureMap != 0 then allowFailureMap
            else (state.proposals proposalId).allowFailureMap
          actions := (state.proposals proposalId).actions ++ actions } := by
  simp only [createProposal, auth, _createProposal, Except.bind_eq_ok, orRevert_eq_ok,
    require_eq_ok, Except.pure_eq_ok, Prod.mk.injEq, exists_const] at accepted
  obtain ⟨granted, dates, validated, snapshotBlock, fits, sameId, written⟩ := accepted
  subst sameId
  exact ⟨dates, snapshotBlock, granted, validated, fits, rfl, written.symm⟩

/-- A successful `createProposal` writes the slot of the id handed out for the counter's current
value, with the current config, and increments the counter; the slot keeps its `executed` flag. -/
theorem createProposal_spec {sender : Address} {metadata : Bytes} {actions : List Action}
    {allowFailureMap : Uint256} {startDate endDate : Uint64} {proposalId : Uint256}
    (accepted : createProposal environment block sender state metadata actions allowFailureMap
      startDate endDate = .ok (proposalId, next)) :
    ∃ parameters : ProposalParameters,
      parameters.votingProtocolConfig = state.votingSettings.votingProtocolConfig ∧
      environment.isGranted sender .createProposal = true ∧
      proposalId = environment.createProposalId state.proposalCounter ∧
      next = { state with proposalCounter := state.proposalCounter + 1 }.setProposal proposalId
        { state.proposals proposalId with
          parameters
          allowFailureMap :=
            if allowFailureMap != 0 then allowFailureMap
            else (state.proposals proposalId).allowFailureMap
          actions := (state.proposals proposalId).actions ++ actions } := by
  obtain ⟨_, _, granted, _, _, sameId, written⟩ := createProposal_stores accepted
  exact ⟨_, rfl, granted, sameId, written⟩

/-- A successful `updateVotingSettings` replaces the settings and nothing else. -/
theorem updateVotingSettings_spec {sender : Address} {settings : VotingSettings}
    (accepted : updateVotingSettings environment sender state settings = .ok next) :
    environment.isGranted sender .updateVotingSettings = true ∧
      next = { state with votingSettings := settings } := by
  simp only [updateVotingSettings, auth, _updateVotingSettings, Except.bind_eq_ok,
    require_eq_ok, exists_const] at accepted
  obtain ⟨granted, checked⟩ := accepted
  refine ⟨granted, ?_⟩
  split_ifs at checked <;> simp_all [pure, Except.pure]

end Specs

/-- `initialize` stores the settings in empty storage and writes nothing else. -/
theorem initializePlugin_spec {settings : VotingSettings} {initial : PluginState}
    (initialized : initializePlugin settings = .ok initial) :
    initial = { PluginState.empty with votingSettings := settings } := by
  simp only [initializePlugin, _updateVotingSettings] at initialized
  split_ifs at initialized <;> simp_all [pure, Except.pure]

/-! ## What each call that returns writes

The frame lemmas the invariants below are built on: which slot a call writes and which of
its fields. -/

section Writes

variable {environment : Environment} {block : BlockContext} {state next : PluginState}

/-- A `createProposal` that returns increments the counter and writes the parameters, the
actions and the failure map of the slot of the id handed out for the counter's old value. -/
theorem Step.createProposal_writes {sender : Address} {metadata : Bytes} {actions : List Action}
    {allowFailureMap : Uint256} {startDate endDate : Uint64}
    (step : Step environment block state
      (.createProposal sender metadata actions allowFailureMap startDate endDate) next) :
    ∃ (parameters : ProposalParameters) (failureMap : Uint256) (allActions : List Action),
      next = { state with proposalCounter := state.proposalCounter + 1 }.setProposal
        (environment.createProposalId state.proposalCounter)
        { state.proposals (environment.createProposalId state.proposalCounter) with
          parameters, allowFailureMap := failureMap, actions := allActions } := by
  simp only [Step, Call.run, Except.map_eq_ok] at step
  obtain ⟨⟨created, stored⟩, accepted, rfl⟩ := step
  obtain ⟨_, _, _, rfl, rfl⟩ := createProposal_spec accepted
  exact ⟨_, _, _, rfl⟩

/-- A `vote` that returns writes the tally and the voters of one proposal, whose verifier
accepted the seal. -/
theorem Step.vote_writes {journalData sealData : Bytes}
    (step : Step environment block state (.vote journalData sealData) next) :
    ∃ (proposalId : Uint256) (tally : Tally) (voters : Address → VoteOption),
      (∃ imageId journalDigest, environment.verify
        (state.proposals proposalId).parameters.verifier sealData imageId journalDigest = true) ∧
      next = state.setProposal proposalId { state.proposals proposalId with tally, voters } := by
  obtain ⟨journal, _, _, _, _, _, _, verified, _, _, _, rfl⟩ := vote_spec step
  exact ⟨_, _, _, ⟨_, _, verified⟩, rfl⟩

/-- An `execute` that returns runs `_execute` on a proposal not executed before, whose verifier
accepted the seal. -/
theorem Step.execute_writes {journalData sealData : Bytes}
    (step : Step environment block state (.execute journalData sealData) next) :
    ∃ proposalId : Uint256, (state.proposals proposalId).executed = false ∧
      (∃ imageId journalDigest, environment.verify
        (state.proposals proposalId).parameters.verifier sealData imageId journalDigest = true) ∧
      next = _execute state proposalId := by
  simp only [Step, Call.run, Except.map_eq_ok] at step
  obtain ⟨⟨executed, marked⟩, accepted, rfl⟩ := step
  obtain ⟨_, _, _, _, allowed, _, verified, rfl⟩ := execute_spec accepted
  exact ⟨executed, not_executed_of_canExecute allowed, ⟨_, _, verified⟩, rfl⟩

end Writes

/-- What `createProposal` writes of a proposal and no other call writes: its parameters, its
actions and its failure map. -/
structure Creation where
  parameters : ProposalParameters
  actions : List Action
  allowFailureMap : Uint256

/-- A proposal's creation record. -/
def Proposal.creation (proposal : Proposal) : Creation :=
  ⟨proposal.parameters, proposal.actions, proposal.allowFailureMap⟩

/-- Every call either leaves the counter and every creation record alone, or is a
`createProposal` that increments the counter and writes the record of the slot of the id handed
out for the counter's old value only. -/
theorem Step.creation_or_create {environment : Environment} {block : BlockContext}
    {state next : PluginState} {call : Call} (step : Step environment block state call next) :
    (next.proposalCounter = state.proposalCounter ∧
        ∀ proposalId, (next.proposals proposalId).creation =
          (state.proposals proposalId).creation) ∨
      (next.proposalCounter = state.proposalCounter + 1 ∧
        ∀ proposalId, proposalId ≠ environment.createProposalId state.proposalCounter →
          (next.proposals proposalId).creation = (state.proposals proposalId).creation) := by
  cases call with
  | createProposal sender metadata actions allowFailureMap startDate endDate =>
      obtain ⟨_, _, _, rfl⟩ := step.createProposal_writes
      exact .inr ⟨rfl, fun proposalId other => by simp [other]⟩
  | vote journalData sealData =>
      obtain ⟨voted, _, _, _, rfl⟩ := step.vote_writes
      exact .inl ⟨rfl, PluginState.setProposal_field Proposal.creation rfl⟩
  | execute journalData sealData =>
      obtain ⟨executed, _, _, rfl⟩ := step.execute_writes
      exact .inl ⟨rfl, PluginState.setProposal_field Proposal.creation rfl⟩
  | updateVotingSettings sender settings =>
      obtain ⟨_, rfl⟩ := updateVotingSettings_spec step
      exact .inl ⟨rfl, fun _ => rfl⟩

/-! ## Execution flags and the DAO's execution requests -/

/-- `_execute` records exactly one request, for the proposal it marks. -/
@[simp] theorem _execute_executionRequests (state : PluginState) (proposalId : Uint256) :
    (_execute state proposalId).executionRequests = state.executionRequests ++ [proposalId] :=
  rfl

/-- `_execute` sets the flag of the proposal it marks and no other. -/
@[simp] theorem _execute_executed (state : PluginState) (proposalId id : Uint256) :
    ((_execute state proposalId).proposals id).executed =
      (id == proposalId || (state.proposals id).executed) := by
  by_cases same : id = proposalId
  · subst same
    simp [_execute]
  · simp [_execute, same]

/-- Every call either leaves the flags and the requests alone or is an `execute` of a proposal
not yet executed. -/
theorem Step.flags_or_execute {environment : Environment} {block : BlockContext}
    {state next : PluginState} {call : Call} (step : Step environment block state call next) :
    (next.executionRequests = state.executionRequests ∧
        ∀ proposalId, (next.proposals proposalId).executed =
          (state.proposals proposalId).executed) ∨
      ∃ proposalId, (state.proposals proposalId).executed = false ∧
        next = _execute state proposalId := by
  cases call with
  | createProposal sender metadata actions allowFailureMap startDate endDate =>
      obtain ⟨_, _, _, rfl⟩ := step.createProposal_writes
      exact .inl ⟨rfl, PluginState.setProposal_field Proposal.executed rfl⟩
  | vote journalData sealData =>
      obtain ⟨proposalId, _, _, _, rfl⟩ := step.vote_writes
      exact .inl ⟨rfl, PluginState.setProposal_field Proposal.executed rfl⟩
  | execute journalData sealData =>
      obtain ⟨proposalId, fresh, _, rfl⟩ := step.execute_writes
      exact .inr ⟨proposalId, fresh, rfl⟩
  | updateVotingSettings sender settings =>
      obtain ⟨_, rfl⟩ := updateVotingSettings_spec step
      exact .inl ⟨rfl, fun _ => rfl⟩

/-- No call clears an execution flag. -/
theorem Step.executed_mono {environment : Environment} {block : BlockContext}
    {state next : PluginState} {call : Call} (step : Step environment block state call next)
    {proposalId : Uint256} (executed : (state.proposals proposalId).executed = true) :
    (next.proposals proposalId).executed = true := by
  rcases step.flags_or_execute with ⟨_, flags⟩ | ⟨marked, _, rfl⟩
  · rw [flags, executed]
  · simp [executed]

/-- The plugin's record of execution requests: every proposal the DAO was asked to execute
is marked executed, and no proposal was asked twice. -/
structure ExecutionLog (state : PluginState) : Prop where
  marked : ∀ proposalId ∈ state.executionRequests, (state.proposals proposalId).executed = true
  once : state.executionRequests.Nodup

/-- Before any transaction nothing was asked of the DAO. -/
theorem ExecutionLog.initial {settings : VotingSettings} {initial : PluginState}
    (initialized : initializePlugin settings = .ok initial) : ExecutionLog initial := by
  obtain rfl := initializePlugin_spec initialized
  exact ⟨by simp [PluginState.empty], List.nodup_nil⟩

/-- Every call keeps the record: a request is only added by `execute` for a proposal that was
not executed, hence not yet requested, and it is then marked. -/
theorem ExecutionLog.step {environment : Environment} {block : BlockContext}
    {state next : PluginState} {call : Call} (log : ExecutionLog state)
    (step : Step environment block state call next) : ExecutionLog next := by
  rcases step.flags_or_execute with ⟨requests, flags⟩ | ⟨proposalId, fresh, rfl⟩
  · refine ⟨fun id requested => ?_, requests ▸ log.once⟩
    rw [flags]
    exact log.marked id (requests ▸ requested)
  · have notRequested : proposalId ∉ state.executionRequests := fun requested => by
      simp [log.marked proposalId requested] at fresh
    refine ⟨fun id requested => ?_, ?_⟩
    · simp only [_execute_executionRequests, List.mem_append, List.mem_singleton] at requested
      rcases requested with earlier | rfl
      · simp [log.marked id earlier]
      · simp
    · simpa [List.nodup_append] using
        ⟨log.once, fun id requested same => notRequested (same ▸ requested)⟩

/-- Storage that every transaction, with all its nested calls, keeps the record of. -/
theorem ExecutionLog.transaction {environment : Environment} {state next : PluginState}
    {transaction : BlockContext × List Call} (log : ExecutionLog state)
    (run : Transaction environment state transaction next) : ExecutionLog next :=
  Steps.invariant ExecutionLog (fun step log => log.step step) (Run.steps run) log

/-- Reachable storage keeps the record. -/
theorem ExecutionLog.of_reachable {environment : Environment} {state : PluginState}
    (reachable : Reachable environment state) : ExecutionLog state :=
  Reachable.invariant ExecutionLog ExecutionLog.initial (fun step log => log.step step) reachable

/-- Execution flags only grow along a sequence of transactions, nested calls included. -/
theorem executed_mono_of_steps {environment : Environment} {state final : PluginState}
    {transactions : List (BlockContext × List Call)}
    (run : Steps (Transaction environment) state transactions final) {proposalId : Uint256}
    (executed : (state.proposals proposalId).executed = true) :
    (final.proposals proposalId).executed = true := by
  -- the flag is an invariant of single calls, hence of nested runs, hence of transactions
  let flagged (state : PluginState) : Prop := (state.proposals proposalId).executed = true
  have transactionKeeps : ∀ {before transaction after},
      Transaction environment before transaction after → flagged before → flagged after :=
    fun nested flag => Steps.invariant flagged (fun step flag => Step.executed_mono step flag)
      (Run.steps nested) flag
  exact Steps.invariant flagged transactionKeeps run executed

/-- Over every run of the plugin from reachable storage, including calls that re-enter the
plugin from the DAO while it executes a proposal's actions, no execution flag is cleared and
the DAO is asked to execute each proposal at most once. -/
theorem executed_persists_and_requested_once {environment : Environment}
    {start final : PluginState} {transactions : List (BlockContext × List Call)}
    (reachable : Reachable environment start)
    (run : Steps (Transaction environment) start transactions final) :
    (∀ proposalId, (start.proposals proposalId).executed = true →
        (final.proposals proposalId).executed = true) ∧
      ∀ proposalId, final.executionRequests.count proposalId ≤ 1 := by
  have log : ExecutionLog final :=
    Steps.invariant ExecutionLog (fun nested log => log.transaction nested) run
      (ExecutionLog.of_reachable reachable)
  exact ⟨fun _ executed => executed_mono_of_steps run executed,
    List.nodup_iff_count_le_one.mp log.once⟩

/-- In the test deployment, `initialize` and then one transaction creating proposal `0` in
`creationBlock`, for every `sha256` and `keccak256`. -/
theorem creationTransaction (sha256 keccak256 : Bytes → Bytes32) :
    ∃ initial created, initializePlugin testSettings = .ok initial ∧
      Transaction (mockEnvironment sha256 keccak256) initial
        (creationBlock, [.createProposal proposalCreator [] [] 0 0 0]) created := by
  obtain ⟨initial, created, initialized, creating⟩ : ∃ initial created,
      initializePlugin testSettings = .ok initial ∧
        createProposal (mockEnvironment sha256 keccak256) creationBlock proposalCreator initial
          [] [] 0 0 0 = .ok (0, created) :=
    ⟨_, _, rfl, rfl⟩
  refine ⟨initial, created, initialized, Run.call _ ?_ (.done created)⟩
  simp only [Step, Call.run, creating]
  rfl

/-- In the test deployment with constant hashes: once proposal `0` is created, one transaction
executes it and the DAO's actions vote on it again while `execute` runs. -/
theorem executed_persists_and_requested_once_reentrant :
    ∃ created final,
      Reachable (mockEnvironment (fun _ => 0) (fun _ => 0)) created ∧
      Steps (Transaction (mockEnvironment (fun _ => 0) (fun _ => 0))) created
        [(executionBlock,
          [.execute (encodeVotingJournal (proposalJournal 0 0 0))
              (mockSeal (fun _ => 0) 2 (encodeVotingJournal (proposalJournal 0 0 0))),
            .vote (encodeVotingJournal (proposalJournal alice 10 2))
              (mockSeal (fun _ => 0) 1 (encodeVotingJournal (proposalJournal alice 10 2)))])]
        final ∧
      ((∀ proposalId, (created.proposals proposalId).executed = true →
          (final.proposals proposalId).executed = true) ∧
        ∀ proposalId, final.executionRequests.count proposalId ≤ 1) := by
  let environment := mockEnvironment (fun _ => 0) (fun _ => 0)
  let execution := encodeVotingJournal (proposalJournal 0 0 0)
  let ballot := encodeVotingJournal (proposalJournal alice 10 2)
  -- the calls' results, computed once; the runs below are assembled from these equations
  obtain ⟨initial, created, marked, voted, initialized, creating, executing, voting⟩ :
      ∃ initial created marked voted, initializePlugin testSettings = .ok initial ∧
        createProposal environment creationBlock proposalCreator initial [] [] 0 0 0 =
          .ok (0, created) ∧
        execute environment executionBlock created execution
          (mockSeal (fun _ => 0) 2 execution) = .ok (0, marked) ∧
        vote environment marked ballot (mockSeal (fun _ => 0) 1 ballot) = .ok voted :=
    ⟨_, _, _, _, rfl, rfl,
      execute_eq_ok_of_checks (decodeVotingJournal_encodeVotingJournal _) rfl rfl rfl
        (mockEnvironment_verify_mockSeal _ _ 2 _),
      vote_eq_ok_of_checks (decodeVotingJournal_encodeVotingJournal _) rfl rfl
        (mockEnvironment_verify_mockSeal _ _ 1 _) rfl rfl rfl⟩
  have creationStep : Step environment creationBlock initial
      (.createProposal proposalCreator [] [] 0 0 0) created := by
    simp only [Step, Call.run, creating]
    rfl
  have creation : Transaction environment initial
      (creationBlock, [.createProposal proposalCreator [] [] 0 0 0]) created :=
    Run.call _ creationStep (.done created)
  have reachable : Reachable environment created :=
    ⟨testSettings, initial, _, initialized, Steps.single creation⟩
  -- the DAO's actions call back into `vote` while `execute` runs
  have run : Transaction environment created
      (executionBlock, [.execute execution (mockSeal (fun _ => 0) 2 execution),
        .vote ballot (mockSeal (fun _ => 0) 1 ballot)]) voted :=
    Run.execute executing (Run.call (.vote _ _) voting (.done voted)) (.done voted)
  exact ⟨created, voted, reachable, Steps.single run,
    executed_persists_and_requested_once reachable (Steps.single run)⟩

end ZkGovernance
