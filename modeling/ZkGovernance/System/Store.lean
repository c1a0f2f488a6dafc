import ZkGovernance.System.Snapshot

/-!
# The settings and the proposals' records

`_updateVotingSettings` is the one writer of the settings, and it checks their
bounds before it writes: a support threshold below `RATIO_BASE`, a minimal
participation of at most `RATIO_BASE`, and a minimal duration between an hour
and a year. `initialize` and `updateVotingSettings` both go through it, so the
settings of all reachable storage are bounded (`SettingsBounded`).

What `createProposal` stores of a proposal, its parameters, actions and
failure map (`Creation`), no other call writes, and `createProposal` writes
it only in the slot of the id OSx hands out. The slots whose id has not been
handed out have never been written (`FreshRecords`), so when the new id is
fresh the `actions.push` loop and the skipped write of a zero failure map
leave exactly the actions and the map the call was given. The record then
stays as created for as long as OSx hands out fresh ids
(`proposal_store_invariant`).

The dates of a new proposal are those `_validateProposalDates` returns. Under
bounded settings it reverts exactly on a start in the past, an earliest end
past `uint64` or an end before the earliest end, and a created proposal starts
now or later and lasts at least `minDuration` (`proposal_dates_validated`).
-/

namespace ZkGovernance

open Abi Solidity Semantics

/-! ## Bounded settings -/

/-- The bounds `_updateVotingSettings` checks. -/
structure SettingsBounded (settings : VotingSettings) : Prop where
  supportThreshold : settings.supportThreshold.toNat ≤ ratioBase - 1
  minParticipation : settings.minParticipation.toNat ≤ ratioBase
  minDurationLower : 3600 ≤ settings.minDuration.toNat
  minDurationUpper : settings.minDuration.toNat ≤ 365 * 86400

/-- `_updateVotingSettings` returns only for bounded settings, and then stores them and nothing
else. -/
theorem _updateVotingSettings_eq_ok {state next : PluginState} {settings : VotingSettings}
    (accepted : _updateVotingSettings state settings = .ok next) :
    SettingsBounded settings ∧ next = { state with votingSettings := settings } := by
  unfold _updateVotingSettings at accepted
  -- a failed check throws: only the branch where all four checks pass returns
  split_ifs at accepted <;> simp at accepted
  rename_i durationLong durationShort participationHigh supportHigh
  have lower : minDurationLowerBound.toNat = 3600 := rfl
  have upper : minDurationUpperBound.toNat = 365 * 86400 := rfl
  simp only [gt_iff_lt, BitVec.lt_def, lower, upper, not_lt] at durationLong durationShort
  exact ⟨⟨by omega, by omega, durationShort, durationLong⟩, accepted.symm⟩

/-- `initialize` stores bounded settings. -/
theorem SettingsBounded.initial {settings : VotingSettings} {initial : PluginState}
    (initialized : initializePlugin settings = .ok initial) :
    SettingsBounded initial.votingSettings := by
  obtain ⟨bounded, rfl⟩ := _updateVotingSettings_eq_ok initialized
  exact bounded

/-- Every call keeps the settings bounded: `updateVotingSettings` checks the new ones, and the
other calls leave them alone. -/
theorem SettingsBounded.step {environment : Environment} {block : BlockContext}
    {state next : PluginState} {call : Call} (bounded : SettingsBounded state.votingSettings)
    (step : Step environment block state call next) : SettingsBounded next.votingSettings := by
  cases call with
  | createProposal sender metadata actions allowFailureMap startDate endDate =>
      obtain ⟨_, _, _, rfl⟩ := step.createProposal_writes
      exact bounded
  | vote journalData sealData =>
      obtain ⟨_, _, _, _, rfl⟩ := step.vote_writes
      exact bounded
  | execute journalData sealData =>
      obtain ⟨_, _, _, rfl⟩ := step.execute_writes
      exact bounded
  | updateVotingSettings sender settings =>
      simp only [Step, Call.run, updateVotingSettings, Except.bind_eq_ok] at step
      obtain ⟨_, _, written⟩ := step
      obtain ⟨checked, rfl⟩ := _updateVotingSettings_eq_ok written
      exact checked

/-! ## Fresh slots and the record of a new proposal -/

/-- Slots whose id has not been handed out hold no actions and no failure map. -/
def FreshRecords (environment : Environment) (state : PluginState) : Prop :=
  ∀ proposalId : Uint256, proposalId ∉ environment.issuedIds state.proposalCounter →
    (state.proposals proposalId).actions = [] ∧ (state.proposals proposalId).allowFailureMap = 0

/-- `initialize` leaves every slot fresh. -/
theorem FreshRecords.initial {environment : Environment} {settings : VotingSettings}
    {initial : PluginState} (initialized : initializePlugin settings = .ok initial) :
    FreshRecords environment initial := by
  obtain rfl := initializePlugin_spec initialized
  intro _ _
  exact ⟨rfl, rfl⟩

/-- Every call keeps the slots whose id has not been handed out fresh. -/
theorem FreshRecords.step {environment : Environment} {block : BlockContext}
    {state next : PluginState} {call : Call} (fresh : FreshRecords environment state)
    (step : Step environment block state call next) : FreshRecords environment next :=
  Step.unissued (fun record => record.actions = [] ∧ record.allowFailureMap = 0) fresh step

/-- `createProposal` in a fresh slot, under an id not handed out before, stores exactly what it
was given: the validated dates, the snapshot block and its hash and the current settings as
parameters, the actions and the failure map; and the counter counts the new id. -/
theorem createProposal_creation {environment : Environment} {block : BlockContext}
    {state created : PluginState} {sender : Address} {metadata : Bytes} {actions : List Action}
    {allowFailureMap : Uint256} {startDate endDate : Uint64} {proposalId : Uint256}
    (fresh : FreshRecords environment state) (freshIds : environment.FreshIds created.proposalCounter)
    (accepted : createProposal environment block sender state metadata actions allowFailureMap
      startDate endDate = .ok (proposalId, created)) :
    ∃ (dates : Uint64 × Uint64) (snapshotBlock : Uint64),
      _validateProposalDates block state startDate endDate = .ok dates ∧
      safeCast 64 (block.number - 1) = some snapshotBlock ∧
      proposalId = environment.createProposalId state.proposalCounter ∧
      created.proposalCounter = state.proposalCounter + 1 ∧
      (created.proposals proposalId).creation =
        { parameters := ProposalParameters.ofSettings state.votingSettings dates.1 dates.2
            snapshotBlock (block.blockhash (block.number - 1))
          actions, allowFailureMap } := by
  obtain ⟨dates, snapshotBlock, _, validated, fits, rfl, rfl⟩ := createProposal_stores accepted
  simp only [PluginState.setProposal_proposalCounter] at freshIds
  obtain ⟨noActions, noMap⟩ := fresh _ freshIds.not_mem
  -- a zero failure map is not written, and the slot's map is zero already
  have map : (if (allowFailureMap != 0) = true then allowFailureMap
      else (state.proposals (environment.createProposalId state.proposalCounter)).allowFailureMap) =
        allowFailureMap := by
    rw [noMap]
    split_ifs with nonzero
    · rfl
    · have zero : allowFailureMap = 0 := by simpa using nonzero
      exact zero.symm
  refine ⟨dates, snapshotBlock, validated, fits, rfl, rfl, ?_⟩
  simp only [PluginState.setProposal_same, Proposal.creation, map, noActions, List.nil_append]

/-! ## Records stay as created -/

/-- A call after which the ids handed out are distinct keeps the record of every slot whose id
was handed out before it. -/
theorem Step.creation_kept {environment : Environment} {block : BlockContext}
    {state next : PluginState} {call : Call} (step : Step environment block state call next)
    (freshIds : environment.FreshIds next.proposalCounter) {proposalId : Uint256}
    (issued : proposalId ∈ environment.issuedIds state.proposalCounter) :
    (next.proposals proposalId).creation = (state.proposals proposalId).creation := by
  rcases step.creation_or_create with ⟨_, kept⟩ | ⟨counter, others⟩
  · exact kept proposalId
  · -- the new id is fresh, so it is not the slot's id
    rw [counter] at freshIds
    apply others proposalId
    rintro rfl
    exact freshIds.not_mem issued

/-- Along calls after which the ids handed out are distinct, every slot whose id was handed out
at the start keeps its record. -/
theorem Steps.creation_kept {environment : Environment} {state final : PluginState}
    {calls : List (BlockContext × Call)} (run : Steps (CallStep environment) state calls final)
    (freshIds : environment.FreshIds final.proposalCounter) {proposalId : Uint256}
    (issued : proposalId ∈ environment.issuedIds state.proposalCounter) :
    (final.proposals proposalId).creation = (state.proposals proposalId).creation := by
  -- the counter grows, and the record is kept whenever the ids handed out at the end are fresh
  let kept (before after : PluginState) : Prop :=
    before.proposalCounter ≤ after.proposalCounter ∧
      (environment.FreshIds after.proposalCounter →
        proposalId ∈ environment.issuedIds before.proposalCounter →
          (after.proposals proposalId).creation = (before.proposals proposalId).creation)
  have related : kept state final := by
    refine Steps.relate kept (fun _ => ⟨le_refl _, fun _ _ => rfl⟩) ?_ ?_ run
    · intro first second third earlier later
      refine ⟨earlier.1.trans later.1, fun fresh issued => ?_⟩
      rw [later.2 fresh (environment.issuedIds_subset earlier.1 issued),
        earlier.2 (fresh.mono later.1) issued]
    · intro before blockCall after step
      exact ⟨step.proposalCounter_le, fun fresh issued => step.creation_kept fresh issued⟩
  exact related.2 freshIds issued

/-- The proposal store: in all reachable storage the settings are within the bounds
`_updateVotingSettings` checks; and a proposal that `createProposal` creates from reachable
storage holds the current settings, the validated dates, the snapshot block and its hash, the
given actions and the given failure map, and keeps them through every later sequence of calls
(settings updates, votes, executions, further creations, in any blocks), as long as OSx hands
out a fresh id each time. -/
theorem proposal_store_invariant {environment : Environment} {state : PluginState}
    (reachable : Reachable environment state) :
    SettingsBounded state.votingSettings ∧
      ∀ {block : BlockContext} {sender : Address} {metadata : Bytes} {actions : List Action}
        {allowFailureMap : Uint256} {startDate endDate : Uint64} {proposalId : Uint256}
        {created final : PluginState} {later : List (BlockContext × Call)},
        createProposal environment block sender state metadata actions allowFailureMap startDate
          endDate = .ok (proposalId, created) →
        Steps (CallStep environment) created later final →
        environment.FreshIds final.proposalCounter →
        ∃ (dates : Uint64 × Uint64) (snapshotBlock : Uint64),
          _validateProposalDates block state startDate endDate = .ok dates ∧
          safeCast 64 (block.number - 1) = some snapshotBlock ∧
          (final.proposals proposalId).creation =
            { parameters := ProposalParameters.ofSettings state.votingSettings dates.1 dates.2
                snapshotBlock (block.blockhash (block.number - 1))
              actions, allowFailureMap } := by
  refine ⟨Reachable.invariant _ SettingsBounded.initial (fun step bounded => bounded.step step)
    reachable, ?_⟩
  intro block sender metadata actions allowFailureMap startDate endDate proposalId created final
    later creating run freshIds
  have fresh : FreshRecords environment state :=
    Reachable.invariant (FreshRecords environment) FreshRecords.initial
      (fun step fresh => fresh.step step) reachable
  have grows : created.proposalCounter ≤ final.proposalCounter :=
    Steps.relate (fun before after => before.proposalCounter ≤ after.proposalCounter)
      (fun _ => le_refl _) le_trans (fun step => step.proposalCounter_le) run
  obtain ⟨dates, snapshotBlock, validated, fits, newId, counter, stored⟩ :=
    createProposal_creation fresh (freshIds.mono grows) creating
  -- the new id is handed out once the creation returns
  have issued : proposalId ∈ environment.issuedIds created.proposalCounter := by
    rw [counter, Environment.mem_issuedIds_succ]
    exact .inr newId
  refine ⟨dates, snapshotBlock, validated, fits, ?_⟩
  rw [Steps.creation_kept run freshIds issued, stored]

/-- In the test deployment, proposal `0` is created with one action and failure map `1`; then
Alice votes on it and the DAO raises the minimal participation, and the record stays as
created. -/
theorem proposal_store_invariant_deployment :
    ∃ initial created final, Reachable (mockEnvironment (fun _ => 0) (fun _ => 0)) initial ∧
      createProposal (mockEnvironment (fun _ => 0) (fun _ => 0)) creationBlock proposalCreator
        initial [] [⟨daoAddress, 0, []⟩] 1 0 0 = .ok (0, created) ∧
      Steps (CallStep (mockEnvironment (fun _ => 0) (fun _ => 0))) created
        [(creationBlock, .vote (encodeVotingJournal (proposalJournal alice 10 2))
            (mockSeal (fun _ => 0) 1 (encodeVotingJournal (proposalJournal alice 10 2)))),
          (creationBlock, .updateVotingSettings daoAddress
            { testSettings with minParticipation := 20 })] final ∧
      (mockEnvironment (fun _ => 0) (fun _ => 0)).FreshIds final.proposalCounter ∧
      SettingsBounded initial.votingSettings ∧
      ∃ (dates : Uint64 × Uint64) (snapshotBlock : Uint64),
        _validateProposalDates creationBlock initial 0 0 = .ok dates ∧
        safeCast 64 (creationBlock.number - 1) = some snapshotBlock ∧
        (final.proposals 0).creation =
          { parameters := ProposalParameters.ofSettings initial.votingSettings dates.1 dates.2
              snapshotBlock (creationBlock.blockhash (creationBlock.number - 1))
            actions := [⟨daoAddress, 0, []⟩], allowFailureMap := 1 } := by
  obtain ⟨initial, created, voted, final, initialized, creating, voting, updating, counted⟩ :
      ∃ initial created voted final,
        initializePlugin testSettings = .ok initial ∧
        createProposal (mockEnvironment (fun _ => 0) (fun _ => 0)) creationBlock proposalCreator
          initial [] [⟨daoAddress, 0, []⟩] 1 0 0 = .ok (0, created) ∧
        vote (mockEnvironment (fun _ => 0) (fun _ => 0)) created
          (encodeVotingJournal (proposalJournal alice 10 2))
          (mockSeal (fun _ => 0) 1 (encodeVotingJournal (proposalJournal alice 10 2))) =
            .ok voted ∧
        updateVotingSettings (mockEnvironment (fun _ => 0) (fun _ => 0)) daoAddress voted
          { testSettings with minParticipation := 20 } = .ok final ∧
        final.proposalCounter = 1 :=
    ⟨_, _, _, _, rfl, rfl, vote_eq_ok_of_checks (decodeVotingJournal_encodeVotingJournal _) rfl
      rfl (mockEnvironment_verify_mockSeal _ _ 1 _) rfl rfl rfl, rfl, rfl⟩
  have reachable : Reachable (mockEnvironment (fun _ => 0) (fun _ => 0)) initial :=
    ⟨testSettings, initial, [], initialized, .done initial⟩
  have later : Steps (CallStep (mockEnvironment (fun _ => 0) (fun _ => 0))) created
      [(creationBlock, .vote (encodeVotingJournal (proposalJournal alice 10 2))
          (mockSeal (fun _ => 0) 1 (encodeVotingJournal (proposalJournal alice 10 2)))),
        (creationBlock, .updateVotingSettings daoAddress
          { testSettings with minParticipation := 20 })] final :=
    .cons voting (.single updating)
  have freshIds : (mockEnvironment (fun _ => 0) (fun _ => 0)).FreshIds final.proposalCounter := by
    rw [counted]
    decide
  have store := proposal_store_invariant reachable
  exact ⟨initial, created, final, reachable, creating, later, freshIds, store.1,
    store.2 creating later freshIds⟩

/-! ## The dates of a new proposal -/

/-- On a block whose timestamp fits in `uint64`, with a minimal duration between an hour and a
year, `_validateProposalDates` reverts exactly when a nonzero start is before now, the earliest
end `s + minDuration` reaches `2 ^ 64`, or a nonzero end is before it, where `s` is the start,
now when zero. Otherwise it returns `s` and the end, `s + minDuration` when zero, so every
proposal `createProposal` stores starts now or later and ends `minDuration` or more after. -/
theorem proposal_dates_validated (block : BlockContext) (state : PluginState)
    (start finish : Uint64) (now : block.timestamp.toNat < 2 ^ 64)
    (atLeastHour : 3600 ≤ state.votingSettings.minDuration.toNat)
    (atMostYear : state.votingSettings.minDuration.toNat ≤ 365 * 86400) :
    let startDate := if start = 0 then block.timestamp.toNat else start.toNat
    let minDuration := state.votingSettings.minDuration.toNat
    ((∃ error, _validateProposalDates block state start finish = .error error) ↔
        (start ≠ 0 ∧ start.toNat < block.timestamp.toNat) ∨ 2 ^ 64 ≤ startDate + minDuration ∨
          (finish ≠ 0 ∧ finish.toNat < startDate + minDuration)) ∧
      (∀ dates, _validateProposalDates block state start finish = .ok dates →
        dates.1.toNat = startDate ∧
          dates.2.toNat = (if finish = 0 then startDate + minDuration else finish.toNat) ∧
          block.timestamp.toNat ≤ dates.1.toNat ∧ dates.1.toNat < dates.1.toNat + minDuration ∧
          dates.1.toNat + minDuration ≤ dates.2.toNat) ∧
      ∀ (environment : Environment) (sender : Address) (metadata : Bytes) (actions : List Action)
        (allowFailureMap proposalId : Uint256) (created : PluginState),
        createProposal environment block sender state metadata actions allowFailureMap start
          finish = .ok (proposalId, created) →
        let parameters := (created.proposals proposalId).parameters
        block.timestamp.toNat ≤ parameters.startDate.toNat ∧
          parameters.startDate.toNat < parameters.startDate.toNat + minDuration ∧
          parameters.startDate.toNat + minDuration ≤ parameters.endDate.toNat := by
  intro startDate minDuration
  have positive : 0 < minDuration := by
    show 0 < state.votingSettings.minDuration.toNat
    omega
  have ordered : ∀ dates, _validateProposalDates block state start finish = .ok dates →
      dates.1.toNat = startDate ∧
        dates.2.toNat = (if finish = 0 then startDate + minDuration else finish.toNat) ∧
        block.timestamp.toNat ≤ dates.1.toNat ∧ dates.1.toNat < dates.1.toNat + minDuration ∧
        dates.1.toNat + minDuration ≤ dates.2.toNat := by
    intro dates accepted
    obtain ⟨first, second, notPast, lateEnough⟩ := _validateProposalDates_toNat now accepted
    exact ⟨first, second, notPast, by omega, lateEnough⟩
  refine ⟨?_, ordered, ?_⟩
  · -- a revert is the failure of every success
    rw [Except.exists_error_iff_not_exists_ok, _validateProposalDates_succeeds_iff now, ← not_lt]
    tauto
  · intro environment sender metadata actions allowFailureMap proposalId created accepted
    obtain ⟨dates, _, _, validated, _, _, written⟩ := createProposal_stores accepted
    have stored : (created.proposals proposalId).parameters.startDate = dates.1 ∧
        (created.proposals proposalId).parameters.endDate = dates.2 := by
      rw [written]
      simp [ProposalParameters.ofSettings]
    obtain ⟨_, _, notPast, longer, lateEnough⟩ := ordered dates validated
    dsimp only
    rw [stored.1, stored.2]
    exact ⟨notPast, longer, lateEnough⟩

/-- In the test deployment, a proposal starting at `2000` with no end given, created on the
creation block, at time `1000`. -/
theorem proposal_dates_validated_deployment :
    ∃ initial, initializePlugin testSettings = .ok initial ∧
      creationBlock.timestamp.toNat < 2 ^ 64 ∧
      3600 ≤ initial.votingSettings.minDuration.toNat ∧
      initial.votingSettings.minDuration.toNat ≤ 365 * 86400 ∧
      let startDate := if (2000 : Uint64) = 0 then creationBlock.timestamp.toNat
        else (2000 : Uint64).toNat
      let minDuration := initial.votingSettings.minDuration.toNat
      ((∃ error, _validateProposalDates creationBlock initial 2000 0 = .error error) ↔
          ((2000 : Uint64) ≠ 0 ∧ (2000 : Uint64).toNat < creationBlock.timestamp.toNat) ∨
            2 ^ 64 ≤ startDate + minDuration ∨
            ((0 : Uint64) ≠ 0 ∧ (0 : Uint64).toNat < startDate + minDuration)) ∧
        (∀ dates, _validateProposalDates creationBlock initial 2000 0 = .ok dates →
          dates.1.toNat = startDate ∧
            dates.2.toNat = (if (0 : Uint64) = 0 then startDate + minDuration
              else (0 : Uint64).toNat) ∧
            creationBlock.timestamp.toNat ≤ dates.1.toNat ∧
            dates.1.toNat < dates.1.toNat + minDuration ∧
            dates.1.toNat + minDuration ≤ dates.2.toNat) ∧
        ∀ (environment : Environment) (sender : Address) (metadata : Bytes)
          (actions : List Action) (allowFailureMap proposalId : Uint256) (created : PluginState),
          createProposal environment creationBlock sender initial metadata actions
            allowFailureMap 2000 0 = .ok (proposalId, created) →
          let parameters := (created.proposals proposalId).parameters
          creationBlock.timestamp.toNat ≤ parameters.startDate.toNat ∧
            parameters.startDate.toNat < parameters.startDate.toNat + minDuration ∧
            parameters.startDate.toNat + minDuration ≤ parameters.endDate.toNat := by
  obtain ⟨initial, initialized⟩ : ∃ initial, initializePlugin testSettings = .ok initial :=
    ⟨_, rfl⟩
  have minimal : initial.votingSettings.minDuration = 3600 := by
    rw [(_updateVotingSettings_eq_ok initialized).2]
    rfl
  have atLeastHour : 3600 ≤ initial.votingSettings.minDuration.toNat := by
    rw [minimal]
    decide
  have atMostYear : initial.votingSettings.minDuration.toNat ≤ 365 * 86400 := by
    rw [minimal]
    decide
  exact ⟨initial, initialized, by decide, atLeastHour, atMostYear,
    proposal_dates_validated creationBlock initial 2000 0 (by decide) atLeastHour atMostYear⟩

end ZkGovernance
