import ZkGovernance.Plugin.Calls

/-!
# Counting votes

`vote` keeps no record of the balance a voter was counted with. To replace a
vote it retracts the new journal's balance from the previous option and adds
it to the new one, so a voter whose second proof carries another balance
leaves the first balance in the tally (`replaced_vote_keeps_first_balance`); the
same journal sent twice, though, is counted once (`vote_replay_idempotent`). Nor does
`vote` consult `_canVote`: it reads neither the proposal's dates nor its
`executed` flag, so votes are counted after the vote closed and after the
proposal was executed.

Both are shown on runs of the test deployment of
`ZkGovernance.Plugin.Deployment`, for every `sha256` and `keccak256`.
-/

namespace ZkGovernance

open Abi Solidity Risc0

/-! ## Replacing a vote -/

/-- Undoing a change of one bucket with an inverse change restores the tally. -/
theorem Tally.update_update {tally updated : Tally} {option : VoteOption}
    {change undo : Uint256 → Option Uint256}
    (inverse : ∀ {before after}, change before = some after → undo after = some before)
    (changed : tally.update option change = some updated) :
    updated.update option undo = some tally := by
  cases option with
  | none =>
      simp only [Tally.update, Option.some.injEq] at changed
      subst changed
      rfl
  | abstain =>
      simp only [Tally.update, Option.map_eq_some_iff] at changed
      obtain ⟨abstain, changedBucket, rfl⟩ := changed
      simp [Tally.update, inverse changedBucket]
  | yes =>
      simp only [Tally.update, Option.map_eq_some_iff] at changed
      obtain ⟨yes, changedBucket, rfl⟩ := changed
      simp [Tally.update, inverse changedBucket]
  | no =>
      simp only [Tally.update, Option.map_eq_some_iff] at changed
      obtain ⟨no, changedBucket, rfl⟩ := changed
      simp [Tally.update, inverse changedBucket]

/-- Recording for an option the power just retracted from it restores the tally. -/
theorem Tally.record_of_retract {tally retracted : Tally} {option : VoteOption}
    {votingPower : Uint256} (retractOk : tally.retract option votingPower = some retracted) :
    retracted.record option votingPower = some tally :=
  Tally.update_update checkedAdd_of_checkedSub retractOk

/-- Retracting from an option the power just recorded for it restores the tally. -/
theorem Tally.retract_of_record {tally recorded : Tally} {option : VoteOption}
    {votingPower : Uint256} (recordOk : tally.record option votingPower = some recorded) :
    recorded.retract option votingPower = some tally :=
  Tally.update_update checkedSub_of_checkedAdd recordOk

/-! ## Replaying a vote -/

/-- Replaying an accepted vote is harmless: the same journal and seal are accepted again from
the storage the first call left, and the second call leaves that storage as it is. The second
call retracts the balance the first one recorded for the voter's option and records it again. -/
theorem vote_replay_idempotent {environment : Environment} {state next : PluginState}
    {journalData sealData : Bytes}
    (accepted : vote environment state journalData sealData = .ok next) :
    vote environment next journalData sealData = .ok next := by
  obtain ⟨journal, retracted, voteOption, tally, decoded, configured, commitment, verified,
    retractOk, optionOk, recordOk, rfl⟩ := vote_spec accepted
  -- the slot the first call wrote: the new tally, and the voter's option recorded
  set voted := { state.proposals journal.proposalId with
    tally
    voters := fun account =>
      if account = journal.voter then voteOption
      else (state.proposals journal.proposalId).voters account }
  have slot : (state.setProposal journal.proposalId voted).proposals journal.proposalId = voted :=
    PluginState.setProposal_same _ _ _
  have recordedOption : voted.voters journal.voter = voteOption := by simp [voted]
  have retractAgain : voted.tally.retract (voted.voters journal.voter) journal.balance =
      some retracted := by
    rw [recordedOption]
    exact Tally.retract_of_record recordOk
  -- the parameters are untouched, so every check passes again
  have again := vote_eq_ok_of_checks decoded configured (by rw [slot]; exact commitment)
    (by rw [slot]; exact verified) (by rw [slot]; exact retractAgain) optionOk recordOk
  rw [again, slot]
  -- the second call writes back the slot the first one left
  conv_rhs => rw [← PluginState.setProposal_self (state.setProposal journal.proposalId voted)
    journal.proposalId, slot]
  congr 2
  simp only [voted, Proposal.mk.injEq, true_and, and_true]
  funext account
  by_cases isVoter : account = journal.voter <;> simp [isVoter]

/-- Alice's Yes vote with a balance of `10` on proposal `0`, replayed. -/
theorem vote_replay_idempotent_deployment :
    ∃ initial created voted, initializePlugin testSettings = .ok initial ∧
      createProposal (mockEnvironment (fun _ => 0) (fun _ => 0)) creationBlock proposalCreator
        initial [] [] 0 0 0 = .ok (0, created) ∧
      vote (mockEnvironment (fun _ => 0) (fun _ => 0)) created
        (encodeVotingJournal (proposalJournal alice 10 2))
        (mockSeal (fun _ => 0) 1 (encodeVotingJournal (proposalJournal alice 10 2))) =
          .ok voted ∧
      vote (mockEnvironment (fun _ => 0) (fun _ => 0)) voted
        (encodeVotingJournal (proposalJournal alice 10 2))
        (mockSeal (fun _ => 0) 1 (encodeVotingJournal (proposalJournal alice 10 2))) =
          .ok voted := by
  obtain ⟨initial, created, voted, initialized, creating, voting⟩ : ∃ initial created voted,
      initializePlugin testSettings = .ok initial ∧
        createProposal (mockEnvironment (fun _ => 0) (fun _ => 0)) creationBlock proposalCreator
          initial [] [] 0 0 0 = .ok (0, created) ∧
        vote (mockEnvironment (fun _ => 0) (fun _ => 0)) created
          (encodeVotingJournal (proposalJournal alice 10 2))
          (mockSeal (fun _ => 0) 1 (encodeVotingJournal (proposalJournal alice 10 2))) =
            .ok voted :=
    ⟨_, _, _, rfl, rfl, vote_eq_ok_of_checks (decodeVotingJournal_encodeVotingJournal _) rfl rfl
      (mockEnvironment_verify_mockSeal _ _ 1 _) rfl rfl rfl⟩
  exact ⟨initial, created, voted, initialized, creating, voting, vote_replay_idempotent voting⟩

/-! ## Failures of the bookkeeping -/

/-- Alice votes Yes with a balance of `10`, then replaces her vote by Yes with a balance of
`5`: both calls succeed, she is the only voter, and the tally still counts `10` for Yes. -/
theorem replaced_vote_keeps_first_balance (sha256 keccak256 : Bytes → Bytes32) :
    ∃ initial created afterFirst afterSecond,
      initializePlugin testSettings = .ok initial ∧
      createProposal (mockEnvironment sha256 keccak256) creationBlock proposalCreator initial []
        [] 0 0 0 = .ok (0, created) ∧
      vote (mockEnvironment sha256 keccak256) created
        (encodeVotingJournal (proposalJournal alice 10 2))
        (mockSeal sha256 1 (encodeVotingJournal (proposalJournal alice 10 2))) =
          .ok afterFirst ∧
      vote (mockEnvironment sha256 keccak256) afterFirst
        (encodeVotingJournal (proposalJournal alice 5 2))
        (mockSeal sha256 1 (encodeVotingJournal (proposalJournal alice 5 2))) =
          .ok afterSecond ∧
      (∀ voter, (afterSecond.proposals 0).voters voter =
        if voter = alice then .yes else .none) ∧
      (afterSecond.proposals 0).tally = { abstain := 0, yes := 10, no := 0 } := by
  refine ⟨_, _, _, _, rfl, rfl,
    vote_eq_ok_of_checks (decodeVotingJournal_encodeVotingJournal _) rfl rfl
      (mockEnvironment_verify_mockSeal sha256 keccak256 1 _) rfl rfl rfl,
    vote_eq_ok_of_checks (decodeVotingJournal_encodeVotingJournal _) rfl rfl
      (mockEnvironment_verify_mockSeal sha256 keccak256 1 _) rfl rfl (Tally.record_of_retract rfl),
    ?_, rfl⟩
  intro voter
  by_cases isAlice : voter = alice
  · subst isAlice
    rfl
  · simp [PluginState.setProposal, PluginState.empty, Proposal.unset, proposalJournal, isAlice,
      mockEnvironment, countProposalId]

/-- Once proposal `0` has been executed after its end, `_canVote` rejects Alice's Yes, yet her
vote succeeds and changes the executed proposal's tally. -/
theorem vote_counts_on_executed_proposal (sha256 keccak256 : Bytes → Bytes32) :
    ∃ initial created executed voted,
      initializePlugin testSettings = .ok initial ∧
      createProposal (mockEnvironment sha256 keccak256) creationBlock proposalCreator initial []
        [] 0 0 0 = .ok (0, created) ∧
      execute (mockEnvironment sha256 keccak256) executionBlock created
        (encodeVotingJournal (proposalJournal 0 0 0))
        (mockSeal sha256 2 (encodeVotingJournal (proposalJournal 0 0 0))) = .ok (0, executed) ∧
      (executed.proposals 0).executed = true ∧
      _canVote executionBlock executed 0 alice .yes = .ok false ∧
      vote (mockEnvironment sha256 keccak256) executed
        (encodeVotingJournal (proposalJournal alice 10 2))
        (mockSeal sha256 1 (encodeVotingJournal (proposalJournal alice 10 2))) = .ok voted ∧
      (executed.proposals 0).tally.yes = 0 ∧ (voted.proposals 0).tally.yes = 10 :=
  ⟨_, _, _, _, rfl, rfl,
    execute_eq_ok_of_checks (decodeVotingJournal_encodeVotingJournal _) rfl rfl rfl
      (mockEnvironment_verify_mockSeal sha256 keccak256 2 _), rfl, rfl,
    vote_eq_ok_of_checks (decodeVotingJournal_encodeVotingJournal _) rfl rfl
      (mockEnvironment_verify_mockSeal sha256 keccak256 1 _) rfl rfl rfl, rfl, rfl⟩

end ZkGovernance
