import ZkGovernance.System.Snapshot

/-!
# Slots no proposal was created for

`proposals` is a mapping, so `vote` and `execute` accept any proposal id. A
slot that `createProposal` has not written holds an unset proposal, whose
verifier is the zero address. A call to an address without code reverts, so
the verification of any journal for such a slot fails, and neither a vote nor
an execution can write the slot.

Every call writes at most one slot: the one of the id `createProposal` hands
out, or one whose verifier accepted a proof (`Step.slot_written`). With no code
at the zero address, every slot whose id has not been handed out therefore
stays entirely unset in every reachable state
(`uncreated_slots_untouched`): no vote is counted and no execution happens
for an id `createProposal` has not handed out. This needs no assumption on the
ids OSx hands out.
-/

namespace ZkGovernance

open Abi Semantics

/-- Every call writes at most one proposal slot: the slot of the id `createProposal` hands out
for the counter's value, or a slot whose verifier accepted a seal. -/
theorem Step.slot_written {environment : Environment} {block : BlockContext}
    {state next : PluginState} {call : Call} (step : Step environment block state call next)
    {proposalId : Uint256} (written : next.proposals proposalId ≠ state.proposals proposalId) :
    (proposalId = environment.createProposalId state.proposalCounter ∧
        next.proposalCounter = state.proposalCounter + 1) ∨
      ∃ sealData imageId journalDigest, environment.verify
        (state.proposals proposalId).parameters.verifier sealData imageId journalDigest = true := by
  cases call with
  | createProposal sender metadata actions allowFailureMap startDate endDate =>
      obtain ⟨_, _, _, rfl⟩ := step.createProposal_writes
      by_cases same : proposalId = environment.createProposalId state.proposalCounter
      · exact .inl ⟨same, rfl⟩
      · simp [same] at written
  | vote journalData sealData =>
      obtain ⟨voted, _, _, ⟨imageId, journalDigest, verified⟩, rfl⟩ := step.vote_writes
      by_cases same : proposalId = voted
      · subst same
        exact .inr ⟨_, _, _, verified⟩
      · simp [same] at written
  | execute journalData sealData =>
      obtain ⟨executed, _, ⟨imageId, journalDigest, verified⟩, rfl⟩ := step.execute_writes
      by_cases same : proposalId = executed
      · subst same
        exact .inr ⟨_, _, _, verified⟩
      · simp [_execute, same] at written
  | updateVotingSettings sender settings =>
      obtain ⟨_, rfl⟩ := updateVotingSettings_spec step
      exact absurd rfl written

/-- Every slot whose id has not been handed out holds an unset proposal. -/
def Untouched (environment : Environment) (state : PluginState) : Prop :=
  ∀ proposalId : Uint256, proposalId ∉ environment.issuedIds state.proposalCounter →
    state.proposals proposalId = Proposal.unset

/-- `initialize` writes no slot. -/
theorem Untouched.initial {environment : Environment} {settings : VotingSettings}
    {initial : PluginState} (initialized : initializePlugin settings = .ok initial) :
    Untouched environment initial := by
  obtain rfl := initializePlugin_spec initialized
  intro _ _
  rfl

section NoCodeAtZero

variable {environment : Environment}
  (noCode : ∀ sealData imageId journalDigest, environment.verify 0 sealData imageId journalDigest =
    false)
include noCode

/-- With no code at the zero address, every call keeps the slots whose id has not been handed
out unset: the slot `createProposal` writes is that of the id it hands out, and no verifier
accepts anything for an unset slot. -/
theorem Untouched.step {block : BlockContext} {state next : PluginState} {call : Call}
    (untouched : Untouched environment state) (step : Step environment block state call next) :
    Untouched environment next := by
  intro proposalId unissued
  have unset := untouched proposalId fun member =>
    unissued (environment.issuedIds_subset step.proposalCounter_le member)
  by_contra written
  rw [← unset] at written
  rcases step.slot_written written with
    ⟨rfl, counter⟩ | ⟨sealData, imageId, journalDigest, verified⟩
  · -- the id `createProposal` hands out is handed out once it returns
    rw [counter, Environment.mem_issuedIds_succ] at unissued
    exact unissued (.inr rfl)
  · -- an unset slot's verifier is the zero address
    have zeroVerifier : Proposal.unset.parameters.verifier = 0 := rfl
    rw [unset, zeroVerifier, noCode] at verified
    exact Bool.false_ne_true verified

end NoCodeAtZero

/-- With no code at the zero address, in all reachable storage every slot whose id
`createProposal` has not handed out holds an unset proposal: every proposal that is executed or
has votes counted has an id that `createProposal` handed out. -/
theorem uncreated_slots_untouched {environment : Environment}
    (noCode : ∀ sealData imageId journalDigest,
      environment.verify 0 sealData imageId journalDigest = false)
    {state : PluginState} (reachable : Reachable environment state) :
    (∀ proposalId : Uint256, proposalId ∉ environment.issuedIds state.proposalCounter →
        state.proposals proposalId = Proposal.unset) ∧
      ∀ proposalId : Uint256, (state.proposals proposalId).executed = true ∨
        (state.proposals proposalId).tally ≠ Tally.zero →
          proposalId ∈ environment.issuedIds state.proposalCounter := by
  have untouched : Untouched environment state :=
    Reachable.invariant (Untouched environment) Untouched.initial
      (fun step untouched => untouched.step noCode step) reachable
  refine ⟨untouched, fun proposalId touched => ?_⟩
  by_contra unissued
  rw [untouched proposalId unissued] at touched
  simp [Proposal.unset] at touched

/-- The test deployment's verifier is not at the zero address; after proposal `0` is created,
every other slot is unset. -/
theorem uncreated_slots_untouched_deployment :
    (∀ sealData imageId journalDigest,
      (mockEnvironment (fun _ => 0) (fun _ => 0)).verify 0 sealData imageId journalDigest =
        false) ∧
    ∃ created, Reachable (mockEnvironment (fun _ => 0) (fun _ => 0)) created ∧
      ((∀ proposalId : Uint256, proposalId ∉ (mockEnvironment (fun _ => 0) (fun _ => 0)).issuedIds
          created.proposalCounter → created.proposals proposalId = Proposal.unset) ∧
        ∀ proposalId : Uint256, (created.proposals proposalId).executed = true ∨
          (created.proposals proposalId).tally ≠ Tally.zero →
            proposalId ∈ (mockEnvironment (fun _ => 0) (fun _ => 0)).issuedIds
              created.proposalCounter) := by
  obtain ⟨initial, created, initialized, creation⟩ :=
    creationTransaction (fun _ => 0) (fun _ => 0)
  have noCode : ∀ sealData imageId journalDigest,
      (mockEnvironment (fun _ => 0) (fun _ => 0)).verify 0 sealData imageId journalDigest =
        false := fun _ _ _ => by
    simp [mockEnvironment, mockVerifierAddress]
  have reachable : Reachable (mockEnvironment (fun _ => 0) (fun _ => 0)) created :=
    ⟨testSettings, initial, _, initialized, Steps.single creation⟩
  exact ⟨noCode, created, reachable, uncreated_slots_untouched noCode reachable⟩

end ZkGovernance
