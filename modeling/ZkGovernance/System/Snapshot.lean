import ZkGovernance.Plugin.Calls
import ZkGovernance.Guest.VotingProtocol

/-!
# The snapshot block and the proposal's config

`createProposal` takes the previous block as the proposal's snapshot, and
`vote` and `execute` accept only journals whose Steel commitment names that
block. The guests read the proposal's config with a view call in the state of
the block they commit to, so an honest guest run on the accepted block reads
the plugin's storage as it was at the end of the block before the creation.

Each `createProposal` writes the slot of the id OSx hands out for the
proposal counter's value and increments the counter; no other call writes the
counter or a creation record, and no call decrements the counter
(`Step.proposalCounter_le`). A slot whose id has not been handed out has never
been written: it holds the parameters of an unset proposal (`FreshSlots`).
When OSx hands out fresh ids, the config the guests can read for a new
proposal is therefore the empty string, whatever config the proposal stores
(`snapshot_config_precedes_proposal`).
-/

namespace ZkGovernance

open Abi Semantics Strategies

/-- No call decrements the proposal counter. -/
theorem Step.proposalCounter_le {environment : Environment} {block : BlockContext}
    {state next : PluginState} {call : Call} (step : Step environment block state call next) :
    state.proposalCounter ≤ next.proposalCounter := by
  rcases step.creation_or_create with ⟨counter, _⟩ | ⟨counter, _⟩ <;> omega

/-- Along transactions the proposal counter never decreases. -/
theorem proposalCounter_le_of_steps {environment : Environment} {state final : PluginState}
    {transactions : List (BlockContext × List Call)}
    (run : Steps (Transaction environment) state transactions final) :
    state.proposalCounter ≤ final.proposalCounter := by
  let grows (before after : PluginState) : Prop := before.proposalCounter ≤ after.proposalCounter
  have callGrows : ∀ {block before call after}, Step environment block before call after →
      grows before after := fun step => step.proposalCounter_le
  have transactionGrows : ∀ {before transaction after},
      Transaction environment before transaction after → grows before after :=
    fun nested => Steps.relate grows (fun _ => le_refl _) le_trans callGrows (Run.steps nested)
  exact Steps.relate grows (fun _ => le_refl _) le_trans transactionGrows run

/-- Slots whose id has not been handed out have never been written: they hold the parameters of
an unset proposal. -/
def FreshSlots (environment : Environment) (state : PluginState) : Prop :=
  ∀ proposalId : Uint256, proposalId ∉ environment.issuedIds state.proposalCounter →
    (state.proposals proposalId).parameters = ProposalParameters.unset

/-- A property of creation records that every slot whose id has not been handed out has keeps
holding there after every call: `createProposal` writes the slot of the id it hands out, and no
other call writes a record. -/
theorem Step.unissued {environment : Environment} {block : BlockContext}
    {state next : PluginState} {call : Call} (holds : Creation → Prop)
    (fresh : ∀ proposalId : Uint256, proposalId ∉ environment.issuedIds state.proposalCounter →
      holds (state.proposals proposalId).creation)
    (step : Step environment block state call next) :
    ∀ proposalId : Uint256, proposalId ∉ environment.issuedIds next.proposalCounter →
      holds (next.proposals proposalId).creation := by
  intro proposalId unissued
  rcases step.creation_or_create with ⟨counter, kept⟩ | ⟨counter, others⟩
  · rw [kept]
    exact fresh proposalId (counter ▸ unissued)
  · -- not handed out after the creation: neither before it nor the id it handed out
    rw [counter, Environment.mem_issuedIds_succ, not_or] at unissued
    rw [others proposalId unissued.2]
    exact fresh proposalId unissued.1

/-- Every call keeps the slots whose id has not been handed out fresh. -/
theorem FreshSlots.step {environment : Environment} {block : BlockContext}
    {state next : PluginState} {call : Call} (fresh : FreshSlots environment state)
    (step : Step environment block state call next) : FreshSlots environment next :=
  Step.unissued (fun record => record.parameters = .unset) fresh step

/-- `initialize` leaves every slot fresh. -/
theorem FreshSlots.initial {environment : Environment} {settings : VotingSettings}
    {initial : PluginState} (initialized : initializePlugin settings = .ok initial) :
    FreshSlots environment initial := by
  obtain rfl := initializePlugin_spec initialized
  intro _ _
  rfl

/-- Every transaction, with its nested calls, keeps the slots whose id has not been handed out
fresh. -/
theorem FreshSlots.transaction {environment : Environment} {state next : PluginState}
    {transaction : BlockContext × List Call} (fresh : FreshSlots environment state)
    (run : Transaction environment state transaction next) : FreshSlots environment next :=
  Steps.invariant (FreshSlots environment) (fun step fresh => fresh.step step) (Run.steps run)
    fresh

/-- A proposal created after a state of the run has no config in that state: the snapshot the
guests read holds the empty string for it, while the proposal stores the config in force at
its creation. This holds for every run from `initialize`, every state on it before the
creation (the end of the block before the creation's block is one), and every view of that
state, as long as OSx hands out fresh ids. -/
theorem snapshot_config_precedes_proposal {environment : Environment}
    {settings : VotingSettings} {initial snapshot state created : PluginState}
    {earlier later : List (BlockContext × List Call)} {block : BlockContext} {sender : Address}
    {metadata : Bytes} {actions : List Action} {allowFailureMap : Uint256}
    {startDate endDate : Uint64} {proposalId : Uint256} {view : ChainView}
    (initialized : initializePlugin settings = .ok initial)
    (toSnapshot : Steps (Transaction environment) initial earlier snapshot)
    (toCreation : Steps (Transaction environment) snapshot later state)
    (freshIds : environment.FreshIds (state.proposalCounter + 1))
    (creating : createProposal environment block sender state metadata actions allowFailureMap
      startDate endDate = .ok (proposalId, created))
    (reads : view.votingProtocolConfig environment.self proposalId =
      some (votingProtocolConfigOf snapshot proposalId)) :
    view.votingProtocolConfig environment.self proposalId = some "" ∧
      votingProtocolConfigOf created proposalId = state.votingSettings.votingProtocolConfig := by
  obtain ⟨parameters, configured, _, sameId, rfl⟩ := createProposal_spec creating
  have fresh : FreshSlots environment snapshot :=
    Steps.invariant (FreshSlots environment) (fun run fresh => fresh.transaction run) toSnapshot
      (FreshSlots.initial initialized)
  -- the new id was not handed out before the creation, so not by the snapshot either
  have unissued : proposalId ∉ environment.issuedIds snapshot.proposalCounter := by
    rw [sameId]
    exact fun member => freshIds.not_mem
      (environment.issuedIds_subset (proposalCounter_le_of_steps toCreation) member)
  have unset : votingProtocolConfigOf snapshot proposalId = "" := by
    rw [votingProtocolConfigOf, fresh proposalId unissued]
    rfl
  refine ⟨by rw [reads, unset], ?_⟩
  rw [votingProtocolConfigOf, PluginState.setProposal_same]
  exact configured

/-- In the test deployment proposal `0` is created in `creationBlock` with the config
`"config"`; a view of the storage at its snapshot block reads `""`. -/
theorem snapshot_config_precedes_proposal_deployment :
    ∃ initial created, initializePlugin testSettings = .ok initial ∧
      createProposal (mockEnvironment (fun _ => 0) (fun _ => 0)) creationBlock proposalCreator
        initial [] [] 0 0 0 = .ok (0, created) ∧
      (mockEnvironment (fun _ => 0) (fun _ => 0)).FreshIds (initial.proposalCounter + 1) ∧
      initial.votingSettings.votingProtocolConfig = "config" ∧
      ({ VotingProtocol.sampleChain with
          votingProtocolConfig := fun _ proposalId =>
            some (votingProtocolConfigOf initial proposalId) } : ChainView).votingProtocolConfig
          pluginAddress 0 = some "" ∧
      votingProtocolConfigOf created 0 = initial.votingSettings.votingProtocolConfig := by
  obtain ⟨initial, created, initialized, creating⟩ : ∃ initial created,
      initializePlugin testSettings = .ok initial ∧
        createProposal (mockEnvironment (fun _ => 0) (fun _ => 0)) creationBlock proposalCreator
          initial [] [] 0 0 0 = .ok (0, created) :=
    ⟨_, _, rfl, rfl⟩
  have configured : initial.votingSettings.votingProtocolConfig = "config" := by
    rw [initializePlugin_spec initialized]
    rfl
  have freshIds : (mockEnvironment (fun _ => 0) (fun _ => 0)).FreshIds
      (initial.proposalCounter + 1) := by
    rw [initializePlugin_spec initialized]
    decide
  exact ⟨initial, created, initialized, creating, freshIds, configured,
    snapshot_config_precedes_proposal initialized (.done initial) (.done initial) freshIds
      creating rfl⟩

end ZkGovernance
