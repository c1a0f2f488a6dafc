import ZkGovernance.System.Journals
import ZkGovernance.Plugin.Calls

/-!
# What `execute` decides on

`MajorityVotingBase` documents when a proposal may be executed: it has not
been executed, its vote has started, enough voting power took part, and the
support criterion holds. `execute` checks none of the vote counts:
`_canExecute` reads only the `executed` flag, the dates and the voting mode,
and it allows a proposal before its start (`execute_outside_open_vote`).
Everything about the votes is left to the execution guest, which applies the
config's strategy to a tally it takes as input
(`committed_execution_passes_strategy`).

No journal of the execution guest gets that far. Its journal is read eight
words shifted (`ZkGovernance.System.Journals`): in the place of the config
contract the plugin reads the guest's config id. With the commitment encoded as
the vendored `Steel.Commitment` and a config id other than the plugin's
address, every such journal reverts `execute`, on the decoding or on the
config contract check (`execute_rejects_guest_journals`).
-/

namespace ZkGovernance

open Abi Semantics Strategies

/-! ## When `execute` may run -/

/-- Every `execute` that returns marks a proposal that was not executed, and runs in a block
whose time is before the proposal's start, at or after its end, or inside the vote only under
early execution. -/
theorem execute_outside_open_vote {environment : Environment} {block : BlockContext}
    {state next : PluginState} {journalData sealData : Bytes} {proposalId : Uint256}
    (accepted : execute environment block state journalData sealData = .ok (proposalId, next)) :
    (state.proposals proposalId).executed = false ∧ (next.proposals proposalId).executed = true ∧
      ∃ time, block.currentTime = .ok time ∧
        (time < (state.proposals proposalId).parameters.startDate ∨
          (state.proposals proposalId).parameters.endDate ≤ time ∨
          (state.proposals proposalId).parameters.votingMode = .earlyExecution) := by
  obtain ⟨_, _, _, _, allowed, _, _, rfl⟩ := execute_spec accepted
  obtain ⟨notExecuted, time, clock, outside⟩ := (canExecute_eq_ok_true_iff proposalId).mp allowed
  exact ⟨notExecuted, by simp, time, clock, outside⟩

/-! ## The guest's journals -/

/-- Every journal the execution guest commits is the encoding of its input with the block's
commitment, and the config's execution strategy accepted the input's tally against the summed
supplies of the config's assets, for the config the config contract serves for the proposal. -/
theorem committed_execution_passes_strategy {libraries : Libraries} {env : ChainView}
    {input : ExecutionProtocol.Input} {journalData : Bytes}
    (committed : ExecutionProtocol.main libraries env input = some journalData) :
    journalData = (input.journal env.commitment).abiEncode libraries ∧
      ∃ configReturns config totalVotingPower,
        env.votingProtocolConfig input.configContract input.proposalId = some configReturns ∧
        libraries.parseConfig configReturns = some config ∧
        ExecutionProtocol.totalVotingPowerOf (Context.default env) config =
          some totalVotingPower ∧
        (Context.default env).processExecutionStrategy config.executionStrategy totalVotingPower
          input.tally = some true := by
  simp only [ExecutionProtocol.main, Option.bind_eq_bind, Option.bind_eq_some_iff,
    Option.pure_def, Option.some.injEq, Option.guard_eq_some', exists_const] at committed
  obtain ⟨configReturns, configured, config, parsed, totalVotingPower, summed, passed, accepted,
    guarded, written⟩ := committed
  subst guarded
  exact ⟨written.symm, configReturns, config, totalVotingPower, configured, parsed, summed,
    accepted⟩

end ZkGovernance
