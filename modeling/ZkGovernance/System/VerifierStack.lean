import ZkGovernance.Plugin.Calls
import ZkGovernance.Risc0.Verifiers

/-!
# The plugin behind the router and the emergency stop

A production deployment verifies the plugin's seals through the contracts of
`lib/risc0`: the proposal's verifier is a `RiscZeroVerifierRouter`, and the
router's entry for a selector is a `RiscZeroVerifierEmergencyStop` wrapping
that selector's verifier. What the plugin's `verify` call returns then
depends on the storage of the router and of the stop at the time of the
call, and their owners, the stop's guardian and anyone holding a proof of
exploit may call them between the plugin's calls.

`StackState` is the storage of the three contracts and `StackStep` one call
into any of them that returns; a run of such steps is any interleaving of the
parties' calls, the calls an `execute` hands the DAO included, which run after
`execute` has written its storage (`Run.steps`).

Once the stop is paused while the router routes a selector to it, the
selector keeps resolving to the stop or is removed, and the stop stays
paused, whatever calls follow in whatever order (`Blocked`). From then on
every vote and every execution of a proposal verified through the router
with a seal of that selector reverts, and so does every one verified by the
stop directly (`stopped_selector_blocks_plugin`).
-/

namespace ZkGovernance

open Abi Semantics Risc0

/-- The addresses of the verifier contracts behind the plugin: the router, an emergency stop
the router routes a selector to, and the verifier the stop wraps. -/
structure VerifierStack where
  router : Address
  stop : Address
  wrapped : Address

/-- The storage of the plugin, the router and the emergency stop. -/
structure StackState where
  plugin : PluginState
  router : RiscZeroVerifierRouter.RouterState
  stop : RiscZeroVerifierEmergencyStop.StopState

namespace VerifierStack

/-- What the verifier contracts return, given the stop's storage: the stop's functions at its
address, the other contracts' (`others`) elsewhere. -/
def verifiers (stack : VerifierStack) (others : Verifiers)
    (stop : RiscZeroVerifierEmergencyStop.StopState) : Verifiers where
  verify address sealData imageId journalDigest :=
    if address = stack.stop then
      (RiscZeroVerifierEmergencyStop.verify others stack.wrapped stop sealData imageId
        journalDigest).toBool
    else others.verify address sealData imageId journalDigest
  verifyIntegrity address receipt :=
    if address = stack.stop then
      (RiscZeroVerifierEmergencyStop.verifyIntegrity others stack.wrapped stop receipt).toBool
    else others.verifyIntegrity address receipt

/-- The environment of the plugin's calls in `state`: `verify` reaches the router at the
router's address and the other contracts elsewhere, each with its storage in `state`; the rest
is `base`. -/
def environment (stack : VerifierStack) (others : Verifiers) (base : Environment)
    (state : StackState) : Environment :=
  { base with
    verify := fun address sealData imageId journalDigest =>
      if address = stack.router then
        (RiscZeroVerifierRouter.verify (stack.verifiers others state.stop) state.router sealData
          imageId journalDigest).toBool
      else (stack.verifiers others state.stop).verify address sealData imageId journalDigest }

end VerifierStack

/-- A call into the plugin, in a block, into the router or into the emergency stop. -/
inductive StackCall where
  | plugin (block : BlockContext) (call : Call)
  | router (call : Risc0.RiscZeroVerifierRouter.Call)
  | stop (call : Risc0.RiscZeroVerifierEmergencyStop.Call)

/-- One call that returns: it writes the storage of the contract it calls, and the plugin's calls
see the verifiers as the router's and the stop's storage are. -/
def StackStep (stack : VerifierStack) (others : Verifiers) (base : Environment)
    (state : StackState) : StackCall → StackState → Prop
  | .plugin block call, next => ∃ plugin,
      Step (stack.environment others base state) block state.plugin call plugin ∧
        next = { state with plugin }
  | .router call, next => ∃ router,
      RiscZeroVerifierRouter.Step state.router call router ∧ next = { state with router }
  | .stop call, next => ∃ stop,
      RiscZeroVerifierEmergencyStop.Step others stack.wrapped state.stop call stop ∧
        next = { state with stop }

/-- The stop is paused, and the router resolves `selector` to the stop or reverts on it as
removed. -/
def Blocked (stack : VerifierStack) (selector : BitVec 32) (state : StackState) : Prop :=
  state.stop.paused = true ∧
    (RiscZeroVerifierRouter.getVerifier state.router selector = .ok stack.stop ∨
      RiscZeroVerifierRouter.getVerifier state.router selector =
        .error (.selectorRemoved selector))

section Blocked

open RiscZeroVerifierRouter in
/-- A router call keeps the selector resolving to the stop or removed: an entry that resolves is
never unset, so it changes only to the tombstone, and the tombstone never changes. -/
theorem routed_or_removed_of_step {stack : VerifierStack} {selector : BitVec 32}
    {router next : RouterState} {call : RiscZeroVerifierRouter.Call}
    (step : RiscZeroVerifierRouter.Step router call next)
    (before : getVerifier router selector = .ok stack.stop ∨
      getVerifier router selector = .error (.selectorRemoved selector)) :
    getVerifier next selector = .ok stack.stop ∨
      getVerifier next selector = .error (.selectorRemoved selector) := by
  have evolved := step.evolves selector
  rcases before with routed | removed
  · obtain ⟨stored, notUnset, notRemoved⟩ := getVerifier_eq_ok_iff.mp routed
    rcases evolved with same | wasUnset | nowRemoved
    · exact .inl (getVerifier_eq_ok_iff.mpr ⟨same.trans stored, notUnset, notRemoved⟩)
    · exact absurd (stored.symm.trans wasUnset) notUnset
    · exact .inr (getVerifier_of_tombstone nowRemoved)
  · have stored := tombstone_of_getVerifier removed
    rcases evolved with same | wasUnset | nowRemoved
    · exact .inr (getVerifier_of_tombstone (same.trans stored))
    · exact absurd (stored.symm.trans wasUnset) tombstone_ne_unset
    · exact .inr (getVerifier_of_tombstone nowRemoved)

variable {stack : VerifierStack} {others : Verifiers} {base : Environment}
  {selector : BitVec 32}

/-- Every call keeps the stop paused and the selector routed to it or removed: a plugin call
writes neither, a router call moves the entry only to the tombstone, and a paused stop stays
paused. -/
theorem Blocked.step {state next : StackState} {call : StackCall}
    (step : StackStep stack others base state call next) (blocked : Blocked stack selector state) :
    Blocked stack selector next := by
  obtain ⟨paused, routed⟩ := blocked
  cases call with
  | plugin block call =>
      obtain ⟨_, _, rfl⟩ := step
      exact ⟨paused, routed⟩
  | router call =>
      obtain ⟨_, routerStep, rfl⟩ := step
      exact ⟨paused, routed_or_removed_of_step routerStep routed⟩
  | stop call =>
      obtain ⟨_, stopStep, rfl⟩ := step
      exact ⟨RiscZeroVerifierEmergencyStop.Step.paused_mono paused stopStep, routed⟩

/-- `Blocked` holds at the end of every run from a state where it holds. -/
theorem Blocked.run {start final : StackState} {calls : List StackCall}
    (run : Steps (StackStep stack others base) start calls final)
    (blocked : Blocked stack selector start) : Blocked stack selector final :=
  Steps.invariant (Blocked stack selector) (fun step holds => Blocked.step step holds) run blocked

/-- A paused stop rejects every seal. -/
theorem verifiers_verify_stop {stop : RiscZeroVerifierEmergencyStop.StopState}
    (paused : stop.paused = true) (sealData : Bytes) (imageId journalDigest : Bytes32) :
    (stack.verifiers others stop).verify stack.stop sealData imageId journalDigest = false := by
  simp [VerifierStack.verifiers, RiscZeroVerifierEmergencyStop.verify_of_paused paused,
    Except.toBool]

/-- Under `Blocked`, the plugin's check of a seal of the selector fails at the router, whose
entry is the paused stop or removed, and the check of any seal fails at the stop itself. -/
theorem Blocked.environment_verify {state : StackState} (blocked : Blocked stack selector state)
    {address : Address} (through : address = stack.router ∨ address = stack.stop)
    {sealData : Bytes} (selected : RiscZeroVerifierRouter.sealSelector sealData = .ok selector)
    (imageId journalDigest : Bytes32) :
    (stack.environment others base state).verify address sealData imageId journalDigest =
      false := by
  obtain ⟨paused, routed⟩ := blocked
  have rejected := @verifiers_verify_stop stack others _ paused sealData imageId journalDigest
  by_cases atRouter : address = stack.router
  · -- the router resolves the seal's selector, then forwards to the paused stop or reverts
    have reverted : ∃ error, RiscZeroVerifierRouter.verify (stack.verifiers others state.stop)
        state.router sealData imageId journalDigest = .error error := by
      simp only [RiscZeroVerifierRouter.verify, RiscZeroVerifierRouter.getVerifierOfSeal,
        selected, Except.ok_bind]
      rcases routed with routedToStop | removed
      · rw [routedToStop, Except.ok_bind, rejected]
        exact ⟨_, rfl⟩
      · rw [removed]
        exact ⟨_, rfl⟩
    obtain ⟨error, failed⟩ := reverted
    simp [VerifierStack.environment, atRouter, failed, Except.toBool]
  · have atStop : address = stack.stop := through.resolve_left atRouter
    simp only [VerifierStack.environment, atRouter, if_false]
    rw [atStop, rejected]

end Blocked

/-- Once the emergency stop is paused while the router resolves a selector to it, over every
interleaving of calls into the plugin, the router and the stop, by anyone: the stop stays
paused, the selector keeps resolving to the stop or is removed, and every vote and every
execution of a proposal verified through the router or the stop, with a seal of that selector,
reverts. -/
theorem stopped_selector_blocks_plugin {stack : VerifierStack} {others : Verifiers}
    {base : Environment} {start final : StackState} {calls : List StackCall}
    (run : Steps (StackStep stack others base) start calls final) {selector : BitVec 32}
    (routed : RiscZeroVerifierRouter.getVerifier start.router selector = .ok stack.stop)
    (stopped : start.stop.paused = true) :
    final.stop.paused = true ∧
      (RiscZeroVerifierRouter.getVerifier final.router selector = .ok stack.stop ∨
        RiscZeroVerifierRouter.getVerifier final.router selector =
          .error (.selectorRemoved selector)) ∧
      ∀ sealData, RiscZeroVerifierRouter.sealSelector sealData = .ok selector →
        (∀ journalData journal next, decodeVotingJournal journalData = some journal →
          ((final.plugin.proposals journal.proposalId).parameters.verifier = stack.router ∨
            (final.plugin.proposals journal.proposalId).parameters.verifier = stack.stop) →
          vote (stack.environment others base final) final.plugin journalData sealData ≠
            .ok next) ∧
        ∀ block journalData proposalId next,
          ((final.plugin.proposals proposalId).parameters.verifier = stack.router ∨
            (final.plugin.proposals proposalId).parameters.verifier = stack.stop) →
          execute (stack.environment others base final) block final.plugin journalData
            sealData ≠ .ok (proposalId, next) := by
  have blocked : Blocked stack selector final := Blocked.run run ⟨stopped, .inl routed⟩
  refine ⟨blocked.1, blocked.2, fun sealData selected => ⟨?_, ?_⟩⟩
  · intro journalData journal next decoded through accepted
    obtain ⟨counted, -, -, -, decodedCounted, -, -, verified, -⟩ := vote_spec accepted
    have same : counted = journal := Option.some.inj (decodedCounted.symm.trans decoded)
    subst same
    rw [blocked.environment_verify through selected] at verified
    exact Bool.false_ne_true verified
  · intro block journalData proposalId next through accepted
    obtain ⟨-, -, -, -, -, -, verified, -⟩ := execute_spec accepted
    rw [blocked.environment_verify through selected] at verified
    exact Bool.false_ne_true verified

/-- A stack whose router sends selector `0` to the stop at `0x5709`. -/
def pausedStack : VerifierStack where
  router := 0x7007e5
  stop := 0x5709
  wrapped := 0x16

/-- Verifier contracts that accept every seal and every receipt. -/
def permissiveVerifiers : Verifiers where
  verify _ _ _ _ := true
  verifyIntegrity _ _ := true

/-- The storage once the guardian `0xb` has stopped the stop, with the router of owner `0xa`
routing selector `0` to it. -/
def pausedState : StackState where
  plugin := PluginState.empty
  router := { owner := 0xa, verifiers := fun selector => if selector = 0 then 0x5709 else 0 }
  stop := { owner := 0xb, paused := true }

/-- Ownership of the router and of the stop passes to new accounts after the stop; the wrapped
verifier accepts everything, and the plugin still rejects every seal of selector `0` through the
router or the stop. -/
theorem stopped_selector_blocks_plugin_handover :
    ∃ final, Steps (StackStep pausedStack permissiveVerifiers
        (mockEnvironment (fun _ => 0) (fun _ => 0))) pausedState
        [.router (.changeOwner 0xc), .stop (.changeOwner 0xd)] final ∧
      RiscZeroVerifierRouter.getVerifier pausedState.router 0 = .ok pausedStack.stop ∧
      pausedState.stop.paused = true ∧
      (final.stop.paused = true ∧
        (RiscZeroVerifierRouter.getVerifier final.router 0 = .ok pausedStack.stop ∨
          RiscZeroVerifierRouter.getVerifier final.router 0 = .error (.selectorRemoved 0)) ∧
        ∀ sealData, RiscZeroVerifierRouter.sealSelector sealData = .ok 0 →
          (∀ journalData journal next, decodeVotingJournal journalData = some journal →
            ((final.plugin.proposals journal.proposalId).parameters.verifier =
                pausedStack.router ∨
              (final.plugin.proposals journal.proposalId).parameters.verifier =
                pausedStack.stop) →
            vote (pausedStack.environment permissiveVerifiers
                (mockEnvironment (fun _ => 0) (fun _ => 0)) final) final.plugin journalData
              sealData ≠ .ok next) ∧
          ∀ block journalData proposalId next,
            ((final.plugin.proposals proposalId).parameters.verifier = pausedStack.router ∨
              (final.plugin.proposals proposalId).parameters.verifier = pausedStack.stop) →
            execute (pausedStack.environment permissiveVerifiers
                (mockEnvironment (fun _ => 0) (fun _ => 0)) final) block final.plugin
              journalData sealData ≠ .ok (proposalId, next)) := by
  obtain ⟨handedOver, routerHandover⟩ : ∃ next, StackStep pausedStack permissiveVerifiers
      (mockEnvironment (fun _ => 0) (fun _ => 0)) pausedState (.router (.changeOwner 0xc)) next :=
    ⟨_, _, rfl, rfl⟩
  obtain ⟨final, stopHandover⟩ : ∃ next, StackStep pausedStack permissiveVerifiers
      (mockEnvironment (fun _ => 0) (fun _ => 0)) handedOver (.stop (.changeOwner 0xd)) next :=
    ⟨_, _, rfl, rfl⟩
  have run := Steps.cons routerHandover (.single stopHandover)
  have routed : RiscZeroVerifierRouter.getVerifier pausedState.router 0 = .ok pausedStack.stop :=
    rfl
  exact ⟨final, run, routed, rfl, stopped_selector_blocks_plugin run routed rfl⟩

end ZkGovernance
