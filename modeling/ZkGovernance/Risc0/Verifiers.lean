import ZkGovernance.Risc0.MockVerifier
import ZkGovernance.Semantics.Steps
import ZkGovernance.Semantics.Except

/-!
# The verifier router and the emergency stop

Besides the mock, `lib/risc0` has two verifier contracts that a deployment puts
between the plugin and the Groth16 verifier.

`RiscZeroVerifierRouter` sends each seal to the verifier registered for the
seal's first four bytes, its selector. The owner adds verifiers and removes
them; a removed selector holds the tombstone address `1` and can never be used
again. The contract's documentation states the purpose: each selector maps to
at most one implementation across time. Over every sequence of calls, a
selector that resolves to a verifier later resolves to the same verifier or is
removed (`selector_maps_to_one_verifier`).

`RiscZeroVerifierEmergencyStop` wraps one verifier and forwards to it until it
is stopped, by its owner or by anyone holding a proof of the all-zero claim
digest. No call restarts a stopped wrapper (`Step.paused_mono`), and a stopped
wrapper forwards no verification (`verify_of_paused`).

Ownership comes from OpenZeppelin's `Ownable2Step`, which is not in the
repository; its calls write only the owner (and a pending owner, not
modelled), so the model lets any call replace the owner. The contracts behind
the addresses, which `verify` and `verifyIntegrity` reach, are parameters.
-/

namespace ZkGovernance

open Abi Semantics

namespace Risc0

/-- `Receipt` of `IRiscZeroVerifier`: a seal and the digest of the claim it proves. -/
structure Receipt where
  sealData : Bytes
  claimDigest : Bytes32

/-- The verifier contracts at each address: whether `verify` and `verifyIntegrity` return. -/
structure Verifiers where
  verify : Address → Bytes → Bytes32 → Bytes32 → Bool
  verifyIntegrity : Address → Receipt → Bool

/-- Why a call of the router or of the emergency stop reverts. -/
inductive VerifierError where
  | ownableUnauthorizedAccount (account : Address)
  | selectorUnknown (selector : BitVec 32)
  | selectorInUse (selector : BitVec 32)
  | selectorRemoved (selector : BitVec 32)
  | sliceOutOfBounds
  | enforcedPause
  | invalidProofOfExploit
  | verifierReverted
  deriving DecidableEq, Repr

/-- `Ownable.onlyOwner`. -/
def onlyOwner (owner sender : Address) : Except VerifierError Unit :=
  if sender = owner then pure () else throw (.ownableUnauthorizedAccount sender)

namespace RiscZeroVerifierRouter

/-- `UNSET`, the value of an entry never written. -/
def unset : Address := 0

/-- `TOMBSTONE`, the value of a removed entry. -/
def tombstone : Address := 1

/-- The router's storage: its owner and the `verifiers` mapping. -/
structure RouterState where
  owner : Address
  verifiers : BitVec 32 → Address

/-- `addVerifier(selector, verifier)`: only for a selector neither removed nor in use. -/
def addVerifier (state : RouterState) (sender : Address) (selector : BitVec 32)
    (verifier : Address) : Except VerifierError RouterState := do
  onlyOwner state.owner sender
  if state.verifiers selector = tombstone then throw (.selectorRemoved selector)
  if state.verifiers selector ≠ unset then throw (.selectorInUse selector)
  pure { state with verifiers := Function.update state.verifiers selector verifier }

/-- `removeVerifier(selector)`: a selector that was set becomes the tombstone. -/
def removeVerifier (state : RouterState) (sender : Address) (selector : BitVec 32) :
    Except VerifierError RouterState := do
  onlyOwner state.owner sender
  if state.verifiers selector = unset then throw (.selectorUnknown selector)
  pure { state with verifiers := Function.update state.verifiers selector tombstone }

@[simp] theorem unset_ne_tombstone : unset ≠ tombstone := by decide

@[simp] theorem tombstone_ne_unset : tombstone ≠ unset := by decide

/-- `getVerifier(selector)`: the registered verifier; unknown and removed selectors revert. -/
def getVerifier (state : RouterState) (selector : BitVec 32) : Except VerifierError Address :=
  let verifier := state.verifiers selector
  if verifier = unset then throw (.selectorUnknown selector)
  else if verifier = tombstone then throw (.selectorRemoved selector)
  else pure verifier

/-- A selector resolves to exactly the entry it holds, unless that entry is unset or the
tombstone. -/
theorem getVerifier_eq_ok_iff {state : RouterState} {selector : BitVec 32} {verifier : Address} :
    getVerifier state selector = .ok verifier ↔
      state.verifiers selector = verifier ∧ verifier ≠ unset ∧ verifier ≠ tombstone := by
  unfold getVerifier
  by_cases wasUnset : state.verifiers selector = unset
  · simp only [wasUnset, if_true, Except.throw_ne_ok, false_iff, not_and]
    rintro rfl notUnset
    exact absurd rfl notUnset
  · by_cases removed : state.verifiers selector = tombstone
    · simp only [removed, tombstone_ne_unset, if_true, if_false, Except.throw_ne_ok, false_iff,
        not_and]
      rintro rfl _ notRemoved
      exact notRemoved rfl
    · simp only [wasUnset, removed, if_false]
      constructor
      · intro same
        simp only [pure, Except.pure, Except.ok.injEq] at same
        exact ⟨same, same ▸ wasUnset, same ▸ removed⟩
      · rintro ⟨same, -, -⟩
        rw [same]
        rfl

/-- A removed selector reverts as removed. -/
theorem getVerifier_of_tombstone {state : RouterState} {selector : BitVec 32}
    (removed : state.verifiers selector = tombstone) :
    getVerifier state selector = .error (.selectorRemoved selector) := by
  simp [getVerifier, removed]

/-- A selector reverts as removed only when its entry is the tombstone: an unset entry reverts
as unknown, and any other entry resolves. -/
theorem tombstone_of_getVerifier {state : RouterState} {selector : BitVec 32}
    (removed : getVerifier state selector = .error (.selectorRemoved selector)) :
    state.verifiers selector = tombstone := by
  unfold getVerifier at removed
  by_cases wasUnset : state.verifiers selector = unset
  · simp [wasUnset] at removed
  · by_cases isTombstone : state.verifiers selector = tombstone
    · exact isTombstone
    · simp [wasUnset, isTombstone, pure, Except.pure] at removed

/-- `bytes4(seal[0:4])`: the first four bytes, big-endian; the slice of a shorter seal
reverts. -/
def sealSelector (sealData : Bytes) : Except VerifierError (BitVec 32) :=
  if sealData.length < 4 then throw .sliceOutOfBounds
  else pure (BitVec.ofNat 32 (ofBytesBE (sealData.take 4)))

/-- `getVerifier(seal)`: the verifier of the seal's selector. -/
def getVerifierOfSeal (state : RouterState) (sealData : Bytes) :
    Except VerifierError Address := do
  let selector ← sealSelector sealData
  getVerifier state selector

/-- `verify(seal, imageId, journalDigest)`: forwarded to the seal's verifier. -/
def verify (verifiers : Verifiers) (state : RouterState) (sealData : Bytes)
    (imageId journalDigest : Bytes32) : Except VerifierError Unit := do
  let verifier ← getVerifierOfSeal state sealData
  if verifiers.verify verifier sealData imageId journalDigest then pure ()
  else throw .verifierReverted

/-- `verifyIntegrity(receipt)`: forwarded to the verifier of the receipt's seal. -/
def verifyIntegrity (verifiers : Verifiers) (state : RouterState) (receipt : Receipt) :
    Except VerifierError Unit := do
  let verifier ← getVerifierOfSeal state receipt.sealData
  if verifiers.verifyIntegrity verifier receipt then pure () else throw .verifierReverted

/-- The router's functions that write storage; `changeOwner` stands for the calls of
`Ownable2Step`. -/
inductive Call where
  | addVerifier (sender : Address) (selector : BitVec 32) (verifier : Address)
  | removeVerifier (sender : Address) (selector : BitVec 32)
  | changeOwner (owner : Address)

/-- The storage a call leaves, or its revert. -/
def Call.run (state : RouterState) : Call → Except VerifierError RouterState
  | .addVerifier sender selector verifier =>
      RiscZeroVerifierRouter.addVerifier state sender selector verifier
  | .removeVerifier sender selector => RiscZeroVerifierRouter.removeVerifier state sender selector
  | .changeOwner owner => .ok { state with owner }

/-- One call that returns. -/
def Step (state : RouterState) (call : Call) (next : RouterState) : Prop :=
  call.run state = .ok next

/-- A successful `addVerifier` was sent by the owner for an unset selector, and writes it. -/
theorem addVerifier_spec {state next : RouterState} {sender : Address} {selector : BitVec 32}
    {verifier : Address} (added : addVerifier state sender selector verifier = .ok next) :
    sender = state.owner ∧ state.verifiers selector = unset ∧
      next = { state with verifiers := Function.update state.verifiers selector verifier } := by
  unfold addVerifier onlyOwner at added
  by_cases owner : sender = state.owner
  · by_cases removed : state.verifiers selector = tombstone
    · simp [owner, removed] at added
    · by_cases wasUnset : state.verifiers selector = unset
      · simp [owner, wasUnset] at added
        exact ⟨owner, wasUnset, added.symm⟩
      · simp [owner, removed, wasUnset] at added
  · simp [owner] at added

/-- A successful `removeVerifier` was sent by the owner for a selector that was set, and writes
the tombstone. -/
theorem removeVerifier_spec {state next : RouterState} {sender : Address}
    {selector : BitVec 32} (removed : removeVerifier state sender selector = .ok next) :
    sender = state.owner ∧ state.verifiers selector ≠ unset ∧
      next = { state with verifiers := Function.update state.verifiers selector tombstone } := by
  unfold removeVerifier onlyOwner at removed
  by_cases owner : sender = state.owner
  · by_cases wasUnset : state.verifiers selector = unset
    · simp [owner, wasUnset] at removed
    · simp [owner, wasUnset] at removed
      exact ⟨owner, wasUnset, removed.symm⟩
  · simp [owner] at removed

/-! ## Each selector maps to at most one verifier -/

/-- How an entry may change: not at all, from unset, or to the tombstone. -/
def Evolves (before after : RouterState) : Prop :=
  ∀ selector, after.verifiers selector = before.verifiers selector ∨
    before.verifiers selector = unset ∨ after.verifiers selector = tombstone

theorem Evolves.refl (state : RouterState) : Evolves state state :=
  fun _ => .inl rfl

/-- Changes of entries compose: a tombstone is never overwritten, and an entry that was set
stays set. -/
theorem Evolves.trans {first second third : RouterState} (earlier : Evolves first second)
    (later : Evolves second third) : Evolves first third := by
  intro selector
  have distinct : tombstone ≠ unset := by decide
  rcases earlier selector with same | wasUnset | removed
  · rcases later selector with same' | wasUnset' | removed'
    · exact .inl (same'.trans same)
    · exact .inr (.inl (same ▸ wasUnset'))
    · exact .inr (.inr removed')
  · exact .inr (.inl wasUnset)
  · rcases later selector with same' | wasUnset' | removed'
    · exact .inr (.inr (same'.trans removed))
    · exact absurd (removed.symm.trans wasUnset') distinct
    · exact .inr (.inr removed')

/-- `addVerifier` writes only an unset entry, `removeVerifier` only the tombstone. -/
theorem Step.evolves {state next : RouterState} {call : Call} (step : Step state call next) :
    Evolves state next := by
  intro selector
  cases call with
  | addVerifier sender added verifier =>
      obtain ⟨_, wasUnset, rfl⟩ := addVerifier_spec step
      by_cases same : selector = added
      · subst same
        exact .inr (.inl wasUnset)
      · simp [same]
  | removeVerifier sender removed =>
      obtain ⟨_, _, rfl⟩ := removeVerifier_spec step
      by_cases same : selector = removed
      · subst same
        simp
      · simp [same]
  | changeOwner owner =>
      simp only [Step, Call.run, Except.ok.injEq] at step
      subst step
      exact .inl rfl

/-- A selector that resolves to a verifier keeps resolving to it until it is removed: over every
sequence of calls that return, by any owners, it then resolves to the same verifier or reverts
as removed. -/
theorem selector_maps_to_one_verifier {start final : RouterState} {calls : List Call}
    (run : Steps Step start calls final) {selector : BitVec 32} {verifier : Address}
    (registered : getVerifier start selector = .ok verifier) :
    getVerifier final selector = .ok verifier ∨
      getVerifier final selector = .error (.selectorRemoved selector) := by
  have evolved := Steps.relate Evolves Evolves.refl Evolves.trans Step.evolves run selector
  obtain ⟨stored, notUnset, notRemoved⟩ := getVerifier_eq_ok_iff.mp registered
  rcases evolved with same | wasUnset | removed
  · exact .inl (getVerifier_eq_ok_iff.mpr ⟨same.trans stored, notUnset, notRemoved⟩)
  · exact absurd (stored.symm.trans wasUnset) notUnset
  · exact .inr (getVerifier_of_tombstone removed)

/-- A router of owner `0xa` with the verifier `0x5e41` registered for selector `0`. -/
def registeredRouter : RouterState where
  owner := 0xa
  verifiers selector := if selector = 0 then 0x5e41 else unset

/-- The owner removes selector `0`; it then reverts as removed. -/
theorem selector_maps_to_one_verifier_removed :
    ∃ final, Steps Step registeredRouter [.removeVerifier 0xa 0] final ∧
      getVerifier registeredRouter 0 = .ok 0x5e41 ∧
      (getVerifier final 0 = .ok 0x5e41 ∨
        getVerifier final 0 = .error (.selectorRemoved 0)) := by
  obtain ⟨final, removing⟩ : ∃ final, Step registeredRouter (.removeVerifier 0xa 0) final :=
    ⟨_, rfl⟩
  have registered : getVerifier registeredRouter 0 = .ok 0x5e41 := rfl
  exact ⟨final, .single removing, registered,
    selector_maps_to_one_verifier (.single removing) registered⟩

end RiscZeroVerifierRouter

namespace RiscZeroVerifierEmergencyStop

/-- The wrapper's storage: its guardian, the owner, and `Pausable`'s flag. The wrapped verifier
is immutable and a parameter of the functions. -/
structure StopState where
  owner : Address
  paused : Bool

/-- `Pausable.whenNotPaused`. -/
def whenNotPaused (state : StopState) : Except VerifierError Unit :=
  if state.paused then throw .enforcedPause else pure ()

/-- `Pausable._pause`, which is itself `whenNotPaused`. -/
def _pause (state : StopState) : Except VerifierError StopState := do
  whenNotPaused state
  pure { state with paused := true }

/-- `verify(seal, imageId, journalDigest)`: forwarded to the wrapped verifier while not
paused. -/
def verify (verifiers : Verifiers) (verifier : Address) (state : StopState) (sealData : Bytes)
    (imageId journalDigest : Bytes32) : Except VerifierError Unit := do
  whenNotPaused state
  if verifiers.verify verifier sealData imageId journalDigest then pure ()
  else throw .verifierReverted

/-- `verifyIntegrity(receipt)`: forwarded to the wrapped verifier while not paused. -/
def verifyIntegrity (verifiers : Verifiers) (verifier : Address) (state : StopState)
    (receipt : Receipt) : Except VerifierError Unit := do
  whenNotPaused state
  if verifiers.verifyIntegrity verifier receipt then pure () else throw .verifierReverted

/-- `estop()`: the guardian stops the wrapper. -/
def estop (state : StopState) (sender : Address) : Except VerifierError StopState := do
  onlyOwner state.owner sender
  _pause state

/-- `estop(receipt)`: anyone stops the wrapper with a receipt of the all-zero claim digest that
the wrapped verifier accepts, a proof of an exploit of the proof system. -/
def estopWithReceipt (verifiers : Verifiers) (verifier : Address) (state : StopState)
    (receipt : Receipt) : Except VerifierError StopState := do
  if receipt.claimDigest ≠ 0 then throw .invalidProofOfExploit
  verifyIntegrity verifiers verifier state receipt
  _pause state

/-- The wrapper's functions that write storage; `changeOwner` stands for the calls of
`Ownable2Step`. -/
inductive Call where
  | estop (sender : Address)
  | estopWithReceipt (receipt : Receipt)
  | changeOwner (owner : Address)

/-- The storage a call leaves, or its revert. -/
def Call.run (verifiers : Verifiers) (verifier : Address) (state : StopState) :
    Call → Except VerifierError StopState
  | .estop sender => RiscZeroVerifierEmergencyStop.estop state sender
  | .estopWithReceipt receipt =>
      RiscZeroVerifierEmergencyStop.estopWithReceipt verifiers verifier state receipt
  | .changeOwner owner => .ok { state with owner }

/-- One call that returns. -/
def Step (verifiers : Verifiers) (verifier : Address) (state : StopState) (call : Call)
    (next : StopState) : Prop :=
  call.run verifiers verifier state = .ok next

section Stopped

variable {verifiers : Verifiers} {verifier : Address} {state : StopState}
  (stopped : state.paused = true)
include stopped

/-- A stopped wrapper cannot be paused again. -/
theorem _pause_of_paused : _pause state = .error .enforcedPause := by
  simp [_pause, whenNotPaused, stopped]

/-- A stopped wrapper forwards no verification. -/
theorem verify_of_paused (sealData : Bytes) (imageId journalDigest : Bytes32) :
    verify verifiers verifier state sealData imageId journalDigest = .error .enforcedPause := by
  simp [verify, whenNotPaused, stopped]

/-- A stopped wrapper forwards no integrity check. -/
theorem verifyIntegrity_of_paused (receipt : Receipt) :
    verifyIntegrity verifiers verifier state receipt = .error .enforcedPause := by
  simp [verifyIntegrity, whenNotPaused, stopped]

/-- No call restarts a stopped wrapper: both stops revert once it is paused, and an owner change
writes only the owner. -/
theorem Step.paused_mono {next : StopState} {call : Call}
    (step : Step verifiers verifier state call next) : next.paused = true := by
  cases call with
  | estop sender =>
      simp only [Step, Call.run, estop, Except.bind_eq_ok, _pause_of_paused stopped] at step
      obtain ⟨_, _, paused⟩ := step
      simp at paused
  | estopWithReceipt receipt =>
      simp only [Step, Call.run, estopWithReceipt, verifyIntegrity_of_paused stopped] at step
      -- with or without a zero claim digest, the integrity check reverts first
      split_ifs at step <;> simp at step
  | changeOwner owner =>
      simp only [Step, Call.run, Except.ok.injEq] at step
      subst step
      exact stopped

end Stopped

end RiscZeroVerifierEmergencyStop

end Risc0

end ZkGovernance
