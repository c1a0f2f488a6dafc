import ZkGovernance.Plugin.Calls
import ZkGovernance.Plugin.Deployment
import ZkGovernance.Risc0.Groth16

/-!
# The plugin over the production verifier

The plugin checks each journal with `IRiscZeroVerifier(verifier).verify(seal,
imageId, sha256(journal))`. The test deployment answers this with the mock;
a production deployment has a `RiscZeroGroth16Verifier` behind the address.
There, every vote the plugin counts and every execution it records came with a
seal that is the verifier's selector followed by a Groth16 proof which the
pairing check accepted on the public signals of the claim
`ReceiptClaimLib.ok(imageId, sha256(journal))`: that of the voting guest for a
vote, of the execution guest for an execution
(`plugin_calls_carry_groth16_proofs`). As the signals determine the claim's
digest, the proof is about this journal and image.

In dev mode the host proves with fake receipts, and `encode_seal` turns one
into the seal the test deployment's mock accepts for the receipt's claim
(`mockEnvironment_verify_encodeSeal`).
-/

namespace ZkGovernance

open Abi Risc0

/-- The contract at `address` is a `RiscZeroGroth16Verifier` with the immutables `verifier` and
the pairing check `verifyProof`, using the plugin's `sha256` precompile: `verify` returns exactly
when the model's does. -/
def Environment.RunsGroth16 (environment : Environment) (address : Address)
    (verifyProof : Seal → Vector Uint256 5 → Bool) (verifier : RiscZeroGroth16Verifier) : Prop :=
  ∀ sealData imageId journalDigest,
    environment.verify address sealData imageId journalDigest =
      (verifier.verify environment.sha256 verifyProof sealData imageId journalDigest).toBool

/-- What the plugin's check of a seal establishes behind a Groth16 verifier. -/
theorem Environment.RunsGroth16.verify_eq_true {environment : Environment} {address : Address}
    {verifyProof : Seal → Vector Uint256 5 → Bool} {verifier : RiscZeroGroth16Verifier}
    (runs : environment.RunsGroth16 address verifyProof verifier) {sealData : Bytes}
    {imageId journalDigest : Bytes32}
    (verified : environment.verify address sealData imageId journalDigest = true) :
    sealData.take 4 = toBytesBE 4 verifier.selector.toNat ∧
      ∃ proof, decodeSeal (sealData.drop 4) = some proof ∧
        verifyProof proof (verifier.publicSignals
          ((ReceiptClaim.ok environment.sha256 imageId journalDigest).digest
            environment.sha256)) = true := by
  rw [runs, Except.toBool_eq_true_iff] at verified
  exact RiscZeroGroth16Verifier._verifyIntegrity_eq_ok_iff.mp verified

/-- Behind a Groth16 verifier, a vote the plugin counts and an execution it records each came
with the verifier's selector and a proof that the pairing check accepted on the public signals
of the guest's claim for this journal: the voting guest's for a vote, the execution guest's for
an execution. -/
theorem plugin_calls_carry_groth16_proofs (environment : Environment) (address : Address)
    (verifyProof : Seal → Vector Uint256 5 → Bool) (verifier : RiscZeroGroth16Verifier)
    (runs : environment.RunsGroth16 address verifyProof verifier) :
    (∀ (state next : PluginState) (journalData sealData : Bytes) (journal : VotingJournal),
      decodeVotingJournal journalData = some journal →
      (state.proposals journal.proposalId).parameters.verifier = address →
      vote environment state journalData sealData = .ok next →
      sealData.take 4 = toBytesBE 4 verifier.selector.toNat ∧
        ∃ proof, decodeSeal (sealData.drop 4) = some proof ∧
          verifyProof proof (verifier.publicSignals
            ((ReceiptClaim.ok environment.sha256
                (state.proposals journal.proposalId).parameters.votingProtocolImageId
                (environment.sha256 journalData)).digest environment.sha256)) = true) ∧
    ∀ (block : BlockContext) (state next : PluginState) (journalData sealData : Bytes)
      (proposalId : Uint256),
      (state.proposals proposalId).parameters.verifier = address →
      execute environment block state journalData sealData = .ok (proposalId, next) →
      sealData.take 4 = toBytesBE 4 verifier.selector.toNat ∧
        ∃ proof, decodeSeal (sealData.drop 4) = some proof ∧
          verifyProof proof (verifier.publicSignals
            ((ReceiptClaim.ok environment.sha256
                (state.proposals proposalId).parameters.executionProtocolImageId
                (environment.sha256 journalData)).digest environment.sha256)) = true := by
  constructor
  · intro state next journalData sealData journal decoded uses accepted
    obtain ⟨counted, -, -, -, decodedCounted, -, -, verified, -⟩ := vote_spec accepted
    have same : counted = journal := Option.some.inj (decodedCounted.symm.trans decoded)
    subst same
    rw [uses] at verified
    exact runs.verify_eq_true verified
  · intro block state next journalData sealData proposalId uses accepted
    obtain ⟨-, -, -, -, -, -, verified, -⟩ := execute_spec accepted
    rw [uses] at verified
    exact runs.verify_eq_true verified

/-- The seal the host's `encode_seal` gives for a fake receipt of the claim of an image and a
journal passes the test deployment's check of that journal. -/
theorem mockEnvironment_verify_encodeSeal (sha256 keccak256 : Bytes → Bytes32)
    (imageId : Bytes32) (journalData : Bytes) {sealData : Bytes}
    (encoded : encodeSeal (.fake ((ReceiptClaim.ok sha256 imageId (sha256 journalData)).digest
      sha256)) = some sealData) :
    (mockEnvironment sha256 keccak256).verify mockVerifierAddress sealData imageId
      ((mockEnvironment sha256 keccak256).sha256 journalData) = true := by
  rw [encodeSeal_fake, Option.some.injEq] at encoded
  subst encoded
  exact mockEnvironment_verify_mockSeal sha256 keccak256 imageId journalData

/-- The test deployment with a `RiscZeroGroth16Verifier` at the settings' verifier address in
place of the mock. -/
def groth16Environment (sha256 : Bytes → Bytes32) (verifyProof : Seal → Vector Uint256 5 → Bool)
    (verifier : RiscZeroGroth16Verifier) : Environment where
  self := pluginAddress
  dao := daoAddress
  isGranted := setupPermissions daoAddress
  verify address sealData imageId journalDigest :=
    address == testSettings.verifier &&
      (verifier.verify sha256 verifyProof sealData imageId journalDigest).toBool
  sha256 := sha256
  createProposalId := countProposalId

/-- The settings' verifier address of `groth16Environment` runs the verifier it is given. -/
theorem groth16Environment_runsGroth16 (sha256 : Bytes → Bytes32)
    (verifyProof : Seal → Vector Uint256 5 → Bool) (verifier : RiscZeroGroth16Verifier) :
    (groth16Environment sha256 verifyProof verifier).RunsGroth16 testSettings.verifier
      verifyProof verifier := by
  intro sealData imageId journalDigest
  simp [groth16Environment]

/-- A proof the host encodes with the digest the verifier's selector is taken from passes the
plugin's check for every image and journal when the pairing check accepts every proof. -/
theorem groth16Environment_verify_encode {sha256 : Bytes → Bytes32}
    {verifier : RiscZeroGroth16Verifier} {verifierParametersDigest : Bytes32}
    (selected : verifier.selector = (verifierParametersDigest >>> 224).setWidth 32)
    (proof : Seal) (imageId journalDigest : Bytes32) :
    (groth16Environment sha256 (fun _ _ => true) verifier).verify testSettings.verifier
      (Groth16.encode verifierParametersDigest proof.abiEncode) imageId journalDigest = true := by
  have returned := (@_verifyIntegrity_encode (fun _ _ => true) verifier verifierParametersDigest
    selected proof ((ReceiptClaim.ok sha256 imageId journalDigest).digest sha256)).mpr rfl
  simp [groth16Environment, RiscZeroGroth16Verifier.verify, returned]

/-- The test deployment with a verifier deployed with a constant hash, whose pairing check
accepts every proof: Alice's vote with a seal the host encodes is counted, and every vote and
execution carries a proof. -/
theorem plugin_calls_carry_groth16_proofs_deployment :
    let verifier := RiscZeroGroth16Verifier.new (fun _ => 0) 0 0 0
    let environment := groth16Environment (fun _ => 0) (fun _ _ => true) verifier
    environment.RunsGroth16 testSettings.verifier (fun _ _ => true) verifier ∧
      (∃ initial created voted, initializePlugin testSettings = .ok initial ∧
        createProposal environment creationBlock proposalCreator initial [] [] 0 0 0 =
          .ok (0, created) ∧
        vote environment created (encodeVotingJournal (proposalJournal alice 10 2))
          (Groth16.encode 0 (Seal.abiEncode ⟨#v[1, 2], #v[#v[3, 4], #v[5, 6]], #v[7, 8]⟩)) =
          .ok voted) ∧
      (∀ (state next : PluginState) (journalData sealData : Bytes) (journal : VotingJournal),
        decodeVotingJournal journalData = some journal →
        (state.proposals journal.proposalId).parameters.verifier = testSettings.verifier →
        vote environment state journalData sealData = .ok next →
        sealData.take 4 = toBytesBE 4 verifier.selector.toNat ∧
          ∃ proof, decodeSeal (sealData.drop 4) = some proof ∧
            (fun _ _ => true : Seal → Vector Uint256 5 → Bool) proof (verifier.publicSignals
              ((ReceiptClaim.ok environment.sha256
                  (state.proposals journal.proposalId).parameters.votingProtocolImageId
                  (environment.sha256 journalData)).digest environment.sha256)) = true) ∧
      ∀ (block : BlockContext) (state next : PluginState) (journalData sealData : Bytes)
        (proposalId : Uint256),
        (state.proposals proposalId).parameters.verifier = testSettings.verifier →
        execute environment block state journalData sealData = .ok (proposalId, next) →
        sealData.take 4 = toBytesBE 4 verifier.selector.toNat ∧
          ∃ proof, decodeSeal (sealData.drop 4) = some proof ∧
            (fun _ _ => true : Seal → Vector Uint256 5 → Bool) proof (verifier.publicSignals
              ((ReceiptClaim.ok environment.sha256
                  (state.proposals proposalId).parameters.executionProtocolImageId
                  (environment.sha256 journalData)).digest environment.sha256)) = true := by
  intro verifier environment
  have runs := groth16Environment_runsGroth16 (fun _ => 0) (fun _ _ => true) verifier
  exact ⟨runs, ⟨_, _, _, rfl, rfl, vote_eq_ok_of_checks (decodeVotingJournal_encodeVotingJournal _)
      rfl rfl (groth16Environment_verify_encode rfl _ 1 _) rfl rfl rfl⟩,
    plugin_calls_carry_groth16_proofs environment testSettings.verifier (fun _ _ => true) verifier
      runs⟩

end ZkGovernance
