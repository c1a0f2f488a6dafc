import ZkGovernance.Plugin.Journal
import ZkGovernance.Risc0.MockVerifier

/-!
# The test deployment

`RiscVotingProtocolPluginSetup.prepareInstallation` grants the plugin's
permissions: settings updates to the DAO and proposal creation to one fixed
account. `tests/tests/integration_tests.rs` deploys the plugin with the
repository's mock verifier, selector `0`, and its own voting settings. The
runs of `ZkGovernance.Plugin.Calls` and `ZkGovernance.Plugin.Voting` take place
in this deployment; the hash functions stay parameters.
-/

namespace ZkGovernance

open Abi Risc0

/-- The account `RiscVotingProtocolPluginSetup.prepareInstallation` grants
`CREATE_PROPOSAL_PERMISSION_ID` on the plugin. -/
def proposalCreator : Address := 0x8bF1e340055c7dE62F11229A149d3A1918de3d74

/-- The permissions `prepareInstallation` grants on the plugin: settings updates to the DAO,
proposal creation to `proposalCreator`. -/
def setupPermissions (dao who : Address) : Permission → Bool
  | .updateVotingSettings => who == dao
  | .createProposal => who == proposalCreator

/-- The plugin's address in the runs below. -/
def pluginAddress : Address := 0x1000

/-- The DAO's address in the runs below. -/
def daoAddress : Address := 0xda0

/-- Where the mock verifier is deployed in the runs below. -/
def mockVerifierAddress : Address := 0x5e41

/-- A voter. -/
def alice : Address := 0xa11ce

/-- The settings of the integration test, with the mock verifier and two image ids. -/
def testSettings : VotingSettings where
  votingMode := .standard
  supportThreshold := 20
  minParticipation := 10
  minDuration := 3600
  minProposerVotingPower := 0
  votingProtocolConfig := "config"
  verifier := mockVerifierAddress
  votingProtocolImageId := 1
  executionProtocolImageId := 2

/-- The proposal ids of the runs below: the number of proposals created before. -/
def countProposalId (count : Nat) : Uint256 :=
  BitVec.ofNat 256 count

/-- The plugin's environment in the test deployment: the mock verifier with selector `0` at
`mockVerifierAddress`, and no code at any other address. -/
def mockEnvironment (sha256 keccak256 : Bytes → Bytes32) : Environment where
  self := pluginAddress
  dao := daoAddress
  isGranted := setupPermissions daoAddress
  verify verifier sealData imageId journalDigest :=
    verifier == mockVerifierAddress &&
      RiscZeroMockVerifier.verify 0 sha256 keccak256 sealData imageId journalDigest
  sha256 := sha256
  createProposalId := countProposalId

/-- The seal `mockProve` gives for a journal and an image. -/
def mockSeal (sha256 : Bytes → Bytes32) (imageId : Bytes32) (journalData : Bytes) : Bytes :=
  RiscZeroMockVerifier.mockProve 0
    ((ReceiptClaim.ok sha256 imageId (sha256 journalData)).digest sha256)

/-- The deployment accepts the mock seal of every journal for every image. -/
theorem mockEnvironment_verify_mockSeal (sha256 keccak256 : Bytes → Bytes32) (imageId : Bytes32)
    (journalData : Bytes) :
    (mockEnvironment sha256 keccak256).verify mockVerifierAddress
      (mockSeal sha256 imageId journalData) imageId
      ((mockEnvironment sha256 keccak256).sha256 journalData) = true := by
  simp only [mockEnvironment, beq_self_eq_true, Bool.true_and, mockSeal]
  exact RiscZeroMockVerifier.verify_mockProve 0 sha256 keccak256 imageId (sha256 journalData)

/-- The block of the proposal's creation: block `33`, whose parent has hash `0xb10c`. -/
def creationBlock : BlockContext where
  number := 33
  timestamp := 1000
  blockhash number := if number = 32 then 0xb10c else 0

/-- A journal for proposal `0` with the commitment `vote` accepts for it. -/
def proposalJournal (voter : Address) (balance : Uint256) (direction : Uint8) : VotingJournal where
  commitment := { id := 32, digest := 0xb10c, configID := 0 }
  configContract := pluginAddress
  proposalId := 0
  voter := voter
  balance := balance
  direction := direction

/-- A block after proposal `0`'s end date. -/
def executionBlock : BlockContext where
  number := 400
  timestamp := 5000
  blockhash _ := 0

end ZkGovernance
