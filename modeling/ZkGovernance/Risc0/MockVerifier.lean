import ZkGovernance.Plugin.Types

/-!
# Receipt claims and `RiscZeroMockVerifier`

`lib/risc0/IRiscZeroVerifier.sol` defines the claim a receipt proves: the
image id, the zero post-state, a halted exit code and the digest of an
`Output` holding the journal's digest. `ReceiptClaimLib.ok` builds it and
`digest` hashes it with `sha256` and a tag. `contracts/mocks/RiscZeroMockVerifier.sol`
is the verifier the repository's tests deploy: it accepts a seal that is its
four-byte selector followed by the claim's digest.

`sha256` (the precompile) and `keccak256` are parameters: nothing here depends
on what they compute, and `verify_mockProve` holds for every pair.
-/

namespace ZkGovernance

open Abi

namespace Risc0

/-- `SystemExitCode`. -/
inductive SystemExitCode where
  | halted
  | paused
  | systemSplit
  deriving DecidableEq, Repr

/-- The enum's value as `uint8`. -/
def SystemExitCode.toNat : SystemExitCode → Nat
  | .halted => 0
  | .paused => 1
  | .systemSplit => 2

/-- `ExitCode`. -/
structure ExitCode where
  system : SystemExitCode
  user : Uint8
  deriving DecidableEq, Repr

/-- `ReceiptClaim`. -/
structure ReceiptClaim where
  preStateDigest : Bytes32
  postStateDigest : Bytes32
  exitCode : ExitCode
  input : Bytes32
  output : Bytes32
  deriving DecidableEq, Repr

/-- `Output`. -/
structure Output where
  journalDigest : Bytes32
  assumptionsDigest : Bytes32
  deriving DecidableEq, Repr

/-- `SYSTEM_STATE_ZERO_DIGEST`. -/
def systemStateZeroDigest : Bytes32 :=
  0xa3acc27117418996340b84e5a90f3ef4c49d22c79e44aad822ec9c313e1eb8e2

section Digests

variable (sha256 : Bytes → Bytes32)

/-- `OutputLib.digest`. -/
def Output.digest (output : Output) : Bytes32 :=
  sha256 (wordBytes (sha256 (utf8Bytes "risc0.Output")) ++ wordBytes output.journalDigest ++
    wordBytes output.assumptionsDigest ++ toBytesBE 2 (2 <<< 8))

/-- `ReceiptClaimLib.ok(imageId, journalDigest)`: the claim of a run of `imageId` that halted
normally with a journal of digest `journalDigest`. -/
def ReceiptClaim.ok (imageId journalDigest : Bytes32) : ReceiptClaim where
  preStateDigest := imageId
  postStateDigest := systemStateZeroDigest
  exitCode := { system := .halted, user := 0 }
  input := 0
  output := Output.digest sha256 { journalDigest, assumptionsDigest := 0 }

/-- `ReceiptClaimLib.digest`. -/
def ReceiptClaim.digest (claim : ReceiptClaim) : Bytes32 :=
  sha256 (wordBytes (sha256 (utf8Bytes "risc0.ReceiptClaim")) ++ wordBytes claim.input ++
    wordBytes claim.preStateDigest ++ wordBytes claim.postStateDigest ++
    wordBytes claim.output ++ toBytesBE 4 (claim.exitCode.system.toNat <<< 24) ++
    toBytesBE 4 (claim.exitCode.user.toNat <<< 24) ++ toBytesBE 2 (4 <<< 8))

end Digests

namespace RiscZeroMockVerifier

variable (selector : BitVec 32) (sha256 keccak256 : Bytes → Bytes32)

/-- `_verifyIntegrity(seal, claimDigest)`: the seal must start with the selector (a seal
shorter than four bytes reverts on the slice) and the rest must hash like the claim digest. -/
def verifyIntegrity (sealData : Bytes) (claimDigest : Bytes32) : Bool :=
  decide (4 ≤ sealData.length) && sealData.take 4 == toBytesBE 4 selector.toNat &&
    keccak256 (sealData.drop 4) == keccak256 (wordBytes claimDigest)

/-- `verify(seal, imageId, journalDigest)`: holds when the call returns. -/
def verify (sealData : Bytes) (imageId journalDigest : Bytes32) : Bool :=
  verifyIntegrity selector keccak256 sealData
    ((ReceiptClaim.ok sha256 imageId journalDigest).digest sha256)

/-- The seal of `mockProve(claimDigest)`. -/
def mockProve (claimDigest : Bytes32) : Bytes :=
  toBytesBE 4 selector.toNat ++ wordBytes claimDigest

/-- The mock verifier accepts the seal `mockProve` builds for the claim of any image and
journal digest, whatever the two hash functions are. -/
theorem verify_mockProve (imageId journalDigest : Bytes32) :
    verify selector sha256 keccak256
      (mockProve selector ((ReceiptClaim.ok sha256 imageId journalDigest).digest sha256))
      imageId journalDigest = true := by
  have selectorLength : (toBytesBE 4 selector.toNat).length = 4 := length_toBytesBE 4 _
  simp [verify, verifyIntegrity, mockProve, selectorLength, List.take_left',
    List.drop_left']

end RiscZeroMockVerifier

end Risc0

end ZkGovernance
