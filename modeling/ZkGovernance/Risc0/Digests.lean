import ZkGovernance.Risc0.Groth16
import ZkGovernance.Risc0.StructHash

/-!
# RISC Zero's digests as tagged structs

`IRiscZeroVerifier.sol` computes the digests of `Output`, `ReceiptClaim` and
`SystemState` with the packing of `StructHash.taggedStruct` written out by
hand, and the constructor of `RiscZeroGroth16Verifier` does the same for its
parameters: the tag, the fields, the data, then `uint16(n) << 8` for the
count. That count is the little-endian count `taggedStruct` appends, and the
data, exit codes shifted by 24 bits or a `pc` passed through
`reverseByteOrderUint32`, is the little-endian encoding of 32-bit values. Each
digest is the tagged struct digest of its fields
(`digests_are_tagged_structs`), and so binds them up to a collision of
`sha256` at the two packed messages (`ReceiptClaim.digest_binds`). Every
collision below is named at messages the two computations hashed
(`Output.message`, `ReceiptClaim.message`, `verifierKeyMessages`).

The plugin asks its verifier about the claim `ReceiptClaimLib.ok(imageId,
sha256(journal))`, whose digest passes through three hashes: the journal's,
the output's and the claim's. Each binds what it hashes, so the Groth16 public
signals of the claim, which determine its digest, determine the image and the
journal bytes up to a collision of `sha256` between those messages
(`groth16_signals_bind_image_and_journal`).

`verifier_key_digest` hashes the verification key the same way: the digests of
its points `alpha`, `beta`, `gamma` and `delta`, and the tagged list of the
digests of its points `IC`. The verifier parameters' digest, whose first four
bytes are the `SELECTOR`, binds the control root, the BN254 control id and the
whole key, up to a collision between messages hashed for the two digests or a
message hashed for a key whose digest is zero, the digest an empty list ends in
(`parametersDigest_binds_key`).
-/

namespace ZkGovernance

open Abi Hashing

namespace Risc0

/-! ## Little-endian fields -/

/-- `reverseByteOrderUint32` of `Util.sol`: swap bytes, then the two 2-byte halves. -/
def reverseByteOrderUint32 (input : Uint32) : Uint32 :=
  let v := input
  -- swap bytes
  let v := ((v &&& 0xFF00FF00) >>> 8) ||| ((v &&& 0x00FF00FF) <<< 8)
  -- swap 2-byte long pairs
  (v >>> 16) ||| (v <<< 16)

theorem swapsBytes32 : SwapsBlocks (0xFF00FF00 : Uint32) 0x00FF00FF 8 := by
  decide +kernel

/-- Bit `i` of the result is bit `i % 8` of byte `3 - i / 8` of the input. -/
theorem getLsbD_reverseByteOrderUint32 (v : Uint32) {i : Nat} (lt : i < 32) :
    (reverseByteOrderUint32 v).getLsbD i = v.getLsbD ((3 - i / 8) * 8 + i % 8) := by
  have halves : (if i < 16 then i + 16 else i - 16) < 32 := by
    split <;> omega
  -- the two stages' index maps compose to the four-byte reversal's
  have indexMap : ∀ i < 32, (if i < 16 then i + 16 else i - 16) ^^^ 8 = (3 - i / 8) * 8 + i % 8 := by
    decide
  dsimp only [reverseByteOrderUint32]
  rw [@getLsbD_swapHalves 16 _ _ lt, getLsbD_swapBlocks swapsBytes32 _ halves, indexMap i lt]

/-- The byte-reversed `uint32` encodes little-endian. -/
theorem toBytesBE_reverseByteOrderUint32 (v : Uint32) :
    toBytesBE 4 (reverseByteOrderUint32 v).toNat = (toBytesBE 4 v.toNat).reverse :=
  @toBytesBE_reverse_of_getLsbD 4 v _ fun _ lt => getLsbD_reverseByteOrderUint32 v lt

/-- `SystemState`: the program counter and the root of the memory's Merkle tree. -/
structure SystemState where
  pc : Uint32
  merkleRoot : Bytes32
  deriving DecidableEq, Repr

/-- `SystemStateLib.digest`. -/
def SystemState.digest (sha256 : Bytes → Bytes32) (state : SystemState) : Bytes32 :=
  sha256 (wordBytes (sha256 (utf8Bytes "risc0.SystemState")) ++ wordBytes state.merkleRoot ++
    toBytesBE 4 (reverseByteOrderUint32 state.pc).toNat ++ toBytesBE 2 (1 <<< 8))

/-! ## The hand-packed digests -/

section Digests

variable (sha256 : Bytes → Bytes32)

/-- The count written as `uint16(n) << 8` is `n` little-endian. -/
theorem toBytesBE_count {count : Nat} (small : count < 256) :
    toBytesBE 2 (count <<< 8) = (toBytesBE 2 count).reverse :=
  toBytesBE_shiftLeft 1 small

/-- An exit code written as `uint32(code) << 24` is the code as a little-endian `uint32`. -/
theorem toBytesBE_exitCode {code : Nat} (small : code < 256) :
    toBytesBE 4 (code <<< 24) = (toBytesBE 4 code).reverse :=
  toBytesBE_shiftLeft 3 small

theorem Output.digest_eq_taggedStruct (output : Output) :
    StructHash.taggedStruct sha256 (sha256 (utf8Bytes "risc0.Output"))
      [output.journalDigest, output.assumptionsDigest] [] = some (output.digest sha256) := by
  rw [StructHash.taggedStruct_eq_some sha256 [] (by simp), Output.digest,
    StructHash.taggedStructMessage, List.length_cons, List.length_singleton,
    ← toBytesBE_count (by norm_num)]
  simp

/-- A system exit code fits its `uint8`. -/
theorem SystemExitCode.toNat_lt (code : SystemExitCode) : code.toNat < 256 := by
  cases code <;> decide

theorem ReceiptClaim.digest_eq_taggedStruct (claim : ReceiptClaim) :
    StructHash.taggedStruct sha256 (sha256 (utf8Bytes "risc0.ReceiptClaim"))
      [claim.input, claim.preStateDigest, claim.postStateDigest, claim.output]
      ((toBytesBE 4 claim.exitCode.system.toNat).reverse ++
        (toBytesBE 4 claim.exitCode.user.toNat).reverse) = some (claim.digest sha256) := by
  rw [StructHash.taggedStruct_eq_some sha256 _ (by simp), ReceiptClaim.digest,
    StructHash.taggedStructMessage, ← toBytesBE_exitCode claim.exitCode.system.toNat_lt,
    ← toBytesBE_exitCode claim.exitCode.user.isLt, ← toBytesBE_count (by simp)]
  simp

theorem SystemState.digest_eq_taggedStruct (state : SystemState) :
    StructHash.taggedStruct sha256 (sha256 (utf8Bytes "risc0.SystemState")) [state.merkleRoot]
      (toBytesBE 4 state.pc.toNat).reverse = some (state.digest sha256) := by
  rw [StructHash.taggedStruct_eq_some sha256 _ (by simp), SystemState.digest,
    StructHash.taggedStructMessage, ← toBytesBE_reverseByteOrderUint32,
    ← toBytesBE_count (by simp)]
  simp

/-- `IRiscZeroVerifier.sol`'s digests of outputs, receipt claims and system states, and the
digest of the verifier parameters that `RiscZeroGroth16Verifier`'s constructor takes its selector
from, are `StructHash.taggedStruct` of the struct's digest fields, with the 32-bit exit codes and
program counter as little-endian data. -/
theorem digests_are_tagged_structs :
    (∀ output : Output,
      StructHash.taggedStruct sha256 (sha256 (utf8Bytes "risc0.Output"))
        [output.journalDigest, output.assumptionsDigest] [] = some (output.digest sha256)) ∧
    (∀ claim : ReceiptClaim,
      StructHash.taggedStruct sha256 (sha256 (utf8Bytes "risc0.ReceiptClaim"))
        [claim.input, claim.preStateDigest, claim.postStateDigest, claim.output]
        ((toBytesBE 4 claim.exitCode.system.toNat).reverse ++
          (toBytesBE 4 claim.exitCode.user.toNat).reverse) = some (claim.digest sha256)) ∧
    (∀ state : SystemState,
      StructHash.taggedStruct sha256 (sha256 (utf8Bytes "risc0.SystemState")) [state.merkleRoot]
        (toBytesBE 4 state.pc.toNat).reverse = some (state.digest sha256)) ∧
    ∀ verifierKeyDigest controlRoot bn254ControlId : Bytes32,
      ∃ parametersDigest,
        StructHash.taggedStruct sha256
            (sha256 (utf8Bytes "risc0.Groth16ReceiptVerifierParameters"))
            [controlRoot, reverseByteOrderUint256 bn254ControlId, verifierKeyDigest] [] =
          some parametersDigest ∧
        (RiscZeroGroth16Verifier.new sha256 verifierKeyDigest controlRoot bn254ControlId).selector =
          (parametersDigest >>> 224).setWidth 32 := by
  refine ⟨Output.digest_eq_taggedStruct sha256, ReceiptClaim.digest_eq_taggedStruct sha256,
    SystemState.digest_eq_taggedStruct sha256, fun verifierKeyDigest controlRoot bn254ControlId =>
      ⟨_, ?_, rfl⟩⟩
  rw [StructHash.taggedStruct_eq_some sha256 _ (by simp), StructHash.taggedStructMessage,
    ← toBytesBE_count (by simp)]
  simp

/-! ## Binding -/

/-- The enum's values are told apart by their `uint8`. -/
theorem SystemExitCode.toNat_injective : Function.Injective SystemExitCode.toNat := by
  intro first second same
  cases first <;> cases second <;> first | rfl | exact absurd same (by decide)

/-- The message `Output.digest` hashes, as a tagged struct packs it. -/
def Output.message (output : Output) : Bytes :=
  StructHash.taggedStructMessage (sha256 (utf8Bytes "risc0.Output"))
    [output.journalDigest, output.assumptionsDigest] []

/-- The message `ReceiptClaim.digest` hashes, as a tagged struct packs it. -/
def ReceiptClaim.message (claim : ReceiptClaim) : Bytes :=
  StructHash.taggedStructMessage (sha256 (utf8Bytes "risc0.ReceiptClaim"))
    [claim.input, claim.preStateDigest, claim.postStateDigest, claim.output]
    ((toBytesBE 4 claim.exitCode.system.toNat).reverse ++
      (toBytesBE 4 claim.exitCode.user.toNat).reverse)

/-- The messages hashed to build the claim `ReceiptClaimLib.ok(imageId, journalDigest)`: the
claim's and its output's. -/
def ReceiptClaim.okMessages (imageId journalDigest : Bytes32) : List Bytes :=
  [(ReceiptClaim.ok sha256 imageId journalDigest).message sha256,
    Output.message sha256 { journalDigest, assumptionsDigest := 0 }]

/-- Two outputs with one digest are equal, or their messages collide under `sha256`. -/
theorem Output.digest_binds {output other : Output}
    (same : output.digest sha256 = other.digest sha256) :
    output = other ∨ CollidesAt sha256 (output.message sha256) (other.message sha256) := by
  rcases StructHash.taggedStruct_binds sha256 (Output.digest_eq_taggedStruct sha256 output)
      ((Output.digest_eq_taggedStruct sha256 other).trans (congrArg some same.symm)) with
    parts | collision
  · left
    obtain ⟨journalDigest, assumptionsDigest⟩ := output
    obtain ⟨otherJournalDigest, otherAssumptionsDigest⟩ := other
    simpa using parts
  · exact .inr collision

/-- Two receipt claims with one digest are equal, or their messages collide under `sha256`: the
digest's fields give the four digests back, and its data the two exit codes. -/
theorem ReceiptClaim.digest_binds {claim other : ReceiptClaim}
    (same : claim.digest sha256 = other.digest sha256) :
    claim = other ∨ CollidesAt sha256 (claim.message sha256) (other.message sha256) := by
  rcases StructHash.taggedStruct_binds sha256 (ReceiptClaim.digest_eq_taggedStruct sha256 claim)
      ((ReceiptClaim.digest_eq_taggedStruct sha256 other).trans (congrArg some same.symm)) with
    parts | collision
  · left
    obtain ⟨pre, post, ⟨system, user⟩, input, output⟩ := claim
    obtain ⟨otherPre, otherPost, ⟨otherSystem, otherUser⟩, otherInput, otherOutput⟩ := other
    simp only [Prod.mk.injEq, List.cons.injEq, and_true, true_and] at parts
    obtain ⟨⟨sameInput, samePre, samePost, sameOutput⟩, codes⟩ := parts
    -- each exit code is read back from its four little-endian bytes
    obtain ⟨systemBytes, userBytes⟩ := List.append_inj codes (by simp)
    have systemBound : ∀ code : SystemExitCode, code.toNat < 256 ^ 4 := fun code =>
      lt_trans code.toNat_lt (by norm_num)
    have sameSystem : system = otherSystem :=
      SystemExitCode.toNat_injective (toBytesBE_injective (systemBound _) (systemBound _)
        (List.reverse_inj.mp systemBytes))
    have sameUser : user = otherUser :=
      BitVec.eq_of_toNat_eq (toBytesBE_injective (by have := user.isLt; omega)
        (by have := otherUser.isLt; omega) (List.reverse_inj.mp userBytes))
    subst sameInput samePre samePost sameOutput sameSystem sameUser
    rfl
  · exact .inr collision

/-- The claims `ReceiptClaimLib.ok` builds have one digest only for one image and one journal
digest, or a message hashed for one claim collides with one hashed for the other. -/
theorem ReceiptClaim.ok_digest_binds {imageId otherImageId journalDigest otherJournalDigest : Bytes32}
    (same : (ReceiptClaim.ok sha256 imageId journalDigest).digest sha256 =
      (ReceiptClaim.ok sha256 otherImageId otherJournalDigest).digest sha256) :
    (imageId = otherImageId ∧ journalDigest = otherJournalDigest) ∨
      CollidesIn sha256 (ReceiptClaim.okMessages sha256 imageId journalDigest)
        (ReceiptClaim.okMessages sha256 otherImageId otherJournalDigest) := by
  rcases ReceiptClaim.digest_binds sha256 same with claims | collision
  · have images : imageId = otherImageId := congrArg ReceiptClaim.preStateDigest claims
    -- the claims' outputs are the digests of the journal digests' outputs
    rcases Output.digest_binds sha256 (congrArg ReceiptClaim.output claims) with outputs | collision
    · exact .inl ⟨images, congrArg Output.journalDigest outputs⟩
    · exact .inr (collision.collidesIn (by simp [ReceiptClaim.okMessages])
        (by simp [ReceiptClaim.okMessages]))
  · exact .inr (collision.collidesIn (by simp [ReceiptClaim.okMessages])
      (by simp [ReceiptClaim.okMessages]))

/-- The public signals a Groth16 verifier checks for the plugin's call about an image and a
journal determine the image and the journal's bytes, up to a collision under `sha256` between
the messages hashed for the two calls: the claims', the outputs' and the journals themselves.
A proof that
the pairing check accepts for one vote or execution is a proof about that image and journal
only. -/
theorem groth16_signals_bind_image_and_journal (verifier : RiscZeroGroth16Verifier)
    {imageId otherImageId : Bytes32} {journalData otherJournalData : Bytes}
    (same : verifier.publicSignals
        ((ReceiptClaim.ok sha256 imageId (sha256 journalData)).digest sha256) =
      verifier.publicSignals
        ((ReceiptClaim.ok sha256 otherImageId (sha256 otherJournalData)).digest sha256)) :
    (imageId = otherImageId ∧ journalData = otherJournalData) ∨
      CollidesIn sha256 (ReceiptClaim.okMessages sha256 imageId (sha256 journalData) ++ [journalData])
        (ReceiptClaim.okMessages sha256 otherImageId (sha256 otherJournalData) ++
          [otherJournalData]) := by
  rcases ReceiptClaim.ok_digest_binds sha256 (verifier.publicSignals_injective same) with
    ⟨images, journalDigests⟩ | collision
  · rcases eq_or_collidesAt sha256 journalDigests with journals | collision
    · exact .inl ⟨images, journals⟩
    · exact .inr (collision.collidesIn (by simp) (by simp))
  · exact .inr (collision.mono (List.subset_append_left _ _) (List.subset_append_left _ _))

/-- A verifier deployed with a constant hash, asked twice about the empty journal of image `0`. -/
theorem groth16_signals_bind_image_and_journal_sample :
    (RiscZeroGroth16Verifier.new (fun _ => 0) 0 0 0).publicSignals
        ((ReceiptClaim.ok (fun _ => 0) 0 ((fun _ => 0 : Bytes → Bytes32) [])).digest
          (fun _ => 0)) =
      (RiscZeroGroth16Verifier.new (fun _ => 0) 0 0 0).publicSignals
        ((ReceiptClaim.ok (fun _ => 0) 0 ((fun _ => 0 : Bytes → Bytes32) [])).digest
          (fun _ => 0)) ∧
      (((0 : Bytes32) = 0 ∧ ([] : Bytes) = []) ∨
        CollidesIn (fun _ : Bytes => (0 : Bytes32))
          (ReceiptClaim.okMessages (fun _ => 0) 0 0 ++ [[]])
          (ReceiptClaim.okMessages (fun _ => 0) 0 0 ++ [[]])) :=
  ⟨rfl, groth16_signals_bind_image_and_journal (fun _ => 0)
    (RiscZeroGroth16Verifier.new (fun _ => 0) 0 0 0) rfl⟩

end Digests

/-! ## The verification key and the verifier parameters -/

/-- The verification key `Groth16Verifier.sol` holds as constants and `verifier_key_digest`
hashes: the G1 point `alpha`, the G2 points `beta`, `gamma` and `delta` by their four coordinate
words, and the G1 points `IC`. -/
@[ext] structure VerifyingKey where
  alpha : Vector Uint256 2
  beta : Vector Uint256 4
  gamma : Vector Uint256 4
  delta : Vector Uint256 4
  ic : List (Vector Uint256 2)
  deriving DecidableEq, Repr

/-- `abi.encodePacked` of a point's coordinate words. -/
def encodePoint {n : Nat} (point : Vector Uint256 n) : Bytes :=
  point.toList.flatMap wordBytes

theorem encodePoint_injective {n : Nat} : Function.Injective (@encodePoint n) :=
  fun _ _ same => Vector.toList_inj.mp (flatMap_wordBytes_injective same)

section Parameters

variable (sha256 : Bytes → Bytes32)

/-- `verifier_key_digest()`: the digests of `alpha`, `beta`, `gamma` and `delta`, and the tagged
list of the digests of the points `IC`, packed as a tagged struct by hand. -/
def verifierKeyDigest (key : VerifyingKey) : Option Bytes32 := do
  let icDigests := key.ic.map fun point => sha256 (encodePoint point)
  let icList ← StructHash.taggedList sha256 (sha256 (utf8Bytes "risc0_groth16.VerifyingKey.IC"))
    icDigests
  pure (sha256 (wordBytes (sha256 (utf8Bytes "risc0_groth16.VerifyingKey")) ++
    wordBytes (sha256 (encodePoint key.alpha)) ++ wordBytes (sha256 (encodePoint key.beta)) ++
    wordBytes (sha256 (encodePoint key.gamma)) ++ wordBytes (sha256 (encodePoint key.delta)) ++
    wordBytes icList ++ toBytesBE 2 (5 <<< 8)))

/-- The digest of the verifier parameters that the constructor of `RiscZeroGroth16Verifier` cuts
its `SELECTOR` from. -/
def parametersDigest (keyDigest controlRoot bn254ControlId : Bytes32) : Bytes32 :=
  sha256 (wordBytes (sha256 (utf8Bytes "risc0.Groth16ReceiptVerifierParameters")) ++
    wordBytes controlRoot ++ wordBytes (reverseByteOrderUint256 bn254ControlId) ++
    wordBytes keyDigest ++ toBytesBE 2 (3 <<< 8))

theorem selector_new (keyDigest controlRoot bn254ControlId : Bytes32) :
    (RiscZeroGroth16Verifier.new sha256 keyDigest controlRoot bn254ControlId).selector =
      (parametersDigest sha256 keyDigest controlRoot bn254ControlId >>> 224).setWidth 32 :=
  rfl

theorem parametersDigest_eq_taggedStruct (keyDigest controlRoot bn254ControlId : Bytes32) :
    StructHash.taggedStruct sha256 (sha256 (utf8Bytes "risc0.Groth16ReceiptVerifierParameters"))
      [controlRoot, reverseByteOrderUint256 bn254ControlId, keyDigest] [] =
      some (parametersDigest sha256 keyDigest controlRoot bn254ControlId) := by
  rw [StructHash.taggedStruct_eq_some sha256 _ (by simp), parametersDigest,
    StructHash.taggedStructMessage, ← toBytesBE_count (by simp)]
  simp

/-- With the digest of its `IC` list, the key digest is the tagged struct of its five fields. -/
theorem verifierKeyDigest_eq_taggedStruct {key : VerifyingKey} {icList : Bytes32}
    (listed : StructHash.taggedList sha256 (sha256 (utf8Bytes "risc0_groth16.VerifyingKey.IC"))
      (key.ic.map fun point => sha256 (encodePoint point)) = some icList) :
    verifierKeyDigest sha256 key =
      StructHash.taggedStruct sha256 (sha256 (utf8Bytes "risc0_groth16.VerifyingKey"))
        [sha256 (encodePoint key.alpha), sha256 (encodePoint key.beta),
          sha256 (encodePoint key.gamma), sha256 (encodePoint key.delta), icList] [] := by
  rw [StructHash.taggedStruct_eq_some sha256 _ (by simp), StructHash.taggedStructMessage,
    ← toBytesBE_count (by simp)]
  simp [verifierKeyDigest, listed]

/-- The message `verifier_key_digest()` hashes last: the tag, the digests of the four points and
of the `IC` list, and the field count. -/
def verifierKeyMessage (key : VerifyingKey) : Bytes :=
  StructHash.taggedStructMessage (sha256 (utf8Bytes "risc0_groth16.VerifyingKey"))
    [sha256 (encodePoint key.alpha), sha256 (encodePoint key.beta),
      sha256 (encodePoint key.gamma), sha256 (encodePoint key.delta),
      chain sha256 (StructHash.taggedListLink (sha256 (utf8Bytes "risc0_groth16.VerifyingKey.IC")))
        0 (key.ic.map fun point => sha256 (encodePoint point))] []

/-- Every message `verifier_key_digest()` hashes besides the tags: the key's own, the four
points', the links of the `IC` list and the `IC` points'. -/
def verifierKeyMessages (key : VerifyingKey) : List Bytes :=
  verifierKeyMessage sha256 key ::
    [encodePoint key.alpha, encodePoint key.beta, encodePoint key.gamma, encodePoint key.delta] ++
    StructHash.taggedListMessages sha256 (sha256 (utf8Bytes "risc0_groth16.VerifyingKey.IC"))
      (key.ic.map fun point => sha256 (encodePoint point)) ++
    key.ic.map encodePoint

/-- The message `parametersDigest` hashes. -/
def parametersMessage (keyDigest controlRoot bn254ControlId : Bytes32) : Bytes :=
  StructHash.taggedStructMessage (sha256 (utf8Bytes "risc0.Groth16ReceiptVerifierParameters"))
    [controlRoot, reverseByteOrderUint256 bn254ControlId, keyDigest] []

/-- The links of a key's `IC` list are among the messages its digest hashes. -/
theorem taggedListMessages_subset_verifierKeyMessages (key : VerifyingKey) :
    StructHash.taggedListMessages sha256 (sha256 (utf8Bytes "risc0_groth16.VerifyingKey.IC"))
      (key.ic.map fun point => sha256 (encodePoint point)) ⊆ verifierKeyMessages sha256 key := by
  intro message member
  simp [verifierKeyMessages, member]

/-- The encodings of a key's `IC` points are among the messages its digest hashes. -/
theorem map_encodePoint_subset_verifierKeyMessages (key : VerifyingKey) :
    key.ic.map encodePoint ⊆ verifierKeyMessages sha256 key := by
  intro message member
  simp [verifierKeyMessages, member]

/-- Two keys with one digest are equal, or a message hashed for one collides under `sha256` with
one hashed for the other, or a message hashed for one of them hashes to zero, the digest of the
empty list. -/
theorem verifierKeyDigest_binds {key otherKey : VerifyingKey} {digest : Bytes32}
    (first : verifierKeyDigest sha256 key = some digest)
    (second : verifierKeyDigest sha256 otherKey = some digest) :
    key = otherKey ∨
      CollidesIn sha256 (verifierKeyMessages sha256 key) (verifierKeyMessages sha256 otherKey) ∨
      ∃ message ∈ verifierKeyMessages sha256 key ++ verifierKeyMessages sha256 otherKey,
        sha256 message = 0 := by
  refine or_iff_not_imp_right.mpr fun escape => ?_
  have noCollision : ¬ CollidesIn sha256 (verifierKeyMessages sha256 key)
      (verifierKeyMessages sha256 otherKey) := fun collision => escape (.inl collision)
  -- the `IC` lists always hash, to the chains of their points' digests
  have listed := StructHash.taggedList_eq_chain sha256
    (sha256 (utf8Bytes "risc0_groth16.VerifyingKey.IC")) (key.ic.map fun point => sha256 (encodePoint point))
  have otherListed := StructHash.taggedList_eq_chain sha256
    (sha256 (utf8Bytes "risc0_groth16.VerifyingKey.IC"))
    (otherKey.ic.map fun point => sha256 (encodePoint point))
  rw [verifierKeyDigest_eq_taggedStruct sha256 listed] at first
  rw [verifierKeyDigest_eq_taggedStruct sha256 otherListed] at second
  have fields := (StructHash.taggedStruct_binds sha256 first second).resolve_right fun collision =>
    noCollision (collision.collidesIn List.mem_cons_self List.mem_cons_self)
  simp only [Prod.mk.injEq, List.cons.injEq, true_and, and_true] at fields
  obtain ⟨alpha, beta, gamma, delta, icChains⟩ := fields
  -- each field's digest binds the field, and the `IC` list's digest the list of points
  have point : ∀ {n} {first second : Vector Uint256 n},
      encodePoint first ∈ verifierKeyMessages sha256 key →
      encodePoint second ∈ verifierKeyMessages sha256 otherKey →
      sha256 (encodePoint first) = sha256 (encodePoint second) → first = second :=
    fun firstMember secondMember same =>
      (eq_or_collidesAt_of_injective sha256 encodePoint_injective same).resolve_right fun collision =>
        noCollision (collision.collidesIn firstMember secondMember)
  have icDigests := (StructHash.taggedList_binds sha256 listed
    (otherListed.trans (congrArg some icChains.symm))).resolve_right (not_or.mpr
      ⟨fun collision => noCollision (collision.mono
          (taggedListMessages_subset_verifierKeyMessages sha256 key)
          (taggedListMessages_subset_verifierKeyMessages sha256 otherKey)),
        fun ⟨message, member, hit⟩ => escape (.inr ⟨message,
          List.append_subset.mpr
            ⟨List.Subset.trans (taggedListMessages_subset_verifierKeyMessages sha256 key)
                (List.subset_append_left _ _),
              List.Subset.trans (taggedListMessages_subset_verifierKeyMessages sha256 otherKey)
                (List.subset_append_right _ _)⟩ member, hit⟩)⟩)
  have ic := (map_eq_or_collision sha256 encodePoint_injective icDigests).resolve_right
    fun collision => noCollision (collision.mono
      (map_encodePoint_subset_verifierKeyMessages sha256 key)
      (map_encodePoint_subset_verifierKeyMessages sha256 otherKey))
  exact VerifyingKey.ext (point (by simp [verifierKeyMessages]) (by simp [verifierKeyMessages]) alpha)
    (point (by simp [verifierKeyMessages]) (by simp [verifierKeyMessages]) beta)
    (point (by simp [verifierKeyMessages]) (by simp [verifierKeyMessages]) gamma)
    (point (by simp [verifierKeyMessages]) (by simp [verifierKeyMessages]) delta) ic

/-- The digest that the selector of a `RiscZeroGroth16Verifier` is cut from binds the control
root, the BN254 control id and the whole verification key, up to a collision under `sha256`
between the messages hashed for the two parameters digests, or a message hashed for one of the
keys that hashes to zero: one parameters digest names one verifier. -/
theorem parametersDigest_binds_key {key otherKey : VerifyingKey}
    {keyDigest otherKeyDigest controlRoot otherControlRoot bn254ControlId
      otherBn254ControlId : Bytes32}
    (hashed : verifierKeyDigest sha256 key = some keyDigest)
    (otherHashed : verifierKeyDigest sha256 otherKey = some otherKeyDigest)
    (same : parametersDigest sha256 keyDigest controlRoot bn254ControlId =
      parametersDigest sha256 otherKeyDigest otherControlRoot otherBn254ControlId) :
    (controlRoot = otherControlRoot ∧ bn254ControlId = otherBn254ControlId ∧ key = otherKey) ∨
      CollidesIn sha256
        (parametersMessage sha256 keyDigest controlRoot bn254ControlId ::
          verifierKeyMessages sha256 key)
        (parametersMessage sha256 otherKeyDigest otherControlRoot otherBn254ControlId ::
          verifierKeyMessages sha256 otherKey) ∨
      ∃ message ∈ verifierKeyMessages sha256 key ++ verifierKeyMessages sha256 otherKey,
        sha256 message = 0 := by
  rcases StructHash.taggedStruct_binds sha256
      (parametersDigest_eq_taggedStruct sha256 keyDigest controlRoot bn254ControlId)
      ((parametersDigest_eq_taggedStruct sha256 _ _ _).trans (congrArg some same.symm)) with
    fields | collision
  · simp only [Prod.mk.injEq, List.cons.injEq, true_and, and_true] at fields
    obtain ⟨roots, ids, keyDigests⟩ := fields
    subst keyDigests
    -- the parameters agree on the key digest, which binds the key
    rcases verifierKeyDigest_binds sha256 hashed otherHashed with keys | collision | hit
    · exact .inl ⟨roots, reverseByteOrderUint256_injective ids, keys⟩
    · exact .inr (.inl (collision.mono (List.subset_cons_self _ _) (List.subset_cons_self _ _)))
    · exact .inr (.inr hit)
  · exact .inr (.inl (collision.collidesIn List.mem_cons_self List.mem_cons_self))

/-- Under a constant hash, a key with no points `IC`, asked about twice. -/
theorem parametersDigest_binds_key_constant :
    verifierKeyDigest (fun _ => 0) ⟨#v[0, 0], #v[0, 0, 0, 0], #v[0, 0, 0, 0], #v[0, 0, 0, 0], []⟩ =
        some 0 ∧
      parametersDigest (fun _ => 0) 0 0 0 = parametersDigest (fun _ => 0) 0 0 0 ∧
      (((0 : Bytes32) = 0 ∧ (0 : Bytes32) = 0 ∧
          (⟨#v[0, 0], #v[0, 0, 0, 0], #v[0, 0, 0, 0], #v[0, 0, 0, 0], []⟩ : VerifyingKey) =
            ⟨#v[0, 0], #v[0, 0, 0, 0], #v[0, 0, 0, 0], #v[0, 0, 0, 0], []⟩) ∨
        CollidesIn (fun _ : Bytes => (0 : Bytes32))
          (parametersMessage (fun _ => 0) 0 0 0 ::
            verifierKeyMessages (fun _ => 0)
              ⟨#v[0, 0], #v[0, 0, 0, 0], #v[0, 0, 0, 0], #v[0, 0, 0, 0], []⟩)
          (parametersMessage (fun _ => 0) 0 0 0 ::
            verifierKeyMessages (fun _ => 0)
              ⟨#v[0, 0], #v[0, 0, 0, 0], #v[0, 0, 0, 0], #v[0, 0, 0, 0], []⟩) ∨
        ∃ message ∈ verifierKeyMessages (fun _ => 0)
              ⟨#v[0, 0], #v[0, 0, 0, 0], #v[0, 0, 0, 0], #v[0, 0, 0, 0], []⟩ ++
            verifierKeyMessages (fun _ => 0)
              ⟨#v[0, 0], #v[0, 0, 0, 0], #v[0, 0, 0, 0], #v[0, 0, 0, 0], []⟩,
          (fun _ : Bytes => (0 : Bytes32)) message = 0) :=
  ⟨rfl, rfl, parametersDigest_binds_key (fun _ => 0) rfl rfl rfl⟩

end Parameters

end Risc0

end ZkGovernance
