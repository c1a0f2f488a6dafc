import ZkGovernance.Risc0.Verifiers
import ZkGovernance.Abi.ByteOrder

/-!
# `RiscZeroGroth16Verifier`

The verifier a production deployment registers with the router checks a seal
in two steps: the seal's first four bytes must be its `SELECTOR`, and the
Groth16 proof decoded from the rest must pass the pairing check
(`Groth16Verifier.verifyProof`, a parameter here) on five public inputs: the
two halves of the control root, the two halves of the claim digest and the
BN254 control id. Each digest is split by `splitDigest`, which reverses the
digest's bytes with `reverseByteOrderUint256` of `Util.sol` and cuts the
result into two 128-bit halves: as its documentation says, these are the two
halves of the digest, each with its bytes reversed
(`splitDigest_reverses_halves`).

`reverseByteOrderUint256` is a network of five mask-and-shift stages; byte `k`
of its result is byte `31 - k` of its input (`getLsbD_reverseByteOrderUint256`),
so it is an involution and `splitDigest` is injective. A seal passes exactly
when it is the selector followed by a proof that the pairing check accepts for
the claim's public inputs, and those inputs determine the claim digest
(`groth16_verifier_binds_claim`): a proof accepted for one claim is a proof
about that claim only. The host's `encode` of `groth16.rs` puts the first four
bytes of the verifier parameters' digest before the proof's ABI encoding; such
a seal decodes to the proof, and passes a verifier whose selector comes from the
same digest exactly when the pairing check accepts the proof
(`encoded_seal_verifies_iff`).
-/

namespace ZkGovernance

open Abi

namespace Risc0

/-! ## Byte order -/

/-- `reverseByteOrderUint256` of `Util.sol`: swap bytes, then 2-, 4-, 8- and 16-byte blocks. -/
def reverseByteOrderUint256 (input : Uint256) : Uint256 :=
  let v := input
  -- swap bytes
  let v := ((v &&& 0xFF00FF00FF00FF00FF00FF00FF00FF00FF00FF00FF00FF00FF00FF00FF00FF00) >>> 8) |||
    ((v &&& 0x00FF00FF00FF00FF00FF00FF00FF00FF00FF00FF00FF00FF00FF00FF00FF00FF) <<< 8)
  -- swap 2-byte long pairs
  let v := ((v &&& 0xFFFF0000FFFF0000FFFF0000FFFF0000FFFF0000FFFF0000FFFF0000FFFF0000) >>> 16) |||
    ((v &&& 0x0000FFFF0000FFFF0000FFFF0000FFFF0000FFFF0000FFFF0000FFFF0000FFFF) <<< 16)
  -- swap 4-byte long pairs
  let v := ((v &&& 0xFFFFFFFF00000000FFFFFFFF00000000FFFFFFFF00000000FFFFFFFF00000000) >>> 32) |||
    ((v &&& 0x00000000FFFFFFFF00000000FFFFFFFF00000000FFFFFFFF00000000FFFFFFFF) <<< 32)
  -- swap 8-byte long pairs
  let v := ((v &&& 0xFFFFFFFFFFFFFFFF0000000000000000FFFFFFFFFFFFFFFF0000000000000000) >>> 64) |||
    ((v &&& 0x0000000000000000FFFFFFFFFFFFFFFF0000000000000000FFFFFFFFFFFFFFFF) <<< 64)
  -- swap 16-byte long pairs
  (v >>> 128) ||| (v <<< 128)

theorem swapsBytes :
    SwapsBlocks (0xFF00FF00FF00FF00FF00FF00FF00FF00FF00FF00FF00FF00FF00FF00FF00FF00 : Uint256)
      0x00FF00FF00FF00FF00FF00FF00FF00FF00FF00FF00FF00FF00FF00FF00FF00FF 8 := by
  decide +kernel

theorem swapsPairs :
    SwapsBlocks (0xFFFF0000FFFF0000FFFF0000FFFF0000FFFF0000FFFF0000FFFF0000FFFF0000 : Uint256)
      0x0000FFFF0000FFFF0000FFFF0000FFFF0000FFFF0000FFFF0000FFFF0000FFFF 16 := by
  decide +kernel

theorem swapsQuads :
    SwapsBlocks (0xFFFFFFFF00000000FFFFFFFF00000000FFFFFFFF00000000FFFFFFFF00000000 : Uint256)
      0x00000000FFFFFFFF00000000FFFFFFFF00000000FFFFFFFF00000000FFFFFFFF 32 := by
  decide +kernel

theorem swapsOctets :
    SwapsBlocks (0xFFFFFFFFFFFFFFFF0000000000000000FFFFFFFFFFFFFFFF0000000000000000 : Uint256)
      0x0000000000000000FFFFFFFFFFFFFFFF0000000000000000FFFFFFFFFFFFFFFF 64 := by
  decide +kernel

/-- The five stages' index maps compose to the byte reversal's: byte `k` from byte `31 - k`. -/
theorem reversedIndex : ∀ i < 256,
    ((((if i < 128 then i + 128 else i - 128) ^^^ 64) ^^^ 32) ^^^ 16) ^^^ 8 =
      (31 - i / 8) * 8 + i % 8 := by
  decide +kernel

/-- Bit `i` of the result is bit `i % 8` of byte `31 - i / 8` of the input. -/
theorem getLsbD_reverseByteOrderUint256 (v : Uint256) {i : Nat} (lt : i < 256) :
    (reverseByteOrderUint256 v).getLsbD i = v.getLsbD ((31 - i / 8) * 8 + i % 8) := by
  have below : ∀ {j : Nat} (s : Nat), j < 256 → s < 256 → j ^^^ s < 256 := fun s lt small =>
    @Nat.xor_lt_two_pow _ s 8 lt small
  have halves : (if i < 128 then i + 128 else i - 128) < 256 := by
    split <;> omega
  have octets := below 64 halves (by norm_num)
  have quads := below 32 octets (by norm_num)
  have pairs := below 16 quads (by norm_num)
  dsimp only [reverseByteOrderUint256]
  rw [@getLsbD_swapHalves 128 _ _ lt, getLsbD_swapBlocks swapsOctets _ halves,
    getLsbD_swapBlocks swapsQuads _ octets, getLsbD_swapBlocks swapsPairs _ quads,
    getLsbD_swapBlocks swapsBytes _ pairs, reversedIndex i lt]

/-- Reversing the byte order twice gives the word back. -/
theorem reverseByteOrderUint256_reverseByteOrderUint256 (v : Uint256) :
    reverseByteOrderUint256 (reverseByteOrderUint256 v) = v := by
  apply BitVec.eq_of_getLsbD_eq
  intro i lt
  have inner : (31 - i / 8) * 8 + i % 8 < 256 := by omega
  have twice : (31 - ((31 - i / 8) * 8 + i % 8) / 8) * 8 + ((31 - i / 8) * 8 + i % 8) % 8 = i := by
    omega
  rw [getLsbD_reverseByteOrderUint256 _ lt, getLsbD_reverseByteOrderUint256 _ inner, twice]

theorem reverseByteOrderUint256_injective : Function.Injective reverseByteOrderUint256 := by
  intro first second same
  rw [← reverseByteOrderUint256_reverseByteOrderUint256 first, same,
    reverseByteOrderUint256_reverseByteOrderUint256]

/-- The byte-reversed word encodes little-endian: its bytes are the word's in reverse order. -/
theorem wordBytes_reverseByteOrderUint256 (v : Uint256) :
    wordBytes (reverseByteOrderUint256 v) = (wordBytes v).reverse :=
  @toBytesBE_reverse_of_getLsbD 32 v _ fun _ lt => getLsbD_reverseByteOrderUint256 v lt

/-! ## The verifier -/

/-- `splitDigest(digest)`: the byte-reversed digest's lower and upper 128 bits. -/
def splitDigest (digest : Bytes32) : BitVec 128 × BitVec 128 :=
  let reversed := reverseByteOrderUint256 digest
  (reversed.setWidth 128, (reversed >>> 128).setWidth 128)

/-- Distinct digests split into distinct pairs of halves. -/
theorem splitDigest_injective : Function.Injective splitDigest := by
  intro first second same
  simp only [splitDigest, Prod.mk.injEq] at same
  exact reverseByteOrderUint256_injective (@eq_of_halves 128 _ _ same.1 same.2)

/-- `splitDigest` computes what its documentation describes: the first half of the digest with
its bytes reversed, and the second half with its bytes reversed. -/
theorem splitDigest_reverses_halves (digest : Bytes32) :
    toBytesBE 16 (splitDigest digest).1.toNat = ((wordBytes digest).take 16).reverse ∧
      toBytesBE 16 (splitDigest digest).2.toNat = ((wordBytes digest).drop 16).reverse := by
  have reversed := wordBytes_reverseByteOrderUint256 digest
  -- the reversed word's encoding is its upper half's encoding followed by its lower half's
  have halves : wordBytes (reverseByteOrderUint256 digest) =
      toBytesBE 16 ((reverseByteOrderUint256 digest).toNat / 256 ^ 16) ++
        toBytesBE 16 (reverseByteOrderUint256 digest).toNat :=
    toBytesBE_add 16 16 _
  have lower : (splitDigest digest).1.toNat =
      (reverseByteOrderUint256 digest).toNat % 256 ^ 16 := by
    simp [splitDigest, BitVec.toNat_setWidth]
  have upper : (splitDigest digest).2.toNat =
      (reverseByteOrderUint256 digest).toNat / 256 ^ 16 := by
    have bound := (reverseByteOrderUint256 digest).isLt
    simp only [splitDigest, BitVec.toNat_setWidth, BitVec.toNat_ushiftRight,
      Nat.shiftRight_eq_div_pow]
    rw [Nat.mod_eq_of_lt (by omega)]
    norm_num
  have front : (wordBytes (reverseByteOrderUint256 digest)).take 16 =
      toBytesBE 16 ((reverseByteOrderUint256 digest).toNat / 256 ^ 16) := by
    rw [halves]
    exact List.take_left' (length_toBytesBE _ _)
  have back : (wordBytes (reverseByteOrderUint256 digest)).drop 16 =
      toBytesBE 16 (reverseByteOrderUint256 digest).toNat := by
    rw [halves]
    exact List.drop_left' (length_toBytesBE _ _)
  constructor
  · rw [lower, toBytesBE_mod, ← back, reversed, List.drop_reverse, length_wordBytes]
  · rw [upper, ← front, reversed, List.take_reverse, length_wordBytes]

/-- `Seal`: the Groth16 proof. -/
structure Seal where
  a : Vector Uint256 2
  b : Vector (Vector Uint256 2) 2
  c : Vector Uint256 2
  deriving DecidableEq, Repr

/-- `abi.decode(data, (Seal))`: eight words, `a`, then `b` row by row, then `c`. Data shorter
than the eight words reverts; words after them are not read. -/
def decodeSeal (data : Bytes) : Option Seal :=
  if 256 ≤ data.length then
    let word (index : Nat) : Uint256 := bytesWord ((data.drop (32 * index)).take 32)
    some { a := #v[word 0, word 1], b := #v[#v[word 2, word 3], #v[word 4, word 5]],
           c := #v[word 6, word 7] }
  else none

/-- A vector of two entries is the literal of its entries. -/
theorem vector_two_eq_get {α : Type} (v : Vector α 2) : #v[v.get 0, v.get 1] = v := by
  ext i lt
  interval_cases i <;> rfl

/-- A proof is the struct of its entries. -/
theorem Seal.mk_get (proof : Seal) :
    (⟨#v[proof.a.get 0, proof.a.get 1],
      #v[#v[(proof.b.get 0).get 0, (proof.b.get 0).get 1],
        #v[(proof.b.get 1).get 0, (proof.b.get 1).get 1]],
      #v[proof.c.get 0, proof.c.get 1]⟩ : Seal) = proof := by
  rw [vector_two_eq_get proof.a, vector_two_eq_get (proof.b.get 0),
    vector_two_eq_get (proof.b.get 1), vector_two_eq_get proof.b, vector_two_eq_get proof.c]

/-- The eight words of a proof, in the order of the struct's ABI encoding. -/
def Seal.words (proof : Seal) : List Uint256 :=
  [proof.a.get 0, proof.a.get 1, (proof.b.get 0).get 0, (proof.b.get 0).get 1,
    (proof.b.get 1).get 0, (proof.b.get 1).get 1, proof.c.get 0, proof.c.get 1]

/-- `abi.encode(seal)`: the eight words. -/
def Seal.abiEncode (proof : Seal) : Bytes := proof.words.flatMap wordBytes

/-- A proof's ABI encoding decodes back to the proof, whatever follows it. -/
theorem decodeSeal_abiEncode (proof : Seal) (rest : Bytes) :
    decodeSeal (proof.abiEncode ++ rest) = some proof := by
  have long : 256 ≤ (proof.abiEncode ++ rest).length := by
    simp [Seal.abiEncode, Seal.words]
    omega
  have word : ∀ i (lt : i < 8),
      bytesWord (((proof.abiEncode ++ rest).drop (32 * i)).take 32) =
        proof.words.get ⟨i, lt⟩ := by
    intro i lt
    rw [Seal.abiEncode, take_drop_flatMap_wordBytes proof.words rest lt, bytesWord_wordBytes]
  rw [decodeSeal, if_pos long]
  simp only [word 0 (by decide), word 1 (by decide), word 2 (by decide), word 3 (by decide),
    word 4 (by decide), word 5 (by decide), word 6 (by decide), word 7 (by decide)]
  exact congrArg some (Seal.mk_get proof)

/-- A proof's ABI encoding alone decodes to the proof. -/
theorem decodeSeal_abiEncode_self (proof : Seal) : decodeSeal proof.abiEncode = some proof := by
  simpa using decodeSeal_abiEncode proof []

/-- Why `RiscZeroGroth16Verifier` reverts. -/
inductive Groth16Error where
  | sliceOutOfBounds
  | selectorMismatch (received expected : BitVec 32)
  | abiDecodingFailed
  | verificationFailed
  deriving DecidableEq, Repr

/-- The immutables of a deployed `RiscZeroGroth16Verifier`. -/
structure RiscZeroGroth16Verifier where
  controlRoot0 : BitVec 128
  controlRoot1 : BitVec 128
  bn254ControlId : Bytes32
  selector : BitVec 32

namespace RiscZeroGroth16Verifier

/-- The constructor: the control root is split, and the selector is the first four bytes of
the tagged digest of the verifier parameters, among them `verifier_key_digest()`, a constant of
the compiled verification key. -/
def new (sha256 : Bytes → Bytes32) (verifierKeyDigest controlRoot bn254ControlId : Bytes32) :
    RiscZeroGroth16Verifier :=
  let parametersDigest := sha256
    (wordBytes (sha256 (utf8Bytes "risc0.Groth16ReceiptVerifierParameters")) ++
      wordBytes controlRoot ++ wordBytes (reverseByteOrderUint256 bn254ControlId) ++
      wordBytes verifierKeyDigest ++ toBytesBE 2 (3 <<< 8))
  { controlRoot0 := (splitDigest controlRoot).1
    controlRoot1 := (splitDigest controlRoot).2
    bn254ControlId := bn254ControlId
    selector := (parametersDigest >>> 224).setWidth 32 }

/-- The public signals `_verifyIntegrity` passes to the pairing check for a claim digest. -/
def publicSignals (verifier : RiscZeroGroth16Verifier) (claimDigest : Bytes32) :
    Vector Uint256 5 :=
  #v[verifier.controlRoot0.setWidth 256, verifier.controlRoot1.setWidth 256,
    (splitDigest claimDigest).1.setWidth 256, (splitDigest claimDigest).2.setWidth 256,
    verifier.bn254ControlId]

/-- `_verifyIntegrity(seal, claimDigest)`, with `this.verifyProof` the pairing check of the
verification key: the selector, then the decoded proof on the claim's public signals. -/
def _verifyIntegrity (verifyProof : Seal → Vector Uint256 5 → Bool)
    (verifier : RiscZeroGroth16Verifier) (sealData : Bytes) (claimDigest : Bytes32) :
    Except Groth16Error Unit := do
  if sealData.length < 4 then throw .sliceOutOfBounds
  let received : BitVec 32 := BitVec.ofNat 32 (ofBytesBE (sealData.take 4))
  if verifier.selector ≠ received then throw (.selectorMismatch received verifier.selector)
  let decodedSeal ← match decodeSeal (sealData.drop 4) with
    | some decoded => pure decoded
    | none => throw .abiDecodingFailed
  if !verifyProof decodedSeal (verifier.publicSignals claimDigest) then
    throw .verificationFailed

/-- `verify(seal, imageId, journalDigest)`. -/
def verify (sha256 : Bytes → Bytes32) (verifyProof : Seal → Vector Uint256 5 → Bool)
    (verifier : RiscZeroGroth16Verifier) (sealData : Bytes) (imageId journalDigest : Bytes32) :
    Except Groth16Error Unit :=
  _verifyIntegrity verifyProof verifier sealData
    ((ReceiptClaim.ok sha256 imageId journalDigest).digest sha256)

/-- `verifyIntegrity(receipt)`. -/
def verifyIntegrity (verifyProof : Seal → Vector Uint256 5 → Bool)
    (verifier : RiscZeroGroth16Verifier) (receipt : Receipt) : Except Groth16Error Unit :=
  _verifyIntegrity verifyProof verifier receipt.sealData receipt.claimDigest

/-- Distinct claim digests give distinct public signals. -/
theorem publicSignals_injective (verifier : RiscZeroGroth16Verifier) :
    Function.Injective verifier.publicSignals := by
  intro first second same
  have narrowed : ∀ {half other : BitVec 128},
      half.setWidth 256 = other.setWidth 256 → half = other := by
    intro half other widened
    have back := congrArg (BitVec.setWidth 128) widened
    rwa [BitVec.setWidth_setWidth_of_le _ (by norm_num),
      BitVec.setWidth_setWidth_of_le _ (by norm_num), BitVec.setWidth_eq,
      BitVec.setWidth_eq] at back
  simp only [publicSignals, Vector.mk.injEq, Array.mk.injEq, List.cons.injEq, true_and,
    and_true] at same
  exact splitDigest_injective (Prod.ext (narrowed same.1) (narrowed same.2))

/-- A seal passes exactly when its first four bytes are the selector and the rest decodes to a
proof that the pairing check accepts on the claim's public signals. -/
theorem _verifyIntegrity_eq_ok_iff {verifyProof : Seal → Vector Uint256 5 → Bool}
    {verifier : RiscZeroGroth16Verifier} {sealData : Bytes} {claimDigest : Bytes32} :
    verifier._verifyIntegrity verifyProof sealData claimDigest = .ok () ↔
      sealData.take 4 = toBytesBE 4 verifier.selector.toNat ∧
        ∃ proof, decodeSeal (sealData.drop 4) = some proof ∧
          verifyProof proof (verifier.publicSignals claimDigest) = true := by
  unfold _verifyIntegrity
  by_cases short : sealData.length < 4
  · -- the slice reverts, and the seal has no four bytes to match
    have unmatched : sealData.take 4 ≠ toBytesBE 4 verifier.selector.toNat := by
      intro same
      have lengths := congrArg List.length same
      rw [List.length_take, length_toBytesBE] at lengths
      omega
    simp [short, unmatched]
  · have selected : verifier.selector = BitVec.ofNat 32 (ofBytesBE (sealData.take 4)) ↔
        sealData.take 4 = toBytesBE 4 verifier.selector.toNat := by
      rw [eq_comm]
      exact @ofNat_ofBytesBE_eq_iff 4 _ (by rw [List.length_take]; omega) verifier.selector
    by_cases matched : verifier.selector = BitVec.ofNat 32 (ofBytesBE (sealData.take 4))
    · -- rewrite the comparison itself, not the selector inside the seal's prefix
      have kept : (verifier.selector = BitVec.ofNat 32 (ofBytesBE (sealData.take 4))) = True :=
        eq_true matched
      simp only [short, ne_eq, kept, not_true_eq_false, if_false]
      cases decodeSeal (sealData.drop 4) with
      | none => simp
      | some proof =>
          simp only [selected.mp matched, true_and, Option.some.injEq, exists_eq_left',
            pure_bind]
          cases verifyProof proof (verifier.publicSignals claimDigest) <;> simp
    · have unmatched : sealData.take 4 ≠ toBytesBE 4 verifier.selector.toNat := fun same =>
        matched (selected.mpr same)
      simp [short, matched, unmatched]

/-- A seal passes `verify` for an image and a journal digest exactly when it is the selector
followed by a proof that the pairing check accepts on the public signals of the claim
`ReceiptClaimLib.ok(imageId, journalDigest)`, and those signals determine the claim's digest: the
proof is checked against this claim and no other. -/
theorem groth16_verifier_binds_claim (sha256 : Bytes → Bytes32)
    (verifyProof : Seal → Vector Uint256 5 → Bool) (verifier : RiscZeroGroth16Verifier)
    (sealData : Bytes) (imageId journalDigest : Bytes32) :
    let claimDigest := (ReceiptClaim.ok sha256 imageId journalDigest).digest sha256
    (verifier.verify sha256 verifyProof sealData imageId journalDigest = .ok () ↔
        sealData.take 4 = toBytesBE 4 verifier.selector.toNat ∧
          ∃ proof, decodeSeal (sealData.drop 4) = some proof ∧
            verifyProof proof (verifier.publicSignals claimDigest) = true) ∧
      ∀ otherDigest, verifier.publicSignals otherDigest = verifier.publicSignals claimDigest →
        otherDigest = claimDigest := by
  intro claimDigest
  exact ⟨_verifyIntegrity_eq_ok_iff, fun _ same => verifier.publicSignals_injective same⟩

end RiscZeroGroth16Verifier

/-! ## Seals the host encodes -/

namespace Groth16

/-- `encode(seal)` of `groth16.rs`: the first four bytes of the verifier parameters' digest, then
the seal. -/
def encode (verifierParametersDigest : Bytes32) (sealData : Bytes) : Bytes :=
  (wordBytes verifierParametersDigest).take 4 ++ sealData

end Groth16

/-- The receipts `encode_seal` of `lib.rs` tells apart: a fake receipt of a claim, a Groth16
receipt with its verifier parameters' digest and its seal, and the other kinds. -/
inductive InnerReceipt where
  | fake (claimDigest : Bytes32)
  | groth16 (verifierParameters : Bytes32) (sealData : Bytes)
  | other

/-- `encode_seal(receipt)` of `lib.rs`: the selector `0` and the claim's digest for a fake
receipt, the verifier parameters' first four bytes and the seal for a Groth16 one, as `encode`
does; other receipts are not supported. -/
def encodeSeal : InnerReceipt → Option Bytes
  | .fake claimDigest => some (List.replicate 4 0 ++ wordBytes claimDigest)
  | .groth16 verifierParameters sealData =>
      some ((wordBytes verifierParameters).take 4 ++ sealData)
  | .other => none

/-- A fake receipt's seal is the one the mock verifier with selector `0` accepts for its
claim. -/
theorem encodeSeal_fake (claimDigest : Bytes32) :
    encodeSeal (.fake claimDigest) = some (RiscZeroMockVerifier.mockProve 0 claimDigest) := by
  rw [encodeSeal, RiscZeroMockVerifier.mockProve]
  rfl

/-- The first four bytes of a digest are its top 32 bits. -/
theorem take_wordBytes (digest : Bytes32) :
    (wordBytes digest).take 4 = toBytesBE 4 ((digest >>> 224).setWidth 32).toNat := by
  have split := toBytesBE_add 4 28 digest.toNat
  have upper : ((digest >>> 224).setWidth 32).toNat = digest.toNat / 256 ^ 28 := by
    rw [BitVec.toNat_setWidth, BitVec.toNat_ushiftRight, Nat.shiftRight_eq_div_pow]
    have bound := digest.isLt
    apply Nat.mod_eq_of_lt
    norm_num at bound ⊢
    omega
  rw [wordBytes, upper, show (32 : Nat) = 4 + 28 from rfl, split,
    List.take_left' (length_toBytesBE _ _)]

/-- A proof encoded with the digest a verifier's selector is taken from passes that verifier
exactly when the pairing check accepts it. -/
theorem _verifyIntegrity_encode {verifyProof : Seal → Vector Uint256 5 → Bool}
    {verifier : RiscZeroGroth16Verifier} {verifierParametersDigest : Bytes32}
    (selected : verifier.selector = (verifierParametersDigest >>> 224).setWidth 32)
    (proof : Seal) (claimDigest : Bytes32) :
    verifier._verifyIntegrity verifyProof
        (Groth16.encode verifierParametersDigest proof.abiEncode) claimDigest = .ok () ↔
      verifyProof proof (verifier.publicSignals claimDigest) = true := by
  have four : ((wordBytes verifierParametersDigest).take 4).length = 4 := by
    simp
  have prefixed : (Groth16.encode verifierParametersDigest proof.abiEncode).take 4 =
      toBytesBE 4 verifier.selector.toNat := by
    rw [Groth16.encode, List.take_left' four, take_wordBytes, selected]
  have rest : (Groth16.encode verifierParametersDigest proof.abiEncode).drop 4 =
      proof.abiEncode := List.drop_left' four
  rw [RiscZeroGroth16Verifier._verifyIntegrity_eq_ok_iff, rest, decodeSeal_abiEncode_self]
  simp [prefixed]

/-- The host's encoding of a proof carries the proof, and passes a verifier whose selector is
taken from the same parameters digest exactly when the pairing check accepts the proof on the
claim's public signals: an honest seal is rejected only by the pairing check. -/
theorem encoded_seal_verifies_iff (verifyProof : Seal → Vector Uint256 5 → Bool)
    (verifier : RiscZeroGroth16Verifier) (verifierParametersDigest : Bytes32)
    (selected : verifier.selector = (verifierParametersDigest >>> 224).setWidth 32)
    (proof : Seal) (claimDigest : Bytes32) :
    decodeSeal proof.abiEncode = some proof ∧
      (verifier._verifyIntegrity verifyProof
          (Groth16.encode verifierParametersDigest proof.abiEncode) claimDigest = .ok () ↔
        verifyProof proof (verifier.publicSignals claimDigest) = true) := by
  exact ⟨decodeSeal_abiEncode_self proof, _verifyIntegrity_encode selected proof claimDigest⟩

/-- A verifier deployed with a constant hash, and the host encoding a proof with the digest that
hash gives: the pairing check alone decides. -/
theorem encoded_seal_verifies_iff_sample :
    (RiscZeroGroth16Verifier.new (fun _ => 0) 0 0 0).selector =
        ((0 : Bytes32) >>> 224).setWidth 32 ∧
      decodeSeal (Seal.abiEncode ⟨#v[1, 2], #v[#v[3, 4], #v[5, 6]], #v[7, 8]⟩) =
        some ⟨#v[1, 2], #v[#v[3, 4], #v[5, 6]], #v[7, 8]⟩ ∧
      ((RiscZeroGroth16Verifier.new (fun _ => 0) 0 0 0)._verifyIntegrity (fun _ _ => true)
          (Groth16.encode 0 (Seal.abiEncode ⟨#v[1, 2], #v[#v[3, 4], #v[5, 6]], #v[7, 8]⟩)) 0 =
        .ok () ↔
        (fun _ _ => true : Seal → Vector Uint256 5 → Bool) ⟨#v[1, 2], #v[#v[3, 4], #v[5, 6]], #v[7, 8]⟩
          ((RiscZeroGroth16Verifier.new (fun _ => 0) 0 0 0).publicSignals 0) = true) :=
  ⟨rfl, encoded_seal_verifies_iff (fun _ _ => true) (RiscZeroGroth16Verifier.new (fun _ => 0) 0 0 0)
    0 rfl ⟨#v[1, 2], #v[#v[3, 4], #v[5, 6]], #v[7, 8]⟩ 0⟩

end Risc0

end ZkGovernance
