import ZkGovernance.Risc0.Groth16

/-!
# `Groth16Verifier`: the field checks before the pairing

`RiscZeroGroth16Verifier` checks a proof by the external call
`this.verifyProof(a, b, c, signals)` to the verifier snarkjs generates for the
verification key. That function reads its arguments from the call data with
`calldataload`: the proof's eight words, then the five public signals at
`_pubSignals`. Before the pairing check it checks six words against the scalar
field size `r`. The sixth of them is the word after the five signals: on the
call data of a call with these arguments, thirteen words after the selector,
it lies past the end, and `calldataload` reads past the end as zeros, so the
sixth check always passes.

On such call data the function returns whether every signal is in the field
and the pairing check accepts (`verifyProof_encodeCall`). The signals of
`RiscZeroGroth16Verifier` are four 128-bit halves, which are below `r`, and the
BN254 control id, so the field checks reduce to the control id being below `r`
(`verifyProof_publicSignals_eq_pairing`). The control id of `ControlID.sol` is,
and with it the model's view of `verifyProof` as the pairing check alone is the
behaviour of the verifier's own code (`_verifyIntegrity_callVerifyProof`).
-/

namespace ZkGovernance

open Abi

namespace Risc0

/-! `ControlID.sol`: the constants the deployment passes to `RiscZeroGroth16Verifier`'s
constructor. -/

namespace ControlID

def controlRoot : Bytes32 :=
  0x8b6dcf11d463ac455361b41fb3ed053febb817491bdea00fdb340e45013b852e#256

/-- Stored with the opposite byte order to the value in the risc0 repository. -/
def bn254ControlId : Bytes32 :=
  0x05a022e1db38457fb510bc347b30eb8f8cf3eda95587653d0eac19e1f10d164e#256

end ControlID

namespace Groth16Verifier

/-- Scalar field size -/
def r : Nat := 21888242871839275222246405745257275088548364400416034343698204186575808495617

/-- `calldataload(offset)`: the word at `offset` of the call data, which reads zeros past its
end. -/
def calldataload (calldata : Bytes) (offset : Nat) : Word :=
  bytesWord ((calldata.drop offset ++ List.replicate 32 0).take 32)

/-! The call data offsets of `verifyProof`'s static arguments: the selector, then two words of
`_pA`, four of `_pB`, two of `_pC` and five of `_pubSignals`. -/

def _pA : Nat := 4
def _pB : Nat := 68
def _pC : Nat := 196
def _pubSignals : Nat := 260

/-- `checkField(v)`: whether `v` is in the scalar field. When it is not, `verifyProof` returns
`false` at once. -/
def checkField (v : Word) : Bool :=
  decide (v.toNat < r)

/-- The proof `checkPairing` reads at `_pA`, `_pB` and `_pC`. -/
def proofAt (calldata : Bytes) : Seal :=
  { a := #v[calldataload calldata _pA, calldataload calldata (_pA + 32)]
    b := #v[#v[calldataload calldata _pB, calldataload calldata (_pB + 32)],
      #v[calldataload calldata (_pB + 64), calldataload calldata (_pB + 96)]]
    c := #v[calldataload calldata _pC, calldataload calldata (_pC + 32)] }

/-- The public signals `checkPairing` reads at `_pubSignals`. -/
def signalsAt (calldata : Bytes) : Vector Uint256 5 :=
  #v[calldataload calldata (_pubSignals + 0), calldataload calldata (_pubSignals + 32),
    calldataload calldata (_pubSignals + 64), calldataload calldata (_pubSignals + 96),
    calldataload calldata (_pubSignals + 128)]

/-- `verifyProof(_pA, _pB, _pC, _pubSignals)` on its call data, with the pairing check of the
verification key, `checkPairing`, a parameter. The ABI decoder reverts on call data shorter than
the selector and the thirteen words; then six words from `_pubSignals` on are checked, and the
pairing check decides. -/
def verifyProof (checkPairing : Seal → Vector Uint256 5 → Bool) (calldata : Bytes) :
    Option Bool :=
  if calldata.length < 4 + 13 * 32 then none
  -- Validate that all evaluations ∈ F
  else if [0, 32, 64, 96, 128, 160].all
      (fun offset => checkField (calldataload calldata (_pubSignals + offset))) then
    -- Validate all evaluations
    some (checkPairing (proofAt calldata) (signalsAt calldata))
  else some false

/-- The call data of `this.verifyProof(a, b, c, signals)`: the function's selector, then the
ABI encoding of the static arguments, word after word. -/
def encodeCall (selector : BitVec 32) (proof : Seal) (signals : Vector Uint256 5) : Bytes :=
  toBytesBE 4 selector.toNat ++ (proof.words ++ signals.toList).flatMap wordBytes

/-- `this.verifyProof(a, b, c, signals)` as `_verifyIntegrity` makes it. A revert of the call
would revert the caller; the call data it sends is never short (`verifyProof_encodeCall`). -/
def callVerifyProof (checkPairing : Seal → Vector Uint256 5 → Bool) (selector : BitVec 32)
    (proof : Seal) (signals : Vector Uint256 5) : Bool :=
  (verifyProof checkPairing (encodeCall selector proof signals)).getD false

/-! ## Reading the call data -/

/-- A word past the end of the call data reads as zero. -/
theorem calldataload_of_le {calldata : Bytes} {offset : Nat} (past : calldata.length ≤ offset) :
    calldataload calldata offset = 0 := by
  rw [calldataload, List.drop_eq_nil_of_le past, List.nil_append, List.take_replicate,
    Nat.min_self, ← toBytesBE_zero, bytesWord, ofBytesBE_toBytesBE]
  rfl

/-- Word `i` of words written after a prefix is read back at its offset, and past the last
word the read gives zero. -/
theorem calldataload_flatMap (front : Bytes) (words : List Word) (i : Nat) :
    calldataload (front ++ words.flatMap wordBytes) (front.length + 32 * i) = words.getD i 0 := by
  by_cases within : i < words.length
  · have skipped : (front ++ words.flatMap wordBytes).drop (front.length + 32 * i) ++
        List.replicate 32 0 = (words.flatMap wordBytes ++ List.replicate 32 0).drop (32 * i) := by
      rw [← List.drop_drop, List.drop_left, List.drop_append_of_le_length
        (by simp [List.length_flatMap]; omega)]
    rw [calldataload, skipped, take_drop_flatMap_wordBytes words _ within, bytesWord_wordBytes,
      List.getD_eq_getElem _ _ within, List.get_eq_getElem]
  · -- the words end before offset `32 * i` of theirs
    have past : (front ++ words.flatMap wordBytes).length ≤ front.length + 32 * i := by
      simp [List.length_flatMap]
      omega
    rw [calldataload_of_le past, List.getD_eq_default _ _ (by omega)]

/-- The call data `_verifyIntegrity` sends is the selector and thirteen words. -/
theorem length_encodeCall (selector : BitVec 32) (proof : Seal) (signals : Vector Uint256 5) :
    (encodeCall selector proof signals).length = 4 + 13 * 32 := by
  simp [encodeCall, List.length_flatMap, Seal.words]

/-- A vector of five entries is the literal of its entries. -/
theorem vector_five_eq_get {α : Type} (v : Vector α 5) :
    #v[v.get 0, v.get 1, v.get 2, v.get 3, v.get 4] = v := by
  ext i lt
  interval_cases i <;> rfl

/-- The first five field checks are those of the signals `checkPairing` reads. -/
theorem fieldChecks_eq (calldata : Bytes) :
    ([0, 32, 64, 96, 128, 160].all fun offset =>
        checkField (calldataload calldata (_pubSignals + offset))) =
      ((signalsAt calldata).toList.all checkField &&
        checkField (calldataload calldata (_pubSignals + 160))) := by
  simp only [signalsAt, Vector.toList_mk, List.all_cons, List.all_nil, Bool.and_true,
    Bool.and_assoc]

section Call

variable (selector : BitVec 32) (proof : Seal) (signals : Vector Uint256 5)

/-- Word `i` of the call data after the selector is word `i` of the arguments. -/
theorem calldataload_encodeCall (i offset : Nat) (wordOffset : offset = 4 + 32 * i) :
    calldataload (encodeCall selector proof signals) offset =
      (proof.words ++ signals.toList).getD i 0 := by
  rw [wordOffset]
  exact calldataload_flatMap (toBytesBE 4 selector.toNat) _ i

/-- The five signals as a list of their entries. -/
theorem toList_eq_get (signals : Vector Uint256 5) : signals.toList =
    [signals.get 0, signals.get 1, signals.get 2, signals.get 3, signals.get 4] := by
  rw [← vector_five_eq_get signals]
  rfl

theorem proofAt_encodeCall : proofAt (encodeCall selector proof signals) = proof := by
  have word := calldataload_encodeCall selector proof signals
  -- each read of `proofAt` is at offset `4 + 32 * i` for the word `i` of the proof it reads
  simp only [proofAt, word 0 _pA rfl, word 1 (_pA + 32) rfl, word 2 _pB rfl,
    word 3 (_pB + 32) rfl, word 4 (_pB + 64) rfl, word 5 (_pB + 96) rfl, word 6 _pC rfl,
    word 7 (_pC + 32) rfl, Seal.words, List.cons_append, List.getD_cons_zero,
    List.getD_cons_succ]
  exact Seal.mk_get proof

theorem signalsAt_encodeCall : signalsAt (encodeCall selector proof signals) = signals := by
  have word := calldataload_encodeCall selector proof signals
  simp only [signalsAt, word 8 (_pubSignals + 0) rfl, word 9 (_pubSignals + 32) rfl,
    word 10 (_pubSignals + 64) rfl, word 11 (_pubSignals + 96) rfl,
    word 12 (_pubSignals + 128) rfl, Seal.words, toList_eq_get signals, List.cons_append,
    List.nil_append, List.getD_cons_zero, List.getD_cons_succ]
  exact vector_five_eq_get signals

/-- The six field checks on the call data: the five signals, and the zero past the end. -/
theorem fieldChecks_encodeCall :
    ([0, 32, 64, 96, 128, 160].all fun offset =>
        checkField (calldataload (encodeCall selector proof signals) (_pubSignals + offset))) =
      signals.toList.all checkField := by
  -- the sixth word lies past the thirteen words of the call data
  have sixth : checkField (calldataload (encodeCall selector proof signals) (_pubSignals + 160)) =
      true := by
    rw [calldataload_of_le (by rw [length_encodeCall]; rfl)]
    decide
  rw [fieldChecks_eq, signalsAt_encodeCall, sixth, Bool.and_true]

/-- On the call data of a call with these arguments, `verifyProof` returns whether every signal
is in the field and the pairing check accepts the proof. -/
theorem verifyProof_encodeCall (checkPairing : Seal → Vector Uint256 5 → Bool) :
    verifyProof checkPairing (encodeCall selector proof signals) =
      some (signals.toList.all checkField && checkPairing proof signals) := by
  rw [verifyProof, if_neg (by rw [length_encodeCall]; omega), fieldChecks_encodeCall,
    proofAt_encodeCall, signalsAt_encodeCall]
  cases signals.toList.all checkField <;> rfl

end Call

/-! ## The calls of `RiscZeroGroth16Verifier` -/

/-- A 128-bit half widened to a word is in the field. -/
theorem checkField_setWidth (half : BitVec 128) : checkField (half.setWidth 256) = true := by
  have small : (half.setWidth 256).toNat < 2 ^ 128 := by
    rw [BitVec.toNat_setWidth, Nat.mod_eq_of_lt (by have := half.isLt; omega)]
    exact half.isLt
  simp only [checkField, decide_eq_true_eq]
  exact lt_trans small (by decide)

/-- The field checks on the signals of `RiscZeroGroth16Verifier` pass exactly when its BN254
control id is in the field: the four halves always are. -/
theorem verifyProof_publicSignals_eq_pairing (checkPairing : Seal → Vector Uint256 5 → Bool)
    (selector : BitVec 32) (verifier : RiscZeroGroth16Verifier) (proof : Seal)
    (claimDigest : Bytes32) :
    verifyProof checkPairing (encodeCall selector proof (verifier.publicSignals claimDigest)) =
      some (decide (verifier.bn254ControlId.toNat < r) &&
        checkPairing proof (verifier.publicSignals claimDigest)) := by
  rw [verifyProof_encodeCall]
  simp only [RiscZeroGroth16Verifier.publicSignals, Vector.toList_mk, List.all_cons,
    List.all_nil, checkField_setWidth, Bool.true_and, Bool.and_true]
  rfl

/-- With its BN254 control id in the field, `RiscZeroGroth16Verifier` checking a seal through
the call to the snarkjs verifier behaves as with the pairing check in its place: the field checks
never reject one of its calls. -/
theorem _verifyIntegrity_callVerifyProof (checkPairing : Seal → Vector Uint256 5 → Bool)
    (selector : BitVec 32) (verifier : RiscZeroGroth16Verifier)
    (idInField : verifier.bn254ControlId.toNat < r) (sealData : Bytes) (claimDigest : Bytes32) :
    RiscZeroGroth16Verifier._verifyIntegrity (callVerifyProof checkPairing selector) verifier
        sealData claimDigest =
      RiscZeroGroth16Verifier._verifyIntegrity checkPairing verifier sealData claimDigest := by
  have call : ∀ proof, callVerifyProof checkPairing selector proof
      (verifier.publicSignals claimDigest) = checkPairing proof (verifier.publicSignals claimDigest) := by
    intro proof
    rw [callVerifyProof, verifyProof_publicSignals_eq_pairing, decide_eq_true idInField,
      Bool.true_and]
    rfl
  simp only [RiscZeroGroth16Verifier._verifyIntegrity, call]

/-- The verifier deployed with `ControlID.sol`'s constants. -/
theorem _verifyIntegrity_callVerifyProof_deployed :
    (RiscZeroGroth16Verifier.new (fun _ => 0) 0 ControlID.controlRoot
        ControlID.bn254ControlId).bn254ControlId.toNat < r ∧
      RiscZeroGroth16Verifier._verifyIntegrity (callVerifyProof (fun _ _ => true) 0)
          (RiscZeroGroth16Verifier.new (fun _ => 0) 0 ControlID.controlRoot
            ControlID.bn254ControlId) [] 0 =
        RiscZeroGroth16Verifier._verifyIntegrity (fun _ _ => true)
          (RiscZeroGroth16Verifier.new (fun _ => 0) 0 ControlID.controlRoot
            ControlID.bn254ControlId) [] 0 :=
  have idInField : (RiscZeroGroth16Verifier.new (fun _ => 0) 0 ControlID.controlRoot
      ControlID.bn254ControlId).bn254ControlId.toNat < r := by decide
  ⟨idInField, _verifyIntegrity_callVerifyProof (fun _ _ => true) 0 _ idInField [] 0⟩

end Groth16Verifier

end Risc0

end ZkGovernance
