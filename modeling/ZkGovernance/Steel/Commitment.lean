import ZkGovernance.Plugin.Types

/-!
# Steel commitments on both sides

A Steel commitment names the block a guest's view calls ran against. The
contracts use `Steel.Commitment` of the vendored `lib/risc0/steel/Steel.sol`,
which has three words: `id`, `digest` and `configID`. The guests use
`risc0_steel::Commitment` of the crate pinned in `methods/guest/Cargo.lock`,
which is not in the repository. What the guests need of it is the block it
names: `Commitment::new` packs version `0` with the block number into the id
and takes the block hash as the digest (`Risc0Steel.Commitment`). How the
crate's `sol!` struct encodes is a parameter of the guests
(`Libraries.commitmentToAbi`); the layout the vendored contract reads,
`EncodesAsSteel`, is a hypothesis of the results that need it.

Both sides pack a version into the top 16 bits of `id` with
`Encoding.encodeVersionedID`.
-/

namespace ZkGovernance

open Abi

namespace Encoding

/-- `Encoding.encodeVersionedID(id, version)`: `version << 240 | id`. -/
def encodeVersionedID (id : BitVec 240) (version : BitVec 16) : Uint256 :=
  (version.setWidth 256 <<< 240) ||| id.setWidth 256

/-- `Encoding.decodeVersionedID(id)`: the low 240 bits and the top 16 bits. -/
def decodeVersionedID (id : Uint256) : BitVec 240 × BitVec 16 :=
  (id.setWidth 240, (id >>> 240).setWidth 16)

/-- A packed claim id and version are read back unchanged. -/
theorem decodeVersionedID_encodeVersionedID (id : BitVec 240) (version : BitVec 16) :
    decodeVersionedID (encodeVersionedID id version) = (id, version) := by
  simp only [decodeVersionedID, encodeVersionedID, Prod.mk.injEq]
  constructor
  · ext i below
    simp
  · ext i below
    simp [show 240 + i < 256 by omega, show i < 256 by omega, BitVec.getLsbD_eq_getElem below]

/-- Every word is the packing of its claim id and version. -/
theorem encodeVersionedID_decodeVersionedID (id : Uint256) :
    encodeVersionedID (decodeVersionedID id).1 (decodeVersionedID id).2 = id := by
  simp only [decodeVersionedID, encodeVersionedID]
  ext i below
  -- the low 240 bits come from the claim id, the top 16 from the version
  by_cases low : i < 240
  · simp [low, BitVec.getLsbD_eq_getElem below]
  · have high : 240 + (i - 240) = i := by omega
    simp [low, high, show i - 240 < 16 by omega, BitVec.getLsbD_eq_getElem below]

/-- A word decodes to a claim id exactly when it packs that claim id with some version. -/
theorem decodeVersionedID_fst_eq_iff (id : Uint256) (claimID : BitVec 240) :
    (decodeVersionedID id).1 = claimID ↔ ∃ version, id = encodeVersionedID claimID version := by
  constructor
  · intro decoded
    exact ⟨(decodeVersionedID id).2, by rw [← decoded, encodeVersionedID_decodeVersionedID]⟩
  · rintro ⟨version, rfl⟩
    rw [decodeVersionedID_encodeVersionedID]

end Encoding

namespace Steel

/-- `Steel.Commitment` of `lib/risc0/steel/Steel.sol`. -/
structure Commitment where
  id : Uint256
  digest : Bytes32
  configID : Bytes32
  deriving DecidableEq, Repr

/-- The ABI type of `Steel.Commitment`. -/
def commitmentType : AbiType := .tuple [.uint 256, .bytes32, .bytes32]

/-- The ABI value of a `Steel.Commitment`: its three words. -/
def Commitment.toAbi (commitment : Commitment) : AbiValue :=
  .tuple [.word commitment.id, .word commitment.digest, .word commitment.configID]

end Steel

namespace Risc0Steel

/-- What the guests commit of `env.commitment()`: the id, which packs a version with the
block number, and the digest, the block hash. -/
structure Commitment where
  id : Uint256
  digest : Bytes32
  deriving DecidableEq, Repr

/-- `Commitment::new(version, id, digest, ..)` for a block. -/
def Commitment.new (version : BitVec 16) (id : Uint64) (digest : Bytes32) : Commitment where
  id := Encoding.encodeVersionedID (id.setWidth 240) version
  digest := digest

/-- The crate's commitment encodes as the vendored `Steel.Commitment` does: the id, the digest
and a configuration id `configID`, three static words. -/
def EncodesAsSteel (toAbi : Commitment → AbiValue) (configID : Commitment → Bytes32) : Prop :=
  ∀ commitment, toAbi commitment =
    Steel.Commitment.toAbi ⟨commitment.id, commitment.digest, configID commitment⟩

end Risc0Steel

end ZkGovernance
