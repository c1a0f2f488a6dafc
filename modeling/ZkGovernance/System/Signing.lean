import ZkGovernance.Guest.VotingProtocol
import ZkGovernance.Hashing.Binding

/-!
# The signed vote message

A voter signs the digest that `hash_vote` of the test helper in
`tests/src/lib.rs` computes, and the voting guest recovers the signer from the
digest its own `hash_vote` computes. The two are written separately, with
alloy's and tiny-keccak's Keccak-256; for one Keccak-256 they build the same
93-byte preimage and the same digest (`vote_message_shared_injective`).

Every field of the preimage has a fixed width, the `U256` fields included:
`to_be_bytes_vec` keeps leading zeros. Reading the fields back at the offsets
8, 28, 60 and 61 recovers the vote (`splitVoteMessage_voteMessage`), so two
different votes have different preimages, and a digest shared by two
different votes exhibits a collision of Keccak-256 at the two votes' messages
or at the two prefixed digests of them (`collision_of_hashVote_eq`).
-/

namespace ZkGovernance

open Abi Hashing Strategies VotingProtocol

namespace Tests

/-- `PREFIX` of the test helpers. -/
def signedMessagePrefix : Bytes := utf8Bytes "\x19Ethereum Signed Message:\n32"

/-- `concat_data` of the helper's `hash_vote`: the five fields' bytes, concatenated. -/
def concatData (chainId : Uint64) (daoAddress : Address) (proposalId : Uint256)
    (direction : Uint8) (balance : Uint256) : Bytes :=
  [toBytesBE 8 chainId.toNat, toBytesBE 20 daoAddress.toNat, toBytesBE 32 proposalId.toNat,
    [direction], toBytesBE 32 balance.toNat].flatten

/-- `hash_vote` of the test helpers, which `get_user_vote_signature` signs. -/
def hashVote (keccak256 : Bytes → Bytes32) (chainId : Uint64) (daoAddress : Address)
    (proposalId : Uint256) (direction : Uint8) (balance : Uint256) : Bytes32 :=
  let hashedData := wordBytes (keccak256 (concatData chainId daoAddress proposalId direction balance))
  keccak256 (signedMessagePrefix ++ hashedData)

end Tests

/-- The fields of a vote message read back at the offsets their widths give: the chain id in
the first 8 bytes, the DAO up to byte 28, the proposal id up to byte 60, the direction in byte
60 and the balance after it. -/
def splitVoteMessage (message : Bytes) : Uint64 × Address × Uint256 × Uint8 × Uint256 :=
  (BitVec.ofNat 64 (ofBytesBE (message.take 8)),
    BitVec.ofNat 160 (ofBytesBE ((message.drop 8).take 20)),
    BitVec.ofNat 256 (ofBytesBE ((message.drop 28).take 32)),
    BitVec.ofNat 8 (ofBytesBE ((message.drop 60).take 1)),
    BitVec.ofNat 256 (ofBytesBE (message.drop 61)))

/-- The message `hash_vote` hashes second: the signed-message prefix and the digest of the vote
message. -/
def signedVoteMessage (keccak256 : Bytes → Bytes32) (chainId : Uint64) (dao : Address)
    (proposalId : Uint256) (direction : Uint8) (balance : Uint256) : Bytes :=
  signedMessagePrefix ++ wordBytes (keccak256 (voteMessage chainId dao proposalId direction balance))

/-- The helper's preimage is the guest's. -/
theorem concatData_eq_voteMessage (chainId : Uint64) (dao : Address) (proposalId : Uint256)
    (direction : Uint8) (balance : Uint256) :
    Tests.concatData chainId dao proposalId direction balance =
      voteMessage chainId dao proposalId direction balance := by
  simp [Tests.concatData, voteMessage]

/-- The vote message has 8 + 20 + 32 + 1 + 32 = 93 bytes. -/
theorem length_voteMessage (chainId : Uint64) (dao : Address) (proposalId : Uint256)
    (direction : Uint8) (balance : Uint256) :
    (voteMessage chainId dao proposalId direction balance).length = 93 := by
  simp [voteMessage]

/-- Splitting a vote message at its fields' offsets gives the vote back. -/
theorem splitVoteMessage_voteMessage (chainId : Uint64) (dao : Address) (proposalId : Uint256)
    (direction : Uint8) (balance : Uint256) :
    splitVoteMessage (voteMessage chainId dao proposalId direction balance) =
      (chainId, dao, proposalId, direction, balance) := by
  -- each offset falls on a field boundary, so each read sees exactly its own field
  simp [splitVoteMessage, voteMessage, List.drop_append, List.drop_eq_nil_of_le]
  have directionByte : BitVec.ofNat 8 (ofBytesBE [direction]) = direction := by
    simp [ofBytesBE]
  exact ⟨ofNat_ofBytesBE_toBytesBE 8 chainId, ofNat_ofBytesBE_toBytesBE 20 dao,
    ofNat_ofBytesBE_toBytesBE 32 proposalId, directionByte, ofNat_ofBytesBE_toBytesBE 32 balance⟩

/-- Different votes have different messages. -/
theorem voteMessage_injective {chainId otherChainId : Uint64} {dao otherDao : Address}
    {proposalId otherProposalId balance otherBalance : Uint256}
    {direction otherDirection : Uint8}
    (same : voteMessage chainId dao proposalId direction balance =
      voteMessage otherChainId otherDao otherProposalId otherDirection otherBalance) :
    (chainId, dao, proposalId, direction, balance) =
      (otherChainId, otherDao, otherProposalId, otherDirection, otherBalance) := by
  rw [← splitVoteMessage_voteMessage chainId, same, splitVoteMessage_voteMessage]

/-- The helper signs the digest the guest recovers from. -/
theorem tests_hashVote_eq (keccak256 : Bytes → Bytes32) (chainId : Uint64) (dao : Address)
    (proposalId : Uint256) (direction : Uint8) (balance : Uint256) :
    Tests.hashVote keccak256 chainId dao proposalId direction balance =
      hashVote keccak256 chainId dao proposalId direction balance := by
  rw [Tests.hashVote, concatData_eq_voteMessage, hashVote]
  rfl

/-- Two different votes with one digest exhibit two different inputs with one Keccak-256: the
vote messages, when their inner digests agree, and the prefixed inner digests otherwise. -/
theorem collision_of_hashVote_eq {keccak256 : Bytes → Bytes32} {chainId otherChainId : Uint64}
    {dao otherDao : Address} {proposalId otherProposalId balance otherBalance : Uint256}
    {direction otherDirection : Uint8}
    (distinct : (chainId, dao, proposalId, direction, balance) ≠
      (otherChainId, otherDao, otherProposalId, otherDirection, otherBalance))
    (same : hashVote keccak256 chainId dao proposalId direction balance =
      hashVote keccak256 otherChainId otherDao otherProposalId otherDirection otherBalance) :
    CollidesAt keccak256 (voteMessage chainId dao proposalId direction balance)
        (voteMessage otherChainId otherDao otherProposalId otherDirection otherBalance) ∨
      CollidesAt keccak256 (signedVoteMessage keccak256 chainId dao proposalId direction balance)
        (signedVoteMessage keccak256 otherChainId otherDao otherProposalId otherDirection
          otherBalance) := by
  by_cases inner : keccak256 (voteMessage chainId dao proposalId direction balance) =
    keccak256 (voteMessage otherChainId otherDao otherProposalId otherDirection otherBalance)
  · exact .inl ⟨fun sameMessage => distinct (voteMessage_injective sameMessage), inner⟩
  · refine .inr ⟨fun samePrefixed => inner ?_, same⟩
    -- the prefix is shared, so the inner digests' bytes agree
    have sameWords := congrArg bytesWord (List.append_cancel_left samePrefixed)
    rwa [bytesWord_wordBytes, bytesWord_wordBytes] at sameWords

/-- For one Keccak-256, the test helper and the voting guest hash the same 93-byte message,
the fields big-endian at fixed widths, and sign and recover from the same digest. The message
splits back into the vote at the offsets 8, 28, 60 and 61, so a digest shared by two
different votes is a collision of Keccak-256 at the two vote messages or at the two signed
messages that prefix their digests. -/
theorem vote_message_shared_injective (keccak256 : Bytes → Bytes32) (chainId : Uint64)
    (dao : Address) (proposalId : Uint256) (direction : Uint8) (balance : Uint256) :
    Tests.concatData chainId dao proposalId direction balance =
        voteMessage chainId dao proposalId direction balance ∧
      (voteMessage chainId dao proposalId direction balance).length = 93 ∧
      splitVoteMessage (voteMessage chainId dao proposalId direction balance) =
        (chainId, dao, proposalId, direction, balance) ∧
      Tests.hashVote keccak256 chainId dao proposalId direction balance =
        hashVote keccak256 chainId dao proposalId direction balance ∧
      ∀ (otherChainId : Uint64) (otherDao : Address) (otherProposalId : Uint256)
        (otherDirection : Uint8) (otherBalance : Uint256),
        (chainId, dao, proposalId, direction, balance) ≠
            (otherChainId, otherDao, otherProposalId, otherDirection, otherBalance) →
          hashVote keccak256 chainId dao proposalId direction balance =
            hashVote keccak256 otherChainId otherDao otherProposalId otherDirection
              otherBalance →
          CollidesAt keccak256 (voteMessage chainId dao proposalId direction balance)
              (voteMessage otherChainId otherDao otherProposalId otherDirection otherBalance) ∨
            CollidesAt keccak256
              (signedVoteMessage keccak256 chainId dao proposalId direction balance)
              (signedVoteMessage keccak256 otherChainId otherDao otherProposalId otherDirection
                otherBalance) :=
  ⟨concatData_eq_voteMessage chainId dao proposalId direction balance,
    length_voteMessage chainId dao proposalId direction balance,
    splitVoteMessage_voteMessage chainId dao proposalId direction balance,
    tests_hashVote_eq keccak256 chainId dao proposalId direction balance,
    fun _ _ _ _ _ distinct same => collision_of_hashVote_eq distinct same⟩

end ZkGovernance
