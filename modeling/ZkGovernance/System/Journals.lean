import ZkGovernance.Plugin.Journal
import ZkGovernance.Guest.VotingProtocol
import ZkGovernance.Guest.ExecutionProtocol
import ZkGovernance.Plugin.Deployment

/-!
# The guests' journals as the plugin reads them

The guests encode their journals with `sol!`, the commitment as risc0-steel's
`Commitment` encodes (`Libraries.commitmentToAbi`); the plugin decodes them as
`VotingJournal` and `ExecutionJournal`, static tuples of eight words whose
`Steel.Commitment` has the three words of the vendored `Steel.sol`.

* When the crate's commitment encodes as the vendored one does
  (`Risc0Steel.EncodesAsSteel`), the voting guest's journal is the plugin's
  encoding of the same fields, and it decodes to them
  (`voting_journal_round_trip`).
* The execution guest's journal is a dynamic tuple, whatever the commitment's
  layout: `abi_encode` puts the offset word `0x20` in front. Read as eight
  static words, that offset becomes the commitment's id, so no journal of the
  execution guest decodes with its own commitment unless that commitment's id
  is `32` (`execution_journal_shifted`). Under the vendored layout the words
  shift by one place: the guest's commitment id and digest become the digest
  and the config id, its config id the config contract, its config contract
  the proposal id, its proposal id the voter, the tally's offset and length the
  balance and the direction (`decodeVotingJournal_executionJournal`).
-/

namespace ZkGovernance

open Abi

/-- An address zero-extended to a word fits an address again. -/
theorem fits_address_setWidth (address : Address) : AbiType.address.fits (address.setWidth 256) =
    true := by
  rw [AbiType.fits, decide_eq_true_eq]
  exact toNat_setWidth_lt address (by norm_num)

namespace VotingProtocol

/-- The journal the plugin should read from a voting guest's journal: the same fields, with the
commitment's id and digest and the configuration id `configID`. -/
def Journal.toVotingJournal (journal : Journal) (configID : Bytes32) : VotingJournal where
  commitment := ⟨journal.commitment.id, journal.commitment.digest, configID⟩
  configContract := journal.configContract
  proposalId := journal.proposalId
  voter := journal.voter
  balance := journal.balance
  direction := journal.direction

/-- When the crate's commitment encodes as the vendored `Steel.Commitment`, the voting guest's
journal is the plugin's encoding of the same fields. -/
theorem Journal.abiEncode_eq_encodeVotingJournal {libraries : Strategies.Libraries}
    {configID : Risc0Steel.Commitment → Bytes32}
    (vendored : Risc0Steel.EncodesAsSteel libraries.commitmentToAbi configID) (journal : Journal) :
    journal.abiEncode libraries =
      encodeVotingJournal (journal.toVotingJournal (configID journal.commitment)) := by
  rw [Journal.abiEncode, encodeVotingJournal, Journal.toAbi, vendored]
  rfl

/-- When the crate's commitment encodes as the vendored `Steel.Commitment`, the plugin reads the
voting guest's journal back with the same fields. -/
theorem Journal.decodeVotingJournal_abiEncode {libraries : Strategies.Libraries}
    {configID : Risc0Steel.Commitment → Bytes32}
    (vendored : Risc0Steel.EncodesAsSteel libraries.commitmentToAbi configID) (journal : Journal) :
    decodeVotingJournal (journal.abiEncode libraries) =
      some (journal.toVotingJournal (configID journal.commitment)) := by
  rw [Journal.abiEncode_eq_encodeVotingJournal vendored, decodeVotingJournal_encodeVotingJournal]

end VotingProtocol

/-- With risc0-steel's commitment encoded as the vendored `Steel.Commitment`, every journal of the
voting guest decodes as a `VotingJournal` with the same commitment id and digest, config
contract, proposal id, voter, balance and direction. -/
theorem voting_journal_round_trip (libraries : Strategies.Libraries)
    (configID : Risc0Steel.Commitment → Bytes32)
    (vendored : Risc0Steel.EncodesAsSteel libraries.commitmentToAbi configID)
    (journal : VotingProtocol.Journal) :
    decodeVotingJournal (journal.abiEncode libraries) =
      some { commitment := ⟨journal.commitment.id, journal.commitment.digest,
                configID journal.commitment⟩
             configContract := journal.configContract
             proposalId := journal.proposalId
             voter := journal.voter
             balance := journal.balance
             direction := journal.direction } :=
  VotingProtocol.Journal.decodeVotingJournal_abiEncode vendored journal

/-- The sample libraries, and the journal of the sample vote of `0xa11ce` on the sample block. -/
theorem voting_journal_round_trip_sample :
    Risc0Steel.EncodesAsSteel VotingProtocol.sampleLibraries.commitmentToAbi
        (fun _ => VotingProtocol.sampleConfigID) ∧
      decodeVotingJournal (((VotingProtocol.sampleVote 0xa11ce).journal
          VotingProtocol.sampleChain.commitment).abiEncode VotingProtocol.sampleLibraries) =
        some { commitment := ⟨((VotingProtocol.sampleVote 0xa11ce).journal
                    VotingProtocol.sampleChain.commitment).commitment.id,
                  ((VotingProtocol.sampleVote 0xa11ce).journal
                    VotingProtocol.sampleChain.commitment).commitment.digest,
                  (fun _ => VotingProtocol.sampleConfigID)
                    ((VotingProtocol.sampleVote 0xa11ce).journal
                      VotingProtocol.sampleChain.commitment).commitment⟩
               configContract := ((VotingProtocol.sampleVote 0xa11ce).journal
                 VotingProtocol.sampleChain.commitment).configContract
               proposalId := ((VotingProtocol.sampleVote 0xa11ce).journal
                 VotingProtocol.sampleChain.commitment).proposalId
               voter := ((VotingProtocol.sampleVote 0xa11ce).journal
                 VotingProtocol.sampleChain.commitment).voter
               balance := ((VotingProtocol.sampleVote 0xa11ce).journal
                 VotingProtocol.sampleChain.commitment).balance
               direction := ((VotingProtocol.sampleVote 0xa11ce).journal
                 VotingProtocol.sampleChain.commitment).direction } :=
  ⟨VotingProtocol.sampleLibraries_encodesAsSteel,
    voting_journal_round_trip VotingProtocol.sampleLibraries _
      VotingProtocol.sampleLibraries_encodesAsSteel _⟩

namespace ExecutionProtocol

/-- The tally input as the list the journal carries. -/
theorem Input.tally_toList (input : Input) :
    input.tally.toList = [input.tally.get 0, input.tally.get 1, input.tally.get 2] := by
  apply List.ext_getElem (by simp)
  intro index below _
  simp only [Vector.length_toList] at below
  interval_cases index <;> simp [Vector.get_eq_getElem]

/-- The execution guest's journal is a dynamic tuple, whatever its commitment's layout: its
encoding is the offset word `0x20` followed by the tuple. -/
theorem abiEncode_journal (libraries : Strategies.Libraries) (input : Input)
    (commitment : Risc0Steel.Commitment) :
    (input.journal commitment).abiEncode libraries =
      wordBytes 32 ++ ((input.journal commitment).toAbi libraries).encode := by
  have dynamic : ((input.journal commitment).toAbi libraries).isDynamic = true := by
    simp [Journal.toAbi, AbiValue.isDynamic, AbiValue.anyDynamic]
  rw [Journal.abiEncode, abiEncode_single_dynamic _ dynamic]

/-- Under the vendored commitment layout, the execution guest's journal is eleven words: the
offset of the tuple, the commitment's three words, the config contract, the proposal id, the
offset of the tally (six head words), the tally's length, then its entries. -/
theorem abiEncode_journal_words {libraries : Strategies.Libraries}
    {configID : Risc0Steel.Commitment → Bytes32}
    (vendored : Risc0Steel.EncodesAsSteel libraries.commitmentToAbi configID) (input : Input)
    (commitment : Risc0Steel.Commitment) :
    (input.journal commitment).abiEncode libraries =
      ([32, commitment.id, commitment.digest, configID commitment,
        input.configContract.setWidth 256, input.proposalId, 192, 3].map wordBytes).flatten ++
        (wordBytes (input.tally.get 0) ++ wordBytes (input.tally.get 1) ++
          wordBytes (input.tally.get 2)) := by
  rw [abiEncode_journal]
  simp [Journal.toAbi, Input.journal, Input.tally_toList, vendored commitment,
    Steel.Commitment.toAbi, AbiValue.encode, AbiValue.encodeHeads, AbiValue.encodeTails,
    AbiValue.headSize, AbiValue.isDynamic, AbiValue.anyDynamic]

end ExecutionProtocol

/-- How the plugin reads a journal of the execution guest whose commitment encodes as the
vendored one: the id is the tuple offset `0x20`, the digest and the config id are the guest's
commitment id and digest; the config contract is the guest's config id, the proposal id the
guest's config contract, the voter the guest's proposal id, the balance the tally's offset
`0xc0` and the direction its length `3`. The journal does not decode when the config id or the
proposal id does not fit an address. -/
theorem decodeVotingJournal_executionJournal {libraries : Strategies.Libraries}
    {configID : Risc0Steel.Commitment → Bytes32}
    (vendored : Risc0Steel.EncodesAsSteel libraries.commitmentToAbi configID)
    (input : ExecutionProtocol.Input) (commitment : Risc0Steel.Commitment) :
    decodeVotingJournal ((input.journal commitment).abiEncode libraries) =
      if AbiType.address.fits (configID commitment) && AbiType.address.fits input.proposalId then
        some { commitment := ⟨32, commitment.id, commitment.digest⟩
               configContract := (configID commitment).setWidth 160
               proposalId := input.configContract.setWidth 256
               voter := input.proposalId.setWidth 160
               balance := 192
               direction := 3 }
      else none := by
  have lengthFits : (AbiType.uint 8).fits 3 = true := by decide
  rw [ExecutionProtocol.abiEncode_journal_words vendored, decodeVotingJournal_words, lengthFits,
    Bool.and_true]
  rfl

/-- Whatever the layout of the commitment, a journal of the execution guest that the plugin
decodes yields the commitment id `32`, the offset word `abi_encode` puts in front of a dynamic
tuple: the plugin never reads the guest's commitment back unless its id is `32`. -/
theorem execution_journal_shifted (libraries : Strategies.Libraries)
    (input : ExecutionProtocol.Input) (commitment : Risc0Steel.Commitment)
    {decoded : ExecutionJournal}
    (read : decodeVotingJournal ((input.journal commitment).abiEncode libraries) = some decoded) :
    decoded.commitment.id = 32 := by
  have front := take_of_decodeVotingJournal read
  rw [ExecutionProtocol.abiEncode_journal, List.take_left' (length_wordBytes 32)] at front
  have sameWord := congrArg bytesWord front
  rw [bytesWord_wordBytes, bytesWord_wordBytes] at sameWord
  exact sameWord.symm

/-- The execution guest's input for proposal `0` of the test deployment, with a tally of sixty
Yes votes. -/
def sampleTallyInput : ExecutionProtocol.Input where
  dao := daoAddress
  proposalId := 0
  tally := #v[60, 0, 0]
  configContract := pluginAddress

/-- Under the sample libraries, the execution guest's journal for `sampleTallyInput` on the sample
block decodes, with the commitment id `32`. -/
theorem execution_journal_shifted_sample :
    ∃ decoded, decodeVotingJournal ((sampleTallyInput.journal
        VotingProtocol.sampleChain.commitment).abiEncode VotingProtocol.sampleLibraries) =
          some decoded ∧ decoded.commitment.id = 32 := by
  have decoded := decodeVotingJournal_executionJournal
    VotingProtocol.sampleLibraries_encodesAsSteel sampleTallyInput
    VotingProtocol.sampleChain.commitment
  rw [if_pos (by decide)] at decoded
  exact ⟨_, decoded, execution_journal_shifted VotingProtocol.sampleLibraries _ _ decoded⟩

end ZkGovernance
