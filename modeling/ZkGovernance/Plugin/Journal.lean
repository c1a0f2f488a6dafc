import ZkGovernance.Plugin.RiscVotingProtocolPlugin

/-!
# The plugin's own journal layout

`abi.encode` of a `VotingJournal` on the Solidity side is eight words: the
three words of `Steel.Commitment`, then the five fields. This is the layout
`vote` and `execute` decode, and the plugin's decoder inverts it for every
journal (`decodeVotingJournal_encodeVotingJournal`). Conversely the decoder
accepts nothing else: what decodes starts with the encoding of the journal it
returns (`decodeVotingJournal_eq_some_iff`). Whether the guests produce this
layout is the question of `ZkGovernance.System.Journals`.
-/

namespace ZkGovernance

open Abi

/-- The ABI value of a `VotingJournal`, as `abi.encode` tokenizes the struct: addresses and
`uint8` are zero-extended to words. -/
def VotingJournal.toAbi (journal : VotingJournal) : AbiValue :=
  .tuple [.tuple [.word journal.commitment.id, .word journal.commitment.digest,
      .word journal.commitment.configID],
    .word (journal.configContract.setWidth 256), .word journal.proposalId,
    .word (journal.voter.setWidth 256), .word journal.balance,
    .word (journal.direction.setWidth 256)]

/-- `abi.encode(journal)`. -/
def encodeVotingJournal (journal : VotingJournal) : Bytes :=
  abiEncode [journal.toAbi]

/-- A zero-extended value fits the width it came from. -/
theorem toNat_setWidth_lt {width : Nat} (value : BitVec width) (wider : width ≤ 256) :
    (value.setWidth 256).toNat < 2 ^ width := by
  rw [BitVec.toNat_setWidth, Nat.mod_eq_of_lt (value.isLt.trans_le
    (Nat.pow_le_pow_right (by norm_num) wider))]
  exact value.isLt

/-- Every journal's value is a value of the journal's ABI type. -/
theorem votingJournalType_admits (journal : VotingJournal) :
    votingJournalType.admits journal.toAbi = true := by
  have addressFits := toNat_setWidth_lt journal.configContract (by norm_num)
  have voterFits := toNat_setWidth_lt journal.voter (by norm_num)
  have directionFits := toNat_setWidth_lt journal.direction (by norm_num)
  simp only [votingJournalType, Steel.commitmentType, VotingJournal.toAbi, AbiType.admits,
    AbiType.admitsAll, AbiType.fits, Bool.and_true, Bool.and_eq_true, decide_eq_true_eq]
  exact ⟨journal.commitment.id.isLt, addressFits, journal.proposalId.isLt, voterFits,
    journal.balance.isLt, directionFits⟩

/-- Reading the fields back from the journal's value gives the journal. -/
theorem VotingJournal.ofAbi_toAbi (journal : VotingJournal) :
    VotingJournal.ofAbi journal.toAbi = some journal := by
  have narrow : ∀ {width : Nat} (value : BitVec width), width ≤ 256 →
      (value.setWidth 256).setWidth width = value := by
    intro width value wider
    rw [BitVec.setWidth_setWidth_of_le value wider, BitVec.setWidth_eq]
  simp [VotingJournal.ofAbi, VotingJournal.toAbi, narrow]

/-- A word that fits a narrower width survives narrowing and zero-extension. -/
theorem setWidth_setWidth_of_lt {width : Nat} (word : Word) (fits : word.toNat < 2 ^ width) :
    (word.setWidth width).setWidth 256 = word := by
  apply BitVec.eq_of_toNat_eq
  rw [BitVec.toNat_setWidth, BitVec.toNat_setWidth, Nat.mod_eq_of_lt fits,
    Nat.mod_eq_of_lt word.isLt]

/-- A value of the journal's ABI type is the value of the journal read from it: where the type
admits a word, narrowing it to an address or a `uint8` loses nothing. -/
theorem VotingJournal.toAbi_ofAbi {value : AbiValue} {journal : VotingJournal}
    (admitted : votingJournalType.admits value = true)
    (read : VotingJournal.ofAbi value = some journal) : value = journal.toAbi := by
  unfold VotingJournal.ofAbi at read
  split at read
  case h_1 id digest configID configContract proposalId voter balance direction =>
    simp only [Option.some.injEq] at read
    subst read
    simp only [votingJournalType, Steel.commitmentType, AbiType.admits, AbiType.admitsAll,
      AbiType.fits, Bool.and_true, Bool.and_eq_true, decide_eq_true_eq] at admitted
    obtain ⟨_, contractFits, _, voterFits, _, directionFits⟩ := admitted
    simp [VotingJournal.toAbi, setWidth_setWidth_of_lt _ contractFits,
      setWidth_setWidth_of_lt _ voterFits, setWidth_setWidth_of_lt _ directionFits]
  case h_2 => simp at read

/-- `abi.decode(abi.encode(journal) ++ rest, (VotingJournal))` gives the journal back: trailing
data is ignored. -/
theorem decodeVotingJournal_encodeVotingJournal_append (journal : VotingJournal) (rest : Bytes) :
    decodeVotingJournal (encodeVotingJournal journal ++ rest) = some journal := by
  have static : AbiType.allStatic [votingJournalType] = true := by decide
  have admitted : AbiType.admitsAll [votingJournalType] [journal.toAbi] = true := by
    simp [AbiType.admitsAll, votingJournalType_admits]
  rw [decodeVotingJournal, encodeVotingJournal,
    abiDecode_abiEncode [votingJournalType] [journal.toAbi] rest static admitted]
  exact VotingJournal.ofAbi_toAbi journal

/-- `abi.decode(abi.encode(journal), (VotingJournal))` gives the journal back. -/
@[simp] theorem decodeVotingJournal_encodeVotingJournal (journal : VotingJournal) :
    decodeVotingJournal (encodeVotingJournal journal) = some journal := by
  simpa using decodeVotingJournal_encodeVotingJournal_append journal []

/-- The plugin's decoder on data of at least eight words: it reads the first eight, whatever
follows, and fails when a word in the place of an address or of the `uint8` direction does
not fit. -/
theorem decodeVotingJournal_words (id digest configID configContract proposalId voter balance
    direction : Word) (rest : Bytes) :
    decodeVotingJournal (([id, digest, configID, configContract, proposalId, voter, balance,
        direction].map wordBytes).flatten ++ rest) =
      if AbiType.address.fits configContract && AbiType.address.fits voter &&
          (AbiType.uint 8).fits direction then
        some { commitment := { id, digest, configID }
               configContract := configContract.setWidth 160
               proposalId
               voter := voter.setWidth 160
               balance
               direction := direction.setWidth 8 }
      else none := by
  have long : 32 * AbiType.sumHeadWords [votingJournalType] ≤ (([id, digest, configID,
      configContract, proposalId, voter, balance, direction].map wordBytes).flatten ++
        rest).length := by
    simp [votingJournalType, Steel.commitmentType, AbiType.sumHeadWords, AbiType.headWords,
      AbiType.allStatic, AbiType.isStatic]
    omega
  rw [decodeVotingJournal, abiDecode, if_neg (Nat.not_lt.mpr long)]
  -- the words are read in order; the three checks that can fail decide the outcome
  cases contractFits : AbiType.address.fits configContract <;>
    cases voterFits : AbiType.address.fits voter <;>
    cases directionFits : (AbiType.uint 8).fits direction <;>
    simp [votingJournalType, Steel.commitmentType, AbiType.decodeAll, AbiType.decodeFront,
      VotingJournal.ofAbi, contractFits, voterFits, directionFits]

/-- What the plugin's decoder accepts starts with the encoding of the journal it returns. -/
theorem encodeVotingJournal_append_of_decode {journalData : Bytes} {journal : VotingJournal}
    (decoded : decodeVotingJournal journalData = some journal) :
    ∃ rest, journalData = encodeVotingJournal journal ++ rest := by
  unfold decodeVotingJournal at decoded
  split at decoded
  case h_1 value abiDecoded =>
    obtain ⟨admitted, rest, split⟩ := abiDecode_sound abiDecoded
    have admitsValue : votingJournalType.admits value = true := by
      simpa [AbiType.admitsAll] using admitted
    refine ⟨rest, ?_⟩
    rw [split, encodeVotingJournal, VotingJournal.toAbi_ofAbi admitsValue decoded]
  case h_2 => simp at decoded

/-- The plugin's decoder accepts exactly the data that starts with the encoding of a journal,
and returns that journal: what follows the eight words is ignored, and nothing else decodes. -/
theorem decodeVotingJournal_eq_some_iff (journalData : Bytes) (journal : VotingJournal) :
    decodeVotingJournal journalData = some journal ↔
      ∃ rest, journalData = encodeVotingJournal journal ++ rest := by
  constructor
  · exact encodeVotingJournal_append_of_decode
  · intro ⟨rest, starts⟩
    rw [starts]
    exact decodeVotingJournal_encodeVotingJournal_append journal rest

/-- The encoding of a journal starts with its commitment's id. -/
theorem take_encodeVotingJournal (journal : VotingJournal) :
    (encodeVotingJournal journal).take 32 = wordBytes journal.commitment.id := by
  simp [encodeVotingJournal, abiEncode, VotingJournal.toAbi, AbiValue.encode,
    AbiValue.encodeHeads, AbiValue.encodeTails, AbiValue.isDynamic, AbiValue.anyDynamic]

/-- Data that the plugin's decoder accepts starts with the id of the commitment it returns. -/
theorem take_of_decodeVotingJournal {journalData : Bytes} {journal : VotingJournal}
    (decoded : decodeVotingJournal journalData = some journal) :
    journalData.take 32 = wordBytes journal.commitment.id := by
  obtain ⟨rest, starts⟩ := encodeVotingJournal_append_of_decode decoded
  have long : 32 ≤ (encodeVotingJournal journal).length := by
    have front : ((encodeVotingJournal journal).take 32).length = 32 := by
      rw [take_encodeVotingJournal, length_wordBytes]
    rw [List.length_take] at front
    omega
  rw [starts, List.take_append_of_le_length long, take_encodeVotingJournal]

/-- Data shorter than eight words does not decode. -/
theorem decodeVotingJournal_of_length_lt {journalData : Bytes} (short : journalData.length < 256) :
    decodeVotingJournal journalData = none := by
  have headWords : AbiType.sumHeadWords [votingJournalType] = 8 := by decide
  rw [decodeVotingJournal, abiDecode_of_length_lt (by rw [headWords]; exact short)]

end ZkGovernance
