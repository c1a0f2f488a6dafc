import ZkGovernance.Guest.Strategies

/-!
# The `voting_protocol` guest

`methods/guest/src/bin/voting_protocol.rs` reads a vote (signature, voter,
DAO, proposal, direction, balance, config contract, delegation data), recovers
the signer of the vote's digest, reads the proposal's config from the config
contract at the block of its input, sums the voting power the voter claims
through its delegations, checks the direction and that the balance is that
power, and commits the ABI encoding of its `Journal`.

`main` returns the committed journal, `none` when the guest panics. What a
committed journal claims is checked: its direction, a positive balance, and
that the balance is the voter's computed power
(`committed_vote_claims_voting_power`). Who signed is not: the signer
`ecrecover` computes is only printed, the check that it is the voter is
commented out in the source, and the voter is not part of the signed message.
-/

namespace ZkGovernance

open Abi Strategies

namespace VotingProtocol

/-- `ETH_SEPOLIA_CHAIN_SPEC.chain_id()`. -/
def sepoliaChainId : Uint64 := 11155111

/-- `PREFIX`, the prefix of an Ethereum signed 32-byte message. -/
def signedMessagePrefix : Bytes := utf8Bytes "\x19Ethereum Signed Message:\n32"

/-- The message `hash_vote` hashes first: the chain id, the DAO, the proposal id, the
direction and the balance, big-endian in 8, 20, 32, 1 and 32 bytes. -/
def voteMessage (chainId : Uint64) (dao : Address) (proposalId : Uint256) (direction : Uint8)
    (balance : Uint256) : Bytes :=
  toBytesBE 8 chainId.toNat ++ toBytesBE 20 dao.toNat ++ toBytesBE 32 proposalId.toNat ++
    [direction] ++ toBytesBE 32 balance.toNat

/-- `hash_vote`: the Keccak-256 of the prefixed Keccak-256 of the vote message. -/
def hashVote (keccak256 : Bytes → Bytes32) (chainId : Uint64) (dao : Address)
    (proposalId : Uint256) (direction : Uint8) (balance : Uint256) : Bytes32 :=
  keccak256 (signedMessagePrefix ++
    wordBytes (keccak256 (voteMessage chainId dao proposalId direction balance)))

/-- `RecoveryId::from_byte`: ids `0` to `3`. -/
def recoveryIdFromByte (byte : Uint8) : Option Uint8 :=
  if byte ≤ 3 then some byte else none

/-- `into_recovery_id`: the Ethereum conventions for `v`, then `RecoveryId::from_byte`. -/
def intoRecoveryId (v : Uint8) : Option Uint8 :=
  let candidate : Option Uint8 :=
    match v.toNat with
    | 0 => some 0
    | 1 => some 1
    | 27 => some 0
    | 28 => some 1
    | value => if 35 ≤ value then some (BitVec.ofNat 8 ((value - 1) % 2)) else none
  candidate.bind recoveryIdFromByte

/-- `ecrecover(v, rs, digest)`: the address of the key that signed `digest`, the last 20
bytes of the Keccak-256 of the uncompressed key without its tag byte. Every failure panics. -/
def ecrecover (libraries : Libraries) (v : Uint8) (rs : Bytes) (digest : Bytes32) :
    Option Address := do
  let recoveryId ← intoRecoveryId v
  let encodedKey ← libraries.recoverFromPrehash digest rs recoveryId
  pure (addressFromSlice ((wordBytes (libraries.keccak256 (encodedKey.drop 1))).drop 12))

/-- The guest's `Journal`, with the block's commitment. -/
structure Journal where
  commitment : Risc0Steel.Commitment
  configContract : Address
  proposalId : Uint256
  voter : Address
  balance : Uint256
  direction : Uint8
  deriving DecidableEq, Repr

/-- The ABI value of a journal, as `sol!` tokenizes it: addresses and `uint8` are zero-extended
to words. -/
def Journal.toAbi (libraries : Libraries) (journal : Journal) : AbiValue :=
  .tuple [libraries.commitmentToAbi journal.commitment,
    .word (journal.configContract.setWidth 256), .word journal.proposalId,
    .word (journal.voter.setWidth 256), .word journal.balance,
    .word (journal.direction.setWidth 256)]

/-- `journal.abi_encode()`. -/
def Journal.abiEncode (libraries : Libraries) (journal : Journal) : Bytes :=
  Abi.abiEncode [journal.toAbi libraries]

/-- The guest's inputs after the EVM input, in the order it reads them. -/
structure Input where
  signature : String
  voter : Address
  dao : Address
  proposalId : Uint256
  direction : Uint8
  balance : Uint256
  configContract : Address
  additionalDelegationData : String

/-- The closure `main` maps over the config's assets: the delegations the voter claims for the
asset, each delegate's power divided by its ratio, summed. An invalid delegation panics. -/
def assetVotingPower (libraries : Libraries) (context : Context) (voter : Address)
    (additionalDelegationData : String) (asset : Asset) : Option Uint256 := do
  let additionalData ← libraries.bytesFromStr additionalDelegationData
  let delegations ← context.processDelegationStrategy libraries voter asset additionalData
  match delegations with
  | .error _ => none
  | .ok delegations =>
      delegations.foldlM (fun total delegation => do
          let votingPower ←
            context.processVotingStrategy asset.votingPowerStrategy delegation.delegate asset
          let share ← divOrPanic votingPower delegation.ratio
          pure (share + total)) 0

/-- `total_voting_power`: the power claimed for each asset of the config, summed. -/
def totalVotingPowerOf (libraries : Libraries) (context : Context) (voter : Address)
    (additionalDelegationData : String) (config : RiscVotingProtocolConfig) : Option Uint256 :=
  config.assets.foldlM (fun total asset => do
      let power ← assetVotingPower libraries context voter additionalDelegationData asset
      pure (total + power)) 0

/-- The journal `main` commits once every check has passed. -/
def Input.journal (input : Input) (commitment : Risc0Steel.Commitment) : Journal where
  commitment := commitment
  configContract := input.configContract
  proposalId := input.proposalId
  voter := input.voter
  balance := input.balance
  direction := input.direction

/-- `main`: the journal the guest commits on a block, or `none` when it panics. -/
def main (libraries : Libraries) (env : ChainView) (input : Input) : Option Bytes := do
  let digest := hashVote libraries.keccak256 sepoliaChainId input.dao input.proposalId
    input.direction input.balance
  let byteSignature ← libraries.fromHex input.signature
  let v ← byteSignature[64]?
  let rs := byteSignature.take 64
  -- the recovered signer is only printed
  let _signatureAddress ← ecrecover libraries v rs digest
  let configReturns ← env.votingProtocolConfig input.configContract input.proposalId
  let config ← libraries.parseConfig configReturns
  let context := Context.default env
  let totalVotingPower ←
    totalVotingPowerOf libraries context input.voter input.additionalDelegationData config
  guard (input.direction = 1 ∨ input.direction = 2 ∨ input.direction = 3)
  guard (0 < input.balance)
  guard (input.balance = totalVotingPower)
  pure ((input.journal context.blockCommitment).abiEncode libraries)

/-! ## What the guest commits -/

/-- The converse of `main_spec`: when every step succeeds and every check holds, the guest
commits the journal. -/
theorem main_eq_of_checks {libraries : Libraries} {env : ChainView} {input : Input}
    {byteSignature : Bytes} {v : Uint8} {signer : Address} {configReturns : String}
    {config : RiscVotingProtocolConfig} {totalVotingPower : Uint256}
    (decoded : libraries.fromHex input.signature = some byteSignature)
    (recoveryByte : byteSignature[64]? = some v)
    (recovered : ecrecover libraries v (byteSignature.take 64) (hashVote libraries.keccak256
      sepoliaChainId input.dao input.proposalId input.direction input.balance) = some signer)
    (configured : env.votingProtocolConfig input.configContract input.proposalId =
      some configReturns)
    (parsed : libraries.parseConfig configReturns = some config)
    (summed : totalVotingPowerOf libraries (Context.default env) input.voter
      input.additionalDelegationData config = some totalVotingPower)
    (direction : input.direction = 1 ∨ input.direction = 2 ∨ input.direction = 3)
    (positive : 0 < input.balance) (claimed : input.balance = totalVotingPower) :
    main libraries env input = some ((input.journal env.commitment).abiEncode libraries) := by
  subst claimed
  simp only [main, decoded, recoveryByte, recovered, configured, parsed, summed, direction,
    positive, Option.bind_eq_bind, Option.bind, guard, if_true]
  rfl

/-- Every journal the guest commits is a vote for Abstain, Yes or No with a positive balance,
and that balance is exactly the voting power the guest computes for the voter, on the
committed block, under the config that the config contract serves for the proposal. -/
theorem committed_vote_claims_voting_power {libraries : Libraries} {env : ChainView}
    {input : Input} {journalData : Bytes}
    (committed : main libraries env input = some journalData) :
    journalData = (input.journal env.commitment).abiEncode libraries ∧
      (input.direction = 1 ∨ input.direction = 2 ∨ input.direction = 3) ∧ 0 < input.balance ∧
      ∃ configReturns config, env.votingProtocolConfig input.configContract input.proposalId =
          some configReturns ∧ libraries.parseConfig configReturns = some config ∧
        totalVotingPowerOf libraries (Context.default env) input.voter
          input.additionalDelegationData config = some input.balance := by
  simp only [main, Option.bind_eq_bind, Option.bind_eq_some_iff, Option.pure_def,
    Option.some.injEq, Option.guard_eq_some', exists_const] at committed
  -- the signature is decoded and recovered, but nothing after it reads the signer
  obtain ⟨-, -, -, -, -, -, configReturns, configured, config, parsed, totalVotingPower, summed,
    direction, positive, claimed, written⟩ := committed
  subst claimed
  exact ⟨written.symm, direction, positive, configReturns, config, configured, parsed, summed⟩

/-- The power claimed for an asset through one listed account whose delegation to the voter has
a nonzero ratio: that account's power divided by the ratio. -/
theorem assetVotingPower_single {libraries : Libraries} {env : ChainView}
    {voter holder : Address} {additionalDelegationData : String} {asset : Asset}
    {ratio power : Uint256}
    (listed : libraries.bytesFromStr additionalDelegationData = some (toBytesBE 20 holder.toNat))
    (registered : defaultDelegationStrategies asset.delegation.strategy =
      some .splitDelegation)
    (derived : SplitDelegation.delegationOf libraries env voter asset holder =
      some (some { delegate := holder, ratio }))
    (positive : ratio ≠ 0)
    (holding : (Context.default env).processVotingStrategy asset.votingPowerStrategy holder asset =
      some power) :
    assetVotingPower libraries (Context.default env) voter additionalDelegationData asset =
      some (power / ratio) := by
  have delegated : (Context.default env).processDelegationStrategy libraries voter asset
      (toBytesBE 20 holder.toNat) = some (.ok [{ delegate := holder, ratio }]) := by
    simp [Context.processDelegationStrategy, Context.default, registered,
      SplitDelegation.process, splitDelegation_single derived]
  simp only [assetVotingPower, listed, delegated, holding, divOrPanic, Option.bind_eq_bind,
    Option.bind_some, List.foldlM_cons, List.foldlM_nil]
  simp only [if_neg positive]
  simp

/-- The power claimed for an asset through one listed account that delegated to no one is
that account's power, whoever votes. -/
theorem assetVotingPower_undelegated {libraries : Libraries} {env : ChainView}
    {voter holder : Address} {additionalDelegationData : String} {asset : Asset}
    {power : Uint256}
    (listed : libraries.bytesFromStr additionalDelegationData = some (toBytesBE 20 holder.toNat))
    (registered : defaultDelegationStrategies asset.delegation.strategy =
      some .splitDelegation)
    (undelegated : env.getDelegation asset.delegation.contract
      (libraries.addressToString asset.contract) holder = some [])
    (holding : (Context.default env).processVotingStrategy asset.votingPowerStrategy holder asset =
      some power) :
    assetVotingPower libraries (Context.default env) voter additionalDelegationData asset =
      some power := by
  have derived : SplitDelegation.delegationOf libraries env voter asset holder =
      some (some { delegate := holder, ratio := 1 }) := by
    simp [SplitDelegation.delegationOf, undelegated, delegationFromList]
  rw [assetVotingPower_single listed registered derived (by decide) holding]
  simp

/-- With `v = 27`, `ecrecover` asks for recovery id `0` and returns the address of the key it
recovers. -/
theorem ecrecover_27 {libraries : Libraries} {rs : Bytes} {digest : Bytes32} {key : Bytes}
    (recoveredKey : libraries.recoverFromPrehash digest rs 0 = some key) :
    ecrecover libraries 27 rs digest =
      some (addressFromSlice ((wordBytes (libraries.keccak256 (key.drop 1))).drop 12)) := by
  have recoveryId : intoRecoveryId 27 = some 0 := by decide
  unfold ecrecover
  rw [recoveryId]
  simp only [Option.bind_eq_bind, Option.bind, recoveredKey]
  rfl

/-! ## A vote is not bound to its signer -/

/-- The account whose tokens the votes below claim. -/
def sampleHolder : Address := 0xcafe

/-- The token of the config below. -/
def sampleToken : Address := 0x70c3

/-- The delegate registry of the config below. -/
def sampleRegistry : Address := 0x4e6

/-- The config contract the votes below name. -/
def sampleConfigContract : Address := 0xc0f

/-- The DAO the votes below are signed for. -/
def sampleDao : Address := 0xda0

/-- A config with one `BalanceOf` asset delegated through `SplitDelegation`. -/
def sampleAsset : Asset where
  contract := sampleToken
  chainId := sepoliaChainId
  votingPowerStrategy := "BalanceOf"
  delegation := { contract := sampleRegistry, strategy := "SplitDelegation" }

/-- The config the config contract serves for proposal `0`. -/
def sampleConfig : RiscVotingProtocolConfig where
  votingProtocolVersion := "1"
  assets := [sampleAsset]
  executionStrategy := "MajorityVoting"

/-- The `r` and `s` words of the signature below. -/
def sampleRs : Bytes := toBytesBE 32 1 ++ toBytesBE 32 1

/-- A signature `(r, s, v) = (1, 1, 27)` in hexadecimal. -/
def sampleSignature : String :=
  "0000000000000000000000000000000000000000000000000000000000000001" ++
    "0000000000000000000000000000000000000000000000000000000000000001" ++ "1b"

/-- A Yes vote of balance `100` on proposal `0`, claiming the holder's tokens. -/
def sampleVote (voter : Address) : Input where
  signature := sampleSignature
  voter := voter
  dao := sampleDao
  proposalId := 0
  direction := 2
  balance := 100
  configContract := sampleConfigContract
  additionalDelegationData := "0x000000000000000000000000000000000000cafe"

/-- One signature serves any voter. With the same signature the guest commits a vote of
`0xa11ce` and a vote of `0xb0b`, so the address the signature recovers to is not the voter of
at least one of the two journals. This holds for every Keccak-256, every hexadecimal decoding
that reads the signature and the delegation data as written, every signature recovery that
accepts the signature, every parse of the config text, and every block in which the config
contract serves the config, the registry lists no delegation of the holder and the holder owns
`100` tokens. -/
theorem vote_journal_not_bound_to_signer (libraries : Libraries) (env : ChainView)
    (configText : String)
    (decoded : libraries.fromHex sampleSignature = some (sampleRs ++ [27]))
    (listed : libraries.bytesFromStr "0x000000000000000000000000000000000000cafe" =
      some (toBytesBE 20 sampleHolder.toNat))
    (recovers : ∃ key, libraries.recoverFromPrehash
      (hashVote libraries.keccak256 sepoliaChainId sampleDao 0 2 100) sampleRs 0 = some key)
    (configured : env.votingProtocolConfig sampleConfigContract 0 = some configText)
    (parsed : libraries.parseConfig configText = some sampleConfig)
    (undelegated : env.getDelegation sampleRegistry (libraries.addressToString sampleToken)
      sampleHolder = some [])
    (holding : env.balanceOf sampleToken sampleHolder = some 100) :
    ∃ signer, ecrecover libraries 27 sampleRs
        (hashVote libraries.keccak256 sepoliaChainId sampleDao 0 2 100) = some signer ∧
      (signer ≠ 0xa11ce ∨ signer ≠ 0xb0b) ∧
      main libraries env (sampleVote 0xa11ce) =
        some (((sampleVote 0xa11ce).journal env.commitment).abiEncode libraries) ∧
      main libraries env (sampleVote 0xb0b) =
        some (((sampleVote 0xb0b).journal env.commitment).abiEncode libraries) := by
  obtain ⟨key, recoveredKey⟩ := recovers
  have recovered := ecrecover_27 recoveredKey
  have assetPower : ∀ voter, assetVotingPower libraries (Context.default env) voter
      "0x000000000000000000000000000000000000cafe" sampleAsset = some 100 := fun voter =>
    assetVotingPower_undelegated listed (by decide) undelegated (by
      simp [Context.processVotingStrategy, Context.default, defaultVotingPowerStrategies,
        sampleAsset, VotingPowerStrategy.process, BalanceOf.process, holding])
  -- the same checks pass for either voter: nothing the guest checks depends on the voter
  have commits : ∀ voter, main libraries env (sampleVote voter) =
      some (((sampleVote voter).journal env.commitment).abiEncode libraries) := fun voter =>
    main_eq_of_checks decoded (by decide) recovered configured parsed
      (by simp [totalVotingPowerOf, sampleConfig, sampleVote, assetPower])
      (.inr (.inl rfl)) (show (0 : Uint256) < 100 by decide) rfl
  refine ⟨_, recovered, ?_, commits 0xa11ce, commits 0xb0b⟩
  by_cases isFirst : addressFromSlice ((wordBytes (libraries.keccak256 (key.drop 1))).drop 12) =
    0xa11ce
  · exact .inr (by rw [isFirst]; decide)
  · exact .inl isFirst

/-- The configuration id of the sample libraries' commitments. -/
def sampleConfigID : Bytes32 := 0x5e901

/-- Libraries for which the signature recovers: a constant hash, a recovery returning one
fixed key, a parse returning the sample config, hexadecimal decodings returning the sample
signature and the holder's address, and commitments encoded as the vendored `Steel.sol` reads
them. -/
def sampleLibraries : Libraries where
  keccak256 _ := 0
  recoverFromPrehash _ _ _ := some [4]
  parseConfig _ := some sampleConfig
  addressToString _ := ""
  fromHex _ := some (sampleRs ++ [27])
  bytesFromStr _ := some (toBytesBE 20 sampleHolder.toNat)
  commitmentToAbi commitment :=
    Steel.Commitment.toAbi ⟨commitment.id, commitment.digest, sampleConfigID⟩

/-- The sample libraries encode commitments as the vendored `Steel.Commitment`. -/
theorem sampleLibraries_encodesAsSteel :
    Risc0Steel.EncodesAsSteel sampleLibraries.commitmentToAbi (fun _ => sampleConfigID) :=
  fun _ => rfl

/-- A block in which every config read returns `"config"`, no one has delegated, and every
account holds `100` tokens. -/
def sampleChain : ChainView where
  number := 40
  hash := 0
  votingProtocolConfig _ _ := some "config"
  getDelegation _ _ _ := some []
  balanceOf _ _ := some 100
  getTotalSupply _ := some 100
  getPastVotes _ _ _ := none
  getPastTotalSupply _ _ := none

/-- The hypotheses of `vote_journal_not_bound_to_signer` hold for `sampleLibraries` and
`sampleChain`. -/
theorem vote_journal_not_bound_to_signer_sample :
    sampleLibraries.fromHex sampleSignature = some (sampleRs ++ [27]) ∧
    sampleLibraries.bytesFromStr "0x000000000000000000000000000000000000cafe" =
      some (toBytesBE 20 sampleHolder.toNat) ∧
    (∃ key, sampleLibraries.recoverFromPrehash
      (hashVote sampleLibraries.keccak256 sepoliaChainId sampleDao 0 2 100) sampleRs 0 =
        some key) ∧
    sampleChain.votingProtocolConfig sampleConfigContract 0 = some "config" ∧
    sampleLibraries.parseConfig "config" = some sampleConfig ∧
    sampleChain.getDelegation sampleRegistry (sampleLibraries.addressToString sampleToken)
      sampleHolder = some [] ∧
    sampleChain.balanceOf sampleToken sampleHolder = some 100 ∧
    ∃ signer, ecrecover sampleLibraries 27 sampleRs
        (hashVote sampleLibraries.keccak256 sepoliaChainId sampleDao 0 2 100) = some signer ∧
      (signer ≠ 0xa11ce ∨ signer ≠ 0xb0b) ∧
      main sampleLibraries sampleChain (sampleVote 0xa11ce) =
        some (((sampleVote 0xa11ce).journal sampleChain.commitment).abiEncode sampleLibraries) ∧
      main sampleLibraries sampleChain (sampleVote 0xb0b) =
        some (((sampleVote 0xb0b).journal sampleChain.commitment).abiEncode sampleLibraries) :=
  ⟨rfl, rfl, ⟨[4], rfl⟩, rfl, rfl, rfl, rfl,
    vote_journal_not_bound_to_signer sampleLibraries sampleChain "config" rfl rfl ⟨[4], rfl⟩ rfl
      rfl rfl rfl⟩

end VotingProtocol

end ZkGovernance
