import ZkGovernance.Guest.VotingProtocol

/-!
# The delegations a voter claims

A voter lists in `additional_data` the accounts whose voting power it uses,
and `SplitDelegation::process` reads each account's list in the delegate
registry. An account whose list names the voter lends it the share the list
assigns: the list's total ratio divided by the voter's ratio, by which the
voting guest then divides the account's power.

Two things the registry does not check hold of the result. An account with an
empty list is accepted with ratio `1` for every voter, and nothing stops the
same account from being listed twice, so a voter can count the whole power of
any account that never delegated, as often as it likes
(`split_delegation_not_authentic`). And the ratio is a floor quotient, which
can only shrink the divisor: an account that splits its power two to one
between two voters lends the first its whole power and the second a third of
it (`split_delegation_overcounts_delegator`).
-/

namespace ZkGovernance

open Abi Strategies

namespace Strategies

/-- The last 20 bytes of a zero-extended address are that address. -/
theorem compareBytes32ToAddress_setWidth (delegate voter : Address) :
    compareBytes32ToAddress (delegate.setWidth 256) voter = (delegate == voter) := by
  rw [compareBytes32ToAddress, BitVec.setWidth_setWidth_of_le _ (by norm_num),
    BitVec.setWidth_eq]

/-- The chunks of the 20 bytes of two addresses are those addresses, repeated or not. -/
theorem chunksExact_toBytesBE_pair (first second : Address) :
    (chunksExact 20 (toBytesBE 20 first.toNat ++ toBytesBE 20 second.toNat)).map
      addressFromSlice = [first, second] := by
  rw [chunksExact_append (by norm_num) (length_toBytesBE 20 _), List.map_cons,
    chunksExact_toBytesBE_address, addressFromSlice_toBytesBE]

/-- Two listed accounts whose delegations are derived give those delegations, in order. -/
theorem splitDelegation_pair {delegationOf : Address → Option (Option Delegation)}
    {first second : Address} {firstDelegation secondDelegation : Delegation}
    (firstDerived : delegationOf first = some (some firstDelegation))
    (secondDerived : delegationOf second = some (some secondDelegation)) :
    splitDelegation delegationOf (toBytesBE 20 first.toNat ++ toBytesBE 20 second.toNat) =
      some (.ok [firstDelegation, secondDelegation]) := by
  simp [splitDelegation, chunksExact_toBytesBE_pair, firstDerived, secondDerived]

end Strategies

/-! ## Who may be a delegate -/

/-- The delegates a voter should be able to claim: itself, or an account whose registry list
for the asset's context has an entry naming the voter. -/
def NamesVoter (libraries : Libraries) (env : ChainView) (voter : Address) (asset : Asset)
    (delegate : Address) : Prop :=
  delegate = voter ∨
    ∃ registryList, env.getDelegation asset.delegation.contract
        (libraries.addressToString asset.contract) delegate = some registryList ∧
      ∃ entry ∈ registryList, compareBytes32ToAddress entry.delegate voter = true

/-- An account other than the voter with an empty registry list does not name the voter. -/
theorem not_namesVoter_of_undelegated {libraries : Libraries} {env : ChainView}
    {voter : Address} {asset : Asset} {holder : Address}
    (undelegated : env.getDelegation asset.delegation.contract
      (libraries.addressToString asset.contract) holder = some [])
    (other : holder ≠ voter) : ¬ NamesVoter libraries env voter asset holder := by
  rintro (same | ⟨registryList, listed, entry, member, _⟩)
  · exact other same
  · rw [undelegated, Option.some.injEq] at listed
    subst listed
    simp at member

/-- `SplitDelegation::process` accepts, for every voter, an account that is not the voter and
never delegated, listed twice: each copy is a delegation of ratio `1`. The account's list names
nobody, and the account is a delegate twice. -/
theorem split_delegation_not_authentic (libraries : Libraries) (env : ChainView)
    (voter : Address) (asset : Asset) (holder : Address)
    (undelegated : env.getDelegation asset.delegation.contract
      (libraries.addressToString asset.contract) holder = some [])
    (other : holder ≠ voter) :
    ∃ delegations, SplitDelegation.process libraries env voter asset
        (toBytesBE 20 holder.toNat ++ toBytesBE 20 holder.toNat) = some (.ok delegations) ∧
      (∃ delegation ∈ delegations,
        ¬ NamesVoter libraries env voter asset delegation.delegate) ∧
      ¬ (delegations.map Delegation.delegate).Nodup := by
  have derived : SplitDelegation.delegationOf libraries env voter asset holder =
      some (some { delegate := holder, ratio := 1 }) := by
    simp [SplitDelegation.delegationOf, undelegated, delegationFromList]
  refine ⟨[{ delegate := holder, ratio := 1 }, { delegate := holder, ratio := 1 }],
    splitDelegation_pair derived derived, ⟨_, List.mem_cons_self, ?_⟩, by simp⟩
  exact not_namesVoter_of_undelegated undelegated other

/-- The sample holder has no delegations; the sample voter lists it twice. -/
theorem split_delegation_not_authentic_sample :
    VotingProtocol.sampleChain.getDelegation VotingProtocol.sampleAsset.delegation.contract
        (VotingProtocol.sampleLibraries.addressToString VotingProtocol.sampleAsset.contract)
        VotingProtocol.sampleHolder = some [] ∧
      VotingProtocol.sampleHolder ≠ 0xa11ce ∧
      ∃ delegations, SplitDelegation.process VotingProtocol.sampleLibraries
          VotingProtocol.sampleChain 0xa11ce VotingProtocol.sampleAsset
          (toBytesBE 20 VotingProtocol.sampleHolder.toNat ++
            toBytesBE 20 VotingProtocol.sampleHolder.toNat) = some (.ok delegations) ∧
        (∃ delegation ∈ delegations, ¬ NamesVoter VotingProtocol.sampleLibraries
          VotingProtocol.sampleChain 0xa11ce VotingProtocol.sampleAsset delegation.delegate) ∧
        ¬ (delegations.map Delegation.delegate).Nodup :=
  ⟨rfl, by decide, split_delegation_not_authentic _ _ _ _ _ rfl (by decide)⟩

/-- A registry list giving ratio `2` to `first` and `1` to `second`: the delegator lends `first`
the divisor `3 / 2 = 1` and `second` the divisor `3 / 1 = 3`. -/
theorem delegationFromList_twoToOne {first second delegator : Address} (distinct : first ≠ second) :
    delegationFromList first delegator
        [⟨first.setWidth 256, 2⟩, ⟨second.setWidth 256, 1⟩] =
      some (some { delegate := delegator, ratio := 1 }) ∧
    delegationFromList second delegator
        [⟨first.setWidth 256, 2⟩, ⟨second.setWidth 256, 1⟩] =
      some (some { delegate := delegator, ratio := 3 }) := by
  have other : (first == second) = false := by simpa using distinct
  constructor <;>
    simp [delegationFromList, compareBytes32ToAddress_setWidth, other, divOrPanic]

/-- An account whose registry list splits its power two to one between two voters: the first
voter is lent the account's whole power and the second a third of it. Over the shares
`balance * r_i / (r_1 + r_2)`, the first voter's share exceeds `2 / 3` of the balance, and
together the two voters count more than the account holds. -/
theorem split_delegation_overcounts_delegator (libraries : Libraries) (env : ChainView)
    (asset : Asset) (delegator first second : Address) (balance : Uint256)
    (delegationData : String)
    (listed : libraries.bytesFromStr delegationData = some (toBytesBE 20 delegator.toNat))
    (named : asset.delegation.strategy = "SplitDelegation") (distinct : first ≠ second)
    (split : env.getDelegation asset.delegation.contract (libraries.addressToString asset.contract)
      delegator = some [⟨first.setWidth 256, 2⟩, ⟨second.setWidth 256, 1⟩])
    (held : (Context.default env).processVotingStrategy asset.votingPowerStrategy delegator asset =
      some balance)
    (enough : 3 ≤ balance.toNat) :
    ∃ firstShare secondShare,
      VotingProtocol.assetVotingPower libraries (Context.default env) first delegationData asset =
        some firstShare ∧
      VotingProtocol.assetVotingPower libraries (Context.default env) second delegationData asset =
        some secondShare ∧
      balance.toNat * 2 / 3 < firstShare.toNat ∧
      balance.toNat < firstShare.toNat + secondShare.toNat := by
  have registered : defaultDelegationStrategies asset.delegation.strategy =
      some .splitDelegation := by
    rw [named]
    rfl
  obtain ⟨toFirst, toSecond⟩ := @delegationFromList_twoToOne first second delegator distinct
  have firstDerived : SplitDelegation.delegationOf libraries env first asset delegator =
      some (some { delegate := delegator, ratio := 1 }) := by
    rw [SplitDelegation.delegationOf, split]
    exact toFirst
  have secondDerived : SplitDelegation.delegationOf libraries env second asset delegator =
      some (some { delegate := delegator, ratio := 3 }) := by
    rw [SplitDelegation.delegationOf, split]
    exact toSecond
  refine ⟨balance / 1, balance / 3,
    VotingProtocol.assetVotingPower_single listed registered firstDerived (by decide) held,
    VotingProtocol.assetVotingPower_single listed registered secondDerived (by decide) held, ?_⟩
  -- the floor quotients `3 / 2 = 1` and `3 / 1 = 3` divide the balance
  have firstValue : (balance / 1).toNat = balance.toNat := by simp
  have secondValue : (balance / 3).toNat = balance.toNat / 3 := by
    rw [BitVec.toNat_udiv]
    rfl
  rw [firstValue, secondValue]
  omega

/-- The sample chain with a delegator whose registry list splits its power two to one between
`0xa11ce` and `0xb0b`. -/
def splitChain : ChainView :=
  { VotingProtocol.sampleChain with
    getDelegation := fun _ _ _ =>
      some [⟨(0xa11ce : Address).setWidth 256, 2⟩, ⟨(0xb0b : Address).setWidth 256, 1⟩] }

/-- The sample holder, with `100` tokens, splits two to one between `0xa11ce` and `0xb0b`; the
voters list it in hexadecimal. -/
theorem split_delegation_overcounts_delegator_sample :
    VotingProtocol.sampleLibraries.bytesFromStr "0x000000000000000000000000000000000000cafe" =
        some (toBytesBE 20 VotingProtocol.sampleHolder.toNat) ∧
      VotingProtocol.sampleAsset.delegation.strategy = "SplitDelegation" ∧
      (0xa11ce : Address) ≠ 0xb0b ∧
      splitChain.getDelegation VotingProtocol.sampleAsset.delegation.contract
          (VotingProtocol.sampleLibraries.addressToString VotingProtocol.sampleAsset.contract)
          VotingProtocol.sampleHolder =
        some [⟨(0xa11ce : Address).setWidth 256, 2⟩, ⟨(0xb0b : Address).setWidth 256, 1⟩] ∧
      (Context.default splitChain).processVotingStrategy
          VotingProtocol.sampleAsset.votingPowerStrategy VotingProtocol.sampleHolder
          VotingProtocol.sampleAsset = some 100 ∧
      3 ≤ (100 : Uint256).toNat ∧
      ∃ firstShare secondShare,
        VotingProtocol.assetVotingPower VotingProtocol.sampleLibraries
            (Context.default splitChain) 0xa11ce "0x000000000000000000000000000000000000cafe"
            VotingProtocol.sampleAsset = some firstShare ∧
        VotingProtocol.assetVotingPower VotingProtocol.sampleLibraries
            (Context.default splitChain) 0xb0b "0x000000000000000000000000000000000000cafe"
            VotingProtocol.sampleAsset = some secondShare ∧
        (100 : Uint256).toNat * 2 / 3 < firstShare.toNat ∧
        (100 : Uint256).toNat < firstShare.toNat + secondShare.toNat :=
  ⟨rfl, rfl, by decide, rfl, rfl, by decide,
    split_delegation_overcounts_delegator _ _ _ _ _ _ _ _ rfl rfl (by decide) rfl rfl (by decide)⟩

end ZkGovernance
