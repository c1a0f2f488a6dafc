import ZkGovernance.Plugin.Types
import ZkGovernance.Abi.ByteOrder
import ZkGovernance.Hashing.Binding

/-!
# `StructHash`: tagged struct digests

RISC Zero hashes its structures with `StructHash.taggedStruct` of
`lib/risc0/StructHash.sol`: the `sha256` of a tag digest, the digests of the
struct's fields (`down`), raw data, and the number of fields as two
little-endian bytes, packed by `abi.encodePacked`. `taggedList` hashes a list
as a chain of two-field structs, from the last element to the first, starting
from the zero digest.

The packed message reads back: the count at its end gives the length of the
fields, the tag is in front and the data lies between the fields and the count
(`readTaggedStruct_taggedStructMessage`). A tagged struct digest therefore
binds its tag, its fields and its data, up to a collision of `sha256` at the two
packed messages (`taggedStruct_binds`). The loop of `taggedList` computes the
hash chain of its list (`taggedList_eq_chain`), which binds the list up to a
collision between the links of the two lists or a link whose digest is the zero
digest that stands for the empty list (`taggedList_binds`).
-/

namespace ZkGovernance

open Abi Hashing

namespace Risc0

namespace StructHash

variable (sha256 : Bytes → Bytes32)

/-- `taggedStruct(tagDigest, down, data)`: the tag, the field digests, the data and the number of
fields as `bytes2`, byte-swapped to little-endian, packed and hashed. `down.length.toUint16()`
reverts on more than `2 ^ 16 - 1` fields. The overload without data passes no bytes. -/
def taggedStruct (tagDigest : Bytes32) (down : List Bytes32) (data : Bytes) : Option Bytes32 := do
  let downLen : BitVec 16 ←
    if down.length < 2 ^ 16 then some (BitVec.ofNat 16 down.length) else none
  -- swap the byte order to encode as little-endian.
  let downLenLE := (downLen <<< 8) ||| (downLen >>> 8)
  pure (sha256 (wordBytes tagDigest ++ down.flatMap wordBytes ++ data ++
    toBytesBE 2 downLenLE.toNat))

/-- `taggedListCons(tagDigest, head, tail)`: the two-field struct of an element and the digest of
the list after it. -/
def taggedListCons (tagDigest head tail : Bytes32) : Option Bytes32 :=
  taggedStruct sha256 tagDigest [head, tail] []

/-- `taggedList(tagDigest, list)`: from the zero digest, `taggedListCons` of the elements from the
last to the first; the index `list.length - 1 - i` is always within the list. -/
def taggedList (tagDigest : Bytes32) (list : List Bytes32) : Option Bytes32 :=
  (List.range list.length).foldlM
    (fun curr i => taggedListCons sha256 tagDigest (list.getD (list.length - 1 - i) 0) curr) 0

/-! ## The packed message -/

/-- The message `taggedStruct` hashes, with the field count written little-endian. -/
def taggedStructMessage (tagDigest : Bytes32) (down : List Bytes32) (data : Bytes) : Bytes :=
  wordBytes tagDigest ++ down.flatMap wordBytes ++ data ++ (toBytesBE 2 down.length).reverse

/-- The tag, the fields and the data of a packed tagged struct: the field count from the last two
bytes, the tag from the first 32, the fields from the words after it, and the data from what lies
between the fields and the count. -/
def readTaggedStruct (message : Bytes) : Option (Bytes32 × List Bytes32 × Bytes) :=
  let count := ofBytesBE (message.drop (message.length - 2)).reverse
  if 34 + 32 * count ≤ message.length then
    some (bytesWord (message.take 32),
      (List.range count).map (fun i => bytesWord ((message.drop (32 + 32 * i)).take 32)),
      (message.drop (32 + 32 * count)).take (message.length - 2 - (32 + 32 * count)))
  else none

/-- The byte swap of a 16-bit count writes its two bytes in reverse order. -/
theorem toBytesBE_swap (count : BitVec 16) :
    toBytesBE 2 ((count <<< 8) ||| (count >>> 8)).toNat = (toBytesBE 2 count.toNat).reverse := by
  apply @toBytesBE_reverse_of_getLsbD 2
  intro i lt
  -- the halves' index map is the two-byte reversal's
  have indexMap : ∀ i < 16, (if i < 8 then i + 8 else i - 8) = (2 - 1 - i / 8) * 8 + i % 8 := by
    decide
  have swapped := @getLsbD_swapHalves 8 count i lt
  rw [BitVec.or_comm] at swapped
  rw [swapped, indexMap i lt]

/-- A tagged struct of fewer than `2 ^ 16` fields hashes its packed message. -/
theorem taggedStruct_eq_some {tagDigest : Bytes32} {down : List Bytes32} (data : Bytes)
    (fits : down.length < 2 ^ 16) :
    taggedStruct sha256 tagDigest down data =
      some (sha256 (taggedStructMessage tagDigest down data)) := by
  have count : (BitVec.ofNat 16 down.length).toNat = down.length := by
    rw [BitVec.toNat_ofNat]
    exact Nat.mod_eq_of_lt fits
  simp only [taggedStruct, if_pos fits, Option.bind_eq_bind, Option.bind_some, Option.pure_def,
    taggedStructMessage, toBytesBE_swap, count]

/-- The packed message reads back to the tag, the fields and the data. -/
theorem readTaggedStruct_taggedStructMessage (tagDigest : Bytes32) (down : List Bytes32)
    (data : Bytes) (fits : down.length < 2 ^ 16) :
    readTaggedStruct (taggedStructMessage tagDigest down data) = some (tagDigest, down, data) := by
  have fieldsLength : (down.flatMap wordBytes).length = 32 * down.length := by
    simp [List.length_flatMap, Nat.mul_comm]
  have total : (taggedStructMessage tagDigest down data).length =
      34 + 32 * down.length + data.length := by
    simp only [taggedStructMessage, List.length_append, length_wordBytes, fieldsLength,
      List.length_reverse, length_toBytesBE]
    omega
  -- the last two bytes are the count, reversed back to big-endian
  have count : ofBytesBE ((taggedStructMessage tagDigest down data).drop
      ((taggedStructMessage tagDigest down data).length - 2)).reverse = down.length := by
    have lastTwo : (taggedStructMessage tagDigest down data).drop
        ((taggedStructMessage tagDigest down data).length - 2) =
        (toBytesBE 2 down.length).reverse := by
      rw [total]
      have front : 34 + 32 * down.length + data.length - 2 =
          (wordBytes tagDigest ++ down.flatMap wordBytes ++ data).length := by
        simp only [List.length_append, length_wordBytes, fieldsLength]
        omega
      rw [front, taggedStructMessage, List.drop_left]
    rw [lastTwo, List.reverse_reverse, ofBytesBE_toBytesBE,
      Nat.mod_eq_of_lt (lt_of_lt_of_eq fits (by norm_num))]
  have afterTag : (taggedStructMessage tagDigest down data).drop 32 =
      down.flatMap wordBytes ++ (data ++ (toBytesBE 2 down.length).reverse) := by
    simp only [taggedStructMessage, List.append_assoc]
    exact List.drop_left' (length_wordBytes tagDigest)
  have fields : (List.range down.length).map (fun i =>
      bytesWord (((taggedStructMessage tagDigest down data).drop (32 + 32 * i)).take 32)) =
      down := by
    apply List.ext_get (by simp)
    intro i inRange inDown
    have lt : i < down.length := by simpa using inRange
    rw [List.get_eq_getElem, List.getElem_map, List.getElem_range, ← List.drop_drop, afterTag,
      take_drop_flatMap_wordBytes down _ lt, bytesWord_wordBytes]
  have between : ((taggedStructMessage tagDigest down data).drop (32 + 32 * down.length)).take
      ((taggedStructMessage tagDigest down data).length - 2 - (32 + 32 * down.length)) = data := by
    have dataLength : 34 + 32 * down.length + data.length - 2 - (32 + 32 * down.length) =
        data.length := by
      omega
    rw [total, dataLength, ← List.drop_drop, afterTag, ← fieldsLength, List.drop_left]
    exact List.take_left' rfl
  have tag : bytesWord ((taggedStructMessage tagDigest down data).take 32) = tagDigest := by
    simp only [taggedStructMessage, List.append_assoc]
    rw [List.take_left' (length_wordBytes tagDigest), bytesWord_wordBytes]
  rw [readTaggedStruct, count, if_pos (by omega), tag, fields, between]

/-- A tagged struct that hashes has fewer than `2 ^ 16` fields: the cast of the count reverts
otherwise. -/
theorem length_lt_of_taggedStruct_eq_some {tagDigest digest : Bytes32} {down : List Bytes32}
    {data : Bytes} (hashed : taggedStruct sha256 tagDigest down data = some digest) :
    down.length < 2 ^ 16 := by
  by_contra tooMany
  simp only [taggedStruct, if_neg tooMany, Option.bind_eq_bind, Option.bind_none] at hashed
  exact Option.some_ne_none _ hashed.symm

/-- Two tagged structs with one digest have the same tag, fields and data, or their packed
messages collide under `sha256`. -/
theorem taggedStruct_binds {tagDigest otherTagDigest digest : Bytes32}
    {down otherDown : List Bytes32} {data otherData : Bytes}
    (first : taggedStruct sha256 tagDigest down data = some digest)
    (second : taggedStruct sha256 otherTagDigest otherDown otherData = some digest) :
    (tagDigest, down, data) = (otherTagDigest, otherDown, otherData) ∨
      CollidesAt sha256 (taggedStructMessage tagDigest down data)
        (taggedStructMessage otherTagDigest otherDown otherData) := by
  have firstFits := length_lt_of_taggedStruct_eq_some sha256 first
  have secondFits := length_lt_of_taggedStruct_eq_some sha256 second
  rw [taggedStruct_eq_some sha256 _ firstFits, Option.some.injEq] at first
  rw [taggedStruct_eq_some sha256 _ secondFits, Option.some.injEq] at second
  -- the packed messages read back, so equal digests of them bind the three parts
  exact @eq_or_collidesAt_of_decode Bytes Bytes32 (Bytes32 × List Bytes32 × Bytes) sha256
    (fun value => taggedStructMessage value.1 value.2.1 value.2.2) readTaggedStruct
    (tagDigest, down, data) (otherTagDigest, otherDown, otherData)
    (readTaggedStruct_taggedStructMessage _ _ _ firstFits)
    (readTaggedStruct_taggedStructMessage _ _ _ secondFits) (first.trans second.symm)

/-- Under a constant hash, the structs of two different tags have one digest. -/
example : taggedStruct (fun _ => 0) 0 [] [] = some 0 ∧ taggedStruct (fun _ => 0) 1 [] [] = some 0 :=
  ⟨rfl, rfl⟩

/-! ## Lists -/

/-- The two-field struct `taggedListCons` packs: an element and the digest of the list after
it. -/
def taggedListLink (tagDigest head tail : Bytes32) : Bytes :=
  taggedStructMessage tagDigest [head, tail] []

/-- The links `taggedList` hashes, from the first element's to the last one's. -/
def taggedListMessages (tagDigest : Bytes32) (list : List Bytes32) : List Bytes :=
  chainMessages sha256 (taggedListLink tagDigest) 0 list

/-- `taggedListCons` never reverts: two fields always fit the count. -/
theorem taggedListCons_eq_some (tagDigest head tail : Bytes32) :
    taggedListCons sha256 tagDigest head tail = some (sha256 (taggedListLink tagDigest head tail)) :=
  taggedStruct_eq_some sha256 [] (by simp)

/-- Read from the last index down, the elements of a list are the list reversed. -/
theorem map_range_getD_eq_reverse {α : Type} (list : List α) (default : α) :
    (List.range list.length).map (fun i => list.getD (list.length - 1 - i) default) =
      list.reverse := by
  apply List.ext_get (by simp)
  intro i inMap _
  have lt : i < list.length := by simpa using inMap
  simp [List.getElem_reverse, List.getElem?_eq_getElem (show list.length - 1 - i < list.length by
    omega)]

/-- The loop of `taggedList` computes the hash chain of its list: the zero digest for the empty
list, and for a head and a tail the digest of the two-field struct of the head and the tail's
digest. -/
theorem taggedList_eq_chain (tagDigest : Bytes32) (list : List Bytes32) :
    taggedList sha256 tagDigest list = some (chain sha256 (taggedListLink tagDigest) 0 list) := by
  -- the loop runs over the list reversed, which is a right fold over the list
  have reindexed : taggedList sha256 tagDigest list =
      list.foldrM (fun head tail => taggedListCons sha256 tagDigest head tail) 0 := by
    rw [taggedList, ← List.foldlM_reverse, ← map_range_getD_eq_reverse list 0, List.foldlM_map]
  have folded : ∀ elements : List Bytes32,
      elements.foldrM (fun head tail => taggedListCons sha256 tagDigest head tail) 0 =
        some (chain sha256 (taggedListLink tagDigest) 0 elements) := by
    intro elements
    induction elements with
    | nil => rfl
    | cons head tail inductionHypothesis =>
        rw [List.foldrM_cons, inductionHypothesis]
        exact taggedListCons_eq_some sha256 tagDigest head _
  rw [reindexed, folded]

/-- Two lists with one tagged list digest are equal, or a link of one collides under `sha256`
with a link of the other, or a link of one of them hashes to zero, the digest of the empty
list. -/
theorem taggedList_binds {tagDigest digest : Bytes32} {list otherList : List Bytes32}
    (first : taggedList sha256 tagDigest list = some digest)
    (second : taggedList sha256 tagDigest otherList = some digest) :
    list = otherList ∨
      CollidesIn sha256 (taggedListMessages sha256 tagDigest list)
        (taggedListMessages sha256 tagDigest otherList) ∨
      ∃ message ∈ taggedListMessages sha256 tagDigest list ++
        taggedListMessages sha256 tagDigest otherList, sha256 message = 0 := by
  -- a link reads back to its element and the digest it points to
  have linked : Function.Injective2 (taggedListLink tagDigest) := by
    intro head otherHead tail otherTail same
    have readBack := congrArg readTaggedStruct same
    simp only [taggedListLink] at readBack
    rw [readTaggedStruct_taggedStructMessage _ _ _ (by simp),
      readTaggedStruct_taggedStructMessage _ _ _ (by simp)] at readBack
    simpa using readBack
  rw [taggedList_eq_chain, Option.some.injEq] at first second
  exact chain_eq_or_collision sha256 _ 0 linked (first.trans second.symm)

/-- Under a constant hash, the empty list and a list of one element have one digest: nothing
tells the zero digest the chain ends in from a link that hashes to zero. -/
example : taggedList (fun _ => 0) 0 [] = some 0 ∧ taggedList (fun _ => 0) 0 [5] = some 0 :=
  ⟨rfl, rfl⟩

end StructHash

end Risc0

end ZkGovernance
