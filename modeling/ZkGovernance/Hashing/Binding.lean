import Mathlib

/-!
# Binding of digests

A digest binds the data it was computed from when two different data cannot
give it without a collision of the hash function. A collision is always named
here: two different messages that the two computations actually hashed and
that have one digest (`CollidesAt`, and `CollidesIn` for the lists of messages
two computations hash). A bare "some collision exists" would say nothing, since
every hash from an infinite set of messages to a finite set of digests has one.
The hash function is a parameter throughout.

A hash of an encoding that reads back (`decode (encode x) = some x`) binds
the value encoded: two values with one digest are equal, or their encodings
collide (`eq_or_collidesAt_of_decode`); so does a hash of an injective
encoding, and the digests of a list's elements bind the list
(`map_eq_or_collision`). A hash chain over a list links each element to the
digest of the rest and ends in a fixed digest `nil` (`chain`). It binds the
list up to a collision between the links of the two chains or a link whose
digest is `nil` (`chain_eq_or_collision`): nothing tells the end of the chain
from a link that hashes to `nil`.
-/

namespace Hashing

universe u v w

variable {Message : Type u} {Digest : Type v} {Value : Type w}

/-- Two different messages `first` and `second` with one digest. -/
def CollidesAt (hash : Message → Digest) (first second : Message) : Prop :=
  first ≠ second ∧ hash first = hash second

/-- A message of one computation collides with a message of another, each list holding the
messages one computation hashed. -/
def CollidesIn (hash : Message → Digest) (firstMessages secondMessages : List Message) : Prop :=
  ∃ first ∈ firstMessages, ∃ second ∈ secondMessages, CollidesAt hash first second

section Named

variable {hash : Message → Digest}

theorem CollidesAt.collidesIn {first second : Message} {firstMessages secondMessages : List Message}
    (collides : CollidesAt hash first second) (firstMember : first ∈ firstMessages)
    (secondMember : second ∈ secondMessages) : CollidesIn hash firstMessages secondMessages :=
  ⟨first, firstMember, second, secondMember, collides⟩

/-- A collision among fewer messages is one among more. -/
theorem CollidesIn.mono {firstMessages secondMessages firstMore secondMore : List Message}
    (collides : CollidesIn hash firstMessages secondMessages) (firstSub : firstMessages ⊆ firstMore)
    (secondSub : secondMessages ⊆ secondMore) : CollidesIn hash firstMore secondMore := by
  obtain ⟨first, firstMember, second, secondMember, collision⟩ := collides
  exact ⟨first, firstSub firstMember, second, secondSub secondMember, collision⟩

end Named

/-- Equal digests come from equal messages or a collision of the two. -/
theorem eq_or_collidesAt (hash : Message → Digest) {first second : Message}
    (same : hash first = hash second) : first = second ∨ CollidesAt hash first second := by
  by_cases equal : first = second
  · exact .inl equal
  · exact .inr ⟨equal, same⟩

/-- A hash of encodings that read back binds the values encoded. -/
theorem eq_or_collidesAt_of_decode (hash : Message → Digest) {encode : Value → Message}
    {decode : Message → Option Value} {first second : Value}
    (firstBack : decode (encode first) = some first)
    (secondBack : decode (encode second) = some second)
    (same : hash (encode first) = hash (encode second)) :
    first = second ∨ CollidesAt hash (encode first) (encode second) := by
  rcases eq_or_collidesAt hash same with encoded | collision
  · left
    apply Option.some.inj
    rw [← firstBack, ← secondBack, encoded]
  · exact .inr collision

/-- A hash of an injective encoding binds the values encoded. -/
theorem eq_or_collidesAt_of_injective (hash : Message → Digest) {encode : Value → Message}
    (injective : Function.Injective encode) {first second : Value}
    (same : hash (encode first) = hash (encode second)) :
    first = second ∨ CollidesAt hash (encode first) (encode second) :=
  (eq_or_collidesAt hash same).imp (fun encoded => injective encoded) id

/-- The digests of the elements of two lists, under an injective encoding, are equal only for
equal lists, or two of the encodings collide. -/
theorem map_eq_or_collision (hash : Message → Digest) {encode : Value → Message}
    (injective : Function.Injective encode) :
    ∀ {first second : List Value},
      first.map (fun value => hash (encode value)) = second.map (fun value => hash (encode value)) →
        first = second ∨ CollidesIn hash (first.map encode) (second.map encode)
  | [], [], _ => .inl rfl
  | firstHead :: firstTail, secondHead :: secondTail, same => by
      obtain ⟨heads, tails⟩ := List.cons.inj same
      rcases eq_or_collidesAt_of_injective hash injective heads with sameHead | collision
      · rcases map_eq_or_collision hash injective tails with sameTail | collision
        · exact .inl (sameHead ▸ sameTail ▸ rfl)
        · exact .inr (collision.mono (List.subset_cons_self _ _) (List.subset_cons_self _ _))
      · exact .inr (collision.collidesIn List.mem_cons_self List.mem_cons_self)

/-- The hash chain of a list: `nil` for the empty list, and the hash of the link of the head to
the digest of the tail otherwise. -/
def chain (hash : Message → Digest) (link : Value → Digest → Message) (nil : Digest) :
    List Value → Digest
  | [] => nil
  | head :: tail => hash (link head (chain hash link nil tail))

/-- The links a hash chain hashes, from the head's to the last element's. -/
def chainMessages (hash : Message → Digest) (link : Value → Digest → Message) (nil : Digest) :
    List Value → List Message
  | [] => []
  | head :: tail => link head (chain hash link nil tail) :: chainMessages hash link nil tail

section Chain

variable (hash : Message → Digest) (link : Value → Digest → Message) (nil : Digest)

@[simp] theorem chain_nil : chain hash link nil [] = nil :=
  rfl

@[simp] theorem chain_cons (head : Value) (tail : List Value) :
    chain hash link nil (head :: tail) = hash (link head (chain hash link nil tail)) :=
  rfl

/-- A hash chain whose links determine their element and their digest binds the list, up to a
collision between the links of the two chains or a link that hashes to the empty list's
digest. -/
theorem chain_eq_or_collision (linked : Function.Injective2 link) :
    ∀ {first second : List Value}, chain hash link nil first = chain hash link nil second →
      first = second ∨
        CollidesIn hash (chainMessages hash link nil first) (chainMessages hash link nil second) ∨
        ∃ message ∈ chainMessages hash link nil first ++ chainMessages hash link nil second,
          hash message = nil
  | [], [], _ => .inl rfl
  | [], _ :: _, same => .inr (.inr ⟨_, List.mem_append_right _ List.mem_cons_self, same.symm⟩)
  | _ :: _, [], same => .inr (.inr ⟨_, List.mem_append_left _ List.mem_cons_self, same⟩)
  | firstHead :: firstTail, secondHead :: secondTail, same => by
      -- equal links give equal heads and equal digests of the tails, which bind the tails
      rcases eq_or_collidesAt hash same with linkedSame | collision
      · obtain ⟨heads, tails⟩ := linked linkedSame
        rcases chain_eq_or_collision linked tails with sameTails | collision | ⟨message, member, hit⟩
        · exact .inl (heads ▸ sameTails ▸ rfl)
        · exact .inr (.inl (collision.mono (List.subset_cons_self _ _) (List.subset_cons_self _ _)))
        · refine .inr (.inr ⟨message, ?_, hit⟩)
          rw [List.mem_append] at member ⊢
          exact member.imp (List.mem_cons_of_mem _) (List.mem_cons_of_mem _)
      · exact .inr (.inl (collision.collidesIn List.mem_cons_self List.mem_cons_self))

end Chain

end Hashing
