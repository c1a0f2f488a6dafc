import ZkGovernance.Abi.BigEndian

/-!
# The contract ABI: words, heads and tails

Values of the Solidity contract ABI are written as a sequence of 32-byte
words. An elementary value occupies one word. A tuple writes one head per
component, the component itself when it is static and an offset into the
tail area when it is dynamic, followed by the tails of the dynamic
components. A dynamic array writes its length and then its elements as a
tuple.

`abiEncode` is `abi.encode` in Solidity and the sequence encoding behind
`SolValue::abi_encode` in alloy (a single value is encoded as a sequence of
length one, so a dynamic value gets a leading offset word). `abiDecode` is
`abi.decode` of Solidity's ABI coder v2 for static types: it checks the data
length once, reads the words in order and rejects any word that does not fit
its type. Dynamic types are encoded but not decoded here. The decoder inverts
the encoder on every value of a static type (`abiDecode_abiEncode`), and what
it accepts is such an encoding followed by any bytes (`abiDecode_sound`).
-/

namespace Abi

/-- A 32-byte ABI word. -/
abbrev Word := BitVec 256

/-- The 32 octets of a word, most significant first. -/
def wordBytes (word : Word) : Bytes := toBytesBE 32 word.toNat

/-- The word a string of octets denotes. -/
def bytesWord (bytes : Bytes) : Word := BitVec.ofNat 256 (ofBytesBE bytes)

@[simp] theorem length_wordBytes (word : Word) : (wordBytes word).length = 32 := by
  simp [wordBytes]

@[simp] theorem bytesWord_wordBytes (word : Word) : bytesWord (wordBytes word) = word := by
  apply BitVec.eq_of_toNat_eq
  have bound : word.toNat < 256 ^ 32 := by simpa using word.isLt
  rw [bytesWord, wordBytes, ofBytesBE_toBytesBE, Nat.mod_eq_of_lt bound, BitVec.toNat_ofNat,
    Nat.mod_eq_of_lt word.isLt]

/-- The word at the front of the data and what follows it, if the data holds a whole word. -/
def readFront (data : Bytes) : Option (Word × Bytes) :=
  if 32 ≤ data.length then some (bytesWord (data.take 32), data.drop 32) else none

@[simp] theorem readFront_wordBytes_append (word : Word) (rest : Bytes) :
    readFront (wordBytes word ++ rest) = some (word, rest) := by
  have front : (wordBytes word ++ rest).take 32 = wordBytes word := by simp
  have back : (wordBytes word ++ rest).drop 32 = rest := by simp
  simp [readFront, front, back]

/-- The word read from 32 octets is written back as those octets. -/
theorem wordBytes_bytesWord {chunk : Bytes} (exact : chunk.length = 32) :
    wordBytes (bytesWord chunk) = chunk := by
  have bound : ofBytesBE chunk < 2 ^ 256 := by
    have below := ofBytesBE_lt chunk
    rw [exact] at below
    simpa using below
  rw [wordBytes, bytesWord, BitVec.toNat_ofNat, Nat.mod_eq_of_lt bound, ← exact,
    toBytesBE_ofBytesBE]

/-- What `readFront` reads is a word at the front of the data. -/
theorem readFront_spec {data rest : Bytes} {word : Word}
    (read : readFront data = some (word, rest)) : data = wordBytes word ++ rest := by
  unfold readFront at read
  split_ifs at read with long
  simp only [Option.some.injEq, Prod.mk.injEq] at read
  obtain ⟨rfl, rfl⟩ := read
  rw [wordBytes_bytesWord (by simpa using long), List.take_append_drop]

/-- Word `i` of words written one after the other is read back from offset `32 * i`. -/
theorem take_drop_flatMap_wordBytes (words : List Word) (rest : Bytes) {i : Nat}
    (lt : i < words.length) :
    ((words.flatMap wordBytes ++ rest).drop (32 * i)).take 32 = wordBytes (words.get ⟨i, lt⟩) := by
  induction words generalizing i with
  | nil => exact absurd lt (Nat.not_lt_zero i)
  | cons word words inductionHypothesis =>
      rw [List.flatMap_cons, List.append_assoc]
      cases i with
      | zero => exact List.take_left' (length_wordBytes word)
      | succ i =>
          have skipped : 32 * (i + 1) = (wordBytes word).length + 32 * i := by
            rw [length_wordBytes]
            ring
          rw [skipped, List.drop_length_add_append]
          exact inductionHypothesis (Nat.lt_of_succ_lt_succ lt)

/-- Words written one after the other determine the words. -/
theorem flatMap_wordBytes_injective :
    Function.Injective (fun words : List Word => words.flatMap wordBytes) := by
  intro first second same
  induction first generalizing second with
  | nil =>
      cases second with
      | nil => rfl
      | cons word words =>
          have lengths := congrArg List.length same
          simp only [List.flatMap_cons, List.flatMap_nil, List.length_append, length_wordBytes,
            List.length_nil] at lengths
          omega
  | cons word words inductionHypothesis =>
      cases second with
      | nil =>
          have lengths := congrArg List.length same
          simp only [List.flatMap_cons, List.flatMap_nil, List.length_append, length_wordBytes,
            List.length_nil] at lengths
          omega
      | cons other others =>
          -- the first 32 octets are the first word, the rest the other words
          obtain ⟨front, back⟩ := List.append_inj same (by simp)
          have heads : word = other := by
            rw [← bytesWord_wordBytes word, front, bytesWord_wordBytes]
          rw [heads, inductionHypothesis back]

/-- The UTF-8 bytes of a string, as a string literal is hashed or packed. -/
def utf8Bytes (text : String) : Bytes :=
  text.toUTF8.toList.map UInt8.toBitVec

/-- ABI types, as far as this development meets them. -/
inductive AbiType where
  | uint (bits : Nat)
  | address
  | bytes32
  | array (element : AbiType)
  | tuple (components : List AbiType)

/-- ABI values. An elementary value is kept as the word that carries it. -/
inductive AbiValue where
  | word (value : Word)
  | array (elements : List AbiValue)
  | tuple (components : List AbiValue)

namespace AbiType

/-- Whether a word is a valid value of an elementary type; ABI coder v2 reverts otherwise. -/
def fits : AbiType → Word → Bool
  | .uint bits, word => decide (word.toNat < 2 ^ bits)
  | .address, word => decide (word.toNat < 2 ^ 160)
  | .bytes32, _ => true
  | _, _ => false

mutual
/-- A type is static when its encoding has a fixed size: no dynamic array occurs in it. -/
def isStatic : AbiType → Bool
  | .uint _ => true
  | .address => true
  | .bytes32 => true
  | .array _ => false
  | .tuple components => allStatic components

/-- Every type of the list is static. -/
def allStatic : List AbiType → Bool
  | [] => true
  | type :: rest => type.isStatic && allStatic rest
end

mutual
/-- The number of head words a type occupies inside an enclosing tuple. -/
def headWords : AbiType → Nat
  | .tuple components => if allStatic components then sumHeadWords components else 1
  | _ => 1

/-- The head words of a list of types. -/
def sumHeadWords : List AbiType → Nat
  | [] => 0
  | type :: rest => type.headWords + sumHeadWords rest
end

mutual
/-- Whether a value is a value of a type. -/
def admits : AbiType → AbiValue → Bool
  | .array element, .array elements => admitsEach element elements
  | .tuple components, .tuple values => admitsAll components values
  | .uint bits, .word word => fits (.uint bits) word
  | .address, .word word => fits .address word
  | .bytes32, .word word => fits .bytes32 word
  | _, _ => false

/-- Every value of the list is a value of one type. -/
def admitsEach (element : AbiType) : List AbiValue → Bool
  | [] => true
  | value :: rest => admits element value && admitsEach element rest

/-- The values are values of the types, component by component. -/
def admitsAll : List AbiType → List AbiValue → Bool
  | [], [] => true
  | type :: types, value :: values => admits type value && admitsAll types values
  | _, _ => false
end

end AbiType

namespace AbiValue

mutual
/-- A value is dynamic when an array occurs in it. -/
def isDynamic : AbiValue → Bool
  | .word _ => false
  | .array _ => true
  | .tuple components => anyDynamic components

/-- Some value of the list is dynamic. -/
def anyDynamic : List AbiValue → Bool
  | [] => false
  | value :: rest => value.isDynamic || anyDynamic rest
end

mutual
/-- The ABI encoding of a value. -/
def encode : AbiValue → Bytes
  | .word payload => wordBytes payload
  | .array elements =>
      wordBytes (BitVec.ofNat 256 elements.length) ++
        encodeHeads elements (headSize elements) ++ encodeTails elements
  | .tuple components => encodeHeads components (headSize components) ++ encodeTails components

/-- The size in bytes of the head area of a tuple of these values. -/
def headSize : List AbiValue → Nat
  | [] => 0
  | value :: rest => (if value.isDynamic then 32 else value.encode.length) + headSize rest

/-- The heads of a tuple; `offset` is where the next tail starts, counted from the
start of the tuple. -/
def encodeHeads : List AbiValue → Nat → Bytes
  | [], _ => []
  | value :: rest, offset =>
      if value.isDynamic then
        wordBytes (BitVec.ofNat 256 offset) ++ encodeHeads rest (offset + value.encode.length)
      else value.encode ++ encodeHeads rest offset

/-- The tails of a tuple: the encodings of its dynamic components, in order. -/
def encodeTails : List AbiValue → Bytes
  | [] => []
  | value :: rest => (if value.isDynamic then value.encode else []) ++ encodeTails rest
end

end AbiValue

/-- `abi.encode(values)`: the values encoded as the components of one tuple. -/
def abiEncode (values : List AbiValue) : Bytes :=
  AbiValue.encodeHeads values (AbiValue.headSize values) ++ AbiValue.encodeTails values

namespace AbiType

mutual
/-- Decode a value of a static type from the front of the data, returning what is left.
Every word is checked against its type; dynamic types are not decoded. -/
def decodeFront : AbiType → Bytes → Option (AbiValue × Bytes)
  | .tuple components, data =>
      (decodeAll components data).map fun (values, rest) => (.tuple values, rest)
  | .array _, _ => none
  | type, data =>
      match readFront data with
      | some (word, rest) => if type.fits word then some (.word word, rest) else none
      | none => none

/-- Decode values of a list of static types one after the other. -/
def decodeAll : List AbiType → Bytes → Option (List AbiValue × Bytes)
  | [], data => some ([], data)
  | type :: types, data =>
      match type.decodeFront data with
      | some (value, rest) =>
          (decodeAll types rest).map fun (values, rest') => (value :: values, rest')
      | none => none
end

end AbiType

/-- `abi.decode(data, (types))` for static types: the data must hold every head word,
and each word must fit its type. Trailing data is ignored. -/
def abiDecode (types : List AbiType) (data : Bytes) : Option (List AbiValue) :=
  if data.length < 32 * AbiType.sumHeadWords types then none
  else (AbiType.decodeAll types data).map Prod.fst

/-! ## Static values -/

namespace AbiType

open AbiValue

mutual
/-- A value of a static type contains no array. -/
theorem isDynamic_of_admits : ∀ (type : AbiType) (value : AbiValue),
    type.isStatic = true → type.admits value = true → value.isDynamic = false
  | .uint _, .word _, _, _ => rfl
  | .address, .word _, _, _ => rfl
  | .bytes32, .word _, _, _ => rfl
  | .tuple components, .tuple values, static, admitted => by
      rw [isStatic] at static
      rw [admits] at admitted
      rw [isDynamic]
      exact anyDynamic_of_admitsAll components values static admitted
  | .array _, _, static, _ => by simp [isStatic] at static
  | .uint _, .array _, _, admitted | .uint _, .tuple _, _, admitted
  | .address, .array _, _, admitted | .address, .tuple _, _, admitted
  | .bytes32, .array _, _, admitted | .bytes32, .tuple _, _, admitted
  | .tuple _, .word _, _, admitted | .tuple _, .array _, _, admitted => by
      simp [admits] at admitted

/-- Values of static types contain no array. -/
theorem anyDynamic_of_admitsAll : ∀ (types : List AbiType) (values : List AbiValue),
    allStatic types = true → admitsAll types values = true → anyDynamic values = false
  | [], [], _, _ => rfl
  | type :: types, value :: values, static, admitted => by
      rw [allStatic, Bool.and_eq_true] at static
      rw [admitsAll, Bool.and_eq_true] at admitted
      rw [anyDynamic, isDynamic_of_admits type value static.1 admitted.1,
        anyDynamic_of_admitsAll types values static.2 admitted.2, Bool.or_false]
  | [], _ :: _, _, admitted | _ :: _, [], _, admitted => by simp [admitsAll] at admitted
end

end AbiType

namespace AbiValue

/-- Without dynamic components the heads of a tuple are its components' encodings. -/
theorem encodeHeads_of_static (values : List AbiValue) (offset : Nat)
    (static : anyDynamic values = false) :
    encodeHeads values offset = (values.map encode).flatten := by
  induction values generalizing offset with
  | nil => rfl
  | cons value rest ih =>
      rw [anyDynamic, Bool.or_eq_false_iff] at static
      rw [encodeHeads, if_neg (by simp [static.1]), ih offset static.2, List.map_cons,
        List.flatten_cons]

/-- Without dynamic components a tuple has no tail. -/
theorem encodeTails_of_static (values : List AbiValue) (static : anyDynamic values = false) :
    encodeTails values = [] := by
  induction values with
  | nil => rfl
  | cons value rest ih =>
      rw [anyDynamic, Bool.or_eq_false_iff] at static
      rw [encodeTails, if_neg (by simp [static.1]), ih static.2, List.nil_append]

/-- A tuple without dynamic components is the concatenation of their encodings. -/
theorem encode_tuple_of_static (values : List AbiValue) (static : anyDynamic values = false) :
    (tuple values).encode = (values.map encode).flatten := by
  rw [encode, encodeHeads_of_static values _ static, encodeTails_of_static values static,
    List.append_nil]

end AbiValue

/-- `abi.encode` of static values concatenates their encodings. -/
theorem abiEncode_of_static (values : List AbiValue) (static : AbiValue.anyDynamic values = false) :
    abiEncode values = (values.map AbiValue.encode).flatten := by
  rw [abiEncode, AbiValue.encodeHeads_of_static values _ static,
    AbiValue.encodeTails_of_static values static, List.append_nil]

/-- `abi.encode` of one dynamic value starts with the offset word `32`, then the value:
the encoding `SolValue::abi_encode` gives a struct with a dynamic member. -/
theorem abiEncode_single_dynamic (value : AbiValue) (dynamic : value.isDynamic = true) :
    abiEncode [value] = wordBytes 32 ++ value.encode := by
  simp [abiEncode, AbiValue.encodeHeads, AbiValue.encodeTails, AbiValue.headSize, dynamic]

namespace AbiType

open AbiValue

mutual
/-- A value of a static type occupies `32` bytes per head word. -/
theorem length_encode_of_admits : ∀ (type : AbiType) (value : AbiValue),
    type.isStatic = true → type.admits value = true →
      value.encode.length = 32 * type.headWords
  | .uint _, .word _, _, _ => by simp [encode, headWords]
  | .address, .word _, _, _ => by simp [encode, headWords]
  | .bytes32, .word _, _, _ => by simp [encode, headWords]
  | .tuple components, .tuple values, static, admitted => by
      rw [isStatic] at static
      rw [admits] at admitted
      rw [encode_tuple_of_static values (anyDynamic_of_admitsAll components values static admitted),
        headWords, if_pos static]
      exact length_flatten_of_admitsAll components values static admitted
  | .array _, _, static, _ => by simp [isStatic] at static
  | .uint _, .array _, _, admitted | .uint _, .tuple _, _, admitted
  | .address, .array _, _, admitted | .address, .tuple _, _, admitted
  | .bytes32, .array _, _, admitted | .bytes32, .tuple _, _, admitted
  | .tuple _, .word _, _, admitted | .tuple _, .array _, _, admitted => by
      simp [admits] at admitted

/-- Values of static types occupy `32` bytes per head word of their types. -/
theorem length_flatten_of_admitsAll : ∀ (types : List AbiType) (values : List AbiValue),
    allStatic types = true → admitsAll types values = true →
      (values.map encode).flatten.length = 32 * sumHeadWords types
  | [], [], _, _ => rfl
  | type :: types, value :: values, static, admitted => by
      rw [allStatic, Bool.and_eq_true] at static
      rw [admitsAll, Bool.and_eq_true] at admitted
      rw [List.map_cons, List.flatten_cons, List.length_append,
        length_encode_of_admits type value static.1 admitted.1,
        length_flatten_of_admitsAll types values static.2 admitted.2, sumHeadWords]
      ring
  | [], _ :: _, _, admitted | _ :: _, [], _, admitted => by simp [admitsAll] at admitted
end

mutual
/-- A value of a static type decodes from the front of its encoding, leaving what follows. -/
theorem decodeFront_encode : ∀ (type : AbiType) (value : AbiValue) (rest : Bytes),
    type.isStatic = true → type.admits value = true →
      type.decodeFront (value.encode ++ rest) = some (value, rest)
  | .uint _, .word _, _, _, admitted => by
      rw [admits] at admitted
      simp [decodeFront, encode, admitted]
  | .address, .word _, _, _, admitted => by
      rw [admits] at admitted
      simp [decodeFront, encode, admitted]
  | .bytes32, .word _, _, _, _ => by simp [decodeFront, encode, fits]
  | .tuple components, .tuple values, rest, static, admitted => by
      rw [isStatic] at static
      rw [admits] at admitted
      rw [encode_tuple_of_static values (anyDynamic_of_admitsAll components values static admitted),
        decodeFront, decodeAll_encode components values rest static admitted, Option.map_some]
  | .array _, _, _, static, _ => by simp [isStatic] at static
  | .uint _, .array _, _, _, admitted | .uint _, .tuple _, _, _, admitted
  | .address, .array _, _, _, admitted | .address, .tuple _, _, _, admitted
  | .bytes32, .array _, _, _, admitted | .bytes32, .tuple _, _, _, admitted
  | .tuple _, .word _, _, _, admitted | .tuple _, .array _, _, _, admitted => by
      simp [admits] at admitted

/-- Values of static types decode one after the other from their concatenated encodings. -/
theorem decodeAll_encode : ∀ (types : List AbiType) (values : List AbiValue) (rest : Bytes),
    allStatic types = true → admitsAll types values = true →
      decodeAll types ((values.map encode).flatten ++ rest) = some (values, rest)
  | [], [], _, _, _ => rfl
  | type :: types, value :: values, rest, static, admitted => by
      rw [allStatic, Bool.and_eq_true] at static
      rw [admitsAll, Bool.and_eq_true] at admitted
      rw [List.map_cons, List.flatten_cons, List.append_assoc, decodeAll,
        decodeFront_encode type value _ static.1 admitted.1]
      simp only
      rw [decodeAll_encode types values rest static.2 admitted.2, Option.map_some]
  | [], _ :: _, _, _, admitted | _ :: _, [], _, _, admitted => by simp [admitsAll] at admitted
end

end AbiType

/-- Every word is a `uint256`. -/
@[simp] theorem AbiType.fits_uint256 (word : Word) : (AbiType.uint 256).fits word = true := by
  rw [AbiType.fits, decide_eq_true_eq]
  exact word.isLt

/-- Every word is a `bytes32`. -/
@[simp] theorem AbiType.fits_bytes32 (word : Word) : AbiType.bytes32.fits word = true := rfl

/-- `abi.encode` of static values occupies `32` bytes per head word of their types. -/
theorem length_abiEncode_of_static (types : List AbiType) (values : List AbiValue)
    (static : AbiType.allStatic types = true) (admitted : AbiType.admitsAll types values = true) :
    (abiEncode values).length = 32 * AbiType.sumHeadWords types := by
  rw [abiEncode_of_static values (AbiType.anyDynamic_of_admitsAll types values static admitted)]
  exact AbiType.length_flatten_of_admitsAll types values static admitted

/-- Data shorter than the head words of the types does not decode. -/
theorem abiDecode_of_length_lt {types : List AbiType} {data : Bytes}
    (short : data.length < 32 * AbiType.sumHeadWords types) : abiDecode types data = none := by
  rw [abiDecode, if_pos short]

/-- Round trip: `abi.decode(abi.encode(values), (types))` returns the values, whatever
data follows the encoding. -/
theorem abiDecode_abiEncode (types : List AbiType) (values : List AbiValue) (rest : Bytes)
    (static : AbiType.allStatic types = true) (admitted : AbiType.admitsAll types values = true) :
    abiDecode types (abiEncode values ++ rest) = some values := by
  have noDynamic := AbiType.anyDynamic_of_admitsAll types values static admitted
  have length := AbiType.length_flatten_of_admitsAll types values static admitted
  rw [abiDecode, abiEncode_of_static values noDynamic, if_neg (by simp [length]),
    AbiType.decodeAll_encode types values rest static admitted, Option.map_some]

/-! ## What the decoder accepts -/

namespace AbiType

/-- An elementary type decodes one word that fits it. -/
theorem decodeWord_sound {type : AbiType} {data rest : Bytes} {value : AbiValue}
    (decoded : (match readFront data with
      | some (front, remaining) =>
          if type.fits front then some (AbiValue.word front, remaining) else none
      | none => none) = some (value, rest)) :
    ∃ word, value = .word word ∧ type.fits word = true ∧ data = wordBytes word ++ rest := by
  cases read : readFront data with
  | none => simp [read] at decoded
  | some front =>
      obtain ⟨word, remaining⟩ := front
      simp only [read] at decoded
      split_ifs at decoded with fits
      simp only [Option.some.injEq, Prod.mk.injEq] at decoded
      obtain ⟨rfl, rfl⟩ := decoded
      exact ⟨word, rfl, fits, readFront_spec read⟩

mutual
/-- Decoder soundness: what the decoder reads from the front of the data is the encoding of a
value of the type, which is static, and the rest is what follows that encoding. -/
theorem decodeFront_sound : ∀ (type : AbiType) (data : Bytes) (value : AbiValue) (rest : Bytes),
    type.decodeFront data = some (value, rest) →
      type.isStatic = true ∧ type.admits value = true ∧ data = value.encode ++ rest
  | .uint _, _, _, _, decoded => by
      simp only [decodeFront] at decoded
      obtain ⟨word, rfl, fits, split⟩ := decodeWord_sound decoded
      exact ⟨rfl, fits, split⟩
  | .address, _, _, _, decoded => by
      simp only [decodeFront] at decoded
      obtain ⟨word, rfl, fits, split⟩ := decodeWord_sound decoded
      exact ⟨rfl, fits, split⟩
  | .bytes32, _, _, _, decoded => by
      simp only [decodeFront] at decoded
      obtain ⟨word, rfl, fits, split⟩ := decodeWord_sound decoded
      exact ⟨rfl, fits, split⟩
  | .array _, _, _, _, decoded => by simp [decodeFront] at decoded
  | .tuple components, data, value, rest, decoded => by
      rw [decodeFront, Option.map_eq_some_iff] at decoded
      obtain ⟨⟨values, remaining⟩, decodedAll, same⟩ := decoded
      simp only [Prod.mk.injEq] at same
      obtain ⟨rfl, rfl⟩ := same
      obtain ⟨static, admitted, split⟩ := decodeAll_sound components data values remaining
        decodedAll
      refine ⟨static, admitted, ?_⟩
      rw [AbiValue.encode_tuple_of_static values
        (anyDynamic_of_admitsAll components values static admitted)]
      exact split

/-- Decoder soundness for a list of types: the values are values of the types, which are
static, and the data starts with their concatenated encodings. -/
theorem decodeAll_sound : ∀ (types : List AbiType) (data : Bytes) (values : List AbiValue)
    (rest : Bytes), decodeAll types data = some (values, rest) →
      allStatic types = true ∧ admitsAll types values = true ∧
        data = (values.map AbiValue.encode).flatten ++ rest
  | [], data, values, rest, decoded => by
      simp only [decodeAll, Option.some.injEq, Prod.mk.injEq] at decoded
      obtain ⟨rfl, rfl⟩ := decoded
      exact ⟨rfl, rfl, rfl⟩
  | type :: types, data, values, rest, decoded => by
      rw [decodeAll] at decoded
      cases front : type.decodeFront data with
      | none => simp [front] at decoded
      | some first =>
          obtain ⟨value, middle⟩ := first
          simp only [front, Option.map_eq_some_iff] at decoded
          obtain ⟨⟨others, remaining⟩, decodedRest, same⟩ := decoded
          simp only [Prod.mk.injEq] at same
          obtain ⟨rfl, rfl⟩ := same
          obtain ⟨static, admitted, split⟩ := decodeFront_sound type data value middle front
          obtain ⟨staticRest, admittedRest, splitRest⟩ :=
            decodeAll_sound types middle others remaining decodedRest
          refine ⟨by simp [allStatic, static, staticRest],
            by simp [admitsAll, admitted, admittedRest], ?_⟩
          rw [split, splitRest, List.map_cons, List.flatten_cons, List.append_assoc]
end

end AbiType

/-- `abi.decode` returns only values of the types, read from data that starts with their
encoding. -/
theorem abiDecode_sound {types : List AbiType} {data : Bytes} {values : List AbiValue}
    (decoded : abiDecode types data = some values) :
    AbiType.admitsAll types values = true ∧ ∃ rest, data = abiEncode values ++ rest := by
  unfold abiDecode at decoded
  split_ifs at decoded
  rw [Option.map_eq_some_iff] at decoded
  obtain ⟨⟨decodedValues, rest⟩, decodedAll, rfl⟩ := decoded
  obtain ⟨static, admitted, split⟩ := AbiType.decodeAll_sound types data decodedValues rest
    decodedAll
  refine ⟨admitted, rest, ?_⟩
  rw [abiEncode_of_static decodedValues
    (AbiType.anyDynamic_of_admitsAll types decodedValues static admitted)]
  exact split

end Abi
