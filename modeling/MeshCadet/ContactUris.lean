import MeshCadet.DecimalDigits
import MeshCadet.NmeaDetection
import MeshCadet.QueryText
import MeshCadet.RoomPushes
import MeshCadet.Utf8Text

namespace MeshCadet

/-!
# Contact URIs

A device or a room is handed to other devices as a URI with its name, its key and
its kind.  The name may be any text, so it is escaped.  The URI is read back with its
parameters in any order, and with parameters that are not known.
-/

namespace ContactUri

open QueryText

/-- Why a URI is not read. -/
inductive UriError where
  | notContactUri (uri : List UInt8)
  | malformedParameter (pair : List UInt8)
  | truncatedEscape
  | invalidEscape (hex : List UInt8)
  | invalidUtf8
  | invalidType (value : List UInt8)
  | missingName
  | missingPublicKey
  | missingType
deriving Repr, DecidableEq

/-! ## Escapes -/

/-- The sign of an escape. -/
def percentSign : UInt8 :=
  0x25

/-- Letters, digits and four other characters pass. -/
def isUnreserved
    (byte : UInt8) :
    Bool :=
  0x41 ≤ byte && byte ≤ 0x5A || 0x61 ≤ byte && byte ≤ 0x7A ||
    0x30 ≤ byte && byte ≤ 0x39 || byte == 0x2D || byte == 0x5F ||
    byte == 0x2E || byte == 0x7E

/-- Escape a text. -/
def urlEncode
    (text : List UInt8) :
    List UInt8 :=
  escaped percentSign isUnreserved text

/-- The text may be cut in front of the bytes. -/
def isCharBoundary : List UInt8 → Bool
  | [] => true
  | byte :: _ => !isUtf8Continuation byte

/-- The value of a digit. -/
def digitValue
    (radix : Nat)
    (byte : UInt8) :
    Option Nat :=
  (NmeaDetection.hexDigitValue byte).bind fun value =>
    if value.toNat < radix then some value.toNat else none

/-- Read a number of one byte, which may have a plus sign in front. -/
def fromStrRadix
    (radix : Nat)
    (text : List UInt8) :
    Option UInt8 :=
  let digits := if text.head? = some 0x2B then text.tail else text
  if digits.isEmpty then
    none
  else
    (digits.foldlM
      (fun value byte => do
        let digit ← digitValue radix byte
        let next := value * radix + digit
        if next ≤ 255 then some next else none)
      0).map UInt8.ofNat

/-- Take the escapes away. -/
def percentDecode : List UInt8 → Except UriError (List UInt8)
  | [] => .ok []
  | byte :: rest =>
      if byte = percentSign then
        match rest with
        | first :: second :: rest =>
            if isCharBoundary (first :: second :: rest) &&
                isCharBoundary rest then
              match fromStrRadix 16 [first, second] with
              | some value => (percentDecode rest).map (value :: ·)
              | none => .error (.invalidEscape [first, second])
            else
              .error .truncatedEscape
        | _ => .error .truncatedEscape
      else
        (percentDecode rest).map (byte :: ·)

/-- Take the escapes away, which must leave a text. -/
def urlDecode
    (text : List UInt8) :
    Except UriError (List UInt8) := do
  let bytes ← percentDecode text
  if isUtf8 bytes then
    .ok bytes
  else
    .error .invalidUtf8

/-- Two uppercase digits are read. -/
theorem fromStrRadix_escape
    (byte : UInt8) :
    fromStrRadix 16
        [upperHexDigit (byte >>> 4), upperHexDigit (byte &&& 0x0F)] =
      some byte := by
  have all :
      ∀ n : Fin 256,
        fromStrRadix 16
            [upperHexDigit (UInt8.ofFin n >>> 4),
              upperHexDigit (UInt8.ofFin n &&& 0x0F)] =
          some (UInt8.ofFin n) := by
    decide +kernel
  exact all byte.toFin

/-- Bytes that pass are no continuation bytes and no signs, and neither are digits. -/
theorem isUnreserved_clear
    (byte : UInt8) :
    (isUnreserved byte = true →
        isUtf8Continuation byte = false ∧ byte ≠ percentSign) ∧
      isUtf8Continuation (upperHexDigit (byte >>> 4)) = false := by
  have all :
      ∀ n : Fin 256,
        (isUnreserved (UInt8.ofFin n) = true →
            isUtf8Continuation (UInt8.ofFin n) = false ∧
              UInt8.ofFin n ≠ percentSign) ∧
          isUtf8Continuation (upperHexDigit (UInt8.ofFin n >>> 4)) =
            false := by
    decide +kernel
  exact all byte.toFin

/-- Escapes have two digits behind their sign. -/
theorem urlEncode_cons
    (byte : UInt8)
    (text : List UInt8) :
    urlEncode (byte :: text) =
      if isUnreserved byte then
        byte :: urlEncode text
      else
        percentSign :: upperHexDigit (byte >>> 4) ::
          upperHexDigit (byte &&& 0x0F) :: urlEncode text := by
  rw [urlEncode, escaped, List.flatMap_cons]
  split <;> rfl

/-- What is escaped starts between characters. -/
theorem isCharBoundary_urlEncode
    (text : List UInt8) :
    isCharBoundary (urlEncode text) = true := by
  cases text with
  | nil =>
      rfl
  | cons byte rest =>
      rw [urlEncode_cons]
      split
      · rename_i passes
        rw [isCharBoundary, ((isUnreserved_clear byte).1 passes).1]
        rfl
      · rfl

/-- Escapes are taken away. -/
theorem percentDecode_urlEncode
    (text : List UInt8) :
    percentDecode (urlEncode text) = .ok text := by
  induction text with
  | nil =>
      rfl
  | cons byte rest inductionHypothesis =>
      rw [urlEncode_cons]
      split
      · rename_i passes
        have notSign := ((isUnreserved_clear byte).1 passes).2
        rw [percentDecode.eq_def]
        simp only [if_neg notSign, inductionHypothesis]
        rfl
      · have between :
            (isCharBoundary
                  (upperHexDigit (byte >>> 4) ::
                    upperHexDigit (byte &&& 0x0F) :: urlEncode rest) &&
                isCharBoundary (urlEncode rest)) =
              true := by
          rw [isCharBoundary_urlEncode, isCharBoundary,
            (isUnreserved_clear byte).2]
          rfl
        rw [percentDecode, if_pos rfl]
        simp only [between, if_true, fromStrRadix_escape,
          inductionHypothesis]
        rfl

/-- A text is escaped and read back. -/
theorem urlDecode_urlEncode
    {text : List UInt8}
    (isText : isUtf8 text = true) :
    urlDecode (urlEncode text) = .ok text := by
  rw [urlDecode, percentDecode_urlEncode]
  exact if_pos isText

/-! ## Building and reading -/

/-- What a contact URI starts with. -/
def contactAdd : List UInt8 :=
  ascii "meshcore://contact/add?"

/-- The kind of a room. -/
def uriNodeTypeRoom : UInt8 :=
  3

/-- Digits of a key, two to a byte. -/
def hexEncode
    (bytes : List UInt8) :
    List UInt8 :=
  bytes.flatMap fun byte : UInt8 =>
    [hexDigit (byte >>> 4), hexDigit (byte &&& 0x0F)]

/-- The URI of a device. -/
def buildContactAddUri
    (name pubkeyHex : List UInt8) :
    List UInt8 :=
  contactAdd ++ ascii "name=" ++ urlEncode name ++
    ascii "&public_key=" ++ pubkeyHex ++ ascii "&type=1"

/-- The URI of a room. -/
def buildRoomAddUri
    (name pubkeyHex : List UInt8) :
    List UInt8 :=
  contactAdd ++ ascii "name=" ++ urlEncode name ++
    ascii "&public_key=" ++ pubkeyHex ++ ascii "&type=" ++
    DecimalDigits.decimal uriNodeTypeRoom.toNat

/-- What is read of a contact URI. -/
structure ParsedContactUri where
  name : List UInt8
  pubkeyHex : List UInt8
  nodeType : UInt8
deriving Repr, DecidableEq

/-- The parameters that were read so far. -/
structure Parameters where
  name : Option (List UInt8)
  pubkeyHex : Option (List UInt8)
  nodeType : Option UInt8
deriving Repr, DecidableEq

/-- Read a parameter; one that is not known is skipped. -/
def readParameter
    (parameters : Parameters)
    (pair : List UInt8) :
    Except UriError Parameters :=
  match splitOnce 0x3D pair with
  | none => .error (.malformedParameter pair)
  | some (key, value) =>
      if key = ascii "name" then
        (urlDecode value).map fun name =>
          { parameters with name := some name }
      else if key = ascii "public_key" then
        .ok { parameters with pubkeyHex := some value }
      else if key = ascii "type" then
        match fromStrRadix 10 value with
        | some nodeType =>
            .ok { parameters with nodeType := some nodeType }
        | none => .error (.invalidType value)
      else
        .ok parameters

/-- Read a contact URI. -/
def parseContactUri
    (uri : List UInt8) :
    Except UriError ParsedContactUri :=
  if ¬ contactAdd.isPrefixOf uri then
    .error (.notContactUri uri)
  else do
    let parameters ←
      ((uri.drop contactAdd.length).splitOn 0x26).foldlM readParameter
        { name := none
          pubkeyHex := none
          nodeType := none }
    match parameters.name, parameters.pubkeyHex, parameters.nodeType with
    | none, _, _ => .error .missingName
    | _, none, _ => .error .missingPublicKey
    | _, _, none => .error .missingType
    | some name, some pubkeyHex, some nodeType =>
        .ok
          { name := name
            pubkeyHex := pubkeyHex
            nodeType := nodeType }

/-- The parameters of a contact. -/
def contactPairs
    (name pubkeyHex typeText : List UInt8) :
    List (List UInt8 × List UInt8) :=
  [(ascii "name", urlEncode name), (ascii "public_key", pubkeyHex),
    (ascii "type", typeText)]

/-- The parameter is known. -/
def isKnown
    (pair : List UInt8 × List UInt8) :
    Bool :=
  pair.1 = ascii "name" ∨ pair.1 = ascii "public_key" ∨
    pair.1 = ascii "type"

section Reading

variable {name pubkeyHex typeText : List UInt8} {nodeType : UInt8}

/-- What a parameter of a contact says. -/
def Parameters.told
    (parameters : Parameters)
    (name pubkeyHex : List UInt8)
    (nodeType : UInt8)
    (key : List UInt8) :
    Parameters :=
  { name := if key = ascii "name" then some name else parameters.name
    pubkeyHex :=
      if key = ascii "public_key" then some pubkeyHex
      else parameters.pubkeyHex
    nodeType :=
      if key = ascii "type" then some nodeType else parameters.nodeType }

/-- A parameter of a contact, or one that is not known, is read. -/
theorem readParameter_pairText
    (isText : isUtf8 name = true)
    (isType : fromStrRadix 10 typeText = some nodeType)
    {pair : List UInt8 × List UInt8}
    (unmarked : Unmarked 0x26 0x3D pair)
    (isContact :
      isKnown pair = true → pair ∈ contactPairs name pubkeyHex typeText)
    (parameters : Parameters) :
    readParameter parameters (pairText 0x3D pair) =
      .ok (parameters.told name pubkeyHex nodeType pair.1) := by
  unfold readParameter
  rw [splitOnce_pairText unmarked]
  obtain ⟨key, value⟩ := pair
  simp only
  by_cases isKnownKey : isKnown (key, value) = true
  · have isOne := isContact isKnownKey
    simp only [contactPairs, List.mem_cons, Prod.mk.injEq,
      List.not_mem_nil, or_false] at isOne
    rcases isOne with ⟨rfl, rfl⟩ | ⟨rfl, rfl⟩ | ⟨rfl, rfl⟩
    · rw [if_pos rfl, urlDecode_urlEncode isText]
      rfl
    · rfl
    · rw [isType]
      rfl
  · simp only [isKnown, decide_eq_true_eq, not_or] at isKnownKey
    obtain ⟨noName, noKey, noType⟩ := isKnownKey
    simp only [Parameters.told, if_neg noName, if_neg noKey,
      if_neg noType]

/-- Parameters are read one after the other. -/
theorem foldlM_readParameter
    (isText : isUtf8 name = true)
    (isType : fromStrRadix 10 typeText = some nodeType)
    {pairs : List (List UInt8 × List UInt8)}
    (unmarked : ∀ pair ∈ pairs, Unmarked 0x26 0x3D pair)
    (isContact :
      ∀ pair ∈ pairs,
        isKnown pair = true → pair ∈ contactPairs name pubkeyHex typeText)
    (parameters : Parameters) :
    (pairs.map (pairText 0x3D)).foldlM readParameter parameters =
      .ok
        ((pairs.map Prod.fst).foldl
          (fun parameters key =>
            parameters.told name pubkeyHex nodeType key)
          parameters) := by
  induction pairs generalizing parameters with
  | nil =>
      rfl
  | cons pair rest inductionHypothesis =>
      rw [List.map_cons, List.foldlM_cons,
        readParameter_pairText isText isType
          (unmarked pair List.mem_cons_self)
          (isContact pair List.mem_cons_self)]
      exact
        inductionHypothesis
          (fun pair member => unmarked pair (List.mem_cons_of_mem _ member))
          (fun pair member => isContact pair (List.mem_cons_of_mem _ member))
          _

/-- A parameter that was told stays told. -/
theorem foldl_told
    (keys : List (List UInt8))
    (parameters : Parameters) :
    let told :=
      keys.foldl
        (fun parameters key => parameters.told name pubkeyHex nodeType key)
        parameters
    told.name =
        (if ascii "name" ∈ keys then some name else parameters.name) ∧
      told.pubkeyHex =
        (if ascii "public_key" ∈ keys then some pubkeyHex
        else parameters.pubkeyHex) ∧
      told.nodeType =
        if ascii "type" ∈ keys then some nodeType
        else parameters.nodeType := by
  induction keys generalizing parameters with
  | nil =>
      exact ⟨rfl, rfl, rfl⟩
  | cons key rest inductionHypothesis =>
      obtain ⟨isName, isKey, isType⟩ :=
        inductionHypothesis (parameters.told name pubkeyHex nodeType key)
      have one :
          ∀ {β : Type} (wanted : List UInt8) (value before : β),
            (if wanted ∈ rest then value
                else if key = wanted then value else before) =
              if wanted ∈ key :: rest then value else before := by
        intro β wanted value before
        by_cases isRest : wanted ∈ rest
        · rw [if_pos isRest, if_pos (List.mem_cons_of_mem key isRest)]
        · rw [if_neg isRest]
          by_cases isFirst : key = wanted
          · rw [if_pos isFirst, if_pos (isFirst ▸ List.mem_cons_self)]
          · rw [if_neg isFirst, if_neg]
            rw [List.mem_cons, not_or]
            exact ⟨Ne.symm isFirst, isRest⟩
      exact
        ⟨isName.trans (one _ _ _), isKey.trans (one _ _ _),
          isType.trans (one _ _ _)⟩

/-- A text of parameters is read as they tell. -/
theorem parse_told
    (isText : isUtf8 name = true)
    (isType : fromStrRadix 10 typeText = some nodeType)
    {pairs : List (List UInt8 × List UInt8)}
    (unmarked : ∀ pair ∈ pairs, Unmarked 0x26 0x3D pair)
    (isContact :
      ∀ pair ∈ pairs,
        isKnown pair = true → pair ∈ contactPairs name pubkeyHex typeText)
    (complete :
      ∀ pair ∈ contactPairs name pubkeyHex typeText,
        pair.1 ∈ pairs.map Prod.fst) :
    parseContactUri (contactAdd ++ pairsText 0x26 0x3D pairs) =
      .ok
        { name := name
          pubkeyHex := pubkeyHex
          nodeType := nodeType } := by
  have hasName : ascii "name" ∈ pairs.map Prod.fst :=
    complete (ascii "name", urlEncode name) List.mem_cons_self
  have hasKey : ascii "public_key" ∈ pairs.map Prod.fst :=
    complete (ascii "public_key", pubkeyHex)
      (List.mem_cons_of_mem _ List.mem_cons_self)
  have hasType : ascii "type" ∈ pairs.map Prod.fst :=
    complete (ascii "type", typeText)
      (List.mem_cons_of_mem _
        (List.mem_cons_of_mem _ List.mem_cons_self))
  have nonempty : pairs ≠ [] := by
    rintro rfl
    cases hasName
  have isContactUri :
      contactAdd.isPrefixOf
          (contactAdd ++ pairsText 0x26 0x3D pairs) =
        true :=
    List.isPrefixOf_iff_prefix.mpr (List.prefix_append _ _)
  obtain ⟨isName, isKey, isNodeType⟩ :=
    @foldl_told name pubkeyHex nodeType (pairs.map Prod.fst)
      { name := none
        pubkeyHex := none
        nodeType := none }
  rw [if_pos hasName] at isName
  rw [if_pos hasKey] at isKey
  rw [if_pos hasType] at isNodeType
  unfold parseContactUri
  rw [if_neg (not_not.mpr isContactUri), List.drop_left,
    splitOn_pairsText (by decide) unmarked nonempty,
    foldlM_readParameter isText isType unmarked isContact]
  simp only [bind, Except.bind, isName, isKey, isNodeType]

/-- The digits of a key are neither marks nor signs. -/
theorem mem_hexEncode
    {bytes : List UInt8}
    {digit : UInt8}
    (member : digit ∈ hexEncode bytes) :
    digit ≠ 0x26 := by
  obtain ⟨byte, -, isDigit⟩ := List.mem_flatMap.mp member
  have all :
      ∀ n : Fin 256,
        (0x26 : UInt8) ∉
          [hexDigit (UInt8.ofFin n >>> 4),
            hexDigit (UInt8.ofFin n &&& 0x0F)] := by
    decide +kernel
  rintro rfl
  exact all byte.toFin isDigit

/-- What is escaped has no marks. -/
theorem mem_urlEncode
    {text : List UInt8}
    {byte : UInt8}
    (member : byte ∈ urlEncode text) :
    byte ≠ 0x26 := by
  obtain ⟨source, -, isByte⟩ := List.mem_flatMap.mp member
  have all :
      ∀ n : Fin 256,
        (0x26 : UInt8) ∉
          if isUnreserved (UInt8.ofFin n) then [UInt8.ofFin n]
          else escape percentSign (UInt8.ofFin n) := by
    decide +kernel
  rintro rfl
  exact all source.toFin isByte

end Reading

/-- The URI of a device or room has the three parameters of a contact. -/
theorem unmarked_contactPairs
    {name typeText : List UInt8}
    (pubkey : List UInt8)
    (noMark : 0x26 ∉ typeText) :
    ∀ pair ∈ contactPairs name (hexEncode pubkey) typeText,
      Unmarked 0x26 0x3D pair := by
  intro pair member
  simp only [contactPairs, List.mem_cons, List.not_mem_nil, or_false]
    at member
  rcases member with rfl | rfl | rfl
  · have key : 0x3D ∉ ascii "name" ∧ 0x26 ∉ ascii "name" := by decide
    exact ⟨key.1, key.2, fun isMark => mem_urlEncode isMark rfl⟩
  · have key : 0x3D ∉ ascii "public_key" ∧ 0x26 ∉ ascii "public_key" := by
      decide
    exact ⟨key.1, key.2, fun isMark => mem_hexEncode isMark rfl⟩
  · have key : 0x3D ∉ ascii "type" ∧ 0x26 ∉ ascii "type" := by decide
    exact ⟨key.1, key.2, noMark⟩

/-- The text of the three parameters of a contact. -/
theorem pairsText_contactPairs
    (name pubkeyHex typeText : List UInt8) :
    pairsText 0x26 0x3D (contactPairs name pubkeyHex typeText) =
      ascii "name=" ++ urlEncode name ++ ascii "&public_key=" ++
        pubkeyHex ++ ascii "&type=" ++ typeText := by
  have nameKey : ascii "name=" = ascii "name" ++ [0x3D] := by decide
  have keyKey :
      ascii "&public_key=" = 0x26 :: ascii "public_key" ++ [0x3D] := by
    decide
  have typeKey : ascii "&type=" = 0x26 :: ascii "type" ++ [0x3D] := by
    decide
  rw [nameKey, keyKey, typeKey]
  simp [pairsText, contactPairs, pairText, List.intercalate]

/-- The URI of a device names it. -/
theorem buildContactAddUri_eq
    (name pubkeyHex : List UInt8) :
    buildContactAddUri name pubkeyHex =
      contactAdd ++
        pairsText 0x26 0x3D
          (contactPairs name pubkeyHex (ascii "1")) := by
  have isType : ascii "&type=1" = ascii "&type=" ++ ascii "1" := by decide
  rw [buildContactAddUri, pairsText_contactPairs, isType]
  simp only [List.append_assoc]

/-- The URI of a room names it. -/
theorem buildRoomAddUri_eq
    (name pubkeyHex : List UInt8) :
    buildRoomAddUri name pubkeyHex =
      contactAdd ++
        pairsText 0x26 0x3D
          (contactPairs name pubkeyHex (ascii "3")) := by
  have isType :
      DecimalDigits.decimal uriNodeTypeRoom.toNat = ascii "3" := by
    rw [DecimalDigits.decimal]
    decide
  rw [buildRoomAddUri, pairsText_contactPairs, isType]
  simp only [List.append_assoc]

/-- The kind of a device or a room, as text and as number. -/
def typeOf
    (isRoom : Bool) :
    List UInt8 × UInt8 :=
  if isRoom then (ascii "3", uriNodeTypeRoom) else (ascii "1", 1)

/-- The URI of a device or a room. -/
def buildUri
    (isRoom : Bool)
    (name pubkeyHex : List UInt8) :
    List UInt8 :=
  if isRoom then
    buildRoomAddUri name pubkeyHex
  else
    buildContactAddUri name pubkeyHex

/-- The URI of a device or a room names it. -/
theorem buildUri_eq
    (isRoom : Bool)
    (name pubkeyHex : List UInt8) :
    buildUri isRoom name pubkeyHex =
      contactAdd ++
        pairsText 0x26 0x3D
          (contactPairs name pubkeyHex (typeOf isRoom).1) := by
  cases isRoom with
  | false => exact buildContactAddUri_eq name pubkeyHex
  | true => exact buildRoomAddUri_eq name pubkeyHex

/-- The kind is read. -/
theorem typeOf_clear
    (isRoom : Bool) :
    fromStrRadix 10 (typeOf isRoom).1 = some (typeOf isRoom).2 ∧
      0x26 ∉ (typeOf isRoom).1 := by
  cases isRoom <;> decide

/-- The parameters of a URI of a device or room are read in any order, and among others
that are not known. -/
theorem parse_shuffled
    {name : List UInt8}
    (isText : isUtf8 name = true)
    (pubkey : List UInt8)
    (isRoom : Bool)
    {others pairs : List (List UInt8 × List UInt8)}
    (unknown :
      ∀ pair ∈ others, isKnown pair = false ∧ Unmarked 0x26 0x3D pair)
    (shuffled :
      pairs.Perm
        (contactPairs name (hexEncode pubkey) (typeOf isRoom).1 ++
          others)) :
    parseContactUri (contactAdd ++ pairsText 0x26 0x3D pairs) =
        .ok
          { name := name
            pubkeyHex := hexEncode pubkey
            nodeType := (typeOf isRoom).2 } ∧
      parseContactUri (buildUri isRoom name (hexEncode pubkey)) =
        parseContactUri (contactAdd ++ pairsText 0x26 0x3D pairs) := by
  obtain ⟨isType, noMark⟩ := typeOf_clear isRoom
  have unmarked := @unmarked_contactPairs name _ pubkey noMark
  have read :
      parseContactUri (contactAdd ++ pairsText 0x26 0x3D pairs) =
        .ok
          { name := name
            pubkeyHex := hexEncode pubkey
            nodeType := (typeOf isRoom).2 } := by
    refine parse_told isText isType ?_ ?_ ?_
    · intro pair member
      rcases List.mem_append.mp (shuffled.subset member) with
        isContact | isOther
      · exact unmarked pair isContact
      · exact (unknown pair isOther).2
    · intro pair member known
      rcases List.mem_append.mp (shuffled.subset member) with
        isContact | isOther
      · exact isContact
      · rw [(unknown pair isOther).1] at known
        cases known
    · intro pair member
      exact
        List.mem_map_of_mem
          (shuffled.symm.subset (List.mem_append_left others member))
  refine ⟨read, ?_⟩
  rw [read, buildUri_eq]
  exact
    parse_told isText isType unmarked (fun pair member _ => member)
      (fun pair member => List.mem_map_of_mem member)

/-- A room is read from a URI that starts with its kind and ends with a parameter that
is not known. -/
theorem parse_shuffled_room :
    parseContactUri
          (contactAdd ++
            pairsText 0x26 0x3D
              [(ascii "type", ascii "3"), (ascii "public_key", ascii "ab"),
                (ascii "name", ascii "Mom%20%26%20Dad"),
                (ascii "flags", ascii "1")]) =
        .ok
          { name := ascii "Mom & Dad"
            pubkeyHex := hexEncode [0xAB]
            nodeType := 3 } ∧
      parseContactUri (buildUri true (ascii "Mom & Dad") (hexEncode [0xAB])) =
        parseContactUri
          (contactAdd ++
            pairsText 0x26 0x3D
              [(ascii "type", ascii "3"), (ascii "public_key", ascii "ab"),
                (ascii "name", ascii "Mom%20%26%20Dad"),
                (ascii "flags", ascii "1")]) := by
  refine
    @parse_shuffled (ascii "Mom & Dad") (by decide +kernel) [0xAB] true
      [(ascii "flags", ascii "1")] _ ?_ (by decide +kernel)
  intro pair member
  cases List.mem_singleton.mp member
  exact
    ⟨by decide +kernel, by decide +kernel, by decide +kernel,
      by decide +kernel⟩

end ContactUri

end MeshCadet
