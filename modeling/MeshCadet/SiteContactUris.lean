import Mathlib.Data.Nat.Digits.Defs
import MeshCadet.ContactUris
import MeshCadet.SiteCodec

namespace MeshCadet

/-!
# Contact URIs of the provisioning page

The page writes the same URIs as the host's commands, byte for byte, from any string
for a name, and the host reads them back.
-/

namespace SiteContactUri

open ContactUri JavaScript QueryText

/-- The units of a text in ASCII. -/
def units
    (text : String) :
    List UInt16 :=
  (ascii text).map UInt8.toUInt16

/-- A digit in base sixteen. -/
def digit16
    (digit : Nat) :
    UInt16 :=
  UInt16.ofNat (if digit < 10 then 0x30 + digit else 0x57 + digit)

/-- The digits of a number in base sixteen. -/
def toString16
    (n : Nat) :
    List UInt16 :=
  if n = 0 then [0x30] else ((Nat.digits 16 n).map digit16).reverse

/-- Uppercase letters. -/
def toUpperCase
    (text : List UInt16) :
    List UInt16 :=
  text.map fun unit =>
    if 0x61 ≤ unit ∧ unit ≤ 0x7A then unit - 0x20 else unit

/-- A text with zeros in front. -/
def padStart
    (text : List UInt16)
    (length : Nat) :
    List UInt16 :=
  List.replicate (length - text.length) 0x30 ++ text

/-- Escape a text. -/
def urlEncode
    (str : List UInt16) :
    List UInt16 :=
  (encodeUtf8 str).flatMap fun b : UInt8 =>
    if 0x41 ≤ b && b ≤ 0x5A || 0x61 ≤ b && b ≤ 0x7A ||
        0x30 ≤ b && b ≤ 0x39 || b == 0x2D || b == 0x5F || b == 0x2E ||
        b == 0x7E then
      [b.toUInt16]
    else
      0x25 :: padStart (toUpperCase (toString16 b.toNat)) 2

/-- Digits of bytes, two to a byte. -/
def bytesToHex
    (bytes : List UInt8) :
    List UInt16 :=
  bytes.flatMap fun b : UInt8 => padStart (toString16 b.toNat) 2

/-- A name, or a label with the first byte of the key. -/
def nameOr
    (label : List UInt16)
    (name : List UInt16)
    (pubkey : List UInt8) :
    List UInt16 :=
  if 0 < name.length then
    name
  else
    label ++ padStart (toUpperCase (toString16 (pubkey.getD 0 0).toNat)) 2

/-- The URI of a device. -/
def buildContactUri
    (identity : SiteCodec.RspIdentity (List UInt16)) :
    List UInt16 :=
  let name := nameOr (units "MeshCadet-") identity.deviceName identity.pubkey
  units "meshcore://contact/add?name=" ++ urlEncode name ++
    units "&public_key=" ++ bytesToHex identity.pubkey ++ units "&type=1"

/-- The URI of a room. -/
def buildRoomUri
    (name : List UInt16)
    (pubkey : List UInt8) :
    List UInt16 :=
  let displayName := nameOr (units "Room-") name pubkey
  units "meshcore://contact/add?name=" ++ urlEncode displayName ++
    units "&public_key=" ++ bytesToHex pubkey ++ units "&type=" ++
    units "3"

/-- A byte has one digit or two. -/
theorem toString16_byte
    {n : Nat}
    (isByte : n < 256) :
    toString16 n =
      if n < 16 then [digit16 n] else [digit16 (n / 16), digit16 (n % 16)] := by
  unfold toString16
  split
  · rename_i zero
    subst zero
    rfl
  · rename_i nonzero
    split
    · rename_i small
      rw [Nat.digits_of_lt 16 n nonzero small]
      rfl
    · rename_i large
      rw [Nat.digits_def' (by decide) (Nat.pos_of_ne_zero nonzero),
        Nat.digits_of_lt 16 (n / 16) (by omega) (by omega)]
      rfl

/-- The digits of a byte are those of the host. -/
theorem padStart_toString16
    (byte : UInt8) :
    padStart (toString16 byte.toNat) 2 =
        [(hexDigit (byte >>> 4)).toUInt16,
          (hexDigit (byte &&& 0x0F)).toUInt16] ∧
      padStart (toUpperCase (toString16 byte.toNat)) 2 =
        [(upperHexDigit (byte >>> 4)).toUInt16,
          (upperHexDigit (byte &&& 0x0F)).toUInt16] := by
  have all :
      ∀ n : Fin 256,
        padStart
              (if n.val < 16 then [digit16 n.val]
              else [digit16 (n.val / 16), digit16 (n.val % 16)]) 2 =
            [(hexDigit (UInt8.ofFin n >>> 4)).toUInt16,
              (hexDigit (UInt8.ofFin n &&& 0x0F)).toUInt16] ∧
          padStart
              (toUpperCase
                (if n.val < 16 then [digit16 n.val]
                else [digit16 (n.val / 16), digit16 (n.val % 16)])) 2 =
            [(upperHexDigit (UInt8.ofFin n >>> 4)).toUInt16,
              (upperHexDigit (UInt8.ofFin n &&& 0x0F)).toUInt16] := by
    decide +kernel
  rw [toString16_byte byte.toNat_lt]
  exact all byte.toFin

/-- The page escapes a text as the host does. -/
theorem urlEncode_eq
    (str : List UInt16) :
    urlEncode str =
      (ContactUri.urlEncode (encodeUtf8 str)).map UInt8.toUInt16 := by
  rw [urlEncode, ContactUri.urlEncode, escaped, List.map_flatMap]
  refine List.flatMap_congr fun byte _ => ?_
  rw [isUnreserved, (padStart_toString16 byte).2]
  split <;> rfl

/-- The page writes digits as the host does. -/
theorem bytesToHex_eq
    (bytes : List UInt8) :
    bytesToHex bytes = (hexEncode bytes).map UInt8.toUInt16 := by
  rw [bytesToHex, hexEncode, List.map_flatMap]
  exact List.flatMap_congr fun byte _ => (padStart_toString16 byte).1

/-- What a contact URI starts with, and its first key. -/
theorem contactAdd_name :
    ascii "meshcore://contact/add?name=" = contactAdd ++ ascii "name=" := by
  decide

/-- The URI of a device is that of the host. -/
theorem buildContactUri_eq
    (identity : SiteCodec.RspIdentity (List UInt16)) :
    buildContactUri identity =
      (buildContactAddUri
        (encodeUtf8
          (nameOr (units "MeshCadet-") identity.deviceName identity.pubkey))
        (hexEncode identity.pubkey)).map UInt8.toUInt16 := by
  simp only [buildContactUri, buildContactAddUri, urlEncode_eq,
    bytesToHex_eq, units, contactAdd_name, List.map_append]

/-- The URI of a room is that of the host. -/
theorem buildRoomUri_eq
    (name : List UInt16)
    (pubkey : List UInt8) :
    buildRoomUri name pubkey =
      (buildRoomAddUri
        (encodeUtf8 (nameOr (units "Room-") name pubkey))
        (hexEncode pubkey)).map UInt8.toUInt16 := by
  have isType :
      DecimalDigits.decimal uriNodeTypeRoom.toNat = ascii "3" := by
    rw [DecimalDigits.decimal]
    decide
  simp only [buildRoomUri, buildRoomAddUri, urlEncode_eq,
    bytesToHex_eq, isType, units, contactAdd_name, List.map_append]

/-- The value of a character: not above the last one, and no surrogate. -/
def IsScalar
    (scalar : Nat) :
    Prop :=
  scalar < 0x110000 ∧ (scalar < 0xD800 ∨ 0xDFFF < scalar)

/-- A byte that is written as a number. -/
theorem le_ofNat_iff
    {bound : UInt8}
    {n : Nat}
    (isByte : n < 256) :
    (bound ≤ UInt8.ofNat n ↔ bound.toNat ≤ n) ∧
      (UInt8.ofNat n ≤ bound ↔ n ≤ bound.toNat) ∧
      (UInt8.ofNat n < bound ↔ n < bound.toNat) ∧
      (UInt8.ofNat n = bound ↔ n = bound.toNat) := by
  have isNat : (UInt8.ofNat n).toNat = n := by
    rw [UInt8.toNat_ofNat', Nat.mod_eq_of_lt isByte]
  simp only [UInt8.le_iff_toNat_le, UInt8.lt_iff_toNat_lt,
    ← UInt8.toNat_inj, isNat]
  trivial

/-- A continuation byte is one. -/
theorem isUtf8Continuation_continuation
    (scalar shift : Nat) :
    isUtf8Continuation (continuation scalar shift) = true := by
  have below := Nat.mod_lt (scalar / shift) (show 0 < 64 by decide)
  have small : 0x80 + scalar / shift % 64 < 256 := by omega
  rw [isUtf8Continuation_iff, continuation, UInt8.toNat_ofNat',
    Nat.mod_eq_of_lt small]
  omega

/-- The bytes of a value are a character. -/
theorem utf8Char_scalarBytes
    {scalar : Nat}
    (isScalar : IsScalar scalar) :
    Utf8Char (scalarBytes scalar) := by
  obtain ⟨atMost, noSurrogate⟩ := isScalar
  unfold scalarBytes
  split
  · rename_i one
    refine .one ((le_ofNat_iff (by omega)).2.2.1.mpr ?_)
    exact one
  split
  · rename_i atLeast two
    have isByte : 0xC0 + scalar / 64 < 256 := by omega
    refine .two ?_ ?_ (isUtf8Continuation_continuation _ _)
    · rw [(le_ofNat_iff isByte).2.2.1]
      change ¬ 0xC0 + scalar / 64 < 0x80
      omega
    · rw [Bool.and_eq_true, decide_eq_true_eq, decide_eq_true_eq,
        (le_ofNat_iff isByte).1, (le_ofNat_iff isByte).2.1]
      change 0xC2 ≤ 0xC0 + scalar / 64 ∧ 0xC0 + scalar / 64 ≤ 0xDF
      omega
  split
  · rename_i _ atLeast three
    have isByte : 0xE0 + scalar / 4096 < 256 := by omega
    refine .three ?_ ?_ ?_ ?_ (isUtf8Continuation_continuation _ _)
    · rw [(le_ofNat_iff isByte).2.2.1]
      change ¬ 0xE0 + scalar / 4096 < 0x80
      omega
    · rw [Bool.and_eq_true, decide_eq_true_eq, decide_eq_true_eq,
        (le_ofNat_iff isByte).1, (le_ofNat_iff isByte).2.1]
      change ¬ (0xC2 ≤ 0xE0 + scalar / 4096 ∧ 0xE0 + scalar / 4096 ≤ 0xDF)
      omega
    · rw [Bool.and_eq_true, decide_eq_true_eq, decide_eq_true_eq,
        (le_ofNat_iff isByte).1, (le_ofNat_iff isByte).2.1]
      change 0xE0 ≤ 0xE0 + scalar / 4096 ∧ 0xE0 + scalar / 4096 ≤ 0xEF
      omega
    · have isSecond : 0x80 + scalar / 64 % 64 < 256 := by omega
      have continues := isUtf8Continuation_continuation scalar 64
      rw [continuation] at continues
      simp only [isUtf8Second3, continuation, continues, Bool.true_and,
        Bool.and_eq_true, Bool.or_eq_true, bne_iff_ne, ne_eq,
        decide_eq_true_eq, (le_ofNat_iff isByte).2.2.2, (le_ofNat_iff isSecond).1,
        (le_ofNat_iff isSecond).2.1]
      change
        (¬ 0xE0 + scalar / 4096 = 0xE0 ∨
            0xA0 ≤ 0x80 + scalar / 64 % 64) ∧
          (¬ 0xE0 + scalar / 4096 = 0xED ∨
            0x80 + scalar / 64 % 64 ≤ 0x9F)
      omega
  · rename_i _ _ atLeast
    have isByte : 0xF0 + scalar / 262144 < 256 := by omega
    refine
      .four ?_ ?_ ?_ ?_ ?_ (isUtf8Continuation_continuation _ _)
        (isUtf8Continuation_continuation _ _)
    · rw [(le_ofNat_iff isByte).2.2.1]
      change ¬ 0xF0 + scalar / 262144 < 0x80
      omega
    · rw [Bool.and_eq_true, decide_eq_true_eq, decide_eq_true_eq,
        (le_ofNat_iff isByte).1, (le_ofNat_iff isByte).2.1]
      change
        ¬ (0xC2 ≤ 0xF0 + scalar / 262144 ∧
          0xF0 + scalar / 262144 ≤ 0xDF)
      omega
    · rw [Bool.and_eq_true, decide_eq_true_eq, decide_eq_true_eq,
        (le_ofNat_iff isByte).1, (le_ofNat_iff isByte).2.1]
      change
        ¬ (0xE0 ≤ 0xF0 + scalar / 262144 ∧
          0xF0 + scalar / 262144 ≤ 0xEF)
      omega
    · rw [Bool.and_eq_true, decide_eq_true_eq, decide_eq_true_eq,
        (le_ofNat_iff isByte).1, (le_ofNat_iff isByte).2.1]
      change
        0xF0 ≤ 0xF0 + scalar / 262144 ∧ 0xF0 + scalar / 262144 ≤ 0xF4
      omega
    · have isSecond : 0x80 + scalar / 4096 % 64 < 256 := by omega
      have continues := isUtf8Continuation_continuation scalar 4096
      rw [continuation] at continues
      simp only [isUtf8Second4, continuation, continues, Bool.true_and,
        Bool.and_eq_true, Bool.or_eq_true, bne_iff_ne, ne_eq,
        decide_eq_true_eq, (le_ofNat_iff isByte).2.2.2, (le_ofNat_iff isSecond).1,
        (le_ofNat_iff isSecond).2.1]
      change
        (¬ 0xF0 + scalar / 262144 = 0xF0 ∨
            0x90 ≤ 0x80 + scalar / 4096 % 64) ∧
          (¬ 0xF0 + scalar / 262144 = 0xF4 ∨
            0x80 + scalar / 4096 % 64 ≤ 0x8F)
      omega

/-- The value of a unit outside pairs. -/
theorem isScalar_loneScalar
    (unit : UInt16) :
    IsScalar (loneScalar unit) := by
  have isUnit := unit.toNat_lt
  unfold loneScalar
  split
  · exact ⟨by decide, .inr (by decide)⟩
  · rename_i notSurrogate
    simp only [isSurrogate, Bool.and_eq_true, decide_eq_true_eq,
      UInt16.le_iff_toNat_le] at notSurrogate
    change ¬ (0xD800 ≤ unit.toNat ∧ unit.toNat ≤ 0xDFFF) at notSurrogate
    constructor
    · omega
    · omega

/-- The value of a pair. -/
theorem isScalar_pairScalar
    {high low : UInt16}
    (isPair : (isHighSurrogate high && isLowSurrogate low) = true) :
    IsScalar (pairScalar high low) := by
  simp only [isHighSurrogate, isLowSurrogate, Bool.and_eq_true,
    decide_eq_true_eq, UInt16.le_iff_toNat_le] at isPair
  obtain ⟨⟨highLeast, highMost⟩, lowLeast, lowMost⟩ := isPair
  change 0xD800 ≤ high.toNat at highLeast
  change high.toNat ≤ 0xDBFF at highMost
  change 0xDC00 ≤ low.toNat at lowLeast
  change low.toNat ≤ 0xDFFF at lowMost
  unfold pairScalar
  constructor
  · omega
  · omega

/-- Any string is encoded as valid UTF-8. -/
theorem text_encodeUtf8
    (str : List UInt16) :
    utf8.Text (encodeUtf8 str) := by
  induction str using encodeUtf8.induct with
  | case1 =>
      exact .nil
  | case2 unit =>
      exact .ofWord (utf8Char_scalarBytes (isScalar_loneScalar unit))
  | case3 unit next rest isPair inductionHypothesis =>
      rw [encodeUtf8, if_pos isPair]
      exact
        .cons (utf8Char_scalarBytes (isScalar_pairScalar isPair))
          inductionHypothesis
  | case4 unit next rest notPair inductionHypothesis =>
      rw [encodeUtf8, if_neg notPair]
      exact
        .cons (utf8Char_scalarBytes (isScalar_loneScalar unit))
          inductionHypothesis

/-- The URIs of the page are those of the host for the same name, and the host reads
back the name, the key and the kind. -/
theorem site_uris_read
    (identity : SiteCodec.RspIdentity (List UInt16))
    (roomName : List UInt16)
    (roomPubkey : List UInt8) :
    let name :=
      encodeUtf8
        (nameOr (units "MeshCadet-") identity.deviceName identity.pubkey)
    let room := encodeUtf8 (nameOr (units "Room-") roomName roomPubkey)
    buildContactUri identity =
        (buildContactAddUri name (hexEncode identity.pubkey)).map
          UInt8.toUInt16 ∧
      buildRoomUri roomName roomPubkey =
        (buildRoomAddUri room (hexEncode roomPubkey)).map UInt8.toUInt16 ∧
      parseContactUri ((buildContactUri identity).map UInt16.toUInt8) =
        .ok
          { name := name
            pubkeyHex := hexEncode identity.pubkey
            nodeType := 1 } ∧
      parseContactUri
          ((buildRoomUri roomName roomPubkey).map UInt16.toUInt8) =
        .ok
          { name := room
            pubkeyHex := hexEncode roomPubkey
            nodeType := 3 } := by
  have asBytes :
      ∀ bytes : List UInt8,
        (bytes.map UInt8.toUInt16).map UInt16.toUInt8 = bytes := by
    intro bytes
    rw [List.map_map]
    exact List.map_id'' (fun byte => UInt8.toUInt8_toUInt16 byte) bytes
  have isText :
      ∀ str : List UInt16, isUtf8 (encodeUtf8 str) = true :=
    fun str => isUtf8_of_text (text_encodeUtf8 str)
  refine ⟨buildContactUri_eq identity, buildRoomUri_eq roomName roomPubkey,
    ?_, ?_⟩
  · rw [buildContactUri_eq, asBytes, buildContactAddUri_eq]
    exact
      parse_told (isText _) (by decide)
        (unmarked_contactPairs identity.pubkey (by decide))
        (fun pair member _ => member)
        (fun pair member => List.mem_map_of_mem member)
  · rw [buildRoomUri_eq, asBytes, buildRoomAddUri_eq]
    exact
      parse_told (isText _) (by decide)
        (unmarked_contactPairs roomPubkey (by decide))
        (fun pair member _ => member)
        (fun pair member => List.mem_map_of_mem member)

end SiteContactUri

end MeshCadet
