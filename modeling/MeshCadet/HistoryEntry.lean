import MeshCadet.Bytes
import MeshCadet.Search

namespace MeshCadet

/-!
# Conversation history entries and their flash records

An entry is stored in a 72-byte blob.  The slot codec reuses that blob and puts
the direction and delivery bits of a message into its last byte, which older
records left zero.
-/

/-- Number of entries a conversation's history keeps. -/
def maxHistoryEntries : Nat :=
  32

/-- Message type tag stored with each history entry. -/
inductive HistoryMsgType where
  | dm
  | grpTxt
deriving Repr, DecidableEq

namespace HistoryMsgType

/-- The tag's byte on flash and on the wire. -/
def toU8 : HistoryMsgType → UInt8
  | dm => 0
  | grpTxt => 1

/-- Recognise a tag byte. -/
def fromU8
    (value : UInt8) :
    Option HistoryMsgType :=
  if value = 0 then
    some dm
  else if value = 1 then
    some grpTxt
  else
    none

@[simp] theorem fromU8_toU8
    (msgType : HistoryMsgType) :
    fromU8 msgType.toU8 = some msgType := by
  cases msgType <;> rfl

/-- No message type is written as the erased byte. -/
theorem toU8_ne_erased
    (msgType : HistoryMsgType) :
    msgType.toU8 ≠ 0xFF := by
  cases msgType <;> decide

end HistoryMsgType

/-- One conversation history entry; only `textLen` bytes of `text` are valid. -/
structure HistoryEntry where
  senderHash : UInt8
  msgType : HistoryMsgType
  timestamp : UInt32
  text : Vector UInt8 64
  textLen : UInt8
deriving Repr, DecidableEq

/-- The 72 bytes of one stored entry. -/
abbrev EntryBlob : Type :=
  Vector UInt8 72

/-- The entry's bytes, in their places, with the given last byte. -/
def entryBlobWithFlags
    (entry : HistoryEntry)
    (flags : UInt8) :
    EntryBlob :=
  Vector.ofFn fun index : Fin 72 =>
    if index.val = 0 then
      entry.senderHash
    else if index.val = 1 then
      entry.msgType.toU8
    else if timestampByte : index.val < 6 then
      (Bytes.u32ToLeBytes entry.timestamp)[index.val - 2]
    else if index.val = 6 then
      entry.textLen
    else if textByte : index.val < 71 then
      entry.text[index.val - 7]
    else
      flags

/-- Encode an entry; the reserved last byte is zero. -/
def encodeEntryBlob
    (entry : HistoryEntry) :
    EntryBlob :=
  entryBlobWithFlags entry 0

/-- Decode an entry; the message type byte is the only one that is checked. -/
def decodeEntryBlob
    (blob : EntryBlob) :
    Option HistoryEntry :=
  (HistoryMsgType.fromU8 blob[1]).map fun msgType =>
    { senderHash := blob[0]
      msgType := msgType
      timestamp :=
        Bytes.u32FromLeBytes #v[blob[2], blob[3], blob[4], blob[5]]
      text := Vector.ofFn fun index : Fin 64 => blob[7 + index.val]
      textLen := blob[6] }

/-- Flag bit of a message sent by this device. -/
def flagIsOurs : UInt8 :=
  0x01

/-- Flag bit of a message whose delivery was acknowledged. -/
def flagAcked : UInt8 :=
  0x02

/-- The flags byte of a slot. -/
def slotFlags
    (isOurs acked : Bool) :
    UInt8 :=
  (if isOurs then flagIsOurs else 0) |||
    (if acked then flagAcked else 0)

/-- What one region slot stores. -/
structure DecodedSlot where
  entry : HistoryEntry
  isOurs : Bool
  acked : Bool
deriving Repr, DecidableEq

namespace DecodedSlot

/-- The slot is an outbound message still waiting for its acknowledgement. -/
def isOursUnacked
    (slot : DecodedSlot) :
    Bool :=
  slot.isOurs && !slot.acked

/-- The same message with its delivery bit set. -/
def markAcked
    (slot : DecodedSlot) :
    DecodedSlot :=
  { slot with acked := true }

end DecodedSlot

/-- Encode one region slot: the entry blob with its last byte set. -/
def encodeSlot
    (slot : DecodedSlot) :
    EntryBlob :=
  (encodeEntryBlob slot.entry).set 71
    (slotFlags slot.isOurs slot.acked)

/-- Decode one region slot; an unrecognised message type yields nothing. -/
def decodeSlot
    (blob : EntryBlob) :
    Option DecodedSlot :=
  (decodeEntryBlob blob).map fun entry =>
    { entry := entry
      isOurs := blob[71] &&& flagIsOurs != 0
      acked := blob[71] &&& flagAcked != 0 }

/-- Index of the newest outbound entry still waiting for its acknowledgement. -/
def findNewestOursUnacked
    (live : List DecodedSlot) :
    Option Nat :=
  Search.findLastIdx? DecodedSlot.isOursUnacked live

/-- The direction bit is read back from the flags byte. -/
theorem slotFlags_isOurs :
    ∀ isOurs acked,
      (slotFlags isOurs acked &&& flagIsOurs != 0) = isOurs := by
  decide

/-- The delivery bit is read back from the flags byte. -/
theorem slotFlags_acked :
    ∀ isOurs acked,
      (slotFlags isOurs acked &&& flagAcked != 0) = acked := by
  decide

/-- Reading back an encoded entry gives the entry, whatever its last byte. -/
theorem decodeEntryBlob_withFlags
    (entry : HistoryEntry)
    (flags : UInt8) :
    decodeEntryBlob (entryBlobWithFlags entry flags) = some entry := by
  have timestampBytes :
      Bytes.u32FromLeBytes
          #v[(Bytes.u32ToLeBytes entry.timestamp)[0],
            (Bytes.u32ToLeBytes entry.timestamp)[1],
            (Bytes.u32ToLeBytes entry.timestamp)[2],
            (Bytes.u32ToLeBytes entry.timestamp)[3]] =
        entry.timestamp :=
    Bytes.u32FromLeBytes_toLeBytes entry.timestamp
  have textBytes :
      (Vector.ofFn fun index : Fin 64 =>
          (entryBlobWithFlags entry flags)[7 + index.val]) =
        entry.text := by
    apply Vector.ext
    intro index inside
    have notType : 7 + index ≠ 1 := by omega
    have notTimestamp : ¬ 7 + index < 6 := by omega
    have notLength : 7 + index ≠ 6 := by omega
    have isText : 7 + index < 71 := by omega
    simp [entryBlobWithFlags, notType, notTimestamp, notLength, isText]
  simp only [decodeEntryBlob, textBytes]
  simp [entryBlobWithFlags, timestampBytes]

/-- A stored slot is its entry's blob with the flags in the last byte. -/
theorem encodeSlot_eq
    (slot : DecodedSlot) :
    encodeSlot slot =
      entryBlobWithFlags slot.entry
        (slotFlags slot.isOurs slot.acked) := by
  apply Vector.ext
  intro index inside
  by_cases last : index = 71
  · subst last
    simp [encodeSlot, encodeEntryBlob, entryBlobWithFlags]
  · have before : index < 71 := by omega
    simp [encodeSlot, encodeEntryBlob, entryBlobWithFlags,
      before, Ne.symm last]

/-- Reading back an encoded slot gives the slot. -/
@[simp] theorem decodeSlot_encodeSlot
    (slot : DecodedSlot) :
    decodeSlot (encodeSlot slot) = some slot := by
  have lastByte :
      (encodeSlot slot)[71] = slotFlags slot.isOurs slot.acked := by
    simp [encodeSlot]
  have entryBack :
      decodeEntryBlob (encodeSlot slot) = some slot.entry := by
    rw [encodeSlot_eq]
    exact decodeEntryBlob_withFlags slot.entry _
  simp [decodeSlot, entryBack, lastByte,
    slotFlags_isOurs, slotFlags_acked]

/-- The message type byte of a stored slot is never an erased byte. -/
theorem encodeSlot_typeByte
    (slot : DecodedSlot) :
    (encodeSlot slot)[1] ≠ 0xFF := by
  simpa [encodeSlot_eq, entryBlobWithFlags] using
    slot.entry.msgType.toU8_ne_erased

end MeshCadet
