import MeshCadet.Frames
import MeshCadet.RingBuffer

namespace MeshCadet

/-!
# Flood frames

A device floods what it sends, with the codes of its region in front of the path
when it has one and not at all when its region cannot be keyed.  Copies of a
frame are recognised by a key over the payload type and the payload, which
neither the codes nor the relays on the way change.
-/

open RingBuffer

/-- The region scope of a device. -/
inductive RegionScope where
  | unscoped
  | scoped (key : Vector UInt8 16)
  | unusable
deriving Repr, DecidableEq

/-- The key to send with, or nothing when nothing may be sent. -/
def regionEmission : RegionScope → Option (Option (Vector UInt8 16))
  | .unscoped => some none
  | .scoped key => some (some key)
  | .unusable => none

/-- The codes 0x0000 and 0xFFFF are reserved. -/
def remapTransportCode
    (raw : Vector UInt8 2) :
    Vector UInt8 2 :=
  if raw = #v[0x00, 0x00] then #v[0x01, 0x00]
  else if raw = #v[0xFF, 0xFF] then #v[0xFE, 0xFF]
  else raw

/-- The four transport codes of a scoped frame. -/
def scopedTransportCodes
    (crypto : Crypto)
    (key : Vector UInt8 16)
    (payloadTypeByte : UInt8)
    (payload : List UInt8) :
    Vector UInt8 4 :=
  let code :=
    remapTransportCode
      (crypto.hmacSha256_2 key.toList (payloadTypeByte :: payload))
  #v[code[0], code[1], 0, 0]

/-- The path length byte of a frame without hops, for two-byte hashes. -/
def zeroHops : PathLen :=
  { byte := 0x40 }

/-- The byte is the one the encoder computes. -/
theorem zeroHops_new :
    PathLen.new 2 0 = some zeroHops := by
  decide

/-- Put the header, the codes of the scope and the path length in front of a
payload. -/
def assembleFloodFrame
    (crypto : Crypto)
    (scope : Option (Vector UInt8 16))
    (payloadType : PayloadType)
    (pathLen : PathLen)
    (payload : List UInt8) :
    List UInt8 :=
  match scope with
  | none => Header.new .flood payloadType :: pathLen.byte :: payload
  | some key =>
      Header.new .transportFlood payloadType ::
        (scopedTransportCodes crypto key payloadType.toU8 payload).toList ++
          pathLen.byte :: payload

/-- The payload type and the payload of a frame. -/
def packetPayloadView
    (frame : List UInt8) :
    Option (UInt8 × List UInt8) :=
  match parseRxFrameHeader frame with
  | .ok header =>
      some
        (Header.payloadTypeBits header.headerByte,
          frame.drop header.payloadOff)
  | .error _ => none

/-- The key by which copies of a frame are recognised. -/
def packetDedupKey
    (crypto : Crypto)
    (frame : List UInt8) :
    Vector UInt8 4 :=
  match packetPayloadView frame with
  | some (payloadType, payload) =>
      crypto.leadingHash (payloadType :: payload)
  | none => crypto.leadingHash frame

/-- What the key of a frame is a hash of. -/
def dedupInput
    (frame : List UInt8) :
    List UInt8 :=
  match packetPayloadView frame with
  | some (payloadType, payload) => payloadType :: payload
  | none => frame

/-- The key of a frame is the hash of its input. -/
theorem packetDedupKey_eq
    (crypto : Crypto)
    (frame : List UInt8) :
    packetDedupKey crypto frame = crypto.leadingHash (dedupInput frame) := by
  unfold packetDedupKey dedupInput
  cases packetPayloadView frame <;> rfl

/-- A flooded payload is found again. -/
theorem packetPayloadView_assemble
    (crypto : Crypto)
    (scope : Option (Vector UInt8 16))
    (payloadType : PayloadType)
    (payload : List UInt8) :
    packetPayloadView
        (assembleFloodFrame crypto scope payloadType zeroHops payload) =
      some (payloadType.toU8, payload) := by
  have valid : zeroHops.isValid = true := by
    decide
  have noPath : zeroHops.pathBytes = 0 := by
    decide
  cases scope with
  | none =>
      have noCodes :
          routeCarriesTransportCodes (Header.new .flood payloadType) =
            false := by
        simp [routeCarriesTransportCodes]
      have isZeroHops :
          (PathLen.mk zeroHops.byte) = zeroHops := rfl
      have long : ¬payload.length + 1 + 1 < 2 := by
        omega
      simp [packetPayloadView, assembleFloodFrame, parseRxFrameHeader,
        noCodes, isZeroHops, valid, noPath, long]
  | some key =>
      have codes :
          routeCarriesTransportCodes
              (Header.new .transportFlood payloadType) =
            true := by
        simp [routeCarriesTransportCodes]
      have isZeroHops :
          (PathLen.mk zeroHops.byte) = zeroHops := rfl
      have long : ¬payload.length + 1 + 1 + 1 + 1 + 1 + 1 < 6 := by
        omega
      simp [packetPayloadView, assembleFloodFrame, parseRxFrameHeader,
        codes, isZeroHops, valid, noPath, scopedTransportCodes, long]

/-- The key of a flooded payload does not depend on the scope. -/
theorem packetDedupKey_assemble
    (crypto : Crypto)
    (scope : Option (Vector UInt8 16))
    (payloadType : PayloadType)
    (payload : List UInt8) :
    packetDedupKey crypto
        (assembleFloodFrame crypto scope payloadType zeroHops payload) =
      crypto.leadingHash (payloadType.toU8 :: payload) := by
  simp only [packetDedupKey, packetPayloadView_assemble]

/-- Frames the duplicate filter remembers. -/
def dedupSlots : Nat :=
  128

/-- The keys of the frames heard or sent last. -/
abbrev DuplicateFilter : Type :=
  SeenRing (Vector UInt8 4) dedupSlots

namespace DuplicateFilter

/-- Nothing was heard yet. -/
def new : DuplicateFilter :=
  SeenRing.empty (Vector.replicate 4 0) (by decide)

/-- A frame with the same key was seen. -/
def isDuplicate
    (filter : DuplicateFilter)
    (crypto : Crypto)
    (frame : List UInt8) :
    Bool :=
  filter.contains (packetDedupKey crypto frame)

/-- Record a frame as seen. -/
def insert
    (filter : DuplicateFilter)
    (crypto : Crypto)
    (frame : List UInt8) :
    DuplicateFilter :=
  SeenRing.insert filter (packetDedupKey crypto frame)

end DuplicateFilter

/-- The frame that acknowledges a message. -/
def buildAckFrame
    (crypto : Crypto)
    (ackHash : Vector UInt8 4)
    (scope : Option (Vector UInt8 16)) :
    List UInt8 :=
  assembleFloodFrame crypto scope .ack zeroHops ackHash.toList

end MeshCadet
