import MeshCadet.JavaScriptValues
import MeshCadet.ProvisioningRoundTrips

namespace MeshCadet

/-!
# The codec of the provisioning site

The site encodes commands and decodes answers in its own functions.  A name that
it decodes is the text of the bytes; the decoder of texts is a parameter here, so
that names can be compared by their bytes.
-/

namespace SiteCodec

open Outcome JavaScript

/-! ## Frames -/

/-- One bit of the checksum. -/
def crc16Bit
    (crc : Int) :
    Int :=
  if bitAnd crc 1 ≠ 0 then
    bitXor (shiftRight crc 1) 0xA001
  else
    shiftRight crc 1

/-- The checksum of some bytes. -/
def crc16
    (bytes : List UInt8) :
    Int :=
  bitAnd
    (bytes.foldl
      (fun crc byte => Nat.repeat crc16Bit 8 (bitXor crc byte.toNat)) 0)
    0xFFFF

/-- Encode a frame. -/
def encodeFrame
    (frameType : Int)
    (payload : List UInt8) :
    Outcome Unit (List UInt8) := do
  let plen := payload.length
  let out := newUint8Array (frameOverhead + plen)
  let out ← store out 0 0x4D
  let out ← store out 1 0x43
  let out ← store out 2 frameType
  let out ← store out 3 (bitAnd plen 255)
  let out ← store out 4 (bitAnd (shiftRight plen 8) 255)
  let out ← write out 5 payload
  let crc := crc16 (subarray out 0 (5 + plen))
  let out ← store out (5 + plen) (bitAnd crc 255)
  let out ← store out (5 + plen + 1) (bitAnd (shiftRight crc 8) 255)
  pure out

/-- A decoded frame. -/
structure Frame where
  frameType : Int
  payload : List UInt8
deriving Repr, DecidableEq

/-- Decode a frame at the front of a buffer. -/
def decodeFrame
    (buf : List UInt8) :
    Outcome Provisioning.ProvError Frame :=
  if buf.length < frameOverhead then
    .failed .truncatedFrame
  else do
    let magic0 ← element buf 0
    let magic1 ← element buf 1
    if magic0 ≠ 0x4D ∨ magic1 ≠ 0x43 then
      .failed .badMagic
    else do
      let frameType ← element buf 2
      let lenLo ← element buf 3
      let lenHi ← element buf 4
      let plen := (bitOr lenLo (shiftLeft lenHi 8)).toNat
      let total := frameOverhead + plen
      if buf.length < total then
        .failed .truncatedFrame
      else do
        let crcLo ← element buf (5 + plen)
        let crcHi ← element buf (5 + plen + 1)
        let crcExpected := bitOr crcLo (shiftLeft crcHi 8)
        let crcActual := crc16 (subarray buf 0 (5 + plen))
        if crcActual ≠ crcExpected then
          .failed .crcMismatch
        else
          pure
            { frameType := frameType
              payload := subarray buf 5 (5 + plen) }

/-- The scan for the magic bytes, from a place on, with as many turns. -/
def findMagicFrom
    (buf : List UInt8) :
    Nat → Nat → Nat
  | 0, _ => buf.length
  | turns + 1, i =>
      if buf.getD i 0 = 0x4D then
        if i + 1 < buf.length then
          if buf.getD (i + 1) 0 = 0x43 then
            i
          else
            findMagicFrom buf turns (i + 1)
        else
          i
      else
        findMagicFrom buf turns (i + 1)

/-- Where a frame may begin, or the end of the buffer. -/
def findMagicStart
    (buf : List UInt8) :
    Nat :=
  findMagicFrom buf buf.length 0

/-! ## Commands -/

/-- Why the site does not encode a command. -/
inductive EncodeError where
  | lockPin
  | regionName (problem : RegionNameError)
deriving Repr, DecidableEq

/-- A flag as a number. -/
def flagNumber
    (flag : Bool) :
    Int :=
  if flag then 1 else 0

/-- Encode `pubkey(32) | telemetry(1) | name_len(1) | name`. -/
def encodeAddContact
    (pubkey : List UInt8)
    (telemetryEnable : Bool)
    (name : List UInt16) :
    Outcome EncodeError (List UInt8) := do
  let nameBytes := subarray (encodeUtf8 name) 0 32
  let out := newUint8Array (34 + nameBytes.length)
  let out ← write out 0 (subarray pubkey 0 32)
  let out ← store out 32 (flagNumber telemetryEnable)
  let out ← store out 33 nameBytes.length
  let out ← write out 34 nameBytes
  pure out

/-- Encode `host_unix_time(4)`. -/
def encodeQueryAdvert
    (hostUnixTime : Int) :
    Outcome EncodeError (List UInt8) := do
  let out := newUint8Array 4
  let out ← setUint32 out 0 (shiftRight hostUnixTime 0)
  pure out

/-- Encode `pubkey(32)`. -/
def encodeDelContact
    (pubkey : List UInt8) :
    Outcome EncodeError (List UInt8) :=
  .value (subarray pubkey 0 32)

/-- Encode `secret(32) | key_len(1) | primary(1) | name_len(1) | name`. -/
def encodeAddChannel
    (secret : List UInt8)
    (keyLen : Int)
    (primary : Bool)
    (name : List UInt16) :
    Outcome EncodeError (List UInt8) := do
  let nameBytes := subarray (encodeUtf8 name) 0 32
  let out := newUint8Array (35 + nameBytes.length)
  let out ← write out 0 (subarray secret 0 32)
  let out ← store out 32 keyLen
  let out ← store out 33 (flagNumber primary)
  let out ← store out 34 nameBytes.length
  let out ← write out 35 nameBytes
  pure out

/-- Encode `secret(32)`. -/
def encodeDelChannel
    (secret : List UInt8) :
    Outcome EncodeError (List UInt8) :=
  .value (subarray secret 0 32)

/--
Encode `pubkey(32) | guest_password_len(1) | guest_password | name_len(1) |
name`.
-/
def encodeAddRoom
    (pubkey : List UInt8)
    (guestPassword name : List UInt16) :
    Outcome EncodeError (List UInt8) := do
  let pwBytes := subarray (encodeUtf8 guestPassword) 0 maxLoginPasswordLen
  let nameBytes := subarray (encodeUtf8 name) 0 32
  let out := newUint8Array (34 + pwBytes.length + nameBytes.length)
  let out ← write out 0 (subarray pubkey 0 32)
  let out ← store out 32 pwBytes.length
  let out ← write out 33 pwBytes
  let out ← store out (33 + pwBytes.length) nameBytes.length
  let out ← write out (34 + pwBytes.length) nameBytes
  pure out

/-- Encode `pubkey(32)`. -/
def encodeDelRoom
    (pubkey : List UInt8) :
    Outcome EncodeError (List UInt8) :=
  encodeDelContact pubkey

/-- Encode `visual(1) | audible(1)`. -/
def encodeSetNotifDefaults
    (visual audible : Bool) :
    Outcome EncodeError (List UInt8) :=
  .value [toUint8 (flagNumber visual), toUint8 (flagNumber audible)]

/-- A length byte and a text that is cut to the longest. -/
def encodeText
    (max : Nat)
    (text : List UInt16) :
    Outcome EncodeError (List UInt8) := do
  let bytes := subarray (encodeUtf8 text) 0 max
  let out := newUint8Array (1 + bytes.length)
  let out ← store out 0 bytes.length
  let out ← write out 1 bytes
  pure out

/-- Encode `pin_len(1) | pin`. -/
def encodeSetPin
    (pin : List UInt16) :
    Outcome EncodeError (List UInt8) :=
  encodeText maxPinLen pin

/-- Encode `name_len(1) | name`. -/
def encodeSetDeviceName
    (name : List UInt16) :
    Outcome EncodeError (List UInt8) :=
  encodeText 32 name

/-- Encode `pin(4)`; refuse what is not exactly as many digits. -/
def encodeSetLockPin
    (pin : List UInt16) :
    Outcome EncodeError (List UInt8) :=
  let pinBytes := encodeUtf8 pin
  if pinBytes.length ≠ Provisioning.lockPinLen ∨ ¬ isDigits pin then
    .failed .lockPin
  else
    .value pinBytes

/-- Encode `lock_flags(1) | lock_timeout_s(2)`. -/
def encodeSetLockConfig
    (lockFlags lockTimeoutS : Int) :
    Outcome EncodeError (List UInt8) := do
  let out := newUint8Array 3
  let out ← store out 0 (bitAnd lockFlags 255)
  let out ← setUint16 out 1 (bitAnd lockTimeoutS 65535)
  pure out

/-- The byte may be in a region name. -/
def isRegionNameByte
    (byte : Int) :
    Bool :=
  byte == 0x2D || byte == 0x24 || byte == 0x23 ||
    (0x30 ≤ byte && byte ≤ 0x39) || 0x41 ≤ byte

/-- The check of the bytes of a region name from a place on. -/
def assertNameBytes
    (i : Nat) :
    List UInt8 → Except RegionNameError Unit
  | [] => .ok ()
  | byte :: rest =>
      if !isRegionNameByte byte.toNat then
        .error (.invalidByte i byte)
      else
        assertNameBytes (i + 1) rest

/-- Check a region name. -/
def assertValidRegionName
    (nameBytes : List UInt8) :
    Except RegionNameError Unit :=
  if nameBytes.length = 0 then
    .error .empty
  else if regionNameMax < nameBytes.length then
    .error (.tooLong nameBytes.length)
  else if nameBytes.getD 0 0 = 0x24 then
    .error .privateUnsupported
  else
    assertNameBytes 0 nameBytes

/-- A name is none or valid. -/
def checkRegionName
    (nameBytes : List UInt8) :
    Outcome EncodeError Unit :=
  if 0 < nameBytes.length then
    mapFailure EncodeError.regionName
      (ofExcept (assertValidRegionName nameBytes))
  else
    .value ()

/-- Encode `name_len(1) | name`; a name that is not valid throws. -/
def encodeSetRegion
    (name : List UInt16) :
    Outcome EncodeError (List UInt8) := do
  let nameBytes := encodeUtf8 name
  checkRegionName nameBytes
  let out := newUint8Array (1 + nameBytes.length)
  let out ← store out 0 nameBytes.length
  let out ← write out 1 nameBytes
  pure out

/-! ## Answers -/

/-- A payload has at least as many bytes. -/
def requireLen
    (payload : List UInt8)
    (min : Nat) :
    Outcome Provisioning.ProvError Unit :=
  if payload.length < min then
    .failed .truncatedPayload
  else
    .value ()

structure RspLock where
  lockFlags : Int
  lockTimeoutS : Int
  pinSet : Bool
deriving Repr, DecidableEq

structure RspRegion (Text : Type) where
  name : Text
  nameLen : Int
deriving Repr, DecidableEq

structure RspError (Text : Type) where
  errorCode : Int
  msg : Text
  msgLen : Int
deriving Repr, DecidableEq

structure RspStatus where
  provisioned : Bool
  pubkey : List UInt8
  contactCount : Int
  channelCount : Int
  gpsHasFix : Bool
  gpsLatE7 : Int
  gpsLonE7 : Int
  gpsFixAgeSecs : Int
  gpsClockSynced : Bool
  gpsClockSyncAgeSecs : Int
  batteryPercent : Int
  batteryCharging : Bool
  batteryRawMv : Int
  batteryHeldRawMv : Int
  batteryLevel : Int
  batteryConfirmed : Bool
deriving Repr, DecidableEq

structure RspIdentity (Text : Type) where
  pubkey : List UInt8
  pubHash : Int
  deviceName : Text
  deviceNameLen : Int
deriving Repr, DecidableEq

structure RspContact (Text : Type) where
  index : Int
  pubkey : List UInt8
  telemetryEnable : Bool
  displayName : Text
  displayNameLen : Int
deriving Repr, DecidableEq

structure RspChannel (Text : Type) where
  index : Int
  channelHash : Int
  keyLen : Int
  primary : Bool
  name : Text
  nameLen : Int
deriving Repr, DecidableEq

structure RspRoom (Text : Type) where
  index : Int
  pubkey : List UInt8
  syncSince : Int
  permissions : Int
  outPath : List UInt8
  outPathLen : Int
  name : Text
  nameLen : Int
deriving Repr, DecidableEq

structure RspHistoryEntry (Text : Type) where
  index : Int
  senderHash : Int
  msgType : Int
  timestamp : Int
  text : Text
  textLen : Int
  isOurs : Bool
deriving Repr, DecidableEq

/-- Decode `lock_flags(1) | lock_timeout_s(2) | pin_set(1)`. -/
def decodeRspLock
    (payload : List UInt8) :
    Outcome Provisioning.ProvError RspLock := do
  requireLen payload 4
  let lockFlags ← element payload 0
  let lockTimeoutS ← getUint16 payload 1
  let pinSet ← element payload 3
  pure
    { lockFlags := lockFlags
      lockTimeoutS := lockTimeoutS
      pinSet := pinSet != 0 }

section Texts

variable {Text : Type} (decodeUtf8 : List UInt8 → Text)

/-- Decode `name_len(1) | name`; a name that is not valid is not accepted. -/
def decodeRspRegion
    (payload : List UInt8) :
    Outcome Provisioning.ProvError (RspRegion Text) := do
  requireLen payload 1
  let nameLen ← element payload 0
  if (regionNameMax : Int) < nameLen then
    .failed .regionNameInvalid
  else do
    requireLen payload (1 + nameLen.toNat)
    let nameBytes := subarray payload 1 (1 + nameLen.toNat)
    if 0 < nameLen ∧ assertValidRegionName nameBytes ≠ .ok () then
      .failed .regionNameInvalid
    else
      pure { name := decodeUtf8 nameBytes, nameLen := nameLen }

/-- Decode `error_code(1) | msg_len(1) | msg`. -/
def decodeRspError
    (payload : List UInt8) :
    Outcome Provisioning.ProvError (RspError Text) := do
  requireLen payload 2
  let errorCode ← element payload 0
  let msgLen ← element payload 1
  if (Provisioning.maxErrMsgLen : Int) < msgLen ∨
      payload.length < 2 + msgLen.toNat then
    .failed .truncatedPayload
  else
    pure
      { errorCode := errorCode
        msg := decodeUtf8 (subarray payload 2 (2 + msgLen.toNat))
        msgLen := msgLen }

/-- The level that firmware without levels would show. -/
def legacyPercentToBatteryLevel
    (batteryPercent : Int)
    (batteryCharging : Bool) :
    Int :=
  if batteryCharging then
    1
  else if batteryPercent < 20 then
    2
  else if batteryPercent < 85 then
    3
  else
    4

/-- The level, or what stands in for it in older payloads. -/
def levelAt
    (payload : List UInt8)
    (batteryPercent : Int)
    (batteryCharging : Bool) :
    Outcome Provisioning.ProvError Int :=
  if 61 ≤ payload.length then
    element payload 59
  else
    .value (legacyPercentToBatteryLevel batteryPercent batteryCharging)

/-- Whether the level is confirmed; it is in older payloads. -/
def confirmedAt
    (payload : List UInt8) :
    Outcome Provisioning.ProvError Bool :=
  if 61 ≤ payload.length then do
    let confirmed ← element payload 60
    pure (confirmed != 0)
  else
    .value true

/-- A half word that older payloads do not have. -/
def tailUint16
    (payload : List UInt8)
    (start : Nat) :
    Outcome Provisioning.ProvError Int :=
  if start + 2 ≤ payload.length then
    getUint16 payload start
  else
    .value 0

/-- Decode the status; what older firmware leaves out takes its default. -/
def decodeRspStatus
    (payload : List UInt8) :
    Outcome Provisioning.ProvError RspStatus := do
  requireLen payload 55
  let batteryPercent ← element payload 53
  let charging ← element payload 54
  let batteryCharging := charging != 0
  let batteryLevel ← levelAt payload batteryPercent batteryCharging
  let batteryConfirmed ← confirmedAt payload
  let provisioned ← element payload 0
  let contactCount ← element payload 33
  let channelCount ← element payload 34
  let gpsHasFix ← element payload 35
  let gpsLatE7 ← getInt32 payload 36
  let gpsLonE7 ← getInt32 payload 40
  let gpsFixAgeSecs ← getUint32 payload 44
  let gpsClockSynced ← element payload 48
  let gpsClockSyncAgeSecs ← getUint32 payload 49
  let batteryRawMv ← tailUint16 payload 55
  let batteryHeldRawMv ← tailUint16 payload 57
  pure
    { provisioned := provisioned != 0
      pubkey := subarray payload 1 33
      contactCount := contactCount
      channelCount := channelCount
      gpsHasFix := gpsHasFix != 0
      gpsLatE7 := gpsLatE7
      gpsLonE7 := gpsLonE7
      gpsFixAgeSecs := gpsFixAgeSecs
      gpsClockSynced := gpsClockSynced != 0
      gpsClockSyncAgeSecs := gpsClockSyncAgeSecs
      batteryPercent := batteryPercent
      batteryCharging := batteryCharging
      batteryRawMv := batteryRawMv
      batteryHeldRawMv := batteryHeldRawMv
      batteryLevel := batteryLevel
      batteryConfirmed := batteryConfirmed }

/-- The number of bytes of a name, all of which are there. -/
def nameLenAt
    (payload : List UInt8)
    (lenAt : Nat) :
    Outcome Provisioning.ProvError Int := do
  let nameLen ← element payload lenAt
  if (32 : Int) < nameLen then
    .failed .nameTooLong
  else do
    requireLen payload (lenAt + 1 + nameLen.toNat)
    pure nameLen

/-- Decode `pubkey(32) | pub_hash(1) | name_len(1) | name`. -/
def decodeRspIdentity
    (payload : List UInt8) :
    Outcome Provisioning.ProvError (RspIdentity Text) := do
  requireLen payload 34
  let nameLen ← nameLenAt payload 33
  let pubHash ← element payload 32
  pure
    { pubkey := subarray payload 0 32
      pubHash := pubHash
      deviceName := decodeUtf8 (subarray payload 34 (34 + nameLen.toNat))
      deviceNameLen := nameLen }

/-- Decode `index(1) | pubkey(32) | telemetry(1) | name_len(1) | name`. -/
def decodeRspContact
    (payload : List UInt8) :
    Outcome Provisioning.ProvError (RspContact Text) := do
  requireLen payload 35
  let nameLen ← nameLenAt payload 34
  let place ← element payload 0
  let telemetryEnable ← element payload 33
  pure
    { index := place
      pubkey := subarray payload 1 33
      telemetryEnable := telemetryEnable != 0
      displayName := decodeUtf8 (subarray payload 35 (35 + nameLen.toNat))
      displayNameLen := nameLen }

/--
Decode `index(1) | channel_hash(1) | key_len(1) | primary(1) | name_len(1) |
name`.
-/
def decodeRspChannel
    (payload : List UInt8) :
    Outcome Provisioning.ProvError (RspChannel Text) := do
  requireLen payload 5
  let nameLen ← nameLenAt payload 4
  let place ← element payload 0
  let channelHash ← element payload 1
  let keyLen ← element payload 2
  let primary ← element payload 3
  pure
    { index := place
      channelHash := channelHash
      keyLen := keyLen
      primary := primary != 0
      name := decodeUtf8 (subarray payload 5 (5 + nameLen.toNat))
      nameLen := nameLen }

/--
Decode `index(1) | pubkey(32) | sync_since(4) | permissions(1) |
out_path_len(1) | out_path | name_len(1) | name`.
-/
def decodeRspRoom
    (payload : List UInt8) :
    Outcome Provisioning.ProvError (RspRoom Text) := do
  requireLen payload 39
  let outPathLen ← element payload 38
  if (maxPathSize : Int) < outPathLen then
    .failed .pathTooLong
  else do
    requireLen payload (39 + outPathLen.toNat)
    let nameOff := 39 + outPathLen.toNat
    requireLen payload (nameOff + 1)
    let nameLen ← nameLenAt payload nameOff
    let place ← element payload 0
    let syncSince ← getUint32 payload 33
    let permissions ← element payload 37
    pure
      { index := place
        pubkey := subarray payload 1 33
        syncSince := syncSince
        permissions := permissions
        outPath := subarray payload 39 (39 + outPathLen.toNat)
        outPathLen := outPathLen
        name :=
          decodeUtf8
            (subarray payload (nameOff + 1) (nameOff + 1 + nameLen.toNat))
        nameLen := nameLen }

/-- Decode an exported entry; nothing where it is cut or of no known type. -/
def decodeRspHistoryEntry
    (payload : List UInt8) :
    Outcome Provisioning.ProvError (Option (RspHistoryEntry Text)) :=
  if payload.length < 9 then
    .value none
  else do
    let place ← element payload 0
    let senderHash ← element payload 1
    let msgType ← element payload 2
    if msgType ≠ 0 ∧ msgType ≠ 1 then
      .value none
    else do
      let timestamp ← getUint32 payload 3
      let textLen ← element payload 7
      let isOurs ← element payload 8
      if payload.length < 9 + textLen.toNat ∨ (64 : Int) < textLen then
        .value none
      else
        pure
          (some
            { index := place
              senderHash := senderHash
              msgType := msgType
              timestamp := timestamp
              text := decodeUtf8 (subarray payload 9 (9 + textLen.toNat))
              textLen := textLen
              isOurs := isOurs != 0 })

end Texts

end SiteCodec

end MeshCadet
