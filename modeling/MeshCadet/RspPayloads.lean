import MeshCadet.FailedPersists
import MeshCadet.HistoryEntry
import MeshCadet.Outcome

namespace MeshCadet

/-!
# Payloads of the device's answers

What the host decodes from the answers to its queries.  The answers that the
device encodes are decoded to what they were encoded from.
-/

open Outcome (fieldAt)

/-- A contact as the device lists it. -/
structure RspContactPayload where
  index : UInt8
  pubkey : Key
  telemetryEnable : Bool
  displayName : Vector UInt8 32
  displayNameLen : UInt8
deriving Repr, DecidableEq

/-- A channel as the device lists it. -/
structure RspChannelPayload where
  index : UInt8
  channelHash : UInt8
  keyLen : UInt8
  primary : Bool
  name : Vector UInt8 32
  nameLen : UInt8
deriving Repr, DecidableEq

/-- A room as the device lists it. -/
structure RspRoomPayload where
  index : UInt8
  pubkey : Key
  syncSince : UInt32
  permissions : UInt8
  outPath : Vector UInt8 maxPathSize
  outPathLen : UInt8
  name : Vector UInt8 32
  nameLen : UInt8
deriving Repr, DecidableEq

/-- The provisioning state, the position and the battery of the device. -/
structure RspStatusPayload where
  provisioned : Bool
  pubkey : Key
  contactCount : UInt8
  channelCount : UInt8
  gpsHasFix : Bool
  gpsLatE7 : Int32
  gpsLonE7 : Int32
  gpsFixAgeSecs : UInt32
  gpsClockSynced : Bool
  gpsClockSyncAgeSecs : UInt32
  batteryPercent : UInt8
  batteryCharging : Bool
  batteryRawMv : UInt16
  batteryHeldRawMv : UInt16
  batteryLevel : UInt8
  batteryConfirmed : Bool
deriving Repr, DecidableEq

/-- The little-endian word at a position. -/
def wordAt32
    (payload : List UInt8)
    (start : Nat) :
    UInt32 :=
  Bytes.u32FromLeBytes (fieldAt 4 payload start)

/-- The little-endian half word at a position, or zero in a shorter payload. -/
def halfWordAt
    (payload : List UInt8)
    (start : Nat) :
    UInt16 :=
  if start + 2 ≤ payload.length then
    (payload.getD start 0).toUInt16 |||
      ((payload.getD (start + 1) 0).toUInt16 <<< 8)
  else
    0

/-- The level that firmware without levels would show. -/
def legacyPercentToBatteryLevel
    (batteryPercent : UInt8)
    (batteryCharging : Bool) :
    UInt8 :=
  if batteryCharging then
    1
  else if batteryPercent < 20 then
    2
  else if batteryPercent < 85 then
    3
  else
    4

/-- Decode the status; what older firmware leaves out takes its default. -/
def decodeRspStatus
    (payload : List UInt8) :
    Except ProvError RspStatusPayload :=
  if payload.length < 55 then
    .error .truncatedPayload
  else
    let batteryPercent := payload.getD 53 0
    let batteryCharging := payload.getD 54 0 != 0
    .ok
      { provisioned := payload.getD 0 0 != 0
        pubkey := fieldAt 32 payload 1
        contactCount := payload.getD 33 0
        channelCount := payload.getD 34 0
        gpsHasFix := payload.getD 35 0 != 0
        gpsLatE7 := (wordAt32 payload 36).toInt32
        gpsLonE7 := (wordAt32 payload 40).toInt32
        gpsFixAgeSecs := wordAt32 payload 44
        gpsClockSynced := payload.getD 48 0 != 0
        gpsClockSyncAgeSecs := wordAt32 payload 49
        batteryPercent := batteryPercent
        batteryCharging := batteryCharging
        batteryRawMv := halfWordAt payload 55
        batteryHeldRawMv := halfWordAt payload 57
        batteryLevel :=
          if payload.length < 61 then
            legacyPercentToBatteryLevel batteryPercent batteryCharging
          else
            payload.getD 59 0
        batteryConfirmed :=
          if payload.length < 61 then
            true
          else
            payload.getD 60 0 != 0 }

/-- Decode a listed contact. -/
def decodeRspContact
    (payload : List UInt8) :
    Except ProvError RspContactPayload :=
  let nameLen := (payload.getD 34 0).toNat
  if payload.length < 35 then
    .error .truncatedPayload
  else if 32 < nameLen then
    .error .nameTooLong
  else if payload.length < 35 + nameLen then
    .error .truncatedPayload
  else
    .ok
      { index := payload.getD 0 0
        pubkey := fieldAt 32 payload 1
        telemetryEnable := payload.getD 33 0 != 0
        displayName := paddedField 32 payload 35 nameLen
        displayNameLen := UInt8.ofNat nameLen }

/-- Decode a listed channel. -/
def decodeRspChannel
    (payload : List UInt8) :
    Except ProvError RspChannelPayload :=
  let nameLen := (payload.getD 4 0).toNat
  if payload.length < 5 then
    .error .truncatedPayload
  else if 32 < nameLen then
    .error .nameTooLong
  else if payload.length < 5 + nameLen then
    .error .truncatedPayload
  else
    .ok
      { index := payload.getD 0 0
        channelHash := payload.getD 1 0
        keyLen := payload.getD 2 0
        primary := payload.getD 3 0 != 0
        name := paddedField 32 payload 5 nameLen
        nameLen := UInt8.ofNat nameLen }

/-- Decode a listed room. -/
def decodeRspRoom
    (payload : List UInt8) :
    Except ProvError RspRoomPayload :=
  let outPathLen := (payload.getD 38 0).toNat
  let nameOff := 39 + outPathLen
  let nameLen := (payload.getD nameOff 0).toNat
  if payload.length < 39 then
    .error .truncatedPayload
  else if maxPathSize < outPathLen then
    .error .pathTooLong
  else if payload.length < 39 + outPathLen then
    .error .truncatedPayload
  else if payload.length < nameOff + 1 then
    .error .truncatedPayload
  else if 32 < nameLen then
    .error .nameTooLong
  else if payload.length < nameOff + 1 + nameLen then
    .error .truncatedPayload
  else
    .ok
      { index := payload.getD 0 0
        pubkey := fieldAt 32 payload 1
        syncSince := wordAt32 payload 33
        permissions := payload.getD 37 0
        outPath := paddedField maxPathSize payload 39 outPathLen
        outPathLen := UInt8.ofNat outPathLen
        name := paddedField 32 payload (nameOff + 1) nameLen
        nameLen := UInt8.ofNat nameLen }

/-- Decode an exported entry: its index, the entry, and its direction. -/
def decodeRspHistoryEntry
    (payload : List UInt8) :
    Option (UInt8 × HistoryEntry × Bool) :=
  let textLen := (payload.getD 7 0).toNat
  if payload.length < 9 then
    none
  else
    match HistoryMsgType.fromU8 (payload.getD 2 0) with
    | none => none
    | some msgType =>
        if payload.length < 9 + textLen ∨ 64 < textLen then
          none
        else
          some
            (payload.getD 0 0,
              { senderHash := payload.getD 1 0
                msgType := msgType
                timestamp := wordAt32 payload 3
                text := paddedField 64 payload 9 textLen
                textLen := UInt8.ofNat textLen },
              payload.getD 8 0 != 0)

section RoundTrips

variable {length position : Nat} {front : List UInt8}

/-- The field behind a front is read at its place. -/
theorem fieldAt_behind
    (isAt : front.length = position)
    (field : Vector UInt8 length)
    (rest : List UInt8) :
    fieldAt length (front ++ (field.toList ++ rest)) position =
      field := by
  subst isAt
  apply Vector.ext
  intro index before
  have reached : index < field.toList.length := by
    rwa [Vector.length_toList]
  rw [fieldAt, Vector.getElem_ofFn,
    List.getD_append_right _ _ _ _ (Nat.le_add_right _ _),
    Nat.add_sub_cancel_left, List.getD_append _ _ _ _ reached,
    List.getD_eq_getElem _ _ reached, Vector.getElem_toList]

/-- The bytes behind a front are read with their padding. -/
theorem paddedField_behind
    {payload used rest : List UInt8}
    (behind : payload.drop position = used ++ rest) :
    paddedField length payload position used.length =
      Bytes.zeroPadded length used := by
  rw [paddedField, behind, List.take_left]

/-- The byte at the front of what is behind a position. -/
theorem getD_behind
    {payload rest : List UInt8}
    {byte : UInt8}
    (behind : payload.drop position = byte :: rest) :
    payload.getD position 0 = byte := by
  rw [List.getD_eq_getElem?_getD, ← List.head?_drop, behind]
  rfl

/-- The used bytes of a name. -/
def usedName
    (name : Vector UInt8 32)
    (nameLen : UInt8) :
    List UInt8 :=
  name.toList.take nameLen.toNat

theorem length_usedName
    (name : Vector UInt8 32)
    (nameLen : UInt8) :
    (usedName name nameLen).length ≤ 32 := by
  rw [usedName, List.length_take, Vector.length_toList]
  exact Nat.min_le_right _ _

/-- A length that fits a byte is read back. -/
theorem toNat_ofNat_of_short
    {length : Nat}
    (short : length ≤ 64) :
    (UInt8.ofNat length).toNat = length := by
  rw [UInt8.toNat_ofNat']
  omega

/-- A flag is read back. -/
theorem toUInt8_bne_zero
    (flag : Bool) :
    (flag.toUInt8 != 0) = flag := by
  cases flag <;> rfl

/-- A listed contact is decoded as it was encoded. -/
theorem decodeRspContact_encode
    (contact : Contact)
    (index : Nat) :
    decodeRspContact (encodeRspContact contact index) =
      .ok
        { index := UInt8.ofNat index
          pubkey := contact.pubkey
          telemetryEnable := contact.telemetryEnable
          displayName :=
            Bytes.zeroPadded 32
              (usedName contact.displayName contact.displayNameLen)
          displayNameLen :=
            UInt8.ofNat
              (usedName contact.displayName
                contact.displayNameLen).length } := by
  have isEncoded :
      encodeRspContact contact index =
        [UInt8.ofNat index] ++
          (contact.pubkey.toList ++
            ([contact.telemetryEnable.toUInt8,
              UInt8.ofNat
                (usedName contact.displayName
                  contact.displayNameLen).length] ++
              usedName contact.displayName contact.displayNameLen)) := rfl
  have short :=
    length_usedName contact.displayName contact.displayNameLen
  generalize usedName contact.displayName contact.displayNameLen = name
    at isEncoded short ⊢
  generalize encodeRspContact contact index = payload at isEncoded ⊢
  have atKey : fieldAt 32 payload 1 = contact.pubkey := by
    rw [isEncoded]
    exact fieldAt_behind rfl _ _
  have atFlag : payload.getD 33 0 = contact.telemetryEnable.toUInt8 := by
    simp [isEncoded]
  have atLen : payload.getD 34 0 = UInt8.ofNat name.length := by
    simp [isEncoded, List.getElem?_append]
  have atName :
      paddedField 32 payload 35 name.length = Bytes.zeroPadded 32 name := by
    have behind : payload.drop 35 = name ++ [] := by
      rw [isEncoded, ← List.append_assoc, ← List.append_assoc,
        List.append_nil]
      exact List.drop_left' (by simp)
    exact paddedField_behind behind
  have atIndex : payload.getD 0 0 = UInt8.ofNat index := by
    rw [isEncoded]
    rfl
  have length : payload.length = 35 + name.length := by
    simp [isEncoded]
    omega
  have lenRead := toNat_ofNat_of_short (show name.length ≤ 64 by omega)
  rw [decodeRspContact, atLen, lenRead, atKey, atFlag, atName, atIndex,
    toUInt8_bne_zero]
  rw [if_neg (by omega), if_neg (by omega), if_neg (by omega)]

/-- A listed channel is decoded as it was encoded. -/
theorem decodeRspChannel_encode
    (crypto : Crypto)
    (channel : Channel)
    (index : Nat) :
    decodeRspChannel (encodeRspChannel crypto channel index) =
      .ok
        { index := UInt8.ofNat index
          channelHash :=
            channelHashVar crypto
              (channel.secret.toList.take channel.keyLenResolved)
          keyLen := channel.keyLen
          primary := channel.primary
          name :=
            Bytes.zeroPadded 32 (usedName channel.name channel.nameLen)
          nameLen :=
            UInt8.ofNat (usedName channel.name channel.nameLen).length } := by
  have isEncoded :
      encodeRspChannel crypto channel index =
        [UInt8.ofNat index,
            channelHashVar crypto
              (channel.secret.toList.take channel.keyLenResolved),
            channel.keyLen, channel.primary.toUInt8,
            UInt8.ofNat (usedName channel.name channel.nameLen).length] ++
          usedName channel.name channel.nameLen := rfl
  have short := length_usedName channel.name channel.nameLen
  generalize usedName channel.name channel.nameLen = name
    at isEncoded short ⊢
  generalize encodeRspChannel crypto channel index = payload
    at isEncoded ⊢
  have atName :
      paddedField 32 payload 5 name.length = Bytes.zeroPadded 32 name := by
    have behind : payload.drop 5 = name ++ [] := by
      rw [isEncoded, List.append_nil]
      rfl
    exact paddedField_behind behind
  have atLen : payload.getD 4 0 = UInt8.ofNat name.length := by
    rw [isEncoded]
    rfl
  have atFlag : payload.getD 3 0 = channel.primary.toUInt8 := by
    rw [isEncoded]
    rfl
  have length : payload.length = 5 + name.length := by
    rw [isEncoded, List.length_append]
    rfl
  have lenRead := toNat_ofNat_of_short (show name.length ≤ 64 by omega)
  rw [decodeRspChannel, atLen, lenRead, atFlag, atName, toUInt8_bne_zero,
    if_neg (by omega), if_neg (by omega), if_neg (by omega), isEncoded]
  rfl

/-- The used bytes of a room's path. -/
def RoomExtra.usedPath
    (extra : RoomExtra) :
    List UInt8 :=
  extra.outPath.toList.take extra.outPathLen.toNat

theorem RoomExtra.length_usedPath
    (extra : RoomExtra) :
    extra.usedPath.length ≤ maxPathSize := by
  rw [usedPath, List.length_take, Vector.length_toList]
  exact Nat.min_le_right _ _

/-- The name that a room is listed under. -/
def ProvisionedConfig.roomName
    (config : ProvisionedConfig)
    (extra : RoomExtra) :
    List UInt8 :=
  ((config.contactFor? extra.pubkey).map fun contact =>
    usedName contact.displayName contact.displayNameLen).getD []

theorem ProvisionedConfig.length_roomName
    (config : ProvisionedConfig)
    (extra : RoomExtra) :
    (config.roomName extra).length ≤ 32 := by
  rw [roomName]
  cases config.contactFor? extra.pubkey with
  | none => exact Nat.zero_le _
  | some contact => exact length_usedName _ _

/-- The answer for a room, field by field. -/
theorem encodeRspRoom_eq
    (config : ProvisionedConfig)
    (extra : RoomExtra)
    (index : Nat) :
    encodeRspRoom config extra index =
      [UInt8.ofNat index] ++
        (extra.pubkey.toList ++
          ((Bytes.u32ToLeBytes extra.syncSince).toList ++
            ([extra.permissions, UInt8.ofNat extra.usedPath.length] ++
              (extra.usedPath ++
                (UInt8.ofNat (config.roomName extra).length ::
                  config.roomName extra))))) := by
  simp [encodeRspRoom, lengthPrefixed, RoomExtra.usedPath,
    ProvisionedConfig.roomName, usedName]

/-- How long the answer for a room is. -/
theorem length_encodeRspRoom
    (config : ProvisionedConfig)
    (extra : RoomExtra)
    (index : Nat) :
    (encodeRspRoom config extra index).length =
      40 + extra.usedPath.length + (config.roomName extra).length := by
  rw [encodeRspRoom_eq]
  simp
  omega

/-- A listed room is decoded as it was encoded. -/
theorem decodeRspRoom_encode
    (config : ProvisionedConfig)
    (extra : RoomExtra)
    (index : Nat) :
    decodeRspRoom (encodeRspRoom config extra index) =
      .ok
        { index := UInt8.ofNat index
          pubkey := extra.pubkey
          syncSince := extra.syncSince
          permissions := extra.permissions
          outPath := Bytes.zeroPadded maxPathSize extra.usedPath
          outPathLen := UInt8.ofNat extra.usedPath.length
          name := Bytes.zeroPadded 32 (config.roomName extra)
          nameLen := UInt8.ofNat (config.roomName extra).length } := by
  have isEncoded := encodeRspRoom_eq config extra index
  have length := length_encodeRspRoom config extra index
  have pathShort := extra.length_usedPath
  have nameShort := config.length_roomName extra
  have pathBound : maxPathSize = 64 := rfl
  generalize extra.usedPath = path at isEncoded length pathShort ⊢
  generalize config.roomName extra = name at isEncoded length nameShort ⊢
  generalize encodeRspRoom config extra index = payload
    at isEncoded length ⊢
  have pathRead := toNat_ofNat_of_short (pathBound ▸ pathShort)
  have nameRead := toNat_ofNat_of_short (show name.length ≤ 64 by omega)
  have atIndex : payload.getD 0 0 = UInt8.ofNat index := by
    rw [isEncoded]
    rfl
  have atKey : fieldAt 32 payload 1 = extra.pubkey := by
    rw [isEncoded]
    exact fieldAt_behind rfl _ _
  have atSync : wordAt32 payload 33 = extra.syncSince := by
    have behind :
        fieldAt 4 payload 33 = Bytes.u32ToLeBytes extra.syncSince := by
      rw [isEncoded, ← List.append_assoc]
      exact fieldAt_behind (by simp) _ _
    rw [wordAt32, behind, Bytes.u32FromLeBytes_toLeBytes]
  have behindSync :
      payload.drop 37 =
        [extra.permissions, UInt8.ofNat path.length] ++
          (path ++ (UInt8.ofNat name.length :: name)) := by
    rw [isEncoded, ← List.append_assoc, ← List.append_assoc]
    exact List.drop_left' (by simp)
  have behindPermissions :
      payload.drop 38 =
        UInt8.ofNat path.length ::
          (path ++ (UInt8.ofNat name.length :: name)) := by
    rw [show 38 = 37 + 1 from rfl, ← List.drop_drop, behindSync]
    rfl
  have behindPathLen :
      payload.drop 39 = path ++ (UInt8.ofNat name.length :: name) := by
    rw [show 39 = 37 + 2 from rfl, ← List.drop_drop, behindSync]
    rfl
  have behindPath :
      payload.drop (39 + path.length) =
        UInt8.ofNat name.length :: name := by
    rw [← List.drop_drop, behindPathLen, List.drop_left]
  have behindNameLen :
      payload.drop (39 + path.length + 1) = name ++ [] := by
    rw [← List.drop_drop, behindPath, List.append_nil]
    rfl
  have atPermissions : payload.getD 37 0 = extra.permissions :=
    getD_behind behindSync
  have atPathLen : payload.getD 38 0 = UInt8.ofNat path.length :=
    getD_behind behindPermissions
  have atPath :
      paddedField maxPathSize payload 39 path.length =
        Bytes.zeroPadded maxPathSize path :=
    paddedField_behind behindPathLen
  have atNameLen :
      payload.getD (39 + path.length) 0 = UInt8.ofNat name.length :=
    getD_behind behindPath
  have atName :
      paddedField 32 payload (39 + path.length + 1) name.length =
        Bytes.zeroPadded 32 name :=
    paddedField_behind behindNameLen
  rw [decodeRspRoom, atPathLen, pathRead, atNameLen, nameRead, atPath,
    atName, atPermissions, atSync, atKey, atIndex, if_neg (by omega),
    if_neg (by omega), if_neg (by omega), if_neg (by omega),
    if_neg (by omega), if_neg (by omega)]

end RoundTrips

end MeshCadet
