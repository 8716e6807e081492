import MeshCadet.AdminReceive
import MeshCadet.ProvisioningEncoders

namespace MeshCadet

/-!
# Round trips of provisioning frames and payloads

Decoding what was encoded gives it back, for frames with any payload that fits
their length field and for all payloads in range.  One list of bytes connects
both sides: the encoder fills its buffer with it, and the decoder decodes it.
-/

namespace Provisioning

open Outcome BufferFills ByteDecoders

/-- Bytes of the longest payload: a room with the longest path and name. -/
def maxPayloadLen : Nat :=
  40 + maxPathSize + 32

/--
What is encoded, in any buffer with enough room for it, is decoded to the
payload.
-/
def RoundTrips
    {α : Type}
    (encode : Writer ProvError)
    (decode : Decoder ProvError α)
    (payload : α) :
    Prop :=
  ∃ bytes : List UInt8,
    bytes.length ≤ maxPayloadLen ∧
      Fills encode bytes ∧ decode bytes = .value payload

/-- What is decoded at the front of a string is decoded from it alone. -/
theorem roundTrips_of
    {α : Type}
    {encode : Writer ProvError}
    {decode : Decoder ProvError α}
    {payload : α}
    {bytes : List UInt8}
    (short : bytes.length ≤ maxPayloadLen)
    (fills : Fills encode bytes)
    (decodes : DecodesBehind [] decode bytes payload) :
    RoundTrips encode decode payload := by
  refine ⟨bytes, short, fills, ?_⟩
  have decoded := decodes []
  rwa [List.append_nil] at decoded

/-! ## Commands -/

theorem addContact_roundTrips
    {p : AddContactPayload}
    (padded : Padded p.displayName p.displayNameLen) :
    RoundTrips
      (encodeAddContact p.pubkey p.telemetryEnable
        (used p.displayName p.displayNameLen))
      decodeAddContact p := by
  refine roundTrips_of ?_ (encodeAddContact_fills _ _ _) ?_
  · simp only [List.length_append, List.length_cons, List.length_nil,
      Vector.length_toList, length_prefixed_take, maxPayloadLen]
    omega
  · unfold decodeAddContact
    refine .unlessShort
      (.bind (decodesBehind_arrayAt rfl rfl)
        (.bind (decodesBehind_flagAt ?_)
          (.prefixedAt padded ?_ (by decide) (Nat.zero_le _) .done))) ?_
    all_goals
      simp only [List.length_append, List.length_cons, List.length_nil,
        Vector.length_toList, length_prefixed_take]
    all_goals omega

theorem queryAdvert_roundTrips
    (hostUnixTime : UInt32) :
    RoundTrips (encodeQueryAdvert hostUnixTime) decodeQueryAdvert
      hostUnixTime := by
  have fills := encodeQueryAdvert_fills hostUnixTime
  rw [List.append_nil] at fills
  refine roundTrips_of ?_ fills ?_
  · simp [maxPayloadLen]
  · unfold decodeQueryAdvert
    exact .unlessShort (decodesBehind_wordAt rfl rfl) (by simp)

theorem delContact_roundTrips
    (p : DelContactPayload) :
    RoundTrips (encodeDelContact p.pubkey) decodeDelContact p := by
  refine roundTrips_of ?_ (encodeDelContact_fills _) ?_
  · simp [maxPayloadLen]
  · unfold decodeDelContact
    exact .unlessShort (.bind (decodesBehind_arrayAt rfl rfl) .done) (by simp)

/-- Only keys of half or full length are read. -/
theorem addChannel_roundTrips
    {p : AddChannelPayload}
    (keyLen : p.keyLen = 16 ∨ p.keyLen = 32)
    (padded : Padded p.name p.nameLen) :
    RoundTrips
      (encodeAddChannel p.secret p.keyLen p.primary
        (used p.name p.nameLen))
      decodeAddChannel p := by
  refine roundTrips_of ?_ (encodeAddChannel_fills _ _ _ _) ?_
  · simp only [List.length_append, List.length_cons, List.length_nil,
      Vector.length_toList, length_prefixed_take, maxPayloadLen]
    omega
  · have passes : ¬ (p.keyLen ≠ 16 ∧ p.keyLen ≠ 32) := by
      rintro ⟨notHalf, notFull⟩
      exact keyLen.elim notHalf notFull
    unfold decodeAddChannel
    refine .unlessShort
      (.bind (decodesBehind_arrayAt rfl rfl)
        (.bind (decodesBehind_index ?_)
          (.unless
            (.bind (decodesBehind_flagAt ?_)
              (.prefixedAt padded ?_ (by decide) (Nat.zero_le _) .done))
            passes))) ?_
    all_goals
      simp only [List.length_append, List.length_cons, List.length_nil,
        Vector.length_toList, length_prefixed_take]
    all_goals omega

theorem delChannel_roundTrips
    (p : DelChannelPayload) :
    RoundTrips (encodeDelChannel p.secret) decodeDelChannel p := by
  refine roundTrips_of ?_ (encodeDelChannel_fills _) ?_
  · simp [maxPayloadLen]
  · unfold decodeDelChannel
    exact .unlessShort (.bind (decodesBehind_arrayAt rfl rfl) .done) (by simp)

/-- The name is read where the password ends. -/
theorem addRoom_roundTrips
    {p : AddRoomPayload}
    (password : Padded p.guestPassword p.guestPasswordLen)
    (padded : Padded p.name p.nameLen) :
    RoundTrips
      (encodeAddRoom p.pubkey (used p.guestPassword p.guestPasswordLen)
        (used p.name p.nameLen))
      decodeAddRoom p := by
  have limit : maxLoginPasswordLen = 16 := rfl
  have pathLimit : maxPathSize = 64 := rfl
  refine roundTrips_of ?_ (encodeAddRoom_fills _ _ _) ?_
  · simp only [List.length_append, List.length_nil, Vector.length_toList,
      length_prefixed_take, maxPayloadLen]
    omega
  · have passwordLength := password.length_used
    have passwordWithin := password.within
    unfold decodeAddRoom
    refine .unlessShort
      (.bind (decodesBehind_arrayAt rfl rfl)
        (.prefixedAt password ?_ (by decide) ?_
          (.prefixedAt padded ?_ (by decide) (Nat.zero_le _) .done))) ?_
    all_goals
      simp only [List.length_append, List.length_nil, Vector.length_toList,
        length_prefixed_take]
    all_goals omega

theorem delRoom_roundTrips
    (p : DelRoomPayload) :
    RoundTrips (encodeDelRoom p.pubkey) decodeDelRoom p := by
  obtain ⟨bytes, short, fills, decoded⟩ := delContact_roundTrips ⟨p.pubkey⟩
  refine ⟨bytes, short, fills, ?_⟩
  rw [decodeDelRoom, decoded]
  rfl

theorem setNotifDefaults_roundTrips
    (p : NotifDefaults) :
    RoundTrips (encodeSetNotifDefaults p.visual p.audible)
      decodeSetNotifDefaults p := by
  refine roundTrips_of (by simp [maxPayloadLen])
    (encodeSetNotifDefaults_fills _ _) ?_
  unfold decodeSetNotifDefaults
  exact .unlessShort
    (.bind (decodesBehind_flagAt rfl)
      (.bind (decodesBehind_flagAt rfl) .done)) (by simp)

theorem setPin_roundTrips
    {p : SetPinPayload}
    (padded : Padded p.pin p.pinLen) :
    RoundTrips (encodeSetPin (used p.pin p.pinLen)) decodeSetPin p := by
  have limit : maxPinLen = 16 := rfl
  refine roundTrips_of ?_ (encodeSetPin_fills _) ?_
  · simp only [List.length_append, List.length_nil, length_prefixed_take,
      maxPayloadLen]
    omega
  · unfold decodeSetPin
    refine .unlessShort
      (.prefixedAt padded rfl (by decide) (Nat.zero_le _) .done) ?_
    simp only [List.nil_append, List.append_nil, length_prefixed_take]
    omega

theorem setDeviceName_roundTrips
    {p : SetDeviceNamePayload}
    (padded : Padded p.name p.nameLen) :
    RoundTrips (encodeSetDeviceName (used p.name p.nameLen))
      decodeSetDeviceName p := by
  refine roundTrips_of ?_ (encodeSetDeviceName_fills _) ?_
  · simp only [List.length_append, List.length_nil, length_prefixed_take,
      maxPayloadLen]
    omega
  · unfold decodeSetDeviceName
    refine .unlessShort
      (.prefixedAt padded rfl (by decide) (Nat.zero_le _) .done) ?_
    simp only [List.nil_append, List.append_nil, length_prefixed_take]
    omega

/-- A PIN of digits is read back; its payload may not be any longer. -/
theorem setLockPin_roundTrips
    {p : SetLockPinPayload}
    (digits : p.pin.toList.all isAsciiDigit = true) :
    RoundTrips (encodeSetLockPin p.pin) decodeSetLockPin p := by
  have fills := encodeSetLockPin_fills p.pin
  have length : p.pin.toList.length = lockPinLen := Vector.length_toList
  rw [List.append_nil] at fills
  refine ⟨p.pin.toList, ?_, fills, ?_⟩
  · rw [length]
    decide
  · rw [decodeSetLockPin, if_neg (not_not_intro length),
      if_neg (not_not_intro digits), copyFromSlice_eq length, value_bind]
    rfl

theorem setLockConfig_roundTrips
    (p : SetLockConfigPayload) :
    RoundTrips (encodeSetLockConfig p.lockFlags p.lockTimeoutS)
      decodeSetLockConfig p := by
  refine roundTrips_of (by simp [maxPayloadLen, u16ToLeBytes])
    (encodeSetLockConfig_fills _ _) ?_
  unfold decodeSetLockConfig
  exact .unlessShort
    (.bind (decodesBehind_index rfl)
      (.bind (decodesBehind_halfAt rfl rfl) .done))
    (by simp [u16ToLeBytes])

/-- The bytes of the region that a payload sets or reports are usable. -/
def RegionInRange
    (name : Vector UInt8 regionNameMax)
    (nameLen : UInt8) :
    Prop :=
  Padded name nameLen ∧
    (used name nameLen = [] ∨
      validateRegionName (used name nameLen) = .ok ())

section Regions

variable {name : Vector UInt8 regionNameMax} {nameLen : UInt8}

theorem length_region
    (inRange : RegionInRange name nameLen) :
    (prefixed (used name nameLen) ++ []).length ≤ maxPayloadLen := by
  have limit : regionNameMax = 31 := rfl
  have within := inRange.1.within
  have isLength := inRange.1.length_used
  simp only [List.append_nil, prefixed, List.length_cons, maxPayloadLen]
  omega

/-- A usable region name is found behind its length. -/
theorem regionNameAt_prefixed
    (inRange : RegionInRange name nameLen)
    (rest : List UInt8) :
    regionNameAt (prefixed (used name nameLen) ++ [] ++ rest) =
      .value (name, nameLen) := by
  obtain ⟨padded, valid⟩ := inRange
  have limit : regionNameMax = 31 := rfl
  have within := padded.within
  have isLength := padded.length_used
  have passes :
      ¬ (used name nameLen ≠ [] ∧
        validateRegionName (used name nameLen) ≠ .ok ()) := by
    rintro ⟨notEmpty, notValid⟩
    exact valid.elim notEmpty notValid
  have copies :
      DecodesBehind ([] ++ prefixed (used name nameLen))
        (fun _ : List UInt8 => do
          let copied ← copyPadded regionNameMax (used name nameLen)
          (pure (copied, UInt8.ofNat (used name nameLen).length) :
            Outcome ProvError (Vector UInt8 regionNameMax × UInt8)))
        [] (name, nameLen) := by
    intro rest
    dsimp only
    rw [copyPadded_eq (by omega), value_bind, padded.zeroPadded_used,
      isLength, UInt8.ofNat_toNat]
    rfl
  have decodes :
      DecodesBehind [] regionNameAt (prefixed (used name nameLen) ++ [])
        (name, nameLen) := by
    unfold regionNameAt
    refine .unlessShort
      (.prefixedSlice rfl (by omega) (by decide) (Nat.zero_le _)
        (.unless copies passes)) ?_
    simp [prefixed]
  exact decodes rest

end Regions

theorem setRegion_roundTrips
    {p : SetRegionPayload}
    (inRange : RegionInRange p.name p.nameLen) :
    RoundTrips (encodeSetRegion (used p.name p.nameLen))
      decodeSetRegion p := by
  refine roundTrips_of (length_region inRange)
    (encodeSetRegion_fills inRange.2) ?_
  intro rest
  rw [decodeSetRegion, List.nil_append, regionNameAt_prefixed inRange,
    value_bind]
  rfl

/-! ## Answers -/

theorem rspLock_roundTrips
    (p : RspLockPayload) :
    RoundTrips (encodeRspLock p) decodeRspLock p := by
  refine roundTrips_of (by simp [maxPayloadLen, u16ToLeBytes])
    (encodeRspLock_fills p) ?_
  unfold decodeRspLock
  exact .unlessShort
    (.bind (decodesBehind_index rfl)
      (.bind (decodesBehind_halfAt rfl rfl)
        (.bind (decodesBehind_flagAt rfl) .done)))
    (by simp [u16ToLeBytes])

theorem rspRegion_roundTrips
    {p : RspRegionPayload}
    (inRange : RegionInRange p.name p.nameLen) :
    RoundTrips (encodeRspRegion (used p.name p.nameLen))
      decodeRspRegion p := by
  refine roundTrips_of (length_region inRange)
    (encodeSetRegion_fills inRange.2) ?_
  intro rest
  rw [decodeRspRegion, List.nil_append, regionNameAt_prefixed inRange,
    value_bind]
  rfl

section Status

/-- The string has some bytes from a position on. -/
def StandsAt
    (payload : List UInt8)
    (position : Nat)
    (bytes : List UInt8) :
    Prop :=
  ∃ front : List UInt8, front.length = position ∧ payload = front ++ bytes

variable {payload field rest : List UInt8} {position : Nat} {α : Type}

/-- What stands behind a field. -/
theorem StandsAt.next
    {next : Nat}
    (stands : StandsAt payload position (field ++ rest))
    (isNext : position + field.length = next) :
    StandsAt payload next rest := by
  obtain ⟨front, isAt, isPayload⟩ := stands
  refine ⟨front ++ field, ?_, ?_⟩
  · rw [List.length_append, isAt, isNext]
  · rw [isPayload, List.append_assoc]

/-- The field that stands at a position is read there. -/
theorem StandsAt.read
    {decoder : Decoder ProvError α}
    {result : α}
    (stands : StandsAt payload position (field ++ rest))
    (decodes : ∀ front : List UInt8,
      front.length = position → DecodesBehind front decoder field result) :
    decoder payload = .value result := by
  obtain ⟨front, isAt, isPayload⟩ := stands
  rw [isPayload, ← List.append_assoc]
  exact decodes front isAt rest

/-- The fields of a status are read from their places, in any order. -/
theorem rspStatus_roundTrips
    (p : RspStatusPayload) :
    RoundTrips (encodeRspStatus p) decodeRspStatus p := by
  have length : (rspStatusBytes p).length = 61 := by
    simp [rspStatusBytes, u16ToLeBytes]
  refine ⟨rspStatusBytes p, ?_, encodeRspStatus_fills p, ?_⟩
  · rw [length]
    decide
  have key : 1 + p.pubkey.toList.length = 33 := by
    rw [Vector.length_toList]
  have at0 : StandsAt (rspStatusBytes p) 0 (rspStatusBytes p) :=
    ⟨[], rfl, rfl⟩
  have at1 : StandsAt (rspStatusBytes p) 1 _ := at0.next rfl
  have at33 : StandsAt (rspStatusBytes p) 33 _ := at1.next key
  have at34 : StandsAt (rspStatusBytes p) 34 _ := at33.next rfl
  have at35 : StandsAt (rspStatusBytes p) 35 _ := at34.next rfl
  have at36 : StandsAt (rspStatusBytes p) 36 _ := at35.next rfl
  have at40 : StandsAt (rspStatusBytes p) 40 _ := at36.next rfl
  have at44 : StandsAt (rspStatusBytes p) 44 _ := at40.next rfl
  have at48 : StandsAt (rspStatusBytes p) 48 _ := at44.next rfl
  have at49 : StandsAt (rspStatusBytes p) 49 _ := at48.next rfl
  have at53 : StandsAt (rspStatusBytes p) 53 _ := at49.next rfl
  have at54 : StandsAt (rspStatusBytes p) 54 _ := at53.next rfl
  have at55 : StandsAt (rspStatusBytes p) 55 _ := at54.next rfl
  have at57 : StandsAt (rspStatusBytes p) 57 _ := at55.next rfl
  have at59 : StandsAt (rspStatusBytes p) 59 _ := at57.next rfl
  have at60 : StandsAt (rspStatusBytes p) 60 _ := at59.next rfl
  have rawMv :
      tailHalfAt (rspStatusBytes p) 55 57 = .value p.batteryRawMv := by
    rw [tailHalfAt, if_pos (by omega)]
    exact at55.read fun _ isAt => decodesBehind_halfAt isAt rfl
  have heldRawMv :
      tailHalfAt (rspStatusBytes p) 57 59 = .value p.batteryHeldRawMv := by
    rw [tailHalfAt, if_pos (by omega)]
    exact at57.read fun _ isAt => decodesBehind_halfAt isAt rfl
  have level :
      tailLevelAt (rspStatusBytes p) p.batteryPercent p.batteryCharging =
        .value (p.batteryLevel, p.batteryConfirmed) := by
    rw [tailLevelAt, if_pos (by omega),
      at59.read fun _ isAt => decodesBehind_index isAt, value_bind,
      at60.read fun _ isAt => decodesBehind_flagAt isAt, value_bind]
    rfl
  rw [decodeRspStatus, if_neg (by omega),
    at0.read fun _ isAt => decodesBehind_flagAt isAt, value_bind,
    at1.read fun _ isAt => decodesBehind_arrayAt isAt rfl, value_bind,
    at53.read fun _ isAt => decodesBehind_index isAt, value_bind,
    at54.read fun _ isAt => decodesBehind_flagAt isAt, value_bind,
    rawMv, value_bind, heldRawMv, value_bind, level, value_bind,
    at33.read fun _ isAt => decodesBehind_index isAt, value_bind,
    at34.read fun _ isAt => decodesBehind_index isAt, value_bind,
    at35.read fun _ isAt => decodesBehind_flagAt isAt, value_bind,
    at36.read fun _ isAt => decodesBehind_wordAt isAt rfl, value_bind,
    at40.read fun _ isAt => decodesBehind_wordAt isAt rfl, value_bind,
    at44.read fun _ isAt => decodesBehind_wordAt isAt rfl, value_bind,
    at48.read fun _ isAt => decodesBehind_flagAt isAt, value_bind,
    at49.read fun _ isAt => decodesBehind_wordAt isAt rfl, value_bind]
  rfl

end Status

/-- The hash in front of the name is the first byte of the key. -/
theorem rspIdentity_roundTrips
    {p : RspIdentityPayload}
    (isHash : p.pubHash = Bytes.firstByte p.pubkey)
    (padded : Padded p.deviceName p.deviceNameLen) :
    RoundTrips
      (encodeRspIdentity p.pubkey (used p.deviceName p.deviceNameLen))
      decodeRspIdentity p := by
  have fills :=
    encodeRspIdentity_fills p.pubkey (used p.deviceName p.deviceNameLen)
  rw [← isHash] at fills
  refine roundTrips_of ?_ fills ?_
  · simp only [List.length_append, List.length_cons, List.length_nil,
      Vector.length_toList, length_prefixed_take, maxPayloadLen]
    omega
  · unfold decodeRspIdentity
    refine .unlessShort
      (.bind (decodesBehind_arrayAt rfl rfl)
        (.bind (decodesBehind_index ?_)
          (.prefixedAt padded ?_ (by decide) (Nat.zero_le _) .done))) ?_
    all_goals
      simp only [List.length_append, List.length_cons, List.length_nil,
        Vector.length_toList, length_prefixed_take]
    all_goals omega

theorem rspContact_roundTrips
    {p : RspContactPayload}
    (padded : Padded p.displayName p.displayNameLen) :
    RoundTrips
      (encodeRspContact p.index p.pubkey p.telemetryEnable
        (used p.displayName p.displayNameLen))
      decodeRspContact p := by
  refine roundTrips_of ?_ (encodeRspContact_fills _ _ _ _) ?_
  · simp only [List.length_append, List.length_cons, List.length_nil,
      Vector.length_toList, length_prefixed_take, maxPayloadLen]
    omega
  · unfold decodeRspContact
    refine .unlessShort
      (.bind (decodesBehind_index rfl)
        (.bind (decodesBehind_arrayAt rfl rfl)
          (.bind (decodesBehind_flagAt ?_)
            (.prefixedAt padded ?_ (by decide) (Nat.zero_le _) .done)))) ?_
    all_goals
      simp only [List.length_append, List.length_cons, List.length_nil,
        Vector.length_toList, length_prefixed_take]
    all_goals omega

theorem rspChannel_roundTrips
    {p : RspChannelPayload}
    (padded : Padded p.name p.nameLen) :
    RoundTrips
      (encodeRspChannel p.index p.channelHash p.keyLen p.primary
        (used p.name p.nameLen))
      decodeRspChannel p := by
  refine roundTrips_of ?_ (encodeRspChannel_fills _ _ _ _ _) ?_
  · simp only [List.length_append, List.length_cons, List.length_nil,
      length_prefixed_take, maxPayloadLen]
    omega
  · unfold decodeRspChannel
    refine .unlessShort
      (.bind (decodesBehind_index rfl)
        (.bind (decodesBehind_index rfl)
          (.bind (decodesBehind_index rfl)
            (.bind (decodesBehind_flagAt rfl)
              (.prefixedAt padded rfl (by decide) (Nat.zero_le _)
                .done))))) ?_
    simp only [List.length_append, List.length_cons, List.length_nil,
      length_prefixed_take]
    omega

/-- The name is read where the path ends. -/
theorem rspRoom_roundTrips
    {p : RspRoomPayload}
    (path : Padded p.outPath p.outPathLen)
    (padded : Padded p.name p.nameLen) :
    RoundTrips
      (encodeRspRoom p.index p.pubkey p.syncSince p.permissions
        (used p.outPath p.outPathLen) (used p.name p.nameLen))
      decodeRspRoom p := by
  have limit : maxPathSize = 64 := rfl
  refine roundTrips_of ?_ (encodeRspRoom_fills _ _ _ _ _ _) ?_
  · simp only [List.length_append, List.length_cons, List.length_nil,
      Vector.length_toList, length_prefixed_take, maxPayloadLen]
    omega
  · have pathLength := path.length_used
    have pathWithin := path.within
    unfold decodeRspRoom
    refine .unlessShort
      (.bind (decodesBehind_index rfl)
        (.bind (decodesBehind_arrayAt rfl rfl)
          (.bind (decodesBehind_wordAt ?_ rfl)
            (.bind (decodesBehind_index ?_)
              (.prefixedAt path ?_ (by decide) (Nat.zero_le _)
                (.unlessShort
                  (.prefixedAt padded ?_ (by decide) (Nat.zero_le _)
                    .done) ?_)))))) ?_
    all_goals
      simp only [List.length_append, List.length_cons, List.length_nil,
        Vector.length_toList, length_prefixed_take]
    all_goals omega

theorem rspError_roundTrips
    {p : RspErrorPayload}
    (padded : Padded p.msg p.msgLen) :
    RoundTrips (encodeRspError p.errorCode (used p.msg p.msgLen))
      decodeRspError p := by
  have limit : maxErrMsgLen = 64 := rfl
  refine roundTrips_of ?_ (encodeRspError_fills _ _) ?_
  · simp only [List.length_append, List.length_cons, List.length_nil,
      length_prefixed_take, maxPayloadLen]
    omega
  · unfold decodeRspError
    refine .unlessShort
      (.bind (decodesBehind_index rfl)
        (.prefixedAt padded rfl (by decide) (Nat.zero_le _) .done)) ?_
    simp only [List.length_append, List.length_cons, List.length_nil,
      length_prefixed_take]
    omega

/-! ## All layouts -/

/-- The payloads of commands and answers. -/
inductive Layout where
  | addContact
  | queryAdvert
  | delContact
  | addChannel
  | delChannel
  | addRoom
  | delRoom
  | setNotifDefaults
  | setPin
  | setDeviceName
  | setLockPin
  | setLockConfig
  | setRegion
  | rspLock
  | rspRegion
  | rspStatus
  | rspIdentity
  | rspContact
  | rspChannel
  | rspRoom
  | rspError
deriving Repr, DecidableEq

namespace Layout

/-- What a payload is decoded to. -/
def Payload : Layout → Type
  | addContact => AddContactPayload
  | queryAdvert => UInt32
  | delContact => DelContactPayload
  | addChannel => AddChannelPayload
  | delChannel => DelChannelPayload
  | addRoom => AddRoomPayload
  | delRoom => DelRoomPayload
  | setNotifDefaults => NotifDefaults
  | setPin => SetPinPayload
  | setDeviceName => SetDeviceNamePayload
  | setLockPin => SetLockPinPayload
  | setLockConfig => SetLockConfigPayload
  | setRegion => SetRegionPayload
  | rspLock => RspLockPayload
  | rspRegion => RspRegionPayload
  | rspStatus => RspStatusPayload
  | rspIdentity => RspIdentityPayload
  | rspContact => RspContactPayload
  | rspChannel => RspChannelPayload
  | rspRoom => RspRoomPayload
  | rspError => RspErrorPayload

/-- The decoder of a payload. -/
def decode :
    (layout : Layout) → Decoder ProvError layout.Payload
  | addContact => decodeAddContact
  | queryAdvert => decodeQueryAdvert
  | delContact => decodeDelContact
  | addChannel => decodeAddChannel
  | delChannel => decodeDelChannel
  | addRoom => decodeAddRoom
  | delRoom => decodeDelRoom
  | setNotifDefaults => decodeSetNotifDefaults
  | setPin => decodeSetPin
  | setDeviceName => decodeSetDeviceName
  | setLockPin => decodeSetLockPin
  | setLockConfig => decodeSetLockConfig
  | setRegion => decodeSetRegion
  | rspLock => decodeRspLock
  | rspRegion => decodeRspRegion
  | rspStatus => decodeRspStatus
  | rspIdentity => decodeRspIdentity
  | rspContact => decodeRspContact
  | rspChannel => decodeRspChannel
  | rspRoom => decodeRspRoom
  | rspError => decodeRspError

/-- The encoder of a payload, applied to the fields and the bytes in use. -/
def encode :
    (layout : Layout) → layout.Payload → Writer ProvError
  | addContact, (p : AddContactPayload) =>
      encodeAddContact p.pubkey p.telemetryEnable
        (used p.displayName p.displayNameLen)
  | queryAdvert, (hostUnixTime : UInt32) =>
      encodeQueryAdvert hostUnixTime
  | delContact, (p : DelContactPayload) =>
      encodeDelContact p.pubkey
  | addChannel, (p : AddChannelPayload) =>
      encodeAddChannel p.secret p.keyLen p.primary (used p.name p.nameLen)
  | delChannel, (p : DelChannelPayload) =>
      encodeDelChannel p.secret
  | addRoom, (p : AddRoomPayload) =>
      encodeAddRoom p.pubkey (used p.guestPassword p.guestPasswordLen)
        (used p.name p.nameLen)
  | delRoom, (p : DelRoomPayload) =>
      encodeDelRoom p.pubkey
  | setNotifDefaults, (p : NotifDefaults) =>
      encodeSetNotifDefaults p.visual p.audible
  | setPin, (p : SetPinPayload) =>
      encodeSetPin (used p.pin p.pinLen)
  | setDeviceName, (p : SetDeviceNamePayload) =>
      encodeSetDeviceName (used p.name p.nameLen)
  | setLockPin, (p : SetLockPinPayload) =>
      encodeSetLockPin p.pin
  | setLockConfig, (p : SetLockConfigPayload) =>
      encodeSetLockConfig p.lockFlags p.lockTimeoutS
  | setRegion, (p : SetRegionPayload) =>
      encodeSetRegion (used p.name p.nameLen)
  | rspLock, (p : RspLockPayload) =>
      encodeRspLock p
  | rspRegion, (p : RspRegionPayload) =>
      encodeRspRegion (used p.name p.nameLen)
  | rspStatus, (p : RspStatusPayload) =>
      encodeRspStatus p
  | rspIdentity, (p : RspIdentityPayload) =>
      encodeRspIdentity p.pubkey (used p.deviceName p.deviceNameLen)
  | rspContact, (p : RspContactPayload) =>
      encodeRspContact p.index p.pubkey p.telemetryEnable
        (used p.displayName p.displayNameLen)
  | rspChannel, (p : RspChannelPayload) =>
      encodeRspChannel p.index p.channelHash p.keyLen p.primary
        (used p.name p.nameLen)
  | rspRoom, (p : RspRoomPayload) =>
      encodeRspRoom p.index p.pubkey p.syncSince p.permissions
        (used p.outPath p.outPathLen) (used p.name p.nameLen)
  | rspError, (p : RspErrorPayload) =>
      encodeRspError p.errorCode (used p.msg p.msgLen)

/--
Lengths are those of bytes padded with zeros, a key has half or full length, a
PIN is of digits, a region name is none or valid, and a hash is that of its key.
-/
def InRange :
    (layout : Layout) → layout.Payload → Prop
  | addContact, (p : AddContactPayload) =>
      Padded p.displayName p.displayNameLen
  | addChannel, (p : AddChannelPayload) =>
      (p.keyLen = 16 ∨ p.keyLen = 32) ∧ Padded p.name p.nameLen
  | addRoom, (p : AddRoomPayload) =>
      Padded p.guestPassword p.guestPasswordLen ∧ Padded p.name p.nameLen
  | setPin, (p : SetPinPayload) =>
      Padded p.pin p.pinLen
  | setDeviceName, (p : SetDeviceNamePayload) =>
      Padded p.name p.nameLen
  | setLockPin, (p : SetLockPinPayload) =>
      p.pin.toList.all isAsciiDigit = true
  | setRegion, (p : SetRegionPayload) =>
      RegionInRange p.name p.nameLen
  | rspRegion, (p : RspRegionPayload) =>
      RegionInRange p.name p.nameLen
  | rspIdentity, (p : RspIdentityPayload) =>
      p.pubHash = Bytes.firstByte p.pubkey ∧
        Padded p.deviceName p.deviceNameLen
  | rspContact, (p : RspContactPayload) =>
      Padded p.displayName p.displayNameLen
  | rspChannel, (p : RspChannelPayload) =>
      Padded p.name p.nameLen
  | rspRoom, (p : RspRoomPayload) =>
      Padded p.outPath p.outPathLen ∧ Padded p.name p.nameLen
  | rspError, (p : RspErrorPayload) =>
      Padded p.msg p.msgLen
  | queryAdvert, _ | delContact, _ | delChannel, _ | delRoom, _
  | setNotifDefaults, _ | setLockConfig, _ | rspLock, _ | rspStatus, _ =>
      True

/-- Every payload in range is decoded from what it is encoded to. -/
theorem roundTrips
    {layout : Layout}
    {p : layout.Payload}
    (inRange : layout.InRange p) :
    RoundTrips (layout.encode p) layout.decode p := by
  cases layout with
  | addContact => exact addContact_roundTrips inRange
  | queryAdvert => exact queryAdvert_roundTrips p
  | delContact => exact delContact_roundTrips p
  | addChannel => exact addChannel_roundTrips inRange.1 inRange.2
  | delChannel => exact delChannel_roundTrips p
  | addRoom => exact addRoom_roundTrips inRange.1 inRange.2
  | delRoom => exact delRoom_roundTrips p
  | setNotifDefaults => exact setNotifDefaults_roundTrips p
  | setPin => exact setPin_roundTrips inRange
  | setDeviceName => exact setDeviceName_roundTrips inRange
  | setLockPin => exact setLockPin_roundTrips inRange
  | setLockConfig => exact setLockConfig_roundTrips p
  | setRegion => exact setRegion_roundTrips inRange
  | rspLock => exact rspLock_roundTrips p
  | rspRegion => exact rspRegion_roundTrips inRange
  | rspStatus => exact rspStatus_roundTrips p
  | rspIdentity => exact rspIdentity_roundTrips inRange.1 inRange.2
  | rspContact => exact rspContact_roundTrips inRange
  | rspChannel => exact rspChannel_roundTrips inRange
  | rspRoom => exact rspRoom_roundTrips inRange.1 inRange.2
  | rspError => exact rspError_roundTrips inRange

/-- No decoder of a payload panics. -/
theorem safe
    (layout : Layout) :
    SafeFrom 0 layout.decode := by
  cases layout with
  | addContact => exact safeFrom_decodeAddContact
  | queryAdvert => exact safeFrom_decodeQueryAdvert
  | delContact => exact safeFrom_decodeDelContact
  | addChannel => exact safeFrom_decodeAddChannel
  | delChannel => exact safeFrom_decodeDelChannel
  | addRoom => exact safeFrom_decodeAddRoom
  | delRoom => exact safeFrom_decodeDelRoom
  | setNotifDefaults => exact safeFrom_decodeSetNotifDefaults
  | setPin => exact safeFrom_decodeSetPin
  | setDeviceName => exact safeFrom_decodeSetDeviceName
  | setLockPin => exact safeFrom_decodeSetLockPin
  | setLockConfig => exact safeFrom_decodeSetLockConfig
  | setRegion => exact safeFrom_decodeSetRegion
  | rspLock => exact safeFrom_decodeRspLock
  | rspRegion => exact safeFrom_decodeRspRegion
  | rspStatus => exact safeFrom_decodeRspStatus
  | rspIdentity => exact safeFrom_decodeRspIdentity
  | rspContact => exact safeFrom_decodeRspContact
  | rspChannel => exact safeFrom_decodeRspChannel
  | rspRoom => exact safeFrom_decodeRspRoom
  | rspError => exact safeFrom_decodeRspError

end Layout

/-! ## Frames -/

/--
The bytes that a frame is encoded to: the decoder finds its type and its payload
there, whatever follows, and in no shorter part of them.
-/
structure FrameRoundTrips
    (frameType : UInt8)
    (payload bytes : List UInt8) :
    Prop where
  length : bytes.length = frameOverhead + payload.length
  written : Fills (encodeFrame frameType payload) bytes
  decoded :
    ∀ rest : List UInt8,
      decodeFrame (bytes ++ rest) =
        .value { frameType := frameType, payload := payload }
  whole :
    ∀ few, few < bytes.length →
      decodeFrame (bytes.take few) = .failed .truncatedFrame

/-- A frame whose payload fits its length field. -/
theorem frame_roundTrips
    (frameType : UInt8)
    {payload : List UInt8}
    (fits : payload.length < 65536) :
    FrameRoundTrips frameType payload
      (MeshCadet.encodeFrame frameType payload) where
  length := length_encodeFrame frameType payload
  written := encodeFrame_fills frameType payload
  decoded := by
    intro rest
    rw [decodeFrame_eq,
      AdminServer.decodeFrame_append
        (decodeFrame_encodeFrame fits frameType) rest]
    rfl
  whole := by
    intro few isFew
    let frame : HostFrame := { frameType := frameType, payload := payload }
    have begins :
        (MeshCadet.encodeFrame frameType payload).take few <+:
          AdminServer.frameBytes frame :=
      List.take_prefix few _
    have incomplete :
        ((MeshCadet.encodeFrame frameType payload).take few).length <
          (AdminServer.frameBytes frame).length := by
      rw [List.length_take]
      exact Nat.lt_of_le_of_lt (Nat.min_le_left _ _) isFew
    have truncated :=
      AdminServer.decodeFrame_of_prefix fits begins incomplete
    rw [decodeFrame_eq, truncated]
    rfl

/-- What holds of the frames, and of the payloads of all commands and answers. -/
structure CodecContract : Prop where
  frames :
    ∀ (frameType : UInt8) (payload : List UInt8), payload.length < 65536 →
      ∃ bytes, FrameRoundTrips frameType payload bytes
  payloads :
    ∀ (layout : Layout) (p : layout.Payload), layout.InRange p →
      RoundTrips (layout.encode p) layout.decode p
  noFramePanics :
    ∀ buf : List UInt8, decodeFrame buf ≠ .panicked
  noPayloadPanics :
    ∀ (layout : Layout) (payload : List UInt8),
      layout.decode payload ≠ .panicked

/--
Frames and payloads are decoded to what they were encoded from, and no bytes
make a decoder read outside them.
-/
theorem codecContract :
    CodecContract where
  frames frameType payload fits :=
    ⟨MeshCadet.encodeFrame frameType payload,
      frame_roundTrips frameType fits⟩
  payloads _ _ inRange := Layout.roundTrips inRange
  noFramePanics buf := safeFrom_decodeFrame buf (Nat.zero_le _)
  noPayloadPanics layout payload := layout.safe payload (Nat.zero_le _)

end Provisioning

end MeshCadet
