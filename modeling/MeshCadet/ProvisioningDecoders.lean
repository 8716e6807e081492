import MeshCadet.ByteDecoders
import MeshCadet.HostFrames
import MeshCadet.RspPayloads

namespace MeshCadet

/-!
# Decoding provisioning frames and payloads

The decoders of all commands and answers, with every index, slice and copy they
make.  None of them panics, however long or short the bytes are.
-/

namespace Provisioning

open Outcome ByteDecoders

/-- Why bytes are not a frame or not a payload. -/
inductive ProvError where
  | truncatedFrame
  | badMagic
  | crcMismatch
  | truncatedPayload
  | nameTooLong
  | pinTooLong
  | passwordTooLong
  | pathTooLong
  | lockPinInvalid
  | regionNameInvalid
  | keyLenInvalid
deriving Repr, DecidableEq

/-- The longest error message. -/
def maxErrMsgLen : Nat :=
  64

/-- Digits of a lock PIN. -/
def lockPinLen : Nat :=
  4

structure DelContactPayload where
  pubkey : Key
deriving Repr, DecidableEq

structure DelChannelPayload where
  secret : Key
deriving Repr, DecidableEq

structure DelRoomPayload where
  pubkey : Key
deriving Repr, DecidableEq

structure SetPinPayload where
  pin : Vector UInt8 maxPinLen
  pinLen : UInt8
deriving Repr, DecidableEq

structure SetDeviceNamePayload where
  name : Vector UInt8 32
  nameLen : UInt8
deriving Repr, DecidableEq

structure SetLockPinPayload where
  pin : Vector UInt8 lockPinLen
deriving Repr, DecidableEq

structure SetLockConfigPayload where
  lockFlags : UInt8
  lockTimeoutS : UInt16
deriving Repr, DecidableEq

structure RspLockPayload where
  lockFlags : UInt8
  lockTimeoutS : UInt16
  pinSet : Bool
deriving Repr, DecidableEq

structure SetRegionPayload where
  name : Vector UInt8 regionNameMax
  nameLen : UInt8
deriving Repr, DecidableEq

structure RspRegionPayload where
  name : Vector UInt8 regionNameMax
  nameLen : UInt8
deriving Repr, DecidableEq

structure RspIdentityPayload where
  pubkey : Key
  pubHash : UInt8
  deviceName : Vector UInt8 32
  deviceNameLen : UInt8
deriving Repr, DecidableEq

structure RspErrorPayload where
  errorCode : UInt8
  msg : Vector UInt8 maxErrMsgLen
  msgLen : UInt8
deriving Repr, DecidableEq

/-! ## Frames -/

/-- Decode a frame at the front of a buffer. -/
def decodeFrame
    (buf : List UInt8) :
    Outcome ProvError HostFrame :=
  if buf.length < frameOverhead then
    .failed .truncatedFrame
  else do
    let magic0 ← index buf 0
    let magic1 ← index buf 1
    if magic0 ≠ 0x4D ∨ magic1 ≠ 0x43 then
      .failed .badMagic
    else do
      let frameType ← index buf 2
      let lenLo ← index buf 3
      let lenHi ← index buf 4
      let plen := wordOf lenLo lenHi
      let total := frameOverhead + plen
      if buf.length < total then
        .failed .truncatedFrame
      else do
        let crcLo ← index buf (5 + plen)
        let crcHi ← index buf (5 + plen + 1)
        let crcExpected := wordOf crcLo crcHi
        let body ← slice buf 0 (5 + plen)
        let crcActual := crc16 body
        if crcActual.toNat ≠ crcExpected then
          .failed .crcMismatch
        else do
          let payload ← slice buf 5 (5 + plen)
          pure { frameType := frameType, payload := payload }

/-! ## Commands -/

/-- Decode `pubkey(32) | telemetry(1) | name_len(1) | name`. -/
def decodeAddContact
    (payload : List UInt8) :
    Outcome ProvError AddContactPayload :=
  if payload.length < 34 then
    .failed .truncatedPayload
  else do
    let pubkey ← arrayAt 32 payload 0 32
    let telemetryEnable ← flagAt payload 32
    let name ←
      prefixedAt 32 .nameTooLong .truncatedPayload payload 33 0
    pure
      { pubkey := pubkey
        telemetryEnable := telemetryEnable
        displayName := name.1
        displayNameLen := name.2 }

/-- Decode `host_unix_time(4)`. -/
def decodeQueryAdvert
    (payload : List UInt8) :
    Outcome ProvError UInt32 :=
  if payload.length < 4 then
    .failed .truncatedPayload
  else
    wordAt payload 0 4

/-- Decode `pubkey(32)`. -/
def decodeDelContact
    (payload : List UInt8) :
    Outcome ProvError DelContactPayload :=
  if payload.length < 32 then
    .failed .truncatedPayload
  else do
    let pubkey ← arrayAt 32 payload 0 32
    pure { pubkey := pubkey }

/-- Decode `secret(32) | key_len(1) | primary(1) | name_len(1) | name`. -/
def decodeAddChannel
    (payload : List UInt8) :
    Outcome ProvError AddChannelPayload :=
  if payload.length < 35 then
    .failed .truncatedPayload
  else do
    let secret ← arrayAt 32 payload 0 32
    let keyLen ← index payload 32
    if keyLen ≠ 16 ∧ keyLen ≠ 32 then
      .failed .keyLenInvalid
    else do
      let primary ← flagAt payload 33
      let name ←
        prefixedAt 32 .nameTooLong .truncatedPayload payload 34 0
      pure
        { secret := secret
          keyLen := keyLen
          primary := primary
          name := name.1
          nameLen := name.2 }

/-- Decode `secret(32)`. -/
def decodeDelChannel
    (payload : List UInt8) :
    Outcome ProvError DelChannelPayload :=
  if payload.length < 32 then
    .failed .truncatedPayload
  else do
    let secret ← arrayAt 32 payload 0 32
    pure { secret := secret }

/--
Decode `pubkey(32) | guest_password_len(1) | guest_password | name_len(1) |
name`; the password has to leave room for the length of the name.
-/
def decodeAddRoom
    (payload : List UInt8) :
    Outcome ProvError AddRoomPayload :=
  if payload.length < 34 then
    .failed .truncatedPayload
  else do
    let pubkey ← arrayAt 32 payload 0 32
    let password ←
      prefixedAt maxLoginPasswordLen .passwordTooLong .truncatedPayload
        payload 32 1
    let nameOff := 33 + password.2.toNat
    let name ←
      prefixedAt 32 .nameTooLong .truncatedPayload payload nameOff 0
    pure
      { pubkey := pubkey
        guestPassword := password.1
        guestPasswordLen := password.2
        name := name.1
        nameLen := name.2 }

/-- Decode `pubkey(32)`. -/
def decodeDelRoom
    (payload : List UInt8) :
    Outcome ProvError DelRoomPayload := do
  let d ← decodeDelContact payload
  pure { pubkey := d.pubkey }

/-- Decode `visual(1) | audible(1)`. -/
def decodeSetNotifDefaults
    (payload : List UInt8) :
    Outcome ProvError NotifDefaults :=
  if payload.length < 2 then
    .failed .truncatedPayload
  else do
    let visual ← flagAt payload 0
    let audible ← flagAt payload 1
    pure { visual := visual, audible := audible }

/-- Decode `pin_len(1) | pin`. -/
def decodeSetPin
    (payload : List UInt8) :
    Outcome ProvError SetPinPayload :=
  if payload.length < 1 then
    .failed .truncatedPayload
  else do
    let pin ←
      prefixedAt maxPinLen .pinTooLong .truncatedPayload payload 0 0
    pure { pin := pin.1, pinLen := pin.2 }

/-- Decode `name_len(1) | name`. -/
def decodeSetDeviceName
    (payload : List UInt8) :
    Outcome ProvError SetDeviceNamePayload :=
  if payload.length < 1 then
    .failed .truncatedPayload
  else do
    let name ←
      prefixedAt 32 .nameTooLong .truncatedPayload payload 0 0
    pure { name := name.1, nameLen := name.2 }

/-- The byte is an ASCII digit. -/
def isAsciiDigit
    (byte : UInt8) :
    Bool :=
  0x30 ≤ byte && byte ≤ 0x39

/-- Decode `pin(4)`: exactly as many digits. -/
def decodeSetLockPin
    (payload : List UInt8) :
    Outcome ProvError SetLockPinPayload :=
  if payload.length ≠ lockPinLen then
    .failed .lockPinInvalid
  else if ¬ payload.all isAsciiDigit then
    .failed .lockPinInvalid
  else do
    let pin ← copyFromSlice lockPinLen payload
    pure { pin := pin }

/-- Decode `lock_flags(1) | lock_timeout_s(2)`. -/
def decodeSetLockConfig
    (payload : List UInt8) :
    Outcome ProvError SetLockConfigPayload :=
  if payload.length < 3 then
    .failed .truncatedPayload
  else do
    let lockFlags ← index payload 0
    let lockTimeoutS ← halfAt payload 1 3
    pure { lockFlags := lockFlags, lockTimeoutS := lockTimeoutS }

/-- The bytes of a region name, or of none; a name there is has to be valid. -/
def regionNameAt
    (payload : List UInt8) :
    Outcome ProvError (Vector UInt8 regionNameMax × UInt8) :=
  if payload.length < 1 then
    .failed .truncatedPayload
  else do
    let nameBytes ←
      prefixedSlice regionNameMax .regionNameInvalid .truncatedPayload
        payload 0 0
    if nameBytes ≠ [] ∧ validateRegionName nameBytes ≠ .ok () then
      .failed .regionNameInvalid
    else do
      let name ← copyPadded regionNameMax nameBytes
      pure (name, UInt8.ofNat nameBytes.length)

/-- Decode `name_len(1) | name`; no name clears the region. -/
def decodeSetRegion
    (payload : List UInt8) :
    Outcome ProvError SetRegionPayload := do
  let name ← regionNameAt payload
  pure { name := name.1, nameLen := name.2 }

/-! ## Answers -/

/-- Decode `lock_flags(1) | lock_timeout_s(2) | pin_set(1)`. -/
def decodeRspLock
    (payload : List UInt8) :
    Outcome ProvError RspLockPayload :=
  if payload.length < 4 then
    .failed .truncatedPayload
  else do
    let lockFlags ← index payload 0
    let lockTimeoutS ← halfAt payload 1 3
    let pinSet ← flagAt payload 3
    pure
      { lockFlags := lockFlags
        lockTimeoutS := lockTimeoutS
        pinSet := pinSet }

/-- Decode `name_len(1) | name`; no name is no region. -/
def decodeRspRegion
    (payload : List UInt8) :
    Outcome ProvError RspRegionPayload := do
  let name ← regionNameAt payload
  pure { name := name.1, nameLen := name.2 }

/-- A half word that payloads of older firmware do not have. -/
def tailHalfAt
    (payload : List UInt8)
    (start stop : Nat) :
    Outcome ProvError UInt16 :=
  if stop ≤ payload.length then
    halfAt payload start stop
  else
    .value 0

/-- The level and whether it is confirmed, or what stands in for them. -/
def tailLevelAt
    (payload : List UInt8)
    (batteryPercent : UInt8)
    (batteryCharging : Bool) :
    Outcome ProvError (UInt8 × Bool) :=
  if 61 ≤ payload.length then do
    let level ← index payload 59
    let confirmed ← flagAt payload 60
    pure (level, confirmed)
  else
    .value (legacyPercentToBatteryLevel batteryPercent batteryCharging, true)

/-- Decode the status; what older firmware leaves out takes its default. -/
def decodeRspStatus
    (payload : List UInt8) :
    Outcome ProvError RspStatusPayload :=
  if payload.length < 55 then
    .failed .truncatedPayload
  else do
    let provisioned ← flagAt payload 0
    let pubkey ← arrayAt 32 payload 1 33
    let batteryPercent ← index payload 53
    let batteryCharging ← flagAt payload 54
    let batteryRawMv ← tailHalfAt payload 55 57
    let batteryHeldRawMv ← tailHalfAt payload 57 59
    let level ← tailLevelAt payload batteryPercent batteryCharging
    let contactCount ← index payload 33
    let channelCount ← index payload 34
    let gpsHasFix ← flagAt payload 35
    let gpsLatE7 ← wordAt payload 36 40
    let gpsLonE7 ← wordAt payload 40 44
    let gpsFixAgeSecs ← wordAt payload 44 48
    let gpsClockSynced ← flagAt payload 48
    let gpsClockSyncAgeSecs ← wordAt payload 49 53
    pure
      { provisioned := provisioned
        pubkey := pubkey
        contactCount := contactCount
        channelCount := channelCount
        gpsHasFix := gpsHasFix
        gpsLatE7 := gpsLatE7.toInt32
        gpsLonE7 := gpsLonE7.toInt32
        gpsFixAgeSecs := gpsFixAgeSecs
        gpsClockSynced := gpsClockSynced
        gpsClockSyncAgeSecs := gpsClockSyncAgeSecs
        batteryPercent := batteryPercent
        batteryCharging := batteryCharging
        batteryRawMv := batteryRawMv
        batteryHeldRawMv := batteryHeldRawMv
        batteryLevel := level.1
        batteryConfirmed := level.2 }

/-- Decode `pubkey(32) | pub_hash(1) | name_len(1) | name`. -/
def decodeRspIdentity
    (payload : List UInt8) :
    Outcome ProvError RspIdentityPayload :=
  if payload.length < 34 then
    .failed .truncatedPayload
  else do
    let pubkey ← arrayAt 32 payload 0 32
    let pubHash ← index payload 32
    let name ←
      prefixedAt 32 .nameTooLong .truncatedPayload payload 33 0
    pure
      { pubkey := pubkey
        pubHash := pubHash
        deviceName := name.1
        deviceNameLen := name.2 }

/-- Decode `index(1) | pubkey(32) | telemetry(1) | name_len(1) | name`. -/
def decodeRspContact
    (payload : List UInt8) :
    Outcome ProvError RspContactPayload :=
  if payload.length < 35 then
    .failed .truncatedPayload
  else do
    let place ← index payload 0
    let pubkey ← arrayAt 32 payload 1 33
    let telemetryEnable ← flagAt payload 33
    let name ←
      prefixedAt 32 .nameTooLong .truncatedPayload payload 34 0
    pure
      { index := place
        pubkey := pubkey
        telemetryEnable := telemetryEnable
        displayName := name.1
        displayNameLen := name.2 }

/--
Decode `index(1) | channel_hash(1) | key_len(1) | primary(1) | name_len(1) |
name`.
-/
def decodeRspChannel
    (payload : List UInt8) :
    Outcome ProvError RspChannelPayload :=
  if payload.length < 5 then
    .failed .truncatedPayload
  else do
    let place ← index payload 0
    let channelHash ← index payload 1
    let keyLen ← index payload 2
    let primary ← flagAt payload 3
    let name ←
      prefixedAt 32 .nameTooLong .truncatedPayload payload 4 0
    pure
      { index := place
        channelHash := channelHash
        keyLen := keyLen
        primary := primary
        name := name.1
        nameLen := name.2 }

/--
Decode `index(1) | pubkey(32) | sync_since(4) | permissions(1) |
out_path_len(1) | out_path | name_len(1) | name`.
-/
def decodeRspRoom
    (payload : List UInt8) :
    Outcome ProvError RspRoomPayload :=
  if payload.length < 39 then
    .failed .truncatedPayload
  else do
    let place ← index payload 0
    let pubkey ← arrayAt 32 payload 1 33
    let syncSince ← wordAt payload 33 37
    let permissions ← index payload 37
    let path ←
      prefixedAt maxPathSize .pathTooLong .truncatedPayload payload 38 0
    let nameOff := 39 + path.2.toNat
    if payload.length < nameOff + 1 then
      .failed .truncatedPayload
    else do
      let name ←
        prefixedAt 32 .nameTooLong .truncatedPayload payload nameOff 0
      pure
        { index := place
          pubkey := pubkey
          syncSince := syncSince
          permissions := permissions
          outPath := path.1
          outPathLen := path.2
          name := name.1
          nameLen := name.2 }

/-- Decode `error_code(1) | msg_len(1) | msg`. -/
def decodeRspError
    (payload : List UInt8) :
    Outcome ProvError RspErrorPayload :=
  if payload.length < 2 then
    .failed .truncatedPayload
  else do
    let errorCode ← index payload 0
    let msg ←
      prefixedAt maxErrMsgLen .truncatedPayload .truncatedPayload payload 1 0
    pure { errorCode := errorCode, msg := msg.1, msgLen := msg.2 }

/-! ## No decoder panics -/

/-- An error of a frame, among all errors. -/
def ofFrameError : FrameError → ProvError
  | .truncatedFrame => .truncatedFrame
  | .badMagic => .badMagic
  | .crcMismatch => .crcMismatch

/-- The checked decoder of frames finds the frame of the host's buffer. -/
theorem decodeFrame_eq
    (buf : List UInt8) :
    decodeFrame buf =
      mapFailure ofFrameError (ofExcept (MeshCadet.decodeFrame buf)) := by
  have seven : frameOverhead = 7 := rfl
  rw [decodeFrame, MeshCadet.decodeFrame]
  split
  · rfl
  rename_i header
  rw [index_getD (by omega), value_bind, index_getD (by omega), value_bind]
  split
  · rfl
  rw [index_getD (by omega), value_bind, index_getD (by omega), value_bind,
    index_getD (by omega), value_bind]
  change
    (if buf.length < frameOverhead + claimedLen buf then _ else _) =
      mapFailure _ (ofExcept
        (if buf.length < frameOverhead + claimedLen buf then _ else _))
  split
  · rfl
  rename_i complete
  change (index buf (5 + claimedLen buf) >>= fun crcLo => _) = _
  rw [index_getD (by omega), value_bind]
  change (index buf (5 + claimedLen buf + 1) >>= fun crcHi => _) = _
  rw [index_getD (by omega), value_bind]
  change (slice buf 0 (5 + claimedLen buf) >>= fun body => _) = _
  rw [slice_eq (Nat.zero_le _) (by omega), value_bind, List.drop_zero,
    Nat.sub_zero]
  dsimp only
  split
  · rfl
  change (slice buf 5 (5 + claimedLen buf) >>= fun payload => _) = _
  rw [slice_eq (Nat.le_add_right _ _) (by omega), value_bind,
    Nat.add_sub_cancel_left]
  rfl

theorem safeFrom_decodeFrame :
    SafeFrom 0 decodeFrame := by
  intro buf _
  rw [decodeFrame_eq]
  cases MeshCadet.decodeFrame buf with
  | ok frame => exact nofun
  | error problem => exact nofun

theorem safeFrom_decodeAddContact :
    SafeFrom 0 decodeAddContact := by
  unfold decodeAddContact
  exact .unlessShort
    (.bind (safeFrom_arrayAt (by omega) rfl) fun _ =>
      .bind (safeFrom_flagAt (by omega)) fun _ =>
        .prefixedAt (by omega) fun _ => .done _)

theorem safeFrom_decodeQueryAdvert :
    SafeFrom 0 decodeQueryAdvert := by
  unfold decodeQueryAdvert
  exact .unlessShort (safeFrom_wordAt (by omega) rfl)

theorem safeFrom_decodeDelContact :
    SafeFrom 0 decodeDelContact := by
  unfold decodeDelContact
  exact .unlessShort
    (.bind (safeFrom_arrayAt (by omega) rfl) fun _ => .done _)

theorem safeFrom_decodeAddChannel :
    SafeFrom 0 decodeAddChannel := by
  unfold decodeAddChannel
  exact .unlessShort
    (.bind (safeFrom_arrayAt (by omega) rfl) fun _ =>
      .bind (safeFrom_index (by omega)) fun _ =>
        .unless
          (.bind (safeFrom_flagAt (by omega)) fun _ =>
            .prefixedAt (by omega) fun _ => .done _))

theorem safeFrom_decodeDelChannel :
    SafeFrom 0 decodeDelChannel := by
  unfold decodeDelChannel
  exact .unlessShort
    (.bind (safeFrom_arrayAt (by omega) rfl) fun _ => .done _)

/-- The password leaves room for the length of the name. -/
theorem safeFrom_decodeAddRoom :
    SafeFrom 0 decodeAddRoom := by
  unfold decodeAddRoom
  exact .unlessShort
    (.bind (safeFrom_arrayAt (by omega) rfl) fun _ =>
      .prefixedAt (by omega) fun _ =>
        .prefixedAt (by omega) fun _ => .done _)

theorem safeFrom_decodeDelRoom :
    SafeFrom 0 decodeDelRoom := by
  unfold decodeDelRoom
  exact safeFrom_decodeDelContact.bind fun _ => .done _

theorem safeFrom_decodeSetNotifDefaults :
    SafeFrom 0 decodeSetNotifDefaults := by
  unfold decodeSetNotifDefaults
  exact .unlessShort
    (.bind (safeFrom_flagAt (by omega)) fun _ =>
      .bind (safeFrom_flagAt (by omega)) fun _ => .done _)

theorem safeFrom_decodeSetPin :
    SafeFrom 0 decodeSetPin := by
  unfold decodeSetPin
  exact .unlessShort (.prefixedAt (by omega) fun _ => .done _)

theorem safeFrom_decodeSetDeviceName :
    SafeFrom 0 decodeSetDeviceName := by
  unfold decodeSetDeviceName
  exact .unlessShort (.prefixedAt (by omega) fun _ => .done _)

theorem safeFrom_decodeSetLockPin :
    SafeFrom 0 decodeSetLockPin := by
  intro payload _
  rw [decodeSetLockPin]
  split
  · exact nofun
  rename_i isLength
  split
  · exact nofun
  rw [copyFromSlice_eq (not_not.mp isLength), value_bind]
  exact nofun

theorem safeFrom_decodeSetLockConfig :
    SafeFrom 0 decodeSetLockConfig := by
  unfold decodeSetLockConfig
  exact .unlessShort
    (.bind (safeFrom_index (by omega)) fun _ =>
      .bind (safeFrom_halfAt (by omega) rfl) fun _ => .done _)

/-- The name is no longer than its array. -/
theorem safeFrom_regionNameAt :
    SafeFrom 0 regionNameAt := by
  unfold regionNameAt
  refine .unlessShort (.prefixedSlice (by omega) fun source fits =>
    .unless (.bind ?_ fun _ => .done _))
  intro payload _
  dsimp only
  rw [copyPadded_eq fits]
  exact nofun

theorem safeFrom_decodeSetRegion :
    SafeFrom 0 decodeSetRegion := by
  unfold decodeSetRegion
  exact safeFrom_regionNameAt.bind fun _ => .done _

theorem safeFrom_decodeRspLock :
    SafeFrom 0 decodeRspLock := by
  unfold decodeRspLock
  exact .unlessShort
    (.bind (safeFrom_index (by omega)) fun _ =>
      .bind (safeFrom_halfAt (by omega) rfl) fun _ =>
        .bind (safeFrom_flagAt (by omega)) fun _ => .done _)

theorem safeFrom_decodeRspRegion :
    SafeFrom 0 decodeRspRegion := by
  unfold decodeRspRegion
  exact safeFrom_regionNameAt.bind fun _ => .done _

theorem safeFrom_tailHalfAt
    {length start stop : Nat}
    (isStop : stop = start + 2) :
    SafeFrom length (fun payload => tailHalfAt payload start stop) := by
  intro payload _
  dsimp only
  rw [tailHalfAt]
  split
  · rename_i inside
    rw [halfAt_eq inside isStop]
    exact nofun
  · exact nofun

theorem safeFrom_tailLevelAt
    {length : Nat}
    (batteryPercent : UInt8)
    (batteryCharging : Bool) :
    SafeFrom length
      (fun payload =>
        tailLevelAt payload batteryPercent batteryCharging) := by
  intro payload _
  dsimp only
  rw [tailLevelAt]
  split
  · rename_i inside
    rw [index_getD (by omega), value_bind, flagAt_eq (by omega)]
    exact nofun
  · exact nofun

theorem safeFrom_decodeRspStatus :
    SafeFrom 0 decodeRspStatus := by
  unfold decodeRspStatus
  exact .unlessShort
    (.bind (safeFrom_flagAt (by omega)) fun _ =>
      .bind (safeFrom_arrayAt (by omega) rfl) fun _ =>
      .bind (safeFrom_index (by omega)) fun _ =>
      .bind (safeFrom_flagAt (by omega)) fun _ =>
      .bind (safeFrom_tailHalfAt rfl) fun _ =>
      .bind (safeFrom_tailHalfAt rfl) fun _ =>
      .bind (safeFrom_tailLevelAt _ _) fun _ =>
      .bind (safeFrom_index (by omega)) fun _ =>
      .bind (safeFrom_index (by omega)) fun _ =>
      .bind (safeFrom_flagAt (by omega)) fun _ =>
      .bind (safeFrom_wordAt (by omega) rfl) fun _ =>
      .bind (safeFrom_wordAt (by omega) rfl) fun _ =>
      .bind (safeFrom_wordAt (by omega) rfl) fun _ =>
      .bind (safeFrom_flagAt (by omega)) fun _ =>
      .bind (safeFrom_wordAt (by omega) rfl) fun _ => .done _)

theorem safeFrom_decodeRspIdentity :
    SafeFrom 0 decodeRspIdentity := by
  unfold decodeRspIdentity
  exact .unlessShort
    (.bind (safeFrom_arrayAt (by omega) rfl) fun _ =>
      .bind (safeFrom_index (by omega)) fun _ =>
        .prefixedAt (by omega) fun _ => .done _)

theorem safeFrom_decodeRspContact :
    SafeFrom 0 decodeRspContact := by
  unfold decodeRspContact
  exact .unlessShort
    (.bind (safeFrom_index (by omega)) fun _ =>
      .bind (safeFrom_arrayAt (by omega) rfl) fun _ =>
        .bind (safeFrom_flagAt (by omega)) fun _ =>
          .prefixedAt (by omega) fun _ => .done _)

theorem safeFrom_decodeRspChannel :
    SafeFrom 0 decodeRspChannel := by
  unfold decodeRspChannel
  exact .unlessShort
    (.bind (safeFrom_index (by omega)) fun _ =>
      .bind (safeFrom_index (by omega)) fun _ =>
        .bind (safeFrom_index (by omega)) fun _ =>
          .bind (safeFrom_flagAt (by omega)) fun _ =>
            .prefixedAt (by omega) fun _ => .done _)

/-- Behind the path a check of its own finds the length of the name. -/
theorem safeFrom_decodeRspRoom :
    SafeFrom 0 decodeRspRoom := by
  unfold decodeRspRoom
  exact .unlessShort
    (.bind (safeFrom_index (by omega)) fun _ =>
      .bind (safeFrom_arrayAt (by omega) rfl) fun _ =>
        .bind (safeFrom_wordAt (by omega) rfl) fun _ =>
          .bind (safeFrom_index (by omega)) fun _ =>
            .prefixedAt (by omega) fun _ =>
              .unlessShort (.prefixedAt (by omega) fun _ => .done _))

theorem safeFrom_decodeRspError :
    SafeFrom 0 decodeRspError := by
  unfold decodeRspError
  exact .unlessShort
    (.bind (safeFrom_index (by omega)) fun _ =>
      .prefixedAt (by omega) fun _ => .done _)

end Provisioning

end MeshCadet
