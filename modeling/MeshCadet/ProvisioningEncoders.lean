import MeshCadet.ProvisioningDecoders

namespace MeshCadet

/-!
# Encoding provisioning frames and payloads

Every encoder writes into the buffer that it is given and returns how many bytes
it wrote.  A name, a PIN or a message that is too long is cut; a region name
that is not valid is refused.
-/

namespace Provisioning

open Outcome BufferFills ByteDecoders

/-! ## Frames -/

/-- Copy the payload into its frame, if there is one. -/
def writePayload
    (out payload : List UInt8) :
    Outcome ProvError (List UInt8) :=
  if 0 < payload.length then write out 5 payload else pure out

/-- Encode a frame; the checksum is that of the bytes in front of it. -/
def encodeFrame
    (frameType : UInt8)
    (payload : List UInt8) :
    Writer ProvError :=
  fun out => do
    let plen := payload.length
    let out ← write out 0 [0x4D]
    let out ← write out 1 [0x43]
    let out ← write out 2 [frameType]
    let out ← write out 3 [UInt8.ofNat plen]
    let out ← write out 4 [UInt8.ofNat (plen >>> 8)]
    let out ← writePayload out payload
    let body ← slice out 0 (5 + plen)
    let crc := crc16 body
    let out ← write out (5 + plen) [UInt8.ofNat crc.toNat]
    let out ← write out (5 + plen + 1) [UInt8.ofNat (crc.toNat >>> 8)]
    pure (out, frameOverhead + plen)

/-! ## Commands -/

/-- Encode `pubkey(32) | telemetry(1) | name_len(1) | name`. -/
def encodeAddContact
    (pubkey : Key)
    (telemetryEnable : Bool)
    (displayName : List UInt8) :
    Writer ProvError :=
  fun out => do
    let nameLen := min displayName.length 32
    let out ← write out 0 pubkey.toList
    let out ← write out 32 [telemetryEnable.toUInt8]
    let out ← writePrefixed 32 out 33 displayName
    pure (out, 34 + nameLen)

/-- Encode `host_unix_time(4)`. -/
def encodeQueryAdvert
    (hostUnixTime : UInt32) :
    Writer ProvError :=
  fun out => do
    let out ← write out 0 (Bytes.u32ToLeBytes hostUnixTime).toList
    pure (out, 4)

/-- Encode `pubkey(32)`. -/
def encodeDelContact
    (pubkey : Key) :
    Writer ProvError :=
  fun out => do
    let out ← write out 0 pubkey.toList
    pure (out, 32)

/-- Encode `secret(32) | key_len(1) | primary(1) | name_len(1) | name`. -/
def encodeAddChannel
    (secret : Key)
    (keyLen : UInt8)
    (primary : Bool)
    (name : List UInt8) :
    Writer ProvError :=
  fun out => do
    let nameLen := min name.length 32
    let out ← write out 0 secret.toList
    let out ← write out 32 [keyLen]
    let out ← write out 33 [primary.toUInt8]
    let out ← writePrefixed 32 out 34 name
    pure (out, 35 + nameLen)

/-- Encode `secret(32)`. -/
def encodeDelChannel
    (secret : Key) :
    Writer ProvError :=
  fun out => do
    let out ← write out 0 secret.toList
    pure (out, 32)

/--
Encode `pubkey(32) | guest_password_len(1) | guest_password | name_len(1) |
name`.
-/
def encodeAddRoom
    (pubkey : Key)
    (guestPassword name : List UInt8) :
    Writer ProvError :=
  fun out => do
    let pwLen := min guestPassword.length maxLoginPasswordLen
    let nameLen := min name.length 32
    let out ← write out 0 pubkey.toList
    let out ← writePrefixed maxLoginPasswordLen out 32 guestPassword
    let nameOff := 33 + pwLen
    let out ← writePrefixed 32 out nameOff name
    pure (out, nameOff + 1 + nameLen)

/-- Encode `pubkey(32)`. -/
def encodeDelRoom
    (pubkey : Key) :
    Writer ProvError :=
  encodeDelContact pubkey

/-- Encode `visual(1) | audible(1)`. -/
def encodeSetNotifDefaults
    (visual audible : Bool) :
    Writer ProvError :=
  fun out => do
    let out ← write out 0 [visual.toUInt8]
    let out ← write out 1 [audible.toUInt8]
    pure (out, 2)

/-- Encode `pin_len(1) | pin`. -/
def encodeSetPin
    (pin : List UInt8) :
    Writer ProvError :=
  fun out => do
    let pinLen := min pin.length maxPinLen
    let out ← writePrefixed maxPinLen out 0 pin
    pure (out, 1 + pinLen)

/-- Encode `name_len(1) | name`. -/
def encodeSetDeviceName
    (name : List UInt8) :
    Writer ProvError :=
  fun out => do
    let nameLen := min name.length 32
    let out ← writePrefixed 32 out 0 name
    pure (out, 1 + nameLen)

/-- Encode `pin(4)`. -/
def encodeSetLockPin
    (pin : Vector UInt8 lockPinLen) :
    Writer ProvError :=
  fun out => do
    let out ← write out 0 pin.toList
    pure (out, lockPinLen)

/-- Encode `lock_flags(1) | lock_timeout_s(2)`. -/
def encodeSetLockConfig
    (lockFlags : UInt8)
    (lockTimeoutS : UInt16) :
    Writer ProvError :=
  fun out => do
    let out ← write out 0 [lockFlags]
    let out ← write out 1 (u16ToLeBytes lockTimeoutS)
    pure (out, 3)

/-- Encode `name_len(1) | name`; refuse a name that is not valid. -/
def encodeSetRegion
    (name : List UInt8) :
    Writer ProvError :=
  fun out =>
    if name ≠ [] ∧ validateRegionName name ≠ .ok () then
      .failed .regionNameInvalid
    else do
      let out ← write out 0 [UInt8.ofNat name.length]
      let out ← write out 1 name
      pure (out, 1 + name.length)

/-! ## Answers -/

/-- Encode `lock_flags(1) | lock_timeout_s(2) | pin_set(1)`. -/
def encodeRspLock
    (payload : RspLockPayload) :
    Writer ProvError :=
  fun out => do
    let out ← write out 0 [payload.lockFlags]
    let out ← write out 1 (u16ToLeBytes payload.lockTimeoutS)
    let out ← write out 3 [payload.pinSet.toUInt8]
    pure (out, 4)

/-- Encode `name_len(1) | name`; refuse a name that is not valid. -/
def encodeRspRegion
    (name : List UInt8) :
    Writer ProvError :=
  encodeSetRegion name

/-- Encode the status. -/
def encodeRspStatus
    (payload : RspStatusPayload) :
    Writer ProvError :=
  fun out => do
    let out ← write out 0 [payload.provisioned.toUInt8]
    let out ← write out 1 payload.pubkey.toList
    let out ← write out 33 [payload.contactCount]
    let out ← write out 34 [payload.channelCount]
    let out ← write out 35 [payload.gpsHasFix.toUInt8]
    let out ←
      write out 36 (Bytes.u32ToLeBytes payload.gpsLatE7.toUInt32).toList
    let out ←
      write out 40 (Bytes.u32ToLeBytes payload.gpsLonE7.toUInt32).toList
    let out ← write out 44 (Bytes.u32ToLeBytes payload.gpsFixAgeSecs).toList
    let out ← write out 48 [payload.gpsClockSynced.toUInt8]
    let out ←
      write out 49 (Bytes.u32ToLeBytes payload.gpsClockSyncAgeSecs).toList
    let out ← write out 53 [payload.batteryPercent]
    let out ← write out 54 [payload.batteryCharging.toUInt8]
    let out ← write out 55 (u16ToLeBytes payload.batteryRawMv)
    let out ← write out 57 (u16ToLeBytes payload.batteryHeldRawMv)
    let out ← write out 59 [payload.batteryLevel]
    let out ← write out 60 [payload.batteryConfirmed.toUInt8]
    pure (out, 61)

/-- Encode `pubkey(32) | pub_hash(1) | name_len(1) | name`. -/
def encodeRspIdentity
    (pubkey : Key)
    (deviceName : List UInt8) :
    Writer ProvError :=
  fun out => do
    let nameLen := min deviceName.length 32
    let out ← write out 0 pubkey.toList
    let out ← write out 32 [Bytes.firstByte pubkey]
    let out ← writePrefixed 32 out 33 deviceName
    pure (out, 34 + nameLen)

/-- Encode `index(1) | pubkey(32) | telemetry(1) | name_len(1) | name`. -/
def encodeRspContact
    (place : UInt8)
    (pubkey : Key)
    (telemetryEnable : Bool)
    (name : List UInt8) :
    Writer ProvError :=
  fun out => do
    let nameLen := min name.length 32
    let out ← write out 0 [place]
    let out ← write out 1 pubkey.toList
    let out ← write out 33 [telemetryEnable.toUInt8]
    let out ← writePrefixed 32 out 34 name
    pure (out, 35 + nameLen)

/--
Encode `index(1) | channel_hash(1) | key_len(1) | primary(1) | name_len(1) |
name`.
-/
def encodeRspChannel
    (place channelHash keyLen : UInt8)
    (primary : Bool)
    (name : List UInt8) :
    Writer ProvError :=
  fun out => do
    let nameLen := min name.length 32
    let out ← write out 0 [place]
    let out ← write out 1 [channelHash]
    let out ← write out 2 [keyLen]
    let out ← write out 3 [primary.toUInt8]
    let out ← writePrefixed 32 out 4 name
    pure (out, 5 + nameLen)

/--
Encode `index(1) | pubkey(32) | sync_since(4) | permissions(1) |
out_path_len(1) | out_path | name_len(1) | name`.
-/
def encodeRspRoom
    (place : UInt8)
    (pubkey : Key)
    (syncSince : UInt32)
    (permissions : UInt8)
    (outPath name : List UInt8) :
    Writer ProvError :=
  fun out => do
    let outPathLen := min outPath.length maxPathSize
    let nameLen := min name.length 32
    let out ← write out 0 [place]
    let out ← write out 1 pubkey.toList
    let out ← write out 33 (Bytes.u32ToLeBytes syncSince).toList
    let out ← write out 37 [permissions]
    let out ← writePrefixed maxPathSize out 38 outPath
    let nameOff := 39 + outPathLen
    let out ← writePrefixed 32 out nameOff name
    pure (out, nameOff + 1 + nameLen)

/-- Encode `error_code(1) | msg_len(1) | msg`. -/
def encodeRspError
    (errorCode : UInt8)
    (msg : List UInt8) :
    Writer ProvError :=
  fun out => do
    let msgLen := min msg.length maxErrMsgLen
    let out ← write out 0 [errorCode]
    let out ← writePrefixed maxErrMsgLen out 1 msg
    pure (out, 2 + msgLen)

/-! ## What the encoders write -/

section Written

variable (pubkey secret : Key) (name : List UInt8) (flag : Bool)
  (place : UInt8)

/-- A writer goes on with what was read from the front it has filled. -/
theorem fillsBehind_read
    {front bytes : List UInt8}
    {next : List UInt8 → Writer ProvError}
    {stop : Nat}
    (isStop : front.length = stop)
    (later : FillsBehind front (next front) bytes) :
    FillsBehind front
      (fun out => slice out 0 stop >>= fun read => next read out)
      bytes := by
  intro out fits
  subst isStop
  have within : front.length ≤ (front ++ out.drop front.length).length := by
    rw [List.length_append]
    omega
  dsimp only
  rw [slice_eq (Nat.zero_le _) within, value_bind, List.drop_zero,
    Nat.sub_zero, List.take_left]
  exact later out fits

/-- A payload is written unless it is empty. -/
theorem fillsBehind_writePayload
    {front payload bytes : List UInt8}
    {writer : Writer ProvError}
    (isStart : front.length = 5)
    (later : FillsBehind (front ++ payload) writer bytes) :
    FillsBehind front
      (fun out => writePayload out payload >>= writer)
      (payload ++ bytes) := by
  cases payload with
  | nil =>
      rw [List.append_nil] at later
      exact later
  | cons first rest =>
      exact .write isStart later

/-- A frame is written as its bytes. -/
theorem encodeFrame_fills
    (frameType : UInt8)
    (payload : List UInt8) :
    Fills (encodeFrame frameType payload)
      (MeshCadet.encodeFrame frameType payload) := by
  have isFrame :
      MeshCadet.encodeFrame frameType payload =
        ([0x4D] : List UInt8) ++ (([0x43] : List UInt8) ++ ([frameType] ++
          ([UInt8.ofNat payload.length] ++
            ([UInt8.ofNat (payload.length >>> 8)] ++ (payload ++
              ([UInt8.ofNat (crc16 (frameBody frameType payload)).toNat] ++
                ([UInt8.ofNat
                    ((crc16 (frameBody frameType payload)).toNat >>> 8)] ++
                  []))))))) := rfl
  have bodyLength := length_frameBody frameType payload
  have seven : frameOverhead = 7 := rfl
  rw [isFrame]
  unfold encodeFrame
  refine FillsBehind.fills (.write rfl (.write rfl (.write rfl (.write rfl
    (.write rfl (fillsBehind_writePayload rfl (fillsBehind_read ?_
      (.write ?_ (.write ?_ (.done ?_))))))))))
  all_goals
    simp only [List.length_append, List.length_cons, List.length_nil]
  all_goals omega

/-- A field takes its length byte and its bytes. -/
theorem length_prefixed_take
    (max : Nat)
    (bytes : List UInt8) :
    (prefixed (bytes.take max)).length = 1 + min bytes.length max := by
  rw [prefixed, List.length_cons, List.length_take, Nat.min_comm,
    Nat.add_comm]

theorem encodeAddContact_fills :
    Fills (encodeAddContact pubkey flag name)
      (pubkey.toList ++ ([flag.toUInt8] ++
        (prefixed (name.take 32) ++ []))) := by
  unfold encodeAddContact
  refine FillsBehind.fills
    (.write rfl (.write ?_ (fillsBehind_prefixed ?_ (.done ?_))))
  all_goals
    simp only [List.length_append, List.length_cons, List.length_nil,
      Vector.length_toList, length_prefixed_take]
  all_goals omega

theorem encodeQueryAdvert_fills
    (hostUnixTime : UInt32) :
    Fills (encodeQueryAdvert hostUnixTime)
      ((Bytes.u32ToLeBytes hostUnixTime).toList ++ []) := by
  unfold encodeQueryAdvert
  exact FillsBehind.fills (.write rfl (.done rfl))

theorem encodeDelContact_fills :
    Fills (encodeDelContact pubkey) (pubkey.toList ++ []) := by
  unfold encodeDelContact
  exact FillsBehind.fills (.write rfl (.done (by simp)))

theorem encodeAddChannel_fills
    (keyLen : UInt8) :
    Fills (encodeAddChannel secret keyLen flag name)
      (secret.toList ++ ([keyLen] ++ ([flag.toUInt8] ++
        (prefixed (name.take 32) ++ [])))) := by
  unfold encodeAddChannel
  refine FillsBehind.fills
    (.write rfl (.write ?_ (.write ?_
      (fillsBehind_prefixed ?_ (.done ?_)))))
  all_goals
    simp only [List.length_append, List.length_cons, List.length_nil,
      Vector.length_toList, length_prefixed_take]
  all_goals omega

theorem encodeDelChannel_fills :
    Fills (encodeDelChannel secret) (secret.toList ++ []) := by
  unfold encodeDelChannel
  exact FillsBehind.fills (.write rfl (.done (by simp)))

theorem encodeAddRoom_fills
    (guestPassword : List UInt8) :
    Fills (encodeAddRoom pubkey guestPassword name)
      (pubkey.toList ++ (prefixed (guestPassword.take maxLoginPasswordLen) ++
        (prefixed (name.take 32) ++ []))) := by
  unfold encodeAddRoom
  refine FillsBehind.fills
    (.write rfl (fillsBehind_prefixed ?_
      (fillsBehind_prefixed ?_ (.done ?_))))
  all_goals
    simp only [List.length_append, List.length_nil, Vector.length_toList,
      length_prefixed_take]
  all_goals omega

theorem encodeSetNotifDefaults_fills
    (visual audible : Bool) :
    Fills (encodeSetNotifDefaults visual audible)
      ([visual.toUInt8] ++ ([audible.toUInt8] ++ [])) := by
  unfold encodeSetNotifDefaults
  exact FillsBehind.fills (.write rfl (.write rfl (.done rfl)))

theorem encodeSetPin_fills
    (pin : List UInt8) :
    Fills (encodeSetPin pin) (prefixed (pin.take maxPinLen) ++ []) := by
  unfold encodeSetPin
  refine FillsBehind.fills (fillsBehind_prefixed rfl (.done ?_))
  rw [List.nil_append, length_prefixed_take]

theorem encodeSetDeviceName_fills :
    Fills (encodeSetDeviceName name) (prefixed (name.take 32) ++ []) := by
  unfold encodeSetDeviceName
  refine FillsBehind.fills (fillsBehind_prefixed rfl (.done ?_))
  rw [List.nil_append, length_prefixed_take]

theorem encodeSetLockPin_fills
    (pin : Vector UInt8 lockPinLen) :
    Fills (encodeSetLockPin pin) (pin.toList ++ []) := by
  unfold encodeSetLockPin
  exact FillsBehind.fills (.write rfl (.done (by simp)))

theorem encodeSetLockConfig_fills
    (lockFlags : UInt8)
    (lockTimeoutS : UInt16) :
    Fills (encodeSetLockConfig lockFlags lockTimeoutS)
      ([lockFlags] ++ (u16ToLeBytes lockTimeoutS ++ [])) := by
  unfold encodeSetLockConfig
  exact FillsBehind.fills (.write rfl (.write rfl (.done rfl)))

/-- A valid region name, or none, is written. -/
theorem encodeSetRegion_fills
    {name : List UInt8}
    (valid : name = [] ∨ validateRegionName name = .ok ()) :
    Fills (encodeSetRegion name) (prefixed name ++ []) := by
  have passes : ¬ (name ≠ [] ∧ validateRegionName name ≠ .ok ()) := by
    rintro ⟨notEmpty, notValid⟩
    exact valid.elim notEmpty notValid
  have isField :
      prefixed name ++ [] =
        [UInt8.ofNat name.length] ++ (name ++ []) := rfl
  rw [isField]
  unfold encodeSetRegion
  simp only [if_neg passes]
  refine FillsBehind.fills (.write rfl (.write rfl (.done ?_)))
  simp [Nat.add_comm]

theorem encodeRspLock_fills
    (payload : RspLockPayload) :
    Fills (encodeRspLock payload)
      ([payload.lockFlags] ++ (u16ToLeBytes payload.lockTimeoutS ++
        ([payload.pinSet.toUInt8] ++ []))) := by
  unfold encodeRspLock
  exact FillsBehind.fills (.write rfl (.write rfl (.write rfl (.done rfl))))

/-- The bytes of a status. -/
def rspStatusBytes
    (payload : RspStatusPayload) :
    List UInt8 :=
  [payload.provisioned.toUInt8] ++ (payload.pubkey.toList ++
    ([payload.contactCount] ++ ([payload.channelCount] ++
      ([payload.gpsHasFix.toUInt8] ++
        ((Bytes.u32ToLeBytes payload.gpsLatE7.toUInt32).toList ++
          ((Bytes.u32ToLeBytes payload.gpsLonE7.toUInt32).toList ++
            ((Bytes.u32ToLeBytes payload.gpsFixAgeSecs).toList ++
              ([payload.gpsClockSynced.toUInt8] ++
                ((Bytes.u32ToLeBytes payload.gpsClockSyncAgeSecs).toList ++
                  ([payload.batteryPercent] ++
                    ([payload.batteryCharging.toUInt8] ++
                      (u16ToLeBytes payload.batteryRawMv ++
                        (u16ToLeBytes payload.batteryHeldRawMv ++
                          ([payload.batteryLevel] ++
                            ([payload.batteryConfirmed.toUInt8] ++
                              [])))))))))))))))

theorem encodeRspStatus_fills
    (payload : RspStatusPayload) :
    Fills (encodeRspStatus payload) (rspStatusBytes payload) := by
  unfold encodeRspStatus rspStatusBytes
  refine FillsBehind.fills (.write rfl (.write rfl (.write ?_ (.write ?_
    (.write ?_ (.write ?_ (.write ?_ (.write ?_ (.write ?_ (.write ?_
      (.write ?_ (.write ?_ (.write ?_ (.write ?_ (.write ?_ (.write ?_
        (.done ?_)))))))))))))))))
  all_goals
    simp only [List.length_append, List.length_cons, List.length_nil,
      Vector.length_toList, u16ToLeBytes]

theorem encodeRspIdentity_fills :
    Fills (encodeRspIdentity pubkey name)
      (pubkey.toList ++ ([Bytes.firstByte pubkey] ++
        (prefixed (name.take 32) ++ []))) := by
  unfold encodeRspIdentity
  refine FillsBehind.fills
    (.write rfl (.write ?_ (fillsBehind_prefixed ?_ (.done ?_))))
  all_goals
    simp only [List.length_append, List.length_cons, List.length_nil,
      Vector.length_toList, length_prefixed_take]
  all_goals omega

theorem encodeRspContact_fills :
    Fills (encodeRspContact place pubkey flag name)
      ([place] ++ (pubkey.toList ++ ([flag.toUInt8] ++
        (prefixed (name.take 32) ++ [])))) := by
  unfold encodeRspContact
  refine FillsBehind.fills
    (.write rfl (.write rfl (.write ?_
      (fillsBehind_prefixed ?_ (.done ?_)))))
  all_goals
    simp only [List.length_append, List.length_cons, List.length_nil,
      Vector.length_toList, length_prefixed_take]
  all_goals omega

theorem encodeRspChannel_fills
    (channelHash keyLen : UInt8) :
    Fills (encodeRspChannel place channelHash keyLen flag name)
      ([place] ++ ([channelHash] ++ ([keyLen] ++ ([flag.toUInt8] ++
        (prefixed (name.take 32) ++ []))))) := by
  unfold encodeRspChannel
  refine FillsBehind.fills
    (.write rfl (.write rfl (.write rfl (.write rfl
      (fillsBehind_prefixed rfl (.done ?_))))))
  simp only [List.length_append, List.length_cons, List.length_nil,
    length_prefixed_take]
  omega

theorem encodeRspRoom_fills
    (syncSince : UInt32)
    (permissions : UInt8)
    (outPath : List UInt8) :
    Fills (encodeRspRoom place pubkey syncSince permissions outPath name)
      ([place] ++ (pubkey.toList ++
        ((Bytes.u32ToLeBytes syncSince).toList ++ ([permissions] ++
          (prefixed (outPath.take maxPathSize) ++
            (prefixed (name.take 32) ++ [])))))) := by
  unfold encodeRspRoom
  refine FillsBehind.fills
    (.write rfl (.write rfl (.write ?_ (.write ?_
      (fillsBehind_prefixed ?_ (fillsBehind_prefixed ?_ (.done ?_)))))))
  all_goals
    simp only [List.length_append, List.length_cons, List.length_nil,
      Vector.length_toList, length_prefixed_take]
  all_goals omega

theorem encodeRspError_fills
    (errorCode : UInt8)
    (msg : List UInt8) :
    Fills (encodeRspError errorCode msg)
      ([errorCode] ++ (prefixed (msg.take maxErrMsgLen) ++ [])) := by
  unfold encodeRspError
  refine FillsBehind.fills
    (.write rfl (fillsBehind_prefixed rfl (.done ?_)))
  simp only [List.length_append, List.length_cons, List.length_nil,
    length_prefixed_take]
  omega

end Written

end Provisioning

end MeshCadet
