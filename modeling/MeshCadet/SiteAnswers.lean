import MeshCadet.SiteCommands

namespace MeshCadet

/-!
# Answers on the site

Each decoder of the site accepts what the decoder of the device's codec accepts,
with the same fields, and fails as it does.  With the frames and the commands the
two codecs agree.
-/

namespace SiteCodec

open Outcome JavaScript BufferFills ByteDecoders

/-! ## Fields -/

/-- An element is zero as its byte is. -/
theorem natCast_bne_zero
    (byte : UInt8) :
    ((byte.toNat : Int) != 0) = (byte != 0) := by
  rw [Bool.eq_iff_iff, bne_iff_ne, bne_iff_ne]
  exact not_congr (@natCast_toNat_inj byte 0)

theorem getElem_fieldAt
    {length start place : Nat}
    (payload : List UInt8)
    (inside : place < length) :
    (fieldAt length payload start)[place] = payload.getD (start + place) 0 := by
  rw [fieldAt, Vector.getElem_ofFn]

theorem getElem_zeroPadded
    {length place : Nat}
    (bytes : List UInt8)
    (inside : place < length) :
    (Bytes.zeroPadded length bytes)[place] = bytes.getD place 0 := by
  rw [Bytes.zeroPadded, Vector.getElem_ofFn]

/-- A fixed field is a part of the array. -/
theorem subarray_fieldAt
    {payload : List UInt8}
    {start stop length : Nat}
    (inside : stop ≤ payload.length)
    (isStop : stop = start + length) :
    subarray payload start stop = (fieldAt length payload start).toList := by
  subst isStop
  rw [subarray_eq, Nat.add_sub_cancel_left]
  apply List.ext_getElem
  · rw [List.length_take, List.length_drop, Vector.length_toList]
    omega
  · intro place inPart inField
    rw [Vector.length_toList] at inField
    have reached : start + place < payload.length := by omega
    rw [List.getElem_take, List.getElem_drop, Vector.getElem_toList,
      getElem_fieldAt, List.getD_eq_getElem _ _ reached]

/-- Padding with zeros keeps the bytes in use. -/
theorem used_zeroPadded
    {length : Nat}
    {bytes : List UInt8}
    {len : UInt8}
    (fits : bytes.length ≤ length)
    (isLen : len.toNat = bytes.length) :
    used (Bytes.zeroPadded length bytes) len = bytes := by
  rw [used, isLen]
  apply List.ext_getElem
  · rw [List.length_take, Vector.length_toList]
    omega
  · intro place inUsed inBytes
    rw [List.getElem_take, Vector.getElem_toList, getElem_zeroPadded,
      List.getD_eq_getElem _ _ inBytes]

/-- The checks of a field behind its length, and what both codecs read. -/
structure FieldRead
    (max : Nat)
    (payload : List UInt8)
    (lenAt : Nat)
    (field : Vector UInt8 max × UInt8) :
    Prop where
  isLen : field.2 = payload.getD lenAt 0
  fits : ¬ max < field.2.toNat
  complete : ¬ payload.length < lenAt + 1 + field.2.toNat
  isText :
    subarray payload (lenAt + 1) (lenAt + 1 + field.2.toNat) =
      used field.1 field.2

/-- A field is too long, or cut, or it is read. -/
theorem prefixedAt_cases
    {max : Nat}
    {tooLong short : Provisioning.ProvError}
    {payload : List UInt8}
    {lenAt : Nat}
    (inside : lenAt < payload.length) :
    (max < (payload.getD lenAt 0).toNat ∧
        prefixedAt max tooLong short payload lenAt 0 = .failed tooLong) ∨
      (¬ max < (payload.getD lenAt 0).toNat ∧
        payload.length < lenAt + 1 + (payload.getD lenAt 0).toNat ∧
          prefixedAt max tooLong short payload lenAt 0 = .failed short) ∨
      ∃ field,
        FieldRead max payload lenAt field ∧
          prefixedAt max tooLong short payload lenAt 0 = .value field := by
  rw [prefixedAt_eq inside, Nat.add_zero]
  by_cases long : max < (payload.getD lenAt 0).toNat
  · exact Or.inl ⟨long, if_pos long⟩
  by_cases cut :
      payload.length < lenAt + 1 + (payload.getD lenAt 0).toNat
  · refine Or.inr (Or.inl ⟨long, cut, ?_⟩)
    rw [if_neg long, if_pos cut]
  refine Or.inr (Or.inr
    ⟨(Bytes.zeroPadded max
      ((payload.drop (lenAt + 1)).take (payload.getD lenAt 0).toNat),
      payload.getD lenAt 0), ?_, ?_⟩)
  · have length :
        ((payload.drop (lenAt + 1)).take
          (payload.getD lenAt 0).toNat).length =
          (payload.getD lenAt 0).toNat := by
      rw [List.length_take, List.length_drop]
      omega
    refine ⟨rfl, long, cut, ?_⟩
    rw [subarray_eq, Nat.add_sub_cancel_left,
      used_zeroPadded (by omega) length.symm]
  · rw [if_neg long, if_neg cut]

/-- A name's length is too long, or its bytes are cut, or it is read. -/
theorem nameLenAt_eq
    {payload : List UInt8}
    {lenAt : Nat}
    (inside : lenAt < payload.length) :
    nameLenAt payload lenAt =
      if 32 < (payload.getD lenAt 0).toNat then
        .failed .nameTooLong
      else if payload.length <
          lenAt + 1 + (payload.getD lenAt 0).toNat then
        .failed .truncatedPayload
      else
        .value ((payload.getD lenAt 0).toNat : Int) := by
  have isLong :
      ((32 : Int) < (payload.getD lenAt 0).toNat) ↔
        32 < (payload.getD lenAt 0).toNat := Int.ofNat_lt
  rw [nameLenAt, element_eq inside, value_bind]
  by_cases long : 32 < (payload.getD lenAt 0).toNat
  · rw [if_pos (isLong.mpr long), if_pos long]
  · rw [if_neg fun tooLong => long (isLong.mp tooLong), if_neg long,
      requireLen, Int.toNat_natCast]
    split
    · rfl
    · rfl

/-- Both codecs read the name behind its length, or fail alike. -/
theorem name_cases
    {payload : List UInt8}
    {lenAt : Nat}
    (inside : lenAt < payload.length) :
    (∃ problem,
      nameLenAt payload lenAt = .failed problem ∧
        prefixedAt 32 Provisioning.ProvError.nameTooLong .truncatedPayload
          payload lenAt 0 = .failed problem) ∨
      ∃ name,
        FieldRead 32 payload lenAt name ∧
          nameLenAt payload lenAt = .value (name.2.toNat : Int) ∧
            prefixedAt 32 Provisioning.ProvError.nameTooLong
              .truncatedPayload payload lenAt 0 = .value name := by
  rw [nameLenAt_eq inside]
  rcases @prefixedAt_cases 32 .nameTooLong .truncatedPayload payload lenAt
      inside with
    ⟨long, failed⟩ | ⟨notLong, cut, failed⟩ | ⟨name, isField, read⟩
  · exact Or.inl ⟨_, if_pos long, failed⟩
  · refine Or.inl ⟨_, ?_, failed⟩
    rw [if_neg notLong, if_pos cut]
  · refine Or.inr ⟨name, isField, ?_, read⟩
    have fits := isField.fits
    have complete := isField.complete
    rw [isField.isLen] at fits complete ⊢
    rw [if_neg fits, if_neg complete]

/-! ## Decoded answers -/

/-- What the site makes of a lock answer. -/
def RspLock.ofPayload
    (p : Provisioning.RspLockPayload) :
    RspLock :=
  { lockFlags := p.lockFlags.toNat
    lockTimeoutS := p.lockTimeoutS.toNat
    pinSet := p.pinSet }

theorem decodeRspLock_eq
    (payload : List UInt8) :
    decodeRspLock payload =
      RspLock.ofPayload <$> Provisioning.decodeRspLock payload := by
  rw [decodeRspLock, Provisioning.decodeRspLock, requireLen]
  split
  · rfl
  rename_i enough
  rw [value_bind, element_eq (by omega), value_bind,
    getUint16_eq (by omega), value_bind, element_eq (by omega), value_bind,
    natCast_bne_zero, index_getD (by omega), value_bind,
    halfAt_eq (by omega) rfl, value_bind, flagAt_eq (by omega), value_bind]
  rfl

section Texts

variable {Text : Type} (decodeUtf8 : List UInt8 → Text)

/-- What the site makes of a region answer. -/
def RspRegion.ofPayload
    (p : Provisioning.RspRegionPayload) :
    RspRegion Text :=
  { name := decodeUtf8 (used p.name p.nameLen)
    nameLen := p.nameLen.toNat }

/-- What the site makes of an error. -/
def RspError.ofPayload
    (p : Provisioning.RspErrorPayload) :
    RspError Text :=
  { errorCode := p.errorCode.toNat
    msg := decodeUtf8 (used p.msg p.msgLen)
    msgLen := p.msgLen.toNat }

/-- What the site makes of a status. -/
def RspStatus.ofPayload
    (p : RspStatusPayload) :
    RspStatus :=
  { provisioned := p.provisioned
    pubkey := p.pubkey.toList
    contactCount := p.contactCount.toNat
    channelCount := p.channelCount.toNat
    gpsHasFix := p.gpsHasFix
    gpsLatE7 := p.gpsLatE7.toInt
    gpsLonE7 := p.gpsLonE7.toInt
    gpsFixAgeSecs := p.gpsFixAgeSecs.toNat
    gpsClockSynced := p.gpsClockSynced
    gpsClockSyncAgeSecs := p.gpsClockSyncAgeSecs.toNat
    batteryPercent := p.batteryPercent.toNat
    batteryCharging := p.batteryCharging
    batteryRawMv := p.batteryRawMv.toNat
    batteryHeldRawMv := p.batteryHeldRawMv.toNat
    batteryLevel := p.batteryLevel.toNat
    batteryConfirmed := p.batteryConfirmed }

/-- What the site makes of an identity. -/
def RspIdentity.ofPayload
    (p : Provisioning.RspIdentityPayload) :
    RspIdentity Text :=
  { pubkey := p.pubkey.toList
    pubHash := p.pubHash.toNat
    deviceName := decodeUtf8 (used p.deviceName p.deviceNameLen)
    deviceNameLen := p.deviceNameLen.toNat }

/-- What the site makes of a listed contact. -/
def RspContact.ofPayload
    (p : RspContactPayload) :
    RspContact Text :=
  { index := p.index.toNat
    pubkey := p.pubkey.toList
    telemetryEnable := p.telemetryEnable
    displayName := decodeUtf8 (used p.displayName p.displayNameLen)
    displayNameLen := p.displayNameLen.toNat }

/-- What the site makes of a listed channel. -/
def RspChannel.ofPayload
    (p : RspChannelPayload) :
    RspChannel Text :=
  { index := p.index.toNat
    channelHash := p.channelHash.toNat
    keyLen := p.keyLen.toNat
    primary := p.primary
    name := decodeUtf8 (used p.name p.nameLen)
    nameLen := p.nameLen.toNat }

/-- What the site makes of a listed room. -/
def RspRoom.ofPayload
    (p : RspRoomPayload) :
    RspRoom Text :=
  { index := p.index.toNat
    pubkey := p.pubkey.toList
    syncSince := p.syncSince.toNat
    permissions := p.permissions.toNat
    outPath := used p.outPath p.outPathLen
    outPathLen := p.outPathLen.toNat
    name := decodeUtf8 (used p.name p.nameLen)
    nameLen := p.nameLen.toNat }

/-- What the site makes of an exported entry. -/
def RspHistoryEntry.ofEntry
    (found : UInt8 × HistoryEntry × Bool) :
    RspHistoryEntry Text :=
  { index := found.1.toNat
    senderHash := found.2.1.senderHash.toNat
    msgType := found.2.1.msgType.toU8.toNat
    timestamp := found.2.1.timestamp.toNat
    text := decodeUtf8 (used found.2.1.text found.2.1.textLen)
    textLen := found.2.1.textLen.toNat
    isOurs := found.2.2 }

theorem decodeRspIdentity_eq
    (payload : List UInt8) :
    decodeRspIdentity decodeUtf8 payload =
      RspIdentity.ofPayload decodeUtf8 <$>
        Provisioning.decodeRspIdentity payload := by
  rw [decodeRspIdentity, Provisioning.decodeRspIdentity, requireLen]
  split
  · rfl
  rename_i enough
  rw [value_bind, arrayAt_eq (by omega) rfl, value_bind, index_getD (by omega),
    value_bind]
  rcases name_cases (show 33 < payload.length by omega) with
    ⟨problem, site, device⟩ | ⟨name, isField, site, device⟩
  · rw [site, device]
    rfl
  · rw [site, device, value_bind, value_bind, element_eq (by omega),
      value_bind, Int.toNat_natCast, isField.isText,
      @subarray_fieldAt payload 0 32 32 (by omega) rfl]
    rfl

theorem decodeRspContact_eq
    (payload : List UInt8) :
    decodeRspContact decodeUtf8 payload =
      RspContact.ofPayload decodeUtf8 <$>
        Provisioning.decodeRspContact payload := by
  rw [decodeRspContact, Provisioning.decodeRspContact, requireLen]
  split
  · rfl
  rename_i enough
  rw [value_bind, index_getD (by omega), value_bind, arrayAt_eq (by omega) rfl,
    value_bind, flagAt_eq (by omega), value_bind]
  rcases name_cases (show 34 < payload.length by omega) with
    ⟨problem, site, device⟩ | ⟨name, isField, site, device⟩
  · rw [site, device]
    rfl
  · rw [site, device, value_bind, value_bind, element_eq (by omega),
      value_bind, element_eq (by omega), value_bind, Int.toNat_natCast,
      natCast_bne_zero, isField.isText,
      @subarray_fieldAt payload 1 33 32 (by omega) rfl]
    rfl

theorem decodeRspChannel_eq
    (payload : List UInt8) :
    decodeRspChannel decodeUtf8 payload =
      RspChannel.ofPayload decodeUtf8 <$>
        Provisioning.decodeRspChannel payload := by
  rw [decodeRspChannel, Provisioning.decodeRspChannel, requireLen]
  split
  · rfl
  rename_i enough
  rw [value_bind, index_getD (by omega), value_bind, index_getD (by omega),
    value_bind, index_getD (by omega), value_bind, flagAt_eq (by omega),
    value_bind]
  rcases name_cases (show 4 < payload.length by omega) with
    ⟨problem, site, device⟩ | ⟨name, isField, site, device⟩
  · rw [site, device]
    rfl
  · rw [site, device, value_bind, value_bind, element_eq (by omega),
      value_bind, element_eq (by omega), value_bind, element_eq (by omega),
      value_bind, element_eq (by omega), value_bind, Int.toNat_natCast,
      natCast_bne_zero, isField.isText]
    rfl

/-- Both codecs find the name where the path ends. -/
theorem decodeRspRoom_eq
    (payload : List UInt8) :
    decodeRspRoom decodeUtf8 payload =
      RspRoom.ofPayload decodeUtf8 <$>
        Provisioning.decodeRspRoom payload := by
  rw [decodeRspRoom, Provisioning.decodeRspRoom, requireLen]
  split
  · rfl
  rename_i enough
  have isLong :
      ((maxPathSize : Nat) : Int) < ((payload.getD 38 0).toNat : Int) ↔
        maxPathSize < (payload.getD 38 0).toNat := Int.ofNat_lt
  rw [value_bind, element_eq (by omega), value_bind,
    index_getD (by omega), value_bind, arrayAt_eq (by omega) rfl, value_bind,
    wordAt_eq (by omega) rfl, value_bind, index_getD (by omega), value_bind]
  rcases @prefixedAt_cases maxPathSize .pathTooLong .truncatedPayload
      payload 38 (by omega) with
    ⟨long, device⟩ | ⟨notLong, cut, device⟩ | ⟨path, isPath, device⟩
  · rw [device, if_pos (isLong.mpr long)]
    rfl
  · rw [device, if_neg fun tooLong => notLong (isLong.mp tooLong),
      requireLen, Int.toNat_natCast, if_pos cut]
    rfl
  have fits := isPath.fits
  have complete := isPath.complete
  have isText := isPath.isText
  rw [isPath.isLen] at fits complete isText
  rw [device, value_bind, isPath.isLen,
    if_neg fun tooLong => fits (isLong.mp tooLong)]
  simp only [requireLen, Int.toNat_natCast]
  rw [if_neg complete, value_bind]
  by_cases cut : payload.length < 39 + (payload.getD 38 0).toNat + 1
  · rw [if_pos cut, if_pos cut]
    rfl
  rw [if_neg cut, if_neg cut, value_bind]
  rcases name_cases
      (show 39 + (payload.getD 38 0).toNat < payload.length by omega) with
    ⟨problem, site, device⟩ | ⟨name, isName, site, device⟩
  · rw [site, device]
    rfl
  · rw [site, device, value_bind, value_bind, element_eq (by omega),
      value_bind, getUint32_eq (by omega), value_bind,
      element_eq (by omega), value_bind, Int.toNat_natCast, isName.isText,
      isText, @subarray_fieldAt payload 1 33 32 (by omega) rfl]
    rfl

/-- Both codecs read the message behind its length, or fail alike. -/
theorem decodeRspError_eq
    (payload : List UInt8) :
    decodeRspError decodeUtf8 payload =
      RspError.ofPayload decodeUtf8 <$>
        Provisioning.decodeRspError payload := by
  rw [decodeRspError, Provisioning.decodeRspError, requireLen]
  split
  · rfl
  rename_i enough
  have isLong :
      ((Provisioning.maxErrMsgLen : Nat) : Int) <
          ((payload.getD 1 0).toNat : Int) ↔
        Provisioning.maxErrMsgLen < (payload.getD 1 0).toNat :=
    Int.ofNat_lt
  rw [value_bind, element_eq (by omega), value_bind, element_eq (by omega),
    value_bind, index_getD (by omega), value_bind, Int.toNat_natCast]
  rcases @prefixedAt_cases Provisioning.maxErrMsgLen .truncatedPayload
      .truncatedPayload payload 1 (by omega) with
    ⟨long, device⟩ | ⟨notLong, cut, device⟩ | ⟨msg, isMsg, device⟩
  · rw [device, if_pos (Or.inl (isLong.mpr long))]
    rfl
  · rw [device, if_pos (Or.inr cut)]
    rfl
  · have fits := isMsg.fits
    have complete := isMsg.complete
    have isText := isMsg.isText
    rw [isMsg.isLen] at fits complete isText
    have accepted :
        ¬ (((Provisioning.maxErrMsgLen : Nat) : Int) <
            ((payload.getD 1 0).toNat : Int) ∨
          payload.length < 2 + (payload.getD 1 0).toNat) := by
      rintro (tooLong | cut)
      · exact fits (isLong.mp tooLong)
      · exact complete cut
    rw [device, if_neg accepted, isText, value_bind]
    simp only [← isMsg.isLen]
    rfl

/-- A region name that is found behind its length. -/
theorem regionNameAt_eq
    {payload : List UInt8}
    (enough : ¬ payload.length < 1) :
    Provisioning.regionNameAt payload =
      if regionNameMax < (payload.getD 0 0).toNat then
        .failed .regionNameInvalid
      else if payload.length < 1 + (payload.getD 0 0).toNat then
        .failed .truncatedPayload
      else if (payload.drop 1).take (payload.getD 0 0).toNat ≠ [] ∧
          validateRegionName
            ((payload.drop 1).take (payload.getD 0 0).toNat) ≠ .ok () then
        .failed .regionNameInvalid
      else
        .value
          (Bytes.zeroPadded regionNameMax
            ((payload.drop 1).take (payload.getD 0 0).toNat),
            payload.getD 0 0) := by
  rw [Provisioning.regionNameAt, if_neg enough,
    prefixedSlice_eq (by omega), Nat.zero_add, Nat.add_zero]
  split
  · rfl
  rename_i notLong
  split
  · rfl
  rename_i complete
  have length :
      ((payload.drop 1).take (payload.getD 0 0).toNat).length =
        (payload.getD 0 0).toNat := by
    rw [List.length_take, List.length_drop]
    omega
  rw [value_bind]
  split
  · rfl
  · rw [copyPadded_eq (by omega), value_bind, length, UInt8.ofNat_toNat]
    rfl

theorem decodeRspRegion_eq
    (payload : List UInt8) :
    decodeRspRegion decodeUtf8 payload =
      RspRegion.ofPayload decodeUtf8 <$>
        Provisioning.decodeRspRegion payload := by
  rw [decodeRspRegion, Provisioning.decodeRspRegion, requireLen]
  by_cases short : payload.length < 1
  · rw [if_pos short, Provisioning.regionNameAt, if_pos short]
    rfl
  have isLong :
      ((regionNameMax : Nat) : Int) < ((payload.getD 0 0).toNat : Int) ↔
        regionNameMax < (payload.getD 0 0).toNat := Int.ofNat_lt
  rw [if_neg short, value_bind, element_eq (by omega), value_bind,
    regionNameAt_eq short]
  by_cases long : regionNameMax < (payload.getD 0 0).toNat
  · rw [if_pos long, if_pos (isLong.mpr long)]
    rfl
  rw [if_neg long, if_neg fun tooLong => long (isLong.mp tooLong),
    requireLen, Int.toNat_natCast]
  by_cases cut : payload.length < 1 + (payload.getD 0 0).toNat
  · rw [if_pos cut, if_pos cut]
    rfl
  have length :
      ((payload.drop 1).take (payload.getD 0 0).toNat).length =
        (payload.getD 0 0).toNat := by
    rw [List.length_take, List.length_drop]
    omega
  have nonempty :
      (0 : Int) < ((payload.getD 0 0).toNat : Int) ↔
        (payload.drop 1).take (payload.getD 0 0).toNat ≠ [] := by
    rw [← List.length_pos_iff, length]
    exact Int.ofNat_lt
  rw [if_neg cut, if_neg cut, value_bind]
  dsimp only
  rw [subarray_eq, Nat.add_sub_cancel_left, assertValidRegionName_eq]
  by_cases refused :
      (payload.drop 1).take (payload.getD 0 0).toNat ≠ [] ∧
        validateRegionName
          ((payload.drop 1).take (payload.getD 0 0).toNat) ≠ .ok ()
  · rw [if_pos refused, if_pos ⟨nonempty.mpr refused.1, refused.2⟩]
    rfl
  · rw [if_neg refused, if_neg fun both =>
        refused ⟨nonempty.mp both.1, both.2⟩, value_bind]
    simp only [pure_eq, map_value, RspRegion.ofPayload,
      used_zeroPadded (show _ ≤ regionNameMax by omega) length.symm]

/-- The level of older firmware is the same. -/
theorem legacyPercentToBatteryLevel_eq
    (batteryPercent : UInt8)
    (batteryCharging : Bool) :
    legacyPercentToBatteryLevel batteryPercent.toNat batteryCharging =
      ((MeshCadet.legacyPercentToBatteryLevel batteryPercent
        batteryCharging).toNat : Int) := by
  have below :
      ∀ bound : UInt8,
        (batteryPercent.toNat : Int) < (bound.toNat : Int) ↔
          batteryPercent < bound := by
    intro bound
    rw [Int.ofNat_lt, UInt8.lt_iff_toNat_lt]
  have low :
      (batteryPercent.toNat : Int) < 20 ↔ batteryPercent < 20 := below 20
  have partly :
      (batteryPercent.toNat : Int) < 85 ↔ batteryPercent < 85 := below 85
  rw [legacyPercentToBatteryLevel, MeshCadet.legacyPercentToBatteryLevel]
  split
  · rfl
  by_cases isLow : batteryPercent < 20
  · rw [if_pos isLow, if_pos (low.mpr isLow)]
    rfl
  rw [if_neg isLow, if_neg fun less => isLow (low.mp less)]
  by_cases isPartial : batteryPercent < 85
  · rw [if_pos isPartial, if_pos (partly.mpr isPartial)]
    rfl
  · rw [if_neg isPartial, if_neg fun less => isPartial (partly.mp less)]
    rfl

/-- The level is read, or stood in for, alike. -/
theorem tailLevelAt_cases
    (payload : List UInt8)
    (batteryPercent : UInt8)
    (batteryCharging : Bool) :
    ∃ level confirmed,
      levelAt payload batteryPercent.toNat batteryCharging =
          .value ((level : UInt8).toNat : Int) ∧
        confirmedAt payload = .value confirmed ∧
          Provisioning.tailLevelAt payload batteryPercent
            batteryCharging = .value (level, confirmed) := by
  rw [levelAt, confirmedAt, Provisioning.tailLevelAt]
  by_cases whole : 61 ≤ payload.length
  · refine ⟨payload.getD 59 0, payload.getD 60 0 != 0, ?_, ?_, ?_⟩
    · rw [if_pos whole, element_eq (by omega)]
    · rw [if_pos whole, element_eq (by omega), value_bind,
        natCast_bne_zero]
      rfl
    · rw [if_pos whole, index_getD (by omega), value_bind,
        flagAt_eq (by omega), value_bind]
      rfl
  · refine ⟨MeshCadet.legacyPercentToBatteryLevel batteryPercent
      batteryCharging, true, ?_, ?_, ?_⟩
    · rw [if_neg whole, legacyPercentToBatteryLevel_eq]
    · exact if_neg whole
    · exact if_neg whole

/-- A half word is read, or stood in for, alike. -/
theorem tailHalfAt_cases
    (payload : List UInt8)
    (start : Nat) :
    ∃ half : UInt16,
      tailUint16 payload start = .value (half.toNat : Int) ∧
        Provisioning.tailHalfAt payload start (start + 2) =
          .value half := by
  rw [tailUint16, Provisioning.tailHalfAt]
  by_cases whole : start + 2 ≤ payload.length
  · refine ⟨u16FromLeBytes (fieldAt 2 payload start), ?_, ?_⟩
    · rw [if_pos whole, getUint16_eq whole]
    · rw [if_pos whole, halfAt_eq whole rfl]
  · exact ⟨0, if_neg whole, if_neg whole⟩

theorem decodeRspStatus_eq
    (payload : List UInt8) :
    decodeRspStatus payload =
      RspStatus.ofPayload <$> Provisioning.decodeRspStatus payload := by
  rw [decodeRspStatus, Provisioning.decodeRspStatus, requireLen]
  split
  · rfl
  rename_i enough
  obtain ⟨level, confirmed, siteLevel, siteConfirmed, deviceLevel⟩ :=
    tailLevelAt_cases payload (payload.getD 53 0) (payload.getD 54 0 != 0)
  obtain ⟨rawMv, siteRaw, deviceRaw⟩ := tailHalfAt_cases payload 55
  obtain ⟨heldMv, siteHeld, deviceHeld⟩ := tailHalfAt_cases payload 57
  rw [value_bind, element_eq (by omega), value_bind, element_eq (by omega),
    value_bind, natCast_bne_zero]
  dsimp only
  rw [siteLevel, value_bind, siteConfirmed, value_bind,
    element_eq (by omega), value_bind, element_eq (by omega), value_bind,
    element_eq (by omega), value_bind, element_eq (by omega), value_bind,
    getInt32_eq (by omega), value_bind, getInt32_eq (by omega), value_bind,
    getUint32_eq (by omega), value_bind, element_eq (by omega), value_bind,
    getUint32_eq (by omega), value_bind, siteRaw, value_bind, siteHeld,
    value_bind, natCast_bne_zero, natCast_bne_zero, natCast_bne_zero,
    @subarray_fieldAt payload 1 33 32 (by omega) rfl]
  rw [flagAt_eq (by omega), value_bind, arrayAt_eq (by omega) rfl, value_bind,
    index_getD (by omega), value_bind, flagAt_eq (by omega), value_bind,
    deviceRaw, value_bind, deviceHeld, value_bind, deviceLevel, value_bind,
    index_getD (by omega), value_bind, index_getD (by omega), value_bind,
    flagAt_eq (by omega), value_bind, wordAt_eq (by omega) rfl, value_bind,
    wordAt_eq (by omega) rfl, value_bind, wordAt_eq (by omega) rfl, value_bind,
    flagAt_eq (by omega), value_bind, wordAt_eq (by omega) rfl, value_bind]
  rfl

/-- An exported entry is read alike, or neither codec finds one. -/
theorem decodeRspHistoryEntry_eq
    (payload : List UInt8) :
    decodeRspHistoryEntry decodeUtf8 payload =
      .value
        ((MeshCadet.decodeRspHistoryEntry payload).map
          (RspHistoryEntry.ofEntry decodeUtf8)) := by
  rw [decodeRspHistoryEntry, MeshCadet.decodeRspHistoryEntry]
  split
  · rfl
  rename_i enough
  rw [element_eq (by omega), value_bind, element_eq (by omega), value_bind,
    element_eq (by omega), value_bind]
  have isDm :
      ((payload.getD 2 0).toNat : Int) = 0 ↔ payload.getD 2 0 = 0 :=
    @natCast_toNat_inj (payload.getD 2 0) 0
  have isGrpTxt :
      ((payload.getD 2 0).toNat : Int) = 1 ↔ payload.getD 2 0 = 1 :=
    @natCast_toNat_inj (payload.getD 2 0) 1
  cases found : HistoryMsgType.fromU8 (payload.getD 2 0) with
  | none =>
      have unknown :
          payload.getD 2 0 ≠ 0 ∧ payload.getD 2 0 ≠ 1 := by
        rw [HistoryMsgType.fromU8] at found
        split at found
        · cases found
        split at found
        · cases found
        exact ⟨‹_›, ‹_›⟩
      rw [if_pos ⟨mt isDm.mp unknown.1, mt isGrpTxt.mp unknown.2⟩]
      rfl
  | some msgType =>
      have isType : msgType.toU8 = payload.getD 2 0 := by
        rw [HistoryMsgType.fromU8] at found
        split at found
        · cases found
          exact Eq.symm ‹_›
        split at found
        · cases found
          exact Eq.symm ‹_›
        · cases found
      have known :
          ¬ (((payload.getD 2 0).toNat : Int) ≠ 0 ∧
            ((payload.getD 2 0).toNat : Int) ≠ 1) := by
        rintro ⟨notDm, notGrpTxt⟩
        rw [← isType] at isDm isGrpTxt notDm notGrpTxt
        cases msgType with
        | dm => exact notDm rfl
        | grpTxt => exact notGrpTxt rfl
      have tooLong :
          ((64 : Int) < ((payload.getD 7 0).toNat : Int)) ↔
            64 < (payload.getD 7 0).toNat := Int.ofNat_lt
      rw [if_neg known, getUint32_eq (by omega), value_bind,
        element_eq (by omega), value_bind, element_eq (by omega),
        value_bind, natCast_bne_zero, Int.toNat_natCast]
      dsimp only
      by_cases refused :
          payload.length < 9 + (payload.getD 7 0).toNat ∨
            64 < (payload.getD 7 0).toNat
      · rw [if_pos refused, if_pos (refused.imp_right tooLong.mpr)]
        rfl
      · have length :
            ((payload.drop 9).take (payload.getD 7 0).toNat).length =
              (payload.getD 7 0).toNat := by
          rw [List.length_take, List.length_drop]
          omega
        rw [if_neg refused,
          if_neg fun isRefused =>
            refused (isRefused.imp_right tooLong.mp),
          subarray_eq, Nat.add_sub_cancel_left, UInt8.ofNat_toNat,
          paddedField]
        simp only [pure_eq, Option.map_some, RspHistoryEntry.ofEntry,
          used_zeroPadded (show _ ≤ 64 by omega) length.symm, isType,
          wordAt32]

end Texts

/-! ## The whole codec -/

/-- What both codecs have: the checksum, the frames and the scan for them. -/
structure FramesAgree : Prop where
  checksum :
    ∀ bytes : List UInt8,
      crc16 bytes = ((MeshCadet.crc16 bytes).toNat : Int)
  scan :
    ∀ buf : List UInt8,
      findMagicStart buf = MeshCadet.findMagicStart buf
  encoded :
    ∀ (frameType : UInt8) (payload : List UInt8),
      ∃ bytes,
        encodeFrame frameType.toNat payload = .value bytes ∧
          Fills (Provisioning.encodeFrame frameType payload) bytes
  decoded :
    ∀ buf : List UInt8,
      decodeFrame buf = Frame.ofHost <$> Provisioning.decodeFrame buf

/-- The encoders of the site write what those of the device's codec write. -/
structure CommandsAgree : Prop where
  addContact :
    ∀ (pubkey : Key) (flag : Bool) (name : List UInt16),
      SameBytes (encodeAddContact pubkey.toList flag name)
        (Provisioning.encodeAddContact pubkey flag (encodeUtf8 name))
  queryAdvert :
    ∀ hostUnixTime : UInt32,
      SameBytes (encodeQueryAdvert hostUnixTime.toNat)
        (Provisioning.encodeQueryAdvert hostUnixTime)
  delContact :
    ∀ pubkey : Key,
      SameBytes (encodeDelContact pubkey.toList)
        (Provisioning.encodeDelContact pubkey)
  addChannel :
    ∀ (secret : Key) (keyLen : UInt8) (flag : Bool) (name : List UInt16),
      SameBytes (encodeAddChannel secret.toList keyLen.toNat flag name)
        (Provisioning.encodeAddChannel secret keyLen flag (encodeUtf8 name))
  delChannel :
    ∀ secret : Key,
      SameBytes (encodeDelChannel secret.toList)
        (Provisioning.encodeDelChannel secret)
  addRoom :
    ∀ (pubkey : Key) (guestPassword name : List UInt16),
      SameBytes (encodeAddRoom pubkey.toList guestPassword name)
        (Provisioning.encodeAddRoom pubkey (encodeUtf8 guestPassword)
          (encodeUtf8 name))
  delRoom :
    ∀ pubkey : Key,
      SameBytes (encodeDelRoom pubkey.toList)
        (Provisioning.encodeDelRoom pubkey)
  setNotifDefaults :
    ∀ visual audible : Bool,
      SameBytes (encodeSetNotifDefaults visual audible)
        (Provisioning.encodeSetNotifDefaults visual audible)
  setPin :
    ∀ pin : List UInt16,
      SameBytes (encodeSetPin pin)
        (Provisioning.encodeSetPin (encodeUtf8 pin))
  setDeviceName :
    ∀ name : List UInt16,
      SameBytes (encodeSetDeviceName name)
        (Provisioning.encodeSetDeviceName (encodeUtf8 name))
  setLockPin :
    ∀ pin : Vector UInt8 Provisioning.lockPinLen,
      pin.toList.all Provisioning.isAsciiDigit = true →
        SameBytes (encodeSetLockPin (pinText pin))
          (Provisioning.encodeSetLockPin pin)
  setLockConfig :
    ∀ (lockFlags : UInt8) (lockTimeoutS : UInt16),
      SameBytes (encodeSetLockConfig lockFlags.toNat lockTimeoutS.toNat)
        (Provisioning.encodeSetLockConfig lockFlags lockTimeoutS)
  setRegion :
    ∀ name : List UInt16,
      encodeUtf8 name = [] ∨ validateRegionName (encodeUtf8 name) = .ok () →
        SameBytes (encodeSetRegion name)
          (Provisioning.encodeSetRegion (encodeUtf8 name))
  refusedRegion :
    ∀ name : List UInt16,
      encodeUtf8 name ≠ [] → validateRegionName (encodeUtf8 name) ≠ .ok () →
        (∃ problem, encodeSetRegion name = .failed (.regionName problem)) ∧
          ∀ out,
            Provisioning.encodeSetRegion (encodeUtf8 name) out =
              .failed .regionNameInvalid

/--
The decoders of the site accept what those of the device's codec accept, with
the same fields, and fail as they do.
-/
structure AnswersAgree
    {Text : Type}
    (decodeUtf8 : List UInt8 → Text) :
    Prop where
  rspLock :
    ∀ payload,
      decodeRspLock payload =
        RspLock.ofPayload <$> Provisioning.decodeRspLock payload
  rspRegion :
    ∀ payload,
      decodeRspRegion decodeUtf8 payload =
        RspRegion.ofPayload decodeUtf8 <$>
          Provisioning.decodeRspRegion payload
  rspError :
    ∀ payload,
      decodeRspError decodeUtf8 payload =
        RspError.ofPayload decodeUtf8 <$>
          Provisioning.decodeRspError payload
  rspStatus :
    ∀ payload,
      decodeRspStatus payload =
        RspStatus.ofPayload <$> Provisioning.decodeRspStatus payload
  rspIdentity :
    ∀ payload,
      decodeRspIdentity decodeUtf8 payload =
        RspIdentity.ofPayload decodeUtf8 <$>
          Provisioning.decodeRspIdentity payload
  rspContact :
    ∀ payload,
      decodeRspContact decodeUtf8 payload =
        RspContact.ofPayload decodeUtf8 <$>
          Provisioning.decodeRspContact payload
  rspChannel :
    ∀ payload,
      decodeRspChannel decodeUtf8 payload =
        RspChannel.ofPayload decodeUtf8 <$>
          Provisioning.decodeRspChannel payload
  rspRoom :
    ∀ payload,
      decodeRspRoom decodeUtf8 payload =
        RspRoom.ofPayload decodeUtf8 <$>
          Provisioning.decodeRspRoom payload
  rspHistoryEntry :
    ∀ payload,
      decodeRspHistoryEntry decodeUtf8 payload =
        .value
          ((MeshCadet.decodeRspHistoryEntry payload).map
            (RspHistoryEntry.ofEntry decodeUtf8))

/--
The site and the device's codec agree on frames, on commands and on answers,
whatever text the site makes of the bytes of a name.
-/
theorem codecs_agree
    {Text : Type}
    (decodeUtf8 : List UInt8 → Text) :
    FramesAgree ∧ CommandsAgree ∧ AnswersAgree decodeUtf8 := by
  refine ⟨?_, ?_, ?_⟩
  · exact
      { checksum := crc16_eq
        scan := findMagicStart_eq
        encoded := fun frameType payload =>
          ⟨_, encodeFrame_eq frameType payload,
            Provisioning.encodeFrame_fills frameType payload⟩
        decoded := decodeFrame_eq }
  · exact
      { addContact := fun pubkey flag name =>
          encodeAddContact_same pubkey name flag
        queryAdvert := encodeQueryAdvert_same
        delContact := encodeDelContact_same
        addChannel := fun secret keyLen flag name =>
          encodeAddChannel_same secret name flag keyLen
        delChannel := encodeDelChannel_same
        addRoom := fun pubkey guestPassword name =>
          encodeAddRoom_same pubkey name guestPassword
        delRoom := encodeDelRoom_same
        setNotifDefaults := encodeSetNotifDefaults_same
        setPin := encodeSetPin_same
        setDeviceName := encodeSetDeviceName_same
        setLockPin := fun _ digits => encodeSetLockPin_same digits
        setLockConfig := encodeSetLockConfig_same
        setRegion := fun name => (encodeSetRegion_same name).1
        refusedRegion := fun name => (encodeSetRegion_same name).2 }
  · exact
      { rspLock := decodeRspLock_eq
        rspRegion := decodeRspRegion_eq decodeUtf8
        rspError := decodeRspError_eq decodeUtf8
        rspStatus := decodeRspStatus_eq
        rspIdentity := decodeRspIdentity_eq decodeUtf8
        rspContact := decodeRspContact_eq decodeUtf8
        rspChannel := decodeRspChannel_eq decodeUtf8
        rspRoom := decodeRspRoom_eq decodeUtf8
        rspHistoryEntry := decodeRspHistoryEntry_eq decodeUtf8 }

end SiteCodec

end MeshCadet
