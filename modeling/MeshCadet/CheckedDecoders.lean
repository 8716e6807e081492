import MeshCadet.ProvisioningDecoders

namespace MeshCadet

/-!
# The decoders with and without their reads

The admin server and the host are modelled with decoders that read no byte by
an index that could be out of range.  They decode every payload as the decoders
that make each read.
-/

namespace Provisioning

open Outcome ByteDecoders

/-- An error of the decoders that do not go through every index. -/
def ofPayloadError : MeshCadet.ProvError → ProvError
  | .truncatedPayload => .truncatedPayload
  | .nameTooLong => .nameTooLong
  | .passwordTooLong => .passwordTooLong
  | .pathTooLong => .pathTooLong
  | .keyLenInvalid => .keyLenInvalid
  | .pinTooLong => .pinTooLong
  | .regionNameInvalid => .regionNameInvalid

/-- The outcome of a decoder that does not go through every index. -/
def checked
    {α : Type}
    (decoded : Except MeshCadet.ProvError α) :
    Outcome ProvError α :=
  mapFailure ofPayloadError (ofExcept decoded)

/-- A field that is there is a slice. -/
theorem slice_eq_fieldAt
    {payload : List UInt8}
    {length : Nat}
    (inside : 0 + length ≤ payload.length) :
    Bytes.slice payload 0 length inside = fieldAt length payload 0 := by
  apply Vector.ext
  intro place before
  have reached : place < payload.length := by omega
  rw [fieldAt, Vector.getElem_ofFn]
  simp [Bytes.slice, reached]

theorem decodeAddContact_eq
    (payload : List UInt8) :
    decodeAddContact payload =
      checked (MeshCadet.decodeAddContact payload) := by
  rw [decodeAddContact, MeshCadet.decodeAddContact]
  by_cases short : payload.length < 34
  · rw [if_pos short, dif_pos short]
    rfl
  have flag : payload[32] = payload.getD 32 0 :=
    (List.getD_eq_getElem _ _ (by omega)).symm
  have len : payload[33] = payload.getD 33 0 :=
    (List.getD_eq_getElem _ _ (by omega)).symm
  rw [if_neg short, dif_neg short, arrayAt_eq (by omega) rfl, value_bind,
    flagAt_eq (by omega), value_bind, prefixedAt_eq (by omega), len, flag,
    slice_eq_fieldAt, Nat.add_zero]
  dsimp only
  split
  · rfl
  split
  · rfl
  · rfl

theorem decodeDelContact_eq
    (payload : List UInt8) :
    decodeDelContact payload =
      checked
        ((MeshCadet.decodeDelContact payload).map DelContactPayload.mk) := by
  rw [decodeDelContact, MeshCadet.decodeDelContact]
  by_cases short : payload.length < 32
  · rw [if_pos short, dif_pos short]
    rfl
  · rw [if_neg short, dif_neg short, arrayAt_eq (by omega) rfl, value_bind,
      slice_eq_fieldAt]
    rfl

theorem decodeAddChannel_eq
    (payload : List UInt8) :
    decodeAddChannel payload =
      checked (MeshCadet.decodeAddChannel payload) := by
  rw [decodeAddChannel, MeshCadet.decodeAddChannel]
  by_cases short : payload.length < 35
  · rw [if_pos short, dif_pos short]
    rfl
  have keyLen : payload[32] = payload.getD 32 0 :=
    (List.getD_eq_getElem _ _ (by omega)).symm
  have flag : payload[33] = payload.getD 33 0 :=
    (List.getD_eq_getElem _ _ (by omega)).symm
  have len : payload[34] = payload.getD 34 0 :=
    (List.getD_eq_getElem _ _ (by omega)).symm
  rw [if_neg short, dif_neg short, arrayAt_eq (by omega) rfl, value_bind,
    index_getD (by omega), value_bind, keyLen]
  split
  · rfl
  rw [flagAt_eq (by omega), value_bind, prefixedAt_eq (by omega), len, flag,
    slice_eq_fieldAt, Nat.add_zero]
  dsimp only
  split
  · rfl
  split
  · rfl
  · rfl

/-- Behind the password the length of the name is there. -/
theorem decodeAddRoom_eq
    (payload : List UInt8) :
    decodeAddRoom payload = checked (MeshCadet.decodeAddRoom payload) := by
  rw [decodeAddRoom, MeshCadet.decodeAddRoom]
  by_cases short : payload.length < 34
  · rw [if_pos short, dif_pos short]
    rfl
  have pwLen : payload[32] = payload.getD 32 0 :=
    (List.getD_eq_getElem _ _ (by omega)).symm
  rw [if_neg short, dif_neg short, arrayAt_eq (by omega) rfl, value_bind,
    prefixedAt_eq (by omega), slice_eq_fieldAt]
  simp only [pwLen]
  by_cases long : maxLoginPasswordLen < (payload.getD 32 0).toNat
  · rw [if_pos long, if_pos long]
    rfl
  rw [if_neg long, if_neg long]
  by_cases cut : payload.length < 33 + (payload.getD 32 0).toNat + 1
  · rw [if_pos cut, dif_pos cut]
    rfl
  have inside : 33 + (payload.getD 32 0).toNat < payload.length := by
    omega
  have nameLen :
      payload[33 + (payload.getD 32 0).toNat] =
        payload.getD (33 + (payload.getD 32 0).toNat) 0 :=
    (List.getD_eq_getElem _ _ inside).symm
  rw [if_neg cut, dif_neg cut, value_bind]
  dsimp only
  rw [prefixedAt_eq inside, Nat.add_zero, nameLen]
  split
  · rfl
  split
  · rfl
  · rfl

theorem decodeDelRoom_eq
    (payload : List UInt8) :
    decodeDelRoom payload =
      checked ((MeshCadet.decodeDelRoom payload).map DelRoomPayload.mk) := by
  rw [decodeDelRoom, decodeDelContact_eq, MeshCadet.decodeDelRoom]
  cases MeshCadet.decodeDelContact payload with
  | error problem => rfl
  | ok pubkey => rfl

theorem decodeRspContact_eq
    (payload : List UInt8) :
    decodeRspContact payload =
      checked (MeshCadet.decodeRspContact payload) := by
  rw [decodeRspContact, MeshCadet.decodeRspContact]
  split
  · rfl
  rename_i enough
  rw [index_getD (by omega), value_bind, arrayAt_eq (by omega) rfl, value_bind,
    flagAt_eq (by omega), value_bind, prefixedAt_eq (by omega),
    Nat.add_zero, UInt8.ofNat_toNat]
  split
  · rfl
  split
  · rfl
  · rfl

theorem decodeRspChannel_eq
    (payload : List UInt8) :
    decodeRspChannel payload =
      checked (MeshCadet.decodeRspChannel payload) := by
  rw [decodeRspChannel, MeshCadet.decodeRspChannel]
  split
  · rfl
  rename_i enough
  rw [index_getD (by omega), value_bind, index_getD (by omega), value_bind,
    index_getD (by omega), value_bind, flagAt_eq (by omega), value_bind,
    prefixedAt_eq (by omega), Nat.add_zero, UInt8.ofNat_toNat]
  split
  · rfl
  split
  · rfl
  · rfl

theorem decodeRspRoom_eq
    (payload : List UInt8) :
    decodeRspRoom payload = checked (MeshCadet.decodeRspRoom payload) := by
  rw [decodeRspRoom, MeshCadet.decodeRspRoom]
  split
  · rfl
  rename_i enough
  rw [index_getD (by omega), value_bind, arrayAt_eq (by omega) rfl, value_bind,
    wordAt_eq (by omega) rfl, value_bind, index_getD (by omega), value_bind,
    prefixedAt_eq (by omega), Nat.add_zero, UInt8.ofNat_toNat]
  split
  · rfl
  split
  · rfl
  rw [value_bind]
  dsimp only
  split
  · rfl
  rename_i complete
  rw [prefixedAt_eq (by omega), Nat.add_zero, UInt8.ofNat_toNat]
  split
  · rfl
  split
  · rfl
  · rfl

/-- The half word of two bytes is the high one above the low one. -/
theorem halfWord_eq
    (low high : UInt8) :
    UInt16.ofNat (low.toNat + 256 * high.toNat) =
      low.toUInt16 ||| (high.toUInt16 <<< 8) := by
  have few := low.toNat_lt
  have small := high.toNat_lt
  have placed := Nat.shiftLeft_add_eq_or_of_lt few high.toNat
  rw [Nat.shiftLeft_eq] at placed
  have shift : 8 % 2 ^ 16 % 16 = 8 := rfl
  apply UInt16.toNat_inj.mp
  rw [UInt16.toNat_ofNat', UInt16.toNat_or, UInt16.toNat_shiftLeft,
    UInt8.toNat_toUInt16, UInt8.toNat_toUInt16, UInt16.toNat_ofNat, shift,
    Nat.shiftLeft_eq, Nat.or_comm, Nat.mod_eq_of_lt (by omega),
    Nat.mod_eq_of_lt (by omega)]
  omega

/-- A half word that is there, or zero. -/
theorem tailHalfAt_eq
    (payload : List UInt8)
    (start : Nat) :
    tailHalfAt payload start (start + 2) =
      .value (halfWordAt payload start) := by
  rw [tailHalfAt, halfWordAt]
  split
  · rename_i inside
    rw [halfAt_eq inside rfl, u16FromLeBytes]
    have low : (fieldAt 2 payload start).toList.getD 0 0 =
        payload.getD start 0 := by
      simp [fieldAt]
    have high : (fieldAt 2 payload start).toList.getD 1 0 =
        payload.getD (start + 1) 0 := by
      simp [fieldAt]
    rw [low, high, halfWord_eq]
  · rfl

theorem decodeRspStatus_eq
    (payload : List UInt8) :
    decodeRspStatus payload =
      checked (MeshCadet.decodeRspStatus payload) := by
  rw [decodeRspStatus, MeshCadet.decodeRspStatus]
  split
  · rfl
  rename_i enough
  have level :
      tailLevelAt payload (payload.getD 53 0) (payload.getD 54 0 != 0) =
        .value
          (if payload.length < 61 then
            legacyPercentToBatteryLevel (payload.getD 53 0)
              (payload.getD 54 0 != 0)
          else
            payload.getD 59 0,
            if payload.length < 61 then true else payload.getD 60 0 != 0) := by
    rw [tailLevelAt]
    by_cases short : payload.length < 61
    · rw [if_neg (by omega), if_pos short, if_pos short]
    · rw [if_pos (by omega), if_neg short, if_neg short,
        index_getD (by omega), value_bind, flagAt_eq (by omega), value_bind]
      rfl
  rw [flagAt_eq (by omega), value_bind, arrayAt_eq (by omega) rfl, value_bind,
    index_getD (by omega), value_bind, flagAt_eq (by omega), value_bind,
    tailHalfAt_eq, value_bind, tailHalfAt_eq, value_bind, level, value_bind,
    index_getD (by omega), value_bind, index_getD (by omega), value_bind,
    flagAt_eq (by omega), value_bind, wordAt_eq (by omega) rfl, value_bind,
    wordAt_eq (by omega) rfl, value_bind, wordAt_eq (by omega) rfl, value_bind,
    flagAt_eq (by omega), value_bind, wordAt_eq (by omega) rfl, value_bind]
  rfl

/-- The bytes behind a length at the front of a payload. -/
theorem prefixedSlice_front
    (max : Nat)
    (tooLong : MeshCadet.ProvError)
    {payload : List UInt8}
    (some : ¬ payload.length < 1) :
    prefixedSlice max (ofPayloadError tooLong) .truncatedPayload payload 0 0 =
      checked (decodeLengthPrefixed max tooLong payload) := by
  cases payload with
  | nil => exact absurd Nat.zero_lt_one some
  | cons length rest =>
      rw [prefixedSlice_eq (Nat.zero_lt_succ _), decodeLengthPrefixed]
      simp only [List.getD_cons_zero, List.length_cons, Nat.zero_add,
        Nat.add_zero, List.drop_succ_cons, List.drop_zero]
      by_cases long : max < length.toNat
      · rw [if_pos long, if_pos long]
        rfl
      rw [if_neg long, if_neg long]
      by_cases cut : rest.length < length.toNat
      · rw [if_pos (by omega), if_pos cut]
        rfl
      · rw [if_neg (by omega), if_neg cut]
        rfl

/-- A text read behind its length is at most the longest. -/
theorem length_of_decodeLengthPrefixed
    {max : Nat}
    {tooLong : MeshCadet.ProvError}
    {payload text : List UInt8}
    (decoded : decodeLengthPrefixed max tooLong payload = .ok text) :
    text.length ≤ max := by
  cases payload with
  | nil => cases decoded
  | cons length rest =>
      rw [decodeLengthPrefixed] at decoded
      by_cases long : max < length.toNat
      · rw [if_pos long] at decoded
        cases decoded
      rw [if_neg long] at decoded
      by_cases cut : rest.length < length.toNat
      · rw [if_pos cut] at decoded
        cases decoded
      rw [if_neg cut] at decoded
      have taken := congrArg List.length (Except.ok.inj decoded)
      rw [List.length_take] at taken
      omega

/-- A text behind its length is checked before it is padded. -/
theorem prefixedAt_front
    (max : Nat)
    (tooLong : MeshCadet.ProvError)
    {payload : List UInt8}
    (some : ¬ payload.length < 1) :
    prefixedAt max (ofPayloadError tooLong) .truncatedPayload payload 0 0 =
      checked
        ((decodeLengthPrefixed max tooLong payload).map fun text =>
          (Bytes.zeroPadded max text, UInt8.ofNat text.length)) := by
  rw [prefixedAt, prefixedSlice_front max tooLong some]
  cases decoded : decodeLengthPrefixed max tooLong payload with
  | error problem => rfl
  | ok text =>
      have fits : text.length ≤ max :=
        length_of_decodeLengthPrefixed decoded
      change (copyPadded max text).bind _ = _
      rw [copyPadded_eq fits]
      rfl

theorem decodeSetNotifDefaults_eq
    (payload : List UInt8) :
    decodeSetNotifDefaults payload =
      checked (MeshCadet.decodeSetNotifDefaults payload) := by
  cases payload with
  | nil => rfl
  | cons visual rest =>
      cases rest with
      | nil => rfl
      | cons audible behind =>
          rw [decodeSetNotifDefaults, if_neg (by simp)]
          rfl

theorem decodeSetPin_eq
    (payload : List UInt8) :
    decodeSetPin payload =
      checked
        ((MeshCadet.decodeSetPin payload).map fun pin =>
          { pin := Bytes.zeroPadded maxPinLen pin
            pinLen := UInt8.ofNat pin.length }) := by
  rw [decodeSetPin, MeshCadet.decodeSetPin]
  by_cases empty : payload.length < 1
  · have nothing : payload = [] := List.eq_nil_of_length_eq_zero (by omega)
    rw [if_pos empty, nothing]
    rfl
  rw [if_neg empty]
  have front := prefixedAt_front maxPinLen .pinTooLong empty
  rw [ofPayloadError] at front
  rw [front]
  cases decodeLengthPrefixed maxPinLen .pinTooLong payload with
  | error problem => rfl
  | ok pin => rfl

theorem decodeSetDeviceName_eq
    (payload : List UInt8) :
    decodeSetDeviceName payload =
      checked
        ((MeshCadet.decodeSetDeviceName payload).map fun name =>
          { name := Bytes.zeroPadded 32 name
            nameLen := UInt8.ofNat name.length }) := by
  rw [decodeSetDeviceName, MeshCadet.decodeSetDeviceName]
  by_cases empty : payload.length < 1
  · have nothing : payload = [] := List.eq_nil_of_length_eq_zero (by omega)
    rw [if_pos empty, nothing]
    rfl
  rw [if_neg empty]
  have front := prefixedAt_front 32 .nameTooLong empty
  rw [ofPayloadError] at front
  rw [front]
  cases decodeLengthPrefixed 32 .nameTooLong payload with
  | error problem => rfl
  | ok name => rfl

/-- A region name is padded after it is validated. -/
theorem regionNameAt_eq
    (payload : List UInt8) :
    regionNameAt payload =
      checked
        ((MeshCadet.decodeSetRegion payload).map fun name =>
          (Bytes.zeroPadded regionNameMax name,
            UInt8.ofNat name.length)) := by
  rw [regionNameAt, MeshCadet.decodeSetRegion]
  by_cases empty : payload.length < 1
  · have nothing : payload = [] := List.eq_nil_of_length_eq_zero (by omega)
    rw [if_pos empty, nothing]
    rfl
  rw [if_neg empty]
  have front := prefixedSlice_front regionNameMax .regionNameInvalid empty
  rw [ofPayloadError] at front
  rw [front]
  cases decoded :
      decodeLengthPrefixed regionNameMax .regionNameInvalid payload with
  | error problem => rfl
  | ok name =>
      have fits : name.length ≤ regionNameMax :=
        length_of_decodeLengthPrefixed decoded
      change (Outcome.value name).bind _ = _
      rw [Outcome.bind]
      dsimp only
      by_cases none : name = []
      · rw [if_neg (fun refused => refused.1 none), if_pos none,
          copyPadded_eq fits]
        rfl
      · cases valid : validateRegionName name with
        | ok _ =>
            rw [if_neg (fun refused => refused.2 rfl), if_neg none,
              copyPadded_eq fits]
            rfl
        | error problem =>
            rw [if_pos ⟨none, nofun⟩, if_neg none]
            rfl

theorem decodeSetRegion_eq
    (payload : List UInt8) :
    decodeSetRegion payload =
      checked
        ((MeshCadet.decodeSetRegion payload).map fun name =>
          { name := Bytes.zeroPadded regionNameMax name
            nameLen := UInt8.ofNat name.length }) := by
  rw [decodeSetRegion, regionNameAt_eq]
  cases MeshCadet.decodeSetRegion payload with
  | error problem => rfl
  | ok name => rfl

theorem decodeRspRegion_eq
    (payload : List UInt8) :
    decodeRspRegion payload =
      checked
        ((MeshCadet.decodeSetRegion payload).map fun name =>
          { name := Bytes.zeroPadded regionNameMax name
            nameLen := UInt8.ofNat name.length }) := by
  rw [decodeRspRegion, regionNameAt_eq]
  cases MeshCadet.decodeSetRegion payload with
  | error problem => rfl
  | ok name => rfl

end Provisioning

end MeshCadet
