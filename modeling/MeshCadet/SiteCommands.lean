import MeshCadet.SiteCodec

namespace MeshCadet

/-!
# Frames and commands of the site

The site computes the checksum of the device's codec in 32-bit numbers, scans for
and decodes the same frames, and each of its encoders gives the bytes that the
encoder of the device's codec writes.
-/

namespace SiteCodec

open Outcome JavaScript BufferFills ByteDecoders

/-! ## Frames -/

/-- A bit of the checksum, in both number types. -/
theorem crc16Bit_toNat
    (crc : UInt16) :
    crc16Bit crc.toNat = ((MeshCadet.crc16Bit crc).toNat : Int) := by
  have bound := crc.toNat_lt
  have isOne : (1 : Int) = ((1 : Nat) : Int) := rfl
  have isPoly : (0xA001 : Int) = ((0xA001 : Nat) : Int) := rfl
  have shifted : (crc >>> 1).toNat = crc.toNat >>> 1 := by
    rw [UInt16.toNat_shiftRight]
    rfl
  have less : crc.toNat >>> 1 < 65536 := by
    rw [Nat.shiftRight_eq_div_pow]
    omega
  have lowBit : (crc &&& 0x0001 = 0) ↔ crc.toNat &&& 1 = 0 := by
    rw [← UInt16.toNat_inj, UInt16.toNat_and]
    rfl
  rw [crc16Bit, MeshCadet.crc16Bit, isOne, isPoly,
    bitAnd_natCast (by omega) (by omega),
    shiftRight_natCast (by omega) (by omega)]
  by_cases isClear : crc &&& 0x0001 = 0
  · have clear : ((crc.toNat &&& 1 : Nat) : Int) = 0 :=
      Int.ofNat_eq_zero.mpr (lowBit.mp isClear)
    rw [if_neg (not_not_intro clear), if_neg (not_not_intro isClear),
      shifted]
  · have set : ((crc.toNat &&& 1 : Nat) : Int) ≠ 0 := by
      intro clear
      exact isClear (lowBit.mpr (Int.ofNat_eq_zero.mp clear))
    rw [if_pos set, if_pos isClear, bitXor_natCast (by omega) (by omega),
      UInt16.toNat_xor, shifted]
    rfl

/-- The bits of a byte, in both number types. -/
theorem repeat_crc16Bit
    (count : Nat)
    (crc : UInt16) :
    Nat.repeat crc16Bit count crc.toNat =
      ((Nat.repeat MeshCadet.crc16Bit count crc).toNat : Int) := by
  induction count with
  | zero => rfl
  | succ count inductionHypothesis =>
      rw [Nat.repeat, inductionHypothesis, crc16Bit_toNat]
      rfl

theorem foldl_crc16
    (bytes : List UInt8)
    (crc : UInt16) :
    bytes.foldl
        (fun crc byte => Nat.repeat crc16Bit 8 (bitXor crc byte.toNat))
        (crc.toNat : Int) =
      ((bytes.foldl
        (fun crc byte =>
          Nat.repeat MeshCadet.crc16Bit 8 (crc ^^^ byte.toUInt16))
        crc).toNat : Int) := by
  induction bytes generalizing crc with
  | nil => rfl
  | cons byte rest inductionHypothesis =>
      have bound := crc.toNat_lt
      have few := byte.toNat_lt
      have mixed :
          bitXor crc.toNat byte.toNat =
            ((crc ^^^ byte.toUInt16).toNat : Int) := by
        rw [bitXor_natCast (by omega) (by omega), UInt16.toNat_xor,
          UInt8.toNat_toUInt16]
      rw [List.foldl_cons, List.foldl_cons, mixed, repeat_crc16Bit,
        inductionHypothesis]

/-- The checksums are the same. -/
theorem crc16_eq
    (bytes : List UInt8) :
    crc16 bytes = ((MeshCadet.crc16 bytes).toNat : Int) := by
  have bound := (MeshCadet.crc16 bytes).toNat_lt
  have isMask : (0xFFFF : Int) = ((0xFFFF : Nat) : Int) := rfl
  have folded := foldl_crc16 bytes 0
  have isStart : (((0 : UInt16).toNat : Nat) : Int) = 0 := rfl
  rw [isStart] at folded
  rw [crc16, folded, isMask]
  change bitAnd ((MeshCadet.crc16 bytes).toNat : Int) _ = _
  rw [bitAnd_natCast (by omega) (by omega)]
  congr 1
  rw [show (0xFFFF : Nat) = 2 ^ 16 - 1 from rfl,
    Nat.and_two_pow_sub_one_eq_mod, Nat.mod_eq_of_lt bound]

/-- A word of two elements, in both number types. -/
theorem bitOr_shiftLeft
    (low high : UInt8) :
    bitOr (low.toNat : Int) (shiftLeft (high.toNat : Int) 8) =
      (wordOf low high : Int) := by
  have lowFew := low.toNat_lt
  have highFew := high.toNat_lt
  have shifted : high.toNat <<< 8 < 65536 := by
    rw [Nat.shiftLeft_eq]
    omega
  rw [shiftLeft_natCast (by omega) (by omega),
    bitOr_natCast (by omega) (by omega)]
  rfl

/-- A buffer is scanned from a place on as what stands there is. -/
theorem findMagicFrom_eq
    {buf : List UInt8}
    {turns i : Nat}
    (isEnd : i + turns = buf.length) :
    findMagicFrom buf turns i =
      i + MeshCadet.findMagicStart (buf.drop i) := by
  induction turns generalizing i with
  | zero =>
      have nothingLeft : buf.drop i = [] :=
        List.drop_of_length_le (by omega)
      rw [findMagicFrom, nothingLeft, MeshCadet.findMagicStart]
      omega
  | succ turns inductionHypothesis =>
      have inside : i < buf.length := by omega
      have isFirst : buf.drop i = buf.getD i 0 :: buf.drop (i + 1) := by
        rw [List.drop_eq_getElem_cons inside, List.getD_eq_getElem _ _ inside]
      have later := @inductionHypothesis (i + 1) (by omega)
      rw [findMagicFrom, isFirst]
      by_cases following : i + 1 < buf.length
      · have isSecond :
            buf.drop (i + 1) = buf.getD (i + 1) 0 :: buf.drop (i + 2) := by
          rw [List.drop_eq_getElem_cons following,
            List.getD_eq_getElem _ _ following]
        rw [later, isSecond, MeshCadet.findMagicStart, if_pos following]
        by_cases first : buf.getD i 0 = 0x4D
        · by_cases second : buf.getD (i + 1) 0 = 0x43
          · rw [if_pos first, if_pos second, if_pos ⟨first, second⟩,
              Nat.add_zero]
          · rw [if_pos first, if_neg second,
              if_neg fun both => second both.2, Nat.add_assoc]
        · rw [if_neg first, if_neg fun both => first both.1, Nat.add_assoc]
      · have nothingLeft : buf.drop (i + 1) = [] :=
          List.drop_of_length_le (by omega)
        rw [later, nothingLeft, MeshCadet.findMagicStart, if_neg following]
        split
        · rename_i isMagic
          rw [MeshCadet.findMagicStart, if_pos isMagic, Nat.add_zero]
        · rename_i notMagic
          rw [MeshCadet.findMagicStart, if_neg notMagic, Nat.add_zero]

/-- A frame may begin at the same place. -/
theorem findMagicStart_eq
    (buf : List UInt8) :
    findMagicStart buf = MeshCadet.findMagicStart buf := by
  rw [findMagicStart, findMagicFrom_eq (Nat.zero_add _), List.drop_zero,
    Nat.zero_add]

/-- What the site makes of a decoded frame. -/
def Frame.ofHost
    (frame : HostFrame) :
    Frame :=
  { frameType := frame.frameType.toNat
    payload := frame.payload }

@[simp] theorem map_value
    {Failure α β : Type}
    (view : α → β)
    (result : α) :
    view <$> (.value result : Outcome Failure α) = .value (view result) :=
  rfl

@[simp] theorem map_failed
    {Failure α β : Type}
    (view : α → β)
    (reason : Failure) :
    view <$> (.failed reason : Outcome Failure α) = .failed reason :=
  rfl

/-- An element equals a constant as its byte does. -/
theorem natCast_toNat_inj
    {byte other : UInt8} :
    (byte.toNat : Int) = (other.toNat : Int) ↔ byte = other := by
  rw [Int.ofNat_inj, UInt8.toNat_inj]

/-- Frames are decoded alike. -/
theorem decodeFrame_eq
    (buf : List UInt8) :
    decodeFrame buf = Frame.ofHost <$> Provisioning.decodeFrame buf := by
  have seven : frameOverhead = 7 := rfl
  rw [Provisioning.decodeFrame_eq, decodeFrame, MeshCadet.decodeFrame]
  split
  · rfl
  rename_i header
  have magic :
      (((buf.getD 0 0).toNat : Int) ≠ 0x4D ∨
          ((buf.getD 1 0).toNat : Int) ≠ 0x43) ↔
        buf.getD 0 0 ≠ 0x4D ∨ buf.getD 1 0 ≠ 0x43 := by
    rw [← not_and_or, ← not_and_or]
    exact not_congr
      (and_congr (@natCast_toNat_inj (buf.getD 0 0) 0x4D)
        (@natCast_toNat_inj (buf.getD 1 0) 0x43))
  rw [element_eq (by omega), value_bind, element_eq (by omega), value_bind]
  by_cases bad : buf.getD 0 0 ≠ 0x4D ∨ buf.getD 1 0 ≠ 0x43
  · rw [if_pos (magic.mpr bad), if_pos bad]
    rfl
  rw [if_neg fun isBad => bad (magic.mp isBad), if_neg bad,
    element_eq (by omega), value_bind, element_eq (by omega), value_bind,
    element_eq (by omega), value_bind, bitOr_shiftLeft]
  have isLen :
      ((wordOf (buf.getD 3 0) (buf.getD 4 0) : Nat) : Int).toNat =
        claimedLen buf := rfl
  simp only [isLen]
  split
  · rfl
  rename_i complete
  rw [element_eq (by omega), value_bind, element_eq (by omega), value_bind,
    bitOr_shiftLeft, crc16_eq, subarray_eq, subarray_eq, List.drop_zero,
    Nat.sub_zero, Nat.add_sub_cancel_left]
  have crc :
      ((MeshCadet.crc16 (buf.take (5 + claimedLen buf))).toNat : Int) ≠
          (wordOf (buf.getD (5 + claimedLen buf) 0)
            (buf.getD (5 + claimedLen buf + 1) 0) : Int) ↔
        (MeshCadet.crc16 (buf.take (5 + claimedLen buf))).toNat ≠
          wordOf (buf.getD (5 + claimedLen buf) 0)
            (buf.getD (5 + claimedLen buf + 1) 0) :=
    not_congr Int.ofNat_inj
  by_cases mismatch :
      (MeshCadet.crc16 (buf.take (5 + claimedLen buf))).toNat ≠
        wordOf (buf.getD (5 + claimedLen buf) 0)
          (buf.getD (5 + claimedLen buf + 1) 0)
  · rw [if_pos (crc.mpr mismatch), if_pos mismatch]
    rfl
  · rw [if_neg fun isWrong => mismatch (crc.mp isWrong), if_neg mismatch]
    rfl

/-- A flag is stored as a byte. -/
theorem toUint8_flagNumber
    (flag : Bool) :
    toUint8 (flagNumber flag) = flag.toUInt8 := by
  cases flag <;> rfl

/-- A frame is encoded to the same bytes. -/
theorem encodeFrame_eq
    (frameType : UInt8)
    (payload : List UInt8) :
    encodeFrame frameType.toNat payload =
      .value (MeshCadet.encodeFrame frameType payload) := by
  have isType : toUint8 (frameType.toNat : Int) = frameType := by
    rw [toUint8_natCast, UInt8.ofNat_toNat]
  let body : List UInt8 :=
    [] ++ [toUint8 0x4D] ++ [toUint8 0x43] ++
      [toUint8 (frameType.toNat : Int)] ++
      [toUint8 (bitAnd payload.length 255)] ++
      [toUint8 (bitAnd (shiftRight payload.length 8) 255)] ++ payload
  have isBody : body = frameBody frameType payload := by
    simp only [body, isType, toUint8_bitAnd, toUint8_bitAnd_shiftRight]
    rfl
  have isFrame :
      MeshCadet.encodeFrame frameType payload =
        [toUint8 0x4D] ++ ([toUint8 0x43] ++
          ([toUint8 (frameType.toNat : Int)] ++
            ([toUint8 (bitAnd payload.length 255)] ++
              ([toUint8 (bitAnd (shiftRight payload.length 8) 255)] ++
                (payload ++ ([toUint8 (bitAnd (crc16 body) 255)] ++
                  ([toUint8 (bitAnd (shiftRight (crc16 body) 8) 255)] ++
                    []))))))) := by
    rw [isBody, crc16_eq, isType, toUint8_bitAnd, toUint8_bitAnd,
      toUint8_bitAnd_shiftRight, toUint8_bitAnd_shiftRight]
    rfl
  have seven : frameOverhead = 7 := rfl
  rw [isFrame, encodeFrame]
  generalize isNew : newUint8Array _ = out
  have bodyLength : body.length = 5 + payload.length := by
    rw [isBody, length_frameBody]
  have isTail :
      FillsArray body
        (fun out => do
          let out ← store out (5 + payload.length) (bitAnd (crc16 body) 255)
          let out ←
            store out (5 + payload.length + 1)
              (bitAnd (shiftRight (crc16 body) 8) 255)
          (pure out : Outcome Unit (List UInt8)))
        ([toUint8 (bitAnd (crc16 body) 255)] ++
          ([toUint8 (bitAnd (shiftRight (crc16 body) 8) 255)] ++ [])) := by
    refine .store bodyLength (.lastStore ?_)
    rw [List.length_append, bodyLength, List.length_singleton]
  refine FillsArray.filled isNew (.store rfl (.store rfl (.store rfl
    (.store rfl (.store rfl (.write rfl
      (.congr isTail fun rest => ?_))))))) ?_
  · have read :
        subarray (body ++ rest) 0 (5 + payload.length) = body :=
      subarray_front bodyLength rest
    rw [← read]
  · simp only [List.length_append, List.length_cons, List.length_nil]
    omega

/-! ## Commands -/

/--
The site's encoder gives some bytes, and the device's codec fills every buffer
that has room for them with the same.
-/
def SameBytes
    (site : Outcome EncodeError (List UInt8))
    (device : Writer Provisioning.ProvError) :
    Prop :=
  ∃ bytes, site = .value bytes ∧ Fills device bytes

theorem subarray_zero
    (array : List UInt8)
    (stop : Nat) :
    subarray array 0 stop = array.take stop := by
  rw [subarray, List.drop_zero]

/-- A key is copied as a whole. -/
theorem subarray_key
    (key : Key) :
    subarray key.toList 0 32 = key.toList := by
  rw [subarray_zero,
    List.take_of_length_le (Nat.le_of_eq Vector.length_toList)]

/-- A length and its bytes are one field. -/
theorem prefixed_eq
    (bytes rest : List UInt8) :
    prefixed bytes ++ rest =
      [toUint8 (bytes.length : Int)] ++ (bytes ++ rest) := by
  rw [toUint8_natCast]
  rfl

theorem toUint8_byte
    (byte : UInt8) :
    toUint8 (byte.toNat : Int) = byte := by
  rw [toUint8_natCast, UInt8.ofNat_toNat]

section Encoders

variable (pubkey secret : Key) (name : List UInt16) (flag : Bool)

theorem encodeAddContact_same :
    SameBytes (encodeAddContact pubkey.toList flag name)
      (Provisioning.encodeAddContact pubkey flag (encodeUtf8 name)) := by
  refine ⟨_, ?_, Provisioning.encodeAddContact_fills pubkey _ flag⟩
  rw [encodeAddContact, subarray_zero, subarray_key, prefixed_eq,
    ← toUint8_flagNumber]
  generalize isNew : newUint8Array _ = out
  refine FillsArray.filled isNew (.write rfl (.store ?_ (.store ?_
    (.lastWrite ?_)))) ?_
  all_goals
    simp only [List.length_append, List.length_cons, List.length_nil,
      Vector.length_toList]
  all_goals omega

/-- A time is written modulo the words there are. -/
theorem encodeQueryAdvert_same
    (hostUnixTime : UInt32) :
    SameBytes (encodeQueryAdvert hostUnixTime.toNat)
      (Provisioning.encodeQueryAdvert hostUnixTime) := by
  have bound := hostUnixTime.toNat_lt
  have isTime :
      UInt32.ofNat
          (shiftRight (hostUnixTime.toNat : Int) 0 % 4294967296).toNat =
        hostUnixTime := by
    rw [show shiftRight (hostUnixTime.toNat : Int) 0 =
        (hostUnixTime.toNat : Int) from
      shiftRight_natCast (by omega) (by decide)]
    have isMod :
        ((hostUnixTime.toNat : Int) % 4294967296).toNat =
          hostUnixTime.toNat := by
      omega
    rw [isMod, UInt32.ofNat_toNat]
  refine ⟨_, ?_, Provisioning.encodeQueryAdvert_fills hostUnixTime⟩
  rw [encodeQueryAdvert]
  simp only [setUint32, isTime]
  have written :
      FillsArray []
        (fun out =>
          (write out 0 (Bytes.u32ToLeBytes hostUnixTime).toList :
            Outcome EncodeError (List UInt8)))
        ((Bytes.u32ToLeBytes hostUnixTime).toList ++ []) :=
    .lastWrite rfl
  have filled := written.filled (rfl : newUint8Array 4 = _) rfl
  exact filled

theorem encodeDelContact_same :
    SameBytes (encodeDelContact pubkey.toList)
      (Provisioning.encodeDelContact pubkey) := by
  refine ⟨_, ?_, Provisioning.encodeDelContact_fills pubkey⟩
  rw [encodeDelContact, subarray_key, List.append_nil]

theorem encodeAddChannel_same
    (keyLen : UInt8) :
    SameBytes (encodeAddChannel secret.toList keyLen.toNat flag name)
      (Provisioning.encodeAddChannel secret keyLen flag
        (encodeUtf8 name)) := by
  refine ⟨_, ?_, Provisioning.encodeAddChannel_fills secret _ flag keyLen⟩
  have isLen := toUint8_byte keyLen
  rw [encodeAddChannel, subarray_zero, subarray_key, prefixed_eq,
    ← toUint8_flagNumber]
  generalize isNew : newUint8Array _ = out
  conv_rhs => rw [← isLen]
  refine FillsArray.filled isNew (.write rfl (.store ?_ (.store ?_
    (.store ?_ (.lastWrite ?_))))) ?_
  all_goals
    simp only [List.length_append, List.length_cons, List.length_nil,
      Vector.length_toList]
  all_goals omega

theorem encodeDelChannel_same :
    SameBytes (encodeDelChannel secret.toList)
      (Provisioning.encodeDelChannel secret) := by
  refine ⟨_, ?_, Provisioning.encodeDelChannel_fills secret⟩
  rw [encodeDelChannel, subarray_key, List.append_nil]

theorem encodeAddRoom_same
    (guestPassword : List UInt16) :
    SameBytes (encodeAddRoom pubkey.toList guestPassword name)
      (Provisioning.encodeAddRoom pubkey (encodeUtf8 guestPassword)
        (encodeUtf8 name)) := by
  refine ⟨_, ?_, Provisioning.encodeAddRoom_fills pubkey _ _⟩
  rw [encodeAddRoom, subarray_zero, subarray_zero, subarray_key,
    prefixed_eq, prefixed_eq]
  generalize isNew : newUint8Array _ = out
  refine FillsArray.filled isNew (.write rfl (.store ?_ (.write ?_
    (.store ?_ (.lastWrite ?_))))) ?_
  all_goals
    simp only [List.length_append, List.length_cons, List.length_nil,
      Vector.length_toList]
  all_goals omega

theorem encodeDelRoom_same :
    SameBytes (encodeDelRoom pubkey.toList)
      (Provisioning.encodeDelRoom pubkey) :=
  encodeDelContact_same pubkey

theorem encodeSetNotifDefaults_same
    (visual audible : Bool) :
    SameBytes (encodeSetNotifDefaults visual audible)
      (Provisioning.encodeSetNotifDefaults visual audible) := by
  refine ⟨_, ?_, Provisioning.encodeSetNotifDefaults_fills visual audible⟩
  rw [encodeSetNotifDefaults, toUint8_flagNumber, toUint8_flagNumber]
  rfl

/-- A text is cut to the longest and written behind its length. -/
theorem encodeText_eq
    (max : Nat)
    (text : List UInt16) :
    encodeText max text =
      .value (prefixed ((encodeUtf8 text).take max) ++ []) := by
  rw [encodeText, subarray_zero, prefixed_eq]
  generalize isNew : newUint8Array _ = out
  refine FillsArray.filled isNew (.store rfl (.lastWrite rfl)) ?_
  simp only [List.length_append, List.length_cons, List.length_nil]
  omega

theorem encodeSetPin_same
    (pin : List UInt16) :
    SameBytes (encodeSetPin pin)
      (Provisioning.encodeSetPin (encodeUtf8 pin)) :=
  ⟨_, encodeText_eq maxPinLen pin, Provisioning.encodeSetPin_fills _⟩

theorem encodeSetDeviceName_same :
    SameBytes (encodeSetDeviceName name)
      (Provisioning.encodeSetDeviceName (encodeUtf8 name)) :=
  ⟨_, encodeText_eq 32 name, Provisioning.encodeSetDeviceName_fills _⟩

/-- Exactly four digits are encoded, one byte each. -/
theorem encodeSetLockPin_eq
    (pin : List UInt16) :
    encodeSetLockPin pin =
      if pin.length = Provisioning.lockPinLen ∧ pin.all isDigit = true then
        .value (pin.map fun unit => UInt8.ofNat unit.toNat)
      else
        .failed .lockPin := by
  have four : Provisioning.lockPinLen = 4 := rfl
  rw [encodeSetLockPin]
  by_cases digits : pin.all isDigit = true
  · have encoded := encodeUtf8_digits digits
    have length : (encodeUtf8 pin).length = pin.length := by
      rw [encoded, List.length_map]
    by_cases isFour : pin.length = Provisioning.lockPinLen
    · have isDigitsPin : isDigits pin = true := by
        have notEmpty : pin.isEmpty = false := by
          rw [List.isEmpty_eq_false_iff]
          intro isNil
          rw [isNil, List.length_nil] at isFour
          omega
        rw [isDigits, notEmpty, digits]
        rfl
      have accepted :
          ¬ ((encodeUtf8 pin).length ≠ Provisioning.lockPinLen ∨
            ¬ isDigits pin = true) := by
        rintro (notFour | notDigits)
        · exact notFour (length.trans isFour)
        · exact notDigits isDigitsPin
      rw [if_neg accepted, if_pos ⟨isFour, digits⟩, encoded]
    · have notFour :
          (encodeUtf8 pin).length ≠ Provisioning.lockPinLen := by
        rw [length]
        exact isFour
      rw [if_pos (Or.inl notFour), if_neg fun both => isFour both.1]
  · have notDigits : ¬ isDigits pin = true := by
      intro isDigitsPin
      rw [isDigits, Bool.and_eq_true] at isDigitsPin
      exact digits isDigitsPin.2
    rw [if_pos (Or.inr notDigits), if_neg fun both => digits both.2]

/-- The string of the digits of a PIN. -/
def pinText
    (pin : Vector UInt8 Provisioning.lockPinLen) :
    List UInt16 :=
  pin.toList.map UInt8.toUInt16

theorem encodeSetLockPin_same
    {pin : Vector UInt8 Provisioning.lockPinLen}
    (digits : pin.toList.all Provisioning.isAsciiDigit = true) :
    SameBytes (encodeSetLockPin (pinText pin))
      (Provisioning.encodeSetLockPin pin) := by
  refine ⟨_, ?_, Provisioning.encodeSetLockPin_fills pin⟩
  have isFour : (pinText pin).length = Provisioning.lockPinLen := by
    rw [pinText, List.length_map, Vector.length_toList]
  have areDigits : (pinText pin).all isDigit = true := by
    rw [pinText, List.all_map]
    exact digits
  have isPin :
      (pinText pin).map (fun unit => UInt8.ofNat unit.toNat) =
        pin.toList := by
    rw [pinText, List.map_map]
    exact List.map_id'' (fun byte => by simp) _
  rw [encodeSetLockPin_eq, if_pos ⟨isFour, areDigits⟩, isPin,
    List.append_nil]

theorem encodeSetLockConfig_same
    (lockFlags : UInt8)
    (lockTimeoutS : UInt16) :
    SameBytes (encodeSetLockConfig lockFlags.toNat lockTimeoutS.toNat)
      (Provisioning.encodeSetLockConfig lockFlags lockTimeoutS) := by
  have bound := lockTimeoutS.toNat_lt
  have isTimeout :
      UInt16.ofNat
          (bitAnd (lockTimeoutS.toNat : Int) 65535 % 65536).toNat =
        lockTimeoutS := by
    have isMask : (65535 : Int) = ((65535 : Nat) : Int) := rfl
    have masked : lockTimeoutS.toNat &&& 65535 = lockTimeoutS.toNat := by
      rw [show (65535 : Nat) = 2 ^ 16 - 1 from rfl,
        Nat.and_two_pow_sub_one_eq_mod, Nat.mod_eq_of_lt bound]
    have isMod :
        ((lockTimeoutS.toNat : Int) % 65536).toNat =
          lockTimeoutS.toNat := by
      omega
    rw [isMask, bitAnd_natCast (by omega) (by omega), masked, isMod,
      UInt16.ofNat_toNat]
  have isFlags :
      toUint8 (bitAnd (lockFlags.toNat : Int) 255) = lockFlags := by
    rw [toUint8_bitAnd, UInt8.ofNat_toNat]
  refine ⟨_, ?_, Provisioning.encodeSetLockConfig_fills lockFlags
    lockTimeoutS⟩
  rw [encodeSetLockConfig]
  simp only [setUint16, isTimeout]
  generalize isNew : newUint8Array _ = out
  conv_rhs => rw [← isFlags]
  exact FillsArray.filled isNew (.store rfl (.lastWrite rfl)) rfl

/-- A byte is checked alike. -/
theorem isRegionNameByte_eq
    (byte : UInt8) :
    isRegionNameByte byte.toNat = MeshCadet.isRegionNameByte byte := by
  rw [Bool.eq_iff_iff]
  simp only [isRegionNameByte, MeshCadet.isRegionNameByte, Bool.or_eq_true,
    Bool.and_eq_true, beq_iff_eq, decide_eq_true_eq, ← UInt8.toNat_inj,
    UInt8.le_iff_toNat_le, UInt8.reduceToNat]
  omega

/-- The first byte that is not valid, counted from a place. -/
theorem assertNameBytes_eq
    (bytes : List UInt8)
    (i : Nat) :
    assertNameBytes i bytes =
      match bytes.findIdx? fun byte => !MeshCadet.isRegionNameByte byte with
      | some place => .error (.invalidByte (i + place) (bytes.getD place 0))
      | none => .ok () := by
  induction bytes generalizing i with
  | nil => rfl
  | cons byte rest inductionHypothesis =>
      rw [assertNameBytes, isRegionNameByte_eq, List.findIdx?_cons]
      by_cases bad : (!MeshCadet.isRegionNameByte byte) = true
      · rw [if_pos bad, if_pos bad]
        rfl
      · rw [if_neg bad, if_neg bad, inductionHypothesis]
        cases rest.findIdx? fun byte => !MeshCadet.isRegionNameByte byte with
        | none => rfl
        | some place =>
            simp only [Option.map_some, List.getD_cons_succ]
            rw [Nat.add_assoc, Nat.add_comm 1 place]

/-- A region name is checked alike. -/
theorem assertValidRegionName_eq
    (name : List UInt8) :
    assertValidRegionName name = validateRegionName name := by
  rw [assertValidRegionName, validateRegionName]
  by_cases isNil : name = []
  · rw [if_pos isNil, if_pos (List.length_eq_zero_iff.mpr isNil)]
  have first : name.headD 0 = name.getD 0 0 := by
    cases name with
    | nil => rfl
    | cons byte rest => rfl
  rw [if_neg isNil, if_neg fun empty =>
      isNil (List.length_eq_zero_iff.mp empty),
    first, assertNameBytes_eq]
  cases name.findIdx? fun byte => !MeshCadet.isRegionNameByte byte with
  | none => rfl
  | some place => simp

/-- A name is accepted, or refused, on both sides. -/
theorem encodeSetRegion_same :
    (encodeUtf8 name = [] ∨ validateRegionName (encodeUtf8 name) = .ok () →
      SameBytes (encodeSetRegion name)
        (Provisioning.encodeSetRegion (encodeUtf8 name))) ∧
    (encodeUtf8 name ≠ [] → validateRegionName (encodeUtf8 name) ≠ .ok () →
      (∃ problem, encodeSetRegion name = .failed (.regionName problem)) ∧
        ∀ out,
          Provisioning.encodeSetRegion (encodeUtf8 name) out =
            .failed .regionNameInvalid) := by
  constructor
  · intro valid
    refine ⟨_, ?_, Provisioning.encodeSetRegion_fills valid⟩
    have passes : checkRegionName (encodeUtf8 name) = .value () := by
      rw [checkRegionName]
      rcases valid with isNil | isValid
      · rw [isNil]
        rfl
      · rw [assertValidRegionName_eq, isValid]
        split <;> rfl
    rw [encodeSetRegion, passes, value_bind, prefixed_eq]
    generalize isNew : newUint8Array _ = out
    refine FillsArray.filled isNew (.store rfl (.lastWrite rfl)) ?_
    simp only [List.length_append, List.length_cons, List.length_nil]
    omega
  · intro notEmpty notValid
    constructor
    · cases checked : validateRegionName (encodeUtf8 name) with
      | ok done => exact absurd checked notValid
      | error problem =>
          refine ⟨problem, ?_⟩
          rw [encodeSetRegion, checkRegionName,
            if_pos (List.length_pos_of_ne_nil notEmpty),
            assertValidRegionName_eq, checked]
          rfl
    · intro out
      exact if_pos ⟨notEmpty, notValid⟩

end Encoders

end SiteCodec

end MeshCadet
