import MeshCadet.HostFrames
import MeshCadet.ShiftRegister

namespace MeshCadet

/-!
# What the checksum of a frame sees

The checksum is a register of sixteen bits that takes the bits of a frame in, the
lowest bit of each byte first.  A frame together with its checksum leaves the
register empty; a disturbance within sixteen bits does not.
-/

namespace FrameIntegrity

/-- The feedback of the checksum. -/
def feedback : BitVec 16 :=
  0xA001#16

/-- The bits of bytes, the lowest of each byte first. -/
def bitsOf
    (bytes : List UInt8) :
    List Bool :=
  bytes.flatMap fun byte => ShiftRegister.bits 8 byte.toBitVec

/-- Bytes disturbed by a pattern. -/
def disturb
    (bytes pattern : List UInt8) :
    List UInt8 :=
  List.zipWith (fun byte error => byte ^^^ error) bytes pattern

/--
A pattern that disturbs the type, the payload or the checksum of a frame, in no
more than sixteen bits next to each other.
-/
structure IsBurst
    (frame pattern : List UInt8) :
    Prop where
  sameLength : pattern.length = frame.length
  sparesMagic : pattern.getD 0 0 = 0 ∧ pattern.getD 1 0 = 0
  sparesLength : pattern.getD 3 0 = 0 ∧ pattern.getD 4 0 = 0
  disturbs : ∃ byte ∈ pattern, byte ≠ 0
  confined :
    ∃ first : Nat,
      ∀ place : Nat,
        (bitsOf pattern)[place]? = some true →
          first ≤ place ∧ place < first + 16

/-- The feedback comes back in at the highest bit. -/
theorem feedback_top :
    feedback.msb = true := by
  decide

/-- One bit of the checksum is one step of the register. -/
theorem toBitVec_crc16Bit
    (crc : UInt16) :
    (crc16Bit crc).toBitVec = ShiftRegister.shift feedback crc.toBitVec := by
  have low :
      (crc &&& 0x0001).toBitVec =
        BitVec.setWidth 16 (BitVec.ofBool (crc.toBitVec.getLsbD 0)) := by
    rw [UInt16.toBitVec_and]
    exact BitVec.and_one_eq_setWidth_ofBool_getLsbD
  rw [crc16Bit, ShiftRegister.shift]
  cases isSet : crc.toBitVec.getLsbD 0 with
  | false =>
      have unset : crc &&& 0x0001 = 0 := by
        apply UInt16.toBitVec_inj.mp
        rw [low, isSet]
        rfl
      rw [if_neg (not_not_intro unset), if_neg Bool.false_ne_true]
      rfl
  | true =>
      have set : crc &&& 0x0001 ≠ 0 := by
        intro isZero
        rw [isZero, isSet] at low
        exact absurd low (by decide)
      rw [if_pos set, if_pos rfl]
      rfl

/-- As many bits of the checksum. -/
theorem toBitVec_repeat_crc16Bit
    (steps : Nat)
    (crc : UInt16) :
    (Nat.repeat crc16Bit steps crc).toBitVec =
      ShiftRegister.shifts feedback steps crc.toBitVec := by
  have commutes :
      ∀ steps crc,
        Nat.repeat crc16Bit (steps + 1) crc =
          Nat.repeat crc16Bit steps (crc16Bit crc) := by
    intro steps
    induction steps with
    | zero => exact fun _ => rfl
    | succ steps inductionHypothesis =>
        intro crc
        exact congrArg crc16Bit (inductionHypothesis crc)
  induction steps generalizing crc with
  | zero => rfl
  | succ steps inductionHypothesis =>
      rw [commutes, inductionHypothesis, toBitVec_crc16Bit]
      rfl

/-- One byte of the checksum takes the bits of the byte in. -/
theorem toBitVec_crc16_byte
    (crc : UInt16)
    (byte : UInt8) :
    (Nat.repeat crc16Bit 8 (crc ^^^ byte.toUInt16)).toBitVec =
      ShiftRegister.absorb feedback crc.toBitVec
        (ShiftRegister.bits 8 byte.toBitVec) := by
  have sameBits :
      ShiftRegister.bits 8 byte.toBitVec =
        ShiftRegister.bits 8 byte.toUInt16.toBitVec := by
    apply ShiftRegister.bits_congr
    intro place inside
    rw [UInt8.toBitVec_toUInt16, BitVec.getLsbD_setWidth]
    simp
    omega
  have whole : byte.toUInt16.toBitVec >>> 8 = 0#16 := by
    apply BitVec.eq_of_getLsbD_eq
    intro place _
    rw [BitVec.getLsbD_ushiftRight, UInt8.toBitVec_toUInt16,
      BitVec.getLsbD_setWidth]
    simp
  rw [toBitVec_repeat_crc16Bit, sameBits, ShiftRegister.absorb_bits _ whole]
  rfl

/-- The checksum is what is in the register after the bits of the bytes. -/
theorem toBitVec_crc16
    (data : List UInt8) :
    (crc16 data).toBitVec =
      ShiftRegister.absorb feedback 0#16 (bitsOf data) := by
  have fromAny :
      ∀ crc : UInt16,
        (data.foldl
            (fun crc byte => Nat.repeat crc16Bit 8 (crc ^^^ byte.toUInt16))
            crc).toBitVec =
          ShiftRegister.absorb feedback crc.toBitVec (bitsOf data) := by
    induction data with
    | nil => exact fun _ => rfl
    | cons byte rest inductionHypothesis =>
        intro crc
        rw [List.foldl_cons, inductionHypothesis, toBitVec_crc16_byte,
          ← ShiftRegister.absorb_append]
        rfl
  exact fromAny 0

/-- The bits of a checksum are those of the two bytes it is written as. -/
theorem bits_word
    {crc : UInt16}
    {low high : UInt8}
    (isWord : crc.toNat = wordOf low high) :
    ShiftRegister.bits 16 crc.toBitVec = bitsOf [low, high] := by
  have bitOf :
      ∀ place,
        crc.toBitVec.getLsbD place =
          (low.toNat.testBit place ||
            (decide (8 ≤ place) && high.toNat.testBit (place - 8))) := by
    intro place
    have isTestBit :
        crc.toBitVec.getLsbD place = crc.toNat.testBit place := rfl
    rw [isTestBit, isWord, wordOf, Nat.testBit_or, Nat.testBit_shiftLeft]
  rw [ShiftRegister.bits_add 8 8]
  have lowBits :
      ShiftRegister.bits 8 crc.toBitVec =
        ShiftRegister.bits 8 low.toBitVec := by
    apply ShiftRegister.bits_congr
    intro place inside
    rw [bitOf, decide_eq_false (by omega)]
    exact Bool.or_false _
  have highBits :
      ShiftRegister.bits 8 (crc.toBitVec >>> 8) =
        ShiftRegister.bits 8 high.toBitVec := by
    apply ShiftRegister.bits_congr
    intro place inside
    have above : low.toNat.testBit (8 + place) = false := by
      apply Nat.testBit_lt_two_pow
      calc
        low.toNat < 2 ^ 8 := low.toNat_lt
        _ ≤ 2 ^ (8 + place) := Nat.pow_le_pow_right (by decide) (by omega)
    rw [BitVec.getLsbD_ushiftRight, bitOf, above,
      decide_eq_true (by omega), Nat.add_sub_cancel_left]
    rfl
  rw [lowBits, highBits]
  rfl

theorem bitsOf_append
    (first second : List UInt8) :
    bitsOf (first ++ second) = bitsOf first ++ bitsOf second :=
  List.flatMap_append

/-- Bytes and their checksum leave the register empty. -/
theorem absorb_of_crc16
    {data : List UInt8}
    {low high : UInt8}
    (checked : (crc16 data).toNat = wordOf low high) :
    ShiftRegister.absorb feedback 0#16 (bitsOf (data ++ [low, high])) =
      0#16 := by
  rw [bitsOf_append, ShiftRegister.absorb_append, ← toBitVec_crc16,
    ← bits_word checked]
  exact ShiftRegister.absorb_self feedback (crc16 data).toBitVec

/-- The bits of disturbed bytes. -/
theorem bitsOf_disturb
    {bytes pattern : List UInt8}
    (sameLength : pattern.length = bytes.length) :
    bitsOf (disturb bytes pattern) =
      List.zipWith Bool.xor (bitsOf bytes) (bitsOf pattern) := by
  induction bytes generalizing pattern with
  | nil => rfl
  | cons byte rest inductionHypothesis =>
      cases pattern with
      | nil => cases sameLength
      | cons error more =>
          have tail := inductionHypothesis (Nat.succ.inj sameLength)
          rw [bitsOf, bitsOf, bitsOf, disturb, List.zipWith_cons_cons,
            List.flatMap_cons, List.flatMap_cons, List.flatMap_cons,
            UInt8.toBitVec_xor, ShiftRegister.bits_xor,
            List.zipWith_append (by simp)]
          congr 1

theorem length_bitsOf
    (bytes : List UInt8) :
    (bitsOf bytes).length = 8 * bytes.length := by
  induction bytes with
  | nil => rfl
  | cons byte rest inductionHypothesis =>
      rw [bitsOf, List.flatMap_cons, List.length_append, List.length_cons,
        ShiftRegister.length_bits]
      change 8 + (bitsOf rest).length = _
      omega

/-- A byte that is not zero has a bit that is set. -/
theorem true_mem_bitsOf
    {bytes : List UInt8}
    (disturbs : ∃ byte ∈ bytes, byte ≠ 0) :
    true ∈ bitsOf bytes := by
  obtain ⟨byte, member, notZero⟩ := disturbs
  apply List.mem_flatMap.mpr
  refine ⟨byte, member, ?_⟩
  have someBit : byte.toBitVec ≠ 0#8 := by
    intro isZero
    exact notZero (UInt8.toBitVec_inj.mp isZero)
  obtain ⟨place, isSet⟩ : ∃ place, byte.toBitVec.getLsbD place = true := by
    by_contra none
    apply someBit
    apply BitVec.eq_of_getLsbD_eq
    intro place _
    rw [BitVec.getLsbD_zero]
    cases isBit : byte.toBitVec.getLsbD place with
    | false => rfl
    | true => exact absurd ⟨place, isBit⟩ none
  apply List.mem_map.mpr
  refine ⟨place, ?_, isSet⟩
  exact List.mem_range.mpr (BitVec.lt_of_getLsbD isSet)

/-- Disturbed bytes leave in the register what the disturbance leaves. -/
theorem absorb_disturb
    {bytes pattern : List UInt8}
    (sameLength : pattern.length = bytes.length)
    (checked :
      ShiftRegister.absorb feedback 0#16 (bitsOf bytes) = 0#16) :
    ShiftRegister.absorb feedback 0#16 (bitsOf (disturb bytes pattern)) =
      ShiftRegister.absorb feedback 0#16 (bitsOf pattern) := by
  have sameBits : (bitsOf bytes).length = (bitsOf pattern).length := by
    rw [length_bitsOf, length_bitsOf, sameLength]
  have linear :=
    ShiftRegister.absorb_xor feedback sameBits 0#16 0#16
  rw [checked, BitVec.zero_xor, BitVec.zero_xor] at linear
  rw [bitsOf_disturb sameLength]
  exact linear

theorem length_disturb
    {bytes pattern : List UInt8}
    (sameLength : pattern.length = bytes.length) :
    (disturb bytes pattern).length = bytes.length := by
  rw [disturb, List.length_zipWith, sameLength, Nat.min_self]

/-- Each byte is disturbed by the byte of the pattern at its place. -/
theorem getD_disturb
    {bytes pattern : List UInt8}
    (sameLength : pattern.length = bytes.length)
    (place : Nat) :
    (disturb bytes pattern).getD place 0 =
      bytes.getD place 0 ^^^ pattern.getD place 0 := by
  induction bytes generalizing pattern place with
  | nil =>
      cases pattern with
      | nil => simp [disturb]
      | cons _ _ => cases sameLength
  | cons byte rest inductionHypothesis =>
      cases pattern with
      | nil => cases sameLength
      | cons error more =>
          cases place with
          | zero => rfl
          | succ place =>
              exact inductionHypothesis (Nat.succ.inj sameLength) place

/-- A byte that the pattern spares stays. -/
theorem getD_disturb_spared
    {bytes pattern : List UInt8}
    (sameLength : pattern.length = bytes.length)
    {place : Nat}
    (spared : pattern.getD place 0 = 0) :
    (disturb bytes pattern).getD place 0 = bytes.getD place 0 := by
  rw [getD_disturb sameLength, spared, UInt8.xor_zero]

/-- An encoded frame leaves the register empty. -/
theorem absorb_encodeFrame
    (frameType : UInt8)
    (payload : List UInt8) :
    ShiftRegister.absorb feedback 0#16
        (bitsOf (encodeFrame frameType payload)) =
      0#16 := by
  apply absorb_of_crc16
  exact (wordOf_length (UInt16.toNat_lt _)).symm

/-- A frame that is decoded leaves the register empty. -/
theorem absorb_of_decodeFrame
    {buf : List UInt8}
    {length : Nat}
    (whole : buf.length = 7 + length)
    (checked :
      (crc16 (buf.take (5 + length))).toNat =
        wordOf (buf.getD (5 + length) 0) (buf.getD (5 + length + 1) 0)) :
    ShiftRegister.absorb feedback 0#16 (bitsOf buf) = 0#16 := by
  have isTail :
      buf.drop (5 + length) =
        [buf.getD (5 + length) 0, buf.getD (5 + length + 1) 0] := by
    rw [List.drop_eq_getElem_cons (by omega),
      List.drop_eq_getElem_cons (by omega),
      List.drop_eq_nil_of_le (by omega), List.getD_eq_getElem _ _ (by omega),
      List.getD_eq_getElem _ _ (by omega)]
  rw [← List.take_append_drop (5 + length) buf, isTail]
  exact absorb_of_crc16 checked

/-- A frame disturbed within sixteen bits keeps its header. -/
theorem IsBurst.header
    {frameType : UInt8}
    {payload pattern : List UInt8}
    (burst : IsBurst (encodeFrame frameType payload) pattern)
    (few : payload.length < 65536)
    (rest : List UInt8) :
    (disturb (encodeFrame frameType payload) pattern ++ rest).getD 0 0 =
        0x4D ∧
      (disturb (encodeFrame frameType payload) pattern ++ rest).getD 1 0 =
        0x43 ∧
      claimedLen (disturb (encodeFrame frameType payload) pattern ++ rest) =
        payload.length := by
  have length := length_disturb burst.sameLength
  rw [length_encodeFrame] at length
  have front :
      ∀ place < 5,
        pattern.getD place 0 = 0 →
          (disturb (encodeFrame frameType payload) pattern ++ rest).getD
              place 0 =
            (encodeFrame frameType payload).getD place 0 := by
    intro place inside spared
    rw [List.getD_append _ _ _ _ (by omega)]
    exact getD_disturb_spared burst.sameLength spared
  refine ⟨front 0 (by decide) burst.sparesMagic.1,
    front 1 (by decide) burst.sparesMagic.2, ?_⟩
  rw [claimedLen, front 3 (by decide) burst.sparesLength.1,
    front 4 (by decide) burst.sparesLength.2]
  exact wordOf_length few

/--
A frame whose type, payload or checksum is disturbed within sixteen bits next to
each other is not decoded, whatever follows it.
-/
theorem decodeFrame_burst
    (frameType : UInt8)
    {payload : List UInt8}
    (few : payload.length < 65536)
    {pattern : List UInt8}
    (burst : IsBurst (encodeFrame frameType payload) pattern)
    (rest : List UInt8) :
    decodeFrame (disturb (encodeFrame frameType payload) pattern ++ rest) =
      .error .crcMismatch := by
  obtain ⟨isFirst, isSecond, claimed⟩ := burst.header few rest
  obtain ⟨first, confined⟩ := burst.confined
  have seven : frameOverhead = 7 := rfl
  have length := length_disturb burst.sameLength
  rw [length_encodeFrame] at length
  have seen :=
    ShiftRegister.absorb_confined feedback_top
      (true_mem_bitsOf burst.disturbs) (Nat.le_refl 16) confined
  rw [← absorb_disturb burst.sameLength
    (absorb_encodeFrame frameType payload)] at seen
  rw [decodeFrame, if_neg (by rw [List.length_append, length, seven]; omega),
    if_neg (by rw [isFirst, isSecond]; simp), claimed,
    if_neg (by rw [List.length_append, length, seven]; omega),
    List.take_append_of_le_length (by omega),
    List.getD_append _ _ _ _ (by omega), List.getD_append _ _ _ _ (by omega)]
  rw [if_pos]
  intro checked
  exact seen (absorb_of_decodeFrame length checked)

/-- Sixteen bits that are turned, from the payload into the checksum. -/
def turnedBurst : List UInt8 :=
  [0, 0, 0, 0, 0, 0, 0, 0xF0, 0xA5, 0x0F]

/-- A burst that reaches from the payload into the checksum. -/
theorem decodeFrame_turned_burst :
    IsBurst (encodeFrame 0x81 [0x10, 0x20, 0x30]) turnedBurst ∧
      decodeFrame
          (disturb (encodeFrame 0x81 [0x10, 0x20, 0x30]) turnedBurst ++
            [0x4D]) =
        .error .crcMismatch := by
  have within :
      ∀ place < 80,
        (bitsOf turnedBurst)[place]? = some true →
          60 ≤ place ∧ place < 60 + 16 := by
    decide +kernel
  have burst :
      IsBurst (encodeFrame 0x81 [0x10, 0x20, 0x30]) turnedBurst := by
    refine
      ⟨?_, ⟨rfl, rfl⟩, ⟨rfl, rfl⟩, ⟨0xF0, by decide, by decide⟩, 60, ?_⟩
    · rw [length_encodeFrame]
      rfl
    intro place isSet
    have bound := (List.getElem?_eq_some_iff.mp isSet).1
    rw [length_bitsOf] at bound
    exact within place bound isSet
  exact ⟨burst, decodeFrame_burst 0x81 (by decide) burst [0x4D]⟩

end FrameIntegrity

end MeshCadet
