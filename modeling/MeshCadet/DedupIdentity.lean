import MeshCadet.FloodFrames
import MeshCadet.TxQueue

namespace MeshCadet

/-!
# What a deduplication key identifies

The receiver parses exactly the well-formed frames, and the key of one is a hash
of its payload type and payload, whatever its route, codes and path.  The key of
a frame that does not parse is a hash of the frame itself, which may read like
the type and payload of a well-formed one.
-/

/-- Bytes of transport codes behind a header byte. -/
def transportCodesLength
    (headerByte : UInt8) :
    Nat :=
  if routeCarriesTransportCodes headerByte then 4 else 0

/-- What the receiver asks of a frame it parses. -/
theorem parseRxFrameHeader_eq_ok
    {headerByte : UInt8}
    {rest : List UInt8}
    {header : RxFrameHeader} :
    parseRxFrameHeader (headerByte :: rest) = .ok header ↔
      ∃ pathLenByte,
        rest[transportCodesLength headerByte]? = some pathLenByte ∧
          (PathLen.mk pathLenByte).isValid = true ∧
          transportCodesLength headerByte + 1 +
              (PathLen.mk pathLenByte).pathBytes ≤
            rest.length ∧
          header =
            { headerByte := headerByte
              routeType := Header.routeType headerByte
              hasTransportCodes := routeCarriesTransportCodes headerByte
              pathLenByte := pathLenByte
              hashSize := (PathLen.mk pathLenByte).hashSize
              hopCount := (PathLen.mk pathLenByte).hopCount
              payloadOff :=
                transportCodesLength headerByte + 2 +
                  (PathLen.mk pathLenByte).pathBytes } := by
  have position :
      (1 + if routeCarriesTransportCodes headerByte then 4 else 0) =
        transportCodesLength headerByte + 1 :=
    Nat.add_comm _ _
  have offset (pathLen : PathLen) :
      transportCodesLength headerByte + 1 + 1 + pathLen.pathBytes =
        transportCodesLength headerByte + 2 + pathLen.pathBytes := by
    omega
  simp only [parseRxFrameHeader, position, List.getElem?_cons_succ, offset]
  cases isByte : rest[transportCodesLength headerByte]? with
  | none =>
      simp
  | some pathLenByte =>
      simp only [Option.some.injEq, exists_eq_left']
      by_cases valid : (PathLen.mk pathLenByte).isValid = true
      · by_cases inside :
            transportCodesLength headerByte + 1 +
              (PathLen.mk pathLenByte).pathBytes ≤ rest.length
        · have long :
              ¬ rest.length + 1 <
                transportCodesLength headerByte + 2 +
                  (PathLen.mk pathLenByte).pathBytes := by
            omega
          simp [valid, long, inside, eq_comm]
        · have short :
              rest.length + 1 <
                transportCodesLength headerByte + 2 +
                  (PathLen.mk pathLenByte).pathBytes := by
            omega
          simp [valid, short, inside]
      · simp [valid]

/-- A well-formed frame, part by part. -/
structure WireFrame where
  headerByte : UInt8
  codes : List UInt8
  pathLen : PathLen
  path : List UInt8
  payload : List UInt8
  codesLength : codes.length = transportCodesLength headerByte
  validPathLen : pathLen.isValid = true
  pathLength : path.length = pathLen.pathBytes

namespace WireFrame

/-- The frame on air. -/
def bytes
    (frame : WireFrame) :
    List UInt8 :=
  frame.headerByte ::
    (frame.codes ++ frame.pathLen.byte :: (frame.path ++ frame.payload))

/-- What kind of payload the frame carries. -/
def payloadType
    (frame : WireFrame) :
    UInt8 :=
  Header.payloadTypeBits frame.headerByte

/-- A well-formed frame parses, and the payload is behind its path. -/
theorem parseRxFrameHeader_bytes
    (frame : WireFrame) :
    ∃ header,
      parseRxFrameHeader frame.bytes = .ok header ∧
        header.headerByte = frame.headerByte ∧
        frame.bytes.drop header.payloadOff = frame.payload := by
  have pathBytes :
      (PathLen.mk frame.pathLen.byte).pathBytes = frame.path.length :=
    frame.pathLength.symm
  refine
    ⟨_,
      parseRxFrameHeader_eq_ok.mpr
        ⟨frame.pathLen.byte, ?_, frame.validPathLen, ?_, rfl⟩,
      rfl, ?_⟩
  · simp [← frame.codesLength]
  · rw [pathBytes, ← frame.codesLength]
    simp only [List.length_append, List.length_cons]
    omega
  · have isSplit :
        frame.bytes =
          (frame.headerByte ::
            (frame.codes ++ frame.pathLen.byte :: frame.path)) ++
              frame.payload := by
      simp [bytes]
    rw [isSplit, List.drop_left']
    rw [pathBytes, ← frame.codesLength]
    simp only [List.length_append, List.length_cons]
    omega

/-- Every frame that parses is well formed. -/
theorem exists_of_parse
    {received : List UInt8}
    {header : RxFrameHeader}
    (parsed : parseRxFrameHeader received = .ok header) :
    ∃ frame : WireFrame, frame.bytes = received := by
  cases received with
  | nil =>
      cases parsed
  | cons headerByte rest =>
      obtain ⟨pathLenByte, isPathLen, valid, inside, -⟩ :=
        parseRxFrameHeader_eq_ok.mp parsed
      obtain ⟨before, isByte⟩ := List.getElem?_eq_some_iff.mp isPathLen
      let behind := rest.drop (transportCodesLength headerByte + 1)
      refine
        ⟨{ headerByte := headerByte
           codes := rest.take (transportCodesLength headerByte)
           pathLen := ⟨pathLenByte⟩
           path := behind.take (PathLen.mk pathLenByte).pathBytes
           payload := behind.drop (PathLen.mk pathLenByte).pathBytes
           codesLength := ?_
           validPathLen := valid
           pathLength := ?_ }, ?_⟩
      · rw [List.length_take, Nat.min_eq_left before.le]
      · rw [List.length_take, List.length_drop]
        omega
      · simp only [bytes, List.take_append_drop, behind]
        rw [← isByte, List.cons_getElem_drop_succ, List.take_append_drop]

/-- The view of a well-formed frame is its payload type and its payload. -/
theorem packetPayloadView_bytes
    (frame : WireFrame) :
    packetPayloadView frame.bytes =
      some (frame.payloadType, frame.payload) := by
  obtain ⟨header, parsed, sameHeader, behind⟩ :=
    frame.parseRxFrameHeader_bytes
  simp only [packetPayloadView, parsed, sameHeader, behind, payloadType]

/-- The key of a well-formed frame hashes its payload type and payload. -/
theorem dedupInput_bytes
    (frame : WireFrame) :
    dedupInput frame.bytes = frame.payloadType :: frame.payload := by
  rw [dedupInput, packetPayloadView_bytes]

/-- The payload type takes four bits. -/
theorem payloadType_le
    (frame : WireFrame) :
    frame.payloadType.toNat ≤ 15 := by
  rw [payloadType, Header.payloadTypeBits, UInt8.toNat_and]
  exact Nat.and_le_right

/-- The header byte of a flood frame reads as one, whatever its type bits. -/
theorem routeType_flood
    (payloadTypeBits : UInt8) :
    routeCarriesTransportCodes ((payloadTypeBits <<< 2) ||| 0x01) =
      false := by
  have isFlood :
      ∀ bits : BitVec 8,
        routeCarriesTransportCodes ((UInt8.ofBitVec bits <<< 2) ||| 0x01) =
          false := by
    decide +kernel
  exact isFlood payloadTypeBits.toBitVec

/-- Four type bits are read back from a flood frame's header byte. -/
theorem payloadTypeBits_flood
    {payloadTypeBits : UInt8}
    (fourBits : payloadTypeBits ≤ 0x0F) :
    Header.payloadTypeBits ((payloadTypeBits <<< 2) ||| 0x01) =
      payloadTypeBits := by
  have readBack :
      ∀ bits : BitVec 8,
        UInt8.ofBitVec bits ≤ 0x0F →
          Header.payloadTypeBits ((UInt8.ofBitVec bits <<< 2) ||| 0x01) =
            UInt8.ofBitVec bits := by
    decide +kernel
  exact readBack payloadTypeBits.toBitVec fourBits

/-- The shortest frame with these payload type bits and payload. -/
def shortest
    (payloadTypeBits : UInt8)
    (payload : List UInt8) :
    WireFrame :=
  { headerByte := (payloadTypeBits <<< 2) ||| 0x01
    codes := []
    pathLen := ⟨0⟩
    path := []
    payload := payload
    codesLength := by
      rw [transportCodesLength, routeType_flood]
      rfl
    validPathLen := by decide
    pathLength := by decide }

end WireFrame

/--
No parsed frame of the receive buffer shares its key input with this unparsed
one: it is empty, or its first byte is not a bare payload type, or it fills the
buffer.
-/
def ReadsLikeNoFrame
    (received : List UInt8) :
    Prop :=
  received = [] ∨ 0x0F < received.headD 0 ∨ frameBuf ≤ received.length

/--
The key hashes one input a frame.  Between frames that parse, which are the
well-formed ones, the inputs are equal exactly when payload type and payload
are.  A frame that does not parse shares the input of no frame that does exactly
when it is empty, starts with no bare payload type or fills the buffer.
-/
theorem dedup_identity
    (crypto : Crypto) :
    (∀ received,
      packetDedupKey crypto received =
        crypto.leadingHash (dedupInput received)) ∧
      (∀ received,
        (∃ header, parseRxFrameHeader received = .ok header) ↔
          ∃ frame : WireFrame, frame.bytes = received) ∧
      (∀ first second : WireFrame,
        dedupInput first.bytes = dedupInput second.bytes ↔
          first.payloadType = second.payloadType ∧
            first.payload = second.payload) ∧
      ∀ received,
        (∀ header, parseRxFrameHeader received ≠ .ok header) →
          ((∀ frame : WireFrame,
            frame.bytes.length ≤ frameBuf →
              dedupInput frame.bytes ≠ dedupInput received) ↔
            ReadsLikeNoFrame received) := by
  refine ⟨packetDedupKey_eq crypto, ?_, ?_, ?_⟩
  · intro received
    constructor
    · rintro ⟨header, parsed⟩
      exact WireFrame.exists_of_parse parsed
    · rintro ⟨frame, rfl⟩
      obtain ⟨header, parsed, -⟩ := frame.parseRxFrameHeader_bytes
      exact ⟨header, parsed⟩
  · intro first second
    rw [first.dedupInput_bytes, second.dedupInput_bytes, List.cons.injEq]
  · intro received unparsed
    have isWhole : dedupInput received = received := by
      cases parsed : parseRxFrameHeader received with
      | ok header =>
          exact absurd parsed (unparsed header)
      | error reason =>
          simp only [dedupInput, packetPayloadView, parsed]
    rw [isWhole]
    constructor
    · intro apart
      by_contra readsLike
      simp only [ReadsLikeNoFrame, not_or, Nat.not_le] at readsLike
      obtain ⟨notEmpty, bareType, short⟩ := readsLike
      obtain ⟨firstByte, rest, rfl⟩ := List.exists_cons_of_ne_nil notEmpty
      have fourBits : firstByte ≤ 0x0F := UInt8.not_lt.mp bareType
      apply apart (WireFrame.shortest firstByte rest)
      · have length :
            (WireFrame.shortest firstByte rest).bytes.length =
              rest.length + 2 :=
          rfl
        rw [List.length_cons] at short
        omega
      · rw [WireFrame.dedupInput_bytes, WireFrame.payloadType]
        simp only [WireFrame.shortest]
        rw [WireFrame.payloadTypeBits_flood fourBits]
    · rintro apart frame fits same
      rw [frame.dedupInput_bytes] at same
      subst same
      rcases apart with isEmpty | highByte | long
      · cases isEmpty
      · have fourBits := frame.payloadType_le
        rw [List.headD_cons, UInt8.lt_iff_toNat_lt] at highByte
        simp at highByte
        omega
      · simp [WireFrame.bytes] at fits long
        omega

/-- A text message to the contact 0xC1, as a zero-hop flood frame. -/
def realMessageFrame : List UInt8 :=
  [0x09, 0x40, 0xC1, 0x0B, 0x5E, 0x44]

/-- The same type and payload without a header in front. -/
def forgedShortFrame : List UInt8 :=
  [0x02, 0xC1, 0x0B, 0x5E, 0x44]

/-- A frame that does not parse has the key of one that does. -/
theorem forged_frame_shares_key :
    ¬ ∀ first second,
      (∃ header, parseRxFrameHeader first = .ok header) →
      (∀ header, parseRxFrameHeader second ≠ .ok header) →
        dedupInput first ≠ dedupInput second := by
  intro apart
  have unparsed :
      parseRxFrameHeader forgedShortFrame =
        .error (.invalidPathLen 0xC1) := by
    decide +kernel
  apply apart realMessageFrame forgedShortFrame ⟨_, by rfl⟩
  · intro header parsed
    cases unparsed.symm.trans parsed
  · decide +kernel

end MeshCadet
