import MeshCadet.DedupIdentity
import MeshCadet.RoomFrameBounds

namespace MeshCadet

/-!
# Layouts of flood frames

Three writers lay a flood frame out in a buffer: one around a payload that is in
the buffer already, one with the codes of a region and one without.  They put the
same bytes there, and the receiver finds the type, the path and the payload in
them again.
-/

open BufferFills
open Outcome

namespace Header

/-- The payload type in a header byte. -/
def payloadType
    (header : UInt8) :
    Option PayloadType :=
  match (payloadTypeBits header).toNat with
  | 0x00 => some .req
  | 0x01 => some .response
  | 0x02 => some .txtMsg
  | 0x03 => some .ack
  | 0x04 => some .advert
  | 0x05 => some .grpTxt
  | 0x06 => some .grpData
  | 0x07 => some .anonReq
  | 0x08 => some .path
  | 0x09 => some .trace
  | 0x0A => some .multipart
  | 0x0B => some .control
  | 0x0F => some .rawCustom
  | _ => none

/-- The payload type of a new header is read back. -/
theorem payloadType_new
    (route : RouteType)
    (payloadType : PayloadType) :
    Header.payloadType (new route payloadType) = some payloadType := by
  rw [Header.payloadType, payloadTypeBits_new]
  cases payloadType <;> rfl

end Header

section Writers

variable (crypto : Crypto)

/-- Write a frame with the codes of a region into a buffer. -/
def writeScopedFloodFrame
    (payloadType : PayloadType)
    (key : Vector UInt8 16)
    (pathLen : PathLen)
    (path payload : List UInt8) :
    Writer Empty :=
  fun out =>
    let pathBytes := pathLen.pathBytes
    if path.length ≠ pathBytes then
      .panicked
    else do
      let codes := scopedTransportCodes crypto key payloadType.toU8 payload
      let out ← write out 0 [Header.new .transportFlood payloadType]
      let out ← write out 1 codes.toList
      let out ← write out 5 [pathLen.byte]
      let hops ← slice path 0 pathBytes
      let out ← write out 6 hops
      let out ← write out (6 + pathBytes) payload
      pure (out, 6 + pathBytes + payload.length)

/-- Write a frame without codes into a buffer. -/
def writeUnscopedFloodFrame
    (payloadType : PayloadType)
    (pathLen : PathLen)
    (path payload : List UInt8) :
    Writer Empty :=
  fun out =>
    let pathBytes := pathLen.pathBytes
    if path.length ≠ pathBytes then
      .panicked
    else do
      let out ← write out 0 [Header.new .flood payloadType]
      let out ← write out 1 [pathLen.byte]
      let hops ← slice path 0 pathBytes
      let out ← write out 2 hops
      let payloadOff := 2 + pathBytes
      let out ← write out payloadOff payload
      pure (out, 2 + pathBytes + payload.length)

/-- The writer for a scope. -/
def writeFloodFrame
    (scope : Option (Vector UInt8 16))
    (payloadType : PayloadType)
    (pathLen : PathLen)
    (path payload : List UInt8) :
    Writer Empty :=
  match scope with
  | none => writeUnscopedFloodFrame payloadType pathLen path payload
  | some key =>
      writeScopedFloodFrame crypto payloadType key pathLen path payload

/-- The header, the codes of the scope and the path length of a frame. -/
def floodFront
    (scope : Option (Vector UInt8 16))
    (payloadType : PayloadType)
    (pathLen : PathLen)
    (payload : List UInt8) :
    List UInt8 :=
  match scope with
  | none => [Header.new .flood payloadType, pathLen.byte]
  | some key =>
      Header.new .transportFlood payloadType ::
        (scopedTransportCodes crypto key payloadType.toU8 payload).toList ++
          [pathLen.byte]

/-- A flood frame with its path. -/
def floodFrame
    (scope : Option (Vector UInt8 16))
    (payloadType : PayloadType)
    (pathLen : PathLen)
    (path payload : List UInt8) :
    List UInt8 :=
  floodFront crypto scope payloadType pathLen payload ++ path ++ payload

/-- The first transport code of a frame. -/
def transportCode0
    (frame : List UInt8) :
    Nat :=
  (frame.getD 1 0).toNat + 256 * (frame.getD 2 0).toNat

variable {pathLen : PathLen} {path : List UInt8}

/-- The writer for a scope writes the frame. -/
theorem writeFloodFrame_fills
    (scope : Option (Vector UInt8 16))
    (payloadType : PayloadType)
    (isPath : path.length = pathLen.pathBytes)
    (payload : List UInt8) :
    Fills
      (writeFloodFrame crypto scope payloadType pathLen path payload)
      (floodFrame crypto scope payloadType pathLen path payload) := by
  have hops :
      (slice path 0 pathLen.pathBytes : Outcome Empty (List UInt8)) =
        .value path := by
    rw [slice_eq (Nat.zero_le _) isPath.ge, ← isPath, Nat.sub_zero,
      List.drop_zero, List.take_length]
  have same : ¬path.length ≠ pathLen.pathBytes := fun differs =>
    differs isPath
  cases scope with
  | none =>
      have isFrame :
          floodFrame crypto none payloadType pathLen path payload =
            [Header.new .flood payloadType] ++
              ([pathLen.byte] ++ (path ++ (payload ++ []))) := by
        simp [floodFrame, floodFront]
      rw [isFrame]
      unfold writeFloodFrame writeUnscopedFloodFrame
      simp only [if_neg same, hops, value_bind]
      refine (FillsBehind.write rfl (.write rfl (.write rfl
        (.write ?_ (.done ?_))))).fills
      · simp [isPath]
        omega
      · simp [isPath]
        omega
  | some key =>
      have isFrame :
          floodFrame crypto (some key) payloadType pathLen path payload =
            [Header.new .transportFlood payloadType] ++
              ((scopedTransportCodes crypto key payloadType.toU8
                  payload).toList ++
                ([pathLen.byte] ++ (path ++ (payload ++ [])))) := by
        simp [floodFrame, floodFront]
      rw [isFrame]
      unfold writeFloodFrame writeScopedFloodFrame
      simp only [if_neg same, hops, value_bind]
      refine (FillsBehind.write rfl (.write rfl (.write ?_ (.write ?_
        (.write ?_ (.done ?_)))))).fills
      · simp
      · simp
      · simp [isPath]
        omega
      · simp [isPath]
        omega

/-- A flood frame is well formed, with its path and its payload. -/
theorem exists_wireFrame
    (scope : Option (Vector UInt8 16))
    (payloadType : PayloadType)
    (valid : pathLen.isValid = true)
    (isPath : path.length = pathLen.pathBytes)
    (payload : List UInt8) :
    ∃ frame : WireFrame,
      frame.bytes =
          floodFrame crypto scope payloadType pathLen path payload ∧
        Header.payloadType frame.headerByte = some payloadType ∧
        frame.pathLen = pathLen ∧
        frame.path = path ∧
        frame.payload = payload := by
  cases scope with
  | none =>
      refine
        ⟨{ headerByte := Header.new .flood payloadType
           codes := []
           pathLen := pathLen
           path := path
           payload := payload
           codesLength := by
             simp [transportCodesLength, routeCarriesTransportCodes]
           validPathLen := valid
           pathLength := isPath },
          ?_, Header.payloadType_new _ _, rfl, rfl, rfl⟩
      simp [WireFrame.bytes, floodFrame, floodFront]
  | some key =>
      refine
        ⟨{ headerByte := Header.new .transportFlood payloadType
           codes :=
             (scopedTransportCodes crypto key payloadType.toU8
               payload).toList
           pathLen := pathLen
           path := path
           payload := payload
           codesLength := by
             simp [transportCodesLength, routeCarriesTransportCodes]
           validPathLen := valid
           pathLength := isPath },
          ?_, Header.payloadType_new _ _, rfl, rfl, rfl⟩
      simp [WireFrame.bytes, floodFrame, floodFront]

/-- The path of a well-formed frame is found. -/
theorem pathField_bytes
    (frame : WireFrame)
    {header : RxFrameHeader}
    (parsed : parseRxFrameHeader frame.bytes = .ok header) :
    header.pathField frame.bytes = frame.path ∧
      frame.bytes.drop header.payloadOff = frame.payload ∧
      header.headerByte = frame.headerByte ∧
      header.pathLenByte = frame.pathLen.byte := by
  have front :
      frame.bytes =
        (frame.headerByte :: (frame.codes ++ [frame.pathLen.byte])) ++
          (frame.path ++ frame.payload) := by
    simp [WireFrame.bytes]
  have frontLength :
      (frame.headerByte :: (frame.codes ++ [frame.pathLen.byte])).length =
        transportCodesLength frame.headerByte + 2 := by
    simp [frame.codesLength]
  obtain ⟨pathLenByte, isByte, -, -, rfl⟩ :=
    parseRxFrameHeader_eq_ok.mp parsed
  have sameByte : pathLenByte = frame.pathLen.byte := by
    rw [← frame.codesLength, List.getElem?_append_right (Nat.le_refl _),
      Nat.sub_self] at isByte
    exact (Option.some.inj isByte).symm
  subst sameByte
  have pathBytes :
      (PathLen.mk frame.pathLen.byte).pathBytes = frame.path.length :=
    frame.pathLength.symm
  have hops :
      (PathLen.mk frame.pathLen.byte).hopCount.toNat *
          (PathLen.mk frame.pathLen.byte).hashSize.toNat =
        frame.path.length := pathBytes
  refine ⟨?_, ?_, rfl, rfl⟩
  · rw [RxFrameHeader.pathField]
    dsimp only
    rw [hops, pathBytes, Nat.add_sub_cancel, ← frontLength, front,
      List.take_length_add_append, List.drop_left, List.take_left]
  · dsimp only
    rw [pathBytes, ← frontLength, front, ← List.append_assoc,
      ← List.length_append, List.drop_left]

/-- The reserved codes are not sent. -/
theorem remapTransportCode_reserved
    (raw : Vector UInt8 2) :
    (remapTransportCode raw).toList ≠ [0x00, 0x00] ∧
      (remapTransportCode raw).toList ≠ [0xFF, 0xFF] := by
  have asArray
      (low high : UInt8)
      (same : raw.toList = [low, high]) :
      raw = #v[low, high] := by
    apply Vector.toList_inj.mp
    exact same
  rw [remapTransportCode]
  split
  case isTrue =>
    decide
  case isFalse notZero =>
    split
    case isTrue =>
      decide
    case isFalse notOnes =>
      exact ⟨fun same => notZero (asArray _ _ same),
        fun same => notOnes (asArray _ _ same)⟩

/-- The two bytes of a code. -/
theorem exists_two
    (code : Vector UInt8 2) :
    ∃ low high, code = #v[low, high] := by
  refine ⟨code[0], code[1], Vector.ext fun position before => ?_⟩
  rcases position with _ | _ | position
  · rfl
  · rfl
  · omega

/-- The first code of a scoped frame is not a reserved one. -/
theorem transportCode0_floodFrame
    (key : Vector UInt8 16)
    (payloadType : PayloadType)
    (payload : List UInt8) :
    let frame :=
      floodFrame crypto (some key) payloadType pathLen path payload
    transportCode0 frame ≠ 0x0000 ∧ transportCode0 frame ≠ 0xFFFF := by
  obtain ⟨notZero, notOnes⟩ :=
    remapTransportCode_reserved
      (crypto.hmacSha256_2 key.toList (payloadType.toU8 :: payload))
  obtain ⟨low, high, isCode⟩ :=
    exists_two
      (remapTransportCode
        (crypto.hmacSha256_2 key.toList (payloadType.toU8 :: payload)))
  have isCodes :
      (scopedTransportCodes crypto key payloadType.toU8 payload).toList =
        [low, high, 0, 0] := by
    rw [scopedTransportCodes, isCode]
    rfl
  have isFirst :
      (floodFrame crypto (some key) payloadType pathLen path
        payload).getD 1 0 = low := by
    rw [floodFrame, floodFront, isCodes]
    rfl
  have isSecond :
      (floodFrame crypto (some key) payloadType pathLen path
        payload).getD 2 0 = high := by
    rw [floodFrame, floodFront, isCodes]
    rfl
  have codeList : #v[low, high].toList = [low, high] := rfl
  rw [isCode, codeList] at notZero notOnes
  have lowFew := low.toNat_lt
  have highFew := high.toNat_lt
  simp only [transportCode0, isFirst, isSecond]
  constructor
  · intro zero
    have isLow : low = 0 := UInt8.toNat_inj.mp (by
      rw [UInt8.toNat_zero]
      omega)
    have isHigh : high = 0 := UInt8.toNat_inj.mp (by
      rw [UInt8.toNat_zero]
      omega)
    exact notZero (by rw [isLow, isHigh])
  · intro ones
    have isLow : low = 0xFF :=
      UInt8.toNat_inj.mp (show low.toNat = 255 by omega)
    have isHigh : high = 0xFF :=
      UInt8.toNat_inj.mp (show high.toNat = 255 by omega)
    exact notOnes (by rw [isLow, isHigh])

/--
What holds of a flood frame: the writer for its scope puts these bytes into every
buffer that they fit, and so does the assembly around a payload in the buffer if
there is no path; the receiver finds the type, the path and the payload in them;
the first code is not a reserved one.
-/
structure FloodLayout
    (scope : Option (Vector UInt8 16))
    (payloadType : PayloadType)
    (pathLen : PathLen)
    (path payload : List UInt8) :
    Prop where
  written :
    Fills
      (writeFloodFrame crypto scope payloadType pathLen path payload)
      (floodFrame crypto scope payloadType pathLen path payload)
  assembled :
    path = [] →
      ∀ first second rest,
        (floodFrame crypto scope payloadType pathLen path payload).length ≤
            ([first, second] ++ payload ++ rest).length →
          assembleFloodFrameInto crypto scope payloadType pathLen
              payload.length ([first, second] ++ payload ++ rest) =
            .value
              (floodFrame crypto scope payloadType pathLen path payload ++
                  ([first, second] ++ payload ++ rest).drop
                    (floodFrame crypto scope payloadType pathLen path
                      payload).length,
                (floodFrame crypto scope payloadType pathLen path
                  payload).length)
  parsed :
    ∃ header,
      parseRxFrameHeader
          (floodFrame crypto scope payloadType pathLen path payload) =
          .ok header ∧
        Header.payloadType header.headerByte = some payloadType ∧
        header.pathLenByte = pathLen.byte ∧
        header.pathField
            (floodFrame crypto scope payloadType pathLen path payload) =
          path ∧
        (floodFrame crypto scope payloadType pathLen path payload).drop
            header.payloadOff =
          payload
  notReserved :
    scope ≠ none →
      transportCode0
          (floodFrame crypto scope payloadType pathLen path payload) ≠
        0x0000 ∧
      transportCode0
          (floodFrame crypto scope payloadType pathLen path payload) ≠
        0xFFFF

/-- Assembling around a payload that is in the buffer writes the same frame. -/
theorem assembleFloodFrameInto_floodFrame
    (scope : Option (Vector UInt8 16))
    (payloadType : PayloadType)
    (payload : List UInt8)
    (first second : UInt8)
    (rest : List UInt8)
    (fits :
      (floodFrame crypto scope payloadType pathLen [] payload).length ≤
        ([first, second] ++ payload ++ rest).length) :
    assembleFloodFrameInto crypto scope payloadType pathLen payload.length
        ([first, second] ++ payload ++ rest) =
      .value
        (floodFrame crypto scope payloadType pathLen [] payload ++
            ([first, second] ++ payload ++ rest).drop
              (floodFrame crypto scope payloadType pathLen []
                payload).length,
          (floodFrame crypto scope payloadType pathLen []
            payload).length) := by
  have same :
      assembleFloodFrame crypto scope payloadType pathLen payload =
        floodFrame crypto scope payloadType pathLen [] payload := by
    cases scope <;> simp [assembleFloodFrame, floodFrame, floodFront]
  cases scope with
  | none =>
      have length :
          (floodFrame crypto none payloadType pathLen [] payload).length =
            ([first, second] ++ payload).length := by
        simp [floodFrame, floodFront]
      rw [assembleFloodFrameInto_none, same, length, List.drop_left]
  | some key =>
      have length :
          (floodFrame crypto (some key) payloadType pathLen []
            payload).length =
            ([first, second] ++ payload).length + 4 := by
        simp [floodFrame, floodFront]
        omega
      rw [length, @List.length_append _ ([first, second] ++ payload) rest]
        at fits
      rw [assembleFloodFrameInto_some, if_neg (by omega), same, length,
        ← List.drop_drop, List.drop_left]

/-- Every flood frame with a valid path is laid out so. -/
theorem flood_frames_agree
    (scope : Option (Vector UInt8 16))
    (payloadType : PayloadType)
    {pathLen : PathLen}
    {path : List UInt8}
    (valid : pathLen.isValid = true)
    (isPath : path.length = pathLen.pathBytes)
    (payload : List UInt8) :
    FloodLayout crypto scope payloadType pathLen path payload := by
  refine
    ⟨writeFloodFrame_fills crypto scope payloadType isPath payload,
      ?_, ?_, ?_⟩
  · rintro rfl first second rest fits
    exact assembleFloodFrameInto_floodFrame crypto scope payloadType payload
      first second rest fits
  · obtain ⟨frame, isFrame, isType, rfl, rfl, rfl⟩ :=
      exists_wireFrame crypto scope payloadType valid isPath payload
    obtain ⟨header, parsed, -⟩ := frame.parseRxFrameHeader_bytes
    obtain ⟨found, behind, sameHeader, sameByte⟩ :=
      pathField_bytes frame parsed
    rw [← isFrame]
    exact
      ⟨header, parsed, by rw [sameHeader, isType], sameByte, found, behind⟩
  · intro hasScope
    cases scope with
    | none =>
        exact absurd rfl hasScope
    | some key =>
        exact transportCode0_floodFrame crypto key payloadType payload

/-- A scoped frame over two hops with two-byte hashes. -/
theorem flood_frames_agree_two_hops :
    FloodLayout (CryptoRecord.crypto ⟨[], [], [], []⟩)
      (some (Vector.replicate 16 7)) .grpTxt ⟨0x42⟩ [1, 2, 3, 4]
      [0x68, 0x69] :=
  flood_frames_agree _ _ _ (by decide) (by decide) _

end Writers

end MeshCadet
