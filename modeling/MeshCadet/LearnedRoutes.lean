import MeshCadet.RoomSession

namespace MeshCadet

/-!
# Learned routes

The path of an accepted path return is stored with its length in bytes only.
When it is written out again, every byte counts as the hash of one hop.
-/

/-- The emitted prefix has the path field of the path return. -/
def CarriesPath
    (emitted : Option (List UInt8))
    (returned : ReturnPath) :
    Prop :=
  ∃ framePrefix header,
    emitted = some framePrefix ∧
      parseRxFrameHeader framePrefix = .ok header ∧
      header.hashSize = (PathLen.mk returned.pathLenByte).hashSize ∧
      header.hopCount = (PathLen.mk returned.pathLenByte).hopCount ∧
      header.pathField framePrefix =
        returned.path.toList.take returned.pathByteCount

namespace PersistedRoomSession

/-- A login by path return teaches its path. -/
theorem outPath_of_loginPathReturn
    {crypto : Crypto}
    {secret : Key}
    {payload : List UInt8}
    {destHash srcHash : UInt8}
    {returned : ReturnPath}
    (returns :
      decodePathReturn crypto secret payload =
        .ok (destHash, srcHash, returned))
    {outcome : RoomLoginOutcome}
    (login : decodeLoginPathReturn crypto secret payload = .ok outcome) :
    outcome.outPath = some (returned.path, returned.pathByteCount) := by
  simp only [decodeLoginPathReturn, returns] at login
  split at login
  · split at login <;> cases login
    rfl
  · cases login

/-- The path a login teaches fits its field. -/
theorem pathByteCount_of_loginPathReturn
    {crypto : Crypto}
    {secret : Key}
    {payload : List UInt8}
    {outcome : RoomLoginOutcome}
    (login : decodeLoginPathReturn crypto secret payload = .ok outcome)
    {path : Vector UInt8 maxPathSize}
    {pathByteCount : Nat}
    (teaches : outcome.outPath = some (path, pathByteCount)) :
    pathByteCount ≤ maxPathSize := by
  cases returns : decodePathReturn crypto secret payload with
  | error error => simp [decodeLoginPathReturn, returns] at login
  | ok decoded =>
      obtain ⟨destHash, srcHash, returned⟩ := decoded
      have taught := outPath_of_loginPathReturn returns login
      rw [teaches] at taught
      cases taught
      obtain ⟨isValid, length⟩ := decodePathReturn_ok returns
      rw [length]
      simp only [PathLen.isValid, Bool.and_eq_true,
        decide_eq_true_eq] at isValid
      exact isValid.2

/-- The route learned from a path of up to 64 bytes is that path. -/
theorem route_applyLoginOutcome
    (session : PersistedRoomSession)
    {outcome : RoomLoginOutcome}
    {path : Vector UInt8 maxPathSize}
    {pathByteCount : Nat}
    (teaches : outcome.outPath = some (path, pathByteCount))
    (fits : pathByteCount ≤ maxPathSize) :
    (session.applyLoginOutcome outcome).route =
      path.toList.take pathByteCount := by
  have few : min pathByteCount 255 < 256 := by
    omega
  have length :
      (UInt8.ofNat (min pathByteCount 255)).toNat = pathByteCount := by
    rw [UInt8.toNat_ofNat_of_lt' few]
    simp only [maxPathSize] at fits
    omega
  simp [applyLoginOutcome, teaches, route, length]

/--
The route that an accepted path return taught is emitted unchanged exactly when
its hashes are one byte long.
-/
theorem learnedRoute_unchanged_iff
    {crypto : Crypto}
    {secret : Key}
    {payload : List UInt8}
    {destHash srcHash : UInt8}
    {returned : ReturnPath}
    (returns :
      decodePathReturn crypto secret payload =
        .ok (destHash, srcHash, returned))
    {outcome : RoomLoginOutcome}
    (login : decodeLoginPathReturn crypto secret payload = .ok outcome)
    (session : PersistedRoomSession)
    (payloadType : PayloadType) :
    CarriesPath
        (encodeRoomDirectPrefix payloadType
          (session.applyLoginOutcome outcome).route)
        returned ↔
      (PathLen.mk returned.pathLenByte).hashSize = 1 := by
  obtain ⟨-, byteCount⟩ := decodePathReturn_ok returns
  have teaches := outPath_of_loginPathReturn returns login
  have fits : returned.pathByteCount ≤ maxPathSize :=
    pathByteCount_of_loginPathReturn login teaches
  have routeIs := session.route_applyLoginOutcome teaches fits
  have routeLength :
      (session.applyLoginOutcome outcome).route.length =
        returned.pathByteCount := by
    rw [routeIs]
    simp [Nat.min_eq_left fits]
  constructor
  · rintro ⟨framePrefix, header, emitted, parsed, sameSize, -, -⟩
    rcases Nat.lt_or_ge 63 returned.pathByteCount with long | short
    · rw [encodeRoomDirectPrefix_long payloadType (by omega)] at emitted
      cases emitted
    · have notLong :
          (session.applyLoginOutcome outcome).route.length ≤ 63 := by
        omega
      obtain ⟨written, isParsed, oneByte, -, -⟩ :=
        parse_directPrefix payloadType notLong
      rw [encodeRoomDirectPrefix_short payloadType notLong,
        Option.some_inj] at emitted
      rw [← emitted, isParsed] at parsed
      cases parsed
      rw [← sameSize, oneByte]
  · intro oneByte
    have hops :
        returned.pathByteCount =
          (PathLen.mk returned.pathLenByte).hopCount.toNat := by
      rw [byteCount, PathLen.pathBytes, oneByte]
      exact Nat.mul_one _
    have few := PathLen.hopCount_toNat ⟨returned.pathLenByte⟩
    have notLong :
        (session.applyLoginOutcome outcome).route.length ≤ 63 := by
      omega
    obtain ⟨written, isParsed, isOne, count, field⟩ :=
      parse_directPrefix payloadType notLong
    refine ⟨_, written, encodeRoomDirectPrefix_short payloadType notLong,
      isParsed, isOne.trans oneByte.symm, ?_, field.trans routeIs⟩
    rw [count, routeLength, hops]
    simp

/-- The secret shared with a room server. -/
def serverSecret : Key :=
  Vector.ofFn fun index : Fin 32 => UInt8.ofNat index.val

/-- Two path returns with a login reply, as the server encrypts them. -/
def loginReplies : CryptoRecord :=
  { ciphers :=
      [(Crypto.aesKey serverSecret,
          #v[0x41, 0xAA, 0xBB, 0x01, 0x01, 0x02, 0x03, 0x04,
            0x00, 0x00, 0x02, 0x02, 0x05, 0x06, 0x07, 0x08],
          #v[0x5B, 0x89, 0x7F, 0xC2, 0xC6, 0xEA, 0x61, 0x19,
            0x5B, 0xDD, 0x1D, 0xB5, 0x6A, 0x4F, 0xF1, 0xAC]),
        (Crypto.aesKey serverSecret,
          #v[0x02, 0xAA, 0xBB, 0x01, 0x01, 0x02, 0x03, 0x04,
            0x00, 0x00, 0x02, 0x02, 0x05, 0x06, 0x07, 0x08],
          #v[0x5A, 0x33, 0x64, 0x21, 0xE8, 0xA2, 0xEB, 0x1D,
            0x0D, 0x72, 0x0E, 0x1A, 0x92, 0xC3, 0x45, 0x9A]),
        (Crypto.aesKey serverSecret,
          #v[0x01, 0x00, 0x00, 0x00, 0x00, 0x00, 0x00, 0x00,
            0x00, 0x00, 0x00, 0x00, 0x00, 0x00, 0x00, 0x00],
          #v[0xE3, 0x7C, 0xD3, 0x63, 0xDD, 0x7C, 0x87, 0xA0,
            0x9A, 0xFF, 0x0E, 0x3E, 0x60, 0xE0, 0x9C, 0x82])]
    codes :=
      [(serverSecret.toList,
          [0x5B, 0x89, 0x7F, 0xC2, 0xC6, 0xEA, 0x61, 0x19,
            0x5B, 0xDD, 0x1D, 0xB5, 0x6A, 0x4F, 0xF1, 0xAC,
            0xE3, 0x7C, 0xD3, 0x63, 0xDD, 0x7C, 0x87, 0xA0,
            0x9A, 0xFF, 0x0E, 0x3E, 0x60, 0xE0, 0x9C, 0x82],
          #v[0xDD, 0x67, 0x63, 0xF4, 0x72, 0x1F, 0xD5, 0x6F,
            0xFF, 0x66, 0xB8, 0x16, 0x86, 0x80, 0x90, 0x92,
            0x09, 0x0D, 0x92, 0x73, 0x67, 0xFA, 0xEC, 0xE8,
            0xAD, 0x6C, 0x04, 0x72, 0xF1, 0x84, 0xFB, 0x16]),
        (serverSecret.toList,
          [0x5A, 0x33, 0x64, 0x21, 0xE8, 0xA2, 0xEB, 0x1D,
            0x0D, 0x72, 0x0E, 0x1A, 0x92, 0xC3, 0x45, 0x9A,
            0xE3, 0x7C, 0xD3, 0x63, 0xDD, 0x7C, 0x87, 0xA0,
            0x9A, 0xFF, 0x0E, 0x3E, 0x60, 0xE0, 0x9C, 0x82],
          #v[0xE1, 0x96, 0x0E, 0xAB, 0xE3, 0x5D, 0x66, 0xDE,
            0x14, 0x31, 0xF5, 0xB7, 0xB5, 0x90, 0xBC, 0x8B,
            0x88, 0xD6, 0x41, 0xC6, 0x2E, 0x10, 0xFE, 0xA6,
            0xEE, 0xD8, 0x38, 0x28, 0x38, 0x5F, 0xCB, 0x94])]
    digests := []
    agreements := [] }

/-- The payload of a path return with the given first block and code. -/
def loginReplyPayload
    (code firstBlock : List UInt8) :
    List UInt8 :=
  [0x11, 0x22] ++ code ++ firstBlock ++
    [0xE3, 0x7C, 0xD3, 0x63, 0xDD, 0x7C, 0x87, 0xA0,
      0x9A, 0xFF, 0x0E, 0x3E, 0x60, 0xE0, 0x9C, 0x82]

/-- A reply over one hop whose hash has two bytes. -/
def twoByteHashReply : List UInt8 :=
  loginReplyPayload [0xDD, 0x67]
    [0x5B, 0x89, 0x7F, 0xC2, 0xC6, 0xEA, 0x61, 0x19,
      0x5B, 0xDD, 0x1D, 0xB5, 0x6A, 0x4F, 0xF1, 0xAC]

/-- A reply over two hops whose hashes have one byte. -/
def oneByteHashReply : List UInt8 :=
  loginReplyPayload [0xE1, 0x96]
    [0x5A, 0x33, 0x64, 0x21, 0xE8, 0xA2, 0xEB, 0x1D,
      0x0D, 0x72, 0x0E, 0x1A, 0x92, 0xC3, 0x45, 0x9A]

/-- The path return both replies decode to, but for the length byte. -/
def loginReplyPath
    (pathLenByte : UInt8) :
    ReturnPath :=
  { pathLenByte := pathLenByte
    path := Bytes.zeroPadded maxPathSize [0xAA, 0xBB]
    pathByteCount := 2
    extra :=
      .response
        #v[0x01, 0x02, 0x03, 0x04, 0x00, 0x00, 0x02, 0x02, 0x05, 0x06,
          0x07, 0x08, 0x01] }

/-- What both replies teach. -/
def loginReplyOutcome : RoomLoginOutcome :=
  { permissions := .readWrite
    outPath := some (Bytes.zeroPadded maxPathSize [0xAA, 0xBB], 2)
    serverTs := 0x04030201 }

/-- The route over one-byte hashes is emitted as it was learned. -/
theorem learnedRoute_unchanged_oneByte :
    CarriesPath
        (encodeRoomDirectPrefix .req
          (empty.applyLoginOutcome loginReplyOutcome).route)
        (loginReplyPath 0x02) ↔
      (PathLen.mk 0x02).hashSize = 1 := by
  have returns :
      decodePathReturn loginReplies.crypto serverSecret
          oneByteHashReply =
        .ok (0x11, 0x22, loginReplyPath 0x02) := by
    decide +kernel
  have login :
      decodeLoginPathReturn loginReplies.crypto serverSecret
          oneByteHashReply =
        .ok loginReplyOutcome := by
    decide +kernel
  exact learnedRoute_unchanged_iff returns login empty .req

/-- One hop with a two-byte hash is emitted as two hops. -/
theorem learnedRoute_twoByte_changed :
    decodePathReturn loginReplies.crypto serverSecret twoByteHashReply =
        .ok (0x11, 0x22, loginReplyPath 0x41) ∧
      decodeLoginPathReturn loginReplies.crypto serverSecret
          twoByteHashReply =
        .ok loginReplyOutcome ∧
      encodeRoomDirectPrefix .req
          (empty.applyLoginOutcome loginReplyOutcome).route =
        some [0x02, 0x02, 0xAA, 0xBB] ∧
      ¬ CarriesPath
        (encodeRoomDirectPrefix .req
          (empty.applyLoginOutcome loginReplyOutcome).route)
        (loginReplyPath 0x41) := by
  have emitted :
      encodeRoomDirectPrefix .req
          (empty.applyLoginOutcome loginReplyOutcome).route =
        some [0x02, 0x02, 0xAA, 0xBB] := by
    decide +kernel
  refine ⟨by decide +kernel, by decide +kernel, emitted, ?_⟩
  rintro ⟨framePrefix, header, isPrefix, parsed, sameSize, -, -⟩
  rw [emitted, Option.some_inj] at isPrefix
  subst isPrefix
  have parsedSize :
      (parseRxFrameHeader [0x02, 0x02, 0xAA, 0xBB]).map
          RxFrameHeader.hashSize =
        .ok 1 := by
    decide +kernel
  rw [parsed] at parsedSize
  cases parsedSize.symm.trans (congrArg Except.ok sameSize)

end PersistedRoomSession

end MeshCadet
