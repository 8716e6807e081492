import MeshCadet.RoomCodec

namespace MeshCadet

/-!
# Room sessions

What a client learns about a room server: its permission, how far it has read,
and the route to it.  A flood login is answered by a path return, whose path
becomes the route of the frames sent straight to the server.
-/

/-- Errors of a room session. -/
inductive RoomSessionError where
  | codec (error : CodecError)
  | room (error : RoomCodecError)
  | notLoginReply
deriving Repr, DecidableEq

/-- What a successful login taught. -/
structure RoomLoginOutcome where
  permissions : RoomPermission
  outPath : Option (Vector UInt8 maxPathSize × Nat)
  serverTs : UInt32
deriving Repr, DecidableEq

/-- Decode a login reply that came as a datagram of its own. -/
def decodeLoginResponseDatagram
    (crypto : Crypto)
    (secret : Key)
    (payload : List UInt8) :
    Except RoomSessionError RoomLoginOutcome :=
  match decodeDmPayload crypto secret payload with
  | .error error => .error (.codec error)
  | .ok (_, _, plaintext) =>
      match decodeLoginResponse plaintext with
      | .error error => .error (.room error)
      | .ok response =>
          .ok
            { permissions := response.permissions
              outPath := none
              serverTs := response.serverTs }

/-- Decode a login reply bundled in a path return. -/
def decodeLoginPathReturn
    (crypto : Crypto)
    (secret : Key)
    (payload : List UInt8) :
    Except RoomSessionError RoomLoginOutcome :=
  match decodePathReturn crypto secret payload with
  | .error error => .error (.codec error)
  | .ok (_, _, returned) =>
      match returned.extra with
      | .response bundled =>
          match decodeLoginResponse bundled.toList with
          | .error error => .error (.room error)
          | .ok response =>
              .ok
                { permissions := response.permissions
                  outPath := some (returned.path, returned.pathByteCount)
                  serverTs := response.serverTs }
      | _ => .error .notLoginReply

/-- The session-learned state of a room. -/
structure PersistedRoomSession where
  permissions : UInt8
  syncSince : UInt32
  outPath : Vector UInt8 maxPathSize
  outPathLen : UInt8
  lastRoomTs : UInt32
  routeKnown : Bool
deriving Repr, DecidableEq

namespace PersistedRoomSession

/-- Nothing was learned yet. -/
def empty : PersistedRoomSession :=
  { permissions := 0
    syncSince := 0
    outPath := Vector.replicate maxPathSize 0
    outPathLen := 0
    lastRoomTs := 0
    routeKnown := false }

/-- The granted role. -/
def permission
    (session : PersistedRoomSession) :
    RoomPermission :=
  .fromU8 session.permissions

/-- A route to the server was learned. -/
def hasRoute
    (session : PersistedRoomSession) :
    Bool :=
  session.routeKnown

/-- Forget the learned route. -/
def invalidateRoute
    (session : PersistedRoomSession) :
    PersistedRoomSession :=
  { session with
    routeKnown := false
    outPathLen := 0 }

@[simp] theorem hasRoute_invalidateRoute
    (session : PersistedRoomSession) :
    session.invalidateRoute.hasRoute = false :=
  rfl

/-- Take over what a login taught. -/
def applyLoginOutcome
    (session : PersistedRoomSession)
    (outcome : RoomLoginOutcome) :
    PersistedRoomSession :=
  match outcome.outPath with
  | some (path, pathByteCount) =>
      { session with
        permissions := outcome.permissions.toU8
        outPath := path
        outPathLen := UInt8.ofNat (min pathByteCount 255)
        routeKnown := true }
  | none =>
      { session with permissions := outcome.permissions.toU8 }

/-- Never go back behind a timestamp that was sent. -/
def recordSentTimestamp
    (session : PersistedRoomSession)
    (timestamp : UInt32) :
    PersistedRoomSession :=
  if session.lastRoomTs < timestamp then
    { session with lastRoomTs := timestamp }
  else
    session

/-- The bytes of the learned route. -/
def route
    (session : PersistedRoomSession) :
    List UInt8 :=
  session.outPath.toList.take session.outPathLen.toNat

end PersistedRoomSession

/-- The start of a frame sent straight over a learned route. -/
def encodeRoomDirectPrefix
    (payloadType : PayloadType)
    (outPath : List UInt8) :
    Option (List UInt8) :=
  if 255 < outPath.length then
    none
  else
    (PathLen.new 1 (UInt8.ofNat outPath.length)).map fun pathLen =>
      [Header.new .direct payloadType, pathLen.byte] ++
        outPath.take pathLen.hopCount.toNat

/-- A route of up to 63 bytes is written out as one-byte hashes. -/
theorem encodeRoomDirectPrefix_short
    (payloadType : PayloadType)
    {outPath : List UInt8}
    (short : outPath.length ≤ 63) :
    encodeRoomDirectPrefix payloadType outPath =
      some
        ([Header.new .direct payloadType, UInt8.ofNat outPath.length] ++
          outPath) := by
  have length :
      (UInt8.ofNat outPath.length).toNat = outPath.length :=
    UInt8.toNat_ofNat_of_lt' (show outPath.length < 256 by omega)
  have few : (UInt8.ofNat outPath.length).toNat ≤ 63 := by
    omega
  have notLong : ¬ 255 < outPath.length := by
    omega
  simp [encodeRoomDirectPrefix, notLong, PathLen.new_one few,
    (PathLen.of_few few).2, length]

/-- A longer route is not written out. -/
theorem encodeRoomDirectPrefix_long
    (payloadType : PayloadType)
    {outPath : List UInt8}
    (long : 63 < outPath.length) :
    encodeRoomDirectPrefix payloadType outPath = none := by
  unfold encodeRoomDirectPrefix
  split
  · rfl
  · next notLonger =>
    have length :
        (UInt8.ofNat outPath.length).toNat = outPath.length :=
      UInt8.toNat_ofNat_of_lt' (show outPath.length < 256 by omega)
    rw [PathLen.new_many (by omega) 1]
    rfl

/-- The header of a frame sent straight over a route. -/
def directHeader
    (payloadType : PayloadType)
    (outPath : List UInt8) :
    RxFrameHeader :=
  { headerByte := Header.new .direct payloadType
    routeType := .direct
    hasTransportCodes := false
    pathLenByte := UInt8.ofNat outPath.length
    hashSize := 1
    hopCount := UInt8.ofNat outPath.length
    payloadOff := 2 + outPath.length }

/-- A frame over a short route parses to one-byte hashes. -/
theorem parse_direct
    (payloadType : PayloadType)
    {outPath : List UInt8}
    (short : outPath.length ≤ 63)
    (payload : List UInt8) :
    parseRxFrameHeader
        ([Header.new .direct payloadType, UInt8.ofNat outPath.length] ++
          outPath ++ payload) =
      .ok (directHeader payloadType outPath) := by
  have length :
      (UInt8.ofNat outPath.length).toNat = outPath.length :=
    UInt8.toNat_ofNat_of_lt' (show outPath.length < 256 by omega)
  have few : (UInt8.ofNat outPath.length).toNat ≤ 63 := by
    omega
  obtain ⟨oneByte, hops⟩ := PathLen.of_few few
  have pathBytes :
      (PathLen.mk (UInt8.ofNat outPath.length)).pathBytes =
        outPath.length := by
    simp [PathLen.pathBytes, oneByte, hops, length]
  have isValid :
      (PathLen.mk (UInt8.ofNat outPath.length)).isValid = true := by
    have fits : outPath.length ≤ maxPathSize := by
      simp only [maxPathSize]
      omega
    simp [PathLen.isValid, oneByte, pathBytes, fits]
  have noCodes :
      routeCarriesTransportCodes (Header.new .direct payloadType) =
        false := by
    simp [routeCarriesTransportCodes]
  simp [parseRxFrameHeader, noCodes, isValid, pathBytes, oneByte, hops,
    directHeader]
  omega

/-- The prefix of a short route holds the route. -/
theorem parse_directPrefix
    (payloadType : PayloadType)
    {outPath : List UInt8}
    (short : outPath.length ≤ 63) :
    ∃ header,
      parseRxFrameHeader
          ([Header.new .direct payloadType, UInt8.ofNat outPath.length] ++
            outPath) =
        .ok header ∧
      header.hashSize = 1 ∧
      header.hopCount = UInt8.ofNat outPath.length ∧
      header.pathField
          ([Header.new .direct payloadType, UInt8.ofNat outPath.length] ++
            outPath) =
        outPath := by
  have parsed := parse_direct payloadType short []
  rw [List.append_nil] at parsed
  refine ⟨directHeader payloadType outPath, parsed, rfl, rfl, ?_⟩
  have length :
      (UInt8.ofNat outPath.length).toNat = outPath.length :=
    UInt8.toNat_ofNat_of_lt' (show outPath.length < 256 by omega)
  simp [RxFrameHeader.pathField, directHeader, length, Nat.add_comm 2]

end MeshCadet
