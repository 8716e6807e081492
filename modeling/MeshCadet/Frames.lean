import MeshCadet.Crypto

namespace MeshCadet

/-!
# Wire frames

A frame is a header byte, four transport codes for the two transport route
types, a path length byte, the path, and the payload.  The path length byte
holds the size of a hop's hash in its top two bits and the number of hops below.
-/

/-- How a frame is routed. -/
inductive RouteType where
  | transportFlood
  | flood
  | direct
  | transportDirect
deriving Repr, DecidableEq

/-- The route type's two header bits. -/
def RouteType.toU8 : RouteType → UInt8
  | transportFlood => 0x00
  | flood => 0x01
  | direct => 0x02
  | transportDirect => 0x03

/-- What a frame carries. -/
inductive PayloadType where
  | req
  | response
  | txtMsg
  | ack
  | advert
  | grpTxt
  | grpData
  | anonReq
  | path
  | trace
  | multipart
  | control
  | rawCustom
deriving Repr, DecidableEq

/-- The payload type's four header bits. -/
def PayloadType.toU8 : PayloadType → UInt8
  | req => 0x00
  | response => 0x01
  | txtMsg => 0x02
  | ack => 0x03
  | advert => 0x04
  | grpTxt => 0x05
  | grpData => 0x06
  | anonReq => 0x07
  | path => 0x08
  | trace => 0x09
  | multipart => 0x0A
  | control => 0x0B
  | rawCustom => 0x0F

namespace Header

/-- The version-0 header byte of a route and a payload type. -/
def new
    (route : RouteType)
    (payloadType : PayloadType) :
    UInt8 :=
  (payloadType.toU8 <<< 2) ||| route.toU8

/-- The route type in a header byte. -/
def routeType
    (header : UInt8) :
    RouteType :=
  if header &&& 0x03 = 0x00 then
    .transportFlood
  else if header &&& 0x03 = 0x01 then
    .flood
  else if header &&& 0x03 = 0x02 then
    .direct
  else
    .transportDirect

/-- The payload type bits of a header byte. -/
def payloadTypeBits
    (header : UInt8) :
    UInt8 :=
  (header >>> 2) &&& 0x0F

@[simp] theorem routeType_new
    (route : RouteType)
    (payloadType : PayloadType) :
    routeType (new route payloadType) = route := by
  cases route <;> cases payloadType <;> decide

@[simp] theorem payloadTypeBits_new
    (route : RouteType)
    (payloadType : PayloadType) :
    payloadTypeBits (new route payloadType) = payloadType.toU8 := by
  cases route <;> cases payloadType <;> decide

end Header

/-- A path length byte. -/
structure PathLen where
  byte : UInt8
deriving Repr, DecidableEq

namespace PathLen

/-- A path length of 1 to 4 bytes a hash and up to 63 hops. -/
def new
    (hashSize hopCount : UInt8) :
    Option PathLen :=
  if hashSize < 1 ∨ 4 < hashSize ∨ 63 < hopCount then
    none
  else
    some { byte := ((hashSize - 1) <<< 6) ||| hopCount }

/-- Bytes of the hash of one hop. -/
def hashSize
    (pathLen : PathLen) :
    UInt8 :=
  (pathLen.byte >>> 6) + 1

/-- Number of hops. -/
def hopCount
    (pathLen : PathLen) :
    UInt8 :=
  pathLen.byte &&& 63

/-- Bytes of the whole path. -/
def pathBytes
    (pathLen : PathLen) :
    Nat :=
  pathLen.hopCount.toNat * pathLen.hashSize.toNat

/-- The hash size is not the reserved one and the path is not too long. -/
def isValid
    (pathLen : PathLen) :
    Bool :=
  pathLen.hashSize ≠ 4 && pathLen.pathBytes ≤ maxPathSize

theorem hashSize_toNat
    (pathLen : PathLen) :
    pathLen.hashSize.toNat = pathLen.byte.toNat / 64 + 1 := by
  have bound := pathLen.byte.toNat_lt
  simp [hashSize, UInt8.toNat_add, UInt8.toNat_shiftRight,
    Nat.shiftRight_eq_div_pow]
  omega

theorem hopCount_toNat
    (pathLen : PathLen) :
    pathLen.hopCount.toNat = pathLen.byte.toNat % 64 := by
  simpa [hopCount, UInt8.toNat_and] using
    Nat.and_two_pow_sub_one_eq_mod pathLen.byte.toNat 6

/-- One-byte hashes: the path length byte is the number of hops. -/
theorem new_one
    {hopCount : UInt8}
    (few : hopCount.toNat ≤ 63) :
    new 1 hopCount = some { byte := hopCount } := by
  have notMore : ¬ 63 < hopCount := by
    rw [UInt8.lt_iff_toNat_lt]
    simpa using few
  simp [new, notMore]

/-- More than 63 hops do not fit. -/
theorem new_many
    {hopCount : UInt8}
    (many : 63 < hopCount.toNat)
    (hashSize : UInt8) :
    new hashSize hopCount = none := by
  have more : 63 < hopCount := by
    rw [UInt8.lt_iff_toNat_lt]
    simpa using many
  simp [new, more]

/-- The byte of up to 63 one-byte hashes says so. -/
theorem of_few
    {hopCount : UInt8}
    (few : hopCount.toNat ≤ 63) :
    (PathLen.mk hopCount).hashSize = 1 ∧
      (PathLen.mk hopCount).hopCount = hopCount := by
  constructor
  · apply UInt8.toNat_inj.mp
    rw [hashSize_toNat]
    simp
    omega
  · apply UInt8.toNat_inj.mp
    rw [hopCount_toNat]
    exact Nat.mod_eq_of_lt (show hopCount.toNat < 64 by omega)

end PathLen

/-- Why a received frame's header cannot be parsed. -/
inductive RxFrameError where
  | empty
  | tooShortForPathLen (frameLen needed : Nat)
  | invalidPathLen (pathLenByte : UInt8)
  | tooShortForPath (frameLen payloadOff : Nat)
deriving Repr, DecidableEq

/-- A header parsed far enough to find the payload. -/
structure RxFrameHeader where
  headerByte : UInt8
  routeType : RouteType
  hasTransportCodes : Bool
  pathLenByte : UInt8
  hashSize : UInt8
  hopCount : UInt8
  payloadOff : Nat
deriving Repr, DecidableEq

/-- Only the two transport route types carry transport codes. -/
def routeCarriesTransportCodes
    (headerByte : UInt8) :
    Bool :=
  match Header.routeType headerByte with
  | .transportFlood => true
  | .transportDirect => true
  | _ => false

/-- Find the payload of a received frame. -/
def parseRxFrameHeader
    (frame : List UInt8) :
    Except RxFrameError RxFrameHeader :=
  match frame with
  | [] => .error .empty
  | headerByte :: _ =>
      let hasTransportCodes := routeCarriesTransportCodes headerByte
      let pathLenIdx := 1 + (if hasTransportCodes then 4 else 0)
      match frame[pathLenIdx]? with
      | none =>
          .error (.tooShortForPathLen frame.length (pathLenIdx + 1))
      | some pathLenByte =>
          let pathLen := PathLen.mk pathLenByte
          if pathLen.isValid then
            let payloadOff := pathLenIdx + 1 + pathLen.pathBytes
            if frame.length < payloadOff then
              .error (.tooShortForPath frame.length payloadOff)
            else
              .ok
                { headerByte := headerByte
                  routeType := Header.routeType headerByte
                  hasTransportCodes := hasTransportCodes
                  pathLenByte := pathLenByte
                  hashSize := pathLen.hashSize
                  hopCount := pathLen.hopCount
                  payloadOff := payloadOff }
          else
            .error (.invalidPathLen pathLenByte)

/-- The path field of a frame whose header was parsed. -/
def RxFrameHeader.pathField
    (header : RxFrameHeader)
    (frame : List UInt8) :
    List UInt8 :=
  let pathBytes := header.hopCount.toNat * header.hashSize.toNat
  (frame.take header.payloadOff).drop (header.payloadOff - pathBytes)

end MeshCadet
