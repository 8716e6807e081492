import MeshCadet.DmCodec

namespace MeshCadet

/-!
# The room protocol

A room server answers a login with a fixed reply and pushes posts as text
messages of the signed subtype, whose text is preceded by the first four bytes
of the author's public key.
-/

/-- Errors of the room protocol. -/
inductive RoomCodecError where
  | codec (error : CodecError)
  | truncatedPayload
  | notSignedPlain
  | loginRejected (code : UInt8)
deriving Repr, DecidableEq

/-- A room client's role. -/
inductive RoomPermission where
  | guest
  | readOnly
  | readWrite
  | admin
deriving Repr, DecidableEq

namespace RoomPermission

/-- The role in the lower two bits of a permissions byte. -/
def fromU8
    (raw : UInt8) :
    RoomPermission :=
  if raw &&& 0x03 = 0 then
    guest
  else if raw &&& 0x03 = 1 then
    readOnly
  else if raw &&& 0x03 = 2 then
    readWrite
  else
    admin

/-- The role's byte. -/
def toU8 : RoomPermission → UInt8
  | guest => 0
  | readOnly => 1
  | readWrite => 2
  | admin => 3

/-- The role may post. -/
def canPost : RoomPermission → Bool
  | readWrite => true
  | admin => true
  | _ => false

end RoomPermission

/-- The decoded reply to a login. -/
structure LoginResponse where
  serverTs : UInt32
  code : UInt8
  roleCode : UInt8
  permissions : RoomPermission
  firmwareVerLevel : UInt8
deriving Repr, DecidableEq

/-- Decode the reply to a login; only an accepted one is returned. -/
def decodeLoginResponse
    (plaintext : List UInt8) :
    Except RoomCodecError LoginResponse :=
  if plaintext.length < 13 then
    .error .truncatedPayload
  else if plaintext.getD 4 0 ≠ 0 then
    .error (.loginRejected (plaintext.getD 4 0))
  else
    .ok
      { serverTs := leadingTimestamp plaintext
        code := plaintext.getD 4 0
        roleCode := plaintext.getD 6 0
        permissions := .fromU8 (plaintext.getD 7 0)
        firmwareVerLevel := plaintext.getD 12 0 }

/-- A post that the server relayed. -/
structure RoomPush where
  postTs : UInt32
  attempt : UInt8
  authorPubkeyPrefix : Vector UInt8 4
  text : List UInt8
deriving Repr, DecidableEq

/-- The bytes the acknowledgement of a push covers. -/
def RoomPush.pushBody
    (push : RoomPush) :
    List UInt8 :=
  push.authorPubkeyPrefix.toList ++ push.text

/-- Read the fields of a push off a decrypted text message. -/
def decodeRoomPushPlaintext
    (plaintext : List UInt8) :
    Except RoomCodecError RoomPush :=
  match decodeTxtMsgPlaintext plaintext with
  | .error error => .error (.codec error)
  | .ok fields =>
      if fields.txtType ≠ .signedPlain then
        .error .notSignedPlain
      else if plaintext.length < fields.textOffset + 4 then
        .error .truncatedPayload
      else
        .ok
          { postTs := fields.timestamp
            attempt := fields.attempt
            authorPubkeyPrefix :=
              Bytes.zeroPadded 4 (plaintext.drop fields.textOffset)
            text :=
              (plaintext.drop (fields.textOffset + 4)).takeWhile
                fun byte => byte ≠ 0 }

/-- Decode a room push. -/
def decodeRoomPush
    (crypto : Crypto)
    (secret : Key)
    (payload : List UInt8) :
    Except RoomCodecError (UInt8 × UInt8 × RoomPush) :=
  match decodeDmPayload crypto secret payload with
  | .error error => .error (.codec error)
  | .ok (destHash, srcHash, plaintext) =>
      (decodeRoomPushPlaintext plaintext).map fun push =>
        (destHash, srcHash, push)

/-- The hash with which a client acknowledges a push. -/
def roomPushAckHash
    (crypto : Crypto)
    (postTs : UInt32)
    (attempt : UInt8)
    (pushBody : List UInt8)
    (clientPubkey : Key) :
    Vector UInt8 4 :=
  computeAckHash crypto postTs
    (((2 : UInt8) <<< 2) ||| (attempt &&& 0x03)) pushBody
    clientPubkey

end MeshCadet
