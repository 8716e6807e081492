import MeshCadet.RoomSession
import MeshCadet.RoomSyncPhase
import MeshCadet.Utf8Text

namespace MeshCadet

/-!
# Room pushes

A room server pushes a post until it is acknowledged, so a device recognises a
post it already has by its timestamp and text and acknowledges it all the same.
The text is kept twice: raw among the recent posts, and behind the author's name
in the flash history, from which the recent posts are restored at boot.
-/

/-- Recent posts a room keeps while the device runs. -/
def roomRecentCap : Nat :=
  8

/-- Bytes of text a history entry holds. -/
def maxHistoryTextLen : Nat :=
  64

/-- What separates a name from the text behind it. -/
def channelNameDelim : List UInt8 :=
  [0x3A, 0x20]

/-- Split a displayed text at its first delimiter into name and body. -/
def parseChannelText :
    List UInt8 → Option (List UInt8) × List UInt8
  | [] => (none, [])
  | byte :: rest =>
      if byte = 0x3A ∧ rest.head? = some 0x20 then
        (some [], rest.tail)
      else
        match parseChannelText rest with
        | (some name, body) => (some (byte :: name), body)
        | (none, _) => (none, byte :: rest)

/-- The valid bytes of an entry's text. -/
def HistoryEntry.storedText
    (entry : HistoryEntry) :
    List UInt8 :=
  entry.text.toList.take entry.textLen.toNat

/-- The post is already among the recent ones. -/
def isDuplicatePost
    (recent : List HistoryEntry)
    (postTs : UInt32)
    (text : List UInt8) :
    Bool :=
  recent.any fun entry =>
    entry.timestamp == postTs &&
      (parseChannelText entry.storedText).2 == text

/-- The entry of a text, cut to what an entry holds. -/
def buildHistoryEntry
    (senderHash : UInt8)
    (msgType : HistoryMsgType)
    (timestamp : UInt32)
    (text : List UInt8) :
    HistoryEntry :=
  { senderHash := senderHash
    msgType := msgType
    timestamp := timestamp
    text := Bytes.zeroPadded maxHistoryTextLen (text.take maxHistoryTextLen)
    textLen := UInt8.ofNat (min text.length maxHistoryTextLen) }

/-- Decode a push and compare it with the recent posts. -/
def handleRoomPush
    (crypto : Crypto)
    (secret : Key)
    (payload : List UInt8)
    (clientPubkey : Key)
    (convHash : UInt8)
    (recent : List HistoryEntry) :
    Except RoomSessionError RoomPushOutcome :=
  match decodeRoomPush crypto secret payload with
  | .error error => .error (.room error)
  | .ok (_, _, push) =>
      .ok
        { ackHash :=
            roomPushAckHash crypto push.postTs push.attempt push.pushBody
              clientPubkey
          postTs := push.postTs
          entry :=
            if isDuplicatePost recent push.postTs push.text then
              none
            else
              some
                (buildHistoryEntry convHash .dm push.postTs push.text)
          authorPubkeyPrefix := push.authorPubkeyPrefix }

/-- The frame was no room push at all. -/
def isRoomPushMisroute
    (error : RoomSessionError) :
    Bool :=
  error == .room .notSignedPlain

/-- The frame is addressed to this device. -/
def isRoomFrameForUs
    (payload : List UInt8)
    (ourPubHash : UInt8) :
    Bool :=
  payload.getD 0 0 == ourPubHash

/-- A lowercase hexadecimal digit. -/
def hexDigit
    (value : UInt8) :
    UInt8 :=
  if value < 10 then 0x30 + value else 0x57 + value

/-- The label of a post's author: a contact's name, or the key's first bytes. -/
def roomPostSenderLabel
    (contactName : Option (List UInt8))
    (authorPubkeyPrefix : Vector UInt8 4) :
    List UInt8 :=
  match contactName with
  | some (byte :: name) => byte :: name
  | _ =>
      authorPubkeyPrefix.toList.flatMap fun byte : UInt8 =>
        [hexDigit (byte >>> 4), hexDigit (byte &&& 0x0F)]

/-- The text that is displayed and persisted for a post. -/
def roomDisplayText
    (label text : List UInt8) :
    List UInt8 :=
  label ++ [0x3A, 0x20] ++ if isUtf8 text then text else invalidUtf8

/-- A room of the device. -/
structure RoomRuntime where
  pubkey : Key
  hash : UInt8
  recent : List HistoryEntry
deriving Repr, DecidableEq

/-- Remember a post, dropping the oldest one of a full list. -/
def RoomRuntime.remember
    (room : RoomRuntime)
    (entry : HistoryEntry) :
    RoomRuntime :=
  if roomRecentCap ≤ room.recent.length then
    { room with recent := room.recent.tail ++ [entry] }
  else
    { room with recent := room.recent ++ [entry] }

/-- What handling a frame of a room does. -/
structure RoomFrameEffect where
  room : RoomRuntime
  outcome : Option RoomPushOutcome
  persisted : Option HistoryEntry
  handled : Bool
deriving Repr, DecidableEq

/-- Remember and persist a post that is new. -/
def acceptRoomPush
    (contactNames : UInt8 → Option (List UInt8))
    (room : RoomRuntime)
    (outcome : RoomPushOutcome) :
    RoomFrameEffect :=
  match outcome.entry with
  | some entry =>
      { room := room.remember entry
        outcome := some outcome
        persisted :=
          some
            (buildHistoryEntry room.hash .dm entry.timestamp
              (roomDisplayText
                (roomPostSenderLabel
                  (contactNames (Bytes.firstByte outcome.authorPubkeyPrefix))
                  outcome.authorPubkeyPrefix)
                entry.storedText))
        handled := true }
  | none =>
      { room := room
        outcome := some outcome
        persisted := none
        handled := true }

/-- A push is handled, new or not. -/
@[simp] theorem acceptRoomPush_handled
    (contactNames : UInt8 → Option (List UInt8))
    (room : RoomRuntime)
    (outcome : RoomPushOutcome) :
    (acceptRoomPush contactNames room outcome).handled = true := by
  unfold acceptRoomPush
  split <;> rfl

/-- Handle a text message whose source hash is a room's.  It is not handled when
it turns out to be a plain message. -/
def handleRoomPushFrame
    (crypto : Crypto)
    (identity : Identity)
    (contactNames : UInt8 → Option (List UInt8))
    (room : RoomRuntime)
    (payload : List UInt8) :
    RoomFrameEffect :=
  if isRoomFrameForUs payload (pubHash identity.pubkey) then
    match handleRoomPush crypto
        (identity.ecdhSharedSecret crypto room.pubkey) payload
        identity.pubkey room.hash room.recent with
    | .ok outcome => acceptRoomPush contactNames room outcome
    | .error error =>
        { room := room
          outcome := none
          persisted := none
          handled := !isRoomPushMisroute error }
  else
    { room := room
      outcome := none
      persisted := none
      handled := true }

end MeshCadet
