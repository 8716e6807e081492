import MeshCadet.RoomPushes
import MeshCadet.UiDms

namespace MeshCadet

/-!
# Channel messages on the air

A channel message carries no address: the sender's name stands in front of the
text, and everything is encrypted under the secret of the channel.  Relays change
the path of a flooded frame, but neither its type nor its payload.
-/

/-- Bytes the prefixed text is composed in. -/
def channelTextBuf : Nat :=
  160

/-- The text with the name of its sender in front, cut to the buffer. -/
def formatChannelText
    (senderName body : List UInt8) :
    List UInt8 :=
  (senderName ++ channelNameDelim ++ body).take channelTextBuf

/-- The first byte of the hash of the secret. -/
def channelHashVar
    (crypto : Crypto)
    (channelSecret : List UInt8) :
    UInt8 :=
  Bytes.firstByte (crypto.sha256 channelSecret)

/-- The cipher key of a channel: the first sixteen bytes of its secret. -/
def channelAesKey
    (channelSecret : List UInt8) :
    Vector UInt8 16 :=
  Vector.ofFn fun index : Fin 16 => channelSecret.getD index.val 0

/-- The payload of a channel message. -/
def encodeGrpTxtVar
    (crypto : Crypto)
    (channelSecret : List UInt8)
    (timestamp : UInt32)
    (txtType attempt : UInt8)
    (text : List UInt8) :
    List UInt8 :=
  channelHashVar crypto channelSecret ::
    crypto.encryptThenMac (channelAesKey channelSecret) channelSecret
      (encodeTxtMsgPlaintext timestamp txtType attempt text)

/-- The payload of a message of the interface to a channel. -/
def uiGrpTxtPayload
    (crypto : Crypto)
    (txEpochBase : UInt32)
    (nowMs : Nat)
    (channelSecret senderName text : List UInt8) :
    List UInt8 :=
  encodeGrpTxtVar crypto channelSecret (txTimestamp txEpochBase nowMs) 0 0
    ((formatChannelText senderName text).take maxUiMsgBytes)

/-- Build the frame of a message to a channel. -/
def buildUiGrpTxt
    (crypto : Crypto)
    (txEpochBase : UInt32)
    (nowMs : Nat)
    (channelSecret senderName text : List UInt8)
    (scope : Option (Vector UInt8 16)) :
    List UInt8 :=
  assembleFloodFrame crypto scope .grpTxt zeroHops
    (uiGrpTxtPayload crypto txEpochBase nowMs channelSecret senderName text)

/-- What a device sends channel messages with. -/
structure ChannelConfig where
  txEpochBase : UInt32
  channelSecret : Option (List UInt8)
  senderName : List UInt8
  regionScope : RegionScope
deriving Repr, DecidableEq

/-- The frame of a message to a channel.  Nothing is sent without a channel, to
another channel, or while the region cannot be keyed. -/
def channelFrame
    (crypto : Crypto)
    (config : ChannelConfig)
    (nowMs : Nat)
    (channelHash : UInt8)
    (text : List UInt8) :
    Option (List UInt8) :=
  match config.channelSecret with
  | none => none
  | some channelSecret =>
      if channelHash = channelHashVar crypto channelSecret then
        (regionEmission config.regionScope).map fun scope =>
          buildUiGrpTxt crypto config.txEpochBase nowMs channelSecret
            config.senderName text scope
      else
        none

/-- The frame is the original one or a relayed copy of it. -/
def isRepeatOf
    (frame original : List UInt8) :
    Bool :=
  frame == original ||
    ((packetPayloadView original).isSome &&
      packetPayloadView frame == packetPayloadView original)

/-- A repeat has the key of its original. -/
theorem packetDedupKey_of_isRepeatOf
    {frame original : List UInt8}
    (isRepeat : isRepeatOf frame original = true)
    (crypto : Crypto) :
    packetDedupKey crypto frame = packetDedupKey crypto original := by
  simp only [isRepeatOf, Bool.or_eq_true, Bool.and_eq_true,
    beq_iff_eq] at isRepeat
  rcases isRepeat with same | ⟨isView, sameView⟩
  · rw [same]
  · obtain ⟨view, viewed⟩ := Option.isSome_iff_exists.mp isView
    simp only [packetDedupKey, sameView, viewed]

/-- Whatever relays made of the path, a frame with the payload is a repeat. -/
theorem isRepeatOf_buildUiGrpTxt
    (crypto : Crypto)
    (txEpochBase : UInt32)
    (nowMs : Nat)
    (channelSecret senderName text : List UInt8)
    (scope : Option (Vector UInt8 16))
    {frame : List UInt8}
    (relayed :
      packetPayloadView frame =
        some
          (PayloadType.grpTxt.toU8,
            uiGrpTxtPayload crypto txEpochBase nowMs channelSecret
              senderName text)) :
    isRepeatOf frame
        (buildUiGrpTxt crypto txEpochBase nowMs channelSecret senderName
          text scope) =
      true := by
  simp [isRepeatOf, buildUiGrpTxt, packetPayloadView_assemble, relayed]

end MeshCadet
