import MeshCadet.ContactPolicy
import MeshCadet.FloodFrames
import MeshCadet.RoomDispatch
import MeshCadet.TxQueue

namespace MeshCadet

/-!
# Inbound direct messages

A text message is processed when its source hash is a contact's, it authenticates
under that contact's secret, it is addressed to this device and it is chat.  What
was accepted before is recognised by its acknowledgement hash and gets no reaction
of any kind.
-/

open RingBuffer

/-- Messages remembered for each contact. -/
def replayRingLen : Nat :=
  16

/-- What is remembered of a contact's messages. -/
structure InboundReplayState where
  lastTs : UInt32
  ring : SeenRing AckHash replayRingLen

namespace InboundReplayState

/-- Nothing was accepted yet. -/
def empty : InboundReplayState :=
  { lastTs := 0
    ring := SeenRing.empty (Vector.replicate 4 0) (by decide) }

/-- Accept a message that is newer than all others or not remembered. -/
def checkAndRecordInbound
    (state : InboundReplayState)
    (timestamp : UInt32)
    (fingerprint : AckHash) :
    InboundReplayState × Bool :=
  if state.lastTs < timestamp then
    ({ lastTs := timestamp
       ring := state.ring.insert fingerprint }, true)
  else if state.ring.contains fingerprint then
    (state, false)
  else
    ({ state with ring := state.ring.insert fingerprint }, true)

end InboundReplayState

/-- An accepted message raises the mark and is remembered. -/
theorem InboundReplayState.checkAndRecordInbound_accepted
    {state after : InboundReplayState}
    {timestamp : UInt32}
    {fingerprint : AckHash}
    (accepted :
      state.checkAndRecordInbound timestamp fingerprint =
        (after, true)) :
    state.lastTs ≤ after.lastTs ∧
      timestamp ≤ after.lastTs ∧
      after.ring = state.ring.insert fingerprint := by
  unfold checkAndRecordInbound at accepted
  split at accepted
  · next newer =>
    cases accepted
    exact ⟨UInt32.le_of_lt newer, UInt32.le_refl _, rfl⟩
  · next notNewer =>
    split at accepted
    · cases accepted
    · cases accepted
      exact ⟨UInt32.le_refl _, UInt32.not_lt.mp notNewer, rfl⟩

/-- What is not newer and remembered is rejected. -/
theorem InboundReplayState.checkAndRecordInbound_rejected
    {state : InboundReplayState}
    {timestamp : UInt32}
    {fingerprint : AckHash}
    (old : timestamp ≤ state.lastTs)
    (remembered : state.ring.contains fingerprint = true) :
    state.checkAndRecordInbound timestamp fingerprint =
      (state, false) := by
  have notNewer : ¬state.lastTs < timestamp :=
    UInt32.not_lt.mpr old
  simp [checkAndRecordInbound, notNewer, remembered]

/-- Whitespace of ASCII. -/
def isAsciiWhitespace
    (byte : UInt8) :
    Bool :=
  byte == 0x20 || byte == 0x09 || byte == 0x0A || byte == 0x0C ||
    byte == 0x0D

/-- The lowercase letter of an ASCII letter. -/
def toAsciiLowercase
    (byte : UInt8) :
    UInt8 :=
  if 0x41 ≤ byte ∧ byte ≤ 0x5A then byte + 0x20 else byte

/-- The text asks for the position: it starts with `?loc`. -/
def isTelemetryRequest
    (text : List UInt8) :
    Bool :=
  ((text.dropWhile isAsciiWhitespace).take 4).map toAsciiLowercase ==
    [0x3F, 0x6C, 0x6F, 0x63]

/-- A message of a contact, before the replay gate. -/
structure InboundDm where
  sender : Key
  mayPullTelemetry : Bool
  srcHash : UInt8
  timestamp : UInt32
  text : List UInt8
  ackHash : AckHash
deriving Repr, DecidableEq

/-- Read the chat message in a decrypted text message. -/
def readChat
    (crypto : Crypto)
    (policy : PolicyFilter)
    (sender : Key)
    (srcHash : UInt8)
    (plaintext : List UInt8) :
    Option InboundDm :=
  match decodeTxtMsgPlaintext plaintext with
  | .error _ => none
  | .ok fields =>
      if fields.txtType.isText then
        let text :=
          (plaintext.drop fields.textOffset).takeWhile fun byte =>
            byte ≠ 0
        some
          { sender := sender
            mayPullTelemetry := policy.telemetryEnabled srcHash
            srcHash := srcHash
            timestamp := fields.timestamp
            text := text
            ackHash :=
              computeAckHash crypto fields.timestamp (plaintext.getD 4 0)
                text sender }
      else
        none

/-- Read a message of a contact to this device. -/
def readInboundDm
    (crypto : Crypto)
    (identity : Identity)
    (policy : PolicyFilter)
    (payload : List UInt8) :
    Option InboundDm :=
  if policy.allowInboundDm (sourceHash payload) then
    match policy.contactPubkey (sourceHash payload) with
    | none => none
    | some sender =>
        match decodeDmPayload crypto
            (identity.ecdhSharedSecret crypto sender) payload with
        | .error _ => none
        | .ok (destHash, _, plaintext) =>
            if destHash = pubHash identity.pubkey then
              readChat crypto policy sender (sourceHash payload) plaintext
            else
              none
  else
    none

/-- What an accepted message makes the device do. -/
structure AcceptedDm where
  message : InboundDm
  persisted : HistoryEntry
  repliesWithLocation : Bool
  ackFrame : Option (List UInt8)
deriving Repr, DecidableEq

/-- React to a message.  The location reply and the acknowledgement are only sent
when the region allows it. -/
def acceptDm
    (crypto : Crypto)
    (scope : RegionScope)
    (message : InboundDm) :
    AcceptedDm :=
  { message := message
    persisted :=
      buildHistoryEntry message.srcHash .dm message.timestamp message.text
    repliesWithLocation :=
      isTelemetryRequest message.text && message.mayPullTelemetry &&
        (regionEmission scope).isSome
    ackFrame :=
      (regionEmission scope).map (buildAckFrame crypto message.ackHash) }

/-- What handling a message does. -/
structure InboundDmEffect where
  replay : UInt8 → InboundReplayState
  accepted : Option AcceptedDm

/-- Handle a text message of a contact. -/
def handleDm
    (crypto : Crypto)
    (identity : Identity)
    (policy : PolicyFilter)
    (scope : RegionScope)
    (replay : UInt8 → InboundReplayState)
    (payload : List UInt8) :
    InboundDmEffect :=
  match readInboundDm crypto identity policy payload with
  | none =>
      { replay := replay
        accepted := none }
  | some message =>
      match (replay message.srcHash).checkAndRecordInbound
          message.timestamp message.ackHash with
      | (_, false) =>
          { replay := replay
            accepted := none }
      | (state, true) =>
          { replay := Function.update replay message.srcHash state
            accepted := some (acceptDm crypto scope message) }

/-- A message is accepted and recorded, or nothing happens. -/
theorem handleDm_cases
    (crypto : Crypto)
    (identity : Identity)
    (policy : PolicyFilter)
    (scope : RegionScope)
    (replay : UInt8 → InboundReplayState)
    (payload : List UInt8) :
    handleDm crypto identity policy scope replay payload =
        { replay := replay
          accepted := none } ∨
      ∃ message state,
        readInboundDm crypto identity policy payload = some message ∧
          handleDm crypto identity policy scope replay payload =
            { replay := Function.update replay message.srcHash state
              accepted := some (acceptDm crypto scope message) } ∧
          (replay message.srcHash).lastTs ≤ state.lastTs ∧
          message.timestamp ≤ state.lastTs ∧
          state.ring =
            (replay message.srcHash).ring.insert message.ackHash := by
  cases isMessage : readInboundDm crypto identity policy payload with
  | none =>
      left
      simp [handleDm, isMessage]
  | some message =>
      rcases checked :
          (replay message.srcHash).checkAndRecordInbound
            message.timestamp message.ackHash with ⟨state, _ | _⟩
      · left
        simp [handleDm, isMessage, checked]
      · obtain ⟨later, newest, ring⟩ :=
          InboundReplayState.checkAndRecordInbound_accepted checked
        right
        exact ⟨message, state, rfl, by simp [handleDm, isMessage, checked],
          later, newest, ring⟩

/-- The chat message in a padded message of a type with text. -/
theorem readChat_encode
    (crypto : Crypto)
    (policy : PolicyFilter)
    (sender : Key)
    (srcHash : UInt8)
    (timestamp : UInt32)
    {txtType : UInt8}
    (sixBits : txtType < 64)
    (isText : (TxtType.fromByte txtType).isText = true)
    (attempt : UInt8)
    (text : List UInt8) :
    readChat crypto policy sender srcHash
        (Blocks.padded 16
          (encodeTxtMsgPlaintext timestamp txtType attempt text)) =
      some
        { sender := sender
          mayPullTelemetry := policy.telemetryEnabled srcHash
          srcHash := srcHash
          timestamp := timestamp
          text := text.takeWhile fun byte => byte ≠ 0
          ackHash :=
            computeAckHash crypto timestamp
              ((txtType <<< 2) ||| (attempt &&& 0x03))
              (text.takeWhile fun byte => byte ≠ 0) sender } := by
  simp only [readChat, decodeTxtMsgPlaintext_encode timestamp sixBits,
    isText, if_true, text_encode, flags_encode]

/-- The chat message in a padded plain message. -/
theorem readChat_padded
    (crypto : Crypto)
    (policy : PolicyFilter)
    (sender : Key)
    (srcHash : UInt8)
    (timestamp : UInt32)
    (attempt : UInt8)
    (text : List UInt8) :
    readChat crypto policy sender srcHash
        (Blocks.padded 16
          (encodeTxtMsgPlaintext timestamp 0 attempt text)) =
      some
        { sender := sender
          mayPullTelemetry := policy.telemetryEnabled srcHash
          srcHash := srcHash
          timestamp := timestamp
          text := text.takeWhile fun byte => byte ≠ 0
          ackHash :=
            computeAckHash crypto timestamp (attempt &&& 0x03)
              (text.takeWhile fun byte => byte ≠ 0) sender } := by
  have noType : ((0 : UInt8) <<< 2) ||| (attempt &&& 0x03) =
      attempt &&& 0x03 := by
    simp
  rw [readChat_encode crypto policy sender srcHash timestamp
    (show (0 : UInt8) < 64 by decide) rfl, noType]

end MeshCadet
