import MeshCadet.ContactCollisions
import MeshCadet.OutstandingSends
import MeshCadet.Transition

namespace MeshCadet

/-!
# Retries of an acknowledged message

A sender that misses an acknowledgement repeats the frame.  The receiver drops
what its duplicate filter remembers before it looks inside, and the replay gate
drops what it accepted before without a reaction, so a retry is not acknowledged
again: it is neither shown nor answered.
-/

open RingBuffer

/-- What does not change while a device receives. -/
structure DmDevice where
  crypto : Crypto
  identity : Identity
  policy : PolicyFilter
  scope : RegionScope
  contactNames : UInt8 → Option (List UInt8)

/-- The receiving side of a device. -/
structure DmReceiver where
  rooms : List RoomRuntime
  dedup : DuplicateFilter
  replay : UInt8 → InboundReplayState

namespace DmReceiver

/-- Handle a frame that was not heard before. -/
def onReceive
    (receiver : DmReceiver)
    (device : DmDevice)
    (frame : List UInt8) :
    DmReceiver × Option AcceptedDm :=
  match packetPayloadView frame with
  | none => (receiver, none)
  | some (payloadType, payload) =>
      if payloadType = PayloadType.txtMsg.toU8 then
        let routed :=
          routeTxtMsg device.crypto device.identity device.contactNames
            receiver.rooms payload
        if routed.handedToDm then
          let effect :=
            handleDm device.crypto device.identity device.policy
              device.scope receiver.replay payload
          ({ receiver with
              rooms := routed.rooms
              replay := effect.replay },
            effect.accepted)
        else
          ({ receiver with rooms := routed.rooms }, none)
      else
        (receiver, none)

/-- Hear a frame: a duplicate is dropped. -/
def receive
    (receiver : DmReceiver)
    (device : DmDevice)
    (frame : List UInt8) :
    DmReceiver × Option AcceptedDm :=
  if receiver.dedup.isDuplicate device.crypto frame then
    (receiver, none)
  else
    ({ receiver with
        dedup :=
          receiver.dedup.insert device.crypto frame }).onReceive device
      frame

/-- The device marks what it transmits as seen. -/
def transmit
    (receiver : DmReceiver)
    (device : DmDevice)
    (frame : List UInt8) :
    DmReceiver :=
  { receiver with dedup := receiver.dedup.insert device.crypto frame }

/-- A reboot keeps only what was persisted. -/
def reboot
    (receiver : DmReceiver)
    (rooms : List RoomRuntime) :
    DmReceiver :=
  { receiver with
    rooms := rooms
    dedup := .new }

end DmReceiver

/-- One step of the receiving side. -/
inductive ReceiverStep where
  | hear (frame : List UInt8)
  | transmit (frame : List UInt8)
  | reboot (rooms : List RoomRuntime)

/-- The receiver, with the keys its filter was given since the last boot and the
messages it ever accepted. -/
structure DmReceiverLog where
  receiver : DmReceiver
  recorded : List (Vector UInt8 4)
  accepted : List AcceptedDm

namespace DmReceiverLog

/-- A device that has received nothing. -/
def new
    (rooms : List RoomRuntime) :
    DmReceiverLog :=
  { receiver :=
      { rooms := rooms
        dedup := .new
        replay := fun _ => .empty }
    recorded := []
    accepted := [] }

/-- Carry out one step. -/
def step
    (device : DmDevice)
    (log : DmReceiverLog) :
    ReceiverStep → DmReceiverLog
  | .hear frame =>
      { receiver := (log.receiver.receive device frame).1
        recorded :=
          if log.receiver.dedup.isDuplicate device.crypto frame then
            log.recorded
          else
            log.recorded ++ [packetDedupKey device.crypto frame]
        accepted :=
          log.accepted ++ (log.receiver.receive device frame).2.toList }
  | .transmit frame =>
      { log with
        receiver := log.receiver.transmit device frame
        recorded := log.recorded ++ [packetDedupKey device.crypto frame] }
  | .reboot rooms =>
      { log with
        receiver := log.receiver.reboot rooms
        recorded := [] }

/-- The accepted messages that came from a hash. -/
def acceptedFrom
    (log : DmReceiverLog)
    (srcHash : UInt8) :
    List AcceptedDm :=
  log.accepted.filter fun accepted => accepted.message.srcHash == srcHash

/-- The filter and the replay gates remember what the log says. -/
structure Remembered
    (log : DmReceiverLog) :
    Prop where
  dedup : SeenRing.Remembers log.receiver.dedup log.recorded
  ring :
    ∀ srcHash,
      (log.receiver.replay srcHash).ring.Remembers
        ((log.acceptedFrom srcHash).map fun accepted =>
          accepted.message.ackHash)
  lastTs :
    ∀ accepted ∈ log.accepted,
      accepted.message.timestamp ≤
        (log.receiver.replay accepted.message.srcHash).lastTs

end DmReceiverLog

/-- What a device accepts is a text message it did not hear before, and was
accepted by the replay gate. -/
theorem DmReceiver.receive_cases
    (receiver : DmReceiver)
    (device : DmDevice)
    (frame : List UInt8) :
    ((receiver.receive device frame).2 = none ∧
        (receiver.receive device frame).1.replay = receiver.replay) ∨
      ∃ payload message state,
        receiver.dedup.isDuplicate device.crypto frame = false ∧
          packetPayloadView frame =
            some (PayloadType.txtMsg.toU8, payload) ∧
          readInboundDm device.crypto device.identity device.policy
              payload =
            some message ∧
          (receiver.receive device frame).2 =
            some (acceptDm device.crypto device.scope message) ∧
          (receiver.receive device frame).1.replay =
            Function.update receiver.replay message.srcHash state ∧
          (receiver.replay message.srcHash).lastTs ≤ state.lastTs ∧
          message.timestamp ≤ state.lastTs ∧
          state.ring =
            (receiver.replay message.srcHash).ring.insert
              message.ackHash := by
  cases duplicate : receiver.dedup.isDuplicate device.crypto frame with
  | true =>
      left
      simp [receive, duplicate]
  | false =>
      rcases isView : packetPayloadView frame with
        _ | ⟨payloadType, payload⟩
      · left
        simp [receive, duplicate, onReceive, isView]
      · by_cases isTxtMsg : payloadType = PayloadType.txtMsg.toU8
        · subst isTxtMsg
          cases handed :
              (routeTxtMsg device.crypto device.identity
                device.contactNames receiver.rooms payload).handedToDm with
          | false =>
              left
              simp [receive, duplicate, onReceive, isView, handed]
          | true =>
              rcases handleDm_cases device.crypto device.identity
                  device.policy device.scope receiver.replay payload with
                ignored | ⟨message, state, read, handled, later, newest,
                  ring⟩
              · left
                simp [receive, duplicate, onReceive, isView, handed,
                  ignored]
              · right
                refine ⟨payload, message, state, rfl, rfl, read, ?_, ?_,
                  later, newest, ring⟩
                · simp [receive, duplicate, onReceive, isView, handed,
                    handled]
                · simp [receive, duplicate, onReceive, isView, handed,
                    handled]
        · left
          simp [receive, duplicate, onReceive, isView, isTxtMsg]

/-- Hearing a frame that is no duplicate records it. -/
theorem DmReceiver.receive_dedup
    (receiver : DmReceiver)
    (device : DmDevice)
    (frame : List UInt8) :
    (receiver.receive device frame).1.dedup =
      if receiver.dedup.isDuplicate device.crypto frame then
        receiver.dedup
      else
        receiver.dedup.insert device.crypto frame := by
  unfold receive
  split
  · rfl
  · unfold onReceive
    split
    · rfl
    · split
      · dsimp only
        split <;> rfl
      · rfl

namespace DmReceiverLog

/-- A device that has received nothing remembers nothing. -/
theorem remembered_new
    (rooms : List RoomRuntime) :
    (new rooms).Remembered :=
  { dedup := SeenRing.remembers_empty _ _
    ring := fun _ => SeenRing.remembers_empty _ _
    lastTs := fun _ member => absurd member List.not_mem_nil }

/-- Hearing a frame keeps the filter and the gates true to the log. -/
theorem Remembered.hear
    {device : DmDevice}
    {log : DmReceiverLog}
    (remembered : log.Remembered)
    (frame : List UInt8) :
    (step device log (.hear frame)).Remembered := by
  have dedup :
      SeenRing.Remembers (step device log (.hear frame)).receiver.dedup
        (step device log (.hear frame)).recorded := by
    simp only [step, DmReceiver.receive_dedup]
    split
    · exact remembered.dedup
    · exact remembered.dedup.insert _
  rcases log.receiver.receive_cases device frame with
    ⟨nothing, sameReplay⟩ |
      ⟨payload, message, state, -, -, -, accepted, replay, later, newest,
        ring⟩
  · exact
      { dedup := dedup
        ring := by
          simpa [step, nothing, sameReplay, acceptedFrom]
            using remembered.ring
        lastTs := by
          simpa [step, nothing, sameReplay] using remembered.lastTs }
  · refine
      { dedup := dedup
        ring := ?_
        lastTs := ?_ }
    · intro srcHash
      by_cases same : srcHash = message.srcHash
      · subst same
        have inserted :=
          (remembered.ring message.srcHash).insert message.ackHash
        simpa [step, accepted, replay, ring, acceptedFrom, acceptDm]
          using inserted
      · have other : ¬message.srcHash = srcHash := fun isSame =>
          same isSame.symm
        simpa [step, accepted, replay, same, other, acceptedFrom, acceptDm]
          using remembered.ring srcHash
    · intro earlier member
      simp only [step, accepted, replay, Option.toList_some,
        List.mem_append, List.mem_singleton] at member ⊢
      rcases member with before | rfl
      · have marked := remembered.lastTs earlier before
        by_cases same : earlier.message.srcHash = message.srcHash
        · rw [same] at marked ⊢
          simpa using UInt32.le_trans marked later
        · simpa [same] using marked
      · simpa [acceptDm] using newest

/-- Every step keeps the filter and the gates true to the log. -/
theorem Remembered.step
    {device : DmDevice}
    {log : DmReceiverLog}
    (remembered : log.Remembered)
    (event : ReceiverStep) :
    (step device log event).Remembered := by
  cases event with
  | hear frame =>
      exact remembered.hear frame
  | transmit frame =>
      exact
        { dedup := remembered.dedup.insert _
          ring := remembered.ring
          lastTs := remembered.lastTs }
  | reboot rooms =>
      exact
        { dedup := SeenRing.remembers_empty _ _
          ring := remembered.ring
          lastTs := remembered.lastTs }

/-- What was accepted stays accepted. -/
theorem accepted_run
    (device : DmDevice)
    (log : DmReceiverLog)
    (events : List ReceiverStep) :
    log.accepted <+:
      (Transition.run (step device) log events).accepted := by
  induction events generalizing log with
  | nil =>
      exact List.prefix_refl _
  | cons event rest inductionHypothesis =>
      refine List.IsPrefix.trans ?_ (inductionHypothesis _)
      cases event with
      | hear frame => exact List.prefix_append _ _
      | transmit frame => exact List.prefix_refl _
      | reboot rooms => exact List.prefix_refl _

/-- Until a reboot, what was recorded stays recorded. -/
theorem recorded_run
    (device : DmDevice)
    (log : DmReceiverLog)
    {events : List ReceiverStep}
    (noReboot : ∀ rooms, ReceiverStep.reboot rooms ∉ events) :
    log.recorded <+:
      (Transition.run (step device) log events).recorded := by
  induction events generalizing log with
  | nil =>
      exact List.prefix_refl _
  | cons event rest inductionHypothesis =>
      have restNoReboot : ∀ rooms, ReceiverStep.reboot rooms ∉ rest :=
        fun rooms member =>
          noReboot rooms (List.mem_cons_of_mem event member)
      refine List.IsPrefix.trans ?_ (inductionHypothesis _ restNoReboot)
      cases event with
      | hear frame =>
          simp only [step]
          split
          · exact List.prefix_refl _
          · exact List.prefix_append _ _
      | transmit frame => exact List.prefix_append _ _
      | reboot rooms => exact absurd List.mem_cons_self (noReboot rooms)

end DmReceiverLog

/-- A retry sends the frame of the first attempt. -/
theorem OutstandingSend.frame_retries
    (send : OutstandingSend)
    (retries : List Nat) :
    (retries.foldl OutstandingSend.retriedAt send).frame = send.frame := by
  induction retries generalizing send with
  | nil =>
      rfl
  | cons now rest inductionHypothesis =>
      exact inductionHypothesis (send.retriedAt now)

open DmReceiverLog in
/-- The second copy of a frame is dropped by the filter while it remembers the
first. -/
theorem duplicate_dropped
    {device : DmDevice}
    {log : DmReceiverLog}
    (remembered : log.Remembered)
    {first copy : List UInt8}
    (sameView : packetPayloadView copy = packetPayloadView first)
    {payloadType : UInt8}
    {payload : List UInt8}
    (isView : packetPayloadView first = some (payloadType, payload))
    {earlier later : List (Vector UInt8 4)}
    (recorded :
      log.recorded =
        earlier ++ packetDedupKey device.crypto first :: later)
    (few : later.length < dedupSlots) :
    log.receiver.receive device copy = (log.receiver, none) := by
  have sameKey :
      packetDedupKey device.crypto copy =
        packetDedupKey device.crypto first := by
    simp only [packetDedupKey, sameView, isView]
  have inFilter :
      SeenRing.Remembers log.receiver.dedup
        (earlier ++ packetDedupKey device.crypto first :: later) := by
    rw [← recorded]
    exact remembered.dedup
  have duplicate :
      log.receiver.dedup.isDuplicate device.crypto copy = true := by
    rw [DuplicateFilter.isDuplicate, sameKey]
    exact inFilter.contains few
  simp [DmReceiver.receive, duplicate]

open DmReceiverLog in
/-- A message is not accepted again while the contact's ring remembers it. -/
theorem replay_dropped
    {device : DmDevice}
    {log : DmReceiverLog}
    (remembered : log.Remembered)
    {copy payload : List UInt8}
    (isView :
      packetPayloadView copy =
        some (PayloadType.txtMsg.toU8, payload))
    {message : InboundDm}
    (read :
      readInboundDm device.crypto device.identity device.policy payload =
        some message)
    {earlier later : List AcceptedDm}
    {known : AcceptedDm}
    (isKnown : known.message = message)
    (accepted :
      log.acceptedFrom message.srcHash = earlier ++ known :: later)
    (few : later.length < replayRingLen) :
    (log.receiver.receive device copy).2 = none ∧
      (log.receiver.receive device copy).1.replay =
        log.receiver.replay := by
  have member : known ∈ log.accepted := by
    have inHash : known ∈ log.acceptedFrom message.srcHash := by
      simp [accepted]
    exact (List.mem_filter.mp inHash).1
  have old :
      message.timestamp ≤
        (log.receiver.replay message.srcHash).lastTs := by
    simpa [isKnown] using remembered.lastTs known member
  have inRing :
      (log.receiver.replay message.srcHash).ring.contains
        message.ackHash = true := by
    have ring := remembered.ring message.srcHash
    rw [accepted, List.map_append, List.map_cons, isKnown] at ring
    exact ring.contains (by simpa using few)
  have ignored :
      handleDm device.crypto device.identity device.policy device.scope
          log.receiver.replay payload =
        { replay := log.receiver.replay
          accepted := none } := by
    simp [handleDm, read,
      InboundReplayState.checkAndRecordInbound_rejected old inRing]
  rcases log.receiver.receive_cases device copy with
    nothing | ⟨seen, newer, state, notDuplicate, sameView, -, accepts, -⟩
  · exact nothing
  · rw [isView, Option.some_inj, Prod.mk.injEq] at sameView
    obtain ⟨-, rfl⟩ := sameView
    simp only [DmReceiver.receive, notDuplicate, Bool.false_eq_true,
      if_false, DmReceiver.onReceive, isView, if_true, ignored] at accepts
    split at accepts <;> cases accepts

open DmReceiverLog in
/-- A retry of an accepted message is neither shown nor acknowledged, as long as
the filter remembers the first copy or the contact's ring the message. -/
theorem retry_ignored
    (device : DmDevice)
    (rooms : List RoomRuntime)
    (before between : List ReceiverStep)
    {heard later : DmReceiverLog}
    (isHeard : heard = Transition.run (step device) (new rooms) before)
    {send : OutstandingSend}
    (retries : List Nat)
    {first copy : List UInt8}
    (sent : packetPayloadView first = packetPayloadView send.frame)
    (resent :
      packetPayloadView copy =
        packetPayloadView
          (retries.foldl OutstandingSend.retriedAt send).frame)
    {reaction : AcceptedDm}
    (accepted :
      (heard.receiver.receive device first).2 = some reaction)
    (isLater :
      later =
        Transition.run (step device) (step device heard (.hear first))
          between)
    (recent :
      ((∀ kept, ReceiverStep.reboot kept ∉ between) ∧
          later.recorded.length <
            (step device heard (.hear first)).recorded.length +
              dedupSlots) ∨
        (later.acceptedFrom reaction.message.srcHash).length <
          ((step device heard (.hear first)).acceptedFrom
              reaction.message.srcHash).length +
            replayRingLen) :
    (later.receiver.receive device copy).2 = none ∧
      (later.receiver.receive device copy).1.replay =
        later.receiver.replay := by
  have rememberedHeard : heard.Remembered := by
    rw [isHeard]
    exact
      (@Transition.always_of_invariant _ _ (step device) Remembered
        (fun _ event remembered => remembered.step event) _
        (remembered_new rooms) before).last
  have remembered : later.Remembered := by
    rw [isLater]
    exact
      (@Transition.always_of_invariant _ _ (step device) Remembered
        (fun _ event kept => kept.step event) _
        (rememberedHeard.hear first) between).last
  rcases heard.receiver.receive_cases device first with
    ⟨nothing, -⟩ |
      ⟨payload, message, state, notDuplicate, isView, read, accepts, -⟩
  · rw [nothing] at accepted
    cases accepted
  · rw [accepts, Option.some_inj] at accepted
    subst accepted
    have sameView :
        packetPayloadView copy = packetPayloadView first := by
      rw [resent, OutstandingSend.frame_retries, sent]
    rcases recent with ⟨noReboot, few⟩ | few
    · have recordedFirst :
          (step device heard (.hear first)).recorded =
            heard.recorded ++ [packetDedupKey device.crypto first] := by
        simp [step, notDuplicate]
      obtain ⟨more, recorded⟩ :=
        recorded_run device (step device heard (.hear first)) noReboot
      rw [← isLater, recordedFirst, List.append_assoc,
        List.singleton_append] at recorded
      rw [recordedFirst, ← recorded] at few
      have dropped :=
        duplicate_dropped remembered sameView isView recorded.symm
          (by simp at few; omega)
      simp [dropped]
    · have acceptedFirst :
          (step device heard (.hear first)).accepted =
            heard.accepted ++
              [acceptDm device.crypto device.scope message] := by
        simp [step, accepts]
      obtain ⟨more, all⟩ :=
        accepted_run device (step device heard (.hear first)) between
      rw [← isLater, acceptedFirst] at all
      have fromHash :
          later.acceptedFrom message.srcHash =
            heard.acceptedFrom message.srcHash ++
              acceptDm device.crypto device.scope message ::
                more.filter fun other =>
                  other.message.srcHash == message.srcHash := by
        simp [acceptedFrom, ← all, acceptDm]
      have fromHashFirst :
          (step device heard (.hear first)).acceptedFrom
              message.srcHash =
            heard.acceptedFrom message.srcHash ++
              [acceptDm device.crypto device.scope message] := by
        simp [acceptedFrom, acceptedFirst, acceptDm]
      have isKnown :
          (acceptDm device.crypto device.scope message).message =
            message :=
        rfl
      rw [isKnown, fromHash, fromHashFirst] at few
      exact
        replay_dropped remembered (sameView.trans isView) read isKnown
          fromHash (by simp at few; omega)

/-- The primitives on a message with the text `hi` and on its frame. -/
def retriedMessage : CryptoRecord :=
  { contactMessages with
    digests :=
      ([0x02, 0x8A, 0x0B, 0x8A, 0x83, 0x63, 0xE8, 0x61, 0xA8, 0x43, 0x0C,
        0x1E, 0x61, 0xC5, 0x8E, 0xC2, 0xD5, 0xC4, 0x26, 0x6B, 0xB4],
        #v[0x90, 0x45, 0x3A, 0x06, 0xF3, 0xF1, 0x63, 0xF4, 0x89, 0x02, 0x0D,
          0x46, 0x3A, 0x3F, 0xDC, 0x21, 0xC8, 0x11, 0x30, 0xA6, 0x5B, 0x73,
          0x2C, 0x9B, 0xA9, 0x92, 0x74, 0x78, 0xB8, 0x12, 0xDB, 0x75]) ::
        contactMessages.digests }

/-- A device that has the sender as its only contact. -/
def retriedTo : DmDevice :=
  { crypto := retriedMessage.crypto
    identity := RecordedKeys.device
    policy := PolicyFilter.new.addContacts [ana]
    scope := .unscoped
    contactNames := fun _ => none }

/-- The send of the message `hi`. -/
def retriedSend : OutstandingSend :=
  .new #v[0x47, 0xBF, 0x7C, 0xBF] (.dm 0x8A) 0
    (assembleFloodFrame retriedMessage.crypto none .txtMsg zeroHops
      (contactDmPayload retriedMessage.crypto RecordedKeys.device
        ana.pubkey 0x64030201 0 [0x68, 0x69]))

open DmReceiverLog in
/-- The message was accepted and its retry is heard next. -/
theorem retry_ignored_next :
    ((Transition.run (step retriedTo)
            (step retriedTo (new []) (.hear retriedSend.frame))
            []).receiver.receive retriedTo retriedSend.frame).2 =
        none ∧
      ((Transition.run (step retriedTo)
            (step retriedTo (new []) (.hear retriedSend.frame))
            []).receiver.receive retriedTo
          retriedSend.frame).1.replay =
        (Transition.run (step retriedTo)
            (step retriedTo (new []) (.hear retriedSend.frame))
            []).receiver.replay := by
  have isAccepted :
      ((new []).receiver.receive retriedTo retriedSend.frame).2.isSome =
        true := by
    decide +kernel
  obtain ⟨reaction, accepted⟩ := Option.isSome_iff_exists.mp isAccepted
  exact
    @retry_ignored retriedTo [] [] [] _ _ rfl retriedSend [30000] _ _ rfl
      rfl reaction accepted rfl
      (.inl ⟨fun _ => List.not_mem_nil, by decide +kernel⟩)

open DmReceiverLog in
/-- The first copy is acknowledged; the sweep repeats the frame, and the second
copy is not. -/
theorem retry_unacknowledged :
    ((new []).receiver.receive retriedTo retriedSend.frame).2.bind
          AcceptedDm.ackFrame =
        some
          (buildAckFrame retriedMessage.crypto retriedSend.ackHash
            none) ∧
      ((OutstandingSends.new.insert retriedSend).1.sweepExpired 30000
          (fun queued send => (queued ++ [send.frame], true)) []).2.1 =
        [retriedSend.frame] ∧
      ((step retriedTo (new [])
          (.hear retriedSend.frame)).receiver.receive retriedTo
          retriedSend.frame).2 =
        none := by
  refine ⟨?_, ?_, ?_⟩ <;> decide +kernel

end MeshCadet
