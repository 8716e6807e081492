import Mathlib.Data.List.Pairwise
import MeshCadet.DedupRecency
import MeshCadet.Dispatcher
import MeshCadet.Transition
import MeshCadet.UiDms

namespace MeshCadet

/-!
# Messages that repeat one another

The acknowledgement of a message and the key by which its frame is recognised are
hashes of its timestamp and text.  The timestamp counts seconds, so messages with
the same text sent in one second are the same message to everyone: to the table
of outstanding sends, and to the filter of the receiver.
-/

open RingBuffer

/-- A message of the interface when the dispatcher takes it. -/
structure DmSend where
  txEpochBase : UInt32
  nowMs : Nat
  toHash : UInt8
  text : List UInt8
deriving Repr, DecidableEq

namespace DmSend

/-- The timestamp the message gets. -/
def timestamp
    (send : DmSend) :
    UInt32 :=
  txTimestamp send.txEpochBase send.nowMs

/-- The text that is sent. -/
def carried
    (send : DmSend) :
    List UInt8 :=
  send.text.take maxUiMsgBytes

/-- The plaintext as it is encrypted, zero-padded. -/
def wirePlaintext
    (send : DmSend) :
    List UInt8 :=
  Blocks.padded 16 (encodeTxtMsgPlaintext send.timestamp 0 0 send.carried)

/-- What the acknowledgement is a hash of. -/
def ackInput
    (send : DmSend)
    (sender : Identity) :
    List UInt8 :=
  (Bytes.u32ToLeBytes send.timestamp).toList ++ [0] ++ send.carried ++
    sender.pubkey.toList

/-- Neither the timestamp and text nor the contact and plaintext are the same. -/
def Distinguished
    (first second : DmSend) :
    Prop :=
  ¬(first.timestamp = second.timestamp ∧
      first.carried = second.carried) ∧
    ¬(first.toHash = second.toHash ∧
      first.wirePlaintext = second.wirePlaintext)

end DmSend

/-- No two of the inputs have the same hash. -/
def CollisionFree
    (crypto : Crypto)
    (inputs : List (List UInt8)) :
    Prop :=
  ∀ first ∈ inputs, ∀ second ∈ inputs,
    crypto.leadingHash first = crypto.leadingHash second →
      first = second

/-- Fewer inputs do not collide either. -/
theorem CollisionFree.mono
    {crypto : Crypto}
    {inputs fewer : List (List UInt8)}
    (free : CollisionFree crypto inputs)
    (subset : fewer ⊆ inputs) :
    CollisionFree crypto fewer :=
  fun first isFirst second isSecond =>
    free first (subset isFirst) second (subset isSecond)

/-- A message that was sent. -/
structure SentDm where
  send : DmSend
  built : BuiltDm
deriving Repr, DecidableEq

section Sending

variable
    (crypto : Crypto)
    (identity : Identity)
    (policy : PolicyFilter)
    (scope : RegionScope)

/-- The message was built for the contact behind its hash. -/
def SentDm.IsBuilt
    (sent : SentDm) :
    Prop :=
  ∃ recipient emission,
    policy.contactPubkey sent.send.toHash = some recipient ∧
      regionEmission scope = some emission ∧
      sent.built =
        { frame :=
            assembleFloodFrame crypto emission .txtMsg zeroHops
              (encodeDmPayload crypto
                (identity.ecdhSharedSecret crypto recipient)
                sent.send.toHash (pubHash identity.pubkey)
                (encodeTxtMsgPlaintext sent.send.timestamp 0 0
                  sent.send.carried))
          ackHash := crypto.leadingHash (sent.send.ackInput identity) }

/-- What is queued was built for its contact. -/
theorem isBuilt_of_queued
    {send : DmSend}
    {recipient : Key}
    {built : BuiltDm}
    (queued :
      sendDm crypto identity policy scope send.txEpochBase send.nowMs
          send.toHash send.text =
        .queued recipient built) :
    SentDm.IsBuilt crypto identity policy scope
      { send := send
        built := built } := by
  unfold sendDm at queued
  cases isRecipient : policy.contactPubkey send.toHash with
  | none => simp [isRecipient] at queued
  | some contact =>
      cases isEmission : regionEmission scope with
      | none => simp [isRecipient, isEmission, buildUiDm_eq] at queued
      | some emission =>
          simp only [isRecipient, isEmission, buildUiDm_eq,
            SendDmResult.queued.injEq] at queued
          obtain ⟨rfl, rfl⟩ := queued
          exact ⟨_, _, isRecipient, isEmission, rfl⟩

variable {crypto identity policy scope}

/-- A message waits for the hash of its timestamp and text. -/
theorem SentDm.IsBuilt.ackHash_eq
    {sent : SentDm}
    (isBuilt : sent.IsBuilt crypto identity policy scope) :
    sent.built.ackHash =
      crypto.leadingHash (sent.send.ackInput identity) := by
  obtain ⟨_, _, -, -, isBuilt⟩ := isBuilt
  rw [isBuilt]

/-- Messages to one contact with one plaintext get one frame, others do not. -/
theorem SentDm.frame_eq_iff
    (inverse : crypto.DecryptsEncrypted)
    {first second : SentDm}
    (firstBuilt : first.IsBuilt crypto identity policy scope)
    (secondBuilt : second.IsBuilt crypto identity policy scope) :
    first.built.frame = second.built.frame ↔
      first.send.toHash = second.send.toHash ∧
        first.send.wirePlaintext = second.send.wirePlaintext := by
  obtain ⟨recipient, emission, isRecipient, isEmission, isFirst⟩ :=
    firstBuilt
  obtain ⟨other, otherEmission, isOther, isOtherEmission, isSecond⟩ :=
    secondBuilt
  have sameEmission : otherEmission = emission := by
    rw [isEmission, Option.some_inj] at isOtherEmission
    exact isOtherEmission.symm
  subst sameEmission
  rw [isFirst, isSecond]
  constructor
  · intro sameFrame
    have sameView := congrArg packetPayloadView sameFrame
    simp only [packetPayloadView_assemble, Option.some_inj,
      Prod.mk.injEq, true_and] at sameView
    have sameHash : first.send.toHash = second.send.toHash := by
      have heads := congrArg List.head? sameView
      simpa [encodeDmPayload] using heads
    have sameRecipient : other = recipient := by
      rw [sameHash, isOther, Option.some_inj] at isRecipient
      exact isRecipient
    subst sameRecipient
    have decoded :=
      congrArg
        (decodeDmPayload crypto (identity.ecdhSharedSecret crypto other))
        sameView
    simp only [decodeDmPayload_encode inverse, Except.ok.injEq,
      Prod.mk.injEq] at decoded
    exact ⟨sameHash, decoded.2.2⟩
  · rintro ⟨sameHash, samePlaintext⟩
    have sameRecipient : other = recipient := by
      rw [sameHash, isOther, Option.some_inj] at isRecipient
      exact isRecipient
    subst sameRecipient
    have sameCiphertext :=
      Blocks.mapBlocks_congr (by decide)
        (crypto.encryptBlock
          (Crypto.aesKey (identity.ecdhSharedSecret crypto other)))
        samePlaintext
    simp only [encodeDmPayload, Crypto.encryptThenMac,
      Crypto.aes128EcbEncrypt, sameHash, sameCiphertext]

/-- The acknowledgement covers the timestamp and the text. -/
theorem DmSend.ackInput_eq_iff
    (first second : DmSend) :
    first.ackInput identity = second.ackInput identity ↔
      first.timestamp = second.timestamp ∧
        first.carried = second.carried := by
  constructor
  · intro same
    have withoutKey := (List.append_inj_left' same rfl)
    simp only [List.append_assoc] at withoutKey
    obtain ⟨sameBytes, rest⟩ :=
      List.append_inj withoutKey (by simp)
    have sameTimestamp :=
      congrArg Bytes.u32FromLeBytes (Vector.toList_inj.mp sameBytes)
    rw [Bytes.u32FromLeBytes_toLeBytes, Bytes.u32FromLeBytes_toLeBytes]
      at sameTimestamp
    exact ⟨sameTimestamp, (List.cons.inj rest).2⟩
  · rintro ⟨sameTimestamp, sameText⟩
    simp only [DmSend.ackInput, sameTimestamp, sameText]

/-- The keys of two frames cover the same only for one frame. -/
theorem SentDm.frame_eq_of_dedupInput
    {first second : SentDm}
    (firstBuilt : first.IsBuilt crypto identity policy scope)
    (secondBuilt : second.IsBuilt crypto identity policy scope)
    (same :
      dedupInput first.built.frame = dedupInput second.built.frame) :
    first.built.frame = second.built.frame := by
  obtain ⟨_, emission, -, isEmission, isFirst⟩ := firstBuilt
  obtain ⟨_, otherEmission, -, isOtherEmission, isSecond⟩ := secondBuilt
  have sameEmission : otherEmission = emission := by
    rw [isEmission, Option.some_inj] at isOtherEmission
    exact isOtherEmission.symm
  subst sameEmission
  rw [isFirst, isSecond] at same ⊢
  simp only [dedupInput, packetPayloadView_assemble,
    List.cons.injEq, true_and] at same
  rw [same]

end Sending

/-- The table entry waits for this message and caches its frame. -/
structure SentDm.TrackedAs
    (sent : SentDm)
    (tracked : OutstandingSend) :
    Prop where
  ackHash : tracked.ackHash = sent.built.ackHash
  kind : tracked.kind = .dm sent.send.toHash
  frame : tracked.frame = sent.built.frame.take frameBuf

/-- The dispatcher and the messages it sent. -/
structure SendLog where
  dispatcher : Dispatcher
  sent : List SentDm

/-- What happens to the dispatcher while messages are sent. -/
inductive SendEvent where
  | send (txEpochBase : UInt32) (toHash : UInt8) (text : List UInt8)
  | reply (frame : List UInt8)
  | sweep (now : Nat) (canPost : UInt8 → Bool)
  | drain
  | ack (ackHash : AckHash)

namespace SendLog

/-- Nothing was sent yet. -/
def new : SendLog :=
  { dispatcher := .new
    sent := [] }

/-- Queue and track a message. -/
def track
    (log : SendLog)
    (sent : SentDm) :
    SendLog :=
  { dispatcher :=
      (log.dispatcher.sendAcked (.dm sent.send.toHash) sent.built.ackHash
        sent.built.frame).1
    sent := log.sent ++ [sent] }

/-- One step of the dispatcher. -/
def step
    (crypto : Crypto)
    (identity : Identity)
    (policy : PolicyFilter)
    (scope : RegionScope)
    (log : SendLog) :
    SendEvent → SendLog
  | .send txEpochBase toHash text =>
      match sendDm crypto identity policy scope txEpochBase
          log.dispatcher.now toHash text with
      | .queued _ built =>
          log.track
            { send :=
                { txEpochBase := txEpochBase
                  nowMs := log.dispatcher.now
                  toHash := toHash
                  text := text }
              built := built }
      | _ => log
  | .reply frame =>
      { log with dispatcher := (log.dispatcher.queueFrame frame none).1 }
  | .sweep now canPost =>
      { log with
        dispatcher := (log.dispatcher.sweepRetries now canPost).1 }
  | .drain =>
      { log with dispatcher := log.dispatcher.drain }
  | .ack ackHash =>
      { log with dispatcher := (log.dispatcher.ackHeard ackHash).1 }

/-- A message is told from every other one by its frame, by its acknowledgement,
by the send that the acknowledgement resolves, and by the filter of a receiver. -/
structure Identified
    (crypto : Crypto)
    (log : SendLog) :
    Prop where
  frames : (log.sent.map fun sent => sent.built.frame).Nodup
  hashes : (log.sent.map fun sent => sent.built.ackHash).Nodup
  acks :
    ∀ sent ∈ log.sent, ∀ resolved,
      (log.dispatcher.ackHeard sent.built.ackHash).2 = some resolved →
        sent.TrackedAs resolved
  heard :
    ∀ earlier sent later,
      log.sent = earlier ++ sent :: later →
        ∀ heard : List (List UInt8),
          (∀ frame ∈ heard, ∃ other ∈ earlier ++ later,
            frame = other.built.frame) →
            (heard.foldl
                (fun filter frame =>
                  DuplicateFilter.insert filter crypto frame)
                DuplicateFilter.new).isDuplicate crypto
                  sent.built.frame =
              false

section Runs

variable
    {crypto : Crypto}
    {identity : Identity}
    {policy : PolicyFilter}
    {scope : RegionScope}

variable (crypto identity policy scope) in
/-- Messages are built for their contacts, and the table tracks them only. -/
structure Sound
    (log : SendLog) :
    Prop where
  built :
    ∀ sent ∈ log.sent, sent.IsBuilt crypto identity policy scope
  origin :
    ∀ tracked ∈ log.dispatcher.outstanding.sends,
      ∃ sent ∈ log.sent, sent.TrackedAs tracked

theorem sound_new :
    Sound crypto identity policy scope new :=
  { built := fun _ member => absurd member List.not_mem_nil
    origin := fun _ member => by
      simp [new, Dispatcher.new] at member }

/-- A dispatcher that tracks no other messages is sound. -/
theorem Sound.dispatcher
    {log : SendLog}
    (sound : Sound crypto identity policy scope log)
    {dispatcher : Dispatcher}
    (fewer :
      dispatcher.outstanding.sends ⊆ log.dispatcher.outstanding.sends) :
    Sound crypto identity policy scope
      { log with dispatcher := dispatcher } :=
  { built := sound.built
    origin := fun tracked member =>
      sound.origin tracked (fewer member) }

/-- A message that was built may be tracked. -/
theorem Sound.track
    {log : SendLog}
    (sound : Sound crypto identity policy scope log)
    {sent : SentDm}
    (isBuilt : sent.IsBuilt crypto identity policy scope) :
    Sound crypto identity policy scope (log.track sent) := by
  refine
    { built := ?_
      origin := ?_ }
  · intro other member
    rcases List.mem_append.mp member with old | isNew
    · exact sound.built other old
    · rw [List.mem_singleton.mp isNew]
      exact isBuilt
  · intro tracked member
    rcases Dispatcher.mem_sendAcked_sends member with rfl | old
    · exact ⟨sent, List.mem_append_right _ List.mem_cons_self,
        { ackHash := rfl
          kind := rfl
          frame := rfl }⟩
    · obtain ⟨other, isSent, trackedAs⟩ := sound.origin tracked old
      exact ⟨other, List.mem_append_left _ isSent, trackedAs⟩

/-- Every step is sound. -/
theorem Sound.step
    {log : SendLog}
    (sound : Sound crypto identity policy scope log)
    (event : SendEvent) :
    Sound crypto identity policy scope
      (step crypto identity policy scope log event) := by
  cases event with
  | send txEpochBase toHash text =>
      simp only [SendLog.step]
      split
      · next recipient built queued =>
        exact
          sound.track
            (@isBuilt_of_queued crypto identity policy scope
              { txEpochBase := txEpochBase
                nowMs := log.dispatcher.now
                toHash := toHash
                text := text }
              recipient built queued)
      · exact sound
  | reply frame =>
      exact
        sound.dispatcher (log.dispatcher.queueFrame_sends frame none).subset
  | sweep now canPost =>
      refine
        { built := sound.built
          origin := ?_ }
      intro tracked member
      rcases Dispatcher.mem_sweepRetries_sends member with
        old | ⟨before, isBefore, rfl⟩
      · exact sound.origin tracked old
      · obtain ⟨sent, isSent, trackedAs⟩ := sound.origin before isBefore
        exact ⟨sent, isSent,
          { ackHash := trackedAs.ackHash
            kind := trackedAs.kind
            frame := trackedAs.frame }⟩
  | drain => exact sound.dispatcher (fun _ member => member)
  | ack ackHash =>
      apply sound.dispatcher
      intro tracked member
      have remaining :=
        (log.dispatcher.outstanding.resolve_eq ackHash).1
      have inRemaining :
          tracked ∈
            (log.dispatcher.outstanding.resolve ackHash).1.sends :=
        member
      rw [remaining] at inRemaining
      exact List.mem_of_mem_eraseP inRemaining

/-- What was sent stays sent. -/
theorem sent_run
    (log : SendLog)
    (events : List SendEvent) :
    log.sent <+:
      (Transition.run (step crypto identity policy scope) log
        events).sent := by
  induction events generalizing log with
  | nil =>
      exact List.prefix_refl _
  | cons event rest inductionHypothesis =>
      refine List.IsPrefix.trans ?_ (inductionHypothesis _)
      cases event with
      | send txEpochBase toHash text =>
          simp only [SendLog.step]
          split
          · exact List.prefix_append _ _
          · exact List.prefix_refl _
      | reply frame => exact List.prefix_refl _
      | sweep now canPost => exact List.prefix_refl _
      | drain => exact List.prefix_refl _
      | ack ackHash => exact List.prefix_refl _

/-- Every run is sound. -/
theorem sound_run
    (events : List SendEvent) :
    Sound crypto identity policy scope
      (Transition.run (step crypto identity policy scope) new events) :=
  (@Transition.always_of_invariant _ _
    (SendLog.step crypto identity policy scope)
    (Sound crypto identity policy scope)
    (fun _ event sound => sound.step event) _ sound_new events).last

/-- An acknowledgement resolves the message it is waited for by. -/
theorem Sound.acks
    {log : SendLog}
    (sound : Sound crypto identity policy scope log)
    (hashes : (log.sent.map fun sent => sent.built.ackHash).Nodup)
    {sent : SentDm}
    (isSent : sent ∈ log.sent)
    {resolved : OutstandingSend}
    (isResolved :
      (log.dispatcher.ackHeard sent.built.ackHash).2 = some resolved) :
    sent.TrackedAs resolved := by
  have found :
      log.dispatcher.outstanding.sends.find?
          (·.ackHash == sent.built.ackHash) =
        some resolved := by
    rw [← (log.dispatcher.outstanding.resolve_eq _).2]
    exact isResolved
  obtain ⟨other, isOther, trackedAs⟩ :=
    sound.origin resolved (List.mem_of_find?_eq_some found)
  have sameHash : resolved.ackHash = sent.built.ackHash := by
    simpa using List.find?_some found
  have isSame : other = sent :=
    List.inj_on_of_nodup_map hashes isOther isSent
      (trackedAs.ackHash.symm.trans sameHash)
  rw [← isSame]
  exact trackedAs

/-- A filter that heard other messages only does not drop this one. -/
theorem Sound.heard
    {log : SendLog}
    (sound : Sound crypto identity policy scope log)
    (apart :
      CollisionFree crypto
        (log.sent.map fun sent => dedupInput sent.built.frame))
    (frames : (log.sent.map fun sent => sent.built.frame).Nodup)
    {earlier later : List SentDm}
    {sent : SentDm}
    (isSplit : log.sent = earlier ++ sent :: later)
    {heard : List (List UInt8)}
    (others :
      ∀ frame ∈ heard, ∃ other ∈ earlier ++ later,
        frame = other.built.frame) :
    (heard.foldl
        (fun filter frame => DuplicateFilter.insert filter crypto frame)
        DuplicateFilter.new).isDuplicate crypto sent.built.frame =
      false := by
  have remembers :
      SeenRing.Remembers
        (heard.foldl
          (fun filter frame => DuplicateFilter.insert filter crypto frame)
          DuplicateFilter.new)
        (heard.map (packetDedupKey crypto)) :=
    DuplicateFilter.remembers_afterInserts crypto heard
  rw [Bool.eq_false_iff]
  intro duplicate
  obtain ⟨frame, isHeard, sameKey⟩ :=
    List.mem_map.mp (remembers.mem_of_contains duplicate)
  obtain ⟨other, isOther, rfl⟩ := others frame isHeard
  have isSent : sent ∈ log.sent := by
    simp [isSplit]
  have otherSent : other ∈ log.sent := by
    rw [isSplit]
    rcases List.mem_append.mp isOther with before | behind
    · exact List.mem_append_left _ before
    · exact List.mem_append_right _ (List.mem_cons_of_mem _ behind)
  rw [packetDedupKey_eq, packetDedupKey_eq] at sameKey
  have sameFrame :=
    SentDm.frame_eq_of_dedupInput (sound.built other otherSent)
      (sound.built sent isSent)
      (apart _ (List.mem_map.mpr ⟨other, otherSent, rfl⟩) _
        (List.mem_map.mpr ⟨sent, isSent, rfl⟩) sameKey)
  rw [isSplit, List.map_append, List.map_cons] at frames
  have notAgain := (List.nodup_middle.mp frames)
  rw [List.nodup_cons, ← List.map_append] at notAgain
  exact notAgain.1 (List.mem_map.mpr ⟨other, isOther, sameFrame⟩)

/-- Messages that are distinguished are identified. -/
theorem Sound.identified
    (inverse : crypto.DecryptsEncrypted)
    {log : SendLog}
    (sound : Sound crypto identity policy scope log)
    (acksApart :
      CollisionFree crypto
        (log.sent.map fun sent => sent.send.ackInput identity))
    (framesApart :
      CollisionFree crypto
        (log.sent.map fun sent => dedupInput sent.built.frame))
    (distinguished :
      log.sent.Pairwise fun first second =>
        first.send.Distinguished second.send) :
    log.Identified crypto := by
  have frames :
      (log.sent.map fun sent => sent.built.frame).Nodup := by
    rw [List.Nodup, List.pairwise_map]
    refine distinguished.imp_of_mem ?_
    intro first second isFirst isSecond apart same
    exact apart.2
      ((SentDm.frame_eq_iff inverse (sound.built first isFirst)
        (sound.built second isSecond)).mp same)
  have hashes :
      (log.sent.map fun sent => sent.built.ackHash).Nodup := by
    rw [List.Nodup, List.pairwise_map]
    refine distinguished.imp_of_mem ?_
    intro first second isFirst isSecond apart same
    rw [(sound.built first isFirst).ackHash_eq,
      (sound.built second isSecond).ackHash_eq] at same
    have sameInput :=
      acksApart _ (List.mem_map.mpr ⟨first, isFirst, rfl⟩) _
        (List.mem_map.mpr ⟨second, isSecond, rfl⟩) same
    exact apart.1
      ((DmSend.ackInput_eq_iff first.send second.send).mp sameInput)
  exact
    { frames := frames
      hashes := hashes
      acks := fun _ isSent _ isResolved =>
        sound.acks hashes isSent isResolved
      heard := fun _ _ _ isSplit _ others =>
        sound.heard framesApart frames isSplit others }

/-- Messages that are identified are distinguished. -/
theorem Sound.distinguished
    (inverse : crypto.DecryptsEncrypted)
    {log : SendLog}
    (sound : Sound crypto identity policy scope log)
    (identified : log.Identified crypto) :
    log.sent.Pairwise fun first second =>
      first.send.Distinguished second.send := by
  have frames := List.pairwise_map.mp identified.frames
  have hashes := List.pairwise_map.mp identified.hashes
  refine (frames.and hashes).imp_of_mem ?_
  rintro first second isFirst isSecond ⟨otherFrame, otherHash⟩
  constructor
  · intro same
    apply otherHash
    rw [(sound.built first isFirst).ackHash_eq,
      (sound.built second isSecond).ackHash_eq,
      (DmSend.ackInput_eq_iff first.send second.send).mpr same]
  · intro same
    exact otherFrame
      ((SentDm.frame_eq_iff inverse (sound.built first isFirst)
        (sound.built second isSecond)).mpr same)

end Runs

end SendLog

open SendLog in
/-- In a run all messages are identified exactly when no two of them have the same
timestamp and text, or the same contact and padded plaintext. -/
theorem sends_identified_iff
    {crypto : Crypto}
    (inverse : crypto.DecryptsEncrypted)
    (identity : Identity)
    (policy : PolicyFilter)
    (scope : RegionScope)
    (events : List SendEvent)
    (acksApart :
      CollisionFree crypto
        ((Transition.run (step crypto identity policy scope) new
          events).sent.map fun sent => sent.send.ackInput identity))
    (framesApart :
      CollisionFree crypto
        ((Transition.run (step crypto identity policy scope) new
          events).sent.map fun sent => dedupInput sent.built.frame)) :
    Transition.Always (step crypto identity policy scope)
        (Identified crypto) new events ↔
      (Transition.run (step crypto identity policy scope) new
        events).sent.Pairwise fun first second =>
          first.send.Distinguished second.send := by
  constructor
  · intro always
    exact (sound_run events).distinguished inverse always.last
  · intro distinguished
    rw [Transition.always_iff_prefix]
    rintro earlier ⟨rest, rfl⟩
    rw [Transition.run_append] at acksApart framesApart distinguished
    have fewer :=
      @sent_run crypto identity policy scope
        (Transition.run (step crypto identity policy scope) new earlier)
        rest
    exact
      (sound_run earlier).identified inverse
        (acksApart.mono (fewer.sublist.map _).subset)
        (framesApart.mono (fewer.sublist.map _).subset)
        (distinguished.sublist fewer.sublist)

/-- The primitives on the message `hi` sent in two successive seconds. -/
def successiveMessages : CryptoRecord :=
  { ciphers :=
      [(Crypto.aesKey RecordedKeys.anaSecret,
          RecordedKeys.hiPlaintext,
          RecordedKeys.anaHiCiphertext),
        (Crypto.aesKey RecordedKeys.anaSecret,
          #v[0x02, 0x02, 0x03, 0x64, 0x00, 0x68, 0x69, 0x00, 0x00, 0x00,
            0x00, 0x00, 0x00, 0x00, 0x00, 0x00],
          #v[0x01, 0x61, 0xD2, 0x6B, 0xB7, 0xA2, 0x7C, 0x7B, 0x22, 0xB3,
            0xF9, 0xB3, 0x68, 0x23, 0x8C, 0x5A])]
    codes :=
      [(RecordedKeys.anaSecret.toList,
          RecordedKeys.anaHiCiphertext.toList,
          RecordedKeys.anaHiCode),
        (RecordedKeys.anaSecret.toList,
          [0x01, 0x61, 0xD2, 0x6B, 0xB7, 0xA2, 0x7C, 0x7B, 0x22, 0xB3,
            0xF9, 0xB3, 0x68, 0x23, 0x8C, 0x5A],
          #v[0x53, 0xB7, 0xA1, 0xD9, 0xAD, 0xB7, 0x6A, 0x8A, 0x70, 0x7A,
            0x7A, 0x99, 0xAC, 0xDE, 0xD0, 0x55, 0x8B, 0x96, 0x99, 0x8B,
            0x19, 0xF2, 0x95, 0x8A, 0xFB, 0xDF, 0x2B, 0xAD, 0xD2, 0xA6,
            0xA0, 0xBA])]
    digests :=
      [([0x01, 0x02, 0x03, 0x64, 0x00, 0x68, 0x69, 0x8A, 0x88, 0xE3, 0xDD,
          0x74, 0x09, 0xF1, 0x95, 0xFD, 0x52, 0xDB, 0x2D, 0x3C, 0xBA, 0x5D,
          0x72, 0xCA, 0x67, 0x09, 0xBF, 0x1D, 0x94, 0x12, 0x1B, 0xF3, 0x74,
          0x88, 0x01, 0xB4, 0x0F, 0x6F, 0x5C],
          RecordedKeys.deviceHiDigest),
        ([0x02, 0x0B, 0x8A, 0x8A, 0x83, 0x63, 0xE8, 0x61, 0xA8, 0x43, 0x0C,
          0x1E, 0x61, 0xC5, 0x8E, 0xC2, 0xD5, 0xC4, 0x26, 0x6B, 0xB4],
          #v[0xCC, 0x7C, 0x0C, 0x84, 0x95, 0x4B, 0x54, 0xE5, 0xD5, 0x4E,
            0x36, 0x47, 0x52, 0xA9, 0x0E, 0x02, 0x3D, 0xC2, 0x0C, 0xD5,
            0xC6, 0x2D, 0x46, 0x25, 0x35, 0x77, 0x86, 0x90, 0x3E, 0x3F,
            0x88, 0xB7]),
        ([0x02, 0x02, 0x03, 0x64, 0x00, 0x68, 0x69, 0x8A, 0x88, 0xE3, 0xDD,
          0x74, 0x09, 0xF1, 0x95, 0xFD, 0x52, 0xDB, 0x2D, 0x3C, 0xBA, 0x5D,
          0x72, 0xCA, 0x67, 0x09, 0xBF, 0x1D, 0x94, 0x12, 0x1B, 0xF3, 0x74,
          0x88, 0x01, 0xB4, 0x0F, 0x6F, 0x5C],
          #v[0x3B, 0x78, 0x81, 0xD8, 0x43, 0x83, 0x27, 0xE1, 0xC0, 0x36,
            0xD9, 0xB3, 0x54, 0x66, 0x19, 0x8F, 0x72, 0x36, 0xB1, 0x10,
            0x03, 0xBE, 0x8B, 0xFB, 0xDE, 0x57, 0xAC, 0x82, 0x84, 0x07,
            0x51, 0xAC]),
        ([0x02, 0x0B, 0x8A, 0x53, 0xB7, 0x01, 0x61, 0xD2, 0x6B, 0xB7, 0xA2,
          0x7C, 0x7B, 0x22, 0xB3, 0xF9, 0xB3, 0x68, 0x23, 0x8C, 0x5A],
          #v[0x8C, 0xE3, 0xEF, 0x94, 0x5B, 0x43, 0xDF, 0x51, 0x1C, 0x40,
            0x7F, 0x42, 0xB0, 0xC3, 0xE9, 0x59, 0x74, 0xC5, 0x2D, 0xA9,
            0x18, 0xA8, 0x1A, 0x8A, 0x42, 0x18, 0x40, 0x7C, 0xD6, 0x7D,
            0x6C, 0xBB])]
    agreements := RecordedKeys.agreements }

/-- The message `hi` is sent twice to one contact, with some time in between. -/
def sentTwice
    (betweenMs : Nat) :
    List SendEvent :=
  [.send 0x64030201 0x0B [0x68, 0x69], .sweep betweenMs (fun _ => true),
    .send 0x64030201 0x0B [0x68, 0x69]]

/-- The dispatcher after such a run. -/
def afterEvents
    (events : List SendEvent) :
    SendLog :=
  Transition.run
    (SendLog.step successiveMessages.crypto RecordedKeys.device
      (PolicyFilter.new.addContacts
        [{ pubkey := RecordedKeys.anaPubkey
           telemetry := false }])
      .unscoped)
    .new events

/-- A second apart, the two messages are identified. -/
theorem sends_identified_apart :
    Transition.Always
        (SendLog.step successiveMessages.crypto RecordedKeys.device
          (PolicyFilter.new.addContacts
            [{ pubkey := RecordedKeys.anaPubkey
               telemetry := false }])
          .unscoped)
        (SendLog.Identified successiveMessages.crypto) .new
        (sentTwice 1000) ↔
      (afterEvents (sentTwice 1000)).sent.Pairwise fun first second =>
        first.send.Distinguished second.send := by
  have acksApart :
      CollisionFree successiveMessages.crypto
        ((afterEvents (sentTwice 1000)).sent.map fun sent =>
          sent.send.ackInput RecordedKeys.device) := by
    unfold CollisionFree
    decide +kernel
  have framesApart :
      CollisionFree successiveMessages.crypto
        ((afterEvents (sentTwice 1000)).sent.map fun sent =>
          dedupInput sent.built.frame) := by
    unfold CollisionFree
    decide +kernel
  exact
    sends_identified_iff successiveMessages.decryptsEncrypted
      RecordedKeys.device _ _ (sentTwice 1000) acksApart framesApart

/-- In one second, both messages have one frame and one acknowledgement, and who
heard the first drops the second. -/
theorem sends_sameSecond_unidentified :
    (afterEvents (sentTwice 999)).sent.map
          (fun sent => sent.built.ackHash) =
        [#v[0xA4, 0xD5, 0x8C, 0xC4], #v[0xA4, 0xD5, 0x8C, 0xC4]] ∧
      ((afterEvents (sentTwice 999)).sent.all fun first =>
          (afterEvents (sentTwice 999)).sent.all fun second =>
            (DuplicateFilter.new.insert successiveMessages.crypto
              first.built.frame).isDuplicate successiveMessages.crypto
                second.built.frame) =
        true ∧
      ¬(afterEvents (sentTwice 999)).Identified
        successiveMessages.crypto := by
  refine ⟨by decide +kernel, by decide +kernel, ?_⟩
  intro identified
  have frames := identified.frames
  revert frames
  decide +kernel

end MeshCadet
