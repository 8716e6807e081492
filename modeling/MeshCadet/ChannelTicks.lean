import MeshCadet.AckBits
import MeshCadet.BubbleTags
import MeshCadet.ChannelFrames

namespace MeshCadet

/-!
# Ticks of channel messages

A channel message is delivered when its own frame is heard repeated.  One slot
remembers the key of the message sent last; a match marks the newest pending entry
of the channel in the store, and an event marks the newest pending record of the
channel in the interface.  The store knows only what was sent, the interface also
what is still on its way to the dispatcher.
-/

open HistoryRegion HistoryStore Transition

/--
The channel message whose repeat is waited for.  The code keeps the key of its
frame and the channel; the number of the send and the frame itself are not kept.
-/
structure PendingChannelAck where
  hash : Vector UInt8 4
  channelHash : UInt8
  send : Nat
  frame : List UInt8
deriving Repr, DecidableEq

/-- The pending message, if the frame that was heard again has its key. -/
def matchPendingChannelAck
    (got : Vector UInt8 4)
    (pendingChannelAck : Option PendingChannelAck) :
    Option PendingChannelAck :=
  pendingChannelAck.filter fun expected => expected.hash == got

/-- The store, with a journal of what was stored for every channel. -/
structure ChannelStore where
  store : HistoryStore
  journal : UInt8 → List (JournalEntry Nat)

namespace ChannelStore

/-- Append an entry; a full directory stores nothing. -/
def append
    (stored : ChannelStore)
    (kind : HistoryMsgType)
    (convHash : UInt8)
    (entry : HistoryEntry)
    (sentAs : Option Nat) :
    ChannelStore :=
  match stored.store.appendConversation kind convHash
      { entry := entry
        isOurs := sentAs.isSome
        acked := sentAs.isNone } with
  | .ok after =>
      { store := after
        journal :=
          if kind = .grpTxt then
            Function.update stored.journal convHash
              (stored.journal convHash ++
                [{ entry := entry, sentAs := sentAs }])
          else
            stored.journal }
  | .error _ => stored

/-- Set the delivery bit of the channel's newest pending entry. -/
def markAcked
    (stored : ChannelStore)
    (channelHash : UInt8) :
    ChannelStore :=
  { stored with store := stored.store.marked .grpTxt channelHash }

/-- The sends stored for a channel, oldest first. -/
def names
    (stored : ChannelStore)
    (channelHash : UInt8) :
    List Nat :=
  (stored.journal channelHash).filterMap JournalEntry.sentAs

/-- The newest stored entry of a channel that is still pending. -/
def newestPending
    (stored : ChannelStore)
    (heard : List Nat)
    (channelHash : UInt8) :
    Option (JournalEntry Nat) :=
  (((stored.journal channelHash).rtake maxHistoryEntries).filter
    (JournalEntry.isPending heard)).getLast?

/-- In every channel the delivery bits are set exactly on the sends whose repeat
was heard. -/
structure BitsRight
    (stored : ChannelStore)
    (heard : List Nat) :
    Prop where
  sound : stored.store.Sound
  bits :
    ∀ channelHash,
      stored.store.conversation .grpTxt channelHash =
        ((stored.journal channelHash).rtake maxHistoryEntries).map
          (JournalEntry.slot heard)
  once : ∀ channelHash, (stored.names channelHash).Nodup

variable
    {stored : ChannelStore}
    {heard : List Nat}

/-- A channel without stored entries has an empty journal. -/
theorem BitsRight.journal_eq_nil
    (right : stored.BitsRight heard)
    {channelHash : UInt8}
    (isEmpty : stored.store.conversation .grpTxt channelHash = []) :
    stored.journal channelHash = [] := by
  have noSlots := (right.bits channelHash).symm.trans isEmpty
  rw [List.map_eq_nil_iff, List.rtake, List.drop_eq_nil_iff] at noSlots
  apply List.eq_nil_of_length_eq_zero
  have positive : 0 < maxHistoryEntries := by
    decide
  omega

/-- Storing a direct message leaves the delivery bits of the channels alone. -/
theorem BitsRight.appendDm
    (right : stored.BitsRight heard)
    (convHash : UInt8)
    (entry : HistoryEntry)
    (sentAs : Option Nat) :
    (stored.append .dm convHash entry sentAs).BitsRight heard := by
  rcases right.sound.append .dm convHash
      { entry := entry
        isOurs := sentAs.isSome
        acked := sentAs.isNone } with
    ⟨after, appended, soundAfter, -, others⟩ | ⟨failed, -⟩
  · simp only [ChannelStore.append, appended]
    refine
      { sound := soundAfter
        bits := ?_
        once := right.once }
    intro other
    rw [others .grpTxt other (by simp), right.bits other]
    rfl
  · simp only [ChannelStore.append, failed]
    exact right

/-- Storing an entry whose send was not stored or heard before. -/
theorem BitsRight.append
    (right : stored.BitsRight heard)
    (kind : HistoryMsgType)
    (convHash : UInt8)
    (entry : HistoryEntry)
    {sentAs : Option Nat}
    (fresh :
      ∀ send, sentAs = some send →
        send ∉ heard ∧ ∀ channelHash, send ∉ stored.names channelHash) :
    (stored.append kind convHash entry sentAs).BitsRight heard := by
  cases kind with
  | dm =>
      exact right.appendDm convHash entry sentAs
  | grpTxt =>
      let slot : DecodedSlot :=
        { entry := entry
          isOurs := sentAs.isSome
          acked := sentAs.isNone }
      have sameSlot :
          JournalEntry.slot heard { entry := entry, sentAs := sentAs } =
            slot := by
        cases sent : sentAs with
        | none => simp [JournalEntry.slot, slot, sent]
        | some send =>
            simp [JournalEntry.slot, slot, sent, (fresh send sent).1]
      rcases right.sound.append .grpTxt convHash slot with
        ⟨after, appended, soundAfter, own, others⟩ | ⟨failed, -⟩
      · simp only [ChannelStore.append, slot] at appended ⊢
        rw [appended]
        simp only [if_true]
        refine
          { sound := soundAfter
            bits := ?_
            once := ?_ }
        · intro other
          by_cases same : other = convHash
          · subst same
            simp only [Function.update_self]
            rw [own, right.bits other, JournalEntry.map_rtake_concat,
              sameSlot]
          · simp only [Function.update_of_ne same]
            rw [others .grpTxt other (by simpa using same),
              right.bits other]
        · intro other
          by_cases same : other = convHash
          · subst same
            simp only [names, Function.update_self,
              List.filterMap_append]
            rw [List.nodup_append]
            refine ⟨right.once other, ?_, ?_⟩
            · cases sentAs <;> simp
            · rintro send isStored added isAdded rfl
              have isNew : sentAs = some send := by
                simpa using isAdded
              exact (fresh send isNew).2 other isStored
          · simp only [names, Function.update_of_ne same]
            exact right.once other
      · simp only [ChannelStore.append, slot] at failed ⊢
        rw [failed]
        exact right

/-- The sends stored after an append. -/
theorem mem_names_append
    {kind : HistoryMsgType}
    {convHash channelHash : UInt8}
    {entry : HistoryEntry}
    {sentAs : Option Nat}
    {send : Nat}
    (member :
      send ∈
        (stored.append kind convHash entry sentAs).names channelHash) :
    send ∈ stored.names channelHash ∨
      (channelHash = convHash ∧ sentAs = some send) := by
  unfold ChannelStore.append at member
  split at member
  · by_cases isChannel : kind = .grpTxt
    · by_cases same : channelHash = convHash
      · subst same
        simp only [isChannel, if_true, names, Function.update_self,
          List.filterMap_append, List.mem_append] at member
        rcases member with old | isNew
        · exact .inl old
        · exact .inr ⟨rfl, by simpa using isNew⟩
      · left
        simpa [isChannel, names, same] using member
    · left
      simpa [isChannel, names] using member
  · exact .inl member

/-- The newest send stored for a channel is the one just appended, or there is
none. -/
theorem BitsRight.newest_append
    (right : stored.BitsRight heard)
    (channelHash : UInt8)
    (entry : HistoryEntry)
    (send : Nat) :
    ∀ newest ∈
        ((stored.append .grpTxt channelHash entry
          (some send)).names channelHash).getLast?,
      newest = send := by
  rcases right.sound.append .grpTxt channelHash
      { entry := entry
        isOurs := true
        acked := false } with
    ⟨after, appended, -⟩ | ⟨failed, isEmpty, -⟩
  · simp [ChannelStore.append, appended, names, List.filterMap_append]
  · have noJournal := right.journal_eq_nil isEmpty
    simp [ChannelStore.append, failed, names, noJournal]

/-- Storing what was not sent leaves the newest send of every channel. -/
theorem names_append_none
    (kind : HistoryMsgType)
    (convHash : UInt8)
    (entry : HistoryEntry)
    (channelHash : UInt8) :
    (stored.append kind convHash entry none).names channelHash =
      stored.names channelHash := by
  unfold ChannelStore.append
  split
  · by_cases isChannel : kind = .grpTxt
    · by_cases same : channelHash = convHash
      · subst same
        simp [isChannel, names, List.filterMap_append]
      · simp [isChannel, names, same]
    · simp [isChannel, names]
  · rfl

/-- Storing a direct message leaves the channels alone. -/
theorem names_append_dm
    (convHash : UInt8)
    (entry : HistoryEntry)
    (sentAs : Option Nat)
    (channelHash : UInt8) :
    (stored.append .dm convHash entry sentAs).names channelHash =
      stored.names channelHash := by
  unfold ChannelStore.append
  split
  · simp [names]
  · rfl

end ChannelStore

/-- Of entries whose newest send is still pending, the newest pending one is its
own. -/
theorem newestPending_sentAs
    {window : List (JournalEntry Nat)}
    {heard : List Nat}
    {send : Nat}
    (newest :
      ∀ last ∈ (window.filterMap JournalEntry.sentAs).getLast?,
        last = send)
    (open' : send ∉ heard) :
    ∀ stored ∈ (window.filter (JournalEntry.isPending heard)).getLast?,
      stored.sentAs = some send := by
  induction window using List.reverseRecOn with
  | nil =>
      simp
  | append_singleton earlier last inductionHypothesis =>
      cases sent : last.sentAs with
      | none =>
          have notPending : last.isPending heard = false := by
            simp [JournalEntry.isPending, JournalEntry.slot,
              DecodedSlot.isOursUnacked, sent]
          simp only [List.filterMap_append, List.filterMap_cons, sent,
            List.filterMap_nil, List.append_nil] at newest
          simpa [List.filter_append, notPending] using
            inductionHypothesis newest
      | some name =>
          have isSend : name = send := by
            apply newest
            simp [List.filterMap_append, sent]
          subst isSend
          have pending : last.isPending heard = true :=
            JournalEntry.isPending_of_sentAs sent open'
          simp [List.filter_append, pending, sent]

namespace ChannelStore

variable
    {stored : ChannelStore}
    {heard : List Nat}

/-- Marking is right when the newest send of the channel is the one heard. -/
theorem BitsRight.markAcked
    (right : stored.BitsRight heard)
    {channelHash : UInt8}
    {send : Nat}
    (open' : send ∉ heard)
    (newest :
      ∀ last ∈ (stored.names channelHash).getLast?, last = send)
    (others :
      ∀ other, other ≠ channelHash → send ∉ stored.names other) :
    (stored.markAcked channelHash).BitsRight (send :: heard) := by
  obtain ⟨after, flag, marked, soundAfter, own, sameOthers⟩ :=
    right.sound.mark .grpTxt channelHash
  have isMarked : stored.store.marked .grpTxt channelHash = after := by
    simp [HistoryStore.marked, marked]
  refine
    { sound := ?_
      bits := ?_
      once := right.once }
  · simpa only [ChannelStore.markAcked, isMarked] using soundAfter
  · intro other
    simp only [ChannelStore.markAcked, isMarked]
    by_cases same : other = channelHash
    · subst same
      have windowNewest :
          ∀ last ∈
              (((stored.journal other).rtake
                maxHistoryEntries).filterMap
                  JournalEntry.sentAs).getLast?,
            last = send := by
        intro last isLast
        apply newest
        -- the window is what remains of the journal behind a cut
        have isSplit :=
          List.take_append_drop
            ((stored.journal other).length - maxHistoryEntries)
            (stored.journal other)
        rw [names, ← isSplit, List.filterMap_append,
          List.getLast?_append]
        rw [List.rtake] at isLast
        rw [Option.mem_def.mp isLast]
        rfl
      have windowOnce :
          (((stored.journal other).rtake maxHistoryEntries).filterMap
            JournalEntry.sentAs).Nodup :=
        ((List.drop_sublist _ _).filterMap _).nodup (right.once other)
      rw [own, right.bits other]
      exact
        (JournalEntry.markNewest_eq_iff open' windowOnce).mpr
          (newestPending_sentAs windowNewest open')
    · rw [sameOthers .grpTxt other (by simpa using same),
        right.bits other]
      apply List.map_congr_left
      intro entry member
      symm
      apply JournalEntry.slot_cons_of_ne
      intro isSend
      exact others other same
        (List.mem_filterMap.mpr
          ⟨entry, List.mem_of_mem_drop member, isSend⟩)

/-- Marking for another send's sake is right when nothing is pending. -/
theorem BitsRight.markAcked_foreign_iff
    (right : stored.BitsRight heard)
    (channelHash : UInt8) :
    (stored.markAcked channelHash).BitsRight heard ↔
      stored.newestPending heard channelHash = none := by
  obtain ⟨after, flag, marked, soundAfter, own, sameOthers⟩ :=
    right.sound.mark .grpTxt channelHash
  have isMarked : stored.store.marked .grpTxt channelHash = after := by
    simp [HistoryStore.marked, marked]
  have kept :
      withNewestAcked (stored.store.conversation .grpTxt channelHash) =
          stored.store.conversation .grpTxt channelHash ↔
        stored.newestPending heard channelHash = none := by
    rw [right.bits channelHash]
    exact Search.updateLast_map_eq_self_iff
      (fun entry _ => JournalEntry.markAcked_ne (entry.slot heard))
  rw [← kept, ← own, ← isMarked]
  constructor
  · intro rightAfter
    exact (rightAfter.bits channelHash).trans (right.bits channelHash).symm
  · intro unchanged
    refine
      { sound := ?_
        bits := ?_
        once := right.once }
    · simpa only [ChannelStore.markAcked, isMarked] using soundAfter
    · intro other
      by_cases same : other = channelHash
      · subst same
        exact unchanged.trans (right.bits other)
      · simp only [ChannelStore.markAcked, isMarked]
        rw [sameOthers .grpTxt other (by simpa using same),
          right.bits other]

end ChannelStore

/-- The two tasks with the store, and whose repeat was heard. -/
structure ChannelTicks where
  link : UiLink
  batch : List QueuedCommand
  pendingChannelAck : Option PendingChannelAck
  stored : ChannelStore
  dispatched : List Nat
  heard : List Nat
  view : Nat → SendView

/-- What a command of the interface is carried out with. -/
structure DispatchContext where
  config : ChannelConfig
  nowMs : Nat
  text : List UInt8
  dmSent : Bool
deriving Repr, DecidableEq

/-- What either task does next. -/
inductive ChannelEvent where
  | send (channelHash : UInt8)
  | directMessage (toHash : UInt8)
  | otherCommand
  | takeCommands
  | dispatch (context : DispatchContext)
  | repeatHeard (frame : List UInt8)
  | receive (kind : HistoryMsgType) (fromHash : UInt8)
      (timestamp : UInt32) (text : List UInt8)
  | handleEvent
  | reboot (restored : UInt8 → List DecodedSlot)

namespace ChannelTicks

/-- After boot with an erased history, with conversations shown. -/
def new
    (restored : UInt8 → List DecodedSlot) :
    ChannelTicks :=
  { link := .seeded restored
    batch := []
    pendingChannelAck := none
    stored :=
      { store := newErased
        journal := fun _ => [] }
    dispatched := []
    heard := []
    view := fun _ => .initial }

/-- The dispatcher sends a channel message: the slot remembers its key, and the
message is stored. -/
def sendGroupMsg
    (crypto : Crypto)
    (context : DispatchContext)
    (ticks : ChannelTicks)
    (channelHash : UInt8)
    (send : Nat) :
    ChannelTicks :=
  match
    channelFrame crypto context.config context.nowMs channelHash
      context.text
  with
  | none => ticks
  | some frame =>
      { ticks with
        pendingChannelAck :=
          some
            { hash := packetDedupKey crypto frame
              channelHash := channelHash
              send := send
              frame := frame }
        stored :=
          ticks.stored.append .grpTxt channelHash
            (historyEntry channelHash .grpTxt
              (txTimestamp context.config.txEpochBase context.nowMs)
              context.text)
            (some send)
        dispatched := send :: ticks.dispatched }

/-- A direct message that is sent is stored. -/
def sendDm
    (context : DispatchContext)
    (ticks : ChannelTicks)
    (toHash : UInt8)
    (send : Nat) :
    ChannelTicks :=
  if context.dmSent then
    { ticks with
      stored :=
        ticks.stored.append .dm toHash
          (historyEntry toHash .dm
            (txTimestamp context.config.txEpochBase context.nowMs)
            context.text)
          (some send) }
  else
    ticks

/-- A frame is heard again that the duplicate filter knows. -/
def heardRepeat
    (crypto : Crypto)
    (ticks : ChannelTicks)
    (frame : List UInt8) :
    ChannelTicks :=
  match
    matchPendingChannelAck (packetDedupKey crypto frame)
      ticks.pendingChannelAck
  with
  | none => ticks
  | some pending =>
      { ticks with
        pendingChannelAck := none
        link :=
          ticks.link.sendUiEvent
            (.channelAcked pending.channelHash pending.send)
        stored := ticks.stored.markAcked pending.channelHash
        heard :=
          if isRepeatOf frame pending.frame then
            pending.send :: ticks.heard
          else
            ticks.heard }

/-- One step of either task. -/
def step
    (crypto : Crypto)
    (ticks : ChannelTicks) :
    ChannelEvent → ChannelTicks
  | .send channelHash =>
      { ticks with link := ticks.link.onSendMessage channelHash true }
  | .directMessage toHash =>
      { ticks with link := ticks.link.onSendMessage toHash false }
  | .otherCommand =>
      if ticks.link.commands.length < commandQueueCap then
        { ticks with
          link :=
            { ticks.link with
              commands := ticks.link.commands ++ [.other] } }
      else
        ticks
  | .takeCommands =>
      { ticks with
        link := { ticks.link with commands := [] }
        batch := ticks.batch ++ ticks.link.commands }
  | .dispatch context =>
      match ticks.batch with
      | [] => ticks
      | .sendGroupMsg channelHash send :: rest =>
          sendGroupMsg crypto context { ticks with batch := rest }
            channelHash send
      | .sendDm toHash send :: rest =>
          sendDm context { ticks with batch := rest } toHash send
      | .other :: rest => { ticks with batch := rest }
  | .repeatHeard frame => ticks.heardRepeat crypto frame
  | .receive kind fromHash timestamp text =>
      { ticks with
        link := ticks.link.sendUiEvent (.incomingDm fromHash)
        stored :=
          ticks.stored.append kind fromHash
            (historyEntry fromHash kind timestamp text) none }
  | .handleEvent =>
      match ticks.link.events with
      | [] => ticks
      | event :: _ =>
          { ticks with
            link := ticks.link.handleEvent
            view :=
              if event.send?.all ticks.heard.contains then
                SendView.after ticks.view event
              else
                ticks.view }
  | .reboot restored =>
      { ticks with
        link :=
          { UiLink.seeded restored with
            sendCount := ticks.link.sendCount }
        batch := []
        pendingChannelAck := none }

/--
A record is shown as delivered exactly when the event about the heard repeat of
its own frame was handled, and a stored message exactly when its own frame was
heard again.
-/
structure TicksRight
    (ticks : ChannelTicks) :
    Prop where
  shown : ticks.link.Shows ticks.view
  stored : ticks.stored.BitsRight ticks.heard

/--
A frame with the awaited key is a repeat of the awaited one, and when its event
is handled the newest pending record is that of the message.  Otherwise nothing
may be pending.
-/
def FindsOwnBubble
    (crypto : Crypto)
    (ticks : ChannelTicks) :
    ChannelEvent → Prop
  | .repeatHeard frame =>
      match
        matchPendingChannelAck (packetDedupKey crypto frame)
          ticks.pendingChannelAck
      with
      | none => True
      | some pending =>
          isRepeatOf frame pending.frame = true ∨
            ticks.stored.newestPending ticks.heard pending.channelHash =
              none
  | .handleEvent =>
      match ticks.link.events.head? with
      | some (.channelAcked channelHash send) =>
          ∀ found ∈ ticks.link.newestPending ticks.view channelHash,
            found = .sent send ∧ send ∈ ticks.heard
      | _ => True
  | _ => True

/-- A queued event is about a shown, sent message that no event was about yet. -/
def EventSound
    (ticks : ChannelTicks) :
    QueuedEvent → Prop
  | .channelAcked channelHash send =>
      .sent send ∈ ticks.link.bubbles channelHash ∧
        send ∈ ticks.dispatched ∧
        ticks.view send = .initial
  | .incomingDm _ => True
  | _ => False

/-- An event stays sound while what was shown and sent only grows and its own
message is still shown as it was. -/
theorem EventSound.mono
    {ticks later : ChannelTicks}
    {event : QueuedEvent}
    (sound : ticks.EventSound event)
    (shown :
      ∀ {channelHash send},
        .sent send ∈ ticks.link.bubbles channelHash →
          .sent send ∈ later.link.bubbles channelHash)
    (sent : ∀ {send}, send ∈ ticks.dispatched → send ∈ later.dispatched)
    (unchanged :
      ∀ {send},
        event.send? = some send → later.view send = ticks.view send) :
    later.EventSound event := by
  cases event with
  | channelAcked channelHash send =>
      exact ⟨shown sound.1, sent sound.2.1,
        (unchanged rfl).trans sound.2.2⟩
  | incomingDm fromHash =>
      trivial
  | dmQueued toHash ackHash send =>
      exact sound
  | dmSettled toHash ackHash delivered send =>
      exact sound

/-- An event is about a message that was sent. -/
theorem EventSound.dispatched
    {ticks : ChannelTicks}
    {event : QueuedEvent}
    (sound : ticks.EventSound event)
    {send : Nat}
    (about : event.send? = some send) :
    send ∈ ticks.dispatched := by
  cases event with
  | channelAcked channelHash number =>
      cases about
      exact sound.2.1
  | incomingDm fromHash =>
      cases about
  | dmQueued toHash ackHash number =>
      exact sound.elim
  | dmSettled toHash ackHash delivered number =>
      exact sound.elim

/-- The awaited message is the newest of its channel, and nothing was heard of
it. -/
structure AwaitedSound
    (ticks : ChannelTicks)
    (pending : PendingChannelAck) :
    Prop where
  shown : .sent pending.send ∈ ticks.link.bubbles pending.channelHash
  isDispatched : pending.send ∈ ticks.dispatched
  unheard : pending.send ∉ ticks.heard
  untold :
    ∀ event ∈ ticks.link.events, event.send? ≠ some pending.send
  newest :
    ∀ last ∈ (ticks.stored.names pending.channelHash).getLast?,
      last = pending.send
  elsewhere :
    ∀ other, other ≠ pending.channelHash →
      pending.send ∉ ticks.stored.names other

/-- The messages that wait in the queue or in the batch of the dispatcher. -/
def waiting
    (ticks : ChannelTicks) :
    List QueuedCommand :=
  ticks.link.commands ++ ticks.batch

/-- Queues, slot and store agree with what was shown and sent. -/
structure Consistent
    (ticks : ChannelTicks) :
    Prop where
  apart : UiLink.BubblesOnce ticks.link.bubbles ticks.link.sendCount
  waitingShown :
    ∀ channelHash send,
      .sendGroupMsg channelHash send ∈ ticks.waiting →
        .sent send ∈ ticks.link.bubbles channelHash
  waitingOnce : (ticks.waiting.filterMap QueuedCommand.send?).Nodup
  waitingNew :
    ∀ send ∈ ticks.waiting.filterMap QueuedCommand.send?,
      send < ticks.link.sendCount ∧ send ∉ ticks.dispatched
  counted : ∀ send ∈ ticks.dispatched, send < ticks.link.sendCount
  heardSent : ∀ send ∈ ticks.heard, send ∈ ticks.dispatched
  storedSent :
    ∀ channelHash, ∀ send ∈ ticks.stored.names channelHash,
      send ∈ ticks.dispatched
  viewNew : ∀ send, send ∉ ticks.heard → ticks.view send = .initial
  events : ∀ event ∈ ticks.link.events, ticks.EventSound event
  eventsOnce : (ticks.link.events.filterMap QueuedEvent.send?).Nodup
  awaited :
    ∀ pending, ticks.pendingChannelAck = some pending →
      ticks.AwaitedSound pending

/-- After boot nothing is under way. -/
theorem consistent_new
    (restored : UInt8 → List DecodedSlot) :
    (new restored).Consistent :=
  { apart := UiLink.bubblesOnce_seeded restored
    waitingShown := fun _ _ member => absurd member List.not_mem_nil
    waitingOnce := List.nodup_nil
    waitingNew := fun _ member => absurd member List.not_mem_nil
    counted := fun _ member => absurd member List.not_mem_nil
    heardSent := fun _ member => absurd member List.not_mem_nil
    storedSent := fun _ _ member => absurd member List.not_mem_nil
    viewNew := fun _ _ => rfl
    events := fun _ member => absurd member List.not_mem_nil
    eventsOnce := List.nodup_nil
    awaited := fun _ isAwaited => by cases isAwaited }

/-- An erased store agrees with an empty journal. -/
theorem ticksRight_new
    (restored : UInt8 → List DecodedSlot) :
    (new restored).TicksRight :=
  { shown := UiLink.shows_seeded restored
    stored :=
      { sound := sound_newErased
        bits := fun channelHash => by simp [new, List.rtake]
        once := fun _ => List.nodup_nil } }

namespace Consistent

variable {ticks : ChannelTicks}

/-- A composed message is shown and its command waits, if it fits. -/
theorem compose
    (consistent : ticks.Consistent)
    (hash : UInt8)
    (isChannel : Bool) :
    Consistent
      { ticks with link := ticks.link.onSendMessage hash isChannel } := by
  have composed :=
    UiLink.composed_onSendMessage ticks.link hash isChannel
  have waiting := composed.waiting ticks.batch
  have shownAfter :
      ∀ {other send},
        .sent send ∈ ticks.link.bubbles other →
          .sent send ∈
            (ticks.link.onSendMessage hash isChannel).bubbles other :=
    fun member => (composed.bubbles _ _).mpr (.inl member)
  have newUnsent : ticks.link.sendCount ∉ ticks.dispatched := by
    intro member
    exact absurd (consistent.counted _ member) (Nat.lt_irrefl _)
  have newSends :
      ((if isChannel then
          QueuedCommand.sendGroupMsg hash ticks.link.sendCount
        else
          .sendDm hash ticks.link.sendCount) ::
        ticks.waiting).filterMap QueuedCommand.send? =
      ticks.link.sendCount ::
        ticks.waiting.filterMap QueuedCommand.send? := by
    cases isChannel <;> rfl
  have newOnce :
      (ticks.link.sendCount ::
        ticks.waiting.filterMap QueuedCommand.send?).Nodup := by
    refine List.nodup_cons.mpr ⟨?_, consistent.waitingOnce⟩
    intro member
    exact absurd (consistent.waitingNew _ member).1 (Nat.lt_irrefl _)
  refine
    { apart := composed.apart consistent.apart
      waitingShown := ?_
      waitingOnce :=
        UiLink.sends_nodup_of_subperm waiting (newSends ▸ newOnce)
      waitingNew := ?_
      counted := ?_
      heardSent := consistent.heardSent
      storedSent := consistent.storedSent
      viewNew := consistent.viewNew
      events := ?_
      eventsOnce := ?_
      awaited := ?_ }
  · intro channelHash send member
    rcases List.mem_cons.mp (waiting.subset member) with isNew | old
    · cases isChannel with
      | true =>
          obtain ⟨rfl, rfl⟩ := QueuedCommand.sendGroupMsg.inj isNew
          exact (composed.bubbles _ _).mpr (.inr ⟨rfl, rfl⟩)
      | false =>
          cases isNew
    · exact shownAfter (consistent.waitingShown _ _ old)
  · intro send member
    have among := (UiLink.sends_subperm waiting).subset member
    rw [show
      ticks.link.commands ++ ticks.batch = ticks.waiting from rfl,
      newSends] at among
    simp only [composed.sendCount]
    rcases List.mem_cons.mp among with rfl | old
    · exact ⟨Nat.lt_succ_self _, newUnsent⟩
    · have before := consistent.waitingNew send old
      exact ⟨Nat.lt_succ_of_lt before.1, before.2⟩
  · intro send member
    exact composed.sendCount ▸
      Nat.lt_succ_of_lt (consistent.counted send member)
  · intro event member
    have sound := consistent.events event (composed.events ▸ member)
    exact sound.mono shownAfter id fun _ => rfl
  · simp only [composed.events]
    exact consistent.eventsOnce
  · intro pending isAwaited
    have sound := consistent.awaited pending isAwaited
    exact
      { sound with
        shown := shownAfter sound.shown
        untold := fun event member =>
          sound.untold event (composed.events ▸ member) }

/-- Waiting commands may move between the queues or be dropped. -/
theorem moveCommands
    (consistent : ticks.Consistent)
    {commands batch : List QueuedCommand}
    (fewer : (commands ++ batch).Subperm ticks.waiting) :
    Consistent
      { ticks with
        link := { ticks.link with commands := commands }
        batch := batch } :=
  { consistent with
    waitingShown := fun channelHash send member =>
      consistent.waitingShown channelHash send (fewer.subset member)
    waitingOnce :=
      UiLink.sends_nodup_of_subperm fewer consistent.waitingOnce
    waitingNew := fun send member =>
      consistent.waitingNew send
        ((UiLink.sends_subperm fewer).subset member)
    events := consistent.events
    awaited := fun pending isAwaited =>
      { consistent.awaited pending isAwaited with } }

/-- The oldest command of the batch is taken. -/
theorem takeOldest
    (consistent : ticks.Consistent)
    {command : QueuedCommand}
    {rest : List QueuedCommand}
    (oldest : ticks.batch = command :: rest) :
    Consistent { ticks with batch := rest } := by
  have fewer : (ticks.link.commands ++ rest).Subperm ticks.waiting := by
    rw [waiting, oldest]
    exact
      (List.Sublist.append_left (List.sublist_cons_self command rest)
        ticks.link.commands).subperm
  exact consistent.moveCommands fewer

/-- Storing what adds no message to any channel keeps everything sound. -/
theorem store
    (consistent : ticks.Consistent)
    {stored : ChannelStore}
    (sameNames :
      ∀ channelHash,
        stored.names channelHash = ticks.stored.names channelHash) :
    Consistent { ticks with stored := stored } :=
  { consistent with
    storedSent := fun channelHash send member =>
      consistent.storedSent channelHash send (sameNames _ ▸ member)
    events := consistent.events
    awaited := fun pending isAwaited =>
      let sound := consistent.awaited pending isAwaited
      { sound with
        newest := fun last isLast =>
          sound.newest last (sameNames _ ▸ isLast)
        elsewhere := fun other isOther member =>
          sound.elsewhere other isOther (sameNames _ ▸ member) } }

/-- Queueing a received message tells nothing of a send. -/
theorem receive
    (consistent : ticks.Consistent)
    (fromHash : UInt8) :
    Consistent
      { ticks with
        link := ticks.link.sendUiEvent (.incomingDm fromHash) } := by
  unfold UiLink.sendUiEvent
  split
  · refine
      { consistent with
        events := ?_
        eventsOnce := ?_
        awaited := ?_ }
    · intro event member
      rcases List.mem_append.mp member with old | isNew
      · exact consistent.events event old
      · rw [List.mem_singleton.mp isNew]
        trivial
    · have noSend :
          [QueuedEvent.incomingDm fromHash].filterMap
              QueuedEvent.send? =
            [] := rfl
      simpa [List.filterMap_append, noSend] using consistent.eventsOnce
    · intro pending isAwaited
      have sound := consistent.awaited pending isAwaited
      refine { sound with untold := ?_ }
      intro event member
      rcases List.mem_append.mp member with old | isNew
      · exact sound.untold event old
      · rw [List.mem_singleton.mp isNew]
        exact Option.some_ne_none _ ∘ Eq.symm
  · exact consistent

/-- A sent message is awaited and stored as the newest of its channel. -/
theorem sendGroupMsg
    (consistent : ticks.Consistent)
    (right : ticks.stored.BitsRight ticks.heard)
    {channelHash : UInt8}
    {send : Nat}
    {rest : List QueuedCommand}
    (oldest : ticks.batch = .sendGroupMsg channelHash send :: rest)
    (crypto : Crypto)
    (context : DispatchContext) :
    (ChannelTicks.sendGroupMsg crypto context { ticks with batch := rest }
      channelHash send).Consistent := by
  have taken := consistent.takeOldest oldest
  unfold ChannelTicks.sendGroupMsg
  split
  · exact taken
  · next frame built =>
      have isWaiting : .sendGroupMsg channelHash send ∈ ticks.waiting := by
        simp [waiting, oldest]
      have isShown := consistent.waitingShown channelHash send isWaiting
      have unsent :=
        consistent.waitingNew send
          (List.mem_filterMap.mpr ⟨_, isWaiting, rfl⟩)
      have waitsNoMore :
          send ∉
            (ticks.link.commands ++ rest).filterMap
              QueuedCommand.send? := by
        have once := consistent.waitingOnce
        rw [waiting, oldest,
          (List.perm_middle.filterMap QueuedCommand.send?).nodup_iff,
          List.filterMap_cons_some
            (show QueuedCommand.send? (.sendGroupMsg channelHash send) =
              some send from rfl)] at once
        exact (List.nodup_cons.mp once).1
      refine
        { taken with
          waitingNew := ?_
          counted := ?_
          heardSent := fun number member =>
            List.mem_cons_of_mem send (consistent.heardSent number member)
          storedSent := ?_
          events := ?_
          awaited := ?_ }
      · intro number member
        have before := taken.waitingNew number member
        refine ⟨before.1, ?_⟩
        rintro (_ | ⟨-, old⟩)
        · exact waitsNoMore member
        · exact before.2 old
      · rintro number (_ | ⟨-, old⟩)
        · exact unsent.1
        · exact consistent.counted number old
      · intro other number member
        rcases ChannelStore.mem_names_append member with
          old | ⟨-, isSend⟩
        · exact List.mem_cons_of_mem send
            (consistent.storedSent other number old)
        · cases isSend
          exact List.mem_cons_self
      · intro event member
        have sound := consistent.events event member
        exact sound.mono id (List.mem_cons_of_mem send) fun _ => rfl
      · rintro pending ⟨⟩
        refine
          { shown := isShown
            isDispatched := List.mem_cons_self
            unheard := fun isHeard =>
              unsent.2 (consistent.heardSent send isHeard)
            untold := ?_
            newest := right.newest_append channelHash _ send
            elsewhere := ?_ }
        · intro event member about
          exact unsent.2
            ((consistent.events event member).dispatched about)
        · intro other isOther member
          rcases ChannelStore.mem_names_append member with
            old | ⟨same, -⟩
          · exact unsent.2 (consistent.storedSent other send old)
          · exact isOther same

/-- The event of a match is queued, and nothing is awaited any more. -/
theorem credit
    (consistent : ticks.Consistent)
    {pending : PendingChannelAck}
    (isAwaited : ticks.pendingChannelAck = some pending) :
    Consistent
      { ticks with
        pendingChannelAck := none
        link :=
          ticks.link.sendUiEvent
            (.channelAcked pending.channelHash pending.send) } := by
  have sound := consistent.awaited pending isAwaited
  unfold UiLink.sendUiEvent
  split
  · refine
      { consistent with
        events := ?_
        eventsOnce := ?_
        awaited := fun _ none' => by cases none' }
    · intro event member
      rcases List.mem_append.mp member with old | isNew
      · exact consistent.events event old
      · rw [List.mem_singleton.mp isNew]
        exact ⟨sound.shown, sound.isDispatched,
          consistent.viewNew _ sound.unheard⟩
    · have isSend :
          [QueuedEvent.channelAcked pending.channelHash
              pending.send].filterMap QueuedEvent.send? =
            [pending.send] := rfl
      rw [List.filterMap_append, isSend, List.nodup_append]
      refine ⟨consistent.eventsOnce, List.nodup_singleton _, ?_⟩
      rintro number member added isAdded rfl
      rw [List.mem_singleton.mp isAdded] at member
      obtain ⟨event, isEvent, about⟩ := List.mem_filterMap.mp member
      exact sound.untold event isEvent about
  · exact
      { consistent with
        events := consistent.events
        awaited := fun _ none' => by cases none' }

/-- The repeat of a sent message is heard while nothing is awaited. -/
theorem hear
    (consistent : ticks.Consistent)
    (noneAwaited : ticks.pendingChannelAck = none)
    {send : Nat}
    (isDispatched : send ∈ ticks.dispatched) :
    Consistent { ticks with heard := send :: ticks.heard } :=
  { consistent with
    heardSent := fun number member =>
      (List.mem_cons.mp member).elim (fun same => same ▸ isDispatched)
        (consistent.heardSent number)
    viewNew := fun number unheard =>
      consistent.viewNew number fun member =>
        unheard (List.mem_cons_of_mem send member)
    events := consistent.events
    awaited := fun pending isAwaited => by
      cases noneAwaited.symm.trans isAwaited }

/-- Handling an event changes what is said of its own message only. -/
theorem handled
    (consistent : ticks.Consistent)
    {event : QueuedEvent}
    {rest : List QueuedEvent}
    (oldest : ticks.link.events = event :: rest)
    {view : Nat → SendView}
    (others :
      ∀ send, event.send? ≠ some send → view send = ticks.view send)
    (unheard : ∀ send, send ∉ ticks.heard → view send = .initial)
    (messages : Messages) :
    Consistent
      { ticks with
        link := { ticks.link with events := rest, messages := messages }
        view := view } := by
  have isRest : ∀ other ∈ rest, other ∈ ticks.link.events := by
    intro other member
    rw [oldest]
    exact List.mem_cons_of_mem event member
  have once := consistent.eventsOnce
  rw [oldest, List.Nodup, List.pairwise_filterMap,
    List.pairwise_cons] at once
  refine
    { consistent with
      viewNew := unheard
      events := ?_
      eventsOnce := ?_
      awaited := fun pending isAwaited =>
        let sound := consistent.awaited pending isAwaited
        { sound with
          untold := fun other member =>
            sound.untold other (isRest other member) } }
  · intro other member
    have sound := consistent.events other (isRest other member)
    refine sound.mono id id fun {send} aboutOther => ?_
    -- No other event is about the message of this one.
    exact others send fun about =>
      once.1 other member send about send aboutOther rfl
  · rw [List.Nodup, List.pairwise_filterMap]
    exact once.2

/-- A received message is shown behind the others. -/
theorem pushInbound
    (consistent : ticks.Consistent)
    (fromHash : UInt8) :
    Consistent
      { ticks with
        link := ticks.link.pushRecord fromHash .inbound .inbound } := by
  have shownAfter :
      ∀ {hash send},
        .sent send ∈ ticks.link.bubbles hash →
          .sent send ∈
            (ticks.link.pushRecord fromHash .inbound
              .inbound).bubbles hash :=
    fun member => UiLink.mem_pushRecord.mpr (.inl member)
  refine
    { consistent with
      apart := consistent.apart.pushInbound fromHash
      waitingShown := fun channelHash send member =>
        shownAfter (consistent.waitingShown channelHash send member)
      events := ?_
      awaited := fun pending isAwaited =>
        let sound := consistent.awaited pending isAwaited
        { sound with shown := shownAfter sound.shown } }
  intro event member
  have sound := consistent.events event member
  exact sound.mono shownAfter id fun _ => rfl

/-- A reboot loses queues, slot and records, but nothing that was stored. -/
theorem reboot
    (consistent : ticks.Consistent)
    (crypto : Crypto)
    (restored : UInt8 → List DecodedSlot) :
    (ticks.step crypto (.reboot restored)).Consistent := by
  have apart := UiLink.bubblesOnce_seeded restored
  exact
    { consistent with
      apart :=
        { apart with
          counted := fun hash send member =>
            absurd (apart.counted hash send member)
              (Nat.not_lt_zero send) }
      waitingShown := fun _ _ member => absurd member List.not_mem_nil
      waitingOnce := List.nodup_nil
      waitingNew := fun _ member => absurd member List.not_mem_nil
      events := fun _ member => absurd member List.not_mem_nil
      eventsOnce := List.nodup_nil
      awaited := fun _ isAwaited => by cases isAwaited }

end Consistent

variable {ticks : ChannelTicks}

/-- A command that sends nothing keeps everything sound. -/
theorem Consistent.queueOther
    (consistent : ticks.Consistent) :
    Consistent
      { ticks with
        link :=
          { ticks.link with commands := ticks.link.commands ++ [.other] } } := by
  have noSend : QueuedCommand.other.send? = none := rfl
  have sameSends :
      ((ticks.link.commands ++ [QueuedCommand.other]) ++
          ticks.batch).filterMap QueuedCommand.send? =
        ticks.waiting.filterMap QueuedCommand.send? := by
    simp [waiting, noSend]
  refine
    { consistent with
      waitingShown := fun channelHash send member =>
        consistent.waitingShown channelHash send
          (by simpa [waiting] using member)
      waitingOnce := ?_
      waitingNew := ?_
      events := consistent.events
      awaited := fun pending isAwaited =>
        { consistent.awaited pending isAwaited with } }
  · rw [waiting, sameSends]
    exact consistent.waitingOnce
  · intro send member
    rw [waiting, sameSends] at member
    exact consistent.waitingNew send member

/-- A sent message is stored as pending. -/
theorem TicksRight.sendGroupMsg
    (right : ticks.TicksRight)
    (consistent : ticks.Consistent)
    {channelHash : UInt8}
    {send : Nat}
    {rest : List QueuedCommand}
    (oldest : ticks.batch = .sendGroupMsg channelHash send :: rest)
    (crypto : Crypto)
    (context : DispatchContext) :
    (ChannelTicks.sendGroupMsg crypto context { ticks with batch := rest }
      channelHash send).TicksRight := by
  unfold ChannelTicks.sendGroupMsg
  split
  · exact { right with }
  · next frame built =>
      have unsent :=
        consistent.waitingNew send
          (List.mem_filterMap.mpr
            ⟨.sendGroupMsg channelHash send, by simp [waiting, oldest],
              rfl⟩)
      refine
        { shown := right.shown
          stored := right.stored.append .grpTxt channelHash _ ?_ }
      rintro _ ⟨⟩
      exact ⟨fun isHeard => unsent.2 (consistent.heardSent send isHeard),
        fun other member =>
          unsent.2 (consistent.storedSent other send member)⟩

/-- A heard repeat is counted right exactly when it is the awaited one's own, or
nothing is pending. -/
theorem step_repeatHeard
    (crypto : Crypto)
    (frame : List UInt8)
    (consistent : ticks.Consistent)
    (right : ticks.TicksRight) :
    (ticks.heardRepeat crypto frame).Consistent ∧
      ((ticks.heardRepeat crypto frame).TicksRight ↔
        ticks.FindsOwnBubble crypto (.repeatHeard frame)) := by
  simp only [heardRepeat, FindsOwnBubble]
  cases matched :
    matchPendingChannelAck (packetDedupKey crypto frame)
      ticks.pendingChannelAck with
  | none =>
      exact ⟨consistent, iff_of_true right trivial⟩
  | some pending =>
      have isAwaited : ticks.pendingChannelAck = some pending :=
        (Option.filter_eq_some_iff.mp matched).1
      have sound := consistent.awaited pending isAwaited
      have credited := consistent.credit isAwaited
      have marked :=
        credited.store
          (show ∀ channelHash,
              (ticks.stored.markAcked pending.channelHash).names
                  channelHash =
                ticks.stored.names channelHash
            from fun _ => rfl)
      have shown := UiLink.shows_sendUiEvent
        (.channelAcked pending.channelHash pending.send) |>.mpr
          right.shown
      by_cases own : isRepeatOf frame pending.frame = true
      · simp only [own, if_true, true_or, iff_true]
        refine ⟨marked.hear rfl sound.isDispatched, ?_⟩
        exact
          { shown := shown
            stored :=
              right.stored.markAcked sound.unheard sound.newest
                sound.elsewhere }
      · simp only [own, Bool.false_eq_true, if_false, false_or]
        refine ⟨marked, ?_⟩
        rw [← right.stored.markAcked_foreign_iff]
        exact
          ⟨fun rightAfter => rightAfter.stored, fun stored =>
            { shown := shown, stored := stored }⟩

/-- The event of a match is handled right exactly when the newest pending record
is that of the message, heard again. -/
theorem step_channelAcked
    (crypto : Crypto)
    {channelHash : UInt8}
    {send : Nat}
    {rest : List QueuedEvent}
    (oldest : ticks.link.events = .channelAcked channelHash send :: rest)
    (consistent : ticks.Consistent)
    (right : ticks.TicksRight) :
    (ticks.step crypto .handleEvent).Consistent ∧
      ((ticks.step crypto .handleEvent).TicksRight ↔
        ticks.FindsOwnBubble crypto .handleEvent) := by
  have isOldest : .channelAcked channelHash send ∈ ticks.link.events := by
    simp [oldest]
  obtain ⟨shown, -, untouched⟩ := consistent.events _ isOldest
  have pending : (ticks.view send).delivery = .pending := by
    rw [untouched]
    rfl
  have outcome : DeliveryState.acked ≠ .pending := by
    decide
  by_cases isHeard : send ∈ ticks.heard
  · have stepped :
        ticks.step crypto .handleEvent =
          { ticks with
            link :=
              { ticks.link with
                events := rest
                messages :=
                  (ticks.link.messages.settleNewestPending channelHash
                    .acked).1 }
            view :=
              Function.update ticks.view send
                { ticks.view send with delivery := .acked } } := by
      simp [step, UiLink.handleEvent, oldest, SendView.after, isHeard,
        QueuedEvent.event, QueuedEvent.send?, Messages.handleEvent,
        Messages.markLastUnackedOutbound]
    rw [stepped]
    constructor
    · refine consistent.handled oldest ?_ ?_ _
      · intro number about
        apply Function.update_of_ne
        rintro rfl
        exact about rfl
      · intro number unheard
        have isOther : number ≠ send := by
          rintro rfl
          exact unheard isHeard
        rw [Function.update_of_ne isOther]
        exact consistent.viewNew number unheard
    · have shownIff :=
        right.shown.settle_newest_iff consistent.apart shown pending
          outcome rest
      simp only [FindsOwnBubble, oldest, List.head?_cons, isHeard,
        and_true]
      exact
        ⟨fun rightAfter => shownIff.mp rightAfter.shown, fun finds =>
          { shown := shownIff.mpr finds, stored := right.stored }⟩
  · have stepped :
        ticks.step crypto .handleEvent =
          { ticks with
            link :=
              { ticks.link with
                events := rest
                messages :=
                  (ticks.link.messages.settleNewestPending channelHash
                    .acked).1 } } := by
      simp [step, UiLink.handleEvent, oldest, isHeard,
        QueuedEvent.event, QueuedEvent.send?, Messages.handleEvent,
        Messages.markLastUnackedOutbound]
    rw [stepped]
    constructor
    · exact consistent.handled oldest (fun _ _ => rfl)
        consistent.viewNew _
    · have shownIff :=
        @UiLink.Shows.settle_nothing_iff _ _ right.shown channelHash _
          outcome rest
      simp only [FindsOwnBubble, oldest, List.head?_cons, isHeard,
        and_false]
      rw [← Option.eq_none_iff_forall_not_mem]
      exact
        ⟨fun rightAfter => shownIff.mp rightAfter.shown, fun finds =>
          { shown := shownIff.mpr finds, stored := right.stored }⟩

/-- The oldest event is handled right exactly when a match finds its own. -/
theorem step_handleEvent
    (crypto : Crypto)
    (consistent : ticks.Consistent)
    (right : ticks.TicksRight) :
    (ticks.step crypto .handleEvent).Consistent ∧
      ((ticks.step crypto .handleEvent).TicksRight ↔
        ticks.FindsOwnBubble crypto .handleEvent) := by
  cases oldest : ticks.link.events with
  | nil =>
      simp only [step, oldest, FindsOwnBubble, List.head?_nil]
      exact ⟨consistent, iff_of_true right trivial⟩
  | cons first rest =>
      have sound := consistent.events first (by simp [oldest])
      cases first with
      | channelAcked channelHash send =>
          exact step_channelAcked crypto oldest consistent right
      | incomingDm fromHash =>
          have stepped :
              ticks.step crypto .handleEvent =
                { ticks with
                  link :=
                    { ticks.link.pushRecord fromHash .inbound
                        .inbound with
                      events := rest } } := by
            simp [step, UiLink.handleEvent, oldest, SendView.after,
              UiLink.pushRecord, Messages.handleEvent]
          rw [stepped]
          refine
            ⟨(consistent.pushInbound fromHash).handled oldest
                (fun _ _ => rfl) consistent.viewNew _,
              iff_of_true ?_ (by simp [FindsOwnBubble, oldest])⟩
          exact
            { right with
              shown := right.shown.pushRecord fromHash rfl }
      | dmQueued toHash ackHash send =>
          exact sound.elim
      | dmSettled toHash ackHash delivered send =>
          exact sound.elim

/-- Whatever becomes of the oldest command, everything stays right. -/
theorem step_dispatch
    (crypto : Crypto)
    (context : DispatchContext)
    (consistent : ticks.Consistent)
    (right : ticks.TicksRight) :
    (ticks.step crypto (.dispatch context)).Consistent ∧
      ((ticks.step crypto (.dispatch context)).TicksRight ↔
        ticks.FindsOwnBubble crypto (.dispatch context)) := by
  cases oldest : ticks.batch with
  | nil =>
      simp only [step, oldest]
      exact ⟨consistent, iff_of_true right trivial⟩
  | cons command rest =>
      have taken := consistent.takeOldest oldest
      cases command with
      | sendGroupMsg channelHash send =>
          simp only [step, oldest]
          exact
            ⟨consistent.sendGroupMsg right.stored oldest crypto context,
              iff_of_true
                (right.sendGroupMsg consistent oldest crypto context)
                trivial⟩
      | sendDm toHash send =>
          simp only [step, oldest, sendDm]
          split
          · refine
              ⟨taken.store (ChannelStore.names_append_dm toHash _ _),
                iff_of_true ?_ trivial⟩
            exact
              { shown := right.shown
                stored := right.stored.appendDm toHash _ _ }
          · exact ⟨taken, iff_of_true { right with } trivial⟩
      | other =>
          simp only [step, oldest]
          exact ⟨taken, iff_of_true { right with } trivial⟩

/-- A step keeps the agreement, and stays right exactly when a match and its
event find their own message. -/
theorem step_ticks
    (crypto : Crypto)
    (event : ChannelEvent)
    (consistent : ticks.Consistent)
    (right : ticks.TicksRight) :
    (ticks.step crypto event).Consistent ∧
      ((ticks.step crypto event).TicksRight ↔
        ticks.FindsOwnBubble crypto event) := by
  have newView : ticks.view ticks.link.sendCount = .initial := by
    apply consistent.viewNew
    intro isHeard
    exact
      absurd (consistent.counted _ (consistent.heardSent _ isHeard))
        (Nat.lt_irrefl _)
  cases event with
  | send channelHash =>
      have composed :=
        UiLink.composed_onSendMessage ticks.link channelHash true
      exact
        ⟨consistent.compose channelHash true,
          iff_of_true
            { right with
              shown := composed.shows' ticks.view newView right.shown }
            trivial⟩
  | directMessage toHash =>
      have composed :=
        UiLink.composed_onSendMessage ticks.link toHash false
      exact
        ⟨consistent.compose toHash false,
          iff_of_true
            { right with
              shown := composed.shows' ticks.view newView right.shown }
            trivial⟩
  | otherCommand =>
      simp only [step]
      split
      · exact ⟨consistent.queueOther,
          iff_of_true { right with } trivial⟩
      · exact ⟨consistent, iff_of_true right trivial⟩
  | takeCommands =>
      refine ⟨consistent.moveCommands ?_,
        iff_of_true { right with } trivial⟩
      rw [List.nil_append]
      exact List.perm_append_comm.subperm
  | dispatch context =>
      exact step_dispatch crypto context consistent right
  | repeatHeard frame =>
      exact step_repeatHeard crypto frame consistent right
  | receive kind fromHash timestamp text =>
      refine
        ⟨(consistent.receive fromHash).store
            (ChannelStore.names_append_none kind fromHash _),
          iff_of_true ?_ trivial⟩
      refine
        { shown := (UiLink.shows_sendUiEvent _).mpr right.shown
          stored := right.stored.append kind fromHash _ ?_ }
      rintro _ ⟨⟩
  | handleEvent =>
      exact step_handleEvent crypto consistent right
  | reboot restored =>
      exact
        ⟨consistent.reboot crypto restored,
          iff_of_true
            { right with shown := UiLink.shows_seeded restored }
            trivial⟩

/--
Over every run, records and stored entries are marked right in every state
exactly when every match and every handled event finds its own message.
-/
theorem ticks_right_iff
    (crypto : Crypto)
    (restored : UInt8 → List DecodedSlot)
    (events : List ChannelEvent) :
    Always (step crypto) TicksRight (new restored) events ↔
      Along (step crypto) (FindsOwnBubble crypto) (new restored)
        events :=
  always_iff_along_assuming
    (fun _ event consistent right _ =>
      (step_ticks crypto event consistent right).1)
    (fun _ event consistent right _ =>
      (step_ticks crypto event consistent right).2)
    (consistent_new restored) (ticksRight_new restored)
    (along_of_forall (fun _ _ => trivial) _)

/-- A channel secret of sixteen bytes. -/
def recordedSecret : List UInt8 :=
  List.replicate 16 0x11

/-- The primitives on the channel message `ana: hi`. -/
def channelMessage : CryptoRecord :=
  { ciphers :=
      [(channelAesKey recordedSecret,
          #v[0x01, 0x02, 0x03, 0x64, 0x00, 0x61, 0x6E, 0x61, 0x3A, 0x20,
            0x68, 0x69, 0x00, 0x00, 0x00, 0x00],
          #v[0x70, 0xF8, 0x76, 0x62, 0x0C, 0x17, 0x56, 0x7F, 0x2C, 0x17,
            0xF0, 0x2E, 0x91, 0xD2, 0xD7, 0xD5])]
    codes :=
      [(recordedSecret,
          [0x70, 0xF8, 0x76, 0x62, 0x0C, 0x17, 0x56, 0x7F, 0x2C, 0x17, 0xF0,
          0x2E, 0x91, 0xD2, 0xD7, 0xD5],
          #v[0x4F, 0x41, 0x97, 0x1F, 0x3C, 0xAF, 0x4F, 0x4A, 0x11, 0x83,
            0x75, 0x37, 0xEB, 0x85, 0x75, 0x2C, 0xB8, 0x4F, 0xE6, 0x74,
            0x4A, 0x3E, 0x61, 0x0A, 0xFC, 0xFD, 0x5D, 0x08, 0xB2, 0x7A,
            0xEA, 0x84])]
    digests :=
      [(recordedSecret,
          #v[0xB8, 0xF1, 0x2E, 0xA8, 0xC9, 0xA9, 0x5D, 0x4B, 0x46, 0x41,
            0xB0, 0x3D, 0x9F, 0xA5, 0xA7, 0x1A, 0xD3, 0x0B, 0x44, 0xED,
            0x6C, 0xD4, 0xBF, 0x79, 0x3B, 0xBE, 0x1A, 0x58, 0x01, 0xB9,
            0x86, 0xD4]),
        ([0x05, 0xB8, 0x4F, 0x41, 0x70, 0xF8, 0x76, 0x62, 0x0C, 0x17, 0x56,
          0x7F, 0x2C, 0x17, 0xF0, 0x2E, 0x91, 0xD2, 0xD7, 0xD5],
          #v[0x67, 0x17, 0xEB, 0x17, 0x0C, 0x67, 0x12, 0x27, 0x10, 0x08,
            0x01, 0x30, 0x1E, 0xCF, 0x73, 0x68, 0x9E, 0x55, 0xBC, 0xB1,
            0x44, 0xEA, 0xF2, 0xB0, 0xC0, 0x56, 0x5F, 0x64, 0x2B, 0x4F,
            0xD3, 0x6E])]
    agreements := [] }

/-- The message as a node repeated it that it reached directly. -/
def repeatedFrame : List UInt8 :=
  [0x15, 0x41, 0xA0, 0xB0, 0xB8, 0x4F, 0x41, 0x70, 0xF8, 0x76, 0x62, 0x0C,
    0x17, 0x56, 0x7F, 0x2C, 0x17, 0xF0, 0x2E, 0x91, 0xD2, 0xD7, 0xD5]

/-- The device sends as `ana` on the channel, without a region. -/
def anaOnChannel : ChannelConfig :=
  { txEpochBase := 0x64030201
    channelSecret := some recordedSecret
    senderName := [0x61, 0x6E, 0x61]
    regionScope := .unscoped }

/-- A second message is composed before the repeat of the first one is heard. -/
def composedBeforeRepeat : List ChannelEvent :=
  [.send 0xB8, .takeCommands,
    .dispatch
      { config := anaOnChannel
        nowMs := 0
        text := [0x68, 0x69]
        dmSent := false },
    .send 0xB8, .repeatHeard repeatedFrame, .handleEvent]

/-- The first message was repeated, and the second one is shown as delivered. -/
theorem composedBeforeRepeat_ticks_second :
    (run (step channelMessage.crypto) (new fun _ => [])
        composedBeforeRepeat).heard = [0] ∧
      (run (step channelMessage.crypto) (new fun _ => [])
          composedBeforeRepeat).link.messages 0xB8 =
        [{ isOurs := true, delivery := .pending, ackHash := none },
          { isOurs := true, delivery := .acked, ackHash := none }] ∧
      ¬ Always (step channelMessage.crypto) TicksRight (new fun _ => [])
          composedBeforeRepeat := by
  have shown :
      (run (step channelMessage.crypto) (new fun _ => [])
          composedBeforeRepeat).link.messages 0xB8 =
        [{ isOurs := true, delivery := .pending, ackHash := none },
          { isOurs := true, delivery := .acked, ackHash := none }] := by
    decide +kernel
  refine ⟨by decide +kernel, shown, fun always => ?_⟩
  have right := always.last.shown 0xB8
  rw [shown] at right
  revert right
  decide +kernel

end ChannelTicks

end MeshCadet
