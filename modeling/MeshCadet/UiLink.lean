import MeshCadet.MessageRecords

namespace MeshCadet

/-!
# The queues between the user interface and the dispatcher

The interface pushes a bubble and queues a command; the dispatcher queues events
back.  Both queues are bounded and refuse what does not fit.  Commands and events
carry the number of the send they belong to, and every conversation has a list of
the origins of its records; the code has neither, and no step depends on them.
-/

/-- Commands that fit between interface and dispatcher. -/
def commandQueueCap : Nat :=
  16

/-- Events that fit between dispatcher and interface. -/
def eventQueueCap : Nat :=
  32

/-- A command of the interface, with the number of its send. -/
inductive QueuedCommand where
  | sendDm (toHash : UInt8) (send : Nat)
  | sendGroupMsg (channelHash : UInt8) (send : Nat)
  | other
deriving Repr, DecidableEq

/-- The number of the send a command carries out. -/
def QueuedCommand.send? : QueuedCommand → Option Nat
  | sendDm _ send => some send
  | sendGroupMsg _ send => some send
  | other => none

/-- An event of the dispatcher, with the number of the send it is about. -/
inductive QueuedEvent where
  | dmQueued (toHash : UInt8) (ackHash : AckHash) (send : Nat)
  | dmSettled (toHash : UInt8) (ackHash : AckHash) (delivered : Bool)
      (send : Nat)
  | channelAcked (channelHash : UInt8) (send : Nat)
  | incomingDm (fromHash : UInt8)
deriving Repr, DecidableEq

namespace QueuedEvent

/-- What the interface receives. -/
def event : QueuedEvent → UiEvent
  | dmQueued toHash ackHash _ => .dmQueued toHash ackHash
  | dmSettled toHash ackHash true _ => .dmAcked toHash false ackHash
  | dmSettled toHash ackHash false _ =>
      .dmUndelivered toHash false ackHash
  | channelAcked channelHash _ => .channelAcked channelHash
  | incomingDm fromHash => .incomingDm fromHash

/-- The number of the send an event is about. -/
def send? : QueuedEvent → Option Nat
  | dmQueued _ _ send => some send
  | dmSettled _ _ _ send => some send
  | channelAcked _ send => some send
  | incomingDm _ => none

end QueuedEvent

/-- The outcome an event reports. -/
def outcomeOf
    (delivered : Bool) :
    DeliveryState :=
  if delivered then .acked else .undelivered

/-- An outcome is never pending. -/
theorem outcomeOf_ne
    (delivered : Bool) :
    outcomeOf delivered ≠ .pending := by
  cases delivered <;> decide

/-- An outcome goes to the record that waits for it. -/
theorem handleEvent_settled_waiting
    {messages : Messages}
    {toHash : UInt8}
    {ackHash : AckHash}
    (waiting :
      (messages toHash).any (MessageRecord.waitsFor ackHash) = true)
    (delivered : Bool)
    (send : Nat) :
    messages.handleEvent
        (QueuedEvent.dmSettled toHash ackHash delivered send).event =
      (messages.markDeliveryByAckHash toHash ackHash
        (outcomeOf delivered)).1 := by
  cases delivered <;>
    simp [QueuedEvent.event, Messages.handleEvent, outcomeOf,
      Messages.markDeliveryByAckHash, waiting]

/-- When none waits for it, it goes to the newest pending record. -/
theorem handleEvent_settled_fallback
    {messages : Messages}
    {toHash : UInt8}
    {ackHash : AckHash}
    (noneWaits :
      ∀ record ∈ messages toHash,
        MessageRecord.waitsFor ackHash record = false)
    (delivered : Bool)
    (send : Nat) :
    messages.handleEvent
        (QueuedEvent.dmSettled toHash ackHash delivered send).event =
      (messages.settleNewestPending toHash (outcomeOf delivered)).1 := by
  cases delivered <;>
    simp [QueuedEvent.event, Messages.handleEvent, outcomeOf,
      messages.markDeliveryByAckHash_none noneWaits,
      Messages.markLastUnackedOutbound]

/-- Where a record of the interface comes from. -/
inductive Bubble where
  | restored (slot : DecodedSlot)
  | inbound
  | sent (send : Nat)
deriving Repr, DecidableEq

/-- The send whose composed message a bubble is. -/
def Bubble.send? : Bubble → Option Nat
  | sent send => some send
  | _ => none

/-- What the events about a send say of its record. -/
structure SendView where
  delivery : DeliveryState
  ackHash : Option AckHash
deriving Repr, DecidableEq

/-- No event about the send was handled yet. -/
def SendView.initial : SendView :=
  { delivery := .pending
    ackHash := none }

/-- The record a bubble should show. -/
def Bubble.record
    (view : Nat → SendView) :
    Bubble → MessageRecord
  | restored slot => .restored slot
  | inbound => .inbound
  | sent send =>
      { isOurs := true
        delivery := (view send).delivery
        ackHash := (view send).ackHash }

/-- The interface's records and the two queues. -/
structure UiLink where
  messages : Messages
  commands : List QueuedCommand
  events : List QueuedEvent
  bubbles : UInt8 → List Bubble
  sendCount : Nat

namespace UiLink

/-- The interface after boot, seeded with the stored conversations. -/
def seeded
    (stored : UInt8 → List DecodedSlot) :
    UiLink :=
  { messages := fun hash => (stored hash).map .restored
    commands := []
    events := []
    bubbles := fun hash => (stored hash).map .restored
    sendCount := 0 }

/-- Show a record in a conversation. -/
def pushRecord
    (link : UiLink)
    (hash : UInt8)
    (record : MessageRecord)
    (bubble : Bubble) :
    UiLink :=
  { link with
    messages := link.messages.push hash record
    bubbles :=
      Function.update link.bubbles hash (link.bubbles hash ++ [bubble]) }

/-- Queue a command; a full queue is answered by a notice. -/
def trySendCommand
    (link : UiLink)
    (hash : UInt8)
    (command : QueuedCommand) :
    UiLink :=
  if link.commands.length < commandQueueCap then
    { link with commands := link.commands ++ [command] }
  else
    link.pushRecord hash .inbound .inbound

/-- Show a composed message as sent and queue its command. -/
def onSendMessage
    (link : UiLink)
    (hash : UInt8)
    (isChannel : Bool) :
    UiLink :=
  let send := link.sendCount
  let command : QueuedCommand :=
    if isChannel then .sendGroupMsg hash send else .sendDm hash send
  ({ link with sendCount := send + 1 }.pushRecord hash .composed
      (.sent send)).trySendCommand hash command

/-- Queue an event; it is dropped when the queue is full. -/
def sendUiEvent
    (link : UiLink)
    (event : QueuedEvent) :
    UiLink :=
  if link.events.length < eventQueueCap then
    { link with events := link.events ++ [event] }
  else
    link

/-- Handle the oldest queued event. -/
def handleEvent
    (link : UiLink) :
    UiLink :=
  match link.events with
  | [] => link
  | .incomingDm fromHash :: rest =>
      { link with
        events := rest
        messages :=
          link.messages.handleEvent (.incomingDm fromHash)
        bubbles :=
          Function.update link.bubbles fromHash
            (link.bubbles fromHash ++ [.inbound]) }
  | event :: rest =>
      { link with
        events := rest
        messages := link.messages.handleEvent event.event }

/-- Every record is what its origin and the events about it say. -/
def Shows
    (link : UiLink)
    (view : Nat → SendView) :
    Prop :=
  ∀ hash,
    link.messages hash = (link.bubbles hash).map (Bubble.record view)

/-- Queueing an event shows nothing new. -/
theorem shows_sendUiEvent
    {link : UiLink}
    {view : Nat → SendView}
    (event : QueuedEvent) :
    (link.sendUiEvent event).Shows view ↔ link.Shows view := by
  unfold sendUiEvent
  split <;> exact Iff.rfl

/-- Every send has one bubble, in one conversation. -/
structure BubblesOnce
    (bubbles : UInt8 → List Bubble)
    (sendCount : Nat) :
    Prop where
  once : ∀ hash, ((bubbles hash).filterMap Bubble.send?).Nodup
  home :
    ∀ hash other send,
      .sent send ∈ bubbles hash → .sent send ∈ bubbles other →
        hash = other
  counted : ∀ hash send, .sent send ∈ bubbles hash → send < sendCount

variable
    {link : UiLink}
    {view : Nat → SendView}

/-- A restored interface shows what was stored. -/
theorem shows_seeded
    (stored : UInt8 → List DecodedSlot) :
    (seeded stored).Shows view := by
  intro hash
  simp [seeded, Bubble.record, Function.comp_def]

theorem bubblesOnce_seeded
    (stored : UInt8 → List DecodedSlot) :
    BubblesOnce (seeded stored).bubbles 0 := by
  have noSend :
      ∀ hash send, .sent send ∉ (seeded stored).bubbles hash := by
    simp [seeded]
  refine
    { once := fun hash => ?_
      home := fun hash other send member =>
        absurd member (noSend hash send)
      counted := fun hash send member =>
        absurd member (noSend hash send) }
  have noSends :
      ((seeded stored).bubbles hash).filterMap Bubble.send? = [] := by
    rw [List.filterMap_eq_nil_iff]
    intro bubble member
    obtain ⟨slot, -, rfl⟩ := List.mem_map.mp member
    rfl
  rw [noSends]
  exact List.nodup_nil

/-- A record that fits its bubble keeps the conversation right. -/
theorem Shows.pushRecord
    (shows' : link.Shows view)
    (hash : UInt8)
    {record : MessageRecord}
    {bubble : Bubble}
    (fits : bubble.record view = record) :
    (link.pushRecord hash record bubble).Shows view := by
  intro other
  by_cases same : other = hash
  · subst same
    simp [UiLink.pushRecord, Messages.push, shows' other, fits]
  · simp [UiLink.pushRecord, Messages.push, same, shows' other]

/-- The sends shown after a push are the old ones and the pushed one. -/
theorem mem_pushRecord
    {hash other : UInt8}
    {record : MessageRecord}
    {bubble : Bubble}
    {send : Nat} :
    .sent send ∈ (link.pushRecord hash record bubble).bubbles other ↔
      .sent send ∈ link.bubbles other ∨
        (other = hash ∧ bubble = .sent send) := by
  by_cases same : other = hash
  · subst same
    simp [UiLink.pushRecord, eq_comm]
  · simp [UiLink.pushRecord, same]

/-- Pushing a record of no send keeps the bubbles apart. -/
theorem BubblesOnce.pushInbound
    (apart : BubblesOnce link.bubbles link.sendCount)
    (hash : UInt8) :
    BubblesOnce (link.pushRecord hash .inbound .inbound).bubbles
      link.sendCount := by
  have sameSends :
      ∀ other send,
        .sent send ∈
            (link.pushRecord hash .inbound .inbound).bubbles other ↔
          .sent send ∈ link.bubbles other := by
    intro other send
    simp [mem_pushRecord]
  refine
    { once := fun other => ?_
      home := fun first second send inFirst inSecond =>
        apart.home first second send ((sameSends _ _).mp inFirst)
          ((sameSends _ _).mp inSecond)
      counted := fun other send member =>
        apart.counted other send ((sameSends _ _).mp member) }
  by_cases same : other = hash
  · subst same
    have noSend : [Bubble.inbound].filterMap Bubble.send? = [] := rfl
    simpa [UiLink.pushRecord, List.filterMap_append, noSend] using
      apart.once other
  · simpa [UiLink.pushRecord, same] using apart.once other

/-- A new send gets the next number. -/
theorem BubblesOnce.pushSent
    (apart : BubblesOnce link.bubbles link.sendCount)
    (hash : UInt8) :
    BubblesOnce
      (link.pushRecord hash .composed (.sent link.sendCount)).bubbles
      (link.sendCount + 1) := by
  have fresh : ∀ other, .sent link.sendCount ∉ link.bubbles other := by
    intro other member
    exact absurd (apart.counted other _ member) (Nat.lt_irrefl _)
  refine
    { once := fun other => ?_
      home := ?_
      counted := ?_ }
  · by_cases same : other = hash
    · subst same
      have notSent :
          link.sendCount ∉
            (link.bubbles other).filterMap Bubble.send? := by
        intro member
        obtain ⟨bubble, isBubble, named⟩ :=
          List.mem_filterMap.mp member
        cases bubble with
        | sent send =>
            cases named
            exact fresh other isBubble
        | restored slot =>
            cases named
        | inbound =>
            cases named
      simp only [UiLink.pushRecord, Function.update_self,
        List.filterMap_append]
      rw [List.nodup_append]
      refine ⟨apart.once other, by simp [Bubble.send?], ?_⟩
      rintro send member new isNew rfl
      have isCount : send = link.sendCount := by
        simpa [Bubble.send?] using isNew
      exact notSent (isCount ▸ member)
    · simpa [UiLink.pushRecord, same] using apart.once other
  · intro first second send inFirst inSecond
    rcases mem_pushRecord.mp inFirst with oldFirst | ⟨rfl, newFirst⟩
    · rcases mem_pushRecord.mp inSecond with oldSecond | ⟨rfl, newSecond⟩
      · exact apart.home first second send oldFirst oldSecond
      · cases newSecond
        exact absurd oldFirst (fresh first)
    · cases newFirst
      rcases mem_pushRecord.mp inSecond with oldSecond | ⟨rfl, -⟩
      · exact absurd oldSecond (fresh second)
      · rfl
  · intro other send member
    rcases mem_pushRecord.mp member with old | ⟨-, new⟩
    · exact Nat.lt_succ_of_lt (apart.counted other send old)
    · cases new
      exact Nat.lt_succ_self _

/-- What composing a message leaves of queues, counter and bubbles. -/
structure Composed
    (link after : UiLink)
    (hash : UInt8)
    (command : QueuedCommand) :
    Prop where
  events : after.events = link.events
  sendCount : after.sendCount = link.sendCount + 1
  bubbles :
    ∀ other send,
      .sent send ∈ after.bubbles other ↔
        .sent send ∈ link.bubbles other ∨
          (other = hash ∧ send = link.sendCount)
  commands :
    after.commands = link.commands ++ [command] ∨
      after.commands = link.commands
  apart :
    BubblesOnce link.bubbles link.sendCount →
      BubblesOnce after.bubbles after.sendCount
  shows' :
    ∀ view,
      view link.sendCount = SendView.initial →
      link.Shows view →
        after.Shows view

/-- The command of a composed message may wait in front of any batch. -/
theorem Composed.waiting
    {after : UiLink}
    {hash : UInt8}
    {command : QueuedCommand}
    (composed : Composed link after hash command)
    (batch : List QueuedCommand) :
    (after.commands ++ batch).Subperm
      (command :: (link.commands ++ batch)) := by
  rcases composed.commands with queued | refused
  · rw [queued, List.append_assoc]
    exact List.perm_middle.subperm
  · rw [refused]
    exact (List.sublist_cons_self _ _).subperm

/-- Fewer commands carry out fewer sends. -/
theorem sends_subperm
    {fewer more : List QueuedCommand}
    (isFewer : fewer.Subperm more) :
    (fewer.filterMap QueuedCommand.send?).Subperm
      (more.filterMap QueuedCommand.send?) := by
  obtain ⟨same, isPerm, isSublist⟩ := isFewer
  exact
    ((isPerm.filterMap QueuedCommand.send?).symm.subperm).trans
      (isSublist.filterMap QueuedCommand.send?).subperm

/-- Commands that carry out every send once still do so when some are gone. -/
theorem sends_nodup_of_subperm
    {fewer more : List QueuedCommand}
    (isFewer : fewer.Subperm more)
    (once : (more.filterMap QueuedCommand.send?).Nodup) :
    (fewer.filterMap QueuedCommand.send?).Nodup := by
  obtain ⟨same, isPerm, isSublist⟩ := sends_subperm isFewer
  exact isPerm.nodup_iff.mp (isSublist.nodup once)

/-- A message is shown as pending whether or not its command was queued. -/
theorem composed_onSendMessage
    (link : UiLink)
    (hash : UInt8)
    (isChannel : Bool) :
    Composed link (link.onSendMessage hash isChannel) hash
      (if isChannel then
        .sendGroupMsg hash link.sendCount
      else
        .sendDm hash link.sendCount) := by
  let pushed :=
    { link with sendCount := link.sendCount + 1 }.pushRecord hash
      .composed (.sent link.sendCount)
  have sameBubbles :
      ∀ other send,
        .sent send ∈ pushed.bubbles other ↔
          .sent send ∈ link.bubbles other ∨
            (other = hash ∧ send = link.sendCount) := by
    intro other send
    simp [pushed, mem_pushRecord, eq_comm]
  have pushedShows :
      ∀ view : Nat → SendView,
        view link.sendCount = SendView.initial →
        link.Shows view →
          pushed.Shows view := by
    intro view initial shows'
    refine Shows.pushRecord
      (show { link with sendCount := link.sendCount + 1 }.Shows view
        from shows') hash ?_
    simp [Bubble.record, initial, SendView.initial,
      MessageRecord.composed]
  by_cases fits : link.commands.length < commandQueueCap
  · have queued :
        link.onSendMessage hash isChannel =
          { pushed with
            commands :=
              link.commands ++
                [if isChannel then
                  .sendGroupMsg hash link.sendCount
                else
                  .sendDm hash link.sendCount] } := by
      simp [onSendMessage, trySendCommand, pushed, UiLink.pushRecord,
        fits]
    rw [queued]
    exact
      { events := rfl
        sendCount := rfl
        bubbles := sameBubbles
        commands := .inl rfl
        apart := fun apart => apart.pushSent hash
        shows' := pushedShows }
  · have refused :
        link.onSendMessage hash isChannel =
          pushed.pushRecord hash .inbound .inbound := by
      simp [onSendMessage, trySendCommand, pushed, UiLink.pushRecord,
        fits]
    rw [refused]
    exact
      { events := rfl
        sendCount := rfl
        bubbles := fun other send => by
          rw [mem_pushRecord]
          simp [sameBubbles]
        commands := .inr rfl
        apart := fun apart => (apart.pushSent hash).pushInbound hash
        shows' := fun view initial shows' =>
          (pushedShows view initial shows').pushRecord hash rfl }

/-- The view after an event about one send. -/
theorem record_update_of_ne
    {send : Nat}
    {bubble : Bubble}
    (other : bubble ≠ .sent send)
    (changed : SendView) :
    bubble.record (Function.update view send changed) =
      bubble.record view := by
  cases bubble with
  | sent number =>
      have apart : number ≠ send := by
        rintro rfl
        exact other rfl
      simp [Bubble.record, apart]
  | restored slot =>
      rfl
  | inbound =>
      rfl

/-- In a conversation only the send's own record changes with its view. -/
theorem BubblesOnce.differsInOwn
    (apart : BubblesOnce link.bubbles link.sendCount)
    (hash : UInt8)
    {send : Nat}
    {changed : SendView}
    {test : MessageRecord → Bool}
    {change : MessageRecord → MessageRecord}
    (changes :
      (Bubble.sent send).record (Function.update view send changed) =
        change ((Bubble.sent send).record view))
    (matches' : test ((Bubble.sent send).record view) = true) :
    Search.DiffersInOwn test change (Bubble.record view)
      (Bubble.record (Function.update view send changed))
      (fun bubble => bubble = .sent send) (link.bubbles hash) := by
  refine
    { others := fun bubble _ other => record_update_of_ne other changed
      changed := ?_
      matches' := ?_
      once := ?_ }
  · rintro bubble - rfl
    exact changes
  · rintro bubble - rfl
    exact matches'
  · have distinct := apart.once hash
    rw [List.Nodup, List.pairwise_filterMap] at distinct
    refine distinct.imp ?_
    rintro first second different ⟨rfl, rfl⟩
    exact different send rfl send rfl rfl

/-- With one conversation rewritten, the rest still shows the changed view. -/
theorem Shows.update_iff
    (shows' : link.Shows view)
    (apart : BubblesOnce link.bubbles link.sendCount)
    {hash : UInt8}
    {send : Nat}
    (own : .sent send ∈ link.bubbles hash)
    (changed : SendView)
    (rest : List QueuedEvent)
    (records : List MessageRecord) :
    Shows
        { link with
          events := rest
          messages := Function.update link.messages hash records }
        (Function.update view send changed) ↔
      records =
        (link.bubbles hash).map
          (Bubble.record (Function.update view send changed)) := by
  constructor
  · intro showsAfter
    simpa using showsAfter hash
  · intro isRight other
    by_cases same : other = hash
    · subst same
      simpa using isRight
    · simp only [Function.update_of_ne same, shows' other]
      apply List.map_congr_left
      intro bubble member
      symm
      apply record_update_of_ne
      rintro rfl
      exact same (apart.home other hash send member own)

/-- The oldest record of a conversation that a hash could be recorded on. -/
def oldestUntagged
    (link : UiLink)
    (view : Nat → SendView)
    (hash : UInt8) :
    Option Bubble :=
  (link.bubbles hash).find? fun bubble =>
    (bubble.record view).isUntagged

/-- The newest record of a conversation that is still pending. -/
def newestPending
    (link : UiLink)
    (view : Nat → SendView)
    (hash : UInt8) :
    Option Bubble :=
  ((link.bubbles hash).filter fun bubble =>
    (bubble.record view).isPending).getLast?

/-- A hash goes to its own bubble exactly when that is the oldest untagged. -/
theorem Shows.tag_iff
    (shows' : link.Shows view)
    (apart : BubblesOnce link.bubbles link.sendCount)
    {hash : UInt8}
    {send : Nat}
    (own : .sent send ∈ link.bubbles hash)
    (untouched : view send = SendView.initial)
    (ackHash : AckHash)
    (rest : List QueuedEvent) :
    Shows
        { link with
          events := rest
          messages :=
            (link.messages.tagOldestUntaggedOutbound hash ackHash).1 }
        (Function.update view send
          { delivery := .pending, ackHash := some ackHash }) ↔
      ∀ found ∈ link.oldestUntagged view hash, found = .sent send := by
  have differs :
      Search.DiffersInOwn MessageRecord.isUntagged
        (MessageRecord.tagged ackHash) (Bubble.record view)
        (Bubble.record
          (Function.update view send
            { delivery := .pending, ackHash := some ackHash }))
        (fun bubble => bubble = .sent send) (link.bubbles hash) :=
    apart.differsInOwn hash
      (by simp [Bubble.record, MessageRecord.tagged, untouched,
        SendView.initial])
      (by simp [Bubble.record, MessageRecord.isUntagged, untouched,
        SendView.initial])
  refine (shows'.update_iff apart own _ rest _).trans ?_
  rw [shows' hash]
  exact Search.updateFirst_map_eq_iff
    (fun bubble _ => MessageRecord.tagged_ne ackHash _) differs

/-- An outcome goes to the record that waits for its acknowledgement. -/
theorem Shows.settle_tagged
    (shows' : link.Shows view)
    (apart : BubblesOnce link.bubbles link.sendCount)
    {hash : UInt8}
    {send : Nat}
    (own : .sent send ∈ link.bubbles hash)
    {ackHash : AckHash}
    (tagged : (view send).ackHash = some ackHash)
    (only : ∀ other, (view other).ackHash = some ackHash → other = send)
    (pending : (view send).delivery = .pending)
    {state : DeliveryState}
    (outcome : state ≠ .pending)
    (rest : List QueuedEvent) :
    (link.messages hash).any (MessageRecord.waitsFor ackHash) = true ∧
      Shows
        { link with
          events := rest
          messages :=
            (link.messages.markDeliveryByAckHash hash ackHash state).1 }
        (Function.update view send
          { view send with delivery := state }) := by
  have waits :
      MessageRecord.waitsFor ackHash ((Bubble.sent send).record view) =
        true := by
    simp [MessageRecord.waitsFor, Bubble.record, tagged]
  have onlyOwn :
      ∀ bubble : Bubble,
        MessageRecord.waitsFor ackHash (bubble.record view) = true →
          bubble = .sent send := by
    intro bubble waitsFor
    cases bubble with
    | sent number =>
        have hash : (view number).ackHash = some ackHash := by
          simpa [MessageRecord.waitsFor, Bubble.record] using waitsFor
        rw [only number hash]
    | restored slot =>
        simp [MessageRecord.waitsFor, Bubble.record,
          MessageRecord.restored] at waitsFor
    | inbound =>
        simp [MessageRecord.waitsFor, Bubble.record,
          MessageRecord.inbound] at waitsFor
  have differs :
      Search.DiffersInOwn (MessageRecord.waitsFor ackHash)
        (MessageRecord.settled state) (Bubble.record view)
        (Bubble.record
          (Function.update view send
            { view send with delivery := state }))
        (fun bubble => bubble = .sent send) (link.bubbles hash) :=
    apart.differsInOwn hash
      (by simp [Bubble.record, MessageRecord.settled])
      waits
  constructor
  · rw [shows' hash, List.any_map, List.any_eq_true]
    exact ⟨.sent send, own, waits⟩
  · refine (shows'.update_iff apart own _ rest _).mpr ?_
    rw [shows' hash]
    refine (Search.updateFirst_map_eq_iff ?_ differs).mpr ?_
    · intro bubble _ waitsFor
      rw [onlyOwn bubble waitsFor]
      exact MessageRecord.settled_ne outcome _ (by
        simp [MessageRecord.isPending, Bubble.record, pending])
    · intro found isFirst
      have waitsFor := List.find?_some isFirst
      exact onlyOwn found waitsFor

/-- The fallback is right exactly when the newest pending record is its own. -/
theorem Shows.settle_newest_iff
    (shows' : link.Shows view)
    (apart : BubblesOnce link.bubbles link.sendCount)
    {hash : UInt8}
    {send : Nat}
    (own : .sent send ∈ link.bubbles hash)
    (pending : (view send).delivery = .pending)
    {state : DeliveryState}
    (outcome : state ≠ .pending)
    (rest : List QueuedEvent) :
    Shows
        { link with
          events := rest
          messages := (link.messages.settleNewestPending hash state).1 }
        (Function.update view send
          { view send with delivery := state }) ↔
      ∀ found ∈ link.newestPending view hash, found = .sent send := by
  have differs :
      Search.DiffersInOwn MessageRecord.isPending
        (MessageRecord.settled state) (Bubble.record view)
        (Bubble.record
          (Function.update view send
            { view send with delivery := state }))
        (fun bubble => bubble = .sent send) (link.bubbles hash) :=
    apart.differsInOwn hash
      (by simp [Bubble.record, MessageRecord.settled])
      (by simp [Bubble.record, MessageRecord.isPending, pending])
  refine (shows'.update_iff apart own _ rest _).trans ?_
  rw [shows' hash]
  exact Search.updateLast_map_eq_iff
    (fun bubble _ isPending =>
      MessageRecord.settled_ne outcome _ isPending)
    differs

/-- The fallback changes nothing exactly when no record is pending. -/
theorem Shows.settle_nothing_iff
    (shows' : link.Shows view)
    {hash : UInt8}
    {state : DeliveryState}
    (outcome : state ≠ .pending)
    (rest : List QueuedEvent) :
    Shows
        { link with
          events := rest
          messages := (link.messages.settleNewestPending hash state).1 }
        view ↔
      link.newestPending view hash = none := by
  have kept :
      Search.updateLast MessageRecord.isPending
            (MessageRecord.settled state) (link.messages hash) =
          link.messages hash ↔
        link.newestPending view hash = none := by
    rw [shows' hash]
    exact Search.updateLast_map_eq_self_iff
      (fun bubble _ isPending =>
        MessageRecord.settled_ne outcome _ isPending)
  rw [← kept]
  constructor
  · intro showsAfter
    have here := showsAfter hash
    simp only [Messages.settleNewestPending,
      Function.update_self] at here
    exact here.trans (shows' hash).symm
  · intro unchanged other
    simp only [Messages.settleNewestPending, unchanged,
      Function.update_eq_self]
    exact shows' other

/-- An outcome that no record waits for falls back to the newest pending. -/
theorem Shows.not_waiting
    (shows' : link.Shows view)
    {ackHash : AckHash}
    (untagged : ∀ send, (view send).ackHash ≠ some ackHash)
    (hash : UInt8) :
    ∀ record ∈ link.messages hash,
      MessageRecord.waitsFor ackHash record = false := by
  intro record member
  rw [shows' hash] at member
  obtain ⟨bubble, -, rfl⟩ := List.mem_map.mp member
  cases bubble with
  | sent number =>
      simpa [MessageRecord.waitsFor, Bubble.record] using untagged number
  | restored slot =>
      simp [MessageRecord.waitsFor, Bubble.record, MessageRecord.restored]
  | inbound =>
      rfl

end UiLink

end MeshCadet
