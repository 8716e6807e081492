import MeshCadet.HistoryEntry
import MeshCadet.SendRouting
import MeshCadet.Transition

namespace MeshCadet

/-!
# Conversations kept apart

A thread is what one conversation should show: the records restored for it, what
its own events and drafts added, and how many of its messages are unread.  The
interface shows the thread of every conversation whose hash no other conversation
has.  Contacts, channels and rooms share one key space, so conversations with the
same hash show each other's records.
-/

/-- The kind under which a conversation is kept on flash. -/
def ConversationKind.historyKind : ConversationKind → HistoryMsgType
  | contact => .dm
  | channel => .grpTxt
  | room => .dm

/-- The conversation a catalog entry opens. -/
def ChannelEntry.conversation
    (entry : ChannelEntry) :
    Conversation :=
  { kind := if entry.isRoom then .room else .channel
    hash := entry.hash }

/-- The conversation an event adds to. -/
def ConversationEvent.conversation : ConversationEvent → Conversation
  | incomingDm fromHash _ _ => ⟨.contact, fromHash⟩
  | incomingGroupMsg channelHash _ => ⟨.channel, channelHash⟩
  | roomPostDrained roomHash _ => ⟨.room, roomHash⟩
  | roomPostLive roomHash _ => ⟨.room, roomHash⟩
  | roomDrainComplete roomHash _ => ⟨.room, roomHash⟩
  | roomPermissionUpdated roomHash _ => ⟨.room, roomHash⟩
  | roomPostSent roomHash _ _ => ⟨.room, roomHash⟩
  | roomPostRefused roomHash _ => ⟨.room, roomHash⟩
  | telemetryResponse fromHash _ => ⟨.contact, fromHash⟩

/-- One step of the interface. -/
inductive ConversationStep where
  | event (nowMs : UInt64) (event : ConversationEvent)
  | openConversation (conversation : Conversation)
  | closeConversation
  | send (rawText : String) (nowMs : UInt64)
  | takeCommands
deriving Repr, DecidableEq

/-- The conversation a step names. -/
def ConversationStep.conversation? :
    ConversationStep → Option Conversation
  | .event _ added => some added.conversation
  | .openConversation conversation => some conversation
  | .closeConversation => none
  | .send _ _ => none
  | .takeCommands => none

/-- The bundle the interface is seeded with at boot.  Every history region is
restored once. -/
structure BootSeed where
  rooms : List (UInt8 × Bool)
  contacts : List (UInt8 × String)
  channels : List ChannelEntry
  conversations : List ((HistoryMsgType × UInt8) × List ThreadRecord)
  oneRegionEach : (conversations.map Prod.fst).Nodup

namespace ConversationUi

/-- Register the contacts one after the other. -/
def registerContacts
    (ui : ConversationUi)
    (contacts : List (UInt8 × String)) :
    ConversationUi :=
  contacts.foldl
    (fun ui contact => ui.registerContact contact.1 contact.2) ui

/-- Seed the restored conversations one after the other. -/
def seedConversations
    (ui : ConversationUi)
    (conversations :
      List ((HistoryMsgType × UInt8) × List ThreadRecord)) :
    ConversationUi :=
  conversations.foldl
    (fun ui seeded => ui.seedConversation seeded.1.2 seeded.2) ui

/-- The interface after the boot seed. -/
def boot
    (seed : BootSeed) :
    ConversationUi :=
  (((new.withRooms seed.rooms).registerContacts
      seed.contacts).setChannels seed.channels).seedConversations
    seed.conversations

/-- Carry out one step.  A draft belongs to the conversation that is open. -/
def step
    (expand : String → String)
    (ui : ConversationUi) :
    ConversationStep → ConversationUi
  | .event nowMs event => ui.handleEvent nowMs event
  | .openConversation conversation =>
      ui.navigateToMessageView conversation.hash conversation.kind.isChannel
  | .closeConversation => ui.navigateToContactList
  | .send rawText nowMs =>
      match ui.activeConvo with
      | some (hash, isChannel) =>
          (ui.onSendMessage expand hash isChannel rawText nowMs).1
      | none => ui
  | .takeCommands => ui.takeCommands

/-- No more commands fit. -/
def queueFull
    (ui : ConversationUi) :
    Bool :=
  commandQueueCap ≤ ui.commands.length

end ConversationUi

/-- What one conversation should show. -/
structure Thread where
  records : List ThreadRecord
  unread : Nat
  isOpen : Bool
  permission : Option Bool

namespace Thread

/-- Add a record. -/
def push
    (thread : Thread)
    (record : ThreadRecord) :
    Thread :=
  { thread with records := thread.records ++ [record] }

/-- Count messages that arrive while the conversation is not open. -/
def count
    (thread : Thread)
    (messages : Nat) :
    Thread :=
  if thread.isOpen then thread
  else { thread with unread := thread.unread + messages }

/-- Say that a send was not queued. -/
def notice
    (queueFull : Bool)
    (nowMs : UInt64)
    (thread : Thread) :
    Thread :=
  if queueFull then thread.push (.queueBusy nowMs) else thread

/-- A draft of the conversation.  A room post is shown once it was sent. -/
def send
    (kind : ConversationKind)
    (queueFull : Bool)
    (text : String)
    (nowMs : UInt64)
    (thread : Thread) :
    Thread :=
  match kind, thread.permission with
  | .room, some false => thread
  | .room, some true => thread.notice queueFull nowMs
  | _, _ => (thread.push (.composed text)).notice queueFull nowMs

/-- An event of the conversation. -/
def handleEvent
    (nowMs : UInt64)
    (thread : Thread) :
    ConversationEvent → Thread
  | .incomingDm _ _ text => (thread.push (.received text nowMs)).count 1
  | .incomingGroupMsg _ text =>
      (thread.push (.received text nowMs)).count 1
  | .roomPostDrained _ text => thread.push (.received text nowMs)
  | .roomPostLive _ text => (thread.push (.received text nowMs)).count 1
  | .roomDrainComplete _ messages => thread.count messages.toNat
  | .roomPermissionUpdated _ canPost =>
      { thread with permission := some canPost }
  | .roomPostSent _ text ackHash =>
      thread.push (.posted text ackHash nowMs)
  | .roomPostRefused _ reason =>
      thread.push (.received ("System: " ++ reason) nowMs)
  | .telemetryResponse _ text => thread.push (.received text nowMs)

/-- What a step adds to the thread of a conversation.  Steps of other
conversations add nothing. -/
def step
    (expand : String → String)
    (conversation : Conversation)
    (queueFull : Bool)
    (thread : Thread) :
    ConversationStep → Thread
  | .event nowMs event =>
      if event.conversation = conversation then
        thread.handleEvent nowMs event
      else
        thread
  | .openConversation opened =>
      if opened = conversation then
        { thread with
          unread := 0
          isOpen := true }
      else
        { thread with isOpen := false }
  | .closeConversation => { thread with isOpen := false }
  | .send rawText nowMs =>
      if thread.isOpen && !isBlank (expand rawText) then
        thread.send conversation.kind queueFull (expand rawText) nowMs
      else
        thread
  | .takeCommands => thread

/-- The thread of a conversation after the boot seed. -/
def boot
    (seed : BootSeed)
    (conversation : Conversation) :
    Thread :=
  { records :=
      ((seed.conversations.find? fun seeded =>
        seeded.1 == (conversation.kind.historyKind, conversation.hash)).map
          Prod.snd).getD []
    unread := 0
    isOpen := false
    permission := lastPermission seed.rooms conversation.hash }

/-- The row of the conversation in its list. -/
def item
    (thread : Thread)
    (hash : UInt8)
    (name : String) :
    ListItem :=
  listItem hash name thread.records (UInt32.ofNat thread.unread)

end Thread

/-- No other conversation of the boot seed has the hash. -/
structure BootSeed.Alone
    (seed : BootSeed)
    (conversation : Conversation) :
    Prop where
  rooms :
    ∀ room ∈ seed.rooms,
      room.1 = conversation.hash → conversation.kind = .room
  contacts :
    ∀ contact ∈ seed.contacts,
      contact.1 = conversation.hash → conversation.kind = .contact
  channels :
    ∀ entry ∈ seed.channels,
      entry.hash = conversation.hash → entry.conversation = conversation
  conversations :
    ∀ seeded ∈ seed.conversations,
      seeded.1.2 = conversation.hash →
        seeded.1.1 = conversation.kind.historyKind

/-- A step of a conversation that shares its hash with no other. -/
def ConversationStep.Alone
    (conversation : Conversation)
    (step : ConversationStep) :
    Prop :=
  ∀ owner,
    step.conversation? = some owner →
    owner.hash = conversation.hash →
    owner = conversation

/-- The interface holds the thread of the conversation under its hash. -/
structure Holds
    (conversation : Conversation)
    (ui : ConversationUi)
    (thread : Thread) :
    Prop where
  records : ui.messages conversation.hash = thread.records
  unread : ui.unread conversation.hash = UInt32.ofNat thread.unread
  permission : ui.roomPermissions conversation.hash = thread.permission
  isRoom : conversation.kind ≠ .room → thread.permission = none
  isOpen : thread.isOpen = true ↔ ui.activeConvo = some conversation.key
  active :
    ∀ isChannel,
      ui.activeConvo = some (conversation.hash, isChannel) →
      isChannel = conversation.kind.isChannel

namespace Holds

variable
    {conversation : Conversation}
    {ui : ConversationUi}
    {thread : Thread}

/-- A record of the conversation is added to its thread. -/
theorem push
    (holds : Holds conversation ui thread)
    (record : ThreadRecord) :
    Holds conversation (ui.push conversation.hash record)
      (thread.push record) where
  records := by
    simp [ConversationUi.push, Thread.push, holds.records]
  unread := holds.unread
  permission := holds.permission
  isRoom := holds.isRoom
  isOpen := holds.isOpen
  active := holds.active

/-- A record of another hash is not added. -/
theorem push_other
    (holds : Holds conversation ui thread)
    {hash : UInt8}
    (other : hash ≠ conversation.hash)
    (record : ThreadRecord) :
    Holds conversation (ui.push hash record) thread where
  records := by
    simp [ConversationUi.push, Function.update_of_ne (Ne.symm other),
      holds.records]
  unread := holds.unread
  permission := holds.permission
  isRoom := holds.isRoom
  isOpen := holds.isOpen
  active := holds.active

/-- Messages are unread unless the conversation is open. -/
theorem bumpUnread
    (holds : Holds conversation ui thread)
    (messages : UInt32) :
    Holds conversation
      (ui.bumpUnread conversation.hash conversation.kind.isChannel
        messages)
      (thread.count messages.toNat) := by
  unfold ConversationUi.bumpUnread incomingMessageIsUnread Thread.count
  by_cases isOpen : thread.isOpen = true
  · have opened := holds.isOpen.mp isOpen
    rw [Conversation.key] at opened
    simpa [opened, isOpen] using holds
  · have closed :
        ui.activeConvo ≠
          some (conversation.hash, conversation.kind.isChannel) := by
      intro opened
      exact isOpen (holds.isOpen.mpr opened)
    simp only [bne_iff_ne, ne_eq, closed, not_false_eq_true, if_true,
      isOpen]
    exact
      { records := holds.records
        unread := by
          simp [holds.unread, UInt32.ofNat_add]
        permission := holds.permission
        isRoom := holds.isRoom
        isOpen := by
          simpa [isOpen] using holds.isOpen
        active := holds.active }

/-- Messages of another hash are not counted. -/
theorem bumpUnread_other
    (holds : Holds conversation ui thread)
    {hash : UInt8}
    (other : hash ≠ conversation.hash)
    (isChannel : Bool)
    (messages : UInt32) :
    Holds conversation (ui.bumpUnread hash isChannel messages)
      thread := by
  unfold ConversationUi.bumpUnread
  split
  · exact
      { records := holds.records
        unread := by
          simp [Function.update_of_ne (Ne.symm other), holds.unread]
        permission := holds.permission
        isRoom := holds.isRoom
        isOpen := holds.isOpen
        active := holds.active }
  · exact holds

/-- Only the names of contacts change. -/
theorem named
    (holds : Holds conversation ui thread)
    (contactNames : UInt8 → Option String) :
    Holds conversation { ui with contactNames := contactNames } thread :=
  ⟨holds.records, holds.unread, holds.permission, holds.isRoom,
    holds.isOpen, holds.active⟩

/-- Only the queued commands change. -/
theorem queued
    (holds : Holds conversation ui thread)
    (commands : List UiCommand) :
    Holds conversation { ui with commands := commands } thread :=
  ⟨holds.records, holds.unread, holds.permission, holds.isRoom,
    holds.isOpen, holds.active⟩

/-- A command of the conversation is queued or said not to be. -/
theorem trySendCommand
    (holds : Holds conversation ui thread)
    (command : UiCommand)
    (nowMs : UInt64) :
    Holds conversation
      (ui.trySendCommand command conversation.hash nowMs)
      (thread.notice ui.queueFull nowMs) := by
  unfold ConversationUi.trySendCommand Thread.notice
    ConversationUi.queueFull
  by_cases room : ui.commands.length < commandQueueCap
  · have notFull : ¬commandQueueCap ≤ ui.commands.length := by
      omega
    simpa [room, notFull] using holds.queued _
  · have full : commandQueueCap ≤ ui.commands.length := by
      omega
    simpa [room, full] using holds.push _

/-- A command under another hash does not concern the conversation. -/
theorem trySendCommand_other
    (holds : Holds conversation ui thread)
    {hash : UInt8}
    (other : hash ≠ conversation.hash)
    (command : UiCommand)
    (nowMs : UInt64) :
    Holds conversation (ui.trySendCommand command hash nowMs)
      thread := by
  unfold ConversationUi.trySendCommand
  split
  · exact holds.queued _
  · exact holds.push_other other _

/-- A draft of the conversation. -/
theorem sendExpanded
    (holds : Holds conversation ui thread)
    (text : String)
    (nowMs : UInt64) :
    Holds conversation
      (ui.sendExpanded conversation.hash conversation.kind.isChannel text
        nowMs).1
      (thread.send conversation.kind ui.queueFull text nowMs) := by
  have composed (command : UiCommand) :
      Holds conversation
        ((ui.push conversation.hash (.composed text)).trySendCommand
          command conversation.hash nowMs)
        ((thread.push (.composed text)).notice ui.queueFull nowMs) :=
    (holds.push (.composed text)).trySendCommand command nowMs
  unfold ConversationUi.sendExpanded Thread.send
  rw [holds.permission]
  cases permission : thread.permission with
  | none =>
      cases kind : conversation.kind with
      | contact => exact composed _
      | channel => exact composed _
      | room => exact composed _
  | some canPost =>
      have room : conversation.kind = .room := by
        by_contra notRoom
        simp [holds.isRoom notRoom] at permission
      rw [room]
      cases canPost with
      | false => exact holds
      | true => exact holds.trySendCommand _ nowMs

/-- A draft of a conversation with another hash. -/
theorem sendExpanded_other
    (holds : Holds conversation ui thread)
    {hash : UInt8}
    (other : hash ≠ conversation.hash)
    (isChannel : Bool)
    (text : String)
    (nowMs : UInt64) :
    Holds conversation (ui.sendExpanded hash isChannel text nowMs).1
      thread := by
  have composed (command : UiCommand) :
      Holds conversation
        ((ui.push hash (.composed text)).trySendCommand command hash
          nowMs)
        thread :=
    (holds.push_other other (.composed text)).trySendCommand_other other
      command nowMs
  unfold ConversationUi.sendExpanded
  rcases ui.roomPermissions hash with _ | _ | _
  · cases isChannel
    · exact composed _
    · exact composed _
  · exact holds
  · exact holds.trySendCommand_other other _ nowMs

/-- An event of the conversation. -/
theorem handleEvent
    (holds : Holds conversation ui thread)
    (nowMs : UInt64)
    {event : ConversationEvent}
    (own : event.conversation = conversation) :
    Holds conversation (ui.handleEvent nowMs event)
      (thread.handleEvent nowMs event) := by
  subst own
  cases event with
  | incomingDm fromHash fromName text =>
      exact ((holds.named _).push _).bumpUnread 1
  | incomingGroupMsg channelHash text =>
      exact (holds.push _).bumpUnread 1
  | roomPostDrained roomHash text => exact holds.push _
  | roomPostLive roomHash text => exact (holds.push _).bumpUnread 1
  | roomDrainComplete roomHash messages =>
      exact holds.bumpUnread messages
  | roomPermissionUpdated roomHash canPost =>
      exact
        { records := holds.records
          unread := holds.unread
          permission := by
            simp [ConversationUi.handleEvent, ConversationUi.registerRoom,
              Thread.handleEvent, ConversationEvent.conversation]
          isRoom := fun notRoom => absurd rfl notRoom
          isOpen := holds.isOpen
          active := holds.active }
  | roomPostSent roomHash text ackHash => exact holds.push _
  | roomPostRefused roomHash reason => exact holds.push _
  | telemetryResponse fromHash text => exact holds.push _

/-- An event of a conversation with another hash. -/
theorem handleEvent_other
    (holds : Holds conversation ui thread)
    (nowMs : UInt64)
    {event : ConversationEvent}
    (other : event.conversation.hash ≠ conversation.hash) :
    Holds conversation (ui.handleEvent nowMs event) thread := by
  cases event with
  | incomingDm fromHash fromName text =>
      exact ((holds.named _).push_other other _).bumpUnread_other other _ _
  | incomingGroupMsg channelHash text =>
      exact (holds.push_other other _).bumpUnread_other other _ _
  | roomPostDrained roomHash text => exact holds.push_other other _
  | roomPostLive roomHash text =>
      exact (holds.push_other other _).bumpUnread_other other _ _
  | roomDrainComplete roomHash messages =>
      exact holds.bumpUnread_other other _ _
  | roomPermissionUpdated roomHash canPost =>
      exact
        { records := holds.records
          unread := holds.unread
          permission := by
            have elsewhere : conversation.hash ≠ roomHash :=
              Ne.symm other
            simpa [ConversationUi.handleEvent,
              ConversationUi.registerRoom,
              Function.update_of_ne elsewhere] using holds.permission
          isRoom := holds.isRoom
          isOpen := holds.isOpen
          active := holds.active }
  | roomPostSent roomHash text ackHash => exact holds.push_other other _
  | roomPostRefused roomHash reason => exact holds.push_other other _
  | telemetryResponse fromHash text => exact holds.push_other other _

/-- No conversation is open. -/
theorem close
    (holds : Holds conversation ui thread) :
    Holds conversation ui.navigateToContactList
      { thread with isOpen := false } where
  records := holds.records
  unread := holds.unread
  permission := holds.permission
  isRoom := holds.isRoom
  isOpen := by
    simp [ConversationUi.navigateToContactList]
  active := by
    simp [ConversationUi.navigateToContactList]

/-- The conversation is opened and read. -/
theorem opened
    (holds : Holds conversation ui thread) :
    Holds conversation
      (ui.navigateToMessageView conversation.hash
        conversation.kind.isChannel)
      { thread with
        unread := 0
        isOpen := true } where
  records := holds.records
  unread := by
    simp [ConversationUi.navigateToMessageView]
  permission := holds.permission
  isRoom := holds.isRoom
  isOpen := by
    simp [ConversationUi.navigateToMessageView, Conversation.key]
  active := by
    intro isChannel active
    simpa [ConversationUi.navigateToMessageView, eq_comm] using active

/-- A conversation with another hash is opened. -/
theorem opened_other
    (holds : Holds conversation ui thread)
    {hash : UInt8}
    (other : hash ≠ conversation.hash)
    (isChannel : Bool) :
    Holds conversation (ui.navigateToMessageView hash isChannel)
      { thread with isOpen := false } where
  records := holds.records
  unread := by
    simp [ConversationUi.navigateToMessageView,
      Function.update_of_ne (Ne.symm other), holds.unread]
  permission := holds.permission
  isRoom := holds.isRoom
  isOpen := by
    simp [ConversationUi.navigateToMessageView, Conversation.key, other]
  active := by
    simp [ConversationUi.navigateToMessageView, other]

/-- A draft goes to the conversation that is open. -/
theorem sent
    (expand : String → String)
    (holds : Holds conversation ui thread)
    (rawText : String)
    (nowMs : UInt64) :
    Holds conversation (ui.step expand (.send rawText nowMs))
      (thread.step expand conversation ui.queueFull
        (.send rawText nowMs)) := by
  unfold ConversationUi.step Thread.step
  cases active : ui.activeConvo with
  | none =>
      have closed : thread.isOpen = false := by
        simpa [active] using holds.isOpen
      simpa [closed] using holds
  | some key =>
      rcases key with ⟨hash, isChannel⟩
      unfold ConversationUi.onSendMessage
      cases blank : isBlank (expand rawText) with
      | true =>
          simpa [blank] using holds
      | false =>
          by_cases same : hash = conversation.hash
          · subst same
            obtain rfl := holds.active isChannel active
            have isOpen := holds.isOpen.mpr active
            simpa [blank, isOpen] using
              holds.sendExpanded (expand rawText) nowMs
          · have closed : thread.isOpen = false := by
              have notOpen := holds.isOpen
              simp only [active, Conversation.key, Option.some.injEq,
                Prod.mk.injEq, same, false_and, iff_false,
                Bool.not_eq_true] at notOpen
              exact notOpen
            simpa [blank, closed] using
              holds.sendExpanded_other same isChannel (expand rawText)
                nowMs

/-- A step keeps the thread as long as no other conversation has the hash. -/
theorem step
    (expand : String → String)
    (holds : Holds conversation ui thread)
    {step : ConversationStep}
    (alone : step.Alone conversation) :
    Holds conversation (ui.step expand step)
      (thread.step expand conversation ui.queueFull step) := by
  cases step with
  | event nowMs event =>
      by_cases own : event.conversation = conversation
      · simpa [ConversationUi.step, Thread.step, own] using
          holds.handleEvent nowMs own
      · have other : event.conversation.hash ≠ conversation.hash :=
          fun same => own (alone _ rfl same)
        simpa [ConversationUi.step, Thread.step, own] using
          holds.handleEvent_other nowMs other
  | openConversation chosen =>
      by_cases own : chosen = conversation
      · subst own
        simpa [ConversationUi.step, Thread.step] using holds.opened
      · have other : chosen.hash ≠ conversation.hash :=
          fun same => own (alone _ rfl same)
        simpa [ConversationUi.step, Thread.step, own] using
          holds.opened_other other _
  | closeConversation => exact holds.close
  | send rawText nowMs => exact holds.sent expand rawText nowMs
  | takeCommands => exact holds.queued _

end Holds

namespace ConversationUi

/-- Registering contacts changes only their names. -/
theorem registerContacts_eq
    (ui : ConversationUi)
    (contacts : List (UInt8 × String)) :
    ∃ contactNames,
      ui.registerContacts contacts =
        { ui with contactNames := contactNames } := by
  induction contacts generalizing ui with
  | nil => exact ⟨ui.contactNames, rfl⟩
  | cons contact rest inductionHypothesis =>
      exact inductionHypothesis (ui.registerContact contact.1 contact.2)

/-- Restored records replace nothing of another conversation. -/
theorem seedConversation_messages_other
    (ui : ConversationUi)
    {hash other : UInt8}
    (different : hash ≠ other)
    (records : List ThreadRecord) :
    (ui.seedConversation hash records).messages other =
      ui.messages other := by
  unfold seedConversation messagesInsertNonEmpty
  split
  · rfl
  · exact Function.update_of_ne (Ne.symm different) _ _

/-- Restored records are what an empty conversation shows. -/
theorem seedConversation_messages_own
    (ui : ConversationUi)
    {hash : UInt8}
    (nothing : ui.messages hash = [])
    (records : List ThreadRecord) :
    (ui.seedConversation hash records).messages hash = records := by
  cases records with
  | nil => simpa [seedConversation, messagesInsertNonEmpty] using nothing
  | cons record later => simp [seedConversation, messagesInsertNonEmpty]

/-- Seeding other conversations leaves a conversation alone. -/
theorem seedConversations_messages_other
    (ui : ConversationUi)
    {hash : UInt8}
    {conversations :
      List ((HistoryMsgType × UInt8) × List ThreadRecord)}
    (others : ∀ seeded ∈ conversations, seeded.1.2 ≠ hash) :
    (ui.seedConversations conversations).messages hash =
      ui.messages hash := by
  induction conversations generalizing ui with
  | nil => rfl
  | cons seeded rest inductionHypothesis =>
      have here :=
        ui.seedConversation_messages_other
          (others seeded List.mem_cons_self) seeded.2
      have later :=
        inductionHypothesis (ui.seedConversation seeded.1.2 seeded.2)
          fun other member => others other (List.mem_cons_of_mem _ member)
      exact later.trans here

/-- Restored records reach the conversation they were stored for. -/
theorem seedConversations_messages
    {ui : ConversationUi}
    {conversation : Conversation}
    (nothing : ui.messages conversation.hash = [])
    {conversations :
      List ((HistoryMsgType × UInt8) × List ThreadRecord)}
    (oneRegionEach : (conversations.map Prod.fst).Nodup)
    (alone :
      ∀ seeded ∈ conversations,
        seeded.1.2 = conversation.hash →
          seeded.1.1 = conversation.kind.historyKind) :
    (ui.seedConversations conversations).messages conversation.hash =
      ((conversations.find? fun seeded =>
        seeded.1 == (conversation.kind.historyKind, conversation.hash)).map
          Prod.snd).getD [] := by
  induction conversations generalizing ui with
  | nil => exact nothing
  | cons seeded rest inductionHypothesis =>
      simp only [List.map_cons, List.nodup_cons] at oneRegionEach
      have restAlone :
          ∀ seeded ∈ rest,
            seeded.1.2 = conversation.hash →
              seeded.1.1 = conversation.kind.historyKind :=
        fun other member =>
          alone other (List.mem_cons_of_mem _ member)
      by_cases own : seeded.1.2 = conversation.hash
      · have ownKey :
            seeded.1 =
              (conversation.kind.historyKind, conversation.hash) :=
          Prod.ext (alone seeded List.mem_cons_self own) own
        -- no later region is the same conversation's
        have others :
            ∀ other ∈ rest, other.1.2 ≠ conversation.hash := by
          intro other member same
          apply oneRegionEach.1
          refine List.mem_map.mpr ⟨other, member, ?_⟩
          exact (Prod.ext (restAlone other member same) same).trans
            ownKey.symm
        have later :=
          (ui.seedConversation conversation.hash
            seeded.2).seedConversations_messages_other others
        have here :=
          ui.seedConversation_messages_own nothing seeded.2
        simpa [seedConversations, ownKey] using later.trans here
      · have still :
            (ui.seedConversation seeded.1.2 seeded.2).messages
              conversation.hash = [] :=
          (ui.seedConversation_messages_other own seeded.2).trans nothing
        have later :=
          inductionHypothesis still oneRegionEach.2 restAlone
        have otherKey :
            (seeded.1 ==
              (conversation.kind.historyKind, conversation.hash)) =
                false := by
          rw [beq_eq_false_iff_ne]
          intro same
          exact own (congrArg Prod.snd same)
        rw [List.find?_cons_of_neg (by simp [otherKey])]
        exact later

/-- Seeding the conversations changes only their records. -/
theorem seedConversations_eq
    (ui : ConversationUi)
    (conversations :
      List ((HistoryMsgType × UInt8) × List ThreadRecord)) :
    ui.seedConversations conversations =
      { ui with
        messages := (ui.seedConversations conversations).messages } := by
  induction conversations generalizing ui with
  | nil => rfl
  | cons seeded rest inductionHypothesis =>
      exact inductionHypothesis (ui.seedConversation seeded.1.2 seeded.2)

end ConversationUi

/-- After the boot seed the interface holds every thread. -/
theorem Holds.boot
    {seed : BootSeed}
    {conversation : Conversation}
    (alone : seed.Alone conversation) :
    Holds conversation (.boot seed) (.boot seed conversation) := by
  obtain ⟨contactNames, registered⟩ :=
    (ConversationUi.new.withRooms seed.rooms).registerContacts_eq
      seed.contacts
  have booted :
      ConversationUi.boot seed =
        ({ ConversationUi.new with
            contactNames := contactNames
            channelItems := seed.channels
            roomPermissions := lastPermission seed.rooms
            }).seedConversations seed.conversations := by
    rw [ConversationUi.boot, registered, ConversationUi.withRooms_eq]
    rfl
  rw [booted]
  have restored :=
    @ConversationUi.seedConversations_messages
      { ConversationUi.new with
        contactNames := contactNames
        channelItems := seed.channels
        roomPermissions := lastPermission seed.rooms }
      conversation rfl _ seed.oneRegionEach alone.conversations
  rw [ConversationUi.seedConversations_eq]
  exact
    { records := restored
      unread := rfl
      permission := rfl
      isRoom := by
        intro notRoom
        apply (lastPermission_eq_none_iff seed.rooms _).mpr
        intro room member same
        exact notRoom (alone.rooms room member same)
      isOpen := by
        simp [Thread.boot, ConversationUi.new]
      active := by
        simp [ConversationUi.new] }

/-- The interface next to the thread of one conversation. -/
structure WatchedThread where
  ui : ConversationUi
  thread : Thread

namespace WatchedThread

/-- Both after the boot seed. -/
def boot
    (conversation : Conversation)
    (seed : BootSeed) :
    WatchedThread :=
  { ui := .boot seed
    thread := .boot seed conversation }

/-- Both carry out the step. -/
def step
    (expand : String → String)
    (conversation : Conversation)
    (watched : WatchedThread)
    (step : ConversationStep) :
    WatchedThread :=
  { ui := watched.ui.step expand step
    thread :=
      watched.thread.step expand conversation watched.ui.queueFull step }

/-- The conversation shows its thread: its records, its unread count and its row
in the lists. -/
def Shows
    (conversation : Conversation)
    (watched : WatchedThread) :
    Prop :=
  watched.ui.messages conversation.hash = watched.thread.records ∧
    watched.ui.unread conversation.hash =
      UInt32.ofNat watched.thread.unread ∧
    (∀ item ∈ watched.ui.buildContactItems,
      item.hash = conversation.hash →
        item = watched.thread.item conversation.hash item.name) ∧
    ∀ item ∈ watched.ui.buildChannelItems,
      item.hash = conversation.hash →
        item.toListItem =
          watched.thread.item conversation.hash item.name

/-- Every conversation whose hash no other one has shows exactly its own restored,
received and sent messages and its own unread count, in every state of a run. -/
theorem always_shows_own
    (expand : String → String)
    (conversation : Conversation)
    (seed : BootSeed)
    (steps : List ConversationStep)
    (alone : seed.Alone conversation)
    (stepsAlone : ∀ step ∈ steps, step.Alone conversation) :
    Transition.Always (step expand conversation) (Shows conversation)
      (boot conversation seed) steps := by
  have held :
      Transition.Always (step expand conversation)
        (fun watched => Holds conversation watched.ui watched.thread)
        (boot conversation seed) steps := by
    refine @Transition.always_of_along _ _ (step expand conversation)
      (fun watched => Holds conversation watched.ui watched.thread)
      (fun _ step => step.Alone conversation) ?_ _ steps ?_ ?_
    · intro watched next holds nextAlone
      exact Holds.step expand holds nextAlone
    · exact Holds.boot alone
    · exact Transition.along_of_forall stepsAlone _
  refine held.mono ?_
  intro watched holds
  refine ⟨holds.records, holds.unread, ?_, ?_⟩
  · intro item member same
    rw [ConversationUi.mem_buildContactItems member, Thread.item, same,
      holds.records, holds.unread]
    rfl
  · intro item member same
    rw [Thread.item, ← holds.records, ← holds.unread, ← same]
    exact ConversationUi.mem_buildChannelItems member

/-- A record of the conversation another device sends. -/
def restoredHello : ThreadRecord :=
  .received "hello" 0

/-- A seed with a restored contact and a room. -/
def contactAndRoom : BootSeed :=
  { rooms := [(0x17, true)]
    contacts := [(0x55, "Ana")]
    channels := [⟨"Camp", 0x17, true⟩]
    conversations := [((.dm, 0x55), [restoredHello])]
    oneRegionEach := by decide }

/-- A contact and a room with different hashes are kept apart. -/
theorem always_shows_own_contact :
    (contactAndRoom.Alone ⟨.contact, 0x55⟩ ∧
      ∀ step ∈ [ConversationStep.event 5 (.roomPostLive 0x17 "hi")],
        step.Alone ⟨.contact, 0x55⟩) ∧
      Transition.Always (step id ⟨.contact, 0x55⟩)
        (Shows ⟨.contact, 0x55⟩)
        (boot ⟨.contact, 0x55⟩ contactAndRoom)
        [.event 5 (.roomPostLive 0x17 "hi")] := by
  have alone : contactAndRoom.Alone ⟨.contact, 0x55⟩ :=
    { rooms := by decide +kernel
      contacts := by decide +kernel
      channels := by decide +kernel
      conversations := by decide +kernel }
  have stepsAlone :
      ∀ step ∈ [ConversationStep.event 5 (.roomPostLive 0x17 "hi")],
        step.Alone ⟨.contact, 0x55⟩ := by
    intro step member owner isOwner same
    obtain rfl := List.mem_singleton.mp member
    cases isOwner
    exact absurd same (by decide)
  exact ⟨⟨alone, stepsAlone⟩,
    always_shows_own id ⟨.contact, 0x55⟩ contactAndRoom _ alone
      stepsAlone⟩

/-- A seed with a contact and a channel that have the same hash. -/
def contactAndChannel : BootSeed :=
  { rooms := []
    contacts := [(0x55, "Ana")]
    channels := [⟨"Trail", 0x55, false⟩]
    conversations :=
      [((.dm, 0x55), [restoredHello]),
        ((.grpTxt, 0x55), [.received "Bo: up here" 0])]
    oneRegionEach := by decide }

/-- The channel's restored records replace the contact's, and a channel message
is counted as the contact's. -/
theorem sharedHash_showsOthers :
    (boot ⟨.contact, 0x55⟩ contactAndChannel).ui.messages 0x55 =
        [.received "Bo: up here" 0] ∧
      (boot ⟨.contact, 0x55⟩ contactAndChannel).thread.records =
        [restoredHello] ∧
      ¬Transition.Always (step id ⟨.contact, 0x55⟩)
        (Shows ⟨.contact, 0x55⟩)
        (boot ⟨.contact, 0x55⟩ contactAndChannel) [] ∧
      ((boot ⟨.contact, 0x55⟩ contactAndChannel).ui.step id
        (.event 5 (.incomingGroupMsg 0x55 "Bo: hi"))).unread 0x55 = 1 := by
  have shown :
      (boot ⟨.contact, 0x55⟩ contactAndChannel).ui.messages 0x55 =
        [.received "Bo: up here" 0] := by
    decide
  have own :
      (boot ⟨.contact, 0x55⟩ contactAndChannel).thread.records =
        [restoredHello] := by
    decide
  refine ⟨shown, own, ?_, by decide⟩
  intro always
  have same := always.head.1.symm.trans shown
  rw [own] at same
  revert same
  decide

end WatchedThread

end MeshCadet
