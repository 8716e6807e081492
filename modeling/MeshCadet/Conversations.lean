import MeshCadet.MessageRecords
import MeshCadet.UiLink

namespace MeshCadet

/-!
# Conversations of the user interface

The interface keeps the records and the unread count of a conversation under its
one-byte hash, whether it belongs to a contact, a channel or a room.  A room is
shown in the channel list and is told from a channel by the permission that was
registered under its hash.  How a draft is expanded before it is sent does not
matter here and is a parameter.
-/

/-- What a conversation is with. -/
inductive ConversationKind where
  | contact
  | channel
  | room
deriving Repr, DecidableEq

/-- Only contacts are listed apart from the channels. -/
def ConversationKind.isChannel : ConversationKind → Bool
  | contact => false
  | channel => true
  | room => true

/-- A conversation. -/
structure Conversation where
  kind : ConversationKind
  hash : UInt8
deriving Repr, DecidableEq

/-- The pair the interface remembers of an open conversation. -/
def Conversation.key
    (conversation : Conversation) :
    UInt8 × Bool :=
  (conversation.hash, conversation.kind.isChannel)

/-- A record with its text and the uptime at which it was pushed. -/
structure ThreadRecord extends MessageRecord where
  text : String
  tsMs : UInt64
deriving Repr, DecidableEq

namespace ThreadRecord

/-- A received message or a notice of the system. -/
def received
    (text : String)
    (nowMs : UInt64) :
    ThreadRecord :=
  { toMessageRecord := .inbound
    text := text
    tsMs := nowMs }

/-- The bubble of a message that was just composed. -/
def composed
    (text : String) :
    ThreadRecord :=
  { toMessageRecord := .composed
    text := text
    tsMs := 0 }

/-- The bubble of a room post that reached the radio. -/
def posted
    (text : String)
    (ackHash : AckHash)
    (nowMs : UInt64) :
    ThreadRecord :=
  { toMessageRecord := { MessageRecord.composed with ackHash := some ackHash }
    text := text
    tsMs := nowMs }

/-- The notice that the command queue did not take a send. -/
def queueBusy
    (nowMs : UInt64) :
    ThreadRecord :=
  .received "System: send queue is busy — try again in a moment" nowMs

end ThreadRecord

/-- A send the interface hands to the dispatcher. -/
inductive UiCommand where
  | sendDm (toHash : UInt8) (text : String)
  | sendGroupMsg (channelHash : UInt8) (text : String)
  | sendRoomPost (roomHash : UInt8) (text : String)
deriving Repr, DecidableEq

/-- What became of a draft. -/
inductive SendOutcome where
  | emptyDraft
  | refused (roomHash : UInt8) (reason : String)
  | handed (command : UiCommand)
deriving Repr, DecidableEq

/-- Characters with the Unicode property `White_Space`. -/
def isWhiteSpace
    (char : Char) :
    Bool :=
  (0x09 ≤ char.val && char.val ≤ 0x0D) ||
    (0x2000 ≤ char.val && char.val ≤ 0x200A) ||
    [0x20, 0x85, 0xA0, 0x1680, 0x2028, 0x2029, 0x202F, 0x205F,
      0x3000].contains char.val

/-- Nothing is left of the text once it is trimmed. -/
def isBlank
    (text : String) :
    Bool :=
  text.toList.all isWhiteSpace

/-- A channel or room of the provisioned catalog. -/
structure ChannelEntry where
  name : String
  hash : UInt8
  isRoom : Bool
deriving Repr, DecidableEq

/-- The conversations as the interface holds them. -/
structure ConversationUi where
  contactNames : UInt8 → Option String
  channelItems : List ChannelEntry
  messages : UInt8 → List ThreadRecord
  unread : UInt8 → UInt32
  roomPermissions : UInt8 → Option Bool
  activeConvo : Option (UInt8 × Bool)
  commands : List UiCommand

/-- Events that add to conversations. -/
inductive ConversationEvent where
  | incomingDm (fromHash : UInt8) (fromName text : String)
  | incomingGroupMsg (channelHash : UInt8) (text : String)
  | roomPostDrained (roomHash : UInt8) (text : String)
  | roomPostLive (roomHash : UInt8) (text : String)
  | roomDrainComplete (roomHash : UInt8) (count : UInt32)
  | roomPermissionUpdated (roomHash : UInt8) (canPost : Bool)
  | roomPostSent (roomHash : UInt8) (text : String) (ackHash : AckHash)
  | roomPostRefused (roomHash : UInt8) (reason : String)
  | telemetryResponse (fromHash : UInt8) (text : String)
deriving Repr, DecidableEq

/-- Whether a message for the conversation counts as unread. -/
def incomingMessageIsUnread
    (activeConvo : Option (UInt8 × Bool))
    (hash : UInt8)
    (isChannel : Bool) :
    Bool :=
  activeConvo != some (hash, isChannel)

namespace ConversationUi

/-- The interface before the boot seed. -/
def new : ConversationUi :=
  { contactNames := fun _ => none
    channelItems := []
    messages := fun _ => []
    unread := fun _ => 0
    roomPermissions := fun _ => none
    activeConvo := none
    commands := [] }

/-- Register the name of a contact. -/
def registerContact
    (ui : ConversationUi)
    (hash : UInt8)
    (name : String) :
    ConversationUi :=
  { ui with
    contactNames := Function.update ui.contactNames hash (some name) }

/-- Register the current permission of a room. -/
def registerRoom
    (ui : ConversationUi)
    (hash : UInt8)
    (canPost : Bool) :
    ConversationUi :=
  { ui with
    roomPermissions :=
      Function.update ui.roomPermissions hash (some canPost) }

/-- Set the catalog of channels and rooms. -/
def setChannels
    (ui : ConversationUi)
    (channels : List ChannelEntry) :
    ConversationUi :=
  { ui with channelItems := channels }

/-- Set the records of a conversation unless there are none. -/
def messagesInsertNonEmpty
    (messages : UInt8 → List ThreadRecord)
    (hash : UInt8)
    (records : List ThreadRecord) :
    UInt8 → List ThreadRecord :=
  if records.isEmpty then messages
  else Function.update messages hash records

/-- Seed a conversation with the records restored from flash. -/
def seedConversation
    (ui : ConversationUi)
    (hash : UInt8)
    (records : List ThreadRecord) :
    ConversationUi :=
  { ui with
    messages := messagesInsertNonEmpty ui.messages hash records }

/-- Add a record to the conversation under a hash. -/
def push
    (ui : ConversationUi)
    (hash : UInt8)
    (record : ThreadRecord) :
    ConversationUi :=
  { ui with
    messages :=
      Function.update ui.messages hash (ui.messages hash ++ [record]) }

/-- Count messages as unread unless their conversation is open. -/
def bumpUnread
    (ui : ConversationUi)
    (hash : UInt8)
    (isChannel : Bool)
    (count : UInt32) :
    ConversationUi :=
  if incomingMessageIsUnread ui.activeConvo hash isChannel then
    { ui with
      unread := Function.update ui.unread hash (ui.unread hash + count) }
  else
    ui

/-- Handle an event of the dispatcher. -/
def handleEvent
    (ui : ConversationUi)
    (nowMs : UInt64) :
    ConversationEvent → ConversationUi
  | .incomingDm fromHash fromName text =>
      let named :=
        { ui with
          contactNames :=
            Function.update ui.contactNames fromHash
              (some ((ui.contactNames fromHash).getD fromName)) }
      (named.push fromHash (.received text nowMs)).bumpUnread fromHash false 1
  | .incomingGroupMsg channelHash text =>
      (ui.push channelHash (.received text nowMs)).bumpUnread
        channelHash true 1
  | .roomPostDrained roomHash text =>
      ui.push roomHash (.received text nowMs)
  | .roomPostLive roomHash text =>
      (ui.push roomHash (.received text nowMs)).bumpUnread roomHash true 1
  | .roomDrainComplete roomHash count =>
      ui.bumpUnread roomHash true count
  | .roomPermissionUpdated roomHash canPost =>
      ui.registerRoom roomHash canPost
  | .roomPostSent roomHash text ackHash =>
      ui.push roomHash (.posted text ackHash nowMs)
  | .roomPostRefused roomHash reason =>
      ui.push roomHash (.received ("System: " ++ reason) nowMs)
  | .telemetryResponse fromHash text =>
      ui.push fromHash (.received text nowMs)

/-- Queue a command, or say in the conversation that it was not queued. -/
def trySendCommand
    (ui : ConversationUi)
    (command : UiCommand)
    (hash : UInt8)
    (nowMs : UInt64) :
    ConversationUi :=
  if ui.commands.length < commandQueueCap then
    { ui with commands := ui.commands ++ [command] }
  else
    ui.push hash (.queueBusy nowMs)

/-- The dispatcher takes all queued commands. -/
def takeCommands
    (ui : ConversationUi) :
    ConversationUi :=
  { ui with commands := [] }

/-- Send an expanded draft that is not blank. -/
def sendExpanded
    (ui : ConversationUi)
    (hash : UInt8)
    (isChannel : Bool)
    (text : String)
    (nowMs : UInt64) :
    ConversationUi × SendOutcome :=
  match ui.roomPermissions hash with
  | some false =>
      (ui, .refused hash "this room is now read-only for your session")
  | some true =>
      (ui.trySendCommand (.sendRoomPost hash text) hash nowMs,
        .handed (.sendRoomPost hash text))
  | none =>
      if isChannel then
        ((ui.push hash (.composed text)).trySendCommand
            (.sendGroupMsg hash text) hash nowMs,
          .handed (.sendGroupMsg hash text))
      else
        ((ui.push hash (.composed text)).trySendCommand
            (.sendDm hash text) hash nowMs,
          .handed (.sendDm hash text))

/-- Send the draft composed in a conversation. -/
def onSendMessage
    (expand : String → String)
    (ui : ConversationUi)
    (hash : UInt8)
    (isChannel : Bool)
    (rawText : String)
    (nowMs : UInt64) :
    ConversationUi × SendOutcome :=
  if isBlank (expand rawText) then
    (ui, .emptyDraft)
  else
    ui.sendExpanded hash isChannel (expand rawText) nowMs

/-- Open a conversation and clear its badge. -/
def navigateToMessageView
    (ui : ConversationUi)
    (hash : UInt8)
    (isChannel : Bool) :
    ConversationUi :=
  { ui with
    activeConvo := some (hash, isChannel)
    unread := Function.update ui.unread hash 0 }

/-- Return to the contact list. -/
def navigateToContactList
    (ui : ConversationUi) :
    ConversationUi :=
  { ui with activeConvo := none }

end ConversationUi

/-- A row of the contact list. -/
structure ListItem where
  name : String
  preview : String
  unread : Int32
  hash : UInt8
deriving Repr, DecidableEq

/-- A row of the channel list. -/
structure ChannelItem extends ListItem where
  isRoom : Bool
deriving Repr, DecidableEq

/-- Rows with more unread messages come first, then by name. -/
def ListItem.before
    (first second : ListItem) :
    Bool :=
  second.unread < first.unread ||
    (first.unread == second.unread && first.name ≤ second.name)

/-- The row of a conversation with the given records and unread count. -/
def listItem
    (hash : UInt8)
    (name : String)
    (records : List ThreadRecord)
    (unread : UInt32) :
    ListItem :=
  { name := name
    preview := (records.getLast?.map ThreadRecord.text).getD ""
    unread := unread.toInt32
    hash := hash }

namespace ConversationUi

/-- The rows of all registered contacts. -/
def buildContactItems
    (ui : ConversationUi) :
    List ListItem :=
  ((List.finRange 256).filterMap fun index =>
    (ui.contactNames (UInt8.ofFin index)).map fun name =>
      listItem (UInt8.ofFin index) name (ui.messages (UInt8.ofFin index))
        (ui.unread (UInt8.ofFin index))).mergeSort ListItem.before

/-- The rows of the provisioned channels and rooms. -/
def buildChannelItems
    (ui : ConversationUi) :
    List ChannelItem :=
  (ui.channelItems.map fun entry =>
    { toListItem :=
        listItem entry.hash entry.name (ui.messages entry.hash)
          (ui.unread entry.hash)
      isRoom := entry.isRoom }).mergeSort
    fun first second => first.toListItem.before second.toListItem

/-- A row of the contact list shows the records under its hash. -/
theorem mem_buildContactItems
    {ui : ConversationUi}
    {item : ListItem}
    (member : item ∈ ui.buildContactItems) :
    item =
      listItem item.hash item.name (ui.messages item.hash)
        (ui.unread item.hash) := by
  simp only [buildContactItems, List.mem_mergeSort, List.mem_filterMap,
    Option.map_eq_some_iff] at member
  obtain ⟨index, -, name, -, rfl⟩ := member
  rfl

/-- A row of the channel list shows the records under its hash. -/
theorem mem_buildChannelItems
    {ui : ConversationUi}
    {item : ChannelItem}
    (member : item ∈ ui.buildChannelItems) :
    item.toListItem =
      listItem item.hash item.name (ui.messages item.hash)
        (ui.unread item.hash) := by
  simp only [buildChannelItems, List.mem_mergeSort, List.mem_map] at member
  obtain ⟨entry, -, rfl⟩ := member
  rfl

end ConversationUi

end MeshCadet
