import MeshCadet.Conversations

namespace MeshCadet

/-!
# Where a draft is sent

A draft belongs to the recipient of the conversation it was composed in.  The
interface looks only at the hash when it asks whether that is a room, so it sends
to the recipient exactly when the permission registered under the hash is the
recipient's own: the room's, or none for a contact and a channel.
-/

/-- The command a send was handed over as. -/
def SendOutcome.command? : SendOutcome → Option UiCommand
  | emptyDraft => none
  | refused _ _ => none
  | handed command => some command

namespace Conversation

/-- What a draft should become; `canPost` is the permission of a room. -/
def ownOutcome
    (conversation : Conversation)
    (canPost : Bool)
    (text : String) :
    SendOutcome :=
  match conversation.kind with
  | .contact => .handed (.sendDm conversation.hash text)
  | .channel => .handed (.sendGroupMsg conversation.hash text)
  | .room =>
      if canPost then
        .handed (.sendRoomPost conversation.hash text)
      else
        .refused conversation.hash
          "this room is now read-only for your session"

/-- The permission that belongs under the hash of the conversation. -/
def ownPermission
    (conversation : Conversation)
    (canPost : Bool) :
    Option Bool :=
  match conversation.kind with
  | .contact => none
  | .channel => none
  | .room => some canPost

end Conversation

/-- The permission of the room registered last under a hash. -/
def lastPermission
    (rooms : List (UInt8 × Bool))
    (hash : UInt8) :
    Option Bool :=
  (rooms.reverse.find? fun room => room.1 == hash).map Prod.snd

/-- No room was registered under a hash without a permission. -/
theorem lastPermission_eq_none_iff
    (rooms : List (UInt8 × Bool))
    (hash : UInt8) :
    lastPermission rooms hash = none ↔ ∀ room ∈ rooms, room.1 ≠ hash := by
  simp [lastPermission]

namespace ConversationUi

/-- The interface after rooms were registered one after the other. -/
def withRooms
    (ui : ConversationUi)
    (rooms : List (UInt8 × Bool)) :
    ConversationUi :=
  rooms.foldl (fun ui room => ui.registerRoom room.1 room.2)
    { ui with roomPermissions := fun _ => none }

/-- The registered rooms decide every permission and nothing else. -/
theorem withRooms_eq
    (ui : ConversationUi)
    (rooms : List (UInt8 × Bool)) :
    ui.withRooms rooms =
      { ui with roomPermissions := lastPermission rooms } := by
  induction rooms using List.reverseRecOn with
  | nil => rfl
  | append_singleton earlier room inductionHypothesis =>
      have last :
          ui.withRooms (earlier ++ [room]) =
            (ui.withRooms earlier).registerRoom room.1 room.2 := by
        simp [withRooms]
      have permissions :
          Function.update (lastPermission earlier) room.1 (some room.2) =
            lastPermission (earlier ++ [room]) := by
        funext hash
        by_cases same : room.1 = hash
        · simp [lastPermission, same]
        · have other : (room.1 == hash) = false := by
            simpa using same
          rw [Function.update_of_ne (Ne.symm same)]
          simp [lastPermission, other]
      rw [last, inductionHypothesis, registerRoom, permissions]

/-- A send becomes what belongs to the permission under its hash. -/
theorem sendExpanded_outcome
    (ui : ConversationUi)
    (conversation : Conversation)
    (canPost : Bool)
    (text : String)
    (nowMs : UInt64) :
    (ui.sendExpanded conversation.hash conversation.kind.isChannel text
        nowMs).2 = conversation.ownOutcome canPost text ↔
      ui.roomPermissions conversation.hash =
        conversation.ownPermission canPost := by
  rcases conversation with ⟨kind, hash⟩
  unfold sendExpanded
  rcases ui.roomPermissions hash with _ | _ | _ <;>
    cases kind <;> cases canPost <;>
      simp [Conversation.ownOutcome, Conversation.ownPermission,
        ConversationKind.isChannel]

/-- Adding a record leaves the command queue alone. -/
@[simp] theorem push_commands
    (ui : ConversationUi)
    (hash : UInt8)
    (record : ThreadRecord) :
    (ui.push hash record).commands = ui.commands := rfl

/-- A command that fits is queued behind the others. -/
theorem trySendCommand_commands
    (ui : ConversationUi)
    (command : UiCommand)
    (hash : UInt8)
    (nowMs : UInt64)
    (room : ui.commands.length < commandQueueCap) :
    (ui.trySendCommand command hash nowMs).commands =
      ui.commands ++ [command] := by
  simp [trySendCommand, room]

/-- What is handed over is queued when it fits. -/
theorem sendExpanded_commands
    (ui : ConversationUi)
    (hash : UInt8)
    (isChannel : Bool)
    (text : String)
    (nowMs : UInt64)
    (room : ui.commands.length < commandQueueCap) :
    (ui.sendExpanded hash isChannel text nowMs).1.commands =
      ui.commands ++
        (ui.sendExpanded hash isChannel text nowMs).2.command?.toList := by
  have pushed :
      (ui.push hash (.composed text)).commands.length <
        commandQueueCap := room
  unfold sendExpanded
  rcases ui.roomPermissions hash with _ | _ | _
  · cases isChannel
    · simp [SendOutcome.command?, trySendCommand_commands _ _ _ _ pushed]
    · simp [SendOutcome.command?, trySendCommand_commands _ _ _ _ pushed]
  · simp [SendOutcome.command?]
  · simp [SendOutcome.command?, trySendCommand_commands _ _ _ _ room]

/-- The draft reaches the command queue as its own conversation's. -/
def SendsToOwn
    (expand : String → String)
    (ui : ConversationUi)
    (conversation : Conversation)
    (canPost : Bool)
    (draft : String)
    (nowMs : UInt64) :
    Prop :=
  (ui.onSendMessage expand conversation.hash conversation.kind.isChannel
      draft nowMs).2 = conversation.ownOutcome canPost (expand draft) ∧
    (ui.commands.length < commandQueueCap →
      (ui.onSendMessage expand conversation.hash
          conversation.kind.isChannel draft nowMs).1.commands =
        ui.commands ++
          (conversation.ownOutcome canPost (expand draft)).command?.toList)

/-- A draft is sent to its own recipient exactly when no room was registered
under the hash of a contact or a channel, and when the room registered last under
the hash of a room has that room's permission. -/
theorem onSendMessage_own_iff
    (expand : String → String)
    (ui : ConversationUi)
    (rooms : List (UInt8 × Bool))
    (conversation : Conversation)
    (canPost : Bool)
    (draft : String)
    (nowMs : UInt64)
    (notBlank : isBlank (expand draft) = false) :
    SendsToOwn expand (ui.withRooms rooms) conversation canPost draft
        nowMs ↔
      match conversation.kind with
      | .contact => ∀ room ∈ rooms, room.1 ≠ conversation.hash
      | .channel => ∀ room ∈ rooms, room.1 ≠ conversation.hash
      | .room => lastPermission rooms conversation.hash = some canPost := by
  have sent :
      (ui.withRooms rooms).onSendMessage expand conversation.hash
          conversation.kind.isChannel draft nowMs =
        (ui.withRooms rooms).sendExpanded conversation.hash
          conversation.kind.isChannel (expand draft) nowMs := by
    simp [onSendMessage, notBlank]
  have routed :
      SendsToOwn expand (ui.withRooms rooms) conversation canPost draft
          nowMs ↔
        lastPermission rooms conversation.hash =
          conversation.ownPermission canPost := by
    have permission :
        (ui.withRooms rooms).roomPermissions conversation.hash =
          lastPermission rooms conversation.hash := by
      rw [withRooms_eq]
    rw [← permission,
      ← sendExpanded_outcome _ conversation canPost (expand draft) nowMs]
    unfold SendsToOwn
    rw [sent]
    constructor
    · intro own
      exact own.1
    · intro own
      refine ⟨own, fun room => ?_⟩
      rw [sendExpanded_commands _ _ _ _ _ room, own]
  rw [routed]
  rcases conversation with ⟨kind, hash⟩
  cases kind
  · exact lastPermission_eq_none_iff rooms hash
  · exact lastPermission_eq_none_iff rooms hash
  · exact Iff.rfl

/-- A contact next to a room with another hash gets its message. -/
theorem onSendMessage_own_iff_contact :
    isBlank "hi" = false ∧
      SendsToOwn id (new.withRooms [(0x17, true)]) ⟨.contact, 0x42⟩ true
        "hi" 0 :=
  ⟨by decide,
    (onSendMessage_own_iff id new [(0x17, true)] ⟨.contact, 0x42⟩ true "hi"
      0 (by decide)).mpr (by simp)⟩

/-- A message to a contact is posted in the room with the same hash, or is
refused because that room is read-only. -/
theorem contactDraft_takenForRoom :
    isBlank "hi" = false ∧
      ((new.withRooms [(0x42, true)]).onSendMessage id 0x42 false "hi"
        0).2 = .handed (.sendRoomPost 0x42 "hi") ∧
      ((new.withRooms [(0x42, false)]).onSendMessage id 0x42 false "hi"
        0).2 =
          .refused 0x42 "this room is now read-only for your session" ∧
      ¬SendsToOwn id (new.withRooms [(0x42, true)]) ⟨.contact, 0x42⟩ true
        "hi" 0 := by
  refine ⟨by decide, by decide, by decide, ?_⟩
  intro own
  have outcome := own.1
  revert outcome
  decide

end ConversationUi

end MeshCadet
