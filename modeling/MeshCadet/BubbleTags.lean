import Mathlib.Data.List.Nodup
import MeshCadet.SlotTable
import MeshCadet.Transition
import MeshCadet.UiLink

namespace MeshCadet

/-!
# Acknowledgement hashes on bubbles

A direct message is shown before its acknowledgement hash is known.  The hash
follows in an event, and so does the outcome of the send; both are attached to a
record by its place in the conversation or by its hash.  A run interleaves the
interface, the queues and a dispatcher that answers every command as it likes.
-/

open Transition

/-- What the dispatcher does with a message to a contact. -/
inductive DispatchOutcome where
  | dropped
  | failClosed (ackHash : AckHash)
  | queued (ackHash : AckHash)
deriving Repr, DecidableEq

/-- The acknowledgement hash that was computed for the message. -/
def DispatchOutcome.ackHash? : DispatchOutcome → Option AckHash
  | dropped => none
  | failClosed ackHash => some ackHash
  | queued ackHash => some ackHash

/-- A queued send whose acknowledgement is still open. -/
structure TrackedSend where
  ackHash : AckHash
  toHash : UInt8
  send : Nat
deriving Repr, DecidableEq

/-- The two tasks, and what the handled events said about every send. -/
structure DmTags where
  link : UiLink
  batch : List QueuedCommand
  outstanding : List TrackedSend
  view : Nat → SendView
  produced : List (AckHash × Nat)
  known : List AckHash

/-- What either task does next. -/
inductive TagEvent where
  | send (toHash : UInt8)
  | otherCommand
  | takeCommands
  | dispatch (outcome : DispatchOutcome)
  | resolve (ackHash : AckHash) (delivered : Bool)
  | receive (fromHash : UInt8)
  | handleEvent
deriving Repr, DecidableEq

/-- The acknowledgement hash a step computes. -/
def TagEvent.ackHash? : TagEvent → Option AckHash
  | dispatch outcome => outcome.ackHash?
  | _ => none

/-- The event tells a hash; every other event about a send its outcome. -/
def QueuedEvent.isQueued : QueuedEvent → Bool
  | dmQueued _ _ _ => true
  | _ => false

/-- Of two events about one send the first tells the hash, the second not. -/
def QueuedEvent.Follows
    (earlier later : QueuedEvent) :
    Prop :=
  ∀ send,
    earlier.send? = some send →
    later.send? = some send →
      earlier.isQueued = true ∧ later.isQueued = false

/-- What the events about its send say after one more of them. -/
def SendView.after
    (view : Nat → SendView) :
    QueuedEvent → Nat → SendView
  | .dmQueued _ ackHash send =>
      Function.update view send
        { view send with ackHash := some ackHash }
  | .dmSettled _ _ delivered send =>
      Function.update view send
        { view send with delivery := outcomeOf delivered }
  | .channelAcked _ send =>
      Function.update view send { view send with delivery := .acked }
  | .incomingDm _ => view

namespace DmTags

/-- After boot, with the stored conversations shown. -/
def seeded
    (stored : UInt8 → List DecodedSlot) :
    DmTags :=
  { link := .seeded stored
    batch := []
    outstanding := []
    view := fun _ => .initial
    produced := []
    known := [] }

/-- The dispatcher handles a message to a contact. -/
def dispatchDm
    (tags : DmTags)
    (toHash : UInt8)
    (send : Nat) :
    DispatchOutcome → DmTags
  | .dropped => tags
  | .failClosed ackHash =>
      { tags with
        link :=
          tags.link.sendUiEvent (.dmSettled toHash ackHash false send)
        produced := (ackHash, send) :: tags.produced }
  | .queued ackHash =>
      { tags with
        link := tags.link.sendUiEvent (.dmQueued toHash ackHash send)
        outstanding :=
          { ackHash := ackHash, toHash := toHash, send := send } ::
            tags.outstanding
        produced := (ackHash, send) :: tags.produced }

/-- One step of either task. -/
def step
    (tags : DmTags) :
    TagEvent → DmTags
  | .send toHash =>
      { tags with link := tags.link.onSendMessage toHash false }
  | .otherCommand =>
      if tags.link.commands.length < commandQueueCap then
        { tags with
          link :=
            { tags.link with
              commands := tags.link.commands ++ [.other] } }
      else
        tags
  | .takeCommands =>
      { tags with
        link := { tags.link with commands := [] }
        batch := tags.batch ++ tags.link.commands }
  | .dispatch outcome =>
      let noted :=
        { tags with known := outcome.ackHash?.toList ++ tags.known }
      match tags.batch with
      | [] => noted
      | .sendDm toHash send :: rest =>
          { noted with batch := rest }.dispatchDm toHash send outcome
      | _ :: rest => { noted with batch := rest }
  | .resolve ackHash delivered =>
      match
        tags.outstanding.find? fun tracked => tracked.ackHash == ackHash
      with
      | none => tags
      | some tracked =>
          { tags with
            outstanding :=
              tags.outstanding.eraseP fun other =>
                other.ackHash == ackHash
            link :=
              tags.link.sendUiEvent
                (.dmSettled tracked.toHash ackHash delivered
                  tracked.send) }
  | .receive fromHash =>
      { tags with link := tags.link.sendUiEvent (.incomingDm fromHash) }
  | .handleEvent =>
      match tags.link.events with
      | [] => tags
      | event :: _ =>
          { tags with
            link := tags.link.handleEvent
            view := SendView.after tags.view event }

/--
Every record carries exactly the hash and the outcome that the events about its
own send brought; restored and received records carry what they came with.
-/
def TagsRight
    (tags : DmTags) :
    Prop :=
  tags.link.Shows tags.view

/--
When an event is handled, its own record is the one it has to find: the oldest
untagged pending one for a hash, and for an outcome either the tagged one or the
newest pending one.
-/
def FindsOwnBubble
    (tags : DmTags) :
    TagEvent → Prop
  | .handleEvent =>
      match tags.link.events.head? with
      | some (.dmQueued toHash _ send) =>
          ∀ found ∈ tags.link.oldestUntagged tags.view toHash,
            found = .sent send
      | some (.dmSettled toHash _ _ send) =>
          (tags.view send).ackHash.isSome ∨
            ∀ found ∈ tags.link.newestPending tags.view toHash,
              found = .sent send
      | _ => True
  | _ => True

instance FindsOwnBubble.decidable
    (tags : DmTags) :
    ∀ event, Decidable (tags.FindsOwnBubble event)
  | .handleEvent =>
      match oldest : tags.link.events.head? with
      | some (.dmQueued toHash _ send) =>
          decidable_of_iff
            (∀ found ∈ tags.link.oldestUntagged tags.view toHash,
              found = .sent send)
            (by rw [FindsOwnBubble, oldest])
      | some (.dmSettled toHash _ _ send) =>
          decidable_of_iff
            ((tags.view send).ackHash.isSome ∨
              ∀ found ∈ tags.link.newestPending tags.view toHash,
                found = .sent send)
            (by rw [FindsOwnBubble, oldest])
      | some (.incomingDm _) | some (.channelAcked _ _) | none =>
          .isTrue (by rw [FindsOwnBubble, oldest]; trivial)
  | .send _ | .otherCommand | .takeCommands | .dispatch _ | .resolve _ _
  | .receive _ =>
      .isTrue trivial

/-- A queued event is about a shown send and tells something new of it. -/
def EventSound
    (bubbles : UInt8 → List Bubble)
    (produced : List (AckHash × Nat))
    (view : Nat → SendView) :
    QueuedEvent → Prop
  | .dmQueued toHash ackHash send =>
      .sent send ∈ bubbles toHash ∧
        (ackHash, send) ∈ produced ∧
        view send = .initial
  | .dmSettled toHash ackHash _ send =>
      .sent send ∈ bubbles toHash ∧
        (ackHash, send) ∈ produced ∧
        (view send).delivery = .pending
  | .channelAcked _ _ => False
  | .incomingDm _ => True

/-- An event stays sound when more bubbles are shown and more hashes known. -/
theorem EventSound.mono
    {bubbles moreBubbles : UInt8 → List Bubble}
    {produced moreProduced : List (AckHash × Nat)}
    {view : Nat → SendView}
    {event : QueuedEvent}
    (sound : EventSound bubbles produced view event)
    (shown :
      ∀ {toHash send},
        .sent send ∈ bubbles toHash → .sent send ∈ moreBubbles toHash)
    (known : ∀ {pair}, pair ∈ produced → pair ∈ moreProduced) :
    EventSound moreBubbles moreProduced view event := by
  cases event with
  | dmQueued toHash ackHash send =>
      exact ⟨shown sound.1, known sound.2.1, sound.2.2⟩
  | dmSettled toHash ackHash delivered send =>
      exact ⟨shown sound.1, known sound.2.1, sound.2.2⟩
  | channelAcked channelHash send =>
      exact sound
  | incomingDm fromHash =>
      trivial

/-- A tracked send is shown as pending, and no outcome is on its way. -/
structure TrackedSound
    (bubbles : UInt8 → List Bubble)
    (produced : List (AckHash × Nat))
    (view : Nat → SendView)
    (events : List QueuedEvent)
    (tracked : TrackedSend) :
    Prop where
  shown : .sent tracked.send ∈ bubbles tracked.toHash
  isProduced : (tracked.ackHash, tracked.send) ∈ produced
  pending : (view tracked.send).delivery = .pending
  notSettled :
    ∀ event ∈ events,
      event.send? = some tracked.send → event.isQueued = true

/-- The send of a waiting command is shown and has no hash yet. -/
structure CommandSound
    (bubbles : UInt8 → List Bubble)
    (produced : List (AckHash × Nat))
    (toHash : UInt8)
    (send : Nat) :
    Prop where
  shown : .sent send ∈ bubbles toHash
  unproduced : ∀ pair ∈ produced, pair.2 ≠ send

/-- Commands, events and tracked sends agree with what was shown. -/
structure Consistent
    (tags : DmTags) :
    Prop where
  apart : UiLink.BubblesOnce tags.link.bubbles tags.link.sendCount
  commands :
    ∀ toHash send,
      .sendDm toHash send ∈ tags.link.commands ++ tags.batch →
        CommandSound tags.link.bubbles tags.produced toHash send
  commandsOnce :
    ((tags.link.commands ++ tags.batch).filterMap
      QueuedCommand.send?).Nodup
  commandsCounted :
    ∀ send,
      some send ∈
          (tags.link.commands ++ tags.batch).map QueuedCommand.send? →
        send < tags.link.sendCount
  viewNew :
    ∀ send,
      (∀ pair ∈ tags.produced, pair.2 ≠ send) →
        tags.view send = .initial
  viewTag :
    ∀ send ackHash,
      (tags.view send).ackHash = some ackHash →
        (ackHash, send) ∈ tags.produced
  counted : ∀ pair ∈ tags.produced, pair.2 < tags.link.sendCount
  producedKnown : ∀ pair ∈ tags.produced, pair.1 ∈ tags.known
  byHash : (tags.produced.map Prod.fst).Nodup
  bySend : (tags.produced.map Prod.snd).Nodup
  events :
    ∀ event ∈ tags.link.events,
      EventSound tags.link.bubbles tags.produced tags.view event
  ordered : tags.link.events.Pairwise QueuedEvent.Follows
  tracked :
    ∀ tracked ∈ tags.outstanding,
      TrackedSound tags.link.bubbles tags.produced tags.view
        tags.link.events tracked
  trackedOnce : (tags.outstanding.map TrackedSend.ackHash).Nodup

/-- After boot nothing is under way. -/
theorem consistent_seeded
    (stored : UInt8 → List DecodedSlot) :
    (seeded stored).Consistent :=
  { apart := UiLink.bubblesOnce_seeded stored
    commands := fun _ _ member => absurd member List.not_mem_nil
    commandsOnce := List.nodup_nil
    commandsCounted := fun _ member => absurd member List.not_mem_nil
    viewNew := fun _ _ => rfl
    viewTag := fun _ _ none' => by cases none'
    counted := fun _ member => absurd member List.not_mem_nil
    producedKnown := fun _ member => absurd member List.not_mem_nil
    byHash := List.nodup_nil
    bySend := List.nodup_nil
    events := fun _ member => absurd member List.not_mem_nil
    ordered := List.Pairwise.nil
    tracked := fun _ member => absurd member List.not_mem_nil
    trackedOnce := List.nodup_nil }

namespace Consistent

variable {tags : DmTags}

/-- An event about a send comes after its hash was computed. -/
theorem event_produced
    (consistent : tags.Consistent)
    {event : QueuedEvent}
    (member : event ∈ tags.link.events)
    {send : Nat}
    (about : event.send? = some send) :
    ∃ pair ∈ tags.produced, pair.2 = send := by
  have sound := consistent.events event member
  cases event with
  | dmQueued toHash ackHash number =>
      cases about
      exact ⟨_, sound.2.1, rfl⟩
  | dmSettled toHash ackHash delivered number =>
      cases about
      exact ⟨_, sound.2.1, rfl⟩
  | channelAcked channelHash number =>
      exact sound.elim
  | incomingDm fromHash =>
      cases about

/-- At most one hash is computed for a send. -/
theorem hash_unique
    (consistent : tags.Consistent)
    {first second : AckHash}
    {send : Nat}
    (isFirst : (first, send) ∈ tags.produced)
    (isSecond : (second, send) ∈ tags.produced) :
    first = second := by
  have same :=
    List.inj_on_of_nodup_map consistent.bySend isFirst isSecond rfl
  exact congrArg Prod.fst same

/-- A hash is computed for at most one send. -/
theorem send_unique
    (consistent : tags.Consistent)
    {ackHash : AckHash}
    {first second : Nat}
    (isFirst : (ackHash, first) ∈ tags.produced)
    (isSecond : (ackHash, second) ∈ tags.produced) :
    first = second := by
  have same :=
    List.inj_on_of_nodup_map consistent.byHash isFirst isSecond rfl
  exact congrArg Prod.snd same

/-- Knowing more hashes changes nothing. -/
theorem noteKnown
    (consistent : tags.Consistent)
    (more : List AckHash) :
    Consistent { tags with known := more ++ tags.known } :=
  { consistent with
    producedKnown := fun pair member =>
      List.mem_append_right more (consistent.producedKnown pair member) }

/-- Waiting commands may move between the queues or be dropped. -/
theorem moveCommands
    (consistent : tags.Consistent)
    {commands batch : List QueuedCommand}
    (fewer :
      (commands ++ batch).Subperm (tags.link.commands ++ tags.batch)) :
    Consistent
      { tags with
        link := { tags.link with commands := commands }
        batch := batch } := by
  refine
    { consistent with
      commands := fun toHash send member =>
        consistent.commands toHash send (fewer.subset member)
      commandsOnce :=
        UiLink.sends_nodup_of_subperm fewer consistent.commandsOnce
      commandsCounted := fun send member => ?_ }
  · obtain ⟨command, isCommand, named⟩ := List.mem_map.mp member
    exact consistent.commandsCounted send
      (List.mem_map.mpr ⟨command, fewer.subset isCommand, named⟩)

/-- The oldest command of the batch is taken. -/
theorem takeOldest
    (consistent : tags.Consistent)
    {command : QueuedCommand}
    {rest : List QueuedCommand}
    (oldest : tags.batch = command :: rest) :
    Consistent { tags with batch := rest } := by
  have fewer :
      (tags.link.commands ++ rest).Subperm
        (tags.link.commands ++ tags.batch) := by
    rw [oldest]
    exact
      (List.Sublist.append_left (List.sublist_cons_self command rest)
        tags.link.commands).subperm
  exact consistent.moveCommands fewer

/-- Queueing a sound event that follows the others keeps everything sound. -/
theorem sendUiEvent
    (consistent : tags.Consistent)
    {event : QueuedEvent}
    (sound :
      EventSound tags.link.bubbles tags.produced tags.view event)
    (follows :
      ∀ earlier ∈ tags.link.events, earlier.Follows event)
    (open' :
      ∀ tracked ∈ tags.outstanding,
        event.send? = some tracked.send → event.isQueued = true) :
    Consistent { tags with link := tags.link.sendUiEvent event } := by
  unfold UiLink.sendUiEvent
  split
  · refine
      { consistent with
        events := ?_
        ordered := ?_
        tracked := ?_ }
    · intro other member
      rcases List.mem_append.mp member with old | new
      · exact consistent.events other old
      · rw [List.mem_singleton.mp new]
        exact sound
    · rw [List.pairwise_append]
      refine ⟨consistent.ordered, List.pairwise_singleton _ _, ?_⟩
      intro earlier isEarlier later isLater
      rw [List.mem_singleton.mp isLater]
      exact follows earlier isEarlier
    · intro tracked member
      have before := consistent.tracked tracked member
      refine { before with notSettled := ?_ }
      intro other isEvent about
      rcases List.mem_append.mp isEvent with old | new
      · exact before.notSettled other old about
      · rw [List.mem_singleton.mp new] at about ⊢
        exact open' tracked member about
  · exact consistent

/-- A composed message is shown and its command waits, if it fits. -/
theorem compose
    (consistent : tags.Consistent)
    (toHash : UInt8) :
    (tags.step (.send toHash)).Consistent := by
  have composed :=
    UiLink.composed_onSendMessage tags.link toHash false
  have shownAfter :
      ∀ {other send},
        .sent send ∈ tags.link.bubbles other →
          .sent send ∈ (tags.link.onSendMessage toHash false).bubbles
            other :=
    fun member => (composed.bubbles _ _).mpr (.inl member)
  have newUnproduced :
      ∀ pair ∈ tags.produced, pair.2 ≠ tags.link.sendCount := by
    intro pair member
    exact Nat.ne_of_lt (consistent.counted pair member)
  have notWaiting :
      tags.link.sendCount ∉
        (tags.link.commands ++ tags.batch).filterMap
          QueuedCommand.send? := by
    intro member
    obtain ⟨command, isCommand, named⟩ := List.mem_filterMap.mp member
    exact absurd
      (consistent.commandsCounted _
        (List.mem_map.mpr ⟨command, isCommand, named⟩))
      (Nat.lt_irrefl _)
  let newCommand : QueuedCommand := .sendDm toHash tags.link.sendCount
  have waiting := composed.waiting tags.batch
  have counted :
      ∀ command ∈
          (tags.link.onSendMessage toHash false).commands ++ tags.batch,
        command = newCommand ∨
          command ∈ tags.link.commands ++ tags.batch := by
    intro command member
    exact List.mem_cons.mp (waiting.subset member)
  refine
    { apart := composed.apart consistent.apart
      commands := ?_
      commandsOnce := ?_
      commandsCounted := ?_
      viewNew := consistent.viewNew
      viewTag := consistent.viewTag
      counted := ?_
      producedKnown := consistent.producedKnown
      byHash := consistent.byHash
      bySend := consistent.bySend
      events := ?_
      ordered := composed.events ▸ consistent.ordered
      tracked := ?_
      trackedOnce := consistent.trackedOnce }
  · intro other send member
    rcases counted _ member with new | old
    · obtain ⟨rfl, rfl⟩ := QueuedCommand.sendDm.inj new
      exact
        { shown := (composed.bubbles _ _).mpr (.inr ⟨rfl, rfl⟩)
          unproduced := newUnproduced }
    · have sound := consistent.commands other send old
      exact
        { shown := shownAfter sound.shown
          unproduced := sound.unproduced }
  · have once :
        ((newCommand :: (tags.link.commands ++ tags.batch)).filterMap
          QueuedCommand.send?).Nodup := by
      rw [List.filterMap_cons_some
        (show newCommand.send? = some tags.link.sendCount from rfl)]
      exact List.nodup_cons.mpr ⟨notWaiting, consistent.commandsOnce⟩
    exact UiLink.sends_nodup_of_subperm waiting once
  · intro send member
    obtain ⟨command, isCommand, named⟩ := List.mem_map.mp member
    have more := composed.sendCount
    rcases counted command isCommand with rfl | old
    · cases named
      exact more ▸ Nat.lt_succ_self _
    · have before :=
        consistent.commandsCounted send
          (List.mem_map.mpr ⟨command, old, named⟩)
      exact more ▸ Nat.lt_succ_of_lt before
  · intro pair member
    exact composed.sendCount ▸
      Nat.lt_succ_of_lt (consistent.counted pair member)
  · intro event member
    have sound :=
      consistent.events event (composed.events ▸ member)
    exact sound.mono shownAfter id
  · intro tracked member
    have sound := consistent.tracked tracked member
    exact
      { shown := shownAfter sound.shown
        isProduced := sound.isProduced
        pending := sound.pending
        notSettled := fun event isEvent =>
          sound.notSettled event (composed.events ▸ isEvent) }

/-- The hash of the oldest command is computed. -/
theorem produce
    (consistent : tags.Consistent)
    {toHash : UInt8}
    {send : Nat}
    {rest : List QueuedCommand}
    (oldest : tags.batch = .sendDm toHash send :: rest)
    {ackHash : AckHash}
    (fresh : ackHash ∉ tags.known) :
    Consistent
      { tags with
        batch := rest
        produced := (ackHash, send) :: tags.produced
        known := ackHash :: tags.known } := by
  have isWaiting :
      .sendDm toHash send ∈ tags.link.commands ++ tags.batch := by
    simp [oldest]
  have sound := consistent.commands toHash send isWaiting
  have untouched := consistent.viewNew send sound.unproduced
  have others :
      send ∉
        (tags.link.commands ++ rest).filterMap QueuedCommand.send? ∧
      ((tags.link.commands ++ rest).filterMap
        QueuedCommand.send?).Nodup := by
    have once := consistent.commandsOnce
    rw [oldest,
      ((List.perm_middle.filterMap QueuedCommand.send?).nodup_iff),
      List.filterMap_cons_some
        (show QueuedCommand.send? (.sendDm toHash send) = some send
          from rfl)] at once
    exact List.nodup_cons.mp once
  have stillWaiting :
      ∀ command ∈ tags.link.commands ++ rest,
        command ∈ tags.link.commands ++ tags.batch := by
    intro command member
    rw [oldest]
    exact List.perm_middle.symm.subset (List.mem_cons_of_mem _ member)
  refine
    { consistent with
      commands := ?_
      commandsOnce := others.2
      commandsCounted := ?_
      viewNew := fun number unproduced =>
        consistent.viewNew number fun pair member =>
          unproduced pair (List.mem_cons_of_mem _ member)
      viewTag := fun number hash tagged =>
        List.mem_cons_of_mem _ (consistent.viewTag number hash tagged)
      counted := ?_
      producedKnown := ?_
      byHash := ?_
      bySend := ?_
      events := ?_
      tracked := ?_ }
  · intro other number member
    have before := consistent.commands other number
      (stillWaiting _ member)
    refine { shown := before.shown, unproduced := ?_ }
    intro pair isPair
    rcases List.mem_cons.mp isPair with rfl | old
    · rintro rfl
      exact others.1 (List.mem_filterMap.mpr ⟨_, member, rfl⟩)
    · exact before.unproduced pair old
  · intro number member
    obtain ⟨command, isCommand, named⟩ := List.mem_map.mp member
    exact consistent.commandsCounted number
      (List.mem_map.mpr ⟨command, stillWaiting _ isCommand, named⟩)
  · intro pair member
    rcases List.mem_cons.mp member with rfl | old
    · exact consistent.commandsCounted send
        (List.mem_map.mpr ⟨_, isWaiting, rfl⟩)
    · exact consistent.counted pair old
  · intro pair member
    rcases List.mem_cons.mp member with rfl | old
    · exact List.mem_cons_self
    · exact List.mem_cons_of_mem _ (consistent.producedKnown pair old)
  · rw [List.map_cons, List.nodup_cons]
    refine ⟨?_, consistent.byHash⟩
    intro member
    obtain ⟨pair, isPair, same⟩ := List.mem_map.mp member
    have isKnown := consistent.producedKnown pair isPair
    rw [same] at isKnown
    exact fresh isKnown
  · rw [List.map_cons, List.nodup_cons]
    refine ⟨?_, consistent.bySend⟩
    intro member
    obtain ⟨pair, isPair, same⟩ := List.mem_map.mp member
    exact sound.unproduced pair isPair same
  · intro event member
    have before := consistent.events event member
    exact before.mono id (List.mem_cons_of_mem _)
  · intro tracked member
    have before := consistent.tracked tracked member
    exact
      { before with
        isProduced := List.mem_cons_of_mem _ before.isProduced }

/-- A produced send is tracked until its outcome is reported. -/
theorem track
    (consistent : tags.Consistent)
    {tracked : TrackedSend}
    (sound :
      TrackedSound tags.link.bubbles tags.produced tags.view
        tags.link.events tracked)
    (fresh :
      ∀ other ∈ tags.outstanding, other.ackHash ≠ tracked.ackHash) :
    Consistent
      { tags with outstanding := tracked :: tags.outstanding } := by
  refine { consistent with tracked := ?_, trackedOnce := ?_ }
  · intro other member
    rcases List.mem_cons.mp member with rfl | old
    · exact sound
    · exact consistent.tracked other old
  · rw [List.map_cons, List.nodup_cons]
    refine ⟨?_, consistent.trackedOnce⟩
    intro member
    obtain ⟨other, isTracked, same⟩ := List.mem_map.mp member
    exact fresh other isTracked same

/-- Whatever the dispatcher does with a message keeps everything sound. -/
theorem dispatchDm
    (consistent : tags.Consistent)
    {toHash : UInt8}
    {send : Nat}
    {rest : List QueuedCommand}
    (oldest : tags.batch = .sendDm toHash send :: rest)
    (outcome : DispatchOutcome)
    (fresh :
      ∀ ackHash, outcome.ackHash? = some ackHash →
        ackHash ∉ tags.known) :
    ({ tags with
        batch := rest
        known := outcome.ackHash?.toList ++ tags.known }.dispatchDm
      toHash send outcome).Consistent := by
  have waiting :=
    consistent.commands toHash send (by simp [oldest])
  have untouched := consistent.viewNew send waiting.unproduced
  have noEvent :
      ∀ event ∈ tags.link.events, event.send? ≠ some send := by
    intro event member about
    obtain ⟨pair, isPair, same⟩ :=
      consistent.event_produced member about
    exact waiting.unproduced pair isPair same
  have notTracked :
      ∀ tracked ∈ tags.outstanding, tracked.send ≠ send := by
    intro tracked member same
    exact waiting.unproduced _
      (consistent.tracked tracked member).isProduced same
  have follows :
      ∀ (event : QueuedEvent), event.send? = some send →
        ∀ earlier ∈ tags.link.events, earlier.Follows event := by
    intro event about earlier member number aboutEarlier aboutEvent
    rw [about, Option.some_inj] at aboutEvent
    exact absurd (aboutEvent ▸ aboutEarlier) (noEvent earlier member)
  cases outcome with
  | dropped =>
      exact consistent.takeOldest oldest
  | failClosed ackHash =>
      have produced := consistent.produce oldest (fresh ackHash rfl)
      refine produced.sendUiEvent ?_ (follows _ rfl) ?_
      · exact ⟨waiting.shown, List.mem_cons_self, by
          simp [untouched, SendView.initial]⟩
      · intro tracked member about
        cases about
        exact absurd rfl (notTracked tracked member)
  | queued ackHash =>
      have produced := consistent.produce oldest (fresh ackHash rfl)
      have notKnown := fresh ackHash rfl
      let tracked : TrackedSend :=
        { ackHash := ackHash, toHash := toHash, send := send }
      have sound :
          TrackedSound tags.link.bubbles
            ((ackHash, send) :: tags.produced) tags.view
            tags.link.events tracked :=
        { shown := waiting.shown
          isProduced := List.mem_cons_self
          pending := by simp [tracked, untouched, SendView.initial]
          notSettled := fun event member about =>
            absurd about (noEvent event member) }
      have isTracked :=
        produced.track sound (fun other member same => by
          have isKnown :=
            consistent.producedKnown _
              (consistent.tracked other member).isProduced
          have sameHash : other.ackHash = ackHash := same
          rw [sameHash] at isKnown
          exact notKnown isKnown)
      refine isTracked.sendUiEvent ?_ (follows _ rfl) ?_
      · exact ⟨waiting.shown, List.mem_cons_self, untouched⟩
      · intro other member about
        rfl

/-- A reported outcome is on its way and no longer awaited. -/
theorem resolve
    (consistent : tags.Consistent)
    {tracked : TrackedSend}
    (found : tracked ∈ tags.outstanding)
    (delivered : Bool) :
    Consistent
      { tags with
        outstanding :=
          tags.outstanding.eraseP fun other =>
            other.ackHash == tracked.ackHash
        link :=
          tags.link.sendUiEvent
            (.dmSettled tracked.toHash tracked.ackHash delivered
              tracked.send) } := by
  have sound := consistent.tracked tracked found
  have isErased :=
    SlotTable.eraseP_eq_filter consistent.trackedOnce tracked.ackHash
  have fewer :
      (tags.outstanding.eraseP fun other =>
        other.ackHash == tracked.ackHash).Sublist tags.outstanding :=
    List.eraseP_sublist
  have rest :
      Consistent
        { tags with
          outstanding :=
            tags.outstanding.eraseP fun other =>
              other.ackHash == tracked.ackHash } :=
    { consistent with
      tracked := fun other member =>
        consistent.tracked other (fewer.subset member)
      trackedOnce :=
        (fewer.map TrackedSend.ackHash).nodup consistent.trackedOnce }
  refine rest.sendUiEvent
    ⟨sound.shown, sound.isProduced, sound.pending⟩ ?_ ?_
  · intro earlier member send aboutEarlier aboutSettled
    cases aboutSettled
    exact ⟨sound.notSettled earlier member aboutEarlier, rfl⟩
  · intro other member about
    have sameSend : tracked.send = other.send := by
      simpa [QueuedEvent.send?] using about
    have isOther := consistent.tracked other (fewer.subset member)
    have sameHash : tracked.ackHash = other.ackHash :=
      consistent.hash_unique sound.isProduced
        (sameSend ▸ isOther.isProduced)
    rw [isErased] at member
    simp [sameHash] at member

/-- Handling an event about a send changes what is said of that send only. -/
theorem handled
    (consistent : tags.Consistent)
    {event : QueuedEvent}
    {rest : List QueuedEvent}
    (oldest : tags.link.events = event :: rest)
    {send : Nat}
    {ackHash : AckHash}
    (isProduced : (ackHash, send) ∈ tags.produced)
    {changed : SendView}
    (ownHash :
      ∀ hash, changed.ackHash = some hash →
        (hash, send) ∈ tags.produced)
    (later :
      ∀ other ∈ rest, other.send? = some send →
        other.isQueued = false ∧ changed.delivery = .pending)
    (open' :
      ∀ tracked ∈ tags.outstanding, tracked.send = send →
        changed.delivery = .pending)
    (messages : Messages) :
    Consistent
      { tags with
        link := { tags.link with events := rest, messages := messages }
        view := Function.update tags.view send changed } := by
  have isRest : ∀ other ∈ rest, other ∈ tags.link.events := by
    intro other member
    rw [oldest]
    exact List.mem_cons_of_mem event member
  have ordered := oldest ▸ consistent.ordered
  refine
    { consistent with
      viewNew := ?_
      viewTag := ?_
      events := ?_
      ordered := (List.pairwise_cons.mp ordered).2
      tracked := ?_ }
  · intro number unproduced
    have other : number ≠ send := by
      rintro rfl
      exact unproduced _ isProduced rfl
    simp only [Function.update_of_ne other]
    exact consistent.viewNew number unproduced
  · intro number hash tagged
    by_cases same : number = send
    · subst same
      simp only [Function.update_self] at tagged
      exact ownHash hash tagged
    · simp only [Function.update_of_ne same] at tagged
      exact consistent.viewTag number hash tagged
  · intro other member
    have sound := consistent.events other (isRest other member)
    have about := later other member
    cases other with
    | dmQueued toHash hash number =>
        have apart : number ≠ send := by
          rintro rfl
          have notQueued := (about rfl).1
          cases notQueued
        refine ⟨sound.1, sound.2.1, ?_⟩
        simp only [Function.update_of_ne apart]
        exact sound.2.2
    | dmSettled toHash hash delivered number =>
        refine ⟨sound.1, sound.2.1, ?_⟩
        by_cases same : number = send
        · subst same
          simp only [Function.update_self]
          exact (about rfl).2
        · simp only [Function.update_of_ne same]
          exact sound.2.2
    | channelAcked channelHash number =>
        exact sound
    | incomingDm fromHash =>
        trivial
  · intro tracked member
    have sound := consistent.tracked tracked member
    refine
      { sound with
        pending := ?_
        notSettled := fun other isEvent =>
          sound.notSettled other (isRest other isEvent) }
    by_cases same : tracked.send = send
    · simp only [same, Function.update_self]
      exact open' tracked member same
    · simp only [Function.update_of_ne same]
      exact sound.pending

/-- A received message is shown behind the others. -/
theorem handledIncoming
    (consistent : tags.Consistent)
    {fromHash : UInt8}
    {rest : List QueuedEvent}
    (oldest : tags.link.events = .incomingDm fromHash :: rest) :
    Consistent
      { tags with
        link :=
          { tags.link.pushRecord fromHash .inbound .inbound with
            events := rest } } := by
  have isRest : ∀ other ∈ rest, other ∈ tags.link.events := by
    intro other member
    rw [oldest]
    exact List.mem_cons_of_mem _ member
  have shownAfter :
      ∀ {hash send},
        .sent send ∈ tags.link.bubbles hash →
          .sent send ∈
            (tags.link.pushRecord fromHash .inbound
              .inbound).bubbles hash :=
    fun member => UiLink.mem_pushRecord.mpr (.inl member)
  have ordered := oldest ▸ consistent.ordered
  refine
    { consistent with
      apart := consistent.apart.pushInbound fromHash
      commands := fun toHash send member =>
        let sound := consistent.commands toHash send member
        { sound with shown := shownAfter sound.shown }
      events := ?_
      ordered := (List.pairwise_cons.mp ordered).2
      tracked := fun tracked member =>
        let sound := consistent.tracked tracked member
        { sound with
          shown := shownAfter sound.shown
          notSettled := fun other isEvent =>
            sound.notSettled other (isRest other isEvent) } }
  intro other member
  have sound := consistent.events other (isRest other member)
  exact sound.mono shownAfter id

/-- A hash is recorded on its own bubble exactly when it finds that one. -/
theorem handle_queued
    (consistent : tags.Consistent)
    {toHash : UInt8}
    {ackHash : AckHash}
    {send : Nat}
    {rest : List QueuedEvent}
    (oldest :
      tags.link.events = .dmQueued toHash ackHash send :: rest) :
    (tags.step .handleEvent).Consistent ∧
      (tags.TagsRight →
        ((tags.step .handleEvent).TagsRight ↔
          tags.FindsOwnBubble .handleEvent)) := by
  have isOldest :
      .dmQueued toHash ackHash send ∈ tags.link.events := by
    simp [oldest]
  obtain ⟨shown, isProduced, untouched⟩ :=
    consistent.events _ isOldest
  have stepped :
      tags.step .handleEvent =
        { tags with
          link :=
            { tags.link with
              events := rest
              messages :=
                (tags.link.messages.tagOldestUntaggedOutbound toHash
                  ackHash).1 }
          view :=
            Function.update tags.view send
              { delivery := .pending, ackHash := some ackHash } } := by
    simp [step, UiLink.handleEvent, oldest, SendView.after,
      QueuedEvent.event, Messages.handleEvent, untouched,
      SendView.initial]
  have ordered := oldest ▸ consistent.ordered
  rw [stepped]
  constructor
  · refine consistent.handled oldest isProduced ?_ ?_ ?_ _
    · rintro hash ⟨⟩
      exact isProduced
    · intro other member about
      have follows := (List.pairwise_cons.mp ordered).1 other member
      exact ⟨(follows send rfl about).2, rfl⟩
    · intro tracked member same
      rfl
  · intro right
    have shows' : tags.link.Shows tags.view := right
    refine
      (shows'.tag_iff consistent.apart shown untouched ackHash
        rest).trans ?_
    simp [FindsOwnBubble, oldest]

/-- An outcome reaches its own record by its hash or as the newest pending. -/
theorem handle_settled
    (consistent : tags.Consistent)
    {toHash : UInt8}
    {ackHash : AckHash}
    {delivered : Bool}
    {send : Nat}
    {rest : List QueuedEvent}
    (oldest :
      tags.link.events =
        .dmSettled toHash ackHash delivered send :: rest) :
    (tags.step .handleEvent).Consistent ∧
      (tags.TagsRight →
        ((tags.step .handleEvent).TagsRight ↔
          tags.FindsOwnBubble .handleEvent)) := by
  let event : QueuedEvent := .dmSettled toHash ackHash delivered send
  have isOldest : event ∈ tags.link.events := by
    simp [oldest, event]
  obtain ⟨shown, isProduced, pending⟩ := consistent.events _ isOldest
  have stepped :
      tags.step .handleEvent =
        { tags with
          link :=
            { tags.link with
              events := rest
              messages := tags.link.messages.handleEvent event.event }
          view :=
            Function.update tags.view send
              { tags.view send with
                delivery := outcomeOf delivered } } := by
    simp [step, UiLink.handleEvent, oldest, SendView.after, event]
  have ordered := oldest ▸ consistent.ordered
  rw [stepped]
  constructor
  · refine consistent.handled oldest isProduced ?_ ?_ ?_ _
    · intro hash tagged
      exact consistent.viewTag send hash tagged
    · intro other member about
      have follows := (List.pairwise_cons.mp ordered).1 other member
      have isFirst := (follows send rfl about).1
      cases isFirst
    · intro tracked member same
      have isFirst :=
        (consistent.tracked tracked member).notSettled event isOldest
          (by simp [event, QueuedEvent.send?, same])
      cases isFirst
  · intro right
    have shown' : tags.link.Shows tags.view := right
    cases tagged : (tags.view send).ackHash with
    | some hash =>
        have sameHash : hash = ackHash :=
          consistent.hash_unique
            (consistent.viewTag send hash tagged) isProduced
        subst sameHash
        obtain ⟨waiting, shows'⟩ :=
          shown'.settle_tagged consistent.apart shown tagged
            (fun other isTagged =>
              consistent.send_unique
                (consistent.viewTag other hash isTagged) isProduced)
            pending (outcomeOf_ne delivered) rest
        refine iff_of_true ?_ (by simp [FindsOwnBubble, oldest, tagged])
        rw [TagsRight, handleEvent_settled_waiting waiting]
        exact shows'
    | none =>
        have untagged :
            ∀ other, (tags.view other).ackHash ≠ some ackHash := by
          intro other isTagged
          have same :=
            consistent.send_unique
              (consistent.viewTag other ackHash isTagged) isProduced
          rw [same, tagged] at isTagged
          cases isTagged
        have noneWaits := shown'.not_waiting untagged toHash
        rw [TagsRight, handleEvent_settled_fallback noneWaits]
        refine
          (shown'.settle_newest_iff consistent.apart shown pending
            (outcomeOf_ne delivered) rest).trans ?_
        simp [FindsOwnBubble, oldest, tagged]

end Consistent

/-- The answer to a command shows nothing new. -/
theorem tagsRight_dispatchDm
    (tags : DmTags)
    (toHash : UInt8)
    (send : Nat)
    (outcome : DispatchOutcome) :
    (tags.dispatchDm toHash send outcome).TagsRight ↔ tags.TagsRight := by
  cases outcome with
  | dropped =>
      exact Iff.rfl
  | failClosed ackHash =>
      exact UiLink.shows_sendUiEvent _
  | queued ackHash =>
      exact UiLink.shows_sendUiEvent _

/-- The oldest event is handled as it has to be exactly when it finds its own. -/
theorem step_handleEvent
    {tags : DmTags}
    (consistent : tags.Consistent) :
    (tags.step .handleEvent).Consistent ∧
      (tags.TagsRight →
        ((tags.step .handleEvent).TagsRight ↔
          tags.FindsOwnBubble .handleEvent)) := by
  cases oldest : tags.link.events with
  | nil =>
      have same : tags.step .handleEvent = tags := by
        simp [step, oldest]
      rw [same]
      exact ⟨consistent, fun right =>
        iff_of_true right (by simp [FindsOwnBubble, oldest])⟩
  | cons event rest =>
      cases event with
      | dmQueued toHash ackHash send =>
          exact consistent.handle_queued oldest
      | dmSettled toHash ackHash delivered send =>
          exact consistent.handle_settled oldest
      | channelAcked channelHash send =>
          have isOldest :
              .channelAcked channelHash send ∈ tags.link.events := by
            simp [oldest]
          exact (consistent.events _ isOldest).elim
      | incomingDm fromHash =>
          have stepped :
              tags.step .handleEvent =
                { tags with
                  link :=
                    { tags.link.pushRecord fromHash .inbound
                        .inbound with
                      events := rest } } := by
            simp [step, UiLink.handleEvent, oldest, SendView.after,
              UiLink.pushRecord, Messages.handleEvent]
          rw [stepped]
          refine ⟨consistent.handledIncoming oldest, fun right => ?_⟩
          have shows' : tags.link.Shows tags.view := right
          exact iff_of_true (shows'.pushRecord fromHash rfl)
            (by simp [FindsOwnBubble, oldest])

/-- Whatever becomes of the oldest command, the records stay as right as they
were. -/
theorem step_dispatch
    {tags : DmTags}
    (consistent : tags.Consistent)
    (outcome : DispatchOutcome)
    (fresh :
      ∀ ackHash, outcome.ackHash? = some ackHash →
        ackHash ∉ tags.known) :
    (tags.step (.dispatch outcome)).Consistent ∧
      (tags.TagsRight →
        ((tags.step (.dispatch outcome)).TagsRight ↔
          tags.FindsOwnBubble (.dispatch outcome))) := by
  cases waiting : tags.batch with
  | nil =>
      have stepped :
          tags.step (.dispatch outcome) =
            { tags with
              known := outcome.ackHash?.toList ++ tags.known } := by
        simp [step, waiting]
      rw [stepped]
      exact ⟨consistent.noteKnown _, fun right =>
        iff_of_true right trivial⟩
  | cons command rest =>
      have taken := consistent.takeOldest waiting
      cases command with
      | sendDm toHash send =>
          simp only [step, waiting]
          refine
            ⟨consistent.dispatchDm waiting outcome fresh, fun right =>
              iff_of_true ?_ trivial⟩
          rw [tagsRight_dispatchDm]
          exact right
      | sendGroupMsg channelHash send =>
          simp only [step, waiting]
          exact ⟨taken.noteKnown _, fun right =>
            iff_of_true right trivial⟩
      | other =>
          simp only [step, waiting]
          exact ⟨taken.noteKnown _, fun right =>
            iff_of_true right trivial⟩

/--
A step keeps commands, events and tracked sends in agreement; from right records
it leads to right records exactly when a handled event finds its own bubble.
-/
theorem step_tags
    (tags : DmTags)
    (event : TagEvent)
    (consistent : tags.Consistent)
    (fresh :
      ∀ ackHash, event.ackHash? = some ackHash →
        ackHash ∉ tags.known) :
    (tags.step event).Consistent ∧
      (tags.TagsRight →
        ((tags.step event).TagsRight ↔ tags.FindsOwnBubble event)) := by
  cases event with
  | send toHash =>
      have composed :=
        UiLink.composed_onSendMessage tags.link toHash false
      have initial :
          tags.view tags.link.sendCount = .initial :=
        consistent.viewNew _ fun pair member =>
          Nat.ne_of_lt (consistent.counted pair member)
      exact ⟨consistent.compose toHash, fun right =>
        iff_of_true (composed.shows' tags.view initial right) trivial⟩
  | otherCommand =>
      simp only [step]
      split
      · refine ⟨?_, fun right => iff_of_true right trivial⟩
        have sameSends :
            (tags.link.commands ++ [QueuedCommand.other] ++
                tags.batch).filterMap QueuedCommand.send? =
              (tags.link.commands ++ tags.batch).filterMap
                QueuedCommand.send? := by
          have noSend : QueuedCommand.other.send? = none := rfl
          simp [noSend]
        refine
          { consistent with
            commands := fun toHash send member =>
              consistent.commands toHash send (by simpa using member)
            commandsOnce := sameSends ▸ consistent.commandsOnce
            commandsCounted := fun send member =>
              consistent.commandsCounted send (by
                simpa [QueuedCommand.send?] using member) }
      · exact ⟨consistent, fun right => iff_of_true right trivial⟩
  | takeCommands =>
      refine ⟨consistent.moveCommands ?_, fun right =>
        iff_of_true right trivial⟩
      rw [List.nil_append]
      exact List.perm_append_comm.subperm
  | dispatch outcome =>
      exact step_dispatch consistent outcome fresh
  | resolve ackHash delivered =>
      simp only [step]
      split
      · exact ⟨consistent, fun right => iff_of_true right trivial⟩
      · next tracked found =>
        obtain ⟨isTracked, rfl⟩ :=
          (SlotTable.find?_eq_some_iff consistent.trackedOnce).mp found
        refine ⟨consistent.resolve isTracked delivered, fun right =>
          iff_of_true ?_ trivial⟩
        exact (UiLink.shows_sendUiEvent _).mpr right
  | receive fromHash =>
      refine ⟨consistent.sendUiEvent trivial ?_ ?_, fun right =>
        iff_of_true ((UiLink.shows_sendUiEvent _).mpr right) trivial⟩
      · intro earlier member send aboutEarlier aboutThis
        cases aboutThis
      · intro tracked member about
        cases about
  | handleEvent =>
      exact step_handleEvent consistent

/--
Over every run from any stored history, with pairwise distinct acknowledgement
hashes, the records are right in every state exactly when every handled event
finds its own bubble.
-/
theorem tags_right_iff
    (stored : UInt8 → List DecodedSlot)
    (events : List TagEvent)
    (distinct : (events.filterMap TagEvent.ackHash?).Nodup) :
    Always step TagsRight (seeded stored) events ↔
      Along step FindsOwnBubble (seeded stored) events := by
  have records :
      ∀ (tags : DmTags) (event : TagEvent),
        (tags.step event).known = event.ackHash?.toList ++ tags.known := by
    intro tags event
    cases event with
    | dispatch outcome =>
        simp only [step, TagEvent.ackHash?]
        split
        · rfl
        · cases outcome <;> rfl
        · rfl
    | otherCommand =>
        simp only [step]
        split <;> rfl
    | resolve ackHash delivered =>
        simp only [step]
        split <;> rfl
    | handleEvent =>
        simp only [step]
        split <;> rfl
    | _ =>
        rfl
  have distinctInitially :
      (events.filterMap TagEvent.ackHash? ++
        (seeded stored).known).Nodup := by
    simpa [seeded] using distinct
  exact
    always_iff_along_assuming
      (fun tags event consistent _ isFresh =>
        (step_tags tags event consistent isFresh).1)
      (fun tags event consistent right isFresh =>
        (step_tags tags event consistent isFresh).2 right)
      (consistent_seeded stored) (UiLink.shows_seeded stored)
      (along_fresh records distinctInitially)

/-- A conversation that holds one message still pending when power was lost. -/
def onePendingStored
    (hash : UInt8) :
    List DecodedSlot :=
  if hash = 7 then
    [{ entry :=
        { senderHash := 7
          msgType := .dm
          timestamp := 100
          text := Bytes.zeroPadded 64 [0x61]
          textLen := 1 }
       isOurs := true
       acked := false }]
  else
    []

/-- A conversation that holds one message that was delivered before the restart. -/
def oneAckedStored
    (hash : UInt8) :
    List DecodedSlot :=
  (onePendingStored hash).map fun slot => { slot with acked := true }

/-- A message is composed, sent, told its hash and acknowledged. -/
def sentAndAcked : List TagEvent :=
  [.send 7, .takeCommands, .dispatch (.queued #v[49, 50, 51, 52]),
    .handleEvent, .resolve #v[49, 50, 51, 52] true, .handleEvent]

/-- Two messages that are acknowledged in turn. -/
def ackedInTurn : List TagEvent :=
  sentAndAcked ++
    [.send 7, .takeCommands, .dispatch (.queued #v[53, 54, 55, 56]),
      .handleEvent, .resolve #v[53, 54, 55, 56] true, .handleEvent]

/-- The records of messages that follow a restored one that was delivered are right. -/
theorem tags_right_inTurn :
    Always step TagsRight (seeded oneAckedStored) ackedInTurn :=
  (tags_right_iff _ _ (by decide)).mpr (by decide +kernel)

/--
With one restored message that is still pending, the hash and the
acknowledgement of the next one go to it, and the next one stays pending.
-/
theorem sentAndAcked_marks_restored :
    ((run step (seeded onePendingStored) sentAndAcked).link.messages 7 =
      [{ isOurs := true
         delivery := .acked
         ackHash := some #v[49, 50, 51, 52] },
        { isOurs := true, delivery := .pending, ackHash := none }]) ∧
      ¬ Always step TagsRight (seeded onePendingStored) sentAndAcked := by
  have shown :
      (run step (seeded onePendingStored) sentAndAcked).link.messages 7 =
        [{ isOurs := true
           delivery := .acked
           ackHash := some #v[49, 50, 51, 52] },
          { isOurs := true, delivery := .pending, ackHash := none }] := by
    decide
  refine ⟨shown, fun always => ?_⟩
  have right := always.last 7
  rw [shown] at right
  exact absurd right (by decide)

end DmTags

end MeshCadet
