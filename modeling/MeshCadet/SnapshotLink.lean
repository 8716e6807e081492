import Mathlib.Logic.Function.Basic
import MeshCadet.Transition
import MeshCadet.UiLink

namespace MeshCadet

/-!
# Status snapshots for the user interface

The dispatcher offers four status values to the interface in every iteration and
queues an event only for a value that changed.  The event queue is bounded and a
full one drops the event.  The state also carries the dispatcher's current
values, the last changes that found room in the queue, and whether the queue had
room since the last change; no step of the code depends on them.
-/

/-- The status values that the dispatcher offers. -/
inductive SnapshotKind where
  | gpsStatus
  | roomClock
  | batteryStatus
  | signalLevel
deriving Repr, DecidableEq

/-- An event of the dispatcher: a snapshot, or anything else. -/
inductive UiMessage (Value : SnapshotKind → Type) where
  | snapshot (kind : SnapshotKind) (value : Value kind)
  | other

/-- Whether a value is to be sent, and the last-sent value afterwards. -/
def changedOnSend
    {α : Type}
    [DecidableEq α]
    (last : Option α)
    (new : α) :
    Bool × Option α :=
  if last = some new then
    (false, last)
  else
    (true, some new)

/-- The largest count of dropped events. -/
def droppedMax : Nat :=
  4294967295

/--
Send without blocking.  A full queue drops the message and the drop is counted.
-/
def sendOrCount
    {α : Type}
    (queue : List α)
    (message : α)
    (dropped : Nat) :
    Bool × List α × Nat :=
  if queue.length < eventQueueCap then
    (true, queue ++ [message], dropped)
  else
    (false, queue, min (dropped + 1) droppedMax)

namespace SnapshotLink

/-- The dispatcher's end, the queue and the interface's end. -/
structure State (Value : SnapshotKind → Type) where
  lastSent : ∀ kind, Option (Value kind)
  dropped : Nat
  queue : List (UiMessage Value)
  received : List (UiMessage Value)
  current : ∀ kind, Option (Value kind)
  accepted : ∀ kind, Option (Value kind)
  roomSince : SnapshotKind → Bool

/-- What happens at the queue. -/
inductive Event (Value : SnapshotKind → Type) where
  | offer (kind : SnapshotKind) (value : Value kind)
  | post
  | receive

section Link

variable {Value : SnapshotKind → Type}

/-- Nothing was offered yet. -/
def initial : State Value :=
  { lastSent := fun _ => none
    dropped := 0
    queue := []
    received := []
    current := fun _ => none
    accepted := fun _ => none
    roomSince := fun _ => false }

/-- The snapshot of one kind that a message carries. -/
def valueOf
    (kind : SnapshotKind) :
    UiMessage Value → Option (Value kind)
  | .snapshot sent value =>
      if same : sent = kind then some (same ▸ value) else none
  | .other => none

/-- The last snapshot of one kind among messages. -/
def latestIn
    (kind : SnapshotKind)
    (messages : List (UiMessage Value)) :
    Option (Value kind) :=
  (messages.filterMap (valueOf kind)).getLast?

namespace State

/-- The queue has room for another event. -/
def HasRoom
    (state : State Value) :
    Prop :=
  state.queue.length < eventQueueCap

instance
    (state : State Value) :
    Decidable state.HasRoom :=
  inferInstanceAs (Decidable (_ < _))

/-- The last snapshot the interface has received or is going to receive. -/
def latest
    (state : State Value)
    (kind : SnapshotKind) :
    Option (Value kind) :=
  latestIn kind (state.received ++ state.queue)

/-- Queue an event, or drop and count it. -/
def send
    (state : State Value)
    (message : UiMessage Value) :
    State Value :=
  let (_, queue, dropped) :=
    sendOrCount state.queue message state.dropped
  { state with queue := queue, dropped := dropped }

/--
The interface has, or is going to have, the current value of every kind for
which the queue had room since its last change.
-/
def Delivered
    (state : State Value) :
    Prop :=
  ∀ kind, state.roomSince kind = true →
    state.latest kind = state.current kind

/-- The dispatcher remembers its current values as sent. -/
structure Tracks
    (state : State Value) :
    Prop where
  lastSent : ∀ kind, state.lastSent kind = state.current kind
  accepted : ∀ kind, state.latest kind = state.accepted kind

end State

theorem latestIn_append_snapshot
    (kind : SnapshotKind)
    (messages : List (UiMessage Value))
    (value : Value kind) :
    latestIn kind (messages ++ [.snapshot kind value]) = some value := by
  simp [latestIn, valueOf]

theorem latestIn_append_elsewhere
    {kind : SnapshotKind}
    {message : UiMessage Value}
    (elsewhere : valueOf kind message = none)
    (messages : List (UiMessage Value)) :
    latestIn kind (messages ++ [message]) = latestIn kind messages := by
  simp [latestIn, elsewhere]

/-- A message for which there is room goes to the end of the queue. -/
theorem send_room
    {state : State Value}
    (room : state.HasRoom)
    (message : UiMessage Value) :
    state.send message =
      { state with queue := state.queue ++ [message] } := by
  have sent :
      sendOrCount state.queue message state.dropped =
        (true, state.queue ++ [message], state.dropped) :=
    if_pos room
  rw [State.send, sent]

/-- A message for which there is no room leaves the queue as it was. -/
theorem send_full
    {state : State Value}
    (full : ¬ state.HasRoom)
    (message : UiMessage Value) :
    state.send message =
      { state with dropped := min (state.dropped + 1) droppedMax } := by
  have unsent :
      sendOrCount state.queue message state.dropped =
        (false, state.queue, min (state.dropped + 1) droppedMax) :=
    if_neg full
  rw [State.send, unsent]

/-- The current values are delivered when they were the last accepted ones. -/
theorem State.Tracks.delivered_iff
    {state : State Value}
    (tracks : state.Tracks) :
    state.Delivered ↔
      ∀ kind, state.roomSince kind = true →
        state.accepted kind = state.current kind := by
  simp only [State.Delivered, tracks.accepted]

/-- Nothing was offered, so nothing has to be delivered. -/
theorem initial_tracks :
    (initial : State Value).Tracks :=
  ⟨fun _ => rfl, fun _ => rfl⟩

theorem initial_delivered :
    (initial : State Value).Delivered := by
  intro kind hadRoom
  cases hadRoom

variable [∀ kind, DecidableEq (Value kind)]

/-- Offer the current value of one kind. -/
def offer
    (state : State Value)
    (kind : SnapshotKind)
    (value : Value kind) :
    State Value :=
  let (isChanged, last) := changedOnSend (state.lastSent kind) value
  let hasRoom := decide state.HasRoom
  let noted : State Value :=
    { state with
      lastSent := Function.update state.lastSent kind last
      current := Function.update state.current kind (some value)
      roomSince :=
        Function.update state.roomSince kind
          (hasRoom ||
            (decide (state.current kind = some value) &&
              state.roomSince kind))
      accepted :=
        if state.current kind ≠ some value ∧ state.HasRoom then
          Function.update state.accepted kind (some value)
        else
          state.accepted }
  if isChanged then
    noted.send (.snapshot kind value)
  else
    noted

/-- One step of the dispatcher or of the interface. -/
def step
    (state : State Value) :
    Event Value → State Value
  | .offer kind value =>
      offer state kind value
  | .post =>
      state.send .other
  | .receive =>
      match state.queue with
      | [] => state
      | message :: rest =>
          { state with
            queue := rest
            received := state.received ++ [message] }

/--
No dropped change is passed over: a value that is offered unchanged while the
queue has room is the last change that found room.
-/
def NoDropPassedOver
    (state : State Value) :
    Event Value → Prop
  | .offer kind value =>
      state.current kind = some value → state.HasRoom →
        state.accepted kind = some value
  | .post => True
  | .receive => True

/-- What an offer changes, apart from the queue. -/
theorem offer_values
    (state : State Value)
    (kind : SnapshotKind)
    (value : Value kind) :
    (offer state kind value).current =
        Function.update state.current kind (some value) ∧
      (offer state kind value).lastSent =
        Function.update state.lastSent kind (some value) ∧
      (offer state kind value).roomSince =
        Function.update state.roomSince kind
          (decide state.HasRoom ||
            (decide (state.current kind = some value) &&
              state.roomSince kind)) := by
  by_cases same : state.lastSent kind = some value
  · simp [offer, changedOnSend, same]
  · simp [offer, changedOnSend, same, State.send]

/-- A changed value that finds room is queued and accepted. -/
theorem offer_queued
    {state : State Value}
    {kind : SnapshotKind}
    {value : Value kind}
    (tracks : state.Tracks)
    (isNew : state.lastSent kind ≠ some value)
    (room : state.HasRoom) :
    (offer state kind value).received = state.received ∧
      (offer state kind value).queue =
        state.queue ++ [.snapshot kind value] ∧
      (offer state kind value).accepted =
        Function.update state.accepted kind (some value) := by
  have inside : state.queue.length < eventQueueCap := room
  have isChange : state.current kind ≠ some value :=
    tracks.lastSent kind ▸ isNew
  simp [offer, changedOnSend, isNew, State.send, sendOrCount, inside, room,
    isChange]

/-- Any other offer leaves queue and interface as they were. -/
theorem offer_unqueued
    {state : State Value}
    (tracks : state.Tracks)
    {kind : SnapshotKind}
    (value : Value kind)
    (unsent : state.lastSent kind = some value ∨ ¬ state.HasRoom) :
    (offer state kind value).received = state.received ∧
      (offer state kind value).queue = state.queue ∧
      (offer state kind value).accepted = state.accepted := by
  by_cases same : state.lastSent kind = some value
  · have unchanged : state.current kind = some value :=
      tracks.lastSent kind ▸ same
    simp [offer, changedOnSend, same, unchanged]
  · have full : ¬ state.HasRoom := unsent.resolve_left same
    have outside : ¬ state.queue.length < eventQueueCap := full
    simp [offer, changedOnSend, same, State.send, sendOrCount, outside, full]

/-- Every step keeps track of what was sent and accepted. -/
theorem step_tracks
    {state : State Value}
    (tracks : state.Tracks)
    (event : Event Value) :
    (step state event).Tracks := by
  cases event with
  | offer kind value =>
      obtain ⟨current, lastSent, -⟩ := offer_values state kind value
      refine ⟨fun other => ?_, fun other => ?_⟩
      · simp only [step, current, lastSent]
        by_cases same : other = kind
        · subst same
          simp
        · simp [same, tracks.lastSent other]
      · have before := tracks.accepted other
        by_cases sends :
            state.lastSent kind ≠ some value ∧ state.HasRoom
        · obtain ⟨received, queue, accepted⟩ :=
            offer_queued tracks sends.1 sends.2
          simp only [step, State.latest, received, queue, accepted,
            ← List.append_assoc]
          by_cases same : other = kind
          · subst same
            rw [latestIn_append_snapshot, Function.update_self]
          · have elsewhere :
                valueOf other (.snapshot kind value) = none :=
              dif_neg (Ne.symm same)
            rw [latestIn_append_elsewhere elsewhere,
              Function.update_of_ne same]
            exact before
        · obtain ⟨received, queue, accepted⟩ :=
            offer_unqueued tracks value (by tauto)
          simp only [step, State.latest, received, queue, accepted]
          exact before
  | post =>
      refine ⟨fun other => ?_, fun other => ?_⟩
      · exact tracks.lastSent other
      · have before := tracks.accepted other
        by_cases room : state.HasRoom
        · rw [step, send_room room]
          simp only [State.latest, ← List.append_assoc]
          rw [latestIn_append_elsewhere rfl]
          exact before
        · rw [step, send_full room]
          exact before
  | receive =>
      cases queued : state.queue with
      | nil =>
          simp only [step, queued]
          exact tracks
      | cons message rest =>
          refine ⟨fun other => ?_, fun other => ?_⟩
          · simp only [step, queued]
            exact tracks.lastSent other
          · have before := tracks.accepted other
            simp only [step, queued, State.latest, List.append_assoc,
              List.singleton_append] at before ⊢
            exact before

/-- What an offer leaves at the kinds it does not offer. -/
theorem offer_elsewhere
    {state : State Value}
    (tracks : state.Tracks)
    {kind other : SnapshotKind}
    (elsewhere : other ≠ kind)
    (value : Value kind) :
    (offer state kind value).roomSince other = state.roomSince other ∧
      (offer state kind value).accepted other = state.accepted other ∧
      (offer state kind value).current other = state.current other := by
  obtain ⟨current, -, roomSince⟩ := offer_values state kind value
  rw [current, roomSince, Function.update_of_ne elsewhere,
    Function.update_of_ne elsewhere]
  refine ⟨rfl, ?_, rfl⟩
  by_cases sends : state.lastSent kind ≠ some value ∧ state.HasRoom
  · rw [(offer_queued tracks sends.1 sends.2).2.2,
      Function.update_of_ne elsewhere]
  · rw [(offer_unqueued tracks value (by tauto)).2.2]

/-- An offer delivers its own kind exactly when it passes over no drop. -/
theorem offer_delivers_iff
    {state : State Value}
    (tracks : state.Tracks)
    (delivered : state.Delivered)
    (kind : SnapshotKind)
    (value : Value kind) :
    ((offer state kind value).roomSince kind = true →
        (offer state kind value).accepted kind =
          (offer state kind value).current kind) ↔
      NoDropPassedOver state (.offer kind value) := by
  obtain ⟨current, -, roomSince⟩ := offer_values state kind value
  have lastSent := tracks.lastSent kind
  rw [current, roomSince, Function.update_self, Function.update_self]
  by_cases room : state.HasRoom
  · by_cases same : state.lastSent kind = some value
    · obtain ⟨-, -, accepted⟩ :=
        offer_unqueued tracks value (.inl same)
      rw [accepted]
      simp [NoDropPassedOver, room, ← lastSent, same]
    · obtain ⟨-, -, accepted⟩ := offer_queued tracks same room
      rw [accepted, Function.update_self]
      simp [NoDropPassedOver, ← lastSent, same]
  · obtain ⟨-, -, accepted⟩ :=
      offer_unqueued tracks value (.inr room)
    rw [accepted]
    constructor
    · exact fun _ _ hasRoom => absurd hasRoom room
    · intro _ hadRoom
      simp only [room, decide_false, Bool.false_or, Bool.and_eq_true,
        decide_eq_true_eq] at hadRoom
      rw [← hadRoom.1]
      exact tracks.delivered_iff.mp delivered kind hadRoom.2

/-- A step keeps delivering exactly when it passes over no dropped change. -/
theorem step_delivered_iff
    {state : State Value}
    (tracks : state.Tracks)
    (delivered : state.Delivered)
    (event : Event Value) :
    (step state event).Delivered ↔ NoDropPassedOver state event := by
  have before := tracks.delivered_iff.mp delivered
  rw [(step_tracks tracks event).delivered_iff]
  cases event with
  | offer kind value =>
      rw [← offer_delivers_iff tracks delivered kind value]
      constructor
      · exact fun all => all kind
      · intro own other
        by_cases same : other = kind
        · subst same
          exact own
        · obtain ⟨roomSince, accepted, current⟩ :=
            offer_elsewhere tracks same value
          simp only [step, roomSince, accepted, current]
          exact before other
  | post =>
      simp only [NoDropPassedOver, iff_true]
      by_cases room : state.HasRoom
      · rw [step, send_room room]
        exact before
      · rw [step, send_full room]
        exact before
  | receive =>
      simp only [NoDropPassedOver, iff_true]
      cases queued : state.queue with
      | nil =>
          simp only [step, queued]
          exact before
      | cons message rest =>
          simp only [step, queued]
          exact before

/--
The interface always has, or is going to have, the current value of every kind
for which the queue had room since its last change exactly when no step passes
over a dropped change.
-/
theorem always_delivered_iff
    (events : List (Event Value)) :
    Transition.Always step State.Delivered initial events ↔
      Transition.Along step NoDropPassedOver initial events :=
  Transition.always_iff_along_invariant
    (fun _ event tracks => step_tracks tracks event)
    (fun _ event tracks delivered =>
      step_delivered_iff tracks delivered event)
    initial_tracks initial_delivered

/-- An offer that finds room if it is a change. -/
def ChangeFindsRoom
    (state : State Value) :
    Event Value → Prop
  | .offer kind value =>
      state.current kind ≠ some value → state.HasRoom
  | .post => True
  | .receive => True

/-- A change that finds room keeps the accepted values current. -/
theorem step_accepted
    {state : State Value}
    (tracks : state.Tracks)
    (upToDate : ∀ kind, state.accepted kind = state.current kind)
    {event : Event Value}
    (room : ChangeFindsRoom state event)
    (other : SnapshotKind) :
    (step state event).accepted other = (step state event).current other := by
  cases event with
  | offer kind value =>
      by_cases same : other = kind
      · subst same
        obtain ⟨current, -, -⟩ := offer_values state other value
        rw [step, current, Function.update_self]
        by_cases isNew : state.lastSent other = some value
        · rw [(offer_unqueued tracks value (.inl isNew)).2.2,
            upToDate other, ← tracks.lastSent other, isNew]
        · have hasRoom := room (tracks.lastSent other ▸ isNew)
          rw [(offer_queued tracks isNew hasRoom).2.2, Function.update_self]
      · obtain ⟨-, accepted, current⟩ := offer_elsewhere tracks same value
        rw [step, accepted, current]
        exact upToDate other
  | post =>
      by_cases hasRoom : state.HasRoom
      · rw [step, send_room hasRoom]
        exact upToDate other
      · rw [step, send_full hasRoom]
        exact upToDate other
  | receive =>
      cases queued : state.queue with
      | nil =>
          simp only [step, queued]
          exact upToDate other
      | cons message rest =>
          simp only [step, queued]
          exact upToDate other

/-- While every change finds room in the queue, the interface is up to date. -/
theorem delivered_of_changes_find_room
    {events : List (Event Value)}
    (room : Transition.Along step ChangeFindsRoom initial events) :
    Transition.Always step State.Delivered initial events := by
  have always :=
    Transition.always_of_along
      (fun state event
          (good :
            state.Tracks ∧
              ∀ kind, state.accepted kind = state.current kind)
          found =>
        ⟨step_tracks good.1 event, step_accepted good.1 good.2 found⟩)
      ⟨initial_tracks, fun _ => rfl⟩ room
  exact
    always.mono fun state good =>
      good.1.delivered_iff.mpr fun kind _ => good.2 kind

end Link

/-- The first change of the battery status meets a full queue. -/
def fullQueueEvents : List (Event fun _ => Nat) :=
  List.replicate eventQueueCap .post ++
    [.offer .batteryStatus 40, .receive, .offer .batteryStatus 40]

/--
A change that was dropped is not sent again when the queue has room: the
interface is left without the current value.
-/
theorem dropped_change_not_resent :
    ¬ ∀ events : List (Event fun _ => Nat),
      Transition.Always step State.Delivered initial events := by
  intro always
  have delivered := (always fullQueueEvents).last .batteryStatus
  have stale :
      ((Transition.run step initial fullQueueEvents).roomSince
          .batteryStatus,
        (Transition.run step initial fullQueueEvents).latest
          .batteryStatus,
        (Transition.run step initial fullQueueEvents).current
          .batteryStatus) =
        (true, none, some 40) := by
    decide +kernel
  simp only [Prod.mk.injEq] at stale
  have isCurrent := delivered stale.1
  rw [stale.2.1, stale.2.2] at isCurrent
  cases isCurrent

end SnapshotLink

end MeshCadet
