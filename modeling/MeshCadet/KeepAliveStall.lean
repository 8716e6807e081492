import MeshCadet.RoomSession
import MeshCadet.Transition

namespace MeshCadet

/-!
# The keep-alive stall detector

A room session with a route sends one keep-alive at a time and waits for its
acknowledgement.  Every tick that still finds it outstanding counts as a miss,
and the second miss in a row invalidates the route.  An acknowledgement, a post
or a login is a proof of life and clears the misses.
-/

/-- Misses in a row after which the route is given up. -/
def keepAliveStallThreshold : Nat :=
  2

/-- Counts ticks in a row that found a keep-alive outstanding. -/
structure RoomKeepAliveStall where
  missed : UInt8
deriving Repr, DecidableEq

namespace RoomKeepAliveStall

/-- No misses counted yet. -/
def new : RoomKeepAliveStall :=
  { missed := 0 }

/-- Clear the misses. -/
def reset
    (_ : RoomKeepAliveStall) :
    RoomKeepAliveStall :=
  { missed := 0 }

/-- One more miss, saturating. -/
def missedOnce
    (stall : RoomKeepAliveStall) :
    UInt8 :=
  if stall.missed = 255 then 255 else stall.missed + 1

/-- Record a tick; the flag tells that the route was invalidated. -/
def onTick
    (stall : RoomKeepAliveStall)
    (ackOutstanding : Bool)
    (session : PersistedRoomSession) :
    RoomKeepAliveStall × PersistedRoomSession × Bool :=
  if ¬ ackOutstanding then
    (stall, session, false)
  else if keepAliveStallThreshold ≤ stall.missedOnce.toNat then
    ({ missed := 0 }, session.invalidateRoute, true)
  else
    ({ missed := stall.missedOnce }, session, false)

end RoomKeepAliveStall

/-- A new keep-alive is sent only when none is outstanding. -/
def keepAliveTickShouldSend
    (ackOutstanding : Bool) :
    Bool :=
  !ackOutstanding

/-- The keep-alive state of a room. -/
structure RoomKeepAlive where
  session : PersistedRoomSession
  stall : RoomKeepAliveStall
  pendingAck : Option (Vector UInt8 4)
deriving Repr, DecidableEq

namespace RoomKeepAlive

/-- A room after boot. -/
def boot
    (session : PersistedRoomSession) :
    RoomKeepAlive :=
  { session := session
    stall := .new
    pendingAck := none }

/-- Send a keep-alive over the route, if it can be encoded. -/
def sendKeepAlive
    (room : RoomKeepAlive)
    (timestamp : UInt32)
    (ackHash : Vector UInt8 4) :
    RoomKeepAlive :=
  match encodeRoomDirectPrefix .req room.session.route with
  | some _ =>
      { room with
        session := room.session.recordSentTimestamp timestamp
        pendingAck := some ackHash }
  | none => room

/-- A keep-alive tick of the scheduler. -/
def tick
    (room : RoomKeepAlive)
    (timestamp : UInt32)
    (ackHash : Vector UInt8 4) :
    RoomKeepAlive :=
  if ¬ room.session.hasRoute then
    room
  else
    let ackOutstanding := room.pendingAck.isSome
    let (stall, session, invalidated) :=
      room.stall.onTick ackOutstanding room.session
    if invalidated then
      { session := session
        stall := stall
        pendingAck := none }
    else
      let counted := { room with session := session, stall := stall }
      if keepAliveTickShouldSend ackOutstanding then
        counted.sendKeepAlive timestamp ackHash
      else
        counted

/-- An acknowledgement; only the one waited for means anything. -/
def handleAck
    (room : RoomKeepAlive)
    (hash : Vector UInt8 4) :
    RoomKeepAlive :=
  if room.pendingAck = some hash then
    { room with
      stall := room.stall.reset
      pendingAck := none }
  else
    room

/-- A post came in. -/
def handlePush
    (room : RoomKeepAlive) :
    RoomKeepAlive :=
  { room with stall := room.stall.reset }

/-- A login was answered. -/
def handleLogin
    (room : RoomKeepAlive)
    (outcome : RoomLoginOutcome) :
    RoomKeepAlive :=
  { room with
    session := room.session.applyLoginOutcome outcome
    stall := room.stall.reset }

end RoomKeepAlive

/-- What happens to a room session. -/
inductive KeepAliveEvent where
  | tick (timestamp : UInt32) (ackHash : Vector UInt8 4)
  | ack (hash : Vector UInt8 4)
  | push
  | login (outcome : RoomLoginOutcome)
deriving Repr, DecidableEq

/--
A room, the keep-alive frames sent since its last proof of life, the ticks since
then that found the last one outstanding, and how many frames there were each time
the route was invalidated.
-/
structure KeepAliveLedger where
  room : RoomKeepAlive
  unanswered : Nat
  ticksWaited : Nat
  invalidations : List Nat
deriving Repr, DecidableEq

namespace KeepAliveLedger

/-- A room after boot. -/
def boot
    (session : PersistedRoomSession) :
    KeepAliveLedger :=
  { room := .boot session
    unanswered := 0
    ticksWaited := 0
    invalidations := [] }

/-- A tick with its effect on the counts of frames and ticks. -/
def tick
    (ledger : KeepAliveLedger)
    (timestamp : UInt32)
    (ackHash : Vector UInt8 4) :
    KeepAliveLedger :=
  let after := ledger.room.tick timestamp ackHash
  { room := after
    unanswered :=
      if ledger.room.pendingAck.isNone && after.pendingAck.isSome then
        ledger.unanswered + 1
      else
        ledger.unanswered
    ticksWaited :=
      if ¬ ledger.room.session.hasRoute then
        ledger.ticksWaited
      else if ledger.room.pendingAck.isNone then
        0
      else
        ledger.ticksWaited + 1
    invalidations :=
      if ledger.room.session.hasRoute && !after.session.hasRoute then
        ledger.unanswered :: ledger.invalidations
      else
        ledger.invalidations }

/-- Each event, and the proofs of life among them. -/
def step
    (ledger : KeepAliveLedger) :
    KeepAliveEvent → KeepAliveLedger
  | .tick timestamp ackHash => ledger.tick timestamp ackHash
  | .ack hash =>
      if ledger.room.pendingAck = some hash then
        { ledger with
          room := ledger.room.handleAck hash
          unanswered := 0
          ticksWaited := 0 }
      else
        ledger
  | .push =>
      { ledger with
        room := ledger.room.handlePush
        unanswered := 0
        ticksWaited := 0 }
  | .login outcome =>
      { ledger with
        room := ledger.room.handleLogin outcome
        unanswered := 0
        ticksWaited := 0 }

/-- Every invalidation followed enough unanswered frames. -/
def InvalidatedOnlyStalled
    (ledger : KeepAliveLedger) :
    Prop :=
  ∀ frames ∈ ledger.invalidations, keepAliveStallThreshold ≤ frames

/-- A tick finds no keep-alive outstanding that another tick found outstanding since it
was sent and since the last proof of life. -/
def AnsweredInTime
    (ledger : KeepAliveLedger) :
    KeepAliveEvent → Prop
  | .tick _ _ =>
      ledger.room.session.hasRoute = true →
      ledger.room.pendingAck.isSome = true →
        ledger.ticksWaited = 0
  | _ => True

/-- One keep-alive at a time, a miss for each tick that found it outstanding, and a
miss count below the threshold. -/
structure OneOutstanding
    (ledger : KeepAliveLedger) :
    Prop where
  atMostOne : ledger.unanswered ≤ 1
  noneWithoutPending :
    ledger.room.session.hasRoute = true →
    ledger.room.pendingAck = none →
      ledger.unanswered = 0
  missedTicks :
    ledger.room.pendingAck.isSome = true →
      ledger.ticksWaited = ledger.room.stall.missed.toNat
  noneMissed :
    ledger.room.pendingAck = none → ledger.room.stall.missed = 0
  belowThreshold : ledger.room.stall.missed.toNat < keepAliveStallThreshold

end KeepAliveLedger

namespace RoomKeepAlive

variable {room : RoomKeepAlive}

/-- Without a route a tick does nothing here. -/
theorem tick_noRoute
    (noRoute : room.session.hasRoute = false)
    (timestamp : UInt32)
    (ackHash : Vector UInt8 4) :
    room.tick timestamp ackHash = room := by
  simp [tick, noRoute]

/-- With nothing outstanding a tick sends a keep-alive. -/
theorem tick_send
    (routed : room.session.hasRoute = true)
    (nothing : room.pendingAck = none)
    (timestamp : UInt32)
    (ackHash : Vector UInt8 4) :
    room.tick timestamp ackHash =
      room.sendKeepAlive timestamp ackHash := by
  obtain ⟨session, stall, pendingAck⟩ := room
  obtain rfl : pendingAck = none := nothing
  simp [tick, show session.hasRoute = true from routed,
    RoomKeepAliveStall.onTick, keepAliveTickShouldSend]

/-- Sending keeps route and misses. -/
theorem sendKeepAlive_keeps
    (room : RoomKeepAlive)
    (timestamp : UInt32)
    (ackHash : Vector UInt8 4) :
    (room.sendKeepAlive timestamp ackHash).session.hasRoute =
        room.session.hasRoute ∧
      (room.sendKeepAlive timestamp ackHash).stall = room.stall := by
  unfold sendKeepAlive
  split
  · refine ⟨?_, rfl⟩
    simp only [PersistedRoomSession.recordSentTimestamp,
      PersistedRoomSession.hasRoute]
    split <;> rfl
  · exact ⟨rfl, rfl⟩

/-- The first miss is counted and nothing is sent. -/
theorem tick_firstMiss
    (routed : room.session.hasRoute = true)
    (outstanding : room.pendingAck.isSome = true)
    (noMiss : room.stall.missed = 0)
    (timestamp : UInt32)
    (ackHash : Vector UInt8 4) :
    room.tick timestamp ackHash =
      { room with stall := { missed := 1 } } := by
  simp [tick, routed, outstanding, RoomKeepAliveStall.onTick,
    RoomKeepAliveStall.missedOnce, noMiss, keepAliveTickShouldSend,
    keepAliveStallThreshold]

/-- The second miss gives the route up. -/
theorem tick_secondMiss
    (routed : room.session.hasRoute = true)
    (outstanding : room.pendingAck.isSome = true)
    (oneMiss : room.stall.missed = 1)
    (timestamp : UInt32)
    (ackHash : Vector UInt8 4) :
    room.tick timestamp ackHash =
      { session := room.session.invalidateRoute
        stall := { missed := 0 }
        pendingAck := none } := by
  simp [tick, routed, outstanding, RoomKeepAliveStall.onTick,
    RoomKeepAliveStall.missedOnce, oneMiss, keepAliveStallThreshold]

end RoomKeepAlive

namespace KeepAliveLedger

variable {ledger : KeepAliveLedger}

/-- Below the threshold there is no miss or exactly one. -/
theorem OneOutstanding.missed_cases
    (one : ledger.OneOutstanding) :
    ledger.room.stall.missed = 0 ∨ ledger.room.stall.missed = 1 := by
  have below := one.belowThreshold
  simp only [keepAliveStallThreshold] at below
  have cases' :
      ledger.room.stall.missed.toNat = 0 ∨
        ledger.room.stall.missed.toNat = 1 := by
    omega
  rcases cases' with none' | one'
  · exact .inl (UInt8.toNat_inj.mp none')
  · exact .inr (UInt8.toNat_inj.mp one')

/-- A tick keeps one keep-alive outstanding at most. -/
theorem OneOutstanding.tick
    (one : ledger.OneOutstanding)
    (timestamp : UInt32)
    (ackHash : Vector UInt8 4) :
    (ledger.tick timestamp ackHash).OneOutstanding := by
  cases routed : ledger.room.session.hasRoute with
  | false =>
      have same :=
        RoomKeepAlive.tick_noRoute routed timestamp ackHash
      have unchanged : ledger.tick timestamp ackHash = ledger := by
        cases pending : ledger.room.pendingAck <;>
          simp [KeepAliveLedger.tick, same, pending, routed]
      rw [unchanged]
      exact one
  | true =>
      cases pending : ledger.room.pendingAck with
      | none =>
          have sent :=
            RoomKeepAlive.tick_send routed pending timestamp ackHash
          obtain ⟨sameRoute, sameStall⟩ :=
            ledger.room.sendKeepAlive_keeps timestamp ackHash
          have before := one.noneWithoutPending routed pending
          refine
            { atMostOne := ?_
              noneWithoutPending := ?_
              missedTicks := ?_
              noneMissed := ?_
              belowThreshold := ?_ }
          · simp only [KeepAliveLedger.tick, before]
            split <;> omega
          · intro _ stillNone
            simp only [KeepAliveLedger.tick] at stillNone ⊢
            simp [stillNone, before]
          · intro _
            simp [KeepAliveLedger.tick, routed, pending, sent, sameStall,
              one.noneMissed pending]
          · intro _
            simp only [KeepAliveLedger.tick, sent, sameStall]
            exact one.noneMissed pending
          · simp only [KeepAliveLedger.tick, sent, sameStall]
            exact one.belowThreshold
      | some expected =>
          have outstanding : ledger.room.pendingAck.isSome = true := by
            simp [pending]
          rcases one.missed_cases with noMiss | oneMiss
          · have missed :=
              RoomKeepAlive.tick_firstMiss routed outstanding noMiss
                timestamp ackHash
            refine
              { atMostOne := ?_
                noneWithoutPending := ?_
                missedTicks := ?_
                noneMissed := ?_
                belowThreshold := ?_ }
            · simpa [KeepAliveLedger.tick, pending] using one.atMostOne
            · intro _ isNone
              simp [KeepAliveLedger.tick, missed, pending] at isNone
            · intro _
              have firstTick := one.missedTicks outstanding
              rw [noMiss] at firstTick
              simp [KeepAliveLedger.tick, missed, routed, pending, firstTick]
            · intro isNone
              simp [KeepAliveLedger.tick, missed, pending] at isNone
            · simp [KeepAliveLedger.tick, missed,
                keepAliveStallThreshold]
          · have given :=
              RoomKeepAlive.tick_secondMiss routed outstanding oneMiss
                timestamp ackHash
            refine
              { atMostOne := ?_
                noneWithoutPending := ?_
                missedTicks := ?_
                noneMissed := ?_
                belowThreshold := ?_ }
            · simpa [KeepAliveLedger.tick, pending] using one.atMostOne
            · intro stillRouted
              simp [KeepAliveLedger.tick, given] at stillRouted
            · intro stillOutstanding
              simp [KeepAliveLedger.tick, given] at stillOutstanding
            · intro _
              simp [KeepAliveLedger.tick, given]
            · simp [KeepAliveLedger.tick, given,
                keepAliveStallThreshold]

/-- After a proof of life nothing counts any more. -/
theorem oneOutstanding_alive
    {room : RoomKeepAlive}
    (cleared : room.stall.missed = 0)
    (invalidations : List Nat) :
    OneOutstanding
      { room := room
        unanswered := 0
        ticksWaited := 0
        invalidations := invalidations } :=
  { atMostOne := Nat.zero_le 1
    noneWithoutPending := fun _ _ => rfl
    missedTicks := fun _ => by
      rw [cleared]
      rfl
    noneMissed := fun _ => cleared
    belowThreshold := by
      simp [cleared, keepAliveStallThreshold] }

theorem OneOutstanding.step
    (one : ledger.OneOutstanding)
    (event : KeepAliveEvent) :
    (ledger.step event).OneOutstanding := by
  cases event with
  | tick timestamp ackHash =>
      exact one.tick timestamp ackHash
  | ack hash =>
      by_cases expected : ledger.room.pendingAck = some hash
      · simp only [KeepAliveLedger.step, expected, if_true]
        refine oneOutstanding_alive ?_ ledger.invalidations
        simp [RoomKeepAlive.handleAck, expected,
          RoomKeepAliveStall.reset]
      · simpa [KeepAliveLedger.step, expected] using one
  | push =>
      exact oneOutstanding_alive rfl ledger.invalidations
  | login outcome =>
      exact oneOutstanding_alive rfl ledger.invalidations

/-- A tick gives up no route, unless it is the second miss in a row. -/
theorem tick_invalidations
    (one : ledger.OneOutstanding)
    (timestamp : UInt32)
    (ackHash : Vector UInt8 4) :
    (ledger.tick timestamp ackHash).invalidations =
      if ledger.room.session.hasRoute = true ∧
          ledger.room.pendingAck.isSome = true ∧
          ledger.room.stall.missed = 1 then
        ledger.unanswered :: ledger.invalidations
      else
        ledger.invalidations := by
  cases routed : ledger.room.session.hasRoute with
  | false =>
      simp [KeepAliveLedger.tick, routed]
  | true =>
      cases pending : ledger.room.pendingAck with
      | none =>
          have sent :=
            RoomKeepAlive.tick_send routed pending timestamp ackHash
          have sameRoute :=
            (ledger.room.sendKeepAlive_keeps timestamp ackHash).1
          simp [KeepAliveLedger.tick, sent, sameRoute, routed]
      | some expected =>
          have outstanding : ledger.room.pendingAck.isSome = true := by
            simp [pending]
          rcases one.missed_cases with noMiss | oneMiss
          · have missed :=
              RoomKeepAlive.tick_firstMiss routed outstanding noMiss
                timestamp ackHash
            simp [KeepAliveLedger.tick, missed, routed, noMiss]
          · have given :=
              RoomKeepAlive.tick_secondMiss routed outstanding oneMiss
                timestamp ackHash
            simp [KeepAliveLedger.tick, given, routed, oneMiss]

/-- A step keeps the invalidations stalled exactly when it waits in time. -/
theorem invalidatedOnlyStalled_step_iff
    (one : ledger.OneOutstanding)
    (stalled : ledger.InvalidatedOnlyStalled)
    (event : KeepAliveEvent) :
    (ledger.step event).InvalidatedOnlyStalled ↔
      ledger.AnsweredInTime event := by
  cases event with
  | tick timestamp ackHash =>
      have few := one.atMostOne
      simp only [KeepAliveLedger.step, InvalidatedOnlyStalled,
        tick_invalidations one, AnsweredInTime]
      split
      · next secondMiss =>
        obtain ⟨routed, outstanding, oneMiss⟩ := secondMiss
        constructor
        · intro always
          have enough := always ledger.unanswered List.mem_cons_self
          simp only [keepAliveStallThreshold] at enough
          omega
        · intro inTime
          have ticks := one.missedTicks outstanding
          rw [inTime routed outstanding, oneMiss] at ticks
          exact absurd ticks (by decide)
      · next notSecond =>
        refine ⟨?_, fun _ => stalled⟩
        intro _ routed outstanding
        rcases one.missed_cases with noMiss | oneMiss
        · rw [one.missedTicks outstanding, noMiss]
          rfl
        · exact absurd ⟨routed, outstanding, oneMiss⟩ notSecond
  | ack hash =>
      refine ⟨fun _ => trivial, fun _ => ?_⟩
      by_cases expected : ledger.room.pendingAck = some hash
      · simp only [KeepAliveLedger.step, expected, if_true]
        exact stalled
      · simpa [KeepAliveLedger.step, expected] using stalled
  | push =>
      exact ⟨fun _ => trivial, fun _ => stalled⟩
  | login outcome =>
      exact ⟨fun _ => trivial, fun _ => stalled⟩

/--
Along every run after boot, a route is invalidated only after two unanswered
keep-alives exactly when no tick finds one outstanding that an earlier tick found so.
-/
theorem invalidations_stalled_iff
    (session : PersistedRoomSession)
    (events : List KeepAliveEvent) :
    Transition.Always step InvalidatedOnlyStalled (boot session)
        events ↔
      Transition.Along step AnsweredInTime (boot session) events := by
  have one : (boot session).OneOutstanding :=
    oneOutstanding_alive rfl []
  have unlimited :
      Transition.Along step (fun _ _ => True) (boot session) events :=
    Transition.along_of_forall (fun _ _ => trivial) _
  exact
    @Transition.always_iff_along_assuming _ _ step
      InvalidatedOnlyStalled OneOutstanding AnsweredInTime
      (fun _ _ => True)
      (fun _ event one' _ _ => one'.step event)
      (fun _ event one' stalled _ =>
        invalidatedOnlyStalled_step_iff one' stalled event)
      (boot session) events one
      (fun _ member => absurd member List.not_mem_nil)
      unlimited

/-- A login over a neighbour's route, one lost keep-alive, and two ticks. -/
def oneLostKeepAlive : List KeepAliveEvent :=
  [.login
      { permissions := .readWrite
        outPath := some (Vector.replicate maxPathSize 0, 0)
        serverTs := 1000 },
    .tick 1001 #v[17, 18, 19, 20],
    .tick 1016 #v[21, 22, 23, 24],
    .tick 1031 #v[25, 26, 27, 28]]

/-- One lost keep-alive frame is enough to invalidate the route. -/
theorem oneLostKeepAlive_invalidates :
    (Transition.run step (boot .empty) oneLostKeepAlive).invalidations =
        [1] ∧
      (Transition.run step (boot .empty)
        oneLostKeepAlive).room.session.hasRoute = false ∧
      ¬ Transition.Always step InvalidatedOnlyStalled (boot .empty)
        oneLostKeepAlive := by
  have afterOne :
      (Transition.run step (boot .empty)
        oneLostKeepAlive).invalidations = [1] := by
    decide +kernel
  refine ⟨afterOne, by decide +kernel, ?_⟩
  intro always
  have enough := always.last
  rw [InvalidatedOnlyStalled, afterOne] at enough
  exact absurd (enough 1 List.mem_cons_self) (by decide)

end KeepAliveLedger

end MeshCadet
