import MeshCadet.RoomSyncPhase
import MeshCadet.RoomTimestamps

namespace MeshCadet

/-!
# The clock of a room server

A device without a verified position takes the clock of a room server, and keeps
it by its own uptime.  A later timestamp of the server replaces the clock unless
it is behind what the clock reads at that moment.  The replaced clock may have
been part of a second ahead, so that the next full second comes later.  Frames
for the server are stamped with the clock, or one past the last stamp.
-/

/-- A timestamp of a server and the uptime at which it was received. -/
structure AdoptedServerClock where
  anchorUptimeMs : Nat
  anchorUnixSecs : UInt32
deriving Repr, DecidableEq

namespace AdoptedServerClock

/-- The time by a clock. -/
def nowSecs
    (clock : AdoptedServerClock)
    (nowMs : Nat) :
    UInt32 :=
  let elapsedSecs := (nowMs - clock.anchorUptimeMs) / 1000
  saturatingAddU32 clock.anchorUnixSecs (UInt32.ofNat elapsedSecs)

end AdoptedServerClock

/-- Take a timestamp of a server for the clock, or keep the clock there is. -/
def adoptServerClock
    (current : Option AdoptedServerClock)
    (gpsVerified : Bool)
    (nowMs : Nat)
    (serverTs : UInt32) :
    Option AdoptedServerClock :=
  if gpsVerified then
    current
  else if roomClockPlausibilityCeilingSecs ≤ serverTs then
    current
  else if current.any fun existing =>
      decide (serverTs < existing.nowSecs nowMs) then
    current
  else
    some { anchorUptimeMs := nowMs, anchorUnixSecs := serverTs }

/-- Where a time is from. -/
inductive ClockSource where
  | none
  | gps
  | gpsUnverified
  | roomServer
deriving Repr, DecidableEq

/-- The time that counts, and where it is from. -/
def trustedWallClockSecs
    (gpsSecs : Option UInt32)
    (gpsVerified : Bool)
    (serverClock : Option AdoptedServerClock)
    (nowMs : Nat) :
    Option UInt32 × ClockSource :=
  match gpsSecs, gpsVerified with
  | some secs, true => (some secs, .gps)
  | gpsSecs, _ =>
      match serverClock with
      | some clock => (some (clock.nowSecs nowMs), .roomServer)
      | none =>
          match gpsSecs with
          | some secs => (some secs, .gpsUnverified)
          | none => (none, .none)

namespace ServerClock

/-- A timestamp from a server, or a frame to it. -/
inductive ClockEvent where
  | heard (gpsVerified : Bool) (serverTs : UInt32)
  | send (gpsSecs : Option UInt32) (gpsVerified : Bool)
deriving Repr, DecidableEq

/-- An event at an uptime. -/
structure TimedEvent where
  nowMs : Nat
  event : ClockEvent
deriving Repr, DecidableEq

/--
The clock and the session of a room.  The last two fields record the largest time
that counted for a frame so far and the number of frames.
-/
structure RoomClock where
  clock : Option AdoptedServerClock
  session : PersistedRoomSession
  largest : Nat
  sends : Nat
deriving Repr, DecidableEq

/-- One event. -/
def step
    (state : RoomClock)
    (timed : TimedEvent) :
    RoomClock :=
  match timed.event with
  | .heard gpsVerified serverTs =>
      { state with
        clock :=
          adoptServerClock state.clock gpsVerified timed.nowMs serverTs }
  | .send gpsSecs gpsVerified =>
      let trusted :=
        (trustedWallClockSecs gpsSecs gpsVerified state.clock
          timed.nowMs).1
      let timestamp := roomTxTimestamp trusted state.session.lastRoomTs
      { state with
        session := state.session.recordSentTimestamp timestamp
        largest := max state.largest ((trusted.map UInt32.toNat).getD 0)
        sends := state.sends + 1 }

/-- After a boot there is no clock. -/
def booted
    (session : PersistedRoomSession) :
    RoomClock :=
  { clock := none, session := session, largest := 0, sends := 0 }

/-- The state after events. -/
abbrev run : RoomClock → List TimedEvent → RoomClock :=
  Transition.run step

/-- The first uptime that is too long. -/
def uptimeLimitMs : Nat :=
  4294967296 * 1000

/-- Events one after the other, at uptimes that are not too long. -/
structure Timely
    (events : List TimedEvent) :
    Prop where
  ordered : events.Pairwise fun first second => first.nowMs ≤ second.nowMs
  bounded : ∀ timed ∈ events, timed.nowMs < uptimeLimitMs

theorem toNat_saturatingAddU32
    (first second : UInt32) :
    (saturatingAddU32 first second).toNat =
      min (first.toNat + second.toNat) 4294967295 := by
  have size : 2 ^ 32 = 4294967296 := rfl
  rw [saturatingAddU32]
  split
  · rename_i fits
    rw [UInt32.toNat_add, Nat.mod_eq_of_lt fits]
    omega
  · change 4294967295 = _
    omega

/-- What a clock reads as long as the uptime is not too long. -/
theorem toNat_nowSecs
    (clock : AdoptedServerClock)
    {nowMs : Nat}
    (bounded : nowMs < uptimeLimitMs) :
    (clock.nowSecs nowMs).toNat =
      min (clock.anchorUnixSecs.toNat +
        (nowMs - clock.anchorUptimeMs) / 1000) 4294967295 := by
  have limit : uptimeLimitMs = 4294967296000 := rfl
  have fits : (nowMs - clock.anchorUptimeMs) / 1000 < 2 ^ 32 := by omega
  rw [AdoptedServerClock.nowSecs, toNat_saturatingAddU32,
    UInt32.toNat_ofNat_of_lt' fits]

/-- A clock does not go back. -/
theorem nowSecs_mono
    (clock : AdoptedServerClock)
    {first second : Nat}
    (ordered : first ≤ second)
    (bounded : second < uptimeLimitMs) :
    (clock.nowSecs first).toNat ≤ (clock.nowSecs second).toNat := by
  rw [toNat_nowSecs clock (by omega), toNat_nowSecs clock bounded]
  omega

/-- A clock that was just taken reads the timestamp. -/
theorem nowSecs_anchor
    (clock : AdoptedServerClock) :
    clock.nowSecs clock.anchorUptimeMs = clock.anchorUnixSecs := by
  apply UInt32.toNat_inj.mp
  rw [AdoptedServerClock.nowSecs, toNat_saturatingAddU32, Nat.sub_self]
  have bounded := clock.anchorUnixSecs.toNat_lt
  change min (clock.anchorUnixSecs.toNat + 0) 4294967295 = _
  omega

/-- A clock is kept, or a plausible timestamp that is not behind it is taken. -/
theorem adoptServerClock_cases
    (current : Option AdoptedServerClock)
    (gpsVerified : Bool)
    (nowMs : Nat)
    (serverTs : UInt32) :
    adoptServerClock current gpsVerified nowMs serverTs = current ∨
      (adoptServerClock current gpsVerified nowMs serverTs =
          some { anchorUptimeMs := nowMs, anchorUnixSecs := serverTs } ∧
        serverTs < roomClockPlausibilityCeilingSecs ∧
        ∀ existing, current = some existing →
          existing.nowSecs nowMs ≤ serverTs) := by
  rw [adoptServerClock]
  split
  · exact Or.inl rfl
  split
  · exact Or.inl rfl
  rename_i anchored
  split
  · exact Or.inl rfl
  rename_i notBehind
  refine Or.inr ⟨rfl, UInt32.not_le.mp anchored, ?_⟩
  rintro existing rfl
  simpa using notBehind

/-- The anchor of a clock is plausible. -/
def Plausible
    (state : RoomClock) :
    Prop :=
  ∀ clock, state.clock = some clock →
    clock.anchorUnixSecs < roomClockPlausibilityCeilingSecs

/-- What an event does to a clock that there is. -/
theorem step_clock
    {state : RoomClock}
    {clock : AdoptedServerClock}
    (isClock : state.clock = some clock)
    (timed : TimedEvent) :
    ∃ after,
      (step state timed).clock = some after ∧
        (after = clock ∨
          (after.anchorUptimeMs = timed.nowMs ∧
            clock.nowSecs timed.nowMs ≤ after.anchorUnixSecs)) := by
  obtain ⟨nowMs, event⟩ := timed
  cases event with
  | send gpsSecs gpsVerified => exact ⟨clock, isClock, Or.inl rfl⟩
  | heard gpsVerified serverTs =>
      have isStep :
          (step state ⟨nowMs, .heard gpsVerified serverTs⟩).clock =
            adoptServerClock state.clock gpsVerified nowMs serverTs := rfl
      rw [isStep]
      rcases adoptServerClock_cases state.clock gpsVerified nowMs serverTs with
        kept | ⟨taken, _, notBehind⟩
      · exact ⟨clock, kept.trans isClock, Or.inl rfl⟩
      · exact ⟨_, taken, Or.inr ⟨rfl, notBehind clock isClock⟩⟩

/-- An event leaves a plausible anchor. -/
theorem Plausible.step
    {state : RoomClock}
    (anchored : Plausible state)
    (timed : TimedEvent) :
    Plausible (ServerClock.step state timed) := by
  obtain ⟨nowMs, event⟩ := timed
  cases event with
  | send gpsSecs gpsVerified => exact anchored
  | heard gpsVerified serverTs =>
      intro clock isClock
      change
        adoptServerClock state.clock gpsVerified nowMs serverTs =
          some clock at isClock
      rcases adoptServerClock_cases state.clock gpsVerified nowMs serverTs with
        kept | ⟨taken, below, _⟩
      · exact anchored clock (kept.symm.trans isClock)
      · rw [taken] at isClock
        cases isClock
        exact below

/-- The clock reads at the time of an event no less than before the event. -/
theorem step_reads
    {state : RoomClock}
    {clock after : AdoptedServerClock}
    (isClock : state.clock = some clock)
    (timed : TimedEvent)
    (isAfter : (step state timed).clock = some after) :
    clock.nowSecs timed.nowMs ≤ after.nowSecs timed.nowMs := by
  obtain ⟨known, isKnown, cases⟩ := step_clock isClock timed
  cases isKnown.symm.trans isAfter
  rcases cases with same | ⟨anchored, notBehind⟩
  · rw [same]
    exact UInt32.le_refl _
  · rw [← anchored] at notBehind ⊢
    rw [nowSecs_anchor after]
    exact notBehind

/-- Later, the clock may read one second less than the one it replaced. -/
theorem step_reads_later
    {state : RoomClock}
    {clock after : AdoptedServerClock}
    (isClock : state.clock = some clock)
    (timed : TimedEvent)
    (isAfter : (step state timed).clock = some after)
    {nowMs : Nat}
    (later : timed.nowMs ≤ nowMs)
    (bounded : nowMs < uptimeLimitMs) :
    (clock.nowSecs nowMs).toNat ≤ (after.nowSecs nowMs).toNat + 1 := by
  obtain ⟨known, isKnown, cases⟩ := step_clock isClock timed
  cases isKnown.symm.trans isAfter
  rcases cases with same | ⟨anchored, notBehind⟩
  · rw [same]
    exact Nat.le_succ _
  · have atEvent := UInt32.le_iff_toNat_le.mp notBehind
    rw [toNat_nowSecs clock (by omega)] at atEvent
    rw [toNat_nowSecs clock bounded, toNat_nowSecs after bounded, anchored]
    omega

/-- A clock is never dropped. -/
theorem isSome_run
    {state : RoomClock}
    (adopted : state.clock.isSome)
    (events : List TimedEvent) :
    (run state events).clock.isSome := by
  induction events generalizing state with
  | nil => exact adopted
  | cons timed rest inductionHypothesis =>
      obtain ⟨clock, isClock⟩ := Option.isSome_iff_exists.mp adopted
      obtain ⟨next, isNext, _⟩ := step_clock isClock timed
      exact
        inductionHypothesis (Option.isSome_iff_exists.mpr ⟨next, isNext⟩)

/-- The clock never reads less than it has. -/
theorem run_reads
    {state : RoomClock}
    {clock : AdoptedServerClock}
    (isClock : state.clock = some clock)
    {events : List TimedEvent}
    (timely : Timely events)
    {first second : Nat}
    (before : ∀ timed ∈ events, first ≤ timed.nowMs)
    (behind : ∀ timed ∈ events, timed.nowMs ≤ second)
    (ordered : first ≤ second)
    (bounded : second < uptimeLimitMs) :
    ∃ after,
      (run state events).clock = some after ∧
        (clock.nowSecs first).toNat ≤ (after.nowSecs second).toNat := by
  induction events generalizing state clock first with
  | nil => exact ⟨clock, isClock, nowSecs_mono clock ordered bounded⟩
  | cons timed rest inductionHypothesis =>
      obtain ⟨next, isNext, _⟩ := step_clock isClock timed
      obtain ⟨fromTimed, restOrdered⟩ := List.pairwise_cons.mp timely.ordered
      have restTimely : Timely rest :=
        ⟨restOrdered, fun later member =>
          timely.bounded later (List.mem_cons_of_mem timed member)⟩
      obtain ⟨after, isAfter, reads⟩ :=
        inductionHypothesis isNext restTimely fromTimed
          (fun later member =>
            behind later (List.mem_cons_of_mem timed member))
          (behind timed List.mem_cons_self)
      have untilEvent :=
        nowSecs_mono clock (before timed List.mem_cons_self)
          (timely.bounded timed List.mem_cons_self)
      have atEvent :=
        UInt32.le_iff_toNat_le.mp (step_reads isClock timed isNext)
      exact ⟨after, isAfter, untilEvent.trans (atEvent.trans reads)⟩

/-- The last stamp is within the number of frames of what counted. -/
def StampedWithin
    (initial : Nat)
    (state : RoomClock) :
    Prop :=
  state.session.lastRoomTs.toNat ≤ max initial state.largest + state.sends

/-- The stamp of a frame is the time that counts, or one past the last stamp. -/
theorem toNat_roomTxTimestamp_le
    (trusted : Option UInt32)
    (lastRoomTs : UInt32) :
    (roomTxTimestamp trusted lastRoomTs).toNat ≤
      max ((trusted.map UInt32.toNat).getD 0) (lastRoomTs.toNat + 1) := by
  have floor :
      (if lastRoomTs = 0xFFFFFFFF then lastRoomTs
        else lastRoomTs + 1).toNat ≤ lastRoomTs.toNat + 1 := by
    split
    · exact Nat.le_succ _
    · rw [UInt32.toNat_add]
      exact Nat.mod_le _ _
  cases trusted with
  | none => exact floor.trans (Nat.le_max_right _ _)
  | some wall =>
      change
        (if wall ≤ (if lastRoomTs = 0xFFFFFFFF then lastRoomTs
            else lastRoomTs + 1) then
          (if lastRoomTs = 0xFFFFFFFF then lastRoomTs else lastRoomTs + 1)
        else wall).toNat ≤ max wall.toNat (lastRoomTs.toNat + 1)
      generalize
        (if lastRoomTs = 0xFFFFFFFF then lastRoomTs
          else lastRoomTs + 1) = next at floor ⊢
      split
      · exact floor.trans (Nat.le_max_right _ _)
      · exact Nat.le_max_left _ _

/-- A recorded stamp is the new one or the one before. -/
theorem lastRoomTs_recordSentTimestamp
    (session : PersistedRoomSession)
    (timestamp : UInt32) :
    (session.recordSentTimestamp timestamp).lastRoomTs.toNat ≤
      max session.lastRoomTs.toNat timestamp.toNat := by
  rw [PersistedRoomSession.recordSentTimestamp]
  split
  · exact Nat.le_max_right _ _
  · exact Nat.le_max_left _ _

/-- An event keeps the last stamp within its bound. -/
theorem StampedWithin.step
    {initial : Nat}
    {state : RoomClock}
    (within : StampedWithin initial state)
    (timed : TimedEvent) :
    StampedWithin initial (ServerClock.step state timed) := by
  obtain ⟨nowMs, event⟩ := timed
  cases event with
  | heard gpsVerified serverTs => exact within
  | send gpsSecs gpsVerified =>
      generalize isTrusted :
        (trustedWallClockSecs gpsSecs gpsVerified state.clock nowMs).1 =
          trusted
      have isStep :
          ServerClock.step state ⟨nowMs, .send gpsSecs gpsVerified⟩ =
            { state with
              session :=
                state.session.recordSentTimestamp
                  (roomTxTimestamp trusted state.session.lastRoomTs)
              largest :=
                max state.largest ((trusted.map UInt32.toNat).getD 0)
              sends := state.sends + 1 } := by
        rw [← isTrusted]
        rfl
      have stamp :=
        toNat_roomTxTimestamp_le trusted state.session.lastRoomTs
      have recorded :=
        lastRoomTs_recordSentTimestamp state.session
          (roomTxTimestamp trusted state.session.lastRoomTs)
      rw [StampedWithin] at within
      rw [StampedWithin, isStep]
      dsimp only
      omega

/-- The time that counts is the one given, or that of a plausible anchor. -/
theorem trusted_reading
    {state : RoomClock}
    (anchored : Plausible state)
    {gpsSecs : Option UInt32}
    {gpsVerified : Bool}
    {nowMs : Nat}
    (bounded : nowMs < uptimeLimitMs)
    {reading : UInt32}
    (counts :
      (trustedWallClockSecs gpsSecs gpsVerified state.clock nowMs).1 =
        some reading) :
    gpsSecs = some reading ∨
      reading.toNat <
        roomClockPlausibilityCeilingSecs.toNat + nowMs / 1000 := by
  unfold trustedWallClockSecs at counts
  split at counts
  · exact Or.inl counts
  split at counts
  · rename_i clock isClock
    refine Or.inr ?_
    cases counts
    have below := UInt32.lt_iff_toNat_lt.mp (anchored clock isClock)
    rw [toNat_nowSecs clock bounded]
    omega
  split at counts
  · exact Or.inl counts
  · cases counts

/-- What a run keeps is kept from the boot on. -/
theorem plausible_run
    (session : PersistedRoomSession)
    (events : List TimedEvent) :
    Plausible (run (booted session) events) ∧
      StampedWithin session.lastRoomTs.toNat (run (booted session) events) := by
  have atBoot :
      Plausible (booted session) ∧
        StampedWithin session.lastRoomTs.toNat (booted session) := by
    refine ⟨nofun, ?_⟩
    change session.lastRoomTs.toNat ≤ max session.lastRoomTs.toNat 0 + 0
    omega
  generalize booted session = state at atBoot
  induction events generalizing state with
  | nil => exact atBoot
  | cons timed rest inductionHypothesis =>
      exact inductionHypothesis _ ⟨atBoot.1.step timed, atBoot.2.step timed⟩

/--
What holds of the clock and the stamps in a run, at some point of the run and
after the events that follow.
-/
structure RunContract
    (session : PersistedRoomSession)
    (earlier later : List TimedEvent) :
    Prop where
  kept :
    (run (booted session) earlier).clock.isSome →
      (run (booted session) (earlier ++ later)).clock.isSome
  reads :
    ∀ clock after first second,
      (run (booted session) earlier).clock = some clock →
        (run (booted session) (earlier ++ later)).clock = some after →
          (∀ timed ∈ later, first ≤ timed.nowMs) →
            (∀ timed ∈ later, timed.nowMs ≤ second) →
              first ≤ second →
                second < uptimeLimitMs →
                  clock.nowSecs first ≤ after.nowSecs second
  readsLater :
    ∀ timed rest clock after nowMs,
      later = timed :: rest →
        (run (booted session) earlier).clock = some clock →
          (run (booted session) (earlier ++ [timed])).clock = some after →
            timed.nowMs ≤ nowMs →
              nowMs < uptimeLimitMs →
                (clock.nowSecs nowMs).toNat ≤
                  (after.nowSecs nowMs).toNat + 1
  anchored :
    ∀ clock,
      (run (booted session) earlier).clock = some clock →
        clock.anchorUnixSecs < roomClockPlausibilityCeilingSecs
  stamped :
    (run (booted session) earlier).session.lastRoomTs.toNat ≤
      max session.lastRoomTs.toNat (run (booted session) earlier).largest +
        (run (booted session) earlier).sends
  trusted :
    ∀ gpsSecs gpsVerified nowMs reading,
      nowMs < uptimeLimitMs →
        (trustedWallClockSecs gpsSecs gpsVerified
            (run (booted session) earlier).clock nowMs).1 =
            some reading →
          gpsSecs = some reading ∨
            reading.toNat <
              roomClockPlausibilityCeilingSecs.toNat + nowMs / 1000

/-- The clock and the stamps in every run, whatever the server sends. -/
theorem adoptedClock_run
    (session : PersistedRoomSession)
    {earlier later : List TimedEvent}
    (timely : Timely (earlier ++ later)) :
    RunContract session earlier later := by
  have laterTimely : Timely later :=
    ⟨(List.pairwise_append.mp timely.ordered).2.1, fun timed member =>
      timely.bounded timed (List.mem_append_right earlier member)⟩
  obtain ⟨anchored, stamped⟩ := plausible_run session earlier
  have isRun :
      run (booted session) (earlier ++ later) =
        run (run (booted session) earlier) later :=
    Transition.run_append _ _ _
  refine ⟨?_, ?_, ?_, anchored, stamped, ?_⟩
  · intro adopted
    rw [isRun]
    exact isSome_run adopted later
  · intro clock after first second isClock isAfter before behind ordered
      bounded
    obtain ⟨known, isKnown, reads⟩ :=
      run_reads isClock laterTimely before behind ordered bounded
    rw [isRun, isKnown] at isAfter
    cases isAfter
    exact UInt32.le_iff_toNat_le.mpr reads
  · intro timed rest clock after nowMs _ isClock isAfter later bounded
    have isStep :
        run (booted session) (earlier ++ [timed]) =
          step (run (booted session) earlier) timed :=
      Transition.run_append _ _ _
    rw [isStep] at isAfter
    exact step_reads_later isClock timed isAfter later bounded
  · intro gpsSecs gpsVerified nowMs reading bounded counts
    exact trusted_reading anchored bounded counts

/-- A timestamp of the server, heard at the start. -/
def heardFirst : TimedEvent :=
  { nowMs := 0, event := .heard false 100 }

/-- The same timestamp, heard almost a second later. -/
def heardAgain : TimedEvent :=
  { nowMs := 999, event := .heard false 100 }

/-- A frame ten seconds after the start. -/
def sentLater : TimedEvent :=
  { nowMs := 10000, event := .send none false }

/-- A run with a timestamp, the same timestamp and a frame. -/
theorem adoptedClock_run_twice :
    Timely ([heardFirst] ++ [heardAgain, sentLater]) ∧
      RunContract .empty [heardFirst] [heardAgain, sentLater] := by
  have timely : Timely ([heardFirst] ++ [heardAgain, sentLater]) := by
    constructor <;> decide
  exact ⟨timely, adoptedClock_run .empty timely⟩

/--
The clock is replaced by the same timestamp within the same second, and one
millisecond later it reads a second less than the replaced one would.
-/
theorem replaced_clock_reads_less :
    ∃ clock after : AdoptedServerClock,
      (run (booted .empty) [heardFirst]).clock = some clock ∧
        (run (booted .empty) [heardFirst, heardAgain]).clock = some after ∧
          heardAgain.nowMs ≤ 1000 ∧
            after.nowSecs 1000 < clock.nowSecs 1000 :=
  ⟨⟨0, 100⟩, ⟨999, 100⟩, by decide, by decide, by decide, by decide⟩

end ServerClock

end MeshCadet
