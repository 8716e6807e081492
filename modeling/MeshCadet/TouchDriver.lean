import MeshCadet.Transition
import Mathlib.Data.List.Basic

namespace MeshCadet

/-!
# Touches and the gestures they make up

The touch controller keeps one frame and no queue.  The driver makes presses, moves
and releases of the frames it reads; a finger that is lifted without a frame of its
own is released after some silence.  A touch that wakes the screen is swallowed
with the rest of its gesture.
-/

/-- What happens to a finger on the screen. -/
inductive TouchKind where
  | pressed
  | moved
  | released
deriving Repr, DecidableEq

/-- Where the screen is touched. -/
structure TouchPoint where
  x : UInt16
  y : UInt16
  size : UInt16
deriving Repr, DecidableEq

/-- A touch that is reported. -/
structure TouchEvent where
  point : TouchPoint
  kind : TouchKind
deriving Repr, DecidableEq

/-- What the bus answers in one poll: the status, whether it could be cleared, and
the bytes of the first point. -/
structure TouchReading where
  status : Option UInt8
  cleared : Bool
  point : Option (Vector UInt8 6)
deriving Repr, DecidableEq

/-- The outcome of one poll. -/
inductive TouchPoll where
  | failed
  | nothing
  | event (event : TouchEvent)
deriving Repr, DecidableEq

/-- The point last reported while a finger is down, and when. -/
structure TouchDriver where
  last : Option TouchPoint
  lastUpdateMs : Nat
deriving Repr, DecidableEq

/-- No new frame for so long means that the finger was lifted. -/
def silenceReleaseDebounceMs : Nat :=
  40

/-- The silence is long enough. -/
def silenceImpliesRelease
    (nowMs lastUpdateMs debounceMs : Nat) :
    Bool :=
  debounceMs ≤ nowMs - lastUpdateMs

/-- The point in the bytes of a frame. -/
def TouchPoint.ofBytes
    (bytes : Vector UInt8 6) :
    TouchPoint :=
  { x := bytes[0].toUInt16 ||| bytes[1].toUInt16 <<< 8
    y := bytes[2].toUInt16 ||| bytes[3].toUInt16 <<< 8
    size := bytes[4].toUInt16 ||| bytes[5].toUInt16 <<< 8 }

/-- A controller that has no new frame. -/
def TouchReading.quiet : TouchReading :=
  { status := some 0
    cleared := true
    point := none }

/-- The bus answers what the poll asks for. -/
def TouchReading.Reads
    (reading : TouchReading) :
    Prop :=
  ∃ status,
    reading.status = some status ∧
      (status &&& 0x80 ≠ 0 →
        reading.cleared = true ∧
          (status &&& 0x0F ≠ 0 → reading.point.isSome))

/-- A controller that has no new frame is read. -/
theorem TouchReading.reads_quiet : TouchReading.quiet.Reads :=
  ⟨0, rfl, fun frame => absurd rfl frame⟩

namespace TouchDriver

/-- No finger is down. -/
def new : TouchDriver :=
  { last := none
    lastUpdateMs := 0 }

/-- Release the finger that is down. -/
def release
    (driver : TouchDriver) :
    TouchDriver × TouchPoll :=
  match driver.last with
  | some point =>
      ({ driver with last := none },
        .event
          { point := point
            kind := .released })
  | none => (driver, .nothing)

/-- Read the status, and the first point if there is a new frame. -/
def pollEvent
    (driver : TouchDriver)
    (nowMs : Nat)
    (reading : TouchReading) :
    TouchDriver × TouchPoll :=
  match reading.status with
  | none => (driver, .failed)
  | some status =>
      if status &&& 0x80 = 0 then
        if silenceImpliesRelease nowMs driver.lastUpdateMs
            silenceReleaseDebounceMs then
          driver.release
        else
          (driver, .nothing)
      else if ¬ reading.cleared then
        (driver, .failed)
      else if status &&& 0x0F = 0 then
        driver.release
      else
        match reading.point with
        | none => (driver, .failed)
        | some bytes =>
            ({ last := some (.ofBytes bytes)
               lastUpdateMs := nowMs },
              .event
                { point := .ofBytes bytes
                  kind :=
                    if driver.last.isNone then .pressed else .moved })

/-- What a poll does: it reports nothing and keeps the driver, releases the finger,
or reports a finger. -/
theorem pollEvent_cases
    (driver : TouchDriver)
    (nowMs : Nat)
    (reading : TouchReading) :
    (driver.pollEvent nowMs reading).1 = driver ∧
          (driver.pollEvent nowMs reading).2 = .failed ∨
      (driver.pollEvent nowMs reading).1 = driver ∧
          (driver.pollEvent nowMs reading).2 = .nothing ∧
          (driver.last = none ∨
            nowMs < driver.lastUpdateMs + silenceReleaseDebounceMs) ∨
      (∃ point,
          driver.last = some point ∧
            driver.pollEvent nowMs reading =
              ({ driver with last := none },
                .event
                  { point := point
                    kind := .released })) ∨
      ∃ point,
        driver.pollEvent nowMs reading =
          ({ last := some point
             lastUpdateMs := nowMs },
            .event
              { point := point
                kind :=
                  if driver.last.isNone then .pressed else .moved }) := by
  have released :
      driver.release.1 = driver ∧ driver.release.2 = .nothing ∧
            driver.last = none ∨
        ∃ point,
          driver.last = some point ∧
            driver.release =
              ({ driver with last := none },
                .event
                  { point := point
                    kind := .released }) := by
    unfold release
    cases down : driver.last with
    | none =>
        exact .inl ⟨rfl, rfl, rfl⟩
    | some point =>
        exact .inr ⟨point, rfl, rfl⟩
  have lifts :
      driver.pollEvent nowMs reading = driver.release →
        (driver.pollEvent nowMs reading).1 = driver ∧
              (driver.pollEvent nowMs reading).2 = .nothing ∧
              (driver.last = none ∨
                nowMs < driver.lastUpdateMs + silenceReleaseDebounceMs) ∨
          ∃ point,
            driver.last = some point ∧
              driver.pollEvent nowMs reading =
                ({ driver with last := none },
                  .event
                    { point := point
                      kind := .released }) := by
    intro result
    rw [result]
    rcases released with ⟨same, nothing, up⟩ | lifted
    · exact .inl ⟨same, nothing, .inl up⟩
    · exact .inr lifted
  cases status : reading.status with
  | none =>
      have result : driver.pollEvent nowMs reading = (driver, .failed) := by
        rw [pollEvent, status]
      rw [result]
      exact .inl ⟨rfl, rfl⟩
  | some byte =>
      by_cases noFrame : byte &&& 0x80 = 0
      · by_cases silent :
            silenceImpliesRelease nowMs driver.lastUpdateMs
              silenceReleaseDebounceMs
        · rcases lifts (by
              simp only [pollEvent, status, if_pos noFrame,
                if_pos silent]) with
            nothing | lifted
          · exact .inr (.inl nothing)
          · exact .inr (.inr (.inl lifted))
        · have result :
              driver.pollEvent nowMs reading = (driver, .nothing) := by
            simp only [pollEvent, status, if_pos noFrame, if_neg silent]
          have short :
              ¬ silenceReleaseDebounceMs ≤ nowMs - driver.lastUpdateMs :=
            fun long => silent (decide_eq_true long)
          rw [result]
          exact .inr (.inl ⟨rfl, rfl, .inr (by omega)⟩)
      by_cases cleared : reading.cleared = true
      swap
      · have result : driver.pollEvent nowMs reading = (driver, .failed) := by
          simp only [pollEvent, status, if_neg noFrame, if_pos cleared]
        rw [result]
        exact .inl ⟨rfl, rfl⟩
      by_cases noContact : byte &&& 0x0F = 0
      · rcases lifts (by
            simp only [pollEvent, status, if_neg noFrame,
              not_not.mpr cleared, if_false, if_pos noContact]) with
          nothing | lifted
        · exact .inr (.inl nothing)
        · exact .inr (.inr (.inl lifted))
      cases point : reading.point with
      | none =>
          have result :
              driver.pollEvent nowMs reading = (driver, .failed) := by
            simp only [pollEvent, status, if_neg noFrame,
              not_not.mpr cleared, if_false, if_neg noContact, point]
          rw [result]
          exact .inl ⟨rfl, rfl⟩
      | some bytes =>
          refine .inr (.inr (.inr ⟨.ofBytes bytes, ?_⟩))
          simp only [pollEvent, status, if_neg noFrame,
            not_not.mpr cleared, if_false, if_neg noContact, point]

/-- A poll of a controller that is read does not fail. -/
theorem pollEvent_reads
    (driver : TouchDriver)
    (nowMs : Nat)
    {reading : TouchReading}
    (reads : reading.Reads) :
    (driver.pollEvent nowMs reading).2 ≠ .failed := by
  have released : driver.release.2 ≠ .failed := by
    unfold release
    split
    · exact nofun
    · exact nofun
  obtain ⟨status, isStatus, frame⟩ := reads
  unfold pollEvent
  rw [isStatus]
  simp only
  split
  · split
    · exact released
    · exact nofun
  · rename_i someFrame
    obtain ⟨cleared, contact⟩ := frame someFrame
    rw [if_neg (not_not.mpr cleared)]
    split
    · exact released
    · rename_i someContact
      obtain ⟨bytes, isPoint⟩ :=
        Option.isSome_iff_exists.mp (contact someContact)
      rw [isPoint]
      exact nofun

end TouchDriver

/-- What to do with a touch. -/
structure TouchWakeOutcome where
  woke : Bool
  dispatch : Bool
  swallowActive : Bool
deriving Repr, DecidableEq

/-- A touch wakes a screen that is asleep; it is swallowed, and so is what follows
until the finger is lifted. -/
def touchWakeTransition
    (screenAsleep swallowActive : Bool)
    (kind : TouchKind) :
    TouchWakeOutcome :=
  if screenAsleep then
    { woke := true
      dispatch := false
      swallowActive := kind != .released }
  else if swallowActive then
    { woke := false
      dispatch := false
      swallowActive := kind != .released }
  else
    { woke := false
      dispatch := true
      swallowActive := false }

/-- A touch that was reported, whether the screen was asleep before it, and whether
it was handed on. -/
structure TouchEntry where
  kind : TouchKind
  asleep : Bool
  dispatched : Bool
deriving Repr, DecidableEq

/--
The touches so far make up whole gestures and, while a finger is down, the start of
one: a press, moves and a release, all of them handed on if the screen was awake at
the press, and none otherwise.
-/
inductive Gestures : List TouchEntry → Option Bool → Prop where
  | empty :
      Gestures [] none
  | press {entries : List TouchEntry} (asleep : Bool) :
      Gestures entries none →
        Gestures
          (entries ++
            [{ kind := .pressed
               asleep := asleep
               dispatched := !asleep }])
          (some !asleep)
  | move {entries : List TouchEntry} {dispatched : Bool} :
      Gestures entries (some dispatched) →
        Gestures
          (entries ++
            [{ kind := .moved
               asleep := false
               dispatched := dispatched }])
          (some dispatched)
  | release {entries : List TouchEntry} {dispatched : Bool} :
      Gestures entries (some dispatched) →
        Gestures
          (entries ++
            [{ kind := .released
               asleep := false
               dispatched := dispatched }])
          none

/-- What an application gets: presses, moves and releases in their order. -/
inductive WholeGestures : List TouchKind → Bool → Prop where
  | empty :
      WholeGestures [] false
  | press {kinds : List TouchKind} :
      WholeGestures kinds false →
        WholeGestures (kinds ++ [.pressed]) true
  | move {kinds : List TouchKind} :
      WholeGestures kinds true →
        WholeGestures (kinds ++ [.moved]) true
  | release {kinds : List TouchKind} :
      WholeGestures kinds true →
        WholeGestures (kinds ++ [.released]) false

/-- The kinds of the touches that were handed on. -/
def dispatchedKinds
    (entries : List TouchEntry) :
    List TouchKind :=
  (entries.filter TouchEntry.dispatched).map TouchEntry.kind

/-- One more touch. -/
theorem dispatchedKinds_concat
    (entries : List TouchEntry)
    (entry : TouchEntry) :
    dispatchedKinds (entries ++ [entry]) =
      dispatchedKinds entries ++
        if entry.dispatched then [entry.kind] else [] := by
  rw [dispatchedKinds, List.filter_append, List.map_append]
  cases isDispatched : entry.dispatched with
  | true =>
      rw [List.filter_cons_of_pos isDispatched]
      rfl
  | false =>
      rw [List.filter_cons_of_neg (by rw [isDispatched]; exact nofun)]
      rfl

/-- What is handed on of gestures are whole gestures. -/
theorem Gestures.wholeGestures
    {entries : List TouchEntry}
    {finger : Option Bool}
    (gestures : Gestures entries finger) :
    WholeGestures (dispatchedKinds entries) (finger.getD false) := by
  induction gestures with
  | empty =>
      exact .empty
  | press asleep _ inductionHypothesis =>
      rw [dispatchedKinds_concat]
      cases asleep with
      | true =>
          simpa using inductionHypothesis
      | false =>
          exact .press inductionHypothesis
  | @move _ dispatched _ inductionHypothesis =>
      rw [dispatchedKinds_concat]
      cases dispatched with
      | true =>
          exact .move inductionHypothesis
      | false =>
          simpa using inductionHypothesis
  | @release _ dispatched _ inductionHypothesis =>
      rw [dispatchedKinds_concat]
      cases dispatched with
      | true =>
          exact .release inductionHypothesis
      | false =>
          simpa using inductionHypothesis

end MeshCadet
