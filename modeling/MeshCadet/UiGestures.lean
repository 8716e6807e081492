import MeshCadet.UiLights

namespace MeshCadet

/-!
# Gestures over runs

As long as the touch controller can be read, a screen never goes to sleep under a
finger.  So a gesture is handed on as a whole, or it found the screen asleep and is
swallowed as a whole: nothing on a screen ever sees half a gesture.
-/

namespace UiRuntime

/-- What holds of the touches throughout a run, with the finger that is down and
whether its gesture is handed on. -/
structure Touching
    (ui : UiRuntime)
    (nowMs : Nat)
    (finger : Option Bool) :
    Prop where
  gestures : Gestures ui.touched finger
  isDown : finger.isSome = ui.touch.last.isSome
  swallows : ui.touchWakeSwallowActive = (finger == some false)
  awake : finger.isSome → ui.power.asleep = false
  updated : finger.isSome → ui.touch.lastUpdateMs ≤ ui.power.lastActivityMs
  clock : ui.power.lastActivityMs ≤ nowMs

/-- Nothing was touched, and the screen neither woke nor fell asleep. -/
structure Untouched
    (nowMs : Nat)
    (ui next : UiRuntime) :
    Prop where
  touched : next.touched = ui.touched
  touch : next.touch = ui.touch
  swallows : next.touchWakeSwallowActive = ui.touchWakeSwallowActive
  asleep : next.power.asleep = ui.power.asleep
  activity :
    next.power.lastActivityMs = ui.power.lastActivityMs ∨
      next.power.lastActivityMs = nowMs

variable {ui next last : UiRuntime} {earlierMs nowMs : Nat}
variable {finger : Option Bool}

/-- The touches are the same. -/
theorem Untouched.same
    (touched : next.touched = ui.touched)
    (touch : next.touch = ui.touch)
    (swallows : next.touchWakeSwallowActive = ui.touchWakeSwallowActive)
    (power : next.power = ui.power) :
    Untouched nowMs ui next :=
  ⟨touched, touch, swallows, congrArg _ power, .inl (congrArg _ power)⟩

/-- One step after the other without a touch. -/
theorem Untouched.trans
    (first : Untouched nowMs ui next)
    (second : Untouched nowMs next last) :
    Untouched nowMs ui last where
  touched := second.touched.trans first.touched
  touch := second.touch.trans first.touch
  swallows := second.swallows.trans first.swallows
  asleep := second.asleep.trans first.asleep
  activity := by
    rcases second.activity with same | now
    · rcases first.activity with stays | isNow
      · exact .inl (same.trans stays)
      · exact .inr (same.trans isNow)
    · exact .inr now

/-- Without a touch the finger stays where it is. -/
theorem Touching.untouched
    (touching : ui.Touching earlierMs finger)
    (ordered : earlierMs ≤ nowMs)
    (untouched : Untouched nowMs ui next) :
    next.Touching nowMs finger where
  gestures := untouched.touched ▸ touching.gestures
  isDown := untouched.touch ▸ touching.isDown
  swallows := untouched.swallows.trans touching.swallows
  awake := fun isDown => untouched.asleep.trans (touching.awake isDown)
  updated := by
    intro isDown
    have updated := touching.updated isDown
    have clock := touching.clock
    rw [untouched.touch]
    rcases untouched.activity with same | isNow
    · rw [same]
      exact updated
    · rw [isNow]
      exact Nat.le_trans updated (Nat.le_trans clock ordered)
  clock := by
    have clock := touching.clock
    rcases untouched.activity with same | isNow
    · rw [same]
      exact Nat.le_trans clock ordered
    · rw [isNow]

/-- Events of the dispatcher. -/
theorem untouched_handleEvents
    (ui : UiRuntime)
    (nowMs : Nat)
    (input : LoopInput) :
    Untouched nowMs ui (ui.handleEvents nowMs input) := by
  refine
    @handleEvents_induction (fun after => Untouched nowMs ui after) nowMs
      input ui (.same rfl rfl rfl rfl) ?_ ?_
  · intro after event _ untouched
    refine untouched.trans ?_
    unfold UiRuntime.handleEvent
    cases event with
    | bootSeed seed =>
        simp only
        split
        · obtain ⟨lock, lockShown, lockDigits, front, result⟩ :=
            tripLock_eq _ nowMs
          rw [result]
          exact .same rfl rfl rfl rfl
        · exact .same rfl rfl rfl rfl
    | conversation event =>
        simp only
        split <;> exact .same rfl rfl rfl rfl
    | _ => exact .same rfl rfl rfl rfl
  · intro after untouched
    exact untouched.trans (.same rfl rfl rfl rfl)

/-- What comes before the inputs. -/
theorem untouched_beforeInputs
    (expand : String → String)
    (ui : UiRuntime)
    (turn : UiTurn) :
    Untouched turn.nowMs ui (ui.beforeInputs expand turn) := by
  have started :
      Untouched turn.nowMs ui
        ((ui.receive turn).startClock turn.nowMs) := by
    unfold startClock
    split
    · exact .same rfl rfl rfl rfl
    · exact ⟨rfl, rfl, rfl, rfl, .inr rfl⟩
  have opened :
      ∀ ui : UiRuntime,
        Untouched turn.nowMs ui (ui.openScreens expand turn.nowMs) := by
    intro ui
    unfold openScreens navigate
    simp only
    split <;> exact .same rfl rfl rfl rfl
  have confirmed :
      ∀ ui : UiRuntime,
        Untouched turn.nowMs ui
          (ui.confirmLock turn.nowMs).syncNotifPrefs := by
    intro ui
    unfold confirmLock
    split
    · exact .same rfl rfl rfl rfl
    · split
      · exact .same rfl rfl rfl rfl
      · split
        · exact .same rfl rfl rfl rfl
        · simp only
          split
          · exact ⟨rfl, rfl, rfl, rfl, .inr rfl⟩
          · exact .same rfl rfl rfl rfl
  exact
    ((started.trans (opened _)).trans (confirmed _)).trans
      (untouched_handleEvents _ turn.nowMs turn.input)

/-- What becomes of a touch. -/
theorem handleTouch_touched
    (ui : UiRuntime)
    (nowMs : Nat)
    (event : TouchEvent)
    (taps : List Tap) :
    let outcome :=
      touchWakeTransition ui.power.asleep ui.touchWakeSwallowActive event.kind
    let handled := ui.handleTouch nowMs event taps
    handled.touched =
        ui.touched ++
          [{ kind := event.kind
             asleep := ui.power.asleep
             dispatched := outcome.dispatch }] ∧
      handled.touchWakeSwallowActive = outcome.swallowActive ∧
      handled.touch = ui.touch ∧ handled.power.asleep = false ∧
      handled.power.lastActivityMs = nowMs := by
  rcases ui.handleTouch_cases nowMs event taps with
    ⟨asleep, result⟩ | ⟨awake, swallows, result⟩ | ⟨awake, passes, result⟩
  · have outcome :
        touchWakeTransition ui.power.asleep ui.touchWakeSwallowActive
            event.kind =
          { woke := true
            dispatch := false
            swallowActive := event.kind != .released } := by
      rw [asleep]
      rfl
    simp only [outcome, result]
    exact ⟨rfl, rfl, rfl, rfl, rfl⟩
  · have outcome :
        touchWakeTransition ui.power.asleep ui.touchWakeSwallowActive
            event.kind =
          { woke := false
            dispatch := false
            swallowActive := event.kind != .released } := by
      rw [awake, swallows]
      rfl
    simp only [outcome, result]
    exact ⟨rfl, rfl, rfl, awake, rfl⟩
  · have outcome :
        touchWakeTransition ui.power.asleep ui.touchWakeSwallowActive
            event.kind =
          { woke := false
            dispatch := true
            swallowActive := false } := by
      rw [awake, passes]
      rfl
    obtain ⟨app, digits, confirm, -, results⟩ := taps_eq _ taps
    rw [results] at result
    simp only [outcome, result]
    exact ⟨rfl, rfl, rfl, awake, rfl⟩

/-- A touch goes on with the gesture, or it starts one. -/
theorem Touching.handleTouch
    (touching : ui.Touching nowMs finger)
    {reading : TouchReading}
    {driver : TouchDriver}
    {event : TouchEvent}
    (polled : ui.touch.pollEvent nowMs reading = (driver, .event event))
    (taps : List Tap) :
    ∃ finger,
      ({ ui with touch := driver }.handleTouch nowMs event taps).Touching
        nowMs finger := by
  obtain ⟨touched, swallow, touch, awake, activity⟩ :=
    handleTouch_touched { ui with touch := driver } nowMs event taps
  generalize
    { ui with touch := driver }.handleTouch nowMs event taps = handled at *
  have swallows := touching.swallows
  have gestures := touching.gestures
  have isDown := touching.isDown
  simp only [swallows] at touched swallow
  rcases ui.touch.pollEvent_cases nowMs reading with
    ⟨-, failed⟩ | ⟨-, nothing, -⟩ | ⟨point, down, result⟩ | ⟨point, result⟩
  · rw [polled] at failed
    cases failed
  · rw [polled] at nothing
    cases nothing
  · rw [polled] at result
    cases result
    rw [down] at isDown
    obtain ⟨dispatched, rfl⟩ := Option.isSome_iff_exists.mp isDown
    have wasAwake : ui.power.asleep = false := touching.awake rfl
    rw [wasAwake] at touched swallow
    have released :
        touchWakeTransition false (some dispatched == some false) .released =
          { woke := false
            dispatch := dispatched
            swallowActive := false } := by
      cases dispatched <;> rfl
    rw [released] at touched swallow
    refine ⟨none, ⟨?_, ?_, swallow, nofun, nofun, activity.le⟩⟩
    · rw [touched]
      exact .release gestures
    · rw [touch]
      rfl
  · rw [polled] at result
    cases result
    cases finger with
    | none =>
        have noFinger : ui.touch.last.isNone = true := by
          rw [Option.isNone_iff_eq_none]
          exact Option.not_isSome_iff_eq_none.mp (isDown ▸ nofun)
        simp only [noFinger, if_true] at touched swallow
        have pressed :
            ∀ asleep,
              touchWakeTransition asleep (none == some false) .pressed =
                { woke := asleep
                  dispatch := !asleep
                  swallowActive := asleep } := by
          intro asleep
          cases asleep <;> rfl
        rw [pressed] at touched swallow
        refine
          ⟨some !ui.power.asleep,
            ⟨?_, ?_, ?_, fun _ => awake, fun _ => ?_, activity.le⟩⟩
        · rw [touched]
          exact .press _ gestures
        · rw [touch]
          rfl
        · rw [swallow]
          cases ui.power.asleep <;> rfl
        · rw [touch, activity]
    | some dispatched =>
        have wasAwake : ui.power.asleep = false := touching.awake rfl
        have someFinger : ui.touch.last.isNone = false := by
          rw [← Option.not_isSome, ← isDown]
          rfl
        simp only [someFinger, wasAwake, Bool.false_eq_true, if_false]
          at touched swallow
        have moved :
            touchWakeTransition false (some dispatched == some false)
                .moved =
              { woke := false
                dispatch := dispatched
                swallowActive := some dispatched == some false } := by
          cases dispatched <;> rfl
        rw [moved] at touched swallow
        refine
          ⟨some dispatched,
            ⟨?_, ?_, swallow, fun _ => awake, fun _ => ?_, activity.le⟩⟩
        · rw [touched]
          exact .move gestures
        · rw [touch]
          rfl
        · rw [touch, activity]

/-- A screen that wakes without a touch had no finger on it. -/
theorem Touching.wakeScreen
    (touching : ui.Touching nowMs finger)
    (asleep : ui.power.asleep = true) :
    (ui.wakeScreen nowMs).Touching nowMs finger := by
  have noFinger : finger = none := by
    cases finger with
    | none =>
        rfl
    | some dispatched =>
        rw [touching.awake rfl] at asleep
        cases asleep
  subst noFinger
  exact
    ⟨touching.gestures, touching.isDown, touching.swallows, nofun, nofun,
      Nat.le_refl nowMs⟩

/-- A key or a move of the trackball. -/
theorem Touching.key
    (touching : ui.Touching nowMs finger)
    (app : UiApp) :
    (if ui.power.asleep then
        ui.wakeScreen nowMs
      else
        let noted :=
          { ui with power := { ui.power with lastActivityMs := nowMs } }
        if ui.lock.locked then noted
        else { noted with app := app }).Touching nowMs finger := by
  split
  · rename_i asleep
    exact touching.wakeScreen asleep
  · simp only
    split
    · exact
        touching.untouched (Nat.le_refl nowMs)
          ⟨rfl, rfl, rfl, rfl, .inr rfl⟩
    · exact
        touching.untouched (Nat.le_refl nowMs)
          ⟨rfl, rfl, rfl, rfl, .inr rfl⟩

/-- The inputs of a turn. -/
theorem Touching.takeInputs
    {turn : UiTurn}
    (touching : ui.Touching turn.nowMs finger) :
    ∃ finger, (ui.takeInputs turn).Touching turn.nowMs finger := by
  refine
    @takeInputs_induction (fun ui => ∃ finger, ui.Touching turn.nowMs finger)
      turn ?_ ?_ ?_ ?_ ui ⟨finger, touching⟩
  · rintro after reading driver event taps ⟨_, holds⟩ polled -
    exact holds.handleTouch polled taps
  · rintro after byte draft - ⟨later, holds⟩
    exact ⟨later, holds.key (after.app.key byte draft)⟩
  · rintro after driver ⟨later, holds⟩
    exact
      ⟨later,
        holds.untouched (Nat.le_refl _) (.same rfl rfl rfl rfl)⟩
  · rintro after showContacts event ⟨later, holds⟩
    exact ⟨later, holds.key (after.app.roll showContacts event)⟩

/-- No finger is down, or one was reported not long ago. -/
def Fresh
    (ui : UiRuntime)
    (nowMs : Nat) :
    Prop :=
  ui.touch.last = none ∨
    nowMs < ui.touch.lastUpdateMs + silenceReleaseDebounceMs ∨
    ui.power.lastActivityMs = nowMs

/-- The touches of a turn are taken until the finger is lifted or reported. -/
theorem fresh_pollTouches
    (ui : UiRuntime)
    (nowMs budget : Nat)
    {touches : List (TouchReading × List Tap)}
    (reads : ∀ touch ∈ touches, touch.1.Reads) :
    (ui.pollTouches nowMs (budget + 1) touches).Fresh nowMs := by
  have activity :
      ∀ (ui : UiRuntime) event taps rest,
        UiRuntime.Fresh
          ((ui.handleTouch nowMs event taps).pollTouches nowMs budget rest)
          nowMs := by
    intro ui event taps rest
    refine .inr (.inr ?_)
    refine
      @pollTouches_induction (fun ui => ui.power.lastActivityMs = nowMs)
        nowMs rest ?_ budget _ ?_
    · intro ui reading driver event taps _ _ _
      exact (handleTouch_touched _ nowMs event taps).2.2.2.2
    · exact (handleTouch_touched ui nowMs event taps).2.2.2.2
  have firstReads : (touches.head?.getD (.quiet, [])).1.Reads := by
    cases touches with
    | nil =>
        exact TouchReading.reads_quiet
    | cons first rest =>
        exact reads first List.mem_cons_self
  unfold pollTouches
  generalize touches.head?.getD (.quiet, []) = first at firstReads ⊢
  obtain ⟨reading, taps⟩ := first
  simp only
  rcases ui.touch.pollEvent_cases nowMs reading with
    ⟨-, failed⟩ | ⟨same, nothing, quiet⟩ | ⟨point, -, result⟩ |
      ⟨point, result⟩
  · exact absurd failed (ui.touch.pollEvent_reads nowMs firstReads)
  · rw [nothing, same]
    rcases quiet with up | silent
    · exact .inl up
    · exact .inr (.inl silent)
  · rw [result]
    exact activity _ _ taps touches.tail
  · rw [result]
    exact activity _ _ taps touches.tail

/-- Keys and the trackball are activity of their own. -/
theorem Fresh.takeKeys
    {turn : UiTurn}
    (fresh : ui.Fresh turn.nowMs) :
    (ui.takeKeys turn).Fresh turn.nowMs := by
  have key :
      ∀ (ui : UiRuntime) app,
        UiRuntime.Fresh
          (if ui.power.asleep then
            ui.wakeScreen turn.nowMs
          else
            let noted :=
              { ui with
                power := { ui.power with lastActivityMs := turn.nowMs } }
            if ui.lock.locked then noted
            else { noted with app := app })
          turn.nowMs := by
    intro ui app
    split
    · exact .inr (.inr rfl)
    · simp only
      split
      · exact .inr (.inr rfl)
      · exact .inr (.inr rfl)
  refine
    @takeKeys_induction (fun ui => ui.Fresh turn.nowMs) turn ?_ ?_ ?_ ui fresh
  · exact fun ui byte draft _ _ => key ui (ui.app.key byte draft)
  · exact fun ui driver fresh => fresh
  · exact fun ui showContacts event _ =>
      key ui (ui.app.roll showContacts event)

/-- The end of a turn leaves the touches. -/
theorem touched_afterInputs
    (ui : UiRuntime)
    (nowMs : Nat) :
    (ui.afterInputs nowMs).touched = ui.touched ∧
      (ui.afterInputs nowMs).touch = ui.touch ∧
      (ui.afterInputs nowMs).touchWakeSwallowActive =
        ui.touchWakeSwallowActive := by
  have idled :
      (ui.idleChecks nowMs).touched = ui.touched ∧
        (ui.idleChecks nowMs).touch = ui.touch ∧
        (ui.idleChecks nowMs).touchWakeSwallowActive =
          ui.touchWakeSwallowActive := by
    unfold idleChecks
    split
    · obtain ⟨lock, lockShown, lockDigits, front, result⟩ :=
        tripLock_eq
          { ui with
            power :=
              ui.power.idle ui.hardware.takes nowMs
                ui.app.settings.screenSleepTimeoutS }
          nowMs
      rw [result]
      exact ⟨rfl, rfl, rfl⟩
    · exact ⟨rfl, rfl, rfl⟩
  obtain ⟨lockShown, lockDigits, front, result⟩ :=
    ((ui.idleChecks nowMs).syncLights nowMs).reassertLock_eq
  have after :
      ui.afterInputs nowMs =
        ((ui.idleChecks nowMs).syncLights nowMs).reassertLock :=
    rfl
  rw [after, result]
  exact idled

/-- The end of a turn leaves a screen awake under a finger. -/
theorem Touching.endTurn
    (touching : ui.Touching nowMs finger)
    (fresh : ui.Fresh nowMs) :
    (ui.afterInputs nowMs).Touching nowMs finger := by
  obtain ⟨touched, touch, swallows⟩ := ui.touched_afterInputs nowMs
  obtain ⟨isIdle, activity⟩ := ui.afterInputs_power nowMs
  refine
    { gestures := touched.symm ▸ touching.gestures
      isDown := touch.symm ▸ touching.isDown
      swallows := swallows.trans touching.swallows
      awake := ?_
      updated := ?_
      clock := activity.symm ▸ touching.clock }
  · intro isDown
    have updated := touching.updated isDown
    rw [isIdle]
    refine idle_of_recent (touching.awake isDown) ?_ _ _
    rcases fresh with up | silent | isNow
    · rw [touching.isDown, up] at isDown
      cases isDown
    · rw [silenceReleaseDebounceMs] at silent
      omega
    · omega
  · intro isDown
    rw [activity]
    exact touch.symm ▸ touching.updated isDown

/-- A turn in which the controller is read. -/
theorem Touching.step
    (touching : ui.Touching earlierMs finger)
    (expand : String → String)
    {turn : UiTurn}
    (ordered : earlierMs ≤ turn.nowMs)
    (reads : ∀ touch ∈ turn.touches, touch.1.Reads) :
    ∃ finger, (ui.step expand turn).Touching turn.nowMs finger := by
  have before :=
    touching.untouched ordered (untouched_beforeInputs expand ui turn)
  obtain ⟨later, taken⟩ := before.takeInputs
  have fresh :
      ((ui.beforeInputs expand turn).takeInputs turn).Fresh turn.nowMs :=
    Fresh.takeKeys (fresh_pollTouches _ turn.nowMs 7 reads)
  exact ⟨later, taken.endTurn fresh⟩

/-- The touches over a run. -/
theorem touching_run
    {expand : String → String}
    {isProvisioned : Bool}
    {turns : List UiTurn}
    (ordered : InOrder turns)
    (reads : ∀ turn ∈ turns, ∀ touch ∈ turn.touches, touch.1.Reads) :
    ∃ finger,
      (run expand isProvisioned turns).Touching (lastMs turns) finger := by
  induction turns using List.reverseRecOn with
  | nil =>
      exact
        ⟨none, .empty, rfl, rfl, nofun, nofun, Nat.le_refl 0⟩
  | append_singleton turns turn inductionHypothesis =>
      obtain ⟨earlier, later⟩ := ordered.init
      obtain ⟨finger, touching⟩ :=
        inductionHypothesis earlier fun turn member =>
          reads turn (List.mem_append_left _ member)
      rw [run_concat, lastMs_concat]
      exact
        touching.step expand later
          (reads turn (List.mem_append_right _ (List.mem_singleton_self _)))

/-- In every run in which the controller is read, gestures are handed on or swallowed
as a whole, the screen is awake under a finger, and what is handed on are presses,
moves and releases in their order. -/
theorem gestures_whole
    {expand : String → String}
    {isProvisioned : Bool}
    {turns : List UiTurn}
    (ordered : InOrder turns)
    (reads : ∀ turn ∈ turns, ∀ touch ∈ turn.touches, touch.1.Reads) :
    ∃ finger,
      Gestures (run expand isProvisioned turns).touched finger ∧
        finger.isSome =
          (run expand isProvisioned turns).touch.last.isSome ∧
        (finger.isSome →
          (run expand isProvisioned turns).power.asleep = false) ∧
        WholeGestures
          (dispatchedKinds (run expand isProvisioned turns).touched)
          (finger.getD false) := by
  obtain ⟨finger, touching⟩ :=
    @touching_run expand isProvisioned turns ordered reads
  exact
    ⟨finger, touching.gestures, touching.isDown, touching.awake,
      touching.gestures.wholeGestures⟩

/-- A seed with the settings of a new device and nothing else. -/
def plainSeed : UiBootSeed :=
  { rooms := []
    contacts := []
    channels := []
    conversations := []
    oneRegionEach := List.nodup_nil
    pin := Vector.replicate 16 0
    pinLen := 0
    lockPin := Vector.replicate 4 0
    lockPinLen := 0
    runtimeSettings := RuntimeSettingsStore.defaultEnabled }

/-- A turn with touches only. -/
def touchTurn
    (nowMs : Nat)
    (touches : List (TouchReading × List Tap)) :
    UiTurn :=
  { nowMs := nowMs
    input := .timeout
    commandsTaken := false
    touches := touches
    keys := []
    trackball := none }

/-- A frame with a finger. -/
def fingerDown : TouchReading :=
  { status := some 0x81
    cleared := true
    point := some #v[10, 0, 20, 0, 1, 0] }

/-- A finger on a screen that sleeps, its release in silence, and another finger. -/
def twoFingers : List UiTurn :=
  [touchTurn 0 [], touchTurn 40000 [],
    touchTurn 40500 [(fingerDown, [.settings])],
    touchTurn 40600 [(.quiet, [.settings])],
    touchTurn 40700 [(fingerDown, [.settings])]]

/-- The first of two fingers is swallowed, and the second is handed on. -/
theorem gestures_whole_twoFingers :
    (∃ finger,
      Gestures (run id true twoFingers).touched finger ∧
        finger.isSome = (run id true twoFingers).touch.last.isSome ∧
        (finger.isSome →
          (run id true twoFingers).power.asleep = false) ∧
        WholeGestures (dispatchedKinds (run id true twoFingers).touched)
          (finger.getD false)) ∧
      (run id true twoFingers).touched =
        [{ kind := .pressed
           asleep := true
           dispatched := false },
          { kind := .released
            asleep := false
            dispatched := false },
          { kind := .pressed
            asleep := false
            dispatched := true }] := by
  refine ⟨gestures_whole ?_ ?_, by decide +kernel⟩
  · simp [InOrder, twoFingers, touchTurn]
  · have down : fingerDown.Reads := ⟨0x81, rfl, fun _ => ⟨rfl, fun _ => rfl⟩⟩
    simp [twoFingers, touchTurn, down, TouchReading.reads_quiet]

end UiRuntime

end MeshCadet
