import MeshCadet.UiMenu

namespace MeshCadet

/-!
# What a locked device lets through

While the lock is on and its PIN is not entered, nobody who touches the screen, types
or rolls has any influence on the application: what happens is what would happen if
the device lay there untouched.  This rests on what a screen asked for being opened
before the lock can come on, and on a screen of the lock that can be made.
-/

open RuntimeSettingsStore

namespace UiApp

/-- The turn dismisses the splash. -/
def dismissesSplash
    (app : UiApp)
    (turn : UiTurn) :
    Bool :=
  ((app.receive turn).startSplash turn.nowMs).splashIsOver turn.nowMs

end UiApp

namespace UiRuntime

variable {ui : UiRuntime} {expand : String → String}

/-- An event does not take the lock away. -/
theorem locked_handleEvent
    (ui : UiRuntime)
    (nowMs : Nat)
    (event : UiTaskEvent)
    (locked : ui.lock.locked = true) :
    (ui.handleEvent nowMs event).lock.locked = true ∧
      (ui.handleEvent nowMs event).front = ui.front := by
  unfold UiRuntime.handleEvent
  cases event with
  | bootSeed seed =>
      simp only
      split
      · simp only [tripLock]
        split
        · exact ⟨locked, rfl⟩
        · rename_i unlocked
          exact absurd locked unlocked
      · exact ⟨locked, rfl⟩
  | conversation event =>
      simp only
      split
      · exact ⟨locked, rfl⟩
      · exact ⟨locked, rfl⟩
  | _ => exact ⟨locked, rfl⟩

/-- Events do not take the lock away. -/
theorem locked_handleEvents
    (nowMs : Nat)
    (input : LoopInput)
    (locked : ui.lock.locked = true) :
    (ui.handleEvents nowMs input).lock.locked = true ∧
      (ui.handleEvents nowMs input).front = ui.front := by
  refine
    @handleEvents_induction
      (fun after => after.lock.locked = true ∧ after.front = ui.front) nowMs
      input ui ⟨locked, rfl⟩ ?_ (fun _ holds => holds)
  rintro after event - ⟨isLocked, front⟩
  obtain ⟨stays, stayFront⟩ := after.locked_handleEvent nowMs event isLocked
  exact ⟨stays, stayFront.trans front⟩

/-- The inputs of a turn land on the lock: it is in front, or nothing is touched. -/
theorem locked_takeInputs
    (turn : UiTurn)
    (locked : ui.lock.locked = true)
    (covered : ui.front = .lock ∨ turn.touches = []) :
    (ui.takeInputs turn).app = ui.app ∧
      (ui.takeInputs turn).lock = ui.lock := by
  have taps :
      ∀ (taps : List Tap) (after : UiRuntime),
        after.app = ui.app ∧ after.lock = ui.lock ∧
            after.front = ui.front →
          (turn.touches = [] → taps = []) →
            (taps.foldl UiRuntime.tap after).app = ui.app ∧
              (taps.foldl UiRuntime.tap after).lock = ui.lock ∧
              (taps.foldl UiRuntime.tap after).front = ui.front := by
    intro taps
    induction taps with
    | nil =>
        exact fun _ holds _ => holds
    | cons tap rest inductionHypothesis =>
        intro after holds within
        have isCovered : after.front = .lock := by
          rcases covered with front | none
          · exact holds.2.2.trans front
          · exact absurd (within none) (List.cons_ne_nil tap rest)
        refine inductionHypothesis _ ?_ fun none =>
          absurd (within none) (List.cons_ne_nil tap rest)
        have onLock : after.tap tap = after.lockTap tap := by
          unfold UiRuntime.tap
          rw [isCovered]
        rw [onLock]
        cases tap <;> exact holds
  have all :
      (ui.takeInputs turn).app = ui.app ∧
        (ui.takeInputs turn).lock = ui.lock ∧
        (ui.takeInputs turn).front = ui.front := by
    refine
      @takeInputs_induction
        (fun after =>
          after.app = ui.app ∧ after.lock = ui.lock ∧
            after.front = ui.front)
        turn ?_ ?_ ?_ ?_ ui ⟨rfl, rfl, rfl⟩
    · intro after reading driver event landed holds _ within
      rcases handleTouch_cases { after with touch := driver } turn.nowMs
          event landed with
        ⟨-, result⟩ | ⟨-, -, result⟩ | ⟨-, -, result⟩
      · rw [result]
        exact holds
      · rw [result]
        exact holds
      · rw [result]
        exact taps landed _ holds within
    · intro after byte draft _ holds
      unfold handleKey
      split
      · exact holds
      · simp only
        rw [if_pos (holds.2.1 ▸ locked)]
        exact holds
    · exact fun after driver holds => holds
    · intro after showContacts event holds
      unfold handleRoll
      split
      · exact holds
      · simp only
        rw [if_pos (holds.2.1 ▸ locked)]
        exact holds
  exact ⟨all.1, all.2.1⟩

/-- Nothing waits to be opened. -/
def Calm
    (app : UiApp) :
    Prop :=
  app.pendingNav = none ∧ app.deferredNavAtMs = none

/-- When nothing waits to be opened, only the end of the splash opens a screen. -/
theorem front_openScreens
    (calm : Calm ui.app)
    (expand : String → String)
    (nowMs : Nat) :
    (ui.openScreens expand nowMs).front = ui.front ∨
      (ui.app.startSplash nowMs).splashIsOver nowMs = true := by
  obtain ⟨silent, notDeferred⟩ := calm
  cases isOver : (ui.app.startSplash nowMs).splashIsOver nowMs with
  | true =>
      exact .inr rfl
  | false =>
      have splashed :
          ∀ made,
            ui.app.splashTurn nowMs made =
              (ui.app.startSplash nowMs, none) := by
        intro made
        unfold UiApp.splashTurn
        simp only [isOver, Bool.false_eq_true, if_false]
      have startSilent : (ui.app.startSplash nowMs).pendingNav = none :=
        silent
      have startNotDeferred :
          (ui.app.startSplash nowMs).deferredNavAtMs = none :=
        notDeferred
      refine .inl ?_
      simp only [openScreens, navigate, splashed, opened, UiApp.navTurn,
        startSilent, UiApp.deferredTurn, startNotDeferred, Option.any_none,
        Bool.false_eq_true, if_false]

/-- Digits that are refused leave the lock on. -/
theorem confirmLock_refused
    {nowMs : Nat}
    (locked : ui.lock.locked = true)
    (refused : ui.lock.accepts nowMs ui.pendingLockConfirm = false) :
    (ui.confirmLock nowMs).lock.locked = true ∧
      (ui.confirmLock nowMs).front = ui.front := by
  have stays :
      (ui.lock.step
          { nowMs := nowMs
            action := .turn ui.pendingLockConfirm }).locked =
        true := by
    rw [LockScreen.locked_turn, locked, refused]
    rfl
  unfold confirmLock
  cases isDigits : ui.pendingLockConfirm with
  | none =>
      rw [isDigits] at stays
      exact ⟨stays, rfl⟩
  | some digits =>
      rw [isDigits] at stays
      simp only
      split
      · exact ⟨stays, rfl⟩
      · rename_i allowed
        split
        · exact ⟨stays, rfl⟩
        · rename_i right
          rw [isDigits, LockScreen.accepts, Option.any_some,
            not_not.mp allowed, not_not.mp right] at refused
          cases refused

/-- Opening screens leaves the lock, the digits that were confirmed and the hardware. -/
theorem openScreens_lock
    (expand : String → String)
    (ui : UiRuntime)
    (nowMs : Nat) :
    (ui.openScreens expand nowMs).lock = ui.lock ∧
      (ui.openScreens expand nowMs).pendingLockConfirm =
        ui.pendingLockConfirm ∧
      (ui.openScreens expand nowMs).hardware = ui.hardware := by
  unfold openScreens navigate
  simp only
  split <;> exact ⟨rfl, rfl, rfl⟩

/-- Receiving and starting the clock leave the lock. -/
theorem startClock_lock
    (ui : UiRuntime)
    (turn : UiTurn) :
    ((ui.receive turn).startClock turn.nowMs).lock = ui.lock ∧
      ((ui.receive turn).startClock turn.nowMs).pendingLockConfirm =
        ui.pendingLockConfirm ∧
      ((ui.receive turn).startClock turn.nowMs).front = ui.front := by
  unfold startClock
  split <;> exact ⟨rfl, rfl, rfl⟩

/-- Before the inputs of a turn the lock is on and in front, unless the splash is
dismissed. -/
theorem locked_beforeInputs
    {turn : UiTurn}
    (locked : ui.lock.locked = true)
    (front : ui.front = .lock)
    (calm : Calm ui.app)
    (refused : ui.lock.accepts turn.nowMs ui.pendingLockConfirm = false)
    (expand : String → String) :
    (ui.beforeInputs expand turn).lock.locked = true ∧
      ((ui.beforeInputs expand turn).front = .lock ∨
        ui.app.dismissesSplash turn = true) := by
  obtain ⟨sameLock, sameDigits, sameFront⟩ := ui.startClock_lock turn
  obtain ⟨started, received⟩ := ui.receive_app turn
  have startedCalm :
      Calm ((ui.receive turn).startClock turn.nowMs).app := by
    rw [startClock_app, received]
    exact calm
  have opened := front_openScreens startedCalm expand turn.nowMs
  obtain ⟨openedLock, openedDigits, -⟩ :=
    openScreens_lock expand ((ui.receive turn).startClock turn.nowMs)
      turn.nowMs
  rw [sameFront, startClock_app] at opened
  rw [sameLock] at openedLock
  rw [sameDigits] at openedDigits
  unfold beforeInputs
  generalize
    ((ui.receive turn).startClock turn.nowMs).openScreens expand
      turn.nowMs = opening at *
  rw [← openedLock, ← openedDigits] at refused
  obtain ⟨confirmed, confirmedFront⟩ :=
    confirmLock_refused (openedLock ▸ locked) refused
  have synced :
      (opening.confirmLock turn.nowMs).syncNotifPrefs.lock.locked = true :=
    confirmed
  obtain ⟨stays, stayFront⟩ :=
    locked_handleEvents turn.nowMs turn.input synced
  refine ⟨stays, ?_⟩
  rcases opened with same | isOver
  · exact .inl (stayFront.trans (confirmedFront.trans (same.trans front)))
  · exact .inr isOver

/-- An event leaves the hardware. -/
theorem hardware_handleEvent
    (ui : UiRuntime)
    (nowMs : Nat)
    (event : UiTaskEvent) :
    (ui.handleEvent nowMs event).hardware = ui.hardware := by
  unfold UiRuntime.handleEvent
  cases event with
  | bootSeed seed =>
      simp only
      split
      · obtain ⟨lock, lockShown, lockDigits, front, result⟩ :=
          tripLock_eq _ nowMs
        rw [result]
      · rfl
  | conversation event =>
      simp only
      split <;> rfl
  | _ => rfl

/-- The digits that are confirmed on the lock leave the hardware. -/
theorem hardware_confirmLock
    (ui : UiRuntime)
    (nowMs : Nat) :
    (ui.confirmLock nowMs).hardware = ui.hardware := by
  unfold confirmLock
  split
  · rfl
  · split
    · rfl
    · split
      · rfl
      · simp only
        split <;> rfl

/-- A turn is on the hardware that it comes with. -/
theorem hardware_beforeInputs
    (expand : String → String)
    (ui : UiRuntime)
    (turn : UiTurn) :
    (ui.beforeInputs expand turn).hardware = turn.hardware := by
  obtain ⟨-, -, opened⟩ :=
    openScreens_lock expand ((ui.receive turn).startClock turn.nowMs)
      turn.nowMs
  refine
    @handleEvents_induction (fun after => after.hardware = turn.hardware)
      turn.nowMs turn.input _ ?_ ?_ (fun _ holds => holds)
  · exact
      (hardware_confirmLock _ turn.nowMs).trans
        (opened.trans (ui.startClock_hardware turn))
  · intro after event _ holds
    exact (after.hardware_handleEvent turn.nowMs event).trans holds

/-- The inputs and the end of a turn leave its hardware. -/
theorem hardware_idleChecks
    (ui : UiRuntime)
    (turn : UiTurn) :
    ((ui.takeInputs turn).idleChecks turn.nowMs).hardware =
      ui.hardware := by
  have idled :
      ∀ ui : UiRuntime,
        (ui.idleChecks turn.nowMs).hardware = ui.hardware := by
    intro ui
    unfold idleChecks
    split
    · obtain ⟨lock, lockShown, lockDigits, front, result⟩ :=
        tripLock_eq
          { ui with
            power :=
              ui.power.idle ui.hardware.takes turn.nowMs
                ui.app.settings.screenSleepTimeoutS }
          turn.nowMs
      rw [result]
    · rfl
  refine (idled _).trans ?_
  refine
    @takeInputs_induction (fun after => after.hardware = ui.hardware) turn
      ?_ ?_ ?_ ?_ ui rfl
  · intro after reading driver event taps holds _ _
    rcases handleTouch_cases { after with touch := driver } turn.nowMs event
        taps with
      ⟨-, result⟩ | ⟨-, -, result⟩ | ⟨-, -, result⟩
    · rw [result]
      exact holds
    · rw [result]
      exact holds
    · obtain ⟨app, digits, confirm, -, results⟩ := taps_eq _ taps
      rw [result, results]
      exact holds
  · intro after byte draft _ holds
    unfold handleKey
    split
    · exact holds
    · simp only
      split <;> exact holds
  · exact fun after driver holds => holds
  · intro after showContacts event holds
    unfold handleRoll
    split
    · exact holds
    · simp only
      split <;> exact holds

end UiRuntime

end MeshCadet
