import MeshCadet.UiGestures
import MeshCadet.UiLockGate

namespace MeshCadet

/-!
# The lock over runs

When the lock comes on, nothing that a screen asked for waits to be opened: whoever
asked was active just then, and a draft that was sent returns to its conversation
long before the time without input is over.  So nothing opens under the lock but the
screen after the splash, and no touch reaches the application until the PIN is
entered.
-/

open RuntimeSettingsStore

/-- The longest time from one turn to the next. -/
def maxTurnGapMs : Nat :=
  14550

namespace UiApp

/-- A tap keeps the settings within their bounds. -/
theorem inRange_tap
    {app : UiApp}
    (inRange : RuntimeSettingsStore.InRange app.settings)
    (tap : Tap) :
    RuntimeSettingsStore.InRange (app.tap tap).settings := by
  unfold UiApp.tap
  split
  · cases tap <;> exact inRange
  · cases tap <;> exact inRange
  · cases tap with
    | menu row => exact inRange.applyMenuAction (app.menu.tap row).2
    | _ => exact inRange
  · cases tap <;> exact inRange
  · cases tap <;> exact inRange
  · split <;> exact inRange
  all_goals exact inRange

/-- The trackball keeps the settings within their bounds. -/
theorem inRange_roll
    {app : UiApp}
    (inRange : RuntimeSettingsStore.InRange app.settings)
    (showContacts : Bool)
    (event : TrackballEvent) :
    RuntimeSettingsStore.InRange (app.roll showContacts event).settings := by
  rcases app.roll_cases showContacts event with ⟨tap, result⟩ | ⟨_, _, result⟩
  · rw [result]
    exact inRange_tap inRange tap
  · rw [result]
    exact inRange

end UiApp

namespace UiRuntime

/-- A turn of a device that is used as intended: the screen of the lock can be made, a
seed has settings within their bounds and does not come while a draft is on the screen,
and nothing is touched in the turn that dismisses a splash over the lock. -/
structure Ordinary
    (ui : UiRuntime)
    (turn : UiTurn) :
    Prop where
  lockOn : turn.hardware.constructs .lockOn = .shown
  lockAgain : turn.hardware.constructs .lockAgain = .shown
  seeds :
    ∀ seed,
      UiTaskEvent.bootSeed seed ∈ turn.input.events →
        ui.app.screen ≠ .compose ∧
          RuntimeSettingsStore.InRange seed.runtimeSettings
  splash :
    ui.lock.locked = true → ui.app.dismissesSplash turn = true →
      turn.touches = []

/-- What holds of the application and the clock throughout a run: nothing waits to be
opened under the lock, and what waits was asked for when the device was last used. -/
structure Covered
    (ui : UiRuntime)
    (nowMs : Nat) :
    Prop where
  inRange : RuntimeSettingsStore.InRange ui.app.settings
  calm : ui.lock.locked = true → Calm ui.app
  asked : ui.app.pendingNav.isSome → ui.power.lastActivityMs = nowMs
  deferred :
    ∀ atMs,
      ui.app.deferredNavAtMs = some atMs →
        nowMs < atMs ∧
          atMs ≤ ui.power.lastActivityMs + maxTurnGapMs + sendNavDeferMs
  clock : ui.power.lastActivityMs ≤ nowMs

/-- What holds of the lock throughout a run. -/
structure Guarded
    (ui : UiRuntime)
    (nowMs : Nat) :
    Prop
    extends Covered ui nowMs where
  sound : ui.app.Sound False
  lights : ∃ since, ui.Lights (fun _ => False) nowMs since
  posted : ui.app.posted = []
  front : ui.lock.locked = true → ui.front = .lock

variable {ui : UiRuntime} {expand : String → String} {earlierMs : Nat}

/-- What a touch, a key or the trackball keeps: the lock, the bounds of the settings,
and the time of what is asked for. -/
structure Noted
    (before after : UiRuntime)
    (nowMs : Nat) :
    Prop where
  lock : after.lock = before.lock
  inRange : RuntimeSettingsStore.InRange after.app.settings
  asked : after.app.pendingNav.isSome → after.power.lastActivityMs = nowMs
  activity :
    after.power.lastActivityMs = before.power.lastActivityMs ∨
      after.power.lastActivityMs = nowMs

/-- Taps keep the lock and the bounds of the settings. -/
theorem inRange_taps
    (inRange : RuntimeSettingsStore.InRange ui.app.settings)
    (taps : List Tap) :
    RuntimeSettingsStore.InRange (taps.foldl UiRuntime.tap ui).app.settings ∧
      (taps.foldl UiRuntime.tap ui).lock = ui.lock ∧
      (taps.foldl UiRuntime.tap ui).power = ui.power := by
  induction taps generalizing ui with
  | nil =>
      exact ⟨inRange, rfl, rfl⟩
  | cons tap rest inductionHypothesis =>
      have tapped :
          RuntimeSettingsStore.InRange (ui.tap tap).app.settings ∧
            (ui.tap tap).lock = ui.lock ∧
            (ui.tap tap).power = ui.power := by
        unfold UiRuntime.tap
        split
        · exact ⟨UiApp.inRange_tap inRange tap, rfl, rfl⟩
        · cases tap <;> exact ⟨inRange, rfl, rfl⟩
        · exact ⟨inRange, rfl, rfl⟩
      obtain ⟨restRange, restLock, restPower⟩ :=
        inductionHypothesis tapped.1
      exact
        ⟨restRange, restLock.trans tapped.2.1,
          restPower.trans tapped.2.2⟩

/-- A key or a move of the trackball is noted. -/
theorem Noted.key
    {after : UiRuntime}
    {nowMs : Nat}
    (noted : Noted ui after nowMs)
    (app : UiApp)
    (inRange : RuntimeSettingsStore.InRange app.settings) :
    Noted ui
      (if after.power.asleep then
        after.wakeScreen nowMs
      else
        let noted :=
          { after with
            power := { after.power with lastActivityMs := nowMs } }
        if after.lock.locked then noted
        else { noted with app := app })
      nowMs := by
  split
  · exact ⟨noted.lock, noted.inRange, fun _ => rfl, .inr rfl⟩
  · simp only
    split
    · exact ⟨noted.lock, noted.inRange, fun _ => rfl, .inr rfl⟩
    · exact ⟨noted.lock, inRange, fun _ => rfl, .inr rfl⟩

/-- The inputs of a turn are noted. -/
theorem noted_takeInputs
    {turn : UiTurn}
    (inRange : RuntimeSettingsStore.InRange ui.app.settings)
    (silent : ui.app.pendingNav = none) :
    Noted ui (ui.takeInputs turn) turn.nowMs := by
  refine
    @takeInputs_induction (fun after => Noted ui after turn.nowMs) turn
      ?_ ?_ ?_ ?_ ui
      ⟨rfl, inRange, fun asked => ?_, .inl rfl⟩
  · intro after reading driver event taps noted _ _
    have activity :=
      (handleTouch_touched { after with touch := driver } turn.nowMs event
        taps).2.2.2.2
    rcases handleTouch_cases { after with touch := driver } turn.nowMs event
        taps with
      ⟨-, result⟩ | ⟨-, -, result⟩ | ⟨-, -, result⟩
    · rw [result]
      exact ⟨noted.lock, noted.inRange, fun _ => rfl, .inr rfl⟩
    · rw [result]
      exact ⟨noted.lock, noted.inRange, fun _ => rfl, .inr rfl⟩
    · rw [result] at activity ⊢
      obtain ⟨tapped, lock, -⟩ :=
        @inRange_taps
          ({ after with touch := driver }.noteTouch turn.nowMs event.kind
            { woke := false
              dispatch := true
              swallowActive := false })
          noted.inRange taps
      exact
        ⟨lock.trans noted.lock, tapped, fun _ => activity, .inr activity⟩
  · intro after byte draft _ noted
    refine noted.key (after.app.key byte draft) ?_
    rw [UiApp.settings_key]
    exact noted.inRange
  · exact fun after driver noted =>
      ⟨noted.lock, noted.inRange, noted.asked, noted.activity⟩
  · intro after showContacts event noted
    exact
      noted.key (after.app.roll showContacts event)
        (UiApp.inRange_roll noted.inRange showContacts event)
  · rw [silent] at asked
    cases asked

/-- Events keep the settings within their bounds. -/
theorem inRange_handleEvents
    {nowMs : Nat}
    {input : LoopInput}
    (inRange : RuntimeSettingsStore.InRange ui.app.settings)
    (seeds :
      ∀ seed,
        UiTaskEvent.bootSeed seed ∈ input.events →
          RuntimeSettingsStore.InRange seed.runtimeSettings) :
    RuntimeSettingsStore.InRange (ui.handleEvents nowMs input).app.settings := by
  refine
    @handleEvents_induction
      (fun after => RuntimeSettingsStore.InRange after.app.settings) nowMs
      input ui inRange ?_ (fun _ holds => holds)
  intro after event isEvent holds
  rw [handleEvent_app]
  cases event with
  | bootSeed seed =>
      rcases isEvent with received | ⟨_, isPosted⟩
      · exact seeds seed received
      · cases isPosted
  | lockConfigChanged lockFlags lockTimeoutS =>
      exact
        (holds.applyMenuAction (.setLockFlags lockFlags)).applyMenuAction
          (.setLockTimeout lockTimeoutS)
  | _ => exact holds

/-- A lock that comes on is in front, if its screen can be made. -/
theorem front_tripLock
    {nowMs : Nat}
    (unlocked : ui.lock.locked = false)
    (notShown : ui.lockShown = false)
    (lockOn : ui.hardware.constructs .lockOn = .shown) :
    (ui.tripLock nowMs).front = .lock := by
  unfold tripLock constructLockScreen
  rw [if_neg (Bool.eq_false_iff.mp unlocked)]
  simp only [notShown, lockOn, Bool.false_eq_true, if_false]

/-- Only a seed locks a device, and then the lock is in front. -/
theorem unlocked_handleEvent
    {nowMs : Nat}
    {event : UiTaskEvent}
    (unlocked : ui.lock.locked = false)
    (notShown : ui.lockShown = false)
    (lockOn : ui.hardware.constructs .lockOn = .shown)
    (locked : (ui.handleEvent nowMs event).lock.locked = true) :
    (ui.handleEvent nowMs event).front = .lock ∧
      ∃ seed, event = .bootSeed seed := by
  have stays : ui.lock.locked ≠ true := Bool.eq_false_iff.mp unlocked
  unfold UiRuntime.handleEvent at locked ⊢
  cases event with
  | bootSeed seed =>
      simp only at locked ⊢
      split
      · exact ⟨front_tripLock unlocked notShown lockOn, seed, rfl⟩
      · rename_i disabled
        rw [if_neg disabled] at locked
        exact absurd locked stays
  | conversation event =>
      simp only at locked
      split at locked
      · exact absurd locked stays
      · exact absurd locked stays
  | _ => exact absurd locked stays

/-- Only a seed locks a device, and then the lock is in front. -/
theorem unlocked_handleEvents
    {nowMs : Nat}
    {since : Option Nat}
    {input : LoopInput}
    (lights : ui.Lights (fun _ => False) nowMs since)
    (lockOn : ui.hardware.constructs .lockOn = .shown)
    (unlocked : ui.lock.locked = false)
    (locked : (ui.handleEvents nowMs input).lock.locked = true) :
    (ui.handleEvents nowMs input).front = .lock ∧
      ∃ seed, UiTaskEvent.bootSeed seed ∈ input.events := by
  have holds :
      (∃ since,
          (ui.handleEvents nowMs input).Lights (fun _ => False) nowMs
            since) ∧
        (ui.handleEvents nowMs input).hardware = ui.hardware ∧
        ((ui.handleEvents nowMs input).lock.locked = true →
          (ui.handleEvents nowMs input).front = .lock ∧
            ∃ seed, UiTaskEvent.bootSeed seed ∈ input.events) := by
    refine
      @handleEvents_induction
        (fun after =>
          (∃ since, after.Lights (fun _ => False) nowMs since) ∧
            after.hardware = ui.hardware ∧
            (after.lock.locked = true →
              after.front = .lock ∧
                ∃ seed, UiTaskEvent.bootSeed seed ∈ input.events))
        nowMs input ui ?_ ?_ ?_
    · exact
        ⟨⟨since, lights.same rfl rfl rfl rfl rfl rfl⟩, rfl,
          fun isLocked =>
            absurd isLocked (Bool.eq_false_iff.mp unlocked)⟩
    · rintro after event isEvent ⟨⟨earlier, lit⟩, hardware, before⟩
      refine
        ⟨⟨_, lit.handleEvent event⟩,
          (after.hardware_handleEvent nowMs event).trans hardware, ?_⟩
      intro isLocked
      cases already : after.lock.locked with
      | true =>
          obtain ⟨front, seeded⟩ := before already
          exact
            ⟨(after.locked_handleEvent nowMs event already).2.trans front,
              seeded⟩
      | false =>
          -- Without a lock there is no screen of it, and one is made.
          have notShown : after.lockShown = false := by
            cases isShown : after.lockShown with
            | true =>
                exact absurd (lit.covers isShown)
                  (Bool.eq_false_iff.mp already)
            | false =>
                rfl
          obtain ⟨front, seed, rfl⟩ :=
            unlocked_handleEvent already notShown (hardware ▸ lockOn)
              isLocked
          rcases isEvent with received | ⟨_, isPosted⟩
          · exact ⟨front, seed, received⟩
          · cases isPosted
    · rintro after ⟨⟨later, lit⟩, hardware, front⟩
      exact ⟨⟨later, lit.same rfl rfl rfl rfl rfl rfl⟩, hardware, front⟩
  exact holds.2.2 locked

/-- The inputs and the end of a turn, when what was asked for is opened and the lock,
if it is on, covers it. -/
theorem covered_endTurn
    {turn : UiTurn}
    (inRange : RuntimeSettingsStore.InRange ui.app.settings)
    (silent : ui.app.pendingNav = none)
    (deferred :
      ∀ atMs,
        ui.app.deferredNavAtMs = some atMs →
          turn.nowMs < atMs ∧
            atMs ≤ ui.power.lastActivityMs + maxTurnGapMs + sendNavDeferMs)
    (clock : ui.power.lastActivityMs ≤ turn.nowMs)
    (covered :
      ui.lock.locked = true →
        (ui.front = .lock ∨ turn.touches = []) ∧ Calm ui.app) :
    ((ui.takeInputs turn).afterInputs turn.nowMs).Covered turn.nowMs := by
  have noted := @noted_takeInputs ui turn inRange silent
  have answered := ui.answered_takeInputs turn
  obtain ⟨app, -, lock⟩ := (ui.takeInputs turn).afterInputs_eq turn.nowMs
  obtain ⟨-, activity⟩ := (ui.takeInputs turn).afterInputs_power turn.nowMs
  obtain ⟨-, -, idleLocked⟩ := (ui.takeInputs turn).idleChecks_eq turn.nowMs
  have atMost :
      ui.power.lastActivityMs ≤
          (ui.takeInputs turn).power.lastActivityMs ∧
        (ui.takeInputs turn).power.lastActivityMs ≤ turn.nowMs := by
    rcases noted.activity with same | isNow
    · omega
    · omega
  have stillDeferred :
      ∀ atMs,
        (ui.takeInputs turn).app.deferredNavAtMs = some atMs →
          turn.nowMs < atMs ∧
            atMs ≤
              (ui.takeInputs turn).power.lastActivityMs + maxTurnGapMs +
                sendNavDeferMs := by
    intro atMs isDeferred
    rw [answered.deferred] at isDeferred
    have waits := deferred atMs isDeferred
    omega
  refine
    { inRange := app ▸ noted.inRange
      calm := ?_
      asked := ?_
      deferred := ?_
      clock := ?_ }
  · intro locked
    rw [app]
    rw [lock, idleLocked, noted.lock] at locked
    cases isLocked : ui.lock.locked with
    | true =>
        obtain ⟨landsOnLock, calm⟩ := covered isLocked
        rw [(locked_takeInputs turn isLocked landsOnLock).1]
        exact calm
    | false =>
        -- Whoever asked was active just now, and a draft returns before the timeout.
        rw [isLocked, Bool.false_or] at locked
        simp only [idleLockDue, Bool.and_eq_true, decide_eq_true_eq]
          at locked
        have timeout :
            15 ≤ (ui.takeInputs turn).app.settings.lockTimeoutS.toNat :=
          UInt16.le_iff_toNat_le.mp noted.inRange.lockTimeoutMin
        have isLong := locked.2
        constructor
        · cases isAsked : (ui.takeInputs turn).app.pendingNav with
          | none =>
              rfl
          | some nav =>
              have isNow := noted.asked (isAsked ▸ rfl)
              omega
        · cases isDeferred : (ui.takeInputs turn).app.deferredNavAtMs with
          | none =>
              rfl
          | some atMs =>
              have waits := stillDeferred atMs isDeferred
              rw [maxTurnGapMs, sendNavDeferMs] at waits
              omega
  · rw [app, activity]
    exact noted.asked
  · rw [app, activity]
    exact stillDeferred
  · rw [activity]
    exact atMost.2

/-- A lock that is on is in front after the inputs and the end of a turn. -/
theorem front_endTurn
    {turn : UiTurn}
    (lockAgain : ui.hardware.constructs .lockAgain = .shown)
    (locked :
      ((ui.takeInputs turn).afterInputs turn.nowMs).lock.locked = true) :
    ((ui.takeInputs turn).afterInputs turn.nowMs).front = .lock := by
  rw [(afterInputs_eq _ turn.nowMs).2.2] at locked
  obtain ⟨front, shown⟩ :=
    @front_reassertLock
      (((ui.takeInputs turn).idleChecks turn.nowMs).syncLights turn.nowMs)
      locked
  refine front (shown ?_)
  change
    ((ui.takeInputs turn).idleChecks turn.nowMs).hardware.constructs
        .lockAgain =
      .shown
  rw [ui.hardware_idleChecks turn]
  exact lockAgain

/-- What a turn has opened before its inputs. -/
theorem Guarded.opened
    (guarded : ui.Guarded earlierMs)
    (expand : String → String)
    {turn : UiTurn}
    (ordered : earlierMs ≤ turn.nowMs)
    (gap :
      turn.nowMs ≤ earlierMs + maxTurnGapMs ∨ ui.app.pendingNav = none) :
    (ui.beforeInputs expand turn).app.pendingNav = none ∧
      (ui.beforeInputs expand turn).power.lastActivityMs ≤ turn.nowMs ∧
      (∀ atMs,
        (ui.beforeInputs expand turn).app.deferredNavAtMs = some atMs →
          turn.nowMs < atMs ∧
            atMs ≤
              (ui.beforeInputs expand turn).power.lastActivityMs +
                  maxTurnGapMs +
                sendNavDeferMs) ∧
      (ui.app.screen ≠ .compose ∨ Calm ui.app →
        Calm (ui.beforeInputs expand turn).app) := by
  obtain ⟨started, received⟩ := ui.receive_app turn
  have receivedSound :
      ((ui.receive turn).startClock turn.nowMs).app.Sound False := by
    rw [startClock_app, received]
    refine guarded.sound.same rfl rfl rfl ?_ rfl rfl id
    split <;> rfl
  obtain ⟨opened, silent, -, -, waits⟩ :=
    receivedSound.openScreens expand turn.nowMs turn.hardware
  have isOpened :
      (((ui.receive turn).startClock turn.nowMs).openScreens expand
            turn.nowMs).app =
        ((ui.receive turn).startClock turn.nowMs).app.openScreens expand
          turn.nowMs turn.hardware.constructs := by
    rw [openScreens_app, startClock_hardware]
  rw [← isOpened] at opened silent waits
  rw [startClock_app, received] at waits
  have confirmed :
      (UiRuntime.confirmLock
            (((ui.receive turn).startClock turn.nowMs).openScreens expand
              turn.nowMs)
            turn.nowMs).syncNotifPrefs.app =
        (((ui.receive turn).startClock turn.nowMs).openScreens expand
          turn.nowMs).app :=
    confirmLock_app _ turn.nowMs
  rw [← confirmed] at opened silent waits
  obtain ⟨-, -, asked, deferred, -, -⟩ :=
    sound_handleEvents opened turn.nowMs turn.input
  have activity := (untouched_beforeInputs expand ui turn).activity
  have clock := guarded.clock
  have sameDeferred :
      (ui.beforeInputs expand turn).app.deferredNavAtMs = _ :=
    deferred
  refine ⟨asked.trans silent, ?_, ?_, ?_⟩
  · omega
  · intro atMs isDeferred
    obtain ⟨later, ⟨isSend, isAt⟩ | before⟩ :=
      waits atMs (sameDeferred.symm.trans isDeferred)
    · have isNow := guarded.asked (isSend ▸ rfl)
      have close : turn.nowMs ≤ earlierMs + maxTurnGapMs := by
        rcases gap with close | none
        · exact close
        · rw [none] at isSend
          cases isSend
      omega
    · have bound := (guarded.deferred atMs before).2
      omega
  · intro settled
    refine ⟨asked.trans silent, ?_⟩
    cases isDeferred :
        (ui.beforeInputs expand turn).app.deferredNavAtMs with
    | none =>
        rfl
    | some atMs =>
        -- Only a draft is sent, and only one that was sent returns.
        obtain ⟨-, ⟨isSend, -⟩ | before⟩ :=
          waits atMs (sameDeferred.symm.trans isDeferred)
        · rcases settled with elsewhere | ⟨none, -⟩
          · exact absurd (guarded.sound.asked .send isSend) elsewhere
          · rw [none] at isSend
            cases isSend
        · rcases settled with elsewhere | ⟨-, notDeferred⟩
          · exact absurd (guarded.sound.deferred (before ▸ rfl)) elsewhere
          · rw [notDeferred] at before
            cases before

/-- The lock before the inputs of a turn, when it was off or its PIN is entered. -/
theorem Guarded.unlocked_beforeInputs
    (guarded : ui.Guarded earlierMs)
    {turn : UiTurn}
    (ordered : earlierMs ≤ turn.nowMs)
    (lockOn : turn.hardware.constructs .lockOn = .shown)
    (unlocked :
      ui.lock.locked = false ∨
        ui.lock.accepts turn.nowMs ui.pendingLockConfirm = true)
    (expand : String → String)
    (locked : (ui.beforeInputs expand turn).lock.locked = true) :
    (ui.beforeInputs expand turn).front = .lock ∧
      ∃ seed, UiTaskEvent.bootSeed seed ∈ turn.input.events := by
  obtain ⟨since, lights⟩ := guarded.lights
  obtain ⟨started, -⟩ :=
    (lights.later ordered).startClock (fun _ => False.elim)
  obtain ⟨opened, -⟩ := started.openScreens expand
  obtain ⟨confirmed, -⟩ := opened.confirmLock
  obtain ⟨sameLock, sameDigits, -⟩ := ui.startClock_lock turn
  obtain ⟨openedLock, openedDigits, sameHardware⟩ :=
    openScreens_lock expand ((ui.receive turn).startClock turn.nowMs)
      turn.nowMs
  rw [startClock_hardware] at sameHardware
  rw [sameLock] at openedLock
  rw [sameDigits] at openedDigits
  unfold beforeInputs at locked ⊢
  generalize
    ((ui.receive turn).startClock turn.nowMs).openScreens expand
      turn.nowMs = opening at *
  have lockAfter :
      (opening.confirmLock turn.nowMs).lock =
        opening.lock.step
          { nowMs := turn.nowMs
            action := .turn opening.pendingLockConfirm } := by
    unfold confirmLock
    split
    · rename_i none
      rw [none]
    · rename_i digits isDigits
      rw [isDigits]
      split
      · rfl
      · split
        · rfl
        · simp only
          split <;> rfl
  have isUnlocked :
      (opening.confirmLock turn.nowMs).syncNotifPrefs.lock.locked =
        false := by
    change (opening.confirmLock turn.nowMs).lock.locked = false
    rw [lockAfter, LockScreen.locked_turn, openedLock, openedDigits]
    rcases unlocked with off | accepted
    · rw [off, Bool.false_and]
    · rw [accepted, Bool.not_true, Bool.and_false]
  have stillLockOn :
      (opening.confirmLock turn.nowMs).syncNotifPrefs.hardware.constructs
          .lockOn =
        .shown := by
    change (opening.confirmLock turn.nowMs).hardware.constructs .lockOn = _
    rw [hardware_confirmLock, sameHardware]
    exact lockOn
  exact
    unlocked_handleEvents (confirmed.same rfl rfl rfl rfl rfl rfl)
      stillLockOn isUnlocked locked

/-- A turn keeps the guard. -/
theorem Guarded.step
    (guarded : ui.Guarded earlierMs)
    (expand : String → String)
    {turn : UiTurn}
    (ordinary : ui.Ordinary turn)
    (ordered : earlierMs ≤ turn.nowMs)
    (gap :
      turn.nowMs ≤ earlierMs + maxTurnGapMs ∨ ui.app.pendingNav = none) :
    (ui.step expand turn).Guarded turn.nowMs := by
  obtain ⟨silent, clock, deferred, staysCalm⟩ :=
    guarded.opened expand ordered gap
  obtain ⟨since, lights⟩ := guarded.lights
  have inRange :
      RuntimeSettingsStore.InRange
        (ui.beforeInputs expand turn).app.settings := by
    refine inRange_handleEvents ?_ fun seed member =>
      (ordinary.seeds seed member).2
    change
      RuntimeSettingsStore.InRange
        (UiRuntime.confirmLock _ turn.nowMs).app.settings
    rw [confirmLock_app, (ui.opened_turn expand turn).settings]
    exact guarded.inRange
  have ended : (ui.step expand turn).Covered turn.nowMs := by
    refine covered_endTurn inRange silent deferred clock ?_
    intro locked
    by_cases off :
        ui.lock.locked = false ∨
          ui.lock.accepts turn.nowMs ui.pendingLockConfirm = true
    · obtain ⟨front, seed, member⟩ :=
        guarded.unlocked_beforeInputs ordered ordinary.lockOn off expand
          locked
      exact
        ⟨.inl front, staysCalm (.inl (ordinary.seeds seed member).1)⟩
    · obtain ⟨on, refused⟩ := not_or.mp off
      have wasLocked : ui.lock.locked = true := Bool.of_not_eq_false on
      have calm := guarded.calm wasLocked
      obtain ⟨-, front⟩ :=
        locked_beforeInputs wasLocked (guarded.front wasLocked) calm
          (Bool.eq_false_iff.mpr refused) expand
      exact
        ⟨front.imp id (ordinary.splash wasLocked), staysCalm (.inr calm)⟩
  have lockAgain :
      (ui.beforeInputs expand turn).hardware.constructs .lockAgain =
        .shown := by
    rw [hardware_beforeInputs]
    exact ordinary.lockAgain
  exact
    { ended with
      sound := (sound_step guarded.sound expand turn).1.mono False.elim
      lights :=
        ⟨_, (lights.step guarded.posted expand (fun _ => False.elim)
          ordered).1⟩
      posted := ui.posted_step expand turn
      front := front_endTurn lockAgain }

/-- A run of a device that is used as intended, with turns that are not too far
apart. -/
structure OrdinaryRun
    (expand : String → String)
    (isProvisioned : Bool)
    (turns : List UiTurn) :
    Prop where
  ordered : InOrder turns
  close :
    turns.IsChain fun earlier later =>
      later.nowMs ≤ earlier.nowMs + maxTurnGapMs
  ordinary :
    ∀ earlier turn,
      earlier ++ [turn] <+: turns →
        (run expand isProvisioned earlier).Ordinary turn

variable {isProvisioned : Bool}

/-- The turns before others are as intended. -/
theorem OrdinaryRun.prefix
    {turns rest : List UiTurn}
    (ordinary : OrdinaryRun expand isProvisioned (turns ++ rest)) :
    OrdinaryRun expand isProvisioned turns where
  ordered := (List.isChain_append.mp ordinary.ordered).1
  close := (List.isChain_append.mp ordinary.close).1
  ordinary := fun earlier turn isPrefix =>
    ordinary.ordinary earlier turn
      (isPrefix.trans (List.prefix_append turns rest))

/-- Somebody reaches for the settings. -/
def reaches : UiTurn :=
  touchTurn 2600 [(fingerDown, [.settings])]

end UiRuntime

end MeshCadet
