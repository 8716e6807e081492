import Mathlib.Data.List.Chain
import MeshCadet.TouchDriver
import MeshCadet.UiScreens

namespace MeshCadet

/-!
# The turn of the interface

Each turn opens the screen that was asked for, takes a PIN that was confirmed on the
lock screen, handles events, drains touches, keys and the trackball, and then decides
from the time without input whether to dim the light, to sleep and to lock.  The
lights are set by one arbiter each, which writes only what changed.  What the display
and the keyboard refuse to take is not tried again.
-/

open RuntimeSettingsStore

/-- The screens on which touches land: those of the application, the lock, or none
when a screen was made and could not be shown. -/
inductive Front where
  | app
  | lock
  | nothing
deriving Repr, DecidableEq

/-- What the inactivity of some time calls for. -/
inductive ScreenIdleAction where
  | awake
  | dim
  | sleep
deriving Repr, DecidableEq

/-- How long before it sleeps the screen is dimmed. -/
def dimLeadMs : Nat :=
  3000

/-- Awake, dimmed or asleep after some time without input; zero means never. -/
def screenIdleAction
    (elapsedMs : Nat)
    (timeoutS : UInt8)
    (dimLeadMs : Nat) :
    ScreenIdleAction :=
  if timeoutS = 0 then
    .awake
  else
    let timeoutMs := timeoutS.toNat * 1000
    if timeoutMs ≤ elapsedMs then
      .sleep
    else if timeoutMs - min dimLeadMs timeoutMs ≤ elapsedMs then
      .dim
    else
      .awake

/-- The brightness of a dimmed screen, a quarter but never dark. -/
def dimBrightnessPct
    (configuredPct : UInt8) :
    UInt8 :=
  UInt8.ofNat (max (configuredPct.toNat * 25 / 100) 1)

/-- The lock is due after some time without input. -/
def idleLockDue
    (lockEnabled alreadyLocked : Bool)
    (nowMs lastActivityMs : Nat)
    (lockTimeoutS : UInt16) :
    Bool :=
  lockEnabled && !alreadyLocked &&
    lockTimeoutS.toNat * 1000 ≤ nowMs - lastActivityMs

/-- The wait for the next turn: short while the screen is awake, longer while it
sleeps. -/
def nextTickPeriodMs
    (screenAsleep blinkActive : Bool)
    (awakeTickMs asleepIdleTickMs asleepBlinkTickMs : Nat) :
    Nat :=
  if ¬ screenAsleep then
    awakeTickMs
  else if blinkActive then
    asleepBlinkTickMs
  else
    asleepIdleTickMs

/-- The screen lock is on. -/
def lockEnabled
    (settings : RuntimeSettings) :
    Bool :=
  settings.lockFlags &&& lockScreenEnable ≠ 0

/-- The most touches or keys that one turn takes. -/
def maxInputEventsPerStep : Nat :=
  8

/-- Levels of the trackball's lines, and when each last fired. -/
structure TrackballDriver where
  lastHigh : TrackballEvent → Bool
  lastFireMs : TrackballEvent → Nat

namespace TrackballDriver

/-- The least time between two reports of a line. -/
def debounceMs : Nat :=
  60

/-- Nothing was reported yet. -/
def new : TrackballDriver :=
  { lastHigh := fun _ => true
    lastFireMs := fun _ => 0 }

/-- Read lines until one has fallen and is not bouncing. -/
def pollSignals
    (driver : TrackballDriver)
    (nowMs : Nat)
    (isLow : TrackballEvent → Bool) :
    List TrackballEvent → TrackballDriver × Option TrackballEvent
  | [] => (driver, none)
  | signal :: rest =>
      let wasHigh := driver.lastHigh signal
      let read :=
        { driver with
          lastHigh :=
            Function.update driver.lastHigh signal (!isLow signal) }
      if isLow signal ∧ wasHigh ∧
          debounceMs ≤ nowMs - driver.lastFireMs signal then
        ({ read with
            lastFireMs := Function.update driver.lastFireMs signal nowMs },
          some signal)
      else
        read.pollSignals nowMs isLow rest

/-- Read the lines; the first that falls is reported. -/
def poll
    (driver : TrackballDriver)
    (nowMs : Nat)
    (isLow : TrackballEvent → Bool) :
    TrackballDriver × Option TrackballEvent :=
  driver.pollSignals nowMs isLow [.click, .up, .down, .left, .right]

end TrackballDriver

/-- The bundle that the interface starts with. -/
structure UiBootSeed extends BootSeed where
  pin : Vector UInt8 16
  pinLen : UInt8
  lockPin : Vector UInt8 4
  lockPinLen : UInt8
  runtimeSettings : RuntimeSettings

/-- Events from the dispatcher.  The marks that acknowledgements leave on bubbles
are those of the threads of direct messages. -/
inductive UiTaskEvent where
  | bootSeed (seed : UiBootSeed)
  | lockConfigChanged (lockFlags : UInt8) (lockTimeoutS : UInt16)
  | lockPinChanged (lockPin : Vector UInt8 4) (lockPinLen : UInt8)
  | conversation (event : ConversationEvent)
  | dmAcked
  | dmUndelivered
  | dmQueued
  | channelAcked

/-- What the loop waits for before a turn. -/
inductive LoopInput where
  | appReady (startMs : Nat)
  | event (event : UiTaskEvent)
  | timeout

/-- The event that the loop waited for. -/
def LoopInput.events : LoopInput → List UiTaskEvent
  | .event received => [received]
  | _ => []

/-- The writes of a turn: the commands to the controller of the panel, the duty of its
light, and the light of the keyboard. -/
inductive UiWrite where
  | sleepOut
  | displayOn
  | displayOff
  | sleepIn
  | wakeDuty
  | sleepDuty
  | syncDuty
  | keyboardLight
deriving Repr, DecidableEq

/-- What becomes of the screens of a turn, and which writes are taken.  A keyboard that
is not there takes none. -/
structure UiHardware where
  constructs : ScreenPlace → Construction
  takes : UiWrite → Bool

/-- Every screen is shown, and every write is taken. -/
def UiHardware.willing : UiHardware :=
  { constructs := fun _ => .shown
    takes := fun _ => true }

/-- A byte from the keyboard, with the draft on the screen when it is handled. -/
inductive KeyReading where
  | failed
  | byte (byte : UInt8) (draft : String)
deriving Repr, DecidableEq

/-- One turn: its time, what the loop waited for, whether the dispatcher took the
commands before it, the polls of the touch controller with the taps that each touch
sets off, the bytes of the keyboard, the lines of the trackball with the tab of the
contact list, and what the hardware makes of it. -/
structure UiTurn where
  nowMs : Nat
  input : LoopInput
  commandsTaken : Bool
  touches : List (TouchReading × List Tap)
  keys : List KeyReading
  trackball : Option ((TrackballEvent → Bool) × Bool)
  hardware : UiHardware := .willing

/-- The power of the screen and the lights: what the arbiters take to be written, and
what the hardware has. -/
structure ScreenPower where
  asleep : Bool
  lastActivityMs : Nat
  activityClockStarted : Bool
  dimApplied : Bool
  kbBacklightOn : Bool
  backlightBrightnessApplied : UInt8
  panelAsleep : Bool
  displayOn : Bool
  brightness : UInt8
  keyboardLit : Bool
deriving Repr, DecidableEq

namespace ScreenPower

/-- Everything is lit. -/
def new : ScreenPower :=
  { asleep := false
    lastActivityMs := 0
    activityClockStarted := false
    dimApplied := false
    kbBacklightOn := true
    backlightBrightnessApplied := backlightBrightnessDefaultPct
    panelAsleep := false
    displayOn := true
    brightness := backlightBrightnessMaxPct
    keyboardLit := true }

/-- Set the duty of the backlight, if it is taken. -/
def setBrightness
    (power : ScreenPower)
    (taken : Bool)
    (percent : UInt8) :
    ScreenPower :=
  { power with
    brightness :=
      if taken then min percent backlightBrightnessMaxPct
      else power.brightness }

/-- Bring the controller out of its sleep, and then switch the display on. -/
def wakePanel
    (power : ScreenPower)
    (takes : UiWrite → Bool) :
    ScreenPower :=
  { power with
    panelAsleep := if takes .sleepOut then false else power.panelAsleep
    displayOn :=
      if takes .sleepOut && takes .displayOn then true
      else power.displayOn }

/-- Switch the display off, and then put the controller to sleep. -/
def sleepPanel
    (power : ScreenPower)
    (takes : UiWrite → Bool) :
    ScreenPower :=
  { power with
    displayOn := if takes .displayOff then false else power.displayOn
    panelAsleep :=
      if takes .displayOff && takes .sleepIn then true
      else power.panelAsleep }

/-- Wake the panel and light it as configured; the screen counts as awake whatever was
taken. -/
def wake
    (power : ScreenPower)
    (takes : UiWrite → Bool)
    (configured : UInt8)
    (nowMs : Nat) :
    ScreenPower :=
  let lit := (power.wakePanel takes).setBrightness (takes .wakeDuty) configured
  { lit with
    backlightBrightnessApplied := configured
    dimApplied := false
    asleep := false
    lastActivityMs := nowMs }

/-- Darken the panel and put it to sleep; the screen counts as asleep whatever was
taken. -/
def sleep
    (power : ScreenPower)
    (takes : UiWrite → Bool) :
    ScreenPower :=
  let dark := (power.setBrightness (takes .sleepDuty) 0).sleepPanel takes
  { dark with
    asleep := true
    dimApplied := false }

/-- Dim the screen or sleep after some time without input. -/
def idle
    (power : ScreenPower)
    (takes : UiWrite → Bool)
    (nowMs : Nat)
    (timeoutS : UInt8) :
    ScreenPower :=
  if power.asleep then
    power
  else
    match screenIdleAction (nowMs - power.lastActivityMs) timeoutS dimLeadMs with
    | .sleep => power.sleep takes
    | .dim => { power with dimApplied := true }
    | .awake => { power with dimApplied := false }

/-- The light of the keyboard is written when it changes, and counts as written. -/
def syncKeyboard
    (power : ScreenPower)
    (takes : UiWrite → Bool)
    (lit : Bool) :
    ScreenPower :=
  if lit ≠ power.kbBacklightOn then
    { power with
      keyboardLit :=
        if takes .keyboardLight then lit else power.keyboardLit
      kbBacklightOn := lit }
  else
    power

/-- The brightness of a screen that is awake is written when it changes, and counts as
written. -/
def syncBrightness
    (power : ScreenPower)
    (takes : UiWrite → Bool)
    (configured : UInt8) :
    ScreenPower :=
  if power.asleep then
    power
  else
    let desired :=
      if power.dimApplied then dimBrightnessPct configured else configured
    if desired ≠ power.backlightBrightnessApplied then
      { power.setBrightness (takes .syncDuty) desired with
        backlightBrightnessApplied := desired }
    else
      power

end ScreenPower

/-- The notification of an event in a conversation. -/
def ConversationEvent.notif : ConversationEvent → Option NotifEvent
  | .incomingDm _ _ _ => some .incomingDm
  | .incomingGroupMsg _ _ => some .incomingGroupMsg
  | .roomPostLive _ _ => some .incomingGroupMsg
  | .roomDrainComplete _ _ => some .incomingGroupMsg
  | .telemetryResponse _ _ => some .telemetryResponse
  | _ => none

/-- The interface.  The field `hardware` is that of the turn, and the last field records
the touches that were reported. -/
structure UiRuntime where
  app : UiApp
  hardware : UiHardware
  lock : LockScreen
  lockShown : Bool
  lockDigits : List UInt8
  pendingLockConfirm : Option (List UInt8)
  front : Front
  notif : NotifDispatcher
  touch : TouchDriver
  touchWakeSwallowActive : Bool
  trackball : TrackballDriver
  power : ScreenPower
  touched : List TouchEntry

namespace LockScreen

/-- The digits that were confirmed take the lock away. -/
def accepts
    (screen : LockScreen)
    (nowMs : Nat)
    (digits : Option (List UInt8)) :
    Bool :=
  digits.any fun digits =>
    unlockAttemptAllowed nowMs screen.lockoutStartedMs screen.lockoutS &&
      verifyLockPin digits screen.storedPin screen.storedPinLen

/-- A turn takes the lock away exactly when the digits are accepted. -/
theorem locked_turn
    (screen : LockScreen)
    (nowMs : Nat)
    (digits : Option (List UInt8)) :
    (screen.step
        { nowMs := nowMs
          action := .turn digits }).locked =
      (screen.locked && !screen.accepts nowMs digits) := by
  have counted :
      ∀ screen : LockScreen,
        (screen.countDown nowMs).locked = screen.locked := by
    intro screen
    unfold countDown
    split <;> rfl
  cases digits with
  | none =>
      exact (counted _).trans (Bool.and_true _).symm
  | some digits =>
      refine (counted _).trans ?_
      simp only [accepts, Option.any_some, confirm]
      split
      · rename_i allowed
        rw [allowed, Bool.true_and]
        cases verifyLockPin digits screen.storedPin screen.storedPinLen with
        | true =>
            simp only [attemptUnlock, if_true, unlock, Bool.not_true,
              Bool.and_false]
            split
            · rfl
            · rename_i unlocked
              exact Bool.eq_false_iff.mpr unlocked
        | false =>
            exact (Bool.and_true _).symm
      · rename_i refused
        rw [Bool.eq_false_iff.mpr refused]
        exact (Bool.and_true _).symm

end LockScreen

namespace UiApp

/-- The dispatcher takes the commands, and the splash's animation runs when the
device is ready. -/
def receive
    (app : UiApp)
    (turn : UiTurn) :
    UiApp :=
  let rippled :=
    match turn.input with
    | .appReady startMs => app.runSplashRipple startMs
    | _ => app
  if turn.commandsTaken then
    { rippled with convo := rippled.convo.takeCommands }
  else
    rippled

/-- What an event does to the application. -/
def handleEvent
    (app : UiApp)
    (nowMs : Nat) :
    UiTaskEvent → UiApp
  | .bootSeed seed =>
      let named :=
        (seed.rooms.foldl (fun ui room => ui.registerRoom room.1 room.2)
          app.convo).registerContacts seed.contacts
      { app with
        convo :=
          (named.setChannels seed.channels).seedConversations
            seed.conversations
        storedPin := seed.pin
        storedPinLen := seed.pinLen
        settings := seed.runtimeSettings }
  | .lockConfigChanged lockFlags lockTimeoutS =>
      { app with
        settings :=
          applyMenuAction (.setLockTimeout lockTimeoutS)
            (applyMenuAction (.setLockFlags lockFlags) app.settings) }
  | .conversation event =>
      { app with
        convo := app.convo.handleEvent (UInt64.ofNat nowMs) event }
  | _ => app

end UiApp

namespace UiRuntime

/-- The interface before its first turn. -/
def new
    (isProvisioned : Bool) :
    UiRuntime :=
  { app := .new isProvisioned
    hardware := .willing
    lock := .boot false (Vector.replicate 4 0) 0
    lockShown := false
    lockDigits := []
    pendingLockConfirm := none
    front := .app
    notif := .new .default
    touch := .new
    touchWakeSwallowActive := false
    trackball := .new
    power := .new
    touched := [] }

/-- A screen of the application that is shown comes to the front. -/
def opened
    (ui : UiRuntime)
    (result : UiApp × Option Construction) :
    UiRuntime :=
  { ui with
    app := result.1
    front :=
      match result.2 with
      | some .shown => .app
      | some .lost => .nothing
      | _ => ui.front }

/-- Notify an event. -/
def fire
    (ui : UiRuntime)
    (nowMs : Nat)
    (event : NotifEvent) :
    UiRuntime :=
  { ui with notif := ui.notif.fire event nowMs ui.power.asleep }

/-- Make the screen of the lock, unless there is one. -/
def constructLockScreen
    (ui : UiRuntime)
    (place : ScreenPlace) :
    UiRuntime :=
  if ui.lockShown then
    ui
  else
    match ui.hardware.constructs place with
    | .shown =>
        { ui with
          lockShown := true
          lockDigits := []
          front := .lock }
    | .refused => ui
    | .lost => { ui with front := .nothing }

/-- Turn the lock on, unless it is on, and put its screen in front.  The lock is on even
if its screen cannot be made. -/
def tripLock
    (ui : UiRuntime)
    (nowMs : Nat) :
    UiRuntime :=
  if ui.lock.locked then
    ui
  else
    constructLockScreen
      { ui with
        lock :=
          ui.lock.step
            { nowMs := nowMs
              action := .trip } }
      .lockOn

/-- Open the screen that was asked for. -/
def navigate
    (expand : String → String)
    (ui : UiRuntime)
    (nowMs : Nat) :
    UiRuntime :=
  let opened :=
    ui.opened (ui.app.navTurn expand nowMs (ui.hardware.constructs .asked))
  match ui.app.pendingNav with
  | some .pinAccepted => opened.fire nowMs .pinSuccess
  | some .pinRejected => opened.fire nowMs .pinError
  | _ => opened

/-- Take the digits that were confirmed on the lock, and count a lockout down. -/
def confirmLock
    (ui : UiRuntime)
    (nowMs : Nat) :
    UiRuntime :=
  let lock :=
    ui.lock.step
      { nowMs := nowMs
        action := .turn ui.pendingLockConfirm }
  let taken := { ui with pendingLockConfirm := none }
  match ui.pendingLockConfirm with
  | none => { taken with lock := lock }
  | some digits =>
      if ¬ unlockAttemptAllowed nowMs ui.lock.lockoutStartedMs
          ui.lock.lockoutS then
        { taken with lock := lock }
      else if ¬ verifyLockPin digits ui.lock.storedPin
          ui.lock.storedPinLen then
        { taken.fire nowMs .pinError with lock := lock }
      else
        let fired := { taken.fire nowMs .pinSuccess with lock := lock }
        if ui.lock.locked then
          { fired with
            lockShown := false
            lockDigits := []
            front := .app
            power := { ui.power with lastActivityMs := nowMs } }
        else
          fired

/-- Handle an event of the dispatcher. -/
def handleEvent
    (ui : UiRuntime)
    (nowMs : Nat)
    (event : UiTaskEvent) :
    UiRuntime :=
  let handled := { ui with app := ui.app.handleEvent nowMs event }
  match event with
  | .bootSeed seed =>
      let seeded :=
        { handled with
          lock :=
            ui.lock.step
              { nowMs := nowMs
                action := .setPin seed.lockPin seed.lockPinLen } }
      if lockEnabled seed.runtimeSettings then
        seeded.tripLock nowMs
      else
        seeded
  | .lockPinChanged lockPin lockPinLen =>
      { handled with
        lock :=
          ui.lock.step
            { nowMs := nowMs
              action := .setPin lockPin lockPinLen } }
  | .conversation event =>
      match event.notif with
      | some notif => handled.fire nowMs notif
      | none => handled
  | .dmAcked => handled.fire nowMs .dmAcked
  | .channelAcked => handled.fire nowMs .channelAcked
  | .lockConfigChanged _ _ | .dmUndelivered | .dmQueued => handled

/-- The preferences follow the switches of the menu. -/
def syncNotifPrefs
    (ui : UiRuntime) :
    UiRuntime :=
  { ui with
    notif :=
      { ui.notif with
        prefs :=
          .fromProvisioningDefaults ui.app.settings.notifVisual
            ui.app.settings.notifAudible } }

/-- Handle the event the loop waited for and what was posted, and play the tones. -/
def handleEvents
    (ui : UiRuntime)
    (nowMs : Nat)
    (input : LoopInput) :
    UiRuntime :=
  let events := input.events ++ ui.app.posted.map .conversation
  let taken := { ui with app := { ui.app with posted := [] } }
  let handled :=
    events.foldl (fun ui event => ui.handleEvent nowMs event) taken
  { handled with notif := handled.notif.takeTones.1 }

/-- Wake the screen. -/
def wakeScreen
    (ui : UiRuntime)
    (nowMs : Nat) :
    UiRuntime :=
  { ui with
    power :=
      ui.power.wake ui.hardware.takes ui.app.settings.backlightBrightness nowMs
    notif := ui.notif.stopBlink }

/-- What a tap does on the lock. -/
def lockTap
    (ui : UiRuntime) :
    Tap → UiRuntime
  | .padDigit digit =>
      { ui with lockDigits := pushPadDigit ui.lockDigits digit }
  | .padBackspace => { ui with lockDigits := ui.lockDigits.dropLast }
  | .padConfirm =>
      { ui with
        pendingLockConfirm := some ui.lockDigits
        lockDigits := [] }
  | _ => ui

/-- A tap lands on what is in front. -/
def tap
    (ui : UiRuntime)
    (tap : Tap) :
    UiRuntime :=
  match ui.front with
  | .app => { ui with app := ui.app.tap tap }
  | .lock => ui.lockTap tap
  | .nothing => ui

/-- A touch is activity, whatever comes of it. -/
def noteTouch
    (ui : UiRuntime)
    (nowMs : Nat)
    (kind : TouchKind)
    (outcome : TouchWakeOutcome) :
    UiRuntime :=
  { ui with
    touchWakeSwallowActive := outcome.swallowActive
    power := { ui.power with lastActivityMs := nowMs }
    touched :=
      ui.touched ++
        [{ kind := kind
           asleep := ui.power.asleep
           dispatched := outcome.dispatch }] }

/-- Handle a touch: it wakes the screen, is swallowed, or sets off taps. -/
def handleTouch
    (ui : UiRuntime)
    (nowMs : Nat)
    (event : TouchEvent)
    (taps : List Tap) :
    UiRuntime :=
  let outcome :=
    touchWakeTransition ui.power.asleep ui.touchWakeSwallowActive event.kind
  let noted := ui.noteTouch nowMs event.kind outcome
  let woken := if outcome.woke then noted.wakeScreen nowMs else noted
  if outcome.dispatch then
    taps.foldl UiRuntime.tap woken
  else
    woken

/-- Take touches until there are none, a poll fails, or there were enough. -/
def pollTouches
    (ui : UiRuntime)
    (nowMs : Nat) :
    Nat → List (TouchReading × List Tap) → UiRuntime
  | 0, _ => ui
  | budget + 1, touches =>
      let (reading, taps) := touches.head?.getD (.quiet, [])
      let (driver, polled) := ui.touch.pollEvent nowMs reading
      let read := { ui with touch := driver }
      match polled with
      | .event event =>
          (read.handleTouch nowMs event taps).pollTouches nowMs budget
            touches.tail
      | .nothing => read
      | .failed => read

/-- Handle a key: it wakes the screen, or goes to a screen that is not locked. -/
def handleKey
    (ui : UiRuntime)
    (nowMs : Nat)
    (byte : UInt8)
    (draft : String) :
    UiRuntime :=
  if ui.power.asleep then
    ui.wakeScreen nowMs
  else
    let noted :=
      { ui with power := { ui.power with lastActivityMs := nowMs } }
    if ui.lock.locked then
      noted
    else
      { noted with app := ui.app.key byte draft }

/-- Take keys until there are none, a poll fails, a screen was asked for, or there
were enough. -/
def pollKeys
    (ui : UiRuntime)
    (nowMs : Nat) :
    Nat → List KeyReading → UiRuntime
  | 0, _ => ui
  | _, [] => ui
  | _, .failed :: _ => ui
  | budget + 1, .byte byte draft :: rest =>
      if byte = 0 then
        ui
      else
        let handled := ui.handleKey nowMs byte draft
        if handled.app.pendingNav.isSome then
          handled
        else
          handled.pollKeys nowMs budget rest

/-- Handle the trackball: it wakes the screen, or moves a screen that is not
locked. -/
def handleRoll
    (ui : UiRuntime)
    (nowMs : Nat)
    (showContacts : Bool)
    (event : TrackballEvent) :
    UiRuntime :=
  if ui.power.asleep then
    ui.wakeScreen nowMs
  else
    let noted :=
      { ui with power := { ui.power with lastActivityMs := nowMs } }
    if ui.lock.locked then
      noted
    else
      { noted with app := ui.app.roll showContacts event }

/-- Read the lines of the trackball. -/
def pollTrackball
    (ui : UiRuntime)
    (nowMs : Nat)
    (lines : Option ((TrackballEvent → Bool) × Bool)) :
    UiRuntime :=
  match lines with
  | none => ui
  | some (isLow, showContacts) =>
      let (driver, event) := ui.trackball.poll nowMs isLow
      let read := { ui with trackball := driver }
      match event with
      | none => read
      | some event => read.handleRoll nowMs showContacts event

/-- Dim, sleep and lock after some time without input. -/
def idleChecks
    (ui : UiRuntime)
    (nowMs : Nat) :
    UiRuntime :=
  let idled :=
    { ui with
      power :=
        ui.power.idle ui.hardware.takes nowMs
          ui.app.settings.screenSleepTimeoutS }
  if idleLockDue (lockEnabled ui.app.settings) ui.lock.locked nowMs
      ui.power.lastActivityMs ui.app.settings.lockTimeoutS then
    idled.tripLock nowMs
  else
    idled

/-- The arbiters write the lights. -/
def syncLights
    (ui : UiRuntime)
    (nowMs : Nat) :
    UiRuntime :=
  let (notif, lit) :=
    if ui.power.asleep then ui.notif.pollBlink nowMs else (ui.notif, true)
  { ui with
    notif := notif
    power :=
      (ui.power.syncKeyboard ui.hardware.takes lit).syncBrightness
        ui.hardware.takes ui.app.settings.backlightBrightness }

/-- The screen of a lock that is on is made if there is none, and put in front again. -/
def reassertLock
    (ui : UiRuntime) :
    UiRuntime :=
  if ui.lock.locked then
    let made := ui.constructLockScreen .lockAgain
    if made.lockShown then { made with front := .lock } else made
  else
    ui

/-- The dispatcher takes the commands, and the splash's animation runs when the
device is ready. -/
def receive
    (ui : UiRuntime)
    (turn : UiTurn) :
    UiRuntime :=
  { ui with
    app := ui.app.receive turn
    hardware := turn.hardware }

/-- The time without input starts with the first turn. -/
def startClock
    (ui : UiRuntime)
    (nowMs : Nat) :
    UiRuntime :=
  if ui.power.activityClockStarted then
    ui
  else
    { ui with
      power :=
        { ui.power with
          lastActivityMs := nowMs
          activityClockStarted := true } }

/-- Dismiss the splash, open the screen that was asked for, and return to the
conversation of a draft. -/
def openScreens
    (expand : String → String)
    (ui : UiRuntime)
    (nowMs : Nat) :
    UiRuntime :=
  let splashed :=
    ui.opened (ui.app.splashTurn nowMs (ui.hardware.constructs .splash))
  let navigated := splashed.navigate expand nowMs
  navigated.opened
    (navigated.app.deferredTurn nowMs (ui.hardware.constructs .afterSend))

/-- What comes before the inputs: screens, the lock, and events. -/
def beforeInputs
    (expand : String → String)
    (ui : UiRuntime)
    (turn : UiTurn) :
    UiRuntime :=
  let opened :=
    ((ui.receive turn).startClock turn.nowMs).openScreens expand turn.nowMs
  ((opened.confirmLock turn.nowMs).syncNotifPrefs).handleEvents turn.nowMs
    turn.input

/-- The keys and the trackball. -/
def takeKeys
    (ui : UiRuntime)
    (turn : UiTurn) :
    UiRuntime :=
  (ui.pollKeys turn.nowMs maxInputEventsPerStep turn.keys).pollTrackball
    turn.nowMs turn.trackball

/-- The inputs: touches, keys and the trackball. -/
def takeInputs
    (ui : UiRuntime)
    (turn : UiTurn) :
    UiRuntime :=
  (ui.pollTouches turn.nowMs maxInputEventsPerStep turn.touches).takeKeys turn

/-- What follows the inputs: the checks of the inactivity, the lights and the lock. -/
def afterInputs
    (ui : UiRuntime)
    (nowMs : Nat) :
    UiRuntime :=
  ((ui.idleChecks nowMs).syncLights nowMs).reassertLock

/-- One turn. -/
def step
    (expand : String → String)
    (ui : UiRuntime)
    (turn : UiTurn) :
    UiRuntime :=
  ((ui.beforeInputs expand turn).takeInputs turn).afterInputs turn.nowMs

/-- A run from the start of the device. -/
def run
    (expand : String → String)
    (isProvisioned : Bool)
    (turns : List UiTurn) :
    UiRuntime :=
  turns.foldl (step expand) (new isProvisioned)

/-- One more turn of a run. -/
theorem run_concat
    (expand : String → String)
    (isProvisioned : Bool)
    (turns : List UiTurn)
    (turn : UiTurn) :
    run expand isProvisioned (turns ++ [turn]) =
      (run expand isProvisioned turns).step expand turn :=
  List.foldl_append

/-- The turns come in the order of their times. -/
def InOrder
    (turns : List UiTurn) :
    Prop :=
  turns.IsChain fun earlier later => earlier.nowMs ≤ later.nowMs

/-- The time of the last turn. -/
def lastMs
    (turns : List UiTurn) :
    Nat :=
  turns.getLast?.elim 0 UiTurn.nowMs

/-- The time of the last turn. -/
@[simp] theorem lastMs_concat
    (turns : List UiTurn)
    (turn : UiTurn) :
    lastMs (turns ++ [turn]) = turn.nowMs := by
  rw [lastMs, List.getLast?_concat]
  rfl

/-- The turns before the last one are in order, and not after it. -/
theorem InOrder.init
    {turns : List UiTurn}
    {turn : UiTurn}
    (ordered : InOrder (turns ++ [turn])) :
    InOrder turns ∧ lastMs turns ≤ turn.nowMs := by
  obtain ⟨earlier, -, close⟩ := List.isChain_append.mp ordered
  refine ⟨earlier, ?_⟩
  unfold lastMs
  cases last : turns.getLast? with
  | none =>
      exact Nat.zero_le _
  | some previous =>
      exact close previous last turn rfl

/-- What receiving changes. -/
theorem receive_app
    (ui : UiRuntime)
    (turn : UiTurn) :
    ∃ splashAnimationStartedMs,
      (ui.receive turn).app =
        { ui.app with
          convo :=
            if turn.commandsTaken then ui.app.convo.takeCommands
            else ui.app.convo
          splashAnimationStartedMs := splashAnimationStartedMs } := by
  have rippled :
      ∀ startMs,
        ∃ splashAnimationStartedMs,
          ui.app.runSplashRipple startMs =
            { ui.app with
              splashAnimationStartedMs := splashAnimationStartedMs } := by
    intro startMs
    unfold UiApp.runSplashRipple
    split
    · exact ⟨ui.app.splashAnimationStartedMs, rfl⟩
    · exact ⟨some startMs, rfl⟩
  unfold receive UiApp.receive
  cases turn.input with
  | appReady startMs =>
      obtain ⟨started, result⟩ := rippled startMs
      simp only [result]
      split
      · exact ⟨started, rfl⟩
      · exact ⟨started, rfl⟩
  | event event =>
      simp only
      split
      · exact ⟨ui.app.splashAnimationStartedMs, rfl⟩
      · exact ⟨ui.app.splashAnimationStartedMs, rfl⟩
  | timeout =>
      simp only
      split
      · exact ⟨ui.app.splashAnimationStartedMs, rfl⟩
      · exact ⟨ui.app.splashAnimationStartedMs, rfl⟩

/-- Starting the clock leaves the application. -/
theorem startClock_app
    (ui : UiRuntime)
    (nowMs : Nat) :
    (ui.startClock nowMs).app = ui.app := by
  unfold startClock
  split
  · rfl
  · rfl

/-- A turn comes with its hardware. -/
theorem startClock_hardware
    (ui : UiRuntime)
    (turn : UiTurn) :
    ((ui.receive turn).startClock turn.nowMs).hardware = turn.hardware := by
  unfold startClock
  split
  · rfl
  · rfl

/-- The screens that a turn opens. -/
theorem openScreens_app
    (expand : String → String)
    (ui : UiRuntime)
    (nowMs : Nat) :
    (ui.openScreens expand nowMs).app =
      ui.app.openScreens expand nowMs ui.hardware.constructs := by
  have navigated :
      ∀ ui : UiRuntime,
        (ui.navigate expand nowMs).app =
          (ui.app.navTurn expand nowMs (ui.hardware.constructs .asked)).1 := by
    intro ui
    unfold navigate
    split <;> rfl
  unfold openScreens
  simp only [opened, navigated]
  rfl

/-- Making the screen of the lock changes what is in front. -/
theorem constructLockScreen_eq
    (ui : UiRuntime)
    (place : ScreenPlace) :
    ∃ lockShown lockDigits front,
      ui.constructLockScreen place =
        { ui with
          lockShown := lockShown
          lockDigits := lockDigits
          front := front } := by
  unfold constructLockScreen
  split
  · exact ⟨ui.lockShown, ui.lockDigits, ui.front, rfl⟩
  · split
    · exact ⟨true, [], .lock, rfl⟩
    · exact ⟨ui.lockShown, ui.lockDigits, ui.front, rfl⟩
    · exact ⟨ui.lockShown, ui.lockDigits, .nothing, rfl⟩

/-- Turning the lock on changes the lock and what is in front. -/
theorem tripLock_eq
    (ui : UiRuntime)
    (nowMs : Nat) :
    ∃ lock lockShown lockDigits front,
      ui.tripLock nowMs =
        { ui with
          lock := lock
          lockShown := lockShown
          lockDigits := lockDigits
          front := front } := by
  unfold tripLock
  split
  · exact ⟨ui.lock, ui.lockShown, ui.lockDigits, ui.front, rfl⟩
  · exact ⟨_, constructLockScreen_eq _ .lockOn⟩

/-- Putting the lock in front again changes what is in front. -/
theorem reassertLock_eq
    (ui : UiRuntime) :
    ∃ lockShown lockDigits front,
      ui.reassertLock =
        { ui with
          lockShown := lockShown
          lockDigits := lockDigits
          front := front } := by
  obtain ⟨lockShown, lockDigits, front, result⟩ :=
    ui.constructLockScreen_eq .lockAgain
  unfold reassertLock
  split
  · simp only [result]
    split
    · exact ⟨lockShown, lockDigits, .lock, rfl⟩
    · exact ⟨lockShown, lockDigits, front, rfl⟩
  · exact ⟨ui.lockShown, ui.lockDigits, ui.front, rfl⟩

/-- The digits that are confirmed on the lock change nothing below it. -/
theorem confirmLock_app
    (ui : UiRuntime)
    (nowMs : Nat) :
    (ui.confirmLock nowMs).app = ui.app := by
  unfold confirmLock
  split
  · rfl
  · split
    · rfl
    · split
      · rfl
      · simp only
        split
        · rfl
        · rfl

/-- What a turn opens keeps the settings and posts refusals only. -/
theorem opened_turn
    (expand : String → String)
    (ui : UiRuntime)
    (turn : UiTurn) :
    ui.app.Opened
      (((ui.receive turn).startClock turn.nowMs).openScreens expand
        turn.nowMs).app := by
  obtain ⟨started, received⟩ := ui.receive_app turn
  have opened :=
    UiApp.opened_openScreens expand (ui.receive turn).app turn.nowMs
      turn.hardware.constructs
  rw [openScreens_app, startClock_hardware, startClock_app]
  rw [received] at opened ⊢
  exact ⟨opened.settings, opened.posted⟩

/-- A tap changes the application or the pad of the lock. -/
theorem tap_eq
    (ui : UiRuntime)
    (tap : Tap) :
    ∃ app digits confirm,
      ui.app.Answered app ∧
        ui.tap tap =
          { ui with
            app := app
            lockDigits := digits
            pendingLockConfirm := confirm } := by
  have stays := UiApp.Answered.refl ui.app
  unfold UiRuntime.tap
  split
  · exact
      ⟨ui.app.tap tap, ui.lockDigits, ui.pendingLockConfirm,
        ui.app.answered_tap tap, rfl⟩
  · cases tap with
    | padDigit digit =>
        exact
          ⟨ui.app, pushPadDigit ui.lockDigits digit, ui.pendingLockConfirm,
            stays, rfl⟩
    | padBackspace =>
        exact
          ⟨ui.app, ui.lockDigits.dropLast, ui.pendingLockConfirm, stays, rfl⟩
    | padConfirm =>
        exact ⟨ui.app, [], some ui.lockDigits, stays, rfl⟩
    | _ =>
        exact ⟨ui.app, ui.lockDigits, ui.pendingLockConfirm, stays, rfl⟩
  · exact ⟨ui.app, ui.lockDigits, ui.pendingLockConfirm, stays, rfl⟩

/-- Taps change the application or the pad of the lock. -/
theorem taps_eq
    (ui : UiRuntime)
    (taps : List Tap) :
    ∃ app digits confirm,
      ui.app.Answered app ∧
        taps.foldl UiRuntime.tap ui =
          { ui with
            app := app
            lockDigits := digits
            pendingLockConfirm := confirm } := by
  induction taps generalizing ui with
  | nil =>
      exact
        ⟨ui.app, ui.lockDigits, ui.pendingLockConfirm, .refl ui.app, rfl⟩
  | cons tap rest inductionHypothesis =>
      obtain ⟨app, digits, confirm, answered, result⟩ := ui.tap_eq tap
      obtain ⟨lastApp, lastDigits, lastConfirm, lastAnswered, lastResult⟩ :=
        inductionHypothesis (ui.tap tap)
      refine ⟨lastApp, lastDigits, lastConfirm, ?_, ?_⟩
      · rw [result] at lastAnswered
        exact answered.trans lastAnswered
      · rw [List.foldl_cons, lastResult, result]

/-- Events of the conversations and settings leave the lock to itself. -/
theorem handleEvent_app
    (ui : UiRuntime)
    (nowMs : Nat)
    (event : UiTaskEvent) :
    (ui.handleEvent nowMs event).app = ui.app.handleEvent nowMs event := by
  unfold handleEvent
  cases event with
  | bootSeed seed =>
      simp only
      split
      · obtain ⟨lock, lockShown, lockDigits, front, result⟩ :=
          tripLock_eq _ nowMs
        rw [result]
      · rfl
  | conversation event =>
      simp only
      split <;> rfl
  | _ => rfl

/-- What each event keeps, the events of a turn keep.  What was posted are events of
the conversations. -/
theorem handleEvents_induction
    {property : UiRuntime → Prop}
    {nowMs : Nat}
    {input : LoopInput}
    {ui : UiRuntime}
    (initially : property { ui with app := { ui.app with posted := [] } })
    (event :
      ∀ ui event,
        (event ∈ input.events ∨ ∃ posted, event = .conversation posted) →
          property ui → property (ui.handleEvent nowMs event))
    (tones :
      ∀ ui,
        property ui → property { ui with notif := ui.notif.takeTones.1 }) :
    property (ui.handleEvents nowMs input) := by
  have handled :
      ∀ (events : List UiTaskEvent) (ui : UiRuntime),
        (∀ event ∈ events,
          event ∈ input.events ∨ ∃ posted, event = .conversation posted) →
          property ui →
            property
              (events.foldl (fun ui event => ui.handleEvent nowMs event)
                ui) := by
    intro events
    induction events with
    | nil =>
        exact fun _ _ holds => holds
    | cons first rest inductionHypothesis =>
        intro ui within holds
        refine inductionHypothesis _ ?_ ?_
        · exact fun later member =>
            within later (List.mem_cons_of_mem first member)
        · exact event ui first (within first List.mem_cons_self) holds
  refine tones _ (handled _ _ ?_ initially)
  intro event member
  rcases List.mem_append.mp member with received | posted
  · exact .inl received
  · obtain ⟨conversation, -, rfl⟩ := List.mem_map.mp posted
    exact .inr ⟨conversation, rfl⟩

/-- What each touch keeps, the touches of a turn keep. -/
theorem pollTouches_induction
    {property : UiRuntime → Prop}
    {nowMs : Nat}
    {touches : List (TouchReading × List Tap)}
    (touch :
      ∀ ui reading driver event taps,
        property ui →
        ui.touch.pollEvent nowMs reading = (driver, .event event) →
        (touches = [] → taps = []) →
          property
            ({ ui with touch := driver }.handleTouch nowMs event taps))
    (budget : Nat)
    {ui : UiRuntime}
    (initially : property ui) :
    property (ui.pollTouches nowMs budget touches) := by
  have polled :
      ∀ budget rest ui,
        (touches = [] → rest = []) → property ui →
          property (UiRuntime.pollTouches ui nowMs budget rest) := by
    intro budget
    induction budget with
    | zero =>
        exact fun _ _ _ holds => holds
    | succ budget inductionHypothesis =>
        intro rest ui within holds
        have noTaps :
            touches = [] → (rest.head?.getD (.quiet, [])).2 = [] := by
          intro none
          rw [within none]
          rfl
        have tail : touches = [] → rest.tail = [] := by
          intro none
          rw [within none]
          rfl
        unfold pollTouches
        generalize rest.head?.getD (.quiet, []) = first at noTaps ⊢
        obtain ⟨reading, taps⟩ := first
        simp only
        rcases ui.touch.pollEvent_cases nowMs reading with
          ⟨same, failed⟩ | ⟨same, nothing, -⟩ | ⟨point, -, result⟩ |
            ⟨point, result⟩
        · rw [failed, same]
          exact holds
        · rw [nothing, same]
          exact holds
        · have handled := touch ui reading _ _ taps holds result noTaps
          rw [result]
          exact inductionHypothesis _ _ tail handled
        · have handled := touch ui reading _ _ taps holds result noTaps
          rw [result]
          exact inductionHypothesis _ _ tail handled
  exact polled budget touches ui id initially

/-- What each key and move of the trackball keeps, all those of a turn keep. -/
theorem takeKeys_induction
    {property : UiRuntime → Prop}
    {turn : UiTurn}
    (key :
      ∀ ui byte draft,
        KeyReading.byte byte draft ∈ turn.keys →
          property ui → property (ui.handleKey turn.nowMs byte draft))
    (lines :
      ∀ ui driver,
        property ui → property { ui with trackball := driver })
    (roll :
      ∀ ui showContacts event,
        property ui →
          property (ui.handleRoll turn.nowMs showContacts event))
    {ui : UiRuntime}
    (initially : property ui) :
    property (ui.takeKeys turn) := by
  have typed :
      ∀ budget keys ui,
        keys ⊆ turn.keys → property ui →
          property (UiRuntime.pollKeys ui turn.nowMs budget keys) := by
    intro budget
    induction budget with
    | zero =>
        exact fun _ _ _ holds => holds
    | succ budget inductionHypothesis =>
        intro keys ui within holds
        cases keys with
        | nil =>
            exact holds
        | cons reading rest =>
            cases reading with
            | failed =>
                exact holds
            | byte byte draft =>
                have handled :=
                  key ui byte draft (within List.mem_cons_self) holds
                unfold pollKeys
                split
                · exact holds
                · simp only
                  split
                  · exact handled
                  · exact
                      inductionHypothesis _ _
                        (fun _ member =>
                          within (List.mem_cons_of_mem _ member))
                        handled
  have keys :=
    typed maxInputEventsPerStep turn.keys _ (fun _ member => member)
      initially
  unfold takeKeys pollTrackball
  cases turn.trackball with
  | none =>
      exact keys
  | some state =>
      obtain ⟨isLow, showContacts⟩ := state
      simp only
      generalize TrackballDriver.poll _ turn.nowMs isLow = polled
      obtain ⟨driver, event⟩ := polled
      have read := lines _ driver keys
      cases event with
      | none =>
          exact read
      | some event =>
          exact roll _ showContacts event read

/-- What each touch, key and move of the trackball keeps, the inputs of a turn keep. -/
theorem takeInputs_induction
    {property : UiRuntime → Prop}
    {turn : UiTurn}
    (touch :
      ∀ ui reading driver event taps,
        property ui →
        ui.touch.pollEvent turn.nowMs reading = (driver, .event event) →
        (turn.touches = [] → taps = []) →
          property
            ({ ui with touch := driver }.handleTouch turn.nowMs event taps))
    (key :
      ∀ ui byte draft,
        KeyReading.byte byte draft ∈ turn.keys →
          property ui → property (ui.handleKey turn.nowMs byte draft))
    (lines :
      ∀ ui driver,
        property ui → property { ui with trackball := driver })
    (roll :
      ∀ ui showContacts event,
        property ui →
          property (ui.handleRoll turn.nowMs showContacts event))
    {ui : UiRuntime}
    (initially : property ui) :
    property (ui.takeInputs turn) :=
  takeKeys_induction key lines roll
    (pollTouches_induction touch maxInputEventsPerStep initially)

/-- What a touch does: it wakes the screen, is swallowed, or sets off taps. -/
theorem handleTouch_cases
    (ui : UiRuntime)
    (nowMs : Nat)
    (event : TouchEvent)
    (taps : List Tap) :
    ui.power.asleep = true ∧
        ui.handleTouch nowMs event taps =
          (ui.noteTouch nowMs event.kind
              { woke := true
                dispatch := false
                swallowActive := event.kind != .released }).wakeScreen
            nowMs ∨
      ui.power.asleep = false ∧ ui.touchWakeSwallowActive = true ∧
        ui.handleTouch nowMs event taps =
          ui.noteTouch nowMs event.kind
            { woke := false
              dispatch := false
              swallowActive := event.kind != .released } ∨
      ui.power.asleep = false ∧ ui.touchWakeSwallowActive = false ∧
        ui.handleTouch nowMs event taps =
          taps.foldl UiRuntime.tap
            (ui.noteTouch nowMs event.kind
              { woke := false
                dispatch := true
                swallowActive := false }) := by
  unfold handleTouch
  cases isAsleep : ui.power.asleep with
  | true =>
      exact .inl ⟨rfl, rfl⟩
  | false =>
      cases ui.touchWakeSwallowActive with
      | true =>
          exact .inr (.inl ⟨rfl, rfl, rfl⟩)
      | false =>
          exact .inr (.inr ⟨rfl, rfl, rfl⟩)

/-- The inputs of a turn leave what is shown and what was posted. -/
theorem answered_takeInputs
    (ui : UiRuntime)
    (turn : UiTurn) :
    ui.app.Answered (ui.takeInputs turn).app := by
  refine
    @takeInputs_induction (fun after => ui.app.Answered after.app) turn
      ?_ ?_ ?_ ?_ ui (.refl ui.app)
  · intro after reading driver event taps answered _ _
    rcases handleTouch_cases { after with touch := driver } turn.nowMs event
        taps with
      ⟨-, result⟩ | ⟨-, -, result⟩ | ⟨-, -, result⟩
    · rw [result]
      exact answered
    · rw [result]
      exact answered
    · obtain ⟨app, _, _, tapped, results⟩ := taps_eq _ taps
      rw [result, results]
      exact answered.trans tapped
  · intro after byte draft _ answered
    unfold handleKey
    split
    · exact answered
    · simp only
      split
      · exact answered
      · exact answered.trans (after.app.answered_key byte draft)
  · intro after driver answered
    exact answered
  · intro after showContacts event answered
    unfold handleRoll
    split
    · exact answered
    · simp only
      split
      · exact answered
      · exact answered.trans (after.app.answered_roll showContacts event)

end UiRuntime

end MeshCadet
