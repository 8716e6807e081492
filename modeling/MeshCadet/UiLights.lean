import MeshCadet.UiRuntime

namespace MeshCadet

/-!
# The lights at the end of a turn

Whatever a turn does, at its end the panel, its light and the light of the keyboard
are what the time without input, the settings and the messages call for, although
the arbiters write only what changed.  This holds as long as the writes are taken: what
is refused is not written again.  A lock that has a screen is in front.
-/

open RuntimeSettingsStore

/-- The writes that work are taken. -/
def UiHardware.Takes
    (hardware : UiHardware)
    (works : UiWrite → Prop) :
    Prop :=
  ∀ write, works write → hardware.takes write = true

/-- A screen that goes to sleep was not used for the time that the settings name. -/
theorem screenIdleAction_eq_sleep
    {elapsedMs leadMs : Nat}
    {timeoutS : UInt8}
    (sleeps : screenIdleAction elapsedMs timeoutS leadMs = .sleep) :
    timeoutS ≠ 0 ∧ timeoutS.toNat * 1000 ≤ elapsedMs := by
  unfold screenIdleAction at sleeps
  split at sleeps
  · cases sleeps
  · rename_i someTime
    simp only at sleeps
    split at sleeps
    · rename_i isLong
      exact ⟨someTime, isLong⟩
    · split at sleeps
      · cases sleeps
      · cases sleeps

namespace ScreenPower

/-- What was last written to the display is what it has. -/
structure Written
    (power : ScreenPower) :
    Prop where
  dark :
    power.asleep = true →
      power.panelAsleep = true ∧ power.displayOn = false ∧
        power.brightness = 0
  lit :
    power.asleep = false →
      power.panelAsleep = false ∧ power.displayOn = true ∧
        power.brightness =
          min power.backlightBrightnessApplied backlightBrightnessMaxPct

variable {power : ScreenPower} {takes : UiWrite → Bool}

/-- What was written at the start. -/
theorem written_new : Written new where
  dark := nofun
  lit := fun _ => ⟨rfl, rfl, rfl⟩

/-- The clock of the activity has no part in it. -/
theorem Written.touched
    (written : power.Written)
    (lastActivityMs : Nat)
    (activityClockStarted : Bool) :
    Written
      { power with
        lastActivityMs := lastActivityMs
        activityClockStarted := activityClockStarted } :=
  ⟨written.dark, written.lit⟩

/-- A screen that wakes is lit. -/
theorem written_wake
    (taken : ∀ write, takes write = true)
    (power : ScreenPower)
    (configured : UInt8)
    (nowMs : Nat) :
    (power.wake takes configured nowMs).Written where
  dark := nofun
  lit := by
    intro _
    simp only [wake, wakePanel, setBrightness, taken, Bool.and_self,
      if_true, and_self]

/-- A screen that sleeps is dark. -/
theorem written_sleep
    (taken : ∀ write, takes write = true)
    (power : ScreenPower) :
    (power.sleep takes).Written where
  dark := by
    intro _
    simp only [sleep, sleepPanel, setBrightness, taken, Bool.and_self,
      if_true, true_and]
    rfl
  lit := nofun

/-- After some time without input the screen sleeps, or it is dimmed or not. -/
theorem idle_cases
    (power : ScreenPower)
    (takes : UiWrite → Bool)
    (nowMs : Nat)
    (timeoutS : UInt8) :
    power.asleep = true ∧ power.idle takes nowMs timeoutS = power ∨
      power.asleep = false ∧
        (screenIdleAction (nowMs - power.lastActivityMs) timeoutS
                dimLeadMs =
              .sleep ∧
            power.idle takes nowMs timeoutS = power.sleep takes ∨
          screenIdleAction (nowMs - power.lastActivityMs) timeoutS
                dimLeadMs ≠
              .sleep ∧
            power.idle takes nowMs timeoutS =
              { power with
                dimApplied :=
                  screenIdleAction (nowMs - power.lastActivityMs) timeoutS
                      dimLeadMs =
                    .dim }) := by
  unfold idle
  cases isAsleep : power.asleep with
  | true =>
      exact .inl ⟨rfl, rfl⟩
  | false =>
      refine .inr ⟨rfl, ?_⟩
      cases action :
          screenIdleAction (nowMs - power.lastActivityMs) timeoutS
            dimLeadMs with
      | sleep =>
          exact .inl ⟨rfl, rfl⟩
      | dim =>
          exact .inr ⟨nofun, rfl⟩
      | awake =>
          exact .inr ⟨nofun, rfl⟩

/-- The check of the inactivity leaves the light of the keyboard and the clock. -/
theorem idle_fields
    (power : ScreenPower)
    (takes : UiWrite → Bool)
    (nowMs : Nat)
    (timeoutS : UInt8) :
    (power.idle takes nowMs timeoutS).keyboardLit = power.keyboardLit ∧
      (power.idle takes nowMs timeoutS).kbBacklightOn =
        power.kbBacklightOn ∧
      (power.idle takes nowMs timeoutS).lastActivityMs =
        power.lastActivityMs := by
  rcases power.idle_cases takes nowMs timeoutS with
    ⟨-, result⟩ | ⟨-, ⟨-, result⟩ | ⟨-, result⟩⟩
  · rw [result]
    exact ⟨rfl, rfl, rfl⟩
  · rw [result]
    exact ⟨rfl, rfl, rfl⟩
  · rw [result]
    exact ⟨rfl, rfl, rfl⟩

/-- The check of the inactivity writes what it decides. -/
theorem Written.idle
    (written : power.Written)
    (taken : ∀ write, takes write = true)
    (nowMs : Nat)
    (timeoutS : UInt8) :
    (power.idle takes nowMs timeoutS).Written := by
  rcases power.idle_cases takes nowMs timeoutS with
    ⟨-, result⟩ | ⟨-, ⟨-, result⟩ | ⟨-, result⟩⟩
  · rw [result]
    exact written
  · rw [result]
    exact written_sleep taken power
  · rw [result]
    exact ⟨written.dark, written.lit⟩

/-- The arbiter of a keyboard that takes its light changes its light only. -/
theorem syncKeyboard_eq
    (taken : takes .keyboardLight = true)
    (isWritten : power.keyboardLit = power.kbBacklightOn)
    (lit : Bool) :
    power.syncKeyboard takes lit =
      { power with
        keyboardLit := lit
        kbBacklightOn := lit } := by
  unfold syncKeyboard
  rw [if_pos taken]
  split
  · rfl
  · rename_i same
    have isOn : lit = power.kbBacklightOn := not_not.mp same
    have isLit : power.keyboardLit = lit := isWritten.trans isOn.symm
    cases power
    cases isOn
    cases isLit
    rfl

/-- The arbiter of the brightness leaves all but the light of the display. -/
theorem syncBrightness_fields
    (power : ScreenPower)
    (takes : UiWrite → Bool)
    (configured : UInt8) :
    (power.syncBrightness takes configured).asleep = power.asleep ∧
      (power.syncBrightness takes configured).lastActivityMs =
        power.lastActivityMs ∧
      (power.syncBrightness takes configured).keyboardLit =
        power.keyboardLit ∧
      (power.syncBrightness takes configured).kbBacklightOn =
        power.kbBacklightOn := by
  unfold syncBrightness
  split
  · exact ⟨rfl, rfl, rfl, rfl⟩
  · generalize (if power.dimApplied then dimBrightnessPct configured
      else configured) = desired
    simp only
    split <;> exact ⟨rfl, rfl, rfl, rfl⟩

/-- The arbiter of the brightness sets the light of a screen that is awake. -/
theorem Written.syncBrightness
    (written : power.Written)
    (taken : ∀ write, takes write = true)
    (configured : UInt8) :
    (power.syncBrightness takes configured).Written ∧
      (power.asleep = false →
        (power.syncBrightness takes configured).backlightBrightnessApplied =
          if power.dimApplied then dimBrightnessPct configured
          else configured) := by
  unfold ScreenPower.syncBrightness
  cases isAsleep : power.asleep with
  | true =>
      exact ⟨written, nofun⟩
  | false =>
      simp only [Bool.false_eq_true, if_false, setBrightness, taken, if_true]
      generalize (if power.dimApplied = true then dimBrightnessPct configured
        else configured) = desired
      by_cases changed : desired ≠ power.backlightBrightnessApplied
      · rw [if_pos changed]
        obtain ⟨panel, display, -⟩ := written.lit isAsleep
        refine ⟨⟨?_, fun _ => ⟨panel, display, rfl⟩⟩, fun _ => rfl⟩
        intro sleeping
        rw [show power.asleep = true from sleeping] at isAsleep
        cases isAsleep
      · rw [if_neg changed]
        exact ⟨written, fun _ => (not_not.mp changed).symm⟩

end ScreenPower

namespace UiRuntime

/-- What holds of the lights throughout a turn: they are as written if the writes work, a
lock screen covers a device that is locked, and the keyboard blinks since some message
came while the screen sleeps. -/
structure Lights
    (ui : UiRuntime)
    (works : UiWrite → Prop)
    (nowMs : Nat)
    (since : Option Nat) :
    Prop where
  takes : ui.hardware.Takes works
  written : (∀ write, works write) → ui.power.Written
  keyboard :
    works .keyboardLight → ui.power.keyboardLit = ui.power.kbBacklightOn
  front : ui.front = .lock → ui.lockShown = true
  covers : ui.lockShown = true → ui.lock.locked = true
  blinks : ui.notif.blink.BlinksSince since nowMs
  quiet : ui.power.asleep = false → since = none

variable {ui after next : UiRuntime} {works : UiWrite → Prop}
variable {earlierMs nowMs : Nat} {since : Option Nat}

/-- At the start everything is lit. -/
theorem lights_new
    (isProvisioned : Bool)
    (nowMs : Nat) :
    (new isProvisioned).Lights works nowMs none where
  takes := fun _ _ => rfl
  written := fun _ => ScreenPower.written_new
  keyboard := fun _ => rfl
  front := nofun
  covers := nofun
  blinks := rfl
  quiet := fun _ => rfl

/-- Time passes. -/
theorem Lights.later
    (lights : ui.Lights works earlierMs since)
    (ordered : earlierMs ≤ nowMs) :
    ui.Lights works nowMs since :=
  { lights with blinks := lights.blinks.later ordered }

/-- Only the power, the lock, what is in front, and the notifications matter. -/
theorem Lights.same
    (lights : after.Lights works nowMs since)
    (hardware : next.hardware = after.hardware)
    (power : next.power = after.power)
    (locked : next.lock.locked = after.lock.locked)
    (lockShown : next.lockShown = after.lockShown)
    (front : next.front = after.front)
    (blink : next.notif.blink = after.notif.blink) :
    next.Lights works nowMs since where
  takes := hardware ▸ lights.takes
  written := power ▸ lights.written
  keyboard := power ▸ lights.keyboard
  front := by
    rw [lockShown, front]
    exact lights.front
  covers := by
    rw [lockShown, locked]
    exact lights.covers
  blinks := blink ▸ lights.blinks
  quiet := power ▸ lights.quiet

/-- A screen that is opened leaves the lights. -/
theorem Lights.opened
    (lights : ui.Lights works nowMs since)
    (result : UiApp × Option Construction) :
    (ui.opened result).Lights works nowMs since := by
  refine
    ⟨lights.takes, lights.written, lights.keyboard, ?_, lights.covers,
      lights.blinks, lights.quiet⟩
  intro isLock
  unfold UiRuntime.opened at isLock
  simp only at isLock
  split at isLock
  · cases isLock
  · cases isLock
  · exact lights.front isLock

/-- The time since which the keyboard blinks, when a notification may start it. -/
def sinceAfter
    (starts : Bool)
    (since : Option Nat)
    (nowMs : Nat) :
    Option Nat :=
  if starts then some (since.getD nowMs) else since

/-- The notification of an event makes the keyboard blink. -/
def startsBlink
    (ui : UiRuntime)
    (event : NotifEvent) :
    Bool :=
  (event = .incomingDm ∨ event = .incomingGroupMsg) ∧
    (ui.notif.prefs.prefFor event).visual ∧ ui.power.asleep

/-- A notification may start the blinking; it never moves one that has started. -/
theorem Lights.fire
    (lights : ui.Lights works nowMs since)
    (event : NotifEvent) :
    (ui.fire nowMs event).Lights works nowMs
      (sinceAfter (ui.startsBlink event) since nowMs) := by
  have starts :
      (ui.fire nowMs event).notif.blink =
        if ui.startsBlink event then ui.notif.blink.notify nowMs
        else ui.notif.blink := by
    simp only [UiRuntime.fire, NotifDispatcher.fire, startsBlink,
      decide_eq_true_eq]
  refine
    ⟨lights.takes, lights.written, lights.keyboard, lights.front,
      lights.covers, ?_, ?_⟩
  · rw [starts, sinceAfter]
    split
    · exact lights.blinks.notify
    · exact lights.blinks
  · intro awake
    have isAwake : ui.power.asleep = false := awake
    have none : ui.startsBlink event = false := by
      simp only [startsBlink, isAwake]
      exact decide_eq_false fun starts => nomatch starts.2.2
    rw [none]
    exact lights.quiet isAwake

/-- The screen of a lock that is on. -/
theorem Lights.constructLockScreen
    (lights : ui.Lights works nowMs since)
    (locked : ui.lock.locked = true)
    (place : ScreenPlace) :
    (ui.constructLockScreen place).Lights works nowMs since := by
  unfold UiRuntime.constructLockScreen
  split
  · exact lights
  · split
    · exact
        { lights with
          front := fun _ => rfl
          covers := fun _ => locked }
    · exact lights
    · exact { lights with front := nofun }

/-- The lock comes on. -/
theorem Lights.tripLock
    (lights : ui.Lights works nowMs since) :
    (ui.tripLock nowMs).Lights works nowMs since := by
  unfold UiRuntime.tripLock
  split
  · exact lights
  · refine Lights.constructLockScreen ?_ rfl .lockOn
    exact
      ⟨lights.takes, lights.written, lights.keyboard, lights.front,
        fun _ => rfl, lights.blinks, lights.quiet⟩

/-- The lock comes in front again. -/
theorem Lights.reassertLock
    (lights : ui.Lights works nowMs since) :
    ui.reassertLock.Lights works nowMs since := by
  unfold UiRuntime.reassertLock
  split
  · rename_i locked
    have made := lights.constructLockScreen locked .lockAgain
    simp only
    split
    · rename_i isShown
      exact { made with front := fun _ => isShown }
    · exact made
  · exact lights

/-- The notification of an event. -/
def notifOf : UiTaskEvent → Option NotifEvent
  | .conversation event => event.notif
  | .dmAcked => some .dmAcked
  | .channelAcked => some .channelAcked
  | _ => none

/-- An event of the dispatcher. -/
theorem Lights.handleEvent
    (lights : ui.Lights works nowMs since)
    (event : UiTaskEvent) :
    (ui.handleEvent nowMs event).Lights works nowMs
      (sinceAfter ((notifOf event).any ui.startsBlink) since nowMs) := by
  have sameApp :
      ∀ app,
        ({ ui with app := app } : UiRuntime).Lights works nowMs
          since :=
    fun _ => lights.same rfl rfl rfl rfl rfl rfl
  have sameLock :
      ∀ app pin pinLen,
        ({ ui with
            app := app
            lock :=
              ui.lock.step
                { nowMs := nowMs
                  action := .setPin pin pinLen } } :
          UiRuntime).Lights works nowMs since :=
    fun _ _ _ => lights.same rfl rfl rfl rfl rfl rfl
  unfold UiRuntime.handleEvent
  cases event with
  | bootSeed seed =>
      simp only
      split
      · exact (sameLock _ _ _).tripLock
      · exact sameLock _ _ _
  | lockConfigChanged lockFlags lockTimeoutS =>
      exact sameApp _
  | lockPinChanged lockPin lockPinLen =>
      exact sameLock _ _ _
  | conversation event =>
      simp only [notifOf]
      split
      · rename_i notif isNotif
        rw [isNotif]
        exact (sameApp _).fire notif
      · rename_i noNotif
        rw [noNotif]
        exact sameApp _
  | dmAcked =>
      exact (sameApp _).fire .dmAcked
  | dmUndelivered =>
      exact sameApp _
  | dmQueued =>
      exact sameApp _
  | channelAcked =>
      exact (sameApp _).fire .channelAcked

/-- An event of the dispatcher leaves the screen awake or asleep. -/
theorem handleEvent_power
    (ui : UiRuntime)
    (nowMs : Nat)
    (event : UiTaskEvent) :
    (ui.handleEvent nowMs event).power = ui.power := by
  unfold UiRuntime.handleEvent
  cases event with
  | bootSeed seed =>
      simp only
      split
      · obtain ⟨lock, lockShown, lockDigits, front, result⟩ :=
          tripLock_eq _ nowMs
        rw [result]
      · rfl
  | conversation event =>
      simp only
      split <;> rfl
  | _ => rfl

/-- Events that are not notified. -/
theorem Lights.foldl_handleEvent
    (lights : ui.Lights works nowMs since)
    {events : List UiTaskEvent}
    (silent : ∀ event ∈ events, notifOf event = none) :
    (events.foldl (fun ui event => ui.handleEvent nowMs event) ui).Lights
      works nowMs since := by
  induction events generalizing ui with
  | nil =>
      exact lights
  | cons event rest inductionHypothesis =>
      have handled := lights.handleEvent event
      rw [silent event List.mem_cons_self] at handled
      exact
        inductionHypothesis handled fun event later =>
          silent event (List.mem_cons_of_mem _ later)

/-- The answers to a PIN do not blink. -/
theorem Lights.fireAnswer
    (lights : ui.Lights works nowMs since)
    {event : NotifEvent}
    (answers : event = .pinSuccess ∨ event = .pinError) :
    (ui.fire nowMs event).Lights works nowMs since := by
  have fired := lights.fire event
  have isQuiet : ui.startsBlink event = false := by
    refine decide_eq_false ?_
    rcases answers with rfl | rfl
    · exact fun starts => nomatch starts.1
    · exact fun starts => nomatch starts.1
  rw [isQuiet] at fired
  exact fired

/-- Opening the screen that was asked for. -/
theorem Lights.navigate
    (lights : ui.Lights works nowMs since)
    (expand : String → String) :
    (ui.navigate expand nowMs).Lights works nowMs since := by
  have opened :=
    lights.opened
      (ui.app.navTurn expand nowMs (ui.hardware.constructs .asked))
  unfold UiRuntime.navigate
  split
  · exact opened.fireAnswer (.inl rfl)
  · exact opened.fireAnswer (.inr rfl)
  · exact opened

/-- Opening the screen that was asked for leaves the power. -/
theorem navigate_power
    (ui : UiRuntime)
    (expand : String → String)
    (nowMs : Nat) :
    (ui.navigate expand nowMs).power = ui.power := by
  unfold UiRuntime.navigate
  split <;> rfl

/-- Taking the digits that were confirmed on the lock. -/
theorem Lights.confirmLock
    (lights : ui.Lights works nowMs since) :
    (ui.confirmLock nowMs).Lights works nowMs since ∧
      (ui.confirmLock nowMs).power.asleep = ui.power.asleep := by
  have locked := ui.lock.locked_turn nowMs ui.pendingLockConfirm
  generalize isLock :
    ui.lock.step
        { nowMs := nowMs
          action := .turn ui.pendingLockConfirm } =
      lock at locked
  have taken :
      ∀ notif,
        ({ ui with
            pendingLockConfirm := none
            notif := notif } : UiRuntime).Lights works nowMs since →
          (ui.lock.locked = false ∨ lock.locked = true) →
            ({ ui with
                pendingLockConfirm := none
                notif := notif
                lock := lock } : UiRuntime).Lights works nowMs
              since := by
    intro notif fired keeps
    refine
      ⟨fired.takes, fired.written, fired.keyboard, fired.front, ?_,
        fired.blinks, fired.quiet⟩
    intro isShown
    rcases keeps with before | still
    · have locked : ui.lock.locked = true := lights.covers isShown
      rw [before] at locked
      cases locked
    · exact still
  have kept : ({ ui with pendingLockConfirm := none } : UiRuntime).Lights
      works nowMs since :=
    lights.same rfl rfl rfl rfl rfl rfl
  have stays :
      ui.lock.accepts nowMs ui.pendingLockConfirm = false →
        ui.lock.locked = false ∨ lock.locked = true := by
    intro refused
    rw [refused, Bool.not_false, Bool.and_true] at locked
    cases before : ui.lock.locked with
    | false => exact .inl rfl
    | true => exact .inr (locked.trans before)
  unfold UiRuntime.confirmLock
  rw [isLock]
  cases isDigits : ui.pendingLockConfirm with
  | none =>
      exact ⟨taken _ kept (stays (by rw [isDigits]; rfl)), rfl⟩
  | some digits =>
      simp only
      by_cases allowed :
          unlockAttemptAllowed nowMs ui.lock.lockoutStartedMs
            ui.lock.lockoutS = true
      swap
      · rw [if_pos allowed]
        refine ⟨taken _ kept (stays ?_), rfl⟩
        rw [isDigits, LockScreen.accepts, Option.any_some,
          Bool.eq_false_iff.mpr allowed, Bool.false_and]
      rw [if_neg (not_not_intro allowed)]
      by_cases right :
          verifyLockPin digits ui.lock.storedPin ui.lock.storedPinLen = true
      swap
      · rw [if_pos right]
        refine ⟨taken _ (kept.fireAnswer (.inr rfl)) (stays ?_), rfl⟩
        rw [isDigits, LockScreen.accepts, Option.any_some,
          Bool.eq_false_iff.mpr right, Bool.and_false]
      rw [if_neg (not_not_intro right)]
      have fired : UiRuntime.Lights _ works nowMs since :=
        kept.fireAnswer (.inl rfl)
      by_cases wasLocked : ui.lock.locked = true
      · rw [if_pos wasLocked]
        refine
          ⟨⟨fired.takes, ?_, fired.keyboard, ?_, ?_, fired.blinks,
            fired.quiet⟩, rfl⟩
        · intro all
          exact
            (fired.written all).touched nowMs ui.power.activityClockStarted
        · intro onLock
          cases onLock
        · intro isShown
          cases isShown
      · rw [if_neg wasLocked]
        exact
          ⟨taken _ fired (.inl (Bool.eq_false_iff.mpr wasLocked)), rfl⟩

/-- Events of the dispatcher leave the power. -/
theorem foldl_handleEvent_power
    (ui : UiRuntime)
    (nowMs : Nat)
    (events : List UiTaskEvent) :
    (events.foldl (fun ui event => ui.handleEvent nowMs event) ui).power =
      ui.power := by
  induction events generalizing ui with
  | nil =>
      rfl
  | cons event rest inductionHypothesis =>
      rw [List.foldl_cons, inductionHypothesis, handleEvent_power]

/-- A message of the turn makes the keyboard blink. -/
def messageStarts
    (ui : UiRuntime)
    (input : LoopInput) :
    Bool :=
  match input with
  | .event event => (notifOf event).any ui.startsBlink
  | _ => false

/-- The events of a turn. -/
theorem Lights.handleEvents
    (lights : ui.Lights works nowMs since)
    (input : LoopInput)
    (silent : ∀ event ∈ ui.app.posted, event.notif = none) :
    (ui.handleEvents nowMs input).Lights works nowMs
        (sinceAfter (ui.messageStarts input) since nowMs) ∧
      (ui.handleEvents nowMs input).power = ui.power := by
  have taken :
      ({ ui with app := { ui.app with posted := [] } } : UiRuntime).Lights
        works nowMs since :=
    lights.same rfl rfl rfl rfl rfl rfl
  have isSilent :
      ∀ event ∈ ui.app.posted.map UiTaskEvent.conversation,
        notifOf event = none := by
    intro event posted
    obtain ⟨refusal, member, rfl⟩ := List.mem_map.mp posted
    exact silent refusal member
  have handled :
      UiRuntime.Lights
        ((input.events ++
            ui.app.posted.map UiTaskEvent.conversation).foldl
          (fun ui event => ui.handleEvent nowMs event)
          { ui with app := { ui.app with posted := [] } })
        works nowMs (sinceAfter (ui.messageStarts input) since nowMs) := by
    rw [List.foldl_append]
    cases input with
    | event event =>
        exact (taken.handleEvent event).foldl_handleEvent isSilent
    | appReady startMs =>
        exact taken.foldl_handleEvent isSilent
    | timeout =>
        exact taken.foldl_handleEvent isSilent
  exact
    ⟨handled.same rfl rfl rfl rfl rfl rfl,
      foldl_handleEvent_power _ nowMs _⟩

/-- Receiving and starting the clock leave the lights, when the hardware of the turn
takes them. -/
theorem Lights.startClock
    (lights : ui.Lights works nowMs since)
    {turn : UiTurn}
    (takes : turn.hardware.Takes works) :
    ((ui.receive turn).startClock nowMs).Lights works nowMs since ∧
      ((ui.receive turn).startClock nowMs).power.asleep =
        ui.power.asleep := by
  unfold UiRuntime.startClock
  split
  · exact ⟨{ lights with takes := takes }, rfl⟩
  · exact
      ⟨⟨takes, fun all => (lights.written all).touched nowMs true,
        lights.keyboard, lights.front, lights.covers, lights.blinks,
        lights.quiet⟩, rfl⟩

/-- The screens that are opened. -/
theorem Lights.openScreens
    (lights : ui.Lights works nowMs since)
    (expand : String → String) :
    (ui.openScreens expand nowMs).Lights works nowMs since ∧
      (ui.openScreens expand nowMs).power = ui.power := by
  have navigated :=
    (lights.opened
      (ui.app.splashTurn nowMs (ui.hardware.constructs .splash))).navigate
        expand
  exact ⟨navigated.opened _, navigate_power _ expand nowMs⟩

/-- A message that the loop waited for makes the keyboard blink, when it is to be
seen and comes while the screen sleeps. -/
def blinksFor
    (ui : UiRuntime) :
    LoopInput → Bool
  | .event (.conversation event) =>
      (event.notif = some .incomingDm ∨
          event.notif = some .incomingGroupMsg) ∧
        ui.app.settings.notifVisual ∧ ui.power.asleep
  | _ => false

/-- Only the settings and whether the screen sleeps matter. -/
theorem blinksFor_congr
    {ui other : UiRuntime}
    (settings : other.app.settings = ui.app.settings)
    (asleep : other.power.asleep = ui.power.asleep)
    (input : LoopInput) :
    other.blinksFor input = ui.blinksFor input := by
  unfold blinksFor
  rw [settings, asleep]

/-- The events are notified as the settings say. -/
theorem messageStarts_syncNotifPrefs
    (ui : UiRuntime)
    (input : LoopInput) :
    ui.syncNotifPrefs.messageStarts input = ui.blinksFor input := by
  cases input with
  | event event =>
      cases event with
      | conversation event =>
          simp only [messageStarts, notifOf, blinksFor]
          cases event.notif with
          | none =>
              exact (decide_eq_false fun starts => nomatch starts.1).symm
          | some notif =>
              rw [Option.any_some, startsBlink]
              simp only [Option.some.injEq]
              refine decide_eq_decide.mpr (and_congr_right fun isMessage => ?_)
              rcases isMessage with rfl | rfl <;> rfl
      | _ => rfl
  | _ => rfl

/-- What comes before the inputs starts the blinking for a message, and leaves the
screen awake or asleep. -/
theorem Lights.beforeInputs
    (lights : ui.Lights works earlierMs since)
    (expand : String → String)
    {turn : UiTurn}
    (takes : turn.hardware.Takes works)
    (silent : ui.app.posted = [])
    (ordered : earlierMs ≤ turn.nowMs) :
    (ui.beforeInputs expand turn).Lights works turn.nowMs
        (sinceAfter (ui.blinksFor turn.input) since turn.nowMs) ∧
      (ui.beforeInputs expand turn).power.asleep = ui.power.asleep := by
  obtain ⟨started, startedAsleep⟩ :=
    (lights.later ordered).startClock takes
  obtain ⟨opened, openedPower⟩ := started.openScreens expand
  obtain ⟨confirmed, confirmedAsleep⟩ := opened.confirmLock
  have synced :
      (UiRuntime.confirmLock _ turn.nowMs).syncNotifPrefs.Lights
        works turn.nowMs since :=
    confirmed.same rfl rfl rfl rfl rfl rfl
  have asleep :
      (UiRuntime.confirmLock _ turn.nowMs).power.asleep =
        ui.power.asleep :=
    confirmedAsleep.trans
      ((congrArg ScreenPower.asleep openedPower).trans startedAsleep)
  have isOpened := ui.opened_turn expand turn
  unfold UiRuntime.beforeInputs
  generalize
    ((ui.receive turn).startClock turn.nowMs).openScreens expand
      turn.nowMs = opening at *
  have stillSilent :
      ∀ event ∈ (opening.confirmLock turn.nowMs).syncNotifPrefs.app.posted,
        event.notif = none := by
    intro event posted
    change event ∈ (opening.confirmLock turn.nowMs).app.posted at posted
    rw [confirmLock_app] at posted
    rcases isOpened.posted event posted with earlier | ⟨_, _, rfl⟩
    · rw [silent] at earlier
      exact nomatch earlier
    · rfl
  have sameBlinks :
      (opening.confirmLock turn.nowMs).blinksFor turn.input =
        ui.blinksFor turn.input := by
    refine blinksFor_congr ?_ asleep turn.input
    rw [confirmLock_app]
    exact isOpened.settings
  obtain ⟨handled, power⟩ := synced.handleEvents turn.input stillSilent
  rw [messageStarts_syncNotifPrefs, sameBlinks] at handled
  refine ⟨handled, ?_⟩
  rw [power]
  exact asleep

/-- A screen that wakes stops the blinking. -/
theorem Lights.wakeScreen
    (lights : ui.Lights works nowMs since) :
    (ui.wakeScreen nowMs).Lights works nowMs none where
  takes := lights.takes
  written := fun all =>
    ScreenPower.written_wake (fun write => lights.takes write (all write))
      ui.power _ nowMs
  keyboard := lights.keyboard
  front := lights.front
  covers := lights.covers
  blinks := ui.notif.blink.blinksSince_stop nowMs
  quiet := fun _ => rfl

/-- The inputs so far left the screen and the blinking, or they found or made the
screen awake just now. -/
def InputsLight
    (ui : UiRuntime)
    (works : UiWrite → Prop)
    (nowMs : Nat)
    (since : Option Nat)
    (after : UiRuntime) :
    Prop :=
  after.Lights works nowMs since ∧
      after.power.asleep = ui.power.asleep ∧
      after.power.lastActivityMs = ui.power.lastActivityMs ∨
    after.Lights works nowMs none ∧ after.power.asleep = false ∧
      after.power.lastActivityMs = nowMs

/-- Only the power, the lock, what is in front, and the notifications matter. -/
theorem InputsLight.same
    (holds : ui.InputsLight works nowMs since after)
    (hardware : next.hardware = after.hardware)
    (power : next.power = after.power)
    (locked : next.lock.locked = after.lock.locked)
    (lockShown : next.lockShown = after.lockShown)
    (front : next.front = after.front)
    (blink : next.notif.blink = after.notif.blink) :
    ui.InputsLight works nowMs since next := by
  rcases holds with ⟨lights, kept⟩ | ⟨lights, kept⟩
  · exact
      .inl
        ⟨lights.same hardware power locked lockShown front blink,
          power ▸ kept⟩
  · exact
      .inr
        ⟨lights.same hardware power locked lockShown front blink,
          power ▸ kept⟩

/-- An input that wakes the screen. -/
theorem InputsLight.wakeScreen
    (holds : ui.InputsLight works nowMs since after) :
    ui.InputsLight works nowMs since (after.wakeScreen nowMs) := by
  rcases holds with ⟨lights, -, -⟩ | ⟨lights, -, -⟩
  · exact .inr ⟨lights.wakeScreen, rfl, rfl⟩
  · exact .inr ⟨lights.wakeScreen, rfl, rfl⟩

/-- An input to a screen that is awake. -/
theorem InputsLight.noted
    (holds : ui.InputsLight works nowMs since after)
    (awake : after.power.asleep = false) :
    ui.InputsLight works nowMs since
      { after with
        power := { after.power with lastActivityMs := nowMs } } := by
  have lights : after.Lights works nowMs none := by
    rcases holds with ⟨lights, -, -⟩ | ⟨lights, -, -⟩
    · rw [lights.quiet awake] at lights
      exact lights
    · exact lights
  exact
    .inr
      ⟨⟨lights.takes, fun all => (lights.written all).touched nowMs _,
        lights.keyboard, lights.front, lights.covers, lights.blinks,
        fun _ => rfl⟩, awake, rfl⟩

/-- A touch. -/
theorem InputsLight.handleTouch
    (holds : ui.InputsLight works nowMs since after)
    (event : TouchEvent)
    (taps : List Tap) :
    ui.InputsLight works nowMs since
      (after.handleTouch nowMs event taps) := by
  rcases after.handleTouch_cases nowMs event taps with
    ⟨-, result⟩ | ⟨awake, -, result⟩ | ⟨awake, -, result⟩
  · rw [result]
    exact holds.wakeScreen.same rfl rfl rfl rfl rfl rfl
  · rw [result]
    exact (holds.noted awake).same rfl rfl rfl rfl rfl rfl
  · obtain ⟨app, digits, confirm, -, results⟩ := taps_eq _ taps
    rw [result, results]
    exact (holds.noted awake).same rfl rfl rfl rfl rfl rfl

/-- The inputs of a turn either leave the screen and the blinking, or find or make
the screen awake just now. -/
theorem Lights.takeInputs
    (lights : ui.Lights works nowMs since)
    {turn : UiTurn}
    (isNow : turn.nowMs = nowMs) :
    ui.InputsLight works nowMs since (ui.takeInputs turn) := by
  subst isNow
  refine
    @takeInputs_induction
      (ui.InputsLight works turn.nowMs since) turn ?_ ?_ ?_ ?_
      ui (.inl ⟨lights, rfl, rfl⟩)
  · intro after reading driver event taps holds _ _
    have read :
        ui.InputsLight works turn.nowMs since
          { after with touch := driver } :=
      holds.same rfl rfl rfl rfl rfl rfl
    exact read.handleTouch event taps
  · intro after byte draft _ holds
    unfold handleKey
    split
    · exact holds.wakeScreen
    · rename_i awake
      have noted := holds.noted (Bool.eq_false_iff.mpr awake)
      simp only
      split
      · exact noted
      · exact noted.same rfl rfl rfl rfl rfl rfl
  · intro after driver holds
    exact holds.same rfl rfl rfl rfl rfl rfl
  · intro after showContacts event holds
    unfold handleRoll
    split
    · exact holds.wakeScreen
    · rename_i awake
      have noted := holds.noted (Bool.eq_false_iff.mpr awake)
      simp only
      split
      · exact noted
      · exact noted.same rfl rfl rfl rfl rfl rfl

/-- What the time without input, the settings and the messages call for. -/
structure Settled
    (ui : UiRuntime)
    (nowMs : Nat)
    (since : Option Nat) :
    Prop where
  frontIsLock : ui.front = .lock ↔ ui.lockShown = true
  shownIsLocked : ui.lockShown = true → ui.lock.locked = true
  lockedIsShown :
    ui.lock.locked = true → ui.hardware.constructs .lockAgain = .shown →
      ui.lockShown = true
  idleIsLocked :
    lockEnabled ui.app.settings = true →
      ui.lock.locked = true ∨
        nowMs - ui.power.lastActivityMs <
          ui.app.settings.lockTimeoutS.toNat * 1000
  asleepIsDark :
    ui.power.asleep = true →
      ui.power.panelAsleep = true ∧ ui.power.displayOn = false ∧
        ui.power.brightness = 0 ∧ ui.power.keyboardLit = litAt since nowMs
  awakeIsLit :
    ui.power.asleep = false →
      ui.power.panelAsleep = false ∧ ui.power.displayOn = true ∧
        ui.power.keyboardLit = true ∧ since = none
  brightness :
    ui.power.asleep = false →
      (screenIdleAction (nowMs - ui.power.lastActivityMs)
              ui.app.settings.screenSleepTimeoutS dimLeadMs =
            .awake ∧
          ui.power.brightness =
            min ui.app.settings.backlightBrightness
              backlightBrightnessMaxPct) ∨
        screenIdleAction (nowMs - ui.power.lastActivityMs)
              ui.app.settings.screenSleepTimeoutS dimLeadMs =
            .dim ∧
          ui.power.brightness =
            min (dimBrightnessPct ui.app.settings.backlightBrightness)
              backlightBrightnessMaxPct

/-- A screen falls asleep only when it was not used for the time that the settings
name. -/
def SleepsInTime
    (ui next : UiRuntime)
    (nowMs : Nat) :
    Prop :=
  ui.power.asleep = false → next.power.asleep = true →
    next.app.settings.screenSleepTimeoutS ≠ 0 ∧
      next.power.lastActivityMs +
          next.app.settings.screenSleepTimeoutS.toNat * 1000 ≤
        nowMs

/-- The lock is on after it was turned on. -/
theorem locked_tripLock
    (ui : UiRuntime)
    (nowMs : Nat) :
    (ui.tripLock nowMs).lock.locked = true := by
  unfold UiRuntime.tripLock
  split
  · rename_i locked
    exact locked
  · obtain ⟨lockShown, lockDigits, front, result⟩ :=
      constructLockScreen_eq
        { ui with
          lock :=
            ui.lock.step
              { nowMs := nowMs
                action := .trip } }
        .lockOn
    rw [result]
    rfl

/-- The checks of the inactivity leave all but the power and the lock. -/
theorem idleChecks_eq
    (ui : UiRuntime)
    (nowMs : Nat) :
    (ui.idleChecks nowMs).app = ui.app ∧
      (ui.idleChecks nowMs).power =
        ui.power.idle ui.hardware.takes nowMs
          ui.app.settings.screenSleepTimeoutS ∧
      (ui.idleChecks nowMs).lock.locked =
        (ui.lock.locked ||
          idleLockDue (lockEnabled ui.app.settings) ui.lock.locked nowMs
            ui.power.lastActivityMs ui.app.settings.lockTimeoutS) := by
  unfold idleChecks
  cases due :
      idleLockDue (lockEnabled ui.app.settings) ui.lock.locked nowMs
        ui.power.lastActivityMs ui.app.settings.lockTimeoutS with
  | false =>
      refine ⟨rfl, rfl, ?_⟩
      exact (Bool.or_false _).symm
  | true =>
      simp only [if_true, Bool.or_true, locked_tripLock, and_true]
      obtain ⟨lock, lockShown, lockDigits, front, result⟩ :=
        tripLock_eq
          { ui with
            power :=
              ui.power.idle ui.hardware.takes nowMs
                ui.app.settings.screenSleepTimeoutS }
          nowMs
      rw [result]
      exact ⟨rfl, rfl⟩

/-- A lock that is not due is on, or the time without input is short. -/
theorem locked_of_idle
    {enabled locked : Bool}
    {lastActivityMs : Nat}
    {lockTimeoutS : UInt16}
    (isEnabled : enabled = true) :
    (locked ||
          idleLockDue enabled locked nowMs lastActivityMs lockTimeoutS) =
        true ∨
      nowMs - lastActivityMs < lockTimeoutS.toNat * 1000 := by
  rcases Nat.lt_or_ge (nowMs - lastActivityMs)
      (lockTimeoutS.toNat * 1000) with short | long
  · exact .inr short
  · refine .inl ?_
    cases locked with
    | true =>
        rfl
    | false =>
        rw [idleLockDue, isEnabled, decide_eq_true long]
        rfl

/-- A screen that is awake after the check was awake before. -/
theorem asleep_of_idle
    {power : ScreenPower}
    {takes : UiWrite → Bool}
    {timeoutS : UInt8}
    (awake : (power.idle takes nowMs timeoutS).asleep = false) :
    power.asleep = false ∧
      screenIdleAction (nowMs - power.lastActivityMs) timeoutS dimLeadMs ≠
        .sleep ∧
      (power.idle takes nowMs timeoutS).dimApplied =
        decide
          (screenIdleAction (nowMs - power.lastActivityMs) timeoutS
              dimLeadMs =
            .dim) := by
  rcases power.idle_cases takes nowMs timeoutS with
    ⟨asleep, result⟩ | ⟨wasAwake, ⟨-, result⟩ | ⟨stays, result⟩⟩
  · rw [result, asleep] at awake
    cases awake
  · rw [result] at awake
    cases awake
  · refine ⟨wasAwake, stays, ?_⟩
    rw [result]

/-- The checks of the inactivity. -/
theorem Lights.idleChecks
    (lights : ui.Lights works nowMs since) :
    (ui.idleChecks nowMs).Lights works nowMs since := by
  obtain ⟨lit, applied, -⟩ :=
    ui.power.idle_fields ui.hardware.takes nowMs
      ui.app.settings.screenSleepTimeoutS
  have idled :
      ({ ui with
          power :=
            ui.power.idle ui.hardware.takes nowMs
              ui.app.settings.screenSleepTimeoutS } :
        UiRuntime).Lights works nowMs since :=
    { takes := lights.takes
      written := fun all =>
        (lights.written all).idle
          (fun write => lights.takes write (all write)) nowMs _
      keyboard := fun keyboardWorks =>
        lit.trans ((lights.keyboard keyboardWorks).trans applied.symm)
      front := lights.front
      covers := lights.covers
      blinks := lights.blinks
      quiet := fun awake => lights.quiet (asleep_of_idle awake).1 }
  unfold UiRuntime.idleChecks
  split
  · exact idled.tripLock
  · exact idled

/-- The light of the keyboard that the arbiter asks for. -/
theorem Lights.keyboardLight
    (lights : ui.Lights works nowMs since) :
    (if ui.power.asleep then ui.notif.pollBlink nowMs
          else (ui.notif, true)).1.blink.BlinksSince since nowMs ∧
      (if ui.power.asleep then ui.notif.pollBlink nowMs
          else (ui.notif, true)).2 =
        (!ui.power.asleep || litAt since nowMs) := by
  cases isAsleep : ui.power.asleep with
  | true =>
      exact lights.blinks.poll
  | false =>
      exact ⟨lights.blinks, rfl⟩

/-- The arbiters leave a screen awake or asleep, and the clock of the activity. -/
theorem syncLights_power
    (ui : UiRuntime)
    (nowMs : Nat) :
    (ui.syncLights nowMs).power.asleep = ui.power.asleep ∧
      (ui.syncLights nowMs).power.lastActivityMs =
        ui.power.lastActivityMs := by
  have keyboard :
      ∀ lit,
        (ui.power.syncKeyboard ui.hardware.takes lit).asleep =
            ui.power.asleep ∧
          (ui.power.syncKeyboard ui.hardware.takes lit).lastActivityMs =
            ui.power.lastActivityMs := by
    intro lit
    unfold ScreenPower.syncKeyboard
    split <;> exact ⟨rfl, rfl⟩
  obtain ⟨asleep, activity, -⟩ :=
    ScreenPower.syncBrightness_fields
      (ui.power.syncKeyboard ui.hardware.takes
        (if ui.power.asleep then ui.notif.pollBlink nowMs
          else (ui.notif, true)).2)
      ui.hardware.takes ui.app.settings.backlightBrightness
  exact ⟨asleep.trans (keyboard _).1, activity.trans (keyboard _).2⟩

/-- The arbiters light the keyboard as the notifications ask and the display as the
settings do, if the writes work. -/
theorem Lights.syncLights
    (lights : ui.Lights works nowMs since) :
    (ui.syncLights nowMs).Lights works nowMs since ∧
      (works .keyboardLight →
        (ui.syncLights nowMs).power.keyboardLit =
          (!ui.power.asleep || litAt since nowMs)) ∧
      ((∀ write, works write) → ui.power.asleep = false →
        (ui.syncLights nowMs).power.brightness =
          min
            (if ui.power.dimApplied then
              dimBrightnessPct ui.app.settings.backlightBrightness
            else
              ui.app.settings.backlightBrightness)
            backlightBrightnessMaxPct) := by
  have keyboard := lights.keyboardLight
  have sameAsleep := (ui.syncLights_power nowMs).1
  unfold UiRuntime.syncLights at sameAsleep ⊢
  generalize
    (if ui.power.asleep then ui.notif.pollBlink nowMs
      else (ui.notif, true)) = light at keyboard sameAsleep ⊢
  obtain ⟨notif, lit⟩ := light
  obtain ⟨blinks, isLight⟩ := keyboard
  simp only at sameAsleep ⊢
  obtain ⟨-, -, keyboardLit, kbBacklightOn⟩ :=
    ScreenPower.syncBrightness_fields
      (ui.power.syncKeyboard ui.hardware.takes lit)
      ui.hardware.takes ui.app.settings.backlightBrightness
  have lighted :
      works .keyboardLight →
        ui.power.syncKeyboard ui.hardware.takes lit =
          { ui.power with
            keyboardLit := lit
            kbBacklightOn := lit } :=
    fun keyboardWorks =>
      ScreenPower.syncKeyboard_eq (lights.takes _ keyboardWorks)
        (lights.keyboard keyboardWorks) lit
  have synced :
      (∀ write, works write) →
        ((ui.power.syncKeyboard ui.hardware.takes lit).syncBrightness
            ui.hardware.takes
            ui.app.settings.backlightBrightness).Written ∧
          (ui.power.asleep = false →
            ((ui.power.syncKeyboard ui.hardware.takes lit).syncBrightness
                  ui.hardware.takes
                  ui.app.settings.backlightBrightness
                ).backlightBrightnessApplied =
              if ui.power.dimApplied then
                dimBrightnessPct ui.app.settings.backlightBrightness
              else
                ui.app.settings.backlightBrightness) := by
    intro all
    have written :
        ({ ui.power with
            keyboardLit := lit
            kbBacklightOn := lit } : ScreenPower).Written :=
      ⟨(lights.written all).dark, (lights.written all).lit⟩
    rw [lighted (all _)]
    exact
      written.syncBrightness (fun write => lights.takes write (all write)) _
  refine ⟨⟨lights.takes, fun all => (synced all).1, ?_, lights.front,
    lights.covers, blinks, ?_⟩, ?_, ?_⟩
  · intro keyboardWorks
    refine keyboardLit.trans (Eq.trans ?_ kbBacklightOn.symm)
    rw [lighted keyboardWorks]
  · intro awake
    exact lights.quiet (sameAsleep.symm.trans awake)
  · intro keyboardWorks
    refine keyboardLit.trans ?_
    rw [lighted keyboardWorks]
    exact isLight
  · intro all awake
    obtain ⟨written, applied⟩ := synced all
    have shown := (written.lit (sameAsleep.trans awake)).2.2
    rw [applied awake] at shown
    exact shown

/-- Putting the lock in front again leaves all but its screen. -/
theorem afterInputs_eq
    (ui : UiRuntime)
    (nowMs : Nat) :
    (ui.afterInputs nowMs).app = ui.app ∧
      (ui.afterInputs nowMs).power =
        ((ui.idleChecks nowMs).syncLights nowMs).power ∧
      (ui.afterInputs nowMs).lock = (ui.idleChecks nowMs).lock := by
  obtain ⟨lockShown, lockDigits, front, result⟩ :=
    ((ui.idleChecks nowMs).syncLights nowMs).reassertLock_eq
  have after :
      ui.afterInputs nowMs =
        ((ui.idleChecks nowMs).syncLights nowMs).reassertLock :=
    rfl
  rw [after, result]
  exact ⟨(ui.idleChecks_eq nowMs).1, rfl, rfl⟩

/-- The end of a turn leaves the clock of the activity, and puts a screen to sleep only
in time. -/
theorem afterInputs_power
    (ui : UiRuntime)
    (nowMs : Nat) :
    (ui.afterInputs nowMs).power.asleep =
        (ui.power.idle ui.hardware.takes nowMs
          ui.app.settings.screenSleepTimeoutS).asleep ∧
      (ui.afterInputs nowMs).power.lastActivityMs =
        ui.power.lastActivityMs := by
  obtain ⟨-, power, -⟩ := ui.afterInputs_eq nowMs
  obtain ⟨asleep, activity⟩ := (ui.idleChecks nowMs).syncLights_power nowMs
  obtain ⟨-, idled, -⟩ := ui.idleChecks_eq nowMs
  rw [power, asleep, activity, idled]
  exact ⟨rfl, (ui.power.idle_fields _ nowMs _).2.2⟩

/-- The end of a turn puts a screen to sleep only in time. -/
theorem sleepsInTime_afterInputs
    (ui : UiRuntime)
    (nowMs : Nat) :
    ui.SleepsInTime (ui.afterInputs nowMs) nowMs := by
  intro awake asleep
  obtain ⟨sameApp, -, -⟩ := ui.afterInputs_eq nowMs
  obtain ⟨isIdle, activity⟩ := ui.afterInputs_power nowMs
  rw [isIdle] at asleep
  rw [sameApp, activity]
  rcases ui.power.idle_cases ui.hardware.takes nowMs
      ui.app.settings.screenSleepTimeoutS with
    ⟨wasAsleep, -⟩ | ⟨-, ⟨sleeps, -⟩ | ⟨-, result⟩⟩
  · rw [awake] at wasAsleep
    cases wasAsleep
  · obtain ⟨someTime, isLong⟩ := screenIdleAction_eq_sleep sleeps
    have positive : ui.app.settings.screenSleepTimeoutS.toNat ≠ 0 :=
      fun zero => someTime (UInt8.toNat_inj.mp zero)
    exact ⟨someTime, by omega⟩
  · rw [result] at asleep
    exact absurd (awake.symm.trans asleep) Bool.false_ne_true

/-- A lock that is on is in front, unless its screen could not be made. -/
theorem front_reassertLock
    (locked : ui.lock.locked = true) :
    (ui.reassertLock.lockShown = true → ui.reassertLock.front = .lock) ∧
      (ui.hardware.constructs .lockAgain = .shown →
        ui.reassertLock.lockShown = true) := by
  unfold UiRuntime.reassertLock
  rw [if_pos locked]
  simp only
  constructor
  · split
    · exact fun _ => rfl
    · rename_i notShown
      exact fun isShown => absurd isShown notShown
  · intro shown
    have made : (ui.constructLockScreen .lockAgain).lockShown = true := by
      unfold UiRuntime.constructLockScreen
      split
      · rename_i isShown
        exact isShown
      · rw [shown]
    rw [if_pos made]
    exact made

/-- The end of a turn. -/
theorem Lights.afterInputs
    (lights : ui.Lights works nowMs since) :
    (ui.afterInputs nowMs).Lights works nowMs since ∧
      (works .keyboardLight →
        (ui.afterInputs nowMs).power.keyboardLit =
          (!(ui.afterInputs nowMs).power.asleep ||
            litAt since nowMs)) := by
  obtain ⟨synced, lit, -⟩ := lights.idleChecks.syncLights
  obtain ⟨-, power, -⟩ := ui.afterInputs_eq nowMs
  refine ⟨synced.reassertLock, ?_⟩
  rw [power, ((ui.idleChecks nowMs).syncLights_power nowMs).1]
  exact lit

/-- The end of a turn settles the lights. -/
theorem Lights.settles
    (lights : ui.Lights works nowMs since)
    (all : ∀ write, works write) :
    (ui.afterInputs nowMs).Settled nowMs since := by
  obtain ⟨ended, lit⟩ := lights.afterInputs
  have keyboardLit := lit (all _)
  obtain ⟨-, -, brightness⟩ := lights.idleChecks.syncLights
  obtain ⟨sameApp, samePower, sameLock⟩ := ui.afterInputs_eq nowMs
  obtain ⟨isIdle, activity⟩ := ui.afterInputs_power nowMs
  obtain ⟨idleApp, idlePower, idleLocked⟩ := ui.idleChecks_eq nowMs
  have written := ended.written all
  refine
    { frontIsLock := ⟨ended.front, ?_⟩
      shownIsLocked := ended.covers
      lockedIsShown := ?_
      idleIsLocked := ?_
      asleepIsDark := ?_
      awakeIsLit := ?_
      brightness := ?_ }
  · intro isShown
    have locked := ended.covers isShown
    rw [sameLock] at locked
    exact
      (@front_reassertLock ((ui.idleChecks nowMs).syncLights nowMs)
        locked).1 isShown
  · intro locked shown
    rw [sameLock] at locked
    refine
      (@front_reassertLock ((ui.idleChecks nowMs).syncLights nowMs)
        locked).2 ?_
    obtain ⟨_, _, _, result⟩ :=
      ((ui.idleChecks nowMs).syncLights nowMs).reassertLock_eq
    change UiHardware.constructs (UiRuntime.reassertLock _).hardware _ = _
      at shown
    rw [result] at shown
    exact shown
  · intro enabled
    rw [sameLock, activity, idleLocked, sameApp]
    rw [sameApp] at enabled
    exact locked_of_idle enabled
  · intro asleep
    obtain ⟨panel, display, dark⟩ := written.dark asleep
    rw [asleep] at keyboardLit
    exact ⟨panel, display, dark, keyboardLit⟩
  · intro awake
    obtain ⟨panel, display, -⟩ := written.lit awake
    rw [awake] at keyboardLit
    exact ⟨panel, display, keyboardLit, ended.quiet awake⟩
  · intro awake
    rw [isIdle] at awake
    obtain ⟨-, notSleep, dimmed⟩ := asleep_of_idle awake
    have shown := brightness all (idlePower ▸ awake)
    rw [idleApp, idlePower, dimmed] at shown
    rw [samePower, shown, sameApp, ← samePower, activity]
    cases action :
        screenIdleAction (nowMs - ui.power.lastActivityMs)
          ui.app.settings.screenSleepTimeoutS dimLeadMs with
    | sleep =>
        exact absurd action notSleep
    | dim =>
        exact .inr ⟨rfl, rfl⟩
    | awake =>
        exact .inl ⟨rfl, rfl⟩

/-- With input less than a second ago the screen does not go to sleep. -/
theorem idle_of_recent
    {power : ScreenPower}
    (awake : power.asleep = false)
    (recent : nowMs < power.lastActivityMs + 1000)
    (takes : UiWrite → Bool)
    (timeoutS : UInt8) :
    (power.idle takes nowMs timeoutS).asleep = false := by
  rcases power.idle_cases takes nowMs timeoutS with
    ⟨asleep, -⟩ | ⟨-, ⟨sleeps, -⟩ | ⟨-, result⟩⟩
  · rw [awake] at asleep
    cases asleep
  · obtain ⟨someTime, isLong⟩ := screenIdleAction_eq_sleep sleeps
    have positive : timeoutS.toNat ≠ 0 := fun zero =>
      someTime (UInt8.toNat_inj.mp zero)
    omega
  · rw [result]
    exact awake

/-- The time since which the keyboard blinks after a turn. -/
def sinceTurn
    (ui next : UiRuntime)
    (since : Option Nat)
    (turn : UiTurn) :
    Option Nat :=
  if next.power.asleep then
    sinceAfter (ui.blinksFor turn.input) since turn.nowMs
  else
    none

/-- The end of a turn, whatever the inputs were. -/
theorem InputsLight.afterInputs
    (holds : ui.InputsLight works nowMs since after) :
    ∃ later,
      after.Lights works nowMs later ∧
        later =
          if (after.afterInputs nowMs).power.asleep then since else none := by
  rcases holds with ⟨lights, -, -⟩ | ⟨lights, awake, isNow⟩
  · obtain ⟨ended, -⟩ := lights.afterInputs
    refine ⟨since, lights, ?_⟩
    split
    · rfl
    · rename_i isAwake
      exact ended.quiet (Bool.eq_false_iff.mpr isAwake)
  · refine ⟨none, lights, ?_⟩
    have staysAwake :
        (after.afterInputs nowMs).power.asleep = false := by
      rw [(after.afterInputs_power nowMs).1]
      exact idle_of_recent awake (by omega) _ _
    rw [staysAwake]
    rfl

/-- The end of a turn puts a screen to sleep only in time, whatever the inputs were. -/
theorem InputsLight.sleepsInTime
    (holds : ui.InputsLight works nowMs since after) :
    ui.SleepsInTime (after.afterInputs nowMs) nowMs := by
  intro awake
  refine after.sleepsInTime_afterInputs nowMs ?_
  rcases holds with ⟨-, same, -⟩ | ⟨-, isAwake, -⟩
  · exact same.trans awake
  · exact isAwake

/-- A turn keeps the lights.  It settles them when the writes work. -/
theorem Lights.step
    (lights : ui.Lights works earlierMs since)
    (silent : ui.app.posted = [])
    (expand : String → String)
    {turn : UiTurn}
    (takes : turn.hardware.Takes works)
    (ordered : earlierMs ≤ turn.nowMs) :
    let next := ui.step expand turn
    let later := ui.sinceTurn next since turn
    next.Lights works turn.nowMs later ∧
      (works .keyboardLight →
        next.power.keyboardLit =
          (!next.power.asleep || litAt later turn.nowMs)) ∧
      ((∀ write, works write) → next.Settled turn.nowMs later) ∧
      ui.SleepsInTime next turn.nowMs := by
  obtain ⟨before, sameAsleep⟩ :=
    lights.beforeInputs expand takes silent ordered
  have inputs := before.takeInputs (@rfl _ turn.nowMs)
  obtain ⟨later, lighted, isLater⟩ := inputs.afterInputs
  have isSince :
      ui.sinceTurn (ui.step expand turn) since turn = later :=
    isLater.symm
  simp only
  rw [isSince]
  obtain ⟨ended, keyboardLit⟩ := lighted.afterInputs
  refine ⟨ended, keyboardLit, lighted.settles, ?_⟩
  intro awake
  exact inputs.sleepsInTime (sameAsleep.trans awake)

/-- Nothing that was posted waits after a turn. -/
theorem posted_step
    (expand : String → String)
    (ui : UiRuntime)
    (turn : UiTurn) :
    (ui.step expand turn).app.posted = [] := by
  have before : (ui.beforeInputs expand turn).app.posted = [] := by
    refine
      @handleEvents_induction (fun ui => ui.app.posted = []) turn.nowMs
        turn.input _ rfl ?_ (fun _ holds => holds)
    intro ui event _ none
    rw [handleEvent_app]
    cases event <;> exact none
  have answered := (ui.beforeInputs expand turn).answered_takeInputs turn
  rw [step, (afterInputs_eq _ turn.nowMs).1, answered.posted, before]

end UiRuntime

end MeshCadet
