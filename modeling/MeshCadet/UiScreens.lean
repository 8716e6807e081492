import MeshCadet.ConversationIsolation
import MeshCadet.Notifications
import MeshCadet.PinBackoff
import MeshCadet.SettingsBlob

namespace MeshCadet

/-!
# The screens and the way through them

A screen answers to taps, keys and the trackball by asking for another screen, which
is opened in the next turn of the loop, if it can be made.  The settings are behind a
PIN.  A draft is sent at once, and the conversation is opened again only after a while.
-/

open RuntimeSettingsStore

/-- The screen that the user works with, also while the lock covers it. -/
inductive ActiveScreen where
  | splash
  | unprovisioned
  | contactList
  | pinEntry
  | adminMenu
  | messageView
  | compose
  | gpsStatus
deriving Repr, DecidableEq

/-- What a screen asks for. -/
inductive Nav where
  | pinEntry
  | contactList
  | contactView
  | channelView
  | compose
  | send
  | composeCancelled
  | pinAccepted
  | gpsStatus
  | gpsBack
  | pinRejected
deriving Repr, DecidableEq

/-- The rows of the settings that are tapped. -/
inductive MenuTap where
  | toggleNotifVisual
  | toggleNotifAudible
  | decrementScreenSleepTimeout
  | incrementScreenSleepTimeout
  | toggleLockEnabled
  | decrementLockTimeout
  | incrementLockTimeout
  | decrementBacklightBrightness
  | incrementBacklightBrightness
deriving Repr, DecidableEq

/-- What a touch may set off on the screens. -/
inductive Tap where
  | settings
  | contact (hash : UInt8)
  | channel (hash : UInt8)
  | padDigit (digit : UInt8)
  | padBackspace
  | padConfirm
  | padCancel
  | menu (row : MenuTap)
  | openGpsStatus
  | write
  | send (text : String)
  | back
deriving Repr, DecidableEq

/-- What the trackball reports. -/
inductive TrackballEvent where
  | click
  | up
  | down
  | left
  | right
deriving Repr, DecidableEq

/-- What becomes of a screen: it is shown, it cannot be made and the window keeps the
one it has, or it is made but not shown and lost to the window. -/
inductive Construction where
  | shown
  | refused
  | lost
deriving Repr, DecidableEq

/-- Where a turn makes a screen: when the splash is over, when one was asked for, when
a draft was sent, and for the lock, with another try at the end of the turn. -/
inductive ScreenPlace where
  | splash
  | asked
  | afterSend
  | lockOn
  | lockAgain
deriving Repr, DecidableEq

/-- The most digits of a PIN that is entered. -/
def padDigits : Nat :=
  4

/-- Type a digit, unless there are enough. -/
def pushPadDigit
    (digits : List UInt8)
    (digit : UInt8) :
    List UInt8 :=
  if digits.length < padDigits then
    digits ++ [0x30 + digit]
  else
    digits

/-- Compare an entered PIN with the stored one, without an early return. -/
def verifyPin
    (entered : List UInt8)
    (storedPin : Vector UInt8 16)
    (storedPinLen : UInt8) :
    Bool :=
  let length := storedPinLen.toNat
  if length = 0 then
    false
  else
    let start : UInt8 := if entered.length ≠ length then 1 else 0
    let compared :=
      (List.range 16).foldl
        (fun mismatch i =>
          mismatch ||| (entered.getD i 0 ^^^ storedPin.toList.getD i 0))
        start
    (entered.drop length).foldl (· ||| ·) compared == 0

/-- The text that a key on a conversation opens a draft with. -/
def messageViewComposeSeed
    (byte : UInt8) :
    Option String :=
  if 0x20 ≤ byte ∧ byte ≤ 0x7E then
    some (String.singleton (Char.ofNat byte.toNat))
  else
    none

/-- Move a highlight; below zero, nothing is highlighted. -/
def rollSelection
    (current maxIdx : Int)
    (up : Bool) :
    Int :=
  if maxIdx < 0 then
    -1
  else if current < 0 then
    0
  else if up then
    max (current - 1) 0
  else
    min (current + 1) maxIdx

/-- The settings as the menu shows them. -/
structure AdminMenu where
  notifVisual : Bool
  notifAudible : Bool
  screenSleepTimeoutS : Int
  lockEnabled : Bool
  lockTimeoutS : Int
  backlightBrightness : Int
deriving Repr, DecidableEq

namespace AdminMenu

/-- The menu when it is opened. -/
def ofSettings
    (settings : RuntimeSettings) :
    AdminMenu :=
  { notifVisual := settings.notifVisual
    notifAudible := settings.notifAudible
    screenSleepTimeoutS := settings.screenSleepTimeoutS.toNat
    lockEnabled := settings.lockFlags &&& lockScreenEnable ≠ 0
    lockTimeoutS := settings.lockTimeoutS.toNat
    backlightBrightness := settings.backlightBrightness.toNat }

/-- The menu after a tap, and what it does with the settings. -/
def tap
    (menu : AdminMenu) :
    MenuTap → AdminMenu × MenuAction
  | .toggleNotifVisual =>
      let value := !menu.notifVisual
      ({ menu with notifVisual := value }, .setNotifVisual value)
  | .toggleNotifAudible =>
      let value := !menu.notifAudible
      ({ menu with notifAudible := value }, .setNotifAudible value)
  | .decrementScreenSleepTimeout =>
      let value := max (menu.screenSleepTimeoutS - 5) 0
      ({ menu with screenSleepTimeoutS := value },
        .setScreenSleepTimeout (UInt8.ofInt (max value 0)))
  | .incrementScreenSleepTimeout =>
      let value := min (menu.screenSleepTimeoutS + 5) 120
      ({ menu with screenSleepTimeoutS := value },
        .setScreenSleepTimeout (UInt8.ofInt (min value 120)))
  | .toggleLockEnabled =>
      let value := !menu.lockEnabled
      ({ menu with lockEnabled := value }, .setLockEnabled value)
  | .decrementLockTimeout =>
      let value := max (menu.lockTimeoutS - 15) lockTimeoutMinS.toNat
      ({ menu with lockTimeoutS := value },
        .setLockTimeout (UInt16.ofInt (max value 0)))
  | .incrementLockTimeout =>
      let value := min (menu.lockTimeoutS + 15) lockTimeoutMaxS.toNat
      ({ menu with lockTimeoutS := value },
        .setLockTimeout (UInt16.ofInt (max value 0)))
  | .decrementBacklightBrightness =>
      let value :=
        max (menu.backlightBrightness - 10) backlightBrightnessMinPct.toNat
      ({ menu with backlightBrightness := value },
        .setBacklightBrightness (UInt8.ofInt (max value 0)))
  | .incrementBacklightBrightness =>
      let value :=
        min (menu.backlightBrightness + 10) backlightBrightnessMaxPct.toNat
      ({ menu with backlightBrightness := value },
        .setBacklightBrightness (UInt8.ofInt (min value 100)))

/-- The row that a click on the highlighted one taps. -/
def row : Int → Option MenuTap
  | 0 => some .toggleNotifVisual
  | 1 => some .toggleNotifAudible
  | 2 => some .incrementScreenSleepTimeout
  | 3 => some .toggleLockEnabled
  | 4 => some .incrementLockTimeout
  | 5 => some .incrementBacklightBrightness
  | _ => none

end AdminMenu

/-- The splash is over when its animation ran long enough, or at the latest after
some time. -/
def splashShouldDismiss
    (elapsedMs : Nat)
    (animationElapsedMs : Option Nat)
    (minMs maxMs : Nat) :
    Bool :=
  animationElapsedMs.any (fun ms => minMs ≤ ms) || maxMs ≤ elapsedMs

/-- The least time of the splash's animation. -/
def splashMinMs : Nat :=
  1600

/-- The longest time of the splash. -/
def splashMaxMs : Nat :=
  2400

/-- How long the sent draft stays on the screen. -/
def sendNavDeferMs : Nat :=
  450

/--
What the device does for its user: the conversations, the settings, the screen with
what it asks for, and the PIN in front of the menu.  The field `confirmedPin` records
the digits last confirmed for the menu, until the entry or the contact list is opened
again, and `composeDraft` the text that a draft was last opened with.
-/
structure UiApp where
  convo : ConversationUi
  posted : List ConversationEvent
  settings : RuntimeSettings
  screen : ActiveScreen
  pendingNav : Option Nav
  pendingNavHash : UInt8
  deferredNavAtMs : Option Nat
  pendingComposeText : Option String
  pendingComposeSeed : Option String
  composeDraft : String
  contactListSelected : Int
  adminMenuSelected : Int
  menu : AdminMenu
  storedPin : Vector UInt8 16
  storedPinLen : UInt8
  entryPin : Vector UInt8 16
  entryPinLen : UInt8
  pinDigits : List UInt8
  confirmedPin : Option (List UInt8)
  isProvisioned : Bool
  splashStartedMs : Option Nat
  splashAnimationStartedMs : Option Nat
  splashDismissAttempted : Bool

namespace UiApp

/-- The device starts with the splash. -/
def new
    (isProvisioned : Bool) :
    UiApp :=
  { convo := .new
    posted := []
    settings := defaultEnabled
    screen := .splash
    pendingNav := none
    pendingNavHash := 0
    deferredNavAtMs := none
    pendingComposeText := none
    pendingComposeSeed := none
    composeDraft := ""
    contactListSelected := -1
    adminMenuSelected := -1
    menu := .ofSettings defaultEnabled
    storedPin := Vector.replicate 16 0
    storedPinLen := 0
    entryPin := Vector.replicate 16 0
    entryPinLen := 0
    pinDigits := []
    confirmedPin := none
    isProvisioned := isProvisioned
    splashStartedMs := none
    splashAnimationStartedMs := none
    splashDismissAttempted := false }

/-- The PIN that was provisioned, with its length. -/
def provisionedPin
    (app : UiApp) :
    Vector UInt8 16 × UInt8 :=
  (app.storedPin, app.storedPinLen)

/-- The PIN that the entry compares with, with its length. -/
def padPin
    (app : UiApp) :
    Vector UInt8 16 × UInt8 :=
  (app.entryPin, app.entryPinLen)

/-- A screen takes the place of the one before it only when it is shown. -/
def present
    (app : UiApp)
    (made : Construction)
    (shown : UiApp) :
    UiApp × Option Construction :=
  (if made = .shown then shown else app, some made)

/-- Ask for the PIN. -/
def navigateToPinEntry
    (app : UiApp)
    (made : Construction) :
    UiApp × Option Construction :=
  app.present made
    { app with
      screen := .pinEntry
      pinDigits := []
      entryPin := app.storedPin
      entryPinLen := app.storedPinLen
      confirmedPin := none }

/-- Open the settings, with nothing highlighted. -/
def navigateToAdminMenu
    (app : UiApp)
    (made : Construction) :
    UiApp × Option Construction :=
  let unmarked := { app with adminMenuSelected := -1 }
  unmarked.present made
    { unmarked with
      screen := .adminMenu
      menu := .ofSettings app.settings }

/-- Open the status of the positioning. -/
def navigateToGpsStatus
    (app : UiApp)
    (made : Construction) :
    UiApp × Option Construction :=
  app.present made { app with screen := .gpsStatus }

/-- Open the contact list; no conversation is open any more, even if the list cannot
be shown. -/
def navigateToContactList
    (app : UiApp)
    (made : Construction) :
    UiApp × Option Construction :=
  let closed :=
    { app with
      convo := app.convo.navigateToContactList
      pinDigits := []
      contactListSelected := -1 }
  closed.present made
    { closed with
      screen := .contactList
      confirmedPin := none }

/-- Open a conversation; it counts as read even if it cannot be shown. -/
def navigateToMessageView
    (app : UiApp)
    (hash : UInt8)
    (isChannel : Bool)
    (made : Construction) :
    UiApp × Option Construction :=
  let read :=
    { app with convo := app.convo.navigateToMessageView hash isChannel }
  read.present made { read with screen := .messageView }

/-- Open the conversation again. -/
def returnToMessageView
    (app : UiApp)
    (made : Construction) :
    UiApp × Option Construction :=
  match app.convo.activeConvo with
  | some (hash, isChannel) => app.navigateToMessageView hash isChannel made
  | none => (app, none)

/-- Write a message in the open conversation, from the key that was typed on it.  The
key is taken first, so no failure leaves it to a later draft. -/
def navigateToCompose
    (app : UiApp)
    (made : Construction) :
    UiApp × Option Construction :=
  let taken := { app with pendingComposeSeed := none }
  match app.convo.activeConvo with
  | some _ =>
      taken.present made
        { taken with
          screen := .compose
          composeDraft := app.pendingComposeSeed.getD "" }
  | none => (taken, none)

/-- The splash was seen long enough. -/
def splashIsOver
    (app : UiApp)
    (nowMs : Nat) :
    Bool :=
  !app.splashDismissAttempted && app.screen = .splash &&
    splashShouldDismiss (nowMs - app.splashStartedMs.getD nowMs)
      (app.splashAnimationStartedMs.map fun startMs => nowMs - startMs)
      splashMinMs splashMaxMs

/-- Open the first screen after the splash. -/
def dismissSplash
    (app : UiApp)
    (made : Construction) :
    UiApp × Option Construction :=
  let attempted := { app with splashDismissAttempted := true }
  if app.isProvisioned then
    attempted.navigateToContactList made
  else
    attempted.present made { attempted with screen := .unprovisioned }

/-- The splash's clock starts with the first turn. -/
def startSplash
    (app : UiApp)
    (nowMs : Nat) :
    UiApp :=
  { app with splashStartedMs := some (app.splashStartedMs.getD nowMs) }

/-- The splash is dismissed when it is over, with one attempt. -/
def splashTurn
    (app : UiApp)
    (nowMs : Nat)
    (made : Construction) :
    UiApp × Option Construction :=
  let app := app.startSplash nowMs
  if app.splashIsOver nowMs then
    app.dismissSplash made
  else
    (app, none)

/-- Start the splash's animation, unless it runs or the splash is gone. -/
def runSplashRipple
    (app : UiApp)
    (startMs : Nat) :
    UiApp :=
  if app.splashAnimationStartedMs.isSome ∨ app.screen ≠ .splash then
    app
  else
    { app with splashAnimationStartedMs := some startMs }

/-- Send the draft in the open conversation; a refusal is posted. -/
def sendDraft
    (expand : String → String)
    (app : UiApp)
    (nowMs : Nat) :
    UiApp :=
  let taken := { app with pendingComposeText := none }
  match app.pendingComposeText, app.convo.activeConvo with
  | some text, some (hash, isChannel) =>
      let (convo, outcome) :=
        app.convo.onSendMessage expand hash isChannel text
          (UInt64.ofNat nowMs)
      { taken with
        convo := convo
        posted :=
          match outcome with
          | .refused roomHash reason =>
              app.posted ++ [.roomPostRefused roomHash reason]
          | _ => app.posted }
  | _, _ => taken

/-- Do what a screen asked for, with what became of the screen it opens. -/
def dispatchNav
    (expand : String → String)
    (app : UiApp)
    (nowMs : Nat)
    (made : Construction) :
    Nav → UiApp × Option Construction
  | .pinEntry => app.navigateToPinEntry made
  | .contactList => app.navigateToContactList made
  | .contactView => app.navigateToMessageView app.pendingNavHash false made
  | .channelView => app.navigateToMessageView app.pendingNavHash true made
  | .compose => app.navigateToCompose made
  | .send =>
      ({ app.sendDraft expand nowMs with
          deferredNavAtMs := some (nowMs + sendNavDeferMs) },
        none)
  | .composeCancelled => app.returnToMessageView made
  | .pinAccepted => app.navigateToAdminMenu made
  | .gpsStatus => app.navigateToGpsStatus made
  | .gpsBack => app.navigateToAdminMenu made
  | .pinRejected => (app, none)

/-- Take what a screen asked for; anything asked for replaces a deferred return. -/
def navTurn
    (expand : String → String)
    (app : UiApp)
    (nowMs : Nat)
    (made : Construction) :
    UiApp × Option Construction :=
  match app.pendingNav with
  | none => (app, none)
  | some nav =>
      { app with
        pendingNav := none
        deferredNavAtMs := none }.dispatchNav expand nowMs made nav

/-- Return to the conversation a while after a draft was sent, if the screen is
still the one it was sent from. -/
def deferredTurn
    (app : UiApp)
    (nowMs : Nat)
    (made : Construction) :
    UiApp × Option Construction :=
  if app.deferredNavAtMs.any (fun atMs => atMs ≤ nowMs) then
    let app := { app with deferredNavAtMs := none }
    if app.screen = .compose then
      app.returnToMessageView made
    else
      (app, none)
  else
    (app, none)

/-- Dismiss the splash, do what was asked for, and return from a draft. -/
def openScreens
    (expand : String → String)
    (app : UiApp)
    (nowMs : Nat)
    (constructs : ScreenPlace → Construction) :
    UiApp :=
  let splashed := (app.splashTurn nowMs (constructs .splash)).1
  let navigated := (splashed.navTurn expand nowMs (constructs .asked)).1
  (navigated.deferredTurn nowMs (constructs .afterSend)).1

/-- What a tap does on the contact list. -/
def contactListTap
    (app : UiApp) :
    Tap → UiApp
  | .settings => { app with pendingNav := some .pinEntry }
  | .contact hash =>
      { app with
        pendingNavHash := hash
        pendingNav := some .contactView }
  | .channel hash =>
      { app with
        pendingNavHash := hash
        pendingNav := some .channelView }
  | _ => app

/-- What a tap does on the PIN pad. -/
def pinEntryTap
    (app : UiApp) :
    Tap → UiApp
  | .padDigit digit =>
      { app with pinDigits := pushPadDigit app.pinDigits digit }
  | .padBackspace => { app with pinDigits := app.pinDigits.dropLast }
  | .padConfirm =>
      let isRight := verifyPin app.pinDigits app.entryPin app.entryPinLen
      { app with
        pinDigits := []
        confirmedPin := some app.pinDigits
        pendingNav :=
          some (if isRight then .pinAccepted else .pinRejected) }
  | .padCancel => { app with pendingNav := some .contactList }
  | _ => app

/-- What a tap does on the menu. -/
def adminMenuTap
    (app : UiApp) :
    Tap → UiApp
  | .menu row =>
      let (menu, action) := app.menu.tap row
      { app with
        menu := menu
        settings := applyMenuAction action app.settings }
  | .openGpsStatus => { app with pendingNav := some .gpsStatus }
  | .back => { app with pendingNav := some .contactList }
  | _ => app

/-- What a tap does on a conversation. -/
def messageViewTap
    (app : UiApp) :
    Tap → UiApp
  | .write => { app with pendingNav := some .compose }
  | .back => { app with pendingNav := some .contactList }
  | _ => app

/-- What a tap does on a draft. -/
def composeTap
    (app : UiApp) :
    Tap → UiApp
  | .send text =>
      { app with
        pendingComposeText := some text
        pendingNav := some .send }
  | .back => { app with pendingNav := some .composeCancelled }
  | _ => app

/-- What a tap does on the screen; no screen answers to the taps of another one. -/
def tap
    (app : UiApp)
    (tap : Tap) :
    UiApp :=
  match app.screen with
  | .contactList => app.contactListTap tap
  | .pinEntry => app.pinEntryTap tap
  | .adminMenu => app.adminMenuTap tap
  | .messageView => app.messageViewTap tap
  | .compose => app.composeTap tap
  | .gpsStatus =>
      if tap = .back then { app with pendingNav := some .gpsBack }
      else app
  | .splash | .unprovisioned => app

/-- What a key does: a printable one opens a draft that starts with it, and return
sends the draft unless it is blank.  What other keys type is in the draft. -/
def key
    (app : UiApp)
    (byte : UInt8)
    (draft : String) :
    UiApp :=
  match app.screen with
  | .messageView =>
      match messageViewComposeSeed byte with
      | some seed =>
          { app with
            pendingComposeSeed := some seed
            pendingNav := some .compose }
      | none => app
  | .compose =>
      if (byte = 0x0D ∨ byte = 0x0A) ∧ ¬ isBlank draft then
        { app with
          pendingComposeText := some draft
          pendingNav := some .send }
      else
        app
  | _ => app

/-- What the trackball does: it highlights rows, taps the highlighted one, and goes
back. -/
def roll
    (app : UiApp)
    (showContacts : Bool)
    (event : TrackballEvent) :
    UiApp :=
  match app.screen with
  | .contactList =>
      let hashes :=
        if showContacts then
          app.convo.buildContactItems.map ListItem.hash
        else
          app.convo.buildChannelItems.map fun item => item.hash
      match event with
      | .click =>
          if app.contactListSelected < 0 then
            app
          else
            match hashes[app.contactListSelected.toNat]? with
            | some hash =>
                app.tap (if showContacts then .contact hash else .channel hash)
            | none => app
      | .up | .down =>
          let next :=
            rollSelection app.contactListSelected ((hashes.length : Int) - 1)
              (event = .up)
          if next < 0 then
            app
          else
            { app with contactListSelected := next }
      | .left | .right => app
  | .messageView =>
      match event with
      | .click => app.tap .write
      | .left => app.tap .back
      | .up | .down | .right => app
  | .adminMenu =>
      match event with
      | .click =>
          if app.adminMenuSelected = 6 then
            app.tap .openGpsStatus
          else
            match AdminMenu.row app.adminMenuSelected with
            | some row => app.tap (.menu row)
            | none => app
      | .up | .down =>
          { app with
            adminMenuSelected :=
              rollSelection app.adminMenuSelected 6 (event = .up) }
      | .left => app.tap .back
      | .right => app
  | .gpsStatus =>
      match event with
      | .left => app.tap .back
      | _ => app
  | _ => app

/-- Screens answer by asking for others, and on the pad, in the menu and with the
highlights; what is shown stays until the next turn. -/
structure Answered
    (app next : UiApp) :
    Prop where
  convo : next.convo = app.convo
  posted : next.posted = app.posted
  screen : next.screen = app.screen
  deferred : next.deferredNavAtMs = app.deferredNavAtMs
  draft : next.composeDraft = app.composeDraft
  provisionedPin : next.provisionedPin = app.provisionedPin
  padPin : next.padPin = app.padPin

/-- Nothing was answered. -/
theorem Answered.refl
    (app : UiApp) :
    Answered app app :=
  ⟨rfl, rfl, rfl, rfl, rfl, rfl, rfl⟩

/-- One answer after the other. -/
theorem Answered.trans
    {app next last : UiApp}
    (first : Answered app next)
    (second : Answered next last) :
    Answered app last :=
  ⟨second.convo.trans first.convo, second.posted.trans first.posted,
    second.screen.trans first.screen, second.deferred.trans first.deferred,
    second.draft.trans first.draft,
    second.provisionedPin.trans first.provisionedPin,
    second.padPin.trans first.padPin⟩

/-- The answer to a tap. -/
theorem answered_tap
    (app : UiApp)
    (tap : Tap) :
    Answered app (app.tap tap) := by
  unfold UiApp.tap
  split
  · cases tap <;> exact ⟨rfl, rfl, rfl, rfl, rfl, rfl, rfl⟩
  · cases tap <;> exact ⟨rfl, rfl, rfl, rfl, rfl, rfl, rfl⟩
  · cases tap <;> exact ⟨rfl, rfl, rfl, rfl, rfl, rfl, rfl⟩
  · cases tap <;> exact ⟨rfl, rfl, rfl, rfl, rfl, rfl, rfl⟩
  · cases tap <;> exact ⟨rfl, rfl, rfl, rfl, rfl, rfl, rfl⟩
  · split <;> exact ⟨rfl, rfl, rfl, rfl, rfl, rfl, rfl⟩
  all_goals exact Answered.refl app

/-- The answer to a key. -/
theorem answered_key
    (app : UiApp)
    (byte : UInt8)
    (draft : String) :
    Answered app (app.key byte draft) := by
  unfold UiApp.key
  split
  · split <;> exact ⟨rfl, rfl, rfl, rfl, rfl, rfl, rfl⟩
  · split <;> exact ⟨rfl, rfl, rfl, rfl, rfl, rfl, rfl⟩
  · exact .refl app

/-- What the trackball does is to highlight a row or to tap. -/
theorem roll_cases
    (app : UiApp)
    (showContacts : Bool)
    (event : TrackballEvent) :
    (∃ tap, app.roll showContacts event = app.tap tap) ∨
      ∃ contactListSelected adminMenuSelected,
        app.roll showContacts event =
          { app with
            contactListSelected := contactListSelected
            adminMenuSelected := adminMenuSelected } := by
  have stays :
      ∃ contactListSelected adminMenuSelected,
        app =
          { app with
            contactListSelected := contactListSelected
            adminMenuSelected := adminMenuSelected } :=
    ⟨app.contactListSelected, app.adminMenuSelected, rfl⟩
  unfold UiApp.roll
  split
  · simp only
    generalize
      (if showContacts = true then
          app.convo.buildContactItems.map ListItem.hash
        else
          app.convo.buildChannelItems.map fun item => item.hash) = hashes
    cases event with
    | click =>
        simp only
        split
        · exact .inr stays
        · split
          · exact .inl ⟨_, rfl⟩
          · exact .inr stays
    | up =>
        simp only
        split
        · exact .inr stays
        · exact .inr ⟨_, app.adminMenuSelected, rfl⟩
    | down =>
        simp only
        split
        · exact .inr stays
        · exact .inr ⟨_, app.adminMenuSelected, rfl⟩
    | left => exact .inr stays
    | right => exact .inr stays
  · cases event with
    | click => exact .inl ⟨.write, rfl⟩
    | left => exact .inl ⟨.back, rfl⟩
    | up => exact .inr stays
    | down => exact .inr stays
    | right => exact .inr stays
  · cases event with
    | click =>
        simp only
        split
        · exact .inl ⟨.openGpsStatus, rfl⟩
        · split
          · exact .inl ⟨_, rfl⟩
          · exact .inr stays
    | up => exact .inr ⟨app.contactListSelected, _, rfl⟩
    | down => exact .inr ⟨app.contactListSelected, _, rfl⟩
    | left => exact .inl ⟨.back, rfl⟩
    | right => exact .inr stays
  · cases event with
    | left => exact .inl ⟨.back, rfl⟩
    | _ => exact .inr stays
  · exact .inr stays

/-- The answer to the trackball. -/
theorem answered_roll
    (app : UiApp)
    (showContacts : Bool)
    (event : TrackballEvent) :
    Answered app (app.roll showContacts event) := by
  rcases app.roll_cases showContacts event with ⟨tap, result⟩ | ⟨_, _, result⟩
  · rw [result]
    exact app.answered_tap tap
  · rw [result]
    exact ⟨rfl, rfl, rfl, rfl, rfl, rfl, rfl⟩

/-- Screens are opened without changing the settings, and nothing is posted but
refusals of room posts. -/
structure Opened
    (app next : UiApp) :
    Prop where
  settings : next.settings = app.settings
  posted :
    ∀ event ∈ next.posted,
      event ∈ app.posted ∨
        ∃ hash reason, event = .roomPostRefused hash reason

/-- A screen is opened with nothing posted. -/
theorem Opened.same
    {app next : UiApp}
    (settings : next.settings = app.settings)
    (posted : next.posted = app.posted) :
    Opened app next := by
  refine ⟨settings, ?_⟩
  intro event isPosted
  exact .inl (posted ▸ isPosted)

/-- One screen after the other. -/
theorem Opened.trans
    {app next last : UiApp}
    (first : Opened app next)
    (second : Opened next last) :
    Opened app last where
  settings := second.settings.trans first.settings
  posted := by
    intro event posted
    rcases second.posted event posted with earlier | refusal
    · exact first.posted event earlier
    · exact .inr refusal

/-- A screen that is made. -/
theorem Opened.present
    {app left shown : UiApp}
    (stays : Opened app left)
    (opens : Opened app shown)
    (made : Construction) :
    Opened app (left.present made shown).1 := by
  unfold UiApp.present
  split
  · exact opens
  · exact stays

/-- A conversation that is opened. -/
theorem opened_navigateToMessageView
    (app : UiApp)
    (hash : UInt8)
    (isChannel : Bool)
    (made : Construction) :
    Opened app (app.navigateToMessageView hash isChannel made).1 := by
  refine .present ?_ ?_ made
  · exact .same rfl rfl
  · exact .same rfl rfl

/-- A screen that is opened again. -/
theorem opened_returnToMessageView
    (app : UiApp)
    (made : Construction) :
    Opened app (app.returnToMessageView made).1 := by
  unfold returnToMessageView
  split
  · exact app.opened_navigateToMessageView _ _ made
  · exact .same rfl rfl

/-- The splash. -/
theorem opened_splashTurn
    (app : UiApp)
    (nowMs : Nat)
    (made : Construction) :
    Opened app (app.splashTurn nowMs made).1 := by
  unfold splashTurn
  simp only
  split
  · unfold dismissSplash
    simp only
    split
    · refine .present ?_ ?_ made <;> exact .same rfl rfl
    · refine .present ?_ ?_ made <;> exact .same rfl rfl
  · exact .same rfl rfl

/-- A draft that is sent. -/
theorem opened_sendDraft
    (expand : String → String)
    (app : UiApp)
    (nowMs : Nat) :
    Opened app (app.sendDraft expand nowMs) := by
  unfold sendDraft
  simp only
  split
  · refine ⟨rfl, ?_⟩
    intro event posted
    dsimp only at posted
    split at posted
    · rename_i hash reason _
      rcases List.mem_append.mp posted with earlier | refusal
      · exact .inl earlier
      · exact .inr ⟨hash, reason, List.mem_singleton.mp refusal⟩
    · exact .inl posted
  · exact .same rfl rfl

/-- What was asked for. -/
theorem opened_navTurn
    (expand : String → String)
    (app : UiApp)
    (nowMs : Nat)
    (made : Construction) :
    Opened app (app.navTurn expand nowMs made).1 := by
  unfold navTurn
  split
  · exact .same rfl rfl
  · rename_i nav _
    have taken :
        Opened app
          { app with
            pendingNav := none
            deferredNavAtMs := none } :=
      .same rfl rfl
    refine taken.trans ?_
    cases nav with
    | compose =>
        unfold dispatchNav navigateToCompose
        simp only
        split
        · refine .present ?_ ?_ made <;> exact .same rfl rfl
        · exact .same rfl rfl
    | send =>
        have sent :=
          opened_sendDraft expand
            { app with
              pendingNav := none
              deferredNavAtMs := none } nowMs
        exact ⟨sent.settings, sent.posted⟩
    | composeCancelled => exact opened_returnToMessageView _ made
    | pinRejected => exact .same rfl rfl
    | _ => refine .present ?_ ?_ made <;> exact .same rfl rfl

/-- The return from a draft. -/
theorem opened_deferredTurn
    (app : UiApp)
    (nowMs : Nat)
    (made : Construction) :
    Opened app (app.deferredTurn nowMs made).1 := by
  unfold deferredTurn
  split
  · simp only
    split
    · have returned :=
        opened_returnToMessageView { app with deferredNavAtMs := none } made
      exact ⟨returned.settings, returned.posted⟩
    · exact .same rfl rfl
  · exact .same rfl rfl

/-- The screens that a turn opens. -/
theorem opened_openScreens
    (expand : String → String)
    (app : UiApp)
    (nowMs : Nat)
    (constructs : ScreenPlace → Construction) :
    Opened app (app.openScreens expand nowMs constructs) :=
  ((app.opened_splashTurn nowMs _).trans
    (opened_navTurn expand _ nowMs _)).trans
    (opened_deferredTurn _ nowMs _)

end UiApp

end MeshCadet
