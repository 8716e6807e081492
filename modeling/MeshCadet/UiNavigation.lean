import MeshCadet.UiLights

namespace MeshCadet

/-!
# The way through the screens over runs

A screen is opened in the turn after it was asked for, if it can be made, and only from
the screens that ask for it.  As long as every screen can be made, a conversation is
open exactly while its messages or a draft for it are on the screen; a draft is never
without a conversation.  The menu and what is behind it are on the screen only after
the right PIN.
-/

open RuntimeSettingsStore

/-- The screens that ask for another one. -/
def Nav.AskedFrom : Nav → ActiveScreen → Prop
  | .pinEntry, screen => screen = .contactList
  | .contactList, screen =>
      screen = .pinEntry ∨ screen = .adminMenu ∨ screen = .messageView
  | .contactView, screen => screen = .contactList
  | .channelView, screen => screen = .contactList
  | .compose, screen => screen = .messageView
  | .send, screen => screen = .compose
  | .composeCancelled, screen => screen = .compose
  | .pinAccepted, screen => screen = .pinEntry
  | .gpsStatus, screen => screen = .adminMenu
  | .gpsBack, screen => screen = .gpsStatus
  | .pinRejected, screen => screen = .pinEntry

/-- The screen after what was asked for is done. -/
def Nav.opens : Nav → ActiveScreen
  | .pinEntry => .pinEntry
  | .contactList => .contactList
  | .contactView => .messageView
  | .channelView => .messageView
  | .compose => .compose
  | .send => .compose
  | .composeCancelled => .messageView
  | .pinAccepted => .adminMenu
  | .gpsStatus => .gpsStatus
  | .gpsBack => .adminMenu
  | .pinRejected => .pinEntry

/-- What is asked for is behind the PIN. -/
def Nav.behindPin : Nav → Bool
  | .pinAccepted | .gpsStatus | .gpsBack => true
  | _ => false

/-- The screen is behind the PIN. -/
def ActiveScreen.behindPin : ActiveScreen → Bool
  | .adminMenu | .gpsStatus => true
  | _ => false

/-- The screens of the application are shown. -/
structure UiHardware.ShowsScreens
    (hardware : UiHardware) :
    Prop where
  splash : hardware.constructs .splash = .shown
  asked : hardware.constructs .asked = .shown
  afterSend : hardware.constructs .afterSend = .shown

/-- A conversation is on the screen. -/
def ActiveScreen.inConversation : ActiveScreen → Bool
  | .messageView | .compose => true
  | _ => false

namespace ConversationUi

/-- Events leave the open conversation. -/
theorem activeConvo_handleEvent
    (ui : ConversationUi)
    (nowMs : UInt64)
    (event : ConversationEvent) :
    (ui.handleEvent nowMs event).activeConvo = ui.activeConvo := by
  have bumped :
      ∀ (ui : ConversationUi) hash isChannel count,
        (ui.bumpUnread hash isChannel count).activeConvo =
          ui.activeConvo := by
    intro ui hash isChannel count
    unfold bumpUnread
    split <;> rfl
  cases event with
  | incomingDm fromHash fromName text => exact bumped _ _ _ _
  | incomingGroupMsg channelHash text => exact bumped _ _ _ _
  | roomPostLive roomHash text => exact bumped _ _ _ _
  | roomDrainComplete roomHash count => exact bumped _ _ _ _
  | _ => rfl

/-- Sending leaves the open conversation. -/
theorem activeConvo_onSendMessage
    (expand : String → String)
    (ui : ConversationUi)
    (hash : UInt8)
    (isChannel : Bool)
    (text : String)
    (nowMs : UInt64) :
    (ui.onSendMessage expand hash isChannel text nowMs).1.activeConvo =
      ui.activeConvo := by
  have queued :
      ∀ (ui : ConversationUi) command,
        (ui.trySendCommand command hash nowMs).activeConvo =
          ui.activeConvo := by
    intro ui command
    unfold trySendCommand
    split <;> rfl
  unfold onSendMessage
  split
  · rfl
  · unfold sendExpanded
    split
    · rfl
    · exact queued _ _
    · split
      · exact queued _ _
      · exact queued _ _

end ConversationUi

namespace UiApp

/-- The digits that were confirmed for the menu are right. -/
def Confirmed
    (app : UiApp) :
    Prop :=
  ∃ digits,
    app.confirmedPin = some digits ∧
      verifyPin digits app.entryPin app.entryPinLen = true

/-- What holds of the screens throughout a run, in which every screen was shown when it
is intact. -/
structure Sound
    (app : UiApp)
    (intact : Prop) :
    Prop where
  asked : ∀ nav, app.pendingNav = some nav → nav.AskedFrom app.screen
  drafted :
    app.pendingNav = some .send → app.pendingComposeText.isSome
  accepted :
    ∀ nav, app.pendingNav = some nav → nav.behindPin → app.Confirmed
  composing :
    app.screen = .compose →
      app.convo.activeConvo.isSome ∧ app.pendingComposeSeed = none
  isOpen :
    intact → app.convo.activeConvo.isSome = app.screen.inConversation
  menu : app.screen.behindPin → app.Confirmed
  deferred : app.deferredNavAtMs.isSome → app.screen = .compose

variable {app : UiApp} {intact : Prop}

/-- The device starts with the splash. -/
theorem sound_new
    (isProvisioned : Bool) :
    Sound (new isProvisioned) intact where
  asked := nofun
  drafted := nofun
  accepted := nofun
  composing := nofun
  isOpen := fun _ => rfl
  menu := nofun
  deferred := nofun

/-- What holds of a run holds of one with more that is shown. -/
theorem Sound.mono
    {less : Prop}
    (sound : app.Sound intact)
    (fewer : less → intact) :
    app.Sound less :=
  { sound with isOpen := fun isIntact => sound.isOpen (fewer isIntact) }

/-- A screen asks for another one. -/
theorem Sound.asks
    (sound : app.Sound intact)
    {nav : Nav}
    (hash : UInt8)
    (text seed : Option String)
    (asked : nav.AskedFrom app.screen)
    (drafted : nav = .send → text.isSome)
    (accepted : nav.behindPin → app.Confirmed)
    (seeded : seed = app.pendingComposeSeed ∨ app.screen = .messageView) :
    Sound
      { app with
        pendingNav := some nav
        pendingNavHash := hash
        pendingComposeText := text
        pendingComposeSeed := seed }
      intact where
  asked := by
    intro other isOther
    cases isOther
    exact asked
  drafted := by
    intro isSend
    exact drafted (Option.some.inj isSend)
  accepted := by
    intro other isOther
    cases isOther
    exact accepted
  composing := by
    intro onScreen
    have onCompose : app.screen = .compose := onScreen
    rcases seeded with rfl | onMessageView
    · exact sound.composing onCompose
    · rw [onMessageView] at onCompose
      cases onCompose
  isOpen := sound.isOpen
  menu := sound.menu
  deferred := sound.deferred

/-- Only what is asked for, the conversation, the screen and the PIN matter. -/
theorem Sound.same
    (sound : app.Sound intact)
    {next : UiApp}
    (asked : next.pendingNav = app.pendingNav)
    (drafted : next.pendingComposeText = app.pendingComposeText)
    (seed : next.pendingComposeSeed = app.pendingComposeSeed)
    (isOpen : next.convo.activeConvo = app.convo.activeConvo)
    (screen : next.screen = app.screen)
    (deferred : next.deferredNavAtMs = app.deferredNavAtMs)
    (confirmed : app.Confirmed → next.Confirmed) :
    next.Sound intact where
  asked := by
    rw [asked, screen]
    exact sound.asked
  drafted := by
    rw [asked, drafted]
    exact sound.drafted
  accepted := by
    rw [asked]
    exact fun nav isNav behind => confirmed (sound.accepted nav isNav behind)
  composing := by
    rw [screen, isOpen, seed]
    exact sound.composing
  isOpen := by
    rw [isOpen, screen]
    exact sound.isOpen
  menu := by
    rw [screen]
    exact fun behind => confirmed (sound.menu behind)
  deferred := by
    rw [deferred, screen]
    exact sound.deferred

/-- The digits of the PIN were confirmed. -/
theorem Sound.confirms
    (sound : app.Sound intact)
    (onScreen : app.screen = .pinEntry) :
    Sound
      { app with
        pinDigits := []
        confirmedPin := some app.pinDigits
        pendingNav :=
          some
            (if verifyPin app.pinDigits app.entryPin app.entryPinLen then
              .pinAccepted
            else
              .pinRejected) }
      intact where
  asked := by
    intro nav isNav
    cases isNav
    split
    · exact onScreen
    · exact onScreen
  drafted := by
    intro isSend
    have isNav := Option.some.inj isSend
    split at isNav
    · cases isNav
    · cases isNav
  accepted := by
    intro nav isNav behind
    cases isNav
    split at behind
    · rename_i isRight
      exact ⟨app.pinDigits, rfl, isRight⟩
    · cases behind
  composing := sound.composing
  isOpen := sound.isOpen
  menu := by
    intro behind
    change app.screen.behindPin = true at behind
    rw [onScreen] at behind
    cases behind
  deferred := sound.deferred

/-- A tap asks for screens that can be asked for. -/
theorem Sound.tap
    (sound : app.Sound intact)
    (tap : Tap) :
    (app.tap tap).Sound intact := by
  have asks :
      ∀ (nav : Nav) hash text,
        nav.AskedFrom app.screen → (nav = .send → text.isSome) →
          nav.behindPin = false →
            Sound
              { app with
                pendingNav := some nav
                pendingNavHash := hash
                pendingComposeText := text }
              intact := by
    intro nav hash text asked drafted isFree
    refine
      sound.asks hash text app.pendingComposeSeed asked drafted
        (fun behind => ?_) (.inl rfl)
    rw [isFree] at behind
    cases behind
  have shownIsConfirmed :
      ∀ screen : ActiveScreen,
        app.screen = screen → screen.behindPin → app.Confirmed :=
    fun screen onScreen behind => sound.menu (onScreen.symm ▸ behind)
  unfold UiApp.tap
  split
  · next onScreen =>
      cases tap with
      | settings => exact asks .pinEntry _ _ onScreen nofun rfl
      | contact hash => exact asks .contactView hash _ onScreen nofun rfl
      | channel hash => exact asks .channelView hash _ onScreen nofun rfl
      | _ => exact sound
  · next onScreen =>
      cases tap with
      | padDigit digit => exact sound.same rfl rfl rfl rfl rfl rfl id
      | padBackspace => exact sound.same rfl rfl rfl rfl rfl rfl id
      | padConfirm => exact sound.confirms onScreen
      | padCancel =>
          exact asks .contactList _ _ (.inl onScreen) nofun rfl
      | _ => exact sound
  · next onScreen =>
      cases tap with
      | menu row => exact sound.same rfl rfl rfl rfl rfl rfl id
      | openGpsStatus =>
          exact
            sound.asks _ _ _ onScreen nofun
              (fun _ => shownIsConfirmed .adminMenu onScreen rfl) (.inl rfl)
      | back => exact asks .contactList _ _ (.inr (.inl onScreen)) nofun rfl
      | _ => exact sound
  · next onScreen =>
      cases tap with
      | write => exact asks .compose _ _ onScreen nofun rfl
      | back => exact asks .contactList _ _ (.inr (.inr onScreen)) nofun rfl
      | _ => exact sound
  · next onScreen =>
      cases tap with
      | send text =>
          exact asks .send _ (some text) onScreen (fun _ => rfl) rfl
      | back => exact asks .composeCancelled _ _ onScreen nofun rfl
      | _ => exact sound
  · next onScreen =>
      split
      · exact
          sound.asks _ _ _ onScreen nofun
            (fun _ => shownIsConfirmed .gpsStatus onScreen rfl) (.inl rfl)
      · exact sound
  all_goals exact sound

/-- A key asks for screens that can be asked for. -/
theorem Sound.key
    (sound : app.Sound intact)
    (byte : UInt8)
    (draft : String) :
    (app.key byte draft).Sound intact := by
  unfold UiApp.key
  split
  · rename_i onScreen
    split
    · exact sound.asks _ _ _ onScreen nofun nofun (.inr onScreen)
    · exact sound
  · rename_i onScreen
    split
    · exact
        sound.asks _ (some draft) _ onScreen (fun _ => rfl) nofun (.inl rfl)
    · exact sound
  · exact sound

/-- The trackball asks for screens that can be asked for. -/
theorem Sound.roll
    (sound : app.Sound intact)
    (showContacts : Bool)
    (event : TrackballEvent) :
    (app.roll showContacts event).Sound intact := by
  rcases app.roll_cases showContacts event with ⟨tap, result⟩ | ⟨_, _, result⟩
  · rw [result]
    exact sound.tap tap
  · rw [result]
    exact sound.same rfl rfl rfl rfl rfl rfl id

/-- An event leaves the screens. -/
theorem Sound.handleEvent
    (sound : app.Sound intact)
    (nowMs : Nat)
    (event : UiTaskEvent) :
    (app.handleEvent nowMs event).Sound intact := by
  cases event with
  | bootSeed seed =>
      refine sound.same rfl rfl rfl ?_ rfl rfl id
      have rooms :
          ∀ (rooms : List (UInt8 × Bool)) (ui : ConversationUi),
            (rooms.foldl (fun ui room => ui.registerRoom room.1 room.2)
                ui).activeConvo =
              ui.activeConvo := by
        intro rooms
        induction rooms with
        | nil => exact fun _ => rfl
        | cons room rest inductionHypothesis =>
            exact fun ui => inductionHypothesis _
      have contacts :
          ∀ (contacts : List (UInt8 × String)) (ui : ConversationUi),
            (ui.registerContacts contacts).activeConvo = ui.activeConvo := by
        intro contacts
        induction contacts with
        | nil => exact fun _ => rfl
        | cons contact rest inductionHypothesis =>
            exact fun ui => inductionHypothesis _
      have conversations :
          ∀ conversations (ui : ConversationUi),
            (ui.seedConversations conversations).activeConvo =
              ui.activeConvo := by
        intro conversations
        induction conversations with
        | nil => exact fun _ => rfl
        | cons conversation rest inductionHypothesis =>
            exact fun ui => inductionHypothesis _
      exact
        (conversations _ _).trans ((contacts _ _).trans (rooms _ _))
  | conversation event =>
      exact
        sound.same rfl rfl rfl (app.convo.activeConvo_handleEvent _ event)
          rfl rfl id
  | lockConfigChanged lockFlags lockTimeoutS =>
      exact sound.same rfl rfl rfl rfl rfl rfl id
  | _ => exact sound

/-- A screen that was opened has not asked for anything. -/
theorem sound_of_silent
    (silent : app.pendingNav = none)
    (composing :
      app.screen = .compose →
        app.convo.activeConvo.isSome ∧ app.pendingComposeSeed = none)
    (isOpen :
      intact → app.convo.activeConvo.isSome = app.screen.inConversation)
    (menu : app.screen.behindPin → app.Confirmed)
    (deferred : app.deferredNavAtMs.isSome → app.screen = .compose) :
    app.Sound intact where
  asked := by
    rw [silent]
    exact nofun
  drafted := by
    rw [silent]
    exact nofun
  accepted := by
    rw [silent]
    exact nofun
  composing := composing
  isOpen := isOpen
  menu := menu
  deferred := deferred

/-- A screen that is shown, or the one before it. -/
theorem present_cases
    (app : UiApp)
    (made : Construction)
    (shown : UiApp) :
    made = .shown ∧ (app.present made shown).1 = shown ∨
      made ≠ .shown ∧ (app.present made shown).1 = app := by
  unfold present
  by_cases isShown : made = .shown
  · exact .inl ⟨isShown, if_pos isShown⟩
  · exact .inr ⟨isShown, if_neg isShown⟩

/-- The splash asks for nothing. -/
theorem Sound.splash
    (sound : app.Sound intact)
    (onScreen : app.screen = .splash) :
    app.pendingNav = none ∧ app.deferredNavAtMs = none := by
  constructor
  · cases isNav : app.pendingNav with
    | none =>
        rfl
    | some nav =>
        have asked := sound.asked nav isNav
        rw [onScreen] at asked
        cases nav <;> simp [Nav.AskedFrom] at asked
  · cases isDeferred : app.deferredNavAtMs with
    | none =>
        rfl
    | some atMs =>
        have onCompose := sound.deferred (isDeferred ▸ rfl)
        rw [onScreen] at onCompose
        cases onCompose

/-- The splash gives way to a screen that was not asked for, or stays if that screen
cannot be shown. -/
theorem Sound.splashTurn
    (sound : app.Sound intact)
    (nowMs : Nat)
    (made : Construction) :
    (app.splashTurn nowMs made).1.Sound (intact ∧ made = .shown) ∧
      (app.splashTurn nowMs made).1.pendingNav = app.pendingNav ∧
      (app.splashTurn nowMs made).1.deferredNavAtMs =
        app.deferredNavAtMs ∧
      ((app.splashTurn nowMs made).1.screen = app.screen ∨
        app.screen = .splash ∧
          (app.splashTurn nowMs made).1.screen =
            if app.isProvisioned then .contactList else .unprovisioned) := by
  unfold UiApp.splashTurn
  simp only
  split
  · rename_i isOver
    have onSplash : app.screen = .splash := by
      simp only [splashIsOver, Bool.and_eq_true, decide_eq_true_eq] at isOver
      exact isOver.1.2
    obtain ⟨silent, notDeferred⟩ := sound.splash onSplash
    have isDone : app.deferredNavAtMs.isSome = true → False := by
      rw [notDeferred]
      exact nofun
    have stays :
        ∀ left : UiApp,
          left.pendingNav = app.pendingNav → left.screen = app.screen →
            left.deferredNavAtMs = app.deferredNavAtMs →
              made ≠ .shown → left.Sound (intact ∧ made = .shown) := by
      intro left asked screen deferred notShown
      refine sound_of_silent (asked.trans silent) ?_ ?_ ?_ ?_
      · rw [screen, onSplash]
        exact nofun
      · exact fun isIntact => absurd isIntact.2 notShown
      · rw [screen, onSplash]
        exact nofun
      · rw [deferred]
        exact fun isSome => (isDone isSome).elim
    unfold dismissSplash startSplash
    simp only
    cases isProvisioned : app.isProvisioned with
    | true =>
        simp only [if_true, navigateToContactList]
        rcases present_cases _ made _ with
          ⟨isShown, result⟩ | ⟨notShown, result⟩
        · rw [result]
          refine ⟨?_, rfl, rfl, .inr ⟨onSplash, rfl⟩⟩
          exact
            sound_of_silent silent nofun (fun _ => rfl) nofun fun isSome =>
              (isDone isSome).elim
        · rw [result]
          exact ⟨stays _ rfl rfl rfl notShown, rfl, rfl, .inl rfl⟩
    | false =>
        simp only [Bool.false_eq_true, if_false]
        rcases present_cases _ made _ with
          ⟨isShown, result⟩ | ⟨notShown, result⟩
        · rw [result]
          refine ⟨?_, rfl, rfl, .inr ⟨onSplash, rfl⟩⟩
          refine
            sound_of_silent silent nofun (fun isIntact => ?_) nofun
              fun isSome => (isDone isSome).elim
          have closed := sound.isOpen isIntact.1
          rw [onSplash] at closed
          exact closed
        · rw [result]
          exact ⟨stays _ rfl rfl rfl notShown, rfl, rfl, .inl rfl⟩
  · refine ⟨Sound.mono ?_ And.left, rfl, rfl, .inl rfl⟩
    exact sound.same rfl rfl rfl rfl rfl rfl id

/-- Sending a draft leaves the conversation open and the screen. -/
theorem sendDraft_kept
    (expand : String → String)
    (app : UiApp)
    (nowMs : Nat) :
    (app.sendDraft expand nowMs).convo.activeConvo = app.convo.activeConvo ∧
      (app.sendDraft expand nowMs).screen = app.screen ∧
      (app.sendDraft expand nowMs).pendingNav = app.pendingNav ∧
      (app.sendDraft expand nowMs).pendingComposeSeed =
        app.pendingComposeSeed := by
  unfold sendDraft
  simp only
  split
  · exact
      ⟨app.convo.activeConvo_onSendMessage expand _ _ _ _, rfl, rfl, rfl⟩
  · exact ⟨rfl, rfl, rfl, rfl⟩

/-- A screen whose place was to be taken: what it asked for is no longer waiting. -/
structure Stays
    (app left : UiApp) :
    Prop where
  silent : left.pendingNav = none
  screen : left.screen = app.screen
  deferred : left.deferredNavAtMs = none
  composing :
    app.screen = .compose →
      left.convo.activeConvo.isSome ∧ left.pendingComposeSeed = none
  confirmed : app.Confirmed → left.Confirmed

/-- A screen that stays. -/
theorem Stays.sound
    {left : UiApp}
    (stays : Stays app left)
    (sound : app.Sound intact)
    (isOpen :
      intact → left.convo.activeConvo.isSome = app.screen.inConversation) :
    left.Sound intact := by
  refine sound_of_silent stays.silent ?_ ?_ ?_ ?_
  · rw [stays.screen]
    exact stays.composing
  · rw [stays.screen]
    exact isOpen
  · rw [stays.screen]
    exact fun behind => stays.confirmed (sound.menu behind)
  · rw [stays.deferred]
    exact nofun

/-- What was asked for is done, by a screen that is shown or none. -/
structure Dispatched
    (app next : UiApp)
    (nav : Nav)
    (nowMs : Nat)
    (made : Construction)
    (intact : Prop) :
    Prop where
  sound : next.Sound (intact ∧ made = .shown)
  silent : next.pendingNav = none
  screen :
    next.screen =
      if made = .shown ∧ (nav = .compose → app.convo.activeConvo.isSome) then
        nav.opens
      else
        app.screen
  deferred :
    next.deferredNavAtMs =
      if nav = .send then some (nowMs + sendNavDeferMs) else none

/-- A screen takes the place of one that stays otherwise. -/
theorem dispatched_present
    (sound : app.Sound intact)
    {nav : Nav}
    {left shown : UiApp}
    (notSend : nav ≠ .send)
    (canOpen : nav = .compose → app.convo.activeConvo.isSome)
    (stays : Stays app left)
    (opens :
      shown.Sound intact ∧ shown.screen = nav.opens ∧
        shown.pendingNav = none ∧ shown.deferredNavAtMs = none)
    (nowMs : Nat)
    (made : Construction) :
    Dispatched app (left.present made shown).1 nav nowMs made intact := by
  obtain ⟨opened, onScreen, silent, deferred⟩ := opens
  rcases left.present_cases made shown with
    ⟨isShown, result⟩ | ⟨notShown, result⟩
  · rw [result]
    exact
      { sound := opened.mono And.left
        silent := silent
        screen := onScreen.trans (if_pos ⟨isShown, canOpen⟩).symm
        deferred := deferred.trans (if_neg notSend).symm }
  · rw [result]
    exact
      { sound :=
          stays.sound (sound.mono And.left) fun isIntact =>
            absurd isIntact.2 notShown
        silent := stays.silent
        screen :=
          stays.screen.trans (if_neg fun both => notShown both.1).symm
        deferred := stays.deferred.trans (if_neg notSend).symm }

/-- What was asked for is done. -/
theorem Sound.dispatchNav
    (sound : app.Sound intact)
    {nav : Nav}
    (isNav : app.pendingNav = some nav)
    (expand : String → String)
    (nowMs : Nat)
    (made : Construction) :
    Dispatched app
      ({ app with
          pendingNav := none
          deferredNavAtMs := none }.dispatchNav expand nowMs made nav).1
      nav nowMs made intact := by
  have asked := sound.asked nav isNav
  have accepted := sound.accepted nav isNav
  have taken :
      Stays app
        { app with
          pendingNav := none
          deferredNavAtMs := none } :=
    ⟨rfl, rfl, rfl, sound.composing, id⟩
  have stillOpen :
      app.screen = .compose →
        true = true ∧ app.pendingComposeSeed = none :=
    fun onCompose => ⟨rfl, (sound.composing onCompose).2⟩
  have closed :
      ∀ {screen : ActiveScreen},
        app.screen = screen → screen.inConversation = false → intact →
          app.convo.activeConvo.isSome = false := by
    intro screen onScreen outside isIntact
    rw [sound.isOpen isIntact, onScreen, outside]
  cases nav with
  | pinEntry =>
      refine dispatched_present sound ?_ ?_ taken ?_ nowMs made
      · exact nofun
      · exact nofun
      · refine ⟨?_, rfl, rfl, rfl⟩
        exact sound_of_silent rfl nofun (closed asked rfl) nofun nofun
  | contactList =>
      have elsewhere : app.screen ≠ .compose := by
        rcases asked with onScreen | onScreen | onScreen
        all_goals
          rw [onScreen]
          exact nofun
      refine dispatched_present sound ?_ ?_ ?_ ?_ nowMs made
      · exact nofun
      · exact nofun
      · exact
          ⟨rfl, rfl, rfl, fun onCompose => absurd onCompose elsewhere, id⟩
      · refine ⟨?_, rfl, rfl, rfl⟩
        exact sound_of_silent rfl nofun (fun _ => rfl) nofun nofun
  | contactView =>
      refine dispatched_present sound ?_ ?_ ?_ ?_ nowMs made
      · exact nofun
      · exact nofun
      · exact ⟨rfl, rfl, rfl, stillOpen, id⟩
      · refine ⟨?_, rfl, rfl, rfl⟩
        exact sound_of_silent rfl nofun (fun _ => rfl) nofun nofun
  | channelView =>
      refine dispatched_present sound ?_ ?_ ?_ ?_ nowMs made
      · exact nofun
      · exact nofun
      · exact ⟨rfl, rfl, rfl, stillOpen, id⟩
      · refine ⟨?_, rfl, rfl, rfl⟩
        exact sound_of_silent rfl nofun (fun _ => rfl) nofun nofun
  | compose =>
      have onScreen : app.screen = .messageView := asked
      unfold UiApp.dispatchNav navigateToCompose
      simp only
      have unseeded :
          Stays app
            { app with
              pendingNav := none
              deferredNavAtMs := none
              pendingComposeSeed := none } :=
        ⟨rfl, rfl, rfl, fun onCompose => ⟨(sound.composing onCompose).1, rfl⟩,
          id⟩
      split
      · rename_i open_ isActive
        have isOpen : app.convo.activeConvo.isSome = true :=
          congrArg Option.isSome isActive
        refine
          dispatched_present sound ?_ (fun _ => isOpen) unseeded ?_ nowMs made
        · exact nofun
        · refine ⟨?_, rfl, rfl, rfl⟩
          exact
            sound_of_silent rfl (fun _ => ⟨isOpen, rfl⟩) (fun _ => isOpen)
              nofun nofun
      · rename_i isActive
        refine
          { sound :=
              (unseeded.sound sound sound.isOpen).mono And.left
            silent := rfl
            screen := (if_neg ?_).symm
            deferred := rfl }
        rintro ⟨-, isOpen⟩
        have noneOpen : app.convo.activeConvo = none := isActive
        rw [noneOpen] at isOpen
        cases isOpen rfl
  | send =>
      have onScreen : app.screen = .compose := asked
      obtain ⟨sameOpen, screen, silent, seed⟩ :=
        sendDraft_kept expand
          { app with
            pendingNav := none
            deferredNavAtMs := none } nowMs
      refine
        { sound := ?_
          silent := silent
          screen := ?_
          deferred := rfl }
      · refine Sound.mono ?_ And.left
        refine sound_of_silent silent ?_ ?_ ?_ ?_
        · intro _
          obtain ⟨isOpen, unseeded⟩ := sound.composing onScreen
          exact
            ⟨(congrArg Option.isSome sameOpen).trans isOpen,
              seed.trans unseeded⟩
        · intro isIntact
          refine (congrArg Option.isSome sameOpen).trans ?_
          exact
            (sound.isOpen isIntact).trans
              (congrArg ActiveScreen.inConversation screen.symm)
        · intro behind
          have onCompose := screen.trans onScreen
          exact absurd (onCompose ▸ behind) nofun
        · exact fun _ => screen.trans onScreen
      · refine screen.trans ?_
        rw [onScreen]
        split <;> rfl
  | composeCancelled =>
      have onScreen : app.screen = .compose := asked
      obtain ⟨isOpen, unseeded⟩ := sound.composing onScreen
      obtain ⟨open_, isActive⟩ := Option.isSome_iff_exists.mp isOpen
      unfold UiApp.dispatchNav returnToMessageView
      simp only [isActive]
      refine dispatched_present sound ?_ ?_ ?_ ?_ nowMs made
      · exact nofun
      · exact nofun
      · exact ⟨rfl, rfl, rfl, fun _ => ⟨rfl, unseeded⟩, id⟩
      · refine ⟨?_, rfl, rfl, rfl⟩
        exact sound_of_silent rfl nofun (fun _ => rfl) nofun nofun
  | pinAccepted =>
      refine dispatched_present sound ?_ ?_ ?_ ?_ nowMs made
      · exact nofun
      · exact nofun
      · exact ⟨rfl, rfl, rfl, sound.composing, id⟩
      · refine ⟨?_, rfl, rfl, rfl⟩
        exact
          sound_of_silent rfl nofun (closed asked rfl)
            (fun _ => accepted rfl) nofun
  | gpsStatus =>
      refine dispatched_present sound ?_ ?_ taken ?_ nowMs made
      · exact nofun
      · exact nofun
      · refine ⟨?_, rfl, rfl, rfl⟩
        exact
          sound_of_silent rfl nofun (closed asked rfl)
            (fun _ => accepted rfl) nofun
  | gpsBack =>
      refine dispatched_present sound ?_ ?_ ?_ ?_ nowMs made
      · exact nofun
      · exact nofun
      · exact ⟨rfl, rfl, rfl, sound.composing, id⟩
      · refine ⟨?_, rfl, rfl, rfl⟩
        exact
          sound_of_silent rfl nofun (closed asked rfl)
            (fun _ => accepted rfl) nofun
  | pinRejected =>
      have onScreen : app.screen = .pinEntry := asked
      refine
        { sound := (taken.sound sound sound.isOpen).mono And.left
          silent := rfl
          screen := ?_
          deferred := rfl }
      change app.screen = _
      rw [onScreen]
      split <;> rfl

/-- What was asked for is opened. -/
theorem Sound.navTurn
    (sound : app.Sound intact)
    (expand : String → String)
    (nowMs : Nat)
    (made : Construction) :
    (app.navTurn expand nowMs made).1.Sound (intact ∧ made = .shown) ∧
      (app.navTurn expand nowMs made).1.pendingNav = none ∧
      (app.navTurn expand nowMs made).1.screen =
        (app.pendingNav.elim app.screen fun nav =>
          if made = .shown ∧
              (nav = .compose → app.convo.activeConvo.isSome) then
            nav.opens
          else
            app.screen) ∧
      (app.navTurn expand nowMs made).1.deferredNavAtMs =
        app.pendingNav.elim app.deferredNavAtMs fun nav =>
          if nav = .send then some (nowMs + sendNavDeferMs) else none := by
  unfold UiApp.navTurn
  cases isNav : app.pendingNav with
  | none =>
      exact ⟨sound.mono And.left, isNav, rfl, rfl⟩
  | some nav =>
      have done := sound.dispatchNav isNav expand nowMs made
      exact ⟨done.sound, done.silent, done.screen, done.deferred⟩

/-- The return from a draft, when it is time and the conversation can be shown. -/
theorem Sound.deferredTurn
    (sound : app.Sound intact)
    (nowMs : Nat)
    (made : Construction)
    (silent : app.pendingNav = none) :
    (app.deferredTurn nowMs made).1.Sound (intact ∧ made = .shown) ∧
      (app.deferredTurn nowMs made).1.pendingNav = none ∧
      (app.deferredTurn nowMs made).1.screen =
        (if app.deferredNavAtMs.any (fun atMs => atMs ≤ nowMs) ∧
            made = .shown then
          .messageView
        else
          app.screen) ∧
      (app.deferredTurn nowMs made).1.deferredNavAtMs =
        if app.deferredNavAtMs.any (fun atMs => atMs ≤ nowMs) then none
        else app.deferredNavAtMs := by
  unfold UiApp.deferredTurn
  by_cases isDue : app.deferredNavAtMs.any (fun atMs => atMs ≤ nowMs) = true
  · rw [if_pos isDue, if_pos isDue]
    have onScreen := sound.deferred (Option.isSome_of_any isDue)
    obtain ⟨isOpen, unseeded⟩ := sound.composing onScreen
    obtain ⟨open_, isActive⟩ := Option.isSome_iff_exists.mp isOpen
    simp only [returnToMessageView, isActive]
    rw [if_pos onScreen]
    unfold navigateToMessageView
    rcases present_cases _ made _ with
      ⟨isShown, result⟩ | ⟨notShown, result⟩
    · rw [result, if_pos ⟨isDue, isShown⟩]
      refine ⟨?_, silent, rfl, rfl⟩
      exact sound_of_silent silent nofun (fun _ => rfl) nofun nofun
    · rw [result, if_neg fun both => notShown both.2]
      refine ⟨?_, silent, rfl, rfl⟩
      exact
        sound_of_silent silent (fun _ => ⟨rfl, unseeded⟩)
          (fun isIntact => absurd isIntact.2 notShown)
          (fun behind => sound.menu behind) nofun
  · rw [if_neg isDue, if_neg isDue, if_neg fun both => isDue both.1]
    exact ⟨sound.mono And.left, silent, rfl, rfl⟩

/-- How the screen changes without being asked for: when the splash is over, and when
a draft was sent long enough ago. -/
def MovesAlone
    (app next : UiApp)
    (nowMs : Nat) :
    Prop :=
  next.screen = app.screen ∨
    app.screen = .splash ∧
        next.screen =
          (if app.isProvisioned then .contactList else .unprovisioned) ∨
    app.screen = .compose ∧
      app.deferredNavAtMs.any (fun atMs => atMs ≤ nowMs) = true ∧
      next.screen = .messageView

/-- The splash is dismissed, or only its clock is started. -/
theorem splashTurn_cases
    (app : UiApp)
    (nowMs : Nat)
    (made : Construction) :
    app.screen = .splash ∨
      app.splashTurn nowMs made = (app.startSplash nowMs, none) := by
  unfold splashTurn
  simp only
  split
  · rename_i isOver
    simp only [splashIsOver, Bool.and_eq_true, decide_eq_true_eq] at isOver
    exact .inl isOver.1.2
  · exact .inr rfl

/-- The screens that a turn opens. -/
theorem Sound.openScreens
    (sound : app.Sound intact)
    (expand : String → String)
    (nowMs : Nat)
    (hardware : UiHardware) :
    let opened := app.openScreens expand nowMs hardware.constructs
    opened.Sound (intact ∧ hardware.ShowsScreens) ∧
      opened.pendingNav = none ∧
      (∀ nav,
        app.pendingNav = some nav →
          opened.screen =
            if hardware.constructs .asked = .shown ∧
                (nav = .compose → app.convo.activeConvo.isSome) then
              nav.opens
            else
              app.screen) ∧
      (app.pendingNav = none → app.MovesAlone opened nowMs) ∧
      ∀ atMs,
        opened.deferredNavAtMs = some atMs →
          nowMs < atMs ∧
            (app.pendingNav = some .send ∧ atMs = nowMs + sendNavDeferMs ∨
              app.deferredNavAtMs = some atMs) := by
  obtain ⟨splashSound, splashNav, splashDeferred, splashScreen⟩ :=
    sound.splashTurn nowMs (hardware.constructs .splash)
  have splashSame := app.splashTurn_cases nowMs (hardware.constructs .splash)
  obtain ⟨navSound, silent, navScreen, navDeferred⟩ :=
    splashSound.navTurn expand nowMs (hardware.constructs .asked)
  obtain ⟨openSound, openSilent, openScreen, openDeferred⟩ :=
    navSound.deferredTurn nowMs (hardware.constructs .afterSend) silent
  simp only [UiApp.openScreens]
  refine ⟨openSound.mono ?_, openSilent, ?_, ?_, ?_⟩
  · rintro ⟨isIntact, shows⟩
    exact ⟨⟨⟨isIntact, shows.splash⟩, shows.asked⟩, shows.afterSend⟩
  · intro nav isNav
    have elsewhere : app.screen ≠ .splash := by
      intro onSplash
      rw [(sound.splash onSplash).1] at isNav
      cases isNav
    have splashed := splashSame.resolve_left elsewhere
    rw [splashNav, isNav] at navScreen navDeferred
    have notDue :
        (UiApp.navTurn expand
              (app.splashTurn nowMs (hardware.constructs .splash)).1 nowMs
              (hardware.constructs .asked)).1.deferredNavAtMs.any
            (fun atMs => atMs ≤ nowMs) =
          false := by
      rw [navDeferred, Option.elim_some]
      split
      · rw [Option.any_some, decide_eq_false_iff_not, sendNavDeferMs]
        omega
      · rfl
    rw [notDue, if_neg fun both => Bool.false_ne_true both.1] at openScreen
    rw [splashed] at navScreen openScreen ⊢
    exact openScreen.trans navScreen
  · intro none
    rw [splashNav, none] at navScreen navDeferred
    rw [navScreen, navDeferred] at openScreen
    rw [Option.elim_none, Option.elim_none, splashDeferred] at openScreen
    rcases splashScreen with same | ⟨onSplash, first⟩
    · rw [same] at openScreen
      split at openScreen
      · rename_i isDue
        have onScreen := sound.deferred (Option.isSome_of_any isDue.1)
        exact .inr (.inr ⟨onScreen, isDue.1, openScreen⟩)
      · exact .inl openScreen
    · rw [(sound.splash onSplash).2, first] at openScreen
      exact
        .inr
          (.inl
            ⟨onSplash,
              openScreen.trans (if_neg fun both => nomatch both.1)⟩)
  · intro atMs isDeferred
    have waits := openDeferred.symm.trans isDeferred
    split at waits
    · cases waits
    · rename_i notDue
      rw [waits, Option.any_some, decide_eq_true_eq] at notDue
      refine ⟨Nat.lt_of_not_le notDue, ?_⟩
      rw [splashNav, splashDeferred] at navDeferred
      rw [navDeferred] at waits
      cases isNav : app.pendingNav with
      | none =>
          rw [isNav] at waits
          exact .inr waits
      | some nav =>
          rw [isNav, Option.elim_some] at waits
          split at waits
          · rename_i isSend
            exact .inl ⟨congrArg some isSend, (Option.some.inj waits).symm⟩
          · cases waits

/-- What a screen and the one before it agree on. -/
theorem present_field
    {value : Type}
    (field : UiApp → value)
    {left shown : UiApp}
    (made : Construction)
    (same : field shown = field left) :
    field (left.present made shown).1 = field left := by
  unfold present
  split
  · exact same
  · rfl

/-- A key that was typed on a conversation waits for the draft that is asked for. -/
theorem composeSeed_navTurn
    (expand : String → String)
    (app : UiApp)
    (nowMs : Nat)
    (made : Construction) :
    (app.navTurn expand nowMs made).1.pendingComposeSeed =
      if app.pendingNav = some .compose then none
      else app.pendingComposeSeed := by
  unfold UiApp.navTurn
  cases isNav : app.pendingNav with
  | none =>
      rfl
  | some nav =>
      cases nav with
      | compose =>
          unfold UiApp.dispatchNav navigateToCompose
          simp only [if_true]
          split
          · exact present_field UiApp.pendingComposeSeed made (by rfl)
          · rfl
      | send => exact (sendDraft_kept expand _ nowMs).2.2.2
      | composeCancelled =>
          unfold UiApp.dispatchNav returnToMessageView
          simp only
          split
          · exact present_field UiApp.pendingComposeSeed made (by rfl)
          · rfl
      | pinRejected => rfl
      | _ => exact present_field UiApp.pendingComposeSeed made (by rfl)

/-- The splash leaves the key that was typed. -/
theorem composeSeed_splashTurn
    (app : UiApp)
    (nowMs : Nat)
    (made : Construction) :
    (app.splashTurn nowMs made).1.pendingComposeSeed =
      app.pendingComposeSeed := by
  unfold UiApp.splashTurn dismissSplash
  simp only
  split
  · split
    · exact present_field UiApp.pendingComposeSeed made (by rfl)
    · exact present_field UiApp.pendingComposeSeed made (by rfl)
  · rfl

/-- The return to a conversation leaves the key that was typed and the draft. -/
theorem composeSeed_deferredTurn
    (app : UiApp)
    (nowMs : Nat)
    (made : Construction) :
    (app.deferredTurn nowMs made).1.pendingComposeSeed =
        app.pendingComposeSeed ∧
      (app.deferredTurn nowMs made).1.composeDraft = app.composeDraft := by
  unfold UiApp.deferredTurn returnToMessageView
  split
  · simp only
    split
    · split
      · exact
          ⟨present_field UiApp.pendingComposeSeed made (by rfl),
            present_field UiApp.composeDraft made (by rfl)⟩
      · exact ⟨rfl, rfl⟩
    · exact ⟨rfl, rfl⟩
  · exact ⟨rfl, rfl⟩

/-- A draft opens with the key that was typed, which is taken by it. -/
theorem composeSeed_openScreens
    (sound : app.Sound intact)
    (expand : String → String)
    (nowMs : Nat)
    (hardware : UiHardware) :
    let opened := app.openScreens expand nowMs hardware.constructs
    (opened.pendingComposeSeed =
        if app.pendingNav = some .compose then none
        else app.pendingComposeSeed) ∧
      (app.pendingNav = some .compose → opened.screen = .compose →
        opened.composeDraft = app.pendingComposeSeed.getD "") := by
  simp only
  constructor
  · refine (composeSeed_deferredTurn _ nowMs _).1.trans ?_
    rw [composeSeed_navTurn, composeSeed_splashTurn,
      (sound.splashTurn nowMs _).2.1]
  · intro isCompose onScreen
    have onMessageView : app.screen = .messageView :=
      sound.asked .compose isCompose
    have splashed :=
      (app.splashTurn_cases nowMs (hardware.constructs .splash)).resolve_left
        (onMessageView ▸ nofun)
    have opens :=
      (sound.openScreens expand nowMs hardware).2.2.1 .compose isCompose
    rw [onScreen, onMessageView] at opens
    refine (composeSeed_deferredTurn _ nowMs _).2.trans ?_
    rw [splashed]
    have startCompose : (app.startSplash nowMs).pendingNav = some .compose :=
      isCompose
    unfold UiApp.navTurn UiApp.dispatchNav navigateToCompose
    simp only [startCompose]
    split at opens
    · rename_i both
      obtain ⟨open_, isActive⟩ :=
        Option.isSome_iff_exists.mp (both.2 rfl)
      have startActive :
          (app.startSplash nowMs).convo.activeConvo = some open_ :=
        isActive
      simp only [startActive, both.1, present, if_true]
      rfl
    · cases opens

/-- A tap types nothing. -/
theorem composeSeed_tap
    (app : UiApp)
    (tap : Tap) :
    (app.tap tap).pendingComposeSeed = app.pendingComposeSeed := by
  unfold UiApp.tap
  split
  · cases tap <;> rfl
  · cases tap <;> rfl
  · cases tap <;> rfl
  · cases tap <;> rfl
  · cases tap <;> rfl
  · split <;> rfl
  all_goals rfl

/-- The trackball types nothing. -/
theorem composeSeed_roll
    (app : UiApp)
    (showContacts : Bool)
    (event : TrackballEvent) :
    (app.roll showContacts event).pendingComposeSeed =
      app.pendingComposeSeed := by
  rcases app.roll_cases showContacts event with ⟨tap, result⟩ | ⟨_, _, result⟩
  · rw [result]
    exact app.composeSeed_tap tap
  · rw [result]

/-- A key is what was typed, or it types nothing. -/
theorem composeSeed_key
    (app : UiApp)
    (byte : UInt8)
    (draft : String) :
    (app.key byte draft).pendingComposeSeed = app.pendingComposeSeed ∨
      app.screen = .messageView ∧
        (app.key byte draft).pendingComposeSeed =
          messageViewComposeSeed byte := by
  unfold UiApp.key
  split
  · rename_i onScreen
    split
    · rename_i isSeed
      exact .inr ⟨onScreen, isSeed.symm⟩
    · exact .inl rfl
  · split <;> exact .inl rfl
  · exact .inl rfl

end UiApp

namespace UiRuntime

variable {ui : UiRuntime} {intact : Prop}

/-- A tap lands on a screen or on the lock. -/
theorem sound_taps
    (sound : ui.app.Sound intact)
    (taps : List Tap) :
    (taps.foldl UiRuntime.tap ui).app.Sound intact := by
  induction taps generalizing ui with
  | nil =>
      exact sound
  | cons tap rest inductionHypothesis =>
      refine inductionHypothesis ?_
      unfold UiRuntime.tap
      split
      · exact sound.tap tap
      · cases tap <;> exact sound
      · exact sound

/-- The inputs of a turn ask for screens that can be asked for. -/
theorem sound_takeInputs
    (sound : ui.app.Sound intact)
    (turn : UiTurn) :
    (ui.takeInputs turn).app.Sound intact := by
  refine
    @takeInputs_induction (fun ui => ui.app.Sound intact) turn ?_ ?_ ?_ ?_ ui
      sound
  · intro ui reading driver event taps holds _ _
    rcases handleTouch_cases { ui with touch := driver } turn.nowMs event
        taps with
      ⟨-, result⟩ | ⟨-, -, result⟩ | ⟨-, -, result⟩
    · rw [result]
      exact holds
    · rw [result]
      exact holds
    · rw [result]
      refine sound_taps ?_ taps
      exact holds
  · intro ui byte draft _ holds
    unfold handleKey
    split
    · exact holds
    · simp only
      split
      · exact holds
      · exact holds.key byte draft
  · exact fun ui driver holds => holds
  · intro ui showContacts event holds
    unfold handleRoll
    split
    · exact holds
    · simp only
      split
      · exact holds
      · exact holds.roll showContacts event

/-- A printable key is typed in this turn. -/
def Types
    (turn : UiTurn)
    (seed : String) :
    Prop :=
  ∃ byte draft,
    KeyReading.byte byte draft ∈ turn.keys ∧
      messageViewComposeSeed byte = some seed

/-- What was typed on a conversation waited, or is typed in this turn. -/
theorem composeSeed_takeInputs
    (ui : UiRuntime)
    (turn : UiTurn)
    {seed : String}
    (isSeed : (ui.takeInputs turn).app.pendingComposeSeed = some seed) :
    ui.app.pendingComposeSeed = some seed ∨
      ui.app.screen = .messageView ∧ Types turn seed := by
  have taps :
      ∀ (taps : List Tap) (ui : UiRuntime),
        (taps.foldl UiRuntime.tap ui).app.pendingComposeSeed =
            ui.app.pendingComposeSeed ∧
          (taps.foldl UiRuntime.tap ui).app.screen = ui.app.screen := by
    intro taps
    induction taps with
    | nil =>
        exact fun _ => ⟨rfl, rfl⟩
    | cons tap rest inductionHypothesis =>
        intro ui
        obtain ⟨sameSeed, sameScreen⟩ := inductionHypothesis (ui.tap tap)
        have first :
            (ui.tap tap).app.pendingComposeSeed =
                ui.app.pendingComposeSeed ∧
              (ui.tap tap).app.screen = ui.app.screen := by
          unfold UiRuntime.tap
          split
          · exact
              ⟨ui.app.composeSeed_tap tap, (ui.app.answered_tap tap).screen⟩
          · cases tap <;> exact ⟨rfl, rfl⟩
          · exact ⟨rfl, rfl⟩
        exact ⟨sameSeed.trans first.1, sameScreen.trans first.2⟩
  have typed :
      (ui.takeInputs turn).app.screen = ui.app.screen ∧
        ∀ seed,
          (ui.takeInputs turn).app.pendingComposeSeed = some seed →
            ui.app.pendingComposeSeed = some seed ∨
              ui.app.screen = .messageView ∧ Types turn seed := by
    refine
      @takeInputs_induction
        (fun after =>
          after.app.screen = ui.app.screen ∧
            ∀ seed,
              after.app.pendingComposeSeed = some seed →
                ui.app.pendingComposeSeed = some seed ∨
                  ui.app.screen = .messageView ∧ Types turn seed)
        turn ?_ ?_ ?_ ?_ ui ⟨rfl, fun _ => .inl⟩
    · intro after reading driver event landed holds _ _
      rcases handleTouch_cases { after with touch := driver } turn.nowMs
          event landed with
        ⟨-, result⟩ | ⟨-, -, result⟩ | ⟨-, -, result⟩
      · rw [result]
        exact holds
      · rw [result]
        exact holds
      · obtain ⟨sameSeed, sameScreen⟩ := taps landed _
        rw [result, sameSeed, sameScreen]
        exact holds
    · intro after byte draft member holds
      unfold handleKey
      split
      · exact holds
      · simp only
        split
        · exact holds
        · refine
            ⟨(after.app.answered_key byte draft).screen.trans holds.1, ?_⟩
          intro seed isSeed
          rcases after.app.composeSeed_key byte draft with
            same | ⟨onScreen, isByte⟩
          · exact holds.2 seed (same.symm.trans isSeed)
          · exact
              .inr
                ⟨holds.1.symm.trans onScreen, byte, draft, member,
                  isByte.symm.trans isSeed⟩
    · exact fun after driver holds => holds
    · intro after showContacts event holds
      unfold handleRoll
      split
      · exact holds
      · simp only
        split
        · exact holds
        · refine
            ⟨(after.app.answered_roll showContacts event).screen.trans
              holds.1, ?_⟩
          rw [after.app.composeSeed_roll showContacts event]
          exact holds.2
  exact typed.2 seed isSeed

/-- An event leaves the screen, what was asked for, the clock of a draft and what was
typed for it. -/
theorem handleEvent_screen
    (app : UiApp)
    (nowMs : Nat)
    (event : UiTaskEvent) :
    (app.handleEvent nowMs event).screen = app.screen ∧
      (app.handleEvent nowMs event).pendingNav = app.pendingNav ∧
      (app.handleEvent nowMs event).deferredNavAtMs =
        app.deferredNavAtMs ∧
      (app.handleEvent nowMs event).pendingComposeSeed =
        app.pendingComposeSeed ∧
      (app.handleEvent nowMs event).composeDraft = app.composeDraft := by
  cases event <;> exact ⟨rfl, rfl, rfl, rfl, rfl⟩

/-- Events leave the screens. -/
theorem sound_handleEvents
    (sound : ui.app.Sound intact)
    (nowMs : Nat)
    (input : LoopInput) :
    (ui.handleEvents nowMs input).app.Sound intact ∧
      (ui.handleEvents nowMs input).app.screen = ui.app.screen ∧
      (ui.handleEvents nowMs input).app.pendingNav = ui.app.pendingNav ∧
      (ui.handleEvents nowMs input).app.deferredNavAtMs =
        ui.app.deferredNavAtMs ∧
      (ui.handleEvents nowMs input).app.pendingComposeSeed =
        ui.app.pendingComposeSeed ∧
      (ui.handleEvents nowMs input).app.composeDraft =
        ui.app.composeDraft := by
  refine
    @handleEvents_induction
      (fun after =>
        after.app.Sound intact ∧ after.app.screen = ui.app.screen ∧
          after.app.pendingNav = ui.app.pendingNav ∧
          after.app.deferredNavAtMs = ui.app.deferredNavAtMs ∧
          after.app.pendingComposeSeed = ui.app.pendingComposeSeed ∧
          after.app.composeDraft = ui.app.composeDraft)
      nowMs input ui
      ⟨sound.same rfl rfl rfl rfl rfl rfl id, rfl, rfl, rfl, rfl, rfl⟩ ?_
      (fun _ holds => holds)
  rintro after event - ⟨holds, screen, asked, deferred, seed, draft⟩
  obtain ⟨sameScreen, sameAsked, sameDeferred, sameSeed, sameDraft⟩ :=
    handleEvent_screen after.app nowMs event
  rw [handleEvent_app]
  exact
    ⟨holds.handleEvent nowMs event, sameScreen.trans screen,
      sameAsked.trans asked, sameDeferred.trans deferred,
      sameSeed.trans seed, sameDraft.trans draft⟩

/-- What a turn does with the screens. -/
structure Navigated
    (ui next : UiRuntime)
    (turn : UiTurn) :
    Prop where
  asked :
    ∀ nav,
      ui.app.pendingNav = some nav →
        next.app.screen =
          if turn.hardware.constructs .asked = .shown ∧
              (nav = .compose → ui.app.convo.activeConvo.isSome) then
            nav.opens
          else
            ui.app.screen
  draft :
    ui.app.pendingNav = some .compose → next.app.screen = .compose →
      next.app.composeDraft = ui.app.pendingComposeSeed.getD ""
  typed :
    ∀ seed,
      next.app.pendingComposeSeed = some seed →
        ui.app.pendingComposeSeed = some seed ∧
            ui.app.pendingNav ≠ some .compose ∨
          next.app.screen = .messageView ∧ Types turn seed
  alone :
    ui.app.pendingNav = none → ui.app.MovesAlone next.app turn.nowMs

/-- A turn opens what was asked for, and then waits for what is asked for next. -/
theorem sound_step
    (sound : ui.app.Sound intact)
    (expand : String → String)
    (turn : UiTurn) :
    (ui.step expand turn).app.Sound (intact ∧ turn.hardware.ShowsScreens) ∧
      ui.Navigated (ui.step expand turn) turn := by
  obtain ⟨started, received⟩ := ui.receive_app turn
  have startedApp :
      ((ui.receive turn).startClock turn.nowMs).app =
        (ui.receive turn).app :=
    startClock_app _ turn.nowMs
  have receivedSound :
      ((ui.receive turn).startClock turn.nowMs).app.Sound intact := by
    rw [startedApp, received]
    refine sound.same rfl rfl rfl ?_ rfl rfl id
    split <;> rfl
  have sameOpen :
      ((ui.receive turn).startClock
            turn.nowMs).app.convo.activeConvo =
        ui.app.convo.activeConvo := by
    rw [startedApp, received]
    simp only
    split <;> rfl
  obtain ⟨opened, -, asked, alone, -⟩ :=
    receivedSound.openScreens expand turn.nowMs turn.hardware
  obtain ⟨seed, draft⟩ :=
    UiApp.composeSeed_openScreens receivedSound expand turn.nowMs
      turn.hardware
  rw [sameOpen] at asked
  have isOpened :
      (((ui.receive turn).startClock turn.nowMs).openScreens expand
            turn.nowMs).app =
        ((ui.receive turn).startClock turn.nowMs).app.openScreens expand
          turn.nowMs turn.hardware.constructs := by
    rw [openScreens_app, startClock_hardware]
  rw [← isOpened] at opened asked alone seed draft
  rw [startedApp, received] at asked alone seed draft
  have confirmed :
      (UiRuntime.confirmLock
            (((ui.receive turn).startClock turn.nowMs).openScreens expand
              turn.nowMs)
            turn.nowMs).syncNotifPrefs.app =
        (((ui.receive turn).startClock turn.nowMs).openScreens expand
          turn.nowMs).app :=
    confirmLock_app _ turn.nowMs
  obtain ⟨handled, screen, -, -, sameSeed, sameDraft⟩ :=
    sound_handleEvents (confirmed ▸ opened) turn.nowMs turn.input
  have taken := sound_takeInputs handled turn
  have answered := (ui.beforeInputs expand turn).answered_takeInputs turn
  have app :
      (ui.step expand turn).app =
        ((ui.beforeInputs expand turn).takeInputs turn).app :=
    (afterInputs_eq _ turn.nowMs).1
  have onScreen :
      (ui.step expand turn).app.screen =
        (((ui.receive turn).startClock turn.nowMs).openScreens expand
          turn.nowMs).app.screen := by
    rw [app, answered.screen, ← confirmed]
    exact screen
  refine ⟨app ▸ taken, ⟨?_, ?_, ?_, ?_⟩⟩
  · intro nav isNav
    exact onScreen.trans (asked nav isNav)
  · intro isCompose onCompose
    rw [app, answered.draft]
    refine sameDraft.trans ?_
    rw [confirmed]
    exact draft isCompose (onScreen.symm.trans onCompose)
  · intro typed isTyped
    rw [app] at isTyped
    rcases (ui.beforeInputs expand turn).composeSeed_takeInputs turn
        isTyped with
      waited | ⟨onMessageView, types⟩
    · refine .inl ?_
      have stillWaits :
          (if ui.app.pendingNav = some .compose then none
            else ui.app.pendingComposeSeed) =
            some typed :=
        seed.symm.trans
          ((congrArg UiApp.pendingComposeSeed confirmed).symm.trans
            (sameSeed.symm.trans waited))
      split at stillWaits
      · cases stillWaits
      · rename_i notCompose
        exact ⟨stillWaits, notCompose⟩
    · refine .inr ⟨?_, types⟩
      rw [app, answered.screen]
      exact onMessageView
  · intro none
    have moves := alone none
    unfold UiApp.MovesAlone at moves ⊢
    rw [onScreen]
    exact moves

/-- The screens over a run. -/
theorem sound_run
    (expand : String → String)
    (isProvisioned : Bool)
    (turns : List UiTurn) :
    (run expand isProvisioned turns).app.Sound
      (∀ turn ∈ turns, turn.hardware.ShowsScreens) := by
  induction turns using List.reverseRecOn with
  | nil =>
      exact UiApp.sound_new isProvisioned
  | append_singleton turns turn inductionHypothesis =>
      rw [run_concat]
      refine (sound_step inductionHypothesis expand turn).1.mono ?_
      intro shows
      exact
        ⟨fun earlier member =>
            shows earlier (List.mem_append_left _ member),
          shows turn
            (List.mem_append_right _ (List.mem_singleton_self turn))⟩

/-- In every run a draft is on the screen only with a conversation that is open, and as
long as every screen is shown a conversation is open exactly while it is on the screen.
What is asked for comes from the screens that ask for it, has its text if it is to be
sent, and is opened in the next turn if it can be shown; a draft opens with the key
that was typed for it.  The screen moves alone only after the splash and back from a
draft. -/
theorem navigation_sound
    (expand : String → String)
    (isProvisioned : Bool)
    (turns : List UiTurn)
    (turn : UiTurn) :
    let ui := run expand isProvisioned turns
    let next := run expand isProvisioned (turns ++ [turn])
    (ui.app.screen = .compose →
        ui.app.convo.activeConvo.isSome ∧
          ui.app.pendingComposeSeed = none) ∧
      ((∀ passed ∈ turns, passed.hardware.ShowsScreens) →
        ui.app.convo.activeConvo.isSome = ui.app.screen.inConversation) ∧
      (∀ nav,
        ui.app.pendingNav = some nav →
          nav.AskedFrom ui.app.screen ∧
            (nav = .send → ui.app.pendingComposeText.isSome)) ∧
      ui.Navigated next turn := by
  have sound := sound_run expand isProvisioned turns
  obtain ⟨-, navigated⟩ := sound_step sound expand turn
  rw [← run_concat] at navigated
  refine ⟨sound.composing, sound.isOpen, ?_, navigated⟩
  intro nav isNav
  refine ⟨sound.asked nav isNav, ?_⟩
  intro isSend
  exact sound.drafted (isSend ▸ isNav)

end UiRuntime

end MeshCadet
