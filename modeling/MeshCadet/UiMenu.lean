import MeshCadet.UiGestures
import MeshCadet.UiNavigation

namespace MeshCadet

/-!
# The menu behind its PIN

What is behind the PIN is on the screen only after the digits of the PIN were
confirmed that the device was seeded with when the entry was opened, and a turn changes
the settings only there, apart from what the dispatcher says.
-/

/-- Differences that are gathered are none exactly when there were none. -/
theorem foldl_or_eq_zero_iff
    {entry : Type}
    (entries : List entry)
    (difference : entry → UInt8)
    (start : UInt8) :
    entries.foldl (fun mismatch entry => mismatch ||| difference entry)
          start =
        0 ↔
      start = 0 ∧ ∀ entry ∈ entries, difference entry = 0 := by
  induction entries generalizing start with
  | nil =>
      exact ⟨fun zero => ⟨zero, fun _ member => nomatch member⟩, And.left⟩
  | cons entry rest inductionHypothesis =>
      rw [List.foldl_cons, inductionHypothesis, UInt8.or_eq_zero_iff,
        List.forall_mem_cons, and_assoc]

/-- Digits that are accepted are those of the stored PIN, and there are some. -/
theorem verifyPin_iff
    (entered : List UInt8)
    (storedPin : Vector UInt8 16)
    (storedPinLen : UInt8) :
    verifyPin entered storedPin storedPinLen = true ↔
      0 < storedPinLen.toNat ∧ entered.length = storedPinLen.toNat ∧
        ∀ i < 16, entered.getD i 0 = storedPin.toList.getD i 0 := by
  unfold verifyPin
  simp only
  by_cases none : storedPinLen.toNat = 0
  · rw [if_pos none]
    constructor
    · exact nofun
    · rintro ⟨positive, -⟩
      omega
  rw [if_neg none, beq_iff_eq,
    foldl_or_eq_zero_iff _ (fun byte => byte),
    foldl_or_eq_zero_iff _
      (fun i => entered.getD i 0 ^^^ storedPin.toList.getD i 0)]
  simp only [List.mem_range, UInt8.xor_eq_zero_iff]
  constructor
  · rintro ⟨⟨start, same⟩, -⟩
    refine ⟨Nat.pos_of_ne_zero none, ?_, same⟩
    by_contra different
    rw [if_pos different] at start
    cases start
  · rintro ⟨-, sameLength, same⟩
    refine ⟨⟨?_, same⟩, ?_⟩
    · rw [if_neg (not_not.mpr sameLength)]
    · rw [List.drop_eq_nil_of_le (Nat.le_of_eq sameLength)]
      exact fun _ member => nomatch member

/-- The PIN after an event. -/
def UiTaskEvent.setPin
    (pin : Vector UInt8 16 × UInt8) :
    UiTaskEvent → Vector UInt8 16 × UInt8
  | .bootSeed seed => (seed.pin, seed.pinLen)
  | _ => pin

/-- The PIN that the last seed came with, with its length; none before the first. -/
def seededPin
    (turns : List UiTurn) :
    Vector UInt8 16 × UInt8 :=
  turns.foldl
    (fun pin turn => turn.input.events.foldl UiTaskEvent.setPin pin)
    (Vector.replicate 16 0, 0)

/-- The event comes with settings. -/
def UiTaskEvent.setsSettings : UiTaskEvent → Bool
  | .bootSeed _ | .lockConfigChanged _ _ => true
  | _ => false

namespace UiApp

/-- A tap changes the settings in the menu only. -/
theorem settings_tap
    (app : UiApp)
    (tap : Tap) :
    (app.tap tap).settings = app.settings ∨ app.screen = .adminMenu := by
  unfold UiApp.tap
  split
  · cases tap <;> exact .inl rfl
  · cases tap <;> exact .inl rfl
  · next onScreen => exact .inr onScreen
  · cases tap <;> exact .inl rfl
  · cases tap <;> exact .inl rfl
  · split <;> exact .inl rfl
  all_goals exact .inl rfl

/-- A key changes no settings. -/
theorem settings_key
    (app : UiApp)
    (byte : UInt8)
    (draft : String) :
    (app.key byte draft).settings = app.settings := by
  unfold UiApp.key
  split
  · split <;> rfl
  · split <;> rfl
  · rfl

/-- The trackball changes the settings in the menu only. -/
theorem settings_roll
    (app : UiApp)
    (showContacts : Bool)
    (event : TrackballEvent) :
    (app.roll showContacts event).settings = app.settings ∨
      app.screen = .adminMenu := by
  rcases app.roll_cases showContacts event with ⟨tap, result⟩ | ⟨_, _, result⟩
  · rw [result]
    exact app.settings_tap tap
  · rw [result]
    exact .inl rfl

/-- Opening the screen that was asked for copies the PIN to the entry. -/
theorem pins_navTurn
    (expand : String → String)
    (app : UiApp)
    (nowMs : Nat)
    (made : Construction) :
    (app.navTurn expand nowMs made).1.provisionedPin =
        app.provisionedPin ∧
      (app.navTurn expand nowMs made).1.padPin =
        if app.pendingNav = some .pinEntry ∧ made = .shown then
          app.provisionedPin
        else
          app.padPin := by
  have keeps :
      ∀ left shown : UiApp,
        shown.provisionedPin = left.provisionedPin →
          shown.padPin = left.padPin →
            (left.present made shown).1.provisionedPin =
                left.provisionedPin ∧
              (left.present made shown).1.padPin = left.padPin :=
    fun left shown provisioned pad =>
      ⟨present_field UiApp.provisionedPin made provisioned,
        present_field UiApp.padPin made pad⟩
  unfold UiApp.navTurn
  cases isNav : app.pendingNav with
  | none =>
      exact ⟨rfl, (if_neg fun both => nomatch both.1).symm⟩
  | some nav =>
      cases nav with
      | pinEntry =>
          unfold UiApp.dispatchNav navigateToPinEntry present
          simp only [true_and]
          split <;> exact ⟨rfl, rfl⟩
      | compose =>
          rw [if_neg fun both => nomatch both.1]
          unfold UiApp.dispatchNav navigateToCompose
          simp only
          split
          · exact keeps _ _ rfl rfl
          · exact ⟨rfl, rfl⟩
      | send =>
          rw [if_neg fun both => nomatch both.1]
          unfold UiApp.dispatchNav sendDraft
          simp only
          split <;> exact ⟨rfl, rfl⟩
      | composeCancelled =>
          rw [if_neg fun both => nomatch both.1]
          unfold UiApp.dispatchNav returnToMessageView
          simp only
          split
          · exact keeps _ _ rfl rfl
          · exact ⟨rfl, rfl⟩
      | pinRejected =>
          rw [if_neg fun both => nomatch both.1]
          exact ⟨rfl, rfl⟩
      | _ =>
          rw [if_neg fun both => nomatch both.1]
          exact keeps _ _ rfl rfl

/-- The screens that a turn opens. -/
theorem pins_openScreens
    (expand : String → String)
    (app : UiApp)
    (nowMs : Nat)
    (constructs : ScreenPlace → Construction) :
    let opened := app.openScreens expand nowMs constructs
    opened.provisionedPin = app.provisionedPin ∧
      opened.padPin =
        if app.pendingNav = some .pinEntry ∧
            constructs .asked = .shown then
          app.provisionedPin
        else
          app.padPin := by
  have splashed :
      ∀ made,
        (app.splashTurn nowMs made).1.provisionedPin =
            app.provisionedPin ∧
          (app.splashTurn nowMs made).1.padPin = app.padPin ∧
          (app.splashTurn nowMs made).1.pendingNav = app.pendingNav := by
    intro made
    unfold UiApp.splashTurn dismissSplash
    simp only
    split
    · split
      all_goals
        exact
          ⟨present_field UiApp.provisionedPin made (by rfl),
            present_field UiApp.padPin made (by rfl),
            present_field UiApp.pendingNav made (by rfl)⟩
    · exact ⟨rfl, rfl, rfl⟩
  have returned :
      ∀ (app : UiApp) made,
        (app.deferredTurn nowMs made).1.provisionedPin =
            app.provisionedPin ∧
          (app.deferredTurn nowMs made).1.padPin = app.padPin := by
    intro app made
    unfold UiApp.deferredTurn returnToMessageView
    split
    · simp only
      split
      · split
        · exact
            ⟨present_field UiApp.provisionedPin made (by rfl),
              present_field UiApp.padPin made (by rfl)⟩
        · exact ⟨rfl, rfl⟩
      · exact ⟨rfl, rfl⟩
    · exact ⟨rfl, rfl⟩
  obtain ⟨provisioned, pad, asked⟩ := splashed (constructs .splash)
  obtain ⟨navProvisioned, navPad⟩ :=
    pins_navTurn expand (app.splashTurn nowMs (constructs .splash)).1 nowMs
      (constructs .asked)
  obtain ⟨lastProvisioned, lastPad⟩ :=
    returned
      (UiApp.navTurn expand (app.splashTurn nowMs (constructs .splash)).1
        nowMs (constructs .asked)).1
      (constructs .afterSend)
  rw [provisioned] at navProvisioned navPad
  rw [asked, pad] at navPad
  exact ⟨lastProvisioned.trans navProvisioned, lastPad.trans navPad⟩

/-- An event sets the PIN, and leaves the entry. -/
theorem pins_handleEvent
    (app : UiApp)
    (nowMs : Nat)
    (event : UiTaskEvent) :
    (app.handleEvent nowMs event).provisionedPin =
        event.setPin app.provisionedPin ∧
      (app.handleEvent nowMs event).padPin = app.padPin := by
  cases event <;> exact ⟨rfl, rfl⟩

end UiApp

namespace UiRuntime

variable {ui : UiRuntime}

/-- The screen is the same, and so are the settings unless it is the menu. -/
def SettingsKept
    (ui next : UiRuntime) :
    Prop :=
  next.app.screen = ui.app.screen ∧
    (next.app.settings = ui.app.settings ∨ ui.app.screen = .adminMenu)

/-- One step after the other. -/
theorem SettingsKept.trans
    {next last : UiRuntime}
    (first : ui.SettingsKept next)
    (second : next.SettingsKept last) :
    ui.SettingsKept last := by
  refine ⟨second.1.trans first.1, ?_⟩
  rcases first.2 with same | onMenu
  · rcases second.2 with stays | onMenu
    · exact .inl (stays.trans same)
    · exact .inr (first.1 ▸ onMenu)
  · exact .inr onMenu

/-- Taps change the settings in the menu only. -/
theorem settingsKept_taps
    (ui : UiRuntime)
    (taps : List Tap) :
    ui.SettingsKept (taps.foldl UiRuntime.tap ui) := by
  induction taps generalizing ui with
  | nil =>
      exact ⟨rfl, .inl rfl⟩
  | cons tap rest inductionHypothesis =>
      refine SettingsKept.trans ?_ (inductionHypothesis _)
      unfold UiRuntime.tap
      split
      · exact
          ⟨(ui.app.answered_tap tap).screen, ui.app.settings_tap tap⟩
      · cases tap <;> exact ⟨rfl, .inl rfl⟩
      · exact ⟨rfl, .inl rfl⟩

/-- The inputs of a turn change the settings in the menu only. -/
theorem settingsKept_takeInputs
    (ui : UiRuntime)
    (turn : UiTurn) :
    ui.SettingsKept (ui.takeInputs turn) := by
  refine
    @takeInputs_induction (fun after => ui.SettingsKept after) turn
      ?_ ?_ ?_ ?_ ui ⟨rfl, .inl rfl⟩
  · intro after reading driver event taps kept _ _
    refine kept.trans ?_
    rcases handleTouch_cases { after with touch := driver } turn.nowMs event
        taps with
      ⟨-, result⟩ | ⟨-, -, result⟩ | ⟨-, -, result⟩
    · rw [result]
      exact ⟨rfl, .inl rfl⟩
    · rw [result]
      exact ⟨rfl, .inl rfl⟩
    · rw [result]
      exact settingsKept_taps _ taps
  · intro after byte draft _ kept
    refine kept.trans ?_
    unfold handleKey
    split
    · exact ⟨rfl, .inl rfl⟩
    · simp only
      split
      · exact ⟨rfl, .inl rfl⟩
      · exact
          ⟨(after.app.answered_key byte draft).screen,
            .inl (after.app.settings_key byte draft)⟩
  · exact fun after driver kept => kept
  · intro after showContacts event kept
    refine kept.trans ?_
    unfold handleRoll
    split
    · exact ⟨rfl, .inl rfl⟩
    · simp only
      split
      · exact ⟨rfl, .inl rfl⟩
      · exact
          ⟨(after.app.answered_roll showContacts event).screen,
            after.app.settings_roll showContacts event⟩

/-- Events that come without settings leave them. -/
theorem settings_handleEvents
    (ui : UiRuntime)
    (nowMs : Nat)
    (input : LoopInput)
    (without : ∀ event ∈ input.events, event.setsSettings = false) :
    (ui.handleEvents nowMs input).app.settings = ui.app.settings := by
  refine
    @handleEvents_induction
      (fun after => after.app.settings = ui.app.settings) nowMs input ui rfl
      ?_ (fun _ holds => holds)
  intro after event isEvent same
  have isWithout : event.setsSettings = false := by
    rcases isEvent with received | ⟨_, rfl⟩
    · exact without event received
    · rfl
  rw [handleEvent_app]
  cases event with
  | bootSeed seed => cases isWithout
  | lockConfigChanged lockFlags lockTimeoutS => cases isWithout
  | _ => exact same

/-- A turn changes the settings in the menu, or the dispatcher came with others. -/
theorem settings_step
    (expand : String → String)
    (ui : UiRuntime)
    (turn : UiTurn)
    (without : ∀ event ∈ turn.input.events, event.setsSettings = false) :
    (ui.step expand turn).app.settings = ui.app.settings ∨
      (ui.step expand turn).app.screen = .adminMenu := by
  have before :
      (ui.beforeInputs expand turn).app.settings = ui.app.settings := by
    refine (settings_handleEvents _ turn.nowMs turn.input without).trans ?_
    change (UiRuntime.confirmLock _ turn.nowMs).app.settings = _
    rw [confirmLock_app]
    exact (ui.opened_turn expand turn).settings
  obtain ⟨screen, settings⟩ :=
    (ui.beforeInputs expand turn).settingsKept_takeInputs turn
  have app :
      (ui.step expand turn).app =
        ((ui.beforeInputs expand turn).takeInputs turn).app :=
    (afterInputs_eq _ turn.nowMs).1
  rw [app]
  rcases settings with same | onMenu
  · exact .inl (same.trans before)
  · exact .inr (screen.trans onMenu)

/-- The turn opens the entry of the PIN. -/
def OpensPad
    (ui : UiRuntime)
    (turn : UiTurn) :
    Prop :=
  ui.app.pendingNav = some .pinEntry ∧
    turn.hardware.constructs .asked = .shown

instance
    (ui : UiRuntime)
    (turn : UiTurn) :
    Decidable (ui.OpensPad turn) :=
  inferInstanceAs (Decidable (_ ∧ _))

/-- A turn sets the PIN with its events, and copies the one before them to an entry that
it opens. -/
theorem pins_step
    (expand : String → String)
    (ui : UiRuntime)
    (turn : UiTurn) :
    (ui.step expand turn).app.provisionedPin =
        turn.input.events.foldl UiTaskEvent.setPin ui.app.provisionedPin ∧
      (ui.step expand turn).app.padPin =
        if ui.OpensPad turn then ui.app.provisionedPin else ui.app.padPin := by
  have handled :
      ∀ (events : List UiTaskEvent) (ui : UiRuntime),
        (events.foldl (fun ui event => ui.handleEvent turn.nowMs event)
              ui).app.provisionedPin =
            events.foldl UiTaskEvent.setPin ui.app.provisionedPin ∧
          (events.foldl (fun ui event => ui.handleEvent turn.nowMs event)
              ui).app.padPin =
            ui.app.padPin := by
    intro events
    induction events with
    | nil =>
        exact fun _ => ⟨rfl, rfl⟩
    | cons event rest inductionHypothesis =>
        intro ui
        obtain ⟨provisioned, pad⟩ :=
          inductionHypothesis (ui.handleEvent turn.nowMs event)
        obtain ⟨first, same⟩ := ui.app.pins_handleEvent turn.nowMs event
        rw [handleEvent_app] at provisioned pad
        rw [first] at provisioned
        exact ⟨provisioned, pad.trans same⟩
  have silent :
      ∀ (posted : List ConversationEvent) (pin : Vector UInt8 16 × UInt8),
        (posted.map UiTaskEvent.conversation).foldl UiTaskEvent.setPin pin =
          pin := by
    intro posted pin
    induction posted with
    | nil =>
        rfl
    | cons event rest inductionHypothesis =>
        exact inductionHypothesis
  obtain ⟨started, received⟩ := ui.receive_app turn
  obtain ⟨provisioned, pad⟩ :=
    ((ui.receive turn).startClock turn.nowMs).app.pins_openScreens expand
      turn.nowMs turn.hardware.constructs
  have opened :
      ((((ui.receive turn).startClock turn.nowMs).openScreens expand
              turn.nowMs).confirmLock turn.nowMs).syncNotifPrefs.app =
        ((ui.receive turn).startClock turn.nowMs).app.openScreens expand
          turn.nowMs turn.hardware.constructs := by
    change (UiRuntime.confirmLock _ turn.nowMs).app = _
    rw [confirmLock_app, openScreens_app, startClock_hardware]
  rw [← opened, startClock_app, received] at provisioned pad
  have answered := (ui.beforeInputs expand turn).answered_takeInputs turn
  have app :
      (ui.step expand turn).app =
        ((ui.beforeInputs expand turn).takeInputs turn).app :=
    (afterInputs_eq _ turn.nowMs).1
  rw [app, answered.provisionedPin, answered.padPin]
  unfold beforeInputs handleEvents
  simp only
  obtain ⟨lastProvisioned, lastPad⟩ :=
    handled
      (turn.input.events ++
        (UiRuntime.syncNotifPrefs
          ((((ui.receive turn).startClock turn.nowMs).openScreens expand
            turn.nowMs).confirmLock turn.nowMs)).app.posted.map
              UiTaskEvent.conversation)
      _
  refine ⟨lastProvisioned.trans ?_, lastPad.trans pad⟩
  rw [List.foldl_append, silent]
  exact
    congrArg
      (fun pin => turn.input.events.foldl UiTaskEvent.setPin pin) provisioned

variable {expand : String → String} {isProvisioned : Bool}

/-- The entry of the PIN was last opened after these turns. -/
def PadOpenedAfter
    (expand : String → String)
    (isProvisioned : Bool)
    (turns earlier : List UiTurn) :
    Prop :=
  ∃ opening rest,
    turns = earlier ++ opening :: rest ∧
      (run expand isProvisioned earlier).OpensPad opening ∧
      ∀ passed later,
        passed ++ [later] <+: rest →
          ¬ (run expand isProvisioned (earlier ++ opening :: passed)).OpensPad
              later

/-- A turn that does not open the entry leaves when it was opened. -/
theorem PadOpenedAfter.concat
    {turns earlier : List UiTurn}
    {turn : UiTurn}
    (opened : PadOpenedAfter expand isProvisioned turns earlier)
    (closed : ¬ (run expand isProvisioned turns).OpensPad turn) :
    PadOpenedAfter expand isProvisioned (turns ++ [turn]) earlier := by
  obtain ⟨opening, rest, rfl, opens, since⟩ := opened
  refine ⟨opening, rest ++ [turn], by simp, opens, ?_⟩
  intro passed later isPrefix
  rcases List.prefix_concat_iff.mp isPrefix with isAll | isEarlier
  · obtain ⟨rfl, isLast⟩ := List.append_inj' isAll rfl
    cases isLast
    exact closed
  · exact since passed later isEarlier

/-- The PIN is that of the last seed, and the entry compares with that of the last seed
before it was opened. -/
theorem pins_run
    (expand : String → String)
    (isProvisioned : Bool)
    (turns : List UiTurn) :
    (run expand isProvisioned turns).app.provisionedPin = seededPin turns ∧
      ((run expand isProvisioned turns).app.padPin = seededPin [] ∨
        ∃ earlier,
          PadOpenedAfter expand isProvisioned turns earlier ∧
            (run expand isProvisioned turns).app.padPin =
              seededPin earlier) := by
  induction turns using List.reverseRecOn with
  | nil =>
      exact ⟨rfl, .inl rfl⟩
  | append_singleton turns turn inductionHypothesis =>
      obtain ⟨provisioned, pad⟩ := inductionHypothesis
      obtain ⟨stepProvisioned, stepPad⟩ :=
        pins_step expand (run expand isProvisioned turns) turn
      rw [run_concat]
      constructor
      · rw [stepProvisioned, provisioned, seededPin, seededPin,
          List.foldl_append]
        rfl
      · split at stepPad
        · rename_i opens
          refine .inr ⟨turns, ⟨turn, [], rfl, opens, ?_⟩, ?_⟩
          · intro passed later isPrefix
            have isNil := List.prefix_nil.mp isPrefix
            exact absurd isNil (List.append_ne_nil_of_right_ne_nil _
              (List.cons_ne_nil _ _))
          · exact stepPad.trans provisioned
        · rename_i closed
          rw [stepPad]
          rcases pad with never | ⟨earlier, opened, isPad⟩
          · exact .inl never
          · exact .inr ⟨earlier, opened.concat closed, isPad⟩

/-- In every run the menu and what is behind it are on the screen only after digits were
confirmed that are the PIN of the last seed before the entry was opened, and the
settings change only there or with what the dispatcher says. -/
theorem menu_behind_pin
    (expand : String → String)
    (isProvisioned : Bool)
    (turns : List UiTurn)
    (turn : UiTurn) :
    let app := (run expand isProvisioned turns).app
    let next := (run expand isProvisioned (turns ++ [turn])).app
    (next.screen.behindPin →
        ∃ earlier digits,
          PadOpenedAfter expand isProvisioned (turns ++ [turn]) earlier ∧
            next.confirmedPin = some digits ∧ 0 < digits.length ∧
            digits.length = (seededPin earlier).2.toNat ∧
            ∀ i < 16,
              digits.getD i 0 = (seededPin earlier).1.toList.getD i 0) ∧
      (next.settings ≠ app.settings →
        (∃ event ∈ turn.input.events, event.setsSettings = true) ∨
          next.screen = .adminMenu) := by
  have sound := sound_run expand isProvisioned (turns ++ [turn])
  obtain ⟨-, pad⟩ := pins_run expand isProvisioned (turns ++ [turn])
  constructor
  · intro behind
    obtain ⟨digits, isConfirmed, isRight⟩ := sound.menu behind
    obtain ⟨positive, sameLength, same⟩ := (verifyPin_iff _ _ _).mp isRight
    rcases pad with never | ⟨earlier, opened, isPad⟩
    · have empty := congrArg Prod.snd never
      rw [show UiApp.entryPinLen _ = 0 from empty] at positive
      exact absurd positive (Nat.lt_irrefl 0)
    · refine
        ⟨earlier, digits, opened, isConfirmed, sameLength ▸ positive, ?_⟩
      rw [← isPad]
      exact ⟨sameLength, same⟩
  · intro changed
    by_contra neither
    rw [not_or] at neither
    obtain ⟨noSettings, notMenu⟩ := neither
    have without :
        ∀ event ∈ turn.input.events, event.setsSettings = false := by
      intro event member
      refine Bool.eq_false_iff.mpr fun sets => noSettings ⟨event, member, sets⟩
    rw [run_concat] at changed notMenu
    rcases settings_step expand (run expand isProvisioned turns) turn
        without with same | onMenu
    · exact changed same
    · exact notMenu onMenu

/-- A seed with the PIN 13. -/
def seedWithPin : UiBootSeed :=
  { plainSeed with
    pin := #v[0x31, 0x33, 0, 0, 0, 0, 0, 0, 0, 0, 0, 0, 0, 0, 0, 0]
    pinLen := 2 }

/-- Somebody asks for the settings after the splash and taps digits. -/
def entersPin
    (digits : List UInt8) :
    List UiTurn :=
  [{ touchTurn 0 [] with input := .event (.bootSeed seedWithPin) },
    touchTurn 2500 [],
    touchTurn 2600 [(fingerDown, [.settings])],
    touchTurn 2700 [(.quiet, [])],
    touchTurn 2800
      [(fingerDown, digits.map .padDigit ++ [.padConfirm])],
    touchTurn 2900 []]

example : (run id true (entersPin [1, 3])).app.screen = .adminMenu := by
  decide +kernel

example : (run id true (entersPin [1, 4])).app.screen = .pinEntry := by
  decide +kernel

end UiRuntime

end MeshCadet
