import MeshCadet.Transition

namespace MeshCadet

/-!
# Notifications

An event may sound, and a message that arrives while the screen sleeps makes the
keyboard blink until the device wakes.  The blinking is polled: it starts with the
first message and goes on in bursts, however often it is polled and whatever arrives
meanwhile.
-/

/-- Events that may be notified. -/
inductive NotifEvent where
  | incomingDm
  | incomingGroupMsg
  | dmAcked
  | channelAcked
  | provisioned
  | telemetryResponse
  | pinError
  | pinSuccess
deriving Repr, DecidableEq

/-- Whether an event is to be seen and heard. -/
structure NotifPref where
  visual : Bool
  audible : Bool
deriving Repr, DecidableEq

/-- The preferences of all events. -/
structure NotifPrefs where
  incomingDm : NotifPref
  incomingGroupMsg : NotifPref
  dmAcked : NotifPref
  channelAcked : NotifPref
  provisioned : NotifPref
  telemetryResponse : NotifPref
  pinError : NotifPref
  pinSuccess : NotifPref
deriving Repr, DecidableEq

namespace NotifPrefs

/-- The preferences before any are set. -/
def default : NotifPrefs :=
  { incomingDm := ⟨true, true⟩
    incomingGroupMsg := ⟨true, true⟩
    dmAcked := ⟨true, false⟩
    channelAcked := ⟨true, false⟩
    provisioned := ⟨true, true⟩
    telemetryResponse := ⟨true, false⟩
    pinError := ⟨true, true⟩
    pinSuccess := ⟨true, true⟩ }

/-- The preferences that two switches stand for; acknowledgements and telemetry are
never heard. -/
def fromProvisioningDefaults
    (visual audible : Bool) :
    NotifPrefs :=
  let pref : NotifPref := ⟨visual, audible⟩
  { incomingDm := pref
    incomingGroupMsg := pref
    dmAcked := ⟨visual, false⟩
    channelAcked := ⟨visual, false⟩
    provisioned := pref
    telemetryResponse := ⟨visual, false⟩
    pinError := pref
    pinSuccess := pref }

/-- The preference of an event. -/
def prefFor
    (prefs : NotifPrefs) :
    NotifEvent → NotifPref
  | .incomingDm => prefs.incomingDm
  | .incomingGroupMsg => prefs.incomingGroupMsg
  | .dmAcked => prefs.dmAcked
  | .channelAcked => prefs.channelAcked
  | .provisioned => prefs.provisioned
  | .telemetryResponse => prefs.telemetryResponse
  | .pinError => prefs.pinError
  | .pinSuccess => prefs.pinSuccess

end NotifPrefs

/-- A tone of the buzzer. -/
structure ToneBurst where
  freqHz : Nat
  durMs : Nat
deriving Repr, DecidableEq

/-- The tones of an event. -/
def toneSequence : NotifEvent → List ToneBurst
  | .incomingDm => [⟨880, 120⟩, ⟨1320, 80⟩]
  | .incomingGroupMsg => [⟨660, 100⟩, ⟨880, 100⟩]
  | .dmAcked => [⟨1047, 60⟩]
  | .channelAcked => [⟨1047, 60⟩]
  | .provisioned => [⟨523, 150⟩, ⟨784, 150⟩, ⟨1047, 250⟩]
  | .telemetryResponse => [⟨880, 80⟩]
  | .pinError => [⟨330, 200⟩, ⟨220, 300⟩]
  | .pinSuccess => [⟨784, 100⟩, ⟨1047, 150⟩]

/-- Blinks in a burst. -/
def blinkCount : Nat :=
  3

/-- How long the light is on, and then off. -/
def blinkPhaseMs : Nat :=
  150

/-- The time from one burst to the next. -/
def burstIntervalMs : Nat :=
  5000

/-- The blinking of the keyboard. -/
structure BlinkLoop where
  active : Bool
  burstStartMs : Nat
deriving Repr, DecidableEq

namespace BlinkLoop

/-- Nothing blinks. -/
def new : BlinkLoop :=
  { active := false
    burstStartMs := 0 }

/-- Start to blink, unless it blinks already. -/
def notify
    (blink : BlinkLoop)
    (nowMs : Nat) :
    BlinkLoop :=
  if blink.active then
    blink
  else
    { active := true
      burstStartMs := nowMs }

/-- Stop to blink. -/
def stop
    (blink : BlinkLoop) :
    BlinkLoop :=
  { blink with active := false }

/-- Move on to the current burst. -/
def roll
    (blink : BlinkLoop)
    (nowMs : Nat) :
    BlinkLoop :=
  let elapsed := nowMs - blink.burstStartMs
  if burstIntervalMs ≤ elapsed then
    { blink with
      burstStartMs :=
        blink.burstStartMs + elapsed / burstIntervalMs * burstIntervalMs }
  else
    blink

/-- Move on to the current burst, and say whether the light is on. -/
def poll
    (blink : BlinkLoop)
    (nowMs : Nat) :
    BlinkLoop × Bool :=
  if blink.active then
    let current := blink.roll nowMs
    let elapsed := nowMs - current.burstStartMs
    (current,
      if blinkCount * 2 * blinkPhaseMs ≤ elapsed then
        false
      else
        elapsed / blinkPhaseMs % 2 == 0)
  else
    (blink, false)

end BlinkLoop

/-- The light of a keyboard that blinks since a time. -/
def litSince
    (sinceMs nowMs : Nat) :
    Bool :=
  (nowMs - sinceMs) % burstIntervalMs < blinkCount * 2 * blinkPhaseMs &&
    (nowMs - sinceMs) % burstIntervalMs / blinkPhaseMs % 2 == 0

/-- The light of a keyboard that may blink since a time. -/
def litAt
    (since : Option Nat)
    (nowMs : Nat) :
    Bool :=
  since.any fun sinceMs => litSince sinceMs nowMs

/-- The loop blinks since the time, and its current burst has started. -/
def BlinkLoop.BlinksSince
    (blink : BlinkLoop)
    (since : Option Nat)
    (nowMs : Nat) :
    Prop :=
  match since with
  | none => blink.active = false
  | some sinceMs =>
      blink.active = true ∧ blink.burstStartMs ≤ nowMs ∧
        ∃ bursts,
          blink.burstStartMs = sinceMs + burstIntervalMs * bursts

namespace BlinkLoop

variable {blink : BlinkLoop} {since : Option Nat} {earlierMs nowMs : Nat}

/-- Time passes. -/
theorem BlinksSince.later
    (blinks : blink.BlinksSince since earlierMs)
    (ordered : earlierMs ≤ nowMs) :
    blink.BlinksSince since nowMs := by
  cases since with
  | none =>
      exact blinks
  | some sinceMs =>
      obtain ⟨active, started, bursts⟩ := blinks
      exact ⟨active, Nat.le_trans started ordered, bursts⟩

/-- Only the first message starts the blinking. -/
theorem BlinksSince.notify
    (blinks : blink.BlinksSince since nowMs) :
    (blink.notify nowMs).BlinksSince (some (since.getD nowMs)) nowMs := by
  cases since with
  | none =>
      have inactive : blink.active = false := blinks
      rw [BlinkLoop.notify, if_neg (by rw [inactive]; exact nofun)]
      exact ⟨rfl, Nat.le_refl nowMs, 0, rfl⟩
  | some sinceMs =>
      rw [BlinkLoop.notify, if_pos blinks.1]
      exact blinks

/-- Nothing blinks after it was stopped. -/
theorem blinksSince_stop
    (blink : BlinkLoop)
    (nowMs : Nat) :
    blink.stop.BlinksSince none nowMs :=
  rfl

/-- The burst a poll moves on to starts whole intervals later. -/
theorem roll_eq
    (blink : BlinkLoop)
    (nowMs : Nat) :
    blink.roll nowMs =
      { blink with
        burstStartMs :=
          blink.burstStartMs +
            burstIntervalMs *
              ((nowMs - blink.burstStartMs) / burstIntervalMs) } := by
  unfold roll
  by_cases long : burstIntervalMs ≤ nowMs - blink.burstStartMs
  · simp only [if_pos long, Nat.mul_comm burstIntervalMs]
  · simp only [if_neg long,
      Nat.div_eq_of_lt (Nat.lt_of_not_le long), Nat.mul_zero, Nat.add_zero]

/-- A poll says whether the light is on, and changes nothing about that. -/
theorem BlinksSince.poll
    (blinks : blink.BlinksSince since nowMs) :
    (blink.poll nowMs).1.BlinksSince since nowMs ∧
      (blink.poll nowMs).2 = litAt since nowMs := by
  cases since with
  | none =>
      have inactive : blink.active = false := blinks
      rw [BlinkLoop.poll, if_neg (by rw [inactive]; exact nofun)]
      exact ⟨inactive, rfl⟩
  | some sinceMs =>
      obtain ⟨active, started, bursts, isStart⟩ := blinks
      obtain ⟨elapsed, isNow⟩ := Nat.exists_eq_add_of_le started
      have isElapsed : nowMs - blink.burstStartMs = elapsed := by omega
      have divided := Nat.div_add_mod elapsed burstIntervalMs
      have rest :
          nowMs -
              (blink.burstStartMs +
                burstIntervalMs * (elapsed / burstIntervalMs)) =
            elapsed % burstIntervalMs := by
        omega
      have sinceRest :
          (nowMs - sinceMs) % burstIntervalMs =
            elapsed % burstIntervalMs := by
        have split :
            nowMs - sinceMs = elapsed + burstIntervalMs * bursts := by
          omega
        rw [split, Nat.add_mul_mod_self_left]
      rw [BlinkLoop.poll, if_pos active]
      simp only [roll_eq, isElapsed, rest]
      refine ⟨⟨active, ?_, bursts + elapsed / burstIntervalMs, ?_⟩, ?_⟩
      · change
          blink.burstStartMs +
              burstIntervalMs * (elapsed / burstIntervalMs) ≤
            nowMs
        omega
      · change
          blink.burstStartMs +
              burstIntervalMs * (elapsed / burstIntervalMs) =
            sinceMs + burstIntervalMs * (bursts + elapsed / burstIntervalMs)
        rw [isStart, Nat.mul_add, Nat.add_assoc]
      · simp only [litAt, Option.any_some, litSince, sinceRest]
        by_cases quiet :
            blinkCount * 2 * blinkPhaseMs ≤ elapsed % burstIntervalMs
        · rw [if_pos quiet, decide_eq_false (Nat.not_lt.mpr quiet)]
          rfl
        · rw [if_neg quiet, decide_eq_true (Nat.lt_of_not_le quiet)]
          rfl

end BlinkLoop

/-- The preferences, the tones to play, and the blinking. -/
structure NotifDispatcher where
  prefs : NotifPrefs
  pendingTones : Option (List ToneBurst)
  blink : BlinkLoop
deriving Repr, DecidableEq

namespace NotifDispatcher

/-- Nothing was notified yet. -/
def new
    (prefs : NotifPrefs) :
    NotifDispatcher :=
  { prefs := prefs
    pendingTones := none
    blink := .new }

/-- Notify an event; a message makes the keyboard blink while the screen sleeps. -/
def fire
    (notif : NotifDispatcher)
    (event : NotifEvent)
    (nowMs : Nat)
    (screenAsleep : Bool) :
    NotifDispatcher :=
  let pref := notif.prefs.prefFor event
  let blink :=
    if (event = .incomingDm ∨ event = .incomingGroupMsg) ∧
        pref.visual ∧ screenAsleep then
      notif.blink.notify nowMs
    else
      notif.blink
  { notif with
    blink := blink
    pendingTones :=
      if pref.audible then
        some (toneSequence event)
      else
        notif.pendingTones }

/-- The tones to play, which are then forgotten. -/
def takeTones
    (notif : NotifDispatcher) :
    NotifDispatcher × Option (List ToneBurst) :=
  ({ notif with pendingTones := none }, notif.pendingTones)

/-- Whether the light is on. -/
def pollBlink
    (notif : NotifDispatcher)
    (nowMs : Nat) :
    NotifDispatcher × Bool :=
  let (blink, lit) := notif.blink.poll nowMs
  ({ notif with blink := blink }, lit)

/-- Stop to blink. -/
def stopBlink
    (notif : NotifDispatcher) :
    NotifDispatcher :=
  { notif with blink := notif.blink.stop }

end NotifDispatcher

/-- Of times that are less than a phase apart, one lies in every phase between the
first and the last. -/
theorem exists_sample
    {phaseMs startMs firstMs : Nat}
    {times : List Nat}
    (close :
      (firstMs :: times).IsChain fun earlier later =>
        earlier ≤ later ∧ later < earlier + phaseMs)
    (begins : firstMs ≤ startMs)
    (ends : ∃ time ∈ firstMs :: times, startMs ≤ time)
    (positive : 0 < phaseMs) :
    ∃ time ∈ firstMs :: times,
      startMs ≤ time ∧ time < startMs + phaseMs := by
  induction times generalizing firstMs with
  | nil =>
      obtain ⟨time, member, behind⟩ := ends
      have isFirst := List.mem_singleton.mp member
      exact ⟨time, member, behind, by omega⟩
  | cons secondMs rest inductionHypothesis =>
      rw [List.isChain_cons_cons] at close
      obtain ⟨⟨ordered, near⟩, restClose⟩ := close
      by_cases reached : startMs ≤ secondMs
      · by_cases already : startMs ≤ firstMs
        · exact ⟨firstMs, List.mem_cons_self, already, by omega⟩
        · exact
            ⟨secondMs, List.mem_cons_of_mem _ List.mem_cons_self, reached,
              by omega⟩
      · obtain ⟨time, member, behind⟩ := ends
        have inRest : time ∈ secondMs :: rest := by
          rcases List.mem_cons.mp member with rfl | inRest
          · omega
          · exact inRest
        obtain ⟨sample, isTime, inPhase⟩ :=
          inductionHypothesis restClose (Nat.le_of_not_le reached)
            ⟨time, inRest, behind⟩
        exact ⟨sample, List.mem_cons_of_mem firstMs isTime, inPhase⟩

/-- In the phases of a burst the light is on and off in turn. -/
theorem litSince_phase
    {sinceMs burst phase nowMs : Nat}
    (inBurst : phase < blinkCount * 2)
    (begins :
      sinceMs + burstIntervalMs * burst + blinkPhaseMs * phase ≤ nowMs)
    (ends :
      nowMs <
        sinceMs + burstIntervalMs * burst + blinkPhaseMs * phase +
          blinkPhaseMs) :
    litSince sinceMs nowMs = (phase % 2 == 0) := by
  rw [blinkCount] at inBurst
  rw [blinkPhaseMs] at begins ends
  obtain ⟨elapsed, isElapsed, low, high⟩ :
      ∃ elapsed,
        nowMs - sinceMs = elapsed + burstIntervalMs * burst ∧
          150 * phase ≤ elapsed ∧ elapsed < 150 * phase + 150 :=
    ⟨nowMs - sinceMs - burstIntervalMs * burst, by omega, by omega,
      by omega⟩
  have rest : (nowMs - sinceMs) % burstIntervalMs = elapsed := by
    rw [isElapsed, Nat.add_mul_mod_self_left, burstIntervalMs]
    exact Nat.mod_eq_of_lt (by omega)
  have isPhase : elapsed / blinkPhaseMs = phase := by
    rw [blinkPhaseMs]
    omega
  rw [litSince, rest, isPhase,
    decide_eq_true (show elapsed < blinkCount * 2 * blinkPhaseMs by
      rw [blinkCount, blinkPhaseMs]
      omega)]
  rfl

end MeshCadet
