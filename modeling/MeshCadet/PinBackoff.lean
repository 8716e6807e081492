import MeshCadet.Transition
import Mathlib.Tactic.SplitIfs

namespace MeshCadet

/-!
# Backoff of the lock screen

A wrong PIN locks the next attempt out for a time that grows with the number of
wrong ones in a row.  The decision is a pure function of that number; the screen
keeps the time and refuses what comes too early.  What the guesser gets out of
both is a rate: the times of the attempts it scored.
-/

/-- Attempts before the first lockout. -/
def freeAttempts : Nat :=
  4

/-- The lockouts in seconds; the last one stays. -/
def backoffStepsS : List Nat :=
  [30, 60, 120, 300]

/-- The largest count of failures. -/
def maxFailures : Nat :=
  4294967295

/-- Seconds that as many wrong PINs in a row lock the next one out for. -/
def lockoutSecondsAfterFailure
    (consecutiveFailures : Nat) :
    Nat :=
  if consecutiveFailures ≤ freeAttempts then
    0
  else
    let step := consecutiveFailures - freeAttempts - 1
    backoffStepsS.getD (min step (backoffStepsS.length - 1)) 0

/-- The lockout is over. -/
def unlockAttemptAllowed
    (nowMs lockoutStartedMs lockoutS : Nat) :
    Bool :=
  lockoutS == 0 || lockoutS * 1000 ≤ nowMs - lockoutStartedMs

/-- What an attempt comes to. -/
structure UnlockOutcome where
  unlocked : Bool
  lockoutS : Nat
deriving Repr, DecidableEq

/-- Score an attempt; returns the outcome and the count of failures. -/
def attemptUnlock
    (pinCorrect : Bool)
    (consecutiveFailures : Nat) :
    UnlockOutcome × Nat :=
  if pinCorrect then
    ({ unlocked := true, lockoutS := 0 }, 0)
  else
    let failures := min (consecutiveFailures + 1) maxFailures
    ({ unlocked := false
       lockoutS := lockoutSecondsAfterFailure failures },
      failures)

/-- Compare an entered PIN with the stored one, without an early return. -/
def verifyLockPin
    (entered : List UInt8)
    (storedPin : Vector UInt8 4)
    (storedPinLen : UInt8) :
    Bool :=
  let length := storedPinLen.toNat
  if length = 0 then
    false
  else
    let start : UInt8 := if entered.length ≠ length then 1 else 0
    let compared :=
      (List.range 4).foldl
        (fun mismatch i =>
          mismatch ||| (entered.getD i 0 ^^^ storedPin.toList.getD i 0))
        start
    (entered.drop length).foldl (· ||| ·) compared == 0

/-- An attempt that was scored. -/
structure ScoredAttempt where
  timeMs : Nat
  correct : Bool
deriving Repr, DecidableEq

/--
What the lock screen keeps, the time of the last event, and the attempts scored
since the boot, newest first.
-/
structure LockScreen where
  locked : Bool
  consecutiveFailures : Nat
  lockoutStartedMs : Nat
  lockoutS : Nat
  storedPin : Vector UInt8 4
  storedPinLen : UInt8
  clockMs : Nat
  scored : List ScoredAttempt
deriving Repr, DecidableEq

/-- What happens to the lock screen: it locks, its PIN is changed, or a turn of
the main loop, which takes the digits that were confirmed since the last one. -/
inductive LockAction where
  | trip
  | setPin (pin : Vector UInt8 4) (pinLen : UInt8)
  | turn (digits : Option (List UInt8))
deriving Repr, DecidableEq

structure LockEvent where
  nowMs : Nat
  action : LockAction
deriving Repr, DecidableEq

namespace LockScreen

/-- The screen after a boot. -/
def boot
    (lockEnabled : Bool)
    (pin : Vector UInt8 4)
    (pinLen : UInt8) :
    LockScreen :=
  { locked := lockEnabled
    consecutiveFailures := 0
    lockoutStartedMs := 0
    lockoutS := 0
    storedPin := pin
    storedPinLen := pinLen
    clockMs := 0
    scored := [] }

/-- Unlock, unless it is unlocked. -/
def unlock
    (screen : LockScreen) :
    LockScreen :=
  if screen.locked then
    { screen with locked := false, lockoutS := 0 }
  else
    screen

/-- Score confirmed digits, unless they come in a lockout. -/
def confirm
    (screen : LockScreen)
    (nowMs : Nat)
    (digits : List UInt8) :
    LockScreen :=
  if unlockAttemptAllowed nowMs screen.lockoutStartedMs screen.lockoutS then
    let correct :=
      verifyLockPin digits screen.storedPin screen.storedPinLen
    let result := attemptUnlock correct screen.consecutiveFailures
    let scored :=
      { screen with
        consecutiveFailures := result.2
        scored := ⟨nowMs, correct⟩ :: screen.scored }
    if result.1.unlocked then
      scored.unlock
    else
      { scored with
        lockoutS := result.1.lockoutS
        lockoutStartedMs := nowMs }
  else
    screen

/-- Forget a lockout that is over. -/
def countDown
    (screen : LockScreen)
    (nowMs : Nat) :
    LockScreen :=
  if screen.locked ∧ 0 < screen.lockoutS ∧
      screen.lockoutS * 1000 ≤ nowMs - screen.lockoutStartedMs then
    { screen with lockoutS := 0 }
  else
    screen

/-- One event. -/
def step
    (screen : LockScreen)
    (event : LockEvent) :
    LockScreen :=
  let screen := { screen with clockMs := event.nowMs }
  match event.action with
  | .trip => { screen with locked := true }
  | .setPin pin pinLen =>
      { screen with storedPin := pin, storedPinLen := pinLen }
  | .turn none => screen.countDown event.nowMs
  | .turn (some digits) =>
      (screen.confirm event.nowMs digits).countDown event.nowMs

end LockScreen

/-- Wrong PINs since the last correct one, newest first. -/
def wrongStreak
    (scored : List ScoredAttempt) :
    List ScoredAttempt :=
  scored.takeWhile fun attempt => !attempt.correct

/-- The count of failures that scored attempts leave. -/
def failuresOf
    (scored : List ScoredAttempt) :
    Nat :=
  min (wrongStreak scored).length maxFailures

/-- Every attempt waits for the lockout that the ones before it leave. -/
def Paced :
    List ScoredAttempt → Prop
  | [] => True
  | [_] => True
  | attempt :: last :: earlier =>
      last.timeMs +
          1000 * lockoutSecondsAfterFailure (failuresOf (last :: earlier)) ≤
        attempt.timeMs ∧
      Paced (last :: earlier)

/-- The earliest time in seconds of a wrong PIN after the first one in a row. -/
def earliestS : Nat → Nat
  | 0 => 0
  | count + 1 => earliestS count + lockoutSecondsAfterFailure count

/-- The lockouts, case by case. -/
theorem lockoutSecondsAfterFailure_eq
    (failures : Nat) :
    lockoutSecondsAfterFailure failures =
      if failures ≤ 4 then 0
      else if failures = 5 then 30
      else if failures = 6 then 60
      else if failures = 7 then 120
      else 300 := by
  match failures with
  | 0 | 1 | 2 | 3 | 4 | 5 | 6 | 7 => rfl
  | more + 8 =>
      have last : min (more + 8 - freeAttempts - 1) 3 = 3 := by
        rw [freeAttempts]
        omega
      rw [lockoutSecondsAfterFailure, if_neg (by rw [freeAttempts]; omega),
        if_neg (by omega), if_neg (by omega), if_neg (by omega),
        if_neg (by omega)]
      simp only [backoffStepsS, List.length_cons, List.length_nil]
      rw [last]
      rfl

/-- More failures do not shorten the lockout. -/
theorem lockoutSecondsAfterFailure_mono
    {fewer more : Nat}
    (atMost : fewer ≤ more) :
    lockoutSecondsAfterFailure fewer ≤ lockoutSecondsAfterFailure more := by
  rw [lockoutSecondsAfterFailure_eq, lockoutSecondsAfterFailure_eq]
  split_ifs <;> omega

/-- The lockout has reached its cap long before the count does. -/
theorem lockoutSecondsAfterFailure_min
    (failures : Nat) :
    lockoutSecondsAfterFailure (min failures maxFailures) =
      lockoutSecondsAfterFailure failures := by
  rcases Nat.le_total failures maxFailures with few | many
  · rw [Nat.min_eq_left few]
  · have capped : 8 ≤ maxFailures := by decide
    rw [Nat.min_eq_right many, lockoutSecondsAfterFailure_eq,
      lockoutSecondsAfterFailure_eq]
    split_ifs <;> omega

/-- From the eighth wrong PIN on each waits for the longest lockout. -/
theorem earliestS_eq
    {count : Nat}
    (atLeast : 8 ≤ count) :
    earliestS count = 210 + 300 * (count - 8) := by
  obtain ⟨more, rfl⟩ := Nat.exists_eq_add_of_le atLeast
  clear atLeast
  induction more with
  | zero =>
      rfl
  | succ more inductionHypothesis =>
      rw [← Nat.add_assoc, earliestS, inductionHypothesis,
        lockoutSecondsAfterFailure_eq]
      split_ifs <;> omega

theorem wrongStreak_append
    {window : List ScoredAttempt}
    (wrong : ∀ attempt ∈ window, attempt.correct = false)
    (earlier : List ScoredAttempt) :
    wrongStreak (window ++ earlier) = window ++ wrongStreak earlier := by
  refine List.takeWhile_append_of_pos fun attempt member => ?_
  rw [wrong attempt member]
  rfl

theorem Paced.tail
    {attempt : ScoredAttempt}
    {earlier : List ScoredAttempt}
    (paced : Paced (attempt :: earlier)) :
    Paced earlier := by
  cases earlier with
  | nil =>
      trivial
  | cons last earlier =>
      exact paced.2

theorem Paced.of_append
    {later earlier : List ScoredAttempt}
    (paced : Paced (later ++ earlier)) :
    Paced earlier := by
  induction later with
  | nil =>
      exact paced
  | cons attempt later inductionHypothesis =>
      exact inductionHypothesis (Paced.tail paced)

/-- Wrong PINs in a row take at least the lockouts between them. -/
theorem Paced.window
    {window earlier : List ScoredAttempt}
    (paced : Paced (window ++ earlier))
    (wrong : ∀ attempt ∈ window, attempt.correct = false)
    {newest first : ScoredAttempt}
    (isNewest : window.head? = some newest)
    (isFirst : window.getLast? = some first) :
    first.timeMs + 1000 * earliestS window.length ≤ newest.timeMs := by
  induction window generalizing newest with
  | nil =>
      cases isNewest
  | cons attempt others inductionHypothesis =>
      cases isNewest
      cases others with
      | nil =>
          cases isFirst
          exact Nat.le_refl _
      | cons last others =>
          rw [List.getLast?_cons_cons] at isFirst
          rw [List.cons_append, List.cons_append] at paced
          obtain ⟨gap, pacedOthers⟩ := paced
          have wrongOthers :
              ∀ other ∈ last :: others, other.correct = false :=
            fun other member => wrong other (List.mem_cons_of_mem _ member)
          have soFar := inductionHypothesis pacedOthers wrongOthers rfl isFirst
          have atLeast :
              (last :: others).length ≤
                (wrongStreak (last :: others ++ earlier)).length := by
            rw [wrongStreak_append wrongOthers, List.length_append]
            exact Nat.le_add_right _ _
          have lockout := lockoutSecondsAfterFailure_mono atLeast
          rw [List.cons_append] at lockout
          rw [failuresOf, lockoutSecondsAfterFailure_min] at gap
          rw [List.length_cons, earliestS]
          omega

namespace LockScreen

/-- The screen has counted what it scored, and refuses what comes in the lockout
that the last attempt started. -/
structure Guarded
    (screen : LockScreen) :
    Prop where
  counted : screen.consecutiveFailures = failuresOf screen.scored
  waits :
    ∀ last earlier,
      screen.scored = last :: earlier →
        ∀ timeMs,
          screen.clockMs ≤ timeMs →
          unlockAttemptAllowed timeMs screen.lockoutStartedMs
              screen.lockoutS = true →
          last.timeMs +
              1000 * lockoutSecondsAfterFailure
                (failuresOf screen.scored) ≤
            timeMs
  paced : Paced screen.scored

theorem boot_guarded
    (lockEnabled : Bool)
    (pin : Vector UInt8 4)
    (pinLen : UInt8) :
    (boot lockEnabled pin pinLen).Guarded :=
  { counted := rfl
    waits := by
      intro last earlier none
      cases none
    paced := trivial }

/-- What does not touch the count, the lockout or the attempts, and comes
later. -/
theorem Guarded.later
    {screen after : LockScreen}
    (guarded : screen.Guarded)
    (sameCount :
      after.consecutiveFailures = screen.consecutiveFailures)
    (sameStart : after.lockoutStartedMs = screen.lockoutStartedMs)
    (sameLockout : after.lockoutS = screen.lockoutS)
    (sameScored : after.scored = screen.scored)
    (inTime : screen.clockMs ≤ after.clockMs) :
    after.Guarded := by
  refine ⟨?_, ?_, ?_⟩
  · rw [sameCount, sameScored, guarded.counted]
  · intro last earlier isScored timeMs notBefore allowed
    rw [sameStart, sameLockout] at allowed
    rw [sameScored] at isScored ⊢
    exact guarded.waits last earlier isScored timeMs
      (Nat.le_trans inTime notBefore) allowed
  · rw [sameScored]
    exact guarded.paced

theorem Guarded.countDown
    {screen : LockScreen}
    (guarded : screen.Guarded)
    {nowMs : Nat}
    (isNow : screen.clockMs = nowMs) :
    (screen.countDown nowMs).Guarded := by
  rw [LockScreen.countDown]
  split
  case isFalse =>
    exact guarded
  case isTrue isOver =>
    have allowed :
        unlockAttemptAllowed nowMs screen.lockoutStartedMs
            screen.lockoutS = true := by
      rw [unlockAttemptAllowed, decide_eq_true isOver.2.2, Bool.or_true]
    refine ⟨guarded.counted, ?_, guarded.paced⟩
    intro last earlier isScored timeMs notBefore _
    have waited :=
      guarded.waits last earlier isScored nowMs (Nat.le_of_eq isNow) allowed
    have later : screen.clockMs ≤ timeMs := notBefore
    have now : last.timeMs +
          1000 * lockoutSecondsAfterFailure (failuresOf screen.scored) ≤
        timeMs := by
      omega
    exact now

/-- An attempt that is scored comes after the lockout of the last one. -/
theorem Guarded.paced_scored
    {screen : LockScreen}
    (guarded : screen.Guarded)
    {nowMs : Nat}
    (isNow : screen.clockMs = nowMs)
    (allowed :
      unlockAttemptAllowed nowMs screen.lockoutStartedMs
        screen.lockoutS = true)
    (correct : Bool) :
    Paced (⟨nowMs, correct⟩ :: screen.scored) := by
  cases isScored : screen.scored with
  | nil =>
      trivial
  | cons last earlier =>
      have waited :=
        guarded.waits last earlier isScored nowMs (Nat.le_of_eq isNow) allowed
      have paced := guarded.paced
      rw [isScored] at waited paced
      exact ⟨waited, paced⟩

/-- A lockout that has just started is over only after its time. -/
theorem over_of_allowed
    {timeMs startedMs lockoutS : Nat}
    (notBefore : startedMs ≤ timeMs)
    (allowed : unlockAttemptAllowed timeMs startedMs lockoutS = true) :
    startedMs + 1000 * lockoutS ≤ timeMs := by
  rw [unlockAttemptAllowed, Bool.or_eq_true, beq_iff_eq,
    decide_eq_true_iff] at allowed
  omega

theorem Guarded.confirm
    {screen : LockScreen}
    (guarded : screen.Guarded)
    {nowMs : Nat}
    (isNow : screen.clockMs = nowMs)
    (digits : List UInt8) :
    (screen.confirm nowMs digits).Guarded := by
  rw [LockScreen.confirm]
  split
  case isFalse =>
    exact guarded
  case isTrue allowed =>
    cases isCorrect :
        verifyLockPin digits screen.storedPin screen.storedPinLen with
    | true =>
        have paced := guarded.paced_scored isNow allowed true
        have cleared :
            lockoutSecondsAfterFailure
                (failuresOf (⟨nowMs, true⟩ :: screen.scored)) =
              0 := rfl
        have isGuarded :
            ∀ after : LockScreen,
              after.consecutiveFailures = 0 →
              after.clockMs = nowMs →
              after.scored = ⟨nowMs, true⟩ :: screen.scored →
              after.Guarded := by
          intro after none sameClock sameScored
          refine ⟨?_, ?_, ?_⟩
          · rw [none, sameScored]
            rfl
          · intro last earlier isScored timeMs notBefore _
            rw [sameScored] at isScored ⊢
            cases isScored
            rw [cleared]
            dsimp only
            omega
          · rw [sameScored]
            exact paced
        simp only [attemptUnlock, if_true, unlock]
        split
        · exact isGuarded _ rfl isNow rfl
        · exact isGuarded _ rfl isNow rfl
    | false =>
        have paced := guarded.paced_scored isNow allowed false
        have counted :
            min (screen.consecutiveFailures + 1) maxFailures =
              failuresOf (⟨nowMs, false⟩ :: screen.scored) := by
          have longer :
              (wrongStreak (⟨nowMs, false⟩ :: screen.scored)).length =
                (wrongStreak screen.scored).length + 1 := rfl
          rw [guarded.counted, failuresOf, failuresOf, longer]
          omega
        simp only [attemptUnlock, Bool.false_eq_true, if_false]
        refine ⟨counted, ?_, paced⟩
        intro last earlier isScored timeMs notBefore stillAllowed
        cases isScored
        have started : nowMs ≤ timeMs := by
          rw [← isNow]
          exact notBefore
        have waited := over_of_allowed started stillAllowed
        rw [← counted]
        exact waited

/-- Every event keeps the screen guarded. -/
theorem Guarded.step
    {screen : LockScreen}
    (guarded : screen.Guarded)
    {event : LockEvent}
    (inTime : screen.clockMs ≤ event.nowMs) :
    (screen.step event).Guarded := by
  obtain ⟨nowMs, action⟩ := event
  have onTime : ({ screen with clockMs := nowMs } : LockScreen).Guarded :=
    guarded.later rfl rfl rfl rfl inTime
  cases action with
  | trip =>
      exact guarded.later rfl rfl rfl rfl inTime
  | setPin pin pinLen =>
      exact guarded.later rfl rfl rfl rfl inTime
  | turn digits =>
      cases digits with
      | none =>
          exact onTime.countDown rfl
      | some digits =>
          refine (onTime.confirm rfl digits).countDown ?_
          dsimp only [LockScreen.confirm, unlock]
          split
          · split
            · split <;> rfl
            · rfl
          · rfl

/-- The count of failures shrinks only when a correct PIN is scored. -/
theorem cleared_by_correct
    {screen : LockScreen}
    {event : LockEvent}
    (shrinks :
      (screen.step event).consecutiveFailures <
        screen.consecutiveFailures)
    (inRange : screen.consecutiveFailures ≤ maxFailures) :
    ∃ digits,
      event.action = .turn (some digits) ∧
        verifyLockPin digits screen.storedPin screen.storedPinLen = true := by
  obtain ⟨nowMs, action⟩ := event
  have afterCountDown :
      ∀ (after : LockScreen) (time : Nat),
        (after.countDown time).consecutiveFailures =
          after.consecutiveFailures := by
    intro after time
    rw [LockScreen.countDown]
    split <;> rfl
  cases action with
  | trip =>
      exact absurd shrinks (Nat.lt_irrefl _)
  | setPin pin pinLen =>
      exact absurd shrinks (Nat.lt_irrefl _)
  | turn digits =>
      cases digits with
      | none =>
          rw [LockScreen.step, afterCountDown] at shrinks
          exact absurd shrinks (Nat.lt_irrefl _)
      | some digits =>
          refine ⟨digits, rfl, ?_⟩
          rw [LockScreen.step, afterCountDown] at shrinks
          by_contra isWrong
          rw [Bool.not_eq_true] at isWrong
          dsimp only [LockScreen.confirm] at shrinks
          rw [isWrong] at shrinks
          split at shrinks
          · dsimp only [attemptUnlock] at shrinks
            simp only [Bool.false_eq_true, if_false] at shrinks
            omega
          · exact absurd shrinks (Nat.lt_irrefl _)

/-- The screen after a run from a boot. -/
def after
    (lockEnabled : Bool)
    (pin : Vector UInt8 4)
    (pinLen : UInt8)
    (events : List LockEvent) :
    LockScreen :=
  Transition.run step (boot lockEnabled pin pinLen) events

/-- The clock does not go back. -/
def InTime
    (screen : LockScreen)
    (event : LockEvent) :
    Prop :=
  screen.clockMs ≤ event.nowMs

/--
What the backoff grants: no attempt is scored in the lockout that the one before
it started; only a correct PIN clears the count; and wrong PINs in a row, of which
`window` holds any that follow each other, keep the rate.
-/
structure Backoff
    (screen : LockScreen) :
    Prop where
  spaced :
    ∀ later attempt last earlier,
      screen.scored = later ++ attempt :: last :: earlier →
        last.timeMs +
            1000 * lockoutSecondsAfterFailure
              (failuresOf (last :: earlier)) ≤
          attempt.timeMs
  counted : screen.consecutiveFailures = failuresOf screen.scored
  cleared :
    ∀ event,
      (screen.step event).consecutiveFailures <
          screen.consecutiveFailures →
        ∃ digits,
          event.action = .turn (some digits) ∧
            verifyLockPin digits screen.storedPin
                screen.storedPinLen =
              true
  rate :
    ∀ later window earlier newest first,
      screen.scored = later ++ window ++ earlier →
      (∀ attempt ∈ window, attempt.correct = false) →
      window.head? = some newest →
      window.getLast? = some first →
        (8 ≤ window.length →
          first.timeMs + 1000 * (210 + 300 * (window.length - 8)) ≤
            newest.timeMs) ∧
        ∀ seconds,
          newest.timeMs ≤ first.timeMs + 1000 * seconds →
            window.length ≤ 8 + seconds / 300

/-- A guarded screen grants the backoff. -/
theorem Guarded.backoff
    {screen : LockScreen}
    (guarded : screen.Guarded) :
    screen.Backoff := by
  refine ⟨?_, guarded.counted, ?_, ?_⟩
  · intro later attempt last earlier isScored
    have paced := guarded.paced
    rw [isScored] at paced
    exact (Paced.of_append paced).1
  · intro event shrinks
    have inRange : screen.consecutiveFailures ≤ maxFailures := by
      rw [guarded.counted]
      exact Nat.min_le_right _ _
    exact cleared_by_correct shrinks inRange
  · intro later window earlier newest first isScored wrong isNewest isFirst
    have paced := guarded.paced
    rw [isScored, List.append_assoc] at paced
    have spread :=
      Paced.window (Paced.of_append paced) wrong isNewest isFirst
    refine ⟨fun atLeast => ?_, fun seconds inWindow => ?_⟩
    · rw [earliestS_eq atLeast] at spread
      exact spread
    · rcases Nat.lt_or_ge window.length 8 with few | atLeast
      · omega
      · rw [earliestS_eq atLeast] at spread
        omega

/-- Every run from a boot, whose clock does not go back, has the backoff. -/
theorem pin_backoff
    (lockEnabled : Bool)
    (pin : Vector UInt8 4)
    (pinLen : UInt8)
    {events : List LockEvent}
    (inTime :
      Transition.Along step InTime (boot lockEnabled pin pinLen) events) :
    (after lockEnabled pin pinLen events).Backoff := by
  have always :=
    @Transition.always_of_along LockScreen LockEvent step Guarded InTime
      (fun _ _ guarded inTime => guarded.step inTime) _ events
      (boot_guarded lockEnabled pin pinLen) inTime
  exact always.last.backoff

/-- Six wrong PINs; one more comes in the first lockout. -/
def sixGuesses : List LockEvent :=
  [⟨0, .turn (some [49, 49, 49, 49])⟩,
    ⟨1, .turn (some [49, 49, 49, 50])⟩,
    ⟨2, .turn (some [49, 49, 49, 51])⟩,
    ⟨3, .turn (some [49, 49, 49, 52])⟩,
    ⟨4, .turn (some [49, 49, 49, 53])⟩,
    ⟨5, .turn (some [49, 49, 49, 54])⟩,
    ⟨30004, .turn (some [49, 49, 49, 55])⟩]

theorem sixGuesses_backoff :
    (after true #v[48, 48, 48, 48] 4 sixGuesses).Backoff ∧
      (after true #v[48, 48, 48, 48] 4 sixGuesses).scored.length = 6 := by
  refine ⟨pin_backoff true #v[48, 48, 48, 48] 4 ?_, by decide +kernel⟩
  refine ⟨?_, ?_, ?_, ?_, ?_, ?_, ?_, trivial⟩ <;>
    exact Nat.le_of_ble_eq_true (by decide +kernel)

end LockScreen

end MeshCadet
