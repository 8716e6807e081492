import MeshCadet.BoundedLoop

namespace MeshCadet

/-!
# Waiting for a level-triggered line

The wait checks the line, arms the interrupt and blocks on a notification.  A
notification is a hint and not a picture of the line: every wake-up is followed
by another check, and only a line that reads high ends the wait early.
-/

namespace RadioWait

/-- Arming the interrupt failed. -/
inductive ArmFailed where
  | armFailed
deriving Repr, DecidableEq

/-- What the wait does to the line, over the state of its surroundings. -/
structure LevelTriggeredLine (State : Type) where
  isHigh : State → Bool × State
  arm : State → Except ArmFailed Unit × State
  disarm : State → State

/-- What the wait blocks on: `true` for a notification, `false` at the timeout. -/
structure OneShotNotify (State : Type) where
  wait : UInt32 → State → Bool × State

/-- How a wait ends. -/
inductive LevelTriggeredOutcome where
  | asserted
  | timedOut
  | armFailed
deriving Repr, DecidableEq

section Wait

variable
    {State : Type}
    (line : LevelTriggeredLine State)
    (notify : OneShotNotify State)
    (timeoutMs : UInt32)

/-- One round of the loop: block, and check before trusting the wake-up. -/
def waitRound
    (state : State) :
    Option LevelTriggeredOutcome × State :=
  let (notified, state) := notify.wait timeoutMs state
  if !notified then
    (some .timedOut, line.disarm state)
  else
    let (high, state) := line.isHigh state
    if high then
      (some .asserted, state)
    else
      -- Stale, and consumed already: the next round blocks again.
      (none, state)

/--
The wait, with at most so many rounds of its loop; no outcome when it would go
on.
-/
def levelTriggeredWait
    (turns : Nat)
    (state : State) :
    Option LevelTriggeredOutcome × State :=
  let (high, state) := line.isHigh state
  if high then
    (some .asserted, state)
  else
    match line.arm state with
    | (.error _, state) => (some .armFailed, state)
    | (.ok _, state) =>
        BoundedLoop.rounds (waitRound line notify timeoutMs) turns state

/-- What a round can do. -/
theorem waitRound_cases
    (state : State) :
    (∃ blocked,
        notify.wait timeoutMs state = (false, blocked) ∧
          waitRound line notify timeoutMs state =
            (some .timedOut, line.disarm blocked)) ∨
      ∃ woken high checked,
        notify.wait timeoutMs state = (true, woken) ∧
          line.isHigh woken = (high, checked) ∧
            waitRound line notify timeoutMs state =
              (if high then some .asserted else none, checked) := by
  unfold waitRound
  cases waited : notify.wait timeoutMs state with
  | mk notified woken =>
      cases notified with
      | false => exact .inl ⟨woken, rfl, rfl⟩
      | true =>
          cases check : line.isHigh woken with
          | mk high checked =>
              refine .inr ⟨woken, high, checked, rfl, check, ?_⟩
              cases high with
              | true => simp [check]
              | false => simp [check]

/-- What a wait can do before its loop. -/
theorem levelTriggeredWait_cases
    (turns : Nat)
    (state : State) :
    (∃ checked,
        line.isHigh state = (true, checked) ∧
          levelTriggeredWait line notify timeoutMs turns state =
            (some .asserted, checked)) ∨
      ∃ checked answer armed,
        line.isHigh state = (false, checked) ∧
          line.arm checked = (answer, armed) ∧
            levelTriggeredWait line notify timeoutMs turns state =
              match answer with
              | .error _ => (some .armFailed, armed)
              | .ok _ =>
                  BoundedLoop.rounds (waitRound line notify timeoutMs)
                    turns armed := by
  unfold levelTriggeredWait
  cases check : line.isHigh state with
  | mk high checked =>
      cases high with
      | true => exact .inl ⟨checked, rfl, rfl⟩
      | false =>
          cases arming : line.arm checked with
          | mk answer armed =>
              refine .inr ⟨checked, answer, armed, rfl, arming, ?_⟩
              cases answer with
              | error problem => simp [arming]
              | ok done => simp [arming]

/-- An outcome stays when the loop may go on for longer. -/
theorem levelTriggeredWait_add
    {turns : Nat}
    {state after : State}
    {outcome : LevelTriggeredOutcome}
    (ended :
      levelTriggeredWait line notify timeoutMs turns state =
        (some outcome, after))
    (more : Nat) :
    levelTriggeredWait line notify timeoutMs (turns + more) state =
      (some outcome, after) := by
  rcases levelTriggeredWait_cases line notify timeoutMs turns state with
    ⟨checked, high, result⟩ | ⟨checked, answer, armed, low, arming, result⟩
  · rw [result] at ended
    simpa [levelTriggeredWait, high] using ended
  · rw [result] at ended
    cases answer with
    | error problem =>
        simpa [levelTriggeredWait, low, arming] using ended
    | ok done =>
        simpa [levelTriggeredWait, low, arming] using
          BoundedLoop.rounds_add ended more

end Wait

/-! ## The order of the calls -/

/-- A call of the wait and its answer. -/
inductive Call where
  | check (high : Bool)
  | arm (succeeded : Bool)
  | wake
  | timeOut
  | disarm
deriving Repr, DecidableEq

/-- What the call read of the line. -/
def Call.reading : Call → Option Bool
  | .check high => some high
  | _ => none

/-- The call arms the interrupt. -/
def Call.isArm : Call → Bool
  | .arm _ => true
  | _ => false

/-- What the last check among some calls read. -/
def lastCheck
    (calls : List Call) :
    Option Bool :=
  (calls.filterMap Call.reading).getLast?

/-- Wake-ups that a low line turned out to be behind. -/
def staleWakes : Nat → List Call
  | 0 => []
  | count + 1 => staleWakes count ++ [.wake, .check false]

/--
The calls that a wait makes and how it ends; no outcome while it goes on, after
as many stale wake-ups as rounds.
-/
inductive Sequenced :
    Nat → Option LevelTriggeredOutcome → List Call → Prop where
  | alreadyHigh (turns : Nat) :
      Sequenced turns (some .asserted) [.check true]
  | notArmed (turns : Nat) :
      Sequenced turns (some .armFailed) [.check false, .arm false]
  | asserted (turns stale : Nat) :
      Sequenced turns (some .asserted)
        (.check false :: .arm true ::
          (staleWakes stale ++ [.wake, .check true]))
  | timedOut (turns stale : Nat) :
      Sequenced turns (some .timedOut)
        (.check false :: .arm true ::
          (staleWakes stale ++ [.timeOut, .disarm]))
  | waiting (turns : Nat) :
      Sequenced turns none (.check false :: .arm true :: staleWakes turns)

section Order

theorem not_isArm_of_mem_staleWakes
    {count : Nat}
    {call : Call}
    (isStale : call ∈ staleWakes count) :
    call = .wake ∨ call = .check false := by
  induction count with
  | zero =>
      cases isStale
  | succ count inductionHypothesis =>
      rcases List.mem_append.mp isStale with earlier | last
      · exact inductionHypothesis earlier
      · simpa using last

theorem count_wake_staleWakes
    (count : Nat) :
    (staleWakes count).count .wake = count := by
  induction count with
  | zero =>
      rfl
  | succ count inductionHypothesis =>
      rw [staleWakes, List.count_append, inductionHypothesis]
      rfl

variable {turns : Nat} {outcome : Option LevelTriggeredOutcome}
  {calls : List Call}

/-- Behind the first two calls nothing arms the interrupt. -/
theorem Sequenced.shape
    (sequenced : Sequenced turns outcome calls) :
    calls = [.check true] ∨
      ∃ succeeded later,
        calls = .check false :: .arm succeeded :: later ∧
          ∀ call ∈ later, call.isArm = false := by
  have stale
      {count : Nat}
      {call : Call}
      (isStale : call ∈ staleWakes count) :
      call.isArm = false := by
    rcases not_isArm_of_mem_staleWakes isStale with isWake | isCheck
    · rw [isWake]
      rfl
    · rw [isCheck]
      rfl
  cases sequenced with
  | alreadyHigh => exact .inl rfl
  | notArmed => exact .inr ⟨false, [], rfl, by simp⟩
  | asserted stales =>
      refine .inr ⟨true, _, rfl, fun call isLater => ?_⟩
      rcases List.mem_append.mp isLater with isStale | isLast
      · exact stale isStale
      · simp only [List.mem_cons, List.not_mem_nil, or_false] at isLast
        rcases isLast with rfl | rfl <;> rfl
  | timedOut stales =>
      refine .inr ⟨true, _, rfl, fun call isLater => ?_⟩
      rcases List.mem_append.mp isLater with isStale | isLast
      · exact stale isStale
      · simp only [List.mem_cons, List.not_mem_nil, or_false] at isLast
        rcases isLast with rfl | rfl <;> rfl
  | waiting => exact .inr ⟨true, _, rfl, fun call => stale⟩

/-- A wait that reports the line high read it high last. -/
theorem Sequenced.lastCheck_asserted
    (sequenced : Sequenced turns (some .asserted) calls) :
    lastCheck calls = some true := by
  cases sequenced with
  | alreadyHigh => rfl
  | asserted stale =>
      rw [lastCheck, ← List.cons_append, ← List.cons_append,
        List.filterMap_append, List.getLast?_append]
      rfl

/-- The interrupt is armed at most once. -/
theorem Sequenced.arms_le_one
    (sequenced : Sequenced turns outcome calls) :
    calls.countP Call.isArm ≤ 1 := by
  rcases sequenced.shape with rfl | ⟨succeeded, later, rfl, none⟩
  · decide
  · have noMore : later.countP Call.isArm = 0 :=
      List.countP_eq_zero.mpr fun call isLater =>
        Bool.eq_false_iff.mp (none call isLater)
    rw [List.countP_cons, List.countP_cons, noMore]
    simp [Call.isArm]

/-- The interrupt is armed right after a check that read the line low. -/
theorem Sequenced.lastCheck_arm
    (sequenced : Sequenced turns outcome calls)
    {before behind : List Call}
    {succeeded : Bool}
    (armed : calls = before ++ .arm succeeded :: behind) :
    lastCheck before = some false := by
  rcases sequenced.shape with rfl | ⟨answer, later, rfl, none⟩
  · cases before with
    | nil => cases armed
    | cons first rest => cases rest <;> cases armed
  · cases before with
    | nil => cases armed
    | cons first rest =>
        rw [List.cons_append, List.cons.injEq] at armed
        obtain ⟨isCheck, isRest⟩ := armed
        cases rest with
        | nil =>
            rw [← isCheck]
            rfl
        | cons second more =>
            rw [List.cons_append, List.cons.injEq] at isRest
            have isArm := none (.arm succeeded)
              (by rw [isRest.2]; exact List.mem_append_right _ (.head _))
            cases isArm

/-- The interrupt is disarmed once at the timeout, and never otherwise. -/
theorem Sequenced.count_disarm
    (sequenced : Sequenced turns outcome calls) :
    calls.count .disarm = if outcome = some .timedOut then 1 else 0 := by
  have stale
      (count : Nat) :
      (staleWakes count).count .disarm = 0 := by
    rw [List.count_eq_zero]
    intro isStale
    rcases not_isArm_of_mem_staleWakes isStale with isWake | isCheck
    · cases isWake
    · cases isCheck
  cases sequenced with
  | alreadyHigh => rfl
  | notArmed => rfl
  | asserted stales => simp [stale]
  | timedOut stales => simp [stale]
  | waiting => simp [stale]

/-- A wait that goes on woke once in every round. -/
theorem Sequenced.count_wake
    (sequenced : Sequenced turns none calls) :
    calls.count .wake = turns := by
  cases sequenced with
  | waiting =>
      rw [List.count_cons_of_ne (by decide),
        List.count_cons_of_ne (by decide), count_wake_staleWakes]

end Order

end RadioWait

end MeshCadet
