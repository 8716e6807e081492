import MeshCadet.LevelTriggeredWait
import MeshCadet.Transition

namespace MeshCadet

/-!
# Waits in scripted surroundings

A script raises and lowers the line and posts notifications in front of every
call of the wait and while a call blocks, and lets arming fail or not.  Whatever
the script does, the calls keep their order.  Where a raised line stays high and
an armed interrupt posts while the line is high, no wake-up is lost.
-/

namespace RadioWait

/-- What happens around the wait. -/
inductive Event where
  | raise
  | lower
  | notify
deriving Repr, DecidableEq

/-- What happened so far, around the wait or by it. -/
inductive Step where
  | event (event : Event)
  | call (call : Call)
deriving Repr, DecidableEq

/-- The call that a step is, if it is one. -/
def Step.call? : Step → Option Call
  | .call made => some made
  | .event _ => none

/-- The level of the line after a step. -/
def Step.level : Bool → Step → Bool
  | _, .event .raise => true
  | _, .event .lower => false
  | high, .event .notify => high
  | high, .call _ => high

/--
The surroundings of a wait: how they begin, with an interrupt that an earlier
wait may have left armed and a notification it may have left pending; what
happens in front of each call and while it blocks; which calls can arm; and
whether an armed interrupt posts by itself while the line is high.
-/
structure Script where
  high : Bool
  armed : Bool
  notified : Bool
  inFront : Nat → List Event
  meanwhile : Nat → List Event
  canArm : Nat → Bool
  postsWhileHigh : Bool

/-- The line, the interrupt, the notification, and what happened so far. -/
structure Board where
  high : Bool
  armed : Bool
  notified : Bool
  turn : Nat
  steps : List Step
deriving Repr, DecidableEq

namespace Board

/-- The calls made so far. -/
def calls
    (board : Board) :
    List Call :=
  board.steps.filterMap Step.call?

/-- An armed interrupt posts while the line is high. -/
def fire
    (script : Script)
    (board : Board) :
    Board :=
  if script.postsWhileHigh && board.armed && board.high then
    { board with notified := true }
  else
    board

/-- An event changes the line or posts a notification, which stays. -/
def happen
    (script : Script)
    (board : Board)
    (event : Event) :
    Board :=
  fire script
    { board with
      high := Step.level board.high (.event event)
      notified := board.notified || event == .notify
      steps := board.steps ++ [.event event] }

/-- An event while a call blocks, which a notification ends. -/
def happenBlocked
    (script : Script)
    (board : Board)
    (event : Event) :
    Board :=
  if board.notified then board else board.happen script event

/-- The board when the next call is made. -/
def reach
    (script : Script)
    (board : Board) :
    Board :=
  Transition.run (happen script) board (script.inFront board.turn)

/-- A call was made. -/
def called
    (board : Board)
    (call : Call) :
    Board :=
  { board with
    turn := board.turn + 1
    steps := board.steps ++ [.call call] }

end Board

namespace Script

/-- The board before the wait. -/
def start
    (script : Script) :
    Board :=
  Board.fire script
    { high := script.high
      armed := script.armed
      notified := script.notified
      turn := 0
      steps := [] }

/-- The line of a script. -/
def line
    (script : Script) :
    LevelTriggeredLine Board where
  isHigh := fun board =>
    let reached := board.reach script
    (reached.high, reached.called (.check reached.high))
  arm := fun board =>
    let reached := board.reach script
    if script.canArm board.turn then
      (.ok (),
        Board.fire script
          { reached.called (.arm true) with armed := true })
    else
      (.error .armFailed, reached.called (.arm false))
  disarm := fun board =>
    { (board.reach script).called .disarm with armed := false }

/--
The notification of a script: one that is pending is taken at once, and the
first one that is posted before the timeout ends the call; either is consumed.
-/
def notify
    (script : Script) :
    OneShotNotify Board where
  wait := fun _ board =>
    let reached :=
      Transition.run (Board.happenBlocked script) (board.reach script)
        (script.meanwhile board.turn)
    if reached.notified then
      (true,
        Board.fire script
          { reached.called .wake with notified := false })
    else
      (false, reached.called .timeOut)

/-- The wait in the surroundings of a script. -/
def wait
    (script : Script)
    (timeoutMs : UInt32)
    (turns : Nat) :
    Option LevelTriggeredOutcome × Board :=
  levelTriggeredWait script.line script.notify timeoutMs turns script.start

/-- A line that is high stays high. -/
def StaysHigh
    (script : Script) :
    Prop :=
  ∀ turn, Event.lower ∉ script.inFront turn ∧
    Event.lower ∉ script.meanwhile turn

end Script

/-! ## The calls of a scripted wait -/

section Calls

variable (script : Script) (board : Board)

@[simp] theorem calls_fire :
    (board.fire script).calls = board.calls := by
  unfold Board.fire
  split
  · rfl
  · rfl

@[simp] theorem calls_happen
    (event : Event) :
    (board.happen script event).calls = board.calls := by
  rw [Board.happen, calls_fire]
  simp [Board.calls, Step.call?]

@[simp] theorem calls_happenBlocked
    (event : Event) :
    (board.happenBlocked script event).calls = board.calls := by
  unfold Board.happenBlocked
  split
  · rfl
  · exact calls_happen script board event

@[simp] theorem calls_called
    (call : Call) :
    (board.called call).calls = board.calls ++ [call] := by
  simp [Board.calls, Board.called, Step.call?]

/-- Events that make no calls leave the calls alone. -/
theorem calls_run
    {step : Board → Event → Board}
    (silent : ∀ board event, (step board event).calls = board.calls)
    (events : List Event) :
    (Transition.run step board events).calls = board.calls := by
  have same : ∀ next event,
      Board.calls next = board.calls →
        (step next event).calls = board.calls := by
    intro next event before
    rw [silent, before]
  exact (Transition.always_of_invariant same rfl events).last

@[simp] theorem calls_reach :
    (board.reach script).calls = board.calls :=
  calls_run board (calls_happen script) _

theorem calls_start :
    script.start.calls = [] := by
  rw [Script.start, calls_fire]
  rfl

theorem calls_isHigh :
    (script.line.isHigh board).2.calls =
      board.calls ++ [.check (script.line.isHigh board).1] := by
  simp [Script.line]

theorem calls_disarm :
    (script.line.disarm board).calls = board.calls ++ [.disarm] := by
  have same :
      (script.line.disarm board).calls =
        ((board.reach script).called .disarm).calls := rfl
  rw [same, calls_called, calls_reach]

/-- Arming is one call, whether it fails or not. -/
theorem calls_arm :
    (script.line.arm board).2.calls =
      board.calls ++ [.arm (script.canArm board.turn)] := by
  dsimp only [Script.line]
  cases script.canArm board.turn with
  | true =>
      rw [if_pos rfl, calls_fire]
      have same :
          ({ (board.reach script).called (.arm true) with
              armed := true } : Board).calls =
            ((board.reach script).called (.arm true)).calls := rfl
      rw [same, calls_called, calls_reach]
  | false =>
      rw [if_neg (by decide), calls_called, calls_reach]

/-- Blocking is one call, named for how it ended. -/
theorem calls_wait
    (timeoutMs : UInt32) :
    (script.notify.wait timeoutMs board).2.calls =
      board.calls ++
        [if (script.notify.wait timeoutMs board).1 then .wake
          else .timeOut] := by
  dsimp only [Script.notify]
  have silent :=
    calls_run (board.reach script) (calls_happenBlocked script)
      (script.meanwhile board.turn)
  rw [calls_reach] at silent
  split
  · rw [calls_fire]
    have same
        (next : Board) :
        ({ next.called .wake with notified := false } : Board).calls =
          (next.called .wake).calls := rfl
    rw [same, calls_called, silent]
    rfl
  · rw [calls_called, silent]
    rfl

variable (timeoutMs : UInt32)

/-- A round that goes on found a stale notification. -/
theorem calls_round_continues
    {next : Board}
    (continues :
      waitRound script.line script.notify timeoutMs board = (none, next)) :
    next.calls = board.calls ++ [.wake, .check false] := by
  have waited := calls_wait script board timeoutMs
  rcases waitRound_cases script.line script.notify timeoutMs board with
    ⟨blocked, timedOut, round⟩ | ⟨woken, high, checked, woke, check, round⟩
  · rw [round] at continues
    cases continues
  · have checking := calls_isHigh script woken
    rw [woke] at waited
    rw [check] at checking
    cases high with
    | true =>
        rw [round] at continues
        cases continues
    | false =>
        rw [round] at continues
        cases continues
        rw [checking, waited]
        simp

/-- A round that ends the wait found the line high, or nothing in time. -/
theorem calls_round_ends
    {outcome : LevelTriggeredOutcome}
    {next : Board}
    (ends :
      waitRound script.line script.notify timeoutMs board =
        (some outcome, next)) :
    outcome = .asserted ∧
        next.calls = board.calls ++ [.wake, .check true] ∨
      outcome = .timedOut ∧
        next.calls = board.calls ++ [.timeOut, .disarm] := by
  have waited := calls_wait script board timeoutMs
  rcases waitRound_cases script.line script.notify timeoutMs board with
    ⟨blocked, timedOut, round⟩ | ⟨woken, high, checked, woke, check, round⟩
  · rw [timedOut] at waited
    rw [round] at ends
    cases ends
    refine .inr ⟨rfl, ?_⟩
    rw [calls_disarm, waited]
    simp
  · have checking := calls_isHigh script woken
    rw [woke] at waited
    rw [check] at checking
    cases high with
    | true =>
        rw [round] at ends
        cases ends
        refine .inl ⟨rfl, ?_⟩
        rw [checking, waited]
        simp
    | false =>
        rw [round] at ends
        cases ends

/-- The calls keep their order in the surroundings of every script. -/
theorem sequenced_wait
    (turns : Nat) :
    Sequenced turns (script.wait timeoutMs turns).1
      (script.wait timeoutMs turns).2.calls := by
  have checking := calls_isHigh script script.start
  rw [calls_start, List.nil_append] at checking
  rcases levelTriggeredWait_cases script.line script.notify timeoutMs turns
      script.start with
    ⟨checked, high, result⟩ | ⟨checked, answer, armed, low, arming, result⟩
  · rw [high] at checking
    rw [Script.wait, result, checking]
    exact .alreadyHigh turns
  · rw [low] at checking
    have armCall := calls_arm script checked
    rw [checking, List.singleton_append] at armCall
    cases answer with
    | error problem =>
        have failed : script.canArm checked.turn = false := by
          by_contra succeeds
          rw [Bool.not_eq_false] at succeeds
          simp [Script.line, succeeds] at arming
        rw [arming, failed] at armCall
        rw [Script.wait, result, armCall]
        exact .notArmed turns
    | ok done =>
        have succeeded : script.canArm checked.turn = true := by
          by_contra fails
          simp [Script.line, fails] at arming
        rw [arming, succeeded] at armCall
        -- Before each round, as many stale wake-ups as rounds so far.
        have loop :=
          @BoundedLoop.rounds_rule Board LevelTriggeredOutcome
            (waitRound script.line script.notify timeoutMs) armed
            (fun passed board =>
              board.calls =
                .check false :: .arm true :: staleWakes passed)
            (fun outcome board =>
              Sequenced turns (some outcome) board.calls)
            (by
              intro passed before next holds continues
              rw [calls_round_continues script before timeoutMs continues,
                holds]
              rfl)
            (by
              intro passed before outcome next holds ends
              rcases calls_round_ends script before timeoutMs ends with
                ⟨rfl, after⟩ | ⟨rfl, after⟩
              · rw [after, holds]
                exact .asserted turns passed
              · rw [after, holds]
                exact .timedOut turns passed)
            0 armCall turns
        rw [Nat.zero_add] at loop
        rw [Script.wait, result]
        dsimp only
        cases ended :
            BoundedLoop.rounds
              (waitRound script.line script.notify timeoutMs) turns
              armed with
        | mk outcome board =>
            cases outcome with
            | none =>
                rw [loop.1 board ended]
                exact .waiting turns
            | some found => exact loop.2 found board ended

end Calls

/-! ## No wake-up is lost -/

/-- The line was low from the start of the wait and after each of the steps. -/
def LowThroughout
    (script : Script)
    (steps : List Step) :
    Prop :=
  Transition.Always Step.level (· = false) script.high steps

/-- A line that is never lowered and low in the end was low throughout. -/
theorem lowThroughout_of_low
    {script : Script}
    {steps : List Step}
    (kept : Step.event .lower ∉ steps)
    (low : Transition.run Step.level script.high steps = false) :
    LowThroughout script steps := by
  rw [LowThroughout, Transition.always_iff_prefix]
  intro earlier isPrefix
  obtain ⟨later, rfl⟩ := isPrefix
  rw [Transition.run_append] at low
  by_contra high
  rw [Bool.not_eq_false] at high
  have stays : ∀ level step, level = true →
      step ≠ Step.event .lower → Step.level level step = true := by
    intro level step isHigh notLowered
    cases step with
    | call made => exact isHigh
    | event event =>
        cases event with
        | raise => rfl
        | lower => exact absurd rfl notLowered
        | notify => exact isHigh
  have notLowered : ∀ step ∈ later, step ≠ Step.event .lower := by
    rintro step isLater rfl
    exact kept (List.mem_append_right _ isLater)
  have stillHigh :=
    (Transition.always_of_along stays high
      (Transition.along_of_forall notLowered _)).last
  rw [low] at stillHigh
  cases stillHigh

/--
The board tells the level of the line, which was not lowered; an armed interrupt
has posted if the line is high.
-/
structure Watched
    (script : Script)
    (board : Board) :
    Prop where
  level :
    board.high = Transition.run Step.level script.high board.steps
  kept :
    Step.event .lower ∉ board.steps
  posted :
    board.armed = true → board.high = true → board.notified = true

section Watched

variable {script : Script} {board : Board}

@[simp] theorem armed_fire :
    (board.fire script).armed = board.armed := by
  unfold Board.fire
  split
  · rfl
  · rfl

@[simp] theorem steps_fire :
    (board.fire script).steps = board.steps := by
  unfold Board.fire
  split
  · rfl
  · rfl

@[simp] theorem armed_happen
    (event : Event) :
    (board.happen script event).armed = board.armed := by
  rw [Board.happen, armed_fire]

/-- Whatever changed, the interrupt has its say at once. -/
theorem watched_fire
    (posts : script.postsWhileHigh = true)
    (level :
      board.high = Transition.run Step.level script.high board.steps)
    (kept : Step.event .lower ∉ board.steps) :
    Watched script (board.fire script) := by
  unfold Board.fire
  split
  · exact ⟨level, kept, fun _ _ => rfl⟩
  · rename_i silent
    refine ⟨level, kept, fun armed high => ?_⟩
    exact absurd (by rw [posts, armed, high]; rfl) silent

theorem Watched.happen
    (watched : Watched script board)
    (posts : script.postsWhileHigh = true)
    {event : Event}
    (notLowered : event ≠ .lower) :
    Watched script (board.happen script event) := by
  refine watched_fire posts ?_ ?_
  · dsimp only
    rw [Transition.run_append, ← watched.level]
    rfl
  · dsimp only
    rw [List.mem_append, List.mem_singleton]
    rintro (earlier | isLast)
    · exact watched.kept earlier
    · exact notLowered (Step.event.inj isLast).symm

theorem Watched.called
    (watched : Watched script board)
    (call : Call) :
    Watched script (board.called call) := by
  refine ⟨?_, ?_, watched.posted⟩
  · rw [Board.called, Transition.run_append, ← watched.level]
    rfl
  · rw [Board.called, List.mem_append, List.mem_singleton]
    rintro (earlier | isLast)
    · exact watched.kept earlier
    · cases isLast

/-- A board that is watched, with the interrupt as it was. -/
theorem Watched.run
    {step : Board → Event → Board}
    {armed : Bool}
    (kept :
      ∀ board event, Watched script board ∧ board.armed = armed →
        event ≠ .lower →
          Watched script (step board event) ∧
            (step board event).armed = armed)
    (watched : Watched script board)
    (isArmed : board.armed = armed)
    {events : List Event}
    (notLowered : Event.lower ∉ events) :
    Watched script (Transition.run step board events) ∧
      (Transition.run step board events).armed = armed := by
  have others : ∀ event ∈ events, event ≠ Event.lower := by
    rintro event isEvent rfl
    exact notLowered isEvent
  exact
    (Transition.always_of_along kept ⟨watched, isArmed⟩
      (Transition.along_of_forall others _)).last

theorem watched_start
    (posts : script.postsWhileHigh = true) :
    Watched script script.start :=
  watched_fire posts rfl List.not_mem_nil

variable
    (staysHigh : script.StaysHigh)
    (posts : script.postsWhileHigh = true)
include staysHigh posts

theorem Watched.reach
    (watched : Watched script board) :
    Watched script (board.reach script) ∧
      (board.reach script).armed = board.armed :=
  Watched.run
    (fun _ event before notLowered =>
      ⟨before.1.happen posts notLowered,
        (armed_happen event).trans before.2⟩)
    watched rfl (staysHigh board.turn).1

/-- While a call blocks, the interrupt has its say too. -/
theorem Watched.blocked
    (watched : Watched script board) :
    Watched script
        (Transition.run (Board.happenBlocked script)
          (board.reach script) (script.meanwhile board.turn)) ∧
      (Transition.run (Board.happenBlocked script)
        (board.reach script) (script.meanwhile board.turn)).armed =
          board.armed := by
  obtain ⟨reached, isArmed⟩ := watched.reach staysHigh posts
  refine Watched.run (fun next event before notLowered => ?_) reached
    isArmed (staysHigh board.turn).2
  rw [Board.happenBlocked]
  split
  · exact before
  · exact ⟨before.1.happen posts notLowered,
      (armed_happen event).trans before.2⟩

theorem Watched.isHigh
    (watched : Watched script board) :
    Watched script (script.line.isHigh board).2 ∧
      (script.line.isHigh board).2.armed = board.armed := by
  obtain ⟨reached, isArmed⟩ := watched.reach staysHigh posts
  exact ⟨reached.called _, isArmed⟩

/-- Arming on a high line posts at once. -/
theorem Watched.arm
    (watched : Watched script board)
    (canArm : script.canArm board.turn = true) :
    Watched script (script.line.arm board).2 ∧
      (script.line.arm board).2.armed = true := by
  obtain ⟨reached, -⟩ := watched.reach staysHigh posts
  have called := reached.called (.arm true)
  dsimp only [Script.line]
  rw [if_pos canArm]
  exact ⟨watched_fire posts called.level called.kept, armed_fire⟩

/-- A consumed notification is posted again while the line is high. -/
theorem Watched.woken
    (watched : Watched script board)
    {timeoutMs : UInt32}
    {woken : Board}
    (woke : script.notify.wait timeoutMs board = (true, woken)) :
    Watched script woken ∧ woken.armed = board.armed := by
  obtain ⟨reached, isArmed⟩ := watched.blocked staysHigh posts
  have called := reached.called .wake
  dsimp only [Script.notify] at woke
  split at woke
  · cases woke
    exact ⟨watched_fire posts called.level called.kept,
      armed_fire.trans isArmed⟩
  · cases woke

/-- A wait that nothing ended in time leaves an armed line that was low. -/
theorem Watched.timedOut
    (watched : Watched script board)
    (isArmed : board.armed = true)
    {timeoutMs : UInt32}
    {blocked : Board}
    (timedOut : script.notify.wait timeoutMs board = (false, blocked)) :
    ∃ before, blocked.steps = before ++ [.call .timeOut] ∧
      LowThroughout script before := by
  obtain ⟨reached, sameArmed⟩ := watched.blocked staysHigh posts
  dsimp only [Script.notify] at timedOut
  split at timedOut
  · cases timedOut
  · rename_i notNotified
    cases timedOut
    refine ⟨_, rfl, lowThroughout_of_low reached.kept ?_⟩
    rw [← reached.level]
    by_contra high
    rw [Bool.not_eq_false] at high
    exact notNotified
      (reached.posted (sameArmed.trans isArmed) high)

end Watched

/-- In front of a call only events happen. -/
theorem steps_reach
    (script : Script)
    (board : Board) :
    (board.reach script).steps =
      board.steps ++ (script.inFront board.turn).map .event := by
  have appended
      (events : List Event)
      (board : Board) :
      (Transition.run (Board.happen script) board events).steps =
        board.steps ++ events.map .event := by
    induction events generalizing board with
    | nil => simp
    | cons event rest inductionHypothesis =>
        rw [Transition.run_cons, inductionHypothesis, Board.happen,
          steps_fire]
        simp
  exact appended _ _

section Rounds

variable {script : Script} {timeoutMs : UInt32} {board : Board}

/-- A round that goes on leaves the interrupt armed and in charge. -/
theorem Watched.round_continues
    (watched : Watched script board)
    (isArmed : board.armed = true)
    (staysHigh : script.StaysHigh)
    (posts : script.postsWhileHigh = true)
    {next : Board}
    (continues :
      waitRound script.line script.notify timeoutMs board = (none, next)) :
    Watched script next ∧ next.armed = true := by
  rcases waitRound_cases script.line script.notify timeoutMs board with
    ⟨blocked, late, round⟩ | ⟨woken, high, checked, woke, check, round⟩
  · rw [round] at continues
    cases continues
  · obtain ⟨watchedWoken, sameArmed⟩ := watched.woken staysHigh posts woke
    have watchedChecked := watchedWoken.isHigh staysHigh posts
    rw [check] at watchedChecked
    rw [round, Prod.mk.injEq] at continues
    rw [← continues.2]
    exact ⟨watchedChecked.1,
      watchedChecked.2.trans (sameArmed.trans isArmed)⟩

/-- A round that gives up has seen a low line until then. -/
theorem Watched.round_timedOut
    (watched : Watched script board)
    (isArmed : board.armed = true)
    (staysHigh : script.StaysHigh)
    (posts : script.postsWhileHigh = true)
    {next : Board}
    (ends :
      waitRound script.line script.notify timeoutMs board =
        (some .timedOut, next)) :
    ∃ before after,
      next.steps = before ++ .call .timeOut :: after ∧
        after.filterMap Step.call? = [.disarm] ∧
          LowThroughout script before := by
  rcases waitRound_cases script.line script.notify timeoutMs board with
    ⟨blocked, late, round⟩ | ⟨woken, high, checked, woke, check, round⟩
  · obtain ⟨before, isBefore, stayedLow⟩ :=
      watched.timedOut staysHigh posts isArmed late
    have disarmed :
        (script.line.disarm blocked).steps =
          (blocked.reach script).steps ++ [.call .disarm] := rfl
    have silent :
        ((script.inFront blocked.turn).map Step.event).filterMap
            Step.call? = [] := by
      rw [List.filterMap_map]
      exact List.filterMap_eq_nil_iff.mpr fun _ _ => rfl
    rw [round, Prod.mk.injEq] at ends
    refine ⟨before,
      (script.inFront blocked.turn).map .event ++ [.call .disarm],
      ?_, ?_, stayedLow⟩
    · rw [← ends.2, disarmed, steps_reach, isBefore]
      simp
    · rw [List.filterMap_append, silent]
      rfl
  · rw [round, Prod.mk.injEq] at ends
    cases high with
    | true => cases ends.1
    | false => cases ends.1

end Rounds

/-- A wait that timed out had a low line until its last round gave up. -/
theorem low_of_timedOut
    {script : Script}
    (staysHigh : script.StaysHigh)
    (posts : script.postsWhileHigh = true)
    {timeoutMs : UInt32}
    {turns : Nat}
    (timedOut : (script.wait timeoutMs turns).1 = some .timedOut) :
    ∃ before after,
      (script.wait timeoutMs turns).2.steps =
        before ++ .call .timeOut :: after ∧
          after.filterMap Step.call? = [.disarm] ∧
            LowThroughout script before := by
  obtain ⟨started, -⟩ := (watched_start posts).isHigh staysHigh posts
  rcases levelTriggeredWait_cases script.line script.notify timeoutMs turns
      script.start with
    ⟨checked, high, result⟩ | ⟨checked, answer, armed, low, arming, result⟩
  · rw [Script.wait, result] at timedOut
    cases timedOut
  · rw [low] at started
    rw [Script.wait, result] at timedOut ⊢
    cases answer with
    | error problem => cases timedOut
    | ok done =>
        have canArm : script.canArm checked.turn = true := by
          by_contra fails
          simp [Script.line, fails] at arming
        have ready := started.arm staysHigh posts canArm
        rw [arming] at ready
        dsimp only at timedOut ⊢
        have loop :=
          (@BoundedLoop.rounds_rule Board LevelTriggeredOutcome
            (waitRound script.line script.notify timeoutMs) armed
            (fun _ board => Watched script board ∧ board.armed = true)
            (fun outcome board =>
              outcome = .timedOut →
                ∃ before after,
                  board.steps = before ++ .call .timeOut :: after ∧
                    after.filterMap Step.call? = [.disarm] ∧
                      LowThroughout script before)
            (fun _ _ _ holds continues =>
              holds.1.round_continues holds.2 staysHigh posts continues)
            (by
              rintro - before outcome next ⟨watched, isArmed⟩ ends rfl
              exact watched.round_timedOut isArmed staysHigh posts ends)
            0 ready turns).2
        cases ended :
            BoundedLoop.rounds
              (waitRound script.line script.notify timeoutMs) turns
              armed with
        | mk outcome board =>
            rw [ended] at timedOut
            cases outcome with
            | none => cases timedOut
            | some found =>
                exact loop found board ended (Option.some.inj timedOut)

/-! ## How a wait ends -/

/-- Wake-ups so far. -/
def Board.wakeUps
    (board : Board) :
    Nat :=
  board.calls.count .wake

/-- A wait with a bound on its wake-ups returns, one round later at most. -/
theorem returns_of_wakeUps_le
    {script : Script}
    {timeoutMs : UInt32}
    {bound : Nat}
    (bounded :
      ∀ turns, (script.wait timeoutMs turns).2.wakeUps ≤ bound) :
    ∃ turns outcome, (script.wait timeoutMs turns).1 = some outcome := by
  refine ⟨bound + 1, ?_⟩
  cases ended : (script.wait timeoutMs (bound + 1)).1 with
  | some outcome => exact ⟨outcome, rfl⟩
  | none =>
      have order := sequenced_wait script timeoutMs (bound + 1)
      rw [ended] at order
      have woke := order.count_wake
      have few := bounded (bound + 1)
      rw [Board.wakeUps, woke] at few
      omega

/--
What holds of a wait in the surroundings of a script, for every number of rounds
that its loop is followed for.
-/
structure WaitContract
    (script : Script)
    (timeoutMs : UInt32) :
    Prop where
  readHighLast :
    ∀ turns, (script.wait timeoutMs turns).1 = some .asserted →
      lastCheck (script.wait timeoutMs turns).2.calls = some true
  armedOnce :
    ∀ turns,
      (script.wait timeoutMs turns).2.calls.countP Call.isArm ≤ 1
  armedAfterLow :
    ∀ turns before behind succeeded,
      (script.wait timeoutMs turns).2.calls =
        before ++ .arm succeeded :: behind →
          lastCheck before = some false
  disarmed :
    ∀ turns,
      (script.wait timeoutMs turns).2.calls.count .disarm =
        if (script.wait timeoutMs turns).1 = some .timedOut then 1 else 0
  nothingLost :
    script.StaysHigh → script.postsWhileHigh = true →
      ∀ turns, (script.wait timeoutMs turns).1 = some .timedOut →
        ∃ before after,
          (script.wait timeoutMs turns).2.steps =
            before ++ .call .timeOut :: after ∧
              after.filterMap Step.call? = [.disarm] ∧
                LowThroughout script before
  final :
    ∀ turns more outcome,
      (script.wait timeoutMs turns).1 = some outcome →
        script.wait timeoutMs (turns + more) =
          script.wait timeoutMs turns
  returns :
    (∃ bound, ∀ turns, (script.wait timeoutMs turns).2.wakeUps ≤ bound) →
      ∃ turns outcome, (script.wait timeoutMs turns).1 = some outcome

/-- A wait in the surroundings of any script. -/
theorem waitContract
    (script : Script)
    (timeoutMs : UInt32) :
    WaitContract script timeoutMs := by
  have sequenced := sequenced_wait script timeoutMs
  refine
    { readHighLast := ?_
      armedOnce := fun turns => (sequenced turns).arms_le_one
      armedAfterLow := fun turns _ _ _ armed =>
        (sequenced turns).lastCheck_arm armed
      disarmed := fun turns => (sequenced turns).count_disarm
      nothingLost := fun staysHigh posts _ timedOut =>
        low_of_timedOut staysHigh posts timedOut
      final := ?_
      returns := fun ⟨_, bounded⟩ => returns_of_wakeUps_le bounded }
  · intro turns asserted
    have order := sequenced turns
    rw [asserted] at order
    exact order.lastCheck_asserted
  · intro turns more outcome ended
    have isPair :
        script.wait timeoutMs turns =
          (some outcome, (script.wait timeoutMs turns).2) := by
      rw [← ended]
    rw [isPair]
    exact levelTriggeredWait_add _ _ _ isPair more

/-- Raised between the first check and the arming: the wake-up is not lost. -/
example :
    (Script.wait
        { high := false
          armed := false
          notified := false
          inFront := fun turn => if turn = 1 then [.raise] else []
          meanwhile := fun _ => []
          canArm := fun _ => true
          postsWhileHigh := true }
        1000 1).1 =
      some .asserted := by
  decide

/-! ## Wake-ups and notifications -/

/-- Every wake-up used up a notification: the pending one, or one posted since. -/
def Consumed
    (script : Script)
    (board : Board) :
    Prop :=
  board.wakeUps + board.notified.toNat ≤
    script.notified.toNat + board.steps.count (.event .notify)

section Consumed

variable {script : Script} {board : Board}

/-- A call that is no wake-up uses nothing up. -/
theorem Consumed.called
    (consumed : Consumed script board)
    {call : Call}
    (notWake : call ≠ .wake) :
    Consumed script (board.called call) := by
  rw [Consumed, Board.wakeUps] at consumed ⊢
  rw [calls_called, List.count_append]
  simpa [Board.called, List.count_singleton, notWake] using consumed

variable (silent : script.postsWhileHigh = false)
include silent

theorem fire_of_silent :
    board.fire script = board := by
  rw [Board.fire, silent]
  rfl

/-- A notification that is pending already absorbs a further one. -/
theorem Consumed.happen
    (consumed : Consumed script board)
    (event : Event) :
    Consumed script (board.happen script event) := by
  have sameCalls := calls_happen script board event
  rw [Consumed, Board.wakeUps] at consumed ⊢
  rw [sameCalls, Board.happen, fire_of_silent silent]
  dsimp only
  rw [List.count_append]
  cases event with
  | raise =>
      have other : (Event.raise == Event.notify) = false := rfl
      simpa [other] using consumed
  | lower =>
      have other : (Event.lower == Event.notify) = false := rfl
      simpa [other] using consumed
  | notify =>
      have atMost := board.notified.toNat_le
      simp only [beq_self_eq_true, Bool.or_true, Bool.toNat_true,
        List.count_singleton_self]
      omega

theorem Consumed.reach
    (consumed : Consumed script board) :
    Consumed script (board.reach script) :=
  (@Transition.always_of_invariant _ _ (Board.happen script)
    (Consumed script)
    (fun _ event before => Consumed.happen silent before event)
    _ consumed _).last

theorem Consumed.wait
    (consumed : Consumed script board)
    (timeoutMs : UInt32) :
    Consumed script (script.notify.wait timeoutMs board).2 := by
  have blocked :
      Consumed script
        (Transition.run (Board.happenBlocked script)
          (board.reach script) (script.meanwhile board.turn)) := by
    refine (@Transition.always_of_invariant _ _
      (Board.happenBlocked script) (Consumed script)
      (fun next event before => ?_) _
      (Consumed.reach silent consumed) _).last
    rw [Board.happenBlocked]
    split
    · exact before
    · exact Consumed.happen silent before event
  dsimp only [Script.notify]
  split
  · rename_i isNotified
    rw [fire_of_silent silent]
    rw [Consumed, Board.wakeUps, isNotified] at blocked
    have woke := calls_called
      (Transition.run (Board.happenBlocked script)
        (board.reach script) (script.meanwhile board.turn)) .wake
    rw [Consumed, Board.wakeUps]
    simp only [Board.calls, Board.called, List.filterMap_append,
      List.count_append] at blocked woke ⊢
    simp [Step.call?] at blocked ⊢
    omega
  · exact blocked.called (by decide)

variable (timeoutMs : UInt32)

theorem consumed_start :
    Consumed script script.start := by
  rw [Script.start, fire_of_silent silent]
  simp [Consumed, Board.wakeUps, Board.calls]

theorem Consumed.isHigh
    (consumed : Consumed script board) :
    Consumed script (script.line.isHigh board).2 :=
  (consumed.reach silent).called (by simp)

theorem Consumed.arm
    (consumed : Consumed script board) :
    Consumed script (script.line.arm board).2 := by
  have reached := consumed.reach silent
  dsimp only [Script.line]
  split
  · rw [fire_of_silent silent]
    exact reached.called (by simp)
  · exact reached.called (by simp)

theorem Consumed.disarm
    (consumed : Consumed script board) :
    Consumed script (script.line.disarm board) :=
  (consumed.reach silent).called (by simp)

theorem Consumed.round
    (consumed : Consumed script board) :
    Consumed script
      (waitRound script.line script.notify timeoutMs board).2 := by
  have waited := consumed.wait silent timeoutMs
  rcases waitRound_cases script.line script.notify timeoutMs board with
    ⟨blocked, timedOut, round⟩ | ⟨woken, high, checked, woke, check, round⟩
  · rw [timedOut] at waited
    rw [round]
    exact waited.disarm silent
  · rw [woke] at waited
    have checking := waited.isHigh silent
    rw [check] at checking
    rw [round]
    exact checking

/-- No wait wakes up more often than it is notified. -/
theorem consumed_wait
    (turns : Nat) :
    Consumed script (script.wait timeoutMs turns).2 := by
  have started := (consumed_start silent).isHigh silent
  rcases levelTriggeredWait_cases script.line script.notify timeoutMs turns
      script.start with
    ⟨checked, high, result⟩ | ⟨checked, answer, armed, low, arming, result⟩
  · rw [high] at started
    rw [Script.wait, result]
    exact started
  · rw [low] at started
    have ready := started.arm silent
    rw [arming] at ready
    rw [Script.wait, result]
    cases answer with
    | error problem => exact ready
    | ok done =>
        have kept
            {before next : Board}
            {found : Option LevelTriggeredOutcome}
            (holds : Consumed script before)
            (taken :
              waitRound script.line script.notify timeoutMs before =
                (found, next)) :
            Consumed script next := by
          have after := holds.round silent timeoutMs
          rwa [taken] at after
        have loop :=
          @BoundedLoop.rounds_rule Board LevelTriggeredOutcome
            (waitRound script.line script.notify timeoutMs) armed
            (fun _ board => Consumed script board)
            (fun _ board => Consumed script board)
            (fun _ _ _ holds continues => kept holds continues)
            (fun _ _ _ _ holds ends => kept holds ends)
            0 ready turns
        dsimp only
        cases ended :
            BoundedLoop.rounds
              (waitRound script.line script.notify timeoutMs) turns
              armed with
        | mk outcome board =>
            cases outcome with
            | none => exact loop.1 board ended
            | some found => exact loop.2 found board ended

/-- A wait that is notified finitely often returns. -/
theorem returns_of_notifications_le
    {bound : Nat}
    (few :
      ∀ turns,
        (script.wait timeoutMs turns).2.steps.count (.event .notify) ≤
          bound) :
    ∃ turns outcome, (script.wait timeoutMs turns).1 = some outcome := by
  apply @returns_of_wakeUps_le script timeoutMs
    (script.notified.toNat + bound)
  intro turns
  have consumed := consumed_wait silent timeoutMs turns
  have within := few turns
  rw [Consumed] at consumed
  omega

end Consumed

end RadioWait

end MeshCadet
