import Mathlib.Data.List.Basic

/-!
# Loops with a bound on their rounds

A round of a loop changes a state and may end the loop with a result.  A loop
without a bound of its own is run for some rounds: it has a result, or it is
still going.  A result stays when more rounds are allowed, and what every round
preserves holds when the loop ends and while it goes on.
-/

namespace BoundedLoop

variable {State Result : Type*}

/-- At most so many rounds; no result when none of them ended the loop. -/
def rounds
    (round : State → Option Result × State) :
    Nat → State → Option Result × State
  | 0, state =>
      (none, state)
  | left + 1, state =>
      match round state with
      | (some result, after) => (some result, after)
      | (none, after) => rounds round left after

section Rules

variable
    {round : State → Option Result × State}
    {state after : State}
    {result : Result}

theorem rounds_of_ends
    (ends : round state = (some result, after))
    (left : Nat) :
    rounds round (left + 1) state = (some result, after) := by
  rw [rounds, ends]

theorem rounds_of_continues
    (continues : round state = (none, after))
    (left : Nat) :
    rounds round (left + 1) state = rounds round left after := by
  rw [rounds, continues]

/-- More rounds do not change a result. -/
theorem rounds_add
    {left : Nat}
    (ended : rounds round left state = (some result, after))
    (more : Nat) :
    rounds round (left + more) state = (some result, after) := by
  induction left generalizing state with
  | zero =>
      cases ended
  | succ left inductionHypothesis =>
      rw [Nat.succ_add]
      cases taken : round state with
      | mk found next =>
          cases found with
          | none =>
              rw [rounds_of_continues taken] at ended ⊢
              exact inductionHypothesis ended
          | some early =>
              rw [rounds_of_ends taken] at ended ⊢
              exact ended

/--
What holds before each round, with the number of rounds so far, holds while the
loop goes on; what an ending round establishes holds at the end.
-/
theorem rounds_rule
    {invariant : Nat → State → Prop}
    {ending : Result → State → Prop}
    (continues :
      ∀ passed before next, invariant passed before →
        round before = (none, next) → invariant (passed + 1) next)
    (ends :
      ∀ passed before found next, invariant passed before →
        round before = (some found, next) → ending found next)
    {passed : Nat}
    (holds : invariant passed state)
    (left : Nat) :
    (∀ next, rounds round left state = (none, next) →
        invariant (passed + left) next) ∧
      ∀ found next, rounds round left state = (some found, next) →
        ending found next := by
  induction left generalizing state passed with
  | zero =>
      constructor
      · intro next going
        cases going
        exact holds
      · intro found next ended
        cases ended
  | succ left inductionHypothesis =>
      cases taken : round state with
      | mk found next =>
          cases found with
          | none =>
              rw [rounds_of_continues taken, Nat.add_comm left 1,
                ← Nat.add_assoc]
              exact inductionHypothesis
                (continues passed state next holds taken)
          | some early =>
              rw [rounds_of_ends taken]
              constructor
              · intro later going
                cases going
              · intro found later ended
                cases ended
                exact ends passed state early next holds taken

end Rules

end BoundedLoop
