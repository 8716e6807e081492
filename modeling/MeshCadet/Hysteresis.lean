import Mathlib.Data.List.Basic

/-!
# Buckets with hysteresis

Ascending boundaries split a line into numbered buckets.  A value that leaves its
bucket is moved past one boundary after the other, each of which it must clear
by a margin.  The rules say what a change of the bucket tells about the value.
-/

namespace Hysteresis

variable {margin value : Nat} {boundaries : List Nat} {start finish : Nat}

/-- Rise past the boundaries ahead while the value clears them. -/
def rise
    (margin value : Nat) :
    Nat → List Nat → Nat
  | index, [] => index
  | index, boundary :: ahead =>
      if boundary + margin ≤ value then
        rise margin value (index + 1) ahead
      else
        index

/-- Fall past the boundaries behind while the value clears them. -/
def fall
    (boundaries : List Nat)
    (margin value : Nat) :
    Nat → Nat
  | 0 => 0
  | index + 1 =>
      if value < boundaries.getD index 0 - margin then
        fall boundaries margin value index
      else
        index + 1

/-- The bucket of a value that was in a bucket before: rise, then fall. -/
def settle
    (boundaries : List Nat)
    (margin value previous : Nat) :
    Nat :=
  fall boundaries margin value
    (rise margin value previous (boundaries.drop previous))

/-- The value cleared every boundary between two buckets, whichever is higher. -/
def Clears
    (boundaries : List Nat)
    (margin value before after : Nat) :
    Prop :=
  (∀ index, before ≤ index → index < after →
      boundaries.getD index 0 + margin ≤ value) ∧
    ∀ index, after ≤ index → index < before →
      value + margin < boundaries.getD index 0

/-- Rising does not go below the bucket. -/
theorem le_rise :
    start ≤ rise margin value start boundaries := by
  induction boundaries generalizing start with
  | nil =>
      exact Nat.le_refl _
  | cons boundary ahead inductionHypothesis =>
      rw [rise]
      split
      · exact Nat.le_of_succ_le inductionHypothesis
      · exact Nat.le_refl _

/-- Falling does not go above the bucket. -/
theorem fall_le :
    fall boundaries margin value start ≤ start := by
  induction start with
  | zero =>
      exact Nat.le_refl _
  | succ index inductionHypothesis =>
      rw [fall]
      split
      · exact Nat.le_succ_of_le inductionHypothesis
      · exact Nat.le_refl _

/-- Rising ends behind the last boundary. -/
theorem rise_le :
    rise margin value start boundaries ≤ start + boundaries.length := by
  induction boundaries generalizing start with
  | nil =>
      exact Nat.le_refl _
  | cons boundary ahead inductionHypothesis =>
      rw [rise, List.length_cons]
      split
      · exact Nat.le_trans inductionHypothesis (by omega)
      · omega

/-- There is one bucket more than there are boundaries. -/
theorem settle_le
    {previous : Nat}
    (isBucket : previous ≤ boundaries.length) :
    settle boundaries margin value previous ≤ boundaries.length := by
  have risen :=
    @rise_le margin value (boundaries.drop previous) previous
  rw [List.length_drop] at risen
  exact Nat.le_trans fall_le (by omega)

/-- Every boundary that is risen past is cleared. -/
theorem rise_clears
    {index : Nat}
    (notBelow : start ≤ index)
    (risen : index < rise margin value start (boundaries.drop start)) :
    boundaries.getD index 0 + margin ≤ value := by
  generalize ahead : boundaries.drop start = remaining at risen
  induction remaining generalizing start with
  | nil =>
      rw [rise] at risen
      omega
  | cons boundary others inductionHypothesis =>
      rw [rise] at risen
      split at risen
      · rename_i clears
        have next : boundaries.drop (start + 1) = others := by
          rw [← List.drop_drop, ahead]
          rfl
        rcases Nat.eq_or_lt_of_le notBelow with isStart | later
        · have first : boundaries[start]? = some boundary := by
            rw [← Nat.add_zero start, ← List.getElem?_drop, ahead]
            rfl
          rw [← isStart, List.getD_eq_getElem?_getD, first]
          exact clears
        · exact inductionHypothesis later next risen
      · omega

/-- Every boundary that is fallen past is cleared. -/
theorem fall_clears
    {index : Nat}
    (fallen : fall boundaries margin value start ≤ index)
    (below : index < start) :
    value + margin < boundaries.getD index 0 := by
  induction start with
  | zero =>
      omega
  | succ previous inductionHypothesis =>
      rw [fall] at fallen
      split at fallen
      · rename_i clears
        rcases Nat.eq_or_lt_of_le (Nat.le_of_lt_succ below) with
          isPrevious | earlier
        · rw [isPrevious]
          omega
        · exact inductionHypothesis fallen earlier
      · omega

/-- A change of the bucket clears every boundary between by the margin. -/
theorem settle_clears
    (boundaries : List Nat)
    (margin value previous : Nat) :
    Clears boundaries margin value previous
      (settle boundaries margin value previous) := by
  constructor
  · intro index notBelow reached
    exact rise_clears notBelow (Nat.lt_of_lt_of_le reached fall_le)
  · intro index notBelow reached
    exact fall_clears notBelow (Nat.lt_of_lt_of_le reached le_rise)

end Hysteresis
