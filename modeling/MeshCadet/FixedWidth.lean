import MeshCadet.Outcome
import Mathlib.Algebra.Group.Nat.Defs

/-!
# Integers of a fixed width

An operation whose result does not fit its signed type overflows, which is a
panic.  A cast keeps the low bits: it gives back the numbers that fit its type,
and no others.
-/

namespace FixedWidth

/-- The numbers of the signed type with a width. -/
def Fits
    (width : Nat)
    (n : Int) :
    Prop :=
  -(2 ^ (width - 1) : Nat) ≤ n ∧ n < (2 ^ (width - 1) : Nat)

instance
    (width : Nat)
    (n : Int) :
    Decidable (Fits width n) :=
  inferInstanceAs (Decidable (_ ∧ _))

/-- The result of an operation on a signed type, in a build that checks for overflow. A
release build goes on with the wrapped number. -/
def checked
    {Failure : Type}
    (width : Nat)
    (n : Int) :
    Outcome Failure Int :=
  if Fits width n then .value n else .panicked

/-- The result of an operation on an unsigned type, in a build that checks for
overflow. -/
def checkedUnsigned
    {Failure : Type}
    (width : Nat)
    (n : Int) :
    Outcome Failure Nat :=
  if 0 ≤ n ∧ n < (2 ^ width : Nat) then .value n.toNat else .panicked

/-- Cast to the signed type with a width. -/
def toSigned
    (width : Nat)
    (n : Int) :
    Int :=
  n.bmod (2 ^ width)

/-- Cast to the unsigned type with a width. -/
def toUnsigned
    (width : Nat)
    (n : Int) :
    Nat :=
  (n % (2 ^ width : Nat)).toNat

section Rules

variable {Failure : Type} {width : Nat} {n : Int}

theorem fits_64 :
    Fits 64 n ↔
      -9223372036854775808 ≤ n ∧ n < 9223372036854775808 :=
  Iff.rfl

theorem fits_32 :
    Fits 32 n ↔ -2147483648 ≤ n ∧ n < 2147483648 :=
  Iff.rfl

/-- An operation whose result fits gives it. -/
theorem checked_eq
    (fits : Fits width n) :
    (checked width n : Outcome Failure Int) = .value n :=
  if_pos fits

/-- An operation on 64 bits whose result is between the ends gives it. -/
theorem checked_64
    (low : -9223372036854775808 ≤ n)
    (high : n < 9223372036854775808) :
    (checked 64 n : Outcome Failure Int) = .value n :=
  checked_eq ⟨low, high⟩

/-- A computation goes on with the result of such an operation. -/
theorem checked_bind
    {α : Type}
    {next : Int → Outcome Failure α}
    (low : -9223372036854775808 ≤ n)
    (high : n < 9223372036854775808) :
    (checked 64 n >>= next) = next n := by
  rw [checked_64 low high, Outcome.value_bind]

/-- An operation whose result an unsigned type has gives it. -/
theorem checkedUnsigned_eq
    {result : Nat}
    (same : n = result)
    (fits : result < 2 ^ width) :
    (checkedUnsigned width n : Outcome Failure Nat) = .value result := by
  rw [checkedUnsigned, if_pos (by omega), same, Int.toNat_natCast]

/-- An operation on 64 bits whose result the unsigned type has gives it. -/
theorem checkedUnsigned_64
    {result : Nat}
    (same : n = result)
    (fits : result < 18446744073709551616) :
    (checkedUnsigned 64 n : Outcome Failure Nat) = .value result :=
  checkedUnsigned_eq same fits

/-- A computation goes on with the result of such an operation. -/
theorem checkedUnsigned_bind
    {α : Type}
    {next : Nat → Outcome Failure α}
    {result : Nat}
    (same : n = result)
    (fits : result < 18446744073709551616) :
    (checkedUnsigned 64 n >>= next) = next result := by
  rw [checkedUnsigned_64 same fits, Outcome.value_bind]

/-- A cast to an unsigned type keeps its numbers. -/
theorem toUnsigned_natCast
    {m : Nat}
    (fits : m < 2 ^ width) :
    toUnsigned width m = m := by
  rw [toUnsigned, Int.emod_eq_of_lt (by omega) (by omega),
    Int.toNat_natCast]

/-- A cast to 64 bits keeps the numbers that fit. -/
theorem toUnsigned_64
    {m : Nat}
    (fits : m < 18446744073709551616) :
    toUnsigned 64 m = m :=
  toUnsigned_natCast fits

/-- A cast to 32 bits keeps the numbers that fit. -/
theorem toUnsigned_32
    {m : Nat}
    (fits : m < 4294967296) :
    toUnsigned 32 m = m :=
  toUnsigned_natCast fits

/-- A cast to a signed type keeps the numbers both types have. -/
theorem toSigned_natCast
    {m : Nat}
    (fits : m < 9223372036854775808) :
    toSigned 64 m = m := by
  have size : 2 ^ 64 = 18446744073709551616 := rfl
  rw [toSigned, Int.bmod_def, size]
  split <;> omega

/-- Division that truncates, made to round down. -/
theorem tdiv_floor
    {divisor : Int}
    (positive : 0 < divisor)
    (n : Int) :
    (if 0 ≤ n then n else n - (divisor - 1)).tdiv divisor =
      n / divisor := by
  split
  case isTrue notNegative =>
    exact Int.tdiv_eq_ediv_of_nonneg notNegative
  case isFalse negative =>
    have split := Int.emod_add_mul_ediv n divisor
    have remainder := Int.emod_nonneg n (Int.ne_of_gt positive)
    have below := Int.emod_lt_of_pos n positive
    have opposite :
        n - (divisor - 1) =
          -(divisor - 1 - n % divisor + divisor * -(n / divisor)) := by
      rw [Int.mul_neg]
      omega
    have small : (divisor - 1 - n % divisor) / divisor = 0 :=
      Int.ediv_eq_zero_of_lt (by omega) (by omega)
    have notNegative :
        0 ≤ divisor - 1 - n % divisor + divisor * -(n / divisor) := by
      omega
    rw [opposite, Int.neg_tdiv, Int.tdiv_eq_ediv_of_nonneg notNegative,
      Int.add_mul_ediv_left _ _ (Int.ne_of_gt positive), small]
    omega

/-- A cast to 32 bits gives back exactly the numbers that fit. -/
theorem toSigned_eq_iff :
    toSigned 32 n = n ↔ Fits 32 n := by
  have size : 2 ^ 32 = 4294967296 := rfl
  rw [toSigned, fits_32, Int.bmod_def, size]
  split <;> omega

/-- What a cast to 32 bits gives fits. -/
theorem fits_toSigned
    (n : Int) :
    Fits 32 (toSigned 32 n) := by
  have size : 2 ^ 32 = 4294967296 := rfl
  rw [toSigned, fits_32, Int.bmod_def, size]
  split <;> omega

end Rules

end FixedWidth
