import Mathlib.Algebra.Group.Nat.Defs
import Mathlib.Data.Nat.Digits.Lemmas
import Mathlib.Tactic.Ring

/-!
# Decimal digits in ASCII

The value of a digit string, and a reader that checks at every digit that the
value so far is below a limit.  As the value only grows, the reader accepts
exactly the nonempty digit strings whose value is below the limit.
-/

namespace DecimalDigits

/-- The characters from `0` to `9`. -/
def isDigit
    (byte : UInt8) :
    Bool :=
  48 ≤ byte && byte ≤ 57

/-- The value of a digit. -/
def digit
    (byte : UInt8) :
    Nat :=
  byte.toNat - 48

/-- The value of digits behind a value. -/
def valueFrom
    (accumulated : Nat)
    (digits : List UInt8) :
    Nat :=
  digits.foldl (fun value byte => value * 10 + digit byte) accumulated

/-- The value of a digit string. -/
def value
    (digits : List UInt8) :
    Nat :=
  valueFrom 0 digits

/-- Read one digit more, while the value stays below a limit. -/
def readDigit
    (limit accumulated : Nat)
    (byte : UInt8) :
    Option Nat :=
  if isDigit byte then
    if accumulated * 10 < limit then
      if accumulated * 10 + digit byte < limit then
        some (accumulated * 10 + digit byte)
      else none
    else none
  else none

/-- Read digits behind a value. -/
def readFrom
    (limit accumulated : Nat)
    (digits : List UInt8) :
    Option Nat :=
  digits.foldlM (readDigit limit) accumulated

/-- Read a nonempty digit string. -/
def read
    (limit : Nat)
    (digits : List UInt8) :
    Option Nat :=
  if digits = [] then none else readFrom limit 0 digits

/-- A number below a hundred in two digits. -/
def twoDigits
    (n : Nat) :
    List UInt8 :=
  [UInt8.ofNat (48 + n / 10), UInt8.ofNat (48 + n % 10)]

theorem valueFrom_cons
    (accumulated : Nat)
    (byte : UInt8)
    (rest : List UInt8) :
    valueFrom accumulated (byte :: rest) =
      valueFrom (accumulated * 10 + digit byte) rest := by
  rw [valueFrom, List.foldl_cons, ← valueFrom]

theorem readFrom_cons
    (limit accumulated : Nat)
    (byte : UInt8)
    (rest : List UInt8) :
    readFrom limit accumulated (byte :: rest) =
      (readDigit limit accumulated byte).bind fun read =>
        readFrom limit read rest := by
  rw [readFrom, List.foldlM_cons]
  rfl

theorem digit_le
    {byte : UInt8}
    (isDigit : isDigit byte = true) :
    digit byte ≤ 9 := by
  simp only [DecimalDigits.isDigit, Bool.and_eq_true, decide_eq_true_iff,
    UInt8.le_iff_toNat_le] at isDigit
  have last := isDigit.2
  rw [digit]
  change byte.toNat ≤ 57 at last
  omega

/-- A digit is the character of its value. -/
theorem ofNat_digit
    {byte : UInt8}
    (isDigit : isDigit byte = true) :
    UInt8.ofNat (48 + digit byte) = byte := by
  simp only [DecimalDigits.isDigit, Bool.and_eq_true, decide_eq_true_iff,
    UInt8.le_iff_toNat_le] at isDigit
  have first := isDigit.1
  change 48 ≤ byte.toNat at first
  rw [digit, Nat.add_sub_cancel' first]
  exact UInt8.ofNat_toNat

/-- The value only grows. -/
theorem le_valueFrom
    (accumulated : Nat)
    (digits : List UInt8) :
    accumulated ≤ valueFrom accumulated digits := by
  induction digits generalizing accumulated with
  | nil =>
      exact Nat.le_refl _
  | cons byte rest inductionHypothesis =>
      have grown := inductionHypothesis (accumulated * 10 + digit byte)
      rw [valueFrom_cons]
      omega

/-- Digits behind a value shift it. -/
theorem valueFrom_eq
    (accumulated : Nat)
    (digits : List UInt8) :
    valueFrom accumulated digits =
      accumulated * 10 ^ digits.length + value digits := by
  rw [value]
  induction digits generalizing accumulated with
  | nil =>
      simp [valueFrom]
  | cons byte rest inductionHypothesis =>
      rw [valueFrom_cons, valueFrom_cons,
        inductionHypothesis (accumulated * 10 + digit byte),
        inductionHypothesis (0 * 10 + digit byte), List.length_cons,
        Nat.pow_succ]
      ring

/-- Digits have a value below the power of ten of their number. -/
theorem value_lt
    {digits : List UInt8}
    (areDigits : ∀ byte ∈ digits, isDigit byte = true) :
    value digits < 10 ^ digits.length := by
  induction digits with
  | nil =>
      simp [value, valueFrom]
  | cons byte rest inductionHypothesis =>
      have later := inductionHypothesis fun later member =>
        areDigits later (List.mem_cons_of_mem byte member)
      have atMost := digit_le (areDigits byte List.mem_cons_self)
      have scaled :
          digit byte * 10 ^ rest.length ≤ 9 * 10 ^ rest.length :=
        Nat.mul_le_mul_right _ atMost
      rw [value, valueFrom_cons, valueFrom_eq, List.length_cons,
        Nat.pow_succ, Nat.zero_mul, Nat.zero_add]
      omega

section Reading

variable {limit : Nat} {digits : List UInt8} {n : Nat}

/-- What is read behind a value is the value of the digits behind it. -/
theorem readFrom_eq_some
    {accumulated : Nat}
    (below : accumulated < limit) :
    readFrom limit accumulated digits = some n ↔
      (∀ byte ∈ digits, isDigit byte = true) ∧
        valueFrom accumulated digits = n ∧ n < limit := by
  induction digits generalizing accumulated with
  | nil =>
      constructor
      · intro read
        cases read
        exact ⟨by simp, rfl, below⟩
      · rintro ⟨-, rfl, -⟩
        rfl
  | cons byte rest inductionHypothesis =>
      have grown := le_valueFrom (accumulated * 10 + digit byte) rest
      rw [readFrom_cons, valueFrom_cons, List.forall_mem_cons, readDigit]
      by_cases first : isDigit byte = true
      case neg =>
        simp [first]
      case pos =>
        by_cases fits : accumulated * 10 + digit byte < limit
        case pos =>
          have scaled : accumulated * 10 < limit := by omega
          rw [if_pos first, if_pos scaled, if_pos fits, Option.bind_some,
            inductionHypothesis fits]
          simp [first]
        case neg =>
          have stops :
              (if accumulated * 10 < limit then
                if accumulated * 10 + digit byte < limit then
                  some (accumulated * 10 + digit byte)
                else none
              else none) = none := by
            rw [if_neg fits, ite_self]
          rw [if_pos first, stops]
          constructor
          · intro impossible
            cases impossible
          · rintro ⟨-, rfl, small⟩
            omega

/-- Exactly the digit strings with a value below the limit are read. -/
theorem read_eq_some
    (positive : 0 < limit) :
    read limit digits = some n ↔
      digits ≠ [] ∧
        (∀ byte ∈ digits, isDigit byte = true) ∧
        value digits = n ∧ n < limit := by
  rw [read]
  split
  case isTrue empty =>
    simp [empty]
  case isFalse nonempty =>
    rw [readFrom_eq_some positive]
    simp [nonempty, value]

/-- Two bytes that are read are the two digits of a number below 100. -/
theorem twoDigits_of_read
    (positive : 0 < limit)
    (length : digits.length = 2)
    (isRead : read limit digits = some n) :
    n < 100 ∧ digits = twoDigits n := by
  obtain ⟨-, areDigits, isValue, -⟩ := (read_eq_some positive).mp isRead
  have small := value_lt areDigits
  match digits, length with
  | [tens, ones], _ =>
      have tensDigit := areDigits tens (by simp)
      have onesDigit := areDigits ones (by simp)
      have atMost := digit_le onesDigit
      have sum : digit tens * 10 + digit ones = n := by
        rw [← isValue]
        simp [value, valueFrom]
      have isTens : n / 10 = digit tens := by omega
      have isOnes : n % 10 = digit ones := by omega
      refine ⟨by rw [isValue] at small; exact small, ?_⟩
      rw [twoDigits, isTens, isOnes, ofNat_digit tensDigit,
        ofNat_digit onesDigit]

end Reading

/-- The character of a digit. -/
def character
    (digit : Nat) :
    UInt8 :=
  UInt8.ofNat (digit + 48)

/-- The digits of a number without leading zeros; zero is one digit. -/
def decimal
    (n : Nat) :
    List UInt8 :=
  if n = 0 then [48] else ((Nat.digits 10 n).map character).reverse

/-- The character of a digit is a digit with that value. -/
theorem character_isDigit
    {d : Nat}
    (small : d < 10) :
    isDigit (character d) = true ∧ digit (character d) = d := by
  have isNat : (character d).toNat = d + 48 := by
    rw [character, UInt8.toNat_ofNat']
    omega
  constructor
  · simp only [isDigit, Bool.and_eq_true, decide_eq_true_iff,
      UInt8.le_iff_toNat_le, isNat]
    constructor
    · change 48 ≤ d + 48
      omega
    · change d + 48 ≤ 57
      omega
  · rw [digit, isNat, Nat.add_sub_cancel]

/-- A digit at the end counts once, the digits before it ten times. -/
theorem value_append_singleton
    (digits : List UInt8)
    (last : UInt8) :
    value (digits ++ [last]) = value digits * 10 + digit last := by
  rw [value, valueFrom, List.foldl_append]
  rfl

/-- The digits of a number have its value. -/
theorem value_reverse
    {digits : List Nat}
    (small : ∀ d ∈ digits, d < 10) :
    value (digits.map character).reverse = Nat.ofDigits 10 digits := by
  induction digits with
  | nil => rfl
  | cons first rest inductionHypothesis =>
      have later :=
        inductionHypothesis fun d member =>
          small d (List.mem_cons_of_mem first member)
      rw [List.map_cons, List.reverse_cons, value_append_singleton, later,
        (character_isDigit (small first List.mem_cons_self)).2,
        Nat.ofDigits_cons]
      omega

theorem value_decimal
    (n : Nat) :
    value (decimal n) = n := by
  rw [decimal]
  split
  · rename_i isZero
    rw [isZero]
    rfl
  · rw [value_reverse fun d member => Nat.digits_lt_base (by decide) member,
      Nat.ofDigits_digits]

theorem decimal_isDigit
    (n : Nat) :
    ∀ byte ∈ decimal n, isDigit byte = true := by
  intro byte member
  rw [decimal] at member
  split at member
  · rw [List.mem_singleton.mp member]
    rfl
  · obtain ⟨d, isDigit, isByte⟩ :=
      List.mem_map.mp (List.mem_reverse.mp member)
    rw [← isByte]
    exact (character_isDigit (Nat.digits_lt_base (by decide) isDigit)).1

theorem decimal_ne_nil
    (n : Nat) :
    decimal n ≠ [] := by
  rw [decimal]
  split
  · nofun
  · rename_i notZero
    simpa [Nat.digits_eq_nil_iff_eq_zero] using notZero

/-- A number below a power of ten has no more digits than the power. -/
theorem length_decimal_le
    {n count : Nat}
    (small : n < 10 ^ count)
    (positive : 0 < count) :
    (decimal n).length ≤ count := by
  rw [decimal]
  split
  · exact positive
  · rw [List.length_reverse, List.length_map]
    exact (Nat.digits_length_le_iff (by decide) n).mpr small

/-- What is printed is read, if it is below the limit. -/
theorem read_decimal
    {limit n : Nat}
    (below : n < limit) :
    read limit (decimal n) = some n :=
  (read_eq_some (Nat.zero_lt_of_lt below)).mpr
    ⟨decimal_ne_nil n, decimal_isDigit n, value_decimal n, below⟩

end DecimalDigits
