import MeshCadet.DecimalDigits
import MeshCadet.FixedWidth

namespace MeshCadet

/-!
# The position as text

A reply holds the position with seven decimals and the age of the fix.  The
encoder takes the absolute value in 64 bits, so it writes every position; the
decoder compares the absolute value with the largest `i32` before it puts the sign
back, so it does not read the smallest one.
-/

namespace TelemetryText

open Outcome DecimalDigits FixedWidth

/-- Bytes of a buffer that a reply fits in. -/
def maxResponseLen : Nat :=
  64

/-- A buffer and how far it is written. -/
structure Writer where
  buf : List UInt8
  pos : Nat
deriving Repr, DecidableEq

/-- Write a byte; it is dropped when the buffer is full. -/
def Writer.pushByte
    (w : Writer)
    (b : UInt8) :
    Writer :=
  if w.pos < w.buf.length then
    { buf := w.buf.set w.pos b, pos := w.pos + 1 }
  else
    w

/-- Write bytes. -/
def Writer.pushBytes
    (w : Writer)
    (s : List UInt8) :
    Writer :=
  s.foldl Writer.pushByte w

/-- Places for the digits of a number. -/
def maxDigits : Nat :=
  20

/-- The digits of a number from the last on, behind those that are there. -/
def collectDigits
    (v : Nat)
    (digits : List UInt8) :
    Outcome Unit (List UInt8) :=
  if 0 < v then
    if digits.length < maxDigits then
      collectDigits (v / 10) (digits ++ [character (v % 10)])
    else
      .panicked
  else
    .value digits
termination_by v
decreasing_by omega

/-- Write a number. -/
def Writer.pushU64
    (w : Writer)
    (val : Nat) :
    Outcome Unit Writer :=
  if val = 0 then
    .value (w.pushByte 48)
  else do
    let digits ← collectDigits val []
    pure (w.pushBytes digits.reverse)

/-- The digit of a fraction at a place. -/
def fracDigit
    (fracPart place : Int) :
    UInt8 :=
  character (toUnsigned 8 ((fracPart.tdiv place).tmod 10))

/-- The seven digits of a fraction. -/
def fracDigits
    (fracPart : Int) :
    List UInt8 :=
  [fracDigit fracPart 1000000, fracDigit fracPart 100000,
    fracDigit fracPart 10000, fracDigit fracPart 1000,
    fracDigit fracPart 100, fracDigit fracPart 10, fracDigit fracPart 1]

/-- The absolute value of a coordinate, in 64 bits. -/
def absE7
    (valE7 : Int) :
    Outcome Unit Int :=
  if valE7 < 0 then checked 64 (-valE7) else .value valE7

/-- Write a coordinate in degrees. -/
def Writer.pushCoord
    (w : Writer)
    (valE7 : Int) :
    Outcome Unit Writer := do
  let abs ← absE7 valE7
  let w := if valE7 < 0 then w.pushByte 45 else w
  let w ← w.pushU64 (toUnsigned 64 (abs.tdiv 10000000))
  let w := w.pushByte 46
  pure (w.pushBytes (fracDigits (abs.tmod 10000000)))

/-- `loc:lat=` -/
def latLabel : List UInt8 :=
  [108, 111, 99, 58, 108, 97, 116, 61]

/-- `lon=` -/
def lonLabel : List UInt8 :=
  [108, 111, 110, 61]

/-- `age=` -/
def ageLabel : List UInt8 :=
  [97, 103, 101, 61]

/-- Encode a reply; the buffer and how many of its bytes are written. -/
def encodeTelemetryResponse
    (latE7 lonE7 : Int)
    (ageSecs : Nat)
    (out : List UInt8) :
    Outcome Unit (List UInt8 × Nat) := do
  let w : Writer := { buf := out, pos := 0 }
  let w := w.pushBytes latLabel
  let w ← w.pushCoord latE7
  let w := w.pushBytes (44 :: lonLabel)
  let w ← w.pushCoord lonE7
  let w := w.pushBytes (44 :: ageLabel)
  let w ← w.pushU64 ageSecs
  let w := w.pushByte 115
  pure (w.buf, w.pos)

/-- A reply. -/
structure TelemetryResponse where
  latE7 : Int
  lonE7 : Int
  ageSecs : Nat
deriving Repr, DecidableEq

/-- Split bytes at the first separator. -/
def splitOnce
    (s : List UInt8)
    (sep : UInt8) :
    Outcome Unit (List UInt8 × List UInt8) := do
  let pos ← ofOption (s.findIdx? (· == sep))
  let before ← slice s 0 pos
  let after ← slice s (pos + 1) s.length
  pure (before, after)

/-- A number; none where it is not one or does not fit a `u32`. -/
def parseU32
    (s : List UInt8) :
    Option Nat :=
  read 4294967296 s

/-- Whether a coordinate is negative, and what stands behind its sign. -/
def splitSign
    (s : List UInt8) :
    Outcome Unit (Bool × List UInt8) :=
  if s.head? = some 45 then do
    let rest ← slice s 1 s.length
    pure (true, rest)
  else
    .value (false, s)

/-- A coordinate in units of 1e-7 degrees. -/
def parseCoordE7
    (s : List UInt8) :
    Outcome Unit Int := do
  let signed ← splitSign s
  let parts ← splitOnce signed.2 46
  let intPart ← ofOption (parseU32 parts.1)
  if parts.2.length ≠ 7 then
    .failed ()
  else do
    let fracPart ← ofOption (parseU32 parts.2)
    let whole ← checked 64 ((intPart : Int) * 10000000)
    let val ← checked 64 (whole + fracPart)
    if val > 2147483647 then
      .failed ()
    else if signed.1 then
      checked 32 (-toSigned 32 val)
    else
      pure (toSigned 32 val)

/-- What stands behind a prefix. -/
def stripPrefix
    (front s : List UInt8) :
    Option (List UInt8) :=
  if front.isPrefixOf s then some (s.drop front.length) else none

/-- What stands in front of a suffix. -/
def stripSuffix
    (back s : List UInt8) :
    Option (List UInt8) :=
  if back.isSuffixOf s then some (s.take (s.length - back.length)) else none

/-- Decode a reply. -/
def decodeTelemetryResponse
    (text : List UInt8) :
    Outcome Unit TelemetryResponse := do
  let rest ← ofOption (stripPrefix latLabel text)
  let latAndRest ← splitOnce rest 44
  let latE7 ← parseCoordE7 latAndRest.1
  let rest ← ofOption (stripPrefix lonLabel latAndRest.2)
  let lonAndRest ← splitOnce rest 44
  let lonE7 ← parseCoordE7 lonAndRest.1
  let rest ← ofOption (stripPrefix ageLabel lonAndRest.2)
  let ageStr ← ofOption (stripSuffix [115] rest)
  let ageSecs ← ofOption (parseU32 ageStr)
  pure { latE7 := latE7, lonE7 := lonE7, ageSecs := ageSecs }

/-- The text of a coordinate. -/
def coordText
    (valE7 : Int) :
    List UInt8 :=
  (if valE7 < 0 then [45] else []) ++ decimal (valE7.natAbs / 10000000) ++
    46 :: fracDigits ((valE7.natAbs % 10000000 : Nat) : Int)

/-- The text of a reply. -/
def responseText
    (latE7 lonE7 : Int)
    (ageSecs : Nat) :
    List UInt8 :=
  latLabel ++ coordText latE7 ++ (44 :: lonLabel) ++ coordText lonE7 ++
    (44 :: ageLabel) ++ decimal ageSecs ++ [115]

/-! ## Writing -/

/-- A text is written into a buffer as far as it fits. -/
structure Wrote
    (out text : List UInt8)
    (w : Writer) :
    Prop where
  length : w.buf.length = out.length
  pos : w.pos = min text.length out.length
  front : w.buf.take w.pos = text.take w.pos

/-- At the start nothing is written. -/
theorem Wrote.start
    (out : List UInt8) :
    Wrote out [] { buf := out, pos := 0 } where
  length := rfl
  pos := (Nat.zero_min _).symm
  front := rfl

/-- A byte is written behind the text, or the buffer is full. -/
theorem Wrote.pushByte
    {out text : List UInt8}
    {w : Writer}
    (wrote : Wrote out text w)
    (b : UInt8) :
    Wrote out (text ++ [b]) (w.pushByte b) := by
  have length := wrote.length
  have pos := wrote.pos
  rw [Writer.pushByte]
  split
  · rename_i inside
    have isEnd : w.pos = text.length := by omega
    refine ⟨?_, ?_, ?_⟩
    · rw [List.length_set, length]
    · rw [List.length_append, List.length_singleton]
      change w.pos + 1 = _
      omega
    · change (w.buf.set w.pos b).take (w.pos + 1) = _
      have front := wrote.front
      rw [isEnd, List.take_length] at front
      rw [isEnd] at inside ⊢
      rw [List.take_succ_eq_append_getElem (by rw [List.length_set]; omega),
        List.getElem_set_self, List.take_set_of_le (Nat.le_refl _), front,
        ← List.length_singleton (a := b), ← List.length_append,
        List.take_length]
  · rename_i full
    refine ⟨length, ?_, ?_⟩
    · rw [List.length_append]
      omega
    · rw [List.take_append_of_le_length (by omega)]
      exact wrote.front

/-- Bytes are written behind the text. -/
theorem Wrote.pushBytes
    {out text : List UInt8}
    {w : Writer}
    (wrote : Wrote out text w)
    (s : List UInt8) :
    Wrote out (text ++ s) (w.pushBytes s) := by
  induction s generalizing text w with
  | nil =>
      rw [List.append_nil]
      exact wrote
  | cons b rest inductionHypothesis =>
      have next := inductionHypothesis (wrote.pushByte b)
      rw [List.append_assoc] at next
      exact next

/-- The digits that are collected are those of the number. -/
theorem collectDigits_eq
    {v : Nat}
    {digits : List UInt8}
    (fits : digits.length + (Nat.digits 10 v).length ≤ maxDigits) :
    collectDigits v digits =
      .value (digits ++ (Nat.digits 10 v).map character) := by
  induction v using Nat.strong_induction_on generalizing digits with
  | _ v inductionHypothesis =>
      rw [collectDigits]
      split
      · rename_i positive
        rw [Nat.digits_def' (by decide) positive, List.length_cons] at fits
        rw [if_pos (by omega),
          inductionHypothesis (v / 10) (by omega) (by simp; omega),
          Nat.digits_def' (by decide) positive]
        simp
      · rename_i isZero
        have zero : v = 0 := by omega
        rw [zero]
        simp

/-- A number is written in decimal digits. -/
theorem Wrote.pushU64
    {out text : List UInt8}
    {w : Writer}
    (wrote : Wrote out text w)
    (val : Nat)
    (small : val < 10 ^ 20) :
    ∃ after,
      w.pushU64 val = .value after ∧ Wrote out (text ++ decimal val) after := by
  rw [Writer.pushU64, decimal]
  split
  · exact ⟨_, rfl, wrote.pushByte 48⟩
  · have fits :
        ([] : List UInt8).length + (Nat.digits 10 val).length ≤ maxDigits := by
      rw [List.length_nil, Nat.zero_add]
      exact (Nat.digits_length_le_iff (by decide) val).mpr small
    rw [collectDigits_eq fits]
    exact ⟨_, rfl, wrote.pushBytes _⟩

/-- A coordinate is written as its text. -/
theorem Wrote.pushCoord
    {out text : List UInt8}
    {w : Writer}
    (wrote : Wrote out text w)
    {valE7 : Int}
    (fits : Fits 32 valE7) :
    ∃ after,
      w.pushCoord valE7 = .value after ∧
        Wrote out (text ++ coordText valE7) after := by
  obtain ⟨low, high⟩ := fits_32.mp fits
  have abs : absE7 valE7 = .value (valE7.natAbs : Int) := by
    rw [absE7]
    split
    · rw [checked_64 (by omega) (by omega)]
      congr 1
      omega
    · congr 1
      omega
  have whole :
      toUnsigned 64 ((valE7.natAbs : Int).tdiv 10000000) =
        valE7.natAbs / 10000000 := by
    rw [toUnsigned, Int.tdiv_eq_ediv_of_nonneg (by omega)]
    omega
  have rest :
      (valE7.natAbs : Int).tmod 10000000 =
        ((valE7.natAbs % 10000000 : Nat) : Int) := by
    rw [Int.tmod_eq_emod_of_nonneg (by omega)]
    omega
  have signed :
      Wrote out (text ++ (if valE7 < 0 then [45] else []))
        (if valE7 < 0 then w.pushByte 45 else w) := by
    split
    · exact wrote.pushByte 45
    · rw [List.append_nil]
      exact wrote
  obtain ⟨afterInt, isInt, wroteInt⟩ :=
    signed.pushU64 (valE7.natAbs / 10000000) (by omega)
  have wroteFrac :=
    (wroteInt.pushByte 46).pushBytes
      (fracDigits ((valE7.natAbs % 10000000 : Nat) : Int))
  refine
    ⟨(afterInt.pushByte 46).pushBytes
      (fracDigits ((valE7.natAbs % 10000000 : Nat) : Int)), ?_, ?_⟩
  · simp only [Writer.pushCoord, abs, value_bind, whole, isInt, rest, pure_eq]
  · rw [coordText]
    simp only [List.append_assoc, List.singleton_append] at wroteFrac ⊢
    exact wroteFrac

/-- A reply is written as its text, as far as the buffer goes. -/
theorem encodeTelemetryResponse_wrote
    {latE7 lonE7 : Int}
    {ageSecs : Nat}
    (latFits : Fits 32 latE7)
    (lonFits : Fits 32 lonE7)
    (ageFits : ageSecs < 4294967296)
    (out : List UInt8) :
    ∃ w,
      encodeTelemetryResponse latE7 lonE7 ageSecs out =
          .value (w.buf, w.pos) ∧
        Wrote out (responseText latE7 lonE7 ageSecs) w := by
  obtain ⟨afterLat, isLat, wroteLat⟩ :=
    ((Wrote.start out).pushBytes latLabel).pushCoord latFits
  obtain ⟨afterLon, isLon, wroteLon⟩ :=
    (wroteLat.pushBytes (44 :: lonLabel)).pushCoord lonFits
  obtain ⟨afterAge, isAge, wroteAge⟩ :=
    (wroteLon.pushBytes (44 :: ageLabel)).pushU64 ageSecs (by omega)
  refine ⟨_, ?_, wroteAge.pushByte 115⟩
  simp only [encodeTelemetryResponse, isLat, value_bind, isLon, isAge, pure_eq]

/-! ## Reading -/

/-- Bytes without the separator are split off at it. -/
theorem splitOnce_append
    {before : List UInt8}
    {sep : UInt8}
    (without : sep ∉ before)
    (after : List UInt8) :
    splitOnce (before ++ sep :: after) sep = .value (before, after) := by
  have found :
      (before ++ sep :: after).findIdx? (· == sep) = some before.length := by
    rw [List.findIdx?_append, List.findIdx?_eq_none_iff.mpr]
    · simp [List.findIdx?_cons]
    · intro b member
      rw [beq_eq_false_iff_ne]
      intro same
      rw [same] at member
      exact without member
  have front :
      (slice (before ++ sep :: after) 0 before.length :
          Outcome Unit (List UInt8)) =
        .value before := by
    rw [slice_eq (Nat.zero_le _) (by simp), List.drop_zero, Nat.sub_zero,
      List.take_left]
  have back :
      (slice (before ++ sep :: after) (before.length + 1)
          (before ++ sep :: after).length :
          Outcome Unit (List UInt8)) =
        .value after := by
    rw [slice_eq (by simp) (Nat.le_refl _), ← List.drop_drop, List.drop_left]
    simp only [List.length_append, List.length_cons, List.drop_succ_cons,
      List.drop_zero, Outcome.value.injEq]
    apply List.take_of_length_le
    omega
  rw [splitOnce, found]
  simp only [ofOption, value_bind, front, back, pure_eq]

/-- A decimal number has no sign, dot or comma. -/
theorem notMem_of_isDigit
    {s : List UInt8}
    (areDigits : ∀ byte ∈ s, isDigit byte = true)
    {sep : UInt8}
    (notDigit : isDigit sep = false) :
    sep ∉ s := by
  intro member
  rw [areDigits sep member] at notDigit
  cases notDigit

/-- A digit of a fraction is the digit of its value at a place. -/
theorem fracDigit_eq
    (n place : Nat) :
    fracDigit (n : Int) (place : Int) = character (n / place % 10) := by
  have isNat :
      ((n : Int).tdiv place).tmod 10 = ((n / place % 10 : Nat) : Int) := by
    rw [← Int.ofNat_tdiv]
    exact (Int.ofNat_tmod (n / place) 10).symm
  rw [fracDigit, isNat, toUnsigned]
  congr 1
  omega

/-- The seven digits of a fraction have its value. -/
theorem fracDigits_value
    {n : Nat}
    (small : n < 10000000) :
    DecimalDigits.value (fracDigits (n : Int)) = n ∧
      ∀ byte ∈ fracDigits (n : Int), isDigit byte = true := by
  have digits :
      fracDigits (n : Int) =
        [character (n / 1000000 % 10), character (n / 100000 % 10),
          character (n / 10000 % 10), character (n / 1000 % 10),
          character (n / 100 % 10), character (n / 10 % 10),
          character (n / 1 % 10)] := by
    simp only [fracDigits, ← fracDigit_eq]
    rfl
  have isDigitAt :
      ∀ place,
        isDigit (character (n / place % 10)) = true ∧
          digit (character (n / place % 10)) = n / place % 10 :=
    fun place => character_isDigit (Nat.mod_lt _ (by decide))
  rw [digits]
  constructor
  · simp only [DecimalDigits.value, valueFrom, List.foldl_cons,
      List.foldl_nil, isDigitAt]
    omega
  · intro byte member
    simp only [List.mem_cons, List.not_mem_nil, or_false] at member
    rcases member with rfl | rfl | rfl | rfl | rfl | rfl | rfl <;>
      exact (isDigitAt _).1

/-- The sign of a coordinate is split off its text. -/
theorem splitSign_coordText
    (valE7 : Int) :
    splitSign (coordText valE7) =
      .value
        (decide (valE7 < 0),
          decimal (valE7.natAbs / 10000000) ++
            46 :: fracDigits ((valE7.natAbs % 10000000 : Nat) : Int)) := by
  rw [coordText]
  split
  · rename_i negative
    rw [decide_eq_true negative, List.append_assoc, List.singleton_append,
      splitSign, if_pos (by rfl), slice_eq (by simp) (Nat.le_refl _)]
    simp
  · rename_i positive
    have noSign :
        (decimal (valE7.natAbs / 10000000) ++
          46 :: fracDigits ((valE7.natAbs % 10000000 : Nat) : Int)).head? ≠
          some 45 := by
      intro isSign
      have nonempty := decimal_ne_nil (valE7.natAbs / 10000000)
      rw [List.head?_append_of_ne_nil _ nonempty] at isSign
      have member := List.mem_of_head? isSign
      have isDigit := decimal_isDigit _ _ member
      exact absurd isDigit (by decide)
    rw [decide_eq_false positive, List.nil_append, splitSign, if_neg noSign]

/-- The text of a coordinate is read, unless its absolute value is no `i32`. -/
theorem parseCoordE7_coordText
    {valE7 : Int}
    (fits : Fits 32 valE7) :
    parseCoordE7 (coordText valE7) =
      if valE7 = -2147483648 then .failed () else .value valE7 := by
  obtain ⟨low, high⟩ := fits_32.mp fits
  have small : valE7.natAbs % 10000000 < 10000000 :=
    Nat.mod_lt _ (by decide)
  obtain ⟨fracValue, fracAreDigits⟩ := fracDigits_value small
  have noDot : (46 : UInt8) ∉ decimal (valE7.natAbs / 10000000) :=
    notMem_of_isDigit (decimal_isDigit _) rfl
  have intPart :
      parseU32 (decimal (valE7.natAbs / 10000000)) =
        some (valE7.natAbs / 10000000) :=
    read_decimal (by omega)
  have fracPart :
      parseU32 (fracDigits ((valE7.natAbs % 10000000 : Nat) : Int)) =
        some (valE7.natAbs % 10000000) :=
    (read_eq_some (by decide)).mpr
      ⟨nofun, fracAreDigits, fracValue, by omega⟩
  have whole :
      (checked 64 (((valE7.natAbs / 10000000 : Nat) : Int) * 10000000) :
          Outcome Unit Int) =
        .value (((valE7.natAbs / 10000000 : Nat) : Int) * 10000000) :=
    checked_64 (by omega) (by omega)
  have sum :
      (checked 64
          (((valE7.natAbs / 10000000 : Nat) : Int) * 10000000 +
            ((valE7.natAbs % 10000000 : Nat) : Int)) :
          Outcome Unit Int) =
        .value (valE7.natAbs : Int) := by
    have isAbs :
        ((valE7.natAbs / 10000000 : Nat) : Int) * 10000000 +
            ((valE7.natAbs % 10000000 : Nat) : Int) =
          valE7.natAbs := by
      omega
    rw [isAbs]
    exact checked_64 (by omega) (by omega)
  have seven :
      (fracDigits ((valE7.natAbs % 10000000 : Nat) : Int)).length = 7 := rfl
  rw [parseCoordE7, splitSign_coordText, value_bind,
    splitOnce_append noDot, value_bind, intPart, ofOption, value_bind,
    if_neg (not_not_intro seven), fracPart, ofOption, value_bind, whole,
    value_bind, sum, value_bind]
  by_cases smallest : valE7 = -2147483648
  · rw [if_pos (by omega), if_pos smallest]
  rw [if_neg (by omega), if_neg smallest]
  have result : toSigned 32 (valE7.natAbs : Int) = valE7.natAbs :=
    toSigned_eq_iff.mpr (fits_32.mpr ⟨by omega, by omega⟩)
  rw [result]
  by_cases negative : valE7 < 0
  · have isNegated : -(valE7.natAbs : Int) = valE7 := by
      omega
    rw [if_pos (decide_eq_true negative), isNegated]
    exact checked_eq fits
  · have isAbs : (valE7.natAbs : Int) = valE7 := by
      omega
    rw [if_neg (by simpa using negative), isAbs]
    rfl

theorem stripPrefix_append
    (front rest : List UInt8) :
    stripPrefix front (front ++ rest) = some rest := by
  rw [stripPrefix, if_pos (List.isPrefixOf_iff_prefix.mpr ⟨rest, rfl⟩),
    List.drop_left]

theorem stripSuffix_append
    (front back : List UInt8) :
    stripSuffix back (front ++ back) = some front := by
  rw [stripSuffix, if_pos (List.isSuffixOf_iff_suffix.mpr ⟨front, rfl⟩),
    List.length_append, Nat.add_sub_cancel, List.take_left]

/-- A coordinate has no comma. -/
theorem comma_notMem_coordText
    (valE7 : Int) :
    (44 : UInt8) ∉ coordText valE7 := by
  have small : valE7.natAbs % 10000000 < 10000000 :=
    Nat.mod_lt _ (by decide)
  have inInt : (44 : UInt8) ∉ decimal (valE7.natAbs / 10000000) :=
    notMem_of_isDigit (decimal_isDigit _) rfl
  have inFrac :
      (44 : UInt8) ∉ fracDigits ((valE7.natAbs % 10000000 : Nat) : Int) :=
    notMem_of_isDigit (fracDigits_value small).2 rfl
  intro member
  rw [coordText, List.mem_append, List.mem_append, List.mem_cons] at member
  rcases member with (inSign | isInt) | isDot | isFrac
  · split at inSign
    · exact absurd (List.mem_singleton.mp inSign) (by decide)
    · cases inSign
  · exact inInt isInt
  · exact absurd isDot (by decide)
  · exact inFrac isFrac

/-- The text of a reply is read, unless a coordinate is the smallest `i32`. -/
theorem decodeTelemetryResponse_responseText
    {latE7 lonE7 : Int}
    {ageSecs : Nat}
    (latFits : Fits 32 latE7)
    (lonFits : Fits 32 lonE7)
    (ageFits : ageSecs < 4294967296) :
    decodeTelemetryResponse (responseText latE7 lonE7 ageSecs) =
      if latE7 = -2147483648 ∨ lonE7 = -2147483648 then
        .failed ()
      else
        .value { latE7 := latE7, lonE7 := lonE7, ageSecs := ageSecs } := by
  have isText :
      responseText latE7 lonE7 ageSecs =
        latLabel ++ (coordText latE7 ++ 44 :: (lonLabel ++
          (coordText lonE7 ++ 44 :: (ageLabel ++
            (decimal ageSecs ++ [115]))))) := by
    simp only [responseText, List.append_assoc, List.cons_append]
  have isAge : parseU32 (decimal ageSecs) = some ageSecs :=
    read_decimal ageFits
  rw [isText, decodeTelemetryResponse, stripPrefix_append, ofOption,
    value_bind, splitOnce_append (comma_notMem_coordText latE7), value_bind,
    parseCoordE7_coordText latFits]
  by_cases latSmallest : latE7 = -2147483648
  · rw [if_pos latSmallest, if_pos (Or.inl latSmallest)]
    rfl
  rw [if_neg latSmallest, value_bind, stripPrefix_append, ofOption, value_bind,
    splitOnce_append (comma_notMem_coordText lonE7), value_bind,
    parseCoordE7_coordText lonFits]
  by_cases lonSmallest : lonE7 = -2147483648
  · rw [if_pos lonSmallest, if_pos (Or.inr lonSmallest)]
    rfl
  rw [if_neg lonSmallest, value_bind, stripPrefix_append, ofOption, value_bind,
    stripSuffix_append, ofOption, value_bind, isAge, ofOption, value_bind,
    if_neg (by simp [latSmallest, lonSmallest])]
  rfl

/-- A coordinate has at most twelve bytes. -/
theorem length_coordText_le
    {valE7 : Int}
    (fits : Fits 32 valE7) :
    (coordText valE7).length ≤ 12 := by
  obtain ⟨low, high⟩ := fits_32.mp fits
  have digits : (decimal (valE7.natAbs / 10000000)).length ≤ 3 :=
    length_decimal_le (by omega) (by decide)
  have sign : (if valE7 < 0 then [(45 : UInt8)] else []).length ≤ 1 := by
    split <;> decide
  have frac :
      (fracDigits ((valE7.natAbs % 10000000 : Nat) : Int)).length = 7 := rfl
  rw [coordText, List.length_append, List.length_append, List.length_cons]
  omega

/-- A reply has at most 53 bytes. -/
theorem length_responseText_le
    {latE7 lonE7 : Int}
    {ageSecs : Nat}
    (latFits : Fits 32 latE7)
    (lonFits : Fits 32 lonE7)
    (ageFits : ageSecs < 4294967296) :
    (responseText latE7 lonE7 ageSecs).length ≤ 53 := by
  have lat := length_coordText_le latFits
  have lon := length_coordText_le lonFits
  have age : (decimal ageSecs).length ≤ 10 :=
    length_decimal_le (by omega) (by decide)
  have labels :
      latLabel.length = 8 ∧ lonLabel.length = 4 ∧ ageLabel.length = 4 :=
    ⟨rfl, rfl, rfl⟩
  simp only [responseText, List.length_append, List.length_cons,
    List.length_nil]
  omega

/-! ## The round trip -/

/--
A reply is encoded within every buffer and within 64 bytes, and from a buffer of
64 bytes or more the decoder reads what was encoded.
-/
structure RoundTrips
    (latE7 lonE7 : Int)
    (ageSecs : Nat) :
    Prop where
  bounded :
    ∀ out : List UInt8,
      ∃ buf n,
        encodeTelemetryResponse latE7 lonE7 ageSecs out = .value (buf, n) ∧
          buf.length = out.length ∧ n ≤ out.length ∧ n ≤ maxResponseLen
  decodes :
    ∀ out : List UInt8,
      maxResponseLen ≤ out.length →
        ∃ buf n,
          encodeTelemetryResponse latE7 lonE7 ageSecs out =
              .value (buf, n) ∧
            decodeTelemetryResponse (buf.take n) =
              .value { latE7 := latE7, lonE7 := lonE7, ageSecs := ageSecs }

/-- A buffer that is long enough holds the text of the reply. -/
theorem Wrote.take_eq
    {out text : List UInt8}
    {w : Writer}
    (wrote : Wrote out text w)
    (enough : text.length ≤ out.length) :
    w.buf.take w.pos = text := by
  have pos := wrote.pos
  rw [wrote.front]
  apply List.take_of_length_le
  omega

/-- What is decoded after encoding. -/
theorem decode_encoded
    {latE7 lonE7 : Int}
    {ageSecs : Nat}
    (latFits : Fits 32 latE7)
    (lonFits : Fits 32 lonE7)
    (ageFits : ageSecs < 4294967296)
    {out : List UInt8}
    (enough : maxResponseLen ≤ out.length) :
    ∃ buf n,
      encodeTelemetryResponse latE7 lonE7 ageSecs out = .value (buf, n) ∧
        decodeTelemetryResponse (buf.take n) =
          if latE7 = -2147483648 ∨ lonE7 = -2147483648 then
            .failed ()
          else
            .value { latE7 := latE7, lonE7 := lonE7, ageSecs := ageSecs } := by
  obtain ⟨w, encoded, wrote⟩ :=
    encodeTelemetryResponse_wrote latFits lonFits ageFits out
  have short := length_responseText_le latFits lonFits ageFits
  have room : maxResponseLen = 64 := rfl
  refine ⟨w.buf, w.pos, encoded, ?_⟩
  rw [wrote.take_eq (by omega)]
  exact decodeTelemetryResponse_responseText latFits lonFits ageFits

/-- A reply with the smallest `i32` is not read back. -/
theorem not_roundTrips_smallest
    {latE7 lonE7 : Int}
    {ageSecs : Nat}
    (latFits : Fits 32 latE7)
    (lonFits : Fits 32 lonE7)
    (ageFits : ageSecs < 4294967296)
    (smallest : latE7 = -2147483648 ∨ lonE7 = -2147483648) :
    ¬ RoundTrips latE7 lonE7 ageSecs := by
  intro roundTrips
  have enough : maxResponseLen ≤ (List.replicate 64 (0 : UInt8)).length := by
    rw [List.length_replicate]
    exact Nat.le_refl 64
  obtain ⟨buf, n, encoded, decoded⟩ := roundTrips.decodes _ enough
  obtain ⟨_, _, known, isFailed⟩ :=
    decode_encoded latFits lonFits ageFits enough
  rw [known] at encoded
  cases encoded
  rw [if_pos smallest, decoded] at isFailed
  cases isFailed

/-- A reply round-trips exactly when no coordinate is the smallest `i32`. -/
theorem roundTrips_iff
    {latE7 lonE7 : Int}
    {ageSecs : Nat}
    (latFits : Fits 32 latE7)
    (lonFits : Fits 32 lonE7)
    (ageFits : ageSecs < 4294967296) :
    RoundTrips latE7 lonE7 ageSecs ↔
      latE7 ≠ -2147483648 ∧ lonE7 ≠ -2147483648 := by
  constructor
  · intro roundTrips
    constructor
    · intro smallest
      exact
        not_roundTrips_smallest latFits lonFits ageFits (Or.inl smallest)
          roundTrips
    · intro smallest
      exact
        not_roundTrips_smallest latFits lonFits ageFits (Or.inr smallest)
          roundTrips
  · rintro ⟨latLarger, lonLarger⟩
    constructor
    · intro out
      obtain ⟨w, encoded, wrote⟩ :=
        encodeTelemetryResponse_wrote latFits lonFits ageFits out
      have short := length_responseText_le latFits lonFits ageFits
      have pos := wrote.pos
      have room : maxResponseLen = 64 := rfl
      exact
        ⟨w.buf, w.pos, encoded, wrote.length, by omega, by omega⟩
    · intro out enough
      obtain ⟨buf, n, encoded, decoded⟩ :=
        decode_encoded latFits lonFits ageFits enough
      rw [if_neg (not_or.mpr ⟨latLarger, lonLarger⟩)] at decoded
      exact ⟨buf, n, encoded, decoded⟩

/-- A small negative latitude, the largest longitude and the largest age. -/
theorem roundTrips_extremes :
    RoundTrips (-1) 2147483647 4294967295 :=
  (roundTrips_iff (by decide) (by decide) (by decide)).mpr
    ⟨by decide, by decide⟩

/-- The smallest `i32` as a latitude is encoded but not decoded. -/
theorem smallest_latitude_lost :
    Fits 32 (-2147483648) ∧ ¬ RoundTrips (-2147483648) 0 0 :=
  ⟨by decide,
    not_roundTrips_smallest (by decide) (by decide) (by decide) (Or.inl rfl)⟩

end TelemetryText

end MeshCadet
