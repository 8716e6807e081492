import MeshCadet.NmeaSentences
import Mathlib.Algebra.Order.Field.Rat
import Mathlib.Tactic.FieldSimp
import Mathlib.Tactic.Linarith

namespace MeshCadet

/-!
# Positions of a GGA sentence

A coordinate is written as degrees and minutes and is kept in units of 1e-7
degrees.  The digits are read with checks, but the sum is cast to 32 bits, and
neither the cast nor the degrees are checked: a coordinate past 90 or 180 degrees
is accepted, and one past 214 degrees wraps.
-/

open Outcome DecimalDigits FixedWidth

/-- What a fraction of so many digits is scaled by, to five decimals. -/
def fracScale
    (fracLen : Nat) :
    Int :=
  match fracLen with
  | 1 => 10000
  | 2 => 1000
  | 3 => 100
  | 4 => 10
  | _ => 1

/-- South or west. -/
def negativeDir
    (dir : List UInt8) :
    Bool :=
  dir.head? == some 83 || dir.head? == some 87

/-- A coordinate in units of 1e-7 degrees, in a build that checks for overflow. -/
def nmeaCoordToE7
    (coord dir : List UInt8) :
    Outcome Unit Int :=
  if coord.isEmpty then
    .failed ()
  else do
    let dot ← ofOption (coord.findIdx? (· == 46))
    if dot < 2 then
      .failed ()
    else do
      let intDigits ← slice coord 0 dot
      let intVal ← ofOption (parseU32Bytes intDigits)
      let deg := (intVal : Int).tdiv 100
      let minInt := (intVal : Int).tmod 100
      let fracBytes ← slice coord (dot + 1) coord.length
      let fracLen := min fracBytes.length 5
      let fracDigits ← slice fracBytes 0 fracLen
      let fracRaw ← ofOption (parseU32Bytes fracDigits)
      let minFracE5 ← checked 64 (fracRaw * fracScale fracLen)
      let wholeE5 ← checked 64 (minInt * 100000)
      let minutesE5 ← checked 64 (wholeE5 + minFracE5)
      let scaled ← checked 64 (minutesE5 * 100)
      let rounded ← checked 64 (scaled + 30)
      let fracE7 := rounded.tdiv 60
      let degE7 ← checked 64 (deg * 10000000)
      let sum ← checked 64 (degE7 + fracE7)
      let valE7 := toSigned 32 sum
      if negativeDir dir then checked 32 (-valE7) else pure valE7

/-- Position and satellites of a sentence; no position without a fix. -/
structure GgaFields where
  coords : Option (Int × Int)
  satCount : Nat
deriving Repr, DecidableEq

/-- `$GPGGA,` -/
def gpGga : List UInt8 :=
  [36, 71, 80, 71, 71, 65, 44]

/-- `$GNGGA,` -/
def gnGga : List UInt8 :=
  [36, 71, 78, 71, 71, 65, 44]

/-- Position and satellites of a GGA sentence. -/
def parseGga
    (line : List UInt8) :
    Outcome Unit GgaFields :=
  if ¬ gpGga.isPrefixOf line ∧ ¬ gnGga.isPrefixOf line then
    .failed ()
  else
    let latStr := sentenceField 7 line 2
    let ns := sentenceField 7 line 3
    let lonStr := sentenceField 7 line 4
    let ew := sentenceField 7 line 5
    let fixQ := sentenceField 7 line 6
    let satStr := sentenceField 7 line 7
    let satCount := min ((parseU32Bytes satStr).getD 0) 255
    let q := fixQ.head?.getD 48
    if q = 48 ∨ fixQ = [] then
      pure { coords := none, satCount := satCount }
    else do
      let latE7 ← nmeaCoordToE7 latStr ns
      let lonE7 ← nmeaCoordToE7 lonStr ew
      pure { coords := some (latE7, lonE7), satCount := satCount }

/-- A sentence with a fix, whose coordinates are read. -/
def HasFix
    (line : List UInt8) :
    Prop :=
  (gpGga.isPrefixOf line ∨ gnGga.isPrefixOf line) ∧
    (closedFields line).getD 6 [] ≠ [] ∧
    ((closedFields line).getD 6 []).head? ≠ some 48

/--
The coordinate a text denotes, in units of 1e-5 minutes: degrees and minutes up to
the point, and up to five decimals of the minutes.
-/
def writtenE5
    (coord : List UInt8) :
    Option Nat := do
  let dot ← coord.findIdx? (· == 46)
  let intVal ←
    if dot < 2 then none else parseU32Bytes (coord.take dot)
  let fracDigits := (coord.drop (dot + 1)).take 5
  let frac ← parseU32Bytes fracDigits
  some
    ((intVal / 100 * 60 + intVal % 100) * 100000 +
      frac * 10 ^ (5 - fracDigits.length))

/-- A coordinate in units of 1e-7 degrees, rounded to the nearest. -/
def roundedE7
    (e5 : Nat) :
    Int :=
  (e5 * 100 + 30 : Nat) / 60

/-- A value with the sign of its hemisphere. -/
def signed
    (dir : List UInt8)
    (n : Int) :
    Int :=
  if negativeDir dir then -n else n

/-- The coordinate a text denotes, without limits. -/
def exactE7
    (coord dir : List UInt8) :
    Outcome Unit Int :=
  ofOption ((writtenE5 coord).map fun e5 => signed dir (roundedE7 e5))

section Coordinates

variable {coord dir : List UInt8}

/-- The sum, cast to 32 bits and given the sign of its hemisphere. -/
def castE7
    (dir : List UInt8)
    (e5 : Nat) :
    Outcome Unit Int :=
  if negativeDir dir then checked 32 (-toSigned 32 (roundedE7 e5))
  else pure (toSigned 32 (roundedE7 e5))

/-- Decimals of minutes, scaled to five, are below a minute. -/
theorem frac_scaled
    {fracDigits : List UInt8}
    {fracRaw : Nat}
    (isRead : parseU32Bytes fracDigits = some fracRaw)
    (atMost : fracDigits.length ≤ 5) :
    (fracRaw : Int) * fracScale fracDigits.length =
        (fracRaw * 10 ^ (5 - fracDigits.length) : Nat) ∧
      fracRaw * 10 ^ (5 - fracDigits.length) < 100000 := by
  obtain ⟨nonempty, areDigits, rfl, -⟩ :=
    (read_eq_some (by decide)).mp isRead
  have below := value_lt areDigits
  have positive : 0 < fracDigits.length := List.length_pos_iff.mpr nonempty
  generalize fracDigits.length = length at *
  interval_cases length <;> simp only [fracScale] <;> omega

/-- The sums stay far below the limits of 64 bits. -/
theorem coordinateSums
    {α : Type}
    {next : Int → Outcome Unit α}
    {intVal frac : Nat}
    (fits : intVal < 4294967296)
    (below : frac < 100000) :
    (do
      let wholeE5 ← checked 64 ((intVal : Int).tmod 100 * 100000)
      let minutesE5 ← checked 64 (wholeE5 + (frac : Int))
      let scaled ← checked 64 (minutesE5 * 100)
      let rounded ← checked 64 (scaled + 30)
      let degE7 ← checked 64 ((intVal : Int).tdiv 100 * 10000000)
      let sum ← checked 64 (degE7 + rounded.tdiv 60)
      next sum) =
      next
        (roundedE7
          ((intVal / 100 * 60 + intVal % 100) * 100000 + frac)) := by
  have remainder : (intVal : Int).tmod 100 = (intVal % 100 : Nat) := by
    rw [Int.tmod_eq_emod_of_nonneg (by omega)]
    omega
  have quotient : (intVal : Int).tdiv 100 = (intVal / 100 : Nat) := by
    rw [Int.tdiv_eq_ediv_of_nonneg (by omega)]
    omega
  have atMost : intVal / 100 < 42949673 := by omega
  have small : intVal % 100 < 100 := Nat.mod_lt _ (by decide)
  rw [remainder, quotient, roundedE7]
  clear remainder quotient fits
  generalize intVal % 100 = minutes at *
  generalize intVal / 100 = degrees at *
  rw [checked_bind (by omega) (by omega), checked_bind (by omega) (by omega),
    checked_bind (by omega) (by omega), checked_bind (by omega) (by omega),
    checked_bind (by omega) (by omega),
    Int.tdiv_eq_ediv_of_nonneg (by omega),
    checked_bind (by omega) (by omega)]
  congr 1
  omega

/-- What a coordinate is read as: the cast of the one its text denotes. -/
theorem nmeaCoordToE7_eq
    (coord dir : List UInt8) :
    nmeaCoordToE7 coord dir =
      (ofOption (writtenE5 coord) >>= castE7 dir) := by
  rw [nmeaCoordToE7, writtenE5]
  cases isDot : coord.findIdx? (· == 46) with
  | none =>
      simp [ofOption]
  | some dot =>
      have inside : dot < coord.length :=
        (List.findIdx?_eq_some_iff_getElem.mp isDot).1
      have nonempty : coord.isEmpty = false := by
        cases coord with
        | nil =>
            simp at inside
        | cons =>
            rfl
      rw [if_neg (by simp [nonempty])]
      by_cases short : dot < 2
      · simp only [ofOption, value_bind, if_pos short,
          Option.bind_eq_bind, Option.bind_some]
        rfl
      · have whole :
            (slice coord 0 dot : Outcome Unit (List UInt8)) =
              .value (coord.take dot) := by
          rw [slice_eq (Nat.zero_le _) (Nat.le_of_lt inside)]
          rfl
        have rest :
            (slice coord (dot + 1) coord.length :
                Outcome Unit (List UInt8)) =
              .value (coord.drop (dot + 1)) := by
          rw [slice_eq inside (Nat.le_refl _), List.take_of_length_le]
          rw [List.length_drop]
        have decimals :
            (slice (coord.drop (dot + 1)) 0
                (min (coord.drop (dot + 1)).length 5) :
                Outcome Unit (List UInt8)) =
              .value ((coord.drop (dot + 1)).take 5) := by
          rw [slice_eq (Nat.zero_le _) (Nat.min_le_left _ _),
            List.drop_zero, Nat.sub_zero, Nat.min_comm,
            ← List.take_eq_take_min]
        have length :
            min (coord.drop (dot + 1)).length 5 =
              ((coord.drop (dot + 1)).take 5).length := by
          rw [List.length_take, Nat.min_comm]
        simp only [ofOption, value_bind, if_neg short, whole, rest,
          Option.bind_eq_bind, Option.bind_some]
        cases isInt : parseU32Bytes (coord.take dot) with
        | none =>
            rfl
        | some intVal =>
            obtain ⟨-, -, -, fits⟩ := (read_eq_some (by decide)).mp isInt
            simp only [value_bind, decimals, Option.bind_some]
            cases isFrac :
                parseU32Bytes ((coord.drop (dot + 1)).take 5) with
            | none =>
                rfl
            | some fracRaw =>
                obtain ⟨scaled, below⟩ := frac_scaled isFrac (by
                  rw [List.length_take]
                  exact Nat.min_le_left _ _)
                simp only [value_bind, Option.bind_some]
                rw [length, scaled, checked_bind (by omega) (by omega),
                  coordinateSums fits below]
                rfl

/-- The rounded value fits 32 bits up to some 214 degrees. -/
theorem roundedE7_fits
    {e5 : Nat} :
    Fits 32 (roundedE7 e5) ↔ e5 ≤ 1288490188 := by
  rw [fits_32, roundedE7]
  omega

/-- The cast gives the coordinate exactly where its value fits 32 bits. -/
theorem castE7_eq_iff
    {e5 : Nat} :
    castE7 dir e5 = .value (signed dir (roundedE7 e5)) ↔
      e5 ≤ 1288490188 := by
  rw [← roundedE7_fits, castE7, signed]
  have notNegative : 0 ≤ roundedE7 e5 := by
    rw [roundedE7]
    omega
  have kept := fits_toSigned (roundedE7 e5)
  rw [← toSigned_eq_iff]
  generalize toSigned 32 (roundedE7 e5) = cast at kept
  split
  case isTrue negative =>
    constructor
    · intro same
      rw [checked] at same
      split at same
      · have opposite := Outcome.value.inj same
        omega
      · cases same
    · intro same
      rw [same] at kept ⊢
      rw [fits_32] at kept
      exact checked_eq (by rw [fits_32]; omega)
  case isFalse positive =>
    constructor
    · exact Outcome.value.inj
    · intro same
      rw [same]
      rfl

/-- A coordinate is read as it is written where that fits 32 bits. -/
theorem nmeaCoordToE7_eq_exact
    (coord dir : List UInt8) :
    nmeaCoordToE7 coord dir = exactE7 coord dir ↔
      ∀ e5, writtenE5 coord = some e5 → e5 ≤ 1288490188 := by
  rw [nmeaCoordToE7_eq, exactE7]
  cases written : writtenE5 coord with
  | none =>
      simp [ofOption]
  | some e5 =>
      rw [ofOption, value_bind, Option.map_some, ofOption, castE7_eq_iff]
      simp

/-- A value below 90 degrees is one of 540000000 units, and so on. -/
theorem roundedE7_le
    {e5 : Nat}
    (degrees : Nat) :
    roundedE7 e5 ≤ degrees * 10000000 ↔ e5 ≤ degrees * 6000000 := by
  rw [roundedE7]
  omega

theorem abs_signed
    (dir : List UInt8)
    (e5 : Nat) :
    |signed dir (roundedE7 e5)| = roundedE7 e5 := by
  have notNegative : 0 ≤ roundedE7 e5 := by
    rw [roundedE7]
    omega
  rw [signed]
  split
  · rw [abs_neg, abs_of_nonneg notNegative]
  · exact abs_of_nonneg notNegative

end Coordinates

section Decimals

/-- A coordinate text: degrees of some digits, minutes and decimals. -/
structure IsCoordinate
    (degreeDigits : Nat)
    (text whole frac : List UInt8) :
    Prop where
  isText : text = whole ++ 46 :: frac
  wholeDigits : ∀ byte ∈ whole, isDigit byte = true
  fracDigits : ∀ byte ∈ frac, isDigit byte = true
  degrees : whole.length = degreeDigits + 2
  decimals : 1 ≤ frac.length ∧ frac.length ≤ 5

/-- The coordinate in degrees. -/
def exactDegrees
    (whole frac : List UInt8) :
    ℚ :=
  (DecimalDigits.value whole / 100 : Nat) +
    ((DecimalDigits.value whole % 100 : Nat) +
        DecimalDigits.value frac / 10 ^ frac.length) /
      60

/-- The sign of a hemisphere. -/
def hemisphere
    (dir : List UInt8) :
    ℚ :=
  if negativeDir dir then -1 else 1

variable {degreeDigits : Nat} {text whole frac : List UInt8}

/-- A coordinate text is written as its degrees. -/
theorem writtenE5_of_isCoordinate
    (written : IsCoordinate degreeDigits text whole frac)
    (few : degreeDigits ≤ 3) :
    ∃ e5,
      writtenE5 text = some e5 ∧
        (e5 : ℚ) = exactDegrees whole frac * 6000000 := by
  obtain ⟨rfl, wholeDigits, fracDigits, degrees, first, last⟩ := written
  have noDot : ∀ byte ∈ whole, (byte == 46) = false := by
    intro byte member
    have isNumber := wholeDigits byte member
    by_contra isPoint
    have same : byte = 46 := by simpa using isPoint
    subst same
    exact absurd isNumber (by decide)
  have isDot :
      (whole ++ 46 :: frac).findIdx? (· == 46) = some whole.length := by
    have before : whole.findIdx? (· == 46) = none :=
      List.findIdx?_eq_none_iff.mpr noDot
    rw [List.findIdx?_append, before]
    simp [List.findIdx?_cons]
  have wholeSmall := value_lt wholeDigits
  have fracSmall := value_lt fracDigits
  have wholeBound : DecimalDigits.value whole < 100000 := by
    have power : 10 ^ whole.length ≤ 10 ^ 5 :=
      Nat.pow_le_pow_right (by decide) (by omega)
    omega
  have fracBound : DecimalDigits.value frac < 100000 := by
    have power : 10 ^ frac.length ≤ 10 ^ 5 :=
      Nat.pow_le_pow_right (by decide) last
    omega
  have wholeRead :
      parseU32Bytes whole = some (DecimalDigits.value whole) :=
    (read_eq_some (by decide)).mpr
      ⟨List.length_pos_iff.mp (by omega), wholeDigits, rfl, by omega⟩
  have fracRead :
      parseU32Bytes frac = some (DecimalDigits.value frac) :=
    (read_eq_some (by decide)).mpr
      ⟨List.length_pos_iff.mp (by omega), fracDigits, rfl, by omega⟩
  have behind :
      ((whole ++ 46 :: frac).drop (whole.length + 1)).take 5 = frac := by
    rw [← List.drop_drop, List.drop_left, List.drop_succ_cons,
      List.drop_zero, List.take_of_length_le last]
  refine ⟨(DecimalDigits.value whole / 100 * 60 +
    DecimalDigits.value whole % 100) * 100000 +
      DecimalDigits.value frac * 10 ^ (5 - frac.length), ?_, ?_⟩
  · rw [writtenE5, isDot]
    simp only [Option.bind_eq_bind, Option.bind_some, behind,
      List.take_left, wholeRead, fracRead]
    rw [if_neg (by omega)]
  · have powers :
        (10 : ℚ) ^ (5 - frac.length) * 10 ^ frac.length = 100000 := by
      rw [← pow_add, Nat.sub_add_cancel last]
      norm_num
    have nonzero : (10 : ℚ) ^ frac.length ≠ 0 := by positivity
    have scaled :
        (DecimalDigits.value frac : ℚ) / 10 ^ frac.length * 100000 =
          DecimalDigits.value frac * 10 ^ (5 - frac.length) := by
      rw [← powers]
      field_simp
    rw [exactDegrees]
    push_cast
    linarith

/-- Rounding moves a coordinate by less than a unit. -/
theorem signed_near
    {e5 : Nat}
    {degrees : ℚ}
    (written : (e5 : ℚ) = degrees * 6000000)
    (dir : List UInt8) :
    |(signed dir (roundedE7 e5) : ℚ) -
        hemisphere dir * degrees * 10000000| ≤
      1 := by
  have low : 60 * roundedE7 e5 ≤ e5 * 100 + 30 := by
    rw [roundedE7]
    omega
  have high : (e5 : Int) * 100 + 30 < 60 * roundedE7 e5 + 60 := by
    rw [roundedE7]
    omega
  have lowQ : 60 * (roundedE7 e5 : ℚ) ≤ e5 * 100 + 30 := by
    exact_mod_cast low
  have highQ : (e5 : ℚ) * 100 + 30 < 60 * (roundedE7 e5 : ℚ) + 60 := by
    exact_mod_cast high
  rw [abs_le, signed, hemisphere]
  split
  · push_cast
    constructor <;> linarith
  · constructor <;> linarith

end Decimals

section Sentences

/-- The property of a sentence: its coordinates are read without a limit
showing, an accepted position is on the globe, and coordinates of the format are
within a unit of what is written. -/
structure PositionSound
    (line : List UInt8) :
    Prop where
  latitude :
    HasFix line →
      nmeaCoordToE7 ((closedFields line).getD 2 [])
          ((closedFields line).getD 3 []) =
        exactE7 ((closedFields line).getD 2 [])
          ((closedFields line).getD 3 [])
  longitude :
    HasFix line →
    (writtenE5 ((closedFields line).getD 2 [])).isSome →
      nmeaCoordToE7 ((closedFields line).getD 4 [])
          ((closedFields line).getD 5 []) =
        exactE7 ((closedFields line).getD 4 [])
          ((closedFields line).getD 5 [])
  onGlobe :
    ∀ lat lon satCount,
      parseGga line = .value ⟨some (lat, lon), satCount⟩ →
        |lat| ≤ 900000000 ∧ |lon| ≤ 1800000000
  near :
    HasFix line →
    ∀ latWhole latFrac lonWhole lonFrac,
      IsCoordinate 2 ((closedFields line).getD 2 []) latWhole latFrac →
      IsCoordinate 3 ((closedFields line).getD 4 []) lonWhole lonFrac →
      exactDegrees latWhole latFrac ≤ 90 →
      exactDegrees lonWhole lonFrac ≤ 180 →
        ∃ lat lon satCount,
          parseGga line = .value ⟨some (lat, lon), satCount⟩ ∧
            |(lat : ℚ) -
                hemisphere ((closedFields line).getD 3 []) *
                  exactDegrees latWhole latFrac * 10000000| ≤ 1 ∧
            |(lon : ℚ) -
                hemisphere ((closedFields line).getD 5 []) *
                  exactDegrees lonWhole lonFrac * 10000000| ≤ 1

/--
The condition on a sentence with a fix: the latitude it writes, in units of 1e-5
minutes, fits 32 bits once in units of 1e-7 degrees; and where it writes a
longitude too, they are at most 90 and 180 degrees.
-/
def PositionInRange
    (line : List UInt8) :
    Prop :=
  HasFix line →
    ∀ lat, writtenE5 ((closedFields line).getD 2 []) = some lat →
      lat ≤ 1288490188 ∧
        ∀ lon, writtenE5 ((closedFields line).getD 4 []) = some lon →
          lat ≤ 540000000 ∧ lon ≤ 1080000000

variable {line : List UInt8}

/-- With a fix, the position is that of the two coordinates. -/
theorem parseGga_hasFix
    (hasFix : HasFix line) :
    ∃ satCount,
      parseGga line =
        (do
          let latE7 ← nmeaCoordToE7 ((closedFields line).getD 2 [])
            ((closedFields line).getD 3 [])
          let lonE7 ← nmeaCoordToE7 ((closedFields line).getD 4 [])
            ((closedFields line).getD 5 [])
          pure ⟨some (latE7, lonE7), satCount⟩) := by
  obtain ⟨known, nonempty, quality⟩ := hasFix
  have passes :
      ¬ (¬ gpGga.isPrefixOf line ∧ ¬ gnGga.isPrefixOf line) := by
    rcases known with gps | gnss
    · simp [gps]
    · simp [gnss]
  have fixed :
      ¬ (((closedFields line).getD 6 []).head?.getD 48 = 48 ∨
        (closedFields line).getD 6 [] = []) := by
    rintro (same | empty)
    · cases first : ((closedFields line).getD 6 []).head? with
      | none =>
          exact nonempty (List.head?_eq_none_iff.mp first)
      | some b =>
          rw [first] at same quality
          simp only [Option.getD_some] at same
          rw [same] at quality
          exact quality rfl
    · exact nonempty empty
  rw [parseGga, if_neg passes]
  simp only [sentenceField_eq (show 2 ≤ 7 by decide),
    sentenceField_eq (show 3 ≤ 7 by decide),
    sentenceField_eq (show 4 ≤ 7 by decide),
    sentenceField_eq (show 5 ≤ 7 by decide),
    sentenceField_eq (show 6 ≤ 7 by decide), if_neg fixed]
  exact ⟨_, rfl⟩

/-- A position is only given with a fix. -/
theorem hasFix_of_coords
    {lat lon : Int}
    {satCount : Nat}
    (accepted : parseGga line = .value ⟨some (lat, lon), satCount⟩) :
    HasFix line := by
  rw [parseGga] at accepted
  obtain ⟨known, accepted⟩ := unless_eq_value_iff.mp accepted
  simp only [sentenceField_eq (show 6 ≤ 7 by decide)] at accepted
  split at accepted
  case isTrue unfixed =>
    cases accepted
  case isFalse fixed =>
    refine ⟨?_, fun empty => fixed (.inr empty), fun zero => fixed (.inl ?_)⟩
    · by_contra unknown
      exact known ⟨fun gps => unknown (.inl gps),
        fun gnss => unknown (.inr gnss)⟩
    · rw [zero]
      rfl

/-- What an accepted position consists of. -/
theorem coordinates_of_accepted
    {lat lon : Int}
    {satCount : Nat}
    (accepted : parseGga line = .value ⟨some (lat, lon), satCount⟩) :
    nmeaCoordToE7 ((closedFields line).getD 2 [])
        ((closedFields line).getD 3 []) =
        .value lat ∧
      nmeaCoordToE7 ((closedFields line).getD 4 [])
          ((closedFields line).getD 5 []) =
        .value lon := by
  obtain ⟨count, isRead⟩ := parseGga_hasFix (hasFix_of_coords accepted)
  rw [accepted] at isRead
  obtain ⟨latE7, isLat, isRead⟩ := bind_eq_value_iff.mp isRead.symm
  obtain ⟨lonE7, isLon, isRead⟩ := bind_eq_value_iff.mp isRead
  cases isRead
  exact ⟨isLat, isLon⟩

/-- A coordinate that is read as written denotes its value. -/
theorem written_of_exactE7
    {coord dir : List UInt8}
    {n : Int}
    (isExact : exactE7 coord dir = .value n) :
    ∃ e5, writtenE5 coord = some e5 ∧ n = signed dir (roundedE7 e5) := by
  have isSome := ofOption_eq_value_iff.mp isExact
  obtain ⟨e5, written, same⟩ := Option.map_eq_some_iff.mp isSome
  exact ⟨e5, written, same.symm⟩

theorem exactE7_eq
    {coord : List UInt8}
    {e5 : Nat}
    (written : writtenE5 coord = some e5)
    (dir : List UInt8) :
    exactE7 coord dir = .value (signed dir (roundedE7 e5)) := by
  rw [exactE7, written]
  rfl

/-- A coordinate that fits is read as it is written. -/
theorem nmeaCoordToE7_written
    {coord : List UInt8}
    {e5 : Nat}
    (written : writtenE5 coord = some e5)
    (fits : e5 ≤ 1288490188)
    (dir : List UInt8) :
    nmeaCoordToE7 coord dir = .value (signed dir (roundedE7 e5)) := by
  have isExact := (nmeaCoordToE7_eq_exact coord dir).mpr fun found isFound => by
    rw [written] at isFound
    cases isFound
    exact fits
  rw [isExact, exactE7_eq written]

/-- Both coordinates that fit are the position of a sentence with a fix. -/
theorem accepted_of_written
    {lat lon : Nat}
    (hasFix : HasFix line)
    (isLat : writtenE5 ((closedFields line).getD 2 []) = some lat)
    (isLon : writtenE5 ((closedFields line).getD 4 []) = some lon)
    (latFits : lat ≤ 1288490188)
    (lonFits : lon ≤ 1288490188) :
    ∃ satCount,
      parseGga line =
        .value
          ⟨some
            (signed ((closedFields line).getD 3 []) (roundedE7 lat),
              signed ((closedFields line).getD 5 []) (roundedE7 lon)),
            satCount⟩ := by
  obtain ⟨satCount, isRead⟩ := parseGga_hasFix hasFix
  refine ⟨satCount, ?_⟩
  rw [isRead, nmeaCoordToE7_written isLat latFits,
    nmeaCoordToE7_written isLon lonFits]
  rfl

/-- A sentence in range has the property. -/
theorem positionSound_of_inRange
    (inRange : PositionInRange line) :
    PositionSound line where
  latitude := fun hasFix =>
    (nmeaCoordToE7_eq_exact _ _).mpr fun lat isLat =>
      (inRange hasFix lat isLat).1
  longitude := fun hasFix isWritten => by
    obtain ⟨lat, isLat⟩ := Option.isSome_iff_exists.mp isWritten
    refine (nmeaCoordToE7_eq_exact _ _).mpr fun lon isLon => ?_
    have below := ((inRange hasFix lat isLat).2 lon isLon).2
    omega
  onGlobe := fun latE7 lonE7 satCount accepted => by
    have hasFix := hasFix_of_coords accepted
    obtain ⟨latRead, lonRead⟩ := coordinates_of_accepted accepted
    have latExact := (nmeaCoordToE7_eq_exact _
        ((closedFields line).getD 3 [])).mpr fun lat isLat =>
      (inRange hasFix lat isLat).1
    rw [latRead] at latExact
    obtain ⟨lat, isLat, rfl⟩ := written_of_exactE7 latExact.symm
    have lonExact := (nmeaCoordToE7_eq_exact _
        ((closedFields line).getD 5 [])).mpr fun lon isLon =>
      Nat.le_trans ((inRange hasFix lat isLat).2 lon isLon).2
        (by decide)
    rw [lonRead] at lonExact
    obtain ⟨lon, isLon, rfl⟩ := written_of_exactE7 lonExact.symm
    obtain ⟨latBound, lonBound⟩ := (inRange hasFix lat isLat).2 lon isLon
    rw [abs_signed, abs_signed]
    exact ⟨(roundedE7_le 90).mpr latBound, (roundedE7_le 180).mpr lonBound⟩
  near := fun hasFix latWhole latFrac lonWhole lonFrac isLat isLon latBound
      lonBound => by
    obtain ⟨lat, latWritten, latDegrees⟩ :=
      writtenE5_of_isCoordinate isLat (by decide)
    obtain ⟨lon, lonWritten, lonDegrees⟩ :=
      writtenE5_of_isCoordinate isLon (by decide)
    have latSmall : lat ≤ 540000000 := by
      have small : (lat : ℚ) ≤ 540000000 := by linarith
      exact_mod_cast small
    have lonSmall : lon ≤ 1080000000 := by
      have small : (lon : ℚ) ≤ 1080000000 := by linarith
      exact_mod_cast small
    obtain ⟨satCount, accepted⟩ :=
      accepted_of_written hasFix latWritten lonWritten (by omega) (by omega)
    exact ⟨_, _, satCount, accepted, signed_near latDegrees _,
      signed_near lonDegrees _⟩

/-- A sentence with the property is in range. -/
theorem inRange_of_positionSound
    (sound : PositionSound line) :
    PositionInRange line := by
  intro hasFix lat isLat
  have latFits :=
    (nmeaCoordToE7_eq_exact _ _).mp (sound.latitude hasFix) lat isLat
  refine ⟨latFits, fun lon isLon => ?_⟩
  have lonFits :=
    (nmeaCoordToE7_eq_exact _ _).mp
      (sound.longitude hasFix (by rw [isLat]; rfl)) lon isLon
  obtain ⟨satCount, accepted⟩ :=
    accepted_of_written hasFix isLat isLon latFits lonFits
  have onGlobe := sound.onGlobe _ _ satCount accepted
  rw [abs_signed, abs_signed] at onGlobe
  exact ⟨(roundedE7_le 90).mp onGlobe.1, (roundedE7_le 180).mp onGlobe.2⟩

/--
For every line: no arithmetic on its coordinates overflows or wraps, an accepted
position is on the globe and coordinates of the format are within a unit of what
is written, exactly where the coordinates it writes are in range.
-/
theorem positionSound_iff
    (line : List UInt8) :
    PositionSound line ↔ PositionInRange line :=
  ⟨inRange_of_positionSound, positionSound_of_inRange⟩

/-- `$GPGGA,1,30000.0,N,01131.0,E,1,8,`: a latitude of 300 degrees. -/
def northOf300 : List UInt8 :=
  [36, 71, 80, 71, 71, 65, 44, 49, 44, 51, 48, 48, 48, 48, 46, 48, 44, 78,
    44, 48, 49, 49, 51, 49, 46, 48, 44, 69, 44, 49, 44, 56, 44]

/-- It is accepted, and wraps to a latitude far south of the pole. -/
theorem northOf300_wraps :
    parseGga northOf300 =
        .value ⟨some (-1294967296, 115166667), 8⟩ ∧
      ¬ PositionSound northOf300 := by
  have accepted :
      parseGga northOf300 =
        .value ⟨some (-1294967296, 115166667), 8⟩ := by
    decide +kernel
  refine ⟨accepted, fun sound => ?_⟩
  have onGlobe := (sound.onGlobe _ _ _ accepted).1
  exact absurd onGlobe (by decide)

end Sentences

end MeshCadet
