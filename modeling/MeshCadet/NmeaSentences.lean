import MeshCadet.CivilTime
import MeshCadet.DecimalDigits

namespace MeshCadet

/-!
# Date and time of an RMC sentence

The fields of a sentence are what its commas and its star close.  A sentence with
a known status, a time of six digits or more and a date of six digits sets the
clock to the timestamp of the fields it gives.  The fields are checked one by one,
so that a day past the end of its month, or the second 60, is accepted.
-/

open Outcome DecimalDigits Gregorian

/-- A comma or a star. -/
def closesField
    (b : UInt8) :
    Bool :=
  b == 44 || b == 42

/-- The fields from one on, up to the last that is needed. -/
def fieldsFrom
    (lastField : Nat)
    (fieldIdx : Nat)
    (field : List UInt8) :
    List UInt8 → List (List UInt8)
  | [] => []
  | b :: rest =>
      if closesField b then
        field ::
          if lastField < fieldIdx + 1 then []
          else fieldsFrom lastField (fieldIdx + 1) [] rest
      else fieldsFrom lastField fieldIdx (field ++ [b]) rest

/-- A field of a sentence; it is empty where nothing closes it. -/
def sentenceField
    (lastField : Nat)
    (line : List UInt8)
    (fieldIdx : Nat) :
    List UInt8 :=
  (fieldsFrom lastField 0 [] line).getD fieldIdx []

/-- Value of decimal digits; none where they do not fit a `u32`. -/
def parseU32Bytes
    (s : List UInt8) :
    Option Nat :=
  DecimalDigits.read 4294967296 s

/-- `$GPRMC,` -/
def gpRmc : List UInt8 :=
  [36, 71, 80, 82, 77, 67, 44]

/-- `$GNRMC,` -/
def gnRmc : List UInt8 :=
  [36, 71, 78, 82, 77, 67, 44]

/-- The first year a reported date is taken from. -/
def minPlausibleRmcYear : Nat :=
  2024

/-- Date and time of a sentence; `verified` where there is a fix. -/
structure NmeaDateTime where
  year : Nat
  month : Nat
  day : Nat
  hour : Nat
  minute : Nat
  second : Nat
  verified : Bool
deriving Repr, DecidableEq

/-- The date and the time of day. -/
def NmeaDateTime.civil
    (dateTime : NmeaDateTime) :
    Civil :=
  { year := dateTime.year
    month := dateTime.month
    day := dateTime.day
    hour := dateTime.hour
    minute := dateTime.minute
    second := dateTime.second }

/-- The status: with a fix, without one, or neither. -/
def statusVerified
    (status : List UInt8) :
    Option Bool :=
  match status.head? with
  | some 65 => some true
  | some 86 => some false
  | _ => none

/-- Two digits of a field, as a byte. -/
def digitsAt
    (field : List UInt8)
    (start stop : Nat) :
    Outcome Unit Nat := do
  let digits ← slice field start stop
  let read ← ofOption (parseU32Bytes digits)
  pure (FixedWidth.toUnsigned 8 read)

/-- Date and time of an RMC sentence. -/
def parseRmcDatetime
    (line : List UInt8) :
    Outcome Unit NmeaDateTime :=
  if ¬ gpRmc.isPrefixOf line ∧ ¬ gnRmc.isPrefixOf line then
    .failed ()
  else do
    let timeStr := sentenceField 9 line 1
    let status := sentenceField 9 line 2
    let dateStr := sentenceField 9 line 9
    let verified ← ofOption (statusVerified status)
    if timeStr.length < 6 then
      .failed ()
    else do
      let hour ← digitsAt timeStr 0 2
      let minute ← digitsAt timeStr 2 4
      let second ← digitsAt timeStr 4 6
      if dateStr.length ≠ 6 then
        .failed ()
      else do
        let day ← digitsAt dateStr 0 2
        let month ← digitsAt dateStr 2 4
        let yearDigits ← slice dateStr 4 6
        let yy ← ofOption (parseU32Bytes yearDigits)
        let year ←
          FixedWidth.checkedUnsigned 16
            (2000 + (FixedWidth.toUnsigned 16 yy : Int))
        if 23 < hour ∨ 59 < minute ∨ 60 < second ∨ day = 0 ∨ 31 < day ∨
            month = 0 ∨ 12 < month then
          .failed ()
        else if year < minPlausibleRmcYear then
          .failed ()
        else
          pure
            { year := year
              month := month
              day := day
              hour := hour
              minute := minute
              second := second
              verified := verified }

section Fields

/-- The fields are what the commas and the star close. -/
theorem fieldsFrom_eq
    {lastField fieldIdx : Nat}
    (needed : fieldIdx ≤ lastField)
    (field line : List UInt8) :
    fieldsFrom lastField fieldIdx field line =
      ((line.splitOnPPrepend closesField field.reverse).dropLast).take
        (lastField + 1 - fieldIdx) := by
  induction line generalizing fieldIdx field with
  | nil =>
      simp [fieldsFrom]
  | cons b rest inductionHypothesis =>
      rw [fieldsFrom, List.splitOnPPrepend_cons_eq_if]
      split
      case isFalse kept =>
        rw [inductionHypothesis needed, List.reverse_append]
        rfl
      case isTrue closed =>
        rw [List.reverse_reverse, List.dropLast_cons_of_ne_nil
          (List.splitOnP_ne_nil _ _)]
        have more : lastField + 1 - fieldIdx =
            lastField - fieldIdx + 1 := by omega
        rw [more, List.take_succ_cons]
        congr 1
        split
        case isTrue last =>
          have none : lastField - fieldIdx = 0 := by omega
          rw [none, List.take_zero]
        case isFalse others =>
          have fewer :
              lastField + 1 - (fieldIdx + 1) = lastField - fieldIdx := by
            omega
          rw [inductionHypothesis (by omega), fewer]
          rfl

/-- The fields of a sentence that are closed. -/
def closedFields
    (line : List UInt8) :
    List (List UInt8) :=
  (line.splitOnP closesField).dropLast

/-- A field that is needed is that one of the closed fields. -/
theorem sentenceField_eq
    {lastField fieldIdx : Nat}
    (needed : fieldIdx ≤ lastField)
    (line : List UInt8) :
    sentenceField lastField line fieldIdx =
      (closedFields line).getD fieldIdx [] := by
  rw [sentenceField, fieldsFrom_eq (Nat.zero_le _), closedFields,
    List.getD_eq_getElem?_getD, List.getD_eq_getElem?_getD,
    List.getElem?_take_of_lt (by omega)]
  rfl

/-- Two bytes of a field that are read are the digits of their value. -/
theorem digits_of_slice
    {field digits : List UInt8}
    {start n : Nat}
    (isSlice :
      (slice field start (start + 2) : Outcome Unit (List UInt8)) =
        .value digits)
    (isRead : parseU32Bytes digits = some n) :
    n < 100 ∧ (field.drop start).take 2 = twoDigits n := by
  rw [slice] at isSlice
  split at isSlice
  case isFalse outside =>
    cases isSlice
  case isTrue inside =>
    rw [Nat.add_sub_cancel_left] at isSlice
    cases isSlice
    have length : ((field.drop start).take 2).length = 2 := by
      rw [List.length_take, List.length_drop]
      omega
    exact twoDigits_of_read (by decide) length isRead

/-- So are two digits that are read as a byte. -/
theorem digits_of_digitsAt
    {field : List UInt8}
    {start n : Nat}
    (isRead : digitsAt field start (start + 2) = .value n) :
    n < 100 ∧ (field.drop start).take 2 = twoDigits n := by
  obtain ⟨digits, isSlice, later⟩ := bind_eq_value_iff.mp isRead
  obtain ⟨read, isValue, kept⟩ := bind_eq_value_iff.mp later
  have parsed := ofOption_eq_value_iff.mp isValue
  obtain ⟨small, isDigits⟩ := digits_of_slice isSlice parsed
  cases kept
  have same : FixedWidth.toUnsigned 8 read = read := by
    rw [FixedWidth.toUnsigned]
    have size : 2 ^ 8 = 256 := rfl
    rw [size]
    omega
  rw [same]
  exact ⟨small, isDigits⟩

/-- Six bytes are three pairs. -/
theorem take_six
    (field : List UInt8) :
    field.take 6 =
      (field.drop 0).take 2 ++ (field.drop 2).take 2 ++
        (field.drop 4).take 2 := by
  have four : field.take 4 = field.take 2 ++ (field.drop 2).take 2 :=
    List.take_add (i := 2) (j := 2)
  have six : field.take 6 = field.take 4 ++ (field.drop 4).take 2 :=
    List.take_add (i := 4) (j := 2)
  rw [six, four, List.drop_zero]

end Fields

/-- What is known of a sentence that is accepted, and of what it gives. -/
structure WrittenAs
    (line : List UInt8)
    (dateTime : NmeaDateTime) :
    Prop where
  time :
    ((closedFields line).getD 1 []).take 6 =
      twoDigits dateTime.hour ++ twoDigits dateTime.minute ++
        twoDigits dateTime.second
  date :
    (closedFields line).getD 9 [] =
      twoDigits dateTime.day ++ twoDigits dateTime.month ++
        twoDigits (dateTime.year - 2000)
  year : 2024 ≤ dateTime.year ∧ dateTime.year < 2100
  month : 1 ≤ dateTime.month ∧ dateTime.month ≤ 12
  day : 1 ≤ dateTime.day ∧ dateTime.day ≤ 31
  hour : dateTime.hour < 24
  minute : dateTime.minute < 60
  second : dateTime.second ≤ 60

/-- An accepted sentence gives the date and the time written in it. -/
theorem writtenAs_of_parse
    {line : List UInt8}
    {dateTime : NmeaDateTime}
    (accepted : parseRmcDatetime line = .value dateTime) :
    WrittenAs line dateTime := by
  rw [parseRmcDatetime] at accepted
  obtain ⟨-, accepted⟩ := unless_eq_value_iff.mp accepted
  obtain ⟨verified, -, accepted⟩ := bind_eq_value_iff.mp accepted
  obtain ⟨timeLength, accepted⟩ := unless_eq_value_iff.mp accepted
  obtain ⟨hour, isHour, accepted⟩ := bind_eq_value_iff.mp accepted
  obtain ⟨minute, isMinute, accepted⟩ := bind_eq_value_iff.mp accepted
  obtain ⟨second, isSecond, accepted⟩ := bind_eq_value_iff.mp accepted
  obtain ⟨dateLength, accepted⟩ := unless_eq_value_iff.mp accepted
  obtain ⟨day, isDay, accepted⟩ := bind_eq_value_iff.mp accepted
  obtain ⟨month, isMonth, accepted⟩ := bind_eq_value_iff.mp accepted
  obtain ⟨yearDigits, isSlice, accepted⟩ := bind_eq_value_iff.mp accepted
  obtain ⟨yy, isYear, accepted⟩ := bind_eq_value_iff.mp accepted
  obtain ⟨year, isSum, accepted⟩ := bind_eq_value_iff.mp accepted
  obtain ⟨inRange, accepted⟩ := unless_eq_value_iff.mp accepted
  obtain ⟨recent, accepted⟩ := unless_eq_value_iff.mp accepted
  cases accepted
  obtain ⟨-, hourDigits⟩ := @digits_of_digitsAt _ 0 hour isHour
  obtain ⟨-, minuteDigits⟩ := @digits_of_digitsAt _ 2 minute isMinute
  obtain ⟨-, secondDigits⟩ := @digits_of_digitsAt _ 4 second isSecond
  obtain ⟨-, dayDigits⟩ := @digits_of_digitsAt _ 0 day isDay
  obtain ⟨-, monthDigits⟩ := @digits_of_digitsAt _ 2 month isMonth
  obtain ⟨small, yearDigits⟩ :=
    @digits_of_slice _ _ 4 yy isSlice (ofOption_eq_value_iff.mp isYear)
  have isCentury : year = 2000 + yy := by
    have size : 2 ^ 16 = 65536 := rfl
    have kept : FixedWidth.toUnsigned 16 yy = yy := by
      rw [FixedWidth.toUnsigned, size]
      omega
    rw [kept, FixedWidth.checkedUnsigned, if_pos (by rw [size]; omega)]
      at isSum
    cases isSum
    omega
  rw [minPlausibleRmcYear] at recent
  rw [sentenceField_eq (by omega)] at *
  exact
    { time := by
        rw [take_six, hourDigits, minuteDigits, secondDigits]
      date := by
        have yearPart : yy = year - 2000 := by omega
        have whole := take_six ((closedFields line).getD 9 [])
        rw [dayDigits, monthDigits, yearDigits,
          List.take_of_length_le (by omega)] at whole
        rw [whole, yearPart]
      year := by
        simp only
        omega
      month := by
        simp only
        omega
      day := by
        simp only
        omega
      hour := by
        simp only
        omega
      minute := by
        simp only
        omega
      second := by
        simp only
        omega }

section Instants

variable {line : List UInt8} {dateTime : NmeaDateTime}

/-- The seconds of a date that is written are in range. -/
theorem seconds_of_writtenAs
    (written : WrittenAs line dateTime) :
    0 ≤ dateTime.civil.unixSeconds ∧
      dateTime.civil.unixSeconds < 9223372036854775808 ∧
      timestampOf dateTime.civil = .value dateTime.civil.unixSeconds := by
  obtain ⟨-, -, years, months, days, hour, minute, second⟩ := written
  have march :
      2023 ≤ dateTime.civil.marchYear ∧
        dateTime.civil.marchYear ≤ 2099 := by
    by_cases early : dateTime.civil.month ≤ 2
    · rw [Civil.marchYear, if_pos early]
      simp only [NmeaDateTime.civil]
      omega
    · rw [Civil.marchYear, if_neg early]
      simp only [NmeaDateTime.civil]
      omega
  have since :
      19417 ≤ dateTime.civil.dayNumber ∧
        dateTime.civil.dayNumber ≤ 50000 := by
    have inYear : dateTime.civil.monthStart ≤ 337 := by
      rw [Civil.monthStart]
      omega
    rw [Civil.dayNumber, Civil.dayOfYear, yearStart]
    simp only [NmeaDateTime.civil] at *
    omega
  have ofDay : dateTime.civil.secondOfDay ≤ 86400 := by
    rw [Civil.secondOfDay]
    simp only [NmeaDateTime.civil]
    omega
  have isSum :
      dateTime.civil.unixSeconds =
        dateTime.civil.dayNumber * 86400 + dateTime.civil.secondOfDay :=
    rfl
  refine ⟨by omega, by omega,
    timestampOf_eq months days hour minute second ⟨by omega, by omega⟩ ?_
      ?_⟩
  · rw [FixedWidth.fits_64]
    omega
  · rw [FixedWidth.fits_64]
    omega

/--
The date and the time of an accepted sentence are the ones written in it.  The
clock set to them shows them exactly where the day is one of the month and the
second is not 60; otherwise it shows the instant as many days and seconds past
the end of the month and of the minute.
-/
theorem rmc_instant
    (accepted : parseRmcDatetime line = .value dateTime) :
    WrittenAs line dateTime ∧
      ((timestampOf dateTime.civil >>= civilFromUnix) =
          .value dateTime.civil ↔
        dateTime.day ≤ daysInMonth dateTime.year dateTime.month ∧
          dateTime.second ≤ 59) ∧
      ∃ shown,
        (timestampOf dateTime.civil >>= civilFromUnix) = .value shown ∧
          shown.ValidDate ∧
          shown.ValidTime ∧
          shown.unixSeconds =
            dateTime.civil.clipped.unixSeconds +
                ((dateTime.day : Int) - dateTime.civil.clipped.day) *
                  86400 +
              ((dateTime.second : Int) -
                dateTime.civil.clipped.second) := by
  have written := writtenAs_of_parse accepted
  obtain ⟨notNegative, below, isTimestamp⟩ := seconds_of_writtenAs written
  have inRange := (inRange_iff notNegative).mpr below
  obtain ⟨shown, validDate, validTime, same⟩ :=
    exists_civil dateTime.civil.unixSeconds
  rw [← same] at inRange
  have reads := civilFromUnix_eq validDate validTime inRange
  rw [same] at reads
  rw [isTimestamp, value_bind, reads]
  refine ⟨written, ?_, shown, rfl, validDate, validTime, ?_⟩
  · constructor
    · intro sameFields
      cases sameFields
      exact ⟨validDate.day.2, Nat.le_of_lt_succ validTime.second⟩
    · rintro ⟨inMonth, inMinute⟩
      have realDate : dateTime.civil.ValidDate :=
        ⟨written.month, written.day.1, inMonth⟩
      have realTime : dateTime.civil.ValidTime :=
        ⟨written.hour, written.minute, Nat.lt_succ_of_le inMinute⟩
      rw [same] at inRange
      rw [← reads]
      exact civilFromUnix_eq realDate realTime inRange
  · rw [same]
    exact unixSeconds_clipped dateTime.civil

/-- `$GPRMC,120000,A,,,,,,,310224*`: noon of 31 February 2024. -/
def february31 : List UInt8 :=
  [36, 71, 80, 82, 77, 67, 44, 49, 50, 48, 48, 48, 48, 44, 65, 44, 44, 44,
    44, 44, 44, 44, 51, 49, 48, 50, 50, 52, 42]

/-- It is accepted. -/
theorem february31_accepted :
    parseRmcDatetime february31 =
      .value ⟨2024, 2, 31, 12, 0, 0, true⟩ := by
  decide

/-- Noon of 31 February shows as noon of 2 March. -/
theorem february31_shows_march :
    parseRmcDatetime february31 =
        .value ⟨2024, 2, 31, 12, 0, 0, true⟩ ∧
      (timestampOf ⟨2024, 2, 31, 12, 0, 0⟩ >>= civilFromUnix) =
        .value ⟨2024, 3, 2, 12, 0, 0⟩ ∧
      (timestampOf ⟨2024, 2, 31, 12, 0, 0⟩ >>= civilFromUnix) ≠
        .value ⟨2024, 2, 31, 12, 0, 0⟩ :=
  ⟨february31_accepted, by decide, by decide⟩

/-- The theorem at that sentence. -/
theorem rmc_instant_february31 :
    WrittenAs february31 ⟨2024, 2, 31, 12, 0, 0, true⟩ :=
  (rmc_instant february31_accepted).1

end Instants

end MeshCadet
