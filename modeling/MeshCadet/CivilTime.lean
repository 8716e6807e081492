import MeshCadet.FixedWidth
import MeshCadet.Gregorian

/-!
# Civil time and Unix timestamps

The receiver's date and time of day set the device clock through
`unix_timestamp`, and `civil_from_unix` reads the clock back for the display.
Both count days in years that begin in March, with every operation on integers
of 64 bits.
-/

namespace MeshCadet

open Outcome FixedWidth Gregorian

/-- Unix timestamp of a date and a time of day. -/
def unixTimestamp
    (year : Int)
    (month day hour minute second : Nat) :
    Outcome Empty Int := do
  let y ← (if month ≤ 2 then checked 64 (year - 1) else pure year)
  let numerator ← (if 0 ≤ y then pure y else checked 64 (y - 399))
  let era := numerator.tdiv 400
  let eraYears ← checked 64 (era * 400)
  let yoe ← checked 64 (y - eraYears)
  let shifted ← checked 64 (month + 9)
  let mp := shifted.tmod 12
  let scaled ← checked 64 (153 * mp)
  let rounded ← checked 64 (scaled + 2)
  let nextDoy ← checked 64 (rounded.tdiv 5 + day)
  let doy ← checked 64 (nextDoy - 1)
  let commonDays ← checked 64 (yoe * 365)
  let leapDays ← checked 64 (commonDays + yoe.tdiv 4)
  let yearDays ← checked 64 (leapDays - yoe.tdiv 100)
  let doe ← checked 64 (yearDays + doy)
  let eraDays ← checked 64 (era * 146097)
  let shiftedDays ← checked 64 (eraDays + doe)
  let days ← checked 64 (shiftedDays - 719468)
  let daySeconds ← checked 64 (days * 86400)
  let hourSeconds ← checked 64 (hour * 3600)
  let fromHour ← checked 64 (daySeconds + hourSeconds)
  let minuteSeconds ← checked 64 (minute * 60)
  let fromMinute ← checked 64 (fromHour + minuteSeconds)
  checked 64 (fromMinute + second)

/-- Date and time of day of a Unix timestamp. -/
def civilFromUnix
    (unixSecs : Int) :
    Outcome Empty Civil := do
  let days := unixSecs / 86400
  let secsOfDay := unixSecs % 86400
  let hour := toUnsigned 32 (secsOfDay.tdiv 3600)
  let minute := toUnsigned 32 ((secsOfDay.tmod 3600).tdiv 60)
  let second := toUnsigned 32 (secsOfDay.tmod 60)
  let z ← checked 64 (days + 719468)
  let numerator ← (if 0 ≤ z then pure z else checked 64 (z - 146096))
  let era := numerator.tdiv 146097
  let eraDays ← checked 64 (era * 146097)
  let ofEra ← checked 64 (z - eraDays)
  let doe := toUnsigned 64 ofEra
  let fewer ← checkedUnsigned 64 (doe - (doe / 1460 : Nat))
  let more ← checkedUnsigned 64 (fewer + (doe / 36524 : Nat))
  let evened ← checkedUnsigned 64 (more - (doe / 146096 : Nat))
  let yoe := evened / 365
  let eraYears ← checked 64 (era * 400)
  let y ← checked 64 (toSigned 64 yoe + eraYears)
  let commonDays ← checkedUnsigned 64 (365 * yoe)
  let leapDays ← checkedUnsigned 64 (commonDays + (yoe / 4 : Nat))
  let yearDays ← checkedUnsigned 64 (leapDays - (yoe / 100 : Nat))
  let doy ← checkedUnsigned 64 (doe - yearDays)
  let scaledDay ← checkedUnsigned 64 (5 * doy)
  let roundedDay ← checkedUnsigned 64 (scaledDay + 2)
  let mp := roundedDay / 153
  let scaledMonth ← checkedUnsigned 64 (153 * mp)
  let roundedMonth ← checkedUnsigned 64 (scaledMonth + 2)
  let before ← checkedUnsigned 64 (doy - (roundedMonth / 5 : Nat))
  let dayOfMonth ← checkedUnsigned 64 (before + 1)
  let d := toUnsigned 32 dayOfMonth
  let monthOfYear ←
    (if mp < 10 then checkedUnsigned 64 (mp + 3)
    else checkedUnsigned 64 (mp - 9))
  let m := toUnsigned 32 monthOfYear
  let year ← (if m ≤ 2 then checked 64 (y + 1) else pure y)
  pure
    { year := year
      month := m
      day := d
      hour := hour
      minute := minute
      second := second }

/-- Unix timestamp of the fields of a date and a time of day. -/
def timestampOf
    (civil : Civil) :
    Outcome Empty Int :=
  unixTimestamp civil.year civil.month civil.day civil.hour civil.minute
    civil.second

/-- The seconds an `i64` has, and those of their day's start. -/
def InRange
    (seconds : Int) :
    Prop :=
  Fits 64 seconds ∧ Fits 64 (seconds / 86400 * 86400)

section Steps

variable {civil : Civil}

/-- Seconds from 1970 on are in range up to the end of the type. -/
theorem inRange_iff
    {seconds : Int}
    (notNegative : 0 ≤ seconds) :
    InRange seconds ↔ seconds < 9223372036854775808 := by
  rw [InRange, fits_64, fits_64]
  omega

/-- The seconds of a date split into its day and its time. -/
theorem unixSeconds_div
    (valid : civil.ValidTime) :
    civil.unixSeconds / 86400 = civil.dayNumber ∧
      civil.unixSeconds % 86400 = civil.secondOfDay := by
  have below := Civil.secondOfDay_lt valid
  rw [Civil.unixSeconds]
  omega

/-- The years in range are far from the ends of the type. -/
theorem marchYear_bounds
    (validDate : civil.ValidDate)
    (validTime : civil.ValidTime)
    (inRange : InRange civil.unixSeconds) :
    -300000000000 < civil.marchYear ∧ civil.marchYear < 300000000000 := by
  obtain ⟨-, dayStart⟩ := inRange
  have day := dayOfYear_bounds validDate
  rw [(unixSeconds_div validTime).1, Civil.dayNumber, fits_64] at dayStart
  rw [yearStart, yearStart] at day
  rw [yearStart] at dayStart
  omega

/-- The year of the date, as the code starts from it. -/
theorem yearStep
    (bounds :
      -300000000000 < civil.marchYear ∧
        civil.marchYear < 300000000000) :
    (if civil.month ≤ 2 then checked 64 (civil.year - 1)
      else pure civil.year : Outcome Empty Int) =
      .value civil.marchYear := by
  rw [Civil.marchYear] at bounds ⊢
  split
  · rename_i early
    rw [if_pos early] at bounds
    exact checked_eq (by rw [fits_64]; omega)
  · rfl

/-- The timestamp is the exact count of seconds where that is in range. -/
theorem timestampOf_eq
    (months : 1 ≤ civil.month ∧ civil.month ≤ 12)
    (days : 1 ≤ civil.day ∧ civil.day ≤ 31)
    (hours : civil.hour < 24)
    (minutes : civil.minute < 60)
    (seconds : civil.second ≤ 60)
    (years :
      -300000000000 < civil.marchYear ∧
        civil.marchYear < 300000000000)
    (dayStart : Fits 64 (civil.dayNumber * 86400))
    (fits : Fits 64 civil.unixSeconds) :
    timestampOf civil = .value civil.unixSeconds := by
  rw [fits_64] at dayStart fits
  have floored :
      (if 0 ≤ civil.marchYear then civil.marchYear
        else civil.marchYear - 399).tdiv 400 =
      civil.marchYear / 400 := @tdiv_floor 400 (by decide) _
  have numerator :
      (if 0 ≤ civil.marchYear then pure civil.marchYear
        else checked 64 (civil.marchYear - 399) : Outcome Empty Int) =
      .value
        (if 0 ≤ civil.marchYear then civil.marchYear
          else civil.marchYear - 399) := by
    split
    · rfl
    · exact checked_eq (by rw [fits_64]; omega)
  rw [Civil.unixSeconds, Civil.dayNumber, Civil.dayOfYear, Civil.monthStart,
    Civil.secondOfDay, yearStart] at *
  rw [timestampOf, unixTimestamp, yearStep years, value_bind, numerator,
    value_bind]
  dsimp only
  rw [floored]
  generalize civil.marchYear = y at *
  simp (disch := omega) only [Int.tdiv_eq_ediv_of_nonneg,
    Int.tmod_eq_emod_of_nonneg, checked_bind]
  -- The years of the era add up to the days before the year.
  have sameDays :
      y / 400 * 146097 +
            ((y - y / 400 * 400) * 365 + (y - y / 400 * 400) / 4 -
                (y - y / 400 * 400) / 100 +
              ((153 * (((civil.month : Int) + 9) % 12) + 2) / 5 +
                civil.day - 1)) -
          719468 =
        365 * y + y / 4 - y / 100 + y / 400 +
            (((153 * ((civil.month + 9) % 12) + 2) / 5 : Nat) +
              civil.day - 1) -
          719468 := by
    have fourths : (y - y / 400 * 400) / 4 = y / 4 - 100 * (y / 400) := by
      omega
    have centuries :
        (y - y / 400 * 400) / 100 = y / 100 - 4 * (y / 400) := by
      omega
    rw [fourths, centuries]
    push_cast
    omega
  rw [sameDays]
  simp (disch := omega) only [checked_bind]
  rw [checked_64 (by omega) (by omega)]
  congr 1
  omega

/-- A date in range has the timestamp of its seconds. -/
theorem unixTimestamp_eq
    (validDate : civil.ValidDate)
    (validTime : civil.ValidTime)
    (inRange : InRange civil.unixSeconds) :
    timestampOf civil = .value civil.unixSeconds := by
  have years := marchYear_bounds validDate validTime inRange
  have isDay := (unixSeconds_div validTime).1
  have lastDay : civil.day ≤ 31 := by
    have inMonth := validDate.day.2
    rw [daysInMonth] at inMonth
    split at inMonth <;> split at inMonth <;> omega
  obtain ⟨fits, dayStart⟩ := inRange
  rw [isDay] at dayStart
  exact timestampOf_eq validDate.month ⟨validDate.day.1, lastDay⟩
    validTime.hour validTime.minute (Nat.le_of_lt validTime.second) years
    dayStart fits

/-- The time of day, as the code reads it off the seconds of the day. -/
theorem timeSteps
    (valid : civil.ValidTime) :
    toUnsigned 32 ((civil.secondOfDay : Int).tdiv 3600) = civil.hour ∧
      toUnsigned 32 (((civil.secondOfDay : Int).tmod 3600).tdiv 60) =
        civil.minute ∧
      toUnsigned 32 ((civil.secondOfDay : Int).tmod 60) =
        civil.second := by
  obtain ⟨hours, minutes, seconds⟩ := valid
  have kept
      {n : Int}
      {m : Nat}
      (same : n = m)
      (below : m < 60) :
      toUnsigned 32 n = m := by
    rw [same]
    exact toUnsigned_32 (by omega)
  simp (disch := omega) only [Int.tdiv_eq_ediv_of_nonneg,
    Int.tmod_eq_emod_of_nonneg]
  rw [Civil.secondOfDay]
  refine ⟨kept ?_ (by omega), kept ?_ minutes, kept ?_ seconds⟩ <;> omega

/-- The years of an era before a day of it, times 365, as computed. -/
theorem evenedSteps
    {α : Type}
    {doe : Nat}
    {next : Nat → Outcome Empty α}
    (small : doe < 146097) :
    (do
      let fewer ← checkedUnsigned 64 (doe - (doe / 1460 : Nat))
      let more ← checkedUnsigned 64 (fewer + (doe / 36524 : Nat))
      let evened ← checkedUnsigned 64 (more - (doe / 146096 : Nat))
      next evened) =
      next (doe - doe / 1460 + doe / 36524 - doe / 146096) := by
  have fewer :
      (doe : Int) - (doe / 1460 : Nat) = (doe - doe / 1460 : Nat) := by
    omega
  have more :
      ((doe - doe / 1460 : Nat) : Int) + (doe / 36524 : Nat) =
        (doe - doe / 1460 + doe / 36524 : Nat) := by
    omega
  have evened :
      ((doe - doe / 1460 + doe / 36524 : Nat) : Int) -
          (doe / 146096 : Nat) =
        (doe - doe / 1460 + doe / 36524 - doe / 146096 : Nat) := by
    omega
  rw [checkedUnsigned_bind fewer (by omega),
    checkedUnsigned_bind more (by omega),
    checkedUnsigned_bind evened (by omega)]

/-- The day of the year, as computed from the day of the era. -/
theorem doySteps
    {α : Type}
    {doe yoe doy : Nat}
    {next : Nat → Outcome Empty α}
    (small : yoe < 400)
    (isDoe : doe = 365 * yoe + yoe / 4 - yoe / 100 + doy)
    (inYear : doy < 366) :
    (do
      let commonDays ← checkedUnsigned 64 (365 * yoe)
      let leapDays ← checkedUnsigned 64 (commonDays + (yoe / 4 : Nat))
      let yearDays ← checkedUnsigned 64 (leapDays - (yoe / 100 : Nat))
      let doy ← checkedUnsigned 64 (doe - yearDays)
      next doy) =
      next doy := by
  have commonDays : 365 * (yoe : Int) = (365 * yoe : Nat) := by
    omega
  have leapDays :
      ((365 * yoe : Nat) : Int) + (yoe / 4 : Nat) =
        (365 * yoe + yoe / 4 : Nat) := by
    omega
  have yearDays :
      ((365 * yoe + yoe / 4 : Nat) : Int) - (yoe / 100 : Nat) =
        (365 * yoe + yoe / 4 - yoe / 100 : Nat) := by
    omega
  have rest :
      (doe : Int) - (365 * yoe + yoe / 4 - yoe / 100 : Nat) = doy := by
    omega
  rw [checkedUnsigned_bind commonDays (by omega),
    checkedUnsigned_bind leapDays (by omega),
    checkedUnsigned_bind yearDays (by omega),
    checkedUnsigned_bind rest (by omega)]

/-- The day and the month, as computed from the day of the year. -/
theorem monthSteps
    {α : Type}
    {doy place day month : Nat}
    {next : Nat → Nat → Outcome Empty α}
    (inYear : doy < 366)
    (isPlace : (5 * doy + 2) / 153 = place)
    (isDoy : doy + 1 = (153 * place + 2) / 5 + day)
    (isMonth : place = (month + 9) % 12)
    (months : 1 ≤ month ∧ month ≤ 12)
    (firstDay : 1 ≤ day) :
    (do
      let scaledDay ← checkedUnsigned 64 (5 * doy)
      let roundedDay ← checkedUnsigned 64 (scaledDay + 2)
      let scaledMonth ← checkedUnsigned 64 (153 * (roundedDay / 153 : Nat))
      let roundedMonth ← checkedUnsigned 64 (scaledMonth + 2)
      let before ← checkedUnsigned 64 (doy - (roundedMonth / 5 : Nat))
      let dayOfMonth ← checkedUnsigned 64 (before + 1)
      let monthOfYear ←
        (if roundedDay / 153 < 10 then
          checkedUnsigned 64 ((roundedDay / 153 : Nat) + 3)
        else checkedUnsigned 64 ((roundedDay / 153 : Nat) - 9))
      next dayOfMonth monthOfYear) =
      next day month := by
  have scaledDay : 5 * (doy : Int) = (5 * doy : Nat) := by
    omega
  have roundedDay : ((5 * doy : Nat) : Int) + 2 = (5 * doy + 2 : Nat) := by
    omega
  have scaledMonth : 153 * (place : Int) = (153 * place : Nat) := by
    omega
  have roundedMonth :
      ((153 * place : Nat) : Int) + 2 = (153 * place + 2 : Nat) := by
    omega
  have before :
      (doy : Int) - ((153 * place + 2) / 5 : Nat) = (day - 1 : Nat) := by
    omega
  have dayOfMonth : ((day - 1 : Nat) : Int) + 1 = day := by
    omega
  have monthOfYear :
      (if place < 10 then checkedUnsigned 64 ((place : Int) + 3)
        else checkedUnsigned 64 ((place : Int) - 9) :
          Outcome Empty Nat) =
        .value month := by
    split
    · exact checkedUnsigned_64 (by omega) (by omega)
    · exact checkedUnsigned_64 (by omega) (by omega)
  rw [checkedUnsigned_bind scaledDay (by omega),
    checkedUnsigned_bind roundedDay (by omega), isPlace,
    checkedUnsigned_bind scaledMonth (by omega),
    checkedUnsigned_bind roundedMonth (by omega),
    checkedUnsigned_bind before (by omega),
    checkedUnsigned_bind dayOfMonth (by omega), monthOfYear, value_bind]

/-- The year of the date, as the code ends with it. -/
theorem yearOfMarch
    (bounds :
      -300000000000 < civil.marchYear ∧
        civil.marchYear < 300000000000) :
    (if civil.month ≤ 2 then checked 64 (civil.marchYear + 1)
      else pure civil.marchYear : Outcome Empty Int) =
    .value civil.year := by
  rw [Civil.marchYear] at bounds ⊢
  split
  · rename_i early
    rw [if_pos early] at bounds
    rw [checked_64 (by omega) (by omega)]
    congr 1
    omega
  · rfl

/-- The era of a day, as the code computes it. -/
theorem eraStep
    {z : Int}
    (low : -9000000000000000000 ≤ z) :
    (if 0 ≤ z then pure z else checked 64 (z - 146096) :
        Outcome Empty Int) =
      .value (if 0 ≤ z then z else z - 146096) ∧
      (if 0 ≤ z then z else z - 146096).tdiv 146097 = z / 146097 := by
  refine ⟨?_, @tdiv_floor 146097 (by decide) z⟩
  split
  · rfl
  · exact checked_64 (by omega) (by omega)

/-- The month and the day of a date from its day of the year. -/
theorem monthPlaces
    (valid : civil.ValidDate) :
    ∃ doy : Nat,
      civil.dayOfYear = doy ∧
        (5 * doy + 2) / 153 = (civil.month + 9) % 12 ∧
        doy + 1 =
          (153 * ((civil.month + 9) % 12) + 2) / 5 + civil.day ∧
        doy < 366 := by
  have isMonth := month_of_dayOfYear valid
  have inYear := dayOfYear_bounds valid
  have isDay : civil.dayOfYear = civil.monthStart + civil.day - 1 := rfl
  rw [Civil.monthStart] at isDay
  have below : civil.dayOfYear < 366 := by
    have bounds := inYear.2
    rw [yearStart_next] at bounds
    split at bounds <;> omega
  obtain ⟨doy, sameDay⟩ := Int.eq_ofNat_of_zero_le inYear.1
  exact ⟨doy, sameDay, by omega, by omega, by omega⟩

/-- A timestamp in range has the date and time of day it is of. -/
theorem civilFromUnix_eq
    (validDate : civil.ValidDate)
    (validTime : civil.ValidTime)
    (inRange : InRange civil.unixSeconds) :
    civilFromUnix civil.unixSeconds = .value civil := by
  have years := marchYear_bounds validDate validTime inRange
  obtain ⟨isDay, isTime⟩ := unixSeconds_div validTime
  obtain ⟨isHour, isMinute, isSecond⟩ := timeSteps validTime
  have inYear := dayOfYear_bounds validDate
  obtain ⟨era, doe, yoe, cycle⟩ := exists_inCycle inYear.1 inYear.2
  obtain ⟨doy, sameDay, isPlace, isDoy, below⟩ := monthPlaces validDate
  obtain ⟨sumDay, sumYear, days, yoes, yearOfDay, dayOfYear⟩ := cycle
  have months := validDate.month
  have firstDay := validDate.day.1
  have isZ : civil.dayNumber + 719468 = 146097 * era + doe := by
    rw [Civil.dayNumber]
    omega
  have isEra : (146097 * era + (doe : Int)) / 146097 = era := by
    omega
  have ofEra : 146097 * era + (doe : Int) - era * 146097 = doe := by
    omega
  have inCycle : doe = 365 * yoe + yoe / 4 - yoe / 100 + doy := by
    rw [sameDay] at dayOfYear
    omega
  have marches : (yoe : Int) + era * 400 = civil.marchYear := by
    omega
  have firstYear := yearOfMarch years
  obtain ⟨pureEra, isFloor⟩ :=
    @eraStep (146097 * era + (doe : Int)) (by omega)
  rw [civilFromUnix]
  dsimp only
  rw [isDay, isTime, isHour, isMinute, isSecond, isZ,
    checked_bind (by omega) (by omega), pureEra, value_bind, isFloor,
    isEra, checked_bind (by omega) (by omega), ofEra,
    checked_bind (by omega) (by omega), toUnsigned_64 (by omega),
    evenedSteps days, yearOfDay, toSigned_natCast (by omega),
    checked_bind (by omega) (by omega), marches,
    checked_bind (by omega) (by omega),
    doySteps yoes inCycle below,
    monthSteps below isPlace isDoy rfl months firstDay,
    toUnsigned_32 (by omega), toUnsigned_32 (by omega), firstYear,
    value_bind, pure_eq]

end Steps

/--
From 1970 on, a date and a time of day whose seconds fit the type come back from
their timestamp; every timestamp in range is that of the date and time it is read
as, and one from 1970 on of such a date; and a later date or time has a greater
timestamp.
-/
theorem civil_time_inverse :
    (∀ civil : Civil,
      civil.ValidDate →
      civil.ValidTime →
      1970 ≤ civil.year →
      civil.unixSeconds < 9223372036854775808 →
        (timestampOf civil >>= civilFromUnix) = .value civil) ∧
      (∀ seconds,
        InRange seconds →
          (civilFromUnix seconds >>= timestampOf) = .value seconds ∧
            ∃ civil,
              civilFromUnix seconds = .value civil ∧
                civil.ValidDate ∧
                civil.ValidTime ∧ (0 ≤ seconds ↔ 1970 ≤ civil.year)) ∧
      (∀ seconds,
        0 ≤ seconds →
          (InRange seconds ↔ seconds < 9223372036854775808)) ∧
      ∀ first second : Civil,
        first.ValidDate →
        first.ValidTime →
        second.ValidDate →
        second.ValidTime →
        1970 ≤ first.year →
        second.unixSeconds < 9223372036854775808 →
        first.Before second →
          ∃ timestamp later,
            timestampOf first = .value timestamp ∧
              timestampOf second = .value later ∧ timestamp < later := by
  refine ⟨?_, ?_, fun seconds => inRange_iff, ?_⟩
  · intro civil validDate validTime since below
    have notNegative := (unixSeconds_nonneg validDate validTime).mpr since
    have inRange := (inRange_iff notNegative).mpr below
    rw [unixTimestamp_eq validDate validTime inRange, value_bind]
    exact civilFromUnix_eq validDate validTime inRange
  · intro seconds inRange
    obtain ⟨civil, validDate, validTime, rfl⟩ := exists_civil seconds
    have reads := civilFromUnix_eq validDate validTime inRange
    refine ⟨?_, civil, reads, validDate, validTime,
      unixSeconds_nonneg validDate validTime⟩
    rw [reads, value_bind]
    exact unixTimestamp_eq validDate validTime inRange
  · intro first second validDate validTime laterDate laterTime since below
      before
    have earlier :=
      unixSeconds_lt validDate validTime laterDate laterTime before
    have notNegative := (unixSeconds_nonneg validDate validTime).mpr since
    have inRange := (inRange_iff notNegative).mpr (by omega)
    have laterRange := (@inRange_iff second.unixSeconds (by omega)).mpr below
    exact ⟨_, _, unixTimestamp_eq validDate validTime inRange,
      unixTimestamp_eq laterDate laterTime laterRange, earlier⟩

/-- The leap day of 2024, at noon. -/
theorem civil_time_inverse_leap_day :
    (timestampOf ⟨2024, 2, 29, 12, 0, 0⟩ >>= civilFromUnix) =
      .value ⟨2024, 2, 29, 12, 0, 0⟩ :=
  civil_time_inverse.1 ⟨2024, 2, 29, 12, 0, 0⟩
    ⟨by decide, by decide⟩ ⟨by decide, by decide, by decide⟩ (by decide)
    (by decide)

end MeshCadet
