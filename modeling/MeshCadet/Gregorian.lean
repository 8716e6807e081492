import Mathlib.Tactic.IntervalCases

/-!
# The proleptic Gregorian calendar

A leap year is divisible by four, and by four hundred if by a hundred.  Days are
counted in years that begin in March, so that a leap day is the last of its year:
a year is then a place in a cycle of four hundred, a century, a group of four
years and a year of the group.  The count of days strictly increases with the
date, and reaches every whole number.
-/

namespace Gregorian

/-- A year with a leap day. -/
def Leap
    (year : Int) :
    Prop :=
  year % 4 = 0 ∧ (year % 100 ≠ 0 ∨ year % 400 = 0)

instance
    (year : Int) :
    Decidable (Leap year) :=
  inferInstanceAs (Decidable (_ ∧ _))

/-- The length of a month. -/
def daysInMonth
    (year : Int)
    (month : Nat) :
    Nat :=
  if month = 2 then
    if Leap year then 29 else 28
  else if month = 4 ∨ month = 6 ∨ month = 9 ∨ month = 11 then 30 else 31

/-- A day of the calendar and a time of day, to the second. -/
structure Civil where
  year : Int
  month : Nat
  day : Nat
  hour : Nat
  minute : Nat
  second : Nat
deriving Repr, DecidableEq

namespace Civil

/-- The month and the day are in the calendar. -/
structure ValidDate
    (civil : Civil) :
    Prop where
  month : 1 ≤ civil.month ∧ civil.month ≤ 12
  day :
    1 ≤ civil.day ∧ civil.day ≤ daysInMonth civil.year civil.month

/-- The time is one of the day. -/
structure ValidTime
    (civil : Civil) :
    Prop where
  hour : civil.hour < 24
  minute : civil.minute < 60
  second : civil.second < 60

/-- One is before the other in the lexicographic order of the fields. -/
def Before
    (first second : Civil) :
    Prop :=
  first.year < second.year ∨
    first.year = second.year ∧
      (first.month < second.month ∨
        first.month = second.month ∧
          (first.day < second.day ∨
            first.day = second.day ∧
              (first.hour < second.hour ∨
                first.hour = second.hour ∧
                  (first.minute < second.minute ∨
                    first.minute = second.minute ∧
                      first.second < second.second))))

/-- The year of the date, where years begin in March. -/
def marchYear
    (civil : Civil) :
    Int :=
  if civil.month ≤ 2 then civil.year - 1 else civil.year

/-- The days of that year before the date's month. -/
def monthStart
    (civil : Civil) :
    Nat :=
  (153 * ((civil.month + 9) % 12) + 2) / 5

/-- The days of that year before the date. -/
def dayOfYear
    (civil : Civil) :
    Int :=
  civil.monthStart + civil.day - 1

/-- The seconds of the day before the time. -/
def secondOfDay
    (civil : Civil) :
    Nat :=
  civil.hour * 3600 + civil.minute * 60 + civil.second

end Civil

/-- The days from March of the year 0 to March of a year. -/
def yearStart
    (year : Int) :
    Int :=
  365 * year + year / 4 - year / 100 + year / 400

/-- The days from 1970-01-01 to a date. -/
def Civil.dayNumber
    (civil : Civil) :
    Int :=
  yearStart civil.marchYear + civil.dayOfYear - 719468

/-- The date and time with the day in its month and the second in its minute. -/
def Civil.clipped
    (civil : Civil) :
    Civil :=
  { civil with
    day := min civil.day (daysInMonth civil.year civil.month)
    second := min civil.second 59 }

/-- The seconds from the beginning of 1970 to a date and a time of day. -/
def Civil.unixSeconds
    (civil : Civil) :
    Int :=
  civil.dayNumber * 86400 + civil.secondOfDay

/-- The count starts with the year 1970. -/
example :
    Civil.unixSeconds ⟨1970, 1, 1, 0, 0, 0⟩ = 0 := by decide

/-- The seconds of a day determine its time. -/
theorem Civil.secondOfDay_lt
    {civil : Civil}
    (valid : civil.ValidTime) :
    civil.secondOfDay < 86400 := by
  have hour := valid.hour
  have minute := valid.minute
  have second := valid.second
  rw [secondOfDay]
  omega

section Years

/-- A year has 365 days, one more where the leap day is in it. -/
theorem yearStart_next
    (year : Int) :
    yearStart (year + 1) =
      yearStart year + if Leap (year + 1) then 366 else 365 := by
  rw [yearStart, yearStart]
  split
  case isTrue leap =>
    obtain ⟨fourth, century⟩ := leap
    omega
  case isFalse common =>
    rw [Leap] at common
    omega

/-- A later year starts when the earlier one is over. -/
theorem yearStart_le
    {year later : Int}
    (before : year < later) :
    yearStart (year + 1) ≤ yearStart later := by
  rw [yearStart, yearStart]
  omega

/-- A date is in its year. -/
theorem dayOfYear_bounds
    {civil : Civil}
    (valid : civil.ValidDate) :
    0 ≤ civil.dayOfYear ∧
      yearStart civil.marchYear + civil.dayOfYear <
        yearStart (civil.marchYear + 1) := by
  obtain ⟨⟨firstMonth, lastMonth⟩, firstDay, lastDay⟩ := valid
  rw [yearStart_next, Civil.dayOfYear, Civil.monthStart, Civil.marchYear]
  rw [daysInMonth] at lastDay
  refine ⟨by omega, ?_⟩
  by_cases february : civil.month = 2
  · have closing : civil.year - 1 + 1 = civil.year := by omega
    rw [if_pos february] at lastDay
    rw [if_pos (by omega), closing]
    split at lastDay
    case isTrue leap =>
      rw [if_pos leap]
      omega
    case isFalse common =>
      rw [if_neg common]
      omega
  · rw [if_neg february] at lastDay
    split at lastDay <;> split <;> split <;> omega

/-- A date is before the next month of its year. -/
theorem dayOfYear_lt
    {civil : Civil}
    (valid : civil.ValidDate) :
    civil.dayOfYear <
      ((153 * ((civil.month + 9) % 12 + 1) + 2) / 5 : Nat) := by
  obtain ⟨⟨firstMonth, lastMonth⟩, firstDay, lastDay⟩ := valid
  rw [Civil.dayOfYear, Civil.monthStart]
  rw [daysInMonth] at lastDay
  generalize civil.month = month at *
  interval_cases month
  case «2» =>
    split at lastDay <;> split at lastDay <;> omega
  all_goals
    simp at lastDay
    omega

/-- The day of the year gives back the month. -/
theorem month_of_dayOfYear
    {civil : Civil}
    (valid : civil.ValidDate) :
    (5 * civil.dayOfYear + 2) / 153 =
      ((civil.month + 9) % 12 : Nat) := by
  have below := dayOfYear_lt valid
  have firstDay := valid.day.1
  rw [Civil.dayOfYear, Civil.monthStart] at below ⊢
  omega

end Years

section Clipping

/-- What the clipping takes off counts in days and in seconds. -/
theorem unixSeconds_clipped
    (civil : Civil) :
    civil.unixSeconds =
      civil.clipped.unixSeconds +
          ((civil.day : Int) - civil.clipped.day) * 86400 +
        ((civil.second : Int) - civil.clipped.second) := by
  have sameYear : civil.clipped.marchYear = civil.marchYear := rfl
  have sameMonth : civil.clipped.monthStart = civil.monthStart := rfl
  have sameHour : civil.clipped.hour = civil.hour := rfl
  have sameMinute : civil.clipped.minute = civil.minute := rfl
  rw [Civil.unixSeconds, Civil.unixSeconds, Civil.dayNumber,
    Civil.dayNumber, Civil.dayOfYear, Civil.dayOfYear, sameYear, sameMonth,
    Civil.secondOfDay, Civil.secondOfDay, sameHour, sameMinute]
  push_cast
  omega

end Clipping

section Order

/-- The count of days increases with the date. -/
theorem dayNumber_lt
    {first second : Civil}
    (valid : first.ValidDate)
    (laterValid : second.ValidDate)
    (before :
      first.year < second.year ∨
        first.year = second.year ∧
          (first.month < second.month ∨
            first.month = second.month ∧ first.day < second.day)) :
    first.dayNumber < second.dayNumber := by
  have firstIn := dayOfYear_bounds valid
  have secondIn := dayOfYear_bounds laterValid
  have inMonth := dayOfYear_lt valid
  have laterDay := laterValid.day.1
  have months := valid.month
  have laterMonths := laterValid.month
  rw [Civil.dayNumber, Civil.dayNumber]
  by_cases earlier : first.marchYear < second.marchYear
  · have := yearStart_le earlier
    omega
  · have sameYear : first.marchYear = second.marchYear := by
      rw [Civil.marchYear, Civil.marchYear] at earlier ⊢
      split at earlier <;> split at earlier <;> split <;> omega
    have ordered :
        (first.month + 9) % 12 < (second.month + 9) % 12 ∨
          (first.month + 9) % 12 = (second.month + 9) % 12 ∧
            first.day < second.day := by
      rw [Civil.marchYear, Civil.marchYear] at sameYear
      split at sameYear <;> split at sameYear <;> omega
    have within : first.dayOfYear < second.dayOfYear := by
      rw [Civil.dayOfYear, Civil.monthStart] at inMonth ⊢
      rw [Civil.dayOfYear, Civil.monthStart]
      rcases ordered with earlierMonth | ⟨sameMonth, earlierDay⟩
      · omega
      · rw [sameMonth]
        omega
    rw [sameYear]
    omega

/-- The count of seconds increases with the date and the time of day. -/
theorem unixSeconds_lt
    {first second : Civil}
    (validDate : first.ValidDate)
    (validTime : first.ValidTime)
    (laterDate : second.ValidDate)
    (laterTime : second.ValidTime)
    (before : first.Before second) :
    first.unixSeconds < second.unixSeconds := by
  have firstIn := Civil.secondOfDay_lt validTime
  have secondIn := Civil.secondOfDay_lt laterTime
  obtain ⟨hour, minute, below⟩ := validTime
  obtain ⟨laterHour, laterMinute, laterBelow⟩ := laterTime
  rw [Civil.unixSeconds, Civil.unixSeconds]
  by_cases sameDay :
      first.year = second.year ∧
        first.month = second.month ∧ first.day = second.day
  · obtain ⟨year, month, day⟩ := sameDay
    have sameNumber : first.dayNumber = second.dayNumber := by
      rw [Civil.dayNumber, Civil.dayNumber, Civil.marchYear,
        Civil.marchYear, Civil.dayOfYear, Civil.dayOfYear,
        Civil.monthStart, Civil.monthStart, year, month, day]
    rw [Civil.Before] at before
    rw [sameNumber, Civil.secondOfDay, Civil.secondOfDay]
    omega
  · have earlier := dayNumber_lt validDate laterDate (by
      rw [Civil.Before] at before
      omega)
    omega

/-- The dates from 1970 on are those that do not come before the count. -/
theorem unixSeconds_nonneg
    {civil : Civil}
    (validDate : civil.ValidDate)
    (validTime : civil.ValidTime) :
    0 ≤ civil.unixSeconds ↔ 1970 ≤ civil.year := by
  constructor
  · intro notNegative
    by_contra before
    have start :
        Civil.unixSeconds ⟨1970, 1, 1, 0, 0, 0⟩ = 0 := by decide
    have earlier := @unixSeconds_lt civil ⟨1970, 1, 1, 0, 0, 0⟩ validDate
      validTime ⟨by decide, by decide⟩
      ⟨by decide, by decide, by decide⟩
      (.inl (Int.not_le.mp before))
    omega
  · intro since
    have months := validDate.month
    have firstDay := validDate.day.1
    have start1969 : yearStart (1968 + 1) = 719162 := by decide
    have start1970 : yearStart (1969 + 1) = 719527 := by decide
    have days : 719468 ≤ yearStart civil.marchYear + civil.dayOfYear := by
      rw [Civil.marchYear, Civil.dayOfYear]
      split
      · have reached : (1968 : Int) < civil.year - 1 := by omega
        have start := yearStart_le reached
        have winter : 306 ≤ civil.monthStart := by
          rw [Civil.monthStart]
          omega
        omega
      · have reached : (1969 : Int) < civil.year := by omega
        have start := yearStart_le reached
        omega
    rw [Civil.unixSeconds, Civil.dayNumber]
    omega

end Order

section Positions

/--
A day of the cycle of four hundred years: the century, the group of four years,
the year of the group and the day of the year.
-/
structure Position
    (century group year day : Int) :
    Prop where
  inCentury : 0 ≤ century ∧ century ≤ 3
  inGroup : 0 ≤ group ∧ group ≤ 24
  inYear : 0 ≤ year ∧ year ≤ 3
  inDay : 0 ≤ day ∧ day ≤ 365
  leap : day = 365 → year = 3 ∧ (group ≠ 24 ∨ century = 3)

/-- Each day of the cycle has a position. -/
theorem exists_position
    {day : Int}
    (notNegative : 0 ≤ day)
    (inCycle : day < 146097) :
    ∃ century group year rest,
      Position century group year rest ∧
        day = 36524 * century + 1461 * group + 365 * year + rest := by
  -- The last day of the cycle, and of a group, is the leap day.
  refine ⟨if day = 146096 then 3 else day / 36524, ?_⟩
  generalize isCentury :
    (if day = 146096 then 3 else day / 36524) = century
  generalize isRest : day - 36524 * century = ofCentury
  refine ⟨ofCentury / 1461, ?_⟩
  generalize isGroup : ofCentury - 1461 * (ofCentury / 1461) = ofGroup
  refine ⟨if ofGroup = 1460 then 3 else ofGroup / 365, ?_⟩
  generalize isYear :
    (if ofGroup = 1460 then 3 else ofGroup / 365) = year
  refine ⟨ofGroup - 365 * year, ⟨?_, ?_, ?_, ?_, ?_⟩, by omega⟩
  all_goals
    split at isCentury <;> split at isYear <;> omega

/-- The year of a position starts with its first day. -/
theorem yearStart_position
    {century group year day : Int}
    (position : Position century group year day)
    (cycle : Int) :
    yearStart (400 * cycle + 100 * century + 4 * group + year) =
      146097 * cycle + 36524 * century + 1461 * group + 365 * year := by
  obtain ⟨inCentury, inGroup, inYear, -, -⟩ := position
  rw [yearStart]
  omega

/-- A position is a day of its year. -/
theorem inYear_of_position
    {century group year day : Int}
    (position : Position century group year day)
    (cycle : Int) :
    yearStart (400 * cycle + 100 * century + 4 * group + year) + day <
      yearStart
        (400 * cycle + 100 * century + 4 * group + year + 1) := by
  rw [yearStart_next]
  obtain ⟨inCentury, inGroup, inYear, inDay, leap⟩ := position
  by_cases leapDay : day = 365
  · have isLeap :
        Leap (400 * cycle + 100 * century + 4 * group + year + 1) := by
      have := leap leapDay
      rw [Leap]
      omega
    rw [if_pos isLeap]
    omega
  · split <;> omega

/-- The year of a position from its day of the cycle. -/
theorem year_of_position
    {century group year day cycleDay : Int}
    (position : Position century group year day)
    (isDay :
      cycleDay = 36524 * century + 1461 * group + 365 * year + day) :
    (cycleDay - cycleDay / 1460 + cycleDay / 36524 -
        cycleDay / 146096) / 365 =
      100 * century + 4 * group + year := by
  obtain ⟨inCentury, inGroup, inYear, inDay, leap⟩ := position
  have quarters :
      cycleDay / 1460 = 25 * century + group ∧
          24 * century + group + 365 * year + day < 1460 ∨
        cycleDay / 1460 = 25 * century + group + 1 ∧
          1460 ≤ 24 * century + group + 365 * year + day := by
    omega
  have last :
      1461 * group + 365 * year + day ≤ 36523 ∨
        century = 3 ∧ cycleDay = 146096 := by
    by_cases leapDay : day = 365
    · have := leap leapDay
      omega
    · omega
  rcases last with before | ⟨rfl, rfl⟩
  · have centuries : cycleDay / 36524 = century := by omega
    have cycles : cycleDay / 146096 = 0 := by omega
    rw [centuries, cycles]
    rcases quarters with ⟨rounded, below⟩ | ⟨rounded, above⟩ <;>
      rw [rounded] <;> omega
  · omega

/-- A date inside its year has a position in its cycle. -/
theorem position_of_day
    {year day : Int}
    (notNegative : 0 ≤ day)
    (inYear : yearStart year + day < yearStart (year + 1)) :
    ∃ cycle century group rest,
      Position century group rest day ∧
        year = 400 * cycle + 100 * century + 4 * group + rest := by
  refine ⟨year / 400, year % 400 / 100, year % 100 / 4, year % 4,
    ⟨by omega, by omega, by omega, ?_, ?_⟩, by omega⟩
  all_goals
    rw [yearStart_next] at inYear
    split at inYear
  · omega
  · omega
  · rename_i leap
    rw [Leap] at leap
    omega
  · omega

/--
The cycle of a day, and its day and year of the cycle as natural numbers: what
the year is computed from, and what is left of the day.
-/
structure InCycle
    (year day cycle : Int)
    (cycleDay cycleYear : Nat) :
    Prop where
  isDay : yearStart year + day = 146097 * cycle + cycleDay
  isYear : year = 400 * cycle + cycleYear
  days : cycleDay < 146097
  years : cycleYear < 400
  yearOfDay :
    (cycleDay - cycleDay / 1460 + cycleDay / 36524 -
        cycleDay / 146096) / 365 =
      cycleYear
  dayOfYear :
    (cycleDay : Int) =
      365 * cycleYear + cycleYear / 4 - cycleYear / 100 + day

/-- The quotient is the same for natural numbers. -/
theorem yearOfDay_natCast
    {cycleDay cycleYear : Nat}
    (isYear :
      ((cycleDay : Int) - cycleDay / 1460 + cycleDay / 36524 -
          cycleDay / 146096) / 365 =
        cycleYear) :
    (cycleDay - cycleDay / 1460 + cycleDay / 36524 -
        cycleDay / 146096) / 365 =
      cycleYear := by
  have same :
      ((cycleDay - cycleDay / 1460 + cycleDay / 36524 -
          cycleDay / 146096 : Nat) : Int) =
        (cycleDay : Int) - cycleDay / 1460 + cycleDay / 36524 -
          cycleDay / 146096 := by
    omega
  omega

/-- The days of a cycle before a year of it, as a sum over the years. -/
theorem dayOfYear_position
    {century group year day : Int}
    {cycleDay cycleYear : Nat}
    (position : Position century group year day)
    (isYear : 100 * century + 4 * group + year = cycleYear)
    (isDay :
      36524 * century + 1461 * group + 365 * year + day = cycleDay) :
    (cycleDay : Int) =
      365 * cycleYear + cycleYear / 4 - cycleYear / 100 + day := by
  obtain ⟨inCentury, inGroup, inYear, -, -⟩ := position
  have groups : (cycleYear : Int) / 4 = 25 * century + group := by omega
  have centuries : (cycleYear : Int) / 100 = century := by omega
  rw [groups, centuries]
  omega

/-- A position is a day and a year of the cycle. -/
theorem natural_of_position
    {century group year day : Int}
    (position : Position century group year day) :
    ∃ cycleDay cycleYear : Nat,
      100 * century + 4 * group + year = cycleYear ∧
        36524 * century + 1461 * group + 365 * year + day = cycleDay ∧
        cycleDay < 146097 ∧ cycleYear < 400 := by
  obtain ⟨inCentury, inGroup, inYear, inDay, leap⟩ := position
  obtain ⟨cycleDay, sameDay⟩ := Int.eq_ofNat_of_zero_le
    (show 0 ≤ 36524 * century + 1461 * group + 365 * year + day by omega)
  obtain ⟨cycleYear, sameYear⟩ := Int.eq_ofNat_of_zero_le
    (show 0 ≤ 100 * century + 4 * group + year by omega)
  exact ⟨cycleDay, cycleYear, sameYear, sameDay, by omega, by omega⟩

/-- A date inside its year is in a cycle. -/
theorem exists_inCycle
    {year day : Int}
    (notNegative : 0 ≤ day)
    (inYear : yearStart year + day < yearStart (year + 1)) :
    ∃ cycle cycleDay cycleYear,
      InCycle year day cycle cycleDay cycleYear := by
  obtain ⟨cycle, century, group, rest, position, isYear⟩ :=
    position_of_day notNegative inYear
  obtain ⟨cycleDay, cycleYear, sameYear, sameDay, days, years⟩ :=
    natural_of_position position
  have start := yearStart_position position cycle
  rw [← isYear] at start
  have yearOfDay := year_of_position position sameDay.symm
  rw [sameYear] at yearOfDay
  exact ⟨cycle, cycleDay, cycleYear,
    { isDay := by omega
      isYear := by omega
      days := days
      years := years
      yearOfDay := yearOfDay_natCast yearOfDay
      dayOfYear := dayOfYear_position position sameYear sameDay }⟩

/-- A day inside a year is the day of a date. -/
theorem exists_date
    {year day : Int}
    (notNegative : 0 ≤ day)
    (inYear : yearStart year + day < yearStart (year + 1))
    (hour minute second : Nat) :
    ∃ civil : Civil,
      civil.ValidDate ∧
        civil.marchYear = year ∧
        civil.dayOfYear = day ∧
        civil.hour = hour ∧
        civil.minute = minute ∧ civil.second = second := by
  obtain ⟨doy, rfl⟩ := Int.eq_ofNat_of_zero_le notNegative
  have length : doy < if Leap (year + 1) then 366 else 365 := by
    rw [yearStart_next] at inYear
    by_cases leap : Leap (year + 1)
    · rw [if_pos leap] at inYear ⊢
      omega
    · rw [if_neg leap] at inYear ⊢
      omega
  have lastPlace : (5 * doy + 2) / 153 < 12 := by
    split at length <;> omega
  have inPlace :
      153 * ((5 * doy + 2) / 153) ≤ 5 * doy + 2 ∧
        5 * doy + 2 < 153 * ((5 * doy + 2) / 153) + 153 := by
    omega
  generalize (5 * doy + 2) / 153 = place at lastPlace inPlace
  -- The months from March to December, then January and February.
  by_cases fromMarch : place < 10
  · refine ⟨⟨year, place + 3, doy + 1 - (153 * place + 2) / 5, hour, minute,
      second⟩,
      ⟨⟨by simp, by simp only; omega⟩, by simp only; omega, ?_⟩,
      ?_, ?_, rfl, rfl, rfl⟩
    · rw [daysInMonth]
      interval_cases place <;> simp <;> omega
    · exact if_neg (by simp only; omega)
    · rw [Civil.dayOfYear, Civil.monthStart]
      have isPlace : (place + 3 + 9) % 12 = place := by omega
      simp only [isPlace]
      omega
  · refine ⟨⟨year + 1, place - 9, doy + 1 - (153 * place + 2) / 5, hour,
      minute, second⟩, ⟨⟨by simp only; omega, by simp only; omega⟩,
      by simp only; omega, ?_⟩, ?_, ?_, rfl, rfl, rfl⟩
    · rw [daysInMonth]
      interval_cases place
      · simp
        omega
      · simp only [Nat.reduceSub, if_true]
        split at length <;> rename_i leap
        · rw [if_pos leap]
          omega
        · rw [if_neg leap]
          omega
    · rw [Civil.marchYear, if_pos (by simp only; omega)]
      simp
    · rw [Civil.dayOfYear, Civil.monthStart]
      have isPlace : (place - 9 + 9) % 12 = place := by omega
      simp only [isPlace]
      omega

/-- Every number of seconds is that of a date and a time of day. -/
theorem exists_civil
    (seconds : Int) :
    ∃ civil : Civil,
      civil.ValidDate ∧
        civil.ValidTime ∧ civil.unixSeconds = seconds := by
  have inCycle :
      0 ≤ (seconds / 86400 + 719468) % 146097 ∧
        (seconds / 86400 + 719468) % 146097 < 146097 := by
    omega
  obtain ⟨century, group, year, day, position, isDay⟩ :=
    exists_position inCycle.1 inCycle.2
  have start := yearStart_position position
    ((seconds / 86400 + 719468) / 146097)
  have inYear :=
    inYear_of_position position ((seconds / 86400 + 719468) / 146097)
  obtain ⟨civil, validDate, isYear, sameDay, isHour, isMinute, isSecond⟩ :=
    exists_date position.inDay.1 inYear (seconds % 86400 / 3600).toNat
      (seconds % 3600 / 60).toNat (seconds % 60).toNat
  refine ⟨civil, validDate,
    ⟨by rw [isHour]; omega, by rw [isMinute]; omega,
      by rw [isSecond]; omega⟩, ?_⟩
  have sameTime : (civil.secondOfDay : Int) = seconds % 86400 := by
    rw [Civil.secondOfDay, isHour, isMinute, isSecond]
    omega
  rw [Civil.unixSeconds, Civil.dayNumber, isYear, start, sameDay, sameTime]
  omega

end Positions

end Gregorian
