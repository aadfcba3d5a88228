import Bug.Frontend.Dayjs
import Mathlib.Tactic.Ring

/-!
# The calendar of events

A calendar has a row for every week of a year.  Its cells are filled in two ways:
with the midnights of the year, one after the other, and with the numbers of
events, each event at the week and the day that its own date has in its own year.
-/

namespace Bug.Frontend

open DateTime (daysBeforeYear)
open Gregorian

structure Calendar where
  isLeapYear : Bool
  originDay : Nat
  originUnixMilli : Int
  weekCount : Nat
  weeks : List (List Int)

/-- The value of `weeks[week][day]`. -/
def cell (weeks : List (List Int)) (week day : Nat) : Option Int :=
  weeks[week]?.bind fun row => row[day]?

/-- An assignment to `weeks[week][day]`. -/
def modifyCell (weeks : List (List Int)) (week day : Nat) (change : Int → Int) :
    List (List Int) :=
  weeks.modify week fun row => row.modify day change

theorem cell_modifyCell (weeks : List (List Int)) (week day other column : Nat)
    (change : Int → Int) :
    cell (modifyCell weeks week day change) other column =
      if week = other ∧ day = column then (cell weeks other column).map change
      else cell weeks other column := by
  rw [cell, cell, modifyCell, List.getElem?_modify]
  cases weeks[other]? with
  | none => simp
  | some row =>
      by_cases sameWeek : week = other
      · by_cases sameDay : day = column
        · simp [sameWeek, sameDay]
        · simp [sameWeek, sameDay]
      · simp [sameWeek]

theorem cell_replicate (weekCount : Nat) (value : Int) (week day : Nat) :
    cell (List.replicate weekCount (List.replicate daysPerWeek value)) week day =
      if week < weekCount ∧ day < daysPerWeek then some value else none := by
  rw [cell, List.getElem?_replicate]
  by_cases inside : week < weekCount
  · simp [inside, List.getElem?_replicate]
  · simp [inside]

/-- A grid with a row for every week. -/
def IsGrid (weekCount : Nat) (weeks : List (List Int)) : Prop :=
  weeks.length = weekCount ∧ ∀ row ∈ weeks, row.length = daysPerWeek

theorem isGrid_replicate (weekCount : Nat) (value : Int) :
    IsGrid weekCount (List.replicate weekCount (List.replicate daysPerWeek value)) := by
  constructor
  · exact List.length_replicate
  · intro row present
    rw [List.eq_of_mem_replicate present, List.length_replicate]

theorem IsGrid.isSome_cell {weekCount week day : Nat} {weeks : List (List Int)}
    (isGrid : IsGrid weekCount weeks) (isWeek : week < weekCount) (isDay : day < daysPerWeek) :
    (cell weeks week day).isSome := by
  rw [← isGrid.1] at isWeek
  rw [← isGrid.2 weeks[week] (List.getElem_mem isWeek)] at isDay
  rw [cell, List.getElem?_eq_getElem isWeek, Option.bind_some, List.getElem?_eq_getElem isDay,
    Option.isSome_some]

namespace Calendar

/-! ## Filling in the time -/

def lastDay (calendar : Calendar) : Nat :=
  if calendar.isLeapYear then (calendar.originDay + 1) % daysPerWeek else calendar.originDay

/-- One round of the inner loop. -/
def fillDay (week : Nat) (filled : List (List Int) × Int) (day : Nat) : List (List Int) × Int :=
  (modifyCell filled.1 week day fun _ => filled.2, filled.2 + milliSecondsPerDay)

def beginDay (calendar : Calendar) (week : Nat) : Nat :=
  if week = 0 then calendar.originDay else 0

def endDay (calendar : Calendar) (week : Nat) : Nat :=
  if week = 0 then saturday
  else if week = calendar.weekCount - 1 then calendar.lastDay
  else saturday

/-- One round of the outer loop. -/
def fillWeek (calendar : Calendar) (filled : List (List Int) × Int) (week : Nat) :
    List (List Int) × Int :=
  (List.range' (calendar.beginDay week)
    (calendar.endDay week + 1 - calendar.beginDay week)).foldl (fillDay week) filled

def fillUnixMilli (calendar : Calendar) : Calendar :=
  { calendar with
    weeks := ((List.range calendar.weekCount).foldl calendar.fillWeek
      (calendar.weeks, calendar.originUnixMilli)).1 }

/-- The time that belongs to a place. -/
def timeOf (calendar : Calendar) (place : Nat) : Int :=
  calendar.originUnixMilli + ((place : Int) - calendar.originDay) * milliSecondsPerDay

/-- The places from the first of January to the one before `last` hold their
times, the other cells what the calendar held, and `last` is the next to be
filled in. -/
structure FilledTo (calendar : Calendar) (filled : List (List Int) × Int) (last : Nat) :
    Prop where
  time : filled.2 = calendar.timeOf last
  cells : ∀ week day, cell filled.1 week day =
    if day < daysPerWeek ∧ calendar.originDay ≤ daysPerWeek * week + day ∧
        daysPerWeek * week + day < last then
      (cell calendar.weeks week day).map fun _ => calendar.timeOf (daysPerWeek * week + day)
    else cell calendar.weeks week day

theorem timeOf_succ (calendar : Calendar) (place : Nat) :
    calendar.timeOf (place + 1) = calendar.timeOf place + milliSecondsPerDay := by
  rw [timeOf, timeOf]
  push_cast
  ring

theorem filledTo_weeks (calendar : Calendar) :
    calendar.FilledTo (calendar.weeks, calendar.originUnixMilli) calendar.originDay where
  time := by
    rw [timeOf, Int.sub_self, Int.zero_mul, Int.add_zero]
  cells := by
    intro week day
    rw [if_neg]
    rintro ⟨-, started, notYet⟩
    exact Nat.not_lt.mpr started notYet

theorem FilledTo.fillDay {calendar : Calendar} {filled : List (List Int) × Int} {week day : Nat}
    (before : calendar.FilledTo filled (daysPerWeek * week + day)) (isDay : day < daysPerWeek)
    (started : calendar.originDay ≤ daysPerWeek * week + day) :
    calendar.FilledTo (fillDay week filled day) (daysPerWeek * week + day + 1) where
  time := by rw [timeOf_succ, ← before.time, Calendar.fillDay]
  cells := by
    intro other column
    rw [Calendar.fillDay, cell_modifyCell, before.cells other column]
    by_cases here : week = other ∧ day = column
    · rcases here with ⟨rfl, rfl⟩
      simp [isDay, started, before.time]
    · rw [if_neg here]
      by_cases inside : column < daysPerWeek
      · have differ : daysPerWeek * other + column ≠ daysPerWeek * week + day := by
          intro equal
          rw [daysPerWeek] at isDay inside equal
          exact here (by omega)
        have same : daysPerWeek * other + column < daysPerWeek * week + day + 1 ↔
            daysPerWeek * other + column < daysPerWeek * week + day := by
          omega
        simp only [same]
      · simp only [inside, false_and, if_false]

/-- A part of a week. -/
theorem FilledTo.foldl_fillDay {calendar : Calendar} {week : Nat} (count : Nat) :
    ∀ {filled : List (List Int) × Int} {day : Nat},
      calendar.FilledTo filled (daysPerWeek * week + day) → day + count ≤ daysPerWeek →
      calendar.originDay ≤ daysPerWeek * week + day →
      calendar.FilledTo ((List.range' day count).foldl (Calendar.fillDay week) filled)
        (daysPerWeek * week + day + count) := by
  induction count with
  | zero =>
      intro filled day before _ _
      exact before
  | succ count inductionHypothesis =>
      intro filled day before fits started
      have next := inductionHypothesis
        (before.fillDay (show day < daysPerWeek by omega) started)
        (show day + 1 + count ≤ daysPerWeek by omega)
        (show calendar.originDay ≤ daysPerWeek * week + (day + 1) by omega)
      rw [List.range'_succ, List.foldl_cons]
      rwa [show daysPerWeek * week + day + (count + 1) =
        daysPerWeek * week + (day + 1) + count by omega]

theorem FilledTo.fillWeek {calendar : Calendar} {filled : List (List Int) × Int} {week : Nat}
    (before : calendar.FilledTo filled (daysPerWeek * week + calendar.beginDay week))
    (started : calendar.originDay ≤ daysPerWeek * week + calendar.beginDay week)
    (ordered : calendar.beginDay week ≤ calendar.endDay week + 1)
    (fits : calendar.endDay week < daysPerWeek) :
    calendar.FilledTo (calendar.fillWeek filled week)
      (daysPerWeek * week + calendar.endDay week + 1) := by
  have filledDays := before.foldl_fillDay
    (calendar.endDay week + 1 - calendar.beginDay week) (by omega) started
  rwa [show daysPerWeek * week + calendar.beginDay week +
    (calendar.endDay week + 1 - calendar.beginDay week) =
      daysPerWeek * week + calendar.endDay week + 1 by omega] at filledDays

theorem lastDay_lt {calendar : Calendar} (isDay : calendar.originDay < daysPerWeek) :
    calendar.lastDay < daysPerWeek := by
  rw [lastDay]
  split
  · exact Nat.mod_lt _ (by decide)
  · exact isDay

theorem endDay_lt {calendar : Calendar} (isDay : calendar.originDay < daysPerWeek) (week : Nat) :
    calendar.endDay week < daysPerWeek := by
  rw [endDay]
  split
  · decide
  · split
    · exact lastDay_lt isDay
    · decide

/-- The first weeks are full from the first of January on. -/
theorem FilledTo.foldl_fillWeek {calendar : Calendar} {filled : List (List Int) × Int}
    (unfilled : calendar.FilledTo filled calendar.originDay)
    (isDay : calendar.originDay < daysPerWeek) (week : Nat) :
    week < calendar.weekCount →
      calendar.FilledTo ((List.range (week + 1)).foldl calendar.fillWeek filled)
        (daysPerWeek * week + calendar.endDay week + 1) := by
  induction week with
  | zero =>
      intro _
      have begins : daysPerWeek * 0 + calendar.beginDay 0 = calendar.originDay := by
        rw [beginDay, if_pos rfl, Nat.mul_zero, Nat.zero_add]
      rw [← begins] at unfilled
      apply unfilled.fillWeek begins.ge
      · rw [beginDay, if_pos rfl, endDay, if_pos rfl]
        exact isDay.le
      · exact endDay_lt isDay 0
  | succ week inductionHypothesis =>
      intro isWeek
      have full : calendar.endDay week + 1 = daysPerWeek := by
        rw [endDay]
        split
        · rfl
        · rw [if_neg (by omega)]
          rfl
      have begins : calendar.beginDay (week + 1) = 0 := if_neg (Nat.succ_ne_zero week)
      have before := inductionHypothesis (Nat.lt_of_succ_lt isWeek)
      rw [Nat.add_assoc, full, ← Nat.mul_succ] at before
      rw [List.range_succ, List.foldl_append, List.foldl_cons, List.foldl_nil]
      apply FilledTo.fillWeek
      · rw [begins]
        exact before
      · rw [begins]
        exact isDay.le.trans (Nat.le_mul_of_pos_right daysPerWeek week.succ_pos)
      · rw [begins]
        exact Nat.zero_le _
      · exact endDay_lt isDay (week + 1)

end Calendar

namespace Dayjs

section Local

variable (utcOffset : Int)

/-- The calendar before it is filled. -/
def blankCalendar (date : Dayjs) : Calendar :=
  let originD := date.startOfYear utcOffset
  let originDay := originD.day utcOffset
  let weekCount :=
    if isLeapYear (originD.year utcOffset) && originDay = saturday then 54 else 53
  { isLeapYear := isLeapYear (originD.year utcOffset)
    originDay := originDay
    originUnixMilli := originD.unixMilli
    weekCount := weekCount
    weeks := List.replicate weekCount (List.replicate daysPerWeek 0) }

/-- `pluginCalendar`, with a filler that may throw. -/
def calendar (date : Dayjs) (filler : Calendar → Option Calendar) : Option Calendar :=
  filler (date.blankCalendar utcOffset)

theorem originDay_blankCalendar (date : Dayjs) :
    (date.blankCalendar utcOffset).originDay = originDay (date.year utcOffset) :=
  date.day_startOfYear utcOffset

theorem isLeapYear_blankCalendar (date : Dayjs) :
    (date.blankCalendar utcOffset).isLeapYear = isLeapYear (date.year utcOffset) := by
  rw [blankCalendar, year_startOfYear]

theorem weekCount_blankCalendar (date : Dayjs) :
    (date.blankCalendar utcOffset).weekCount =
      if isLeapYear (date.year utcOffset) && originDay (date.year utcOffset) = saturday then 54
      else 53 := by
  rw [blankCalendar, year_startOfYear, day_startOfYear]

theorem timeOf_blankCalendar (date : Dayjs) (place : Nat) :
    (date.blankCalendar utcOffset).timeOf place =
      (dateAt utcOffset (date.year utcOffset) place).valueOf := by
  have origin : (date.blankCalendar utcOffset).originUnixMilli =
      (date.startOfYear utcOffset).valueOf := unixMilli_midnight utcOffset _
  rw [Calendar.timeOf, originDay_blankCalendar, origin, startOfYear, dateAt, midnight, midnight]
  ring

/-- The last day of the last week is the last day of the year. -/
theorem lastDay_blankCalendar (date : Dayjs) :
    daysPerWeek * ((date.blankCalendar utcOffset).weekCount - 1) +
        (date.blankCalendar utcOffset).lastDay + 1 =
      originDay (date.year utcOffset) + daysInYear (date.year utcOffset) := by
  have isDay := originDay_lt (date.year utcOffset)
  rw [Calendar.lastDay, weekCount_blankCalendar, originDay_blankCalendar,
    isLeapYear_blankCalendar, daysInYear]
  generalize originDay (date.year utcOffset) = first at isDay
  rw [daysPerWeek] at isDay
  cases isLeapYear (date.year utcOffset) with
  | false =>
      simp only [Bool.false_and, Bool.false_eq_true, if_false, daysPerWeek]
      omega
  | true =>
      by_cases late : first = saturday
      · rw [late]
        rfl
      · simp only [late, decide_false, Bool.and_false, Bool.false_eq_true, if_false, if_true,
          daysPerWeek]
        rw [saturday] at late
        omega

theorem one_lt_weekCount (date : Dayjs) : 1 < (date.blankCalendar utcOffset).weekCount := by
  rw [weekCount_blankCalendar]
  split
  · decide
  · decide

theorem lt_of_ofYear (date : Dayjs) {place : Nat}
    (ofYear : OfYear (date.year utcOffset) place) :
    place < daysPerWeek * (date.blankCalendar utcOffset).weekCount := by
  have lastDay := date.lastDay_blankCalendar utcOffset
  have weeks := date.one_lt_weekCount utcOffset
  have isDay : (date.blankCalendar utcOffset).lastDay < daysPerWeek :=
    Calendar.lastDay_lt ((date.originDay_blankCalendar utcOffset).trans_lt (originDay_lt _))
  have notOver := ofYear.2
  rw [← lastDay] at notOver
  rw [daysPerWeek] at isDay notOver ⊢
  omega

/-- The calendar over a grid that may hold anything. -/
def calendarOver (date : Dayjs) (weeks : List (List Int)) : Calendar :=
  { date.blankCalendar utcOffset with weeks := weeks }

/-- The cells that are filled in are those of the year, whatever the grid held. -/
theorem cell_fillUnixMilli_calendarOver (date : Dayjs) (weeks : List (List Int)) (week day : Nat) :
    cell (date.calendarOver utcOffset weeks).fillUnixMilli.weeks week day =
      if day < daysPerWeek ∧ OfYear (date.year utcOffset) (daysPerWeek * week + day) then
        (cell weeks week day).map fun _ =>
          (dateAt utcOffset (date.year utcOffset) (daysPerWeek * week + day)).valueOf
      else cell weeks week day := by
  have severalWeeks : 1 < (date.calendarOver utcOffset weeks).weekCount :=
    date.one_lt_weekCount utcOffset
  have origin : (date.calendarOver utcOffset weeks).originDay = originDay (date.year utcOffset) :=
    date.originDay_blankCalendar utcOffset
  have isDay : (date.calendarOver utcOffset weeks).originDay < daysPerWeek :=
    origin.trans_lt (originDay_lt _)
  have filled := (date.calendarOver utcOffset weeks).filledTo_weeks.foldl_fillWeek isDay
    ((date.calendarOver utcOffset weeks).weekCount - 1) (by omega)
  have lastWeek : daysPerWeek * ((date.calendarOver utcOffset weeks).weekCount - 1) +
      (date.calendarOver utcOffset weeks).endDay
        ((date.calendarOver utcOffset weeks).weekCount - 1) + 1 =
      originDay (date.year utcOffset) + daysInYear (date.year utcOffset) := by
    rw [Calendar.endDay, if_neg (by omega), if_pos rfl]
    exact date.lastDay_blankCalendar utcOffset
  have time : (date.calendarOver utcOffset weeks).timeOf (daysPerWeek * week + day) =
      (dateAt utcOffset (date.year utcOffset) (daysPerWeek * week + day)).valueOf :=
    date.timeOf_blankCalendar utcOffset _
  rw [lastWeek, Nat.sub_add_cancel severalWeeks.le] at filled
  rw [Calendar.fillUnixMilli, filled.cells, time, origin]
  rfl

theorem cell_blankCalendar (date : Dayjs) (week day : Nat) :
    cell (date.blankCalendar utcOffset).weeks week day =
      if week < (date.blankCalendar utcOffset).weekCount ∧ day < daysPerWeek then some 0
      else none :=
  cell_replicate _ _ _ _

/-- The cells that are filled in are those of the year. -/
theorem cell_fillUnixMilli (date : Dayjs) (week day : Nat) :
    cell (date.blankCalendar utcOffset).fillUnixMilli.weeks week day =
      if week < (date.blankCalendar utcOffset).weekCount ∧ day < daysPerWeek then
        some (if OfYear (date.year utcOffset) (daysPerWeek * week + day) then
          (dateAt utcOffset (date.year utcOffset) (daysPerWeek * week + day)).valueOf else 0)
      else none := by
  have filled : cell (date.blankCalendar utcOffset).fillUnixMilli.weeks week day = _ :=
    date.cell_fillUnixMilli_calendarOver utcOffset (date.blankCalendar utcOffset).weeks week day
  rw [filled, cell_blankCalendar]
  by_cases inside : week < (date.blankCalendar utcOffset).weekCount ∧ day < daysPerWeek
  · rw [if_pos inside, if_pos inside, Option.map_some, apply_ite some]
    simp only [inside.2, true_and]
  · rw [if_neg inside, if_neg inside, Option.map_none, ite_self]

/-- A cell that is shown with a date holds that of its place. -/
theorem ofYear_of_cell {date : Dayjs} {week day : Nat} {unixMilli : Int}
    (timeCell : cell (date.blankCalendar utcOffset).fillUnixMilli.weeks week day = some unixMilli)
    (isDated : unixMilli ≠ 0) :
    (week < (date.blankCalendar utcOffset).weekCount ∧ day < daysPerWeek) ∧
      OfYear (date.year utcOffset) (daysPerWeek * week + day) ∧
      unixMilli =
        (dateAt utcOffset (date.year utcOffset) (daysPerWeek * week + day)).valueOf := by
  rw [cell_fillUnixMilli] at timeCell
  split at timeCell
  · rename_i isCell
    split at timeCell
    · rename_i ofYear
      exact ⟨isCell, ofYear, (Option.some.inj timeCell).symm⟩
    · cases timeCell
      exact absurd rfl isDated
  · cases timeCell

/-! ## Week and day of the year -/

/-- Filling in the time puts the instant into the cell, whatever the grid held. -/
def Writes (date : Dayjs) (week day : Nat) (instant : Dayjs) : Prop :=
  ∀ weeks, IsGrid (date.blankCalendar utcOffset).weekCount weeks →
    cell (date.calendarOver utcOffset weeks).fillUnixMilli.weeks week day = some instant.valueOf

theorem writes_iff (date : Dayjs) (week day : Nat) (instant : Dayjs) :
    date.Writes utcOffset week day instant ↔
      (week < (date.blankCalendar utcOffset).weekCount ∧ day < daysPerWeek) ∧
        OfYear (date.year utcOffset) (daysPerWeek * week + day) ∧
        instant = dateAt utcOffset (date.year utcOffset) (daysPerWeek * week + day) := by
  constructor
  · intro writes
    have written := writes _ (isGrid_replicate _ (instant.valueOf + 1))
    rw [cell_fillUnixMilli_calendarOver, cell_replicate] at written
    have inside : week < (date.blankCalendar utcOffset).weekCount ∧ day < daysPerWeek := by
      by_contra outside
      rw [if_neg outside, Option.map_none, ite_self] at written
      cases written
    rw [if_pos inside] at written
    have ofYear : OfYear (date.year utcOffset) (daysPerWeek * week + day) := by
      by_contra notOfYear
      rw [if_neg fun dated => notOfYear dated.2, Option.some_inj] at written
      omega
    rw [if_pos ⟨inside.2, ofYear⟩, Option.map_some, Option.some_inj] at written
    exact ⟨inside, ofYear, congrArg Dayjs.mk written.symm⟩
  · rintro ⟨⟨isWeek, isDay⟩, ofYear, rfl⟩ weeks isGrid
    rcases Option.isSome_iff_exists.mp (isGrid.isSome_cell isWeek isDay) with ⟨held, holds⟩
    rw [cell_fillUnixMilli_calendarOver, if_pos ⟨isDay, ofYear⟩, holds, Option.map_some]

/-- The midnight of a date of the year is written at its place. -/
theorem writes_startOfDay {date other : Dayjs}
    (sameYear : other.year utcOffset = date.year utcOffset) :
    date.Writes utcOffset (other.place utcOffset / daysPerWeek)
      (other.place utcOffset % daysPerWeek) (other.startOfDay utcOffset) := by
  have ofYear := other.ofYear_place utcOffset
  rw [sameYear] at ofYear
  have isWeek := Nat.div_lt_of_lt_mul (date.lt_of_ofYear utcOffset ofYear)
  have isDay := Nat.mod_lt (other.place utcOffset) (show 0 < daysPerWeek by decide)
  have onDate := (startOfDay_eq_dateAt_iff utcOffset ofYear).mpr ⟨sameYear, rfl⟩
  rw [writes_iff, Nat.div_add_mod]
  exact ⟨⟨isWeek, isDay⟩, ofYear, onDate⟩

/-- What is written are the midnights of the year, each at its week and its day. -/
theorem writes_iff_weekAndDayOfYear (date : Dayjs) (week day : Nat) (instant : Dayjs) :
    date.Writes utcOffset week day instant ↔
      instant.startOfDay utcOffset = instant ∧
        instant.year utcOffset = date.year utcOffset ∧
        instant.weekAndDayOfYear utcOffset = ((week : ℚ), day) := by
  constructor
  · intro writes
    rcases (date.writes_iff utcOffset week day instant).mp writes with ⟨⟨-, isDay⟩, ofYear, rfl⟩
    have atMidnight :=
      startOfDay_dateAt utcOffset (date.year utcOffset) (daysPerWeek * week + day)
    rcases (startOfDay_eq_dateAt_iff utcOffset ofYear).mp atMidnight with ⟨sameYear, place⟩
    refine ⟨atMidnight, sameYear, ?_⟩
    rw [weekAndDayOfYear_eq, place, Nat.mul_add_div (by decide), Nat.div_eq_of_lt isDay,
      Nat.add_zero, Nat.mul_add_mod, Nat.mod_eq_of_lt isDay]
  · rintro ⟨atMidnight, sameYear, weekAndDay⟩
    rw [weekAndDayOfYear_eq, Prod.mk.injEq, Nat.cast_inj] at weekAndDay
    rcases weekAndDay with ⟨rfl, rfl⟩
    have written := writes_startOfDay utcOffset sameYear
    rwa [atMidnight] at written

/-- The week and the day of a date are those of a cell, which holds its midnight. -/
theorem exists_weekAndDayOfYear {date other : Dayjs}
    (sameYear : other.year utcOffset = date.year utcOffset) :
    ∃ week day : Nat, other.weekAndDayOfYear utcOffset = ((week : ℚ), day) ∧
      week < (date.blankCalendar utcOffset).weekCount ∧ day < daysPerWeek ∧
      cell (date.blankCalendar utcOffset).fillUnixMilli.weeks week day =
        some (other.startOfDay utcOffset).valueOf := by
  have written := writes_startOfDay utcOffset sameYear
  rcases (date.writes_iff utcOffset _ _ _).mp written with ⟨⟨isWeek, isDay⟩, -⟩
  exact ⟨_, _, other.weekAndDayOfYear_eq utcOffset, isWeek, isDay,
    written _ (isGrid_replicate _ 0)⟩

/-- Every day of the year is written to one cell. -/
theorem existsUnique_writes (date : Dayjs) {dayNumber : Int}
    (sameYear : yearOf dayNumber = date.year utcOffset) :
    ∃! address : Nat × Nat,
      date.Writes utcOffset address.1 address.2 (midnight utcOffset dayNumber) := by
  have ofYear : (midnight utcOffset dayNumber).year utcOffset = date.year utcOffset := by
    rw [year, dayNumber_midnight, sameYear]
  have written (address : Nat × Nat) :
      date.Writes utcOffset address.1 address.2 (midnight utcOffset dayNumber) ↔
        (midnight utcOffset dayNumber).weekAndDayOfYear utcOffset =
          ((address.1 : ℚ), address.2) := by
    simp only [writes_iff_weekAndDayOfYear, startOfDay_midnight, ofYear, true_and]
  simp only [written, weekAndDayOfYear_eq, Prod.mk.injEq, Nat.cast_inj]
  refine ⟨(_, _), ⟨rfl, rfl⟩, ?_⟩
  rintro ⟨week, day⟩ ⟨rfl, rfl⟩
  rfl

/-- A cell that nothing is written to stays empty. -/
theorem cell_of_not_writes (date : Dayjs) {week day : Nat}
    (isWeek : week < (date.blankCalendar utcOffset).weekCount) (isDay : day < daysPerWeek)
    (unwritten : ∀ instant, ¬date.Writes utcOffset week day instant) :
    cell (date.blankCalendar utcOffset).fillUnixMilli.weeks week day = some 0 := by
  have notOfYear : ¬OfYear (date.year utcOffset) (daysPerWeek * week + day) := by
    intro ofYear
    exact unwritten _ ((date.writes_iff utcOffset week day _).mpr ⟨⟨isWeek, isDay⟩, ofYear, rfl⟩)
  rw [cell_fillUnixMilli, if_pos ⟨isWeek, isDay⟩, if_neg notOfYear]

/-- Filling in the time and `weekAndDayOfYear` are inverse to each other. -/
theorem fillUnixMilli_weekAndDayOfYear (date : Dayjs) :
    (∀ dayNumber, yearOf dayNumber = date.year utcOffset →
      ∃! address : Nat × Nat,
        date.Writes utcOffset address.1 address.2 (midnight utcOffset dayNumber)) ∧
    (∀ week day, week < (date.blankCalendar utcOffset).weekCount → day < daysPerWeek →
      (∀ instant, ¬date.Writes utcOffset week day instant) →
        cell (date.blankCalendar utcOffset).fillUnixMilli.weeks week day = some 0) ∧
    (∀ other : Dayjs, other.year utcOffset = date.year utcOffset →
      ∃ week day : Nat, other.weekAndDayOfYear utcOffset = ((week : ℚ), day) ∧
        week < (date.blankCalendar utcOffset).weekCount ∧ day < daysPerWeek ∧
        cell (date.blankCalendar utcOffset).fillUnixMilli.weeks week day =
          some (other.startOfDay utcOffset).valueOf) ∧
    ∀ (week day : Nat) (instant : Dayjs), date.Writes utcOffset week day instant ↔
      instant.startOfDay utcOffset = instant ∧
        instant.year utcOffset = date.year utcOffset ∧
        instant.weekAndDayOfYear utcOffset = ((week : ℚ), day) := by
  constructor
  · intro dayNumber
    exact date.existsUnique_writes utcOffset
  constructor
  · intro week day isWeek isDay unwritten
    exact date.cell_of_not_writes utcOffset isWeek isDay unwritten
  constructor
  · intro other
    exact exists_weekAndDayOfYear utcOffset
  · exact date.writes_iff_weekAndDayOfYear utcOffset

end Local

end Dayjs

namespace Calendar

/-! ## Filling in the events -/

/-- The row at an index that is computed as a number. -/
def rowIndex (week : ℚ) : Option Nat :=
  if week.den = 1 ∧ 0 ≤ week.num then some week.num.toNat else none

/-- `weeks[week][day] += 1`, which throws where there is no such week. -/
def increment (weeks : List (List Int)) (weekAndDay : ℚ × Nat) : Option (List (List Int)) :=
  match rowIndex weekAndDay.1 with
  | some week =>
      if week < weeks.length then some (modifyCell weeks week weekAndDay.2 (· + 1)) else none
  | none => none

def fillEventCount (utcOffset : Int) (events : List Dayjs) (calendar : Calendar) :
    Option Calendar :=
  (events.foldlM (fun weeks event => increment weeks (event.weekAndDayOfYear utcOffset))
    calendar.weeks).map fun weeks => { calendar with weeks := weeks }

theorem length_modifyCell (weeks : List (List Int)) (week day : Nat) (change : Int → Int) :
    (modifyCell weeks week day change).length = weeks.length :=
  List.length_modify ..

section Counts

variable (utcOffset : Int)

/-- An event is counted at its place. -/
theorem increment_weekAndDayOfYear (weeks : List (List Int)) (event : Dayjs) :
    increment weeks (event.weekAndDayOfYear utcOffset) =
      if event.place utcOffset / daysPerWeek < weeks.length then
        some (modifyCell weeks (event.place utcOffset / daysPerWeek)
          (event.place utcOffset % daysPerWeek) (· + 1))
      else none := by
  have whole : rowIndex ((event.place utcOffset / daysPerWeek : Nat) : ℚ) =
      some (event.place utcOffset / daysPerWeek) := by
    rw [rowIndex, Rat.den_natCast, Rat.num_natCast, Int.toNat_natCast]
    exact if_pos ⟨rfl, Int.natCast_nonneg _⟩
  rw [Dayjs.weekAndDayOfYear_eq, increment, whole]

/-- Counting throws exactly where an event has no row. -/
theorem exists_counted_iff (events : List Dayjs) :
    ∀ weeks : List (List Int),
      (∃ counted, events.foldlM
          (fun weeks event => increment weeks (event.weekAndDayOfYear utcOffset)) weeks =
            some counted) ↔
        ∀ event ∈ events, event.place utcOffset / daysPerWeek < weeks.length := by
  induction events with
  | nil =>
      intro weeks
      simp
  | cons event events inductionHypothesis =>
      intro weeks
      rw [List.foldlM_cons, increment_weekAndDayOfYear, List.forall_mem_cons]
      split
      · rename_i inside
        rw [Option.bind_eq_bind, Option.bind_some, inductionHypothesis, length_modifyCell]
        exact (and_iff_right inside).symm
      · rename_i outside
        simp [outside]

/-- The number of events at a place. -/
def countAt (events : List Dayjs) (place : Nat) : Int :=
  (events.countP fun event => event.place utcOffset = place : Nat)

/-- A cell is raised by the number of events at its place. -/
theorem cell_counted (events : List Dayjs) :
    ∀ {weeks counted : List (List Int)},
      events.foldlM (fun weeks event => increment weeks (event.weekAndDayOfYear utcOffset)) weeks =
        some counted →
      ∀ {week day : Nat}, day < daysPerWeek →
        cell counted week day =
          (cell weeks week day).map (· + countAt utcOffset events (daysPerWeek * week + day)) := by
  induction events with
  | nil =>
      intro weeks counted equal week day _
      cases equal
      simp [countAt]
  | cons event events inductionHypothesis =>
      intro weeks counted equal week day isDay
      rw [List.foldlM_cons, increment_weekAndDayOfYear] at equal
      split at equal
      · rw [inductionHypothesis equal isDay, cell_modifyCell, countAt, countAt,
          List.countP_cons]
        have here : event.place utcOffset / daysPerWeek = week ∧
            event.place utcOffset % daysPerWeek = day ↔
              event.place utcOffset = daysPerWeek * week + day := by
          rw [daysPerWeek] at isDay ⊢
          omega
        by_cases atPlace : event.place utcOffset = daysPerWeek * week + day
        · rw [if_pos (here.mpr atPlace), if_pos (decide_eq_true atPlace), Option.map_map]
          congr 1
          funext count
          simp only [Function.comp_apply, Nat.cast_add, Nat.cast_one]
          ring
        · rw [if_neg (here.not.mpr atPlace), if_neg (by simpa using atPlace), Nat.add_zero]
      · cases equal

theorem countP_eq_countP_iff {α : Type} {larger smaller : α → Bool} {items : List α}
    (within : ∀ item ∈ items, smaller item = true → larger item = true) :
    items.countP larger = items.countP smaller ↔
      ∀ item ∈ items, larger item = true → smaller item = true := by
  have filtered : (items.filter larger).countP smaller = items.countP smaller := by
    rw [List.countP_filter]
    apply List.countP_congr
    intro item present
    rw [Bool.and_eq_true]
    exact and_iff_left_of_imp (within item present)
  rw [← filtered, List.countP_eq_length_filter, eq_comm, List.countP_eq_length]
  simp only [List.mem_filter, and_imp]

end Counts

end Calendar

namespace Dayjs

section Counts

variable (utcOffset : Int)

/-! ## The counts that are shown -/

/-- The number of events that start on the same day as `date`. -/
def countOn (events : List Dayjs) (date : Dayjs) : Int :=
  (events.countP fun event => event.startOfDay utcOffset = date.startOfDay utcOffset : Nat)

/-- The cells that are shown with a date are counted, and each shows the number
of the events that start on its date. -/
def CountsShown (date : Dayjs) (events : List Dayjs) : Prop :=
  ∃ timed counted,
    date.calendar utcOffset (fun calendar => some calendar.fillUnixMilli) = some timed ∧
      date.calendar utcOffset (Calendar.fillEventCount utcOffset events) = some counted ∧
      ∀ week day unixMilli, cell timed.weeks week day = some unixMilli → unixMilli ≠ 0 →
        cell counted.weeks week day = some (countOn utcOffset events ⟨unixMilli⟩)

/-- The place is that of a cell which is shown without a date in a year. -/
def Undated (year : Int) (place : Nat) : Prop :=
  place < daysPerWeek * (if isLeapYear year && originDay year = saturday then 54 else 53) ∧
    (OfYear year place → (dateAt utcOffset year place).valueOf = 0)

theorem exists_counts_iff (date : Dayjs) (events : List Dayjs) :
    (∃ counted, date.calendar utcOffset (Calendar.fillEventCount utcOffset events) = some counted) ↔
      ∀ event ∈ events,
        event.place utcOffset < daysPerWeek * (date.blankCalendar utcOffset).weekCount := by
  have rows : (date.blankCalendar utcOffset).weeks.length =
      (date.blankCalendar utcOffset).weekCount := List.length_replicate ..
  have throws := Calendar.exists_counted_iff utcOffset events (date.blankCalendar utcOffset).weeks
  simp only [rows, Nat.div_lt_iff_lt_mul (show 0 < daysPerWeek by decide),
    Nat.mul_comm _ daysPerWeek] at throws
  rw [← throws]
  constructor
  · rintro ⟨counted, fills⟩
    rcases Option.map_eq_some_iff.mp fills with ⟨weeks, counts, _⟩
    exact ⟨weeks, counts⟩
  · rintro ⟨weeks, counts⟩
    exact ⟨_, Option.map_eq_some_iff.mpr ⟨weeks, counts, rfl⟩⟩

/-- On a date of the year the events at its place are counted, whatever their year. -/
theorem countAt_eq_iff (events : List Dayjs) {year : Int} {place : Nat}
    (ofYear : OfYear year place) :
    Calendar.countAt utcOffset events place =
        countOn utcOffset events (dateAt utcOffset year place) ↔
      ∀ event ∈ events, event.place utcOffset = place → event.year utcOffset = year := by
  rw [Calendar.countAt, countOn, Nat.cast_inj, startOfDay_dateAt,
    Calendar.countP_eq_countP_iff]
  · simp only [decide_eq_true_eq, startOfDay_eq_dateAt_iff utcOffset ofYear]
    constructor
    · intro onDate event present atPlace
      exact (onDate event present atPlace).1
    · intro ofSameYear event present atPlace
      exact ⟨ofSameYear event present atPlace, atPlace⟩
  · intro event _ onDate
    rw [decide_eq_true_eq, startOfDay_eq_dateAt_iff utcOffset ofYear] at onDate
    exact decide_eq_true onDate.2

/-- The cells of a calendar with the counts. -/
theorem cell_fillEventCount (date : Dayjs) {events : List Dayjs} {counted : Calendar}
    (fills : date.calendar utcOffset (Calendar.fillEventCount utcOffset events) = some counted)
    {week day : Nat} (isWeek : week < (date.blankCalendar utcOffset).weekCount)
    (isDay : day < daysPerWeek) :
    cell counted.weeks week day =
      some (Calendar.countAt utcOffset events (daysPerWeek * week + day)) := by
  rw [calendar, Calendar.fillEventCount, Option.map_eq_some_iff] at fills
  rcases fills with ⟨weeks, counts, rfl⟩
  rw [Calendar.cell_counted utcOffset events counts isDay, cell_blankCalendar,
    if_pos ⟨isWeek, isDay⟩, Option.map_some, Int.zero_add]

/-- An event that is counted on a date of the year has to be of that year. -/
theorem year_eq_of_countsShown {date event : Dayjs} {events : List Dayjs}
    (countsShown : date.CountsShown utcOffset events) (present : event ∈ events)
    (ofYear : OfYear (date.year utcOffset) (event.place utcOffset))
    (isDated : (dateAt utcOffset (date.year utcOffset) (event.place utcOffset)).valueOf ≠ 0) :
    event.year utcOffset = date.year utcOffset := by
  rcases countsShown with ⟨timed, counted, times, fills, shown⟩
  have isWeek : event.place utcOffset / daysPerWeek <
      (date.blankCalendar utcOffset).weekCount := by
    rw [Nat.div_lt_iff_lt_mul (by decide), Nat.mul_comm]
    exact date.lt_of_ofYear utcOffset ofYear
  have isDay : event.place utcOffset % daysPerWeek < daysPerWeek := Nat.mod_lt _ (by decide)
  have timeCell := date.cell_fillUnixMilli utcOffset (event.place utcOffset / daysPerWeek)
    (event.place utcOffset % daysPerWeek)
  rw [if_pos ⟨isWeek, isDay⟩, Nat.div_add_mod, if_pos ofYear] at timeCell
  cases times
  have count := shown _ _ _ timeCell isDated
  rw [date.cell_fillEventCount utcOffset fills isWeek isDay, Nat.div_add_mod,
    Option.some_inj] at count
  exact (countAt_eq_iff utcOffset events ofYear).mp count event present rfl

/-- The counts are right exactly when every event of another year has its place at
a cell without a date. -/
theorem countsShown_iff (date : Dayjs) (events : List Dayjs) :
    date.CountsShown utcOffset events ↔
      ∀ event ∈ events, event.year utcOffset = date.year utcOffset ∨
        Undated utcOffset (date.year utcOffset) (event.place utcOffset) := by
  constructor
  · intro countsShown event present
    by_cases sameYear : event.year utcOffset = date.year utcOffset
    · exact .inl sameYear
    · right
      constructor
      · rcases countsShown with ⟨_, counted, _, fills, _⟩
        rw [← weekCount_blankCalendar]
        exact (exists_counts_iff utcOffset date events).mp ⟨counted, fills⟩ event present
      · intro ofYear
        by_contra isDated
        exact sameYear (year_eq_of_countsShown utcOffset countsShown present ofYear isDated)
  · intro harmless
    have inside : ∀ event ∈ events,
        event.place utcOffset < daysPerWeek * (date.blankCalendar utcOffset).weekCount := by
      intro event present
      cases harmless event present with
      | inl sameYear =>
          apply date.lt_of_ofYear
          rw [← sameYear]
          exact event.ofYear_place utcOffset
      | inr undated =>
          rw [weekCount_blankCalendar]
          exact undated.1
    rcases (exists_counts_iff utcOffset date events).mpr inside with ⟨counted, fills⟩
    refine ⟨_, counted, rfl, fills, ?_⟩
    intro week day unixMilli timeCell isDated
    rcases ofYear_of_cell utcOffset timeCell isDated with ⟨isCell, ofYear, rfl⟩
    rw [date.cell_fillEventCount utcOffset fills isCell.1 isCell.2, Option.some_inj,
      countAt_eq_iff utcOffset events ofYear]
    intro event present atPlace
    cases harmless event present with
    | inl sameYear => exact sameYear
    | inr undated =>
        rw [atPlace] at undated
        exact absurd (undated.2 ofYear) isDated

/-- The last day of 2020 is counted on the day before the last one of 2021. -/
theorem not_countsShown_lastYear :
    ¬(Dayjs.mk 1610683200000).CountsShown 28800 [⟨1609416000000⟩] := by
  intro countsShown
  have sameYear := year_eq_of_countsShown 28800 countsShown (List.mem_singleton_self _)
    (by decide) (by decide)
  revert sameYear
  decide

end Counts

end Dayjs

end Bug.Frontend
