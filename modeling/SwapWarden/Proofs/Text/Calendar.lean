import SwapWarden.Text.Timestamp

/-!
# Days and dates

Every day has one date of the calendar.  The calendar repeats after an era of
400 years; within an era, years and months are counted from March on, so that
the leap day is the last day of its year.
-/

namespace SwapWarden.Text.Timestamp

/-- A day of an era as a year of the era and a day of that year. -/
structure EraDay (day year dayOfYear : Int) : Prop where
  year_nonneg : 0 ≤ year
  year_le : year ≤ 399
  day_eq : day = year * 365 + year / 4 - year / 100 + dayOfYear
  dayOfYear_nonneg : 0 ≤ dayOfYear
  dayOfYear_le : dayOfYear ≤ 365
  leap : dayOfYear = 365 →
    (year + 1) % 4 = 0 ∧ ((year + 1) % 100 ≠ 0 ∨ (year + 1) % 400 = 0)

/-- The year of a day is found from an estimate of 365 days a year, less the
leap days before it.  The estimate counts one leap day after every 1460 days,
and so is right in each cycle of four years and in each century; only the last
day of the era is beyond the last cycle. -/
theorem eraDay {day year : Int} (nonneg : 0 ≤ day) (le : day ≤ 146096)
    (estimate :
      year = (day - day / 1460 + day / 36524 - day / 146096) / 365) :
    EraDay day year (day - (365 * year + year / 4 - year / 100)) := by
  by_cases last : day = 146096
  · subst last
    subst estimate
    constructor
    all_goals decide
  · obtain ⟨century, centuryDay, century_nonneg, century_le, day_eq, early,
        late⟩ :
        ∃ century rest : Int, 0 ≤ century ∧ century ≤ 3 ∧
          day = 36524 * century + rest ∧ 0 ≤ rest ∧ rest < 36524 :=
      ⟨day / 36524, day % 36524, by omega, by omega, by omega, by omega,
        by omega⟩
    obtain ⟨cycle, cycleDay, cycle_nonneg, cycle_le, centuryDay_eq,
        cycleDay_nonneg, cycleDay_lt⟩ :
        ∃ cycle rest : Int, 0 ≤ cycle ∧ cycle ≤ 24 ∧
          centuryDay = 1461 * cycle + rest ∧ 0 ≤ rest ∧ rest < 1461 :=
      ⟨centuryDay / 1461, centuryDay % 1461, by omega, by omega, by omega,
        by omega, by omega⟩
    obtain ⟨extra, extra_eq⟩ :
        ∃ extra : Int, extra = (24 * century + cycle + cycleDay) / 1460 :=
      ⟨_, rfl⟩
    obtain ⟨cycleYear, cycleYear_eq⟩ :
        ∃ cycleYear : Int, cycleYear = (cycleDay - extra) / 365 := ⟨_, rfl⟩
    have byCycle : day / 1460 = 25 * century + cycle + extra := by omega
    have byCentury : day / 36524 = century := by omega
    have byEra : day / 146096 = 0 := by omega
    have year_eq : year = 100 * century + 4 * cycle + cycleYear := by
      rw [estimate, byCycle, byCentury, byEra]
      omega
    clear estimate
    have cycleYear_le : cycleYear ≤ 3 := by omega
    have cycleYear_nonneg : 0 ≤ cycleYear := by omega
    have quarter : (100 * century + 4 * cycle + cycleYear) / 4 =
        25 * century + cycle := by omega
    have hundredth : (100 * century + 4 * cycle + cycleYear) / 100 =
        century := by omega
    rw [year_eq, quarter, hundredth]
    constructor
    · omega
    · omega
    · rw [quarter, hundredth]
      omega
    · omega
    · omega
    · intro final
      have lastDay : cycleDay = 1460 := by omega
      have lastYear : cycleYear = 3 := by omega
      have notLast : cycle ≤ 23 := by omega
      rw [lastYear]
      clear year_eq byCycle byCentury byEra quarter hundredth final
      exact ⟨by omega, .inl (by omega)⟩

/-- The date of a day by the era, the year of the era and the month of that
year, all counted from March. -/
structure DateParts (days era year dayOfYear month : Int) : Prop where
  day : EraDay (days + 719468 - era * 146097) year dayOfYear
  month_eq : month = (5 * dayOfYear + 2) / 153
  date : dateOfDays days =
    (if month < 10 then year + era * 400 else year + era * 400 + 1,
      if month < 10 then month + 3 else month - 9,
      dayOfYear - (153 * month + 2) / 5 + 1)

theorem dateParts (days : Int) :
    ∃ era year dayOfYear month, DateParts days era year dayOfYear month := by
  have whole : (days + 719468).fdiv 146097 = (days + 719468) / 146097 :=
    Int.fdiv_eq_ediv_of_nonneg _ (by decide)
  obtain ⟨era, era_eq⟩ : ∃ era : Int, era = (days + 719468) / 146097 :=
    ⟨_, rfl⟩
  have part := @eraDay (days + 719468 - era * 146097) _ (by omega) (by omega)
    rfl
  refine ⟨era, _, _, _, part, rfl, ?_⟩
  have first := part.dayOfYear_nonneg
  have last := part.dayOfYear_le
  simp only [dateOfDays, whole, ← era_eq]
  clear part whole era_eq
  revert first last
  generalize (_ / 365 : Int) = year
  generalize days + 719468 - era * 146097 - _ = dayOfYear
  intro first last
  generalize month_eq : (5 * dayOfYear + 2) / 153 = month
  by_cases early : month < 10
  · have after : ¬ month + 3 ≤ 2 := by omega
    simp only [if_pos early, if_neg after]
  · have before : month - 9 ≤ 2 := by omega
    simp only [if_neg early, if_pos before]

/-- A day of the calendar by its number and by its date. -/
structure CivilDate (days year : Int) (month day : Nat) : Prop where
  date : dateOfDays days = (year, (month : Int), (day : Int))
  days : daysOfDate year month day = days
  month_pos : 1 ≤ month
  month_le : month ≤ 12
  day_pos : 1 ≤ day
  day_le : day ≤ daysInMonth year month

section

variable {days era year dayOfYear month : Int}

theorem DateParts.month_bounds
    (parts : DateParts days era year dayOfYear month) :
    0 ≤ month ∧ month ≤ 11 := by
  have first := parts.day.dayOfYear_nonneg
  have last := parts.day.dayOfYear_le
  have month_eq := parts.month_eq
  constructor
  · omega
  · omega

theorem daysOfDate_march (year_nonneg : 0 ≤ year) (year_le : year ≤ 399)
    (month_nonneg : 0 ≤ month) (month_le : month ≤ 11) (day : Int) :
    daysOfDate (if month < 10 then year + era * 400 else year + era * 400 + 1)
        (if month < 10 then month + 3 else month - 9) day =
      era * 146097 + (year * 365 + year / 4 - year / 100 +
        ((153 * month + 2) / 5 + day - 1)) - 719468 := by
  have whole : (year + era * 400).fdiv 400 = era := by
    rw [Int.fdiv_eq_ediv_of_nonneg _ (by decide)]
    omega
  by_cases early : month < 10
  · have after : ¬ month + 3 ≤ 2 := by omega
    have since : month + 3 > 2 := by omega
    simp only [daysOfDate, if_pos early, if_neg after, if_pos since, whole]
    omega
  · have before : month - 9 ≤ 2 := by omega
    have notSince : ¬ month - 9 > 2 := by omega
    have previous : year + era * 400 + 1 - 1 = year + era * 400 := by omega
    simp only [daysOfDate, if_neg early, if_pos before, if_neg notSince,
      previous, whole]
    omega

theorem isLeapYear_next (leap : (year + 1) % 4 = 0 ∧
      ((year + 1) % 100 ≠ 0 ∨ (year + 1) % 400 = 0)) :
    isLeapYear (year + era * 400 + 1) = true := by
  have quarter : (year + era * 400 + 1) % 4 = 0 := by omega
  have century : (year + era * 400 + 1) % 100 ≠ 0 ∨
      (year + era * 400 + 1) % 400 = 0 := by omega
  rcases century with common | fourth
  · simp [isLeapYear, quarter, common]
  · simp [isLeapYear, quarter, fourth]

theorem day_le_daysInMonth {day : Int} (inEra : EraDay day year dayOfYear)
    (month_eq : month = (5 * dayOfYear + 2) / 153) :
    dayOfYear - (153 * month + 2) / 5 + 1 ≤
      daysInMonth
        (if month < 10 then year + era * 400 else year + era * 400 + 1)
        (if month < 10 then month + 3 else month - 9).toNat := by
  have first := inEra.dayOfYear_nonneg
  have last := inEra.dayOfYear_le
  by_cases february : month = 11
  · subst february
    by_cases leapDay : dayOfYear = 365
    · have leap : isLeapYear (year + era * 400 + 1) = true :=
        isLeapYear_next (inEra.leap leapDay)
      have length : daysInMonth (year + era * 400 + 1) 2 = 29 := by
        simp [daysInMonth, leap]
      change _ ≤ ((daysInMonth (year + era * 400 + 1) 2 : Nat) : Int)
      rw [length]
      omega
    · have length : 28 ≤ daysInMonth (year + era * 400 + 1) 2 := by
        simp only [daysInMonth]
        split
        · omega
        · omega
      change _ ≤ ((daysInMonth (year + era * 400 + 1) 2 : Nat) : Int)
      omega
  · have others : month = 0 ∨ month = 1 ∨ month = 2 ∨ month = 3 ∨ month = 4 ∨
        month = 5 ∨ month = 6 ∨ month = 7 ∨ month = 8 ∨ month = 9 ∨
        month = 10 := by omega
    rcases others with rfl | rfl | rfl | rfl | rfl | rfl | rfl | rfl | rfl |
      rfl | rfl
    all_goals
      simp only [Int.reduceLT, if_true, if_false, Int.reduceAdd, Int.reduceSub,
        Int.reduceToNat, daysInMonth]
      omega

theorem exists_civilDate (days : Int) :
    ∃ year month day, CivilDate days year month day := by
  obtain ⟨era, year, dayOfYear, month, parts⟩ := dateParts days
  have day_eq := parts.day.day_eq
  have month_eq := parts.month_eq
  have first := parts.day.dayOfYear_nonneg
  obtain ⟨month_nonneg, month_le⟩ := parts.month_bounds
  have monthText :
      ((if month < 10 then month + 3 else month - 9).toNat : Int) =
        if month < 10 then month + 3 else month - 9 := by
    apply Int.toNat_of_nonneg
    split
    · omega
    · omega
  have dayText : ((dayOfYear - (153 * month + 2) / 5 + 1).toNat : Int) =
      dayOfYear - (153 * month + 2) / 5 + 1 := by
    apply Int.toNat_of_nonneg
    omega
  refine ⟨if month < 10 then year + era * 400 else year + era * 400 + 1,
    (if month < 10 then month + 3 else month - 9).toNat,
    (dayOfYear - (153 * month + 2) / 5 + 1).toNat, ?_⟩
  constructor
  · rw [monthText, dayText]
    exact parts.date
  · rw [monthText, dayText, daysOfDate_march parts.day.year_nonneg
      parts.day.year_le month_nonneg month_le]
    omega
  · split
    · omega
    · omega
  · split
    · omega
    · omega
  · omega
  · apply Int.ofNat_le.mp
    rw [dayText]
    exact day_le_daysInMonth parts.day month_eq

theorem CivilDate.year_bounds {month day : Nat}
    (civil : CivilDate days year month day)
    (first : daysOfDate firstYear 1 1 ≤ days)
    (last : days < daysOfDate (lastYear + 1) 1 1) :
    firstYear ≤ year ∧ year ≤ lastYear := by
  obtain ⟨era, yearOfEra, dayOfYear, march, parts⟩ := dateParts days
  have day_eq := parts.day.day_eq
  have year_nonneg := parts.day.year_nonneg
  have year_le := parts.day.year_le
  have dayOfYear_nonneg := parts.day.dayOfYear_nonneg
  have dayOfYear_le := parts.day.dayOfYear_le
  have month_eq := parts.month_eq
  have year_eq : year =
      if march < 10 then yearOfEra + era * 400
      else yearOfEra + era * 400 + 1 := by
    have same := civil.date.symm.trans parts.date
    exact congrArg Prod.fst same
  have first_eq : daysOfDate firstYear 1 1 = -96465292 := by decide
  have last_eq : daysOfDate (lastYear + 1) 1 1 = 95026237 := by decide
  rw [first_eq] at first
  rw [last_eq] at last
  unfold firstYear lastYear
  have era_bounds : -656 ≤ era ∧ era ≤ 655 := by omega
  obtain rfl | rfl | within :
      era = -656 ∨ era = 655 ∨ (-655 ≤ era ∧ era ≤ 654) := by omega
  all_goals
    split at year_eq
    · omega
    · omega

end

end SwapWarden.Text.Timestamp
