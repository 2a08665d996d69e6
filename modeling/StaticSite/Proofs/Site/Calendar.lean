import Mathlib.Order.Monotone.Basic
import StaticSite.Site.Clock

/-!
Contract: the days of the calendar, counted.

Owns:
- the dates that there are, and the number of each of them, counted from the year zero on;
- the law that the number of a date tells the date;
- the law that the dates after and before a date are those with the numbers beside its own,
  over the ends of months and years and over leap days.

Does not own: times of day (see `StaticSite.Proofs.Site.Instant`).
-/

namespace StaticSite.Site

/-! ## Counting days -/

/-- Whether a date is one of the calendar. -/
structure Date.IsValid (date : Date) : Prop where
  fromFirstYear : 1 ≤ date.year
  toLastYear : date.year ≤ lastYear
  fromFirstMonth : 1 ≤ date.month
  toLastMonth : date.month ≤ 12
  fromFirstDay : 1 ≤ date.day
  toLastDay : date.day ≤ daysInMonth date.year date.month

/-- The number of days of a year before one of its months. -/
def daysBeforeMonth (year : Nat) : Nat → Nat
  | 0 => 0
  | 1 => 0
  | month + 2 => daysBeforeMonth year (month + 1) + daysInMonth year (month + 1)

def daysInYear (year : Nat) : Nat :=
  daysBeforeMonth year 13

/-- The number of days before a year, from the year zero on. -/
def daysBeforeYear : Nat → Nat
  | 0 => 0
  | year + 1 => daysBeforeYear year + daysInYear year

/-- The number of a date: how many days have begun with it, from the year zero on. -/
def Date.dayNumber (date : Date) : Nat :=
  daysBeforeYear date.year + daysBeforeMonth date.year date.month + date.day

def firstDate : Date := ⟨1, 1, 1⟩

def lastDate : Date := ⟨lastYear, 12, 31⟩

theorem daysBeforeMonth_succ (year : Nat) {month : Nat} (some : 1 ≤ month) :
    daysBeforeMonth year (month + 1) = daysBeforeMonth year month + daysInMonth year month := by
  obtain ⟨before, rfl⟩ := Nat.exists_eq_add_of_le' some
  rfl

theorem daysInYear_eq (year : Nat) :
    daysInYear year = if isLeapYear year then 366 else 365 := by
  have february : daysInMonth year 2 = if isLeapYear year then 29 else 28 := rfl
  have isSum : daysInYear year =
      31 + daysInMonth year 2 + 31 + 30 + 31 + 30 + 31 + 31 + 30 + 31 + 30 + 31 := by
    simp [daysInYear, daysBeforeMonth, daysInMonth]
  rw [isSum, february]
  split <;> rfl

/-- Of the years, each fourth is a leap year, but of the hundreds only each fourth. -/
theorem daysBeforeYear_eq (year : Nat) :
    daysBeforeYear year =
      365 * year + (year + 3) / 4 - (year + 99) / 100 + (year + 399) / 400 := by
  induction year with
  | zero => rfl
  | succ year inductionHypothesis =>
      have fourths : (year + 1 + 3) / 4 = (year + 3) / 4 + if year % 4 = 0 then 1 else 0 := by
        split <;> omega
      have hundreds :
          (year + 1 + 99) / 100 = (year + 99) / 100 + if year % 100 = 0 then 1 else 0 := by
        split <;> omega
      have fourHundreds :
          (year + 1 + 399) / 400 = (year + 399) / 400 + if year % 400 = 0 then 1 else 0 := by
        split <;> omega
      have fewer : (year + 99) / 100 ≤ (year + 3) / 4 := by omega
      have isLeap : (if isLeapYear year then 366 else 365) + (if year % 100 = 0 then 1 else 0) =
          365 + (if year % 4 = 0 then 1 else 0) + if year % 400 = 0 then 1 else 0 := by
        simp only [isLeapYear, Bool.and_eq_true, Bool.or_eq_true, beq_iff_eq, bne_iff_ne]
        split <;> split <;> split <;> split <;> omega
      rw [daysBeforeYear, inductionHypothesis, daysInYear_eq, fourths, hundreds, fourHundreds]
      omega

example : Date.dayNumber ⟨1970, 1, 1⟩ - firstDate.dayNumber = 719162 := by
  rw [Date.dayNumber, Date.dayNumber, daysBeforeYear_eq, daysBeforeYear_eq]
  rfl

theorem daysBeforeMonth_mono (year : Nat) : Monotone (daysBeforeMonth year) := by
  refine monotone_nat_of_le_succ fun month => ?_
  rcases Nat.eq_zero_or_pos month with rfl | some
  · exact Nat.le_refl _
  · rw [daysBeforeMonth_succ year some]
    exact Nat.le_add_right _ _

theorem daysBeforeYear_mono : Monotone daysBeforeYear :=
  monotone_nat_of_le_succ fun _ => Nat.le_add_right _ _

/-! ## The number of a date tells the date -/

section

variable {date : Date} (valid : date.IsValid)

include valid

/-- A date lies in its month. -/
theorem Date.IsValid.day_in_month :
    daysBeforeMonth date.year date.month < daysBeforeMonth date.year date.month + date.day ∧
      daysBeforeMonth date.year date.month + date.day ≤
        daysBeforeMonth date.year (date.month + 1) := by
  rw [daysBeforeMonth_succ date.year valid.fromFirstMonth]
  exact ⟨Nat.lt_add_of_pos_right valid.fromFirstDay, Nat.add_le_add_left valid.toLastDay _⟩

theorem Date.IsValid.day_in_year :
    daysBeforeYear date.year < date.dayNumber ∧
      date.dayNumber ≤ daysBeforeYear (date.year + 1) := by
  have inMonth := valid.day_in_month
  have beforeEnd : daysBeforeMonth date.year (date.month + 1) ≤ daysInYear date.year :=
    daysBeforeMonth_mono date.year (Nat.succ_le_succ valid.toLastMonth)
  rw [daysBeforeYear, Date.dayNumber]
  omega

end

/-- Only one of several parts that follow one another holds a given day. -/
theorem eq_of_between {before : Nat → Nat} (mono : Monotone before) {first second day : Nat}
    (inFirst : before first < day ∧ day ≤ before (first + 1))
    (inSecond : before second < day ∧ day ≤ before (second + 1)) : first = second := by
  rcases Nat.lt_trichotomy first second with earlier | same | later
  · have ended : before (first + 1) ≤ before second := mono earlier
    omega
  · exact same
  · have ended : before (second + 1) ≤ before first := mono later
    omega

theorem Date.eq_of_dayNumber_eq {date other : Date} (valid : date.IsValid)
    (otherValid : other.IsValid) (same : date.dayNumber = other.dayNumber) : date = other := by
  obtain ⟨year, month, day⟩ := date
  obtain ⟨otherYear, otherMonth, otherDay⟩ := other
  obtain rfl : year = otherYear :=
    eq_of_between daysBeforeYear_mono valid.day_in_year (same ▸ otherValid.day_in_year)
  have sameDay : daysBeforeMonth year month + day = daysBeforeMonth year otherMonth + otherDay := by
    simpa only [Date.dayNumber, Nat.add_assoc, Nat.add_left_cancel_iff] using same
  obtain rfl : month = otherMonth :=
    eq_of_between (daysBeforeMonth_mono year) valid.day_in_month
      (sameDay ▸ otherValid.day_in_month)
  obtain rfl : day = otherDay := Nat.add_left_cancel sameDay
  rfl

/-! ## The dates beside a date -/

theorem one_le_daysInMonth (year month : Nat) : 1 ≤ daysInMonth year month := by
  unfold daysInMonth
  split
  · split <;> decide
  · split <;> decide

theorem daysInMonth_le (year month : Nat) : daysInMonth year month ≤ 31 := by
  unfold daysInMonth
  split
  · split <;> decide
  · split <;> decide

theorem Date.IsValid.of_next?_eq_some {date next : Date} (valid : date.IsValid)
    (isNext : date.next? = some next) :
    next.IsValid ∧ next.dayNumber = date.dayNumber + 1 := by
  have dayOne := one_le_daysInMonth
  have toEnd := valid.toLastDay
  unfold Date.next? at isNext
  split at isNext
  · rename_i inMonth
    obtain rfl := Option.some.inj isNext
    exact ⟨{ valid with fromFirstDay := Nat.le_add_left 1 _, toLastDay := inMonth }, rfl⟩
  · rename_i monthEnds
    have isLastDay : date.day = daysInMonth date.year date.month := by omega
    split at isNext
    · rename_i inYear
      obtain rfl := Option.some.inj isNext
      refine ⟨{ valid with
        fromFirstMonth := Nat.le_add_left 1 _
        toLastMonth := inYear
        fromFirstDay := Nat.le_refl 1
        toLastDay := dayOne _ _ }, ?_⟩
      simp only [Date.dayNumber, daysBeforeMonth_succ date.year valid.fromFirstMonth, isLastDay]
      omega
    · rename_i yearEnds
      have isLastMonth : date.month = 12 := by
        have := valid.toLastMonth
        omega
      split at isNext
      · rename_i inCalendar
        obtain rfl := Option.some.inj isNext
        refine ⟨⟨Nat.le_add_left 1 _, inCalendar, Nat.le_refl 1, (by decide : 1 ≤ 12),
          Nat.le_refl 1, dayOne _ _⟩, ?_⟩
        have yearLength : daysInYear date.year =
            daysBeforeMonth date.year 12 + daysInMonth date.year 12 := rfl
        simp only [Date.dayNumber, isLastDay, isLastMonth, daysBeforeYear, yearLength,
          daysBeforeMonth]
        omega
      · cases isNext

theorem Date.IsValid.of_previous?_eq_some {date previous : Date} (valid : date.IsValid)
    (isPrevious : date.previous? = some previous) :
    previous.IsValid ∧ previous.dayNumber + 1 = date.dayNumber := by
  have fromFirst := valid.fromFirstDay
  unfold Date.previous? at isPrevious
  split at isPrevious
  · rename_i inMonth
    obtain rfl := Option.some.inj isPrevious
    refine ⟨{ valid with
      fromFirstDay := Nat.le_sub_one_of_lt inMonth
      toLastDay := (Nat.sub_le _ _).trans valid.toLastDay }, ?_⟩
    simp only [Date.dayNumber]
    omega
  · rename_i monthBegins
    have isFirstDay : date.day = 1 := by omega
    split at isPrevious
    · rename_i inYear
      obtain rfl := Option.some.inj isPrevious
      refine ⟨{ valid with
        fromFirstMonth := Nat.le_sub_one_of_lt inYear
        toLastMonth := (Nat.sub_le _ _).trans valid.toLastMonth
        fromFirstDay := one_le_daysInMonth _ _
        toLastDay := Nat.le_refl _ }, ?_⟩
      have monthLength := daysBeforeMonth_succ date.year (Nat.le_sub_one_of_lt inYear)
      rw [Nat.sub_add_cancel valid.fromFirstMonth] at monthLength
      simp only [Date.dayNumber, isFirstDay, monthLength]
      omega
    · rename_i yearBegins
      have isFirstMonth : date.month = 1 := by
        have := valid.fromFirstMonth
        omega
      split at isPrevious
      · rename_i inCalendar
        obtain rfl := Option.some.inj isPrevious
        refine ⟨⟨Nat.le_sub_one_of_lt inCalendar, (Nat.sub_le _ _).trans valid.toLastYear,
          (by decide : 1 ≤ 12), Nat.le_refl 12, (by decide : 1 ≤ 31), Nat.le_refl 31⟩, ?_⟩
        have yearLength : daysInYear (date.year - 1) =
            daysBeforeMonth (date.year - 1) 12 + 31 := rfl
        have isYear : date.year = date.year - 1 + 1 := by omega
        have before : daysBeforeYear date.year =
            daysBeforeYear (date.year - 1) + daysInYear (date.year - 1) := by
          conv_lhs => rw [isYear, daysBeforeYear]
        simp only [Date.dayNumber, isFirstDay, isFirstMonth, before, yearLength, daysBeforeMonth]
        omega
      · cases isPrevious

theorem Date.IsValid.eq_lastDate {date : Date} (valid : date.IsValid)
    (noNext : date.next? = none) : date = lastDate := by
  unfold Date.next? at noNext
  split at noNext
  · cases noNext
  · rename_i monthEnds
    split at noNext
    · cases noNext
    · rename_i yearEnds
      split at noNext
      · cases noNext
      · rename_i calendarEnds
        obtain ⟨year, month, day⟩ := date
        obtain rfl : year = lastYear := Nat.le_antisymm valid.toLastYear (Nat.not_lt.mp calendarEnds)
        obtain rfl : month = 12 := Nat.le_antisymm valid.toLastMonth (Nat.not_lt.mp yearEnds)
        obtain rfl : day = 31 := Nat.le_antisymm valid.toLastDay (Nat.not_lt.mp monthEnds)
        rfl

theorem Date.IsValid.eq_firstDate {date : Date} (valid : date.IsValid)
    (noPrevious : date.previous? = none) : date = firstDate := by
  unfold Date.previous? at noPrevious
  split at noPrevious
  · cases noPrevious
  · rename_i monthBegins
    split at noPrevious
    · cases noPrevious
    · rename_i yearBegins
      split at noPrevious
      · cases noPrevious
      · rename_i calendarBegins
        obtain ⟨year, month, day⟩ := date
        obtain rfl : year = 1 := Nat.le_antisymm (Nat.not_lt.mp calendarBegins) valid.fromFirstYear
        obtain rfl : month = 1 := Nat.le_antisymm (Nat.not_lt.mp yearBegins) valid.fromFirstMonth
        obtain rfl : day = 1 := Nat.le_antisymm (Nat.not_lt.mp monthBegins) valid.fromFirstDay
        rfl

theorem dayNumber_yearEnd (year : Nat) :
    Date.dayNumber ⟨year, 12, 31⟩ = daysBeforeYear (year + 1) :=
  Nat.add_assoc _ _ _

/-- The numbers of the dates of the calendar run from that of the first to that of the last. -/
theorem Date.IsValid.dayNumber_between {date : Date} (valid : date.IsValid) :
    firstDate.dayNumber ≤ date.dayNumber ∧ date.dayNumber ≤ lastDate.dayNumber := by
  have inYear := valid.day_in_year
  have fromFirst : daysBeforeYear 1 ≤ daysBeforeYear date.year :=
    daysBeforeYear_mono valid.fromFirstYear
  have toLast : daysBeforeYear (date.year + 1) ≤ daysBeforeYear (lastYear + 1) :=
    daysBeforeYear_mono (Nat.succ_le_succ valid.toLastYear)
  have isFirst : firstDate.dayNumber = daysBeforeYear 1 + 1 := rfl
  have isLast : lastDate.dayNumber = daysBeforeYear (lastYear + 1) := dayNumber_yearEnd lastYear
  omega

theorem Date.IsValid.next?_eq_some_iff {date next : Date} (valid : date.IsValid) :
    date.next? = some next ↔ next.IsValid ∧ next.dayNumber = date.dayNumber + 1 := by
  refine ⟨valid.of_next?_eq_some, fun ⟨nextValid, isNumber⟩ => ?_⟩
  cases isNext : date.next? with
  | some found =>
      obtain ⟨foundValid, foundNumber⟩ := valid.of_next?_eq_some isNext
      rw [eq_of_dayNumber_eq foundValid nextValid (foundNumber.trans isNumber.symm)]
  | none =>
      have atEnd := nextValid.dayNumber_between.2
      rw [isNumber, valid.eq_lastDate isNext] at atEnd
      omega

theorem Date.IsValid.previous?_eq_some_iff {date previous : Date} (valid : date.IsValid) :
    date.previous? = some previous ↔
      previous.IsValid ∧ previous.dayNumber + 1 = date.dayNumber := by
  refine ⟨valid.of_previous?_eq_some, fun ⟨previousValid, isNumber⟩ => ?_⟩
  cases isPrevious : date.previous? with
  | some found =>
      obtain ⟨foundValid, foundNumber⟩ := valid.of_previous?_eq_some isPrevious
      have sameNumber := Nat.succ.inj (foundNumber.trans isNumber.symm)
      rw [eq_of_dayNumber_eq foundValid previousValid sameNumber]
  | none =>
      have atStart := previousValid.dayNumber_between.1
      rw [valid.eq_firstDate isPrevious] at isNumber
      omega

end StaticSite.Site
