import StaticSite.Proofs.Site.Calendar

/-!
Contract: the instants that times with an offset denote, and the same times in UTC.

Owns:
- the times that there are, and the instant of each, in microseconds;
- the law that conversion to UTC yields the time of the second in which the instant lies;
- the law that conversion fails exactly for the instants outside the calendar.

Does not own: dates (see `StaticSite.Proofs.Site.Calendar`) and the text of a time (see
`StaticSite.Proofs.Site.CompileTime`).
-/

namespace StaticSite.Site

/-! ## Instants -/

/-- Whether a date, a time of day and an offset are within their bounds. -/
structure ZonedTime.IsProper (time : ZonedTime) : Prop where
  date : time.date.IsValid
  hour : time.hour < 24
  minute : time.minute < 60
  second : time.second < 60
  fraction : time.fraction < secondLength
  offsetFraction : time.offsetFraction < minuteLength
  notFarBehind : -(dayLength : Int) < time.ahead
  notFarAhead : time.ahead < dayLength

/-- The instant that a time denotes: how many microseconds have passed in UTC since the day with
the number zero began. -/
def ZonedTime.instant (time : ZonedTime) : Int :=
  time.date.dayNumber * dayLength + time.timeOfDay - time.ahead

/-- Whether the instant of a time has a date in UTC. -/
def ZonedTime.InCalendar (time : ZonedTime) : Prop :=
  firstDate.dayNumber * dayLength ≤ time.instant ∧
    time.instant < (lastDate.dayNumber + 1) * dayLength

/-- Whether a date and a time of day in UTC are within their bounds. -/
structure UtcTime.IsProper (time : UtcTime) : Prop where
  date : time.date.IsValid
  hour : time.hour < 24
  minute : time.minute < 60
  second : time.second < 60

/-- How many seconds have passed in UTC since the day with the number zero began. -/
def UtcTime.seconds (time : UtcTime) : Nat :=
  time.date.dayNumber * 86400 + time.hour * 3600 + time.minute * 60 + time.second

theorem UtcTime.eq_of_seconds_eq {time other : UtcTime} (proper : time.IsProper)
    (otherProper : other.IsProper) (same : time.seconds = other.seconds) : time = other := by
  obtain ⟨date, hour, minute, second⟩ := time
  obtain ⟨otherDate, otherHour, otherMinute, otherSecond⟩ := other
  obtain ⟨valid, hourFits, minuteFits, secondFits⟩ := proper
  obtain ⟨otherValid, otherHourFits, otherMinuteFits, otherSecondFits⟩ := otherProper
  simp only [seconds] at *
  have sameDay : date.dayNumber = otherDate.dayNumber := by omega
  obtain rfl := Date.eq_of_dayNumber_eq valid otherValid sameDay
  obtain rfl : hour = otherHour := by omega
  obtain rfl : minute = otherMinute := by omega
  obtain rfl : second = otherSecond := by omega
  rfl

/-! ## Times of day -/

theorem coe_secondLength : (secondLength : Int) = 1000000 :=
  rfl

theorem coe_dayLength : (dayLength : Int) = 86400000000 :=
  rfl

theorem isProper_ofTimeOfDay {date : Date} (valid : date.IsValid) {timeOfDay : Nat}
    (inDay : timeOfDay < dayLength) : (UtcTime.ofTimeOfDay date timeOfDay).IsProper := by
  have inSeconds : timeOfDay / secondLength < 86400 := by
    simp only [dayLength, minuteLength, secondLength] at inDay ⊢
    omega
  refine ⟨valid, ?_, Nat.mod_lt _ (by decide), Nat.mod_lt _ (by decide)⟩
  simp only [UtcTime.ofTimeOfDay]
  omega

theorem seconds_ofTimeOfDay (date : Date) (timeOfDay : Nat) :
    (UtcTime.ofTimeOfDay date timeOfDay).seconds =
      date.dayNumber * 86400 + timeOfDay / secondLength := by
  simp only [UtcTime.ofTimeOfDay, UtcTime.seconds]
  omega

theorem ZonedTime.IsProper.timeOfDay_lt {time : ZonedTime} (proper : time.IsProper) :
    time.timeOfDay < dayLength := by
  obtain ⟨-, hour, minute, second, fraction, -, -, -⟩ := proper
  simp only [ZonedTime.timeOfDay, dayLength, minuteLength, secondLength] at fraction ⊢
  omega

/-! ## Conversion to UTC -/

/-- The date in UTC, by the day that is reached when the offset is taken off the time of day: the
one before, the same or the one after. -/
def ZonedTime.dateInUtc? (time : ZonedTime) : Option Date :=
  if (time.timeOfDay : Int) - time.ahead < 0 then time.date.previous?
  else if (dayLength : Int) ≤ time.timeOfDay - time.ahead then time.date.next?
  else some time.date

theorem ZonedTime.toUtc?_eq (time : ZonedTime) :
    time.toUtc? = time.dateInUtc?.map fun date =>
      .ofTimeOfDay date (((time.timeOfDay : Int) - time.ahead) % dayLength).toNat :=
  rfl

section

variable {time : ZonedTime} (proper : time.IsProper)

include proper

/-- The number of the date in UTC has the days that the offset leaves of the time of day. -/
theorem ZonedTime.IsProper.dateInUtc?_eq_some_iff {date : Date} :
    time.dateInUtc? = some date ↔
      date.IsValid ∧ (date.dayNumber : Int) =
        time.date.dayNumber + (time.timeOfDay - time.ahead) / dayLength := by
  have inDay := Int.ofNat_lt.mpr proper.timeOfDay_lt
  have behind := proper.notFarBehind
  have ahead := proper.notFarAhead
  unfold dateInUtc?
  rw [coe_dayLength] at inDay behind ahead ⊢
  split
  · rename_i dayBefore
    have carried : ((time.timeOfDay : Int) - time.ahead) / 86400000000 = -1 := by omega
    rw [proper.date.previous?_eq_some_iff, carried]
    refine and_congr_right fun _ => ?_
    omega
  · split
    · rename_i dayAfter
      have carried : ((time.timeOfDay : Int) - time.ahead) / 86400000000 = 1 := by omega
      rw [proper.date.next?_eq_some_iff, carried]
      refine and_congr_right fun _ => ?_
      omega
    · rename_i notBefore notAfter
      have carried : ((time.timeOfDay : Int) - time.ahead) / 86400000000 = 0 := by omega
      rw [carried, Int.add_zero, Option.some.injEq]
      constructor
      · rintro rfl
        exact ⟨proper.date, rfl⟩
      · rintro ⟨valid, sameNumber⟩
        exact (Date.eq_of_dayNumber_eq valid proper.date (Int.ofNat_inj.mp sameNumber)).symm

/-- A time is converted to the time in UTC of the second in which its instant lies. -/
theorem ZonedTime.IsProper.toUtc?_eq_some_iff {utc : UtcTime} :
    time.toUtc? = some utc ↔ utc.IsProper ∧ (utc.seconds : Int) = time.instant / secondLength := by
  -- The offset leaves so much of the days that have passed and of the last of them.
  have parts := Int.mul_ediv_add_emod ((time.timeOfDay : Int) - time.ahead) dayLength
  have fromStart := Int.emod_nonneg ((time.timeOfDay : Int) - time.ahead)
    (by decide : (dayLength : Int) ≠ 0)
  have toEnd := Int.emod_lt_of_pos ((time.timeOfDay : Int) - time.ahead)
    (by decide : (0 : Int) < dayLength)
  have isInstant : time.instant = time.date.dayNumber * dayLength +
      ((time.timeOfDay : Int) - time.ahead) := by
    rw [instant, Int.add_sub_assoc]
  have inUtc {date : Date} (isNumber : (date.dayNumber : Int) =
      time.date.dayNumber + ((time.timeOfDay : Int) - time.ahead) / dayLength) :
      ((UtcTime.ofTimeOfDay date
        (((time.timeOfDay : Int) - time.ahead) % dayLength).toNat).seconds : Int) =
        time.instant / secondLength := by
    rw [seconds_ofTimeOfDay, isInstant, Int.natCast_add, Int.natCast_mul, Int.natCast_ediv,
      Int.toNat_of_nonneg fromStart, coe_secondLength]
    rw [coe_dayLength] at *
    omega
  have fits : (((time.timeOfDay : Int) - time.ahead) % dayLength).toNat < dayLength := by
    omega
  rw [toUtc?_eq, Option.map_eq_some_iff]
  constructor
  · rintro ⟨date, isDate, rfl⟩
    obtain ⟨valid, isNumber⟩ := proper.dateInUtc?_eq_some_iff.mp isDate
    exact ⟨isProper_ofTimeOfDay valid fits, inUtc isNumber⟩
  · rintro ⟨utcProper, sameSecond⟩
    have ofDay : utc.hour * 3600 + utc.minute * 60 + utc.second < 86400 := by
      have := utcProper.hour
      have := utcProper.minute
      have := utcProper.second
      omega
    have isNumber : (utc.date.dayNumber : Int) =
        time.date.dayNumber + ((time.timeOfDay : Int) - time.ahead) / dayLength := by
      rw [isInstant, UtcTime.seconds, coe_secondLength] at sameSecond
      rw [coe_dayLength] at *
      omega
    refine ⟨utc.date, proper.dateInUtc?_eq_some_iff.mpr ⟨utcProper.date, isNumber⟩, ?_⟩
    apply UtcTime.eq_of_seconds_eq (isProper_ofTimeOfDay utcProper.date fits) utcProper
    exact Int.ofNat_inj.mp ((inUtc isNumber).trans sameSecond.symm)

theorem ZonedTime.IsProper.exists_dateInUtc?_eq (inCalendar : time.InCalendar) :
    ∃ date, time.dateInUtc? = some date := by
  have inDay := Int.ofNat_lt.mpr proper.timeOfDay_lt
  have behind := proper.notFarBehind
  have ahead := proper.notFarAhead
  rw [InCalendar, instant, coe_dayLength] at inCalendar
  unfold dateInUtc?
  split
  · refine Option.ne_none_iff_exists'.mp fun noPrevious => ?_
    rw [proper.date.eq_firstDate noPrevious] at inCalendar
    omega
  · split
    · rename_i dayAfter
      rw [coe_dayLength] at dayAfter
      refine Option.ne_none_iff_exists'.mp fun noNext => ?_
      rw [proper.date.eq_lastDate noNext] at inCalendar
      omega
    · exact ⟨time.date, rfl⟩

/-- A time has a time in UTC exactly if its instant lies in the calendar. -/
theorem ZonedTime.IsProper.exists_toUtc?_iff :
    (∃ utc, time.toUtc? = some utc) ↔ time.InCalendar := by
  constructor
  · rintro ⟨utc, isUtc⟩
    obtain ⟨utcProper, sameSecond⟩ := proper.toUtc?_eq_some_iff.mp isUtc
    obtain ⟨valid, hour, minute, second⟩ := utcProper
    have utcBetween := valid.dayNumber_between
    rw [UtcTime.seconds, coe_secondLength] at sameSecond
    rw [InCalendar, coe_dayLength]
    omega
  · intro inCalendar
    obtain ⟨date, isDate⟩ := proper.exists_dateInUtc?_eq inCalendar
    rw [toUtc?_eq, isDate]
    exact ⟨_, rfl⟩

end

end StaticSite.Site
