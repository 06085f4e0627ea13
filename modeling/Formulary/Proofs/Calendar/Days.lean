import Formulary.Calendar.Timestamp
import Mathlib.Algebra.Ring.Nat

/-!
Days and seconds counted. A day is told by its number in the count of all days, and a point in time
by its number of seconds: the day after has the next number, and the time some seconds earlier has a
number that is less by just as many, across the ends of days, months, years and leap years.
-/

namespace Formulary.Calendar

/-- The days of the years from the year 0 up to a year; below zero before the year 0. -/
def daysBeforeYear (year : Int) : Int :=
  365 * year + (year + 3) / 4 - (year + 99) / 100 + (year + 399) / 400

/-- The days of a year in front of a month. -/
def daysBeforeMonth (year : Int) (month : Nat) : Nat :=
  ((List.range month).map (daysInMonth year)).sum

/-- The number of a day; the first of January of the year 0 has the number 1. -/
def Date.number (d : Date) : Int := daysBeforeYear d.year + daysBeforeMonth d.year d.month + d.day

/-- The number of seconds of a point in time. -/
def Timestamp.seconds (t : Timestamp) : Int := t.date.number * 86400 + t.secondOfDay

/-- The point in time exists. A leap second is held as a second 59 with a thousand million
nanoseconds more. -/
structure Timestamp.IsReal (t : Timestamp) : Prop where
  date : t.date.IsReal
  hour : t.hour < 24
  minute : t.minute < 60
  second : t.second < 60
  nanosecond : t.nanosecond < 1000000000 ∨ t.second = 59 ∧ t.nanosecond < 2000000000

/-! ## Years and months -/

section

variable {year year' : Int} {month month' : Nat}

theorem daysBeforeYear_succ (year : Int) : daysBeforeYear (year + 1) =
    daysBeforeYear year + if isLeapYear year = true then 366 else 365 := by
  simp only [daysBeforeYear, isLeapYear, Bool.or_eq_true, Bool.and_eq_true, decide_eq_true_eq]
  split <;> omega

theorem daysBeforeMonth_succ (year : Int) (month : Nat) :
    daysBeforeMonth year (month + 1) = daysBeforeMonth year month + daysInMonth year month := by
  simp [daysBeforeMonth, List.range_succ]

/-- The months make up the year. -/
theorem daysBeforeMonth_thirteen (year : Int) :
    daysBeforeMonth year 13 = if isLeapYear year = true then 366 else 365 := by
  have months : List.range 13 = [0, 1, 2, 3, 4, 5, 6, 7, 8, 9, 10, 11, 12] := rfl
  cases leap : isLeapYear year <;> simp [daysBeforeMonth, months, daysInMonth, leap]

theorem daysBeforeYear_mono (le : year ≤ year') : daysBeforeYear year ≤ daysBeforeYear year' := by
  obtain ⟨n, rfl⟩ := Int.exists_add_of_le le
  induction n with
  | zero => simp
  | succ n ih =>
    have step := daysBeforeYear_succ (year + n)
    have := ih (by omega)
    rw [Int.natCast_succ, ← Int.add_assoc, step]
    split <;> omega

theorem daysBeforeMonth_mono (year : Int) (le : month ≤ month') :
    daysBeforeMonth year month ≤ daysBeforeMonth year month' := by
  obtain ⟨n, rfl⟩ := Nat.exists_eq_add_of_le le
  induction n with
  | zero => exact Nat.le_refl _
  | succ n ih =>
    have := ih (Nat.le_add_right month n)
    rw [← Nat.add_assoc, daysBeforeMonth_succ]
    omega

end

/-! ## Days -/

namespace Date

variable {d e : Date} {year : Int} {month day : Nat}

theorem isReal_mk : (⟨year, month, day⟩ : Date).IsReal ↔
    1 ≤ month ∧ month ≤ 12 ∧ 1 ≤ day ∧ day ≤ daysInMonth year month := Iff.rfl

theorem IsReal.day_le (h : d.IsReal) :
    daysBeforeMonth d.year d.month + d.day ≤ daysBeforeMonth d.year (d.month + 1) := by
  obtain ⟨-, -, -, last⟩ := h
  rw [daysBeforeMonth_succ]
  exact Nat.add_le_add_left last _

/-- A real day lies in its year. -/
theorem IsReal.number_bounds (h : d.IsReal) :
    daysBeforeYear d.year < d.number ∧ d.number ≤ daysBeforeYear (d.year + 1) := by
  have inMonth := h.day_le
  obtain ⟨-, december, first, -⟩ := h
  have inYear := daysBeforeMonth_mono d.year (show d.month + 1 ≤ 13 by omega)
  have year := daysBeforeYear_succ d.year
  rw [daysBeforeMonth_thirteen] at inYear
  unfold number
  split at year <;> simp_all only [if_true, Bool.false_eq_true, if_false] <;> omega

/-- Days with one number are one day. -/
theorem eq_of_number_eq (hd : d.IsReal) (he : e.IsReal) (same : d.number = e.number) : d = e := by
  have inYear := hd.number_bounds
  have inYear' := he.number_bounds
  have year : d.year = e.year := by
    rcases Int.lt_trichotomy d.year e.year with before | eq | behind
    · have := daysBeforeYear_mono (show d.year + 1 ≤ e.year from before)
      omega
    · exact eq
    · have := daysBeforeYear_mono (show e.year + 1 ≤ d.year from behind)
      omega
  have inMonth := hd.day_le
  have inMonth' := he.day_le
  have first := hd.2.2.1
  have first' := he.2.2.1
  simp only [number, year] at same inMonth
  have month : d.month = e.month := by
    rcases Nat.lt_trichotomy d.month e.month with before | eq | behind
    · have := daysBeforeMonth_mono e.year (show d.month + 1 ≤ e.month from before)
      omega
    · exact eq
    · have := daysBeforeMonth_mono e.year (show e.month + 1 ≤ d.month from behind)
      omega
  rw [month] at same
  obtain ⟨_, _, day⟩ := d
  obtain ⟨_, _, day'⟩ := e
  obtain rfl : day = day' := by
    simp only at same
    omega
  cases year
  cases month
  rfl

theorem daysInMonth_pos (first : 1 ≤ month) (last : month ≤ 12) : 1 ≤ daysInMonth year month := by
  unfold daysInMonth
  split
  · split <;> decide
  all_goals grind

theorem daysInMonth_le (year : Int) (month : Nat) : daysInMonth year month ≤ 31 := by
  unfold daysInMonth
  split
  · split <;> decide
  all_goals decide

theorem isReal_next (h : d.IsReal) : d.next.IsReal := by
  obtain ⟨january, december, first, last⟩ := h
  unfold next
  split
  · next room => exact isReal_mk.2 ⟨january, december, by omega, room⟩
  · split
    · next room =>
      exact isReal_mk.2 ⟨by omega, room, Nat.le_refl 1, daysInMonth_pos (by omega) room⟩
    · exact isReal_mk.2 ⟨Nat.le_refl 1, by decide, Nat.le_refl 1, daysInMonth_pos (by decide)
        (by decide)⟩

theorem number_next (h : d.IsReal) : d.next.number = d.number + 1 := by
  obtain ⟨january, december, first, last⟩ := h
  unfold next
  split
  · simp only [number]
    omega
  · next full =>
    have inMonth := daysBeforeMonth_succ d.year d.month
    split
    · simp only [number]
      omega
    · next full =>
      have month : d.month = 12 := by omega
      have inYear := daysBeforeMonth_thirteen d.year
      have front : daysBeforeMonth (d.year + 1) 1 = 0 := rfl
      simp only [number, daysBeforeYear_succ, front]
      simp only [month] at *
      split <;> simp_all only [if_true, Bool.false_eq_true, if_false] <;> omega

theorem isReal_previous (h : d.IsReal) : d.previous.IsReal := by
  obtain ⟨january, december, first, last⟩ := h
  unfold previous
  split
  · exact isReal_mk.2 ⟨january, december, by omega, by omega⟩
  · split
    · exact isReal_mk.2 ⟨by omega, by omega, daysInMonth_pos (by omega) (by omega), Nat.le_refl _⟩
    · exact isReal_mk.2 ⟨by decide, by decide, by decide, Nat.le_refl 31⟩

/-- The day after the day before is the day itself. -/
theorem next_previous (h : d.IsReal) : d.previous.next = d := by
  obtain ⟨january, december, first, last⟩ := h
  obtain ⟨year, month, day⟩ := d
  simp only at january december first last
  unfold previous
  simp only
  split
  · next inner =>
    rw [next, if_pos (by simp only; omega)]
    simp only [mk.injEq, true_and]
    omega
  · obtain rfl : day = 1 := by omega
    split
    · rw [next, if_neg (by simp only; omega), if_pos (by simp only; omega)]
      simp only [mk.injEq, true_and, and_true]
      omega
    · obtain rfl : month = 1 := by omega
      simp [next, daysInMonth]

theorem number_previous (h : d.IsReal) : d.previous.number = d.number - 1 := by
  have step := number_next (isReal_previous h)
  rw [next_previous h] at step
  omega

theorem isReal_back (h : d.IsReal) (n : Nat) :
    (d.back n).IsReal ∧ (d.back n).number + n = d.number := by
  induction n generalizing d with
  | zero => exact ⟨h, by simp [back]⟩
  | succ n ih =>
    obtain ⟨real, number⟩ := ih (isReal_previous h)
    rw [number_previous h] at number
    refine ⟨real, ?_⟩
    rw [back, Int.natCast_succ]
    omega

/-- The years of the calendar are told by numbers of days. -/
theorem isInRange_iff (h : d.IsReal) : d.IsInRange ↔
    daysBeforeYear firstYear < d.number ∧ d.number ≤ daysBeforeYear (lastYear + 1) := by
  have inYear := h.number_bounds
  constructor
  · rintro ⟨-, first, last⟩
    have := daysBeforeYear_mono first
    have := daysBeforeYear_mono (show d.year + 1 ≤ lastYear + 1 by omega)
    omega
  · rintro ⟨first, last⟩
    refine ⟨h, ?_, ?_⟩
    · by_contra before
      have := daysBeforeYear_mono (show d.year + 1 ≤ firstYear by omega)
      omega
    · by_contra behind
      have := daysBeforeYear_mono (show lastYear + 1 ≤ d.year by omega)
      omega

/-- Counting back stays in the calendar where so many days of it lie before. -/
theorem back?_of_room (h : d.IsInRange) (n : Nat) (room : daysBeforeYear firstYear + n < d.number) :
    ∃ e, d.back? n = some e ∧ e.IsInRange ∧ e.number + n = d.number := by
  obtain ⟨real, number⟩ := isReal_back h.1 n
  have inRange := (isInRange_iff h.1).1 h
  have within : (d.back n).IsInRange := (isInRange_iff real).2 ⟨by omega, by omega⟩
  exact ⟨d.back n, if_pos within, within, number⟩

end Date

/-! ## Points in time -/

namespace Timestamp

variable {t u : Timestamp} {shift : Int} {date : Date} {second nanosecond : Nat}

theorem IsReal.secondOfDay_lt (h : t.IsReal) : t.secondOfDay < 86400 := by
  have := h.hour
  have := h.minute
  have := h.second
  unfold secondOfDay
  omega

/-- Points in time with one number of seconds, and the same fraction of a second, are one. -/
theorem eq_of_seconds_eq (ht : t.IsReal) (hu : u.IsReal) (same : t.seconds = u.seconds)
    (fraction : t.nanosecond = u.nanosecond) : t = u := by
  have inDay := ht.secondOfDay_lt
  have inDay' := hu.secondOfDay_lt
  unfold seconds at same
  have date : t.date = u.date := Date.eq_of_number_eq ht.date hu.date (by omega)
  rw [date] at same
  have second : t.secondOfDay = u.secondOfDay := by omega
  have := ht.minute
  have := ht.second
  have := hu.minute
  have := hu.second
  unfold secondOfDay at second
  obtain ⟨_, hour, minute, sec, _⟩ := t
  obtain ⟨_, hour', minute', sec', _⟩ := u
  simp only at *
  obtain rfl : hour = hour' := by omega
  obtain rfl : minute = minute' := by omega
  obtain rfl : sec = sec' := by omega
  rw [date, fraction]

/-- The point in time with so many seconds of a day behind it. -/
def onDay (date : Date) (second nanosecond : Nat) : Timestamp :=
  ⟨date, second / 3600, second / 60 % 60, second % 60, nanosecond⟩

theorem seconds_onDay (date : Date) (second nanosecond : Nat) :
    (onDay date second nanosecond).seconds = date.number * 86400 + second := by
  simp only [onDay, seconds, secondOfDay]
  omega

/-- Less than a day earlier is on the day before, on the day after or on the same day. -/
theorem minus_eq_onDay (h : t.IsReal) (less : -86400 < shift) (more : shift < 86400) :
    ∃ (date : Date) (second : Nat), t.minus shift = onDay date second t.nanosecond ∧
      date.IsReal ∧ second < 86400 ∧ date.number * 86400 + second = t.seconds - shift := by
  have inDay := h.secondOfDay_lt
  by_cases before : (t.secondOfDay : Int) - shift < 0
  · refine ⟨t.date.previous, _, by simp only [minus, if_pos before]; rfl,
      Date.isReal_previous h.date, by omega, ?_⟩
    rw [Date.number_previous h.date, seconds]
    omega
  by_cases behind : 86400 ≤ (t.secondOfDay : Int) - shift
  · refine ⟨t.date.next, _, by simp only [minus, if_neg before, if_pos behind]; rfl,
      Date.isReal_next h.date, by omega, ?_⟩
    rw [Date.number_next h.date, seconds]
    omega
  · refine ⟨t.date, _, by simp only [minus, if_neg before, if_neg behind]; rfl, h.date, by omega, ?_⟩
    rw [seconds]
    omega

/-- A time that is taken back by whole minutes is real, and earlier by just as much. -/
theorem isReal_minus (h : t.IsReal) (less : -86400 < shift) (more : shift < 86400)
    (minutes : 60 ∣ shift) : (t.minus shift).IsReal ∧
      (t.minus shift).seconds = t.seconds - shift ∧ (t.minus shift).nanosecond = t.nanosecond := by
  obtain ⟨date, second, eq, real, inDay, number⟩ := minus_eq_onDay h less more
  have leap := h.nanosecond
  have below := h.second
  rw [eq, seconds_onDay]
  refine ⟨⟨real, ?_, ?_, ?_, ?_⟩, number, rfl⟩
  · simp only [onDay]
    omega
  · simp only [onDay]
    omega
  · simp only [onDay]
    omega
  · -- The shift leaves the second within its minute.
    simp only [onDay]
    simp only [seconds, secondOfDay] at number
    omega

end Timestamp

end Formulary.Calendar
