/-!
Days of the Gregorian calendar, which is taken to reach back before its introduction; the year
before the year 1 is the year 0. Days are counted forward and back one at a time.
-/

namespace Formulary.Calendar

def isLeapYear (year : Int) : Bool := (year % 4 = 0 && year % 100 ≠ 0) || year % 400 = 0

/-- The number of days of a month; none in a month that does not exist. -/
def daysInMonth (year : Int) (month : Nat) : Nat :=
  match month with
  | 2 => if isLeapYear year then 29 else 28
  | 4 | 6 | 9 | 11 => 30
  | 1 | 3 | 5 | 7 | 8 | 10 | 12 => 31
  | _ => 0

def firstYear : Int := -262143
def lastYear : Int := 262142

/-- A day, told by year, month and day of the month. -/
structure Date where
  year : Int
  month : Nat
  day : Nat
deriving DecidableEq, Repr

namespace Date

def IsReal (d : Date) : Prop :=
  1 ≤ d.month ∧ d.month ≤ 12 ∧ 1 ≤ d.day ∧ d.day ≤ daysInMonth d.year d.month

def IsInRange (d : Date) : Prop := d.IsReal ∧ firstYear ≤ d.year ∧ d.year ≤ lastYear

instance (d : Date) : Decidable d.IsReal := by unfold IsReal; infer_instance

instance (d : Date) : Decidable d.IsInRange := by unfold IsInRange; infer_instance

def of? (year : Int) (month day : Nat) : Option Date :=
  let d : Date := ⟨year, month, day⟩
  if d.IsInRange then some d else none

def next (d : Date) : Date :=
  if d.day < daysInMonth d.year d.month then ⟨d.year, d.month, d.day + 1⟩
  else if d.month < 12 then ⟨d.year, d.month + 1, 1⟩
  else ⟨d.year + 1, 1, 1⟩

def previous (d : Date) : Date :=
  if 1 < d.day then ⟨d.year, d.month, d.day - 1⟩
  else if 1 < d.month then ⟨d.year, d.month - 1, daysInMonth d.year (d.month - 1)⟩
  else ⟨d.year - 1, 12, 31⟩

/-- The day `n` days before. -/
def back : Nat → Date → Date
  | 0, d => d
  | n + 1, d => back n d.previous

/-- The day `n` days before, if the calendar reaches back so far. -/
def back? (n : Nat) (d : Date) : Option Date :=
  if (d.back n).IsInRange then some (d.back n) else none

def later : Nat → Date → Date
  | 0, d => d
  | n + 1, d => later n d.next

end Date

end Formulary.Calendar
