import Formulary.Calendar.Date
import Formulary.Text.Reader

/-!
Points in time as records store them. Three written forms are read: that of RFC 3339, with its
offset from universal time; a date and a time of day without an offset; and a date alone, which
means its first moment. The first wants every number in full width; the other two take one digit
where two are usual, white space in front of a number, and years with a sign.

A second 60 is read as second 59 with a nanosecond count of a thousand million or more.
-/

namespace Formulary.Calendar

/-- A day and a time of day. -/
structure Timestamp where
  date : Date
  hour : Nat
  minute : Nat
  second : Nat
  nanosecond : Nat
deriving DecidableEq, Repr

namespace Timestamp

/-- A time of day on a day, if there is one: hour below 24, minute below 60, second at most 60. -/
def of? (date : Date) (hour minute second nanosecond : Nat) : Option Timestamp :=
  if hour < 24 ∧ minute < 60 ∧ second ≤ 60 then
    if second = 60 then some ⟨date, hour, minute, 59, nanosecond + 1000000000⟩
    else some ⟨date, hour, minute, second, nanosecond⟩
  else none

def secondOfDay (t : Timestamp) : Nat := t.hour * 3600 + t.minute * 60 + t.second

/-- The time `seconds` earlier, which may lie on the day before or the day after. -/
def minus (t : Timestamp) (seconds : Int) : Timestamp :=
  let s : Int := (t.secondOfDay : Int) - seconds
  let (date, s) :=
    if s < 0 then (t.date.previous, s + 86400)
    else if 86400 ≤ s then (t.date.next, s - 86400)
    else (t.date, s)
  let s := s.toNat
  ⟨date, s / 3600, s / 60 % 60, s % 60, t.nanosecond⟩

end Timestamp

open Text Text.Reader

/-- A number that may have white space in front of it. -/
def loose (width : Nat) : Reader Nat := do
  blanks
  upTo width

/-- A year of up to four digits, or a sign and digits; white space may stand in front. -/
def looseYear : Reader Int := do
  blanks
  fun s =>
    match s with
    | '-' :: rest => ((fun ds => -(digitsValue ds : Int)) <$> digits) rest
    | '+' :: rest => ((fun ds => (digitsValue ds : Int)) <$> digits) rest
    | _ => ((fun n : Nat => (n : Int)) <$> upTo 4) s

/-- An offset from universal time in seconds: none, or a sign, hours and minutes, under a day. -/
def offset : Reader Int := fun s =>
  match s with
  | 'Z' :: rest => some (0, rest)
  | 'z' :: rest => some (0, rest)
  | _ => (do
      let sign ← oneOf ['+', '-', '\u2212']
      let hours ← exactly 2
      let _ ← oneOf [':']
      let minutes ← exactly 2
      if minutes < 60 ∧ hours < 24 then
        let seconds : Int := hours * 3600 + minutes * 60
        pure (if sign = '+' then seconds else -seconds)
      else failure : Reader Int) s

/-- The form of RFC 3339, taken to universal time. -/
def rfc3339 : Reader Timestamp := do
  let year ← exactly 4
  let _ ← oneOf ['-']
  let month ← exactly 2
  let _ ← oneOf ['-']
  let day ← exactly 2
  let _ ← oneOf ['T', 't', ' ']
  let hour ← exactly 2
  let _ ← oneOf [':']
  let minute ← exactly 2
  let _ ← oneOf [':']
  let second ← exactly 2
  let nanosecond ← fraction
  let east ← offset
  let date ← StateT.lift (Date.of? year month day)
  let t ← StateT.lift (Timestamp.of? date hour minute second nanosecond)
  pure (t.minus east)

def looseDate : Reader Date := do
  let year ← looseYear
  let _ ← oneOf ['-']
  let month ← loose 2
  let _ ← oneOf ['-']
  let day ← loose 2
  StateT.lift (Date.of? year month day)

def localTime : Reader Timestamp := do
  let date ← looseDate
  let _ ← oneOf ['T']
  let hour ← loose 2
  let _ ← oneOf [':']
  let minute ← loose 2
  let _ ← oneOf [':']
  let second ← loose 2
  let nanosecond ← fraction
  StateT.lift (Timestamp.of? date hour minute second nanosecond)

def dateOnly : Reader Timestamp := do
  let date ← looseDate
  StateT.lift (Timestamp.of? date 0 0 0 0)

/-- Reads a stored point in time; white space around it says nothing. -/
def timestamp? (text : String) : Option Timestamp :=
  let s := trimChars text.toList
  (whole rfc3339 s).orElse fun _ => (whole localTime s).orElse fun _ => whole dateOnly s

end Formulary.Calendar
