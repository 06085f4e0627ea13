import Formulary.Number.Layout
import Formulary.Text.Numeral

/-!
The values of TOML texts.
-/

namespace Formulary.Toml

structure LocalDate where
  year : Nat
  month : Nat
  day : Nat
deriving DecidableEq, Repr

structure LocalTime where
  hour : Nat
  minute : Nat
  second : Nat
  nanosecond : Nat
deriving DecidableEq, Repr

inductive Offset where
  | universal
  | minutes (n : Int)
deriving DecidableEq, Repr

/-- A day, a time of day, or both, and then perhaps an offset. -/
structure Moment where
  date : Option LocalDate
  time : Option LocalTime
  offset : Option Offset
deriving DecidableEq, Repr

inductive Value where
  | string (s : String)
  | integer (n : Int)
  | float (x : Number.Binary64)
  | boolean (b : Bool)
  | moment (m : Moment)
  | array (elements : List Value)
  | table (entries : List (String × Value))
deriving Repr

open Text

def LocalDate.text (d : LocalDate) : List Char :=
  padded 4 d.year ++ '-' :: padded 2 d.month ++ '-' :: padded 2 d.day

def dropEndZeros (s : List Char) : List Char := (s.reverse.dropWhile (· == '0')).reverse

/-- Hour, minute and second with colons between them, and the fraction of the second as short as it
is. -/
def LocalTime.text (t : LocalTime) : List Char :=
  padded 2 t.hour ++ ':' :: padded 2 t.minute ++ ':' :: padded 2 t.second ++
    (if t.nanosecond = 0 then [] else '.' :: dropEndZeros (padded 9 t.nanosecond))

/-- `Z`, or a sign, hours and minutes; no distance is written as a positive one. -/
def Offset.text : Offset → List Char
  | universal => ['Z']
  | minutes n =>
    (if n < 0 then '-' else '+') :: padded 2 (n.natAbs / 60) ++ ':' :: padded 2 (n.natAbs % 60)

/-- A moment in its usual form, with `T` between the day and the time. -/
def Moment.text (m : Moment) : String :=
  let day := (m.date.map LocalDate.text).getD []
  let mark := if m.date.isSome && m.time.isSome then ['T'] else []
  let time := (m.time.map LocalTime.text).getD []
  let offset := (m.offset.map Offset.text).getD []
  String.ofList (day ++ mark ++ time ++ offset)

def Value.scalarText? : Value → Option String
  | string s => some s
  | integer n => some (toString n)
  | float x => some x.toText
  | boolean b => some (if b then "true" else "false")
  | moment m => some m.text
  | array _ => none
  | table _ => none

end Formulary.Toml
