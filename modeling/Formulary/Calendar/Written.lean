import Formulary.Calendar.Timestamp
import Formulary.Text.Numeral

/-!
Dates and times as they stand on a certificate: a short form in figures, a long form with the name
of the month, and the time of day without seconds.
-/

namespace Formulary.Calendar

def monthNames : List String :=
  ["janeiro", "fevereiro", "março", "abril", "maio", "junho", "julho", "agosto", "setembro",
   "outubro", "novembro", "dezembro"]

/-- A year in at least four figures; one before the year 0 or after 9999 carries a sign. -/
def yearFigures (year : Int) : List Char :=
  let sign := if year < 0 then ['-'] else if 9999 < year then ['+'] else []
  sign ++ Text.padded 4 year.natAbs

/-- Day, month and year in figures, as in `15/03/2002`. -/
def Date.short (d : Date) : String :=
  String.ofList (Text.padded 2 d.day ++ '/' :: Text.padded 2 d.month ++ '/' :: yearFigures d.year)

/-- Day and year in figures and the name of the month, as in `15 de março de 2002`. -/
def Date.long (d : Date) : String :=
  String.ofList (Text.numeral d.day) ++ " de " ++ monthNames.getD (d.month - 1) "" ++ " de " ++
    (if d.year < 0 then "-" else "") ++ String.ofList (Text.numeral d.year.natAbs)

/-- Hour and minute, as in `16:30`. -/
def Timestamp.clock (t : Timestamp) : String :=
  String.ofList (Text.padded 2 t.hour ++ ':' :: Text.padded 2 t.minute)

end Formulary.Calendar
