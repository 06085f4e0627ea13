import Formulary.Calendar.Written
import Formulary.Record.Store
import Formulary.Template.Fill
import Formulary.Text.Search

/-!
Stored records made ready for templates. A field whose name holds the date token is a point in time:
it takes the short form, and an entry with the long form follows it. An event that is named in the
record gets an entry with the time of day at which it began. All days and times are those of
universal time.
-/

namespace Formulary.Record

open Calendar Template

structure Conventions where
  /-- Fields whose name holds this token are points in time. -/
  dateToken : String
  /-- Put behind a field's name for the long form of its date. -/
  longDateSuffix : String
  /-- Put before an event's name for its time of day. -/
  timePrefix : String
  eventTokens : List String
deriving DecidableEq, Repr

def Conventions.standard : Conventions := ⟨"data", "_extenso", "hora", ["casamento"]⟩

def Conventions.isDateField (c : Conventions) (field : String) : Bool :=
  Text.occursIn c.dateToken field

/-- The point in time that a field holds, if it is meant to hold one and can be read. -/
def Conventions.dateOf? (c : Conventions) (field text : String) : Option Timestamp :=
  if c.isDateField field && !Text.allBlank text then timestamp? text else none

/-- The entries that a field gives rise to. -/
def Conventions.fieldEntries (c : Conventions) (field text : String) : List (String × String) :=
  match c.dateOf? field text with
  | some t => [(field, t.date.short), (field ++ c.longDateSuffix, t.date.long)]
  | none => [(field, text)]

/-- The name of the field that holds the date of an event. -/
def Conventions.eventField (c : Conventions) (event : String) : String := c.dateToken ++ "_" ++ event

/-- The name of the entry with the time of day of an event. -/
def Conventions.timeField (c : Conventions) (event : String) : String := c.timePrefix ++ "_" ++ event

/-- The entry with the time of day of an event, if the record names the event and stores its
date. -/
def Conventions.eventEntries (c : Conventions) (record : Fields) (event : String) :
    List (String × String) :=
  if record.keys.any (Text.occursIn event) then
    match (record.get? (c.eventField event)).bind timestamp? with
    | some t => [(c.timeField event, t.clock)]
    | none => []
  else []

/-- The values that a record gives to a template. -/
def normalize (c : Conventions) (record : Fields) : Values :=
  (Table.empty.setAll (record.entries.flatMap fun e => c.fieldEntries e.1 e.2)).setAll
    (c.eventTokens.flatMap (c.eventEntries record))

end Formulary.Record
