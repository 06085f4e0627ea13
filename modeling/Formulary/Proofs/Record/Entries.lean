import Formulary.Proofs.Calendar.Written
import Formulary.Proofs.Table
import Formulary.Record.Normalize

/-!
The entries that fields and events give rise to.
-/

namespace Formulary.Record

namespace Conventions

open Calendar

variable {c : Conventions} {record : Fields} {fields : List (String × String)}
variable {field text key value event : String}

/-! ## Dates -/

/-- A date field holds a date where its text is a point in time; that a blank text is not looked at
makes no difference. -/
theorem dateOf?_eq (c : Conventions) (field text : String) :
    c.dateOf? field text = if c.isDateField field = true then timestamp? text else none := by
  unfold dateOf?
  cases blank : Text.allBlank text with
  | false => simp
  | true => simp [timestamp?_of_allBlank blank]

theorem isDateField_eventField (c : Conventions) (event : String) :
    c.isDateField (c.eventField event) = true := by
  refine (Text.occursInChars_iff _ _).2 ⟨[], ("_" ++ event).toList, ?_⟩
  simp [eventField]

theorem isDateField_append (h : c.isDateField field = true) (suffix : String) :
    c.isDateField (field ++ suffix) = true := by
  obtain ⟨front, rest, eq⟩ := (Text.occursInChars_iff _ _).1 h
  refine (Text.occursInChars_iff _ _).2 ⟨front, rest ++ suffix.toList, ?_⟩
  simp [eq]

/-! ## Entries -/

/-- What a field writes at its own name: of a date, the short form. -/
def shown (c : Conventions) (field text : String) : String :=
  match c.dateOf? field text with
  | some t => t.date.short
  | none => text

theorem mem_fieldEntries_iff : (key, value) ∈ c.fieldEntries field text ↔
    (key = field ∧ value = c.shown field text) ∨
      ∃ t, c.dateOf? field text = some t ∧ key = field ++ c.longDateSuffix ∧
        value = t.date.long := by
  unfold fieldEntries shown
  cases c.dateOf? field text with
  | none => simp
  | some t => simp

theorem mem_eventEntries_iff : (key, value) ∈ c.eventEntries record event ↔
    record.keys.any (Text.occursIn event) = true ∧
      ∃ t, (record.get? (c.eventField event)).bind timestamp? = some t ∧
        key = c.timeField event ∧ value = t.clock := by
  unfold eventEntries
  cases record.keys.any (Text.occursIn event) with
  | false => simp
  | true =>
    cases (record.get? (c.eventField event)).bind timestamp? with
    | none => simp
    | some t => simp

/-- What fields write, one after the other. -/
def written (c : Conventions) (fields : List (String × String)) : List (String × String) :=
  fields.flatMap fun e => c.fieldEntries e.1 e.2

theorem mem_written_iff : (key, value) ∈ c.written fields ↔
    (∃ text, (key, text) ∈ fields ∧ value = c.shown key text) ∨
      ∃ field text t, (field, text) ∈ fields ∧ c.dateOf? field text = some t ∧
        key = field ++ c.longDateSuffix ∧ value = t.date.long := by
  unfold written
  rw [List.mem_flatMap]
  constructor
  · rintro ⟨⟨field, text⟩, stored, h⟩
    rcases mem_fieldEntries_iff.1 h with ⟨rfl, rfl⟩ | ⟨t, read, rfl, rfl⟩
    · exact .inl ⟨text, stored, rfl⟩
    · exact .inr ⟨field, text, t, stored, read, rfl, rfl⟩
  · rintro (⟨text, stored, rfl⟩ | ⟨field, text, t, stored, read, rfl, rfl⟩)
    · exact ⟨(key, text), stored, mem_fieldEntries_iff.2 (.inl ⟨rfl, rfl⟩)⟩
    · exact ⟨(field, text), stored, mem_fieldEntries_iff.2 (.inr ⟨t, read, rfl, rfl⟩)⟩

/-- What events write, one after the other. -/
def timed (c : Conventions) (record : Fields) : List (String × String) :=
  c.eventTokens.flatMap (c.eventEntries record)

theorem mem_timed_iff : (key, value) ∈ c.timed record ↔
    ∃ event ∈ c.eventTokens, record.keys.any (Text.occursIn event) = true ∧
      ∃ t, (record.get? (c.eventField event)).bind timestamp? = some t ∧
        key = c.timeField event ∧ value = t.clock := by
  unfold timed
  simp [List.mem_flatMap, mem_eventEntries_iff]

end Conventions

theorem normalize_eq (c : Conventions) (record : Fields) :
    normalize c record =
      (Table.empty.setAll (c.written record.entries)).setAll (c.timed record) := rfl

end Formulary.Record
