import Formulary.Proofs.Record.Entries

/-!
A record is made ready once. Whatever a date field is given by it, a written form or a text that was
no date, is no point in time; so there is nothing to do to such a record a second time.
-/

namespace Formulary.Record

open Calendar

variable {c : Conventions} {record : Fields} {field text : String} {e : String × String}

namespace Conventions

/-- What stands at a name for good: at the name of a date field, no point in time. -/
def Settled (c : Conventions) (e : String × String) : Prop :=
  c.isDateField e.1 = true → timestamp? e.2 = none

theorem settled_iff : c.Settled e ↔ c.dateOf? e.1 e.2 = none := by
  unfold Settled
  rw [dateOf?_eq]
  split
  · next date => simp [date]
  · next other => simp [other]

theorem settled_shown (c : Conventions) (field text : String) :
    c.Settled (field, c.shown field text) := by
  unfold shown
  split
  · next t _ => exact fun _ => timestamp?_short t.date
  · next none => exact settled_iff.2 none

end Conventions

theorem settled_of_mem_normalize (h : e ∈ (normalize c record).entries) : c.Settled e := by
  obtain ⟨key, value⟩ := e
  rw [normalize_eq] at h
  rcases Table.mem_entries_setAll h with h | timed
  · rcases Table.mem_entries_setAll h with empty | written
    · cases empty
    · rcases Conventions.mem_written_iff.1 written with ⟨text, -, rfl⟩ | ⟨_, _, t, -, -, -, rfl⟩
      · exact c.settled_shown key text
      · exact fun _ => timestamp?_long t.date
  · obtain ⟨_, -, -, t, -, -, rfl⟩ := Conventions.mem_timed_iff.1 timed
    exact fun _ => timestamp?_clock t

/-! ## A second time -/

/-- Where no field holds a date, fields are kept, -/
theorem fieldEntries_of_settled (h : c.Settled e) : c.fieldEntries e.1 e.2 = [e] := by
  unfold Conventions.fieldEntries
  rw [Conventions.settled_iff.1 h]

/-- and no event has a time of day. -/
theorem eventEntries_of_settled (h : ∀ e ∈ record.entries, c.Settled e) (event : String) :
    c.eventEntries record event = [] := by
  have untimed : (record.get? (c.eventField event)).bind timestamp? = none := by
    cases stored : record.get? (c.eventField event) with
    | none => rfl
    | some text =>
      have settled : c.Settled (c.eventField event, text) := h _ (Table.get?_eq_some_iff.1 stored)
      rw [Option.bind_some]
      exact settled (c.isDateField_eventField event)
  unfold Conventions.eventEntries
  rw [untimed]
  split <;> rfl

theorem normalize_of_settled (h : ∀ e ∈ record.entries, c.Settled e) :
    normalize c record = record := by
  have fields : c.written record.entries = record.entries := by
    unfold Conventions.written
    rw [List.flatMap_congr fun e he => fieldEntries_of_settled (h e he)]
    exact List.flatMap_singleton' record.entries
  have events : c.timed record = [] :=
    List.flatMap_eq_nil_iff.2 fun event _ => eventEntries_of_settled h event
  rw [normalize_eq, fields, events]
  exact Table.ofList_entries record

/-- A record that has been made ready is made ready no further: its entries stay as they are, and in
their order. -/
theorem normalize_normalize (c : Conventions) (record : Fields) :
    normalize c (normalize c record) = normalize c record :=
  normalize_of_settled fun _ => settled_of_mem_normalize

end Formulary.Record
