import Formulary.Proofs.Overlay
import Formulary.Proofs.Record.Entries

/-!
The names and texts of a record that has been made ready. Beside the names of its fields there are
those of the long forms of its dates and those of the times of its events, and there are no others.
A field that is no date keeps its text, unless one of these has its name.
-/

namespace Formulary.Record

open Calendar

variable {c : Conventions} {record : Fields} {key text : String}

namespace Conventions

/-- The names that a record comes to have beside those of its fields, which may be among them. -/
inductive Derived (c : Conventions) (record : Fields) : String → Prop
  | longDate {field text : String} {t : Timestamp} : record.get? field = some text →
      c.isDateField field = true → timestamp? text = some t →
      Derived c record (field ++ c.longDateSuffix)
  | time {event field text : String} {t : Timestamp} : event ∈ c.eventTokens →
      field ∈ record.keys → Text.occursIn event field = true →
      record.get? (c.eventField event) = some text → timestamp? text = some t →
      Derived c record (c.timeField event)

/-- They are the names at which dates and events write, but for those of the dates themselves. -/
theorem derived_iff : c.Derived record key ↔
    (∃ e ∈ record.entries, (c.dateOf? e.1 e.2).isSome = true ∧ e.1 ++ c.longDateSuffix = key) ∨
      key ∈ entryKeys (c.timed record) := by
  constructor
  · rintro (@⟨field, text, t, stored, date, read⟩ |
      @⟨event, field, text, t, listed, named, occurs, stored, read⟩)
    · refine .inl ⟨(field, text), Table.get?_eq_some_iff.1 stored, ?_, rfl⟩
      rw [dateOf?_eq, if_pos date, read]
      rfl
    · have any : record.keys.any (Text.occursIn event) = true :=
        List.any_eq_true.2 ⟨field, named, occurs⟩
      have told : (record.get? (c.eventField event)).bind timestamp? = some t := by
        rw [stored, Option.bind_some, read]
      exact .inr (Table.mem_entryKeys.2 ⟨t.clock, mem_timed_iff.2
        ⟨event, listed, any, t, told, rfl, rfl⟩⟩)
  · rintro (⟨⟨field, text⟩, stored, date, rfl⟩ | timed)
    · obtain ⟨t, read⟩ := Option.isSome_iff_exists.1 date
      rw [dateOf?_eq] at read
      split at read
      · next date => exact .longDate (Table.get?_eq_some_iff.2 stored) date read
      · cases read
    · obtain ⟨_, put⟩ := Table.mem_entryKeys.1 timed
      obtain ⟨event, listed, any, t, told, rfl, -⟩ := mem_timed_iff.1 put
      obtain ⟨field, named, occurs⟩ := List.any_eq_true.1 any
      obtain ⟨text, stored, read⟩ := Option.bind_eq_some_iff.1 told
      exact .time listed named occurs stored read

instance (c : Conventions) (record : Fields) (key : String) : Decidable (c.Derived record key) :=
  decidable_of_iff _ derived_iff.symm

end Conventions

theorem mem_keys_normalize_iff :
    key ∈ (normalize c record).keys ↔ key ∈ record.keys ∨ c.Derived record key := by
  rw [normalize_eq, Table.mem_keys_setAll_iff, Table.mem_keys_setAll_iff, Conventions.derived_iff,
    ← or_assoc]
  have none : key ∉ (Table.empty : Fields).keys := List.not_mem_nil
  refine or_congr_left ⟨?_, ?_⟩
  · rintro (empty | written)
    · exact absurd empty none
    obtain ⟨value, put⟩ := Table.mem_entryKeys.1 written
    rcases Conventions.mem_written_iff.1 put with
      ⟨text, stored, -⟩ | ⟨field, text, t, stored, read, rfl, -⟩
    · exact .inl (Table.mem_entryKeys.2 ⟨text, stored⟩)
    · exact .inr ⟨(field, text), stored, by rw [read]; rfl, rfl⟩
  · rintro (own | ⟨⟨field, text⟩, stored, date, rfl⟩)
    · obtain ⟨text, stored⟩ := Table.mem_entryKeys.1 own
      exact .inr (Table.mem_entryKeys.2
        ⟨_, Conventions.mem_written_iff.2 (.inl ⟨text, stored, rfl⟩)⟩)
    · obtain ⟨t, read⟩ := Option.isSome_iff_exists.1 date
      exact .inr (Table.mem_entryKeys.2 ⟨_, Conventions.mem_written_iff.2
        (.inr ⟨field, text, t, stored, read, rfl, rfl⟩)⟩)

/-- What stands at the name of a field is written there by the field alone, where no other name is
made that is the same. -/
theorem get?_normalize_of_not_derived (stored : record.get? key = some text)
    (apart : ¬ c.Derived record key) : (normalize c record).get? key = some (c.shown key text) := by
  rw [Conventions.derived_iff, not_or] at apart
  obtain ⟨short, untimed⟩ := apart
  have own := Table.get?_eq_some_iff.1 stored
  have put : (key, c.shown key text) ∈ c.written record.entries :=
    Conventions.mem_written_iff.2 (.inl ⟨text, own, rfl⟩)
  obtain ⟨last, written, found⟩ := Table.empty.get?_setAll_of_mem put
  rw [normalize_eq, Table.get?_setAll_of_not_mem _ untimed, found]
  rcases Conventions.mem_written_iff.1 written with
    ⟨text', own', rfl⟩ | ⟨field, text', t, own', read, same, -⟩
  · rw [Table.get?_eq_some_iff.2 own'] at stored
    rw [Option.some.inj stored]
  · exact absurd ⟨(field, text'), own', by rw [read]; rfl, same.symm⟩ short

theorem shown_of_undated
    (undated : c.isDateField key = false ∨ Text.allBlank text = true ∨ timestamp? text = none) :
    c.shown key text = text := by
  have none : c.dateOf? key text = none := by
    unfold Conventions.dateOf?
    rcases undated with other | blank | unread
    · simp [other]
    · simp [blank]
    · simp [unread]
  unfold Conventions.shown
  rw [none]

/-- A record that is made ready loses none of its names and comes to have those of its dates and
events beside them, each name once. A field keeps its text where it is no date and where it is one
that cannot be read, so long as no date and no event has its name to write at. -/
theorem normalize_keeps_fields (c : Conventions) (record : Fields) :
    (normalize c record).keys.Nodup ∧
    (∀ key, key ∈ (normalize c record).keys ↔ key ∈ record.keys ∨ c.Derived record key) ∧
    ∀ key text, record.get? key = some text → ¬ c.Derived record key →
      c.isDateField key = false ∨ Text.allBlank text = true ∨ timestamp? text = none →
        (normalize c record).get? key = some text := by
  refine ⟨(normalize c record).nodup, fun key => mem_keys_normalize_iff,
    fun key text stored apart undated => ?_⟩
  rw [get?_normalize_of_not_derived stored apart, shown_of_undated undated]

/-- A date whose long form has the name of a field, two events, one of them without a date that can
be read, and a date that cannot be read. -/
theorem normalize_keeps_fields_coinciding :
    let c : Conventions := ⟨"data", "_b", "hora", ["a", "nome"]⟩
    let record : Fields := .ofList
      [("data_a", "2002-03-15T16:30:00Z"), ("data_a_b", "x"), ("nome", "Ana"), ("data_nome", "?")]
    (normalize c record).keys = ["data_a", "data_a_b", "nome", "data_nome", "hora_a"] ∧
      (∀ key, key ∈ (normalize c record).keys ↔ key ∈ record.keys ∨ c.Derived record key) ∧
      (normalize c record).get? "nome" = some "Ana" ∧
      (normalize c record).get? "data_nome" = some "?" := by
  intro c record
  obtain ⟨-, names, kept⟩ := normalize_keeps_fields c record
  exact ⟨by decide +kernel, names,
    kept "nome" "Ana" (by decide) (by decide +kernel) (.inl (by decide)),
    kept "data_nome" "?" (by decide) (by decide +kernel) (.inr (.inr (by decide +kernel)))⟩

end Formulary.Record
