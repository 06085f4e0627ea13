import Formulary.Proofs.Calendar.Spelling
import Formulary.Proofs.Record.Entries
import Mathlib.Data.List.Forall2

/-!
Records that tell the same instants in other spellings. A date field gives the same two forms and an
event the same time of day, whatever offset the instant was stored at; only a text that is kept as it
was stored shows its spelling.
-/

namespace Formulary.Record

open Calendar

/-- Two fields that are the same but for the spelling of an instant. -/
inductive Respelled : String × String → String × String → Prop
  | same (e : String × String) : Respelled e e
  | instant {key text text' : String} {t : Timestamp} : Spells text t → Spells text' t →
      Respelled (key, text) (key, text')

variable {c : Conventions} {record record' : Fields} {key : String}
variable {e e' : String × String} {fields fields' : List (String × String)}

namespace Respelled

theorem key_eq (h : Respelled e e') : e.1 = e'.1 := by
  cases h with
  | same => rfl
  | instant => rfl

theorem timestamp?_eq (h : Respelled e e') : timestamp? e.2 = timestamp? e'.2 := by
  cases h with
  | same => rfl
  | instant spelled spelled' => rw [spelled.timestamp?_eq, spelled'.timestamp?_eq]

theorem dateOf?_eq (h : Respelled e e') : c.dateOf? e.1 e.2 = c.dateOf? e'.1 e'.2 := by
  rw [c.dateOf?_eq, c.dateOf?_eq, h.key_eq, h.timestamp?_eq]

theorem entryKeys_fieldEntries (h : Respelled e e') :
    entryKeys (c.fieldEntries e.1 e.2) = entryKeys (c.fieldEntries e'.1 e'.2) := by
  unfold Conventions.fieldEntries
  rw [h.dateOf?_eq, h.key_eq]
  cases c.dateOf? e'.1 e'.2 <;> rfl

/-- A field that is kept as it was stored writes at its own name only, and no date field differs in
what it writes. -/
theorem filter_fieldEntries (h : Respelled e e')
    (apart : c.isDateField key = true ∨ (e.1 = key → e.2 = e'.2)) :
    (c.fieldEntries e.1 e.2).filter (·.1 = key) =
      (c.fieldEntries e'.1 e'.2).filter (·.1 = key) := by
  cases h with
  | same => rfl
  | @instant name text text' t spelled spelled' =>
    unfold Conventions.fieldEntries
    rw [c.dateOf?_eq, c.dateOf?_eq, spelled.timestamp?_eq, spelled'.timestamp?_eq]
    by_cases date : c.isDateField name = true
    · simp only [date, if_true]
    · simp only [date, Bool.false_eq_true, if_false]
      by_cases own : name = key
      · rcases apart with other | same
        · exact absurd (own ▸ other) date
        · rw [show text = text' from same own]
      · simp [own]

end Respelled

/-! ## Fields in turn -/

theorem entryKeys_respelled (h : List.Forall₂ Respelled fields fields') :
    entryKeys fields = entryKeys fields' :=
  Table.entryKeys_forall₂ (fun _ _ => Respelled.key_eq) h

theorem findEntry_respelled (h : List.Forall₂ Respelled fields fields') (key : String) :
    (findEntry key fields).bind timestamp? = (findEntry key fields').bind timestamp? := by
  induction h with
  | nil => rfl
  | @cons e e' _ _ first _ ih =>
    obtain ⟨name, text⟩ := e
    obtain ⟨name', text'⟩ := e'
    obtain rfl : name = name' := first.key_eq
    unfold findEntry
    split
    · exact first.timestamp?_eq
    · exact ih

namespace Conventions

theorem entryKeys_written (h : List.Forall₂ Respelled fields fields') :
    entryKeys (c.written fields) = entryKeys (c.written fields') := by
  induction h with
  | nil => rfl
  | cons first _ ih =>
    have first := first.entryKeys_fieldEntries (c := c)
    simp only [written, entryKeys, List.flatMap_cons, List.map_append] at first ih ⊢
    rw [first, ih]

theorem filter_written (h : List.Forall₂ Respelled fields fields')
    (apart : c.isDateField key = true ∨
      ∀ text text', (key, text) ∈ fields → (key, text') ∈ fields' → text = text') :
    (c.written fields).filter (·.1 = key) = (c.written fields').filter (·.1 = key) := by
  induction h with
  | nil => rfl
  | @cons e e' _ _ first _ ih =>
    have head := first.filter_fieldEntries <| apart.imp_right fun same own =>
      same e.2 e'.2 (by rw [← own]; exact List.mem_cons_self)
        (by rw [← own, first.key_eq]; exact List.mem_cons_self)
    have tail := ih <| apart.imp_right fun same text text' stored stored' =>
      same text text' (List.mem_cons_of_mem _ stored) (List.mem_cons_of_mem _ stored')
    simp only [written, List.flatMap_cons, List.filter_append] at head tail ⊢
    rw [head, tail]

/-- The events of a day are told by instants alone. -/
theorem timed_respelled (h : List.Forall₂ Respelled record.entries record'.entries) :
    c.timed record = c.timed record' := by
  have keys : record.keys = record'.keys := entryKeys_respelled h
  have stored (name : String) : (record.get? name).bind timestamp? =
      (record'.get? name).bind timestamp? := findEntry_respelled h name
  unfold timed eventEntries
  simp only [keys, stored]

end Conventions

/-! ## Records -/

theorem keys_normalize_respelled (h : List.Forall₂ Respelled record.entries record'.entries) :
    (normalize c record).keys = (normalize c record').keys := by
  rw [normalize_eq, normalize_eq]
  refine Table.keys_setAll_congr (Table.keys_setAll_congr rfl (c.entryKeys_written h)) ?_
  rw [c.timed_respelled h]

theorem get?_written_respelled (h : List.Forall₂ Respelled record.entries record'.entries)
    (apart : c.isDateField key = true ∨ record.get? key = record'.get? key) :
    (Table.empty.setAll (c.written record.entries)).get? key =
      (Table.empty.setAll (c.written record'.entries)).get? key := by
  have same : (c.written record.entries).filter (·.1 = key) =
      (c.written record'.entries).filter (·.1 = key) := by
    refine c.filter_written h (apart.imp_right fun same text text' stored stored' => ?_)
    rw [Table.get?_eq_some_iff.2 stored, Table.get?_eq_some_iff.2 stored'] at same
    exact Option.some.inj same
  rw [Table.get?_setAll, Table.get?_setAll, ← Table.findEntry_filter, List.filter_reverse, same,
    ← List.filter_reverse, Table.findEntry_filter]

/-- The forms of dates, the times of events and all texts that are not respelled are the same. -/
theorem get?_normalize_respelled (h : List.Forall₂ Respelled record.entries record'.entries)
    (apart : c.isDateField key = true ∨ key ∈ entryKeys (c.timed record) ∨
      record.get? key = record'.get? key) :
    (normalize c record).get? key = (normalize c record').get? key := by
  rw [normalize_eq, normalize_eq, ← c.timed_respelled h, Table.get?_setAll,
    Table.get?_setAll (Table.setAll _ _)]
  by_cases timed : key ∈ entryKeys (c.timed record)
  · obtain ⟨value, put⟩ := Table.mem_entryKeys.1 timed
    have back : key ∈ entryKeys (c.timed record).reverse :=
      Table.mem_entryKeys.2 ⟨value, List.mem_reverse.2 put⟩
    obtain ⟨last, found⟩ := Table.mem_entryKeys_iff_findEntry.1 back
    rw [found, Option.some_or, Option.some_or]
  · rw [get?_written_respelled h (apart.imp_right fun or => or.resolve_left timed)]

/-- An instant has a spelling at each offset, and all its spellings are read as that instant. So
records that differ in spellings give the same names in the same order, and the same short and long
dates, times of events and other texts; but for a text that is kept as it was stored, which differs
as it did. -/
theorem spellings_read_alike :
    (∀ (t : Timestamp) (zone : Zone), t.IsReal → zone.IsReal →
      0 ≤ (t.minus (-zone.east)).date.year ∧ (t.minus (-zone.east)).date.year ≤ 9999 →
        ∃ s : Spelling, s.Of t ∧ s.time = t.minus (-zone.east) ∧ s.zone = zone) ∧
    (∀ (text : String) (t : Timestamp), Spells text t → timestamp? text = some t) ∧
    ∀ (c : Conventions) (record record' : Fields),
      List.Forall₂ Respelled record.entries record'.entries →
        (normalize c record).keys = (normalize c record').keys ∧
        c.timed record = c.timed record' ∧
        ∀ key, c.isDateField key = true ∨ key ∈ entryKeys (c.timed record) ∨
            record.get? key = record'.get? key →
          (normalize c record).get? key = (normalize c record').get? key := by
  refine ⟨fun t zone real offset year => Spelling.exists_of real offset year,
    fun text t spells => spells.timestamp?_eq, fun c record record' respelled => ?_⟩
  exact ⟨keys_normalize_respelled respelled, c.timed_respelled respelled,
    fun key => get?_normalize_respelled respelled⟩

/-- Half past eleven at night on the last day of a year, three hours behind universal time, is in the
year after. -/
theorem spellings_read_alike_new_year :
    let t : Timestamp := ⟨⟨2025, 1, 1⟩, 2, 30, 0, 500000000⟩
    let record : Fields := .ofList [("data_casamento", " 2024-12-31T23:30:00.5-03:00")]
    let record' : Fields := .ofList [("data_casamento", "2025-01-01t02:30:00.500Z\n")]
    (∃ s : Spelling, s.Of t ∧ s.time = ⟨⟨2024, 12, 31⟩, 23, 30, 0, 500000000⟩ ∧
      s.zone = .offset true 3 0) ∧
    timestamp? " 2024-12-31T23:30:00.5-03:00" = some t ∧
      ∀ key ∈ ["data_casamento", "data_casamento_extenso", "hora_casamento"],
        (normalize .standard record).get? key = (normalize .standard record').get? key := by
  intro t record record'
  have real : t.IsReal := ⟨by decide, by decide, by decide, by decide, by decide⟩
  have real' : (⟨⟨2024, 12, 31⟩, 23, 30, 0, 500000000⟩ : Timestamp).IsReal :=
    ⟨by decide, by decide, by decide, by decide, by decide⟩
  have west : Spells " 2024-12-31T23:30:00.5-03:00" t :=
    ⟨real, [' '], [], ⟨_, 'T', ['5'], .offset true 3 0⟩,
      ⟨real', by decide, by decide, by decide, rfl, by decide, List.all_eq_true.1 rfl, by decide⟩,
      by decide, List.all_eq_true.1 rfl, List.all_eq_true.1 rfl⟩
  have universal : Spells "2025-01-01t02:30:00.500Z\n" t :=
    ⟨real, [], ['\n'], ⟨_, 't', ['5', '0', '0'], .universal true⟩,
      ⟨real, by decide, by decide, by decide, rfl, by decide, List.all_eq_true.1 rfl, by decide⟩,
      by decide, List.all_eq_true.1 rfl, List.all_eq_true.1 rfl⟩
  have respelled : List.Forall₂ Respelled record.entries record'.entries :=
    .cons (.instant west universal) .nil
  obtain ⟨spelled, read, alike⟩ := spellings_read_alike
  obtain ⟨-, -, values⟩ := alike .standard record record' respelled
  have names : ∀ key ∈ ["data_casamento", "data_casamento_extenso", "hora_casamento"],
      Conventions.standard.isDateField key = true ∨
        key ∈ entryKeys (Conventions.standard.timed record) ∨
        record.get? key = record'.get? key := by decide +kernel
  have localTime : t.minus (-(Zone.offset true 3 0).east) =
      ⟨⟨2024, 12, 31⟩, 23, 30, 0, 500000000⟩ := by decide +kernel
  obtain ⟨s, of, time, zone⟩ := spelled t (.offset true 3 0) real (by decide) (by decide)
  exact ⟨⟨s, of, time.trans localTime, zone⟩, read _ _ west,
    fun key hkey => values key (names key hkey)⟩

end Formulary.Record
