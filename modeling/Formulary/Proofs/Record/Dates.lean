import Formulary.Proofs.Record.Normalize

/-!
The two forms of a date. A field that holds a date puts the short form at its own name and the long
form at the name behind it. They are there in the end unless a field further back puts something
else at one of the two names; which it does where it has the second name for its own, or where it
holds a date and has the first name for that of its long form.
-/

namespace Formulary.Record

open Calendar Template

variable {c : Conventions} {record : Fields} {before behind fields : List (String × String)}
variable {field text key value : String} {t : Timestamp}

namespace Conventions

theorem fieldEntries_of_date (h : c.dateOf? field text = some t) :
    c.fieldEntries field text =
      [(field, t.date.short), (field ++ c.longDateSuffix, t.date.long)] := by
  unfold fieldEntries
  rw [h]

theorem shown_eq_long_iff {d : Date} : c.shown field text = d.long ↔ text = d.long := by
  unfold shown
  cases read : c.dateOf? field text with
  | none => rfl
  | some t =>
    have apart : text ≠ d.long := by
      rintro rfl
      have settled : c.Settled (field, d.long) := fun _ => timestamp?_long d
      simp [settled_iff.1 settled] at read
    simp [short_ne_long, apart]

end Conventions

/-! ## Values behind a field -/

/-- The values when a field has been looked at and those behind it have not. -/
def valuesUpTo (c : Conventions) (before : List (String × String)) (field text : String) : Values :=
  (Table.empty.setAll (c.written before)).setAll (c.fieldEntries field text)

theorem get?_valuesUpTo_short (read : c.dateOf? field text = some t)
    (suffix : c.longDateSuffix ≠ "") :
    (valuesUpTo c before field text).get? field = some t.date.short := by
  have apart : field ≠ field ++ c.longDateSuffix := by
    intro same
    exact suffix (String.append_eq_left_iff.1 same.symm)
  unfold valuesUpTo
  rw [Conventions.fieldEntries_of_date read]
  simp [Table.setAll, Table.get?_set, apart]

theorem get?_valuesUpTo_long (read : c.dateOf? field text = some t) :
    (valuesUpTo c before field text).get? (field ++ c.longDateSuffix) = some t.date.long := by
  unfold valuesUpTo
  rw [Conventions.fieldEntries_of_date read]
  simp [Table.setAll, Table.get?_set]

/-- The name of a date is written again only by a date whose long form goes there, -/
theorem get?_short_iff {values : Values} {d : Date} (held : values.get? key = some d.short)
    (new : key ∉ entryKeys fields) :
    (values.setAll (c.written fields)).get? key = some d.short ↔
      ∀ field text, (field, text) ∈ fields → field ++ c.longDateSuffix = key →
        c.dateOf? field text = none := by
  have long : ∀ value, (key, value) ∈ c.written fields → ∃ field text t,
      (field, text) ∈ fields ∧ c.dateOf? field text = some t ∧
        key = field ++ c.longDateSuffix ∧ value = t.date.long := by
    intro value put
    rcases Conventions.mem_written_iff.1 put with ⟨text, own, -⟩ | other
    · exact absurd (Table.mem_entryKeys.2 ⟨text, own⟩) new
    · exact other
  constructor
  · rintro kept field text stored rfl
    cases read : c.dateOf? field text with
    | none => rfl
    | some t =>
      have again := Conventions.mem_written_iff.2 (.inr ⟨_, _, t, stored, read, rfl, rfl⟩)
      obtain ⟨last, put, found⟩ := values.get?_setAll_of_mem again
      obtain rfl := Option.some.inj (found.symm.trans kept)
      obtain ⟨_, _, t, -, -, -, same⟩ := long _ put
      exact absurd same (short_ne_long d t.date)
  · intro none
    have kept : key ∉ entryKeys (c.written fields) := by
      intro again
      obtain ⟨value, put⟩ := Table.mem_entryKeys.1 again
      obtain ⟨field, text, t, stored, read, eq, -⟩ := long value put
      simp [none field text stored eq.symm] at read
    rw [values.get?_setAll_of_not_mem kept, held]

/-- and the name of a long form by the field that has it for its own. -/
theorem get?_long_iff {values : Values} {d : Date}
    (held : values.get? (key ++ c.longDateSuffix) = some d.long)
    (new : key ∉ entryKeys fields) (distinct : (entryKeys fields).Nodup) :
    (values.setAll (c.written fields)).get? (key ++ c.longDateSuffix) = some d.long ↔
      ∀ text, (key ++ c.longDateSuffix, text) ∈ fields → text = d.long := by
  have own : ∀ value, (key ++ c.longDateSuffix, value) ∈ c.written fields →
      ∃ text, (key ++ c.longDateSuffix, text) ∈ fields ∧
        value = c.shown (key ++ c.longDateSuffix) text := by
    intro value put
    rcases Conventions.mem_written_iff.1 put with own | ⟨field, text, _, stored, -, same, -⟩
    · exact own
    · rw [(String.append_left_inj _).1 same] at new
      exact absurd (Table.mem_entryKeys.2 ⟨text, stored⟩) new
  constructor
  · intro kept text stored
    have again : (_, c.shown _ text) ∈ c.written fields :=
      Conventions.mem_written_iff.2 (.inl ⟨text, stored, rfl⟩)
    obtain ⟨last, put, found⟩ := values.get?_setAll_of_mem again
    obtain rfl := Option.some.inj (found.symm.trans kept)
    obtain ⟨text', stored', same⟩ := own _ put
    have once := (Table.findEntry_eq_some_iff distinct).2 stored
    rw [(Table.findEntry_eq_some_iff distinct).2 stored'] at once
    rw [← Option.some.inj once]
    exact Conventions.shown_eq_long_iff.1 same.symm
  · intro all
    by_cases again : key ++ c.longDateSuffix ∈ entryKeys (c.written fields)
    · obtain ⟨value, put⟩ := Table.mem_entryKeys.1 again
      obtain ⟨last, put, found⟩ := values.get?_setAll_of_mem put
      obtain ⟨text, stored, rfl⟩ := own last put
      rw [found, Conventions.shown_eq_long_iff.2 (all text stored)]
    · rw [values.get?_setAll_of_not_mem again, held]

/-! ## Records of a civil registry -/

/-- Times of day stand at names that are none of dates. -/
theorem get?_normalize_standard (date : Conventions.standard.isDateField key = true)
    (stored : record.entries = before ++ (field, text) :: behind) :
    (normalize .standard record).get? key =
      ((valuesUpTo .standard before field text).setAll
        (Conventions.standard.written behind)).get? key := by
  have elsewhere : key ∉ entryKeys (Conventions.standard.timed record) := by
    intro h
    obtain ⟨value, put⟩ := Table.mem_entryKeys.1 h
    obtain ⟨event, listed, -, t, -, rfl, -⟩ := Conventions.mem_timed_iff.1 put
    obtain rfl := List.mem_singleton.1 listed
    exact absurd date (by decide)
  rw [normalize_eq, Table.get?_setAll_of_not_mem _ elsewhere, stored]
  simp [Conventions.written, valuesUpTo, Table.setAll_append]

/-- What a date comes to. The short form is at the name of the field unless a date behind it has its
long form there, and the long form is at the name behind it unless a field behind has that name and
another text. -/
theorem date_forms_iff (record : Fields) (before behind : List (String × String))
    (field text : String) (t : Timestamp)
    (stored : record.entries = before ++ (field, text) :: behind)
    (date : Conventions.standard.isDateField field = true) (read : timestamp? text = some t) :
    ((normalize .standard record).get? field = some t.date.short ↔
      ∀ other text', (other, text') ∈ behind → other ++ "_extenso" = field →
        Conventions.standard.dateOf? other text' = none) ∧
    ((normalize .standard record).get? (field ++ "_extenso") = some t.date.long ↔
      ∀ text', (field ++ "_extenso", text') ∈ behind → text' = t.date.long) := by
  have read : Conventions.standard.dateOf? field text = some t := by
    rw [Conventions.dateOf?_eq, if_pos date, read]
  have keys : (entryKeys before ++ field :: entryKeys behind).Nodup := by
    have := record.nodup
    rwa [stored, entryKeys, List.map_append] at this
  obtain ⟨new, distinct⟩ := List.nodup_cons.1 (List.nodup_append.1 keys).2.1
  constructor
  · rw [get?_normalize_standard date stored]
    exact get?_short_iff (get?_valuesUpTo_short read (by decide)) new
  · rw [get?_normalize_standard (Conventions.isDateField_append date _) stored]
    exact get?_long_iff (get?_valuesUpTo_long read) new distinct

theorem date_forms_wedding :
    let record : Fields :=
      .ofList [("nome", "Ana"), ("data_casamento", "2002-03-15"), ("data_obito", "")]
    (normalize .standard record).get? "data_casamento" = some "15/03/2002" ∧
      (normalize .standard record).get? "data_casamento_extenso" =
        some "15 de março de 2002" := by
  intro record
  have read : timestamp? "2002-03-15" = some ⟨⟨2002, 3, 15⟩, 0, 0, 0, 0⟩ := by decide +kernel
  obtain ⟨short, long⟩ := date_forms_iff record [("nome", "Ana")] [("data_obito", "")]
    "data_casamento" "2002-03-15" _ (by decide) (by decide) read
  exact ⟨short.2 (by simp), long.2 (by simp)⟩

/-- A field behind the date that has the name of its long form takes the place of the long form, a
blank one too. -/
theorem long_form_lost :
    let record : Fields :=
      .ofList [("data_nascimento", "2002-03-15"), ("data_nascimento_extenso", "")]
    ∃ t, timestamp? "2002-03-15" = some t ∧ t.date.long = "15 de março de 2002" ∧
      (normalize .standard record).get? "data_nascimento_extenso" = some "" :=
  ⟨⟨⟨2002, 3, 15⟩, 0, 0, 0, 0⟩, by decide +kernel⟩

end Formulary.Record
