import Formulary.Proofs.Calendar.Forms
import Formulary.Sample.Rule

/-!
The shapes of invented values, one for each rule, and that no value of such a shape is empty or
holds a brace, markup or the end of a line.
-/

namespace Formulary.Sample

open Calendar

/-! ## Shapes -/

/-- `n` decimal digits. -/
structure Figures (n : Nat) (text : String) : Prop where
  length : text.length = n
  digits : ∀ c ∈ text.toList, Text.isDigit c = true

/-- A first name for one of the sexes, two surnames, and perhaps a particle between these. -/
inductive PersonName (sexes : List Sex) : String → Prop
  | plain {sex : Sex} {first middle last : String} : sex ∈ sexes → first ∈ sex.firstNames →
      middle ∈ Pool.surnames → last ∈ Pool.surnames →
      PersonName sexes (first ++ " " ++ middle ++ " " ++ last)
  | particle {sex : Sex} {first middle particle last : String} : sex ∈ sexes →
      first ∈ sex.firstNames → middle ∈ Pool.surnames → particle ∈ Pool.particles →
      last ∈ Pool.surnames →
      PersonName sexes (first ++ " " ++ middle ++ " " ++ particle ++ " " ++ last)

/-- A day of the calendar that lies at least one day and at most thirty years of 365 days before
another, and is found by counting back from it. -/
def Past (reference d : Date) : Prop :=
  d.IsInRange ∧ ∃ n : Nat, 1 ≤ n ∧ n ≤ 10950 ∧ d.number + n = reference.number ∧
    reference.back? n = some d

/-- What a rule may invent on a day, by its label. -/
inductive Invented (today : Date) : String → String → Prop
  | fullName {name : String} : PersonName [.male, .female] name → Invented today "full_name" name
  | maleName {name : String} : PersonName [.male] name → Invented today "male_name" name
  | femaleName {name : String} : PersonName [.female] name → Invented today "female_name" name
  | grandparents {he she : String} : PersonName [.male] he → PersonName [.female] she →
      Invented today "grandparents" (he ++ " e " ++ she)
  | officerName {name : String} : PersonName [.male, .female] name →
      Invented today "officer_name" name
  | marriedSurname {name : String} : name ∈ Pool.surnames → Invented today "married_surname" name
  /-- The groups are parts of the eleven digits that were drawn. -/
  | cpf {drawn a b c d : String} : Figures 11 drawn →
      Text.slice? drawn.toByteArray 0 3 = some a → Text.slice? drawn.toByteArray 3 6 = some b →
      Text.slice? drawn.toByteArray 6 9 = some c → Text.slice? drawn.toByteArray 9 11 = some d →
      Figures 3 a → Figures 3 b → Figures 3 c → Figures 2 d →
      Invented today "cpf" (a ++ "." ++ b ++ "." ++ c ++ "-" ++ d)
  | registrationNumber {digits : String} : Figures 16 digits →
      Invented today "registration_number" digits
  | longDate {d : Date} : Past today d → Invented today "long_date" d.long
  | birthDate {d : Date} : Past ⟨2004, 1, 1⟩ d → Invented today "birth_date" d.short
  | date {d : Date} : Past today d → Invented today "date" d.short
  /-- There is such a time on any day. -/
  | time {hour minute : Nat} : 8 ≤ hour → hour ≤ 18 → minute ≤ 59 →
      (∀ d, Timestamp.of? d hour minute 0 0 = some ⟨d, hour, minute, 0, 0⟩) →
      Invented today "time"
        (String.ofList (Text.padded 2 hour ++ ':' :: Text.padded 2 minute))
  | city {city : String} : city ∈ Pool.cities → Invented today "city" city
  | address {kind name dwelling : String} {house number : Nat} : kind ∈ Pool.streetTypes →
      name ∈ Pool.streetNames → 1 ≤ house → house ≤ 1999 → dwelling ∈ Pool.dwellings →
      1 ≤ number → number ≤ 499 →
      Invented today "address" (kind ++ " " ++ name ++ ", " ++ toString house ++ ", " ++ dwelling ++
        " " ++ toString number)
  | state {state : String} : state ∈ Pool.states → Invented today "state" state
  | occupation {occupation : String} : occupation ∈ Pool.occupations →
      Invented today "occupation" occupation
  | nationality : Invented today "nationality" "Brasileiro(a)"
  | book {digits : String} : Figures 3 digits → Invented today "book" ("B-" ++ digits)
  | page {digits : String} : Figures 3 digits → Invented today "page" digits
  | propertyRegime {regime : String} : regime ∈ Pool.propertyRegimes →
      Invented today "property_regime" regime
  | officerRole {role : String} : role ∈ Pool.officerRoles → Invented today "officer_role" role

/-! ## Plain texts -/

/-- Braces, what stands for markup, and the end of a line. -/
def marks : List Char := ['\x7b', '\x7d', '<', '>', '&', '\n']

/-- A text that is there and holds none of the marks. -/
structure Plain (text : String) : Prop where
  nonempty : text ≠ ""
  unmarked : ∀ c ∈ text.toList, c ∉ marks

instance (text : String) : Decidable (Plain text) :=
  decidable_of_iff (text ≠ "" ∧ text.toList.all (decide <| · ∉ marks) = true)
    ⟨fun h => ⟨h.1, by simpa using h.2⟩, fun h => ⟨h.1, by simpa using h.2⟩⟩

section

variable {a b text : String} {n : Nat} {sexes : List Sex} {d today : Date} {label : String}

theorem Plain.append (ha : Plain a) (hb : Plain b) : Plain (a ++ b) := by
  refine ⟨fun none => ha.nonempty (String.append_eq_empty_iff.1 none).1, fun c hc => ?_⟩
  rw [String.toList_append, List.mem_append] at hc
  exact hc.elim (ha.unmarked c) (hb.unmarked c)

/-- A kind of characters to which none of the marks belongs. -/
theorem not_mem_marks {kind : Char → Bool} (apart : marks.all (fun m => !kind m) = true) {c : Char}
    (h : kind c = true) : c ∉ marks := by
  intro mark
  have other := List.all_eq_true.1 apart c mark
  rw [h] at other
  cases other

theorem not_mem_marks_of_isAlphanum {c : Char} : c.isAlphanum = true → c ∉ marks :=
  not_mem_marks (by decide)

theorem not_mem_marks_of_isDigit {c : Char} : Text.isDigit c = true → c ∉ marks :=
  not_mem_marks (by decide)

theorem Figures.plain (h : Figures (n + 1) text) : Plain text := by
  refine ⟨fun none => ?_, fun c hc => not_mem_marks_of_isDigit (h.digits c hc)⟩
  have length := h.length
  rw [none] at length
  cases length

theorem plain_ofList {s : List Char} (full : s ≠ []) (unmarked : ∀ c ∈ s, c ∉ marks) :
    Plain (String.ofList s) := by
  refine ⟨fun none => full ?_, fun c hc => unmarked c ?_⟩
  · rw [← String.toList_ofList (l := s), none]
    rfl
  · rwa [String.toList_ofList] at hc

theorem plain_numeral (n : Nat) : Plain (String.ofList (Text.numeral n)) :=
  plain_ofList (Text.numeral_ne_nil n) fun _ h =>
    not_mem_marks_of_isDigit (Text.isDigit_of_mem_numeral h)

theorem plain_toString (n : Nat) : Plain (toString n) := by
  rw [Nat.toString_eq_ofList_toDigits]
  exact plain_numeral n

theorem not_mem_marks_of_mem_padded {width : Nat} {c : Char} (h : c ∈ Text.padded width n) :
    c ∉ marks := not_mem_marks_of_isDigit (Text.isDigit_of_mem_padded h)

theorem plain_short (d : Date) : Plain d.short := by
  have slash : '/' ∉ marks := by decide
  have minus : '-' ∉ marks := by decide
  have plus : '+' ∉ marks := by decide
  refine plain_ofList (by simp) fun c hc => ?_
  simp only [yearFigures, List.mem_cons, List.mem_append] at hc
  rcases hc with (day | rfl | month) | rfl | sign | year
  · exact not_mem_marks_of_mem_padded day
  · exact slash
  · exact not_mem_marks_of_mem_padded month
  · exact slash
  · split_ifs at sign <;> simp_all
  · exact not_mem_marks_of_mem_padded year

theorem plain_monthName {month : Nat} (first : 1 ≤ month) (last : month ≤ 12) :
    Plain (monthNames.getD (month - 1) "") := by
  have all : ∀ name ∈ monthNames, Plain name := by decide +kernel
  obtain ⟨named, eq⟩ := monthName_eq_getElem first last
  rw [eq]
  exact all _ (List.getElem_mem named)

theorem plain_long (h : d.IsReal) : Plain d.long := by
  obtain ⟨first, last, -⟩ := h
  have of_ : Plain " de " := by decide +kernel
  have day := ((plain_numeral d.day).append of_).append (plain_monthName first last)
  have year : Plain ((if d.year < 0 then "-" else "") ++
      String.ofList (Text.numeral d.year.natAbs)) := by
    split
    · exact Plain.append (by decide +kernel) (plain_numeral _)
    · rw [String.empty_append]
      exact plain_numeral _
  have whole := (day.append of_).append year
  rwa [← String.append_assoc] at whole

theorem plain_surname : ∀ name ∈ Pool.surnames, Plain name := by decide +kernel

theorem PersonName.plain_text (h : PersonName sexes text) : Plain text := by
  have firstNames (sex : Sex) : ∀ name ∈ sex.firstNames, Plain name := by
    cases sex <;> decide +kernel
  have particles : ∀ name ∈ Pool.particles, Plain name := by decide +kernel
  have blank : Plain " " := by decide +kernel
  cases h with
  | plain _ first middle last =>
    exact ((((firstNames _ _ first).append blank).append
      (plain_surname _ middle)).append blank).append (plain_surname _ last)
  | particle _ first middle particle last =>
    exact ((((((firstNames _ _ first).append blank).append (plain_surname _ middle)).append
      blank).append (particles _ particle)).append blank).append (plain_surname _ last)

theorem Invented.plain (h : Invented today label text) : Plain text := by
  have blank : Plain " " := by decide +kernel
  have comma : Plain ", " := by decide +kernel
  have point : Plain "." := by decide +kernel
  cases h with
  | fullName name => exact name.plain_text
  | maleName name => exact name.plain_text
  | femaleName name => exact name.plain_text
  | grandparents he she => exact (he.plain_text.append (by decide +kernel)).append she.plain_text
  | officerName name => exact name.plain_text
  | marriedSurname name => exact plain_surname _ name
  | cpf _ _ _ _ _ a b c d =>
    exact (((((a.plain.append point).append b.plain).append point).append c.plain).append
      (by decide +kernel)).append d.plain
  | registrationNumber digits => exact digits.plain
  | longDate past => exact plain_long past.1.1
  | birthDate past => exact plain_short _
  | date past => exact plain_short _
  | time _ _ _ _ =>
    have colon : ':' ∉ marks := by decide
    refine plain_ofList (by simp) fun c hc => ?_
    simp only [List.mem_cons, List.mem_append] at hc
    rcases hc with hour | rfl | minute
    · exact not_mem_marks_of_mem_padded hour
    · exact colon
    · exact not_mem_marks_of_mem_padded minute
  | city name => exact (by decide +kernel : ∀ name ∈ Pool.cities, Plain name) _ name
  | @address _ _ _ house number kind name _ _ dwelling _ _ =>
    have kinds : ∀ text ∈ Pool.streetTypes, Plain text := by decide +kernel
    have names : ∀ text ∈ Pool.streetNames, Plain text := by decide +kernel
    have dwellings : ∀ text ∈ Pool.dwellings, Plain text := by decide +kernel
    have street := ((kinds _ kind).append blank).append (names _ name)
    have door := ((street.append comma).append (plain_toString house)).append comma
    exact ((door.append (dwellings _ dwelling)).append blank).append (plain_toString number)
  | state name => exact (by decide +kernel : ∀ name ∈ Pool.states, Plain name) _ name
  | occupation name => exact (by decide +kernel : ∀ name ∈ Pool.occupations, Plain name) _ name
  | nationality => decide +kernel
  | book digits => exact Plain.append (by decide +kernel) digits.plain
  | page digits => exact digits.plain
  | propertyRegime name =>
    exact (by decide +kernel : ∀ name ∈ Pool.propertyRegimes, Plain name) _ name
  | officerRole name => exact (by decide +kernel : ∀ name ∈ Pool.officerRoles, Plain name) _ name

end

end Formulary.Sample
