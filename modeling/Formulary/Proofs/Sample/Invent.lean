import Formulary.Proofs.Sample.Draws
import Formulary.Proofs.Sample.Shapes
import Formulary.Proofs.Text.Append
import Formulary.Sample.KeyStream

/-!
What is invented. Whatever words a source gives, a value has the shape that belongs to the first
rule for its name, or is made of letters and figures where there is none. What stands in for a text,
a day, a time or a part of a text that is not there is never needed.
-/

namespace Formulary.Sample

open Calendar Draw

/-! ## Digits cut up -/

namespace Figures

variable {m n : Nat} {a b c text : String}

theorem append (ha : Figures m a) (hb : Figures n b) : Figures (m + n) (a ++ b) := by
  refine ⟨by rw [String.length_append, ha.length, hb.length], fun c hc => ?_⟩
  rw [String.toList_append, List.mem_append] at hc
  exact hc.elim (ha.digits c) (hb.digits c)

theorem split (h : Figures (m + n) text) : ∃ a b, text = a ++ b ∧ Figures m a ∧ Figures n b := by
  have length : text.toList.length = m + n := h.length
  refine ⟨String.ofList (text.toList.take m), String.ofList (text.toList.drop m), ?_, ⟨?_, ?_⟩,
    ⟨?_, ?_⟩⟩
  · rw [← String.ofList_append, List.take_append_drop, String.ofList_toList]
  · rw [String.length_ofList, List.length_take, length]
    omega
  · intro c hc
    rw [String.toList_ofList] at hc
    exact h.digits c (List.mem_of_mem_take hc)
  · rw [String.length_ofList, List.length_drop, length]
    omega
  · intro c hc
    rw [String.toList_ofList] at hc
    exact h.digits c (List.mem_of_mem_drop hc)

/-- Every digit is one octet. -/
theorem size_utf8Encode {digits : List Char} (h : ∀ c ∈ digits, Text.isDigit c = true) :
    digits.utf8Encode.size = digits.length := by
  induction digits with
  | nil => rfl
  | cons c rest ih =>
    obtain ⟨first, others⟩ := List.forall_mem_cons.1 h
    have single : c.utf8Size = 1 := by
      have nine := (Text.isDigit_iff.1 first).2
      exact Char.utf8Size_eq_one_iff.2 (UInt32.le_trans nine (by decide))
    rw [List.utf8Encode_cons, ByteArray.size_append, ih others, List.utf8Encode_singleton,
      String.utf8EncodeChar_eq_singleton single, List.length_cons, Nat.add_comm]
    rfl

theorem size_toByteArray (h : Figures n text) : text.toByteArray.size = n := by
  rw [← String.ofList_toList (s := text), String.toByteArray_ofList, size_utf8Encode h.digits]
  exact h.length

theorem slice?_eq (ha : Figures m a) (hb : Figures n b) (c : String) :
    Text.slice? (a ++ b ++ c).toByteArray m (m + n) = some b := by
  have cut := Text.slice?_middle a b c
  rwa [ha.size_toByteArray, (ha.append hb).size_toByteArray] at cut

end Figures

/-! ## Draws -/

section

variable {σ : Type} [WordSource σ] {today reference : Date}

theorem always_figures (n : Nat) : (figures n : Draw σ String).Always (Figures n) := by
  refine (always_digits n).map fun ds hds => ⟨?_, fun c hc => hds.2 c ?_⟩
  · rw [String.length_ofList, hds.1]
  · rwa [String.toList_ofList] at hc

theorem always_fullName {given : Option Sex} {sexes : List Sex}
    (right : ∀ drawn, given.getD drawn ∈ sexes) :
    (fullName given : Draw σ String).Always (PersonName sexes) := by
  have firstNames (sex : Sex) :
      (oneOf sex.firstNames : Draw σ String).Always (· ∈ sex.firstNames) := by
    cases sex
    · exact always_oneOf (by decide)
    · exact always_oneOf (by decide)
  have surname : (oneOf Pool.surnames : Draw σ String).Always (· ∈ Pool.surnames) :=
    always_oneOf (by decide)
  refine (always_true _).bind fun drawn _ => (firstNames _).bind fun first hfirst => ?_
  refine surname.bind fun middle hmiddle => surname.bind fun last hlast => ?_
  refine (always_true _).bind fun more _ => .ite (fun _ => ?_) fun _ => ?_
  · refine (always_oneOf (by decide)).bind fun particle hparticle => ?_
    exact always_pure (.particle (right _) hfirst hmiddle hparticle hlast)
  · exact always_pure (.plain (right _) hfirst hmiddle hlast)

/-- A day is found by counting back, and no other has to stand in for it. -/
theorem always_past (h : reference.IsInRange) (old : firstYear + 30 ≤ reference.year) :
    (daysBack : Draw σ Nat).Always fun days => Past reference (dayBefore reference days) := by
  refine (always_below64 (by decide) (by decide)).map fun days hdays => ?_
  have years : daysBeforeYear firstYear + 10950 ≤ daysBeforeYear (firstYear + 30) := by decide
  have before := daysBeforeYear_mono old
  have after := h.1.number_bounds.1
  have most : days < 10950 := hdays
  obtain ⟨d, found, inRange, number⟩ :=
    Date.back?_of_room h (1 + days) (by push_cast; omega)
  rw [dayBefore, found, Option.getD_some]
  exact ⟨inRange, 1 + days, by omega, by omega, number, found⟩

theorem birthReference_eq : birthReference = ⟨2004, 1, 1⟩ := by decide

theorem always_taxNumber : (taxNumber : Draw σ String).Always (Invented today "cpf") := by
  refine (always_figures 11).bind fun drawn whole => always_pure ?_
  obtain ⟨a, rest, rfl, ha, hrest⟩ := Figures.split (m := 3) (n := 8) whole
  obtain ⟨b, rest, rfl, hb, hrest⟩ := Figures.split (m := 3) (n := 5) hrest
  obtain ⟨c, d, rfl, hc, hd⟩ := Figures.split (m := 3) (n := 2) hrest
  have empty : Figures 0 "" := ⟨rfl, by simp⟩
  have first := empty.slice?_eq ha (b ++ (c ++ d))
  have second := ha.slice?_eq hb (c ++ d)
  have third := (ha.append hb).slice?_eq hc d
  have fourth := ((ha.append hb).append hc).slice?_eq hd ""
  simp only [String.empty_append, String.append_empty, String.append_assoc]
    at first second third fourth
  simp only [Text.slice, first, second, third, fourth, Option.getD_some]
  exact .cpf whole first second third fourth ha hb hc hd

theorem always_officeHour : (officeHour : Draw σ String).Always (Invented today "time") := by
  refine (always_between (by decide) (by decide)).bind fun hour hhour => ?_
  refine (always_between (by decide) (by decide)).bind fun minute hminute => always_pure ?_
  have is_ (d : Date) :
      Timestamp.of? d hour minute 0 0 = some ⟨d, hour, minute, 0, 0⟩ := by
    rw [Timestamp.of?, if_pos (by omega), if_neg (by decide)]
  have closing : hour ≤ 18 := by omega
  have last : minute ≤ 59 := by omega
  rw [timeOfDay, is_, Option.getD_some]
  exact .time hhour.1 closing last is_

theorem always_address : (address : Draw σ String).Always (Invented today "address") := by
  refine (always_oneOf (by decide)).bind fun kind hkind => ?_
  refine (always_oneOf (by decide)).bind fun name hname => ?_
  refine (always_between (by decide) (by decide)).bind fun house hhouse => ?_
  refine (always_oneOf (by decide)).bind fun dwelling hdwelling => ?_
  refine (always_between (by decide) (by decide)).bind fun number hnumber => always_pure ?_
  exact .address hkind hname hhouse.1 (by omega) hdwelling hnumber.1 (by omega)

theorem always_fullName_given (sex : Sex) :
    (fullName (some sex) : Draw σ String).Always (PersonName [sex]) :=
  always_fullName fun _ => List.mem_singleton_self sex

theorem always_fullName_any :
    (fullName none : Draw σ String).Always (PersonName [.male, .female]) := by
  refine always_fullName fun drawn => ?_
  cases drawn <;> decide

theorem always_couple : (couple : Draw σ String).Always (Invented today "grandparents") := by
  refine (always_fullName_given .male).bind fun he hhe => ?_
  refine (always_fullName_given .female).bind fun she hshe => ?_
  exact always_pure (.grandparents hhe hshe)

/-- What each of the rules draws has the shape that belongs to its label. -/
theorem always_draw (h : today.IsInRange) (old : firstYear + 30 ≤ today.year) :
    ∀ r ∈ standardRules (σ := σ) (.on today), r.draw.Always (Invented today r.label) := by
  have birth : (birthDate : Draw σ String).Always (Invented today "birth_date") := by
    rw [birthDate, birthReference_eq]
    exact (always_past (by decide) (by decide)).bind fun _ past => always_pure (.birthDate past)
  have book : (("B-" ++ ·) <$> figures 3 : Draw σ String).Always (Invented today "book") :=
    (always_figures 3).map fun _ => .book
  simp only [standardRules, List.forall_mem_cons, List.not_mem_nil, false_implies, implies_true,
    and_true]
  exact ⟨always_fullName_any.imp fun _ => .fullName,
    (always_fullName_given .male).imp fun _ => .maleName,
    (always_fullName_given .female).imp fun _ => .femaleName,
    always_couple,
    always_fullName_any.imp fun _ => .officerName,
    (always_oneOf (by decide)).imp fun _ => .marriedSurname,
    always_taxNumber,
    (always_figures 16).imp fun _ => .registrationNumber,
    (always_past h old).map fun _ => .longDate,
    birth,
    (always_past h old).map fun _ => .date,
    always_officeHour,
    (always_oneOf (by decide)).imp fun _ => .city,
    always_address,
    (always_oneOf (by decide)).imp fun _ => .state,
    (always_oneOf (by decide)).imp fun _ => .occupation,
    always_pure .nationality,
    book,
    (always_figures 3).imp fun _ => .page,
    (always_oneOf (by decide)).imp fun _ => .propertyRegime,
    (always_oneOf (by decide)).imp fun _ => .officerRole⟩

/-! ## Values for names -/

/-- The shape of a value for a name in small letters: that of the first of the rules for the name,
or five letters and figures where none is for it. -/
inductive Shaped (rules : List (Rule σ)) (today : Date) (lowered text : String) : Prop
  | byRule {front back : List (Rule σ)} {r : Rule σ} : rules = front ++ r :: back →
      (∀ q ∈ front, q.appliesTo lowered = false) → r.appliesTo lowered = true →
      Invented today r.label text → Shaped rules today lowered text
  | byNoRule : (∀ r ∈ rules, r.appliesTo lowered = false) → text.length = 5 →
      (∀ c ∈ text.toList, c.isAlphanum = true) → Shaped rules today lowered text

/-- Whatever words the source gives, a value for a name has the shape that belongs to the first rule
for it, and holds no braces, markup or line end. A sex that is drawn where none is given stands in
for nothing. The clock tells days from 1970 on; here today may be any day with thirty years of the
calendar before it. -/
theorem invent_shaped (h : today.IsInRange) (old : firstYear + 30 ≤ today.year) (name : String)
    (s : σ) :
    let rules := standardRules (.on today)
    let text := ((invent rules name).run s).1
    Plain text ∧ Shaped rules today (Text.lowercase name) text := by
  intro rules
  suffices always : (invent rules name).Always fun text =>
      Plain text ∧ Shaped rules today (Text.lowercase name) text from always s
  rw [invent, ruleFor]
  cases found : rules.find? fun r => r.appliesTo (Text.lowercase name) with
  | some r =>
    obtain ⟨applies, front, back, split, others⟩ := List.find?_eq_some_iff_append.1 found
    refine (always_draw h old r (List.mem_of_find?_eq_some found)).imp fun text shape => ?_
    refine ⟨shape.plain, .byRule split (fun q hq => ?_) applies shape⟩
    simpa using others q hq
  | none =>
    refine (always_alphanumericText fallbackLength).map fun cs ⟨length, all⟩ => ?_
    have full : cs ≠ [] := List.ne_nil_of_length_pos (by rw [length]; decide)
    have plain := plain_ofList full fun c hc => not_mem_marks_of_isAlphanum (all c hc)
    refine ⟨plain, .byNoRule ?_ ?_ ?_⟩
    · exact fun r hr => eq_false_of_ne_true (List.find?_eq_none.1 found r hr)
    · rw [String.length_ofList, length]
      rfl
    · rwa [String.toList_ofList]

end

/-- A name for a day in words, from a word that is about a thousandth of the largest. -/
theorem invent_shaped_long_date :
    let source : WordCycle := ⟨[0x0050000000000000], 0⟩
    let rules := standardRules (.on ⟨2026, 3, 1⟩)
    let text := ((invent rules "DATA_Extenso").run source).1
    text = "15 de fevereiro de 2026" ∧ Plain text ∧
      Shaped rules ⟨2026, 3, 1⟩ "data_extenso" text := by
  refine ⟨by decide +kernel, ?_⟩
  exact invent_shaped (by decide) (by decide) "DATA_Extenso" _

end Formulary.Sample
