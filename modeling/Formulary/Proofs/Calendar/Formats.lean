import Formulary.Calendar.Timestamp
import Formulary.Proofs.Text.Front

/-!
The three written forms of a point in time do not meet. What is in the form of RFC 3339 is read by the
other two as far as they go, with the same numbers, but neither of them comes to the end: the one
leaves the offset and the other the time of day. So it does not matter in which order the forms are
tried.
-/

namespace Formulary.Calendar

open Text Text.Reader

variable {s rest : List Char} {c : Char} {width n : Nat} {t : Timestamp}

/-! ## Numbers in full width -/

theorem upTo_of_exactly (pos : 0 < width) (h : exactly width s = some (n, rest)) :
    upTo width s = some (n, rest) := by
  unfold exactly at h
  dsimp only at h
  split at h
  · next full =>
    cases h
    have nonempty : (takeDigits width s).1 ≠ [] := by
      intro none
      rw [none] at full
      exact absurd full pos.ne
    simp [upTo, nonempty]
  · cases h

theorem exists_digit_of_exactly (pos : 0 < width) (h : exactly width s = some (n, rest)) :
    ∃ d behind, s = d :: behind ∧ isDigit d = true := by
  obtain ⟨digits, rfl, length, all⟩ := exactly_eq_some h
  cases digits with
  | nil => exact absurd length pos.ne
  | cons d digits => exact ⟨d, digits ++ rest, rfl, all d List.mem_cons_self⟩

theorem blanks_of_digit (h : isDigit c = true) : blanks (c :: s) = some ((), c :: s) := by
  rw [blanks, List.dropWhile_cons_of_neg (by simp [isBlank_of_isDigit h])]

/-- A number in full width is read where fewer digits, or white space, would do. -/
theorem loose_of_exactly (pos : 0 < width) (h : exactly width s = some (n, rest)) :
    loose width s = some (n, rest) := by
  obtain ⟨d, behind, rfl, digit⟩ := exists_digit_of_exactly pos h
  rw [loose, bind_of_some (blanks_of_digit digit)]
  exact upTo_of_exactly pos h

theorem looseYear_of_exactly (h : exactly 4 s = some (n, rest)) :
    looseYear s = some ((n : Int), rest) := by
  obtain ⟨d, behind, rfl, digit⟩ := exists_digit_of_exactly (by decide) h
  rw [looseYear, bind_of_some (blanks_of_digit digit)]
  split
  · next sign =>
    cases sign
    exact absurd digit (by decide)
  · next sign =>
    cases sign
    exact absurd digit (by decide)
  · exact map_of_some (upTo_of_exactly (by decide) h) _

/-! ## Reading the front -/

theorem readsFront_loose (width : Nat) : ReadsFront (loose width) :=
  readsFront_blanks.bind fun _ => readsFront_upTo width

theorem readsFront_looseYear : ReadsFront looseYear := by
  refine readsFront_blanks.bind fun _ => ?_
  intro s year rest h
  dsimp only at h
  split at h
  · obtain ⟨read, eq, again⟩ := readsFront_digits.map _ _ year rest h
    exact ⟨'-' :: read, congrArg _ eq, again⟩
  · obtain ⟨read, eq, again⟩ := readsFront_digits.map _ _ year rest h
    exact ⟨'+' :: read, congrArg _ eq, again⟩
  · next minus plus =>
    obtain ⟨read, rfl, again⟩ := (readsFront_upTo 4).map _ _ year rest h
    refine ⟨read, rfl, fun short hshort => ?_⟩
    -- A year without a sign has a first digit, which stays the first character.
    cases read with
    | nil => cases again [] List.nil_prefix
    | cons d read =>
      dsimp only
      split
      · next sign =>
        cases sign
        exact absurd rfl (minus _)
      · next sign =>
        cases sign
        exact absurd rfl (plus _)
      · exact again short hshort

theorem readsFront_looseDate : ReadsFront looseDate :=
  readsFront_looseYear.bind fun _ => (readsFront_oneOf _).bind fun _ =>
    (readsFront_loose 2).bind fun _ => (readsFront_oneOf _).bind fun _ =>
      (readsFront_loose 2).bind fun _ => readsFront_lift _

theorem readsFront_localTime : ReadsFront localTime :=
  readsFront_looseDate.bind fun _ => (readsFront_oneOf _).bind fun _ =>
    (readsFront_loose 2).bind fun _ => (readsFront_oneOf _).bind fun _ =>
      (readsFront_loose 2).bind fun _ => (readsFront_oneOf _).bind fun _ =>
        (readsFront_loose 2).bind fun _ => readsFront_fraction.bind fun _ => readsFront_lift _

/-! ## Offsets -/

theorem offset_ne_nil {east : Int} (h : offset s = some (east, rest)) : s ≠ [] := by
  rintro rfl
  cases h

/-- An offset that ends in a capital `Z` is that letter; any other ends in a digit or a small one. -/
theorem offset_of_capital {east : Int} (h : offset s = some (east, []))
    (last : s.getLast? = some 'Z') : s = ['Z'] ∧ east = 0 := by
  unfold offset at h
  split at h
  · cases h
    exact ⟨rfl, rfl⟩
  · cases h
    cases last
  · obtain ⟨sign, _, hsign, h⟩ := bind_eq_some h
    obtain ⟨hours, _, hhours, h⟩ := bind_eq_some h
    obtain ⟨colon, _, hcolon, h⟩ := bind_eq_some h
    obtain ⟨minutes, _, hminutes, h⟩ := bind_eq_some h
    split at h
    · cases h
      obtain ⟨-, rfl⟩ := oneOf_eq_some hsign
      obtain ⟨hourDigits, rfl, -, -⟩ := exactly_eq_some hhours
      obtain ⟨-, rfl⟩ := oneOf_eq_some hcolon
      obtain ⟨digits, rfl, two, all⟩ := exactly_eq_some hminutes
      have nonempty : digits ≠ [] := by
        rintro rfl
        cases two
      have ends : digits.getLast? = some 'Z' := by
        simpa [List.getLast?_append, List.getLast?_cons,
          List.getLast?_eq_some_getLast nonempty] using last
      exact absurd (all _ (List.mem_of_getLast? ends)) (by decide)
    · cases h

/-! ## Times of day -/

theorem Timestamp.minus_zero (hour : t.hour < 24) (minute : t.minute < 60) (second : t.second < 60) :
    t.minus 0 = t := by
  have inDay : t.secondOfDay < 86400 := by
    unfold Timestamp.secondOfDay
    omega
  have hours : t.secondOfDay / 3600 = t.hour := by
    unfold Timestamp.secondOfDay
    omega
  have minutes : t.secondOfDay / 60 % 60 = t.minute := by
    unfold Timestamp.secondOfDay
    omega
  have seconds : t.secondOfDay % 60 = t.second := by
    unfold Timestamp.secondOfDay
    omega
  have before : ¬ (t.secondOfDay : Int) < 0 := by omega
  have behind : ¬ (86400 : Int) ≤ t.secondOfDay := by omega
  simp only [Timestamp.minus, Int.sub_zero, if_neg before, if_neg behind, Int.toNat_natCast, hours,
    minutes, seconds]

theorem Timestamp.minus_zero_of_of? {date : Date} {hour minute second nanosecond : Nat}
    (h : Timestamp.of? date hour minute second nanosecond = some t) : t.minus 0 = t := by
  unfold Timestamp.of? at h
  split at h
  · next parts =>
    obtain ⟨hours, minutes, seconds⟩ := parts
    split at h
    · cases h
      exact Timestamp.minus_zero hours minutes (show 59 < 60 by decide)
    · next below =>
      cases h
      exact Timestamp.minus_zero hours minutes (show second < 60 by omega)
  · cases h

/-! ## The form of RFC 3339 read as the others -/

/-- What is in the form of RFC 3339 is read as a date up to the separator, and where that is a `T` as
a local time up to the offset. -/
theorem loose_of_rfc3339 (h : rfc3339 s = some (t, rest)) :
    ∃ date separator behind, looseDate s = some (date, separator :: behind) ∧
      s[10]? = some separator ∧
      (separator = 'T' → ∃ u zone east, localTime s = some (u, zone) ∧
        offset zone = some (east, rest) ∧ u.minus 0 = u ∧ u.minus east = t) := by
  unfold rfc3339 at h
  obtain ⟨year, _, hyear, h⟩ := bind_eq_some h
  obtain ⟨_, _, hyearMark, h⟩ := bind_eq_some h
  obtain ⟨month, _, hmonth, h⟩ := bind_eq_some h
  obtain ⟨_, _, hmonthMark, h⟩ := bind_eq_some h
  obtain ⟨day, _, hday, h⟩ := bind_eq_some h
  obtain ⟨separator, behind, hseparator, h⟩ := bind_eq_some h
  obtain ⟨hour, _, hhour, h⟩ := bind_eq_some h
  obtain ⟨_, _, hhourMark, h⟩ := bind_eq_some h
  obtain ⟨minute, _, hminute, h⟩ := bind_eq_some h
  obtain ⟨_, _, hminuteMark, h⟩ := bind_eq_some h
  obtain ⟨second, _, hsecond, h⟩ := bind_eq_some h
  obtain ⟨nanosecond, zone, hfraction, h⟩ := bind_eq_some h
  obtain ⟨east, _, hoffset, h⟩ := bind_eq_some h
  obtain ⟨date, _, hdate, h⟩ := bind_eq_some h
  obtain ⟨u, _, htime, h⟩ := bind_eq_some h
  obtain ⟨dated, rfl⟩ := lift_eq_some hdate
  obtain ⟨timed, rfl⟩ := lift_eq_some htime
  cases h
  obtain ⟨-, eq⟩ := oneOf_eq_some hseparator
  have dateRead : looseDate s = some (date, separator :: behind) := by
    rw [← eq, looseDate, bind_of_some (looseYear_of_exactly hyear), bind_of_some hyearMark,
      bind_of_some (loose_of_exactly (by decide) hmonth), bind_of_some hmonthMark,
      bind_of_some (loose_of_exactly (by decide) hday)]
    exact lift_of_some dated _
  refine ⟨date, separator, behind, dateRead, ?_, ?_⟩
  · obtain ⟨years, rfl, four, -⟩ := exactly_eq_some hyear
    obtain ⟨-, rfl⟩ := oneOf_eq_some hyearMark
    obtain ⟨months, rfl, two, -⟩ := exactly_eq_some hmonth
    obtain ⟨-, rfl⟩ := oneOf_eq_some hmonthMark
    obtain ⟨days, rfl, two', -⟩ := exactly_eq_some hday
    rw [eq]
    simp [List.getElem?_append, four, two, two']
  · rintro rfl
    refine ⟨u, zone, east, ?_, hoffset, Timestamp.minus_zero_of_of? timed, rfl⟩
    rw [localTime, bind_of_some dateRead, bind_of_some (oneOf_cons (List.mem_singleton_self 'T') _),
      bind_of_some (loose_of_exactly (by decide) hhour), bind_of_some hhourMark,
      bind_of_some (loose_of_exactly (by decide) hminute), bind_of_some hminuteMark,
      bind_of_some (loose_of_exactly (by decide) hsecond), bind_of_some hfraction]
    exact lift_of_some timed _

theorem whole_dateOnly_of_looseDate {date : Date} (h : looseDate s = some (date, c :: rest)) :
    whole dateOnly s = none := by
  have read : dateOnly s = (Timestamp.of? date 0 0 0 0).bind fun t => some (t, c :: rest) :=
    bind_of_some h _
  rw [whole, read]
  cases Timestamp.of? date 0 0 0 0 <;> rfl

theorem whole_localTime_of_rfc3339 (h : whole rfc3339 s = some t) : whole localTime s = none := by
  obtain ⟨date, separator, behind, dateRead, -, timed⟩ := loose_of_rfc3339 (whole_eq_some h)
  by_cases capital : separator = 'T'
  · obtain ⟨u, zone, east, timeRead, zoneRead, -⟩ := timed capital
    obtain ⟨sign, tail, rfl⟩ := List.exists_cons_of_ne_nil (offset_ne_nil zoneRead)
    rw [whole, timeRead]
  · have stuck : oneOf ['T'] (separator :: behind) = none := by
      simp [oneOf, satisfy, capital]
    have refused : localTime s = none := by
      rw [localTime, bind_of_some dateRead, bind_of_none stuck]
    rw [whole, refused]

theorem whole_dateOnly_of_rfc3339 (h : whole rfc3339 s = some t) : whole dateOnly s = none := by
  obtain ⟨_, _, _, dateRead, -⟩ := loose_of_rfc3339 (whole_eq_some h)
  exact whole_dateOnly_of_looseDate dateRead

theorem whole_dateOnly_of_localTime (h : whole localTime s = some t) : whole dateOnly s = none := by
  obtain ⟨date, _, dateRead, h⟩ := bind_eq_some (whole_eq_some h)
  obtain ⟨_, _, separator, -⟩ := bind_eq_some h
  obtain ⟨-, rfl⟩ := oneOf_eq_some separator
  exact whole_dateOnly_of_looseDate dateRead

/-! ## Any order -/

/-- Where at most one of some readers reads a text, it does not matter in which order they are
tried. -/
theorem findSome?_of_perm {α β : Type} {f : α → Option β} {as as' : List α} (perm : as.Perm as')
    (apart : as.Pairwise fun a b => f a = none ∨ f b = none) :
    as.findSome? f = as'.findSome? f := by
  induction perm with
  | nil => rfl
  | cons a _ ih =>
    rw [List.findSome?_cons, List.findSome?_cons, ih (List.pairwise_cons.1 apart).2]
  | swap a b as =>
    have one := (List.pairwise_cons.1 apart).1 a List.mem_cons_self
    simp only [List.findSome?_cons]
    rcases one with none | none <;> rw [none]
  | trans first _ ih ih' =>
    exact (ih apart).trans (ih' (apart.perm first Or.symm))

/-- The forms in which a point in time is read, in the order in which they are tried. -/
def formats : List (Reader Timestamp) := [rfc3339, localTime, dateOnly]

theorem formats_pairwise (s : List Char) :
    formats.Pairwise fun r r' => whole r s = none ∨ whole r' s = none := by
  have either {r r' : Reader Timestamp} (h : ∀ t, whole r s = some t → whole r' s = none) :
      whole r s = none ∨ whole r' s = none := by
    cases read : whole r s with
    | none => exact .inl rfl
    | some t => exact .inr (h t read)
  simp only [formats, List.pairwise_cons, List.forall_mem_cons, List.not_mem_nil, false_implies,
    implies_true, and_true, List.Pairwise.nil]
  exact ⟨⟨either fun _ => whole_localTime_of_rfc3339, either fun _ => whole_dateOnly_of_rfc3339⟩,
    either fun _ => whole_dateOnly_of_localTime⟩

theorem timestamp?_eq_findSome? (text : String) :
    timestamp? text = formats.findSome? fun r => whole r (trimChars text.toList) := by
  unfold timestamp? formats
  dsimp only
  cases first : whole rfc3339 (trimChars text.toList) with
  | some t => simp [first]
  | none =>
    cases second : whole localTime (trimChars text.toList) with
    | some t => simp [first, second]
    | none => cases third : whole dateOnly (trimChars text.toList) <;> simp [first, second, third]

/-- Without its `Z`, a text in the form of RFC 3339 is the same point in time as a local time. -/
theorem whole_localTime_of_universal (h : whole rfc3339 s = some t) (separator : s[10]? = some 'T')
    (last : s.getLast? = some 'Z') : whole localTime s.dropLast = some t := by
  obtain ⟨_, mark, _, -, tenth, timed⟩ := loose_of_rfc3339 (whole_eq_some h)
  have capital : mark = 'T' := by
    rw [separator] at tenth
    exact (Option.some.inj tenth).symm
  obtain ⟨u, zone, east, timeRead, zoneRead, still, moved⟩ := timed capital
  obtain ⟨front, rfl, frontRead⟩ := readsFront_localTime.exists_whole timeRead
  rw [List.getLast?_append_of_ne_nil _ (offset_ne_nil zoneRead)] at last
  obtain ⟨rfl, rfl⟩ := offset_of_capital zoneRead last
  rw [List.dropLast_concat, frontRead, ← moved, still]

/-- At most one of the forms reads a text, so that it is read as the same point in time in whatever
order they are tried. A text in universal time with a capital `T` and `Z` is the same without the `Z`,
on a leap second or on any other. -/
theorem formats_apart (text : String) :
    let s := trimChars text.toList
    formats.Pairwise (fun r r' => whole r s = none ∨ whole r' s = none) ∧
    (∀ order : List (Reader Timestamp), order.Perm formats →
      order.findSome? (fun r => whole r s) = timestamp? text) ∧
    ∀ t, whole rfc3339 s = some t → s[10]? = some 'T' → s.getLast? = some 'Z' →
      whole localTime s.dropLast = some t := by
  intro s
  refine ⟨formats_pairwise s, fun order perm => ?_, fun t => whole_localTime_of_universal⟩
  rw [timestamp?_eq_findSome?, findSome?_of_perm perm.symm (formats_pairwise s)]

/-- The last moment of a leap day, with more digits than count. -/
theorem formats_apart_leap_day :
    let text := "\t2024-02-29T23:59:59.9999999991Z "
    let t : Timestamp := ⟨⟨2024, 2, 29⟩, 23, 59, 59, 999999999⟩
    [dateOnly, localTime, rfc3339].Perm formats ∧
      [dateOnly, localTime, rfc3339].findSome? (fun r => whole r (trimChars text.toList)) =
        timestamp? text ∧
      whole rfc3339 (trimChars text.toList) = some t ∧
      whole localTime (trimChars text.toList).dropLast = some t := by
  intro text t
  obtain ⟨-, anyOrder, universal⟩ := formats_apart text
  have order : [dateOnly, localTime, rfc3339].Perm formats := List.reverse_perm formats
  have read : whole rfc3339 (trimChars text.toList) = some t := by decide +kernel
  exact ⟨order, anyOrder _ order, read, universal t read (by decide +kernel) (by decide +kernel)⟩

end Formulary.Calendar
