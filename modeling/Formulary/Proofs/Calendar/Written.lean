import Formulary.Calendar.Timestamp
import Formulary.Calendar.Written
import Formulary.Proofs.Text.Reader

/-!
What is written is not read again. A text that starts with digits is a point in time only with a
hyphen behind them; the written forms of days and times go on with another character there.
-/

namespace Formulary.Calendar

open Text Text.Reader

/-! ## Reading -/

/-- Behind the digits at the front of the text stands a hyphen. -/
def Hyphenated (s : List Char) : Prop :=
  ∃ digits rest, s = digits ++ '-' :: rest ∧ ∀ d ∈ digits, isDigit d = true

variable {s rest : List Char} {c : Char}

theorem Hyphenated.of_prefix {s s' : List Char} (h : Hyphenated s) (front : s <+: s') :
    Hyphenated s' := by
  obtain ⟨digits, rest, rfl, all⟩ := h
  obtain ⟨behind, rfl⟩ := front
  exact ⟨digits, rest ++ behind, by simp, all⟩

theorem hyphenated_of_rfc3339 {t : Timestamp} (h : rfc3339 s = some (t, rest)) : Hyphenated s := by
  obtain ⟨year, _, hyear, h⟩ := bind_eq_some h
  obtain ⟨mark, _, hmark, -⟩ := bind_eq_some h
  obtain ⟨digits, rfl, -, all⟩ := exactly_eq_some hyear
  obtain ⟨hyphen, rfl⟩ := oneOf_eq_some hmark
  rw [List.mem_singleton.1 hyphen]
  exact ⟨digits, _, rfl, all⟩

/-- A year that starts with a digit is read without white space and without a sign. -/
theorem digits_of_looseYear {year : Int} (digit : isDigit c = true)
    (h : looseYear (c :: s) = some (year, rest)) :
    ∃ digits, c :: s = digits ++ rest ∧ ∀ d ∈ digits, isDigit d = true := by
  have visible : (c :: s).dropWhile isBlank = c :: s :=
    List.dropWhile_cons_of_neg (by simp [isBlank_of_isDigit digit])
  obtain ⟨_, read, hblanks, h⟩ := bind_eq_some h
  obtain rfl : read = c :: s := by
    rw [← visible]
    exact (congrArg Prod.snd (Option.some.inj hblanks)).symm
  split at h
  · next sign =>
    cases sign
    exact absurd digit (by decide)
  · next sign =>
    cases sign
    exact absurd digit (by decide)
  · obtain ⟨n, hn, -⟩ := map_eq_some h
    exact upTo_eq_some hn

theorem hyphenated_of_looseDate {date : Date} (digit : isDigit c = true)
    (h : looseDate (c :: s) = some (date, rest)) : Hyphenated (c :: s) := by
  obtain ⟨year, _, hyear, h⟩ := bind_eq_some h
  obtain ⟨mark, _, hmark, -⟩ := bind_eq_some h
  obtain ⟨digits, eq, all⟩ := digits_of_looseYear digit hyear
  obtain ⟨hyphen, rfl⟩ := oneOf_eq_some hmark
  rw [List.mem_singleton.1 hyphen] at eq
  exact ⟨digits, _, eq, all⟩

/-- A text that starts with a digit is read as a point in time only if it is hyphenated. -/
theorem hyphenated_of_timestamp? {text : String} {t : Timestamp} (h : timestamp? text = some t)
    (front : text.toList = c :: s) (digit : isDigit c = true) : Hyphenated text.toList := by
  obtain ⟨trimmed, eq, short⟩ := trimChars_cons (s := s) (isBlank_of_isDigit digit)
  unfold timestamp? at h
  rw [front] at h ⊢
  rw [eq] at h
  dsimp only at h
  have read : Hyphenated (c :: trimmed) := by
    cases first : whole rfc3339 (c :: trimmed) with
    | some _ => exact hyphenated_of_rfc3339 (whole_eq_some first)
    | none =>
      cases second : whole localTime (c :: trimmed) with
      | some _ =>
        obtain ⟨date, _, hdate, -⟩ := bind_eq_some (whole_eq_some second)
        exact hyphenated_of_looseDate digit hdate
      | none =>
        rw [first, second] at h
        obtain ⟨date, _, hdate, -⟩ := bind_eq_some (whole_eq_some h)
        exact hyphenated_of_looseDate digit hdate
  exact read.of_prefix (List.cons_prefix_cons.2 ⟨rfl, short⟩)

/-- A blank text is no point in time. -/
theorem timestamp?_of_allBlank {text : String} (h : allBlank text = true) :
    timestamp? text = none := by
  have none : text.toList.dropWhile isBlank = [] :=
    List.dropWhile_eq_nil_iff.2 (List.all_eq_true.1 h)
  unfold timestamp? trimChars
  rw [none]
  rfl

/-! ## Writing -/

theorem toList_short (d : Date) : d.short.toList =
    padded 2 d.day ++ '/' :: (padded 2 d.month ++ '/' :: yearFigures d.year) := by
  simp [Date.short]

theorem toList_long (d : Date) : d.long.toList =
    numeral d.day ++ ' ' :: 'd' :: 'e' :: ' ' :: ((monthNames.getD (d.month - 1) "").toList ++
      ' ' :: 'd' :: 'e' :: ' ' :: ((if d.year < 0 then ['-'] else []) ++ numeral d.year.natAbs)) := by
  simp only [Date.long, String.toList_append, String.toList_ofList, List.append_assoc]
  split <;> rfl

/-- The text starts with digits, and `c` stands behind them. -/
def FiguresBefore (c : Char) (text : String) : Prop :=
  ∃ digits rest, digits ≠ [] ∧ text.toList = digits ++ c :: rest ∧ ∀ d ∈ digits, isDigit d = true

theorem FiguresBefore.timestamp?_eq_none {text : String} (h : FiguresBefore c text)
    (stop : isDigit c = false) (other : c ≠ '-') : timestamp? text = none := by
  obtain ⟨digits, rest, nonempty, eq, all⟩ := h
  cases read : timestamp? text with
  | none => rfl
  | some t =>
    obtain ⟨d, digits', rfl⟩ := List.exists_cons_of_ne_nil nonempty
    obtain ⟨_, _, eq', all'⟩ := hyphenated_of_timestamp? read eq (all d List.mem_cons_self)
    exact absurd (eq_of_digits_append (eq.symm.trans eq') all stop all' (by decide)) other

theorem figuresBefore_short (d : Date) : FiguresBefore '/' d.short :=
  ⟨_, _, padded_ne_nil 2 d.day, toList_short d, fun _ => isDigit_of_mem_padded⟩

theorem figuresBefore_long (d : Date) : FiguresBefore ' ' d.long :=
  ⟨_, _, numeral_ne_nil d.day, toList_long d, fun _ => isDigit_of_mem_numeral⟩

theorem figuresBefore_clock (t : Timestamp) : FiguresBefore ':' t.clock := by
  refine ⟨padded 2 t.hour, padded 2 t.minute, padded_ne_nil 2 t.hour, ?_,
    fun _ => isDigit_of_mem_padded⟩
  simp [Timestamp.clock]

/-- No written form of a day or a time is itself a point in time. -/
theorem timestamp?_short (d : Date) : timestamp? d.short = none :=
  (figuresBefore_short d).timestamp?_eq_none (by decide) (by decide)

theorem timestamp?_long (d : Date) : timestamp? d.long = none :=
  (figuresBefore_long d).timestamp?_eq_none (by decide) (by decide)

theorem timestamp?_clock (t : Timestamp) : timestamp? t.clock = none :=
  (figuresBefore_clock t).timestamp?_eq_none (by decide) (by decide)

/-- The short form of one day is never the long form of another. -/
theorem short_ne_long (d e : Date) : d.short ≠ e.long := by
  intro same
  obtain ⟨_, _, -, eq, all⟩ := figuresBefore_short d
  obtain ⟨_, _, -, eq', all'⟩ := figuresBefore_long e
  rw [← same] at eq'
  have := eq_of_digits_append (eq.symm.trans eq') all (by decide) all' (by decide)
  exact absurd this (by decide)

end Formulary.Calendar
