import Formulary.Proofs.Calendar.Days
import Formulary.Proofs.Text.Reader

/-!
The spellings of a point in time by RFC 3339. One instant has many: at each offset it is another
local time, on another day perhaps, and its fraction may go on with zeros or leave them out. All of
them are read as the one instant.
-/

namespace Formulary.Calendar

open Text Text.Reader

/-! ## Spellings -/

/-- How the offset of a local time is written. -/
inductive Zone where
  /-- Universal time: a `Z`, capital or not. -/
  | universal (capital : Bool)
  /-- Hours and minutes ahead of universal time, or behind it to the west. -/
  | offset (west : Bool) (hours minutes : Nat)

namespace Zone

/-- The offset is less than a day. -/
def IsReal : Zone → Prop
  | universal _ => True
  | offset _ hours minutes => hours < 24 ∧ minutes < 60

instance (zone : Zone) : Decidable zone.IsReal := by
  cases zone <;> unfold IsReal <;> infer_instance

/-- By how many seconds the local time is ahead of universal time. -/
def east : Zone → Int
  | universal _ => 0
  | offset west hours minutes =>
    if west then -(hours * 3600 + minutes * 60) else hours * 3600 + minutes * 60

def chars : Zone → List Char
  | universal capital => [if capital then 'Z' else 'z']
  | offset west hours minutes =>
    (if west then '-' else '+') :: (padded 2 hours ++ ':' :: padded 2 minutes)

end Zone

/-- A local time and what is left open of its spelling. -/
structure Spelling where
  time : Timestamp
  separator : Char
  /-- The digits behind the point; where there are none, there is no point. -/
  fraction : List Char
  zone : Zone

namespace Spelling

/-- The spelling in characters. A leap second is written as the second 60. -/
def chars (s : Spelling) : List Char :=
  padded 4 s.time.date.year.toNat ++ '-' :: (padded 2 s.time.date.month ++
    '-' :: (padded 2 s.time.date.day ++ s.separator :: (padded 2 s.time.hour ++
      ':' :: (padded 2 s.time.minute ++
        ':' :: (padded 2 (s.time.second + s.time.nanosecond / 1000000000) ++
          ((if s.fraction.isEmpty then [] else '.' :: s.fraction) ++ s.zone.chars))))))

/-- The spelling is one of the instant `t`. -/
structure Of (s : Spelling) (t : Timestamp) : Prop where
  real : s.time.IsReal
  /-- The years that have four figures. -/
  year : 0 ≤ s.time.date.year ∧ s.time.date.year ≤ 9999
  zone : s.zone.IsReal
  /-- The local time is ahead by the offset. -/
  seconds : s.time.seconds = t.seconds + s.zone.east
  nanosecond : s.time.nanosecond = t.nanosecond
  separator : s.separator ∈ ['T', 't', ' ']
  figures : ∀ d ∈ s.fraction, isDigit d = true
  /-- The fraction has the nine figures of the nanoseconds, but for zeros that may be left out and
  for figures beyond the ninth. -/
  fraction : padded 9 (t.nanosecond % 1000000000) <+: s.fraction ++ List.replicate 9 '0'

end Spelling

/-- The text is the instant `t` in a spelling of RFC 3339, with any white space around it. -/
def Spells (text : String) (t : Timestamp) : Prop :=
  t.IsReal ∧ ∃ (front behind : List Char) (s : Spelling), s.Of t ∧
    text.toList = front ++ s.chars ++ behind ∧
    (∀ c ∈ front, isBlank c = true) ∧ ∀ c ∈ behind, isBlank c = true

/-! ## Reading them -/

variable {t : Timestamp} {zone : Zone}

theorem Zone.IsReal.bounds (h : zone.IsReal) :
    -86400 < zone.east ∧ zone.east < 86400 ∧ (60 : Int) ∣ zone.east := by
  cases zone with
  | universal _ =>
    simp only [Zone.east]
    omega
  | offset west hours minutes =>
    obtain ⟨hh, hm⟩ := h
    cases west <;> simp only [Zone.east, Bool.false_eq_true, if_false, if_true] <;> omega

theorem offset_signed {sign : Char} {hours minutes : Nat} (known : sign ∈ ['+', '-'])
    (hh : hours < 24) (hm : minutes < 60) :
    offset (sign :: (padded 2 hours ++ ':' :: padded 2 minutes)) =
      some (if sign = '+' then (hours * 3600 + minutes * 60 : Int)
        else -(hours * 3600 + minutes * 60), []) := by
  have readHours := exactly_padded (by decide) (show hours < 10 ^ 2 by omega)
    (':' :: padded 2 minutes)
  have readMinutes := exactly_padded (by decide) (show minutes < 10 ^ 2 by omega) []
  rw [List.append_nil] at readMinutes
  unfold offset
  split
  · next z =>
    cases z
    exact absurd known (by decide)
  · next z =>
    cases z
    exact absurd known (by decide)
  · have allowed : sign ∈ ['+', '-', '\u2212'] := List.mem_append_left ['\u2212'] known
    rw [bind_of_some (oneOf_cons allowed _), bind_of_some readHours,
      bind_of_some (oneOf_cons (List.mem_singleton_self ':') _), bind_of_some readMinutes,
      if_pos ⟨hm, hh⟩]
    rfl

theorem offset_chars (h : zone.IsReal) : offset zone.chars = some (zone.east, []) := by
  cases zone with
  | universal capital => cases capital <;> rfl
  | offset west hours minutes =>
    obtain ⟨hh, hm⟩ := h
    cases west with
    | false => exact offset_signed (by decide) hh hm
    | true => exact offset_signed (by decide) hh hm

/-- Behind the fraction of a second stands the offset, which starts with no digit and no point. -/
theorem Zone.exists_cons_chars (zone : Zone) :
    ∃ c rest, zone.chars = c :: rest ∧ c ≠ '.' ∧ isDigit c = false := by
  cases zone with
  | universal capital => cases capital <;> exact ⟨_, _, rfl, by decide, by decide⟩
  | offset west _ _ => cases west <;> exact ⟨_, _, rfl, by decide, by decide⟩

theorem Zone.exists_last (zone : Zone) :
    ∃ c, zone.chars.getLast? = some c ∧ isBlank c = false := by
  cases zone with
  | universal capital => cases capital <;> exact ⟨_, rfl, by decide⟩
  | offset west hours minutes =>
    have nonempty := padded_ne_nil 2 minutes
    have last := List.getLast?_eq_some_getLast nonempty
    refine ⟨(padded 2 minutes).getLast nonempty, ?_,
      isBlank_of_isDigit (isDigit_of_mem_padded (List.getLast_mem nonempty))⟩
    simp [Zone.chars, List.getLast?_append, List.getLast?_cons, last]

/-- The nine figures of the nanoseconds, in as many digits as there are, are read back. -/
theorem nanoseconds_of_figures {figures : List Char} {n : Nat} (lt : n < 1000000000)
    (all : ∀ d ∈ figures, isDigit d = true)
    (nine : padded 9 n <+: figures ++ List.replicate 9 '0') : nanoseconds figures = n := by
  have length : (padded 9 n).length = 9 := length_padded (by decide) (show n < 10 ^ 9 from lt)
  have front := List.prefix_iff_eq_take.1 nine
  rw [length, List.take_append, List.take_replicate, Nat.min_eq_left (by omega)] at front
  have zeros : 9 - (figures.take 9).length = 9 - figures.length := by
    rw [List.length_take]
    omega
  have value := congrArg digitsValue front
  rw [digitsValue_padded,
    digitsValue_append_zeros fun d hd => all d (List.mem_of_mem_take hd)] at value
  rw [nanoseconds, zeros]
  exact value.symm

theorem fraction_chars {figures : List Char} {n : Nat} (lt : n < 1000000000)
    (all : ∀ d ∈ figures, isDigit d = true)
    (nine : padded 9 n <+: figures ++ List.replicate 9 '0') (zone : Zone) :
    Reader.fraction ((if figures.isEmpty then [] else '.' :: figures) ++ zone.chars) =
      some (n, zone.chars) := by
  have value := nanoseconds_of_figures lt all nine
  obtain ⟨c, rest, eq, point, stop⟩ := zone.exists_cons_chars
  cases figures with
  | nil =>
    have zero : n = 0 := value.symm
    rw [zero, eq]
    unfold Reader.fraction
    split
    · next dot =>
      cases dot
      exact absurd rfl point
    · rfl
  | cons d figures =>
    rw [eq]
    exact (map_of_some (digits_append all (List.cons_ne_nil d figures) stop rest) _).trans
      (congrArg (fun n => some (n, c :: rest)) value)

namespace Spelling

variable {s : Spelling}

/-- The local time is put together from its parts, -/
theorem Of.of?_time (h : s.Of t) : Timestamp.of? s.time.date s.time.hour s.time.minute
    (s.time.second + s.time.nanosecond / 1000000000) (s.time.nanosecond % 1000000000) =
      some s.time := by
  obtain ⟨-, hour, minute, second, nanosecond⟩ := h.real
  rcases Nat.lt_or_ge s.time.nanosecond 1000000000 with within | leap
  · rw [Nat.div_eq_of_lt within, Nat.mod_eq_of_lt within, Nat.add_zero, Timestamp.of?,
      if_pos ⟨hour, minute, second.le⟩, if_neg second.ne]
  · have last : s.time.second = 59 := by omega
    have whole : s.time.nanosecond / 1000000000 = 1 := by omega
    have parts : s.time.nanosecond % 1000000000 + 1000000000 = s.time.nanosecond := by omega
    rw [whole, Timestamp.of?, if_pos ⟨hour, minute, by omega⟩, if_pos (by omega), ← last, parts]

/-- and taken back by its offset it is the instant. -/
theorem Of.minus_eq (h : s.Of t) (real : t.IsReal) : s.time.minus s.zone.east = t := by
  obtain ⟨less, more, minutes⟩ := h.zone.bounds
  obtain ⟨real', seconds, nanosecond⟩ := Timestamp.isReal_minus h.real less more minutes
  refine Timestamp.eq_of_seconds_eq real' real ?_ (nanosecond.trans h.nanosecond)
  rw [seconds, h.seconds]
  omega

/-- At each offset at which the local year has four figures, the instant has a spelling. -/
theorem exists_of (real : t.IsReal) (offset : zone.IsReal)
    (year : 0 ≤ (t.minus (-zone.east)).date.year ∧ (t.minus (-zone.east)).date.year ≤ 9999) :
    ∃ s : Spelling, s.Of t ∧ s.time = t.minus (-zone.east) ∧ s.zone = zone := by
  obtain ⟨less, more, minutes⟩ := offset.bounds
  obtain ⟨real', seconds, nanosecond⟩ := Timestamp.isReal_minus real (show -86400 < -zone.east by omega)
    (by omega) (by omega)
  refine ⟨⟨t.minus (-zone.east), 'T', padded 9 (t.nanosecond % 1000000000), zone⟩,
    ⟨real', year, offset, ?_, nanosecond, List.mem_cons_self, fun _ => isDigit_of_mem_padded,
      List.prefix_append _ _⟩, rfl, rfl⟩
  rw [seconds, Int.sub_neg]

theorem Of.rfc3339_chars (h : s.Of t) (real : t.IsReal) : rfc3339 s.chars = some (t, []) := by
  obtain ⟨⟨january, december, first, last⟩, hour, minute, second, nanosecond⟩ := h.real
  obtain ⟨nonneg, four⟩ := h.year
  have day := last.trans (Date.daysInMonth_le _ _)
  have date : Date.of? (s.time.date.year.toNat : Nat) s.time.date.month s.time.date.day =
      some s.time.date := by
    have inRange : s.time.date.IsInRange :=
      ⟨h.real.date, by simp only [firstYear]; omega, by simp only [lastYear]; omega⟩
    rw [Int.toNat_of_nonneg nonneg]
    exact if_pos inRange
  unfold rfc3339 chars
  rw [bind_of_some (exactly_padded (by decide) (by omega) _),
    bind_of_some (oneOf_cons (List.mem_singleton_self '-') _),
    bind_of_some (exactly_padded (by decide) (by omega) _),
    bind_of_some (oneOf_cons (List.mem_singleton_self '-') _),
    bind_of_some (exactly_padded (by decide) (by omega) _),
    bind_of_some (oneOf_cons h.separator _),
    bind_of_some (exactly_padded (by decide) (by omega) _),
    bind_of_some (oneOf_cons (List.mem_singleton_self ':') _),
    bind_of_some (exactly_padded (by decide) (by omega) _),
    bind_of_some (oneOf_cons (List.mem_singleton_self ':') _),
    bind_of_some (exactly_padded (by decide) (by omega) _),
    bind_of_some (fraction_chars (by omega) h.figures h.fraction s.zone),
    bind_of_some (offset_chars h.zone),
    bind_of_some (lift_of_some date _),
    ← h.nanosecond,
    bind_of_some (lift_of_some h.of?_time _), h.minus_eq real]
  rfl

/-- A spelling starts with a digit and ends with a letter or a digit. -/
theorem exists_ends (s : Spelling) : ∃ first last, s.chars.head? = some first ∧
    s.chars.getLast? = some last ∧ isBlank first = false ∧ isBlank last = false := by
  obtain ⟨first, figures, year⟩ := List.exists_cons_of_ne_nil
    (padded_ne_nil 4 s.time.date.year.toNat)
  have figure : first ∈ padded 4 s.time.date.year.toNat := by
    rw [year]
    exact List.mem_cons_self
  have digit := isDigit_of_mem_padded figure
  obtain ⟨last, ends, visible⟩ := s.zone.exists_last
  refine ⟨first, last, by rw [chars, year]; rfl, ?_, isBlank_of_isDigit digit, visible⟩
  simp [chars, List.getLast?_append, List.getLast?_cons, ends]

end Spelling

/-- Every spelling of an instant is read as that instant. -/
theorem Spells.timestamp?_eq {text : String} (h : Spells text t) : timestamp? text = some t := by
  obtain ⟨real, front, behind, s, spelled, eq, blank, blank'⟩ := h
  obtain ⟨first, last, head, end_, visible, visible'⟩ := s.exists_ends
  have trimmed : trimChars text.toList = s.chars := by
    rw [eq]
    exact trimChars_append blank blank' head end_ visible visible'
  have read : whole rfc3339 s.chars = some t := by
    rw [whole, spelled.rfc3339_chars real]
  simp only [timestamp?, trimmed, read, Option.orElse_some]

end Formulary.Calendar
