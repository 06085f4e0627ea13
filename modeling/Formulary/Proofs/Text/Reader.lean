import Formulary.Text.Reader
import Mathlib.Algebra.Ring.Nat
import Mathlib.Data.List.DropRight

/-!
What readers read. A reader that succeeds has split its text: in front of the rest stands what it
read. Numbers are written and read in digits, and digits are no white space. What has been written
in digits is read back.
-/

namespace Formulary.Text

/-! ## Digits -/

variable {c : Char} {width n : Nat}

theorem isDigit_iff : isDigit c = true ↔ '0' ≤ c ∧ c ≤ '9' := by
  unfold isDigit digitValue?
  split
  · simp_all
  · simp_all

theorem isBlank_of_isDigit (h : isDigit c = true) : isBlank c = false := by
  obtain ⟨low, high⟩ := isDigit_iff.1 h
  have low : 48 ≤ c.toNat := low
  have high : c.toNat ≤ 57 := high
  simp [isBlank, blankRanges]
  omega

theorem isDigit_of_mem_numeral (h : c ∈ numeral n) : isDigit c = true := by
  have digit := Nat.isDigit_of_mem_toDigits (by decide) (by decide) h
  rw [isDigit_iff]
  simpa [Char.isDigit, Char.le_def] using digit

theorem isDigit_of_mem_padded (h : c ∈ padded width n) : isDigit c = true := by
  rcases List.mem_append.1 h with zero | figure
  · rw [List.eq_of_mem_replicate zero]
    decide
  · exact isDigit_of_mem_numeral figure

theorem numeral_ne_nil (n : Nat) : numeral n ≠ [] := Nat.toDigits_ne_nil

theorem padded_ne_nil (width n : Nat) : padded width n ≠ [] := by
  intro none
  exact numeral_ne_nil n (List.append_eq_nil_iff.1 none).2

/-- Digits are read as the library reads them. -/
theorem digitsValue_eq_ofDigitChars {digits : List Char} (all : ∀ d ∈ digits, isDigit d = true) :
    digitsValue digits = Nat.ofDigitChars 10 digits 0 := by
  rw [digitsValue, Nat.ofDigitChars_eq_foldl]
  refine List.foldl_ext _ _ _ fun n d hd => ?_
  have digit := isDigit_iff.1 (all d hd)
  rw [digitValue?, if_pos digit, Option.getD_some, Nat.mul_comm]

theorem digitsValue_padded (width n : Nat) : digitsValue (padded width n) = n := by
  rw [digitsValue_eq_ofDigitChars fun _ => isDigit_of_mem_padded, padded, Nat.ofDigitChars_append,
    Nat.ofDigitChars_replicate_zero, Nat.mul_zero]
  exact Nat.ofDigitChars_ten_toDigits

theorem padded_inj {m : Nat} (same : padded width m = padded width n) : m = n := by
  have value := congrArg digitsValue same
  rwa [digitsValue_padded, digitsValue_padded] at value

theorem numeral_inj {m : Nat} (same : numeral m = numeral n) : m = n := by
  have value := congrArg (Nat.ofDigitChars 10 · 0) same
  simpa only [numeral, Nat.ofDigitChars_ten_toDigits] using value

/-- Zeros behind digits are powers of ten. -/
theorem digitsValue_append_zeros {digits : List Char} (all : ∀ d ∈ digits, isDigit d = true)
    (zeros : Nat) :
    digitsValue (digits ++ List.replicate zeros '0') = digitsValue digits * 10 ^ zeros := by
  have all' : ∀ d ∈ digits ++ List.replicate zeros '0', isDigit d = true := by
    intro d hd
    rcases List.mem_append.1 hd with hd | hd
    · exact all d hd
    · rw [List.eq_of_mem_replicate hd]
      decide
  rw [digitsValue_eq_ofDigitChars all, digitsValue_eq_ofDigitChars all', Nat.ofDigitChars_append,
    Nat.ofDigitChars_replicate_zero, Nat.mul_comm]

theorem length_padded (pos : 0 < width) (lt : n < 10 ^ width) : (padded width n).length = width := by
  have short : (numeral n).length ≤ width :=
    (Nat.length_toDigits_le_iff (by decide) pos).2 lt
  rw [padded, List.length_append, List.length_replicate]
  omega

/-- A text is split in one way behind a run of characters of one kind. -/
theorem append_inj_of_run {p : Char → Bool} {front front' back back' : List Char}
    (same : front ++ back = front' ++ back')
    (all : ∀ d ∈ front, p d = true) (stop : ∀ d ∈ back.head?, p d = false)
    (all' : ∀ d ∈ front', p d = true) (stop' : ∀ d ∈ back'.head?, p d = false) :
    front = front' ∧ back = back' := by
  have ends {s : List Char} (stop : ∀ d ∈ s.head?, p d = false) : s.dropWhile p = s := by
    cases s with
    | nil => rfl
    | cons d s => exact List.dropWhile_cons_of_neg (by simp [stop d rfl])
  have behind := congrArg (List.dropWhile p) same
  rw [List.dropWhile_append_of_pos all, List.dropWhile_append_of_pos all', ends stop,
    ends stop'] at behind
  rw [behind] at same
  exact ⟨List.append_cancel_right same, behind⟩

/-- A text that starts with digits is split behind them in one way. -/
theorem eq_of_digits_append {digits digits' rest rest' : List Char} {c' : Char}
    (same : digits ++ c :: rest = digits' ++ c' :: rest')
    (all : ∀ d ∈ digits, isDigit d = true) (stop : isDigit c = false)
    (all' : ∀ d ∈ digits', isDigit d = true) (stop' : isDigit c' = false) : c = c' := by
  obtain ⟨-, behind⟩ := append_inj_of_run same all (by simpa using stop) all' (by simpa using stop')
  exact (List.cons.inj behind).1

/-! ## Trimming -/

/-- Trimming leaves a character in front that is no white space. -/
theorem trimChars_cons {s : List Char} (h : isBlank c = false) :
    ∃ rest, trimChars (c :: s) = c :: rest ∧ rest <+: s := by
  have front : trimChars (c :: s) = (c :: s).rdropWhile isBlank := by
    unfold trimChars
    rw [List.dropWhile_cons_of_neg (by simp [h])]
    rfl
  have kept := List.rdropWhile_prefix isBlank (c :: s)
  rw [front]
  rcases List.prefix_cons_iff.1 kept with none | ⟨rest, eq, short⟩
  · have blank := List.rdropWhile_eq_nil_iff.1 none c List.mem_cons_self
    rw [h] at blank
    cases blank
  · exact ⟨rest, eq, short⟩

/-- White space around a text goes. -/
theorem trimChars_append {front s behind : List Char} {first last : Char}
    (blank : ∀ c ∈ front, isBlank c = true) (blank' : ∀ c ∈ behind, isBlank c = true)
    (head : s.head? = some first) (end_ : s.getLast? = some last)
    (visible : isBlank first = false) (visible' : isBlank last = false) :
    trimChars (front ++ s ++ behind) = s := by
  obtain ⟨tail, rfl⟩ := List.head?_eq_some_iff.1 head
  obtain ⟨tail', htail⟩ := List.head?_eq_some_iff.1 (List.head?_reverse.trans end_)
  unfold trimChars
  rw [List.append_assoc, List.dropWhile_append_of_pos blank, List.cons_append,
    List.dropWhile_cons_of_neg (by simp [visible]), ← List.cons_append, List.reverse_append,
    List.dropWhile_append_of_pos fun c hc => blank' c (List.mem_reverse.1 hc), htail,
    List.dropWhile_cons_of_neg (by simp [visible']), ← htail, List.reverse_reverse]

/-! ## Readers -/

theorem takeDigits_append (width : Nat) (s : List Char) :
    (takeDigits width s).1 ++ (takeDigits width s).2 = s := by
  induction width generalizing s with
  | zero => rfl
  | succ width ih =>
    cases s with
    | nil => rfl
    | cons c s =>
      unfold takeDigits
      split
      · exact congrArg (c :: ·) (ih s)
      · rfl

theorem isDigit_of_mem_takeDigits {s : List Char} (h : c ∈ (takeDigits width s).1) :
    isDigit c = true := by
  induction width generalizing s with
  | zero => cases h
  | succ width ih =>
    cases s with
    | nil => cases h
    | cons d s =>
      unfold takeDigits at h
      split at h
      · next digit =>
        rcases List.mem_cons.1 h with rfl | h
        · exact digit
        · exact ih h
      · cases h

/-- Digits at the front of a text are taken, as many as there are. -/
theorem takeDigits_length_append {digits : List Char} (all : ∀ d ∈ digits, isDigit d = true)
    (rest : List Char) : takeDigits digits.length (digits ++ rest) = (digits, rest) := by
  induction digits with
  | nil => rfl
  | cons d digits ih =>
    have digit := all d List.mem_cons_self
    rw [List.length_cons, List.cons_append, takeDigits, if_pos digit,
      ih fun d hd => all d (List.mem_cons_of_mem _ hd)]

namespace Reader

variable {α β : Type} {s rest : List Char}

theorem bind_eq_some {r : Reader α} {f : α → Reader β} {out : β × List Char}
    (h : (r >>= f) s = some out) : ∃ a rest, r s = some (a, rest) ∧ f a rest = some out := by
  obtain ⟨⟨a, rest⟩, first, later⟩ := Option.bind_eq_some_iff.1 h
  exact ⟨a, rest, first, later⟩

theorem map_eq_some {r : Reader α} {f : α → β} {b : β} (h : (f <$> r) s = some (b, rest)) :
    ∃ a, r s = some (a, rest) ∧ f a = b := by
  obtain ⟨⟨a, rest⟩, first, later⟩ := Option.bind_eq_some_iff.1 h
  cases later
  exact ⟨a, first, rfl⟩

theorem lift_eq_some {x : Option α} {a : α} (h : (StateT.lift x : Reader α) s = some (a, rest)) :
    x = some a ∧ s = rest := by
  obtain ⟨_, value, h⟩ := Option.bind_eq_some_iff.1 h
  cases h
  exact ⟨value, rfl⟩

theorem whole_eq_some {r : Reader α} {a : α} (h : whole r s = some a) : r s = some (a, []) := by
  unfold whole at h
  split at h
  · next read =>
    cases h
    exact read
  · cases h

theorem oneOf_eq_some {allowed : List Char} (h : oneOf allowed s = some (c, rest)) :
    c ∈ allowed ∧ s = c :: rest := by
  unfold oneOf satisfy at h
  cases s with
  | nil => cases h
  | cons d s =>
    dsimp only at h
    split at h
    · next found =>
      cases h
      exact ⟨of_decide_eq_true found, rfl⟩
    · cases h

/-- The digits of a number stand in front of the rest. -/
theorem exactly_eq_some (h : exactly width s = some (n, rest)) :
    ∃ digits, s = digits ++ rest ∧ digits.length = width ∧ ∀ d ∈ digits, isDigit d = true := by
  unfold exactly at h
  dsimp only at h
  split at h
  · next full =>
    cases h
    exact ⟨_, (takeDigits_append width s).symm, full, fun d => isDigit_of_mem_takeDigits⟩
  · cases h

theorem upTo_eq_some (h : upTo width s = some (n, rest)) :
    ∃ digits, s = digits ++ rest ∧ ∀ d ∈ digits, isDigit d = true := by
  unfold upTo at h
  dsimp only at h
  split at h
  · cases h
  · cases h
    exact ⟨_, (takeDigits_append width s).symm, fun d => isDigit_of_mem_takeDigits⟩

/-! ## What is written is read -/

theorem bind_of_some {r : Reader α} {a : α} (h : r s = some (a, rest)) (f : α → Reader β) :
    (r >>= f) s = f a rest := by
  change (r s).bind (fun p => f p.1 p.2) = f a rest
  rw [h]
  rfl

theorem bind_of_none {r : Reader α} (h : r s = none) (f : α → Reader β) : (r >>= f) s = none := by
  change (r s).bind (fun p => f p.1 p.2) = none
  rw [h]
  rfl

theorem map_of_some {r : Reader α} {a : α} (h : r s = some (a, rest)) (f : α → β) :
    (f <$> r) s = some (f a, rest) := by
  change (r s).bind (fun p => some (f p.1, p.2)) = some (f a, rest)
  rw [h]
  rfl

theorem lift_of_some {x : Option α} {a : α} (h : x = some a) (rest : List Char) :
    (StateT.lift x : Reader α) rest = some (a, rest) := by
  rw [h]
  rfl

theorem oneOf_cons {allowed : List Char} (h : c ∈ allowed) (rest : List Char) :
    oneOf allowed (c :: rest) = some (c, rest) := by
  simp [oneOf, satisfy, h]

/-- A number in its full width is read, whatever stands behind it. -/
theorem exactly_padded (pos : 0 < width) (lt : n < 10 ^ width) (rest : List Char) :
    exactly width (padded width n ++ rest) = some (n, rest) := by
  have figures : ∀ d ∈ padded width n, isDigit d = true := fun _ => isDigit_of_mem_padded
  have taken := takeDigits_length_append figures rest
  rw [length_padded pos lt] at taken
  simp only [exactly, taken, length_padded pos lt, if_true, digitsValue_padded]

theorem digits_append {figures : List Char} (all : ∀ d ∈ figures, isDigit d = true)
    (nonempty : figures ≠ []) (stop : isDigit c = false) (rest : List Char) :
    digits (figures ++ c :: rest) = some (figures, c :: rest) := by
  have short : figures.takeWhile isDigit = figures := List.takeWhile_eq_self_iff.2 all
  simp [digits, spanDigits, List.takeWhile_append, List.dropWhile_append_of_pos all, short, stop,
    nonempty]

end Reader

end Formulary.Text
