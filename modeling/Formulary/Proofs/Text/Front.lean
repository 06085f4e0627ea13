import Formulary.Proofs.Text.Reader

/-!
Readers look no further than the front of a text. What a reader reads stands in front of the rest,
and it reads the same where the text breaks off behind that; only a text that goes on may be read
further. Readers put together from such readers are such readers.
-/

namespace Formulary.Text

variable {s rest : List Char}

/-- A run at the front of a text ends where it ended, also where the text behind it breaks off. -/
theorem run_of_front {p : Char → Bool} {short : List Char} (front : short <+: s.dropWhile p) :
    (s.takeWhile p ++ short).takeWhile p = s.takeWhile p ∧
    (s.takeWhile p ++ short).dropWhile p = short := by
  have stop : ∀ d ∈ short.head?, p d = false := by
    intro d hd
    obtain ⟨behind, eq⟩ := front
    have first : (s.dropWhile p).head? = some d := by
      rw [← eq, List.head?_append_of_ne_nil _ (by rintro rfl; cases hd)]
      exact hd
    have ended := List.head?_dropWhile_not p s
    rwa [first] at ended
  have all : ∀ d ∈ s.takeWhile p, p d = true := fun d => List.mem_takeWhile_imp
  rw [List.takeWhile_append_of_pos all, List.dropWhile_append_of_pos all]
  cases short with
  | nil => simp
  | cons d short => simp [stop d rfl]

theorem takeDigits_of_front (width : Nat) (s : List Char) {short : List Char}
    (front : short <+: (takeDigits width s).2) :
    takeDigits width ((takeDigits width s).1 ++ short) = ((takeDigits width s).1, short) := by
  induction width generalizing s with
  | zero => rfl
  | succ width ih =>
    cases s with
    | nil =>
      rw [takeDigits, List.prefix_nil.1 front]
      rfl
    | cons d s =>
      rw [takeDigits] at front ⊢
      split at front
      · next digit =>
        rw [if_pos digit]
        simp only [List.cons_append, takeDigits, if_pos digit, ih s front]
      · next other =>
        rw [if_neg other, List.nil_append]
        rcases List.prefix_cons_iff.1 front with rfl | ⟨short, rfl, -⟩
        · rfl
        · rw [takeDigits, if_neg other]

namespace Reader

variable {α β : Type}

/-- What the reader reads stands in front of the rest, and is read where only some of the rest
follows. -/
def ReadsFront (r : Reader α) : Prop :=
  ∀ s a rest, r s = some (a, rest) → ∃ read, s = read ++ rest ∧
    ∀ short, short <+: rest → r (read ++ short) = some (a, short)

/-- The text up to where the reader stops is read whole. -/
theorem ReadsFront.exists_whole {r : Reader α} (h : ReadsFront r) {a : α}
    (read : r s = some (a, rest)) : ∃ front, s = front ++ rest ∧ whole r front = some a := by
  obtain ⟨front, eq, again⟩ := h s a rest read
  refine ⟨front, eq, ?_⟩
  have stopped := again [] List.nil_prefix
  rw [List.append_nil] at stopped
  rw [whole, stopped]

/-! ## Putting readers together -/

theorem readsFront_lift (x : Option α) : ReadsFront (StateT.lift x : Reader α) := by
  intro s a rest h
  obtain ⟨value, rfl⟩ := lift_eq_some h
  exact ⟨[], rfl, fun short _ => lift_of_some value short⟩

theorem ReadsFront.bind {r : Reader α} {f : α → Reader β} (hr : ReadsFront r)
    (hf : ∀ a, ReadsFront (f a)) : ReadsFront (r >>= f) := by
  intro s b rest h
  obtain ⟨a, middle, first, later⟩ := bind_eq_some h
  obtain ⟨read, rfl, again⟩ := hr s a middle first
  obtain ⟨read', rfl, again'⟩ := hf a middle b rest later
  refine ⟨read ++ read', (List.append_assoc _ _ _).symm, fun short hshort => ?_⟩
  rw [List.append_assoc, bind_of_some (again (read' ++ short) ((List.prefix_append_right_inj _).2 hshort))]
  exact again' short hshort

theorem ReadsFront.map {r : Reader α} (hr : ReadsFront r) (f : α → β) : ReadsFront (f <$> r) := by
  intro s b rest h
  obtain ⟨a, first, rfl⟩ := map_eq_some h
  obtain ⟨read, eq, again⟩ := hr s a rest first
  exact ⟨read, eq, fun short hshort => map_of_some (again short hshort) f⟩

/-! ## Single readers -/

theorem readsFront_oneOf (allowed : List Char) : ReadsFront (oneOf allowed) := by
  intro s c rest h
  obtain ⟨known, rfl⟩ := oneOf_eq_some h
  exact ⟨[c], rfl, fun short _ => oneOf_cons known short⟩

theorem readsFront_blanks : ReadsFront blanks := by
  intro s a rest h
  cases h
  refine ⟨s.takeWhile isBlank, List.takeWhile_append_dropWhile.symm, fun short hshort => ?_⟩
  rw [blanks, (run_of_front hshort).2]

theorem readsFront_upTo (width : Nat) : ReadsFront (upTo width) := by
  intro s n rest h
  unfold upTo at h
  dsimp only at h
  split at h
  · cases h
  · next nonempty =>
    cases h
    refine ⟨_, (takeDigits_append width s).symm, fun short hshort => ?_⟩
    simp only [upTo, takeDigits_of_front width s hshort, nonempty]
    rfl

theorem readsFront_digits : ReadsFront digits := by
  intro s figures rest h
  unfold digits spanDigits at h
  dsimp only at h
  split at h
  · cases h
  · next nonempty =>
    cases h
    refine ⟨_, List.takeWhile_append_dropWhile.symm, fun short hshort => ?_⟩
    obtain ⟨figures, behind⟩ := run_of_front hshort
    simp only [digits, spanDigits, figures, behind, nonempty]
    rfl

theorem readsFront_fraction : ReadsFront fraction := by
  intro s n rest h
  unfold fraction at h
  split at h
  · next behind =>
    obtain ⟨read, eq, again⟩ := readsFront_digits.map nanoseconds _ n rest h
    exact ⟨'.' :: read, congrArg _ eq, again⟩
  · next other =>
    cases h
    refine ⟨[], rfl, fun short hshort => ?_⟩
    rw [List.nil_append]
    unfold fraction
    split
    · next behind =>
      obtain ⟨tail, rfl⟩ := hshort
      exact absurd rfl (other (behind ++ tail))
    · rfl

end Reader

end Formulary.Text
