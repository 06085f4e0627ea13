import Formulary.Text.Blank
import Mathlib.Data.List.TakeWhile

/-!
White space in texts: a text is trimmed to nothing just in case it is blank, and its words are what
is left of it between stretches of white space.
-/

namespace Formulary.Text

variable {s : List Char}

theorem allBlank_iff (s : String) : allBlank s = true ↔ ∀ c ∈ s.toList, isBlank c = true :=
  List.all_eq_true

theorem trimChars_eq_nil_iff : trimChars s = [] ↔ ∀ c ∈ s, isBlank c = true := by
  rw [trimChars, List.reverse_eq_nil_iff, List.dropWhile_eq_nil_iff]
  constructor
  · intro h c hc
    by_cases middle : c ∈ s.dropWhile isBlank
    · exact h c (List.mem_reverse.2 middle)
    · rw [← List.takeWhile_append_dropWhile (p := isBlank) (l := s), List.mem_append] at hc
      exact List.mem_takeWhile_imp (hc.resolve_right middle)
  · intro h c hc
    exact h c ((List.dropWhile_sublist _).subset (List.mem_reverse.1 hc))

theorem isEmpty_trim (s : String) : (trim s).isEmpty = allBlank s := by
  rw [Bool.eq_iff_iff, String.isEmpty_iff, ← String.toList_eq_nil_iff, trim, String.toList_ofList,
    trimChars_eq_nil_iff, allBlank_iff]

/-! ## Words -/

/-- The words of a text, read from its front. A word is not empty, there is no white space in it,
and the text ends behind it or goes on with white space. -/
inductive Worded : List Char → List String → Prop
  | nothing : Worded [] []
  | blank {c : Char} {s : List Char} {ws : List String} :
      isBlank c = true → Worded s ws → Worded (c :: s) ws
  | word {w : String} {s : List Char} {ws : List String} : w ≠ "" →
      (∀ c ∈ w.toList, isBlank c = false) → (∀ c ∈ s.head?, isBlank c = true) →
      Worded s ws → Worded (w.toList ++ s) (w :: ws)

/-- There is no word in a text just in case there is nothing but white space in it. -/
theorem Worded.eq_nil_iff {ws : List String} (h : Worded s ws) :
    ws = [] ↔ ∀ c ∈ s, isBlank c = true := by
  induction h with
  | nothing => exact ⟨fun _ => nofun, fun _ => rfl⟩
  | blank hc _ ih => rw [ih, List.forall_mem_cons, and_iff_right hc]
  | @word w s ws nonempty whole _ _ _ =>
    refine ⟨nofun, fun blank => absurd ?_ nonempty⟩
    rw [← String.toList_eq_nil_iff, List.eq_nil_iff_forall_not_mem]
    intro c hc
    exact Bool.false_ne_true ((whole c hc).symm.trans (blank c (List.mem_append_left _ hc)))

/-- The front word of a text and the words behind it, as one list. -/
def joinFront (front : List Char × List (List Char)) : List String :=
  (if front.1.isEmpty then front.2 else front.1 :: front.2).map String.ofList

theorem words_eq (s : String) : words s = joinFront (wordsFrom s.toList) := rfl

theorem wordsFrom_blank {c : Char} (h : isBlank c = true) (s : List Char) :
    (wordsFrom (c :: s)).1 = [] ∧ joinFront (wordsFrom (c :: s)) = joinFront (wordsFrom s) := by
  simp only [wordsFrom, h, if_true, joinFront, List.isEmpty_nil, and_self]

theorem wordsFrom_other {c : Char} (h : isBlank c = false) (s : List Char) :
    wordsFrom (c :: s) = (c :: (wordsFrom s).1, (wordsFrom s).2) := by
  simp only [wordsFrom, h, Bool.false_eq_true, if_false]

/-- A word that is read from the front of a text ends where white space begins. -/
theorem wordsFrom_append {w : List Char} (whole : ∀ c ∈ w, isBlank c = false)
    (ended : ∀ c ∈ s.head?, isBlank c = true) :
    (wordsFrom (w ++ s)).1 = w ∧
      (wordsFrom (w ++ s)).2.map String.ofList = joinFront (wordsFrom s) := by
  induction w with
  | nil =>
    cases s with
    | nil => exact ⟨rfl, rfl⟩
    | cons c s =>
      obtain ⟨front, -⟩ := wordsFrom_blank (ended c rfl) s
      rw [List.nil_append]
      refine ⟨front, ?_⟩
      rw [joinFront, front]
      rfl
  | cons c w ih =>
    obtain ⟨hc, whole⟩ := List.forall_mem_cons.1 whole
    obtain ⟨front, behind⟩ := ih whole
    rw [List.cons_append, wordsFrom_other hc, front]
    exact ⟨rfl, behind⟩

theorem Worded.eq_joinFront {ws : List String} (h : Worded s ws) :
    ws = joinFront (wordsFrom s) := by
  induction h with
  | nothing => rfl
  | blank hc _ ih => rw [(wordsFrom_blank hc _).2, ih]
  | @word w s ws nonempty whole ended _ ih =>
    obtain ⟨front, behind⟩ := wordsFrom_append whole ended
    have some : w.toList.isEmpty = false := by
      rw [List.isEmpty_eq_false_iff]
      exact mt String.toList_eq_nil_iff.1 nonempty
    rw [joinFront, front, some, if_neg Bool.false_ne_true, List.map_cons, String.ofList_toList,
      behind, ih]

theorem worded_append {w : List Char} {ws : List String} (nonempty : w ≠ [])
    (whole : ∀ c ∈ w, isBlank c = false) (ended : ∀ c ∈ s.head?, isBlank c = true)
    (h : Worded s ws) : Worded (w ++ s) (String.ofList w :: ws) := by
  have word := Worded.word (mt String.ofList_eq_empty_iff.1 nonempty)
    (by rwa [String.toList_ofList]) ended h
  rwa [String.toList_ofList] at word

/-- Every text has words: a character in front of it goes to the first one, or is one. -/
theorem exists_worded (s : List Char) : ∃ ws, Worded s ws := by
  induction s with
  | nil => exact ⟨[], .nothing⟩
  | cons c s ih =>
    obtain ⟨ws, h⟩ := ih
    cases hc : isBlank c with
    | true => exact ⟨ws, .blank hc h⟩
    | false =>
      have alone : ∀ d ∈ [c], isBlank d = false := List.forall_mem_singleton.2 hc
      cases h with
      | nothing => exact ⟨_, worded_append (List.cons_ne_nil _ _) alone nofun .nothing⟩
      | blank hd h =>
        exact ⟨_, worded_append (List.cons_ne_nil _ _) alone
          (fun d eq => Option.some.inj eq ▸ hd) (.blank hd h)⟩
      | word _ whole ended h =>
        exact ⟨_, worded_append (List.cons_ne_nil _ _) (List.forall_mem_cons.2 ⟨hc, whole⟩) ended h⟩

theorem worded_iff {s : String} {ws : List String} : Worded s.toList ws ↔ ws = words s := by
  rw [words_eq]
  refine ⟨Worded.eq_joinFront, ?_⟩
  rintro rfl
  -- A text has words, and there is only one way to read them.
  obtain ⟨ws, h⟩ := exists_worded s.toList
  rwa [h.eq_joinFront] at h

end Formulary.Text
