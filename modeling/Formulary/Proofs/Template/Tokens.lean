import Formulary.Proofs.Template.Scanner
import Mathlib.Data.List.Sort

/-!
What a whole walk finds. From any sound scanner the walk lists the placeholders that end from its
position on, each once and from front to back; from the front of a text these are all the
placeholders of the text.
-/

namespace Formulary.Template

variable {bytes : ByteArray} {p : Nat}

/-- A token ends with the closing braces of its placeholder. -/
theorem PlaceholderAt.stop_eq {e : Nat} {t : Token} (here : PlaceholderAt bytes t.start e)
    (marks : t.Marks bytes t.start e) : t.stop = e + 2 := by
  have := here.add_two_le
  rw [Token.stop, marks.length]
  omega

/-- The tokens tell of the placeholders that end at `p` or later, from front to back. -/
inductive Lists (bytes : ByteArray) : Nat → List Token → Prop
  | none {p : Nat} : (∀ o e, PlaceholderAt bytes o e → ¬ p ≤ e + 1) → Lists bytes p []
  | some {p e : Nat} {t : Token} {rest : List Token} : PlaceholderAt bytes t.start e →
      t.Marks bytes t.start e → p ≤ e + 1 →
      (∀ o' e', PlaceholderAt bytes o' e' → p ≤ e' + 1 → e ≤ e') →
      Lists bytes (e + 2) rest → Lists bytes p (t :: rest)

namespace Lists

theorem placeholderAt {ts : List Token} (h : Lists bytes p ts) {t : Token} (ht : t ∈ ts) :
    ∃ e, PlaceholderAt bytes t.start e ∧ t.Marks bytes t.start e ∧ p ≤ e + 1 := by
  induction h with
  | none _ => exact nomatch ht
  | @some p e first rest here marks ahead _ _ ih =>
    rcases List.mem_cons.1 ht with rfl | ht
    · exact ⟨e, here, marks, ahead⟩
    · obtain ⟨e', here', marks', ahead'⟩ := ih ht
      exact ⟨e', here', marks', by omega⟩

theorem exists_mem {ts : List Token} (h : Lists bytes p ts) {o e : Nat}
    (here : PlaceholderAt bytes o e) (ahead : p ≤ e + 1) : ∃ t ∈ ts, t.Marks bytes o e := by
  induction h with
  | none hnone => exact absurd ahead (hnone o e here)
  | @some p e' first rest here' marks' _ least _ ih =>
    rcases Nat.eq_or_lt_of_le (least o e here ahead) with rfl | hlt
    · rw [here'.start_unique here] at marks'
      exact ⟨first, List.mem_cons_self, marks'⟩
    · obtain ⟨t, ht, marks⟩ := ih (by omega)
      exact ⟨t, List.mem_cons_of_mem _ ht, marks⟩

theorem pairwise {ts : List Token} (h : Lists bytes p ts) :
    ts.Pairwise fun a b => a.stop ≤ b.start := by
  induction h with
  | none _ => exact .nil
  | @some p e first rest here marks _ _ hrest ih =>
    refine .cons (fun t ht => ?_) ih
    obtain ⟨e', here', -, ahead'⟩ := hrest.placeholderAt ht
    rw [here.stop_eq marks]
    exact here.le_of_end_lt here' (by omega)

/-- Where no placeholder ends from `p` up to `p'`, the lists from both are the same. -/
theorem of_quiet {p' : Nat} {ts : List Token} (le : p ≤ p')
    (quiet : ∀ o e, PlaceholderAt bytes o e → p ≤ e + 1 → p' ≤ e + 1) (h : Lists bytes p' ts) :
    Lists bytes p ts := by
  cases h with
  | none hnone => exact .none fun o e here ahead => hnone o e here (quiet o e here ahead)
  | some here marks ahead least rest =>
    exact .some here marks (Nat.le_trans le ahead)
      (fun o' e' here' ahead' => least o' e' here' (quiet o' e' here' ahead')) rest

end Lists

namespace Scanner

variable {text : String} {s : Scanner}

theorem sound_start (bytes : ByteArray) : start.Sound bytes := by
  refine ⟨rfl, fun o e _ _ => Nat.zero_le o, fun q hq => ?_⟩
  exact absurd hq (Nat.succ_ne_zero q)

/-- The walk is at its end where the text is. -/
theorem size_le_of_step_eq_none (h : s.step bytes = none) : bytes.size ≤ s.pos := by
  have hnone : bytes[s.pos]? = none := Option.map_eq_none_iff.1 h
  exact Nat.not_lt.1 ((getElem?_eq_none_iff bytes s.pos).1 hnone)

/-- What a walk to the next token finds: a sound scanner, and a list that goes on from there. -/
def Finds (bytes : ByteArray) (p : Nat) : Option Token × Scanner → Prop
  | (none, s') => s'.Sound bytes ∧ Lists bytes p []
  | (some t, s') => s'.Sound bytes ∧
      ∀ rest, Lists bytes s'.pos rest → Lists bytes p (t :: rest)

theorem finds_next (hs : s.Sound text.toByteArray) :
    Finds text.toByteArray s.pos (s.next text.toByteArray) := by
  fun_induction next text.toByteArray s with
  | case1 s hstep =>
    refine ⟨hs, .none fun o e here ahead => ?_⟩
    have hend := size_le_of_step_eq_none hstep
    obtain ⟨inText, -⟩ := getElem_of_getElem? here.closes.2
    have inText : e + 1 < text.toByteArray.size := inText
    omega
  | case2 s s' t hstep =>
    obtain ⟨hs', e, here, marks, hp, hp'⟩ := stepsTo_step hs hstep
    refine ⟨hs', fun rest hrest => .some here marks (Nat.le_of_eq hp) (fun o' e' _ _ => ?_) ?_⟩
    · omega
    · rw [← hp']
      exact hrest
  | case3 s s' hstep ih =>
    obtain ⟨hs', hle, quiet⟩ := stepsTo_step hs hstep
    have found := ih hs'
    generalize s'.next text.toByteArray = r at found
    obtain ⟨t, s''⟩ := r
    cases t with
    | none => exact ⟨found.1, found.2.of_quiet hle quiet⟩
    | some t => exact ⟨found.1, fun rest hrest => (found.2 rest hrest).of_quiet hle quiet⟩

theorem lists_tokens (hs : s.Sound text.toByteArray) :
    Lists text.toByteArray s.pos (s.tokens text.toByteArray) := by
  fun_induction tokens text.toByteArray s with
  | case1 s hnone =>
    have found := finds_next hs
    cases hn : s.next text.toByteArray with
    | mk t s' =>
      rw [hn] at found hnone
      subst hnone
      exact found.2
  | case2 s t hsome ih =>
    have found := finds_next hs
    cases hn : s.next text.toByteArray with
    | mk t' s' =>
      rw [hn] at found hsome ih
      subst hsome
      exact found.2 _ (ih found.1)

end Scanner

theorem lists_tokens (text : String) : Lists text.toByteArray 0 (tokens text) :=
  Scanner.lists_tokens (Scanner.sound_start text.toByteArray)

/-- Each token tells of the placeholder at its start. -/
theorem placeholderAt_of_mem {text : String} {t : Token} (ht : t ∈ tokens text) :
    ∃ e, PlaceholderAt text.toByteArray t.start e ∧ t.Marks text.toByteArray t.start e := by
  obtain ⟨e, here, marks, -⟩ := (lists_tokens text).placeholderAt ht
  exact ⟨e, here, marks⟩

theorem exists_token {text : String} {o e : Nat} (here : PlaceholderAt text.toByteArray o e) :
    ∃ t ∈ tokens text, t.Marks text.toByteArray o e :=
  (lists_tokens text).exists_mem here (Nat.zero_le (e + 1))

theorem tokens_pairwise (text : String) : (tokens text).Pairwise fun a b => a.stop ≤ b.start :=
  (lists_tokens text).pairwise

/-- A token is at least its four braces long. -/
theorem start_add_four_le_stop {text : String} {t : Token} (ht : t ∈ tokens text) :
    t.start + 4 ≤ t.stop := by
  obtain ⟨e, here, marks⟩ := placeholderAt_of_mem ht
  have := here.add_two_le
  rw [here.stop_eq marks]
  omega

section

variable {text : String} {t t' : Token}

theorem mem_tokens_iff : t ∈ tokens text ↔
    ∃ o e, PlaceholderAt text.toByteArray o e ∧ t.Marks text.toByteArray o e := by
  constructor
  · exact fun ht => ⟨t.start, placeholderAt_of_mem ht⟩
  · rintro ⟨o, e, here, marks⟩
    obtain ⟨t', ht', marks'⟩ := exists_token here
    rw [marks.unique marks']
    exact ht'

theorem tokens_sorted (text : String) : (tokens text).Pairwise fun s t => s.start < t.start :=
  (tokens_pairwise text).imp_of_mem fun {s _} hs _ apart => by
    have := start_add_four_le_stop hs
    omega

/-- Two tokens of a text are one, or one of them stands in front of the other. -/
theorem eq_or_apart (ht : t ∈ tokens text) (ht' : t' ∈ tokens text) :
    t = t' ∨ t.stop ≤ t'.start ∨ t'.stop ≤ t.start := by
  obtain ⟨e, here, marks⟩ := placeholderAt_of_mem ht
  obtain ⟨e', here', marks'⟩ := placeholderAt_of_mem ht'
  rw [here.stop_eq marks, here'.stop_eq marks']
  rcases Nat.lt_trichotomy e e' with lt | rfl | gt
  · exact .inr (.inl (here.le_of_end_lt here' lt))
  · have same := here.start_unique here'
    rw [same] at marks
    exact .inl (marks.unique marks')
  · exact .inr (.inr (here'.le_of_end_lt here gt))

/-- Tokens that come in order are settled by which they are. -/
theorem eq_of_sorted {ts us : List Token} (sorted : ts.Pairwise fun s t => s.start < t.start)
    (sorted' : us.Pairwise fun s t => s.start < t.start) (same : ∀ t, t ∈ ts ↔ t ∈ us) :
    ts = us := by
  have asymm : Std.Asymm fun s t : Token => s.start < t.start := ⟨fun _ _ => Nat.lt_asymm⟩
  exact sorted.eq_of_mem_iff sorted' same

end

/-- The tokens of a text tell of its placeholders and of nothing else, from front to back; a run of
opening braces yields a token just in case a name and its closing braces follow its last pair. -/
theorem tokens_grammar (text : String) :
    (∀ t, t ∈ tokens text ↔
      ∃ o e, PlaceholderAt text.toByteArray o e ∧ t.Marks text.toByteArray o e) ∧
    (tokens text).Pairwise (fun a b => a.start < b.start) ∧
    ∀ r k, (BraceRun text.toByteArray r k ∧ ∃ t ∈ tokens text, r ≤ t.start ∧ t.start < r + k) ↔
      BraceRun text.toByteArray r k ∧ 2 ≤ k ∧ ∃ e, NameAt text.toByteArray (r + 2 * (k / 2)) e := by
  refine ⟨fun t => ⟨fun ht => ?_, ?_⟩, ?_, fun r k => and_congr_right fun run => ⟨?_, ?_⟩⟩
  · exact ⟨t.start, placeholderAt_of_mem ht⟩
  · rintro ⟨o, e, here, marks⟩
    obtain ⟨t', ht', marks'⟩ := exists_token here
    rw [marks.unique marks']
    exact ht'
  · refine (tokens_pairwise text).imp_of_mem fun {a b} ha _ apart => ?_
    have := start_add_four_le_stop ha
    omega
  · rintro ⟨t, ht, le, lt⟩
    obtain ⟨e, here, -⟩ := placeholderAt_of_mem ht
    obtain ⟨hk, ho⟩ := here.start_of_run run le lt
    obtain ⟨-, name⟩ := placeholderAt_iff.1 here
    rw [show t.start + 2 = r + 2 * (k / 2) by omega] at name
    exact ⟨hk, e, name⟩
  · rintro ⟨hk, e, name⟩
    have here : PlaceholderAt text.toByteArray (r + 2 * (k / 2) - 2) e := by
      refine ⟨r, k, run, hk, rfl, ?_⟩
      rw [show r + 2 * (k / 2) - 2 + 2 = r + 2 * (k / 2) by omega]
      exact name
    obtain ⟨t, ht, marks⟩ := exists_token here
    refine ⟨t, ht, ?_⟩
    rw [marks.start]
    omega

example : tokens "\x7b\x7b\x7ba\x7d\x7d \x7b\x7bb \x7b\x7bc\x7dd\x7d\x7d" =
    [⟨"\x7ba", 0, 6, 1⟩, ⟨"c\x7dd", 11, 7, 1⟩] := by
  decide +kernel

end Formulary.Template
