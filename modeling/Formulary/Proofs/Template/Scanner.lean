import Formulary.Proofs.Template.Grammar
import Formulary.Proofs.Text.Boundary

/-!
The scanner finds the placeholders of a text, and nothing else. What it has seen before its position
is said phase by phase; every step keeps that true, passes no end of a placeholder in silence, and
completes a token only where a placeholder ends. From there the whole walk lists the placeholders
from front to back.
-/

namespace Formulary.Template

open Scanner

/-! ## What a phase has seen -/

/-- No placeholder stands across the position `p`. -/
def Apart (bytes : ByteArray) (p : Nat) : Prop :=
  ∀ o e, PlaceholderAt bytes o e → p ≤ e + 1 → p ≤ o

/-- The braces at `start` have opened, and what stands from `content` up to `p` may be the front of
a name. -/
structure GoesOn (bytes : ByteArray) (start content line p : Nat) : Prop where
  content_eq : content = start + 2
  line_eq : line = lineAt bytes start
  le : content ≤ p
  opens : OpensAt bytes start
  oneLine : ∀ q, content ≤ q → q < p → bytes[q]? ≠ some newline
  unopened : ∀ q, content ≤ q → q < p → ¬ PairAt bytes openBrace q
  unclosed : ∀ q, content ≤ q → q < p → ¬ PairAt bytes closeBrace q

/-- What a phase says of the octets before the position `p`. -/
def Phase.Sound (bytes : ByteArray) (p : Nat) : Phase → Prop
  | outside => Apart bytes p ∧ ∀ q, q + 1 = p → ¬ PairAt bytes openBrace q
  | opening brace => p = brace + 1 ∧ bytes[brace]? = some openBrace ∧ Apart bytes brace ∧
      ∀ q, q + 1 = brace → bytes[q]? ≠ some openBrace
  | inside start content line => GoesOn bytes start content line p
  | closing start content brace line => p = brace + 1 ∧ bytes[brace]? = some closeBrace ∧
      GoesOn bytes start content line brace

/-- The scanner has counted the lines right, and its phase is that of the octets before it. -/
structure Scanner.Sound (bytes : ByteArray) (s : Scanner) : Prop where
  line : s.line = lineAt bytes s.pos
  phase : s.phase.Sound bytes s.pos

variable {bytes : ByteArray} {start content line p o e : Nat}

namespace GoesOn

/-- The only placeholder across the position is the one that has opened. -/
theorem start_eq (h : GoesOn bytes start content line p) (here : PlaceholderAt bytes o e)
    (ahead : p ≤ e + 1) (lt : o < p) : o = start := by
  have hc := h.content_eq
  have hle := h.le
  rcases Nat.lt_trichotomy o start with hlt | heq | hgt
  · have := here.le_of_opensAt h.opens hlt
    omega
  · exact heq
  · have hne : o ≠ start + 1 := by
      rintro rfl
      exact h.opens.not_succ here.opensAt
    exact absurd here.opensAt.pair (h.unopened o (by omega) lt)

theorem not_ended (h : GoesOn bytes start content line p) (here : PlaceholderAt bytes o e) :
    e + 1 ≠ p := by
  intro he
  have hle := here.add_two_le
  obtain rfl := h.start_eq here (by omega) (by omega)
  have hc := h.content_eq
  exact h.unclosed e (by omega) (by omega) here.closes

theorem succ {b : UInt8} (h : GoesOn bytes start content line p) (found : bytes[p]? = some b)
    (hn : b ≠ newline) (ho : ¬ PairAt bytes openBrace p) (hc : ¬ PairAt bytes closeBrace p) :
    GoesOn bytes start content line (p + 1) := by
  refine ⟨h.content_eq, h.line_eq, Nat.le_succ_of_le h.le, h.opens, ?_, ?_, ?_⟩
  · intro q hq hlt
    rcases Nat.lt_succ_iff_lt_or_eq.1 hlt with hlt | rfl
    · exact h.oneLine q hq hlt
    · rw [found]
      exact fun he => hn (Option.some.inj he)
  · intro q hq hlt
    rcases Nat.lt_succ_iff_lt_or_eq.1 hlt with hlt | rfl
    · exact h.unopened q hq hlt
    · exact ho
  · intro q hq hlt
    rcases Nat.lt_succ_iff_lt_or_eq.1 hlt with hlt | rfl
    · exact h.unclosed q hq hlt
    · exact hc

/-- Another pair of opening braces starts afresh. -/
theorem opensAt (h : GoesOn bytes start content line p) (pair : PairAt bytes openBrace p) :
    OpensAt bytes p := by
  have hc := h.content_eq
  rcases Nat.eq_or_lt_of_le h.le with rfl | hlt
  · rw [hc] at pair ⊢
    exact h.opens.add_two pair
  · refine .of_front pair fun q hq hq' => h.unopened q (by omega) (by omega) ⟨hq', ?_⟩
    rw [hq]
    exact pair.1

/-- A second closing brace completes the placeholder. -/
theorem placeholderAt (h : GoesOn bytes start content line p)
    (pair : PairAt bytes closeBrace p) : PlaceholderAt bytes start p := by
  obtain rfl := h.content_eq
  exact placeholderAt_iff.2 ⟨h.opens, ⟨h.le, pair, h.unclosed⟩,
    ⟨h.oneLine, fun q hq hlt => h.unopened q hq (by omega)⟩⟩

theorem fresh (h : OpensAt bytes start) :
    GoesOn bytes start (start + 2) (lineAt bytes start) (start + 2) :=
  ⟨rfl, rfl, Nat.le_refl _, h, by omega, by omega, by omega⟩

end GoesOn

/-! ## Steps -/

/-- What a step from `s` to `s'` keeps, with the token it completes: ends of placeholders are passed
one at a time, each with its token. -/
def Passes (bytes : ByteArray) (s s' : Scanner) : Option Token → Prop
  | none => s.pos ≤ s'.pos ∧ ∀ o e, PlaceholderAt bytes o e → s.pos ≤ e + 1 → s'.pos ≤ e + 1
  | some t => ∃ e, PlaceholderAt bytes t.start e ∧ t.Marks bytes t.start e ∧ s.pos = e + 1 ∧
      s'.pos = e + 2

theorem passes_stay {s s' : Scanner} (h : s'.pos = s.pos) : Passes bytes s s' none :=
  ⟨Nat.le_of_eq h.symm, fun _ _ _ ahead => h ▸ ahead⟩

theorem passes_succ {s s' : Scanner} (h : s'.pos = s.pos + 1)
    (quiet : ∀ o e, PlaceholderAt bytes o e → e + 1 ≠ s.pos) : Passes bytes s s' none := by
  refine ⟨by omega, fun o e here ahead => ?_⟩
  have := quiet o e here
  omega

/-- The outcome of a step that is sound and keeps what it has to. -/
def StepsTo (bytes : ByteArray) (s : Scanner) (r : Scanner × Option Token) : Prop :=
  r.1.Sound bytes ∧ Passes bytes s r.1 r.2

variable {b : UInt8} {s : Scanner}

theorem lineAt_succ_of_ne (found : bytes[p]? = some b) (hb : b ≠ newline) :
    lineAt bytes (p + 1) = lineAt bytes p := by
  rw [lineAt_succ found, if_neg hb, Nat.add_zero]

theorem Apart.quiet (h : Apart bytes p) (here : PlaceholderAt bytes o e) : e + 1 ≠ p := by
  intro he
  have := h o e here (by omega)
  have := here.add_two_le
  omega

theorem Scanner.Sound.of {pos : Nat} {phase : Phase} (hl : line = lineAt bytes pos)
    (hp : phase.Sound bytes pos) : Scanner.Sound bytes ⟨pos, phase, line⟩ := ⟨hl, hp⟩

theorem stepsTo_read_outside (hs : s.Sound bytes) (hp : s.phase = .outside)
    (found : bytes[s.pos]? = some b) : StepsTo bytes s (s.read bytes b) := by
  obtain ⟨hline, hphase⟩ := hs
  rw [hp] at hphase
  obtain ⟨hapart, hpair⟩ := hphase
  have quiet : ∀ o e, PlaceholderAt bytes o e → e + 1 ≠ s.pos := fun o e => hapart.quiet
  -- An octet that is no opening brace has no placeholder at it.
  have stays : b ≠ openBrace → Phase.Sound bytes (s.pos + 1) .outside := by
    intro hb
    have hne : bytes[s.pos]? ≠ some openBrace := fun he =>
      hb (Option.some.inj (found.symm.trans he))
    refine ⟨fun o e here ahead => ?_, fun q hq pair => ?_⟩
    · have hle := hapart o e here (by omega)
      have : o ≠ s.pos := fun he => hne (he ▸ here.opensAt.pair.1)
      omega
    · obtain rfl : q = s.pos := by omega
      exact hne pair.1
  simp only [Scanner.read, hp]
  split
  · next hb =>
    subst hb
    refine ⟨.of ?_ ⟨rfl, found, hapart, fun q hq opens => ?_⟩, passes_succ rfl quiet⟩
    · rw [hline, lineAt_succ_of_ne found (by decide)]
    · refine hpair q hq ⟨opens, ?_⟩
      rw [hq]
      exact found
  · next hb =>
    split
    · next hnl =>
      refine ⟨.of ?_ (stays hb), passes_succ rfl quiet⟩
      rw [hline, lineAt_succ found, if_pos hnl]
    · next hnl =>
      refine ⟨.of ?_ (stays hb), passes_succ rfl quiet⟩
      rw [hline, lineAt_succ_of_ne found hnl]

theorem stepsTo_read_opening {brace : Nat} (hs : s.Sound bytes) (hp : s.phase = .opening brace)
    (found : bytes[s.pos]? = some b) : StepsTo bytes s (s.read bytes b) := by
  obtain ⟨hline, hphase⟩ := hs
  rw [hp] at hphase
  obtain ⟨hpos, opens, hapart, hfront⟩ := hphase
  have sameLine : s.line = lineAt bytes brace := by
    rw [hline, hpos, lineAt_succ_of_ne opens (by decide)]
  simp only [Scanner.read, hp]
  split
  · next hb =>
    subst hb
    have pair : PairAt bytes openBrace brace := ⟨opens, hpos ▸ found⟩
    refine ⟨.of ?_ ?_, passes_succ rfl fun o e here he => ?_⟩
    · rw [hline, lineAt_succ_of_ne found (by decide)]
    · rw [sameLine, hpos]
      exact .fresh (.of_front pair hfront)
    · obtain rfl : e = brace := by omega
      exact openBrace_ne_closeBrace opens here.closes.1 rfl
  · next hb =>
    have single : ¬ PairAt bytes openBrace brace := fun pair =>
      hb (Option.some.inj (found.symm.trans (hpos ▸ pair.2)))
    refine ⟨.of hline ⟨fun o e here ahead => ?_, fun q hq pair => ?_⟩, passes_stay rfl⟩
    · have hle := hapart o e here (by omega)
      have : o ≠ brace := fun he => single (he ▸ here.opensAt.pair)
      omega
    · obtain rfl : q = brace := by omega
      exact single pair

theorem stepsTo_read_inside {opened : Nat} (hs : s.Sound bytes)
    (hp : s.phase = .inside start content opened) (found : bytes[s.pos]? = some b) :
    StepsTo bytes s (s.read bytes b) := by
  obtain ⟨hline, hphase⟩ := hs
  rw [hp] at hphase
  have hgo : GoesOn bytes start content opened s.pos := hphase
  have quiet : ∀ o e, PlaceholderAt bytes o e → e + 1 ≠ s.pos := fun o e => hgo.not_ended
  simp only [Scanner.read, hp]
  split
  · next hb =>
    subst hb
    refine ⟨.of ?_ ⟨rfl, found, hgo⟩, passes_succ rfl quiet⟩
    rw [hline, lineAt_succ_of_ne found (by decide)]
  · next hclose =>
    have noClose : bytes[s.pos]? ≠ some closeBrace := fun he =>
      hclose (Option.some.inj (found.symm.trans he))
    have noEnd : ∀ o e, PlaceholderAt bytes o e → e ≠ s.pos := fun o e here he =>
      noClose (he ▸ here.closes.1)
    split
    · next hb =>
      obtain ⟨rfl, next⟩ := hb
      refine ⟨.of ?_ ?_, Nat.le_add_right _ 2, fun o e here ahead => ?_⟩
      · rw [hline, lineAt_succ_of_ne next (by decide), lineAt_succ_of_ne found (by decide)]
      · rw [hline]
        exact .fresh (hgo.opensAt ⟨found, next⟩)
      · have := quiet o e here
        have := noEnd o e here
        change s.pos + 2 ≤ e + 1
        omega
    · next hpair =>
      have unopened : ¬ PairAt bytes openBrace s.pos := fun pair =>
        hpair ⟨Option.some.inj (found.symm.trans pair.1), pair.2⟩
      split
      · next hb =>
        subst hb
        refine ⟨.of ?_ ⟨fun o e here ahead => ?_, fun q hq pair => ?_⟩, passes_succ rfl quiet⟩
        · rw [hline, lineAt_succ found, if_pos rfl]
        · -- A placeholder across the newline would have it in its name.
          rcases Nat.lt_or_ge s.pos o with hlt | hge
          · exact hlt
          · have hne : o ≠ s.pos := by
              rintro rfl
              exact absurd (found.symm.trans here.opensAt.pair.1) (by decide)
            have hne' := noEnd o e here
            obtain rfl := hgo.start_eq here (by omega) (by omega)
            obtain rfl := hgo.content_eq
            have clean := (placeholderAt_iff.1 here).2.2
            exact absurd found (clean.oneLine s.pos hgo.le (by omega))
        · obtain rfl : q = s.pos := by omega
          exact unopened pair
      · next hnl =>
        refine ⟨.of ?_ (hgo.succ found hnl unopened fun pair => noClose pair.1),
          passes_succ rfl quiet⟩
        rw [hline, lineAt_succ_of_ne found hnl]

/-- A name stands between octets that are whole characters. -/
theorem GoesOn.boundaries {text : String} (h : GoesOn text.toByteArray start content line p)
    (closes : text.toByteArray[p]? = some closeBrace) :
    Text.Boundary text content ∧ Text.Boundary text p := by
  refine ⟨?_, .of_single (c := '}') rfl closes⟩
  rw [h.content_eq]
  exact .behind_single (c := '{') rfl h.opens.pair.2

/-- So it can be cut out. -/
theorem GoesOn.marks {text : String} (h : GoesOn text.toByteArray start content line p)
    (pair : PairAt text.toByteArray closeBrace p) :
    Token.Marks ⟨Text.slice text.toByteArray content p, start, p + 2 - start, line⟩
      text.toByteArray start p := by
  obtain ⟨opened, closed⟩ := h.boundaries pair.1
  refine ⟨rfl, ?_, rfl, h.line_eq⟩
  rw [← h.content_eq]
  exact Text.toByteArray_slice opened closed h.le

theorem stepsTo_read_closing {text : String} {brace opened : Nat} (hs : s.Sound text.toByteArray)
    (hp : s.phase = .closing start content brace opened)
    (found : text.toByteArray[s.pos]? = some b) :
    StepsTo text.toByteArray s (s.read text.toByteArray b) := by
  obtain ⟨hline, hphase⟩ := hs
  rw [hp] at hphase
  obtain ⟨hpos, closes, hgo⟩ := hphase
  simp only [Scanner.read, hp]
  split
  · next hb =>
    subst hb
    have pair : PairAt text.toByteArray closeBrace brace := ⟨closes, hpos ▸ found⟩
    have here := hgo.placeholderAt pair
    refine ⟨.of ?_ ⟨fun o e other ahead => ?_, fun q hq opens => ?_⟩, brace, here, ?_, hpos, ?_⟩
    · rw [hline, lineAt_succ_of_ne found (by decide)]
    · have := here.le_of_end_lt other (by omega)
      omega
    · obtain rfl : q = s.pos := by omega
      exact openBrace_ne_closeBrace opens.1 found rfl
    · rw [hpos]
      exact hgo.marks pair
    · rw [hpos]
  · next hb =>
    have unclosed : ¬ PairAt text.toByteArray closeBrace brace := fun pair =>
      hb (Option.some.inj (found.symm.trans (hpos ▸ pair.2)))
    refine ⟨.of hline ?_, passes_stay rfl⟩
    rw [hpos]
    exact hgo.succ closes (by decide) (fun pair => openBrace_ne_closeBrace pair.1 closes rfl)
      unclosed

/-- A step is sound, whatever the phase. -/
theorem stepsTo_step {text : String} {s' : Scanner} {t : Option Token}
    (hs : s.Sound text.toByteArray) (h : s.step text.toByteArray = some (s', t)) :
    StepsTo text.toByteArray s (s', t) := by
  obtain ⟨b, found, hread⟩ := Option.map_eq_some_iff.1 h
  rw [← hread]
  cases hp : s.phase with
  | outside => exact stepsTo_read_outside hs hp found
  | opening brace => exact stepsTo_read_opening hs hp found
  | inside start content line => exact stepsTo_read_inside hs hp found
  | closing start content brace line => exact stepsTo_read_closing hs hp found

end Formulary.Template
