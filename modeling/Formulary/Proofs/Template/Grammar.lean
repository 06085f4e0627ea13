import Formulary.Template.Token

/-!
Where placeholders stand, said of the text as a whole and position by position, without a walk. The
last two of a run of opening braces, counted off in twos from its front, may open a placeholder. It
is one if the first two closing braces behind them come before the end of the line and before any
other two opening braces.

Two placeholders never overlap, so that either of their ends tells which one it is.
-/

namespace Formulary.Template

open Scanner

/-- Two octets `b` stand side by side at `p`. -/
def PairAt (bytes : ByteArray) (b : UInt8) (p : Nat) : Prop :=
  bytes[p]? = some b ∧ bytes[p + 1]? = some b

/-- From `r` on stand `k` opening braces, and neither in front of them nor behind them another. -/
structure BraceRun (bytes : ByteArray) (r k : Nat) : Prop where
  braces : ∀ i < k, bytes[r + i]? = some openBrace
  front : ∀ p, p + 1 = r → bytes[p]? ≠ some openBrace
  back : bytes[r + k]? ≠ some openBrace

/-- The first two closing braces from `c` on stand at `e`. -/
structure ClosedAt (bytes : ByteArray) (c e : Nat) : Prop where
  le : c ≤ e
  pair : PairAt bytes closeBrace e
  first : ∀ p, c ≤ p → p < e → ¬ PairAt bytes closeBrace p

/-- From `c` up to `e` there is neither the end of a line nor a pair of opening braces. -/
structure Clean (bytes : ByteArray) (c e : Nat) : Prop where
  oneLine : ∀ p, c ≤ p → p < e → bytes[p]? ≠ some newline
  unopened : ∀ p, c ≤ p → p + 1 < e → ¬ PairAt bytes openBrace p

/-- What may be the name of a placeholder stands from `c` up to `e`, and its closing braces at
`e`. -/
def NameAt (bytes : ByteArray) (c e : Nat) : Prop := ClosedAt bytes c e ∧ Clean bytes c e

/-- A placeholder opens at `o`, with the last pair of a run of braces, and its name ends at `e`. -/
def PlaceholderAt (bytes : ByteArray) (o e : Nat) : Prop :=
  ∃ r k, BraceRun bytes r k ∧ 2 ≤ k ∧ o = r + 2 * (k / 2) - 2 ∧ NameAt bytes (o + 2) e

/-- The line of the position `p`, counted from one. -/
def lineAt (bytes : ByteArray) (p : Nat) : Nat := 1 + (bytes.data.toList.take p).count newline

/-- The token tells of the placeholder that opens at `o` and whose name ends at `e`. -/
structure Token.Marks (t : Token) (bytes : ByteArray) (o e : Nat) : Prop where
  start : t.start = o
  name : t.name.toByteArray = bytes.extract (o + 2) e
  length : t.length = e + 2 - o
  line : t.line = lineAt bytes o

variable {bytes : ByteArray} {o o' e e' p : Nat}

theorem Token.Marks.unique {t t' : Token} (h : t.Marks bytes o e) (h' : t'.Marks bytes o e) :
    t = t' := by
  obtain ⟨name, start, length, line⟩ := t
  obtain ⟨name', start', length', line'⟩ := t'
  have hn : name = name' := String.toByteArray_inj.1 (h.name.trans h'.name.symm)
  have hs : start = start' := h.start.trans h'.start.symm
  have hl : length = length' := h.length.trans h'.length.symm
  have hr : line = line' := h.line.trans h'.line.symm
  rw [hn, hs, hl, hr]

/-! ## Lines -/

theorem lineAt_succ {b : UInt8} (h : bytes[p]? = some b) :
    lineAt bytes (p + 1) = lineAt bytes p + if b = newline then 1 else 0 := by
  obtain ⟨inText, rfl⟩ := getElem_of_getElem? h
  have found : bytes.data.toList[p]? = some bytes[p] := by
    rw [Array.getElem?_toList]
    exact getElem?_pos bytes.data p inText
  simp only [lineAt, List.take_add_one, found, Option.toList_some, List.count_append,
    List.count_singleton, beq_iff_eq]
  omega

/-! ## Braces in twos -/

theorem openBrace_ne_closeBrace {p p' : Nat} (h : bytes[p]? = some openBrace)
    (h' : bytes[p']? = some closeBrace) : p ≠ p' := by
  rintro rfl
  exact absurd (h.symm.trans h') (by decide)

/-- No front of braces lies within or right behind others. -/
theorem le_of_front {r r' n : Nat} (braces : ∀ i < n, bytes[r + i]? = some openBrace)
    (front : ∀ p, p + 1 = r' → bytes[p]? ≠ some openBrace) (le : r' ≤ r + n) : r' ≤ r := by
  rcases Nat.lt_or_ge r r' with hlt | hge
  · have inner := braces (r' - 1 - r) (by omega)
    rw [show r + (r' - 1 - r) = r' - 1 by omega] at inner
    exact absurd inner (front (r' - 1) (by omega))
  · exact hge

/-- Runs that meet are one. -/
theorem BraceRun.unique {r r' k k' : Nat} (h : BraceRun bytes r k) (h' : BraceRun bytes r' k')
    (le : r ≤ r' + k') (le' : r' ≤ r + k) : r = r' ∧ k = k' := by
  obtain rfl : r = r' :=
    Nat.le_antisymm (le_of_front h'.braces h.front le) (le_of_front h.braces h'.front le')
  refine ⟨rfl, ?_⟩
  rcases Nat.lt_trichotomy k k' with hlt | heq | hgt
  · exact absurd (h'.braces k hlt) h.back
  · exact heq
  · exact absurd (h.braces k' hgt) h'.back

/-- From the front of its run, the braces in twos come to a pair at `o`. -/
def OpensAt (bytes : ByteArray) (o : Nat) : Prop :=
  ∃ r j, o = r + 2 * j ∧ (∀ i < 2 * j + 2, bytes[r + i]? = some openBrace) ∧
    ∀ p, p + 1 = r → bytes[p]? ≠ some openBrace

theorem OpensAt.pair (h : OpensAt bytes o) : PairAt bytes openBrace o := by
  obtain ⟨r, j, rfl, braces, -⟩ := h
  exact ⟨braces (2 * j) (by omega), braces (2 * j + 1) (by omega)⟩

theorem OpensAt.of_front (h : PairAt bytes openBrace o)
    (front : ∀ p, p + 1 = o → bytes[p]? ≠ some openBrace) : OpensAt bytes o := by
  refine ⟨o, 0, rfl, fun i hi => ?_, front⟩
  obtain rfl | rfl : i = 0 ∨ i = 1 := by omega
  · exact h.1
  · exact h.2

theorem OpensAt.add_two (h : OpensAt bytes o) (next : PairAt bytes openBrace (o + 2)) :
    OpensAt bytes (o + 2) := by
  obtain ⟨r, j, rfl, braces, front⟩ := h
  refine ⟨r, j + 1, by omega, fun i hi => ?_, front⟩
  rcases Nat.lt_or_ge i (2 * j + 2) with hlt | hge
  · exact braces i hlt
  · obtain rfl | rfl : i = 2 * j + 2 ∨ i = 2 * j + 3 := by omega
    · exact next.1
    · exact next.2

theorem OpensAt.not_succ (h : OpensAt bytes o) : ¬ OpensAt bytes (o + 1) := by
  rintro ⟨r', j', ho', braces', front'⟩
  obtain ⟨r, j, rfl, braces, front⟩ := h
  -- Both pairs are counted off from one front, and from there an odd number lies between them.
  have hr : r ≤ r' := le_of_front braces' front (by omega)
  have hr' : r' ≤ r := le_of_front braces front' (by omega)
  omega

/-- The pair that opens a placeholder is the last one of its run, because a name holds no pair. -/
theorem placeholderAt_iff :
    PlaceholderAt bytes o e ↔ OpensAt bytes o ∧ NameAt bytes (o + 2) e := by
  constructor
  · rintro ⟨r, k, run, hk, ho, name⟩
    refine ⟨⟨r, k / 2 - 1, by omega, fun i hi => run.braces i (by omega), run.front⟩, name⟩
  · rintro ⟨⟨r, j, rfl, braces, front⟩, closed, clean⟩
    refine ⟨r, ?_⟩
    by_cases third : bytes[r + 2 * j + 2]? = some openBrace
    · -- A third brace is the first octet of the name, and no fourth follows it.
      refine ⟨2 * j + 3, ⟨fun i hi => ?_, front, fun fourth => ?_⟩, by omega, by omega,
        closed, clean⟩
      · rcases Nat.lt_or_ge i (2 * j + 2) with hlt | hge
        · exact braces i hlt
        · obtain rfl : i = 2 * j + 2 := by omega
          exact third
      · have := openBrace_ne_closeBrace third closed.pair.1
        have := openBrace_ne_closeBrace fourth closed.pair.1
        have := closed.le
        exact clean.unopened (r + 2 * j + 2) (by omega) (by omega) ⟨third, fourth⟩
    · exact ⟨2 * j + 2, ⟨braces, front, third⟩, by omega, by omega, closed, clean⟩

/-! ## Placeholders apart -/

theorem PlaceholderAt.add_two_le (h : PlaceholderAt bytes o e) : o + 2 ≤ e := by
  obtain ⟨r, k, -, -, -, closed, -⟩ := h
  exact closed.le

theorem PlaceholderAt.opensAt (h : PlaceholderAt bytes o e) : OpensAt bytes o :=
  (placeholderAt_iff.1 h).1

theorem PlaceholderAt.closes (h : PlaceholderAt bytes o e) : PairAt bytes closeBrace e := by
  obtain ⟨r, k, -, -, -, closed, -⟩ := h
  exact closed.pair

/-- Nothing opens between the ends of a placeholder. -/
theorem PlaceholderAt.le_of_opensAt (h : PlaceholderAt bytes o e) (h' : OpensAt bytes o')
    (lt : o < o') : e + 2 ≤ o' := by
  obtain ⟨opens, closed, clean⟩ := placeholderAt_iff.1 h
  have hne : o' ≠ o + 1 := by
    rintro rfl
    exact opens.not_succ h'
  rcases Nat.lt_or_ge (o' + 1) e with hlt | hge
  · exact absurd h'.pair (clean.unopened o' (by omega) hlt)
  · have := openBrace_ne_closeBrace h'.pair.1 closed.pair.1
    have := openBrace_ne_closeBrace h'.pair.1 closed.pair.2
    have := openBrace_ne_closeBrace h'.pair.2 closed.pair.1
    omega

theorem PlaceholderAt.end_unique (h : PlaceholderAt bytes o e) (h' : PlaceholderAt bytes o e') :
    e = e' := by
  obtain ⟨-, closed, -⟩ := placeholderAt_iff.1 h
  obtain ⟨-, closed', -⟩ := placeholderAt_iff.1 h'
  rcases Nat.lt_trichotomy e e' with hlt | rfl | hgt
  · exact absurd closed.pair (closed'.first e closed.le hlt)
  · rfl
  · exact absurd closed'.pair (closed.first e' closed'.le hgt)

theorem PlaceholderAt.start_unique (h : PlaceholderAt bytes o e) (h' : PlaceholderAt bytes o' e) :
    o = o' := by
  have := h.add_two_le
  have := h'.add_two_le
  rcases Nat.lt_trichotomy o o' with hlt | rfl | hgt
  · have := h.le_of_opensAt h'.opensAt hlt
    omega
  · rfl
  · have := h'.le_of_opensAt h.opensAt hgt
    omega

/-- A placeholder whose name ends later opens behind the other one. -/
theorem PlaceholderAt.le_of_end_lt (h : PlaceholderAt bytes o e) (h' : PlaceholderAt bytes o' e')
    (lt : e < e') : e + 2 ≤ o' := by
  rcases Nat.lt_trichotomy o o' with hlt | rfl | hgt
  · exact h.le_of_opensAt h'.opensAt hlt
  · exact absurd (h.end_unique h') (by omega)
  · have := h'.le_of_opensAt h.opensAt hgt
    have := h.add_two_le
    omega

/-- A run of braces opens at most one placeholder. -/
theorem PlaceholderAt.start_of_run {r k : Nat} (h : PlaceholderAt bytes o e)
    (run : BraceRun bytes r k) (le : r ≤ o) (lt : o < r + k) :
    2 ≤ k ∧ o = r + 2 * (k / 2) - 2 := by
  obtain ⟨r', k', run', hk', rfl, -⟩ := h
  obtain ⟨rfl, rfl⟩ := run.unique run' (by omega) (by omega)
  exact ⟨hk', rfl⟩

end Formulary.Template
