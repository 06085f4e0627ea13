import Formulary.Proofs.Template.Fill
import Formulary.Proofs.Text.Append

/-!
Texts cut in two. What the octets in front of a placeholder are matters only up to the front of its
braces, and what is behind it does not matter at all. So the placeholders of either part are those
that the whole text has there, as long as the cut parts no two opening braces; and where no token
with a value lies across the cut, the filled text is made of the two filled parts.
-/

namespace Formulary.Template

open Scanner Text

/-! ## A part in its place -/

/-- Up to its position `n`, `part` stands in `whole` from `d` on, and not behind the first of two
opening braces. -/
structure Holds (whole part : ByteArray) (d n : Nat) : Prop where
  same : ∀ p < n, whole[d + p]? = part[p]?
  front : ∀ p, p + 1 = d → ¬ PairAt whole openBrace p

namespace Holds

variable {whole part : ByteArray} {d n o c e p : Nat} {b : UInt8}

theorem pairAt_iff (h : Holds whole part d n) (lt : p + 1 < n) :
    PairAt whole b (d + p) ↔ PairAt part b p := by
  rw [PairAt, PairAt, Nat.add_assoc, h.same p (by omega), h.same (p + 1) lt]

theorem opensAt_iff (h : Holds whole part d n) (lt : o + 1 < n) :
    OpensAt whole (d + o) ↔ OpensAt part o := by
  constructor
  · rintro ⟨r, j, ho, braces, front⟩
    -- The run has its front in the part, for else it would lie across the front of the part.
    have hr : d ≤ r := by
      by_contra hlt
      have before := braces (d - 1 - r) (by omega)
      have behind := braces (d - r) (by omega)
      rw [show r + (d - 1 - r) = d - 1 by omega] at before
      rw [show r + (d - r) = d - 1 + 1 by omega] at behind
      exact h.front (d - 1) (by omega) ⟨before, behind⟩
    obtain ⟨r, rfl⟩ := Nat.exists_eq_add_of_le hr
    refine ⟨r, j, by omega, fun i hi => ?_, fun p hp => ?_⟩
    · rw [← h.same (r + i) (by omega), ← Nat.add_assoc]
      exact braces i hi
    · rw [← h.same p (by omega)]
      exact front (d + p) (by omega)
  · rintro ⟨r, j, rfl, braces, front⟩
    refine ⟨d + r, j, by omega, fun i hi => ?_, fun p hp => ?_⟩
    · rw [Nat.add_assoc, h.same (r + i) (by omega)]
      exact braces i hi
    · cases r with
      | zero =>
        have first := braces 0 (by omega)
        rw [← h.same 0 (by omega)] at first
        exact fun before => h.front p hp ⟨before, hp ▸ first⟩
      | succ r =>
        obtain rfl : p = d + r := by omega
        rw [h.same r (by omega)]
        exact front r rfl

theorem nameAt_iff (h : Holds whole part d n) (lt : e + 1 < n) :
    NameAt whole (d + c) (d + e) ↔ NameAt part c e := by
  constructor
  · rintro ⟨⟨le, pair, first⟩, oneLine, unopened⟩
    refine ⟨⟨by omega, (h.pairAt_iff lt).1 pair, fun p hp hlt closes => ?_⟩, fun p hp hlt => ?_,
      fun p hp hlt opens => ?_⟩
    · exact first (d + p) (by omega) (by omega) ((h.pairAt_iff (by omega)).2 closes)
    · rw [← h.same p (by omega)]
      exact oneLine (d + p) (by omega) (by omega)
    · exact unopened (d + p) (by omega) (by omega) ((h.pairAt_iff (by omega)).2 opens)
  · rintro ⟨⟨le, pair, first⟩, oneLine, unopened⟩
    refine ⟨⟨by omega, (h.pairAt_iff lt).2 pair, fun p hp hlt closes => ?_⟩, fun p hp hlt => ?_,
      fun p hp hlt opens => ?_⟩
    all_goals obtain ⟨p, rfl⟩ := Nat.exists_eq_add_of_le (show d ≤ p by omega)
    · exact first p (by omega) (by omega) ((h.pairAt_iff (by omega)).1 closes)
    · rw [h.same p (by omega)]
      exact oneLine p (by omega) (by omega)
    · exact unopened p (by omega) (by omega) ((h.pairAt_iff (by omega)).1 opens)

/-- The placeholders of a part are those that the whole has there. -/
theorem placeholderAt_iff (h : Holds whole part d n) (lt : e + 1 < n) :
    PlaceholderAt whole (d + o) (d + e) ↔ PlaceholderAt part o e := by
  rw [Template.placeholderAt_iff, Template.placeholderAt_iff, Nat.add_assoc, h.nameAt_iff lt]
  refine and_congr_left fun name => h.opensAt_iff ?_
  have := name.1.le
  omega

end Holds

/-! ## Tokens of two parts -/

/-- The token as it is some octets and lines further on. -/
def Token.moved (octets lines : Nat) (t : Token) : Token :=
  { t with start := t.start + octets, line := t.line + lines }

/-- How many lines of a text have an end. -/
def newlines (text : String) : Nat := text.toByteArray.data.toList.count newline

/-- Not both octets at the cut between the texts are opening braces. -/
def CutsNoPair (a b : String) : Prop :=
  ∀ p, p + 1 = a.toByteArray.size → ¬ PairAt (a ++ b).toByteArray openBrace p

section

variable (a b : String)

theorem holds_front : Holds (a ++ b).toByteArray a.toByteArray 0 a.toByteArray.size := by
  refine ⟨fun p hp => ?_, fun p hp => absurd hp (Nat.succ_ne_zero p)⟩
  rw [String.toByteArray_append, Nat.zero_add]
  exact getElem?_append_front hp

variable {a b} {o e : Nat} {t : Token}

theorem CutsNoPair.holds (cut : CutsNoPair a b) (n : Nat) :
    Holds (a ++ b).toByteArray b.toByteArray a.toByteArray.size n := by
  refine ⟨fun p _ => ?_, cut⟩
  rw [String.toByteArray_append]
  exact getElem?_append_back p

theorem placeholderAt_front (lt : e + 1 < a.toByteArray.size) :
    PlaceholderAt (a ++ b).toByteArray o e ↔ PlaceholderAt a.toByteArray o e := by
  have here := (holds_front a b).placeholderAt_iff (o := o) lt
  rwa [Nat.zero_add, Nat.zero_add] at here

theorem lineAt_front (h : o ≤ a.toByteArray.size) :
    lineAt (a ++ b).toByteArray o = lineAt a.toByteArray o := by
  rw [String.toByteArray_append, lineAt, ByteArray.data_append, Array.toList_append,
    List.take_append_of_le_length (by simpa using h)]
  rfl

theorem lineAt_back :
    lineAt (a ++ b).toByteArray (a.toByteArray.size + o) = lineAt b.toByteArray o + newlines a := by
  have length : a.toByteArray.data.toList.length = a.toByteArray.size := Array.length_toList
  rw [String.toByteArray_append, lineAt, ByteArray.data_append, Array.toList_append, ← length,
    List.take_length_add_append, List.count_append, lineAt, newlines]
  omega

theorem marks_front (le : o ≤ e) (h : e ≤ a.toByteArray.size) :
    t.Marks (a ++ b).toByteArray o e ↔ t.Marks a.toByteArray o e := by
  have name : (a ++ b).toByteArray.extract (o + 2) e = a.toByteArray.extract (o + 2) e := by
    rw [String.toByteArray_append]
    exact extract_append_front h
  have line := lineAt_front (a := a) (b := b) (le.trans h)
  constructor
  · exact fun m => ⟨m.start, m.name.trans name, m.length, m.line.trans line⟩
  · exact fun m => ⟨m.start, m.name.trans name.symm, m.length, m.line.trans line.symm⟩

theorem marks_back (h : t.Marks b.toByteArray o e) :
    (t.moved a.toByteArray.size (newlines a)).Marks (a ++ b).toByteArray
      (a.toByteArray.size + o) (a.toByteArray.size + e) := by
  refine ⟨?_, h.name.trans ?_, ?_, ?_⟩
  · rw [Token.moved, h.start]
    exact Nat.add_comm _ _
  · rw [String.toByteArray_append, Nat.add_assoc]
    exact ByteArray.extract_append_size_add.symm
  · rw [Token.moved, h.length]
    omega
  · rw [Token.moved, h.line, lineAt_back]

variable (a b) in
/-- The tokens of the second text, as they are behind the first one. -/
def tokensBehind : List Token := (tokens b).map (Token.moved a.toByteArray.size (newlines a))

theorem mem_tokens_front :
    t ∈ tokens a ↔ t ∈ tokens (a ++ b) ∧ t.stop ≤ a.toByteArray.size := by
  constructor
  · intro ht
    obtain ⟨e, here, marks⟩ := placeholderAt_of_mem ht
    have within := stop_le_size ht
    have stop := here.stop_eq marks
    have := here.add_two_le
    exact ⟨mem_tokens_iff.2 ⟨t.start, e, (placeholderAt_front (by omega)).2 here,
      (marks_front (by omega) (by omega)).2 marks⟩, within⟩
  · rintro ⟨ht, within⟩
    obtain ⟨e, here, marks⟩ := placeholderAt_of_mem ht
    have stop := here.stop_eq marks
    have := here.add_two_le
    exact mem_tokens_iff.2 ⟨t.start, e, (placeholderAt_front (by omega)).1 here,
      (marks_front (by omega) (by omega)).1 marks⟩

theorem mem_tokens_back (cut : CutsNoPair a b) :
    t ∈ tokensBehind a b ↔ t ∈ tokens (a ++ b) ∧ a.toByteArray.size ≤ t.start := by
  constructor
  · intro ht
    obtain ⟨t', ht', rfl⟩ := List.mem_map.1 ht
    obtain ⟨e, here, marks⟩ := placeholderAt_of_mem ht'
    have there := ((cut.holds (e + 2)).placeholderAt_iff (by omega)).2 here
    exact ⟨mem_tokens_iff.2 ⟨_, _, there, marks_back marks⟩, Nat.le_add_left _ _⟩
  · rintro ⟨ht, behind⟩
    obtain ⟨e, here, marks⟩ := placeholderAt_of_mem ht
    have := here.add_two_le
    obtain ⟨o, ho⟩ := Nat.exists_eq_add_of_le behind
    obtain ⟨e, rfl⟩ := Nat.exists_eq_add_of_le (show a.toByteArray.size ≤ e by omega)
    rw [ho] at here marks
    obtain ⟨t', ht', marks'⟩ :=
      exists_token (((cut.holds (e + 2)).placeholderAt_iff (by omega)).1 here)
    rw [marks.unique (marks_back marks')]
    exact List.mem_map_of_mem ht'

theorem tokensBehind_sorted (a b : String) :
    (tokensBehind a b).Pairwise fun s t => s.start < t.start :=
  List.pairwise_map.2 ((tokens_sorted b).imp fun lt => Nat.add_lt_add_right lt _)

/-- Where no token of a kind lies across the cut, those of that kind are the first text's and then
the second's. -/
theorem filter_tokens_append (cut : CutsNoPair a b) {p : Token → Bool}
    (apart : ∀ t ∈ tokens (a ++ b), p t = true →
      t.stop ≤ a.toByteArray.size ∨ a.toByteArray.size ≤ t.start) :
    (tokens (a ++ b)).filter p = (tokens a).filter p ++ (tokensBehind a b).filter p := by
  rw [← List.filter_append]
  refine eq_of_sorted ((tokens_sorted _).filter p) (List.Pairwise.filter p ?_) fun t => ?_
  · refine List.pairwise_append.2 ⟨tokens_sorted a, tokensBehind_sorted a b, fun s hs t ht => ?_⟩
    have := start_add_four_le_stop hs
    have := stop_le_size hs
    have := ((mem_tokens_back cut).1 ht).2
    omega
  · rw [List.mem_filter, List.mem_filter, List.mem_append]
    refine and_congr_left fun hp => ⟨fun ht => ?_, ?_⟩
    · exact (apart t ht hp).imp (fun within => mem_tokens_front.2 ⟨ht, within⟩)
        fun behind => (mem_tokens_back cut).2 ⟨ht, behind⟩
    · rintro (ht | ht)
      · exact (mem_tokens_front.1 ht).1
      · exact ((mem_tokens_back cut).1 ht).1

theorem tokens_append (cut : CutsNoPair a b)
    (apart : ∀ t ∈ tokens (a ++ b), t.stop ≤ a.toByteArray.size ∨ a.toByteArray.size ≤ t.start) :
    tokens (a ++ b) = tokens a ++ tokensBehind a b := by
  have all := filter_tokens_append (p := fun _ => true) cut fun t ht _ => apart t ht
  simpa only [List.filter_true] using all

end

/-! ## Filled texts of two parts -/

section

variable {text : String} {c n : Nat} {values : Values} {style : Style}

/-- Filling copies the text in front of the first token, if there is one. -/
theorem fillFrom_front {ts : List Token} (values : Values) (style : Style) (row : Row text n ts)
    (hc : Boundary text c) (le : c ≤ n) : fillFrom text.toByteArray values style c ts =
      slice text.toByteArray c n ++ fillFrom text.toByteArray values style n ts := by
  rw [fillFrom_eq values style row hc le, fillFrom_eq values style row row.boundary (Nat.le_refl n),
    slice_self row.boundary, String.empty_append]

/-- Tokens without a value may as well not be there. -/
theorem fillFrom_filter (bytes : ByteArray) (values : Values) (style : Style) (c : Nat)
    (ts : List Token) : fillFrom bytes values style c (ts.filter fun t => values.contains t.name) =
      fillFrom bytes values style c ts := by
  induction ts generalizing c with
  | nil => rfl
  | cons t rest ih =>
    cases found : values.get? t.name with
    | none => rw [List.filter_cons_of_neg (by simp [Table.contains, found]), ih, fillFrom, found]
    | some value =>
      rw [List.filter_cons_of_pos (by simp [Table.contains, found]), fillFrom, fillFrom, found]
      simp only [ih]

/-- Tokens of a front part of the text are filled in as they are in that part alone. -/
theorem fillFrom_append {front back : ByteArray} {ts us : List Token} (values : Values)
    (style : Style) (parts : text.toByteArray = front ++ back)
    (stands : ∀ t ∈ ts, t.StandsIn text) (within : ∀ t ∈ ts, t.stop ≤ front.size)
    (row : Row text front.size us) (hc : Boundary text c) (le : c ≤ front.size) :
    fillFrom text.toByteArray values style c (ts ++ us) = fillFrom front values style c ts ++
      fillFrom text.toByteArray values style front.size us := by
  induction ts generalizing c with
  | nil =>
    rw [List.nil_append, fillFrom_front values style row hc le, parts,
      slice_append_front (Nat.le_refl _)]
    rfl
  | cons t rest ih =>
    have here := stands t List.mem_cons_self
    have hstop := within t List.mem_cons_self
    have hle := here.le
    have ih {c : Nat} := ih (c := c) (fun t ht => stands t (List.mem_cons_of_mem _ ht))
      (fun t ht => within t (List.mem_cons_of_mem _ ht))
    simp only [List.cons_append, fillFrom]
    cases values.get? t.name with
    | none => exact ih hc le
    | some value =>
      simp only
      rw [ih here.closed hstop, parts, slice_append_front (by omega), String.append_assoc,
        String.append_assoc]

/-- Tokens of a back part of the text are filled in as they are in that part alone. -/
theorem fillFrom_moved {front back : ByteArray} (values : Values) (style : Style) (lines : Nat)
    (c : Nat) (us : List Token) :
    fillFrom (front ++ back) values style (front.size + c)
      (us.map (Token.moved front.size lines)) = fillFrom back values style c us := by
  induction us generalizing c with
  | nil => rw [List.map_nil, fillFrom, ByteArray.size_append, slice_append_back, fillFrom]
  | cons t rest ih =>
    have hstart : (t.moved front.size lines).start = front.size + t.start := Nat.add_comm _ _
    have hstop : (t.moved front.size lines).stop = front.size + t.stop := by
      rw [Token.stop, hstart, Token.stop]
      exact Nat.add_assoc _ _ _
    simp only [List.map_cons, fillFrom, hstart, hstop, ih, slice_append_back]
    rfl

end

section

variable {a b : String} {values : Values} {style : Style} {us : List Token}

theorem tokensBehind_pairwise (a b : String) :
    (tokensBehind a b).Pairwise fun s t => s.stop ≤ t.start := by
  refine List.pairwise_map.2 ((tokens_pairwise b).imp fun {s t} apart => ?_)
  simp only [Token.stop, Token.moved] at apart ⊢
  omega

/-- Some tokens of the second text, in a row behind the first one. -/
theorem row_behind (cut : CutsNoPair a b) (some : us.Sublist (tokensBehind a b)) :
    Row (a ++ b) a.toByteArray.size us := by
  have found : ∀ t ∈ us, t ∈ tokens (a ++ b) ∧ a.toByteArray.size ≤ t.start := fun t ht =>
    (mem_tokens_back cut).1 (some.subset ht)
  exact .of_pairwise (.append a b) (fun t ht => standsIn_of_mem (found t ht).1)
    ((tokensBehind_pairwise a b).sublist some) fun t ht => (found t ht).2

theorem fillFrom_behind (a b : String) (values : Values) (style : Style) :
    fillFrom (a ++ b).toByteArray values style a.toByteArray.size (tokensBehind a b) =
      fill b values style := by
  rw [String.toByteArray_append]
  exact fillFrom_moved values style _ 0 _

/-- Where no token with a value lies across the cut, the two parts are filled each on its own. -/
theorem fill_append (cut : CutsNoPair a b)
    (apart : ∀ t ∈ tokens (a ++ b), values.contains t.name = true →
      t.stop ≤ a.toByteArray.size ∨ a.toByteArray.size ≤ t.start) (style : Style) :
    fill (a ++ b) values style = fill a values style ++ fill b values style := by
  have valued := filter_tokens_append (p := fun t => values.contains t.name) cut apart
  rw [fill, ← fillFrom_filter, valued,
    fillFrom_append values style String.toByteArray_append ?_ ?_
      (row_behind cut List.filter_sublist) (.front _) (Nat.zero_le _), fillFrom_filter,
    fillFrom_filter, fillFrom_behind]
  · rfl
  · exact fun t ht => standsIn_of_mem (mem_tokens_front.1 (List.mem_of_mem_filter ht)).1
  · exact fun t ht => stop_le_size (List.mem_of_mem_filter ht)

end

end Formulary.Template
