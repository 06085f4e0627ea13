import Formulary.Proofs.Table
import Formulary.Proofs.Template.Cut
import Formulary.Text.Search

/-!
Filling in stages. A value that has been filled in holds no brace, but braces on either side of it
may now stand for a placeholder around it. The name of such a placeholder holds the markup of the
value, so that values whose names hold no such markup leave it as it is. Around each value that the
first stage fills in, the text may then be cut, and the second stage fills the parts on their own.
-/

namespace Formulary.Template

open Scanner Text

/-! ## Texts without braces -/

/-- The text holds no brace. -/
def Braceless (s : String) : Prop := '\x7b' ∉ s.toList ∧ '\x7d' ∉ s.toList

instance (s : String) : Decidable (Braceless s) := inferInstanceAs (Decidable (_ ∧ _))

namespace Braceless

variable {s s' : String}

theorem append (h : Braceless s) (h' : Braceless s') : Braceless (s ++ s') := by
  simp only [Braceless, String.toList_append, List.mem_append, not_or]
  exact ⟨⟨h.1, h'.1⟩, h.2, h'.2⟩

theorem ne_openBrace (h : Braceless s) (p : Nat) : s.toByteArray[p]? ≠ some openBrace :=
  fun found => h.1 (mem_toList_of_single (c := '\x7b') rfl found)

theorem ne_closeBrace (h : Braceless s) (p : Nat) : s.toByteArray[p]? ≠ some closeBrace :=
  fun found => h.2 (mem_toList_of_single (c := '\x7d') rfl found)

/-- A text that is written character by character has no brace of its own if no character's written
form has one. -/
theorem ofList_flatMap {escape : Char → List Char}
    (own : ∀ c d, d ∈ escape c → d = c ∨ d ≠ '\x7b' ∧ d ≠ '\x7d') (h : Braceless s) :
    Braceless (String.ofList (s.toList.flatMap escape)) := by
  simp only [Braceless, String.toList_ofList, List.mem_flatMap, not_exists, not_and]
  constructor
  · intro c hc written
    rcases own c _ written with rfl | ⟨ne, -⟩
    · exact h.1 hc
    · exact ne rfl
  · intro c hc written
    rcases own c _ written with rfl | ⟨-, ne⟩
    · exact h.2 hc
    · exact ne rfl

end Braceless

theorem eq_or_ne_of_mem_escapeTextChar (c d : Char) (h : d ∈ escapeTextChar c) :
    d = c ∨ d ≠ '\x7b' ∧ d ≠ '\x7d' := by
  unfold escapeTextChar at h
  split at h
  · exact .inr (by revert d; simp)
  · exact .inr (by revert d; simp)
  · exact .inr (by revert d; simp)
  · exact .inl (List.mem_singleton.1 h)

theorem eq_or_ne_of_mem_escapeAttributeChar (c d : Char) (h : d ∈ escapeAttributeChar c) :
    d = c ∨ d ≠ '\x7b' ∧ d ≠ '\x7d' := by
  unfold escapeAttributeChar at h
  split at h
  · exact .inr (by revert d; simp)
  · exact eq_or_ne_of_mem_escapeTextChar _ d h

theorem braceless_span {style : Style} {value : String} (highlight : Braceless style.highlight)
    (sentinel : Braceless style.sentinel) (clean : Braceless value) :
    Braceless (style.span value) := by
  have shown : Braceless (if value.isEmpty then style.sentinel else value) := by
    split
    · exact sentinel
    · exact clean
  have quoted := highlight.ofList_flatMap eq_or_ne_of_mem_escapeAttributeChar
  have content := shown.ofList_flatMap eq_or_ne_of_mem_escapeTextChar
  have front : Braceless "<span style=\"" := by decide
  have between : Braceless "\">" := by decide
  have back : Braceless "</span>" := by decide
  exact (((front.append quoted).append between).append content).append back

/-! ## Braces around a part without them -/

section

variable {a b w : String} {t : Token} {c : UInt8} {p lo hi : Nat}

theorem Braceless.behind (clean : Braceless w) (brace : c = openBrace ∨ c = closeBrace)
    (found : (w ++ b).toByteArray[p]? = some c) : w.toByteArray.size ≤ p := by
  by_contra lt
  rw [String.toByteArray_append, getElem?_append_front (by omega)] at found
  rcases brace with rfl | rfl
  · exact clean.ne_openBrace p found
  · exact clean.ne_closeBrace p found

/-- The braces of a text stand in front of such a part or behind it. -/
theorem Braceless.outside (clean : Braceless w) (brace : c = openBrace ∨ c = closeBrace)
    (found : (a ++ (w ++ b)).toByteArray[p]? = some c) :
    p < a.toByteArray.size ∨ a.toByteArray.size + w.toByteArray.size ≤ p := by
  rcases Nat.lt_or_ge p a.toByteArray.size with inFront | notInFront
  · exact .inl inFront
  · obtain ⟨q, rfl⟩ := Nat.exists_eq_add_of_le notInFront
    rw [String.toByteArray_append, getElem?_append_back] at found
    exact .inr (Nat.add_le_add_left (clean.behind brace found) _)

theorem toByteArray_size_pos (h : w ≠ "") : 0 < w.toByteArray.size := by
  rw [String.size_toByteArray]
  exact Nat.pos_of_ne_zero fun h' => h (String.utf8ByteSize_eq_zero_iff.1 h')

theorem cutsNoPair_front (clean : Braceless w) (ne : w ≠ "") (a b : String) :
    CutsNoPair a (w ++ b) := by
  intro p hp pair
  have pos := toByteArray_size_pos ne
  have := clean.outside (.inl rfl) pair.2
  omega

theorem cutsNoPair_back (clean : Braceless w) (b : String) : CutsNoPair w b := by
  intro p hp pair
  have := clean.behind (.inl rfl) pair.1
  omega

theorem occursIn_middle (s w s' : String) : occursIn w (s ++ (w ++ s')) = true := by
  refine (occursInChars_iff _ _).2 ⟨s.toList, s'.toList, ?_⟩
  rw [String.toList_append, String.toList_append, List.append_assoc]

theorem occursIn_slice (hlo : Boundary (a ++ (w ++ b)) lo) (hhi : Boundary (a ++ (w ++ b)) hi)
    (le : lo ≤ a.toByteArray.size) (le' : a.toByteArray.size + w.toByteArray.size ≤ hi) :
    occursIn w (slice (a ++ (w ++ b)).toByteArray lo hi) = true := by
  have front := Boundary.append a (w ++ b)
  have back : Boundary (a ++ (w ++ b)) (a.toByteArray.size + w.toByteArray.size) := by
    have := Boundary.append (a ++ w) b
    rwa [String.append_assoc, String.toByteArray_append, ByteArray.size_append] at this
  have part : slice (a ++ (w ++ b)).toByteArray a.toByteArray.size
      (a.toByteArray.size + w.toByteArray.size) = w := by
    rw [String.toByteArray_append]
    refine (slice_append_back 0 _).trans ?_
    rw [String.toByteArray_append, slice_append_front (Nat.le_refl _), slice_whole]
  rw [← slice_append_slice hlo front hhi le (by omega),
    ← slice_append_slice front back hhi (Nat.le_add_right _ _) le', part]
  exact occursIn_middle _ w _

/-- A token that lies across the front of a part without braces has all of the part in its name. -/
theorem occursIn_of_across (clean : Braceless w) (ne : w ≠ "") (ht : t ∈ tokens (a ++ (w ++ b)))
    (before : t.start < a.toByteArray.size) (behind : a.toByteArray.size < t.stop) :
    occursIn w t.name = true := by
  obtain ⟨e, here, marks⟩ := placeholderAt_of_mem ht
  have pos := toByteArray_size_pos ne
  have stop := here.stop_eq marks
  have opens := clean.outside (.inl rfl) here.opensAt.pair.2
  have closes := clean.outside (.inr rfl) here.closes.1
  have closes' := clean.outside (.inr rfl) here.closes.2
  obtain ⟨opened, closed, name⟩ := name_eq_slice here marks
  rw [name]
  exact occursIn_slice opened closed (by omega) (by omega)

end

/-! ## Filling around a part without braces -/

section

variable {text w : String} {values : Values}

/-- Without a value for any of its tokens a text stays as it is. -/
theorem fill_eq_self (none : ∀ t ∈ tokens text, values.get? t.name = none) (style : Style) :
    fill text values style = text := by
  have noValue : (tokens text).filter (fun t => values.contains t.name) = [] :=
    List.filter_eq_nil_iff.2 fun t ht => by simp [Table.contains, none t ht]
  rw [fill, ← fillFrom_filter, noValue]
  exact slice_whole text

theorem tokens_eq_nil (clean : Braceless w) : tokens w = [] := by
  refine List.eq_nil_iff_forall_not_mem.2 fun t ht => ?_
  obtain ⟨e, here, -⟩ := placeholderAt_of_mem ht
  exact clean.ne_openBrace _ here.opensAt.pair.1

/-- A part without braces, which no name of a value holds, stays as it is, and what is on either
side of it is filled in on its own. -/
theorem fill_around (clean : Braceless w) (ne : w ≠ "")
    (unnamed : ∀ name ∈ values.keys, occursIn w name = false) (a b : String) (style : Style) :
    fill (a ++ (w ++ b)) values style = fill a values style ++ (w ++ fill b values style) := by
  have part : fill w values style = w := fill_eq_self (by simp [tokens_eq_nil clean]) style
  rw [fill_append (cutsNoPair_front clean ne a b) ?_ style,
    fill_append (cutsNoPair_back clean b) ?_ style, part]
  · intro t ht _
    obtain ⟨e, here, -⟩ := placeholderAt_of_mem ht
    exact .inr (clean.behind (.inl rfl) here.opensAt.pair.1)
  · intro t ht valued
    by_contra across
    have held := occursIn_of_across clean ne ht (by omega) (by omega)
    have named := unnamed t.name (Table.mem_keys_iff.2 (Option.isSome_iff_exists.1 valued))
    rw [held] at named
    cases named

end

/-! ## Filling around a token -/

section

variable {a b m : String} {t : Token}

/-- A text may be cut behind a token. -/
theorem fill_behind (ht : t ∈ tokens (a ++ b)) (stop : t.stop = a.toByteArray.size)
    (values : Values) (style : Style) :
    fill (a ++ b) values style = fill a values style ++ fill b values style := by
  obtain ⟨e, here, marks⟩ := placeholderAt_of_mem ht
  have last := here.stop_eq marks
  refine fill_append (fun p hp pair => ?_) (fun t' ht' _ => ?_) style
  · obtain rfl : p = e + 1 := by omega
    exact openBrace_ne_closeBrace pair.1 here.closes.2 rfl
  · rcases eq_or_apart ht ht' with rfl | apart | apart
    · exact .inl (Nat.le_of_eq stop)
    · exact .inr (stop ▸ apart)
    · have := start_add_four_le_stop ht
      exact .inl (by omega)

theorem tokens_ending (ht : t ∈ tokens (a ++ m)) (start : t.start = a.toByteArray.size)
    (stop : t.stop = (a ++ m).toByteArray.size) : tokens (a ++ m) = tokens a ++ [t] := by
  have four := start_add_four_le_stop ht
  refine eq_of_sorted (tokens_sorted _) ?_ fun t' => ?_
  · refine List.pairwise_append.2 ⟨tokens_sorted a, List.pairwise_singleton _ _, ?_⟩
    intro s hs t' ht'
    obtain rfl := List.mem_singleton.1 ht'
    have := start_add_four_le_stop hs
    have := stop_le_size hs
    omega
  · rw [List.mem_append, List.mem_singleton]
    constructor
    · intro ht'
      have within := stop_le_size ht'
      have four' := start_add_four_le_stop ht'
      rcases eq_or_apart ht ht' with same | apart | apart
      · exact .inr same.symm
      · omega
      · exact .inl (mem_tokens_front.2 ⟨ht', by omega⟩)
    · rintro (ht' | rfl)
      · exact (mem_tokens_front.1 ht').1
      · exact ht

theorem fill_ending (ht : t ∈ tokens (a ++ m)) (start : t.start = a.toByteArray.size)
    (stop : t.stop = (a ++ m).toByteArray.size) {values : Values} {value : String}
    (found : values.get? t.name = some value) (style : Style) :
    fill (a ++ m) values style = fill a values style ++ style.span value := by
  have stands := standsIn_of_mem ht
  have row : Row (a ++ m) a.toByteArray.size [t] :=
    .cons (.append a m) (Nat.le_of_eq start.symm) stands (.nil stands.closed)
  have inFront : ∀ t' ∈ tokens a, t' ∈ tokens (a ++ m) := fun t' ht' => (mem_tokens_front.1 ht').1
  rw [fill, tokens_ending ht start stop, fillFrom_append values style String.toByteArray_append
    (fun t' ht' => standsIn_of_mem (inFront t' ht')) (fun _ => stop_le_size) row (.front _)
    (Nat.zero_le _), fillFrom, found]
  simp only [fillFrom]
  rw [start, slice_self (.append a m), stop, slice_self (.back _), String.empty_append,
    String.append_empty]
  rfl

end

/-- Around a token the text falls into two shorter ones, and where the token has a value, these are
filled in each on its own. -/
theorem exists_fill_eq {html : String} {t : Token} (ht : t ∈ tokens html) :
    ∃ a b : String, a.toByteArray.size < html.toByteArray.size ∧
      b.toByteArray.size < html.toByteArray.size ∧
      ∀ (values : Values) (style : Style) (value : String), values.get? t.name = some value →
        fill html values style =
          fill a values style ++ (style.span value ++ fill b values style) := by
  have stands := standsIn_of_mem ht
  obtain ⟨a, m, b, rfl, start, stop⟩ := exists_parts stands.opened stands.closed stands.le
  have four := start_add_four_le_stop ht
  have inFront : t ∈ tokens (a ++ m) := mem_tokens_front.2 ⟨ht, Nat.le_of_eq stop.symm⟩
  have size : (a ++ m ++ b).toByteArray.size =
      (a ++ m).toByteArray.size + b.toByteArray.size := by
    rw [String.toByteArray_append, ByteArray.size_append]
  refine ⟨a, b, by omega, by omega, fun values style value found => ?_⟩
  rw [fill_behind ht stop.symm, fill_ending inFront start.symm stop.symm found,
    String.append_assoc]

/-! ## Two stages -/

section

variable {first second both : Values} {style : Style}

theorem occursIn_span {value name : String} (h : occursIn (style.span value) name = true) :
    occursIn "<span style=\"" name = true := by
  obtain ⟨before, after, eq⟩ := (occursInChars_iff _ _).1 h
  simp only [Style.span, String.toList_append, List.append_assoc] at eq
  exact (occursInChars_iff _ _).2 ⟨before, _, eq.trans (List.append_assoc _ _ _).symm⟩

theorem span_ne_empty (style : Style) (value : String) : style.span value ≠ "" := by
  intro h
  have length := congrArg String.length h
  simp [Style.span, String.length_append] at length

theorem fill_fill (highlight : Braceless style.highlight) (sentinel : Braceless style.sentinel)
    (clean : ∀ name value, first.get? name = some value → Braceless value)
    (unnamed : ∀ name ∈ second.keys, occursIn "<span style=\"" name = false)
    (layered : ∀ name, both.get? name = (first.get? name).or (second.get? name)) (html : String) :
    fill (fill html first style) second style = fill html both style := by
  induction size : html.toByteArray.size using Nat.strong_induction_on generalizing html with
  | _ n ih =>
    subst size
    by_cases found : ∃ t ∈ tokens html, ∃ value, first.get? t.name = some value
    · obtain ⟨t, ht, value, hvalue⟩ := found
      obtain ⟨a, b, shorter, shorter', parts⟩ := exists_fill_eq ht
      have inBoth : both.get? t.name = some value := by rw [layered, hvalue, Option.some_or]
      have spanClean := braceless_span highlight sentinel (clean _ _ hvalue)
      have spanUnnamed : ∀ name ∈ second.keys, occursIn (style.span value) name = false := by
        intro name hn
        cases held : occursIn (style.span value) name with
        | false => rfl
        | true => exact (occursIn_span held).symm.trans (unnamed name hn)
      rw [parts first style value hvalue, parts both style value inBoth,
        fill_around spanClean (span_ne_empty style value) spanUnnamed, ih _ shorter a rfl,
        ih _ shorter' b rfl]
    · -- The first stage changes nothing, and where a token has a value, the second stage has it.
      have none : ∀ t ∈ tokens html, first.get? t.name = none := fun t ht =>
        Option.eq_none_iff_forall_ne_some.2 fun value hv => found ⟨t, ht, value, hv⟩
      rw [fill_eq_self none]
      refine fill_congr (fun t ht => ?_) style
      rw [layered, none t ht, Option.none_or]

end

/-- Filling in two stages is filling at once with the values of both, those of the first stage laid
over those of the second, as long as the first stage writes no braces and no name of the second one
holds the front of a span. In particular filling again with the same values changes nothing. -/
theorem fill_in_stages (html : String) (first second both : Values) (style : Style)
    (highlight : Braceless style.highlight) (sentinel : Braceless style.sentinel)
    (clean : ∀ name value, first.get? name = some value → Braceless value)
    (unnamed : ∀ name ∈ second.keys, occursIn "<span style=\"" name = false)
    (layered : ∀ name, both.get? name = (first.get? name).or (second.get? name)) :
    fill (fill html first style) second style = fill html both style ∧
    ((∀ name ∈ first.keys, occursIn "<span style=\"" name = false) →
      fill (fill html first style) first style = fill html first style) := by
  refine ⟨fill_fill highlight sentinel clean unnamed layered html, fun unnamed' => ?_⟩
  exact fill_fill highlight sentinel clean unnamed' (fun name => (Option.or_self).symm) html

/-- The first stage closes a name in braces around its value, which the second stage then reads as a
placeholder, but has no value for. -/
theorem fill_in_stages_around_value :
    let html := "\x7b\x7bx \x7b\x7ba\x7d\x7d y\x7d\x7d \x7b\x7bb\x7d\x7d"
    let first : Values := Table.ofList [("a", "1")]
    let second : Values := Table.ofList [("b", "\x7b\x7ba\x7d\x7d"), ("a", "2")]
    let between := fill html first .standard
    (tokens html).map Token.name = ["a", "b"] ∧
    (tokens between).map Token.name =
      ["x <span style=\"font-weight: bold;\">1</span> y", "b"] ∧
    Braceless Style.standard.highlight ∧ Braceless Style.standard.sentinel ∧
    (∀ name value, first.get? name = some value → Braceless value) ∧
    (∀ name ∈ second.keys, occursIn "<span style=\"" name = false) ∧
    (∀ name, (second.merge first).get? name = (first.get? name).or (second.get? name)) ∧
    fill between second .standard = fill html (second.merge first) .standard ∧
    fill between first .standard = between := by
  intro html first second between
  have highlight : Braceless Style.standard.highlight := by decide
  have sentinel : Braceless Style.standard.sentinel := by decide
  have clean : ∀ name value, first.get? name = some value → Braceless value := by
    intro name value found
    have entry : (name, value) ∈ [("a", "1")] := Table.get?_eq_some_iff.1 found
    obtain ⟨rfl, rfl⟩ := Prod.mk.inj (List.mem_singleton.1 entry)
    decide
  have unnamed : ∀ name ∈ second.keys, occursIn "<span style=\"" name = false := by decide
  have layered := Table.get?_merge second first
  obtain ⟨stages, again⟩ :=
    fill_in_stages html first second _ .standard highlight sentinel clean unnamed layered
  exact ⟨by decide +kernel, by decide +kernel, highlight, sentinel, clean, unnamed, layered, stages,
    again (by decide)⟩

end Formulary.Template
