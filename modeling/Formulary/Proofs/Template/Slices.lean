import Formulary.Proofs.Template.Fill

/-!
Cuts that cannot fail. The scanner walks over octets and the filling goes by positions, but a name
and the text between placeholders are cut out of a text whose characters may be several octets long.
At every state of a walk the positions that it keeps are in order and inside the text, and those
that something is cut out at stand beside braces, which are whole characters; so every cut that is
made succeeds. This is said by the same reading and the same filling with cuts that may fail.
-/

namespace Formulary.Template

open Text

/-! ## Cuts that may fail -/

/-- The text between two positions. There is none where the positions are out of order, outside the
text or within a character. -/
def cut? (text : String) (lo hi : Nat) : Option String :=
  if lo ≤ hi ∧ (⟨lo⟩ : String.Pos.Raw).IsValid text ∧ (⟨hi⟩ : String.Pos.Raw).IsValid text then
    slice? text.toByteArray lo hi
  else none

theorem cut?_of_boundary {text : String} {lo hi : Nat} (le : lo ≤ hi) (hlo : Boundary text lo)
    (hhi : Boundary text hi) : cut? text lo hi = some (slice text.toByteArray lo hi) := by
  rw [cut?, if_pos ⟨le, hlo, hhi⟩, slice?_of_boundary hlo hhi le]

theorem eq_slice_of_cut? {text cut : String} {lo hi : Nat} (h : cut? text lo hi = some cut) :
    cut = slice text.toByteArray lo hi := by
  unfold cut? at h
  split at h
  · rw [slice, h]
    rfl
  · cases h

/-! ## The walk -/

/-- The scanner after so many steps, if there are as many. -/
def Scanner.after? (bytes : ByteArray) : Nat → Option Scanner
  | 0 => some .start
  | n + 1 => do
    let s ← Scanner.after? bytes n
    let (s', _) ← s.step bytes
    pure s'

/-- A state that the walk over a text comes to. -/
def Scanner.Reached (text : String) (s : Scanner) : Prop :=
  ∃ n, Scanner.after? text.toByteArray n = some s

/-- The positions that a phase keeps are in order, in front of the position `p`. -/
def Phase.InOrder (p : Nat) : Phase → Prop
  | outside => True
  | opening brace => brace < p
  | inside start content _ => start + 2 = content ∧ content ≤ p
  | closing start content brace _ => start + 2 = content ∧ content ≤ brace ∧ brace < p

/-- Reads an octet, where a name is cut out only if that can be done. -/
def Scanner.read? (text : String) (s : Scanner) (b : UInt8) : Option (Scanner × Option Token) :=
  match s.phase with
  | .closing start content brace line =>
    if b = closeBrace then do
      let name ← cut? text content brace
      pure (⟨s.pos + 1, .outside, s.line⟩, some ⟨name, start, s.pos + 1 - start, line⟩)
    else some (s.read text.toByteArray b)
  | _ => some (s.read text.toByteArray b)

namespace Scanner

variable {text : String} {bytes : ByteArray} {s s' : Scanner} {b : UInt8}

/-- Reading goes on by one octet at most, or by two where both of them are opening braces. -/
theorem pos_read (bytes : ByteArray) (s : Scanner) (b : UInt8) :
    (s.read bytes b).1.pos ≤ s.pos + 1 ∨
      bytes[s.pos + 1]? = some openBrace ∧ (s.read bytes b).1.pos = s.pos + 2 := by
  unfold read
  cases s.phase with
  | outside =>
    left
    dsimp only
    split
    · exact Nat.le_refl _
    · split <;> exact Nat.le_refl _
  | opening brace =>
    left
    dsimp only
    split
    · exact Nat.le_refl _
    · exact Nat.le_succ _
  | inside start content line =>
    dsimp only
    split
    · exact .inl (Nat.le_refl _)
    · split
      · next braces => exact .inr ⟨braces.2, rfl⟩
      · left
        split <;> exact Nat.le_refl _
  | closing start content brace line =>
    left
    dsimp only
    split
    · exact Nat.le_refl _
    · exact Nat.le_succ _

/-- A step passes no octet that is not there. -/
theorem pos_le_size_of_step {t : Option Token} (h : s.step bytes = some (s', t)) :
    s'.pos ≤ bytes.size := by
  obtain ⟨b, found, h⟩ := Option.map_eq_some_iff.1 h
  have inText : s.pos < bytes.size := (getElem_of_getElem? found).1
  have read := pos_read bytes s b
  rw [h] at read
  rcases read with one | ⟨next, two⟩
  · exact Nat.le_trans one inText
  · have inText' : s.pos + 1 < bytes.size := (getElem_of_getElem? next).1
    rw [two]
    exact inText'

/-- The scanner is sound, and inside the text. -/
structure Bounded (text : String) (s : Scanner) : Prop where
  sound : s.Sound text.toByteArray
  le_size : s.pos ≤ text.toByteArray.size

theorem bounded_start (text : String) : start.Bounded text :=
  ⟨sound_start text.toByteArray, Nat.zero_le _⟩

theorem Bounded.step {t : Option Token} (hs : s.Bounded text)
    (h : s.step text.toByteArray = some (s', t)) : s'.Bounded text :=
  ⟨(stepsTo_step hs.sound h).1, pos_le_size_of_step h⟩

theorem bounded_of_reached (h : s.Reached text) : s.Bounded text := by
  obtain ⟨n, h⟩ := h
  induction n generalizing s with
  | zero =>
    cases h
    exact bounded_start text
  | succ n ih =>
    obtain ⟨before, hn, h⟩ := Option.bind_eq_some_iff.1 h
    obtain ⟨⟨after, t⟩, hstep, h⟩ := Option.bind_eq_some_iff.1 h
    cases h
    exact (ih hn).step hstep

theorem Bounded.inOrder (h : s.Bounded text) : s.phase.InOrder s.pos := by
  have sound := h.sound.phase
  cases hp : s.phase <;> rw [hp] at sound
  · trivial
  · obtain ⟨hpos, -⟩ := sound
    change _ < _
    omega
  · exact ⟨sound.content_eq.symm, sound.le⟩
  · obtain ⟨hpos, -, goes⟩ := sound
    exact ⟨goes.content_eq.symm, goes.le, by omega⟩

/-- In a state that the walk comes to, a name that is complete can be cut out. -/
theorem Bounded.read?_eq (h : s.Bounded text) (b : UInt8) :
    s.read? text b = some (s.read text.toByteArray b) := by
  unfold read?
  split
  · next start content brace line hp =>
    split
    · next hb =>
      have sound := h.sound.phase
      rw [hp] at sound
      obtain ⟨-, closes, goes⟩ := sound
      obtain ⟨opened, closed⟩ := goes.boundaries closes
      rw [cut?_of_boundary goes.le opened closed]
      simp only [read, hp, if_pos hb]
      rfl
    · rfl
  · rfl

/-! ## Walks with cuts that may fail -/

theorem step_of_read? {r : Scanner × Option Token} (found : text.toByteArray[s.pos]? = some b)
    (h : s.read? text b = some r) : s.step text.toByteArray = some r := by
  rw [step, found, Option.map_some, ← h]
  unfold read? at h ⊢
  split at h
  · next hp =>
    split at h
    · next hb =>
      obtain ⟨name, cut, h⟩ := Option.bind_eq_some_iff.1 h
      rw [if_pos hb, cut, eq_slice_of_cut? cut]
      simp only [read, hp, if_pos hb]
      rfl
    · next hb => rw [if_neg hb]
  · rfl

/-- Walks on to the next placeholder. -/
def next? (text : String) (s : Scanner) : Option (Option Token × Scanner) :=
  match _found : text.toByteArray[s.pos]? with
  | none => some (none, s)
  | some b =>
    match _read : s.read? text b with
    | none => none
    | some (s', some t) => some (some t, s')
    | some (s', none) => s'.next? text
termination_by s.rank text.toByteArray
decreasing_by exact rank_step_lt (step_of_read? _found _read)

theorem rank_next?_lt {t : Token} (h : s.next? text = some (some t, s')) :
    s'.rank text.toByteArray < s.rank text.toByteArray := by
  fun_induction next? text s with
  | case1 => cases h
  | case2 => cases h
  | case3 s b found s' t read =>
    cases h
    exact rank_step_lt (step_of_read? found read)
  | case4 s b found s'' read ih =>
    exact Nat.lt_trans (ih h) (rank_step_lt (step_of_read? found read))

/-- The placeholders that the rest of a walk finds. -/
def tokens? (text : String) (s : Scanner) : Option (List Token) :=
  match _next : s.next? text with
  | none => none
  | some (none, _) => some []
  | some (some t, s') => (t :: ·) <$> s'.tokens? text
termination_by s.rank text.toByteArray
decreasing_by exact rank_next?_lt _next

theorem Bounded.next?_of_step {r : Scanner × Option Token} (hs : s.Bounded text)
    (h : s.step text.toByteArray = some r) : s.next? text =
      match r with
      | (s', some t) => some (some t, s')
      | (s', none) => s'.next? text := by
  obtain ⟨b, found, read⟩ := Option.map_eq_some_iff.1 h
  have again := hs.read?_eq b
  rw [read] at again
  rw [next?]
  split
  · next ended => cases ended.symm.trans found
  · next b' found' =>
    cases found.symm.trans found'
    split
    · next fails => cases again.symm.trans fails
    · next done => cases again.symm.trans done; rfl
    · next goesOn => cases again.symm.trans goesOn; rfl

theorem Bounded.next?_eq (hs : s.Bounded text) :
    s.next? text = some (s.next text.toByteArray) ∧ (s.next text.toByteArray).2.Bounded text := by
  fun_induction next text.toByteArray s with
  | case1 s hstep =>
    have ended : text.toByteArray[s.pos]? = none := Option.map_eq_none_iff.1 hstep
    refine ⟨?_, hs⟩
    rw [next?]
    split
    · rfl
    · next found => cases ended.symm.trans found
  | case2 s s' t hstep => exact ⟨hs.next?_of_step hstep, hs.step hstep⟩
  | case3 s s' hstep ih =>
    rw [hs.next?_of_step hstep]
    exact ih (hs.step hstep)

/-- From a state that the walk comes to, every name on the way can be cut out. -/
theorem Bounded.tokens?_eq (hs : s.Bounded text) :
    s.tokens? text = some (s.tokens text.toByteArray) := by
  fun_induction tokens text.toByteArray s with
  | case1 s ended =>
    obtain ⟨walked, -⟩ := hs.next?_eq
    rw [tokens?]
    split
    · next fails => cases walked.symm.trans fails
    · rfl
    · next t s' goesOn =>
      have same := Option.some.inj (walked.symm.trans goesOn)
      rw [same] at ended
      cases ended
  | case2 s t found ih =>
    obtain ⟨walked, bounded⟩ := hs.next?_eq
    rw [tokens?]
    split
    · next fails => cases walked.symm.trans fails
    · next s' ended =>
      have same := Option.some.inj (walked.symm.trans ended)
      rw [same] at found
      cases found
    · next t' s' goesOn =>
      have same := Option.some.inj (walked.symm.trans goesOn)
      rw [same] at found ih bounded
      cases found
      rw [ih bounded, same]
      rfl

end Scanner

/-! ## Tokens -/

/-- Where the token and its name begin and end there are characters of the text, in this order, and
the name is what is cut out there. -/
structure Token.FitsIn (t : Token) (text : String) : Prop where
  start : Boundary text t.start
  nameStart : Boundary text (t.start + 2)
  nameStop : Boundary text (t.stop - 2)
  stop : Boundary text t.stop
  le : t.start + 4 ≤ t.stop
  le_size : t.stop ≤ text.toByteArray.size
  name : cut? text (t.start + 2) (t.stop - 2) = some t.name

theorem fitsIn_of_mem {text : String} {t : Token} (ht : t ∈ tokens text) : t.FitsIn text := by
  obtain ⟨e, here, marks⟩ := placeholderAt_of_mem ht
  have stands := standsIn_of_mem ht
  have hstop : t.stop - 2 = e := by rw [here.stop_eq marks, Nat.add_sub_cancel]
  obtain ⟨nameStart, nameStop, name⟩ := name_eq_slice here marks
  refine ⟨stands.opened, nameStart, hstop ▸ nameStop, stands.closed, start_add_four_le_stop ht,
    stop_le_size ht, ?_⟩
  rw [hstop, cut?_of_boundary here.add_two_le nameStart nameStop, ← name]

/-! ## Filling -/

/-- Fills the text from `cursor` on, where text is copied only if it can be cut out. -/
def fillFrom? (text : String) (values : Values) (style : Style) (cursor : Nat) :
    List Token → Option String
  | [] => cut? text cursor text.toByteArray.size
  | t :: rest =>
    match values.get? t.name with
    | none => fillFrom? text values style cursor rest
    | some value => do
      let before ← cut? text cursor t.start
      let behind ← fillFrom? text values style t.stop rest
      pure (before ++ (style.span value ++ behind))

/-- The text with every placeholder replaced whose name has a value, if the names and the text
around the placeholders can be cut out. -/
def fill? (html : String) (values : Values) (style : Style) : Option String := do
  let ts ← Scanner.start.tokens? html
  fillFrom? html values style 0 ts

theorem fillFrom?_eq {text : String} {p c : Nat} {ts : List Token} (values : Values)
    (style : Style) (h : Row text p ts) (hc : Boundary text c) (le : c ≤ p) :
    fillFrom? text values style c ts =
      some (fillFrom text.toByteArray values style c ts) := by
  induction h generalizing c with
  | nil hp => exact cut?_of_boundary hc.le_size hc (.back text)
  | cons hp hle stands hrest ih =>
    have hle' := stands.le
    rw [fillFrom?, fillFrom]
    cases values.get? _ with
    | none => exact ih hc (by omega)
    | some value =>
      dsimp only
      rw [cut?_of_boundary (by omega) hc stands.opened, ih stands.closed (Nat.le_refl _)]
      rfl

theorem fill?_eq (html : String) (values : Values) (style : Style) :
    fill? html values style = some (fill html values style) := by
  rw [fill?, (Scanner.bounded_start html).tokens?_eq]
  exact fillFrom?_eq values style (row_tokens html) (.front html) (Nat.le_refl 0)

/-- No cut that is made in a text can fail. At every state of the walk over a text the position is
inside the text, what the phase keeps is in order in front of it, and reading with cuts that may fail
comes to what reading comes to. The tokens stand apart and in order, between characters of the text,
as do their names; and filling with cuts that may fail comes to the filled text, whatever the
values. -/
theorem cuts_succeed (text : String) :
    (∀ s : Scanner, s.Reached text →
      s.pos ≤ text.toByteArray.size ∧ s.phase.InOrder s.pos ∧
      ∀ b, text.toByteArray[s.pos]? = some b →
        s.read? text b = some (s.read text.toByteArray b)) ∧
    (tokens text).Pairwise (fun t t' => t.start < t'.start ∧ t.stop ≤ t'.start) ∧
    (∀ t ∈ tokens text, t.FitsIn text) ∧
    ∀ values style, fill? text values style = some (fill text values style) := by
  refine ⟨fun s reached => ?_, ?_, fun t => fitsIn_of_mem, fill?_eq text⟩
  · have bounded := Scanner.bounded_of_reached reached
    exact ⟨bounded.le_size, bounded.inOrder, fun b _ => bounded.read?_eq b⟩
  · exact (tokens_sorted text).and (tokens_pairwise text)

/-- Letters of two octets in front of a placeholder and within it; the scanner stands at the last
closing brace. -/
theorem cuts_succeed_two_octets :
    let text := "é\x7b\x7bã\x7d\x7d"
    let s : Scanner := ⟨7, .closing 2 4 6 1, 1⟩
    let found : Token := ⟨"ã", 2, 6, 1⟩
    s.Reached text ∧ s.pos ≤ text.toByteArray.size ∧ s.phase.InOrder s.pos ∧
    s.read? text Scanner.closeBrace = some (⟨8, .outside, 1⟩, some found) ∧
    tokens text = [found] ∧ found.FitsIn text ∧
    (tokens text).Pairwise (fun t t' => t.start < t'.start ∧ t.stop ≤ t'.start) ∧
    fill? text (Table.ofList [("ã", "x")]) .standard =
      some "é<span style=\"font-weight: bold;\">x</span>" := by
  intro text s found
  have reached : s.Reached text := ⟨7, by decide +kernel⟩
  have here : text.toByteArray[s.pos]? = some Scanner.closeBrace := by decide +kernel
  have only : tokens text = [found] := by decide +kernel
  obtain ⟨walk, ordered, fits, filled⟩ := cuts_succeed text
  obtain ⟨within, inOrder, reads⟩ := walk s reached
  refine ⟨reached, within, inOrder, ?_, only, fits found ?_, ordered, ?_⟩
  · rw [reads _ here]
    decide +kernel
  · rw [only]
    exact List.mem_singleton_self found
  · rw [filled]
    decide +kernel

end Formulary.Template
