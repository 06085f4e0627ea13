import Formulary.Proofs.Template.Tokens
import Formulary.Template.Fill

/-!
Filling, piece by piece. The tokens of a text cut it into literal text and placeholders in turn. The
filled text is made of the same pieces in the same order: literal text as it is, placeholders
without a value as they are, and a marked-up value for every other placeholder.
-/

namespace Formulary.Template

open Text

/-! ## Tokens in a row -/

/-- The token stands between characters of the text, and its source is its name in braces. -/
structure Token.StandsIn (t : Token) (text : String) : Prop where
  opened : Boundary text t.start
  closed : Boundary text t.stop
  le : t.start ≤ t.stop
  source : slice text.toByteArray t.start t.stop = "\x7b\x7b" ++ t.name ++ "\x7d\x7d"

/-- Two octets that stand side by side are a cut of their own. -/
theorem extract_pair {bytes : ByteArray} {b : UInt8} {p : Nat} (pair : PairAt bytes b p) :
    bytes.extract p (p + 2) = [b, b].toByteArray := by
  obtain ⟨inText, first⟩ := getElem_of_getElem? pair.1
  obtain ⟨inText', second⟩ := getElem_of_getElem? pair.2
  rw [ByteArray.extract_add_two inText', first, second]

theorem standsIn_of_mem {text : String} {t : Token} (ht : t ∈ tokens text) : t.StandsIn text := by
  obtain ⟨e, here, marks⟩ := placeholderAt_of_mem ht
  have hle := here.add_two_le
  have opens := here.opensAt.pair
  have closes := here.closes
  have hstop := here.stop_eq marks
  have opened : Boundary text t.start := .of_single (c := '\x7b') rfl opens.1
  have closed : Boundary text (e + 2) := .behind_single (c := '\x7d') rfl closes.2
  refine ⟨opened, hstop ▸ closed, by omega, ?_⟩
  rw [← String.toByteArray_inj, hstop, toByteArray_slice opened closed (by omega),
    ByteArray.extract_eq_extract_append_extract (t.start + 2) (by omega) (by omega),
    ByteArray.extract_eq_extract_append_extract (i := t.start + 2) e hle (by omega),
    extract_pair opens, extract_pair closes, ← marks.name, String.toByteArray_append,
    String.toByteArray_append, ByteArray.append_assoc]
  rfl

/-- The name of a token stands between characters of the text. -/
theorem name_eq_slice {text : String} {t : Token} {e : Nat}
    (here : PlaceholderAt text.toByteArray t.start e)
    (marks : t.Marks text.toByteArray t.start e) :
    Boundary text (t.start + 2) ∧ Boundary text e ∧
      t.name = slice text.toByteArray (t.start + 2) e := by
  have opened : Boundary text (t.start + 2) :=
    .behind_single (c := '\x7b') rfl here.opensAt.pair.2
  have closed : Boundary text e := .of_single (c := '\x7d') rfl here.closes.1
  refine ⟨opened, closed, ?_⟩
  rw [← String.toByteArray_inj, toByteArray_slice opened closed here.add_two_le]
  exact marks.name

theorem stop_le_size {text : String} {t : Token} (ht : t ∈ tokens text) :
    t.stop ≤ text.toByteArray.size :=
  (standsIn_of_mem ht).closed.le_size

/-- The tokens stand in a row, the first of them at `p` or behind it. -/
inductive Row (text : String) : Nat → List Token → Prop
  | nil {p : Nat} : Boundary text p → Row text p []
  | cons {p : Nat} {t : Token} {rest : List Token} : Boundary text p → p ≤ t.start →
      t.StandsIn text → Row text t.stop rest → Row text p (t :: rest)

theorem Row.boundary {text : String} {p : Nat} {ts : List Token} (h : Row text p ts) :
    Boundary text p := by
  cases h with
  | nil hp => exact hp
  | cons hp _ _ _ => exact hp

theorem Row.of_pairwise {text : String} {p : Nat} {ts : List Token} (hp : Boundary text p)
    (stands : ∀ t ∈ ts, t.StandsIn text) (apart : ts.Pairwise fun a b => a.stop ≤ b.start)
    (behind : ∀ t ∈ ts, p ≤ t.start) : Row text p ts := by
  induction ts generalizing p with
  | nil => exact .nil hp
  | cons t rest ih =>
    obtain ⟨hfirst, hrest⟩ := List.pairwise_cons.1 apart
    have here := stands t List.mem_cons_self
    refine .cons hp (behind t List.mem_cons_self) here ?_
    exact ih here.closed (fun t' ht' => stands t' (List.mem_cons_of_mem t ht')) hrest hfirst

theorem row_tokens (text : String) : Row text 0 (tokens text) :=
  .of_pairwise (.front text) (fun _ => standsIn_of_mem) (tokens_pairwise text)
    fun t _ => Nat.zero_le t.start

/-! ## Pieces -/

/-- The pieces are the octets from `p` on: up to each token, that token, and what is behind the
last one. -/
inductive CutFrom (bytes : ByteArray) : Nat → List Token → List Piece → Prop
  | last {p : Nat} {literal : String} : literal.toByteArray = bytes.extract p bytes.size →
      CutFrom bytes p [] [.literal literal]
  | token {p : Nat} {t : Token} {literal source : String} {rest : List Token}
      {pieces : List Piece} : p ≤ t.start → literal.toByteArray = bytes.extract p t.start →
      source = "\x7b\x7b" ++ t.name ++ "\x7d\x7d" →
      source.toByteArray = bytes.extract t.start t.stop → CutFrom bytes t.stop rest pieces →
      CutFrom bytes p (t :: rest) (.literal literal :: .placeholder t source :: pieces)

variable {text : String} {p : Nat} {ts : List Token}

theorem cutFrom_piecesFrom (h : Row text p ts) :
    CutFrom text.toByteArray p ts (piecesFrom text.toByteArray p ts) := by
  induction h with
  | nil hp => exact .last (toByteArray_slice hp (.back text) hp.le_size)
  | cons hp hle stands _ ih =>
    exact .token hle (toByteArray_slice hp stands.opened hle) stands.source
      (toByteArray_slice stands.opened stands.closed stands.le) ih

/-- The sources of the pieces make up the text. -/
theorem join_source_piecesFrom (h : Row text p ts) :
    String.join ((piecesFrom text.toByteArray p ts).map Piece.source) =
      slice text.toByteArray p text.toByteArray.size := by
  induction h with
  | nil hp => simp only [piecesFrom, List.map_cons, List.map_nil, Piece.source, String.join_cons,
      String.join_nil, String.append_empty]
  | @cons p t rest hp hle stands hrest ih =>
    have hback := hrest.boundary
    simp only [piecesFrom, List.map_cons, Piece.source, String.join_cons, ih]
    rw [slice_append_slice stands.opened hback (.back text) stands.le hback.le_size,
      slice_append_slice hp stands.opened (.back text) hle stands.opened.le_size]

/-- With the cursor at `c` and all text up to `p` still to be copied, filling writes that text and
then the filled pieces from `p` on. -/
theorem fillFrom_eq {c : Nat} (values : Values) (style : Style) (h : Row text p ts)
    (hc : Boundary text c) (le : c ≤ p) :
    fillFrom text.toByteArray values style c ts = slice text.toByteArray c p ++
      String.join ((piecesFrom text.toByteArray p ts).map (Piece.filled values style)) := by
  induction h generalizing c with
  | nil hp =>
    simp only [fillFrom, piecesFrom, List.map_cons, List.map_nil, Piece.filled, String.join_cons,
      String.join_nil, String.append_empty]
    exact (slice_append_slice hc hp (.back text) le hp.le_size).symm
  | @cons p t rest hp hle stands hrest ih =>
    simp only [fillFrom, piecesFrom, List.map_cons, Piece.filled, String.join_cons]
    cases values.get? t.name with
    | none =>
      -- The cursor stays, and the token is copied with the text around it.
      have hle' := stands.le
      rw [ih hc (by omega), ← String.append_assoc, ← String.append_assoc,
        slice_append_slice hc hp stands.opened le hle,
        slice_append_slice hc stands.opened stands.closed (by omega) hle']
    | some value =>
      simp only
      rw [ih stands.closed (Nat.le_refl _), slice_self stands.closed, String.empty_append,
        ← slice_append_slice hc hp stands.opened le hle, String.append_assoc]

theorem fill_eq_filled (html : String) (values : Values) (style : Style) :
    fill html values style = String.join ((pieces html).map (Piece.filled values style)) := by
  have filled := fillFrom_eq values style (row_tokens html) (.front html) (Nat.le_refl 0)
  rwa [slice_self (.front html), String.empty_append] at filled

/-- The placeholders among the pieces are the tokens that the text was cut at. -/
theorem mem_of_placeholder_mem {bytes : ByteArray} {t : Token} {source : String}
    (h : .placeholder t source ∈ piecesFrom bytes p ts) : t ∈ ts := by
  induction ts generalizing p with
  | nil => simp [piecesFrom] at h
  | cons first rest ih =>
    simp only [piecesFrom, List.mem_cons, reduceCtorEq, false_or, Piece.placeholder.injEq] at h
    rcases h with ⟨rfl, -⟩ | h
    · exact List.mem_cons_self
    · exact List.mem_cons_of_mem first (ih h)

/-- Values that agree on the names of the tokens fill the text alike. -/
theorem fill_congr {html : String} {values values' : Values}
    (agree : ∀ t ∈ tokens html, values.get? t.name = values'.get? t.name) (style : Style) :
    fill html values style = fill html values' style := by
  rw [fill_eq_filled, fill_eq_filled]
  refine congrArg String.join (List.map_congr_left fun piece hp => ?_)
  cases piece with
  | literal text => rfl
  | placeholder t source => simp only [Piece.filled, agree t (mem_of_placeholder_mem hp)]

/-- What is filled in is settled by what the values say of the names of the tokens. -/
theorem fill_of_shown {html : String} {values : Values} (shown : String → String)
    (h : ∀ t ∈ tokens html, values.get? t.name = some (shown t.name)) (style : Style) :
    fill html values style = String.join ((pieces html).map fun
      | .literal text => text
      | .placeholder t _ => style.span (shown t.name)) := by
  refine (fill_eq_filled html values style).trans
    (congrArg String.join (List.map_congr_left fun piece hp => ?_))
  cases piece with
  | literal text => rfl
  | placeholder t source => simp only [Piece.filled, h t (mem_of_placeholder_mem hp)]

/-- With a value for each of its tokens, no placeholder is left in the filled text. -/
theorem fill_of_covered {html : String} {values : Values}
    (covered : ∀ t ∈ tokens html, ∃ value, values.get? t.name = some value) (style : Style) :
    fill html values style = String.join ((pieces html).map fun
      | .literal text => text
      | .placeholder t _ => style.span ((values.get? t.name).getD "")) := by
  refine fill_of_shown (fun name => (values.get? name).getD "") (fun t ht => ?_) style
  obtain ⟨value, hvalue⟩ := covered t ht
  simp only [hvalue, Option.getD_some]

theorem span_eq (style : Style) (value : String) :
    style.span value = "<span style=\"" ++ escapeAttribute style.highlight ++ "\">" ++
      escapeText (if value = "" then style.sentinel else value) ++ "</span>" := by
  have shown : (if value.isEmpty then style.sentinel else value) =
      if value = "" then style.sentinel else value := by
    simp only [String.isEmpty_iff]
  exact congrArg (fun shown => "<span style=\"" ++ escapeAttribute style.highlight ++ "\">" ++
    escapeText shown ++ "</span>") shown

/-- The pieces of a text make it up, and the filled text is made of the same pieces, with a
marked-up value in place of each placeholder that has one. -/
theorem fill_eq_join (html : String) (values : Values) (style : Style) :
    CutFrom html.toByteArray 0 (tokens html) (pieces html) ∧
    String.join ((pieces html).map Piece.source) = html ∧
    fill html values style = String.join ((pieces html).map fun
      | .literal text => text
      | .placeholder t source =>
        match values.get? t.name with
        | none => source
        | some value => "<span style=\"" ++ escapeAttribute style.highlight ++ "\">" ++
            escapeText (if value = "" then style.sentinel else value) ++ "</span>") := by
  have row := row_tokens html
  refine ⟨cutFrom_piecesFrom row, ?_, ?_⟩
  · exact (join_source_piecesFrom row).trans (slice_whole html)
  · refine (fill_eq_filled html values style).trans
      (congrArg String.join (List.map_congr_left fun piece _ => ?_))
    cases piece with
    | literal text => rfl
    | placeholder t source =>
      simp only [Piece.filled]
      cases values.get? t.name with
      | none => rfl
      | some value => exact span_eq style value

end Formulary.Template
