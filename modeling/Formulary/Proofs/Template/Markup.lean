import Formulary.Proofs.Table
import Formulary.Proofs.Template.Fill

/-!
What values can do to the markup of a filled text: nothing. A value stands in its span as text, and
its style as an attribute, so that neither opens nor closes a tag. All angle brackets of a filled
text come from the template and from the spans, and where the spans are is settled by the keys alone.
-/

namespace Formulary.Template

open Text

/-- The angle brackets of a text, in order. -/
def angles (s : String) : List Char := s.toList.filter fun c => c == '<' || c == '>'

@[simp] theorem angles_append (s t : String) : angles (s ++ t) = angles s ++ angles t := by
  simp [angles]

theorem angles_join (texts : List String) : angles (String.join texts) = texts.flatMap angles := by
  induction texts with
  | nil => rfl
  | cons s rest ih => rw [String.join_cons, angles_append, ih, List.flatMap_cons]

theorem angles_eq_nil {s : String} (h : ∀ c ∈ s.toList, c ≠ '<' ∧ c ≠ '>') : angles s = [] := by
  refine List.filter_eq_nil_iff.2 fun c hc => ?_
  obtain ⟨hlt, hgt⟩ := h c hc
  simp [hlt, hgt]

theorem angles_escapeText (s : String) : angles (escapeText s) = [] :=
  angles_eq_nil fun _ => ne_of_mem_escapeText

theorem angles_escapeAttribute (s : String) : angles (escapeAttribute s) = [] :=
  angles_eq_nil fun _ hc => (ne_of_mem_escapeAttribute hc).2

/-- A span has the brackets of its two tags, whatever it shows. -/
theorem angles_span (style : Style) (value : String) :
    angles (style.span value) = ['<', '>', '<', '>'] := by
  simp only [Style.span, angles_append, angles_escapeText, angles_escapeAttribute]
  decide

/-- Whether a piece becomes a span hangs on the keys alone, and so do its brackets. -/
theorem angles_filled {values values' : Values}
    (same : ∀ name, name ∈ values.keys ↔ name ∈ values'.keys) (style style' : Style) (piece : Piece) :
    angles (piece.filled values style) = angles (piece.filled values' style') := by
  cases piece with
  | literal text => rfl
  | placeholder t source =>
    have known := same t.name
    rw [Table.mem_keys_iff, Table.mem_keys_iff] at known
    cases hv : values.get? t.name with
    | none =>
      cases hv' : values'.get? t.name with
      | none => simp only [Piece.filled, hv, hv']
      | some value' =>
        obtain ⟨value, hvalue⟩ := known.2 ⟨value', hv'⟩
        cases hv.symm.trans hvalue
    | some value =>
      obtain ⟨value', hvalue'⟩ := known.1 ⟨value, hv⟩
      simp only [Piece.filled, hv, hvalue', angles_span]

theorem angles_fill {values values' : Values}
    (same : ∀ name, name ∈ values.keys ↔ name ∈ values'.keys) (html : String)
    (style style' : Style) :
    angles (fill html values style) = angles (fill html values' style') := by
  simp only [fill_eq_filled, angles_join, List.flatMap_map, angles_filled same style style']

/-- Every placeholder with a value gives way to a span that the value cannot get out of, and that
tells the value and its style again. So the angle brackets of a filled text are the same for all
values of the same names, in any style. -/
theorem values_inject_no_markup (html : String) (style : Style) (values : Values) :
    fill html values style = String.join ((pieces html).map (Piece.filled values style)) ∧
    (∀ t source value, values.get? t.name = some value →
      ∃ quoted text, (Piece.placeholder t source).filled values style =
          "<span style=\"" ++ quoted ++ "\">" ++ text ++ "</span>" ∧
        (∀ c ∈ quoted.toList, c ≠ '"' ∧ c ≠ '<' ∧ c ≠ '>') ∧
        (∀ c ∈ text.toList, c ≠ '<' ∧ c ≠ '>') ∧
        unescape quoted = style.highlight ∧
        unescape text = if value = "" then style.sentinel else value) ∧
    ∀ (values' : Values) (style' : Style), (∀ name, name ∈ values.keys ↔ name ∈ values'.keys) →
      angles (fill html values style) = angles (fill html values' style') := by
  refine ⟨fill_eq_filled html values style, fun t source value hvalue => ?_,
    fun values' style' same => angles_fill same html style style'⟩
  refine ⟨escapeAttribute style.highlight,
    escapeText (if value = "" then style.sentinel else value), ?_, fun c => ne_of_mem_escapeAttribute,
    fun c => ne_of_mem_escapeText, unescape_escapeAttribute _, unescape_escapeText _⟩
  simp only [Piece.filled, hvalue]
  exact span_eq style value

/-- A value that is written like markup, and no value at all. -/
theorem values_inject_no_markup_script :
    let script : Values := Table.ofList [("nome", "</span><script>&lt;\"\x7b\x7bpai\x7d\x7d")]
    let blank : Values := Table.ofList [("nome", "")]
    let html := "<p>\x7b\x7bnome\x7d\x7d</p>"
    let token : Piece := .placeholder ⟨"nome", 3, 8, 1⟩ "\x7b\x7bnome\x7d\x7d"
    (∃ quoted text, token.filled script .standard =
        "<span style=\"" ++ quoted ++ "\">" ++ text ++ "</span>" ∧
      (∀ c ∈ quoted.toList, c ≠ '"' ∧ c ≠ '<' ∧ c ≠ '>') ∧ (∀ c ∈ text.toList, c ≠ '<' ∧ c ≠ '>') ∧
      unescape quoted = "font-weight: bold;" ∧
      unescape text = "</span><script>&lt;\"\x7b\x7bpai\x7d\x7d") ∧
    (∀ name, name ∈ script.keys ↔ name ∈ blank.keys) ∧
    angles (fill html script .standard) = angles (fill html blank .standard) := by
  intro script blank html token
  have same : ∀ name, name ∈ script.keys ↔ name ∈ blank.keys := fun name => Iff.rfl
  obtain ⟨-, spans, apart⟩ := values_inject_no_markup html .standard script
  exact ⟨spans ⟨"nome", 3, 8, 1⟩ "\x7b\x7bnome\x7d\x7d" _ rfl, same, apart blank .standard same⟩

end Formulary.Template
