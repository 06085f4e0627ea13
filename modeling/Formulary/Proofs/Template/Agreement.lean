import Formulary.Proofs.Template.Fill
import Formulary.Proofs.Template.Reading

/-!
A reading of a text and its filling go by the same tokens. What a reading has to tell of them is
settled by the tokens alone; where it finds no issue, its names are those that filling asks for, so
that values fill the text by what they say of these names.
-/

namespace Formulary.Template

open Text

/-! ## Names in order -/

/-- Some token with the name `x` stands in front of all those with the name `y`. -/
def FirstBefore (ts : List Token) (x y : String) : Prop :=
  ∃ t ∈ ts, t.name = x ∧ ∀ t' ∈ ts, t'.name = y → t.start < t'.start

theorem FirstBefore.asymm {ts : List Token} {x y : String} (h : FirstBefore ts x y) :
    ¬ FirstBefore ts y x := by
  rintro ⟨t', ht', hy, first'⟩
  obtain ⟨t, ht, hx, first⟩ := h
  exact Nat.lt_asymm (first t' ht' hy) (first' t ht hx)

theorem distinct_concat (names : List String) (name : String) : distinct (names ++ [name]) =
    if name ∈ names then distinct names else distinct names ++ [name] := by
  have added : distinct (names ++ [name]) =
      if name ∈ distinct names then distinct names else distinct names ++ [name] :=
    List.foldl_append
  simpa only [mem_distinct] using added

/-- The names of tokens in order, each once, are in order of first arrival. -/
theorem distinct_in_order {ts : List Token} (sorted : ts.Pairwise fun s t => s.start < t.start) :
    (distinct (ts.map Token.name)).Pairwise (FirstBefore ts) := by
  induction ts using List.reverseRecOn with
  | nil => exact .nil
  | append_singleton ts last ih =>
    obtain ⟨before, -, apart⟩ := List.pairwise_append.1 sorted
    have behind : ∀ t ∈ ts, ∀ t' ∈ [last], t.start < t'.start := apart
    have old : (distinct (ts.map Token.name)).Pairwise (FirstBefore (ts ++ [last])) := by
      refine (ih before).imp ?_
      rintro x y ⟨t, ht, rfl, first⟩
      refine ⟨t, List.mem_append_left _ ht, rfl, fun t' ht' hy => ?_⟩
      exact (List.mem_append.1 ht').elim (fun ht' => first t' ht' hy) (behind t ht t')
    rw [List.map_append, List.map_singleton, distinct_concat]
    split
    · exact old
    · next new =>
      refine List.pairwise_append.2 ⟨old, List.pairwise_singleton _ _, fun x hx y hy => ?_⟩
      obtain rfl := List.mem_singleton.1 hy
      obtain ⟨t, ht, rfl⟩ := List.mem_map.1 (mem_distinct.1 hx)
      refine ⟨t, List.mem_append_left _ ht, rfl, fun t' ht' same => ?_⟩
      -- The last name is new, so that no token in front of it has it.
      refine (List.mem_append.1 ht').elim (fun ht' => ?_) (behind t ht t')
      exact absurd (List.mem_map.2 ⟨t', ht', same⟩) new

/-! ## What a reading tells -/

/-- The reading tells of the tokens of the text: of the names that are not blank, each once in order
of first arrival, and of all tokens without a name, in order with their places. -/
structure Reading.Tells (r : Reading) (html : String) : Prop where
  nodup : r.names.Nodup
  inOrder : r.names.Pairwise (FirstBefore (tokens html))
  mem_names : ∀ name, name ∈ r.names ↔
    (∃ t ∈ tokens html, t.name = name) ∧ ∃ c ∈ name.toList, isBlank c = false
  issues : r.issues = ((tokens html).filter fun t => t.name.toList.all isBlank).map fun t =>
    .nameless t.start (lineAt html.toByteArray t.start)

theorem isNameless_eq_false_iff {t : Token} :
    t.isNameless = false ↔ ∃ c ∈ t.name.toList, isBlank c = false := by
  simp [Token.isNameless, allBlank]

theorem mem_scan_names {html name : String} : name ∈ (scan html).names ↔
    (∃ t ∈ tokens html, t.name = name) ∧ ∃ c ∈ name.toList, isBlank c = false := by
  have named : name ∈ (scan html).names ↔
      ∃ t, t ∈ (tokens html).filter (fun t => !t.isNameless) ∧ t.name = name :=
    mem_distinct.trans List.mem_map
  simp only [named, List.mem_filter, Bool.not_eq_true', isNameless_eq_false_iff]
  constructor
  · rintro ⟨t, ⟨ht, visible⟩, rfl⟩
    exact ⟨⟨t, ht, rfl⟩, visible⟩
  · rintro ⟨⟨t, ht, rfl⟩, visible⟩
    exact ⟨t, ⟨ht, visible⟩, rfl⟩

theorem tells_scan (html : String) : (scan html).Tells html := by
  refine ⟨nodup_scan_names html, ?_, fun name => mem_scan_names, ?_⟩
  · have sorted := (tokens_sorted html).filter fun t => !t.isNameless
    refine (distinct_in_order sorted).imp_of_mem fun {x y} _ hy first => ?_
    obtain ⟨-, visible⟩ := mem_scan_names.1 (show y ∈ (scan html).names from hy)
    obtain ⟨t, ht, hx, first⟩ := first
    refine ⟨t, (List.mem_filter.1 ht).1, hx, fun t' ht' he => first t' ?_ he⟩
    have named := isNameless_eq_false_iff.2 (he ▸ visible)
    exact List.mem_filter.2 ⟨ht', by rw [named]; rfl⟩
  · refine List.map_congr_left fun t ht => ?_
    obtain ⟨e, -, marks⟩ := placeholderAt_of_mem (List.mem_filter.1 ht).1
    rw [marks.line]

/-- There is only one reading that does. -/
theorem Reading.Tells.unique {r r' : Reading} {html : String} (h : r.Tells html)
    (h' : r'.Tells html) : r = r' := by
  obtain ⟨names, issues⟩ := r
  obtain ⟨names', issues'⟩ := r'
  have asymm : Std.Asymm (FirstBefore (tokens html)) := ⟨fun _ _ => FirstBefore.asymm⟩
  have same : names = names' := h.inOrder.eq_of_mem_iff h'.inOrder fun name =>
    (h.mem_names name).trans (h'.mem_names name).symm
  rw [same, show issues = issues' from h.issues.trans h'.issues.symm]

/-! ## Readings and forms -/

theorem extractNames_eq_error_iff {html : String} {issue : Issue} :
    extractNames html = .error issue ↔ (scan html).issues.head? = some issue := by
  unfold extractNames
  split
  · next none => simp [none]
  · next found => simp [found]

theorem extractNames_eq_ok_iff {html : String} {names : List String} :
    extractNames html = .ok names ↔ (scan html).issues = [] ∧ (scan html).names = names := by
  unfold extractNames
  split
  · next none => simp [none]
  · next found => simp [found]

theorem isBlocked_iff {title actType html : String} :
    (Form.ofHtml title actType html).isBlocked = true ↔
      ∃ t ∈ tokens html, ∀ c ∈ t.name.toList, isBlank c = true := by
  simp [Form.isBlocked, Form.issues, Form.ofHtml, scan, Token.isNameless, allBlank]

/-! ## Filling by the names of a reading -/

theorem fill_eq_of_agree {html : String} {values values' : Values}
    (issues : (scan html).issues = [])
    (agree : ∀ name ∈ (scan html).names, values.get? name = values'.get? name) (style : Style) :
    fill html values style = fill html values' style :=
  fill_congr (fun t ht => agree t.name (name_mem_scan ht (isNameless_eq_false issues ht))) style

/-- A reading tells of all tokens of a text and of nothing else. Names are extracted from a text
without issues, and else the first issue is reported; a form has the reading of its text, and is
blocked by a token without a name. Where nothing is at issue, values that agree on the names of the
reading fill the text alike, and values for all of them leave no token in it. -/
theorem readings_agree (html : String) :
    (∀ r : Reading, r.Tells html ↔ r = scan html) ∧
    (∀ issue, extractNames html = .error issue ↔ (scan html).issues.head? = some issue) ∧
    (∀ names, extractNames html = .ok names ↔
      (scan html).issues = [] ∧ (scan html).names = names) ∧
    (∀ title actType, (Form.ofHtml title actType html).reading = scan html ∧
      ((Form.ofHtml title actType html).isBlocked = true ↔
        ∃ t ∈ tokens html, ∀ c ∈ t.name.toList, isBlank c = true)) ∧
    ((scan html).issues = [] →
      (∀ values values' : Values,
        (∀ name ∈ (scan html).names, values.get? name = values'.get? name) →
        ∀ style, fill html values style = fill html values' style) ∧
      ∀ values : Values, (∀ name ∈ (scan html).names, name ∈ values.keys) →
        (∀ t ∈ tokens html, ∃ value, values.get? t.name = some value) ∧
        ∀ style, fill html values style = String.join ((pieces html).map fun
          | .literal text => text
          | .placeholder t _ => style.span ((values.get? t.name).getD ""))) := by
  refine ⟨fun r => ⟨fun h => h.unique (tells_scan html), fun h => h ▸ tells_scan html⟩,
    fun _ => extractNames_eq_error_iff, fun _ => extractNames_eq_ok_iff,
    fun _ _ => ⟨rfl, isBlocked_iff⟩, fun issues => ⟨fun values values' agree style => ?_, ?_⟩⟩
  · exact fill_eq_of_agree issues agree style
  · intro values covers
    have covered {t : Token} := exists_value_of_covers (t := t) issues covers
    exact ⟨fun t => covered, fun style => fill_of_covered (fun t => covered) style⟩

/-- One name twice, and values in another order with one that nothing asks for. -/
theorem readings_agree_name_twice :
    let html := "\x7b\x7bb\x7d\x7d\x7b\x7ba\x7d\x7d\x7b\x7bb\x7d\x7d"
    let values : Values := Table.ofList [("a", "1"), ("b", "")]
    let more : Values := Table.ofList [("x", "9"), ("b", ""), ("a", "1")]
    (scan html).issues = [] ∧ (scan html).names = ["b", "a"] ∧ extractNames html = .ok ["b", "a"] ∧
    (∀ name ∈ (scan html).names, values.get? name = more.get? name) ∧
    fill html values .standard = fill html more .standard ∧
    (∀ name ∈ (scan html).names, name ∈ values.keys) ∧
    (∀ t ∈ tokens html, ∃ value, values.get? t.name = some value) ∧
    fill html values .standard = String.join ((pieces html).map fun
      | .literal text => text
      | .placeholder t _ => Style.standard.span ((values.get? t.name).getD "")) := by
  intro html values more
  have issues : (scan html).issues = [] := by decide +kernel
  have names : (scan html).names = ["b", "a"] := by decide +kernel
  have agree : ∀ name ∈ (scan html).names, values.get? name = more.get? name := by
    rw [names]
    decide
  have covers : ∀ name ∈ (scan html).names, name ∈ values.keys := by
    rw [names]
    decide
  obtain ⟨-, -, extracted, -, filled⟩ := readings_agree html
  obtain ⟨alike, whole⟩ := filled issues
  obtain ⟨covered, shown⟩ := whole values covers
  exact ⟨issues, names, (extracted _).2 ⟨issues, names⟩, agree, alike values more agree .standard,
    covers, covered, shown .standard⟩

end Formulary.Template
