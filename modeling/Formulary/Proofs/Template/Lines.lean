import Formulary.Proofs.Template.Cut
import Formulary.Proofs.Template.Reading

/-!
Texts on separate lines keep out of each other's way. No placeholder reaches across the end of a
line, so that a text may be cut before it and behind it. The placeholders of two texts with the end
of a line between them are those of the first and those of the second, and both readings and filled
texts are put together from those of the two.
-/

namespace Formulary.Template

open Scanner Text

/-! ## Cuts at the end of a line -/

section

variable (a b : String)

theorem newline_last : (a ++ "\n").toByteArray[a.toByteArray.size]? = some newline := by
  rw [String.toByteArray_append]
  exact (getElem?_append_back 0).trans rfl

theorem size_line : (a ++ "\n").toByteArray.size = a.toByteArray.size + 1 := by
  rw [String.toByteArray_append, ByteArray.size_append]
  rfl

/-- The end of the line, between the texts. -/
theorem newline_between :
    (a ++ "\n" ++ b).toByteArray[a.toByteArray.size]? = some newline := by
  have within : a.toByteArray.size < (a ++ "\n").toByteArray.size := by
    rw [size_line]
    exact Nat.lt_succ_self _
  rw [String.toByteArray_append, getElem?_append_front within]
  exact newline_last a

theorem newlines_line : newlines (a ++ "\n") = newlines a + 1 := by
  rw [newlines, newlines, String.toByteArray_append, ByteArray.data_append, Array.toList_append,
    List.count_append]
  rfl

theorem cutsNoPair_before : CutsNoPair a "\n" := by
  intro p hp pair
  have last := pair.2
  rw [hp, newline_last] at last
  exact absurd last (by decide)

theorem cutsNoPair_behind : CutsNoPair (a ++ "\n") b := by
  intro p hp pair
  rw [size_line] at hp
  obtain rfl : p = a.toByteArray.size := by omega
  exact absurd ((newline_between a b).symm.trans pair.1) (by decide)

end

section

variable {a b : String} {q : Nat} {t : Token}

/-- Neither the braces nor the name of a token hold the end of a line. -/
theorem apart_of_newline {text : String} (found : text.toByteArray[q]? = some newline)
    (ht : t ∈ tokens text) : t.stop ≤ q ∨ q < t.start := by
  obtain ⟨e, here, marks⟩ := placeholderAt_of_mem ht
  obtain ⟨opens, closed, clean⟩ := placeholderAt_iff.1 here
  have other {p : Nat} {c : UInt8} (there : text.toByteArray[p]? = some c) (hc : c ≠ newline) :
      p ≠ q := by
    rintro rfl
    exact hc (Option.some.inj (there.symm.trans found))
  have := other opens.pair.1 (by decide)
  have := other opens.pair.2 (by decide)
  have := other closed.pair.1 (by decide)
  have := other closed.pair.2 (by decide)
  have stop := here.stop_eq marks
  by_contra across
  exact clean.oneLine q (by omega) (by omega) found

theorem apart_before (ht : t ∈ tokens (a ++ "\n")) :
    t.stop ≤ a.toByteArray.size ∨ a.toByteArray.size ≤ t.start :=
  (apart_of_newline (newline_last a) ht).imp_right Nat.le_of_lt

theorem apart_behind (ht : t ∈ tokens (a ++ "\n" ++ b)) :
    t.stop ≤ (a ++ "\n").toByteArray.size ∨ (a ++ "\n").toByteArray.size ≤ t.start := by
  have := apart_of_newline (newline_between a b) ht
  rw [size_line]
  omega

end

/-! ## Tokens -/

/-- The issue as it is some octets and lines further on. -/
def Issue.moved (octets lines : Nat) : Issue → Issue
  | nameless offset line => nameless (offset + octets) (line + lines)

section

variable (a b : String)

theorem tokens_newline : tokens "\n" = [] := by decide +kernel

/-- The end of its line adds no token to a text. -/
theorem tokens_line : tokens (a ++ "\n") = tokens a := by
  have none : tokensBehind a "\n" = [] := List.map_eq_nil_iff.2 tokens_newline
  rw [tokens_append (cutsNoPair_before a) fun _ => apart_before, none, List.append_nil]

/-- The tokens are those of the first text and then those of the second. -/
theorem tokens_lines :
    tokens (a ++ "\n" ++ b) = tokens a ++ tokensBehind (a ++ "\n") b := by
  rw [tokens_append (cutsNoPair_behind a b) fun _ => apart_behind, tokens_line]

end

/-! ## Readings -/

section

variable (a b : String)

theorem scan_names_lines :
    (scan (a ++ "\n" ++ b)).names = distinct ((scan a).names ++ (scan b).names) := by
  -- Names and namelessness stay when a token is moved.
  have named : (tokensBehind (a ++ "\n") b).filter (fun t => !t.isNameless) =
      ((tokens b).filter fun t => !t.isNameless).map
        (Token.moved (a ++ "\n").toByteArray.size (newlines (a ++ "\n"))) := List.filter_map
  have names : ((tokensBehind (a ++ "\n") b).filter fun t => !t.isNameless).map Token.name =
      ((tokens b).filter fun t => !t.isNameless).map Token.name := by
    rw [named, List.map_map]
    rfl
  simp only [scan, tokens_lines, List.filter_append, List.map_append, names]
  exact distinct_append _ _

theorem scan_issues_lines : (scan (a ++ "\n" ++ b)).issues = (scan a).issues ++
    (scan b).issues.map (Issue.moved (a.toByteArray.size + 1) (newlines a + 1)) := by
  have nameless : (tokensBehind (a ++ "\n") b).filter Token.isNameless =
      ((tokens b).filter Token.isNameless).map
        (Token.moved (a ++ "\n").toByteArray.size (newlines (a ++ "\n"))) := List.filter_map
  simp only [scan, tokens_lines, List.filter_append, List.map_append, nameless, List.map_map,
    size_line, newlines_line]
  rfl

end

/-! ## Filled texts -/

theorem fill_lines (a b : String) (values : Values) (style : Style) :
    fill (a ++ "\n" ++ b) values style =
      fill a values style ++ "\n" ++ fill b values style := by
  have newline : fill "\n" values style = "\n" := by
    rw [fill, tokens_newline]
    exact slice_whole "\n"
  rw [fill_append (cutsNoPair_behind a b) fun _ ht _ => apart_behind ht,
    fill_append (cutsNoPair_before a) fun _ ht _ => apart_before ht, newline]

/-- Lines keep apart. With the end of a line between two texts, filling fills each of them, and a
reading finds the names of both, each once in order of first arrival, and the issues of both, those
of the second as far on as the first text and the end of its line reach. -/
theorem lines_apart (a b : String) :
    (∀ values style, fill (a ++ "\n" ++ b) values style =
      fill a values style ++ "\n" ++ fill b values style) ∧
    (scan (a ++ "\n" ++ b)).names = ((scan a).names ++ (scan b).names).eraseDups ∧
    (scan (a ++ "\n" ++ b)).issues = (scan a).issues ++
      (scan b).issues.map (Issue.moved (a.toByteArray.size + 1) (newlines a + 1)) :=
  ⟨fill_lines a b, (scan_names_lines a b).trans (distinct_eq_eraseDups _), scan_issues_lines a b⟩

example : scan "\x7b\x7ba \x7b\x7b\n\x7b\x7bb\x7d\x7d \x7b\x7b \x7d\x7d" =
    ⟨["b"], [.nameless 13 2]⟩ := by
  decide +kernel

end Formulary.Template
