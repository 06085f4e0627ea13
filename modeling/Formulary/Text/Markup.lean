/-!
Text and attribute values inside HTML. What stands for itself in markup is written as an entity, and
nothing else is touched, so that the written form can be read back.
-/

namespace Formulary.Text

/-- The written form of a character between tags. -/
def escapeTextChar : Char → List Char
  | '&' => ['&', 'a', 'm', 'p', ';']
  | '<' => ['&', 'l', 't', ';']
  | '>' => ['&', 'g', 't', ';']
  | c => [c]

def escapeAttributeChar : Char → List Char
  | '"' => ['&', 'q', 'u', 'o', 't', ';']
  | c => escapeTextChar c

/-- A value as text between tags. -/
def escapeText (s : String) : String := String.ofList (s.toList.flatMap escapeTextChar)

/-- A value inside a double-quoted attribute. -/
def escapeAttribute (s : String) : String := String.ofList (s.toList.flatMap escapeAttributeChar)

/-- Reads the four entities back; an ampersand that starts none of them stands for itself. -/
def unescapeChars : List Char → List Char
  | [] => []
  | '&' :: 'a' :: 'm' :: 'p' :: ';' :: s => '&' :: unescapeChars s
  | '&' :: 'l' :: 't' :: ';' :: s => '<' :: unescapeChars s
  | '&' :: 'g' :: 't' :: ';' :: s => '>' :: unescapeChars s
  | '&' :: 'q' :: 'u' :: 'o' :: 't' :: ';' :: s => '"' :: unescapeChars s
  | c :: s => c :: unescapeChars s

def unescape (s : String) : String := String.ofList (unescapeChars s.toList)

theorem unescapeChars_escapeAttributeChar_append (c : Char) (s : List Char) :
    unescapeChars (escapeAttributeChar c ++ s) = c :: unescapeChars s := by
  unfold escapeAttributeChar
  split
  · rfl
  · unfold escapeTextChar
    split
    · rfl
    · rfl
    · rfl
    · next h _ _ =>
      simp only [List.singleton_append]
      rw [unescapeChars.eq_def]
      split <;> simp_all

theorem unescapeChars_escapeTextChar_append (c : Char) (s : List Char) :
    unescapeChars (escapeTextChar c ++ s) = c :: unescapeChars s := by
  by_cases h : c = '"'
  · subst h; rfl
  · have attribute_eq : escapeAttributeChar c = escapeTextChar c := by
      unfold escapeAttributeChar
      split
      · contradiction
      · rfl
    rw [← attribute_eq]
    exact unescapeChars_escapeAttributeChar_append c s

/-- What is undone for each character is undone for all of them. -/
theorem unescapeChars_flatMap {escape : Char → List Char}
    (undone : ∀ c s, unescapeChars (escape c ++ s) = c :: unescapeChars s) (s : List Char) :
    unescapeChars (s.flatMap escape) = s := by
  induction s with
  | nil => rfl
  | cons c s ih => rw [List.flatMap_cons, undone, ih]

theorem unescape_escapeText (s : String) : unescape (escapeText s) = s := by
  simp only [unescape, escapeText, String.toList_ofList,
    unescapeChars_flatMap unescapeChars_escapeTextChar_append, String.ofList_toList]

theorem unescape_escapeAttribute (s : String) : unescape (escapeAttribute s) = s := by
  simp only [unescape, escapeAttribute, String.toList_ofList,
    unescapeChars_flatMap unescapeChars_escapeAttributeChar_append, String.ofList_toList]

theorem ne_of_mem_escapeTextChar {c d : Char} (h : d ∈ escapeTextChar c) : d ≠ '<' ∧ d ≠ '>' := by
  unfold escapeTextChar at h
  split at h
  · revert d; simp
  · revert d; simp
  · revert d; simp
  · next hlt hgt =>
    rw [List.mem_singleton.1 h]
    exact ⟨hlt, hgt⟩

theorem ne_of_mem_escapeAttributeChar {c d : Char} (h : d ∈ escapeAttributeChar c) :
    d ≠ '"' ∧ d ≠ '<' ∧ d ≠ '>' := by
  unfold escapeAttributeChar at h
  split at h
  · revert d; simp
  · next hquote =>
    refine ⟨?_, ne_of_mem_escapeTextChar h⟩
    unfold escapeTextChar at h
    split at h
    · revert d; simp
    · revert d; simp
    · revert d; simp
    · rw [List.mem_singleton.1 h]
      exact hquote

theorem ne_of_mem_escapeText {s : String} {c : Char} (h : c ∈ (escapeText s).toList) :
    c ≠ '<' ∧ c ≠ '>' := by
  rw [escapeText, String.toList_ofList] at h
  obtain ⟨_, _, hc⟩ := List.mem_flatMap.1 h
  exact ne_of_mem_escapeTextChar hc

/-- An attribute holds no angle bracket, and no quote that would end it. -/
theorem ne_of_mem_escapeAttribute {s : String} {c : Char} (h : c ∈ (escapeAttribute s).toList) :
    c ≠ '"' ∧ c ≠ '<' ∧ c ≠ '>' := by
  rw [escapeAttribute, String.toList_ofList] at h
  obtain ⟨_, _, hc⟩ := List.mem_flatMap.1 h
  exact ne_of_mem_escapeAttributeChar hc

end Formulary.Text
