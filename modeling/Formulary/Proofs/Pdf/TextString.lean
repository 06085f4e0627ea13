import Formulary.Pdf.TextString

/-!
Text strings are read back. Every character is one unit that is no surrogate, or a high and a low
surrogate; every unit is two octets; and no octet of ASCII text is one of the mark.
-/

namespace Formulary.Pdf

/-! ## Text in 16-bit units -/

section

variable {c : Char}

/-- No character has the number of a surrogate. -/
theorem toNat_valid (c : Char) : c.toNat < 0xD800 ∨ 0xDFFF < c.toNat ∧ c.toNat < 0x110000 := c.valid

theorem lt_of_mem_units {unit : Nat} (h : unit ∈ units c) : unit < 65536 := by
  have valid := toNat_valid c
  simp only [units] at h
  split at h
  · rw [List.mem_singleton.1 h]
    assumption
  · simp only [List.mem_cons, List.not_mem_nil, or_false] at h
    omega

theorem readUnits_flatMap {us : List Nat} (h : ∀ unit ∈ us, unit < 65536) :
    readUnits (us.flatMap unitOctets) = some us := by
  induction us with
  | nil => rfl
  | cons unit us ih =>
    have bound := h unit List.mem_cons_self
    have later := ih fun unit hu => h unit (List.mem_cons_of_mem _ hu)
    have high : (UInt8.ofNat (unit / 256)).toNat = unit / 256 :=
      Nat.mod_eq_of_lt (show unit / 256 < 256 by omega)
    have low : (UInt8.ofNat (unit % 256)).toNat = unit % 256 :=
      Nat.mod_eq_of_lt (show unit % 256 < 256 by omega)
    have whole : unit / 256 * 256 + unit % 256 = unit := by omega
    rw [List.flatMap_cons, unitOctets, List.cons_append, List.cons_append, List.nil_append,
      readUnits, later, high, low, whole]
    rfl

theorem readChars_units_append (c : Char) (rest : List Nat) :
    readChars (units c ++ rest) = (readChars rest).map (c :: ·) := by
  have valid := toNat_valid c
  by_cases single : c.toNat < 0x10000
  · rw [units, if_pos single, List.cons_append, List.nil_append, readChars.eq_def]
    dsimp only
    rw [if_neg (by omega), if_neg (by omega), Char.ofNat_toNat]
  · have whole : 0x10000 + (0xD800 + (c.toNat - 0x10000) / 0x400 - 0xD800) * 0x400 +
        (0xDC00 + (c.toNat - 0x10000) % 0x400 - 0xDC00) = c.toNat := by omega
    rw [units, if_neg single, List.cons_append, List.cons_append, List.nil_append, readChars,
      if_pos (by omega), if_pos (by omega), whole, Char.ofNat_toNat]

theorem readChars_flatMap (cs : List Char) : readChars (cs.flatMap units) = some cs := by
  induction cs with
  | nil => rfl
  | cons c cs ih =>
    rw [List.flatMap_cons, readChars_units_append, ih]
    rfl

end

/-! ## ASCII text -/

section

variable {cs : List Char}

theorem readAscii_map (h : ∀ c ∈ cs, isAscii c = true) :
    readAscii (cs.map fun c => UInt8.ofNat c.toNat) = some cs := by
  induction cs with
  | nil => rfl
  | cons c cs ih =>
    have ascii : c.toNat < 128 := of_decide_eq_true (h c List.mem_cons_self)
    have later := ih fun c hc => h c (List.mem_cons_of_mem _ hc)
    have value : (UInt8.ofNat c.toNat).toNat = c.toNat :=
      Nat.mod_eq_of_lt (show c.toNat < 256 by omega)
    have small : UInt8.ofNat c.toNat < 128 := by
      rw [UInt8.lt_iff_toNat_lt, value]
      exact ascii
    rw [readAscii] at later ⊢
    simp [List.mapM_cons, small, later, value, Char.ofNat_toNat]

/-- ASCII text does not start like text in 16-bit units. -/
theorem not_mark_prefix_map (h : ∀ c ∈ cs, isAscii c = true) :
    ¬ mark <+: cs.map fun c => UInt8.ofNat c.toNat := by
  intro front
  have first : (0xFE : UInt8) ∈ cs.map fun c => UInt8.ofNat c.toNat :=
    front.subset List.mem_cons_self
  obtain ⟨c, hc, same⟩ := List.mem_map.1 first
  have ascii : c.toNat < 128 := of_decide_eq_true (h c hc)
  have value : c.toNat % 256 = 254 := congrArg UInt8.toNat same
  omega

end

/-! ## Text strings -/

variable {s : String}

/-- The mark tells which of the two forms a text has. -/
theorem mark_prefix_textString_iff :
    mark <+: textString s ↔ ¬ s.toList.all isAscii = true := by
  unfold textString
  split
  · next ascii => simp only [ascii, not_mark_prefix_map (List.all_eq_true.1 ascii), not_true]
  · next other => exact iff_of_true ⟨_, rfl⟩ other

theorem readTextString_textString (s : String) : readTextString (textString s) = some s := by
  by_cases ascii : s.toList.all isAscii = true
  · have unmarked : ¬ mark.isPrefixOf (textString s) = true := by
      rw [List.isPrefixOf_iff_prefix, mark_prefix_textString_iff]
      exact not_not_intro ascii
    rw [readTextString, if_neg unmarked, textString, if_pos ascii,
      readAscii_map (List.all_eq_true.1 ascii), Option.map_some, String.ofList_toList]
  · have marked : mark.isPrefixOf (textString s) = true :=
      List.isPrefixOf_iff_prefix.2 (mark_prefix_textString_iff.2 ascii)
    have short : ∀ unit ∈ s.toList.flatMap units, unit < 65536 := by
      intro unit hu
      obtain ⟨c, -, hc⟩ := List.mem_flatMap.1 hu
      exact lt_of_mem_units hc
    have behind : (textString s).drop mark.length =
        (s.toList.flatMap units).flatMap unitOctets := by
      rw [textString, if_neg ascii]
      rfl
    rw [readTextString, if_pos marked, behind, readUnits_flatMap short, Option.bind_some,
      readChars_flatMap, Option.map_some, String.ofList_toList]

/-- Every text is read back from its text string, so that no two texts have one text string; and the
mark stands in front of just those texts that are not ASCII. -/
theorem text_strings_lossless (s : String) :
    readTextString (textString s) = some s ∧
    (∀ t, textString s = textString t ↔ s = t) ∧
    (mark <+: textString s ↔ ¬ s.toList.all isAscii = true) := by
  refine ⟨readTextString_textString s, fun t => ⟨fun same => ?_, congrArg textString⟩,
    mark_prefix_textString_iff⟩
  have read := readTextString_textString t
  rw [← same, readTextString_textString s] at read
  exact Option.some.inj read

/-- A smiling face is a pair of surrogates. -/
example : textString "ã😀" = [0xFE, 0xFF, 0x00, 0xE3, 0xD8, 0x3D, 0xDE, 0x00] := by decide +kernel

end Formulary.Pdf
