import Formulary.Text.Slice

/-!
Cuts of a text between characters. Octets that are whole characters stand between two boundaries, a
cut from boundary to boundary keeps the octets as they are, and adjoining cuts make up the cut
around both.
-/

namespace Formulary.Text

/-- The position `p` lies between two characters of `text`, or at one of its ends. -/
def Boundary (text : String) (p : Nat) : Prop := (⟨p⟩ : String.Pos.Raw).IsValid text

namespace Boundary

variable {text : String} {p : Nat}

theorem front (text : String) : Boundary text 0 := by
  refine String.Pos.Raw.isValid_iff_isValidUTF8_extract_zero.2 ⟨by simp [String.Pos.Raw.le_iff], ?_⟩
  rw [ByteArray.extract_same]
  exact ByteArray.isValidUTF8_empty

theorem back (text : String) : Boundary text text.toByteArray.size := by
  refine String.Pos.Raw.isValid_iff_isValidUTF8_extract_zero.2 ⟨by simp [String.Pos.Raw.le_iff], ?_⟩
  rw [ByteArray.extract_zero_size]
  exact text.isValidUTF8

theorem append (a b : String) : Boundary (a ++ b) a.toByteArray.size := by
  have front : (a ++ b).toByteArray.extract 0 a.toByteArray.size = a.toByteArray := by
    rw [String.toByteArray_append]
    exact ByteArray.extract_append_eq_left rfl
  refine String.Pos.Raw.isValid_iff_isValidUTF8_extract_zero.2 ⟨?_, ?_⟩
  · simp [String.Pos.Raw.le_iff]
  · rw [front]
    exact a.isValidUTF8

theorem le_size (h : Boundary text p) : p ≤ text.toByteArray.size := h.le_utf8ByteSize

/-- An octet that is a whole character begins at a boundary. -/
theorem of_single {c : Char} (single : c.utf8Size = 1)
    (found : text.toByteArray[p]? = some c.toUInt8) : Boundary text p := by
  obtain ⟨inText, octet⟩ := getElem_of_getElem? found
  refine String.Pos.Raw.isValid_iff_isUTF8FirstByte.2 (.inr ⟨inText, ?_⟩)
  have leads := UInt8.isUTF8FirstByte_getElem_zero_utf8EncodeChar (c := c)
  simp only [String.utf8EncodeChar_eq_singleton single, List.getElem_cons_zero] at leads
  change (text.toByteArray[p]).IsUTF8FirstByte
  rw [octet]
  exact leads

/-- An octet that is a whole character ends at a boundary. -/
theorem behind_single {c : Char} (single : c.utf8Size = 1)
    (found : text.toByteArray[p]? = some c.toUInt8) : Boundary text (p + 1) := by
  obtain ⟨inText, octet⟩ := getElem_of_getElem? found
  have before := (of_single single found).isValidUTF8_extract_zero
  refine String.Pos.Raw.isValid_iff_isValidUTF8_extract_zero.2 ⟨inText, ?_⟩
  have pushed : text.toByteArray.extract 0 (p + 1) =
      (text.toByteArray.extract 0 p).push c.toUInt8 := by
    rw [ByteArray.extract_eq_extract_append_extract p (by omega) (by omega),
      ByteArray.extract_add_one inText, octet]
    exact ByteArray.append_toByteArray_singleton
  rw [pushed]
  exact before.push single

end Boundary

variable {text : String} {p lo mid hi : Nat}

theorem isValidUTF8_extract (hlo : Boundary text lo) (hhi : Boundary text hi) (le : lo ≤ hi) :
    (text.toByteArray.extract lo hi).IsValidUTF8 :=
  (String.Pos.Raw.isValidUTF8_extract_iff ⟨lo⟩ ⟨hi⟩ le hhi.le_rawEndPos).2 (.inr ⟨hlo, hhi⟩)

/-- A cut between boundaries succeeds. -/
theorem slice?_of_boundary (hlo : Boundary text lo) (hhi : Boundary text hi) (le : lo ≤ hi) :
    slice? text.toByteArray lo hi = some (slice text.toByteArray lo hi) := by
  rw [slice, slice?, if_pos ⟨le, hhi.le_size⟩, String.fromUTF8?,
    dif_pos (isValidUTF8_extract hlo hhi le)]
  rfl

/-- A cut between boundaries is the octets between them. -/
theorem toByteArray_slice (hlo : Boundary text lo) (hhi : Boundary text hi) (le : lo ≤ hi) :
    (slice text.toByteArray lo hi).toByteArray = text.toByteArray.extract lo hi := by
  rw [slice, slice?, if_pos ⟨le, hhi.le_size⟩, String.fromUTF8?,
    dif_pos (isValidUTF8_extract hlo hhi le), Option.getD_some]
  rfl

theorem slice_append_slice (hlo : Boundary text lo) (hmid : Boundary text mid)
    (hhi : Boundary text hi) (le : lo ≤ mid) (le' : mid ≤ hi) :
    slice text.toByteArray lo mid ++ slice text.toByteArray mid hi =
      slice text.toByteArray lo hi := by
  rw [← String.toByteArray_inj, String.toByteArray_append, toByteArray_slice hlo hmid le,
    toByteArray_slice hmid hhi le', toByteArray_slice hlo hhi (Nat.le_trans le le')]
  exact (ByteArray.extract_eq_extract_append_extract mid le le').symm

theorem slice_self (h : Boundary text p) : slice text.toByteArray p p = "" := by
  rw [← String.toByteArray_inj, toByteArray_slice h h (Nat.le_refl p)]
  exact ByteArray.extract_same

theorem slice_whole (text : String) : slice text.toByteArray 0 text.toByteArray.size = text := by
  rw [← String.toByteArray_inj, toByteArray_slice (.front text) (.back text) (Nat.zero_le _)]
  exact ByteArray.extract_zero_size

/-- A text falls into three at two boundaries. -/
theorem exists_parts (hlo : Boundary text lo) (hhi : Boundary text hi) (le : lo ≤ hi) :
    ∃ a m b : String, text = a ++ m ++ b ∧ a.toByteArray.size = lo ∧
      (a ++ m).toByteArray.size = hi := by
  have hback := Boundary.back text
  have upTo {p : Nat} (hp : Boundary text p) : (slice text.toByteArray 0 p).toByteArray.size = p := by
    rw [toByteArray_slice (.front text) hp (Nat.zero_le p), ByteArray.size_extract,
      Nat.min_eq_left hp.le_size, Nat.sub_zero]
  have front := slice_append_slice (.front text) hlo hhi (Nat.zero_le lo) le
  have whole := slice_append_slice (.front text) hhi hback (Nat.zero_le hi) hhi.le_size
  refine ⟨slice text.toByteArray 0 lo, slice text.toByteArray lo hi,
    slice text.toByteArray hi text.toByteArray.size, ?_, upTo hlo, ?_⟩
  · rw [front, whole, slice_whole]
  · rw [front, upTo hhi]

/-- A character that is one octet is in the text where its octet is. -/
theorem mem_toList_of_single {c : Char} (single : c.utf8Size = 1)
    (found : text.toByteArray[p]? = some c.toUInt8) : c ∈ text.toList := by
  have opened := Boundary.of_single single found
  have closed := Boundary.behind_single single found
  obtain ⟨inText, octet⟩ := getElem_of_getElem? found
  have here : slice text.toByteArray p (p + 1) = String.singleton c := by
    rw [← String.toByteArray_inj, toByteArray_slice opened closed (Nat.le_succ p),
      ByteArray.extract_add_one inText, octet, String.toByteArray_singleton,
      List.utf8Encode_singleton, String.utf8EncodeChar_eq_singleton single]
    rfl
  have whole := slice_append_slice opened closed (.back text) (Nat.le_succ p) closed.le_size
  have text_eq := slice_append_slice (.front text) opened (.back text) (Nat.zero_le p) opened.le_size
  rw [← slice_whole text, ← text_eq, ← whole, here]
  simp

end Formulary.Text
