import Formulary.Proofs.Text.Boundary

/-!
Octets put side by side. What is read, cut or counted within one of two parts is the same within the
whole, where the second part lies as far on as the first is long.
-/

namespace Formulary.Text

variable {x y : ByteArray} {p lo hi : Nat}

theorem getElem?_append_front (h : p < x.size) : (x ++ y)[p]? = x[p]? := by
  have within : p < (x ++ y).size := by
    rw [ByteArray.size_append]
    omega
  rw [getElem?_pos (x ++ y) p within, getElem?_pos x p h, ByteArray.getElem_append_left h]

theorem getElem?_append_back (p : Nat) : (x ++ y)[x.size + p]? = y[p]? := by
  rcases Nat.lt_or_ge p y.size with h | h
  · have within : x.size + p < (x ++ y).size := by
      rw [ByteArray.size_append]
      omega
    rw [getElem?_pos (x ++ y) _ within, getElem?_pos y p h,
      ByteArray.getElem_append_right (Nat.le_add_right _ _)]
    simp only [Nat.add_sub_cancel_left]
  · rw [getElem?_neg y p (Nat.not_lt.2 h), getElem?_neg]
    rw [ByteArray.size_append]
    omega

theorem extract_append_front (h : hi ≤ x.size) : (x ++ y).extract lo hi = x.extract lo hi := by
  have none : y.extract (lo - x.size) 0 = ByteArray.empty :=
    ByteArray.extract_eq_empty_iff.2 (by omega)
  rw [ByteArray.extract_append, Nat.sub_eq_zero_of_le h, none, ByteArray.append_empty]

theorem slice_append_front (h : hi ≤ x.size) : slice (x ++ y) lo hi = slice x lo hi := by
  have within : hi ≤ (x ++ y).size := by
    rw [ByteArray.size_append]
    omega
  simp only [slice, slice?, within, h, and_true, extract_append_front h]

theorem slice_append_back (lo hi : Nat) :
    slice (x ++ y) (x.size + lo) (x.size + hi) = slice y lo hi := by
  simp only [slice, slice?, ByteArray.size_append, Nat.add_le_add_iff_left,
    ByteArray.extract_append_size_add]

/-- What stands between two parts of a text is cut out of it. -/
theorem slice?_middle (a m b : String) :
    slice? (a ++ m ++ b).toByteArray a.toByteArray.size (a ++ m).toByteArray.size = some m := by
  have cut : (a ++ m ++ b).toByteArray.extract a.toByteArray.size (a ++ m).toByteArray.size =
      m.toByteArray := by
    rw [String.toByteArray_append, extract_append_front (Nat.le_refl _), String.toByteArray_append,
      ByteArray.size_append]
    exact ByteArray.extract_append_eq_right rfl rfl
  have within : a.toByteArray.size ≤ (a ++ m).toByteArray.size ∧
      (a ++ m).toByteArray.size ≤ (a ++ m ++ b).toByteArray.size := by
    simp only [String.toByteArray_append, ByteArray.size_append]
    omega
  rw [slice?, if_pos within, cut, String.fromUTF8?, dif_pos m.isValidUTF8]
  rfl

end Formulary.Text
