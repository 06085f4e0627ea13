import Formulary.Number.Arithmetic
import Mathlib.Data.Int.Log
import Mathlib.Data.Rat.Floor
import Mathlib.Tactic.Linarith
import Mathlib.Tactic.FieldSimp
import Mathlib.Tactic.NormNum

/-!
Rounding to the numbers of a binary format. It keeps the order of what it rounds and leaves the
numbers of the format as they are; whole numbers are among these as long as their digits fit. The
operations on numbers without a sign are then the exact ones, each followed by one such rounding.
-/

namespace Formulary.Number

/-! ## Whole numbers -/

section

variable {x y : Rat}

theorem nearestEven_eq_or (x : Rat) : nearestEven x = x.floor ∨ nearestEven x = x.floor + 1 := by
  simp only [nearestEven]
  split
  · exact .inl rfl
  split
  · exact .inr rfl
  split
  · exact .inl rfl
  · exact .inr rfl

theorem nearestEven_intCast (n : Int) : nearestEven n = n := by
  simp only [nearestEven, Rat.floor_intCast, sub_self]
  exact if_pos (by norm_num)

theorem nearestEven_mono (le : x ≤ y) : nearestEven x ≤ nearestEven y := by
  have floors := Rat.floor_monotone le
  rcases lt_or_eq_of_le floors with lt | same
  · rcases nearestEven_eq_or x with hx | hx <;> rcases nearestEven_eq_or y with hy | hy <;> omega
  · -- Between two whole numbers both are held against the same half.
    simp only [nearestEven, ← same]
    have : x - (x.floor : Rat) ≤ y - (x.floor : Rat) := sub_le_sub_right le _
    split_ifs <;> first | omega | linarith

theorem nearestAway_mono (le : x ≤ y) : nearestAway x ≤ nearestAway y := by
  simp only [nearestAway]
  split_ifs with hx hy hy
  · exact Rat.floor_monotone (by linarith)
  · linarith
  · have := Rat.floor_monotone (show (0 : Rat) ≤ y + 1 / 2 by linarith)
    have := Rat.floor_monotone (show (0 : Rat) ≤ 1 / 2 - x by linarith)
    rw [show (0 : Rat).floor = 0 from rfl] at *
    omega
  · have := Rat.floor_monotone (show 1 / 2 - y ≤ 1 / 2 - x by linarith)
    omega

theorem nearestAway_nonneg (nonneg : 0 ≤ x) : 0 ≤ nearestAway x := by
  rw [nearestAway, if_pos nonneg]
  exact Rat.le_floor_iff.2 (by push_cast; linarith)

end

/-! ## Powers of two -/

theorem pow2_eq_zpow (k : Int) : pow2 k = 2 ^ k := by
  cases k with
  | ofNat n => simp [pow2]
  | negSucc n => simp [pow2, zpow_negSucc]

theorem zpow_two_pos (k : Int) : (0 : Rat) < 2 ^ k := zpow_pos (by norm_num) k

/-- The lengths of numerator and denominator bound a positive number from both sides. -/
theorem zpow_lt_and_lt {x : Rat} (pos : 0 < x) :
    (2 : Rat) ^ ((x.num.natAbs.log2 : Int) - (x.den.log2 : Int) - 1) < x ∧
      x < 2 ^ ((x.num.natAbs.log2 : Int) - (x.den.log2 : Int) + 1) := by
  have num : x = (x.num.natAbs : Rat) / x.den := by
    rw [← Int.cast_natCast (x.num.natAbs), Int.natAbs_of_nonneg (Rat.num_pos.2 pos).le,
      Rat.num_div_den]
  have nonzero : x.num.natAbs ≠ 0 := Int.natAbs_ne_zero.2 (Rat.num_pos.2 pos).ne'
  have numLow : (2 : Rat) ^ x.num.natAbs.log2 ≤ x.num.natAbs := by
    exact_mod_cast Nat.log2_self_le nonzero
  have numHigh : (x.num.natAbs : Rat) < 2 ^ (x.num.natAbs.log2 + 1) := by
    exact_mod_cast Nat.lt_log2_self
  have denLow : (2 : Rat) ^ x.den.log2 ≤ x.den := by exact_mod_cast Nat.log2_self_le x.den_nz
  have denHigh : (x.den : Rat) < 2 ^ (x.den.log2 + 1) := by exact_mod_cast Nat.lt_log2_self
  have den : (0 : Rat) < x.den := by exact_mod_cast x.den_pos
  generalize x.num.natAbs.log2 = a at *
  generalize x.den.log2 = b at *
  rw [num]
  constructor
  · rw [lt_div_iff₀ den]
    calc (2 : Rat) ^ ((a : Int) - b - 1) * x.den
      _ < 2 ^ ((a : Int) - b - 1) * 2 ^ (b + 1) := mul_lt_mul_of_pos_left denHigh (zpow_two_pos _)
      _ = 2 ^ a := by
        rw [← zpow_natCast, ← zpow_add₀ two_ne_zero, ← zpow_natCast]
        congr 1
        push_cast
        ring
      _ ≤ x.num.natAbs := numLow
  · rw [div_lt_iff₀ den]
    calc (x.num.natAbs : Rat)
      _ < 2 ^ (a + 1) := numHigh
      _ = 2 ^ ((a : Int) - b + 1) * 2 ^ b := by
        rw [← zpow_natCast, ← zpow_natCast, ← zpow_add₀ two_ne_zero]
        congr 1
        push_cast
        ring
      _ ≤ 2 ^ ((a : Int) - b + 1) * x.den := mul_le_mul_of_nonneg_left denLow (zpow_two_pos _).le

theorem floorLog2_eq_log {x : Rat} (pos : 0 < x) : floorLog2 x = Int.log 2 x := by
  have unique {k : Int} (low : (2 : Rat) ^ k ≤ x) (high : x < 2 ^ (k + 1)) : k = Int.log 2 x := by
    have := (Int.zpow_le_iff_le_log (b := 2) Nat.one_lt_two pos).1 (by exact_mod_cast low)
    have := (Int.lt_zpow_iff_log_lt (b := 2) Nat.one_lt_two pos).1 (by exact_mod_cast high)
    omega
  obtain ⟨low, high⟩ := zpow_lt_and_lt pos
  simp only [floorLog2, pow2_eq_zpow]
  split
  · next le => exact unique le high
  · next lt =>
    refine unique low.le ?_
    rw [sub_add_cancel]
    exact not_le.1 lt

/-! ## The grid of a format -/

section

variable {f : Format} {x y : Rat} {m e : Int}

/-- The number stands on the grid that the numbers of the format around it form. -/
def Format.Holds (f : Format) (x : Rat) : Prop := ∃ m : Int, x = m * 2 ^ gridExponent f x

theorem gridExponent_eq (pos : 0 < x) :
    gridExponent f x = max (Int.log 2 x - (f.precision - 1)) f.finest := by
  rw [gridExponent, floorLog2_eq_log pos]

theorem gridExponent_mono (pos : 0 < x) (le : x ≤ y) : gridExponent f x ≤ gridExponent f y := by
  have := Int.log_mono_right (b := 2) pos le
  rw [gridExponent_eq pos, gridExponent_eq (pos.trans_le le)]
  omega

theorem nearestOnGrid_eq (f : Format) (x : Rat) : nearestOnGrid f x =
    nearestEven (x / 2 ^ gridExponent f x) * 2 ^ gridExponent f x := by
  simp only [nearestOnGrid, pow2_eq_zpow]

theorem nearestOnGrid_zero (f : Format) : nearestOnGrid f 0 = 0 := by
  rw [nearestOnGrid_eq, zero_div, ← Int.cast_zero, nearestEven_intCast, Int.cast_zero, zero_mul]

/-- A multiple of a coarser power of two is a multiple of a finer one. -/
theorem exists_mul_zpow {k : Int} (le : k ≤ e) : ∃ n : Int, (m : Rat) * 2 ^ e = n * 2 ^ k := by
  obtain ⟨d, rfl⟩ := Int.exists_add_of_le le
  refine ⟨m * 2 ^ d, ?_⟩
  rw [zpow_add₀ two_ne_zero, zpow_natCast]
  push_cast
  ring

theorem nearestOnGrid_le (coarse : gridExponent f x ≤ e) (le : x ≤ m * 2 ^ e) :
    nearestOnGrid f x ≤ m * 2 ^ e := by
  obtain ⟨n, hn⟩ := exists_mul_zpow (m := m) coarse
  have unit := zpow_two_pos (gridExponent f x)
  rw [hn] at le ⊢
  rw [nearestOnGrid_eq]
  have := nearestEven_mono ((div_le_iff₀ unit).2 le)
  rw [nearestEven_intCast] at this
  exact mul_le_mul_of_nonneg_right (by exact_mod_cast this) unit.le

theorem le_nearestOnGrid (coarse : gridExponent f x ≤ e) (le : m * 2 ^ e ≤ x) :
    m * 2 ^ e ≤ nearestOnGrid f x := by
  obtain ⟨n, hn⟩ := exists_mul_zpow (m := m) coarse
  have unit := zpow_two_pos (gridExponent f x)
  rw [hn] at le ⊢
  rw [nearestOnGrid_eq]
  have := nearestEven_mono ((le_div_iff₀ unit).2 le)
  rw [nearestEven_intCast] at this
  exact mul_le_mul_of_nonneg_right (by exact_mod_cast this) unit.le

theorem nearestOnGrid_nonneg (nonneg : 0 ≤ x) : 0 ≤ nearestOnGrid f x := by
  have := le_nearestOnGrid (f := f) (x := x) (m := 0) le_rfl (by simpa using nonneg)
  simpa using this

/-! ## Numbers of a format -/

theorem nearestOnGrid_of_holds (h : f.Holds x) : nearestOnGrid f x = x := by
  obtain ⟨m, hm⟩ := h
  have unit := zpow_two_pos (gridExponent f x)
  rw [nearestOnGrid_eq, (div_eq_iff unit.ne').2 hm, nearestEven_intCast, ← hm]

theorem holds_of_coarse (hx : x = m * 2 ^ e) (coarse : gridExponent f x ≤ e) : f.Holds x := by
  obtain ⟨n, hn⟩ := exists_mul_zpow (m := m) coarse
  exact ⟨n, hx.trans hn⟩

theorem holds_zero (f : Format) : f.Holds 0 := ⟨0, by simp⟩

theorem holds_zpow (precision : 1 ≤ f.precision) (fine : f.finest ≤ e) :
    f.Holds (2 ^ e) := by
  refine holds_of_coarse (m := 1) (e := e) (by simp) ?_
  rw [gridExponent_eq (zpow_two_pos e)]
  have log : Int.log 2 (((2 : Nat) : Rat) ^ e) = e := Int.log_zpow Nat.one_lt_two e
  rw [Nat.cast_ofNat] at log
  omega

theorem holds_natCast {n : Nat} (lt : n < 2 ^ f.precision) (fine : f.finest ≤ 0) :
    f.Holds n := by
  rcases Nat.eq_zero_or_pos n with rfl | pos
  · simpa using holds_zero f
  · have pos : (0 : Rat) < n := by exact_mod_cast pos
    refine holds_of_coarse (m := n) (e := 0) (by simp) ?_
    rw [gridExponent_eq pos]
    have := (Int.lt_zpow_iff_log_lt (b := 2) (x := f.precision) Nat.one_lt_two pos).1
      (by exact_mod_cast lt)
    omega

/-- Rounding keeps the order. Where the grid of the greater number is the coarser one, a power of
two stands between the two. -/
theorem nearestOnGrid_mono (precision : 1 ≤ f.precision) (nonneg : 0 ≤ x) (le : x ≤ y) :
    nearestOnGrid f x ≤ nearestOnGrid f y := by
  rcases nonneg.eq_or_lt with rfl | pos
  · rw [nearestOnGrid_zero]
    exact nearestOnGrid_nonneg le
  have pos' := pos.trans_le le
  rcases (gridExponent_mono (f := f) pos le).eq_or_lt with same | finer
  · rw [nearestOnGrid_eq, nearestOnGrid_eq, same]
    have unit := zpow_two_pos (gridExponent f y)
    have := nearestEven_mono (div_le_div_of_nonneg_right le unit.le)
    exact mul_le_mul_of_nonneg_right (by exact_mod_cast this) unit.le
  · have low : (2 : Rat) ^ Int.log 2 y ≤ y :=
      (Int.zpow_le_iff_le_log (b := 2) Nat.one_lt_two pos').2 le_rfl
    rw [gridExponent_eq pos, gridExponent_eq pos'] at finer
    have high : x < (2 : Rat) ^ Int.log 2 y :=
      (Int.lt_zpow_iff_log_lt (b := 2) Nat.one_lt_two pos).2 (by omega)
    have below := nearestOnGrid_le (f := f) (m := 1) (e := Int.log 2 y)
      (by rw [gridExponent_eq pos]; omega) (by simpa using high.le)
    have above := le_nearestOnGrid (f := f) (m := 1) (e := Int.log 2 y)
      (by rw [gridExponent_eq pos']; omega) (by simpa using low)
    exact below.trans above

theorem nearestOnGrid_le_of_holds (precision : 1 ≤ f.precision) (nonneg : 0 ≤ x) (le : x ≤ y)
    (h : f.Holds y) : nearestOnGrid f x ≤ y :=
  (nearestOnGrid_mono precision nonneg le).trans_eq (nearestOnGrid_of_holds h)

theorem le_nearestOnGrid_of_holds (precision : 1 ≤ f.precision) (nonneg : 0 ≤ x) (le : x ≤ y)
    (h : f.Holds x) : x ≤ nearestOnGrid f y :=
  (nearestOnGrid_of_holds h).symm.trans_le (nearestOnGrid_mono precision nonneg le)

/-- What has been rounded is a number of the format. -/
theorem holds_nearestOnGrid (precision : 1 ≤ f.precision) (nonneg : 0 ≤ x) :
    f.Holds (nearestOnGrid f x) := by
  rcases nonneg.eq_or_lt with rfl | pos
  · rw [nearestOnGrid_zero]
    exact holds_zero f
  rcases (nearestOnGrid_nonneg (f := f) nonneg).eq_or_lt with zero | pos'
  · rw [← zero]
    exact holds_zero f
  -- Rounding may go up to the next power of two, but not past it.
  have grid := gridExponent_eq (f := f) pos
  obtain ⟨top, htop⟩ : ∃ top, top = max (Int.log 2 x + 1) (gridExponent f x) := ⟨_, rfl⟩
  have below : x < (2 : Rat) ^ top :=
    (Int.lt_zpow_iff_log_lt (b := 2) Nat.one_lt_two pos).2 (by omega)
  have le : nearestOnGrid f x ≤ 2 ^ top := by
    have := nearestOnGrid_le (f := f) (x := x) (m := 1) (e := top) (by omega)
      (by simpa using below.le)
    simpa using this
  rcases le.eq_or_lt with power | lt
  · rw [power]
    exact holds_zpow precision (by omega)
  · have := (Int.lt_zpow_iff_log_lt (b := 2) Nat.one_lt_two pos').1 (by exact_mod_cast lt)
    refine holds_of_coarse (nearestOnGrid_eq f x) ?_
    rw [gridExponent_eq pos']
    omega

end

end Formulary.Number
