import Formulary.Proofs.Number.Rounding

/-!
Binary arithmetic on numbers without a sign. Its results are exact results rounded once, as long as
these stay below the limit of the format, and infinite from there on; so it keeps the order of its
operands.
-/

namespace Formulary.Number.Binary

variable {f : Format} {a b c x y : Rat}

/-! ## Results -/

theorem round_of_nonneg (nonneg : 0 ≤ x) : (round x : Binary f) =
    if 2 ^ f.limit ≤ nearestOnGrid f x then .infinity false else .number (nearestOnGrid f x) := by
  simp only [round, pow2_eq_zpow, Rat.abs_of_nonneg nonneg, not_lt.2 nonneg, if_false,
    decide_false]
  split
  · next zero =>
    have above : ¬ (2 : Rat) ^ f.limit ≤ 0 := not_le.2 (zpow_two_pos f.limit)
    rw [zero, nearestOnGrid_zero, if_neg above]
  split
  · rfl
  split
  · next zero => rw [zero]
  · rfl

theorem round_cases (nonneg : 0 ≤ x) : (round x : Binary f) = .infinity false ∨
    (round x : Binary f) = .number (nearestOnGrid f x) ∧ nearestOnGrid f x < 2 ^ f.limit := by
  rw [round_of_nonneg nonneg]
  split
  · exact .inl rfl
  · next below => exact .inr ⟨rfl, not_le.1 below⟩

theorem round_of_holds (nonneg : 0 ≤ x) (h : f.Holds x) (lt : x < 2 ^ f.limit) :
    (round x : Binary f) = .number x := by
  rw [round_of_nonneg nonneg, nearestOnGrid_of_holds h, if_neg (not_le.2 lt)]

theorem round_natCast {n : Nat} (lt : n < 2 ^ f.precision) (fine : f.finest ≤ 0)
    (limit : f.precision ≤ f.limit) : (round n : Binary f) = .number n := by
  have below : (n : Rat) < 2 ^ f.limit := calc
    (n : Rat) < 2 ^ f.precision := by exact_mod_cast lt
    _ = (2 : Rat) ^ (f.precision : Int) := (zpow_natCast _ _).symm
    _ ≤ 2 ^ f.limit := zpow_le_zpow_right₀ one_le_two limit
  exact round_of_holds n.cast_nonneg (holds_natCast lt fine) below

theorem ofNat_eq_number {n : Nat} (lt : n < 2 ^ f.precision) (fine : f.finest ≤ 0)
    (limit : f.precision ≤ f.limit) : (Scalar.ofNat n : Binary f) = .number n := by
  have exact : (Scalar.ofNat n : Binary f) = round n :=
    congrArg round (by simp : (n : Rat) / ((Nat.pow 10 0 : Nat) : Rat) = n)
  rw [exact, round_natCast lt fine limit]

theorem number_add_number (a b : Rat) : (.number a + .number b : Binary f) = round (a + b) := rfl

theorem number_sub_number (hb : b ≠ 0) :
    (.number a - .number b : Binary f) = round (a - b) := by
  change add (.number a) (if b = 0 then .negativeZero else .number (-b)) = _
  rw [if_neg hb, sub_eq_add_neg]
  rfl

theorem number_sub_zero (a : Rat) : (.number a - .number 0 : Binary f) = .number a := rfl

theorem number_mul_number (ha : 0 ≤ a) (hb : 0 ≤ b) :
    (.number a * .number b : Binary f) = round (a * b) := by
  have signs : (decide (a < 0) != decide (b < 0)) = false := by
    rw [decide_eq_false (not_lt.2 ha), decide_eq_false (not_lt.2 hb)]
    rfl
  change (if a * b = 0 then signedZero (decide (a < 0) != decide (b < 0)) else round (a * b)) = _
  split
  · next zero => rw [signs, zero]; rfl
  · rfl

theorem number_div_number (ha : 0 ≤ a) (hb : 0 < b) :
    (.number a / .number b : Binary f) = round (a / b) := by
  have signs : (decide (a < 0) != decide (b < 0)) = false := by
    rw [decide_eq_false (not_lt.2 ha), decide_eq_false (not_lt.2 hb.le)]
    rfl
  change (if b = 0 then _ else if a = 0 then signedZero (decide (a < 0) != decide (b < 0))
    else round (a / b)) = _
  rw [if_neg hb.ne']
  split
  · next zero => rw [signs, zero, zero_div]; rfl
  · rfl

theorem number_div_zero (ha : 0 < a) :
    (.number a / .number 0 : Binary f) = .infinity false := by
  have signs : (decide (a < 0) != decide ((0 : Rat) < 0)) = false := by
    rw [decide_eq_false (not_lt.2 ha.le), decide_eq_false (lt_irrefl _)]
    rfl
  change (if a = 0 then nan else infinity (decide (a < 0) != decide ((0 : Rat) < 0))) = _
  rw [if_neg ha.ne', signs]

theorem number_mul_infinity (ha : 0 < a) :
    (.number a * .infinity false : Binary f) = .infinity false := by
  change (if some a = some 0 then nan else infinity (decide (a < 0) != false)) = _
  rw [if_neg (by simpa using ha.ne'), decide_eq_false (not_lt.2 ha.le)]
  rfl

theorem zero_mul_infinity : (.number 0 * .infinity false : Binary f) = .nan := rfl

theorem infinity_sub_number (b : Rat) :
    (.infinity false - .number b : Binary f) = .infinity false := by
  change add (.infinity false) (if b = 0 then .negativeZero else .number (-b)) = _
  split <;> rfl

theorem infinity_mul_number (ha : 0 < a) :
    (.infinity false * .number a : Binary f) = .infinity false := by
  change (if some a = some 0 then nan else infinity (false != decide (a < 0))) = _
  rw [if_neg (by simpa using ha.ne'), decide_eq_false (not_lt.2 ha.le)]
  rfl

theorem infinity_mul_infinity :
    (.infinity false * .infinity false : Binary f) = .infinity false := rfl

theorem infinity_div_number (ha : 0 < a) :
    (.infinity false / .number a : Binary f) = .infinity false := by
  change infinity (false != decide (a < 0)) = _
  rw [decide_eq_false (not_lt.2 ha.le)]
  rfl

theorem least_number (a b : Rat) :
    (Scalar.least (.number a) (.number b) : Binary f) = .number (min a b) := by
  change (if decide (b < a) = true then Binary.number b else Binary.number a : Binary f) = _
  split
  · next less => rw [min_eq_right (of_decide_eq_true less).le]
  · next less => rw [min_eq_left (not_lt.1 fun lt => less (decide_eq_true lt))]

/-! ## Order -/

/-- Neither value has a sign, and the first is not above the second. -/
inductive UnsignedLe : Binary f → Binary f → Prop
  | numbers {a b : Rat} : 0 ≤ a → a ≤ b → UnsignedLe (.number a) (.number b)
  | infinite {a : Rat} : 0 ≤ a → UnsignedLe (.number a) (.infinity false)
  | infinities : UnsignedLe (.infinity false) (.infinity false)

theorem round_mono (precision : 1 ≤ f.precision) (nonneg : 0 ≤ x) (le : x ≤ y) :
    UnsignedLe (round x : Binary f) (round y) := by
  have mono := nearestOnGrid_mono (f := f) precision nonneg le
  have grid := nearestOnGrid_nonneg (f := f) nonneg
  rw [round_of_nonneg nonneg, round_of_nonneg (nonneg.trans le)]
  split
  · next above =>
    rw [if_pos (above.trans mono)]
    exact .infinities
  · split
    · exact .infinite grid
    · exact .numbers grid mono

theorem mul_number_mono {u v : Binary f} (precision : 1 ≤ f.precision) (h : UnsignedLe u v)
    (hc : 0 < c) : UnsignedLe (u * .number c) (v * .number c) := by
  cases h with
  | numbers ha le =>
    rw [number_mul_number ha hc.le, number_mul_number (ha.trans le) hc.le]
    exact round_mono precision (mul_nonneg ha hc.le) (mul_le_mul_of_nonneg_right le hc.le)
  | infinite ha =>
    have product := mul_nonneg ha hc.le
    rw [number_mul_number ha hc.le, infinity_mul_number hc]
    rcases round_cases (f := f) product with infinite | ⟨number, -⟩
    · rw [infinite]
      exact .infinities
    · rw [number]
      exact .infinite (nearestOnGrid_nonneg product)
  | infinities =>
    rw [infinity_mul_number hc]
    exact .infinities

/-! ## Bounds -/

/-- The value is not above the bound. -/
def AtMost (u : Binary f) (bound : Rat) : Prop := (Binary.number bound).less u = false

theorem atMost_number : (Binary.number x : Binary f).AtMost c ↔ x ≤ c := by
  change decide (c < x) = false ↔ x ≤ c
  rw [decide_eq_false_iff_not, not_lt]

theorem atMost_negativeZero (nonneg : 0 ≤ c) : (negativeZero : Binary f).AtMost c :=
  decide_eq_false (not_lt.2 nonneg)

theorem not_atMost_infinity : ¬ (infinity false : Binary f).AtMost c := fun h => by cases h

theorem atMost_round (precision : 1 ≤ f.precision) (nonneg : 0 ≤ c) (h : f.Holds c)
    (below : c < 2 ^ f.limit) (le : x ≤ c) : (round x : Binary f).AtMost c := by
  rcases le_or_gt 0 x with unsigned | negative
  · have grid := nearestOnGrid_le_of_holds precision unsigned le h
    rw [round_of_nonneg unsigned, if_neg (not_le.2 (grid.trans_lt below))]
    exact atMost_number.2 grid
  · have magnitude : 0 ≤ x.abs := by
      rw [Rat.abs_of_nonpos negative.le]
      linarith
    have grid := nearestOnGrid_nonneg (f := f) magnitude
    simp only [round, negative, negative.ne, if_true, if_false, decide_true]
    split
    · rfl
    split
    · exact atMost_negativeZero nonneg
    · exact atMost_number.2 (by linarith)

theorem atMost_ceil {u : Binary f} {n : Nat} (precision : 1 ≤ f.precision)
    (h : f.Holds n) (below : (n : Rat) < 2 ^ f.limit) (le : u.AtMost n) :
    (Scalar.ceil u).AtMost n := by
  cases u with
  | number v =>
    change (whole v.ceil v).AtMost n
    have ceil : v.ceil ≤ (n : Int) := Rat.ceil_le_iff.2 (by exact_mod_cast atMost_number.1 le)
    rw [whole]
    split
    · cases decide (v < 0)
      · exact atMost_number.2 n.cast_nonneg
      · exact atMost_negativeZero n.cast_nonneg
    · exact atMost_round precision n.cast_nonneg h below (by exact_mod_cast ceil)
  | negativeZero => exact le
  | infinity => exact le
  | nan => exact le

theorem atMost_greatest {u v : Binary f} (hu : u.AtMost c) (hv : v.AtMost c) :
    (Scalar.greatest u v).AtMost c := by
  change (if u = nan then v else if u.less v then v else u).AtMost c
  split_ifs <;> assumption

theorem toNatWithin_le {u : Binary f} {bound n : Nat} (le : u.AtMost n) :
    Scalar.toNatWithin bound u ≤ n := by
  cases u with
  | number v =>
    have floor : v.floor ≤ ((n : Int) : Rat).floor :=
      Rat.floor_monotone (by exact_mod_cast atMost_number.1 le)
    rw [Rat.floor_intCast] at floor
    change min v.floor.toNat bound ≤ n
    omega
  | negativeZero => exact Nat.zero_le n
  | infinity negative =>
    cases negative
    · exact absurd le not_atMost_infinity
    · exact Nat.zero_le n
  | nan => exact Nat.zero_le n

/-- Next to one, the greater value is at least one. -/
theorem one_le_toNatWithin_greatest {u : Binary f} {bound : Nat} (pos : 1 ≤ bound) :
    1 ≤ Scalar.toNatWithin bound (Scalar.greatest u (.number 1)) := by
  have one : Scalar.toNatWithin bound (.number 1 : Binary f) = min 1 bound := rfl
  change 1 ≤ Scalar.toNatWithin bound (if u = nan then .number 1 else
    if u.less (.number 1) then .number 1 else u)
  split_ifs with none less
  · omega
  · omega
  · cases u with
    | number v =>
      have le : (1 : Rat) ≤ v := not_lt.1 fun lt => less (decide_eq_true lt)
      have le : (1 : Int) ≤ v.floor := Rat.le_floor_iff.2 (by exact_mod_cast le)
      change 1 ≤ min v.floor.toNat bound
      omega
    | negativeZero => exact absurd (decide_eq_true (one_pos (α := Rat))) less
    | infinity negative =>
      cases negative
      · exact pos
      · exact absurd rfl less
    | nan => exact absurd rfl none

end Formulary.Number.Binary
