import ValueSchema.Proofs.BigInt.Conversion
import ValueSchema.Proofs.Double.FromText

/-!
Whole numbers that doubles hold exactly.

Rounding leaves a number of the format as it is. A whole number of magnitude up to 2^53 needs no more than the 53 bits there
are, so the double nearest to it is the number itself, and comparing such doubles is comparing the numbers.

Results:
- `roundUnits_of_representable`: numbers of the format are not rounded.
- `rational?_ofInt`: whole numbers up to 2^53.
-/

namespace ValueSchema

theorem roundHalfEven_mul (q : Nat) {den : Nat} (hden : 0 < den) : roundHalfEven (q * den) den = q := by
  simp only [roundHalfEven, Nat.mul_div_cancel q hden, Nat.mul_mod_left]
  rw [if_neg]
  omega

theorem twoPow_lt {m n : Nat} (h : m < n) : twoPow m < twoPow n := Nat.pow_lt_pow_right (by decide) h

namespace Double

/-! ## Rounding -/

/-- **Numbers of the format** are rounded to themselves. -/
theorem roundUnits_of_representable {units : Nat} (h : Representable units) :
    Precision.double.roundUnits units 1 = units := by
  have hspacing : Precision.double.spacing units 1 = units.log2 - 52 := by
    simp only [Precision.spacing, Precision.double, Nat.div_one]
    omega
  obtain ⟨q, hq⟩ := h.2
  have hpos := twoPow_pos (units.log2 - 52)
  rw [Precision.roundUnits, hspacing, Nat.one_mul]
  generalize twoPow (units.log2 - 52) = step at hq hpos
  rw [hq, Nat.mul_comm step q, roundHalfEven_mul q hpos]

/-- up to 2^53 there are bits enough for a whole number -/
theorem representable_mul_one {n : Nat} (h : n ≤ twoPow 53) : Representable (n * one) := by
  have hlt : twoPow (53 + 1074) < twoPow 2098 := twoPow_lt (by decide)
  refine representable_mul_twoPow h (Nat.lt_of_le_of_lt ?_ hlt)
  rw [twoPow_add]
  exact Nat.mul_le_mul_right _ h

/-- **Whole numbers** up to 2^53 are held as they are. -/
theorem ofInt_eq {n : Int} (h : n.natAbs ≤ twoPow 53) :
    ofInt n = .finite (decide (n < 0)) (n.natAbs * one) (representable_mul_one h) := by
  have hceiling : Precision.double.ceiling = ceiling := by rw [Precision.double]
  have hround := roundUnits_of_representable (representable_mul_one h)
  have hlt := (representable_mul_one h).1
  rw [← hceiling] at hlt
  simp only [ofInt, ofRatio, ofUnits, ofUnitsIn, hround]
  rw [dif_pos hlt]

/-! ## Whole numbers -/

theorem signed_natAbs (n : Int) : signed (decide (n < 0)) n.natAbs = n := by
  simp only [signed, decide_eq_true_eq]
  omega

theorem toInt?_ofInt {n : Int} (h : n.natAbs ≤ twoPow 53) : (ofInt n).toInt? = some n := by
  rw [ofInt_eq h, toInt?, Nat.mul_mod_left, if_pos rfl, Nat.mul_div_cancel _ one_pos, signed_natAbs]

theorem rational?_ofInt {n : Int} (h : n.natAbs ≤ twoPow 53) : (ofInt n).rational? = some (n : ℚ) :=
  toInt?_eq_some_iff.1 (toInt?_ofInt h)

theorem isNaN_ofInt (n : Int) : (ofInt n).isNaN = false := by
  have hnan : ofInt n ≠ .nan := by
    rw [ofInt, ofRatio, ofUnits]
    exact ofUnitsIn_ne_nan .double _ _ _
  cases h : ofInt n with
  | nan => exact absurd h hnan
  | finite | infinite => rfl

section

variable {x y : Double} {i j : Int}

theorem place?_of_toInt? (h : x.toInt? = some i) : x.place? = some (i * one) := by
  cases x with
  | nan => cases h
  | infinite negative => cases h
  | finite negative units hunits =>
    simp only [toInt?, Option.ite_none_right_eq_some, Option.some.injEq] at h
    rw [place?, (signed_eq_mul_iff one_pos).2 h]

theorem trunc?_of_toInt? (h : x.toInt? = some i) : x.trunc? = some i := by
  cases x with
  | nan => cases h
  | infinite negative => cases h
  | finite negative units hunits =>
    simp only [toInt?, Option.ite_none_right_eq_some, Option.some.injEq] at h
    rw [trunc?, h.2]

/-- whole numbers are compared as integers -/
theorem numLe_iff_of_toInt? (hx : x.toInt? = some i) (hy : y.toInt? = some j) : x.numLe y = true ↔ i ≤ j := by
  have hone : (0 : Int) < one := Int.natCast_pos.2 one_pos
  simp only [numLe, compareBy, place?_of_toInt? hx, place?_of_toInt? hy, decide_eq_true_eq]
  exact mul_le_mul_iff_left₀ hone

theorem numEq_iff_of_toInt? (hx : x.toInt? = some i) (hy : y.toInt? = some j) : x.numEq y = true ↔ i = j := by
  have hone : (one : Int) ≠ 0 := Int.natCast_ne_zero.2 one_pos.ne'
  simp only [numEq, compareBy, place?_of_toInt? hx, place?_of_toInt? hy, decide_eq_true_eq]
  exact Int.mul_eq_mul_right_iff hone

end

end Double

end ValueSchema
