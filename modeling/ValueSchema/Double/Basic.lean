import ValueSchema.Power

/-!
Binary floating-point numbers of double precision, held exactly.

Every finite double is a whole number of units of 2^-1074, so a finite number is a sign and a count of units with at
most 53 significant bits. Arithmetic is exact arithmetic on counts followed by one rounding to the nearest number, a half
going to the even neighbour; nothing here rests on machine floating point.

`Precision.representable_roundUnits`: what the rounding returns is a number of the format.
-/

namespace ValueSchema

namespace Double

/-- the count of units in the number one -/
def one : Nat := twoPow 1074

/-- the least count beyond every finite double, that of 2^1024 -/
def ceiling : Nat := twoPow 2098

/-- a count of units that a double can hold: below the ceiling, with at most 53 significant bits -/
def Representable (units : Nat) : Prop := units < ceiling ∧ twoPow (units.log2 - 52) ∣ units

instance (units : Nat) : Decidable (Representable units) :=
  inferInstanceAs (Decidable (_ ∧ _))

theorem one_pos : 0 < one := twoPow_pos _

theorem ceiling_pos : 0 < ceiling := twoPow_pos _

theorem representable_zero : Representable 0 := ⟨ceiling_pos, Nat.dvd_zero _⟩

/-- few significant bits, shifted anywhere below the ceiling, are representable -/
theorem representable_mul_twoPow {k s : Nat} (hk : k ≤ twoPow 53) (hlt : k * twoPow s < ceiling) :
    Representable (k * twoPow s) := by
  refine ⟨hlt, ?_⟩
  by_cases h0 : k * twoPow s = 0
  · rw [h0]
    exact Nat.dvd_zero _
  · have hle : k * twoPow s ≤ twoPow (53 + s) := by
      rw [twoPow_add]
      exact Nat.mul_le_mul_right _ hk
    rcases Nat.lt_or_eq_of_le hle with h | h
    · have hlog : (k * twoPow s).log2 < 53 + s := (log2_lt_iff h0).2 h
      exact Nat.dvd_trans (twoPow_dvd (by omega)) (Nat.dvd_mul_left _ _)
    · rw [h, log2_twoPow]
      exact twoPow_dvd (by omega)

end Double

/-- a double: not a number, an infinity, or a signed count of units -/
inductive Double where
  | nan
  | infinite (negative : Bool)
  | finite (negative : Bool) (units : Nat) (representable : Double.Representable units)
  deriving DecidableEq

/-- a binary format no finer than doubles: significant bits, exponent of the least unit, count at which numbers overflow -/
structure Precision where
  bits : Nat
  least : Nat
  ceiling : Nat
  bits_le : bits ≤ 53
  ceiling_le : ceiling ≤ Double.ceiling

namespace Precision

/-- 53 bits, down to 2^-1074 -/
def double : Precision where
  bits := 53
  least := 0
  ceiling := Double.ceiling
  bits_le := Nat.le_refl _
  ceiling_le := Nat.le_refl _

/-- 24 bits, down to 2^-149 and below 2^128 -/
def single : Precision where
  bits := 24
  least := 925
  ceiling := twoPow 1202
  bits_le := by decide
  ceiling_le := by decide +kernel

end Precision

/-- the quotient rounded to the nearest whole number, a half to the even one -/
def roundHalfEven (num den : Nat) : Nat :=
  let q := num / den
  let twice := 2 * (num % den)
  if den < twice ∨ (twice = den ∧ q % 2 = 1) then q + 1 else q

theorem roundHalfEven_le {num den bound : Nat} (h : num / den < bound) : roundHalfEven num den ≤ bound := by
  simp only [roundHalfEven]
  split <;> omega

namespace Precision

/-- the exponent of the spacing of numbers around `num / den` units -/
def spacing (p : Precision) (num den : Nat) : Nat := max ((num / den).log2 + 1 - p.bits) p.least

/-- `num / den` units, rounded to the spacing of the format -/
def roundUnits (p : Precision) (num den : Nat) : Nat :=
  roundHalfEven num (den * twoPow (p.spacing num den)) * twoPow (p.spacing num den)

theorem representable_roundUnits (p : Precision) (num den : Nat) (h : p.roundUnits num den < p.ceiling) :
    Double.Representable (p.roundUnits num den) := by
  refine Double.representable_mul_twoPow ?_ (Nat.lt_of_lt_of_le h p.ceiling_le)
  apply roundHalfEven_le
  rw [← Nat.div_div_eq_div_mul, Nat.div_lt_iff_lt_mul (twoPow_pos _), ← twoPow_add]
  by_cases h0 : num / den = 0
  · rw [h0]
    exact twoPow_pos _
  · rw [← log2_lt_iff h0]
    have hb := p.bits_le
    simp only [spacing]
    omega

end Precision

namespace Double

/-- `num / den` units, rounded to a number of the format, of the given sign -/
def ofUnitsIn (p : Precision) (negative : Bool) (num den : Nat) : Double :=
  if h : p.roundUnits num den < p.ceiling then
    .finite negative (p.roundUnits num den) (p.representable_roundUnits num den h)
  else
    .infinite negative

/-- the double nearest to `num / den` units -/
def ofUnits (negative : Bool) (num den : Nat) : Double := ofUnitsIn .double negative num den

/-- the double nearest to `num / den` -/
def ofRatio (negative : Bool) (num den : Nat) : Double := ofUnits negative (num * one) den

/-- zero, of the given sign -/
def zero (negative : Bool) : Double := .finite negative 0 representable_zero

/-- the double nearest to an integer; zero is positive -/
def ofInt (n : Int) : Double := ofRatio (decide (n < 0)) n.natAbs 1

def ofNat (n : Nat) : Double := ofRatio false n 1

def isNaN : Double → Bool
  | .nan => true
  | _ => false

def isFinite : Double → Bool
  | .finite .. => true
  | _ => false

def isZero : Double → Bool
  | .finite _ units _ => units == 0
  | _ => false

/-- whether the sign is minus; that of not-a-number is never minus -/
def isNegative : Double → Bool
  | .nan => false
  | .infinite negative => negative
  | .finite negative _ _ => negative

/-- a sign and a magnitude as an integer -/
def signed (negative : Bool) (magnitude : Nat) : Int := if negative then -magnitude else magnitude

/-- place on the number line in units, the infinities just outside the finite numbers; none for not-a-number -/
def place? : Double → Option Int
  | .nan => none
  | .infinite negative => some (signed negative ceiling)
  | .finite negative units _ => some (signed negative units)

/-- compares places; false as soon as one side is not a number -/
def compareBy (r : Int → Int → Bool) (a b : Double) : Bool :=
  match a.place?, b.place? with
  | some x, some y => r x y
  | _, _ => false

/-- numeric equality: both zeros are equal, not-a-number equals nothing -/
def numEq (a b : Double) : Bool := compareBy (fun x y => decide (x = y)) a b

def numLt (a b : Double) : Bool := compareBy (fun x y => decide (x < y)) a b

def numLe (a b : Double) : Bool := compareBy (fun x y => decide (x ≤ y)) a b

/-- numeric equality, with not-a-number equal to itself -/
def same (a b : Double) : Bool := a.numEq b || (a.isNaN && b.isNaN)

/-- the value without its fraction; none for not-a-number and the infinities -/
def trunc? : Double → Option Int
  | .finite negative units _ => some (signed negative (units / one))
  | _ => none

/-- the exact value, when it is a whole number -/
def toInt? : Double → Option Int
  | .finite negative units _ => if units % one = 0 then some (signed negative (units / one)) else none
  | _ => none

def isInteger (x : Double) : Bool := x.toInt?.isSome

def neg : Double → Double
  | .nan => .nan
  | .infinite negative => .infinite (!negative)
  | .finite negative units h => .finite (!negative) units h

/-- product, rounded once -/
def mul : Double → Double → Double
  | .nan, _ => .nan
  | _, .nan => .nan
  | .infinite s, y => if y.isZero then .nan else .infinite (s != y.isNegative)
  | x, .infinite s => if x.isZero then .nan else .infinite (s != x.isNegative)
  | .finite s u _, .finite t v _ => ofUnits (s != t) (u * v) one

/-- quotient, rounded once -/
def div : Double → Double → Double
  | .nan, _ => .nan
  | _, .nan => .nan
  | .infinite _, .infinite _ => .nan
  | .infinite s, y => .infinite (s != y.isNegative)
  | x, .infinite s => zero (s != x.isNegative)
  | .finite s u _, .finite t v _ =>
    if v = 0 then (if u = 0 then .nan else .infinite (s != t)) else ofUnits (s != t) (u * one) v

/-- remainder of the truncated quotient, of the sign of the dividend -/
def rem : Double → Double → Double
  | .finite s u h, .finite _ v _ => if v = 0 then .nan else if u < v then .finite s u h else ofUnits s (u % v) 1
  | .finite s u h, .infinite _ => .finite s u h
  | _, _ => .nan

/-- the nearest whole number, a half going away from zero -/
def round : Double → Double
  | .finite s u _ => ofRatio s ((2 * u + one) / (2 * one)) 1
  | x => x

/-- up to 2^53 - 1 in magnitude every whole number is a double and no other number reads as it -/
def maxSafeInteger : Int := 9007199254740991

end Double

end ValueSchema
