import ValueSchema.Double.Decimal

/-!
The shortest decimal that reads back as a given double.

The numbers that round to a double form an interval around it, ends included when its last bit is even. Grids of 1, 2, …
17 digits are tried in turn; on each only the two neighbours of the double matter. The first grid with a neighbour in the
interval wins, of two such neighbours the nearer, and a tie goes as the layout says.
-/

namespace ValueSchema.Double

/-- which of two equally near decimals is taken -/
inductive Tie where
  | up
  | even
  deriving DecidableEq

/-- the spacing of doubles just above a positive count of units -/
def gap (units : Nat) : Nat := twoPow (units.log2 - 52)

/-- four times the ends of the interval that rounds to `units`; below a power of two the spacing is half as wide -/
def ends (units : Nat) : Nat × Nat :=
  let below := if units = twoPow units.log2 ∧ 52 < units.log2 then gap units else 2 * gap units
  (4 * units - below, 4 * units + 2 * gap units)

/-- whether `num / den` of a unit rounds to `units` -/
def readsBack (units num den : Nat) : Bool :=
  let e := ends units
  if units / gap units % 2 = 0 then decide (e.1 * den ≤ 4 * num ∧ 4 * num ≤ e.2 * den)
  else decide (e.1 * den < 4 * num ∧ 4 * num < e.2 * den)

/-- the decimal k × 10^exponent as a fraction of units -/
def gridPoint (k : Nat) (exponent : Int) : Nat × Nat :=
  match exponent with
  | .ofNat e => (k * tenPow e * one, 1)
  | .negSucc e => (k * one, tenPow (e + 1))

/-- the neighbour of `units` on the grid of 10^exponent that reads back, if there is one -/
def onGrid? (tie : Tie) (units : Nat) (exponent : Int) : Option Nat :=
  let unit := gridPoint 1 exponent
  let k := units * unit.2 / unit.1
  let low := gridPoint k exponent
  let high := gridPoint (k + 1) exponent
  match readsBack units low.1 low.2, readsBack units high.1 high.2 with
  | true, true =>
    let down := units * unit.2 - low.1
    let up := high.1 - units * unit.2
    if down < up then some k
    else if up < down then some (k + 1)
    else match tie with
      | .up => some (k + 1)
      | .even => some (if k % 2 = 0 then k else k + 1)
  | true, false => some k
  | false, true => some (k + 1)
  | false, false => none

/-- the least power of ten that lifts `units` to one, counted from `power`, at most `fuel` further on -/
def liftToOne (units : Nat) : Nat → Nat → Nat
  | 0, power => power
  | fuel + 1, power => if one ≤ units * tenPow power then power else liftToOne units fuel (power + 1)

/-- the exponent of the leading decimal digit of a positive count of units -/
def leadingExponent (units : Nat) : Int :=
  if one ≤ units then ((Nat.toDigits 10 (units / one)).length : Int) - 1
  else
    -- about three tenths of the binary exponent, and never more than the answer
    -(liftToOne units 330 ((1074 - units.log2) * 3 / 10) : Nat)

/-- the first grid, from `exponent` towards finer ones, with a point that reads back -/
def firstGrid (tie : Tie) (units : Nat) : Nat → Int → Decimal
  | 0, exponent => ⟨0, exponent⟩
  | fuel + 1, exponent =>
    match onGrid? tie units exponent with
    | some k => ⟨k, exponent⟩
    | none => firstGrid tie units fuel (exponent - 1)

/-- without trailing zeros -/
def stripZeros : Nat → Decimal → Decimal
  | 0, d => d
  | fuel + 1, d =>
    if d.digits % 10 = 0 ∧ d.digits ≠ 0 then stripZeros fuel ⟨d.digits / 10, d.exponent + 1⟩ else d

/-- the shortest decimal that reads back as a positive count of units -/
def shortest (tie : Tie) (units : Nat) : Decimal :=
  stripZeros 20 (firstGrid tie units 18 (leadingExponent units))

end ValueSchema.Double
