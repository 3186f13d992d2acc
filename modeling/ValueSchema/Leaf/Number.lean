import ValueSchema.Check
import ValueSchema.Double.Text
import ValueSchema.Value.Coerce

/-!
Numbers: doubles without not-a-number, and big integers.
-/

namespace ValueSchema

/-- what can be asked of a number -/
inductive NumberTest where
  | above (bound : Double)
  | atLeast (bound : Double)
  | below (bound : Double)
  | atMost (bound : Double)
  /-- without a fraction, hence finite -/
  | whole
  /-- a multiple of a step, errors of binary fractions forgiven -/
  | multipleOf (step : Double)
  | finite
  /-- an integer that no other double is rounded to -/
  | safe
  deriving DecidableEq

namespace NumberTest

def positive : NumberTest := .above (.zero false)

def nonnegative : NumberTest := .atLeast (.zero false)

def negative : NumberTest := .below (.zero false)

def nonpositive : NumberTest := .atMost (.zero false)

end NumberTest

/-- why a number fails a test, if it does; a comparison with not-a-number fails none -/
def NumberTest.failure (test : NumberTest) (n : Double) : Option Message :=
  let notWhole : Message := .invalidType "integer" "float"
  match test with
  | .above bound => if n.numLe bound then some (.tooSmall .number (.number bound) false false) else none
  | .atLeast bound => if n.numLt bound then some (.tooSmall .number (.number bound) true false) else none
  | .below bound => if bound.numLe n then some (.tooBig .number (.number bound) false false) else none
  | .atMost bound => if bound.numLt n then some (.tooBig .number (.number bound) true false) else none
  | .whole => if n.isInteger then none else some notWhole
  | .multipleOf step => if (n.decimalRem step).isZero then none else some (.notMultipleOf .number (.number step))
  | .finite => if n.isFinite then none else some .notFinite
  | .safe =>
    let low := Double.ofInt (-Double.maxSafeInteger)
    let high := Double.ofInt Double.maxSafeInteger
    if n.numLt low then some (.tooSmall .number (.number low) true false)
    else if high.numLt n then some (.tooBig .number (.number high) true false)
    else if n.isInteger then none
    else some notWhole

structure NumberSchema where
  checks : Checks NumberTest
  /-- whether values of other kinds are converted -/
  coerced : Bool

namespace NumberSchema

def plain : NumberSchema := ⟨.empty, false⟩

/-- converts values of other kinds first -/
def converting : NumberSchema := ⟨.empty, true⟩

def check (s : NumberSchema) (test : NumberTest) : NumberSchema := { s with checks := s.checks.add test }

def message (s : NumberSchema) (text : String) : NumberSchema := { s with checks := s.checks.message text }

def validate (s : NumberSchema) (ctx : Context) (v : Value) : Outcome :=
  let finish (n : Double) : Outcome :=
    if n.isNaN then ctx.wrongKind "number" (.number n) s.checks.kindMessage
    else s.checks.run NumberTest.failure ctx n (.number n)
  match v with
  | .number n => finish n
  | v =>
    if s.coerced then
      match v.toNumber? with
      | some n => finish n
      | none => ctx.notConverted "number" v s.checks.kindMessage
    else ctx.wrongKind "number" v s.checks.kindMessage

end NumberSchema

/-- what can be asked of a big integer -/
inductive BigIntTest where
  | above (bound : BigInt)
  | atLeast (bound : BigInt)
  | below (bound : BigInt)
  | atMost (bound : BigInt)
  /-- a multiple of a divisor; nothing is a multiple of zero -/
  | multipleOf (divisor : BigInt)
  deriving DecidableEq

namespace BigIntTest

def positive : BigIntTest := .above .zero

def nonnegative : BigIntTest := .atLeast .zero

def negative : BigIntTest := .below .zero

def nonpositive : BigIntTest := .atMost .zero

end BigIntTest

def BigIntTest.failure (test : BigIntTest) (n : BigInt) : Option Message :=
  match test with
  | .above bound => if n.toInt ≤ bound.toInt then some (.tooSmall .bigint (.bigint bound) false false) else none
  | .atLeast bound => if n.toInt < bound.toInt then some (.tooSmall .bigint (.bigint bound) true false) else none
  | .below bound => if bound.toInt ≤ n.toInt then some (.tooBig .bigint (.bigint bound) false false) else none
  | .atMost bound => if bound.toInt < n.toInt then some (.tooBig .bigint (.bigint bound) true false) else none
  | .multipleOf divisor =>
    if divisor.toInt ≠ 0 ∧ n.toInt % divisor.toInt = 0 then none
    else some (.notMultipleOf .bigint (.bigint divisor))

structure BigIntSchema where
  checks : Checks BigIntTest
  /-- whether values of other kinds are converted -/
  coerced : Bool

namespace BigIntSchema

def plain : BigIntSchema := ⟨.empty, false⟩

/-- converts values of other kinds first -/
def converting : BigIntSchema := ⟨.empty, true⟩

def check (s : BigIntSchema) (test : BigIntTest) : BigIntSchema := { s with checks := s.checks.add test }

def message (s : BigIntSchema) (text : String) : BigIntSchema := { s with checks := s.checks.message text }

def validate (s : BigIntSchema) (ctx : Context) (v : Value) : Outcome :=
  let finish (n : BigInt) : Outcome := s.checks.run BigIntTest.failure ctx n (.bigint n)
  match v with
  | .bigint n => finish n
  | v =>
    if s.coerced then
      match v.toBigInt? with
      | some n => finish n
      | none => ctx.notConverted "bigint" v s.checks.kindMessage
    else ctx.wrongKind "bigint" v s.checks.kindMessage

end BigIntSchema

end ValueSchema
