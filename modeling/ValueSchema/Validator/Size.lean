import ValueSchema.Check

/-!
Tests of how many elements an array or a set has.
-/

namespace ValueSchema

inductive SizeTest where
  | atLeast (n : Nat)
  | atMost (n : Nat)
  | exactly (n : Nat)
  deriving DecidableEq

/-- at least one element -/
def SizeTest.nonempty : SizeTest := .atLeast 1

/-- why a size fails a test, if it does -/
def SizeTest.failure (origin : Origin) (test : SizeTest) (size : Nat) : Option Message :=
  match test with
  | .atLeast n => if size < n then some (.tooSmall origin (.count n) true false) else none
  | .atMost n => if n < size then some (.tooBig origin (.count n) true false) else none
  | .exactly n =>
    if size < n then some (.tooSmall origin (.count n) true true)
    else if n < size then some (.tooBig origin (.count n) true true)
    else none

/-- the issue of the first test that fails, if any -/
def Checks.sizeIssues (sizes : Checks SizeTest) (origin : Origin) (ctx : Context) (size : Nat) : List Issue :=
  (sizes.firstIssue (SizeTest.failure origin) ctx size).toList

end ValueSchema
