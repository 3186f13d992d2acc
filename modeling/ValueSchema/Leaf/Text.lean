import ValueSchema.Check
import ValueSchema.Format.Accepts
import ValueSchema.Text.Casing
import ValueSchema.Value.Coerce

/-!
Texts: normalised first, then checked.

Normalisers run in the order of their declaration and all of them before the first check. Lengths count characters.
-/

namespace ValueSchema

/-- a change made to a text before it is checked -/
inductive Normalizer where
  | trim
  | lower
  | upper
  deriving DecidableEq

def Normalizer.apply : Normalizer → String → String
  | .trim, s => String.ofList (Text.trim s.toList)
  | .lower, s => String.ofList (Text.toLower s.toList)
  | .upper, s => String.ofList (Text.toUpper s.toList)

/-- what can be asked of a text -/
inductive TextTest where
  | atLeast (n : Nat)
  | atMost (n : Nat)
  | exactly (n : Nat)
  | format (f : Format)
  deriving DecidableEq

/-- at least one character -/
def TextTest.nonempty : TextTest := .atLeast 1

/-- why a text fails a test, if it does -/
def TextTest.failure (test : TextTest) (s : String) : Option Message :=
  match test with
  | .atLeast n => if s.length < n then some (.tooSmall .string (.count n) true false) else none
  | .atMost n => if n < s.length then some (.tooBig .string (.count n) true false) else none
  | .exactly n =>
    if s.length < n then some (.tooSmall .string (.count n) true true)
    else if n < s.length then some (.tooBig .string (.count n) true true)
    else none
  | .format f => if f.accepts s then none else some (.invalidFormat f)

structure TextSchema where
  normalizers : List Normalizer
  checks : Checks TextTest
  /-- whether values of other kinds are converted -/
  coerced : Bool

namespace TextSchema

def plain : TextSchema := ⟨[], .empty, false⟩

/-- converts values of other kinds first -/
def converting : TextSchema := ⟨[], .empty, true⟩

/-- declares one more check -/
def check (s : TextSchema) (test : TextTest) : TextSchema := { s with checks := s.checks.add test }

/-- declares one more normaliser -/
def normalize (s : TextSchema) (n : Normalizer) : TextSchema := { s with normalizers := s.normalizers ++ [n] }

/-- checks for a pattern, if the text is one -/
def regex? (s : TextSchema) (pattern : String) : Option TextSchema :=
  if (Pattern.read? pattern).isSome then some (s.check (.format (.regex pattern))) else none

/-- words of its own for the check declared last -/
def message (s : TextSchema) (text : String) : TextSchema := { s with checks := s.checks.message text }

/-- a text after all normalisers -/
def normalized (s : TextSchema) (text : String) : String := s.normalizers.foldl (fun t n => n.apply t) text

def validate (s : TextSchema) (ctx : Context) (v : Value) : Outcome :=
  let finish (text : String) : Outcome :=
    let text := s.normalized text
    s.checks.run TextTest.failure ctx text (.string text)
  match v with
  | .string text => finish text
  | v =>
    if s.coerced then
      match v.toText? with
      | some text => finish text
      | none => ctx.notConverted "string" v s.checks.kindMessage
    else ctx.wrongKind "string" v s.checks.kindMessage

end TextSchema

end ValueSchema
