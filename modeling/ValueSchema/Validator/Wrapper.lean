import ValueSchema.Validator.Basic

/-!
Validators around another one: what they let through beside it, put in its place or do with its output.
-/

namespace ValueSchema

/-- why a conversion gives no value -/
inductive Fault where
  | refused (reason : String)
  /-- it broke off, perhaps with a text -/
  | aborted (text : Option String)
  deriving DecidableEq

def Fault.reason : Fault → String
  | .refused reason => reason
  | .aborted (some text) => text
  | .aborted none => "transform panicked"

/-- a caller's conversion of values -/
abbrev Conversion := Value → Except Fault Value

/-- a caller's condition on values -/
abbrev Predicate := Value → Bool

namespace Validator

/-- lets absence through -/
def optional (inner : Validator) : Validator := fun ctx v => if v.isUndefined then some (.ok v) else inner ctx v

/-- lets null through -/
def nullable (inner : Validator) : Validator := fun ctx v => if v.isNull then some (.ok v) else inner ctx v

/-- puts a value in the place of absence, as it is -/
def defaulting (inner : Validator) (fallback : Value) : Validator := fun ctx v =>
  if v.isUndefined then some (.ok fallback) else inner ctx v

/-- puts a value in the place of whatever is not accepted -/
def catching (inner : Validator) (fallback : Value) : Validator := fun ctx v =>
  (inner ctx v).map fun
    | .ok w => .ok w
    | .error _ => .ok fallback

/-- asks for a condition on the output -/
def refine (inner : Validator) (holds : Predicate) (message : String) (path : Path) : Validator := fun ctx v =>
  (inner ctx v).map fun
    | .ok w => if holds w then .ok w else .error [{ ctx.issue .custom (some message) with path := path }]
    | .error issues => .error issues

/-- converts the output -/
def transform (inner : Validator) (convert : Conversion) : Validator := fun ctx v =>
  (inner ctx v).map fun
    | .ok w => match convert w with
      | .ok u => .ok u
      | .error fault => ctx.fail (.transformFailed fault.reason) none
    | .error issues => .error issues

/-- the second validator on the output of the first -/
def pipe (first second : Validator) : Validator := fun ctx v =>
  (first ctx v).bind fun
    | .ok w => second ctx w
    | .error issues => some (.error issues)

end Validator

end ValueSchema
