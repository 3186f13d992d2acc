import ValueSchema.Check

/-!
Validators: what schemas do to values.

A validator may refer to others by name and so need not come to an end; it answers nothing where one of these does not.
Composite validators run their parts one after the other. When the first issue decides, the part that fails is the last one
run.
-/

namespace ValueSchema

/-- an outcome for each setting and value; none when it does not come to an end -/
abbrev Validator := Context → Value → Option Outcome

/-- what one part of a value gives: something for the output, or issues -/
abbrev Part (α : Type) := Except (List Issue) α

/-- ends without issues in an output -/
def settle (issues : List Issue) (output : Value) : Outcome := if issues.isEmpty then .ok output else .error issues

/-- whether these issues end the run -/
def Mode.stops (mode : Mode) (issues : List Issue) : Bool := mode = .failFast && !issues.isEmpty

namespace Part

variable {α β : Type}

/-- the same part with its issues placed one step further in -/
def within (segment : Segment) : Part α → Part α
  | .ok a => .ok a
  | .error issues => .error (Issue.allWithin segment issues)

def map (f : α → β) : Part α → Part β
  | .ok a => .ok (f a)
  | .error issues => .error issues

def issues : Part α → List Issue
  | .ok _ => []
  | .error issues => issues

def value? : Part α → Option α
  | .ok a => some a
  | .error _ => none

/-- runs parts in order; the first one that fails is the last one run if the mode says so -/
def run (mode : Mode) (part : β → Option (Part α)) : List β → Option (List (Part α))
  | [] => some []
  | b :: rest =>
    match part b with
    | none => none
    | some p =>
      if mode.stops p.issues then some [p]
      else match run mode part rest with
        | none => none
        | some ps => some (p :: ps)

/-- the issues of parts, in order -/
def allIssues (ps : List (Part α)) : List Issue := ps.flatMap issues

/-- what parts give for the output, in order -/
def values (ps : List (Part α)) : List α := ps.filterMap value?

end Part

namespace Validator

/-- a validator on a part of a value -/
def child (a : Validator) (segment : Segment) (ctx : Context) (v : Value) : Option (Part Value) :=
  (a ctx v).map (Part.within segment)

end Validator

end ValueSchema
