import ValueSchema.Validator.Basic
import ValueSchema.Value.Merge

/-!
Validators made of alternatives, and of two that must both accept.

A union tries its alternatives in the order of their declaration, but those first that could accept the kind of the value; the
others are run when all of these have failed.
-/

namespace ValueSchema

/-- an alternative, with the kinds of values it could accept where they are known -/
structure Alternative where
  kinds : Option (List Kind)
  validator : Validator

/-- whether the alternative could accept values of a kind -/
def Alternative.admits (a : Alternative) (kind : Kind) : Bool := a.kinds.all (·.contains kind)

/-- an option of a discriminated union, with the tags that select it -/
structure TaggedOption where
  tags : List Value
  validator : Validator

namespace Validator

/-- issues of alternatives that failed, under their positions -/
abbrev Failures := List (Nat × List Issue)

/-- the first success among alternatives, or all their failures -/
def attempt (ctx : Context) (v : Value) : List (Alternative × Nat) → Option (Except Failures Value)
  | [] => some (.error [])
  | (a, position) :: rest =>
    match a.validator ctx v with
    | none => none
    | some (.ok w) => some (.ok w)
    | some (.error issues) =>
      match attempt ctx v rest with
      | none => none
      | some (.ok w) => some (.ok w)
      | some (.error failures) => some (.error ((position, issues) :: failures))

/-- the issue when no alternative accepts, given the issues of each in order -/
def noMatch (ctx : Context) (failures : List (List Issue)) : Issue :=
  { ctx.issue (.invalidUnion (failures.filterMap fun issues => issues.head?.map Issue.display)) none with
    nested := failures.flatten }

/-- the first alternative that accepts -/
def union (alternatives : List Alternative) : Validator := fun ctx v =>
  let (likely, unlikely) := alternatives.zipIdx.partition fun a => a.1.admits v.kind
  (attempt ctx v likely).bind fun
    | .ok w => some (.ok w)
    | .error failures =>
      (attempt ctx v unlikely).map fun
        | .ok w => .ok w
        | .error others =>
          .error [noMatch ctx ((List.range alternatives.length).filterMap fun position => (failures ++ others).lookup position)]

/-- a tag as listed in messages: texts without quotes -/
def tagLabel (tag : Value) : String := tag.text?.getD tag.display

/-- the option that an object's tag selects -/
def discriminated (tag : String) (options : List TaggedOption) : Validator := fun ctx v =>
  match v with
  | .object o =>
    let found := (o.get? tag).getD .undefined
    match options.find? fun option => option.tags.any (·.same found) with
    | some option => option.validator ctx v
    | none =>
      let labels := (options.flatMap TaggedOption.tags).map tagLabel
      some (.error [(ctx.issue (.invalidUnionDiscriminator tag labels) none).within (.key tag)])
  | v => some (ctx.wrongKind "object" v none)

/-- both validators on the same value, their outputs merged -/
def intersection (left right : Validator) : Validator := fun ctx v =>
  (left ctx v).bind fun l =>
    if ctx.mode.stops (Part.issues l) then some l
    else (right ctx v).map fun r =>
      match l, r with
      | .ok a, .ok b =>
        match a.merge b with
        | some w => .ok w
        | none => ctx.fail .invalidIntersectionTypes none
      | l, r => .error (Part.issues l ++ Part.issues r)

end Validator

end ValueSchema
