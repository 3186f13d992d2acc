import ValueSchema.Key
import ValueSchema.Value.Same

/-!
Merging the values that two schemas made of one input.

Objects merge by name, the right one winning except where both hold objects, and without dangerous names. Arrays of one
length merge place by place. Anything else merges only with the same value.
-/

namespace ValueSchema.Value

mutual

/-- the right value, except that two objects are merged at every depth -/
def overlay : Value → Value → Value
  | .object (@Object.mk _ names a _), .object b =>
    .object (Object.ofList (overlayMembers a b ++
      b.toList.filter fun e => !names.contains e.1 && !Key.isDangerous e.1))
  | _, w => w
termination_by structural v => v

/-- the members of the left object, with those of the right one laid over them -/
def overlayMembers : {names : List String} → Members Value names → Object Value → List (String × Value)
  | _, .nil, _ => []
  | _, .cons name v rest, b =>
    if Key.isDangerous name then overlayMembers rest b
    else
      (name, match b.get? name with
        | some w => v.overlay w
        | none => v) :: overlayMembers rest b
termination_by structural _ m => m

end

mutual

/-- the merge of two values, if they can be merged -/
def merge : Value → Value → Option Value
  | .object a, .object b => some (overlay (.object a) (.object b))
  | .object _, _ => none
  | _, .object _ => none
  | .array xs, .array ys => (mergeItems xs ys).map .array
  | v, w => if v.same w then some v else none
termination_by structural v => v

def mergeItems : List Value → List Value → Option (List Value)
  | [], [] => some []
  | x :: xs, y :: ys =>
    match x.merge y, mergeItems xs ys with
    | some z, some zs => some (z :: zs)
    | _, _ => none
  | _, _ => none
termination_by structural vs => vs

end

end ValueSchema.Value
