import ValueSchema.Schema.Kinds
import ValueSchema.Schema.Shape

/-!
Building discriminated unions: every option must list its tags, and no two tags may be the same.
-/

namespace ValueSchema

/-- mistakes in the making of a schema -/
inductive SchemaError where
  /-- the option at a position does not list its tags -/
  | missingDiscriminator (tag : String) (position : Nat)
  | duplicateDiscriminator (value : String)
  deriving DecidableEq

def SchemaError.message : SchemaError → String
  | .missingDiscriminator tag position =>
    "discriminated union option " ++ toString position ++ " has no literal \x60" ++ tag ++ "\x60 field"
  | .duplicateDiscriminator value => "discriminator value " ++ value ++ " appears in more than one option"

namespace Schema

/-- the values listed for a field -/
def tagsOf? (tag : String) (type : ObjectType Schema) : Option (List Value) :=
  (type.shape.get? tag).bind literalValues?

/-- adds tags to known ones, unless one is there already -/
def addTags (known : List Value) : List Value → Except SchemaError (List Value)
  | [] => .ok known
  | v :: rest =>
    if known.any (·.same v) then .error (.duplicateDiscriminator v.display) else addTags (known ++ [v]) rest

/-- looks at the options from a position on, given the tags of those before it -/
def checkTags (tag : String) (position : Nat) (known : List Value) : List (ObjectType Schema) → Except SchemaError Unit
  | [] => .ok ()
  | type :: rest =>
    match tagsOf? tag type with
    | none => .error (.missingDiscriminator tag position)
    | some values =>
      match addTags known values with
      | .error e => .error e
      | .ok known => checkTags tag (position + 1) known rest

/-- the union of object types told apart by a tag -/
def discriminatedUnion (tag : String) (options : List (ObjectType Schema)) : Except SchemaError Schema :=
  match checkTags tag 0 [] options with
  | .ok _ => .ok (.discriminated tag options)
  | .error e => .error e

end Schema

end ValueSchema
