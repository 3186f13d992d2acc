import ValueSchema.Path

/-!
Issues: what is wrong, where, and in which words.
-/

namespace ValueSchema

/-- the closed list of what can be wrong -/
inductive IssueCode where
  | invalidType
  | tooSmall
  | tooBig
  | notMultipleOf
  | notFinite
  | invalidFormat
  | invalidDate
  | invalidLiteral
  | invalidEnumValue
  | unrecognizedKeys
  | invalidKey
  | invalidUnion
  | invalidUnionDiscriminator
  | invalidIntersectionTypes
  | tupleLength
  | coercionFailed
  | transformFailed
  | custom
  deriving DecidableEq

def IssueCode.name : IssueCode → String
  | .invalidType => "invalid_type"
  | .tooSmall => "too_small"
  | .tooBig => "too_big"
  | .notMultipleOf => "not_multiple_of"
  | .notFinite => "not_finite"
  | .invalidFormat => "invalid_format"
  | .invalidDate => "invalid_date"
  | .invalidLiteral => "invalid_literal"
  | .invalidEnumValue => "invalid_enum_value"
  | .unrecognizedKeys => "unrecognized_keys"
  | .invalidKey => "invalid_key"
  | .invalidUnion => "invalid_union"
  | .invalidUnionDiscriminator => "invalid_union_discriminator"
  | .invalidIntersectionTypes => "invalid_intersection_types"
  | .tupleLength => "tuple_length"
  | .coercionFailed => "coercion_failed"
  | .transformFailed => "transform_failed"
  | .custom => "custom"

/-- one thing wrong with a value -/
structure Issue where
  code : IssueCode
  /-- where in the input -/
  path : Path
  message : String
  /-- named details such as the limit that was missed -/
  params : List (String × String)
  /-- issues of attempts inside this one, such as the alternatives of a union -/
  nested : List Issue

namespace Issue

/-- places the issue one step further in -/
def within (segment : Segment) (i : Issue) : Issue := { i with path := segment :: i.path }

/-- the detail of a name, the first if there are several -/
def param? (i : Issue) (name : String) : Option String := i.params.lookup name

/-- the message, behind its place unless that is the root -/
def display (i : Issue) : String := if i.path = [] then i.message else i.path.text ++ ": " ++ i.message

/-- places issues one step further in -/
def allWithin (segment : Segment) (issues : List Issue) : List Issue := issues.map (·.within segment)

end Issue

end ValueSchema
