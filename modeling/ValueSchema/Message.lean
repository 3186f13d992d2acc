import ValueSchema.Issue
import ValueSchema.Value.Json

/-!
Failures as causes, and the catalogs that put them into words.

Schemas describe a failure as a `Message`: what went wrong and with which limits. The message fixes the code and the details
of the issue; only its words come from a catalog, which is chosen for each call.
-/

namespace ValueSchema

/-- what a limit was measuring -/
inductive Origin where
  | string
  | number
  | bigint
  | array
  | set
  | date
  deriving DecidableEq

def Origin.name : Origin → String
  | .string => "string"
  | .number => "number"
  | .bigint => "bigint"
  | .array => "array"
  | .set => "set"
  | .date => "date"

/-- the limit that was missed -/
inductive Bound where
  | count (n : Nat)
  | number (x : Double)
  | bigint (n : BigInt)
  | date (t : Instant)
  deriving DecidableEq

def Bound.text : Bound → String
  | .count n => toString n
  | .number x => x.text
  | .bigint n => String.ofList (Text.intText n.toInt)
  | .date t => t.text

/-- formats of texts -/
inductive Format where
  | email
  | url
  | uuid
  | ipv4
  | ipv6
  | ip
  | datetime
  | regex (pattern : String)
  | startsWith (head : String)
  | endsWith (tail : String)
  | includes (part : String)
  deriving DecidableEq

def Format.name : Format → String
  | .email => "email"
  | .url => "url"
  | .uuid => "uuid"
  | .ipv4 => "ipv4"
  | .ipv6 => "ipv6"
  | .ip => "ip"
  | .datetime => "datetime"
  | .regex _ => "regex"
  | .startsWith _ => "starts_with"
  | .endsWith _ => "ends_with"
  | .includes _ => "includes"

/-- a failure, independent of language -/
inductive Message where
  | invalidType (expected received : String)
  | tooSmall (origin : Origin) (minimum : Bound) (inclusive exact : Bool)
  | tooBig (origin : Origin) (maximum : Bound) (inclusive exact : Bool)
  | notMultipleOf (origin : Origin) (divisor : Bound)
  | notFinite
  | invalidFormat (format : Format)
  | invalidDate
  | invalidLiteral (expected : Value)
  | invalidEnumValue (options : List String) (received : Value)
  | unrecognizedKeys (keys : List String)
  | invalidKey (key : String)
  /-- with the first issue of each alternative, as displayed -/
  | invalidUnion (alternatives : List String)
  | invalidUnionDiscriminator (discriminator : String) (options : List String)
  | invalidIntersectionTypes
  | tupleLength (expected received : Nat)
  | coercionFailed (target received : String)
  | transformFailed (reason : String)
  | custom

namespace Message

def code : Message → IssueCode
  | .invalidType .. => .invalidType
  | .tooSmall .. => .tooSmall
  | .tooBig .. => .tooBig
  | .notMultipleOf .. => .notMultipleOf
  | .notFinite => .notFinite
  | .invalidFormat _ => .invalidFormat
  | .invalidDate => .invalidDate
  | .invalidLiteral _ => .invalidLiteral
  | .invalidEnumValue .. => .invalidEnumValue
  | .unrecognizedKeys _ => .unrecognizedKeys
  | .invalidKey _ => .invalidKey
  | .invalidUnion _ => .invalidUnion
  | .invalidUnionDiscriminator .. => .invalidUnionDiscriminator
  | .invalidIntersectionTypes => .invalidIntersectionTypes
  | .tupleLength .. => .tupleLength
  | .coercionFailed .. => .coercionFailed
  | .transformFailed _ => .transformFailed
  | .custom => .custom

def boolText (b : Bool) : String := if b then "true" else "false"

/-- the details of the issue, in order -/
def params : Message → List (String × String)
  | .invalidType expected received => [("expected", expected), ("received", received)]
  | .coercionFailed target received => [("expected", target), ("received", received)]
  | .tooSmall origin minimum inclusive _ =>
    [("origin", origin.name), ("minimum", minimum.text), ("inclusive", boolText inclusive)]
  | .tooBig origin maximum inclusive _ =>
    [("origin", origin.name), ("maximum", maximum.text), ("inclusive", boolText inclusive)]
  | .notMultipleOf _ divisor => [("divisor", divisor.text)]
  | .invalidFormat (.regex pattern) => [("format", "regex"), ("pattern", pattern)]
  | .invalidFormat format => [("format", format.name)]
  | .invalidLiteral expected => [("expected", expected.display)]
  | .invalidEnumValue options received =>
    [("options", String.intercalate " | " options), ("received", received.display)]
  | .unrecognizedKeys keys => [("keys", String.intercalate ", " keys)]
  | .invalidKey key => [("key", key)]
  | .invalidUnionDiscriminator discriminator options =>
    [("discriminator", discriminator), ("options", String.intercalate " | " options)]
  | .tupleLength expected received => [("expected", toString expected), ("received", toString received)]
  | .notFinite => []
  | .invalidDate => []
  | .invalidUnion _ => []
  | .invalidIntersectionTypes => []
  | .transformFailed _ => []
  | .custom => []

end Message

/-- puts messages into words, for one language -/
structure Catalog where
  locale : String
  render : Message → String

namespace Catalog

namespace English

/-- names between single quotes -/
def quotedAll (separator : String) (names : List String) : String :=
  String.intercalate separator (names.map fun n => "'" ++ n ++ "'")

/-- whether a limit counts parts rather than bounding a value -/
def countsParts : Origin → Bool
  | .string => true
  | .array => true
  | .set => true
  | _ => false

def subject : Origin → String
  | .string => "String"
  | .array => "Array"
  | .set => "Set"
  | .number => "Number"
  | .bigint => "BigInt"
  | .date => "Date"

def part : Origin → String
  | .string => "character(s)"
  | _ => "element(s)"

/-- a missed limit, with the relations for counts and for values -/
def limit (origin : Origin) (bound : Bound) (ofParts ofValue : String) : String :=
  if countsParts origin then subject origin ++ " must contain " ++ ofParts ++ " " ++ bound.text ++ " " ++ part origin
  else subject origin ++ " must be " ++ ofValue ++ " " ++ bound.text

/-- what divides: the kinds of numbers keep their names -/
def divided : Origin → String
  | .bigint => "BigInt"
  | .date => "Date"
  | _ => "Number"

def format : Format → String
  | .regex _ => "Invalid"
  | .startsWith head => "Invalid input: must start with \"" ++ head ++ "\""
  | .endsWith tail => "Invalid input: must end with \"" ++ tail ++ "\""
  | .includes part => "Invalid input: must include \"" ++ part ++ "\""
  | f => "Invalid " ++ f.name

def render : Message → String
  | .invalidType expected received =>
    if received = "undefined" then "Required" else "Expected " ++ expected ++ ", received " ++ received
  | .tooSmall origin minimum inclusive exact =>
    limit origin minimum
      (if exact then "exactly" else if inclusive then "at least" else "more than")
      (if exact then "exactly equal to" else if inclusive then "greater than or equal to" else "greater than")
  | .tooBig origin maximum inclusive exact =>
    limit origin maximum
      (if exact then "exactly" else if inclusive then "at most" else "fewer than")
      (if exact then "exactly equal to" else if inclusive then "less than or equal to" else "less than")
  | .notMultipleOf origin divisor => divided origin ++ " must be a multiple of " ++ divisor.text
  | .notFinite => "Number must be finite"
  | .invalidFormat f => format f
  | .invalidDate => "Invalid date"
  | .invalidLiteral expected => "Invalid literal value, expected " ++ expected.toJson.text
  | .invalidEnumValue options received =>
    "Invalid enum value. Expected " ++ quotedAll " | " options ++ ", received '" ++
      received.text?.getD received.display ++ "'"
  | .unrecognizedKeys keys => "Unrecognized key(s) in object: " ++ quotedAll ", " keys
  | .invalidKey key => "Invalid key in record: '" ++ key ++ "'"
  | .invalidUnion [] => "Invalid input"
  | .invalidUnion alternatives => "Invalid input: " ++ String.intercalate "; or " alternatives
  | .invalidUnionDiscriminator _ options => "Invalid discriminator value. Expected " ++ quotedAll " | " options
  | .invalidIntersectionTypes => "Intersection results could not be merged"
  | .tupleLength expected received =>
    "Expected " ++ toString expected ++ " items, received " ++ toString received
  | .coercionFailed target received => "Could not coerce " ++ received ++ " to " ++ target
  | .transformFailed reason => "Transform failed: " ++ reason
  | .custom => "Invalid input"

end English

/-- the catalog used unless another is asked for -/
def english : Catalog := ⟨"en", English.render⟩

end Catalog

end ValueSchema
