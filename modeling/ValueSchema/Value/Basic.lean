import ValueSchema.BigInt
import ValueSchema.Calendar.Instant
import ValueSchema.Double.Basic
import ValueSchema.Object

/-!
Dynamic values.

A value is one of twelve kinds. Besides the shapes of JSON there are big integers, instants, symbols with an identity, sets
and maps, and a value that stands for absence. The members of an object have distinct names by construction; sets and maps
may hold any elements, and `Value.ofElements` and `Value.ofEntries` build the ones without repetition.
-/

namespace ValueSchema

/-- a token with an identity of its own and a description for people -/
structure Symbol where
  id : Nat
  description : Option String
  deriving DecidableEq

inductive Value where
  | undefined
  | null
  | bool (b : Bool)
  | number (n : Double)
  | bigint (n : BigInt)
  | string (s : String)
  | date (t : Instant)
  | symbol (s : Symbol)
  | array (items : List Value)
  | object (members : Object Value)
  | set (elements : List Value)
  | map (entries : List (Value × Value))

/-- kind of a value -/
inductive Kind where
  | undefined
  | null
  | boolean
  | number
  | bigint
  | string
  | date
  | symbol
  | array
  | object
  | set
  | map
  deriving DecidableEq

namespace Kind

def name : Kind → String
  | .undefined => "undefined"
  | .null => "null"
  | .boolean => "boolean"
  | .number => "number"
  | .bigint => "bigint"
  | .string => "string"
  | .date => "date"
  | .symbol => "symbol"
  | .array => "array"
  | .object => "object"
  | .set => "set"
  | .map => "map"

end Kind

namespace Value

instance : Inhabited Value := ⟨.undefined⟩

def kind : Value → Kind
  | .undefined => .undefined
  | .null => .null
  | .bool _ => .boolean
  | .number _ => .number
  | .bigint _ => .bigint
  | .string _ => .string
  | .date _ => .date
  | .symbol _ => .symbol
  | .array _ => .array
  | .object _ => .object
  | .set _ => .set
  | .map _ => .map

/-- name of what was received, in issues: the kind, except that not-a-number has a name of its own -/
def typeName : Value → String
  | .number .nan => "nan"
  | v => v.kind.name

def isUndefined : Value → Bool
  | .undefined => true
  | _ => false

def isNull : Value → Bool
  | .null => true
  | _ => false

def text? : Value → Option String
  | .string s => some s
  | _ => none

def number? : Value → Option Double
  | .number n => some n
  | _ => none

def bool? : Value → Option Bool
  | .bool b => some b
  | _ => none

def items? : Value → Option (List Value)
  | .array items => some items
  | _ => none

def members? : Value → Option (Object Value)
  | .object members => some members
  | _ => none

/-- a whole number, rounded to the nearest double -/
def ofInt (n : Int) : Value := .number (.ofInt n)

/-- what may be missing, null standing for it -/
def ofOption {α : Type} (f : α → Value) : Option α → Value
  | none => .null
  | some a => f a

def ofTexts (texts : List String) : Value := .array (texts.map .string)

/-- the member of an object under a name -/
def get? (v : Value) (name : String) : Option Value := v.members?.bind (·.get? name)

end Value

end ValueSchema
