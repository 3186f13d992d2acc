import ValueSchema.Leaf.Basic
import ValueSchema.Validator.Collection
import ValueSchema.Validator.Wrapper

/-!
Schemas: descriptions of what a value must be.

A schema is a leaf, a collection of schemas, a choice among schemas or a wrapper around one. Recursive shapes refer to each
other by name; `Definitions` say what the names mean.
-/

namespace ValueSchema

/-- fields in order, and what happens to other members -/
structure ObjectType (σ : Type) where
  shape : Object σ
  unknown : UnknownKeys σ

inductive Schema where
  | leaf (l : Leaf)
  | object (type : ObjectType Schema)
  | array (element : Schema) (sizes : Checks SizeTest)
  | set (element : Schema) (sizes : Checks SizeTest)
  | tuple (items : List Schema)
  /-- objects with any names, which a schema may restrict and change -/
  | record (key : Option Schema) (value : Schema)
  | map (key value : Schema)
  | union (options : List Schema)
  /-- objects told apart by the value under a name -/
  | discriminated (tag : String) (options : List (ObjectType Schema))
  | intersection (left right : Schema)
  | optional (inner : Schema)
  | nullable (inner : Schema)
  | defaulting (inner : Schema) (fallback : Value)
  | catching (inner : Schema) (fallback : Value)
  | refine (inner : Schema) (holds : Predicate) (message : String) (path : Path)
  | transform (inner : Schema) (convert : Conversion)
  | pipe (first second : Schema)
  /-- what a name stands for -/
  | lazy (name : String)

/-- the schemas that names stand for; the first of a name counts -/
abbrev Definitions := List (String × Schema)

/-- form of a schema -/
inductive SchemaKind where
  | string
  | number
  | boolean
  | bigint
  | date
  | symbol
  | literal
  | enumeration
  | any
  | unknown
  | never
  | null
  | undefined
  | object
  | array
  | tuple
  | record
  | set
  | map
  | union
  | discriminated
  | intersection
  | optional
  | nullable
  | defaulting
  | catching
  | refine
  | transform
  | pipe
  | lazy
  deriving DecidableEq

def Leaf.schemaKind : Leaf → SchemaKind
  | .string _ => .string
  | .number _ => .number
  | .boolean _ => .boolean
  | .bigint _ => .bigint
  | .date _ => .date
  | .symbol => .symbol
  | .literal _ => .literal
  | .enumeration _ => .enumeration
  | .any => .any
  | .unknown => .unknown
  | .never => .never
  | .null => .null
  | .undefined => .undefined

def Schema.kind : Schema → SchemaKind
  | .leaf l => l.schemaKind
  | .object _ => .object
  | .array .. => .array
  | .set .. => .set
  | .tuple _ => .tuple
  | .record .. => .record
  | .map .. => .map
  | .union _ => .union
  | .discriminated .. => .discriminated
  | .intersection .. => .intersection
  | .optional _ => .optional
  | .nullable _ => .nullable
  | .defaulting .. => .defaulting
  | .catching .. => .catching
  | .refine .. => .refine
  | .transform .. => .transform
  | .pipe .. => .pipe
  | .lazy _ => .lazy

end ValueSchema
