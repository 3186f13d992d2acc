import ValueSchema.Schema.Basic

/-!
Object types made from other ones.
-/

namespace ValueSchema

namespace Schema

/-- lets null and absence through -/
def nullish (s : Schema) : Schema := .optional (.nullable s)

/-- accepts absence as well, unless the schema says so already -/
def toOptional : Schema → Schema
  | .optional inner => .optional inner
  | s => .optional s

/-- without one layer of `optional` -/
def unwrapOptional : Schema → Schema
  | .optional inner => inner
  | s => s

end Schema

namespace ObjectType

/-- the type with some fields, a later one of a name taking the place of an earlier one; other members are dropped -/
def ofFields (fields : List (String × Schema)) : ObjectType Schema := ⟨Object.ofList fields, .strip⟩

variable (t : ObjectType Schema)

/-- adds a field, or changes the one of that name in place -/
def field (name : String) (s : Schema) : ObjectType Schema := { t with shape := t.shape.insert name s }

def extend (fields : List (String × Schema)) : ObjectType Schema :=
  fields.foldl (fun acc f => acc.field f.1 f.2) t

/-- the fields of both, the other type winning; its policy for other members counts -/
def merge (other : ObjectType Schema) : ObjectType Schema := ⟨t.shape.merge other.shape, other.unknown⟩

def pick (names : List String) : ObjectType Schema := { t with shape := t.shape.filterNames names.contains }

def without (names : List String) : ObjectType Schema := { t with shape := t.shape.filterNames (!names.contains ·) }

/-- makes the fields of some names optional -/
def optionalKeys (names : List String) : ObjectType Schema :=
  { t with shape := t.shape.mapValues fun name s => if names.contains name then s.toOptional else s }

/-- makes every field optional -/
def allOptional : ObjectType Schema := { t with shape := t.shape.mapValues fun _ s => s.toOptional }

/-- takes one layer of `optional` off every field -/
def required : ObjectType Schema := { t with shape := t.shape.mapValues fun _ s => s.unwrapOptional }

/-- another policy for members that no field describes -/
def withUnknown (unknown : UnknownKeys Schema) : ObjectType Schema := { t with unknown := unknown }

/-- the names of the fields as an enumeration -/
def keys : EnumSchema := EnumSchema.ofList t.shape.names

end ObjectType

end ValueSchema
