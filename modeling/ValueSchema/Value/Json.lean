import ValueSchema.Calendar.Timestamp
import ValueSchema.Json.Basic
import ValueSchema.Text.Quoted
import ValueSchema.Value.Basic

/-!
Values as JSON, JSON as values, and values as people see them.

JSON has no absence, symbols, big integers, instants, sets or maps. Absence and symbols vanish from objects and are null
elsewhere; numbers that are not finite are null; big integers and instants become texts; sets become arrays and maps arrays
of pairs. Read back, a whole number that a double would round becomes a big integer.
-/

namespace ValueSchema

namespace Value

/-- whether an object leaves a member out of its JSON -/
def isUnspoken : Value → Bool
  | .undefined => true
  | .symbol _ => true
  | _ => false

mutual

def toJson : Value → Json
  | .undefined => .null
  | .null => .null
  | .bool b => .bool b
  | .number n => if n.isFinite then .number (.float n) else .null
  | .bigint n => .string (String.ofList (Text.intText n.toInt))
  | .string s => .string s
  | .date t => .string t.text
  | .symbol _ => .null
  | .array items => .array (toJsonList items)
  | .object ⟨members, _⟩ => Json.ofMembers (toJsonMembers members)
  | .set elements => .array (toJsonList elements)
  | .map entries => .array (toJsonEntries entries)
termination_by structural v => v

def toJsonList : List Value → List Json
  | [] => []
  | v :: rest => v.toJson :: toJsonList rest
termination_by structural vs => vs

def toJsonMembers : {names : List String} → Members Value names → List (String × Json)
  | _, .nil => []
  | _, .cons name v rest => if v.isUnspoken then toJsonMembers rest else (name, v.toJson) :: toJsonMembers rest
termination_by structural _ ms => ms

def toJsonEntries : List (Value × Value) → List Json
  | [] => []
  | (k, v) :: rest => .array [k.toJson, v.toJson] :: toJsonEntries rest
termination_by structural es => es

end

/-- the number of a JSON number: a whole number that doubles cannot hold safely is a big integer -/
def ofJsonNumber : JsonNumber → Value
  | .float x => .number x
  | .integer n =>
    if Double.maxSafeInteger < n.natAbs then
      match BigInt.ofInt? n with
      | some b => .bigint b
      | none => .number (Double.ofInt n)
    else .number (Double.ofInt n)

mutual

def ofJson : Json → Value
  | .null => .null
  | .bool b => .bool b
  | .number n => ofJsonNumber n
  | .string s => .string s
  | .array items => .array (ofJsonList items)
  | .object ⟨members, nodup⟩ => .object ⟨ofJsonMembers members, nodup⟩
termination_by structural j => j

def ofJsonList : List Json → List Value
  | [] => []
  | j :: rest => ofJson j :: ofJsonList rest
termination_by structural js => js

def ofJsonMembers : {names : List String} → Members Json names → Members Value names
  | _, .nil => .nil
  | _, .cons name j rest => .cons name (ofJson j) (ofJsonMembers rest)
termination_by structural _ ms => ms

end

end Value

/-- a symbol shows its description -/
def Symbol.display (s : Symbol) : String := "Symbol(" ++ s.description.getD "" ++ ")"

/-- a value as people see it: texts quoted, big integers marked, collections as JSON -/
def Value.display : Value → String
  | .undefined => "undefined"
  | .null => "null"
  | .bool b => if b then "true" else "false"
  | .number n => n.text
  | .bigint n => String.ofList (Text.intText n.toInt ++ ['n'])
  | .string s => Text.quoted s
  | .date t => t.text
  | .symbol s => s.display
  | v => v.toJson.text

end ValueSchema
