import ValueSchema.Double.Text
import ValueSchema.Object

/-!
JSON trees and their compact text.

Numbers are integers or doubles, as they were written. Objects built with `Json.ofMembers` have their names in order of
code points, and of a repeated name the last value stays.
-/

namespace ValueSchema

/-- a number as written: whole, or with a point or exponent -/
inductive JsonNumber where
  | integer (n : Int)
  | float (x : Double)
  deriving DecidableEq

inductive Json where
  | null
  | bool (b : Bool)
  | number (n : JsonNumber)
  | string (s : String)
  | array (items : List Json)
  | object (members : Object Json)

/-- members in order of their names -/
def sortByName {α : Type} (entries : List (String × α)) : List (String × α) :=
  entries.mergeSort fun a b => !decide (b.1 < a.1)

theorem nodup_sortByName {α : Type} {entries : List (String × α)} (h : (entries.map Prod.fst).Nodup) :
    ((sortByName entries).map Prod.fst).Nodup :=
  ((List.mergeSort_perm entries _).map Prod.fst).nodup_iff.2 h

/-- the same members in order of their names -/
def Object.sorted {α : Type} (o : Object α) : Object α :=
  Object.ofNodup (sortByName o.toList) (nodup_sortByName o.nodup_toList)

namespace Json

/-- the object of some members -/
def ofMembers (entries : List (String × Json)) : Json := .object (Object.ofList entries).sorted

/-- one character inside quotes: quotes, backslashes and controls are escaped -/
def escapedChar (c : Char) : List Char :=
  if c = '"' then ['\\', '"']
  else if c = '\\' then ['\\', '\\']
  else if c.toNat = 8 then ['\\', 'b']
  else if c = '\t' then ['\\', 't']
  else if c = '\n' then ['\\', 'n']
  else if c.toNat = 12 then ['\\', 'f']
  else if c = '\r' then ['\\', 'r']
  else if c.toNat < 32 then ['\\', 'u', '0', '0', Nat.digitChar (c.toNat / 16), Nat.digitChar (c.toNat % 16)]
  else [c]

def quotedText (s : String) : String := String.ofList ('"' :: (s.toList.flatMap escapedChar ++ ['"']))

def numberText : JsonNumber → String
  | .integer n => String.ofList (Text.intText n)
  | .float x => x.jsonText?.getD "null"

mutual

/-- text without blanks -/
def text : Json → String
  | .null => "null"
  | .bool b => if b then "true" else "false"
  | .number n => numberText n
  | .string s => quotedText s
  | .array items => "[" ++ String.intercalate "," (itemTexts items) ++ "]"
  | .object ⟨members, _⟩ => "\x7b" ++ String.intercalate "," (memberTexts members) ++ "\x7d"
termination_by structural j => j

def itemTexts : List Json → List String
  | [] => []
  | j :: rest => j.text :: itemTexts rest
termination_by structural js => js

def memberTexts : {names : List String} → Members Json names → List String
  | _, .nil => []
  | _, .cons name j rest => (quotedText name ++ ":" ++ j.text) :: memberTexts rest
termination_by structural _ ms => ms

end

end Json

end ValueSchema
