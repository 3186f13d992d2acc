import ValueSchema.Value.Basic

/-!
Equality of values.

Both equalities compare arrays, sets and maps in order, objects by name and symbols by identity; values of different kinds
differ. They part on numbers only: `Value.same` takes not-a-number as equal to itself, `Value.eq` does not. Zero equals
negative zero in both.

Sets and maps are built without repetition up to `Value.same`.
-/

namespace ValueSchema

mutual

/-- equality of values over an equality of numbers -/
def Value.eqBy (r : Double → Double → Bool) : Value → Value → Bool
  | .undefined, .undefined => true
  | .null, .null => true
  | .bool a, .bool b => a == b
  | .number a, .number b => r a b
  | .bigint a, .bigint b => decide (a = b)
  | .string a, .string b => a == b
  | .date a, .date b => decide (a = b)
  | .symbol a, .symbol b => a.id == b.id
  | .array a, .array b => Value.eqListBy r a b
  | .object (@Object.mk _ names a _), .object b => names.length == b.size && Value.eqMembersBy r a b
  | .set a, .set b => Value.eqListBy r a b
  | .map a, .map b => Value.eqEntriesBy r a b
  | _, _ => false
termination_by structural v => v

/-- equality element by element -/
def Value.eqListBy (r : Double → Double → Bool) : List Value → List Value → Bool
  | [], [] => true
  | x :: xs, y :: ys => x.eqBy r y && Value.eqListBy r xs ys
  | _, _ => false
termination_by structural vs => vs

/-- each member has an equal one under its name -/
def Value.eqMembersBy (r : Double → Double → Bool) : {names : List String} → Members Value names → Object Value → Bool
  | _, .nil, _ => true
  | _, .cons name x rest, b =>
    (match b.get? name with
      | some y => x.eqBy r y
      | none => false) && Value.eqMembersBy r rest b
termination_by structural _ m => m

/-- equality entry by entry -/
def Value.eqEntriesBy (r : Double → Double → Bool) : List (Value × Value) → List (Value × Value) → Bool
  | [], [] => true
  | (k, v) :: xs, (k', v') :: ys => k.eqBy r k' && v.eqBy r v' && Value.eqEntriesBy r xs ys
  | _, _ => false
termination_by structural es => es

end

namespace Value

/-- the equality of literals, sets and maps: not-a-number is the same as itself -/
def same (a b : Value) : Bool := a.eqBy Double.same b

/-- plain equality: not-a-number differs from everything -/
def eq (a b : Value) : Bool := a.eqBy Double.numEq b

/-- plain equality of values that may be missing -/
def eqOption : Option Value → Option Value → Bool
  | none, none => true
  | some a, some b => a.eq b
  | _, _ => false

/-- appends a value unless it is there already -/
def addElement (elements : List Value) (v : Value) : List Value :=
  if elements.any (·.same v) then elements else elements ++ [v]

/-- the first occurrences in a list -/
def distinct (elements : List Value) : List Value := elements.foldl addElement []

/-- puts a value under a key: in place where the key stands, at the end where it does not -/
def putEntry (key value : Value) : List (Value × Value) → List (Value × Value)
  | [] => [(key, value)]
  | entry :: rest => if entry.1.same key then (entry.1, value) :: rest else entry :: putEntry key value rest

/-- entries under distinct keys: a key stays where and as it stood first and takes the latest value -/
def distinctEntries (entries : List (Value × Value)) : List (Value × Value) :=
  entries.foldl (fun acc e => putEntry e.1 e.2 acc) []

/-- the set of some elements -/
def ofElements (elements : List Value) : Value := .set (distinct elements)

/-- the map of some entries -/
def ofEntries (entries : List (Value × Value)) : Value := .map (distinctEntries entries)

end Value

end ValueSchema
