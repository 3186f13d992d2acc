import ValueSchema.Key
import ValueSchema.Validator.Basic
import ValueSchema.Validator.Size
import ValueSchema.Value.Same

/-!
Validators of values with parts. Each makes a new value of what its parts give, and places the issues of a part where the
part stands.
-/

namespace ValueSchema

/-- what happens to the members of an object that no field describes -/
inductive UnknownKeys (α : Type) where
  | strip
  | strict
  | passthrough
  /-- validates and keeps them -/
  | catchall (rest : α)

namespace Validator

/-- ends a run of parts with issues of the whole, unless the run was ended by an issue -/
def close (mode : Mode) (partIssues : List Issue) (wholeIssues : List Issue) (output : Value) : Outcome :=
  if mode.stops partIssues then .error partIssues else settle (partIssues ++ wholeIssues) output

/-- runs a validator on each element -/
def elements (a : Validator) (ctx : Context) (vs : List Value) : Option (List (Part Value)) :=
  Part.run ctx.mode (fun e => a.child (.index e.2) ctx e.1) vs.zipIdx

/-- arrays with one validator for all items; the length is checked last -/
def array (element : Validator) (sizes : Checks SizeTest) : Validator := fun ctx v =>
  match v with
  | .array items =>
    (element.elements ctx items).map fun parts =>
      close ctx.mode (Part.allIssues parts) (sizes.sizeIssues .array ctx items.length) (.array (Part.values parts))
  | v => some (ctx.wrongKind "array" v sizes.kindMessage)

/-- sets with one validator for all elements; the size that counts is that of the set returned, if there is one -/
def set (element : Validator) (sizes : Checks SizeTest) : Validator := fun ctx v =>
  match v with
  | .set vs =>
    (element.elements ctx vs).map fun parts =>
      let issues := Part.allIssues parts
      let output := Value.distinct (Part.values parts)
      let size := if issues.isEmpty then output.length else vs.length
      close ctx.mode issues (sizes.sizeIssues .set ctx size) (.set output)
  | v => some (ctx.wrongKind "set" v sizes.kindMessage)

/-- arrays with a validator for each place; another length is the only issue -/
def tuple (items : List Validator) : Validator := fun ctx v =>
  match v with
  | .array vs =>
    if vs.length = items.length then
      (Part.run ctx.mode (fun e => e.1.1.child (.index e.2) ctx e.1.2) (items.zip vs).zipIdx).map fun parts =>
        settle (Part.allIssues parts) (.array (Part.values parts))
    else some (ctx.fail (.tupleLength items.length vs.length) none)
  | v => some (ctx.wrongKind "array" v none)

/-- the issue about a name that is refused, with what was found wrong with it -/
def refusedKey (ctx : Context) (name : String) (nested : List Issue) : Issue :=
  ({ ctx.issue (.invalidKey name) none with nested := nested } : Issue).within (.key name)

/-- the name under which a member is kept; dangerous names are refused before and after the validator of names -/
def recordKey (key : Option Validator) (ctx : Context) (name : String) : Option (Part String) :=
  if Key.isDangerous name then some (.error [refusedKey ctx name []])
  else match key with
    | none => some (.ok name)
    | some a =>
      (a ctx (.string name)).map fun
        | .ok (.string other) => if Key.isDangerous other then .error [refusedKey ctx name []] else .ok other
        | .ok _ => .ok name
        | .error nested => .error [refusedKey ctx name nested]

/-- a member of a record: its name first, then its value -/
def recordEntry (key : Option Validator) (value : Validator) (ctx : Context) (e : String × Value) :
    Option (Part (String × Value)) :=
  (recordKey key ctx e.1).bind fun
    | .error issues => some (.error issues)
    | .ok name => (value.child (.key e.1) ctx e.2).map (Part.map (name, ·))

/-- objects with any names -/
def record (key : Option Validator) (value : Validator) : Validator := fun ctx v =>
  match v with
  | .object o =>
    (Part.run ctx.mode (recordEntry key value ctx) o.toList).map fun parts =>
      settle (Part.allIssues parts) (.object (Object.ofList (Part.values parts)))
  | v => some (ctx.wrongKind "object" v none)

/-- an entry of a map: key and value, both unless the first issue decides -/
def mapEntry (key value : Validator) (ctx : Context) (e : (Value × Value) × Nat) : Option (Part (Value × Value)) :=
  let placed (name : String) (p : Part Value) : Part Value := (p.within (.key name)).within (.index e.2)
  ((key ctx e.1.1).map (placed "key")).bind fun k =>
    if ctx.mode.stops k.issues then some (.error k.issues)
    else ((value ctx e.1.2).map (placed "value")).map fun w =>
      match k, w with
      | .ok k, .ok w => .ok (k, w)
      | k, w => .error (k.issues ++ w.issues)

/-- maps with one validator for keys and one for values -/
def map (key value : Validator) : Validator := fun ctx v =>
  match v with
  | .map entries =>
    (Part.run ctx.mode (mapEntry key value ctx) entries.zipIdx).map fun parts =>
      settle (Part.allIssues parts) (Value.ofEntries (Part.values parts))
  | v => some (ctx.wrongKind "map" v none)

/-- a field: a missing member is absence, and absence that stays so is no member of the output -/
def field (ctx : Context) (o : Object Value) (f : String × Validator) : Option (Part (Option (String × Value))) :=
  (f.2.child (.key f.1) ctx ((o.get? f.1).getD .undefined)).map
    (Part.map fun w => if o.contains f.1 || !w.isUndefined then some (f.1, w) else none)

/-- the members that no field describes -/
def extras (fields : List (String × Validator)) (o : Object Value) : List (String × Value) :=
  o.toList.filter fun e => !(fields.map Prod.fst).contains e.1

/-- what the policy makes of undescribed members: issues, and members to keep; dangerous names are never kept -/
def keepExtras (unknown : UnknownKeys Validator) (ctx : Context) (es : List (String × Value)) :
    Option (List (Part (String × Value))) :=
  let safe := es.filter fun e => !Key.isDangerous e.1
  match unknown with
  | .strip => some []
  | .strict =>
    some (if es.isEmpty then [] else [.error [ctx.issue (.unrecognizedKeys (es.map Prod.fst)) none]])
  | .passthrough => some (safe.map .ok)
  | .catchall a => Part.run ctx.mode (fun e => (a.child (.key e.1) ctx e.2).map (Part.map (e.1, ·))) safe

/-- objects with known fields, which come first and in their order in the output -/
def object (fields : List (String × Validator)) (unknown : UnknownKeys Validator) : Validator := fun ctx v =>
  match v with
  | .object o =>
    (Part.run ctx.mode (field ctx o) fields).bind fun known =>
      let issues := Part.allIssues known
      if ctx.mode.stops issues then some (.error issues)
      else (keepExtras unknown ctx (extras fields o)).map fun others =>
        settle (issues ++ Part.allIssues others)
          (.object (Object.ofList ((Part.values known).filterMap id ++ Part.values others)))
  | v => some (ctx.wrongKind "object" v none)

end Validator

end ValueSchema
