import ValueSchema.Context
import ValueSchema.Proofs.Object.Lookup
import ValueSchema.Schema.Validate

/-!
Places in a value, and issues that stand at them.

A name steps into a member of an object, a position into an item of an array or an element of a set, and a position with
`key` or `value` behind it into an entry of a map; `Value.Holds` says what stands at the end. A schema leads along the same
paths: `Schema.Assigns` says which schemas it has for what stands there. A path resolves if it leads to a part of the value,
or if its last step is a name that an object in the value lacks and that a schema for this object declares.

Results:
- `Resolves.within`: a place in a part is a place in the whole, with the steps to the part before it.
- `Resolves.eq_nil_of_undefined`, `Resolves.eq_nil_of_string`: absence and texts have no place but their own.
- `mem_names_of_resolves_record`: names in a record are places only where the object has them.
- `Addresses.placed`: an issue about a part is placed in the whole by the steps to the part.
-/

namespace ValueSchema

/-! ## Places -/

/-- what a value holds at the end of a path -/
inductive Value.Holds : Value → Path → Value → Prop
  | here (v : Value) : Holds v [] v
  | member {o : Object Value} {name : String} {u w : Value} {path : Path} :
    o.get? name = some u → Holds u path w → Holds (.object o) (.key name :: path) w
  | item {items : List Value} {position : Nat} {u w : Value} {path : Path} :
    items[position]? = some u → Holds u path w → Holds (.array items) (.index position :: path) w
  | element {elements : List Value} {position : Nat} {u w : Value} {path : Path} :
    elements[position]? = some u → Holds u path w → Holds (.set elements) (.index position :: path) w
  | entryKey {entries : List (Value × Value)} {position : Nat} {e : Value × Value} {w : Value} {path : Path} :
    entries[position]? = some e → Holds e.1 path w → Holds (.map entries) (.index position :: .key "key" :: path) w
  | entryValue {entries : List (Value × Value)} {position : Nat} {e : Value × Value} {w : Value} {path : Path} :
    entries[position]? = some e → Holds e.2 path w → Holds (.map entries) (.index position :: .key "value" :: path) w

namespace Schema

/-- the schemas that a schema asks about the value that it is given itself -/
def askedHere : Schema → List Schema
  | .union options => options
  | .discriminated _ options => options.map .object
  | .intersection left right => [left, right]
  | .optional inner => [inner]
  | .nullable inner => [inner]
  | .defaulting inner _ => [inner]
  | .catching inner _ => [inner]
  | .refine inner _ _ _ => [inner]
  | .transform inner _ => [inner]
  | .pipe first _ => [first]
  | _ => []

/-- the schemas that a schema has for what stands at the end of a path -/
inductive Assigns (defs : Definitions) : Schema → Path → Schema → Prop
  | here (s : Schema) : Assigns defs s [] s
  | asked {s t r : Schema} {path : Path} : t ∈ s.askedHere → Assigns defs t path r → Assigns defs s path r
  | lazy {name : String} {d r : Schema} {path : Path} : defs.lookup name = some d → Assigns defs d path r →
    Assigns defs (.lazy name) path r
  | field {type : ObjectType Schema} {f : String × Schema} {r : Schema} {path : Path} : f ∈ type.shape.toList →
    Assigns defs f.2 path r → Assigns defs (.object type) (.key f.1 :: path) r
  | other {type : ObjectType Schema} {name : String} {t r : Schema} {path : Path} : type.unknown = .catchall t →
    name ∉ type.shape.names → Assigns defs t path r → Assigns defs (.object type) (.key name :: path) r
  | item {element r : Schema} {sizes : Checks SizeTest} {position : Nat} {path : Path} : Assigns defs element path r →
    Assigns defs (.array element sizes) (.index position :: path) r
  | element {element r : Schema} {sizes : Checks SizeTest} {position : Nat} {path : Path} : Assigns defs element path r →
    Assigns defs (.set element sizes) (.index position :: path) r
  | component {items : List Schema} {position : Nat} {t r : Schema} {path : Path} : items[position]? = some t →
    Assigns defs t path r → Assigns defs (.tuple items) (.index position :: path) r
  | member {key : Option Schema} {value r : Schema} {name : String} {path : Path} : Assigns defs value path r →
    Assigns defs (.record key value) (.key name :: path) r
  | entryKey {key value r : Schema} {position : Nat} {path : Path} : Assigns defs key path r →
    Assigns defs (.map key value) (.index position :: .key "key" :: path) r
  | entryValue {key value r : Schema} {position : Nat} {path : Path} : Assigns defs value path r →
    Assigns defs (.map key value) (.index position :: .key "value" :: path) r

/-- the names that a schema declares for members of an object: its fields, or the name of its tag -/
def DeclaresMember (name : String) : Schema → Prop
  | .object type => name ∈ type.shape.names
  | .discriminated tag _ => name = tag
  | _ => False

/-- a path leads to a part of the value, or in its last step to a member that a schema declares for an object in the value
and that this object lacks -/
inductive Resolves (defs : Definitions) (s : Schema) (v : Value) : Path → Prop
  | part {path : Path} {u : Value} : v.Holds path u → Resolves defs s v path
  | missing {path : Path} {o : Object Value} {t : Schema} {name : String} : v.Holds path (.object o) →
    s.Assigns defs path t → t.DeclaresMember name → o.get? name = none → Resolves defs s v (path ++ [.key name])

namespace Resolves

variable {defs : Definitions} {s t : Schema} {u v : Value} {path : Path}

theorem here (defs : Definitions) (s : Schema) (v : Value) : s.Resolves defs v [] := .part (.here v)

/-- a place of what stands at the end of a path, under a schema for it, is a place of the whole -/
theorem within (before : Path) (hvalue : ∀ path w, u.Holds path w → v.Holds (before ++ path) w)
    (hschema : ∀ path r, t.Assigns defs path r → s.Assigns defs (before ++ path) r) (h : t.Resolves defs u path) :
    s.Resolves defs v (before ++ path) := by
  cases h with
  | part hu => exact .part (hvalue _ _ hu)
  | missing hu ht hname hnone =>
    rw [← List.append_assoc]
    exact .missing (hvalue _ _ hu) (hschema _ _ ht) hname hnone

/-- a schema that is asked about the value itself has the same places -/
theorem asked (ht : t ∈ s.askedHere) (h : t.Resolves defs v path) : s.Resolves defs v path :=
  within [] (fun _ _ hw => hw) (fun _ _ => .asked ht) h

theorem eq_nil_of_undefined (h : s.Resolves defs .undefined path) : path = [] := by
  cases h with
  | part hu =>
    cases hu
    rfl
  | missing hu => cases hu

theorem eq_nil_of_string {text : String} (h : s.Resolves defs (.string text) path) : path = [] := by
  cases h with
  | part hu =>
    cases hu
    rfl
  | missing hu => cases hu

/-- a name that a schema declares for the object in hand is a place, whether the object has it or not -/
theorem declared {o : Object Value} {name : String} (hname : s.DeclaresMember name) :
    s.Resolves defs (.object o) [.key name] := by
  cases hget : o.get? name with
  | some u => exact .part (.member hget (.here u))
  | none =>
    show s.Resolves defs (.object o) ([] ++ [.key name])
    exact .missing (.here _) (.here s) hname hget

/-- a place of what stands under the name of a field, absence where nothing does, is a place of the object -/
theorem field {type : ObjectType Schema} {o : Object Value} {f : String × Schema} (hf : f ∈ type.shape.toList)
    (h : f.2.Resolves defs ((o.get? f.1).getD .undefined) path) :
    (Schema.object type).Resolves defs (.object o) (.key f.1 :: path) := by
  cases hget : o.get? f.1 with
  | some u =>
    rw [hget, Option.getD_some] at h
    exact within [.key f.1] (fun _ _ => .member hget) (fun _ _ => .field hf) h
  | none =>
    rw [hget, Option.getD_none] at h
    rw [eq_nil_of_undefined h]
    exact declared (Object.mem_names_iff.2 ⟨f.2, hf⟩)

end Resolves

/-- a record declares no names: in an object, its places begin with names that the object has -/
theorem mem_names_of_resolves_record {defs : Definitions} {key : Option Schema} {value : Schema} {o : Object Value}
    {name : String} {path : Path} (h : (Schema.record key value).Resolves defs (.object o) (.key name :: path)) :
    name ∈ o.names := by
  -- a path that begins with a name and leads to something steps into a member
  have hholds : ∀ {rest : Path} {w : Value}, (Value.object o).Holds (.key name :: rest) w → name ∈ o.names := by
    intro rest w hw
    cases hw with
    | member hget _ => exact Object.mem_names_iff.2 ⟨_, Object.get?_eq_some_iff.1 hget⟩
  generalize hpath : (Segment.key name :: path : Path) = whole at h
  cases h with
  | part hw =>
    subst hpath
    exact hholds hw
  | @missing before _ t _ hw ht hdeclares _ =>
    cases before with
    | nil =>
      cases ht with
      | here => exact hdeclares.elim
      | asked hasked _ => cases hasked
    | cons segment rest =>
      obtain ⟨rfl, -⟩ := List.cons.inj hpath
      exact hholds hw

end Schema

/-! ## Issues at places -/

/-- the issue stands at such a place, and so does every issue nested in it, at every depth, when the paths of the issues
around it are put before its own; `base` is the path of the issues around this one -/
inductive Issue.Addresses (place : Path → Prop) : Path → Issue → Prop
  | intro {base : Path} {i : Issue} : place (base ++ i.path) →
    (∀ j ∈ i.nested, Addresses place (base ++ i.path) j) → Addresses place base i

namespace Issue.Addresses

variable {place others : Path → Prop} {base : Path} {i : Issue}

theorem mono (h : ∀ path, place path → others path) (hi : i.Addresses place base) : i.Addresses others base := by
  induction hi with
  | intro hpath _ ih => exact .intro (h _ hpath) ih

/-- steps before all places are steps before the path of the issues around -/
theorem moved (before : Path) (hi : i.Addresses (fun path => place (before ++ path)) base) :
    i.Addresses place (before ++ base) := by
  induction hi with
  | intro hpath _ ih =>
    refine .intro ?_ fun j hj => ?_
    · rw [List.append_assoc]
      exact hpath
    · rw [List.append_assoc]
      exact ih j hj

/-- an issue about a part is an issue about the whole, with the steps to the part before its path -/
theorem placed (before : Path) (hi : i.Addresses (fun path => place (before ++ path)) []) :
    ({ i with path := before ++ i.path } : Issue).Addresses place [] := by
  cases hi with
  | intro hpath hnested => exact .intro hpath fun j hj => (hnested j hj).moved before

end Issue.Addresses

/-- issues at such places -/
def Issue.AllAddress (place : Path → Prop) (issues : List Issue) : Prop := ∀ i ∈ issues, i.Addresses place []

namespace Issue.AllAddress

variable {place : Path → Prop} {issues : List Issue}

theorem nil (place : Path → Prop) : AllAddress place [] := nofun

theorem one {i : Issue} (h : i.Addresses place []) : AllAddress place [i] := by
  intro j hj
  rwa [List.mem_singleton.1 hj]

/-- an issue at the root -/
theorem issue (here : place []) (ctx : Context) (m : Message) (own : Option String) :
    AllAddress place [ctx.issue m own] := .one (.intro here nofun)

theorem mono {others : Path → Prop} (h : ∀ path, place path → others path) (hi : AllAddress place issues) :
    AllAddress others issues := fun i hmem => (hi i hmem).mono h

theorem append {others : List Issue} (h : AllAddress place issues) (h' : AllAddress place others) :
    AllAddress place (issues ++ others) := by
  intro i hi
  rcases List.mem_append.1 hi with hi | hi
  · exact h i hi
  · exact h' i hi

theorem within {segment : Segment} (h : AllAddress (fun path => place (segment :: path)) issues) :
    AllAddress place (allWithin segment issues) := by
  intro i hi
  obtain ⟨j, hj, rfl⟩ := List.mem_map.1 hi
  exact (h j hj).placed [segment]

end Issue.AllAddress

end ValueSchema
