import Mathlib.Tactic
import ValueSchema.Schema.Discriminated
import ValueSchema.Schema.Validate

/-!
The parts of a schema, and induction over schemas.

A schema has schemas inside it: fields, elements, alternatives, the schema under a wrapper.

Results:
- `parts_induction`: what a schema has whenever its parts have it, every schema has.
- `Schema.All`: a condition on a schema and on every schema inside it.
-/

namespace ValueSchema

/-! ## Parts -/

/-- the schema of the members that no field describes, where there is one -/
def UnknownKeys.parts {α : Type} : UnknownKeys α → List α
  | .catchall rest => [rest]
  | _ => []

/-- the schemas of the fields, then that of other members -/
def ObjectType.parts (t : ObjectType Schema) : List Schema := t.shape.toList.map Prod.snd ++ t.unknown.parts

namespace Schema

/-- the schemas directly inside a schema; an option of a discriminated union counts as the schema of its objects -/
def parts : Schema → List Schema
  | .leaf _ => []
  | .object type => type.parts
  | .array element _ => [element]
  | .set element _ => [element]
  | .tuple items => items
  | .record key value => key.toList ++ [value]
  | .map key value => [key, value]
  | .union options => options
  | .discriminated _ options => options.map .object
  | .intersection left right => [left, right]
  | .optional inner => [inner]
  | .nullable inner => [inner]
  | .defaulting inner _ => [inner]
  | .catching inner _ => [inner]
  | .refine inner _ _ _ => [inner]
  | .transform inner _ => [inner]
  | .pipe first second => [first, second]
  | .lazy _ => []

/-- **Induction over schemas.** What a schema has whenever all its parts have it, every schema has. -/
@[elab_as_elim]
theorem parts_induction {motive : Schema → Prop} (step : ∀ s : Schema, (∀ t ∈ s.parts, motive t) → motive s)
    (s : Schema) : motive s := by
  -- the recursor also passes through lists, options, objects and policies: there every schema found has the property
  apply @Schema.rec motive (fun type => motive (.object type)) (fun ss => ∀ t ∈ ss, motive t)
    (fun key => ∀ t ∈ key.toList, motive t) (fun types => ∀ t ∈ types, motive (.object t))
    (fun shape => ∀ e ∈ shape.toList, motive e.2) (fun unknown => ∀ t ∈ unknown.parts, motive t)
    (fun _ fields => ∀ e ∈ fields.toList, motive e.2)
  case leaf => exact fun l => step (.leaf l) (by simp [parts])
  case object => exact fun _ h => h
  case array => exact fun e sizes h => step (.array e sizes) (by simp [parts, h])
  case set => exact fun e sizes h => step (.set e sizes) (by simp [parts, h])
  case tuple => exact fun items h => step (.tuple items) h
  case record =>
    intro key value hk hv
    refine step (.record key value) fun t ht => ?_
    rcases List.mem_append.1 ht with ht | ht
    · exact hk t ht
    · rw [List.mem_singleton.1 ht]; exact hv
  case map => exact fun key value hk hv => step (.map key value) (by simp [parts, hk, hv])
  case union => exact fun options h => step (.union options) h
  case discriminated =>
    intro tag options h
    refine step (.discriminated tag options) fun t ht => ?_
    obtain ⟨type, htype, rfl⟩ := List.mem_map.1 ht
    exact h type htype
  case intersection => exact fun l r hl hr => step (.intersection l r) (by simp [parts, hl, hr])
  case optional => exact fun inner h => step (.optional inner) (by simp [parts, h])
  case nullable => exact fun inner h => step (.nullable inner) (by simp [parts, h])
  case defaulting => exact fun inner w h => step (.defaulting inner w) (by simp [parts, h])
  case catching => exact fun inner w h => step (.catching inner w) (by simp [parts, h])
  case refine => exact fun inner p m path h => step (.refine inner p m path) (by simp [parts, h])
  case transform => exact fun inner c h => step (.transform inner c) (by simp [parts, h])
  case pipe => exact fun a b ha hb => step (.pipe a b) (by simp [parts, ha, hb])
  case lazy => exact fun name => step (.lazy name) (by simp [parts])
  case mk =>
    intro shape unknown hs hu
    refine step (.object ⟨shape, unknown⟩) fun t ht => ?_
    rcases List.mem_append.1 ht with ht | ht
    · obtain ⟨e, he, rfl⟩ := List.mem_map.1 ht
      exact hs e he
    · exact hu t ht
  all_goals simp_all [Object.toList, Members.toList, UnknownKeys.parts]

/-- a condition on a schema and on every schema inside it -/
inductive All (P : Schema → Prop) : Schema → Prop
  | intro {s : Schema} : P s → (∀ t ∈ s.parts, All P t) → All P s

theorem All.here {P : Schema → Prop} {s : Schema} : s.All P → P s
  | .intro h _ => h

theorem All.parts {P : Schema → Prop} {s : Schema} : s.All P → ∀ t ∈ s.parts, t.All P
  | .intro _ h => h

theorem all_true (s : Schema) : s.All fun _ => True := by
  induction s using parts_induction with
  | step s ih => exact .intro trivial ih

end Schema

end ValueSchema
