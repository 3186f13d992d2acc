import ValueSchema.Schema.Kinds
import ValueSchema.Validator.Choice

/-!
The validator of a schema.

`Schema.validator` turns a schema into its validator, given those of the names in it; this follows the schema. `Schema.run`
looks names up, one inside the other at most so deep. `Schema.validate` tries greater and greater depths until one is
enough. Where names lead on without end, none is, and there is no outcome.
-/

namespace ValueSchema

/-- validators of names -/
abbrev References := String → Validator

mutual

def Schema.validator (refs : References) : Schema → Validator
  | .leaf l => fun ctx v => some (l.validate ctx v)
  | .object type => Schema.objectValidator refs type
  | .array element sizes => Validator.array (element.validator refs) sizes
  | .set element sizes => Validator.set (element.validator refs) sizes
  | .tuple items => Validator.tuple (Schema.validators refs items)
  | .record key value => Validator.record (Schema.keyValidator refs key) (value.validator refs)
  | .map key value => Validator.map (key.validator refs) (value.validator refs)
  | .union options => Validator.union (Schema.alternatives refs options)
  | .discriminated tag options => Validator.discriminated tag (Schema.taggedOptions refs tag options)
  | .intersection left right => Validator.intersection (left.validator refs) (right.validator refs)
  | .optional inner => Validator.optional (inner.validator refs)
  | .nullable inner => Validator.nullable (inner.validator refs)
  | .defaulting inner fallback => Validator.defaulting (inner.validator refs) fallback
  | .catching inner fallback => Validator.catching (inner.validator refs) fallback
  | .refine inner holds message path => Validator.refine (inner.validator refs) holds message path
  | .transform inner convert => Validator.transform (inner.validator refs) convert
  | .pipe first second => Validator.pipe (first.validator refs) (second.validator refs)
  | .lazy name => refs name
termination_by structural s => s

/-- the validator of an object type -/
def Schema.objectValidator (refs : References) : ObjectType Schema → Validator
  | ⟨⟨fields, _⟩, unknown⟩ =>
    Validator.object (Schema.fieldValidators refs fields) (Schema.unknownValidator refs unknown)
termination_by structural type => type

def Schema.fieldValidators (refs : References) : {names : List String} → Members Schema names → List (String × Validator)
  | _, .nil => []
  | _, .cons name s rest => (name, s.validator refs) :: Schema.fieldValidators refs rest
termination_by structural _ fields => fields

def Schema.unknownValidator (refs : References) : UnknownKeys Schema → UnknownKeys Validator
  | .strip => .strip
  | .strict => .strict
  | .passthrough => .passthrough
  | .catchall s => .catchall (s.validator refs)
termination_by structural unknown => unknown

def Schema.validators (refs : References) : List Schema → List Validator
  | [] => []
  | s :: rest => s.validator refs :: Schema.validators refs rest
termination_by structural ss => ss

def Schema.keyValidator (refs : References) : Option Schema → Option Validator
  | none => none
  | some s => some (s.validator refs)
termination_by structural key => key

/-- the alternatives of a union -/
def Schema.alternatives (refs : References) : List Schema → List Alternative
  | [] => []
  | s :: rest => ⟨s.inputKinds?, s.validator refs⟩ :: Schema.alternatives refs rest
termination_by structural ss => ss

/-- the options of a discriminated union -/
def Schema.taggedOptions (refs : References) (tag : String) : List (ObjectType Schema) → List TaggedOption
  | [] => []
  | type :: rest =>
    ⟨((type.shape.get? tag).bind Schema.literalValues?).getD [], Schema.objectValidator refs type⟩ ::
      Schema.taggedOptions refs tag rest
termination_by structural types => types

end

/-! ## Depths -/

/-- the first of greater and greater depths that gives an answer -/
def answeringDepth {α : Type} (answer : Nat → Option α) : Nat → Nat :=
  repeatM (m := Id) fun depth => if (answer depth).isSome then .inr depth else .inl (2 * depth + 1)

theorem answeringDepth_eq {α : Type} (answer : Nat → Option α) (depth : Nat) :
    answeringDepth answer depth = if (answer depth).isSome then depth else answeringDepth answer (2 * depth + 1) := by
  refine (repeatM_eq_of_monadTail (m := Id) depth).trans ?_
  simp only [repeatM.body]
  cases (answer depth).isSome <;> rfl

/-- a depth that gives an answer is found if from some depth on all do -/
theorem isSome_answeringDepth {α : Type} {answer : Nat → Option α} {n : Nat} (answers : ∀ m, n ≤ m → (answer m).isSome)
    (depth : Nat) : (answer (answeringDepth answer depth)).isSome := by
  -- each step shortens the way to the depth that answers
  induction hleft : n - depth using Nat.strongRecOn generalizing depth with
  | ind left ih =>
    rw [answeringDepth_eq]
    split
    · assumption
    · rename_i hnone
      have hlt : depth < n := Nat.lt_of_not_le fun hle => hnone (answers depth hle)
      exact ih (n - (2 * depth + 1)) (by omega) (2 * depth + 1) rfl

/-- the answer of the first of greater and greater depths that gives one; none if no depth does -/
def deepening {α : Type} (answer : Nat → Option α) : Option α :=
  answer (answeringDepth answer 0)

/-- what some depth answers, deepening does, if greater depths answer the same and no depth answers anything else -/
theorem deepening_eq_some {α : Type} {answer : Nat → Option α} {n : Nat} {a : α}
    (stays : ∀ m, n ≤ m → answer m = some a) (unique : ∀ m b, answer m = some b → b = a) :
    deepening answer = some a := by
  have hsome : (deepening answer).isSome := by
    refine isSome_answeringDepth (n := n) (fun m hm => ?_) 0
    rw [stays m hm]
    rfl
  obtain ⟨b, hb⟩ := Option.isSome_iff_exists.1 hsome
  exact hb.trans (congrArg some (unique _ b hb))

namespace Schema

/-- the validator of a schema that follows names at most so deep -/
def run (defs : Definitions) : Nat → Schema → Validator
  | 0, s => s.validator fun _ _ _ => none
  | n + 1, s => s.validator fun name => match defs.lookup name with
    | some d => run defs n d
    | none => fun _ _ => none

/-- the outcome of a schema on a value, with names followed as deep as it takes; none if no depth is enough, as names lead
on without end or to no definition -/
def validate (defs : Definitions) (s : Schema) (ctx : Context) (v : Value) : Option Outcome :=
  deepening fun depth => s.run defs depth ctx v

end Schema

end ValueSchema
