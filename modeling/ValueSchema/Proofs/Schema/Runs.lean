import ValueSchema.Proofs.Object.Lookup
import ValueSchema.Proofs.Schema.Parts

/-!
The validator of a schema as a function of the validators of its parts, and runs as validators over references.

Results:
- `validator_object`, `validator_tuple`, …: each composite schema is its combinator over the validators of its parts.
- `run_eq`: a run is a validator whose names are followed at most so deep.
- `run_induction`: what schemas of a class pass on from the validators of names to their own validator, every run has.
- `PassedOnBy.run`: what combinators pass on from their parts in schemas of certain forms, every run of these has.
- `PassedOn.run`: what every combinator passes on from its parts, every run of every schema has.
-/

namespace ValueSchema.Schema

/-! ## Combinators over the parts -/

section Equations

variable (refs : References)

theorem fieldValidators_eq {names : List String} (fields : Members Schema names) :
    fieldValidators refs fields = fields.toList.map fun f => (f.1, f.2.validator refs) := by
  induction fields with
  | nil => rfl
  | cons name s rest ih => exact congrArg ((name, s.validator refs) :: ·) ih

theorem validators_eq (ss : List Schema) : validators refs ss = ss.map (validator refs) := by
  induction ss with
  | nil => rfl
  | cons s rest ih => exact congrArg (s.validator refs :: ·) ih

theorem keyValidator_eq (key : Option Schema) : keyValidator refs key = key.map (validator refs) := by
  cases key <;> rfl

theorem alternatives_eq (ss : List Schema) :
    alternatives refs ss = ss.map fun s => ⟨s.inputKinds?, s.validator refs⟩ := by
  induction ss with
  | nil => rfl
  | cons s rest ih => exact congrArg (⟨s.inputKinds?, s.validator refs⟩ :: ·) ih

theorem unknownValidator_parts (unknown : UnknownKeys Schema) :
    (unknownValidator refs unknown).parts = unknown.parts.map (validator refs) := by
  cases unknown <;> rfl

/-- an object type as a combinator of the validators of its fields -/
theorem validator_object (type : ObjectType Schema) :
    (Schema.object type).validator refs =
      Validator.object (type.shape.toList.map fun f => (f.1, f.2.validator refs)) (unknownValidator refs type.unknown) := by
  obtain ⟨⟨fields, nodup⟩, unknown⟩ := type
  simp only [validator, objectValidator, fieldValidators_eq, Object.toList]

theorem taggedOptions_eq (tag : String) (types : List (ObjectType Schema)) :
    taggedOptions refs tag types =
      types.map fun type => ⟨(tagsOf? tag type).getD [], (Schema.object type).validator refs⟩ := by
  induction types with
  | nil => rfl
  | cons type rest ih =>
    simp only [taggedOptions, List.map_cons, ih, tagsOf?, validator]

theorem validator_tuple (items : List Schema) :
    (Schema.tuple items).validator refs = Validator.tuple (items.map (validator refs)) := by
  simp only [validator, validators_eq]

theorem validator_record (key : Option Schema) (value : Schema) :
    (Schema.record key value).validator refs = Validator.record (key.map (validator refs)) (value.validator refs) := by
  simp only [validator, keyValidator_eq]

theorem validator_union (options : List Schema) :
    (Schema.union options).validator refs =
      Validator.union (options.map fun s => ⟨s.inputKinds?, s.validator refs⟩) := by
  simp only [validator, alternatives_eq]

theorem validator_discriminated (tag : String) (options : List (ObjectType Schema)) :
    (Schema.discriminated tag options).validator refs =
      Validator.discriminated tag
        (options.map fun type => ⟨(tagsOf? tag type).getD [], (Schema.object type).validator refs⟩) := by
  simp only [validator, taggedOptions_eq]

end Equations

/-! ## Runs -/

/-- the validators of names that are followed at most so deep -/
def references (defs : Definitions) : Nat → References
  | 0 => fun _ _ _ => none
  | n + 1 => fun name => match defs.lookup name with
    | some d => run defs n d
    | none => fun _ _ => none

theorem run_eq (defs : Definitions) (n : Nat) (s : Schema) : s.run defs n = s.validator (references defs n) := by
  cases n <;> rfl

/-- **Induction over runs.** A property of the validator that answers nothing, which every schema of a class passes on
from the validators of names to its own, holds of every run of a schema of the class. -/
theorem run_induction {Q : Validator → Prop} {P : Schema → Prop} {defs : Definitions} (none : Q fun _ _ => none)
    (step : ∀ refs : References, (∀ name, Q (refs name)) → ∀ s, P s → Q (s.validator refs))
    (hdefs : ∀ d ∈ defs, P d.2) (n : Nat) {s : Schema} (hs : P s) : Q (s.run defs n) := by
  have names : ∀ n name, Q (references defs n name) := by
    intro n
    induction n with
    | zero => exact fun _ => none
    | succ n ih =>
      intro name
      simp only [references]
      split
      · rename_i d hd
        have hmem : (name, d) ∈ defs := mem_of_lookup hd
        rw [run_eq]
        exact step _ ih d (hdefs _ hmem)
      · exact none
  rw [run_eq]
  exact step _ (names n) s hs

/-! ## Properties of runs -/

/-- what the combinators of schemas of certain forms pass on from the validators of their parts to their own -/
structure PassedOnBy (P : Schema → Prop) (Q : Validator → Prop) : Prop where
  leaf {l : Leaf} : P (.leaf l) → Q fun ctx v => some (l.validate ctx v)
  object {type : ObjectType Schema} {fields : List (String × Validator)} {unknown : UnknownKeys Validator} :
    P (.object type) → (∀ f ∈ fields, Q f.2) → (∀ a ∈ unknown.parts, Q a) → Q (Validator.object fields unknown)
  array {s : Schema} {a : Validator} {sizes : Checks SizeTest} : P (.array s sizes) → Q a → Q (Validator.array a sizes)
  set {s : Schema} {a : Validator} {sizes : Checks SizeTest} : P (.set s sizes) → Q a → Q (Validator.set a sizes)
  tuple {ss : List Schema} {items : List Validator} :
    P (.tuple ss) → (∀ a ∈ items, Q a) → Q (Validator.tuple items)
  record {k : Option Schema} {s : Schema} {f : Schema → Validator} {a : Validator} :
    P (.record k s) → (∀ t ∈ k, Q (f t)) → Q a → Q (Validator.record (k.map f) a)
  map {k s : Schema} {key a : Validator} : P (.map k s) → Q key → Q a → Q (Validator.map key a)
  union {ss : List Schema} {alternatives : List Alternative} :
    P (.union ss) → (∀ b ∈ alternatives, Q b.validator) → Q (Validator.union alternatives)
  discriminated {tag : String} {types : List (ObjectType Schema)} {options : List TaggedOption} :
    P (.discriminated tag types) → (∀ option ∈ options, Q option.validator) → Q (Validator.discriminated tag options)
  intersection {s t : Schema} {a b : Validator} : P (.intersection s t) → Q a → Q b → Q (Validator.intersection a b)
  optional {s : Schema} {a : Validator} : P (.optional s) → Q a → Q (Validator.optional a)
  nullable {s : Schema} {a : Validator} : P (.nullable s) → Q a → Q (Validator.nullable a)
  defaulting {s : Schema} {a : Validator} {fallback : Value} :
    P (.defaulting s fallback) → Q a → Q (Validator.defaulting a fallback)
  catching {s : Schema} {a : Validator} {fallback : Value} :
    P (.catching s fallback) → Q a → Q (Validator.catching a fallback)
  refine {s : Schema} {a : Validator} {holds : Predicate} {message : String} {path : Path} :
    P (.refine s holds message path) → Q a → Q (Validator.refine a holds message path)
  transform {s : Schema} {a : Validator} {convert : Conversion} :
    P (.transform s convert) → Q a → Q (Validator.transform a convert)
  pipe {s t : Schema} {a b : Validator} : P (.pipe s t) → Q a → Q b → Q (Validator.pipe a b)

namespace PassedOnBy

variable {P : Schema → Prop} {Q : Validator → Prop} (h : PassedOnBy P Q)
include h

/-- what combinators pass on, schemas of these forms pass on from the validators of names -/
theorem validator {refs : References} (hrefs : ∀ name, Q (refs name)) {s : Schema} (hs : s.All P) :
    Q (s.validator refs) := by
  induction s using parts_induction with
  | step s ih =>
    have inside : ∀ t ∈ s.parts, Q (t.validator refs) := fun t ht => ih t ht (hs.parts t ht)
    have form := hs.here
    cases s with
    | leaf l => exact h.leaf form
    | object type =>
      rw [validator_object]
      refine h.object form (fun f hf => ?_) fun a ha => ?_
      · obtain ⟨e, he, rfl⟩ := List.mem_map.1 hf
        exact inside e.2 (List.mem_append_left _ (List.mem_map_of_mem he))
      · rw [unknownValidator_parts] at ha
        obtain ⟨t, ht, rfl⟩ := List.mem_map.1 ha
        exact inside t (List.mem_append_right _ ht)
    | array element sizes => exact h.array form (inside element (by simp [parts]))
    | set element sizes => exact h.set form (inside element (by simp [parts]))
    | tuple items =>
      rw [validator_tuple]
      refine h.tuple form fun a ha => ?_
      obtain ⟨t, ht, rfl⟩ := List.mem_map.1 ha
      exact inside t ht
    | record key value =>
      rw [validator_record]
      refine h.record form (fun t ht => ?_) (inside value (by simp [parts]))
      obtain rfl : key = some t := ht
      exact inside t (by simp [parts])
    | map key value => exact h.map form (inside key (by simp [parts])) (inside value (by simp [parts]))
    | union options =>
      rw [validator_union]
      refine h.union form fun b hb => ?_
      obtain ⟨t, ht, rfl⟩ := List.mem_map.1 hb
      exact inside t ht
    | discriminated tag options =>
      rw [validator_discriminated]
      refine h.discriminated form fun option ho => ?_
      obtain ⟨type, htype, rfl⟩ := List.mem_map.1 ho
      exact inside (.object type) (List.mem_map_of_mem htype)
    | intersection left right =>
      exact h.intersection form (inside left (by simp [parts])) (inside right (by simp [parts]))
    | optional inner => exact h.optional form (inside inner (by simp [parts]))
    | nullable inner => exact h.nullable form (inside inner (by simp [parts]))
    | defaulting inner fallback => exact h.defaulting form (inside inner (by simp [parts]))
    | catching inner fallback => exact h.catching form (inside inner (by simp [parts]))
    | refine inner holds message path => exact h.refine form (inside inner (by simp [parts]))
    | transform inner convert => exact h.transform form (inside inner (by simp [parts]))
    | pipe first second => exact h.pipe form (inside first (by simp [parts])) (inside second (by simp [parts]))
    | lazy name => exact hrefs name

/-- **What combinators pass on, runs have**, in schemas of these forms, if the validator that answers nothing has it. -/
theorem run (none : Q fun _ _ => none) {defs : Definitions} (hdefs : ∀ d ∈ defs, d.2.All P) (n : Nat) {s : Schema}
    (hs : s.All P) : Q (s.run defs n) :=
  run_induction none (fun _ hrefs _ ht => h.validator hrefs ht) hdefs n hs

end PassedOnBy

/-- what every combinator passes on from the validators of its parts to its own -/
structure PassedOn (Q : Validator → Prop) : Prop where
  none : Q fun _ _ => none
  leaf (l : Leaf) : Q fun ctx v => some (l.validate ctx v)
  object {fields : List (String × Validator)} {unknown : UnknownKeys Validator} :
    (∀ f ∈ fields, Q f.2) → (∀ a ∈ unknown.parts, Q a) → Q (Validator.object fields unknown)
  array {a : Validator} (sizes : Checks SizeTest) : Q a → Q (Validator.array a sizes)
  set {a : Validator} (sizes : Checks SizeTest) : Q a → Q (Validator.set a sizes)
  tuple {items : List Validator} : (∀ a ∈ items, Q a) → Q (Validator.tuple items)
  record {key : Option Validator} {a : Validator} : (∀ k ∈ key, Q k) → Q a → Q (Validator.record key a)
  map {key a : Validator} : Q key → Q a → Q (Validator.map key a)
  union {alternatives : List Alternative} : (∀ b ∈ alternatives, Q b.validator) → Q (Validator.union alternatives)
  discriminated {tag : String} {options : List TaggedOption} :
    (∀ option ∈ options, Q option.validator) → Q (Validator.discriminated tag options)
  intersection {a b : Validator} : Q a → Q b → Q (Validator.intersection a b)
  optional {a : Validator} : Q a → Q (Validator.optional a)
  nullable {a : Validator} : Q a → Q (Validator.nullable a)
  defaulting {a : Validator} (fallback : Value) : Q a → Q (Validator.defaulting a fallback)
  catching {a : Validator} (fallback : Value) : Q a → Q (Validator.catching a fallback)
  refine {a : Validator} (holds : Predicate) (message : String) (path : Path) :
    Q a → Q (Validator.refine a holds message path)
  transform {a : Validator} (convert : Conversion) : Q a → Q (Validator.transform a convert)
  pipe {a b : Validator} : Q a → Q b → Q (Validator.pipe a b)

namespace PassedOn

variable {Q : Validator → Prop} (h : PassedOn Q)
include h

/-- forms make no difference -/
theorem byForm : PassedOnBy (fun _ => True) Q where
  leaf _ := h.leaf _
  object _ := h.object
  array _ := h.array _
  set _ := h.set _
  tuple _ := h.tuple
  record _ hk := h.record fun k hk' => by
    obtain ⟨t, rfl, rfl⟩ := Option.map_eq_some_iff.1 hk'
    exact hk t rfl
  map _ := h.map
  union _ := h.union
  discriminated _ := h.discriminated
  intersection _ := h.intersection
  optional _ := h.optional
  nullable _ := h.nullable
  defaulting _ := h.defaulting _
  catching _ := h.catching _
  refine _ := h.refine _ _ _
  transform _ := h.transform _
  pipe _ := h.pipe

/-- what combinators pass on, schemas pass on from the validators of names -/
theorem validator {refs : References} (hrefs : ∀ name, Q (refs name)) (s : Schema) : Q (s.validator refs) :=
  h.byForm.validator hrefs s.all_true

/-- **What combinators pass on, every run has.** -/
theorem run (defs : Definitions) (n : Nat) (s : Schema) : Q (s.run defs n) :=
  h.byForm.run h.none (fun d _ => d.2.all_true) n s.all_true

theorem references (defs : Definitions) (n : Nat) (name : String) : Q (references defs n name) := by
  have hlazy := h.run defs n (.lazy name)
  rwa [run_eq] at hlazy

end PassedOn

end ValueSchema.Schema
