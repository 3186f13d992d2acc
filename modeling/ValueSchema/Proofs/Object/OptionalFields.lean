import ValueSchema.Proofs.Budget.Suffices
import ValueSchema.Proofs.Schema.Runs
import ValueSchema.Proofs.Validator.Run

/-!
Optional fields.

An optional field whose member is missing lets absence through and leaves no member in the output, as if no field of that
name had been declared. An optional field whose member is there, and is not itself absence, runs the schema under it. So
making fields optional amounts to leaving out those that an object does not have.

Results:
- `run_leaving_out`: parts that give nothing can be left out of a run.
- `object_congr`: objects look at fields only for what they come to.
- `validator_optionalKeys`: an object type with optional fields, and the one without those whose members are missing.
- `optional_fields_left_out`: what this says of runs.
-/

namespace ValueSchema

/-! ## Runs -/

namespace Part

variable {α β : Type} {mode : Mode} {part part' : β → Option (Part (Option α))} {keep : β → Bool} {bs : List β}

/-- what parts come to: their issues, and what they give if it is anything -/
def summary (ps : List (Part (Option α))) : List Issue × List α := (allIssues ps, (values ps).filterMap id)

theorem summary_cons (p : Part (Option α)) (ps : List (Part (Option α))) :
    summary (p :: ps) = (p.issues ++ (summary ps).1, (p.value?.bind id).toList ++ (summary ps).2) := by
  cases p with
  | ok a => cases a <;> rfl
  | error issues => rfl

/-- parts that give nothing do not count -/
theorem summary_cons_none (ps : List (Part (Option α))) : summary (.ok none :: ps) = summary ps := rfl

/-- **Parts that give nothing can be left out of a run**, wherever they stand and even if the first issue decides. -/
theorem run_leaving_out (hskip : ∀ b ∈ bs, keep b = false → part b = some (.ok none))
    (hkeep : ∀ b ∈ bs, keep b = true → part b = part' b) :
    (run mode part bs).map summary = (run mode part' (bs.filter keep)).map summary := by
  induction bs with
  | nil => rfl
  | cons b bs ih =>
    have hrest := ih (fun b' hb' => hskip b' (List.mem_cons_of_mem _ hb'))
      fun b' hb' => hkeep b' (List.mem_cons_of_mem _ hb')
    cases hb : keep b with
    | false =>
      have hnothing : (summary ∘ (.ok none :: ·) : List (Part (Option α)) → _) = summary := funext summary_cons_none
      rw [List.filter_cons_of_neg (by simp [hb]), ← hrest, run_cons, hskip b List.mem_cons_self hb, Option.bind_some,
        issues, stops_nil, if_neg Bool.false_ne_true, Option.map_map, hnothing]
    | true =>
      -- both runs begin with this part, and both end there if it ends one
      rw [List.filter_cons_of_pos hb, run_cons, run_cons, ← hkeep b List.mem_cons_self hb]
      cases part b with
      | none => rfl
      | some p =>
        rw [Option.bind_some, Option.bind_some]
        split_ifs
        · rfl
        · have hcons : (summary ∘ (p :: ·) : List (Part (Option α)) → _) =
              (fun s => (p.issues ++ s.1, (p.value?.bind id).toList ++ s.2)) ∘ summary := funext (summary_cons p)
          rw [Option.map_map, Option.map_map, hcons, ← Option.map_map, ← Option.map_map, hrest]

end Part

namespace Validator

variable {a : Validator} {ctx : Context} {members : Object Value} {name : String}

/-! ## Fields -/

theorem optional_optional (a : Validator) : optional (optional a) = optional a := by
  funext ctx v
  unfold optional
  split_ifs <;> rfl

/-- a missing member is let through and leaves nothing in the output -/
theorem field_optional_of_missing (h : name ∉ members.names) :
    field ctx members (name, optional a) = some (.ok none) := by
  have hget : members.get? name = none := Object.get?_eq_none_iff.2 h
  have hcontains : members.contains name = false := by rwa [← Bool.not_eq_true, Object.contains_iff]
  simp only [field, child, hget, hcontains]
  rfl

/-- a member that is not absence itself goes to the validator within -/
theorem field_optional_of_present {v : Value} (hget : members.get? name = some v) (hv : v.isUndefined = false) :
    field ctx members (name, optional a) = field ctx members (name, a) := by
  simp only [field, child, hget, Option.getD_some, optional, hv, Bool.false_eq_true, if_false]

/-! ## Objects -/

variable {fields fields' : List (String × Validator)} {unknown : UnknownKeys Validator}

/-- fields decide on other members by their names only, and only by those of members -/
theorem extras_congr (h : ∀ name ∈ members.names, (name ∈ fields.map Prod.fst ↔ name ∈ fields'.map Prod.fst)) :
    extras fields members = extras fields' members := by
  refine List.filter_congr fun e he => ?_
  have hname := h e.1 (Object.mem_names_iff.2 ⟨e.2, he⟩)
  rw [Bool.not_inj_iff, Bool.eq_iff_iff, List.contains_iff_mem, List.contains_iff_mem, hname]

/-- an object looks at its fields only for what they come to, and for which members are left -/
theorem object_congr
    (hfields : (Part.run ctx.mode (field ctx members) fields).map Part.summary =
      (Part.run ctx.mode (field ctx members) fields').map Part.summary)
    (hextras : extras fields members = extras fields' members) :
    object fields unknown ctx (.object members) = object fields' unknown ctx (.object members) := by
  have hsummary (fields : List (String × Validator)) : object fields unknown ctx (.object members) =
      ((Part.run ctx.mode (field ctx members) fields).map Part.summary).bind fun known =>
        if ctx.mode.stops known.1 then some (.error known.1)
        else (keepExtras unknown ctx (extras fields members)).map fun others =>
          settle (known.1 ++ Part.allIssues others) (.object (Object.ofList (known.2 ++ Part.values others))) := by
    rw [Option.bind_map]
    rfl
  rw [hsummary, hsummary, hfields, hextras]

end Validator

namespace Schema

open Validator

variable {refs : References} {ctx : Context} {type : ObjectType Schema} {names : List String} {members : Object Value}

/-- a schema that is optional already stays so -/
theorem toOptional_validator (s : Schema) : s.toOptional.validator refs = Validator.optional (s.validator refs) := by
  cases s with
  | optional inner =>
    rw [toOptional, validator, optional_optional]
  | _ => rfl

/-- those of some names that an object does not have -/
def missing (members : Object Value) (names : List String) : List String := names.filter fun name => !members.contains name

theorem mem_missing {name : String} : name ∈ missing members names ↔ name ∈ names ∧ name ∉ members.names := by
  rw [missing, List.mem_filter, Bool.not_eq_true', ← Bool.not_eq_true, Object.contains_iff]

/-- a field that is made optional, if it is one of some names -/
def optionalField (names : List String) (f : String × Schema) : Schema :=
  if names.contains f.1 then f.2.toOptional else f.2

theorem toList_optionalKeys (type : ObjectType Schema) (names : List String) :
    (type.optionalKeys names).shape.toList = type.shape.toList.map fun f => (f.1, optionalField names f) :=
  Object.toList_mapValues ..

theorem toList_without (type : ObjectType Schema) (names : List String) :
    (type.without names).shape.toList = type.shape.toList.filter fun f => !names.contains f.1 :=
  Object.toList_filterNames ..

/-- an optional field whose member is missing gives nothing -/
theorem field_optionalField_of_missing {f : String × Schema} (h : f.1 ∈ missing members names) :
    field ctx members (f.1, (optionalField names f).validator refs) = some (.ok none) := by
  obtain ⟨hname, hmissing⟩ := mem_missing.1 h
  rw [optionalField, if_pos (List.contains_iff_mem.2 hname), toOptional_validator]
  exact field_optional_of_missing hmissing

/-- any other field is not changed by being made optional -/
theorem field_optionalField_of_present {f : String × Schema} (h : f.1 ∉ missing members names)
    (present : f.1 ∈ names → members.get? f.1 ≠ some .undefined) :
    field ctx members (f.1, (optionalField names f).validator refs) = field ctx members (f.1, f.2.validator refs) := by
  by_cases hname : f.1 ∈ names
  · have hmember : f.1 ∈ members.names := by
      by_contra hmissing
      exact h (mem_missing.2 ⟨hname, hmissing⟩)
    obtain ⟨v, hv⟩ := Object.mem_names_iff.1 hmember
    have hget : members.get? f.1 = some v := Object.get?_eq_some_iff.2 hv
    have hdefined : v.isUndefined = false := by
      cases v with
      | undefined => exact absurd hget (present hname)
      | _ => rfl
    rw [optionalField, if_pos (List.contains_iff_mem.2 hname), toOptional_validator]
    exact field_optional_of_present hget hdefined
  · rw [optionalField, if_neg fun hcontains => hname (List.contains_iff_mem.1 hcontains)]

/-- leaving out fields whose members are missing leaves the same members undescribed -/
theorem extras_without :
    extras ((type.optionalKeys names).shape.toList.map fun f => (f.1, f.2.validator refs)) members =
      extras ((type.without (missing members names)).shape.toList.map fun f => (f.1, f.2.validator refs)) members := by
  refine extras_congr fun name hname => ?_
  have hkept : name ∉ missing members names := fun hmissing => (mem_missing.1 hmissing).2 hname
  rw [toList_optionalKeys, toList_without]
  simp only [List.map_map, List.mem_map, List.mem_filter, Function.comp_apply]
  constructor
  · rintro ⟨f, hf, rfl⟩
    exact ⟨f, ⟨hf, by simpa using hkept⟩, rfl⟩
  · rintro ⟨f, ⟨hf, -⟩, rfl⟩
    exact ⟨f, hf, rfl⟩

theorem validator_optionalKeys
    (present : ∀ name ∈ type.shape.names, name ∈ names → members.get? name ≠ some .undefined) :
    (Schema.object (type.optionalKeys names)).validator refs ctx (.object members) =
      (Schema.object (type.without (missing members names))).validator refs ctx (.object members) := by
  rw [validator_object, validator_object]
  refine object_congr ?_ extras_without
  rw [toList_optionalKeys, toList_without, List.map_map, Part.run_map, Part.run_map]
  refine Part.run_leaving_out (fun f _ hskip => ?_) fun f hf hkeep => ?_
  · exact field_optionalField_of_missing (by simpa using hskip)
  · refine field_optionalField_of_present (by simpa using hkeep) (present f.1 ?_)
    exact Object.mem_names_iff.2 ⟨f.2, hf⟩

/-- making every field optional is making those of all names optional -/
theorem allOptional_eq (type : ObjectType Schema) : type.allOptional = type.optionalKeys type.shape.names := by
  have hshape : type.allOptional.shape = (type.optionalKeys type.shape.names).shape := by
    refine Object.ext_toList ?_
    rw [toList_optionalKeys]
    refine (Object.toList_mapValues ..).trans (List.map_congr_left fun f hf => ?_)
    have hname : f.1 ∈ type.shape.names := Object.mem_names_iff.2 ⟨f.2, hf⟩
    rw [optionalField, if_pos (List.contains_iff_mem.2 hname)]
  exact congrArg (ObjectType.mk · type.unknown) hshape

/-- **Optional fields are as good as left out when their members are missing.** Unless a member under one of the names is
absence itself, an object type with the fields of these names made optional answers on an object as the type without
those of the fields that the object does not have: with the same output, member by member, or the same issues. This holds
in both modes, under any policy for other members, however deep names are followed, and of `validate`; and making every
field optional is a case of it. -/
theorem optional_fields_left_out (defs : Definitions) (ctx : Context) (type : ObjectType Schema) (names : List String)
    (members : Object Value)
    (present : ∀ name ∈ type.shape.names, name ∈ names → members.get? name ≠ some .undefined) :
    (∀ n, (Schema.object (type.optionalKeys names)).run defs n ctx (.object members) =
        (Schema.object (type.without (missing members names))).run defs n ctx (.object members)) ∧
      (Schema.object (type.optionalKeys names)).validate defs ctx (.object members) =
        (Schema.object (type.without (missing members names))).validate defs ctx (.object members) ∧
      type.allOptional = type.optionalKeys type.shape.names := by
  have hrun : ∀ n, (Schema.object (type.optionalKeys names)).run defs n ctx (.object members) =
      (Schema.object (type.without (missing members names))).run defs n ctx (.object members) := by
    intro n
    rw [run_eq, run_eq]
    exact validator_optionalKeys present
  exact ⟨hrun, validate_congr hrun, allOptional_eq type⟩

/-- a missing field with a value for absence: once it is optional, that value is no longer put in -/
theorem missing_default_left_out :
    (∀ name ∈ ["a", "b"], (Object.ofList [("c", Value.null), ("a", .null)]).get? name ≠ some .undefined) ∧
      (Schema.object ⟨Object.ofList [("a", .leaf .null), ("b", .defaulting (.leaf .null) .null)], .passthrough⟩).run [] 0
          ⟨Catalog.english, .collect⟩ (.object (Object.ofList [("c", .null), ("a", .null)])) =
        some (.ok (.object (Object.ofList [("a", .null), ("b", .null), ("c", .null)]))) ∧
      (Schema.object (ObjectType.optionalKeys
          ⟨Object.ofList [("a", .leaf .null), ("b", .defaulting (.leaf .null) .null)], .passthrough⟩ ["a", "b"])).run [] 0
          ⟨Catalog.english, .collect⟩ (.object (Object.ofList [("c", .null), ("a", .null)])) =
        some (.ok (.object (Object.ofList [("a", .null), ("c", .null)]))) := by
  have present : ∀ name ∈ ["a", "b"], (Object.ofList [("c", Value.null), ("a", .null)]).get? name ≠ some .undefined := by
    intro name hname
    rcases List.mem_pair.1 hname with rfl | rfl <;> exact nofun
  have hrun := (optional_fields_left_out [] ⟨Catalog.english, .collect⟩
    ⟨Object.ofList [("a", .leaf .null), ("b", .defaulting (.leaf .null) .null)], .passthrough⟩ ["a", "b"]
    (Object.ofList [("c", .null), ("a", .null)]) fun name _ => present name).1 0
  exact ⟨present, rfl, hrun.trans rfl⟩

end Schema

end ValueSchema
