import Mathlib.Logic.Function.Iterate
import ValueSchema.Proofs.Budget.Suffices
import ValueSchema.Proofs.Object.OptionalFields
import ValueSchema.Proofs.Validator.Accepted

/-!
Required fields.

A schema can be optional several times over: `optional` and `nullish` put a layer around whatever is there, while making
fields optional leaves those alone that have one. Making fields required takes one layer off each of them. So it makes
all of them required exactly if none has two layers; a field with more is still optional afterwards, an object without it
is still let through, and the same again takes the next layer off.

Results:
- `layers_iterate`, `bare_iterate`: what is left of the layers after some of them are taken off.
- `required_iterate_eq_self_iff`: when nothing more comes off the fields of a type.
- `run_iterate_absent`: what a schema answers on absence after some of its layers are taken off.
- `required_takes_one_layer`: what this says of object types and of runs; `second_layer_stays`: one call is not enough.
-/

namespace ValueSchema

namespace Schema

variable {s : Schema} {n : Nat}

/-! ## Layers -/

/-- how many times over a schema is optional -/
def layers : Schema → Nat
  | .optional inner => inner.layers + 1
  | _ => 0

/-- what a schema is under these layers -/
def bare : Schema → Schema
  | .optional inner => inner.bare
  | s => s

theorem kind_eq_optional_iff : s.kind = .optional ↔ s.layers ≠ 0 := by
  cases s with
  | optional inner => exact iff_of_true rfl (Nat.succ_ne_zero _)
  | leaf l => cases l <;> exact iff_of_false nofun (absurd rfl)
  | _ => exact iff_of_false nofun (absurd rfl)

theorem layers_unwrapOptional (s : Schema) : s.unwrapOptional.layers = s.layers - 1 := by
  cases s <;> rfl

theorem bare_unwrapOptional (s : Schema) : s.unwrapOptional.bare = s.bare := by
  cases s <;> rfl

theorem bare_of_layers_eq_zero (h : s.layers = 0) : s.bare = s := by
  cases s with
  | optional inner => exact absurd h (Nat.succ_ne_zero _)
  | _ => rfl

/-- nothing comes off a schema exactly if it is not optional -/
theorem unwrapOptional_eq_self_iff : s.unwrapOptional = s ↔ s.layers = 0 := by
  constructor
  · intro h
    have hlayers := layers_unwrapOptional s
    rw [h] at hlayers
    omega
  · intro h
    cases s with
    | optional inner => exact absurd h (Nat.succ_ne_zero _)
    | _ => rfl

/-- making a schema optional adds nothing that is not taken off at once -/
theorem unwrapOptional_toOptional (s : Schema) : s.toOptional.unwrapOptional = s.unwrapOptional := by
  cases s <;> rfl

theorem layers_iterate (n : Nat) (s : Schema) : (unwrapOptional^[n] s).layers = s.layers - n := by
  induction n with
  | zero => rfl
  | succ n ih =>
    rw [Function.iterate_succ_apply', layers_unwrapOptional, ih]
    omega

theorem bare_iterate (n : Nat) (s : Schema) : (unwrapOptional^[n] s).bare = s.bare := by
  induction n with
  | zero => rfl
  | succ n ih => rw [Function.iterate_succ_apply', bare_unwrapOptional, ih]

/-- **What is left of a schema answers on absence** that it is fine while a layer is left, and then as the schema under
all of them. -/
theorem run_iterate_absent (defs : Definitions) (depth : Nat) (ctx : Context) (n : Nat) (s : Schema) :
    (unwrapOptional^[n] s).run defs depth ctx .undefined =
      if n < s.layers then some (.ok .undefined) else s.bare.run defs depth ctx .undefined := by
  have hlayers := layers_iterate n s
  have hbare := bare_iterate n s
  split_ifs with h
  · cases hleft : unwrapOptional^[n] s with
    | optional inner =>
      rw [run_eq]
      rfl
    | _ =>
      rw [hleft] at hlayers
      have hnone : s.layers - n = 0 := hlayers.symm
      omega
  · rw [← hbare, bare_of_layers_eq_zero (by omega)]

/-! ## Fields -/

variable {type : ObjectType Schema}

theorem toList_required_iterate (n : Nat) (type : ObjectType Schema) :
    (ObjectType.required^[n] type).shape.toList = type.shape.toList.map fun f => (f.1, unwrapOptional^[n] f.2) := by
  induction n with
  | zero => exact (List.map_id _).symm
  | succ n ih =>
    rw [Function.iterate_succ_apply']
    refine (Object.toList_mapValues ..).trans ?_
    rw [ih, List.map_map]
    refine List.map_congr_left fun f _ => ?_
    rw [Function.iterate_succ_apply']
    rfl

theorem unknown_required_iterate (n : Nat) (type : ObjectType Schema) :
    (ObjectType.required^[n] type).unknown = type.unknown := by
  induction n with
  | zero => rfl
  | succ n ih => rw [Function.iterate_succ_apply', ← ih]; rfl

/-- types with the same fields in order and the same policy are the same -/
theorem objectType_ext {type other : ObjectType Schema} (hshape : type.shape.toList = other.shape.toList)
    (hunknown : type.unknown = other.unknown) : type = other := by
  obtain ⟨shape, unknown⟩ := type
  obtain ⟨shape', unknown'⟩ := other
  obtain rfl : shape = shape' := Object.ext_toList hshape
  obtain rfl : unknown = unknown' := hunknown
  rfl

/-- fields are all required after so many calls as they have layers -/
theorem kind_required_iterate_iff (n : Nat) (type : ObjectType Schema) :
    (∀ f ∈ (ObjectType.required^[n] type).shape.toList, f.2.kind ≠ .optional) ↔
      ∀ f ∈ type.shape.toList, f.2.layers ≤ n := by
  rw [toList_required_iterate, List.forall_mem_map]
  refine forall₂_congr fun f _ => ?_
  rw [Ne, kind_eq_optional_iff, layers_iterate, not_not, Nat.sub_eq_zero_iff_le]

/-- and from then on nothing changes -/
theorem required_iterate_eq_self_iff (n : Nat) (type : ObjectType Schema) :
    (ObjectType.required^[n] type).required = ObjectType.required^[n] type ↔
      ∀ f ∈ type.shape.toList, f.2.layers ≤ n := by
  have hone (f : String × Schema) : unwrapOptional^[n + 1] f.2 = unwrapOptional^[n] f.2 ↔ f.2.layers ≤ n := by
    rw [Function.iterate_succ_apply', unwrapOptional_eq_self_iff, layers_iterate, Nat.sub_eq_zero_iff_le]
  have hfields : (ObjectType.required^[n + 1] type).shape.toList = (ObjectType.required^[n] type).shape.toList ↔
      ∀ f ∈ type.shape.toList, f.2.layers ≤ n := by
    rw [toList_required_iterate, toList_required_iterate, List.map_inj_left]
    refine forall₂_congr fun f _ => ?_
    rw [Prod.mk_right_inj, hone]
  rw [← Function.iterate_succ_apply' ObjectType.required, ← hfields]
  constructor
  · intro h
    rw [← h]
  · intro h
    exact objectType_ext h ((unknown_required_iterate _ _).trans (unknown_required_iterate _ _).symm)

/-- making fields optional first changes nothing -/
theorem required_optionalKeys (type : ObjectType Schema) (names : List String) :
    (type.optionalKeys names).required = type.required := by
  refine objectType_ext ?_ rfl
  refine (Object.toList_mapValues ..).trans (Eq.trans ?_ (Object.toList_mapValues ..).symm)
  rw [toList_optionalKeys, List.map_map]
  refine List.map_congr_left fun f _ => ?_
  show (f.1, (optionalField names f).unwrapOptional) = (f.1, f.2.unwrapOptional)
  unfold optionalField
  split_ifs
  · rw [unwrapOptional_toOptional]
  · rfl

/-- a type that accepts an object without a field has a schema for it that accepts absence -/
theorem accepts_absence_of_missing {defs : Definitions} {depth : Nat} {ctx : Context} {members : Object Value}
    (h : Accepted ((Schema.object type).run defs depth ctx (.object members))) {f : String × Schema}
    (hf : f ∈ type.shape.toList) (hmissing : f.1 ∉ members.names) : Accepted (f.2.run defs depth ctx .undefined) := by
  rw [run_eq] at h
  obtain ⟨o, ho, haccept⟩ := fields_accept (references_explained defs depth) h
  obtain rfl : members = o := by injection ho
  have habsent := haccept f hf
  rw [Object.get?_eq_none_iff.2 hmissing] at habsent
  rw [run_eq]
  exact habsent

/-- **Making fields required takes one layer off each.** No field is optional after `n` calls exactly if none had more
than `n` layers, and exactly then another call changes nothing; for one call, if no field was optional twice over.
Whether fields were made optional before makes no difference. If the type accepts an object without a field then, that
field had more layers or accepts absence under all of them. This holds under any policy for other members, in both modes,
however deep names are followed, and of `validate`. -/
theorem required_takes_one_layer (defs : Definitions) (ctx : Context) (type : ObjectType Schema) (n : Nat) :
    ((∀ f ∈ (ObjectType.required^[n] type).shape.toList, f.2.kind ≠ .optional) ↔
        ∀ f ∈ type.shape.toList, f.2.layers ≤ n) ∧
      ((ObjectType.required^[n] type).required = ObjectType.required^[n] type ↔
        ∀ f ∈ type.shape.toList, f.2.layers ≤ n) ∧
      (∀ names, (type.optionalKeys names).required = type.required) ∧ type.allOptional.required = type.required ∧
      (∀ depth members w,
        (Schema.object (ObjectType.required^[n] type)).run defs depth ctx (.object members) = some (.ok w) →
          ∀ f ∈ type.shape.toList, f.1 ∉ members.names →
            n < f.2.layers ∨ Accepted (f.2.bare.run defs depth ctx .undefined)) ∧
      ∀ members w, (Schema.object (ObjectType.required^[n] type)).validate defs ctx (.object members) = some (.ok w) →
        ∀ f ∈ type.shape.toList, f.1 ∉ members.names →
          n < f.2.layers ∨ Accepted (f.2.bare.validate defs ctx .undefined) := by
  have hrun : ∀ depth members w,
      (Schema.object (ObjectType.required^[n] type)).run defs depth ctx (.object members) = some (.ok w) →
        ∀ f ∈ type.shape.toList, f.1 ∉ members.names →
          n < f.2.layers ∨ Accepted (f.2.bare.run defs depth ctx .undefined) := by
    intro depth members w h f hf hmissing
    have hfield : (f.1, unwrapOptional^[n] f.2) ∈ (ObjectType.required^[n] type).shape.toList := by
      rw [toList_required_iterate]
      exact List.mem_map_of_mem hf
    have habsent := accepts_absence_of_missing ⟨w, h⟩ hfield hmissing
    rw [run_iterate_absent] at habsent
    split_ifs at habsent with hlayers
    · exact Or.inl hlayers
    · exact Or.inr habsent
  have hall : type.allOptional.required = type.required := by
    rw [allOptional_eq, required_optionalKeys]
  refine ⟨kind_required_iterate_iff n type, required_iterate_eq_self_iff n type, required_optionalKeys type, hall, hrun, ?_⟩
  intro members w h f hf hmissing
  obtain ⟨depth, hdepth⟩ := validate_eq_some_iff.1 h
  refine (hrun depth members w hdepth f hf hmissing).imp_right ?_
  rintro ⟨u, hu⟩
  exact ⟨u, validate_eq_of_run hu⟩

/-- a field that is optional once over: one call is enough, and the value it then has for absence is put in -/
theorem one_layer_comes_off :
    (Schema.object (ObjectType.required ⟨Object.ofList [("a", .optional (.defaulting (.leaf .any) .null))], .strip⟩)).run
        [] 0 ⟨Catalog.english, .collect⟩ (.object Object.empty) =
      some (.ok (.object (Object.ofList [("a", .null)]))) ∧
      "a" ∉ (Object.empty : Object Value).names ∧
      Accepted ((Schema.defaulting (.leaf .any) .null).run [] 0 ⟨Catalog.english, .collect⟩ .undefined) := by
  obtain ⟨-, -, -, -, hrun, -⟩ := required_takes_one_layer [] ⟨Catalog.english, .collect⟩
    ⟨Object.ofList [("a", .optional (.defaulting (.leaf .any) .null))], .strip⟩ 1
  have habsent := hrun 0 Object.empty (.object (Object.ofList [("a", .null)])) rfl
    ("a", .optional (.defaulting (.leaf .any) .null)) List.mem_cons_self List.not_mem_nil
  rcases habsent with hlayers | haccepted
  · exact absurd hlayers (by decide)
  · exact ⟨rfl, List.not_mem_nil, haccepted⟩

/-- a field that is optional twice over -/
def twiceOptional : ObjectType Schema := .ofFields [("a", .optional (.optional (.leaf (.string .plain))))]

/-- **A second layer stays**: the field is still optional, another call changes the type again, and an object without
the field is let through, though what is under both layers refuses absence. -/
theorem second_layer_stays :
    ¬ (∀ f ∈ twiceOptional.required.shape.toList, f.2.kind ≠ .optional) ∧
      twiceOptional.required.required ≠ twiceOptional.required ∧
      Accepted ((Schema.object twiceOptional.required).run [] 0 ⟨Catalog.english, .collect⟩ (.object Object.empty)) ∧
      ∀ f ∈ twiceOptional.shape.toList, ¬ Accepted (f.2.bare.run [] 0 ⟨Catalog.english, .collect⟩ .undefined) := by
  have hstacked : ¬ ∀ f ∈ twiceOptional.shape.toList, f.2.layers ≤ 1 := by
    intro h
    exact absurd (h _ List.mem_cons_self) (by decide)
  refine ⟨mt (kind_required_iterate_iff 1 twiceOptional).1 hstacked,
    mt (required_iterate_eq_self_iff 1 twiceOptional).1 hstacked, ⟨_, rfl⟩, ?_⟩
  intro f hf
  obtain rfl := List.mem_singleton.1 hf
  rintro ⟨w, hw⟩
  cases hw

end Schema

end ValueSchema
