import ValueSchema.Proofs.Budget.Suffices
import ValueSchema.Proofs.Object.OptionalFields
import ValueSchema.Proofs.Validator.Accepted

/-!
Object types put together from others.

An object type that drops undescribed members asks each field by itself, so it can be taken apart along its fields: two
types whose fields together are its own accept between them what it accepts, and make the members of its output between
them. Picking fields and leaving out the same ones takes a type apart so; merging a type into another puts together the
second and what the first has besides.

Results:
- `object_strip_eq_ok_iff`: acceptance and output field by field.
- `shape_pick_without`, `shape_merge`: the fields of types that are made from others.
- `joins_of_perm`: types with the fields of two others.
- `object_types_compose`: what this says of runs.
-/

namespace ValueSchema

/-! ## Fields -/

namespace Validator

variable {ctx : Context} {members : Object Value} {fields : List (String × Validator)}

/-- the answer of a field on the member under its name, absence if it is missing -/
def fieldAnswer (ctx : Context) (members : Object Value) (f : String × Validator) : Option Outcome :=
  f.2 ctx ((members.get? f.1).getD .undefined)

/-- the member of the output that a field makes, if it accepts and leaves one -/
def fieldMember (ctx : Context) (members : Object Value) (f : String × Validator) : Option (String × Value) :=
  match fieldAnswer ctx members f with
  | some (.ok w) => memberOf members f.1 w
  | _ => none

theorem fieldMember_name {f : String × Validator} {m : String × Value} (h : fieldMember ctx members f = some m) :
    m.1 = f.1 := by
  unfold fieldMember memberOf at h
  split at h
  · split_ifs at h
    cases h
    rfl
  · cases h

/-- fields make a list of what they leave exactly if all of them accept -/
theorem forall₂_fieldAnswer_iff {known : List (Option (String × Value))} :
    List.Forall₂ (fun f m => ∃ u, fieldAnswer ctx members f = some (.ok u) ∧ m = memberOf members f.1 u) fields known ↔
      (∀ f ∈ fields, Accepted (fieldAnswer ctx members f)) ∧ fields.map (fieldMember ctx members) = known := by
  have hone (f : String × Validator) (m : Option (String × Value)) :
      (∃ u, fieldAnswer ctx members f = some (.ok u) ∧ m = memberOf members f.1 u) ↔
        Accepted (fieldAnswer ctx members f) ∧ fieldMember ctx members f = m := by
    constructor
    · rintro ⟨u, hu, rfl⟩
      refine ⟨⟨u, hu⟩, ?_⟩
      rw [fieldMember, hu]
    · rintro ⟨⟨u, hu⟩, rfl⟩
      refine ⟨u, hu, ?_⟩
      rw [fieldMember, hu]
  simp only [hone]
  rw [List.forall₂_and_left, ← List.forall₂_map_left_iff, List.forall₂_eq_eq_eq]

/-! ## Objects -/

/-- **Field by field**: an object that drops undescribed members accepts what all of its fields accept, and the members of
its output are what they leave. -/
theorem object_strip_eq_ok_iff (hf : ∀ f ∈ fields, f.2.Explained) (hnames : (fields.map Prod.fst).Nodup) {v w : Value} :
    object fields .strip ctx v = some (.ok w) ↔
      ∃ members output : Object Value, v = .object members ∧ w = .object output ∧
        (∀ f ∈ fields, Accepted (fieldAnswer ctx members f)) ∧
        output.toList = fields.filterMap (fieldMember ctx members) := by
  have hstrip : ∀ a ∈ (UnknownKeys.strip : UnknownKeys Validator).parts, a.Explained :=
    fun a ha => absurd ha List.not_mem_nil
  rw [object_eq_ok_iff hf hstrip]
  constructor
  · rintro ⟨members, known, others, rfl, rfl, hknown, hothers⟩
    obtain rfl : others = [] := hothers
    obtain ⟨haccept, rfl⟩ := forall₂_fieldAnswer_iff.1 hknown
    refine ⟨members, _, rfl, rfl, haccept, ?_⟩
    rw [List.append_nil, List.filterMap_map, Function.id_comp, Object.toList_ofList_of_nodup]
    exact hnames.sublist (names_filterMap (fun _ _ => fieldMember_name) fields)
  · rintro ⟨members, output, rfl, rfl, haccept, hout⟩
    refine ⟨members, fields.map (fieldMember ctx members), [], rfl, ?_, forall₂_fieldAnswer_iff.2 ⟨haccept, rfl⟩, rfl⟩
    rw [List.append_nil, List.filterMap_map, Function.id_comp, ← hout, Object.ofList_toList]

end Validator

namespace Schema

open Validator

variable {refs : References} {ctx : Context} {type left right : ObjectType Schema} {v : Value}

/-! ## Fields of types made from others -/

theorem toList_pick (type : ObjectType Schema) (names : List String) :
    (type.pick names).shape.toList = type.shape.toList.filter fun f => names.contains f.1 :=
  Object.toList_filterNames ..

/-- the fields of some names and the others together -/
theorem shape_pick_without (type : ObjectType Schema) (names : List String) :
    ((type.pick names).shape.toList ++ (type.without names).shape.toList).Perm type.shape.toList := by
  rw [toList_pick, toList_without]
  exact List.filter_append_perm (fun f => names.contains f.1) type.shape.toList

/-- the fields of a type and what another one has besides -/
theorem shape_merge (type other : ObjectType Schema) :
    ((type.without other.shape.names).shape.toList ++ other.shape.toList).Perm (type.merge other).shape.toList := by
  have hnames : ((type.without other.shape.names).shape.toList.map Prod.fst ++ other.shape.toList.map Prod.fst).Nodup := by
    refine List.Nodup.append (Object.nodup_toList _) other.shape.nodup_toList fun name hleft hright => ?_
    rw [toList_without] at hleft
    obtain ⟨f, hf, rfl⟩ := List.mem_map.1 hleft
    have hnot := List.of_mem_filter hf
    rw [other.shape.map_fst_toList] at hright
    simp [hright] at hnot
  rw [← List.map_append] at hnames
  refine (List.perm_ext_iff_of_nodup hnames.of_map (type.merge other).shape.nodup_toList.of_map).2 fun f => ?_
  have hmerged : f ∈ (type.merge other).shape.toList ↔
      other.shape.get? f.1 = some f.2 ∨ other.shape.get? f.1 = none ∧ type.shape.get? f.1 = some f.2 := by
    rw [← Option.or_eq_some_iff, ← Object.get?_merge]
    exact Object.get?_eq_some_iff.symm
  rw [hmerged, List.mem_append, toList_without, List.mem_filter, Object.get?_eq_some_iff, Object.get?_eq_some_iff,
    Object.get?_eq_none_iff, Bool.not_eq_true', ← Bool.not_eq_true, List.contains_iff_mem]
  tauto

/-! ## Types put together from two others -/

/-- an answer joined from two others: it is an output if both are, and holds then the members of both, which have no name
in common, in the order of some names -/
structure Joins (names : List String) (whole left right : Option Outcome) : Prop where
  accepts : Accepted whole ↔ Accepted left ∧ Accepted right
  members : ∀ w u t, whole = some (.ok w) → left = some (.ok u) → right = some (.ok t) →
    ∃ o p q : Object Value, w = .object o ∧ u = .object p ∧ t = .object q ∧
      o.toList.Perm (p.toList ++ q.toList) ∧ p.names.Disjoint q.names ∧ o.names.Sublist names

/-- what a field of a type is as a field of its validator -/
def fieldOf (refs : References) (f : String × Schema) : String × Validator := (f.1, f.2.validator refs)

theorem stripping_eq_ok_iff (hrefs : ∀ name, (refs name).Explained) (hstrip : type.unknown = .strip) {w : Value} :
    (Schema.object type).validator refs ctx v = some (.ok w) ↔
      ∃ members output : Object Value, v = .object members ∧ w = .object output ∧
        (∀ f ∈ type.shape.toList, Accepted (fieldAnswer ctx members (fieldOf refs f))) ∧
        output.toList = type.shape.toList.filterMap fun f => fieldMember ctx members (fieldOf refs f) := by
  have hnames : ((type.shape.toList.map (fieldOf refs)).map Prod.fst).Nodup := by
    rw [List.map_map]
    exact type.shape.nodup_toList
  rw [validator_object, hstrip]
  refine (object_strip_eq_ok_iff (objectFields_explained hrefs type) hnames).trans ?_
  simp only [List.forall_mem_map, List.filterMap_map]
  rfl

/-- what fields leave is named as they are and stands in their order -/
theorem names_left (refs : References) (ctx : Context) (members : Object Value) (type : ObjectType Schema) :
    ((type.shape.toList.filterMap fun f => fieldMember ctx members (fieldOf refs f)).map Prod.fst).Sublist
      type.shape.names := by
  rw [← type.shape.map_fst_toList]
  refine names_filterMap (fun f m hm => ?_) type.shape.toList
  exact fieldMember_name hm

theorem stripping_accepts_iff (hrefs : ∀ name, (refs name).Explained) (hstrip : type.unknown = .strip) :
    Accepted ((Schema.object type).validator refs ctx v) ↔
      ∃ members : Object Value, v = .object members ∧
        ∀ f ∈ type.shape.toList, Accepted (fieldAnswer ctx members (fieldOf refs f)) := by
  constructor
  · rintro ⟨w, hw⟩
    obtain ⟨members, -, rfl, -, haccept, -⟩ := (stripping_eq_ok_iff hrefs hstrip).1 hw
    exact ⟨members, rfl, haccept⟩
  · rintro ⟨members, rfl, haccept⟩
    have hlist := Object.toList_ofList_of_nodup (type.shape.nodup.sublist (names_left refs ctx members type))
    exact ⟨_, (stripping_eq_ok_iff hrefs hstrip).2 ⟨members, _, rfl, rfl, haccept, hlist⟩⟩

theorem output_names {members output : Object Value}
    (h : output.toList = type.shape.toList.filterMap fun f => fieldMember ctx members (fieldOf refs f)) :
    output.names.Sublist type.shape.names := by
  rw [← output.map_fst_toList, h]
  exact names_left refs ctx members type

/-- **Types with the fields of two others** answer as the two do together. -/
theorem joins_of_perm (hrefs : ∀ name, (refs name).Explained) (htype : type.unknown = .strip)
    (hleft : left.unknown = .strip) (hright : right.unknown = .strip)
    (h : (left.shape.toList ++ right.shape.toList).Perm type.shape.toList) :
    Joins type.shape.names ((Schema.object type).validator refs ctx v) ((Schema.object left).validator refs ctx v)
      ((Schema.object right).validator refs ctx v) := by
  have hfields (P : String × Schema → Prop) :
      (∀ f ∈ type.shape.toList, P f) ↔ (∀ f ∈ left.shape.toList, P f) ∧ ∀ f ∈ right.shape.toList, P f := by
    rw [← List.forall_mem_append]
    exact forall_congr' fun f => imp_congr_left h.mem_iff.symm
  constructor
  · rw [stripping_accepts_iff hrefs htype, stripping_accepts_iff hrefs hleft, stripping_accepts_iff hrefs hright]
    constructor
    · rintro ⟨members, rfl, haccept⟩
      obtain ⟨hl, hr⟩ := (hfields _).1 haccept
      exact ⟨⟨members, rfl, hl⟩, ⟨members, rfl, hr⟩⟩
    · rintro ⟨⟨members, rfl, hl⟩, ⟨_, hm, hr⟩⟩
      cases hm
      exact ⟨members, rfl, (hfields _).2 ⟨hl, hr⟩⟩
  · intro w u t hw hu ht
    obtain ⟨members, o, rfl, rfl, -, ho⟩ := (stripping_eq_ok_iff hrefs htype).1 hw
    obtain ⟨_, p, hm, rfl, -, hp⟩ := (stripping_eq_ok_iff hrefs hleft).1 hu
    cases hm
    obtain ⟨_, q, hm, rfl, -, hq⟩ := (stripping_eq_ok_iff hrefs hright).1 ht
    cases hm
    refine ⟨o, p, q, rfl, rfl, rfl, ?_, ?_, output_names ho⟩
    · rw [ho, hp, hq, ← List.filterMap_append]
      exact (h.filterMap _).symm
    · -- no field is in both types, since none is twice in the one that has the fields of both
      have hapart : (left.shape.toList.map Prod.fst ++ right.shape.toList.map Prod.fst).Nodup := by
        rw [← List.map_append]
        exact (h.map Prod.fst).nodup_iff.2 type.shape.nodup_toList
      rw [Object.map_fst_toList, Object.map_fst_toList] at hapart
      intro name hname hname'
      exact List.disjoint_of_nodup_append hapart ((output_names hp).subset hname) ((output_names hq).subset hname')

/-- what holds at every depth holds in the end -/
theorem joins_validate {defs : Definitions} {ctx : Context} {v : Value} {names : List String} {whole left right : Schema}
    (h : ∀ n, Joins names (whole.run defs n ctx v) (left.run defs n ctx v) (right.run defs n ctx v)) :
    Joins names (whole.validate defs ctx v) (left.validate defs ctx v) (right.validate defs ctx v) := by
  have heventually (s : Schema) := eventually_run_eq_validate defs s ctx v
  obtain ⟨n, hwhole, hleft, hright⟩ := ((heventually whole).and <| (heventually left).and (heventually right)).exists
  rw [← hwhole, ← hleft, ← hright]
  exact h n

/-- **Object types compose.** Among types that drop undescribed members, one accepts a value exactly if the type with some
of its fields and the type without these both do; its output has then the members of their two outputs, which have no name
in common, in the order in which its own fields are declared. And a type that another is merged into accepts exactly what
the other one and the type without the fields of the other both accept, with the members of their two outputs. This holds
in both modes, however deep names are followed, and of `validate`. -/
theorem object_types_compose (defs : Definitions) (ctx : Context) (type other : ObjectType Schema) (names : List String)
    (hstrip : type.unknown = .strip) (hother : other.unknown = .strip) (v : Value) :
    (∀ n, Joins type.shape.names ((Schema.object type).run defs n ctx v)
        ((Schema.object (type.pick names)).run defs n ctx v) ((Schema.object (type.without names)).run defs n ctx v)) ∧
      Joins type.shape.names ((Schema.object type).validate defs ctx v)
        ((Schema.object (type.pick names)).validate defs ctx v)
        ((Schema.object (type.without names)).validate defs ctx v) ∧
      (∀ n, Joins (type.merge other).shape.names ((Schema.object (type.merge other)).run defs n ctx v)
        ((Schema.object (type.without other.shape.names)).run defs n ctx v) ((Schema.object other).run defs n ctx v)) ∧
      Joins (type.merge other).shape.names ((Schema.object (type.merge other)).validate defs ctx v)
        ((Schema.object (type.without other.shape.names)).validate defs ctx v)
        ((Schema.object other).validate defs ctx v) := by
  have hapart : ∀ n, Joins type.shape.names ((Schema.object type).run defs n ctx v)
      ((Schema.object (type.pick names)).run defs n ctx v) ((Schema.object (type.without names)).run defs n ctx v) := by
    intro n
    simp only [run_eq]
    exact joins_of_perm (references_explained defs n) hstrip hstrip hstrip (shape_pick_without type names)
  have hmerged : ∀ n, Joins (type.merge other).shape.names ((Schema.object (type.merge other)).run defs n ctx v)
      ((Schema.object (type.without other.shape.names)).run defs n ctx v) ((Schema.object other).run defs n ctx v) := by
    intro n
    simp only [run_eq]
    exact joins_of_perm (references_explained defs n) hother hstrip hother (shape_merge type other)
  exact ⟨hapart, joins_validate hapart, hmerged, joins_validate hmerged⟩

/-- a field that is replaced in its place: the value that the new one has for absence stands between the others -/
theorem replaced_field_keeps_place :
    (ObjectType.mk (Object.ofList [("b", .leaf .any), ("a", .leaf .null)]) .strip : ObjectType Schema).unknown = .strip ∧
      (ObjectType.mk (Object.ofList [("c", .leaf .null), ("b", .defaulting (.leaf .any) .null)]) .strip :
        ObjectType Schema).unknown = .strip ∧
      ∃ o p q : Object Value,
        (Schema.object (ObjectType.merge ⟨Object.ofList [("b", .leaf .any), ("a", .leaf .null)], .strip⟩
            ⟨Object.ofList [("c", .leaf .null), ("b", .defaulting (.leaf .any) .null)], .strip⟩)).run [] 0
            ⟨Catalog.english, .collect⟩ (.object (Object.ofList [("d", .null), ("c", .null), ("a", .null)])) =
          some (.ok (.object o)) ∧
        o.toList = [("b", .null), ("a", .null), ("c", .null)] ∧ p.toList = [("a", .null)] ∧
        q.toList = [("c", .null), ("b", .null)] ∧ o.toList.Perm (p.toList ++ q.toList) := by
  obtain ⟨-, -, hmerged, -⟩ := object_types_compose [] ⟨Catalog.english, .collect⟩
    ⟨Object.ofList [("b", .leaf .any), ("a", .leaf .null)], .strip⟩
    ⟨Object.ofList [("c", .leaf .null), ("b", .defaulting (.leaf .any) .null)], .strip⟩ [] rfl rfl
    (.object (Object.ofList [("d", .null), ("c", .null), ("a", .null)]))
  obtain ⟨o, p, q, ho, hp, hq, hperm, -, -⟩ := (hmerged 0).members
    (.object (Object.ofList [("b", .null), ("a", .null), ("c", .null)])) (.object (Object.ofList [("a", .null)]))
    (.object (Object.ofList [("c", .null), ("b", .null)])) rfl rfl rfl
  cases ho
  cases hp
  cases hq
  exact ⟨rfl, rfl, _, _, _, rfl, rfl, rfl, rfl, hperm⟩

end Schema

end ValueSchema
