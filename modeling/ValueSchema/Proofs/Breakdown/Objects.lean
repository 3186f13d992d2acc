import ValueSchema.Proofs.Breakdown.Collections
import ValueSchema.Proofs.Object.Lookup

/-!
Objects member by member.

While issues are collected, an object reports what each field finds wrong with the member under its name, in the order of
declaration, and then what its policy finds wrong with the members that no field describes. Its output has the fields
first, in their order, and then the members that the policy keeps, in the order of the input. Dangerous names are names of
fields like others, but not of kept members.

Results:
- `Breakdown.object`: what an object asks, reports and makes.
- `nodup_outputMembers`: no name is twice in the output.
- `object_breakdown`: objects answer so if their schemas are validators over any references.
- `objects_account_for_members`: what this says of runs.
-/

namespace ValueSchema

namespace Breakdown

/-- the member that a field is asked about: absence if it is missing -/
def given (members : Object Value) (name : String) : Value := (members.get? name).getD .undefined

/-- members that no field describes, in the order of the input -/
def undescribed (type : ObjectType Schema) (members : Object Value) : List (String × Value) :=
  members.toList.filter fun e => !type.shape.names.contains e.1

/-- those of them that a policy may keep -/
def keepable (type : ObjectType Schema) (members : Object Value) : List (String × Value) :=
  (undescribed type members).filter fun e => !Key.isDangerous e.1

/-- the members of the output that are fields: present in the input, or not left absent by the schema of the field -/
def fieldMembers (type : ObjectType Schema) (members : Object Value) (told : Answers) : List (String × Value) :=
  type.shape.toList.filterMap fun f =>
    match told f.2 (given members f.1) with
    | .ok w => if members.contains f.1 || !w.isUndefined then some (f.1, w) else none
    | .error _ => none

/-- the members of the output that are kept beside the fields -/
def keptMembers (type : ObjectType Schema) (members : Object Value) (told : Answers) : List (String × Value) :=
  match type.unknown with
  | .strip => []
  | .strict => []
  | .passthrough => keepable type members
  | .catchall rest => (keepable type members).filterMap fun e => (Part.value? (told rest e.2)).map (e.1, ·)

def outputMembers (type : ObjectType Schema) (members : Object Value) (told : Answers) : List (String × Value) :=
  fieldMembers type members told ++ keptMembers type members told

/-- what the policy has to say about members that no field describes -/
def policyIssues (type : ObjectType Schema) (ctx : Context) (members : Object Value) (told : Answers) : List Issue :=
  match type.unknown with
  | .strip => []
  | .strict =>
    if undescribed type members = [] then []
    else [ctx.issue (.unrecognizedKeys ((undescribed type members).map Prod.fst)) none]
  | .passthrough => []
  | .catchall rest => (keepable type members).flatMap fun e => issuesAt [.key e.1] (told rest e.2)

def object (type : ObjectType Schema) (ctx : Context) (members : Object Value) : Breakdown where
  asked _ := (type.shape.toList.map fun f => (f.2, given members f.1)) ++
    match type.unknown with
    | .catchall rest => (keepable type members).map fun e => (rest, e.2)
    | _ => []
  issues told := (type.shape.toList.flatMap fun f => issuesAt [.key f.1] (told f.2 (given members f.1))) ++
    policyIssues type ctx members told
  output told := .object (Object.ofList (outputMembers type members told))

/-! ## Names of the output -/

variable {type : ObjectType Schema} {members : Object Value} {told : Answers}

theorem names_fieldMembers (type : ObjectType Schema) (members : Object Value) (told : Answers) :
    ((fieldMembers type members told).map Prod.fst).Sublist type.shape.names := by
  rw [← type.shape.map_fst_toList]
  refine names_filterMap (fun f m hm => ?_) _
  split at hm
  · split_ifs at hm
    cases hm
    rfl
  · cases hm

theorem names_keptMembers (type : ObjectType Schema) (members : Object Value) (told : Answers) :
    ((keptMembers type members told).map Prod.fst).Sublist ((undescribed type members).map Prod.fst) := by
  have hkeepable : ((keepable type members).map Prod.fst).Sublist ((undescribed type members).map Prod.fst) :=
    List.filter_sublist.map Prod.fst
  unfold keptMembers
  cases type.unknown with
  | strip => exact List.nil_sublist _
  | strict => exact List.nil_sublist _
  | passthrough => exact hkeepable
  | catchall rest =>
    refine (names_filterMap (fun e m hm => ?_) _).trans hkeepable
    obtain ⟨w, -, rfl⟩ := Option.map_eq_some_iff.1 hm
    rfl

/-- fields have distinct names, and what is kept beside them has other ones -/
theorem nodup_outputMembers (type : ObjectType Schema) (members : Object Value) (told : Answers) :
    ((outputMembers type members told).map Prod.fst).Nodup := by
  rw [outputMembers, List.map_append]
  refine List.Nodup.append ?_ ?_ ?_
  · exact type.shape.nodup.sublist (names_fieldMembers type members told)
  · refine members.nodup_toList.sublist ((names_keptMembers type members told).trans ?_)
    exact List.filter_sublist.map Prod.fst
  · intro name hfield hkept
    have hdescribed := (names_fieldMembers type members told).subset hfield
    obtain ⟨e, he, rfl⟩ := List.mem_map.1 ((names_keptMembers type members told).subset hkept)
    have hnot := List.of_mem_filter he
    simp [hdescribed] at hnot

end Breakdown

namespace Schema

open Validator Breakdown

variable {refs : References} {catalog : Catalog} {type : ObjectType Schema} {members : Object Value} {told : Answers}

/-! ## Fields -/

/-- what a field makes of the member under its name -/
def toldField (members : Object Value) (told : Answers) (f : String × Schema) : Part (Option (String × Value)) :=
  Part.map (fun w => if members.contains f.1 || !w.isUndefined then some (f.1, w) else none)
    (Part.within (.key f.1) (told f.2 (given members f.1)))

theorem field_told {f : String × Schema}
    (h : collected refs catalog f.2 (given members f.1) = some (told f.2 (given members f.1))) :
    field ⟨catalog, .collect⟩ members (f.1, f.2.validator refs) = some (toldField members told f) := by
  have hchild := child_told (.key f.1) h
  rw [field]
  exact congrArg (Option.map _) hchild

theorem isSome_field {f : String × Schema} :
    (field ⟨catalog, .collect⟩ members (f.1, f.2.validator refs)).isSome =
      (collected refs catalog f.2 (given members f.1)).isSome := by
  rw [field, Option.isSome_map, isSome_child]
  rfl

theorem allIssues_toldField (fields : List (String × Schema)) :
    Part.allIssues (fields.map (toldField members told)) =
      fields.flatMap fun f => issuesAt [.key f.1] (told f.2 (given members f.1)) := by
  simp only [Part.allIssues_map, toldField, Part.issues_map, Part.issues_within]
  rfl

theorem values_toldField :
    (Part.values (type.shape.toList.map (toldField members told))).filterMap id = fieldMembers type members told := by
  rw [Part.values_map, List.filterMap_filterMap, fieldMembers]
  refine List.filterMap_congr fun f _ => ?_
  rw [toldField]
  cases told f.2 (given members f.1) <;> rfl

/-! ## Members beside the fields -/

theorem extras_eq (type : ObjectType Schema) (members : Object Value) :
    extras (type.shape.toList.map fun f => (f.1, f.2.validator refs)) members = undescribed type members := by
  have hnames : (type.shape.toList.map fun f => (f.1, f.2.validator refs)).map Prod.fst = type.shape.names := by
    rw [List.map_map, ← type.shape.map_fst_toList]
    rfl
  rw [extras, hnames, undescribed]

/-- what a catch-all makes of a member -/
theorem catchall_told {rest : Schema} {e : String × Value}
    (h : collected refs catalog rest e.2 = some (told rest e.2)) :
    ((rest.validator refs).child (.key e.1) ⟨catalog, .collect⟩ e.2).map (Part.map (e.1, ·)) =
      some (Part.map (e.1, ·) (Part.within (.key e.1) (told rest e.2))) := by
  rw [child_told (.key e.1) h, Option.map_some]

theorem keepExtras_told
    (h : ∀ rest, type.unknown = .catchall rest →
      ∀ e ∈ keepable type members, collected refs catalog rest e.2 = some (told rest e.2)) :
    ∃ ps, keepExtras (unknownValidator refs type.unknown) ⟨catalog, .collect⟩ (undescribed type members) = some ps ∧
      Part.allIssues ps = policyIssues type ⟨catalog, .collect⟩ members told ∧
      Part.values ps = keptMembers type members told := by
  unfold policyIssues keptMembers
  cases hu : type.unknown with
  | strip => exact ⟨[], rfl, rfl, rfl⟩
  | strict =>
    refine ⟨_, rfl, ?_, ?_⟩
    · cases undescribed type members <;> rfl
    · cases undescribed type members <;> rfl
  | passthrough => exact ⟨_, rfl, Part.allIssues_map_ok _, Part.values_map_ok _⟩
  | catchall rest =>
    refine ⟨_, Part.run_told fun e he => catchall_told (h rest hu e he), ?_, ?_⟩
    · simp only [Part.allIssues_map, Part.issues_map, Part.issues_within]
      rfl
    · rw [Part.values_map]
      refine List.filterMap_congr fun e _ => ?_
      cases told rest e.2 <;> rfl

/-! ## Objects -/

/-- an object runs its fields and then looks at the other members -/
theorem collected_object (type : ObjectType Schema) (members : Object Value) :
    collected refs catalog (.object type) (.object members) =
      (Part.run .collect (fun f => field ⟨catalog, .collect⟩ members (f.1, f.2.validator refs)) type.shape.toList).bind
        fun known => (keepExtras (unknownValidator refs type.unknown) ⟨catalog, .collect⟩ (undescribed type members)).map
          fun others => settle (Part.allIssues known ++ Part.allIssues others)
            (.object (Object.ofList ((Part.values known).filterMap id ++ Part.values others))) := by
  rw [collected, validator_object]
  simp only [Validator.object, Part.run_map, extras_eq, stops_collect, Bool.false_eq_true, if_false]

theorem object_breakdown (hrefs : ∀ name, (refs name).Explained) (type : ObjectType Schema) (members : Object Value) :
    (Breakdown.object type ⟨catalog, .collect⟩ members).Of (collected refs catalog)
      (collected refs catalog (.object type) (.object members)) := by
  refine of_told ?_ ?_ ?_ (collected_ne_unexplained catalog hrefs)
  · intro told htold
    have hfields : ∀ f ∈ type.shape.toList,
        field ⟨catalog, .collect⟩ members (f.1, f.2.validator refs) = some (toldField members told f) :=
      fun f hf => field_told (htold _ (List.mem_append_left _ (List.mem_map_of_mem hf)))
    obtain ⟨others, hothers, hissues, hvalues⟩ : ∃ ps, keepExtras (unknownValidator refs type.unknown)
        ⟨catalog, .collect⟩ (undescribed type members) = some ps ∧
        Part.allIssues ps = policyIssues type ⟨catalog, .collect⟩ members told ∧
        Part.values ps = keptMembers type members told := by
      refine keepExtras_told fun rest hu e he => htold (rest, e.2) (List.mem_append_right _ ?_)
      rw [hu]
      exact List.mem_map_of_mem he
    rw [collected_object, Part.run_told hfields, Option.bind_some, hothers, Option.map_some, settle_eq, hissues, hvalues,
      allIssues_toldField, values_toldField]
    rfl
  · intro hends q hq
    rw [collected_object] at hends
    obtain ⟨o, ho⟩ := Option.isSome_iff_exists.1 hends
    obtain ⟨known, hknown, hrest⟩ := Option.bind_eq_some_iff.1 ho
    obtain ⟨others, hothers, -⟩ := Option.map_eq_some_iff.1 hrest
    rcases List.mem_append.1 hq with hq | hq
    · obtain ⟨f, hf, rfl⟩ := List.mem_map.1 hq
      rw [← isSome_field]
      exact Part.isSome_of_run (Option.isSome_iff_exists.2 ⟨known, hknown⟩) hf
    · split at hq
      · rename_i rest hu
        obtain ⟨e, he, rfl⟩ := List.mem_map.1 hq
        rw [hu] at hothers
        have hmember := Part.isSome_of_run (Option.isSome_iff_exists.2 ⟨others, hothers⟩) he
        rwa [Option.isSome_map, isSome_child] at hmember
      · simp at hq
  · intro told hnil q hq
    obtain ⟨hfields, hothers⟩ := List.append_eq_nil_iff.1 hnil
    rcases List.mem_append.1 hq with hq | hq
    · obtain ⟨f, hf, rfl⟩ := List.mem_map.1 hq
      exact issuesAt_eq_nil_iff.1 (List.flatMap_eq_nil_iff.1 hfields f hf)
    · split at hq
      · rename_i rest hu
        obtain ⟨e, he, rfl⟩ := List.mem_map.1 hq
        rw [policyIssues, hu] at hothers
        exact issuesAt_eq_nil_iff.1 (List.flatMap_eq_nil_iff.1 hothers e he)
      · simp at hq

/-- **Objects member by member.** While issues are collected, an object comes to an end exactly if the schemas of its fields
do on the members under their names, absence where one is missing, and the schema of a catch-all on the members that it may
keep. Its issues are those of the fields in the order of declaration, each under the name of its field and otherwise
unchanged, and then those of the policy for other members. Without issues it accepts, and the members of its output are, in
this order, the fields that are present or became so and what the policy keeps. This holds however deep names are followed,
and so of `validate`. -/
theorem objects_account_for_members (defs : Definitions) (n : Nat) (catalog : Catalog) (type : ObjectType Schema)
    (members : Object Value) :
    (Breakdown.object type ⟨catalog, .collect⟩ members).Of (fun s v => s.run defs n ⟨catalog, .collect⟩ v)
        ((Schema.object type).run defs n ⟨catalog, .collect⟩ (.object members)) ∧
      ∀ told, (Object.ofList (outputMembers type members told)).toList = outputMembers type members told := by
  constructor
  · simp only [run_eq]
    exact object_breakdown (references_explained defs n) type members
  · exact fun told => Object.toList_ofList_of_nodup (nodup_outputMembers type members told)

end Schema

end ValueSchema
