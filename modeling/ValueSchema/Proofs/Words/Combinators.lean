import ValueSchema.Proofs.Schema.Parts
import ValueSchema.Proofs.Words.Reworded

/-!
Combinators say the same with two catalogs.

`Validator.Reworded findings a b f` says that the validator `f` comes to an end with both catalogs or with neither, and
then gives one outcome, reworded. Every combinator has this of its parts, if what it finds wrong itself is among the
findings: `Schema.Finds` lists what that is for each form of schema. A union shows what its alternatives have told in its
message; nothing reads a message back, so this changes words and nothing else.

Results:
- `array_reworded`, `object_reworded`, …: collections.
- `union_reworded`, `intersection_reworded`, …: choices and wrappers.
-/

namespace ValueSchema

/-- what a schema finds wrong itself, its parts left out -/
inductive Schema.Finds : Schema → Finding → Prop
  | leaf {l : Leaf} {v : Value} {f : Finding} : l.finding? v = some f → Finds (.leaf l) f
  | objectKind {type : ObjectType Schema} (v : Value) : Finds (.object type) ⟨.invalidType "object" v.typeName, none⟩
  | objectKeys {type : ObjectType Schema} (names : List String) : Finds (.object type) ⟨.unrecognizedKeys names, none⟩
  | arrayKind {s : Schema} {sizes : Checks SizeTest} (v : Value) :
    Finds (.array s sizes) ⟨.invalidType "array" v.typeName, sizes.kindMessage⟩
  | arraySize {s : Schema} {sizes : Checks SizeTest} {size : Nat} {f : Finding} :
    sizes.finding? (SizeTest.failure .array) size = some f → Finds (.array s sizes) f
  | setKind {s : Schema} {sizes : Checks SizeTest} (v : Value) :
    Finds (.set s sizes) ⟨.invalidType "set" v.typeName, sizes.kindMessage⟩
  | setSize {s : Schema} {sizes : Checks SizeTest} {size : Nat} {f : Finding} :
    sizes.finding? (SizeTest.failure .set) size = some f → Finds (.set s sizes) f
  | tupleKind {ss : List Schema} (v : Value) : Finds (.tuple ss) ⟨.invalidType "array" v.typeName, none⟩
  | tupleLength {ss : List Schema} (expected received : Nat) : Finds (.tuple ss) ⟨.tupleLength expected received, none⟩
  | recordKind {k : Option Schema} {s : Schema} (v : Value) :
    Finds (.record k s) ⟨.invalidType "object" v.typeName, none⟩
  | recordKey {k : Option Schema} {s : Schema} (name : String) : Finds (.record k s) ⟨.invalidKey name, none⟩
  | mapKind {k s : Schema} (v : Value) : Finds (.map k s) ⟨.invalidType "map" v.typeName, none⟩
  | union {ss : List Schema} (shown : List String) : Finds (.union ss) ⟨.invalidUnion shown, none⟩
  | discriminatedKind {tag : String} {types : List (ObjectType Schema)} (v : Value) :
    Finds (.discriminated tag types) ⟨.invalidType "object" v.typeName, none⟩
  | discriminator {tag : String} {types : List (ObjectType Schema)} (labels : List String) :
    Finds (.discriminated tag types) ⟨.invalidUnionDiscriminator tag labels, none⟩
  | intersection {s t : Schema} : Finds (.intersection s t) ⟨.invalidIntersectionTypes, none⟩
  | refine {s : Schema} {holds : Predicate} {text : String} {path : Path} :
    Finds (.refine s holds text path) ⟨.custom, some text⟩
  | transform {s : Schema} {convert : Conversion} (fault : Fault) :
    Finds (.transform s convert) ⟨.transformFailed fault.reason, none⟩

/-- what a schema finds wrong itself is among some findings -/
def Schema.FindsOnly (findings : Finding → Prop) (s : Schema) : Prop := ∀ f, s.Finds f → findings f

namespace Validator

/-- with two catalogs one outcome, reworded, or none with either -/
def Reworded (findings : Finding → Prop) (a b : Catalog) (f : Validator) : Prop :=
  ∀ mode v, Option.Rel (Part.Reworded findings a b) (f ⟨a, mode⟩ v) (f ⟨b, mode⟩ v)

variable {findings : Finding → Prop} {a b : Catalog} {element key value inner first second f : Validator} {mode : Mode}
  {s t : Schema} {ss : List Schema} {sizes : Checks SizeTest}

theorem wrongKind_reworded {expected : String} {v : Value} {own : Option String}
    (hf : findings ⟨.invalidType expected v.typeName, own⟩) (mode : Mode) :
    Option.Rel (Part.Reworded findings a b) (some (Context.wrongKind ⟨a, mode⟩ expected v own))
      (some (Context.wrongKind ⟨b, mode⟩ expected v own)) := .some (.fail hf mode)

theorem child_reworded (hf : f.Reworded findings a b) (segment : Segment) (mode : Mode) (v : Value) :
    Option.Rel (Part.Reworded findings a b) (f.child segment ⟨a, mode⟩ v) (f.child segment ⟨b, mode⟩ v) :=
  optionRel_map (hf mode v) fun _ _ h => h.within segment

/-! ## Arrays, sets and tuples -/

theorem elements_reworded (he : element.Reworded findings a b) (mode : Mode) (vs : List Value) :
    Option.Rel (Part.AllReworded findings a b) (element.elements ⟨a, mode⟩ vs) (element.elements ⟨b, mode⟩ vs) :=
  Part.run_reworded fun e _ => child_reworded he (.index e.2) mode e.1

theorem array_reworded (hself : (Schema.array s sizes).FindsOnly findings) (he : element.Reworded findings a b) :
    (array element sizes).Reworded findings a b := by
  intro mode v
  cases v with
  | array items =>
    refine optionRel_map (elements_reworded he mode items) fun ps qs h => ?_
    rw [h.values_eq]
    exact close_reworded h.allIssues (sizeIssues_reworded (fun f hf => hself f (.arraySize hf)) mode) mode _
  | _ => exact wrongKind_reworded (hself _ (.arrayKind _)) mode

/-- the size that counts is the same: there are issues in both runs or in neither -/
theorem set_reworded (hself : (Schema.set s sizes).FindsOnly findings) (he : element.Reworded findings a b) :
    (set element sizes).Reworded findings a b := by
  intro mode v
  cases v with
  | set vs =>
    refine optionRel_map (elements_reworded he mode vs) fun ps qs h => ?_
    simp only [h.values_eq, isEmpty_eq_of_forall₂ h.allIssues]
    exact close_reworded h.allIssues (sizeIssues_reworded (fun f hf => hself f (.setSize hf)) mode) mode _
  | _ => exact wrongKind_reworded (hself _ (.setKind _)) mode

theorem tuple_reworded {items : List Validator} (hself : (Schema.tuple ss).FindsOnly findings)
    (hi : ∀ f ∈ items, f.Reworded findings a b) : (tuple items).Reworded findings a b := by
  intro mode v
  cases v with
  | array vs =>
    unfold tuple
    by_cases hlen : vs.length = items.length
    · simp only [if_pos hlen]
      have hrun : Option.Rel (Part.AllReworded findings a b)
          (Part.run mode (fun e => e.1.1.child (.index e.2) ⟨a, mode⟩ e.1.2) (items.zip vs).zipIdx)
          (Part.run mode (fun e => e.1.1.child (.index e.2) ⟨b, mode⟩ e.1.2) (items.zip vs).zipIdx) := by
        refine Part.run_reworded fun e he => ?_
        have hmem : e.1 ∈ items.zip vs := List.fst_mem_of_mem_zipIdx he
        exact child_reworded (hi _ (List.of_mem_zip hmem).1) (.index e.2) mode e.1.2
      refine optionRel_map hrun fun ps qs h => ?_
      rw [h.values_eq]
      exact settle_reworded h.allIssues _
    · simp only [if_neg hlen]
      exact .some (.fail (hself _ (.tupleLength _ _)) mode)
  | _ => exact wrongKind_reworded (hself _ (.tupleKind _)) mode

/-! ## Records and maps -/

theorem refusedKey_reworded {name : String} (hf : findings ⟨.invalidKey name, none⟩) {is js : List Issue}
    (h : Issue.AllReworded findings a b is js) (mode : Mode) :
    Issue.Reworded findings a b (refusedKey ⟨a, mode⟩ name is) (refusedKey ⟨b, mode⟩ name js) := by
  refine Issue.Reworded.within ?_ (.key name)
  exact .of_tellSame rfl ⟨_, _, .refl _, hf, hf, ⟨rfl, rfl, rfl⟩, ⟨rfl, rfl, rfl⟩⟩ h

theorem recordKey_reworded {k : Option Validator} (hf : ∀ name, findings ⟨.invalidKey name, none⟩)
    (hk : ∀ f ∈ k, f.Reworded findings a b) (mode : Mode) (name : String) :
    Option.Rel (Part.Reworded findings a b) (recordKey k ⟨a, mode⟩ name) (recordKey k ⟨b, mode⟩ name) := by
  unfold recordKey
  by_cases hd : Key.isDangerous name = true
  · simp only [if_pos hd]
    exact .some (.one (refusedKey_reworded (hf name) .nil mode))
  · simp only [if_neg hd]
    cases k with
    | none => exact .some (.ok name)
    | some f =>
      refine optionRel_map (hk f rfl mode (.string name)) fun p q h => ?_
      cases h with
      | ok w =>
        cases w with
        | string other =>
          by_cases ho : Key.isDangerous other = true
          · simp only [if_pos ho]
            exact .one (refusedKey_reworded (hf name) .nil mode)
          · simp only [if_neg ho]
            exact .ok other
        | _ => exact .ok name
      | error h => exact .one (refusedKey_reworded (hf name) h mode)

theorem recordEntry_reworded {k : Option Validator} (hf : ∀ name, findings ⟨.invalidKey name, none⟩)
    (hk : ∀ f ∈ k, f.Reworded findings a b) (hv : value.Reworded findings a b) (mode : Mode) (e : String × Value) :
    Option.Rel (Part.Reworded findings a b) (recordEntry k value ⟨a, mode⟩ e) (recordEntry k value ⟨b, mode⟩ e) := by
  refine optionRel_bind (recordKey_reworded hf hk mode e.1) fun p q h => ?_
  cases h with
  | ok name => exact optionRel_map (child_reworded hv (.key e.1) mode e.2) fun p q h => h.map _
  | error h => exact .some (.error h)

theorem record_reworded {k : Option Schema} {g : Schema → Validator} (hself : (Schema.record k s).FindsOnly findings)
    (hk : ∀ t ∈ k, (g t).Reworded findings a b) (hv : value.Reworded findings a b) :
    (record (k.map g) value).Reworded findings a b := by
  have hkeys : ∀ f ∈ k.map g, f.Reworded findings a b := by
    intro f hf
    obtain ⟨t, ht, rfl⟩ := Option.map_eq_some_iff.1 hf
    exact hk t ht
  intro mode v
  cases v with
  | object o =>
    have hentry : ∀ e ∈ o.toList, Option.Rel (Part.Reworded findings a b) (recordEntry (k.map g) value ⟨a, mode⟩ e)
        (recordEntry (k.map g) value ⟨b, mode⟩ e) := by
      intro e _
      exact recordEntry_reworded (fun name => hself _ (.recordKey name)) hkeys hv mode e
    refine optionRel_map (Part.run_reworded hentry) fun ps qs h => ?_
    rw [h.values_eq]
    exact settle_reworded h.allIssues _
  | _ => exact wrongKind_reworded (hself _ (.recordKind _)) mode

theorem mapEntry_reworded (hk : key.Reworded findings a b) (hv : value.Reworded findings a b) (mode : Mode)
    (e : (Value × Value) × Nat) :
    Option.Rel (Part.Reworded findings a b) (mapEntry key value ⟨a, mode⟩ e) (mapEntry key value ⟨b, mode⟩ e) := by
  have placed (name : String) {p q : Part Value} (h : p.Reworded findings a b q) :
      ((p.within (.key name)).within (.index e.2)).Reworded findings a b ((q.within (.key name)).within (.index e.2)) :=
    (h.within _).within _
  have hkey := optionRel_map (hk mode e.1.1) fun p q h => placed "key" h
  have hvalue := optionRel_map (hv mode e.1.2) fun p q h => placed "value" h
  refine optionRel_bind hkey fun p q h => ?_
  rw [stops_eq_of_forall₂ h.issues]
  split_ifs
  · exact .some (.error h.issues)
  · refine optionRel_map hvalue fun r t hrt => ?_
    cases h with
    | ok x =>
      cases hrt with
      | ok y => exact .ok (x, y)
      | error hrt => exact .error hrt
    | error h => exact .error (List.rel_append h hrt.issues)

theorem map_reworded (hself : (Schema.map s t).FindsOnly findings) (hk : key.Reworded findings a b)
    (hv : value.Reworded findings a b) : (map key value).Reworded findings a b := by
  intro mode v
  cases v with
  | map entries =>
    refine optionRel_map (Part.run_reworded fun e _ => mapEntry_reworded hk hv mode e) fun ps qs h => ?_
    rw [h.values_eq]
    exact settle_reworded h.allIssues _
  | _ => exact wrongKind_reworded (hself _ (.mapKind _)) mode

/-! ## Objects -/

theorem field_reworded (hf : f.Reworded findings a b) (mode : Mode) (o : Object Value) (name : String) :
    Option.Rel (Part.Reworded findings a b) (field ⟨a, mode⟩ o (name, f)) (field ⟨b, mode⟩ o (name, f)) :=
  optionRel_map (child_reworded hf (.key name) mode _) fun _ _ h => h.map _

theorem keepExtras_reworded {unknown : UnknownKeys Validator} (hf : ∀ names, findings ⟨.unrecognizedKeys names, none⟩)
    (hu : ∀ f ∈ unknown.parts, f.Reworded findings a b) (mode : Mode) (es : List (String × Value)) :
    Option.Rel (Part.AllReworded findings a b) (keepExtras unknown ⟨a, mode⟩ es) (keepExtras unknown ⟨b, mode⟩ es) := by
  cases unknown with
  | strip => exact .some .nil
  | strict =>
    cases es with
    | nil => exact .some .nil
    | cons e es => exact .some (.cons (.one (.tell (hf _) mode)) .nil)
  | passthrough =>
    refine .some (List.forall₂_same.2 fun p hp => ?_)
    obtain ⟨e, -, rfl⟩ := List.mem_map.1 hp
    exact .ok e
  | catchall f =>
    have hrest : f.Reworded findings a b := hu f (List.mem_singleton_self f)
    exact Part.run_reworded fun e _ => optionRel_map (child_reworded hrest (.key e.1) mode e.2) fun p q h => h.map _

theorem object_reworded {type : ObjectType Schema} {fields : List (String × Validator)} {unknown : UnknownKeys Validator}
    (hself : (Schema.object type).FindsOnly findings) (hf : ∀ f ∈ fields, f.2.Reworded findings a b)
    (hu : ∀ f ∈ unknown.parts, f.Reworded findings a b) : (object fields unknown).Reworded findings a b := by
  intro mode v
  cases v with
  | object o =>
    have hknown : Option.Rel (Part.AllReworded findings a b) (Part.run mode (field ⟨a, mode⟩ o) fields)
        (Part.run mode (field ⟨b, mode⟩ o) fields) :=
      Part.run_reworded fun e he => field_reworded (hf e he) mode o e.1
    refine optionRel_bind hknown fun ps qs h => ?_
    simp only [stops_eq_of_forall₂ h.allIssues, h.values_eq]
    split_ifs
    · exact .some (.error h.allIssues)
    · have hextras := keepExtras_reworded (fun names => hself _ (.objectKeys names)) hu mode (extras fields o)
      refine optionRel_map hextras fun ps' qs' h' => ?_
      rw [h'.values_eq]
      exact settle_reworded (List.rel_append h.allIssues h'.allIssues) _
  | _ => exact wrongKind_reworded (hself _ (.objectKind _)) mode

/-! ## Unions -/

/-- failures at the same positions, reworded -/
abbrev FailuresReworded (findings : Finding → Prop) (a b : Catalog) : Failures → Failures → Prop :=
  List.Forall₂ fun f g => f.1 = g.1 ∧ Issue.AllReworded findings a b f.2 g.2

/-- the same output of a pass over alternatives, or reworded failures -/
inductive PassReworded (findings : Finding → Prop) (a b : Catalog) : Except Failures Value → Except Failures Value → Prop
  | ok (w : Value) : PassReworded findings a b (.ok w) (.ok w)
  | error {fs gs : Failures} (h : FailuresReworded findings a b fs gs) : PassReworded findings a b (.error fs) (.error gs)

theorem attempt_reworded {l : List (Alternative × Nat)} (h : ∀ c ∈ l, c.1.validator.Reworded findings a b) (mode : Mode)
    (v : Value) : Option.Rel (PassReworded findings a b) (attempt ⟨a, mode⟩ v l) (attempt ⟨b, mode⟩ v l) := by
  induction l with
  | nil => exact .some (.error .nil)
  | cons c rest ih =>
    have hfirst := h c List.mem_cons_self mode v
    have hrest := ih fun c' hc' => h c' (List.mem_cons_of_mem _ hc')
    rw [attempt, attempt]
    generalize c.1.validator ⟨a, mode⟩ v = x at hfirst
    generalize c.1.validator ⟨b, mode⟩ v = y at hfirst
    generalize attempt ⟨a, mode⟩ v rest = xs at hrest
    generalize attempt ⟨b, mode⟩ v rest = ys at hrest
    cases hfirst with
    | none => exact .none
    | some hpq =>
      cases hpq with
      | ok w => exact .some (.ok w)
      | error hissues =>
        cases hrest with
        | none => exact .none
        | some hpass =>
          cases hpass with
          | ok w => exact .some (.ok w)
          | error hfailures => exact .some (.error (.cons ⟨rfl, hissues⟩ hfailures))

/-- each union tells what its own alternatives have told, so that the findings differ by what is shown -/
theorem noMatch_reworded (hf : ∀ shown, findings ⟨.invalidUnion shown, none⟩) {fs gs : List (List Issue)}
    (h : List.Forall₂ (Issue.AllReworded findings a b) fs gs) (mode : Mode) :
    Issue.Reworded findings a b (noMatch ⟨a, mode⟩ fs) (noMatch ⟨b, mode⟩ gs) := by
  refine .of_tellSame rfl ⟨_, _, .union _ _, hf _, hf _, ⟨rfl, rfl, rfl⟩, ⟨rfl, rfl, rfl⟩⟩ ?_
  exact List.rel_flatten h

theorem union_reworded {alternatives : List Alternative} (hself : (Schema.union ss).FindsOnly findings)
    (h : ∀ c ∈ alternatives, c.validator.Reworded findings a b) : (union alternatives).Reworded findings a b := by
  intro mode v
  unfold union
  simp only [List.partition_eq_filter_filter]
  have hpass (p : Alternative × Nat → Bool) : Option.Rel (PassReworded findings a b)
      (attempt ⟨a, mode⟩ v (alternatives.zipIdx.filter p)) (attempt ⟨b, mode⟩ v (alternatives.zipIdx.filter p)) :=
    attempt_reworded (fun c hc => h c.1 (List.fst_mem_of_mem_zipIdx (List.mem_of_mem_filter hc))) mode v
  refine optionRel_bind (hpass _) fun p q hpq => ?_
  cases hpq with
  | ok w => exact .some (.ok w)
  | error hfailures =>
    refine optionRel_map (hpass _) fun p q hpq => ?_
    cases hpq with
    | ok w => exact .ok w
    | error hothers =>
      refine .one (noMatch_reworded (fun shown => hself _ (.union shown)) ?_ mode)
      refine List.rel_filterMap (R := Eq) ?_ (List.forall₂_refl _)
      rintro i _ rfl
      exact optionRel_lookup (List.rel_append hfailures hothers) i

/-! ## Discriminated unions and intersections -/

theorem discriminated_reworded {tag : String} {types : List (ObjectType Schema)} {options : List TaggedOption}
    (hself : (Schema.discriminated tag types).FindsOnly findings)
    (h : ∀ option ∈ options, option.validator.Reworded findings a b) : (discriminated tag options).Reworded findings a b := by
  intro mode v
  cases v with
  | object o =>
    unfold discriminated
    simp only
    cases hfind : options.find? fun option => option.tags.any (·.same ((o.get? tag).getD .undefined)) with
    | some option => exact h option (List.mem_of_find?_eq_some hfind) mode (.object o)
    | none => exact .some (.one (.within (.tell (hself _ (.discriminator _)) mode) (.key tag)))
  | _ => exact wrongKind_reworded (hself _ (.discriminatedKind _)) mode

theorem intersection_reworded (hself : (Schema.intersection s t).FindsOnly findings) (hf : first.Reworded findings a b)
    (hs : second.Reworded findings a b) : (intersection first second).Reworded findings a b := by
  intro mode v
  refine optionRel_bind (hf mode v) fun p q hpq => ?_
  rw [stops_eq_of_forall₂ hpq.issues]
  split_ifs
  · exact .some hpq
  · refine optionRel_map (hs mode v) fun r r' hrr => ?_
    cases hpq with
    | ok x =>
      cases hrr with
      | ok y =>
        simp only
        cases x.merge y with
        | some w => exact .ok w
        | none => exact .fail (hself _ .intersection) mode
      | error h => exact .error h
    | error h => exact .error (List.rel_append h hrr.issues)

/-! ## Wrappers -/

theorem optional_reworded (h : inner.Reworded findings a b) : (optional inner).Reworded findings a b := by
  intro mode v
  unfold optional
  split_ifs
  · exact .some (.ok v)
  · exact h mode v

theorem nullable_reworded (h : inner.Reworded findings a b) : (nullable inner).Reworded findings a b := by
  intro mode v
  unfold nullable
  split_ifs
  · exact .some (.ok v)
  · exact h mode v

theorem defaulting_reworded (h : inner.Reworded findings a b) (fallback : Value) :
    (defaulting inner fallback).Reworded findings a b := by
  intro mode v
  unfold defaulting
  split_ifs
  · exact .some (.ok fallback)
  · exact h mode v

theorem catching_reworded (h : inner.Reworded findings a b) (fallback : Value) :
    (catching inner fallback).Reworded findings a b := by
  intro mode v
  refine optionRel_map (h mode v) fun p q hpq => ?_
  cases hpq with
  | ok w => exact .ok w
  | error => exact .ok fallback

/-- the author's text for the condition is told with every catalog -/
theorem refine_reworded {holds : Predicate} {text : String} {path : Path}
    (hself : (Schema.refine s holds text path).FindsOnly findings) (h : inner.Reworded findings a b) :
    (refine inner holds text path).Reworded findings a b := by
  intro mode v
  refine optionRel_map (h mode v) fun p q hpq => ?_
  cases hpq with
  | ok w =>
    have hcustom : findings ⟨.custom, some text⟩ := hself _ .refine
    by_cases hw : holds w = true
    · simp only [if_pos hw]
      exact .ok w
    · simp only [if_neg hw]
      exact .one (.of_tellSame rfl ⟨_, _, .refl _, hcustom, hcustom, ⟨rfl, rfl, rfl⟩, ⟨rfl, rfl, rfl⟩⟩ .nil)
  | error h => exact .error h

theorem transform_reworded {convert : Conversion} (hself : (Schema.transform s convert).FindsOnly findings)
    (h : inner.Reworded findings a b) : (transform inner convert).Reworded findings a b := by
  intro mode v
  refine optionRel_map (h mode v) fun p q hpq => ?_
  cases hpq with
  | ok w =>
    simp only
    cases convert w with
    | ok u => exact .ok u
    | error fault => exact .fail (hself _ (.transform fault)) mode
  | error h => exact .error h

theorem pipe_reworded (hf : first.Reworded findings a b) (hs : second.Reworded findings a b) :
    (pipe first second).Reworded findings a b := by
  intro mode v
  refine optionRel_bind (hf mode v) fun p q hpq => ?_
  cases hpq with
  | ok w => exact hs mode w
  | error h => exact .some (.error h)

end Validator

end ValueSchema
