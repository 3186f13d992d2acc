import ValueSchema.Proofs.Budget.Converges
import ValueSchema.Proofs.Validator.Accepted
import ValueSchema.Proofs.Value.Distinct
import ValueSchema.Proofs.Value.Same

/-!
A discriminated union is the plain union of its options.

An option declares its tags by a field that is a literal or an enumeration. A discriminated union can be made exactly when
every option does so and no tag of one option is the same as a tag of another. Since sameness is an equivalence, the tag
of an object then selects at most one option, and an option that accepts an object declares its tag.

Results:
- `checkTags_eq_ok_iff`: when a discriminated union can be made.
- `find?_eq_of_same`: the option that declares a tag is the one selected.
- `declares_of_accepts`: an option accepts only objects whose tag it declares.
- `discriminated_union_is_union`: what this says of runs of the union and of its options.
-/

namespace ValueSchema

/-! ## Declared tags -/

namespace ObjectType

/-- the field under a name is a literal or an enumeration of these values -/
inductive Declares (t : ObjectType Schema) (tag : String) : List Value → Prop
  | literal {s : LiteralSchema} : t.shape.get? tag = some (.leaf (.literal s)) → Declares t tag [s.value]
  | enumeration {s : EnumSchema} :
    t.shape.get? tag = some (.leaf (.enumeration s)) → Declares t tag (s.options.map .string)

variable {t : ObjectType Schema} {tag : String} {tags tags' : List Value}

theorem tagsOf_eq_some_iff : Schema.tagsOf? tag t = some tags ↔ t.Declares tag tags := by
  unfold Schema.tagsOf?
  constructor
  · intro h
    obtain ⟨s, hs, hvalues⟩ := Option.bind_eq_some_iff.1 h
    cases s with
    | leaf l =>
      cases l with
      | literal s =>
        cases hvalues
        exact .literal hs
      | enumeration s =>
        cases hvalues
        exact .enumeration hs
      | _ => cases hvalues
    | _ => cases hvalues
  · intro h
    cases h with
    | literal hs => rw [hs]; rfl
    | enumeration hs => rw [hs]; rfl

theorem Declares.eq (h : t.Declares tag tags) (h' : t.Declares tag tags') : tags = tags' := by
  rw [← tagsOf_eq_some_iff] at h h'
  exact Option.some.inj (h.symm.trans h')

/-- no declared tag is the same as another one of the same option -/
theorem Declares.repetitionless (h : t.Declares tag tags) : Value.Repetitionless tags := by
  cases h with
  | literal => exact List.pairwise_singleton _ _
  | @enumeration s _ =>
    refine List.pairwise_map.2 (s.nodup.imp fun {a b} hab => ?_)
    simpa [Value.same, Value.eqBy] using hab

end ObjectType

namespace Schema

/-- no tag of an option is the same as a tag of another one -/
def TagsApart (tag : String) (options : List (ObjectType Schema)) : Prop :=
  options.Pairwise fun s t => ∀ vs ws, s.Declares tag vs → t.Declares tag ws → ∀ v ∈ vs, ∀ w ∈ ws, v.same w = false

/-! ## Making discriminated unions -/

theorem addTags_eq_ok_iff {known vs all : List Value} :
    addTags known vs = .ok all ↔
      all = known ++ vs ∧ Value.Repetitionless vs ∧ ∀ a ∈ known, ∀ b ∈ vs, a.same b = false := by
  induction vs generalizing known with
  | nil =>
    constructor
    · intro h
      cases h
      exact ⟨by simp, .nil, by simp⟩
    · rintro ⟨rfl, -, -⟩
      simp [addTags]
  | cons v rest ih =>
    unfold addTags Value.Repetitionless
    by_cases hany : known.any (·.same v) = true
    · rw [if_pos hany]
      obtain ⟨a, ha, hav⟩ := List.any_eq_true.1 hany
      constructor
      · intro h
        cases h
      · rintro ⟨-, -, hapart⟩
        have := hapart a ha v List.mem_cons_self
        rw [hav] at this
        cases this
    · rw [if_neg hany, ih, List.pairwise_cons]
      have hnew : ∀ a ∈ known, a.same v = false := by simpa using hany
      constructor
      · rintro ⟨rfl, hrest, hapart⟩
        refine ⟨by simp, ⟨fun b hb => hapart v (by simp) b hb, hrest⟩, fun a ha b hb => ?_⟩
        rcases List.mem_cons.1 hb with rfl | hb
        · exact hnew a ha
        · exact hapart a (by simp [ha]) b hb
      · rintro ⟨rfl, ⟨hv, hrest⟩, hapart⟩
        refine ⟨by simp, hrest, fun a ha b hb => ?_⟩
        rcases List.mem_append.1 ha with ha | ha
        · exact hapart a ha b (List.mem_cons_of_mem _ hb)
        · obtain rfl := List.mem_singleton.1 ha
          exact hv b hb

/-- options pass if each declares tags, none the same as another one of the option, as a known one or as one of another
option -/
theorem checkTags_eq_ok_iff {tag : String} {position : Nat} {known : List Value} {options : List (ObjectType Schema)} :
    checkTags tag position known options = .ok () ↔
      (∀ t ∈ options, ∃ vs, t.Declares tag vs ∧ Value.Repetitionless vs ∧
        ∀ a ∈ known, ∀ b ∈ vs, a.same b = false) ∧ TagsApart tag options := by
  induction options generalizing position known with
  | nil => simp [checkTags, TagsApart]
  | cons t rest ih =>
    unfold checkTags TagsApart
    rw [List.forall_mem_cons, List.pairwise_cons]
    cases htags : tagsOf? tag t with
    | none =>
      constructor
      · intro h
        cases h
      · rintro ⟨⟨⟨vs, hvs, -⟩, -⟩, -⟩
        rw [ObjectType.tagsOf_eq_some_iff.2 hvs] at htags
        cases htags
    | some vs =>
      have hvs := ObjectType.tagsOf_eq_some_iff.1 htags
      simp only
      cases hadd : addTags known vs with
      | error e =>
        constructor
        · intro h
          cases h
        · rintro ⟨⟨⟨ws, hws, hrep, hapart⟩, -⟩, -⟩
          obtain rfl := hvs.eq hws
          rw [addTags_eq_ok_iff.2 ⟨rfl, hrep, hapart⟩] at hadd
          cases hadd
      | ok all =>
        obtain ⟨rfl, hrep, hapart⟩ := addTags_eq_ok_iff.1 hadd
        simp only
        rw [ih]
        constructor
        · rintro ⟨hrest, hpairs⟩
          refine ⟨⟨⟨vs, hvs, hrep, hapart⟩, fun u hu => ?_⟩, fun u hu ws us hws hus v hv w hw => ?_, hpairs⟩
          · obtain ⟨us, hus, husrep, hfar⟩ := hrest u hu
            exact ⟨us, hus, husrep, fun a ha b hb => hfar a (List.mem_append_left _ ha) b hb⟩
          · obtain ⟨us', hus', -, hfar⟩ := hrest u hu
            obtain rfl := hus.eq hus'
            obtain rfl := hws.eq hvs
            exact hfar v (List.mem_append_right _ hv) w hw
        · rintro ⟨⟨-, hrest⟩, hhead, hpairs⟩
          refine ⟨fun u hu => ?_, hpairs⟩
          obtain ⟨us, hus, husrep, hfar⟩ := hrest u hu
          refine ⟨us, hus, husrep, fun a ha b hb => ?_⟩
          rcases List.mem_append.1 ha with ha | ha
          · exact hfar a ha b hb
          · exact hhead u hu vs us hvs hus a ha b hb

/-- **When a discriminated union can be made**: every option declares its tags, and those of different options differ. -/
theorem discriminatedUnion_eq_ok_iff {tag : String} {options : List (ObjectType Schema)} {s : Schema} :
    discriminatedUnion tag options = .ok s ↔
      s = .discriminated tag options ∧ (∀ t ∈ options, ∃ vs, t.Declares tag vs) ∧ TagsApart tag options := by
  have hcheck : checkTags tag 0 [] options = .ok () ↔
      (∀ t ∈ options, ∃ vs, t.Declares tag vs) ∧ TagsApart tag options := by
    rw [checkTags_eq_ok_iff]
    refine and_congr_left fun _ => forall₂_congr fun t _ => exists_congr fun vs => ?_
    exact ⟨fun h => h.1, fun h => ⟨h, h.repetitionless, by simp⟩⟩
  rw [← hcheck]
  unfold discriminatedUnion
  cases checkTags tag 0 [] options with
  | ok u =>
    simp only [Except.ok.injEq, and_true]
    exact eq_comm
  | error e => simp

end Schema

/-! ## Selecting an option -/

namespace Validator

/-- no tag of an option is the same as a tag of another one -/
def Apart (options : List TaggedOption) : Prop :=
  options.Pairwise fun a b => ∀ t ∈ a.tags, ∀ u ∈ b.tags, t.same u = false

/-- among options whose tags differ, a tag selects the option that has it -/
theorem find?_eq_of_same {options : List TaggedOption} (apart : Apart options) {option : TaggedOption}
    (hmem : option ∈ options) {t found : Value} (ht : t ∈ option.tags) (hsame : t.same found = true) :
    options.find? (fun option => option.tags.any (·.same found)) = some option := by
  induction options with
  | nil => simp at hmem
  | cons head rest ih =>
    obtain ⟨hhead, hapart⟩ := List.pairwise_cons.1 apart
    rw [List.find?_cons]
    rcases List.mem_cons.1 hmem with rfl | hrest
    · have hany : option.tags.any (·.same found) = true := List.any_eq_true.2 ⟨t, ht, hsame⟩
      rw [hany]
    · have hany : head.tags.any (·.same found) = false := by
        rw [List.any_eq_false]
        intro u hu hufound
        have hut := hhead option hrest u hu t ht
        rw [Value.same_trans hufound (Value.same_symm hsame)] at hut
        cases hut
      rw [hany]
      exact ih hapart hrest

theorem discriminated_eq_of_same {tag : String} {options : List TaggedOption} (apart : Apart options)
    {option : TaggedOption} (hmem : option ∈ options) {o : Object Value} {t : Value} (ht : t ∈ option.tags)
    (hsame : t.same ((o.get? tag).getD .undefined) = true) (ctx : Context) :
    discriminated tag options ctx (.object o) = option.validator ctx (.object o) := by
  simp only [discriminated, find?_eq_of_same apart hmem ht hsame]

/-- what a discriminated union accepts, one of its options accepts -/
theorem exists_of_discriminated {tag : String} {options : List TaggedOption} {ctx : Context} {v w : Value}
    (h : discriminated tag options ctx v = some (.ok w)) : ∃ option ∈ options, option.validator ctx v = some (.ok w) := by
  cases v with
  | object o =>
    simp only [discriminated] at h
    split at h
    · rename_i option hfind
      exact ⟨option, List.mem_of_find?_eq_some hfind, h⟩
    · simp at h
  | _ => exact absurd h wrongKind_ne_ok

/-- a discriminated union fails where all its options fail -/
theorem discriminated_of_errors {tag : String} {options : List TaggedOption} {ctx : Context} {v : Value}
    (h : ∀ option ∈ options, ∃ issues, option.validator ctx v = some (.error issues)) :
    ∃ issues, discriminated tag options ctx v = some (.error issues) := by
  cases v with
  | object o =>
    simp only [discriminated]
    split
    · rename_i option hfind
      exact h option (List.mem_of_find?_eq_some hfind)
    · exact ⟨_, rfl⟩
  | _ => exact ⟨_, rfl⟩

end Validator

/-! ## Runs -/

theorem LiteralSchema.same_of_validate {s : LiteralSchema} {ctx : Context} {v w : Value}
    (h : s.validate ctx v = .ok w) : v.same s.value = true := by
  unfold validate at h
  split_ifs at h with hs
  · exact hs
  · simp [Context.fail] at h

theorem EnumSchema.mem_of_validate {s : EnumSchema} {ctx : Context} {v w : Value} (h : s.validate ctx v = .ok w) :
    v ∈ s.options.map .string := by
  unfold validate at h
  split_ifs at h with hs
  · obtain ⟨text, htext, hmem⟩ := (Option.any_eq_true _ _).1 hs
    cases v with
    | string text' =>
      cases htext
      exact List.mem_map_of_mem (by simpa using hmem)
    | _ => cases htext
  · simp [Context.fail] at h

namespace Schema

open Validator

variable {tag : String} {options : List (ObjectType Schema)} {refs : References}

/-- an option accepts only objects whose tag, absence included, it declares -/
theorem declares_of_accepts (hrefs : ∀ name, (refs name).Explained) {t : ObjectType Schema} {tags : List Value}
    (htags : t.Declares tag tags) {ctx : Context} {v w : Value}
    (h : (Schema.object t).validator refs ctx v = some (.ok w)) :
    ∃ o, v = .object o ∧ ∃ u ∈ tags, u.same ((o.get? tag).getD .undefined) = true := by
  obtain ⟨o, rfl, haccept⟩ := fields_accept hrefs ⟨w, h⟩
  refine ⟨o, rfl, ?_⟩
  -- the field of the tag accepts what stands under its name
  have hfield : ∀ l, t.shape.get? tag = some (.leaf l) →
      ∃ x, l.validate ctx ((o.get? tag).getD .undefined) = .ok x := by
    intro l hl
    obtain ⟨x, hx⟩ := haccept (tag, .leaf l) (Object.get?_eq_some_iff.1 hl)
    exact ⟨x, Option.some.inj hx⟩
  cases htags with
  | @literal s hs =>
    obtain ⟨x, hx⟩ := hfield _ hs
    exact ⟨s.value, List.mem_singleton_self _, Value.same_symm (LiteralSchema.same_of_validate hx)⟩
  | enumeration hs =>
    obtain ⟨x, hx⟩ := hfield _ hs
    exact ⟨_, EnumSchema.mem_of_validate hx, Value.same_refl _⟩

/-- the options of a discriminated union of schemas, with the tags they declare -/
abbrev tagged (refs : References) (tag : String) (t : ObjectType Schema) : TaggedOption :=
  ⟨(tagsOf? tag t).getD [], (Schema.object t).validator refs⟩

theorem tagged_tags {t : ObjectType Schema} {tags : List Value} (htags : t.Declares tag tags) :
    (tagged refs tag t).tags = tags := by
  simp only [ObjectType.tagsOf_eq_some_iff.2 htags, Option.getD_some]

theorem tagged_apart (hdeclares : ∀ t ∈ options, ∃ tags, t.Declares tag tags) (apart : TagsApart tag options) :
    Apart (options.map (tagged refs tag)) := by
  refine List.pairwise_map.2 (apart.imp_of_mem fun {s t} hs ht hst => ?_)
  obtain ⟨vs, hvs⟩ := hdeclares s hs
  obtain ⟨ws, hws⟩ := hdeclares t ht
  rw [tagged_tags hvs, tagged_tags hws]
  exact hst vs ws hvs hws

/-- at one value, a union whose options are told apart by a tag is the plain union of these options -/
structure ChoosesAmong (tag : String) (options : List (ObjectType Schema)) (union : Schema)
    (outcome : Schema → Option Outcome) (v : Value) : Prop where
  /-- at most one option accepts -/
  one : options.Pairwise fun s t => ∀ w u, outcome (.object s) = some (.ok w) → outcome (.object t) ≠ some (.ok u)
  /-- the union accepts what some option accepts, with the output of the option -/
  accepts : ∀ w, outcome union = some (.ok w) ↔ ∃ t ∈ options, outcome (.object t) = some (.ok w)
  /-- whenever the plain union comes to an end, so does this one, with the same verdict and output -/
  plain : ∀ o, outcome (.union (options.map .object)) = some o →
    ∃ o', outcome union = some o' ∧ Part.value? o' = Part.value? o
  /-- the plain union comes to an end if all options do -/
  ends : (∀ t ∈ options, (outcome (.object t)).isSome = true) →
    (outcome (.union (options.map .object))).isSome = true
  /-- a declared tag, absence included, selects the option that declares it: the outcome is that of the option -/
  selects : ∀ o, v = .object o → ∀ t ∈ options, ∀ tags, t.Declares tag tags → ∀ u ∈ tags,
    u.same ((o.get? tag).getD .undefined) = true → outcome union = outcome (.object t)

theorem validator_union_objects :
    (Schema.union (options.map .object)).validator refs =
      Validator.union (options.map fun t => ⟨(Schema.object t).inputKinds?, (Schema.object t).validator refs⟩) := by
  rw [validator_union, List.map_map]
  rfl

section Options

variable (hdeclares : ∀ t ∈ options, ∃ tags, t.Declares tag tags) (apart : TagsApart tag options) {ctx : Context}
  {v w : Value}

include hdeclares apart

theorem selects_of_declares {o : Object Value} {t : ObjectType Schema} (ht : t ∈ options) {tags : List Value}
    (htags : t.Declares tag tags) {u : Value} (hu : u ∈ tags) (hsame : u.same ((o.get? tag).getD .undefined) = true) :
    (Schema.discriminated tag options).validator refs ctx (.object o) = (Schema.object t).validator refs ctx (.object o) := by
  rw [validator_discriminated]
  refine discriminated_eq_of_same (tagged_apart hdeclares apart) (List.mem_map_of_mem ht) ?_ hsame ctx
  rwa [tagged_tags htags]

variable (hrefs : ∀ name, (refs name).Explained)

include hrefs

/-- an option that accepts an object declares its tag, and so is the one selected -/
theorem discriminated_accepts_iff :
    (Schema.discriminated tag options).validator refs ctx v = some (.ok w) ↔
      ∃ t ∈ options, (Schema.object t).validator refs ctx v = some (.ok w) := by
  constructor
  · intro h
    rw [validator_discriminated] at h
    obtain ⟨option, hoption, hw⟩ := exists_of_discriminated h
    obtain ⟨t, ht, rfl⟩ := List.mem_map.1 hoption
    exact ⟨t, ht, hw⟩
  · rintro ⟨t, ht, hw⟩
    obtain ⟨tags, htags⟩ := hdeclares t ht
    obtain ⟨o, rfl, u, hu, hsame⟩ := declares_of_accepts hrefs htags hw
    rw [selects_of_declares hdeclares apart ht htags hu hsame]
    exact hw

/-- two options that accept one object declare the same tag -/
theorem pairwise_of_apart :
    options.Pairwise fun s t => ∀ w u, (Schema.object s).validator refs ctx v = some (.ok w) →
      (Schema.object t).validator refs ctx v ≠ some (.ok u) := by
  refine apart.imp_of_mem fun {s t} hs ht hst w u hw hu => ?_
  obtain ⟨vs, hvs⟩ := hdeclares s hs
  obtain ⟨ws, hws⟩ := hdeclares t ht
  obtain ⟨o, rfl, x, hx, hxo⟩ := declares_of_accepts hrefs hvs hw
  obtain ⟨o', ho', y, hy, hyo⟩ := declares_of_accepts hrefs hws hu
  cases ho'
  have hxy := hst vs ws hvs hws x hx y hy
  rw [Value.same_trans hxo (Value.same_symm hyo)] at hxy
  cases hxy

/-- the plain union accepts with the output of some option, and fails only if all options do -/
theorem discriminated_eq_union {o : Outcome} (h : (Schema.union (options.map .object)).validator refs ctx v = some o) :
    ∃ o', (Schema.discriminated tag options).validator refs ctx v = some o' ∧ Part.value? o' = Part.value? o := by
  rw [validator_union_objects] at h
  cases o with
  | ok w =>
    obtain ⟨a, ha, hw⟩ := exists_of_union h
    obtain ⟨t, ht, rfl⟩ := List.mem_map.1 ha
    exact ⟨.ok w, (discriminated_accepts_iff hdeclares apart hrefs).2 ⟨t, ht, hw⟩, rfl⟩
  | error issues =>
    have hall := (union_eq_error h).1
    obtain ⟨js, hjs⟩ : ∃ js, (Schema.discriminated tag options).validator refs ctx v = some (.error js) := by
      rw [validator_discriminated]
      refine discriminated_of_errors fun option hoption => ?_
      obtain ⟨t, ht, rfl⟩ := List.mem_map.1 hoption
      exact hall _ (List.mem_map_of_mem ht)
    exact ⟨.error js, hjs, rfl⟩

/-- options with different tags are chosen among by the tag -/
theorem choosesAmong_of_apart (ctx : Context) (v : Value) :
    ChoosesAmong tag options (.discriminated tag options) (fun s => s.validator refs ctx v) v where
  one := pairwise_of_apart hdeclares apart hrefs
  accepts _ := discriminated_accepts_iff hdeclares apart hrefs
  plain _ := discriminated_eq_union hdeclares apart hrefs
  ends hends := by
    rw [validator_union_objects]
    refine isSome_union fun b hb => ?_
    obtain ⟨t, ht, rfl⟩ := List.mem_map.1 hb
    exact hends t ht
  selects o hv t ht tags htags u hu hsame := by
    subst hv
    exact selects_of_declares hdeclares apart ht htags hu hsame

end Options

/-- **A discriminated union is the plain union of its options.** It can be made exactly when every option declares the
field of the tag as a literal or an enumeration and no tag of one option is the same as a tag of another. Then at most one
option accepts a value, and the union accepts what this option accepts, with its output, as the plain union does; a tag
that an option declares gives the outcome of the option, issues included. This holds in every setting, however deep names
are followed, and so of `validate`. -/
theorem discriminated_union_is_union (tag : String) (options : List (ObjectType Schema)) :
    ((∃ s, discriminatedUnion tag options = .ok s) ↔
      (∀ t ∈ options, ∃ tags, t.Declares tag tags) ∧ TagsApart tag options) ∧
    ∀ s, discriminatedUnion tag options = .ok s → ∀ (defs : Definitions) (n : Nat) (ctx : Context) (v : Value),
      ChoosesAmong tag options s (fun t => t.run defs n ctx v) v := by
  constructor
  · simp only [discriminatedUnion_eq_ok_iff, exists_eq_left]
  · intro s hs defs n ctx v
    obtain ⟨rfl, hdeclares, apart⟩ := discriminatedUnion_eq_ok_iff.1 hs
    have h := choosesAmong_of_apart hdeclares apart (references_explained defs n) ctx v
    simp only [run_eq]
    exact h

/-- absence is a tag like any other: the option that declares it takes the objects without a kind -/
theorem absent_kind_selects :
    (Schema.discriminated "kind" [.ofFields [("kind", .leaf (.literal ⟨.undefined, none⟩)), ("size", .leaf .never)],
        .ofFields [("kind", .leaf (.enumeration (.ofList ["a", "b"])))]]).run [] 0 ⟨Catalog.english, .collect⟩
          (.object .empty) =
      (Schema.object (.ofFields [("kind", .leaf (.literal ⟨.undefined, none⟩)), ("size", .leaf .never)])).run [] 0
        ⟨Catalog.english, .collect⟩ (.object .empty) := by
  obtain ⟨-, h⟩ := discriminated_union_is_union "kind"
    [.ofFields [("kind", .leaf (.literal ⟨.undefined, none⟩)), ("size", .leaf .never)],
      .ofFields [("kind", .leaf (.enumeration (.ofList ["a", "b"])))]]
  exact (h _ rfl [] 0 ⟨Catalog.english, .collect⟩ (.object .empty)).selects _ rfl _ List.mem_cons_self _ (.literal rfl) _
    (List.mem_singleton_self _) rfl

end Schema

end ValueSchema
