import ValueSchema.Proofs.Leaf.Stable
import ValueSchema.Proofs.Validator.Accepted
import ValueSchema.Proofs.Value.WellFormed

/-!
Outputs repeat nothing.

Distinct elements of a set may meet when an element schema trims or converts them, and so may the keys of a map; merges
make sets and maps of two outputs. Still no output holds a set or a map that repeats anything, if the input does not, and
if neither fallbacks nor conversions bring one in. What a set or map schema returns repeats nothing at its own level
whatever the input was, and the sizes that a set schema asks for are those of the set it returns.

Results:
- `sizeIssues_eq_nil_iff`: bounds on a size, as inequalities.
- `set_output`, `map_output`: what set and map schemas return.
- `array_keepsForm`, `set_keepsForm`, …: each combinator makes well-formed values of well-formed values if its parts do.
- `outputs_well_formed`: every schema.
-/

namespace ValueSchema

/-! ## Sizes -/

/-- the size that a test asks for -/
def SizeTest.Holds : SizeTest → Nat → Prop
  | .atLeast n, size => n ≤ size
  | .atMost n, size => size ≤ n
  | .exactly n, size => size = n

theorem SizeTest.failure_eq_none_iff {test : SizeTest} {origin : Origin} {size : Nat} :
    test.failure origin size = none ↔ test.Holds size := by
  cases test with
  | atLeast n => simp [failure, Holds]
  | atMost n => simp [failure, Holds]
  | exactly n =>
    simp only [failure, Holds]
    split_ifs
    · simp only [false_iff]
      omega
    · simp only [false_iff]
      omega
    · simp only [true_iff]
      omega

theorem Checks.sizeIssues_eq_nil_iff {sizes : Checks SizeTest} {origin : Origin} {ctx : Context} {size : Nat} :
    sizes.sizeIssues origin ctx size = [] ↔ ∀ check ∈ sizes.items, check.test.Holds size := by
  simp only [sizeIssues, Option.toList_eq_nil_iff, firstIssue_eq_none_iff, SizeTest.failure_eq_none_iff]

namespace Validator

variable {ctx : Context} {v w : Value}

/-- a set that is returned repeats nothing, and has every size that was asked for -/
theorem set_output {a : Validator} (ha : a.Explained) {sizes : Checks SizeTest}
    (h : set a sizes ctx v = some (.ok w)) :
    ∃ elements, w = .set elements ∧ Value.Repetitionless elements ∧
      ∀ check ∈ sizes.items, check.test.Holds elements.length := by
  obtain ⟨xs, ys, -, rfl, -, hsize⟩ := (set_eq_ok_iff ha).1 h
  exact ⟨Value.distinct ys, rfl, Value.repetitionless_distinct ys, Checks.sizeIssues_eq_nil_iff.1 hsize⟩

/-- a map that is returned has no key twice -/
theorem map_output {key a : Validator} (hk : key.Explained) (ha : a.Explained) (h : map key a ctx v = some (.ok w)) :
    ∃ entries, w = .map entries ∧ Value.Repetitionless (entries.map Prod.fst) := by
  obtain ⟨es, es', -, rfl, -⟩ := (map_eq_ok_iff hk ha).1 h
  exact ⟨Value.distinctEntries es', rfl, Value.repetitionless_keys es'⟩

/-! ## Leaves -/

/-- a leaf gives the value it accepts, or a value without parts -/
theorem leaf_output {l : Leaf} (h : l.validate ctx v = .ok w) : w = v ∨ w.IsScalar := by
  have ofChecks {κ α : Type} {c : Checks κ} {failure : κ → α → Option Message} {a : α} {output : Value}
      (hc : c.run failure ctx a output = .ok w) (hscalar : output.IsScalar) : w.IsScalar := by
    rw [← (Checks.run_eq_ok_iff.1 hc).2]
    exact hscalar
  cases l with
  | string s =>
    right
    rw [Leaf.validate, TextSchema.validate_eq] at h
    split at h
    · exact ofChecks h ⟨trivial, rfl⟩
    · cases h
  | number s =>
    right
    rw [Leaf.validate, NumberSchema.validate_eq] at h
    split at h
    · split_ifs at h
      · cases h
      · exact ofChecks h ⟨trivial, rfl⟩
    · cases h
  | bigint s =>
    right
    rw [Leaf.validate, BigIntSchema.validate_eq] at h
    split at h
    · exact ofChecks h ⟨trivial, rfl⟩
    · cases h
  | boolean s =>
    right
    rw [Leaf.validate, BooleanSchema.validate_eq] at h
    split at h
    · cases h
      exact ⟨trivial, rfl⟩
    · cases h
  | date s =>
    right
    simp only [Leaf.validate, DateSchema.validate] at h
    split at h
    · exact ofChecks h ⟨trivial, rfl⟩
    · cases h
    · split_ifs at h <;> cases h
  | literal s => exact Or.inl (LiteralSchema.output_eq h)
  | enumeration s => exact Or.inl (EnumSchema.output_eq h)
  | symbol | null | undefined => exact Or.inl (Leaf.ofKind_output_eq h)
  | any | unknown => exact Or.inl (Except.ok.inj h).symm
  | never => cases h

/-! ## Combinators -/

/-- a validator that makes well-formed values of well-formed values -/
structure KeepsForm (a : Validator) : Prop where
  explained : a.Explained
  output : ∀ {ctx : Context} {v w : Value}, v.WellFormed → a ctx v = some (.ok w) → w.WellFormed

theorem leaf_keepsForm (l : Leaf) : KeepsForm fun ctx v => some (l.validate ctx v) where
  explained ctx v h := l.validate_ne_unexplained ctx v (Option.some.inj h)
  output hv h := by
    rcases leaf_output (Option.some.inj h) with rfl | hscalar
    · exact hv
    · exact hscalar.wellFormed

/-- elements made one by one -/
theorem elements_keepForm {a : Validator} (h : a.KeepsForm) {xs ys : List Value} (hx : ∀ x ∈ xs, x.WellFormed)
    (hxy : List.Forall₂ (fun x y => a ctx x = some (.ok y)) xs ys) : ∀ y ∈ ys, y.WellFormed := by
  intro y hy
  obtain ⟨x, hmem, hmade⟩ := exists_left_of_forall₂ hxy hy
  exact h.output (hx x hmem) hmade

theorem array_keepsForm {a : Validator} (h : a.KeepsForm) (sizes : Checks SizeTest) : (array a sizes).KeepsForm where
  explained := array_explained a sizes
  output hv hw := by
    obtain ⟨xs, ys, rfl, rfl, hxy, -⟩ := (array_eq_ok_iff h.explained).1 hw
    exact Value.wellFormed_array_iff.2 (elements_keepForm h (Value.wellFormed_array_iff.1 hv) hxy)

theorem set_keepsForm {a : Validator} (h : a.KeepsForm) (sizes : Checks SizeTest) : (set a sizes).KeepsForm where
  explained := set_explained a sizes
  output hv hw := by
    obtain ⟨xs, ys, rfl, rfl, hxy, -⟩ := (set_eq_ok_iff h.explained).1 hw
    exact Value.wellFormed_ofElements (elements_keepForm h (Value.wellFormed_set_iff.1 hv).2 hxy)

theorem tuple_keepsForm {items : List Validator} (h : ∀ a ∈ items, a.KeepsForm) : (tuple items).KeepsForm where
  explained := tuple_explained items
  output hv hw := by
    obtain ⟨xs, ys, rfl, rfl, -, hxy⟩ := (tuple_eq_ok_iff fun a ha => (h a ha).explained).1 hw
    refine Value.wellFormed_array_iff.2 fun y hy => ?_
    obtain ⟨e, he, hmade⟩ := exists_left_of_forall₂ hxy hy
    obtain ⟨hitem, hx⟩ := List.of_mem_zip he
    exact (h e.1 hitem).output (Value.wellFormed_array_iff.1 hv e.2 hx) hmade

theorem record_keepsForm {key : Option Validator} {a : Validator} (h : a.KeepsForm) : (record key a).KeepsForm where
  explained := record_explained key a
  output hv hw := by
    obtain ⟨o, es, rfl, rfl, hes⟩ := (record_eq_ok_iff h.explained).1 hw
    refine Value.wellFormed_ofList fun e' he' => ?_
    obtain ⟨e, he, -, hmade⟩ := exists_left_of_forall₂ hes he'
    exact h.output (Value.wellFormed_object_iff.1 hv e he) hmade

theorem map_keepsForm {key a : Validator} (hk : key.KeepsForm) (h : a.KeepsForm) : (map key a).KeepsForm where
  explained := map_explained key a
  output hv hw := by
    obtain ⟨es, es', rfl, rfl, hes⟩ := (map_eq_ok_iff hk.explained h.explained).1 hw
    refine Value.wellFormed_ofEntries fun e' he' => ?_
    obtain ⟨e, he, hkey, hmade⟩ := exists_left_of_forall₂ hes he'
    have hentry := (Value.wellFormed_map_iff.1 hv).2 e he
    exact ⟨hk.output hentry.1 hkey, h.output hentry.2 hmade⟩

/-- members kept beside the fields are members of the input, as they are or made of them -/
theorem extras_keepForm {unknown : UnknownKeys Validator} (h : ∀ a ∈ unknown.parts, a.KeepsForm)
    {es others : List (String × Value)} (hes : ∀ e ∈ es, e.2.WellFormed) (hkept : ExtrasKept unknown ctx es others) :
    ∀ e ∈ others, e.2.WellFormed := by
  intro e he
  cases unknown with
  | strip =>
    obtain rfl : others = [] := hkept
    simp at he
  | strict =>
    obtain ⟨-, rfl⟩ : es = [] ∧ others = [] := hkept
    simp at he
  | passthrough =>
    obtain rfl : others = es.filter fun e => !Key.isDangerous e.1 := hkept
    exact hes e (List.mem_of_mem_filter he)
  | catchall a =>
    obtain ⟨e', he', -, hmade⟩ := exists_left_of_forall₂ hkept he
    exact (h a (List.mem_singleton_self a)).output (hes e' (List.mem_of_mem_filter he')) hmade

theorem object_keepsForm {fields : List (String × Validator)} {unknown : UnknownKeys Validator}
    (hf : ∀ f ∈ fields, f.2.KeepsForm) (hu : ∀ a ∈ unknown.parts, a.KeepsForm) : (object fields unknown).KeepsForm where
  explained := object_explained fields unknown
  output hv hw := by
    obtain ⟨o, known, others, rfl, rfl, hknown, hothers⟩ :=
      (object_eq_ok_iff (fun f hm => (hf f hm).explained) fun a ha => (hu a ha).explained).1 hw
    refine Value.wellFormed_ofList fun e he => ?_
    rcases List.mem_append.1 he with he | he
    · obtain ⟨m, hm, hme⟩ := List.mem_filterMap.1 he
      obtain ⟨f, hmem, u, hmade, hfm⟩ := exists_left_of_forall₂ hknown hm
      have hkept : memberOf o f.1 u = some e := hfm.symm.trans hme
      unfold memberOf at hkept
      split_ifs at hkept
      cases hkept
      exact (hf f hmem).output (hv.get? f.1) hmade
    · refine extras_keepForm hu (fun e he => ?_) hothers e he
      exact Value.wellFormed_object_iff.1 hv e (List.mem_of_mem_filter he)

theorem union_keepsForm {alternatives : List Alternative} (h : ∀ b ∈ alternatives, b.validator.KeepsForm) :
    (union alternatives).KeepsForm where
  explained := union_explained alternatives
  output hv hw := by
    obtain ⟨b, hb, hmade⟩ := exists_of_union hw
    exact (h b hb).output hv hmade

theorem discriminated_keepsForm {tag : String} {options : List TaggedOption}
    (h : ∀ option ∈ options, option.validator.KeepsForm) : (discriminated tag options).KeepsForm where
  explained := discriminated_explained tag fun option ho => (h option ho).explained
  output {ctx v w} hv hw := by
    cases v with
    | object o =>
      simp only [discriminated] at hw
      split at hw
      · rename_i option hfind
        exact (h option (List.mem_of_find?_eq_some hfind)).output hv hw
      · simp at hw
    | _ => exact absurd hw wrongKind_ne_ok

theorem intersection_keepsForm {a b : Validator} (ha : a.KeepsForm) (hb : b.KeepsForm) :
    (intersection a b).KeepsForm where
  explained := intersection_explained ha.explained hb.explained
  output hv hw := by
    obtain ⟨x, y, hx, hy, hmerge⟩ := intersection_eq_ok hw
    exact (ha.output hv hx).merge (hb.output hv hy) hmerge

section Wrappers

variable {inner : Validator} (h : inner.KeepsForm)
include h

theorem optional_keepsForm : (optional inner).KeepsForm where
  explained := optional_explained h.explained
  output hv hw := by
    rcases optional_eq_ok_iff.1 hw with ⟨rfl, rfl⟩ | ⟨-, hw⟩
    · exact hv
    · exact h.output hv hw

theorem nullable_keepsForm : (nullable inner).KeepsForm where
  explained := nullable_explained h.explained
  output hv hw := by
    rcases nullable_eq_ok_iff.1 hw with ⟨rfl, rfl⟩ | ⟨-, hw⟩
    · exact hv
    · exact h.output hv hw

theorem defaulting_keepsForm {fallback : Value} (hfallback : fallback.WellFormed) :
    (defaulting inner fallback).KeepsForm where
  explained := defaulting_explained h.explained fallback
  output hv hw := by
    rcases defaulting_eq_ok_iff.1 hw with ⟨-, rfl⟩ | ⟨-, hw⟩
    · exact hfallback
    · exact h.output hv hw

theorem catching_keepsForm {fallback : Value} (hfallback : fallback.WellFormed) :
    (catching inner fallback).KeepsForm where
  explained := catching_explained inner fallback
  output hv hw := by
    obtain ⟨o, ho, hw⟩ := Option.map_eq_some_iff.1 hw
    cases o with
    | ok u =>
      cases hw
      exact h.output hv ho
    | error issues =>
      cases hw
      exact hfallback

theorem refine_keepsForm (holds : Predicate) (message : String) (path : Path) :
    (refine inner holds message path).KeepsForm where
  explained := refine_explained h.explained holds message path
  output hv hw := h.output hv (refine_eq_ok hw).1

theorem transform_keepsForm {convert : Conversion} (hconvert : ∀ v w, v.WellFormed → convert v = .ok w → w.WellFormed) :
    (transform inner convert).KeepsForm where
  explained := transform_explained h.explained convert
  output hv hw := by
    obtain ⟨u, hu, hconverted⟩ := transform_eq_ok hw
    exact hconvert u _ (h.output hv hu) hconverted

end Wrappers

theorem pipe_keepsForm {first second : Validator} (hf : first.KeepsForm) (hs : second.KeepsForm) :
    (pipe first second).KeepsForm where
  explained := pipe_explained hf.explained hs.explained
  output hv hw := by
    obtain ⟨u, hu, hw⟩ := pipe_eq_ok hw
    exact hs.output (hf.output hv hu) hw

end Validator

/-! ## Schemas -/

namespace Schema

open Validator

/-- fallbacks are well formed, and so is what a conversion makes of well-formed values; a literal needs no condition,
since it gives the value that it accepts and not its own -/
def SuppliesWellFormed : Schema → Prop
  | .defaulting _ fallback => fallback.WellFormed
  | .catching _ fallback => fallback.WellFormed
  | .transform _ convert => ∀ v w, v.WellFormed → convert v = .ok w → w.WellFormed
  | _ => True

theorem keepsForm_passedOn : PassedOnBy SuppliesWellFormed KeepsForm where
  leaf _ := leaf_keepsForm _
  object _ := object_keepsForm
  array _ h := array_keepsForm h _
  set _ h := set_keepsForm h _
  tuple _ := tuple_keepsForm
  record _ _ := record_keepsForm
  map _ := map_keepsForm
  union _ := union_keepsForm
  discriminated _ := discriminated_keepsForm
  intersection _ := intersection_keepsForm
  optional _ := optional_keepsForm
  nullable _ := nullable_keepsForm
  defaulting hfallback h := defaulting_keepsForm h hfallback
  catching hfallback h := catching_keepsForm h hfallback
  refine _ h := refine_keepsForm h _ _ _
  transform hconvert h := transform_keepsForm h hconvert
  pipe _ := pipe_keepsForm

/-- **Outputs repeat nothing.** If fallbacks and conversions bring in no set or map that repeats anything, every schema
makes well-formed values of well-formed values. Whatever the input, what a set schema returns repeats no element and has
the sizes that were asked for, and what a map schema returns repeats no key. This holds in every setting and however deep
names are followed, and so of `validate`. -/
theorem outputs_well_formed (defs : Definitions) (n : Nat) (ctx : Context) (v w : Value) :
    ((∀ d ∈ defs, d.2.All SuppliesWellFormed) → ∀ s : Schema, s.All SuppliesWellFormed → v.WellFormed →
      s.run defs n ctx v = some (.ok w) → w.WellFormed) ∧
    (∀ element sizes, (Schema.set element sizes).run defs n ctx v = some (.ok w) →
      ∃ elements, w = .set elements ∧ Value.Repetitionless elements ∧
        ∀ check ∈ sizes.items, check.test.Holds elements.length) ∧
    (∀ key value, (Schema.map key value).run defs n ctx v = some (.ok w) →
      ∃ entries, w = .map entries ∧ Value.Repetitionless (entries.map Prod.fst)) := by
  have hrefs : ∀ name, (references defs n name).Explained := references_explained defs n
  refine ⟨?_, ?_, ?_⟩
  · intro hdefs s hs hv hw
    have hnone : KeepsForm fun _ _ => none := ⟨fun _ _ => nofun, fun _ => nofun⟩
    exact (keepsForm_passedOn.run hnone hdefs n hs).output hv hw
  · intro element sizes hw
    rw [run_eq] at hw
    exact set_output (validator_explained hrefs element) hw
  · intro key value hw
    rw [run_eq] at hw
    exact map_output (validator_explained hrefs key) (validator_explained hrefs value) hw

/-- texts without the blanks around them -/
def trimmedText : Schema := .leaf (.string ⟨[.trim], .empty, false⟩)

/-- texts that meet when they are trimmed: one of them is left, and keys that meet are one key -/
theorem trimmed_texts_meet :
    (Value.set [.string "a"]).WellFormed ∧
    (∃ elements, Value.set [.string "a"] = .set elements ∧ Value.Repetitionless elements ∧
      ∀ check ∈ [(⟨.exactly 1, none⟩ : Check SizeTest)], check.test.Holds elements.length) ∧
    ∃ entries, Value.map [(.string "a", .bool false)] = .map entries ∧ Value.Repetitionless (entries.map Prod.fst) := by
  have hset := outputs_well_formed [] 0 ⟨Catalog.english, .collect⟩ (.set [.string " a", .string "a "])
    (.set [.string "a"])
  have hmap := outputs_well_formed [] 0 ⟨Catalog.english, .collect⟩
    (.map [(.string " a", .bool true), (.string "a ", .bool false)]) (.map [(.string "a", .bool false)])
  have hrun : (Schema.set trimmedText ⟨[⟨.exactly 1, none⟩], none⟩).run [] 0 ⟨Catalog.english, .collect⟩
      (.set [.string " a", .string "a "]) = some (.ok (.set [.string "a"])) := rfl
  refine ⟨?_, hset.2.1 _ _ hrun, hmap.2.2 trimmedText (.leaf .any) rfl⟩
  have hschema : (Schema.set trimmedText ⟨[⟨.exactly 1, none⟩], none⟩).All SuppliesWellFormed := by
    refine .intro trivial fun t ht => ?_
    obtain rfl := List.mem_singleton.1 ht
    exact .intro trivial nofun
  have hinput : (Value.set [.string " a", .string "a "]).WellFormed := by
    refine Value.wellFormed_set_iff.2 ⟨List.pairwise_pair.2 rfl, fun x hx => ?_⟩
    have hscalar : x.IsScalar := by
      rcases List.mem_pair.1 hx with rfl | rfl <;> exact ⟨trivial, rfl⟩
    exact hscalar.wellFormed
  exact hset.1 nofun _ hschema hinput hrun

end Schema

end ValueSchema
