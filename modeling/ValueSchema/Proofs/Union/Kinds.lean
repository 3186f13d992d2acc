import ValueSchema.Parse
import ValueSchema.Proofs.Budget.Suffices
import ValueSchema.Proofs.Validator.Accepted
import ValueSchema.Proofs.Value.Same

/-!
The kinds that a schema could accept are told right: a value that is accepted is of one of them.

`AcceptsOnly a kinds` says that the validator `a` accepts values of these kinds only. Each combinator turns such bounds
on its parts into one on itself, the way `Schema.inputKinds?` reads it off the schema; names, catch-alls and conversions
of the input have no bound.

Results:
- `validator_acceptsOnly`: every bound that `inputKinds?` gives holds, whatever names stand for.
- `only_told_kinds_accepted`: what this says of every run and of the entry points, and that other values are refused.
-/

namespace ValueSchema

namespace Leaf

theorem kind_of_ofKind {kind : Kind} {ctx : Context} {v w : Value} (h : ofKind kind ctx v = .ok w) : v.kind = kind := by
  unfold ofKind at h
  split_ifs at h with hk
  · exact hk
  · simp [Context.wrongKind, Context.fail] at h

end Leaf

theorem LiteralSchema.kind_of_validate {s : LiteralSchema} {ctx : Context} {v w : Value} (h : s.validate ctx v = .ok w) :
    v.kind = s.value.kind := by
  unfold LiteralSchema.validate at h
  split_ifs at h with hs
  · exact Value.same_kind hs
  · simp [Context.fail] at h

/-- converted or not, an instant is read from instants, texts and numbers only -/
theorem Value.readDate_of_kind {v : Value} (h : v.kind ∉ [Kind.date, .string, .number]) : v.readDate = .wrongKind := by
  cases v with
  | date | string | number => simp [Value.kind] at h
  | _ => rfl

/-- without conversion, leaves accept values of their own kinds -/
theorem Leaf.kind_mem_of_validate {l : Leaf} {kinds : List Kind} (hk : l.inputKinds? = some kinds) {ctx : Context}
    {v w : Value} (h : l.validate ctx v = .ok w) : v.kind ∈ kinds := by
  cases l with
  | string s =>
    simp only [inputKinds?] at hk
    split_ifs at hk with hc
    cases hk
    cases v with
    | string => simp [Value.kind]
    | _ => simp [validate, TextSchema.validate, hc, Context.wrongKind, Context.fail] at h
  | number s =>
    simp only [inputKinds?] at hk
    split_ifs at hk with hc
    cases hk
    cases v with
    | number => simp [Value.kind]
    | _ => simp [validate, NumberSchema.validate, hc, Context.wrongKind, Context.fail] at h
  | boolean s =>
    simp only [inputKinds?] at hk
    split_ifs at hk with hc
    cases hk
    cases v with
    | bool => simp [Value.kind]
    | _ => simp [validate, BooleanSchema.validate, hc, Context.wrongKind, Context.fail] at h
  | bigint s =>
    simp only [inputKinds?] at hk
    split_ifs at hk with hc
    cases hk
    cases v with
    | bigint => simp [Value.kind]
    | _ => simp [validate, BigIntSchema.validate, hc, Context.wrongKind, Context.fail] at h
  | date s =>
    cases hk
    by_contra hv
    simp only [validate, DateSchema.validate, Value.readDate_of_kind hv] at h
    split_ifs at h <;> simp [Context.notConverted, Context.wrongKind, Context.fail] at h
  | literal s =>
    cases hk
    rw [LiteralSchema.kind_of_validate h]
    exact List.mem_singleton_self _
  | enumeration s =>
    cases hk
    cases v with
    | string => simp [Value.kind]
    | _ => simp [validate, EnumSchema.validate, Value.text?, Context.fail] at h
  | symbol | null | undefined =>
    cases hk
    rw [kind_of_ofKind h]
    exact List.mem_singleton_self _
  | any | unknown => cases hk
  | never => simp [validate, Context.wrongKind, Context.fail] at h

namespace Validator

/-- only values of some kinds are accepted -/
def AcceptsOnly (a : Validator) (kinds : List Kind) : Prop := ∀ ctx v w, a ctx v = some (.ok w) → v.kind ∈ kinds

/-! ## Collections accept their own kind -/

theorem object_acceptsOnly (fields : List (String × Validator)) (unknown : UnknownKeys Validator) :
    (object fields unknown).AcceptsOnly [.object] := by
  intro ctx v w h
  cases v with
  | object => simp [Value.kind]
  | _ => exact absurd h wrongKind_ne_ok

theorem array_acceptsOnly (a : Validator) (sizes : Checks SizeTest) : (array a sizes).AcceptsOnly [.array] := by
  intro ctx v w h
  cases v with
  | array => simp [Value.kind]
  | _ => exact absurd h wrongKind_ne_ok

theorem set_acceptsOnly (a : Validator) (sizes : Checks SizeTest) : (set a sizes).AcceptsOnly [.set] := by
  intro ctx v w h
  cases v with
  | set => simp [Value.kind]
  | _ => exact absurd h wrongKind_ne_ok

theorem tuple_acceptsOnly (items : List Validator) : (tuple items).AcceptsOnly [.array] := by
  intro ctx v w h
  cases v with
  | array => simp [Value.kind]
  | _ => exact absurd h wrongKind_ne_ok

theorem record_acceptsOnly (key : Option Validator) (a : Validator) : (record key a).AcceptsOnly [.object] := by
  intro ctx v w h
  cases v with
  | object => simp [Value.kind]
  | _ => exact absurd h wrongKind_ne_ok

theorem map_acceptsOnly (key a : Validator) : (map key a).AcceptsOnly [.map] := by
  intro ctx v w h
  cases v with
  | map => simp [Value.kind]
  | _ => exact absurd h wrongKind_ne_ok

theorem discriminated_acceptsOnly (tag : String) (options : List TaggedOption) :
    (discriminated tag options).AcceptsOnly [.object] := by
  intro ctx v w h
  cases v with
  | object => simp [Value.kind]
  | _ => exact absurd h wrongKind_ne_ok

end Validator

namespace Schema

open Validator

/-- the kinds known of a list of alternatives are known of each, and are kinds of the whole -/
theorem inputKinds_of_anyInputKinds {options : List Schema} {kinds : List Kind} (h : anyInputKinds? options = some kinds) :
    ∀ s ∈ options, ∃ ks, s.inputKinds? = some ks ∧ ks ⊆ kinds := by
  induction options generalizing kinds with
  | nil => simp
  | cons s rest ih =>
    simp only [anyInputKinds?] at h
    split at h
    · rename_i ks ls hs hrest
      cases h
      intro t ht
      rcases List.mem_cons.1 ht with rfl | ht
      · exact ⟨ks, hs, List.subset_append_left _ _⟩
      · obtain ⟨ks', hks', hsub⟩ := ih hrest t ht
        exact ⟨ks', hks', fun k hk => List.mem_append_right _ (hsub hk)⟩
    · cases h

/-- **Kinds are told right.** Where the kinds that a schema could accept are known, it accepts no value of another kind,
whatever names stand for. -/
theorem validator_acceptsOnly (refs : References) (s : Schema) {kinds : List Kind} (hk : s.inputKinds? = some kinds) :
    (s.validator refs).AcceptsOnly kinds := by
  induction s using parts_induction generalizing kinds with
  | step s ih =>
    cases s with
    | leaf l => exact fun ctx v w h => l.kind_mem_of_validate hk (Option.some.inj h)
    | object type =>
      cases hk
      rw [validator_object]
      exact object_acceptsOnly _ _
    | record key value =>
      cases hk
      rw [validator_record]
      exact record_acceptsOnly _ _
    | discriminated tag options =>
      cases hk
      rw [validator_discriminated]
      exact discriminated_acceptsOnly _ _
    | array element sizes => cases hk; exact array_acceptsOnly _ _
    | tuple items =>
      cases hk
      rw [validator_tuple]
      exact tuple_acceptsOnly _
    | set element sizes => cases hk; exact set_acceptsOnly _ _
    | map key value => cases hk; exact map_acceptsOnly _ _
    | union options =>
      intro ctx v w h
      rw [validator_union] at h
      obtain ⟨a, ha, hav⟩ := exists_of_union h
      obtain ⟨s, hs, rfl⟩ := List.mem_map.1 ha
      obtain ⟨ks, hks, hsub⟩ := inputKinds_of_anyInputKinds hk s hs
      exact hsub (ih s hs hks ctx v w hav)
    | intersection left right =>
      intro ctx v w h
      obtain ⟨a, b, hl, hr, -⟩ := intersection_eq_ok h
      simp only [inputKinds?] at hk
      -- both members accept the value, so either bound holds of it
      cases hkl : left.inputKinds? with
      | none =>
        rw [hkl] at hk
        exact ih right (by simp [parts]) hk ctx v b hr
      | some ks =>
        have hleft := ih left (by simp [parts]) hkl ctx v a hl
        cases hkr : right.inputKinds? with
        | none =>
          rw [hkl, hkr] at hk
          cases hk
          exact hleft
        | some ls =>
          have hright := ih right (by simp [parts]) hkr ctx v b hr
          rw [hkl, hkr] at hk
          cases hk
          exact List.mem_filter.2 ⟨hleft, by simpa using hright⟩
    | optional inner =>
      obtain ⟨ks, hks, rfl⟩ := Option.map_eq_some_iff.1 hk
      intro ctx v w h
      rcases optional_eq_ok_iff.1 h with ⟨rfl, -⟩ | ⟨-, h⟩
      · exact List.mem_cons_self
      · exact List.mem_cons_of_mem _ (ih inner (by simp [parts]) hks ctx v w h)
    | nullable inner =>
      obtain ⟨ks, hks, rfl⟩ := Option.map_eq_some_iff.1 hk
      intro ctx v w h
      rcases nullable_eq_ok_iff.1 h with ⟨rfl, -⟩ | ⟨-, h⟩
      · exact List.mem_cons_self
      · exact List.mem_cons_of_mem _ (ih inner (by simp [parts]) hks ctx v w h)
    | defaulting inner fallback =>
      obtain ⟨ks, hks, rfl⟩ := Option.map_eq_some_iff.1 hk
      intro ctx v w h
      rcases defaulting_eq_ok_iff.1 h with ⟨rfl, -⟩ | ⟨-, h⟩
      · exact List.mem_cons_self
      · exact List.mem_cons_of_mem _ (ih inner (by simp [parts]) hks ctx v w h)
    | catching inner fallback => cases hk
    | refine inner holds message path =>
      intro ctx v w h
      exact ih inner (by simp [parts]) hk ctx v w (refine_eq_ok h).1
    | transform inner convert =>
      intro ctx v w h
      obtain ⟨u, hu, -⟩ := transform_eq_ok h
      exact ih inner (by simp [parts]) hk ctx v u hu
    | pipe first second =>
      intro ctx v w h
      obtain ⟨u, hu, -⟩ := pipe_eq_ok h
      exact ih first (by simp [parts]) hk ctx v u hu
    | lazy name => cases hk

/-- **Only values of the told kinds are accepted.** Where the kinds that a schema could accept are told, a value that it
accepts is of one of them, in every setting, however deep names are followed, and through every entry point. So a value of
another kind is refused, with issues, whenever the schema comes to an end on it. -/
theorem only_told_kinds_accepted (defs : Definitions) {s : Schema} {kinds : List Kind} (hk : s.inputKinds? = some kinds)
    (v : Value) :
    (∀ n ctx w, s.run defs n ctx v = some (.ok w) → v.kind ∈ kinds) ∧
    (∀ ctx w, s.validate defs ctx v = some (.ok w) → v.kind ∈ kinds) ∧
    (s.isValid defs v = some true → v.kind ∈ kinds) ∧
    (v.kind ∉ kinds → ∀ n ctx o, s.run defs n ctx v = some o → ∃ issues, o = .error issues ∧ issues ≠ []) := by
  have hruns (n : Nat) (ctx : Context) (w : Value) (h : s.run defs n ctx v = some (.ok w)) : v.kind ∈ kinds := by
    rw [run_eq] at h
    exact validator_acceptsOnly (references defs n) s hk ctx v w h
  have hvalidate (ctx : Context) (w : Value) (h : s.validate defs ctx v = some (.ok w)) : v.kind ∈ kinds := by
    obtain ⟨n, hn⟩ := validate_eq_some_iff.1 h
    exact hruns n ctx w hn
  refine ⟨hruns, hvalidate, fun h => ?_, fun hother n ctx o ho => ?_⟩
  · obtain ⟨o, ho, haccepted⟩ := Option.map_eq_some_iff.1 h
    cases o with
    | ok w => exact hvalidate ⟨Catalog.english, .failFast⟩ w ho
    | error issues => cases haccepted
  · cases o with
    | ok w => exact absurd (hruns n ctx w ho) hother
    | error issues =>
      refine ⟨issues, rfl, ?_⟩
      rintro rfl
      exact run_explained defs n s ctx v ho

/-- of a name nothing is told, but the other side bounds both: absence, null and arrays -/
theorem named_side_bounded :
    (Value.array [.null]).kind ∈ [Kind.undefined, .null, .undefined, .array] ∧
      ∃ issues, (Schema.intersection (.lazy "any") (.union [.optional (.leaf .null),
          .defaulting (.array (.leaf .any) .empty) .null])).run [("any", .leaf .any)] 1 ⟨Catalog.english, .collect⟩
            (.set []) = some (.error issues) ∧ issues ≠ [] := by
  have hk : (Schema.intersection (.lazy "any") (.union [.optional (.leaf .null),
      .defaulting (.array (.leaf .any) .empty) .null])).inputKinds? = some [.undefined, .null, .undefined, .array] := rfl
  have hset := (only_told_kinds_accepted [("any", .leaf .any)] hk (.set [])).2.2.2 (by decide) 1
    ⟨Catalog.english, .collect⟩ _ rfl
  obtain ⟨issues, hissues, hne⟩ := hset
  exact ⟨(only_told_kinds_accepted [("any", .leaf .any)] hk (.array [.null])).1 1 ⟨Catalog.english, .collect⟩
    (.array [.null]) rfl, issues, congrArg some hissues, hne⟩

end Schema

end ValueSchema
