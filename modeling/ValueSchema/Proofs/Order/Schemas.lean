import ValueSchema.Proofs.Budget.Extends
import ValueSchema.Proofs.Budget.Suffices
import ValueSchema.Proofs.Explained
import ValueSchema.Proofs.Modes.EntryPoints
import ValueSchema.Proofs.Order.Collections

/-!
The order of members does not matter.

No combinator sees in which order the members of objects stand, if records have no validator of names and the functions
of callers do not see it either. So each schema built of these gives alike values one verdict, and alike outputs.

Results:
- `union_blind`, …, `pipe_blind`: choices and wrappers.
- `Leaf.blind`: leaves.
- `blind_passedOn`, `member_order_irrelevant`: what this says of schemas and of their runs.
-/

namespace ValueSchema

open Value (Alike)

namespace Validator

section Combinators

variable {a b inner : Validator}

/-! ## Choices -/

/-- both passes over alternatives accept, with alike outputs, or both fail -/
inductive PassAgree : Except Failures Value → Except Failures Value → Prop
  | ok {v w : Value} : v.Alike w → PassAgree (.ok v) (.ok w)
  | error (failures others : Failures) : PassAgree (.error failures) (.error others)

theorem attempt_meets {l : List (Alternative × Nat)} (h : ∀ e ∈ l, e.1.validator.OrderBlind) (ctx : Context) {v w : Value}
    (hvw : v.Alike w) : Meets ctx.mode PassAgree (attempt ctx v l) (attempt ctx w l) := by
  induction l with
  | nil => exact .some (.error [] [])
  | cons e rest ih =>
    have hrest := ih fun e' he' => h e' (List.mem_cons_of_mem _ he')
    rw [attempt_cons, attempt_cons]
    refine (h e List.mem_cons_self ctx v w hvw).bind fun p q hpq => ?_
    cases hpq with
    | ok hxy => exact .some (.ok hxy)
    | error =>
      refine hrest.map fun r s hrs => ?_
      cases hrs with
      | ok hxy => exact .ok hxy
      | error => exact .error _ _

theorem union_blind {alternatives : List Alternative} (h : ∀ b ∈ alternatives, b.validator.OrderBlind) :
    (union alternatives).OrderBlind := by
  intro ctx v w hvw
  unfold union
  simp only [List.partition_eq_filter_filter, hvw.kind_eq]
  have hpass (p : Alternative × Nat → Bool) :
      Meets ctx.mode PassAgree (attempt ctx v (alternatives.zipIdx.filter p)) (attempt ctx w (alternatives.zipIdx.filter p)) :=
    attempt_meets (fun e he => h e.1 (List.fst_mem_of_mem_zipIdx (List.mem_of_mem_filter he))) ctx hvw
  refine (hpass _).bind fun r s hrs => ?_
  cases hrs with
  | ok hxy => exact .some (.ok hxy)
  | error failures others =>
    refine (hpass _).map fun r s hrs => ?_
    cases hrs with
    | ok hxy => exact .ok hxy
    | error => exact .error (List.cons_ne_nil _ _) (List.cons_ne_nil _ _)

/-- alike objects have the same tag -/
theorem discriminated_blind (tag : String) {options : List TaggedOption} (h : ∀ option ∈ options, option.validator.OrderBlind) :
    (discriminated tag options).OrderBlind := by
  intro ctx v w hvw
  cases v with
  | object o =>
    obtain ⟨o', rfl, -⟩ := hvw.of_object
    have hselects : (fun option : TaggedOption => option.tags.any (·.same ((o.get? tag).getD .undefined))) =
        fun option => option.tags.any (·.same ((o'.get? tag).getD .undefined)) := by
      funext option
      exact Value.any_same_eq (Value.forall₂_alike_refl _) (hvw.getD tag)
    simp only [discriminated, hselects]
    split
    · rename_i option hfind
      exact h option (List.mem_of_find?_eq_some hfind) ctx _ _ hvw
    · exact .some (.error (List.cons_ne_nil _ _) (List.cons_ne_nil _ _))
  | _ =>
    cases w <;> cases hvw.kind_eq
    exact wrongKind_meets _ _ _ _ _ _

theorem intersection_blind (ha : a.OrderBlind) (hb : b.OrderBlind) : (intersection a b).OrderBlind := by
  intro ctx v w hvw
  refine (ha ctx v w hvw).bind fun l l' hl => ?_
  have hright := hb ctx v w hvw
  cases hl with
  | ok hll =>
    simp only [Part.issues, stops_nil, Bool.false_eq_true, if_false]
    refine hright.map fun r r' hr => ?_
    cases hr with
    | @ok x y hrr =>
      have hmerge := Value.merge_alike hll hrr
      simp only
      generalize Value.merge _ x = m at hmerge
      generalize Value.merge _ y = m' at hmerge
      cases hmerge with
      | none => exact .fail ..
      | some hm => exact .ok hm
    | error hi hj => exact .error hi hj
  | error hi hj =>
    simp only [Part.issues, stops_of_ne_nil hi, stops_of_ne_nil hj]
    split_ifs
    · exact .some (.error hi hj)
    · exact hright.map fun r r' _ => .error (by simp [hi]) (by simp [hj])

/-! ## Wrappers -/

theorem optional_blind (h : inner.OrderBlind) : (optional inner).OrderBlind := by
  intro ctx v w hvw
  simp only [optional, hvw.isUndefined_eq]
  split_ifs
  · exact .some (.ok hvw)
  · exact h ctx v w hvw

theorem nullable_blind (h : inner.OrderBlind) : (nullable inner).OrderBlind := by
  intro ctx v w hvw
  simp only [nullable, hvw.isNull_eq]
  split_ifs
  · exact .some (.ok hvw)
  · exact h ctx v w hvw

theorem defaulting_blind (h : inner.OrderBlind) (fallback : Value) : (defaulting inner fallback).OrderBlind := by
  intro ctx v w hvw
  simp only [defaulting, hvw.isUndefined_eq]
  split_ifs
  · exact .some (.ok (.refl fallback))
  · exact h ctx v w hvw

theorem catching_blind (h : inner.OrderBlind) (fallback : Value) : (catching inner fallback).OrderBlind := by
  intro ctx v w hvw
  refine (h ctx v w hvw).map fun p q hpq => ?_
  cases hpq with
  | ok hxy => exact .ok hxy
  | error => exact .ok (.refl fallback)

theorem refine_blind (h : inner.OrderBlind) {holds : Predicate} (hholds : ∀ v w, v.Alike w → holds v = holds w)
    (message : String) (path : Path) : (refine inner holds message path).OrderBlind := by
  intro ctx v w hvw
  refine (h ctx v w hvw).map fun p q hpq => ?_
  cases hpq with
  | ok hxy =>
    simp only [hholds _ _ hxy]
    split_ifs
    · exact .ok hxy
    · exact .error (List.cons_ne_nil _ _) (List.cons_ne_nil _ _)
  | error hi hj => exact .error hi hj

theorem transform_blind (h : inner.OrderBlind) {convert : Conversion}
    (hconvert : ∀ v w, v.Alike w → Option.Rel Alike (convert v).toOption (convert w).toOption) :
    (transform inner convert).OrderBlind := by
  intro ctx v w hvw
  refine (h ctx v w hvw).map fun p q hpq => ?_
  cases hpq with
  | @ok x y hxy =>
    have hresult := hconvert x y hxy
    simp only
    generalize convert x = r at hresult
    generalize convert y = s at hresult
    cases r <;> cases s <;> cases hresult
    · exact .fail ..
    · rename_i hrs
      exact .ok hrs
  | error hi hj => exact .error hi hj

theorem pipe_blind (ha : a.OrderBlind) (hb : b.OrderBlind) : (pipe a b).OrderBlind := by
  intro ctx v w hvw
  refine (ha ctx v w hvw).bind fun p q hpq => ?_
  cases hpq with
  | ok hxy => exact hb ctx _ _ hxy
  | error hi hj => exact .some (.error hi hj)

end Combinators

end Validator

/-! ## Leaves -/

section Leaves

variable {ctx : Context} {v w : Value}

theorem readAs_eq {α : Type} {own? convert : Value → Option α} (h : v.Alike w)
    (hread : own? v = own? w ∧ convert v = convert w) (target : String) (coerced : Bool) :
    readAs own? convert target coerced v = readAs own? convert target coerced w := by
  simp only [readAs, hread.1, hread.2, h.typeName_eq]

theorem agree_of_eq {o o' : Outcome} (h : o = o') (explained : o ≠ .error []) : Part.Agree Alike o o' := by
  subst h
  cases o with
  | ok v => exact .ok (.refl v)
  | error issues =>
    have hne : issues ≠ [] := fun hnil => explained (congrArg _ hnil)
    exact .error hne hne

theorem Leaf.ofKind_agree (kind : Kind) (h : v.Alike w) :
    Part.Agree Alike (Leaf.ofKind kind ctx v) (Leaf.ofKind kind ctx w) := by
  simp only [Leaf.ofKind, h.kind_eq]
  split_ifs
  · exact .ok h
  · exact .fail ..

/-- leaves read the same in alike values, and hand the others on as they are -/
theorem Leaf.agree (l : Leaf) (h : v.Alike w) : Part.Agree Alike (l.validate ctx v) (l.validate ctx w) := by
  cases l with
  | string s =>
    refine agree_of_eq ?_ (Leaf.validate_ne_unexplained (.string s) ctx v)
    simp only [validate, TextSchema.validate_eq, readAs_eq h ⟨h.text?_eq, h.toText?_eq⟩]
  | number s =>
    refine agree_of_eq ?_ (Leaf.validate_ne_unexplained (.number s) ctx v)
    simp only [validate, NumberSchema.validate_eq, readAs_eq h h.number?_eq]
  | boolean s =>
    refine agree_of_eq ?_ (Leaf.validate_ne_unexplained (.boolean s) ctx v)
    simp only [validate, BooleanSchema.validate_eq, readAs_eq h h.bool?_eq]
  | bigint s =>
    refine agree_of_eq ?_ (Leaf.validate_ne_unexplained (.bigint s) ctx v)
    simp only [validate, BigIntSchema.validate_eq, readAs_eq h h.bigint?_eq]
  | date s =>
    refine agree_of_eq ?_ (Leaf.validate_ne_unexplained (.date s) ctx v)
    simp only [validate, DateSchema.validate, h.readDate_eq, Context.notConverted, Context.wrongKind, h.typeName_eq]
  | literal s =>
    simp only [validate, LiteralSchema.validate, Value.same_congr h (.refl s.value)]
    split_ifs
    · exact .ok h
    · exact .fail ..
  | enumeration s =>
    simp only [validate, EnumSchema.validate, h.text?_eq]
    split_ifs
    · exact .ok h
    · exact .fail ..
  | any | unknown => exact .ok h
  | never => exact .fail ..
  | symbol => exact ofKind_agree .symbol h
  | null => exact ofKind_agree .null h
  | undefined => exact ofKind_agree .undefined h

theorem Leaf.blind (l : Leaf) : Validator.OrderBlind fun ctx v => some (l.validate ctx v) :=
  fun _ _ _ h => .some (l.agree h)

end Leaves

/-! ## Schemas -/

namespace Schema

open Validator

/-- a record has no validator of names, and the functions of callers send alike values to alike results -/
def RespectsAlike : Schema → Prop
  | .record key _ => key = none
  | .refine _ holds _ _ => ∀ v w, v.Alike w → holds v = holds w
  | .transform _ convert => ∀ v w, v.Alike w → Option.Rel Alike (convert v).toOption (convert w).toOption
  | _ => True

theorem blind_passedOn : PassedOnBy RespectsAlike OrderBlind where
  leaf _ := Leaf.blind _
  object _ hf hu := object_blind hf hu
  array _ h := array_blind h _
  set _ h := set_blind h _
  tuple _ := tuple_blind
  record hkey _ h := by
    obtain rfl := hkey
    exact record_blind h
  map _ := map_blind
  union _ := union_blind
  discriminated _ := discriminated_blind _
  intersection _ := intersection_blind
  optional _ := optional_blind
  nullable _ := nullable_blind
  defaulting _ h := defaulting_blind h _
  catching _ h := catching_blind h _
  refine hholds h := refine_blind h hholds _ _
  transform hconvert h := transform_blind h hconvert
  pipe _ := pipe_blind

/-- how validation treats two values: with one verdict and alike outputs, wherever both runs come to an end; and if that
on the first value does while issues are collected, both do in every setting -/
structure OneVerdict (outcome : Context → Value → Option Outcome) (v w : Value) : Prop where
  verdict : ∀ ctx o o', outcome ctx v = some o → outcome ctx w = some o' →
    Option.Rel Alike (Part.value? o) (Part.value? o')
  ends : ∀ ctx catalog, (outcome ⟨catalog, .collect⟩ v).isSome = true →
    (outcome ctx v).isSome = true ∧ (outcome ctx w).isSome = true

theorem oneVerdict_of_alike {defs : Definitions} (hdefs : ∀ d ∈ defs, d.2.All RespectsAlike) {s : Schema}
    (hs : s.All RespectsAlike) (n : Nat) {v w : Value} (h : v.Alike w) : OneVerdict (s.run defs n) v w := by
  have hblind : (s.run defs n).OrderBlind := blind_passedOn.run (fun _ _ _ _ => .none) hdefs n hs
  have hends (ctx : Context) (catalog : Catalog) {u : Value} (hu : (s.run defs n ⟨catalog, .collect⟩ u).isSome = true) :
      (s.run defs n ctx u).isSome = true := by
    obtain ⟨full, hfull⟩ := Option.isSome_iff_exists.1 hu
    obtain ⟨o, ho, -⟩ := run_abridged ctx catalog defs n s u full hfull
    rw [ho]
    rfl
  refine ⟨fun ctx o o' ho ho' => ?_, fun ctx catalog hv => ⟨hends ctx catalog hv, hends ctx catalog ?_⟩⟩
  · cases (hblind ctx v w h o' ho').2 o ho with
    | ok hxy => exact .some hxy
    | error => exact .none
  · obtain ⟨o, ho⟩ := Option.isSome_iff_exists.1 hv
    exact (hblind ⟨catalog, .collect⟩ w v h.symm o ho).1 rfl

/-- **The order of members does not matter.** Where records have no validator of names and the functions of callers send
alike values to alike results, a schema accepts both of two alike values, with alike outputs, or neither. This holds in
every setting, however deep names are followed, and so of `validate`. -/
theorem member_order_irrelevant (defs : Definitions) (hdefs : ∀ d ∈ defs, d.2.All RespectsAlike) {s : Schema}
    (hs : s.All RespectsAlike) {v w : Value} (h : v.Alike w) :
    (∀ n, OneVerdict (s.run defs n) v w) ∧ OneVerdict (s.validate defs) v w := by
  have hrun (n : Nat) : OneVerdict (s.run defs n) v w := oneVerdict_of_alike hdefs hs n h
  have heventually (ctx : Context) (u : Value) := eventually_run_eq_validate defs s ctx u
  refine ⟨hrun, fun ctx o o' ho ho' => ?_, fun ctx catalog hv => ?_⟩
  · obtain ⟨n, hnv, hnw⟩ := ((heventually ctx v).and (heventually ctx w)).exists
    exact (hrun n).verdict ctx o o' (hnv.trans ho) (hnw.trans ho')
  · obtain ⟨n, hcollect, hnv, hnw⟩ :=
      ((heventually ⟨catalog, .collect⟩ v).and <| (heventually ctx v).and (heventually ctx w)).exists
    rw [← hnv, ← hnw]
    exact (hrun n).ends ctx catalog (hcollect ▸ hv)

/-- members that no field describes are kept in the order of the input, which is the only difference -/
theorem swapped_members_kept :
    ∃ x y, (Schema.array (.object ((ObjectType.ofFields [("a", .leaf .null)]).withUnknown .passthrough)) .empty).run [] 0
        ⟨Catalog.english, .failFast⟩ (.array [.object (Object.ofList [("b", .bool true), ("a", .null), ("c", .null)])]) =
          some (.ok x) ∧
      (Schema.array (.object ((ObjectType.ofFields [("a", .leaf .null)]).withUnknown .passthrough)) .empty).run [] 0
        ⟨Catalog.english, .failFast⟩ (.array [.object (Object.ofList [("c", .null), ("b", .bool true), ("a", .null)])]) =
          some (.ok y) ∧
      x.Alike y := by
  have hmembers : (Value.object (Object.ofList [("b", .bool true), ("a", .null), ("c", .null)])).Alike
      (.object (Object.ofList [("c", .null), ("b", .bool true), ("a", .null)])) := by
    refine Value.alike_object_iff_perm.2 ⟨[("c", .null), ("b", .bool true), ("a", .null)], ?_, ?_⟩
    · exact @List.perm_append_comm _ [("b", Value.bool true), ("a", .null)] [("c", .null)]
    · exact List.forall₂_same.2 fun e _ => ⟨rfl, .refl e.2⟩
  have hinputs : (Value.array [.object (Object.ofList [("b", .bool true), ("a", .null), ("c", .null)])]).Alike
      (.array [.object (Object.ofList [("c", .null), ("b", .bool true), ("a", .null)])]) := .array (.cons hmembers .nil)
  have hobject : (Schema.object ((ObjectType.ofFields [("a", .leaf .null)]).withUnknown .passthrough)).All RespectsAlike :=
    .intro trivial (List.forall_mem_cons.2 ⟨.intro trivial nofun, nofun⟩)
  have hs : (Schema.array (.object ((ObjectType.ofFields [("a", .leaf .null)]).withUnknown .passthrough)) .empty).All
      RespectsAlike := .intro trivial (List.forall_mem_cons.2 ⟨hobject, nofun⟩)
  cases ((member_order_irrelevant [] nofun hs hinputs).1 0).verdict ⟨Catalog.english, .failFast⟩ _ _ rfl rfl with
  | some hxy => exact ⟨_, _, rfl, rfl, hxy⟩

end Schema

end ValueSchema
