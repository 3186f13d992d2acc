import ValueSchema.Proofs.Leaf.Verdict
import ValueSchema.Proofs.Schema.Runs
import ValueSchema.Proofs.Validator.Run

/-!
A refusal always comes with an issue.

`Explained a` says that the validator `a` never fails with an empty list of issues, in any setting and on any value.
Leaves fail with one issue; a collection fails only with the issues it has gathered; a wrapper fails with those of the
validator inside it. `run_explained`: every run of every schema is explained.
-/

namespace ValueSchema

theorem Leaf.validate_ne_unexplained (l : Leaf) (ctx : Context) (v : Value) : l.validate ctx v ≠ .error [] := by
  rcases l.verdict v with ⟨w, h⟩ | ⟨m, own, h⟩
  · rw [show l.validate ctx v = .ok w from h ctx]; simp
  · rw [show l.validate ctx v = ctx.fail m own from h ctx]; simp [Context.fail]

namespace Validator

/-- no failure without an issue -/
def Explained (a : Validator) : Prop := ∀ ctx v, a ctx v ≠ some (.error [])

theorem wrongKind_ne_unexplained (ctx : Context) (expected : String) (v : Value) (own : Option String) :
    some (ctx.wrongKind expected v own) ≠ some (.error []) := by simp [Context.wrongKind, Context.fail]

theorem map_settle_ne_unexplained {α : Type} (parts : Option α) (issues : α → List Issue) (output : α → Value) :
    parts.map (fun ps => settle (issues ps) (output ps)) ≠ some (.error []) := by
  intro h
  obtain ⟨ps, -, h⟩ := Option.map_eq_some_iff.1 h
  exact settle_ne_unexplained _ _ h

theorem close_ne_unexplained (mode : Mode) (partIssues wholeIssues : List Issue) (output : Value) :
    close mode partIssues wholeIssues output ≠ .error [] := by
  unfold close
  split_ifs with hs
  · simpa using (stops_eq_true_iff.1 hs).2
  · exact settle_ne_unexplained _ _

theorem child_ne_unexplained {a : Validator} (h : a.Explained) (segment : Segment) (ctx : Context) (v : Value) :
    a.child segment ctx v ≠ some (.error []) := by
  intro hc
  obtain ⟨p, hp, hw⟩ := Option.map_eq_some_iff.1 hc
  cases p with
  | ok w => simp [Part.within] at hw
  | error issues =>
    simp only [Part.within, Issue.allWithin, Except.error.injEq, List.map_eq_nil_iff] at hw
    exact h ctx v (hw ▸ hp)

/-! ## Collections -/

theorem array_explained (a : Validator) (sizes : Checks SizeTest) : (array a sizes).Explained := by
  intro ctx v h
  cases v with
  | array items =>
    obtain ⟨ps, -, h⟩ := Option.map_eq_some_iff.1 h
    exact close_ne_unexplained _ _ _ _ h
  | _ => exact wrongKind_ne_unexplained _ _ _ _ h

theorem set_explained (a : Validator) (sizes : Checks SizeTest) : (set a sizes).Explained := by
  intro ctx v h
  cases v with
  | set elements =>
    obtain ⟨ps, -, h⟩ := Option.map_eq_some_iff.1 h
    exact close_ne_unexplained _ _ _ _ h
  | _ => exact wrongKind_ne_unexplained _ _ _ _ h

theorem tuple_explained (items : List Validator) : (tuple items).Explained := by
  intro ctx v h
  cases v with
  | array vs =>
    simp only [tuple] at h
    split_ifs at h
    · exact map_settle_ne_unexplained _ _ _ h
    · simp [Context.fail] at h
  | _ => exact wrongKind_ne_unexplained _ _ _ _ h

theorem record_explained (key : Option Validator) (a : Validator) : (record key a).Explained := by
  intro ctx v h
  cases v with
  | object o => exact map_settle_ne_unexplained _ _ _ h
  | _ => exact wrongKind_ne_unexplained _ _ _ _ h

theorem map_explained (key a : Validator) : (map key a).Explained := by
  intro ctx v h
  cases v with
  | map entries => exact map_settle_ne_unexplained _ _ _ h
  | _ => exact wrongKind_ne_unexplained _ _ _ _ h

theorem object_explained (fields : List (String × Validator)) (unknown : UnknownKeys Validator) :
    (object fields unknown).Explained := by
  intro ctx v h
  cases v with
  | object o =>
    simp only [object, Option.bind_eq_some_iff] at h
    obtain ⟨known, -, h⟩ := h
    split_ifs at h with hs
    · rw [Option.some.injEq, Except.error.injEq] at h
      exact (stops_eq_true_iff.1 hs).2 h
    · exact map_settle_ne_unexplained _ _ _ h
  | _ => exact wrongKind_ne_unexplained _ _ _ _ h

/-! ## Choices and wrappers -/

theorem union_explained (alternatives : List Alternative) : (union alternatives).Explained := by
  intro ctx v h
  simp only [union, Option.bind_eq_some_iff] at h
  obtain ⟨likely, -, h⟩ := h
  cases likely with
  | ok w => simp at h
  | error failures =>
    obtain ⟨unlikely, -, h⟩ := Option.map_eq_some_iff.1 h
    cases unlikely <;> simp at h

theorem discriminated_explained (tag : String) {options : List TaggedOption} (h : ∀ o ∈ options, o.validator.Explained) :
    (discriminated tag options).Explained := by
  intro ctx v hv
  cases v with
  | object o =>
    simp only [discriminated] at hv
    split at hv
    · rename_i option hfind
      exact h option (List.mem_of_find?_eq_some hfind) ctx _ hv
    · simp at hv
  | _ => exact wrongKind_ne_unexplained _ _ _ _ hv

theorem intersection_explained {left right : Validator} (hl : left.Explained) (hr : right.Explained) :
    (intersection left right).Explained := by
  intro ctx v h
  simp only [intersection, Option.bind_eq_some_iff] at h
  obtain ⟨l, hlv, h⟩ := h
  split_ifs at h
  · rw [Option.some.injEq] at h
    exact hl ctx v (h ▸ hlv)
  · obtain ⟨r, hrv, h⟩ := Option.map_eq_some_iff.1 h
    cases l with
    | error is =>
      simp only [Except.error.injEq, Part.issues, List.append_eq_nil_iff] at h
      exact hl ctx v (h.1 ▸ hlv)
    | ok a =>
      cases r with
      | error js =>
        simp only [Except.error.injEq, Part.issues, List.nil_append] at h
        exact hr ctx v (h ▸ hrv)
      | ok b =>
        simp only at h
        split at h <;> simp [Context.fail] at h

theorem optional_explained {inner : Validator} (h : inner.Explained) : (optional inner).Explained := by
  intro ctx v hv
  simp only [optional] at hv
  split_ifs at hv
  · simp at hv
  · exact h ctx v hv

theorem nullable_explained {inner : Validator} (h : inner.Explained) : (nullable inner).Explained := by
  intro ctx v hv
  simp only [nullable] at hv
  split_ifs at hv
  · simp at hv
  · exact h ctx v hv

theorem defaulting_explained {inner : Validator} (h : inner.Explained) (fallback : Value) :
    (defaulting inner fallback).Explained := by
  intro ctx v hv
  simp only [defaulting] at hv
  split_ifs at hv
  · simp at hv
  · exact h ctx v hv

theorem catching_explained (inner : Validator) (fallback : Value) : (catching inner fallback).Explained := by
  intro ctx v hv
  obtain ⟨o, -, hv⟩ := Option.map_eq_some_iff.1 hv
  cases o <;> simp at hv

theorem refine_explained {inner : Validator} (h : inner.Explained) (holds : Predicate) (message : String) (path : Path) :
    (refine inner holds message path).Explained := by
  intro ctx v hv
  obtain ⟨o, ho, hv⟩ := Option.map_eq_some_iff.1 hv
  cases o with
  | ok w =>
    simp only at hv
    split_ifs at hv
    simp at hv
  | error issues =>
    simp only at hv
    exact h ctx v (hv ▸ ho)

theorem transform_explained {inner : Validator} (h : inner.Explained) (convert : Conversion) :
    (transform inner convert).Explained := by
  intro ctx v hv
  obtain ⟨o, ho, hv⟩ := Option.map_eq_some_iff.1 hv
  cases o with
  | ok w =>
    simp only at hv
    split at hv <;> simp [Context.fail] at hv
  | error issues =>
    simp only at hv
    exact h ctx v (hv ▸ ho)

theorem pipe_explained {first second : Validator} (hf : first.Explained) (hs : second.Explained) :
    (pipe first second).Explained := by
  intro ctx v hv
  simp only [pipe, Option.bind_eq_some_iff] at hv
  obtain ⟨o, ho, hv⟩ := hv
  cases o with
  | ok w => exact hs ctx w hv
  | error issues =>
    simp only [Option.some.injEq] at hv
    exact hf ctx v (hv ▸ ho)

end Validator

namespace Schema

open Validator

theorem explained_passedOn : PassedOn Explained where
  none := fun _ _ => nofun
  leaf l := fun ctx v h => l.validate_ne_unexplained ctx v (Option.some.inj h)
  object _ _ := object_explained _ _
  array sizes _ := array_explained _ sizes
  set sizes _ := set_explained _ sizes
  tuple _ := tuple_explained _
  record _ _ := record_explained _ _
  map _ _ := map_explained _ _
  union _ := union_explained _
  discriminated h := discriminated_explained _ h
  intersection := intersection_explained
  optional := optional_explained
  nullable := nullable_explained
  defaulting fallback h := defaulting_explained h fallback
  catching fallback _ := catching_explained _ fallback
  refine holds message path h := refine_explained h holds message path
  transform convert h := transform_explained h convert
  pipe := pipe_explained

theorem validator_explained {refs : References} (hrefs : ∀ name, (refs name).Explained) (s : Schema) :
    (s.validator refs).Explained := explained_passedOn.validator hrefs s

theorem objectFields_explained {refs : References} (hrefs : ∀ name, (refs name).Explained) (type : ObjectType Schema) :
    ∀ f ∈ type.shape.toList.map fun f => (f.1, f.2.validator refs), f.2.Explained := by
  intro f hf
  obtain ⟨e, -, rfl⟩ := List.mem_map.1 hf
  exact validator_explained hrefs e.2

theorem unknown_explained {refs : References} (hrefs : ∀ name, (refs name).Explained) (unknown : UnknownKeys Schema) :
    ∀ a ∈ (unknownValidator refs unknown).parts, a.Explained := by
  intro a ha
  rw [unknownValidator_parts] at ha
  obtain ⟨s, -, rfl⟩ := List.mem_map.1 ha
  exact validator_explained hrefs s

/-- **A refusal always comes with an issue**, in every run of every schema. -/
theorem run_explained (defs : Definitions) (n : Nat) (s : Schema) : (s.run defs n).Explained :=
  explained_passedOn.run defs n s

theorem references_explained (defs : Definitions) (n : Nat) (name : String) : (references defs n name).Explained :=
  explained_passedOn.references defs n name

end Schema

end ValueSchema
