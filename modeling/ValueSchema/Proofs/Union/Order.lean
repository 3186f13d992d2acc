import Mathlib.Data.List.Forall2
import ValueSchema.Proofs.Union.Kinds

/-!
The order in which a union tries its alternatives cannot be observed.

A union runs the alternatives first that could accept the kind of the value, and the others when all of these have
failed. The plain way is to run them in the order of their declaration: `firstAccepted` is what that makes of their
outcomes.

Results:
- `union_eq_firstAccepted`: with kinds that are told right, the union gives what the plain way gives.
- `union_runs_in_order`: so does the union of any schemas, at any depth of following names, in either mode.
-/

namespace ValueSchema

namespace Validator

/-- what running alternatives in order makes of their outcomes: the first output, or one issue at the root that shows the
first issue of each alternative and holds all issues of all of them -/
def firstAccepted (ctx : Context) (outcomes : List Outcome) : Outcome :=
  match outcomes.findSome? Part.value? with
  | some w => .ok w
  | none => .error [{
      code := .invalidUnion
      path := []
      message := ctx.catalog.render (.invalidUnion (outcomes.filterMap fun o => (Part.issues o).head?.map Issue.display))
      params := []
      nested := Part.allIssues outcomes }]

/-! ## One pass -/

section Pass

variable {ctx : Context} {v : Value} {outcome : Alternative → Outcome}

/-- a pass over alternatives that all come to an end gives the first output, or all failures at their positions -/
theorem attempt_eq {l : List (Alternative × Nat)} (h : ∀ a ∈ l, a.1.validator ctx v = some (outcome a.1)) :
    attempt ctx v l = some (match l.findSome? fun a => Part.value? (outcome a.1) with
      | some w => .ok w
      | none => .error (l.map fun a => (a.2, Part.issues (outcome a.1)))) := by
  induction l with
  | nil => rfl
  | cons a rest ih =>
    have ha := h a List.mem_cons_self
    have hrest := ih fun b hb => h b (List.mem_cons_of_mem _ hb)
    rw [attempt, ha, hrest, List.findSome?_cons, List.map_cons]
    cases ho : outcome a.1 with
    | ok w => rfl
    | error issues => cases rest.findSome? (fun a => Part.value? (outcome a.1)) <;> rfl

/-- elements that give nothing can be left out of the search -/
theorem findSome?_filter {α β : Type} {p : α → Bool} {f : α → Option β} {l : List α}
    (h : ∀ a ∈ l, p a = false → f a = none) : (l.filter p).findSome? f = l.findSome? f := by
  induction l with
  | nil => rfl
  | cons a rest ih =>
    have hrest := ih fun b hb => h b (List.mem_cons_of_mem _ hb)
    cases hp : p a with
    | true => simp only [List.filter_cons_of_pos hp, List.findSome?_cons, hrest]
    | false =>
      rw [List.filter_cons_of_neg (by simp [hp]), List.findSome?_cons, h a List.mem_cons_self hp, hrest]

end Pass

/-! ## Two passes -/

/-- reading a list at each of its positions goes through it in order -/
theorem filterMap_range {α β : Type} (f : α → β) (l : List α) :
    (List.range l.length).filterMap (fun i => l[i]?.map f) = l.map f := by
  induction l with
  | nil => rfl
  | cons a rest ih =>
    rw [List.length_cons, List.range_succ_eq_map, List.filterMap_cons, List.filterMap_map]
    simpa [Function.comp_def] using ih

/-- entries under distinct positions, split in two by any test, are read in the order of the positions -/
theorem lookups_eq {α β : Type} (f : α → β) (p : α × Nat → Bool) (l : List α) :
    ((List.range l.length).filterMap fun position =>
      (((l.zipIdx.filter p).map fun a => (a.2, f a.1)) ++
        ((l.zipIdx.filter fun a => !p a).map fun a => (a.2, f a.1))).lookup position) = l.map f := by
  set both := ((l.zipIdx.filter p).map fun a => (a.2, f a.1)) ++
    ((l.zipIdx.filter fun a => !p a).map fun a => (a.2, f a.1)) with hboth
  have hperm : both.Perm (l.zipIdx.map fun a => (a.2, f a.1)) := by
    rw [hboth, ← List.map_append]
    exact (List.filter_append_perm p _).map _
  have hnodup : (both.map Prod.fst).Nodup := by
    have hpositions : (l.zipIdx.map fun a => (a.2, f a.1)).map Prod.fst = List.range' 0 l.length := by
      rw [List.map_map, ← List.zipIdx_map_snd 0 l]
      rfl
    rw [(hperm.map Prod.fst).nodup_iff, hpositions]
    exact List.nodup_range'
  have hlookup : ∀ i ∈ List.range l.length, both.lookup i = l[i]?.map f := by
    intro i hi
    have hlt := List.mem_range.1 hi
    have hget := List.getElem?_eq_getElem hlt
    rw [hget]
    refine lookup_of_mem hnodup (hperm.mem_iff.2 (List.mem_map.2 ⟨(l[i], i), ?_, rfl⟩))
    exact List.mem_zipIdx_iff_getElem?.2 hget
  rw [List.filterMap_congr hlookup, filterMap_range]

/-- results that are all there, one by one -/
theorem mapM_eq_some_iff {α β : Type} {f : α → Option β} {l : List α} {bs : List β} :
    l.mapM f = some bs ↔ l.map f = bs.map some := by
  induction l generalizing bs with
  | nil => cases bs <;> simp
  | cons a rest ih =>
    simp only [List.mapM_cons, Option.bind_eq_bind, Option.bind_eq_some_iff, Option.pure_def, List.map_cons]
    constructor
    · rintro ⟨b, hb, os, hos, h⟩
      cases h
      rw [hb, ih.1 hos, List.map_cons]
    · intro h
      obtain ⟨b, os, rfl, hb, hos⟩ := List.map_eq_cons_iff.1 h.symm
      exact ⟨b, hb.symm, os, ih.2 hos.symm, rfl⟩

/-- validators that all come to an end have an outcome each -/
theorem outcomes_of_mapM {ctx : Context} {v : Value} {alternatives : List Alternative} {outcomes : List Outcome}
    (terminates : alternatives.mapM (fun a => a.validator ctx v) = some outcomes) :
    ∃ outcome : Alternative → Outcome,
      (∀ a ∈ alternatives, a.validator ctx v = some (outcome a)) ∧ outcomes = alternatives.map outcome := by
  have hmap := mapM_eq_some_iff.1 terminates
  refine ⟨fun a => (a.validator ctx v).getD (.error []), fun a ha => ?_, ?_⟩
  · have hmem := List.mem_map_of_mem (f := fun a : Alternative => a.validator ctx v) ha
    rw [hmap] at hmem
    obtain ⟨o, -, ho⟩ := List.mem_map.1 hmem
    simp only [← ho, Option.getD_some]
  · have hback := congrArg (List.map fun o => o.getD (.error [])) hmap
    simpa [Function.comp_def] using hback.symm

/-- **Two passes make what one makes.** If no alternative accepts a value of a kind that it is not told to admit, running
the admitting ones first cannot be told from running all of them in order. -/
theorem union_eq_firstAccepted {ctx : Context} {v : Value} {alternatives : List Alternative} {outcomes : List Outcome}
    (terminates : alternatives.mapM (fun a => a.validator ctx v) = some outcomes)
    (admits : ∀ a ∈ alternatives, ∀ w, a.validator ctx v = some (.ok w) → a.admits v.kind = true) :
    union alternatives ctx v = some (firstAccepted ctx outcomes) := by
  obtain ⟨outcome, houtcome, rfl⟩ := outcomes_of_mapM terminates
  have hmem : ∀ a ∈ alternatives.zipIdx, a.1 ∈ alternatives := fun a ha => List.fst_mem_of_mem_zipIdx ha
  -- an alternative of the second pass does not accept
  have hunlikely : ∀ a ∈ alternatives.zipIdx, a.1.admits v.kind = false → Part.value? (outcome a.1) = none := by
    intro a ha hno
    cases ho : outcome a.1 with
    | error issues => rfl
    | ok w =>
      have := admits a.1 (hmem a ha) w ((houtcome a.1 (hmem a ha)).trans (congrArg some ho))
      rw [hno] at this
      cases this
  have hall : alternatives.zipIdx.findSome? (fun a => Part.value? (outcome a.1)) =
      (alternatives.map outcome).findSome? Part.value? := by
    conv_rhs => rw [← List.zipIdx_map_fst 0 alternatives]
    rw [List.map_map, List.findSome?_map]
    rfl
  have hlikely := attempt_eq (l := alternatives.zipIdx.filter fun a => a.1.admits v.kind)
    fun a ha => houtcome a.1 (hmem a (List.mem_of_mem_filter ha))
  rw [findSome?_filter hunlikely, hall] at hlikely
  unfold union firstAccepted
  simp only [List.partition_eq_filter_filter, hlikely]
  cases hfirst : (alternatives.map outcome).findSome? Part.value? with
  | some w => rfl
  | none =>
    have hothers := attempt_eq (l := alternatives.zipIdx.filter fun a => !a.1.admits v.kind)
      fun a ha => houtcome a.1 (hmem a (List.mem_of_mem_filter ha))
    have hnone : (alternatives.zipIdx.filter fun a => !a.1.admits v.kind).findSome?
        (fun a => Part.value? (outcome a.1)) = none := by
      rw [List.findSome?_eq_none_iff]
      intro a ha
      exact hunlikely a (List.mem_of_mem_filter ha) (by simpa using List.of_mem_filter ha)
    rw [hnone] at hothers
    have hlookups := lookups_eq (fun a => Part.issues (outcome a)) (fun a : Alternative × Nat => a.1.admits v.kind)
      alternatives
    simp only [Option.bind_some, Function.comp_def, hothers, Option.map_some, hlookups, noMatch, Part.allIssues,
      List.filterMap_map, List.flatMap_map]
    rfl

end Validator

/-! ## Unions of schemas -/

namespace Schema

/-- an alternative admits the values that its schema accepts -/
theorem admits_of_accepts {refs : References} {s : Schema} {ctx : Context} {v w : Value}
    (h : s.validator refs ctx v = some (.ok w)) :
    Alternative.admits ⟨s.inputKinds?, s.validator refs⟩ v.kind = true := by
  unfold Alternative.admits
  cases hk : s.inputKinds? with
  | none => rfl
  | some kinds => simpa using validator_acceptsOnly refs s hk ctx v w h

/-- **Order cannot be observed.** When every option comes to an end on a value, their union gives the first output in the
order of declaration; when no option accepts, it gives the one issue that shows the first issue of every option, which
there always is, and holds all issues of all options. This holds of any schemas, settings and meanings of names, however
deep these are followed, and so of `validate`. -/
theorem union_runs_in_order (defs : Definitions) (n : Nat) (options : List Schema) (ctx : Context) (v : Value)
    (outcomes : List Outcome) (terminates : options.mapM (fun s => s.run defs n ctx v) = some outcomes) :
    (Schema.union options).run defs n ctx v = some (Validator.firstAccepted ctx outcomes) ∧
      ∀ issues, .error issues ∈ outcomes → issues ≠ [] := by
  constructor
  · rw [run_eq, validator_union]
    refine Validator.union_eq_firstAccepted ?_ ?_
    · rw [List.mapM_map]
      simp only [run_eq] at terminates
      exact terminates
    · intro a ha w hw
      obtain ⟨s, hs, rfl⟩ := List.mem_map.1 ha
      exact admits_of_accepts hw
  · rintro issues hmem rfl
    have hmap := Validator.mapM_eq_some_iff.1 terminates
    have hrun : some (.error []) ∈ options.map fun s => s.run defs n ctx v := by
      rw [hmap]
      exact List.mem_map_of_mem hmem
    obtain ⟨s, -, hs⟩ := List.mem_map.1 hrun
    exact run_explained defs n s ctx v hs

/-- an option of unknown kinds runs before the two that cannot accept the value, and is still reported between them -/
theorem union_null_name_undefined :
    (Schema.union [.leaf .null, .lazy "nothing", .leaf .undefined]).run [("nothing", .leaf .never)] 1
        ⟨Catalog.english, .collect⟩ (.bool true) =
      some (Validator.firstAccepted ⟨Catalog.english, .collect⟩
        [Context.wrongKind ⟨Catalog.english, .collect⟩ "null" (.bool true) none,
          Context.wrongKind ⟨Catalog.english, .collect⟩ "never" (.bool true) none,
          Context.wrongKind ⟨Catalog.english, .collect⟩ "undefined" (.bool true) none]) :=
  (union_runs_in_order [("nothing", .leaf .never)] 1 [.leaf .null, .lazy "nothing", .leaf .undefined]
    ⟨Catalog.english, .collect⟩ (.bool true) _ rfl).1

end Schema

end ValueSchema
