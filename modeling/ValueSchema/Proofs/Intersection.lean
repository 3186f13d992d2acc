import ValueSchema.Proofs.Budget.Suffices
import ValueSchema.Proofs.Schema.Runs
import ValueSchema.Proofs.Validator.Accepted
import ValueSchema.Proofs.Value.Compatible

/-!
Order and grouping of intersections.

An intersection accepts a value exactly if both members do and what they make of it is compatible. Its output is
compatible with what either member makes of the value, so that in a chain of intersections each merge stands for all the
outputs that went into it. Neither the order of the members nor the grouping of a chain decides what is accepted, though
both decide which output comes out.

Results:
- `intersection_of_ok`: what an intersection makes of two outputs.
- `intersection_accepts_iff`: when it accepts.
- `intersections_in_any_order`: what this says of schemas.
-/

namespace ValueSchema

namespace Validator

variable {a b c : Validator} {ctx : Context} {v x y : Value}

/-- two outputs are merged, or cannot be -/
theorem intersection_of_ok (ha : a ctx v = some (.ok x)) (hb : b ctx v = some (.ok y)) :
    intersection a b ctx v = some (match x.merge y with
      | some w => .ok w
      | none => ctx.fail .invalidIntersectionTypes none) := by
  have hgo : ctx.mode.stops (Part.issues (.ok x : Part Value)) = false := stops_nil ctx.mode
  rw [intersection, ha, Option.bind_some, hgo, if_neg Bool.false_ne_true, hb]
  rfl

/-- **When an intersection accepts**: both members do, with compatible outputs. -/
theorem intersection_accepts_iff :
    Accepted (intersection a b ctx v) ↔
      ∃ x y, a ctx v = some (.ok x) ∧ b ctx v = some (.ok y) ∧ x.Compatible y := by
  constructor
  · rintro ⟨w, hw⟩
    obtain ⟨x, y, hx, hy, hmerge⟩ := intersection_eq_ok hw
    exact ⟨x, y, hx, hy, Value.compatible_of_merge hmerge⟩
  · rintro ⟨x, y, hx, hy, hxy⟩
    obtain ⟨w, hw, -⟩ := hxy.exists_merge
    refine ⟨w, ?_⟩
    rw [intersection_of_ok hx hy, hw]

/-- outputs that do not merge are the only issue -/
theorem intersection_of_incompatible (ha : a ctx v = some (.ok x)) (hb : b ctx v = some (.ok y))
    (hxy : ¬ x.Compatible y) : intersection a b ctx v = some (ctx.fail .invalidIntersectionTypes none) := by
  have hnone : x.merge y = none := by
    rw [← Option.not_isSome_iff_eq_none, Value.isSome_merge_iff]
    exact hxy
  rw [intersection_of_ok ha hb, hnone]

/-! ## Order and grouping -/

theorem intersection_accepts_swap (h : Accepted (intersection a b ctx v)) : Accepted (intersection b a ctx v) := by
  obtain ⟨x, y, hx, hy, hxy⟩ := intersection_accepts_iff.1 h
  exact intersection_accepts_iff.2 ⟨y, x, hy, hx, hxy.symm⟩

/-- the output of an intersection belongs to those of its members, and so is compatible with the same values -/
theorem intersection_left_accepts_iff :
    Accepted (intersection (intersection a b) c ctx v) ↔
      ∃ x y z, a ctx v = some (.ok x) ∧ b ctx v = some (.ok y) ∧ c ctx v = some (.ok z) ∧
        x.Compatible y ∧ y.Compatible z := by
  rw [intersection_accepts_iff]
  constructor
  · rintro ⟨m, z, hm, hz, hmz⟩
    obtain ⟨x, y, hx, hy, hmerge⟩ := intersection_eq_ok hm
    obtain ⟨-, hym⟩ := Value.Compatible.of_merge hmerge
    exact ⟨x, y, z, hx, hy, hz, Value.compatible_of_merge hmerge, hym.trans hmz⟩
  · rintro ⟨x, y, z, hx, hy, hz, hxy, hyz⟩
    obtain ⟨m, hm, -⟩ := hxy.exists_merge
    obtain ⟨-, hym⟩ := Value.Compatible.of_merge hm
    have hab : intersection a b ctx v = some (.ok m) := by rw [intersection_of_ok hx hy, hm]
    exact ⟨m, z, hab, hz, hym.symm.trans hyz⟩

theorem intersection_right_accepts_iff :
    Accepted (intersection a (intersection b c) ctx v) ↔
      ∃ x y z, a ctx v = some (.ok x) ∧ b ctx v = some (.ok y) ∧ c ctx v = some (.ok z) ∧
        x.Compatible y ∧ y.Compatible z := by
  rw [intersection_accepts_iff]
  constructor
  · rintro ⟨x, m, hx, hm, hxm⟩
    obtain ⟨y, z, hy, hz, hmerge⟩ := intersection_eq_ok hm
    obtain ⟨hym, -⟩ := Value.Compatible.of_merge hmerge
    exact ⟨x, y, z, hx, hy, hz, hxm.trans hym.symm, Value.compatible_of_merge hmerge⟩
  · rintro ⟨x, y, z, hx, hy, hz, hxy, hyz⟩
    obtain ⟨m, hm, hym⟩ := hyz.exists_merge
    have hbc : intersection b c ctx v = some (.ok m) := by rw [intersection_of_ok hy hz, hm]
    exact ⟨x, m, hx, hbc, hxy.trans hym⟩

end Validator

namespace Schema

open Validator

/-- how intersections of three schemas answer on one value: which of them accept, and how a conflict of outputs shows -/
structure AnyOrder (ctx : Context) (answer : Schema → Option Outcome) (a b c : Schema) : Prop where
  order : Accepted (answer (.intersection a b)) ↔ Accepted (answer (.intersection b a))
  grouping : Accepted (answer (.intersection (.intersection a b) c)) ↔
    Accepted (answer (.intersection a (.intersection b c)))
  conflict : Accepted (answer a) → Accepted (answer b) → ¬ Accepted (answer (.intersection a b)) →
    answer (.intersection a b) = some (ctx.fail .invalidIntersectionTypes none) ∧
      answer (.intersection b a) = some (ctx.fail .invalidIntersectionTypes none)

theorem anyOrder_run (defs : Definitions) (n : Nat) (ctx : Context) (a b c : Schema) (v : Value) :
    AnyOrder ctx (fun s => s.run defs n ctx v) a b c := by
  have hrun (s t : Schema) : (Schema.intersection s t).run defs n = Validator.intersection (s.run defs n) (t.run defs n) := by
    rw [run_eq, run_eq, run_eq, validator]
  constructor
  · rw [hrun, hrun]
    exact ⟨intersection_accepts_swap, intersection_accepts_swap⟩
  · rw [hrun, hrun, hrun, hrun]
    exact intersection_left_accepts_iff.trans intersection_right_accepts_iff.symm
  · rintro ⟨x, hx⟩ ⟨y, hy⟩ hnot
    rw [hrun, hrun]
    rw [hrun] at hnot
    have hxy : ¬ x.Compatible y := fun hxy => hnot (intersection_accepts_iff.2 ⟨x, y, hx, hy, hxy⟩)
    exact ⟨intersection_of_incompatible hx hy hxy, intersection_of_incompatible hy hx fun hyx => hxy hyx.symm⟩

theorem anyOrder_validate (defs : Definitions) (ctx : Context) (a b c : Schema) (v : Value) :
    AnyOrder ctx (fun s => s.validate defs ctx v) a b c := by
  have heventually (s : Schema) := eventually_run_eq_validate defs s ctx v
  -- a depth at which all members and all intersections have their outcomes
  obtain ⟨n, ha, hb, hab, hba, hleft, hright⟩ := ((heventually a).and <| (heventually b).and <|
    (heventually (.intersection a b)).and <| (heventually (.intersection b a)).and <|
    (heventually (.intersection (.intersection a b) c)).and (heventually (.intersection a (.intersection b c)))).exists
  obtain ⟨order, grouping, conflict⟩ := anyOrder_run defs n ctx a b c v
  simp only [ha, hb, hab, hba, hleft, hright] at order grouping conflict
  exact ⟨order, grouping, conflict⟩

/-- **Intersections in any order.** What an intersection accepts depends neither on the order of its members nor, in a
chain, on their grouping; and where two members accept a value whose outputs do not merge, the only issue in either order
is that they do not. This holds in both modes, however deep names are followed, and of `validate`. -/
theorem intersections_in_any_order (defs : Definitions) (ctx : Context) (a b c : Schema) (v : Value) :
    (∀ n, AnyOrder ctx (fun s => s.run defs n ctx v) a b c) ∧ AnyOrder ctx (fun s => s.validate defs ctx v) a b c :=
  ⟨fun n => anyOrder_run defs n ctx a b c v, anyOrder_validate defs ctx a b c v⟩

/-- a text and the text without the blanks around it do not merge, whichever comes first -/
theorem trimmed_text_conflicts :
    (Schema.intersection (.leaf .any) (.leaf (.string ⟨[.trim], .empty, false⟩))).run [] 0 ⟨Catalog.english, .collect⟩
        (.string " a") =
        some (.error [⟨.invalidIntersectionTypes, [], "Intersection results could not be merged", [], []⟩]) ∧
      (Schema.intersection (.leaf (.string ⟨[.trim], .empty, false⟩)) (.leaf .any)).run [] 0 ⟨Catalog.english, .collect⟩
        (.string " a") =
        some (.error [⟨.invalidIntersectionTypes, [], "Intersection results could not be merged", [], []⟩]) := by
  have h := intersections_in_any_order [] ⟨Catalog.english, .collect⟩ (.leaf .any)
    (.leaf (.string ⟨[.trim], .empty, false⟩)) (.leaf .any) (.string " a")
  refine (h.1 0).conflict ⟨_, rfl⟩ ⟨_, rfl⟩ ?_
  rintro ⟨w, hw⟩
  cases hw

end Schema

end ValueSchema
