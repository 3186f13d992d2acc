import ValueSchema.Proofs.Budget.Heights
import ValueSchema.Proofs.InStep
import ValueSchema.Value.Same

/-!
Sameness of values is an equivalence.

Arrays, sets and maps are the same place by place; objects are the same if each name leads to the same values in both or
to none in both. Not-a-number is the same as itself and zero the same as negative zero: numbers are compared by their
place on the number line.

Results:
- `array_same_iff`, …, `object_same_iff`: sameness of collections through that of their parts.
- `same_refl`, `same_symm`, `same_trans`.
-/

namespace ValueSchema

/-- numbers are the same if they have the same place on the number line, or both have none -/
theorem Double.same_iff {x y : Double} : x.same y = true ↔ x.place? = y.place? := by
  unfold same numEq compareBy
  cases x <;> cases y <;> simp [place?, isNaN]

namespace Value

/-! ## Collections -/

section EqBy

variable {r : Double → Double → Bool}

theorem eqListBy_iff {xs ys : List Value} :
    eqListBy r xs ys = true ↔ List.Forall₂ (fun x y => x.eqBy r y = true) xs ys := by
  induction xs generalizing ys with
  | nil => cases ys <;> simp [eqListBy]
  | cons x xs ih => cases ys <;> simp [eqListBy, ih]

theorem eqEntriesBy_iff {es fs : List (Value × Value)} :
    eqEntriesBy r es fs = true ↔
      List.Forall₂ (fun e f => e.1.eqBy r f.1 = true ∧ e.2.eqBy r f.2 = true) es fs := by
  induction es generalizing fs with
  | nil => cases fs <;> simp [eqEntriesBy]
  | cons e es ih => cases fs <;> simp [eqEntriesBy, ih]

theorem eqMembersBy_iff {names : List String} {m : Members Value names} {b : Object Value} :
    eqMembersBy r m b = true ↔ ∀ e ∈ m.toList, ∃ y, b.get? e.1 = some y ∧ e.2.eqBy r y = true := by
  induction m with
  | nil => simp [eqMembersBy, Members.toList]
  | cons name x rest ih =>
    rw [eqMembersBy, Members.toList, List.forall_mem_cons, Bool.and_eq_true, ih]
    cases b.get? name <;> simp

/-- objects of one size are equal if each member of one has an equal value in the other; then no name is left over -/
theorem object_eqBy_iff {a b : Object Value} :
    (object a).eqBy r (object b) = true ↔
      ∀ name, Option.Rel (fun x y => x.eqBy r y = true) (a.get? name) (b.get? name) := by
  have hdef : (object a).eqBy r (object b) = true ↔
      a.names.length = b.names.length ∧ ∀ e ∈ a.toList, ∃ y, b.get? e.1 = some y ∧ e.2.eqBy r y = true := by
    obtain ⟨m, nodup⟩ := a
    simp only [eqBy, Bool.and_eq_true, beq_iff_eq, eqMembersBy_iff, Object.size, Object.toList]
  rw [hdef]
  constructor
  · rintro ⟨hlen, hmembers⟩ name
    have hsub : a.names ⊆ b.names := by
      intro n hn
      obtain ⟨x, hx⟩ := Object.mem_names_iff.1 hn
      obtain ⟨y, hy, -⟩ := hmembers _ hx
      exact Object.mem_names_iff.2 ⟨y, Object.get?_eq_some_iff.1 hy⟩
    have hperm : a.names.Perm b.names := (List.subperm_of_subset a.nodup hsub).perm_of_length_le hlen.ge
    cases ha : a.get? name with
    | none =>
      have hnot : name ∉ b.names := fun hb => Object.get?_eq_none_iff.1 ha (hperm.mem_iff.2 hb)
      rw [Object.get?_eq_none_iff.2 hnot]
      exact .none
    | some x =>
      obtain ⟨y, hy, hxy⟩ := hmembers _ (Object.get?_eq_some_iff.1 ha)
      rw [hy]
      exact .some hxy
  · intro h
    refine ⟨?_, fun e he => ?_⟩
    · have hperm : a.names.Perm b.names := by
        refine (List.perm_ext_iff_of_nodup a.nodup b.nodup).2 fun name => ?_
        have hname := h name
        rw [← not_iff_not, ← Object.get?_eq_none_iff, ← Object.get?_eq_none_iff]
        cases ha : a.get? name <;> cases hb : b.get? name <;> simp [ha, hb] at hname ⊢
      exact hperm.length_eq
    · have hname := h e.1
      rw [Object.get?_eq_some_iff.2 he] at hname
      exact optionRel_some_left hname

/-- values of different kinds differ -/
theorem eqBy_kind {v w : Value} (h : v.eqBy r w = true) : v.kind = w.kind := by
  cases v <;> cases w <;> first | rfl | cases h

end EqBy

theorem array_same_iff {xs ys : List Value} :
    (array xs).same (array ys) = true ↔ List.Forall₂ (fun x y => x.same y = true) xs ys := eqListBy_iff

theorem set_same_iff {xs ys : List Value} :
    (set xs).same (set ys) = true ↔ List.Forall₂ (fun x y => x.same y = true) xs ys := eqListBy_iff

theorem map_same_iff {es fs : List (Value × Value)} :
    (map es).same (map fs) = true ↔
      List.Forall₂ (fun e f => e.1.same f.1 = true ∧ e.2.same f.2 = true) es fs := eqEntriesBy_iff

theorem object_same_iff {a b : Object Value} :
    (object a).same (object b) = true ↔
      ∀ name, Option.Rel (fun x y => x.same y = true) (a.get? name) (b.get? name) := object_eqBy_iff

/-! ## An equivalence -/

theorem same_kind {v w : Value} (h : v.same w = true) : v.kind = w.kind := eqBy_kind h

theorem same_refl (v : Value) : v.same v = true := by
  induction v using height_induction with
  | step v ih =>
    cases v with
    | number n => exact Double.same_iff.2 rfl
    | array xs => exact array_same_iff.2 (List.forall₂_same.2 fun x hx => ih x (height_lt_array hx))
    | set xs => exact set_same_iff.2 (List.forall₂_same.2 fun x hx => ih x (height_lt_set hx))
    | map es =>
      refine map_same_iff.2 (List.forall₂_same.2 fun e he => ?_)
      exact ⟨ih e.1 (height_lt_map he).1, ih e.2 (height_lt_map he).2⟩
    | object o =>
      refine object_same_iff.2 fun name => ?_
      cases ho : o.get? name with
      | none => exact .none
      | some x => exact .some (ih x (height_lt_of_get? ho))
    | _ => simp [same, eqBy]

/-- comparing values is symmetric if comparing numbers is -/
theorem eqBy_symm {r : Double → Double → Bool} (hr : ∀ x y, r x y = true → r y x = true) {v w : Value}
    (h : v.eqBy r w = true) : w.eqBy r v = true := by
  induction v using height_induction generalizing w with
  | step v ih =>
    have hkind := eqBy_kind h
    cases v with
    | number n =>
      cases w <;> cases hkind
      exact hr _ _ h
    | array xs =>
      cases w <;> cases hkind
      have hxy := forall₂_imp_of_mem (fun x hx y hxy => ih x (height_lt_array hx) hxy) (eqListBy_iff.1 h)
      exact eqListBy_iff.2 hxy.flip
    | set xs =>
      cases w <;> cases hkind
      have hxy := forall₂_imp_of_mem (fun x hx y hxy => ih x (height_lt_set hx) hxy) (eqListBy_iff.1 h)
      exact eqListBy_iff.2 hxy.flip
    | map es =>
      cases w <;> cases hkind
      have hef := forall₂_imp_of_mem (S := fun e f => f.1.eqBy r e.1 = true ∧ f.2.eqBy r e.2 = true)
        (fun e he f hef => ⟨ih e.1 (height_lt_map he).1 hef.1, ih e.2 (height_lt_map he).2 hef.2⟩) (eqEntriesBy_iff.1 h)
      exact eqEntriesBy_iff.2 hef.flip
    | object a =>
      cases w <;> cases hkind
      refine object_eqBy_iff.2 fun name => ?_
      have hname := optionRel_imp_of_mem (S := fun x y => y.eqBy r x = true)
        (fun x hx y hxy => ih x (height_lt_of_get? hx) hxy) (object_eqBy_iff.1 h name)
      exact optionRel_flip hname
    | _ =>
      cases w <;> cases hkind
      simp_all [eqBy]

theorem same_symm {v w : Value} (h : v.same w = true) : w.same v = true :=
  eqBy_symm (fun _ _ hxy => Double.same_iff.2 (Double.same_iff.1 hxy).symm) h

theorem same_trans {u v w : Value} (huv : u.same v = true) (hvw : v.same w = true) : u.same w = true := by
  induction u using height_induction generalizing v w with
  | step u ih =>
    have hkind := same_kind huv
    have hkind' := same_kind hvw
    cases u with
    | number n =>
      cases v <;> cases hkind
      cases w <;> cases hkind'
      exact Double.same_iff.2 ((Double.same_iff.1 huv).trans (Double.same_iff.1 hvw))
    | array xs =>
      cases v <;> cases hkind
      cases w <;> cases hkind'
      refine array_same_iff.2 (forall₂_comp_of_mem ?_ (array_same_iff.1 huv) (array_same_iff.1 hvw))
      exact fun x hx y z hxy hyz => ih x (height_lt_array hx) hxy hyz
    | set xs =>
      cases v <;> cases hkind
      cases w <;> cases hkind'
      refine set_same_iff.2 (forall₂_comp_of_mem ?_ (set_same_iff.1 huv) (set_same_iff.1 hvw))
      exact fun x hx y z hxy hyz => ih x (height_lt_set hx) hxy hyz
    | map es =>
      cases v <;> cases hkind
      cases w <;> cases hkind'
      refine map_same_iff.2 (forall₂_comp_of_mem ?_ (map_same_iff.1 huv) (map_same_iff.1 hvw))
      exact fun e he f g hef hfg =>
        ⟨ih e.1 (height_lt_map he).1 hef.1 hfg.1, ih e.2 (height_lt_map he).2 hef.2 hfg.2⟩
    | object a =>
      cases v <;> cases hkind
      cases w <;> cases hkind'
      refine object_same_iff.2 fun name => ?_
      refine optionRel_comp_of_mem ?_ (object_same_iff.1 huv name) (object_same_iff.1 hvw name)
      exact fun x hx y z hxy hyz => ih x (height_lt_of_get? hx) hxy hyz
    | _ =>
      cases v <;> cases hkind
      cases w <;> cases hkind'
      simp_all [same, eqBy]

end Value

end ValueSchema
