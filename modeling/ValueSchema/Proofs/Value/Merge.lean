import Mathlib.Tactic
import ValueSchema.Proofs.InStep
import ValueSchema.Proofs.Object.Lookup
import ValueSchema.Value.Merge

/-!
What a merge holds at a place.

A place is a number of steps through arrays from the root and then a number of steps through members. `overlaid a b` is
the object that two objects merge into: the safe names of both, a name of both holding the one value laid over the
other.

Results:
- `toList_overlaid`, `get?_overlaid`, `mem_names_overlaid`: the merge of two objects, member by member.
- `merge_cases`: all that a merge can be.
- `at?_merge`: where both values hold objects, their merge holds the merge of these, unless a dangerous name leads
  there.
-/

namespace ValueSchema

/-! ## Two objects -/

namespace Object

/-- what two objects merge into -/
def overlaid (a b : Object Value) : Object Value :=
  ofList (((a.toList.filter fun e => !Key.isDangerous e.1).map fun e => (e.1, match b.get? e.1 with
      | some w => e.2.overlay w
      | none => e.2)) ++
    b.toList.filter fun e => !a.names.contains e.1 && !Key.isDangerous e.1)

variable {a b : Object Value}

theorem overlayMembers_eq {names : List String} (m : Members Value names) (b : Object Value) :
    Value.overlayMembers m b = (m.toList.filter fun e => !Key.isDangerous e.1).map fun e => (e.1, match b.get? e.1 with
      | some w => e.2.overlay w
      | none => e.2) := by
  induction m with
  | nil => rfl
  | cons name v rest ih =>
    rw [Value.overlayMembers, Members.toList]
    cases hd : Key.isDangerous name with
    | true => simp [ih, hd]
    | false =>
      rw [if_neg Bool.false_ne_true, List.filter_cons_of_pos (by simp [hd]), List.map_cons]
      exact congrArg (_ :: ·) ih

theorem overlay_object (a b : Object Value) : (Value.object a).overlay (.object b) = .object (overlaid a b) := by
  obtain ⟨m, nodup⟩ := a
  rw [Value.overlay, overlayMembers_eq]
  rfl

/-- the members of the merge: safe ones of the left object in their order, then safe ones that only the right one has -/
theorem toList_overlaid (a b : Object Value) :
    (overlaid a b).toList = ((a.toList.filter fun e => !Key.isDangerous e.1).map fun e => (e.1, match b.get? e.1 with
        | some w => e.2.overlay w
        | none => e.2)) ++
      b.toList.filter fun e => !a.names.contains e.1 && !Key.isDangerous e.1 := by
  refine toList_ofList_of_nodup ?_
  rw [List.map_append, List.map_map]
  refine List.Nodup.append ?_ ?_ ?_
  · exact a.nodup_toList.sublist (List.filter_sublist.map _)
  · exact b.nodup_toList.sublist (List.filter_sublist.map _)
  · intro name hleft hright
    obtain ⟨e, he, rfl⟩ := List.mem_map.1 hleft
    obtain ⟨e', he', heq⟩ := List.mem_map.1 hright
    have hmem : e.1 ∈ a.names := mem_names_iff.2 ⟨e.2, List.mem_of_mem_filter he⟩
    have hnot := List.of_mem_filter he'
    simp only [Function.comp_apply] at heq
    simp [heq, hmem] at hnot

/-- a merge has no dangerous name -/
theorem safe_of_mem_overlaid {name : String} (h : name ∈ (overlaid a b).names) : Key.isDangerous name = false := by
  obtain ⟨v, hv⟩ := mem_names_iff.1 h
  rw [toList_overlaid, List.mem_append] at hv
  rcases hv with hv | hv
  · obtain ⟨e, he, heq⟩ := List.mem_map.1 hv
    cases heq
    simpa using List.of_mem_filter he
  · have hsafe := List.of_mem_filter hv
    simp only [Bool.and_eq_true, Bool.not_eq_true'] at hsafe
    exact hsafe.2

/-- a safe name of both objects holds the one value laid over the other -/
theorem get?_overlaid {name : String} {v w : Value} (hsafe : Key.isDangerous name = false) (ha : a.get? name = some v)
    (hb : b.get? name = some w) : (overlaid a b).get? name = some (v.overlay w) := by
  rw [get?_eq_some_iff, toList_overlaid, List.mem_append]
  left
  refine List.mem_map.2 ⟨(name, v), List.mem_filter.2 ⟨get?_eq_some_iff.1 ha, by simp [hsafe]⟩, ?_⟩
  simp only [hb]

/-- a safe name of the left object alone keeps its value -/
theorem get?_overlaid_left {name : String} {v : Value} (hsafe : Key.isDangerous name = false) (ha : a.get? name = some v)
    (hb : b.get? name = none) : (overlaid a b).get? name = some v := by
  rw [get?_eq_some_iff, toList_overlaid, List.mem_append]
  left
  refine List.mem_map.2 ⟨(name, v), List.mem_filter.2 ⟨get?_eq_some_iff.1 ha, by simp [hsafe]⟩, ?_⟩
  simp only [hb]

/-- a safe name that the left object lacks holds what the right one holds, if anything -/
theorem get?_overlaid_right {name : String} (hsafe : Key.isDangerous name = false) (ha : a.get? name = none) :
    (overlaid a b).get? name = b.get? name := by
  have hnot : name ∉ a.names := get?_eq_none_iff.1 ha
  cases hb : b.get? name with
  | some w =>
    rw [get?_eq_some_iff, toList_overlaid, List.mem_append]
    right
    exact List.mem_filter.2 ⟨get?_eq_some_iff.1 hb, by simp [hnot, hsafe]⟩
  | none =>
    rw [get?_eq_none_iff]
    intro hname
    obtain ⟨w, hw⟩ := mem_names_iff.1 hname
    rw [toList_overlaid, List.mem_append] at hw
    rcases hw with hw | hw
    · obtain ⟨e, he, heq⟩ := List.mem_map.1 hw
      cases heq
      exact hnot (mem_names_iff.2 ⟨e.2, List.mem_of_mem_filter he⟩)
    · rw [get?_eq_some_iff.2 (List.mem_of_mem_filter hw)] at hb
      cases hb

theorem get?_overlaid_of_dangerous {name : String} (h : Key.isDangerous name = true) : (overlaid a b).get? name = none := by
  rw [get?_eq_none_iff]
  intro hmem
  rw [safe_of_mem_overlaid hmem] at h
  cases h

end Object

namespace Value

/-! ## What merges -/

theorem kind_eq_object_iff {v : Value} : v.kind = .object ↔ ∃ o, v = .object o := by
  cases v <;> simp [kind]

theorem kind_eq_array_iff {v : Value} : v.kind = .array ↔ ∃ xs, v = .array xs := by
  cases v <;> simp [kind]

theorem overlay_eq_right {v w : Value} (h : ¬ (v.kind = .object ∧ w.kind = .object)) : v.overlay w = w := by
  cases v with
  | object a =>
    obtain ⟨m, nodup⟩ := a
    cases w with
    | object b => exact absurd ⟨rfl, rfl⟩ h
    | _ => rfl
  | _ => rfl

/-- objects merge only with objects -/
theorem merge_eq_none {v w : Value} (h : v.kind = .object ∧ w.kind ≠ .object ∨ v.kind ≠ .object ∧ w.kind = .object) :
    v.merge w = none := by
  rcases h with ⟨hv, hw⟩ | ⟨hv, hw⟩
  · obtain ⟨a, rfl⟩ := kind_eq_object_iff.1 hv
    cases w with
    | object b => exact absurd rfl hw
    | _ => rfl
  · obtain ⟨b, rfl⟩ := kind_eq_object_iff.1 hw
    cases v with
    | object a => exact absurd rfl hv
    | _ => rfl

/-- apart from objects and from two arrays, values merge only if they are the same -/
theorem merge_eq_left {v w : Value} (hv : v.kind ≠ .object) (hw : w.kind ≠ .object)
    (h : ¬ (v.kind = .array ∧ w.kind = .array)) : v.merge w = if v.same w then some v else none := by
  cases v with
  | object a => exact absurd rfl hv
  | array xs =>
    cases w with
    | object b => exact absurd rfl hw
    | array ys => exact absurd ⟨rfl, rfl⟩ h
    | _ => rfl
  | _ =>
    cases w with
    | object b => exact absurd rfl hw
    | _ => rfl

/-- arrays merge place by place -/
theorem forall₂_of_mergeItems {xs ys zs : List Value} (h : mergeItems xs ys = some zs) :
    xs.length = ys.length ∧ List.Forall₂ (fun e z => e.1.merge e.2 = some z) (xs.zip ys) zs := by
  induction xs generalizing ys zs with
  | nil =>
    cases ys with
    | nil =>
      cases h
      exact ⟨rfl, .nil⟩
    | cons y ys => cases h
  | cons x xs ih =>
    cases ys with
    | nil => cases h
    | cons y ys =>
      simp only [mergeItems] at h
      split at h
      · rename_i z zs' hz hzs
        cases h
        obtain ⟨hlength, hrest⟩ := ih hzs
        exact ⟨congrArg (· + 1) hlength, .cons hz hrest⟩
      · cases h

/-- what a merge can be: two objects laid over each other, two arrays merged place by place, or one of two other values
that are the same -/
theorem merge_cases {v w u : Value} (h : v.merge w = some u) :
    (∃ a b, v = .object a ∧ w = .object b ∧ u = .object (Object.overlaid a b)) ∨
    (∃ xs ys zs, v = .array xs ∧ w = .array ys ∧ u = .array zs ∧ xs.length = ys.length ∧
      List.Forall₂ (fun e z => e.1.merge e.2 = some z) (xs.zip ys) zs) ∨
    (v.kind ≠ .object ∧ ¬ (v.kind = .array ∧ w.kind = .array) ∧ v.same w = true ∧ u = v) := by
  by_cases hv : v.kind = .object <;> by_cases hw : w.kind = .object
  · obtain ⟨a, rfl⟩ := kind_eq_object_iff.1 hv
    obtain ⟨b, rfl⟩ := kind_eq_object_iff.1 hw
    rw [merge, Object.overlay_object] at h
    exact .inl ⟨a, b, rfl, rfl, (Option.some.inj h).symm⟩
  · rw [merge_eq_none (.inl ⟨hv, hw⟩)] at h
    cases h
  · rw [merge_eq_none (.inr ⟨hv, hw⟩)] at h
    cases h
  · by_cases harrays : v.kind = .array ∧ w.kind = .array
    · obtain ⟨xs, rfl⟩ := kind_eq_array_iff.1 harrays.1
      obtain ⟨ys, rfl⟩ := kind_eq_array_iff.1 harrays.2
      obtain ⟨zs, hzs, rfl⟩ := Option.map_eq_some_iff.1 h
      obtain ⟨hlength, hitems⟩ := forall₂_of_mergeItems hzs
      exact .inr (.inl ⟨xs, ys, zs, rfl, rfl, rfl, hlength, hitems⟩)
    · rw [merge_eq_left hv hw harrays] at h
      split_ifs at h with hsame
      exact .inr (.inr ⟨hv, harrays, hsame, (Option.some.inj h).symm⟩)

/-- only two objects merge into an object -/
theorem objects_of_merge {v w : Value} {o : Object Value} (h : v.merge w = some (.object o)) :
    ∃ a b, v = .object a ∧ w = .object b ∧ o = Object.overlaid a b := by
  rcases merge_cases h with ⟨a, b, rfl, rfl, ho⟩ | ⟨xs, ys, zs, -, -, ho, -⟩ | ⟨hkind, -, -, ho⟩
  · cases ho
    exact ⟨a, b, rfl, rfl, rfl⟩
  · cases ho
  · rw [← ho] at hkind
    exact absurd rfl hkind

/-! ## Places -/

/-- the element of an array at a position -/
def element? (v : Value) (position : Nat) : Option Value := v.items?.bind (·[position]?)

/-- the value at the end of some steps through members -/
def inside? : Value → List String → Option Value
  | v, [] => some v
  | v, name :: names => (v.get? name).bind (inside? · names)

/-- the value at a place: through arrays first, then through members -/
def at? : Value → List Nat → List String → Option Value
  | v, [], names => v.inside? names
  | v, position :: positions, names => (v.element? position).bind (at? · positions names)

theorem get?_eq_some {v w : Value} {name : String} (h : v.get? name = some w) :
    ∃ o, v = .object o ∧ o.get? name = some w := by
  cases v with
  | object o => exact ⟨o, rfl, h⟩
  | _ => cases h

theorem element?_eq_some {v w : Value} {position : Nat} (h : v.element? position = some w) :
    ∃ items, v = .array items ∧ items[position]? = some w := by
  cases v with
  | array items => exact ⟨items, rfl, h⟩
  | _ => cases h

/-- what holds an object at the end of steps through members is an object -/
theorem object_of_inside? {v : Value} {names : List String} {o : Object Value} (h : v.inside? names = some (.object o)) :
    ∃ root, v = .object root := by
  cases names with
  | nil => exact ⟨o, Option.some.inj h⟩
  | cons name names =>
    obtain ⟨w, hw, -⟩ := Option.bind_eq_some_iff.1 h
    obtain ⟨root, rfl, -⟩ := get?_eq_some hw
    exact ⟨root, rfl⟩

/-- where both values hold objects, the one laid over the other holds the merge of these, unless a dangerous name leads
there -/
theorem inside?_overlay {names : List String} {v w : Value} {a b : Object Value} (hv : v.inside? names = some (.object a))
    (hw : w.inside? names = some (.object b)) :
    (v.overlay w).inside? names =
      if names.any Key.isDangerous then none else some (.object (Object.overlaid a b)) := by
  induction names generalizing v w with
  | nil =>
    cases hv
    cases hw
    exact congrArg some (Object.overlay_object a b)
  | cons name names ih =>
    obtain ⟨v', hv', hinv⟩ := Option.bind_eq_some_iff.1 hv
    obtain ⟨w', hw', hinw⟩ := Option.bind_eq_some_iff.1 hw
    obtain ⟨o, rfl, hov⟩ := get?_eq_some hv'
    obtain ⟨p, rfl, hpw⟩ := get?_eq_some hw'
    rw [Object.overlay_object, inside?, get?, members?, Option.bind_some, List.any_cons]
    cases hd : Key.isDangerous name with
    | true =>
      rw [Object.get?_overlaid_of_dangerous hd]
      rfl
    | false =>
      rw [Object.get?_overlaid hd hov hpw, Option.bind_some, Bool.false_or]
      exact ih hinv hinw

/-- merged arrays hold at a position the merge of what stands there -/
theorem mergeItems_getElem? {xs ys zs : List Value} (h : mergeItems xs ys = some zs) {position : Nat} {x y : Value}
    (hx : xs[position]? = some x) (hy : ys[position]? = some y) :
    ∃ z, zs[position]? = some z ∧ x.merge y = some z := by
  have hzip : (xs.zip ys)[position]? = some (x, y) := List.getElem?_zip_eq_some.2 ⟨hx, hy⟩
  obtain ⟨z, hz, hmerge⟩ := getElem?_of_forall₂ (forall₂_of_mergeItems h).2 hzip
  exact ⟨z, hz, hmerge⟩

/-- **Objects merge wherever both values hold them**, and only dangerous names cut a place off. -/
theorem at?_merge {positions : List Nat} {names : List String} {v w u : Value} {a b : Object Value}
    (h : v.merge w = some u) (hv : v.at? positions names = some (.object a))
    (hw : w.at? positions names = some (.object b)) :
    u.at? positions names = if names.any Key.isDangerous then none else some (.object (Object.overlaid a b)) := by
  induction positions generalizing v w u with
  | nil =>
    obtain ⟨o, rfl⟩ := object_of_inside? hv
    obtain ⟨p, rfl⟩ := object_of_inside? hw
    cases h
    exact inside?_overlay hv hw
  | cons position positions ih =>
    obtain ⟨v', hv', hinv⟩ := Option.bind_eq_some_iff.1 hv
    obtain ⟨w', hw', hinw⟩ := Option.bind_eq_some_iff.1 hw
    obtain ⟨xs, rfl, hx⟩ := element?_eq_some hv'
    obtain ⟨ys, rfl, hy⟩ := element?_eq_some hw'
    obtain ⟨zs, hzs, rfl⟩ := Option.map_eq_some_iff.1 h
    obtain ⟨z, hz, hmerge⟩ := mergeItems_getElem? hzs hx hy
    rw [at?, element?, items?, Option.bind_some, hz, Option.bind_some]
    exact ih hmerge hinv hinw

end Value

end ValueSchema
