import ValueSchema.Proofs.Order.Built

/-!
Which values merge.

Any two objects are compatible; two arrays are if they are so place by place; any other value is compatible with what is
the same. Compatibility is an equivalence, values merge exactly if they are compatible, and the merge is compatible with
both. So a merge can stand for either of its values wherever the question is only whether something merges.

Results:
- `compatible_equivalence`: reflexive, symmetric and transitive.
- `isSome_merge_iff`, `Compatible.of_merge`: which values merge, and where the merge belongs.
-/

namespace ValueSchema.Value

/-- two objects, two arrays with compatible elements at each place, or other values that are the same -/
inductive Compatible : Value → Value → Prop
  | objects (a b : Object Value) : Compatible (.object a) (.object b)
  | arrays {xs ys : List Value} : List.Forall₂ Compatible xs ys → Compatible (.array xs) (.array ys)
  | same {v w : Value} (notObject : v.kind ≠ .object) (notArray : v.kind ≠ .array) : v.same w = true → Compatible v w

variable {u v w : Value}

theorem Compatible.kind_eq (h : v.Compatible w) : v.kind = w.kind := by
  cases h with
  | objects => rfl
  | arrays => rfl
  | same _ _ hvw => exact same_kind hvw

theorem Compatible.of_arrays {xs ys : List Value} (h : (array xs).Compatible (array ys)) : List.Forall₂ Compatible xs ys := by
  cases h with
  | arrays hxy => exact hxy
  | same _ notArray => exact absurd rfl notArray

/-- values that are neither objects nor arrays are compatible only if they are the same -/
theorem Compatible.to_same (h : v.Compatible w) (notObject : v.kind ≠ .object) (notArray : v.kind ≠ .array) :
    v.same w = true := by
  cases h with
  | objects => exact absurd rfl notObject
  | arrays => exact absurd rfl notArray
  | same _ _ hvw => exact hvw

/-! ## An equivalence -/

theorem Compatible.refl (v : Value) : v.Compatible v := by
  induction v using height_induction with
  | step v ih =>
    by_cases hobject : v.kind = .object
    · obtain ⟨a, rfl⟩ := kind_eq_object_iff.1 hobject
      exact .objects a a
    · by_cases harray : v.kind = .array
      · obtain ⟨xs, rfl⟩ := kind_eq_array_iff.1 harray
        exact .arrays (List.forall₂_same.2 fun x hx => ih x (height_lt_array hx))
      · exact .same hobject harray (same_refl v)

theorem Compatible.symm (h : v.Compatible w) : w.Compatible v := by
  induction v using height_induction generalizing w with
  | step v ih =>
    cases h with
    | objects a b => exact .objects b a
    | arrays hxy =>
      have hyx := forall₂_imp_of_mem (fun x hx y hxy => ih x (height_lt_array hx) hxy) hxy
      exact .arrays hyx.flip
    | same notObject notArray hvw =>
      have hkind : v.kind = w.kind := same_kind hvw
      exact .same (hkind ▸ notObject) (hkind ▸ notArray) (same_symm hvw)

theorem Compatible.trans (huv : u.Compatible v) (hvw : v.Compatible w) : u.Compatible w := by
  induction u using height_induction generalizing v w with
  | step u ih =>
    cases huv with
    | objects a b =>
      obtain ⟨c, rfl⟩ := kind_eq_object_iff.1 hvw.kind_eq.symm
      exact .objects a c
    | arrays hxy =>
      obtain ⟨zs, rfl⟩ := kind_eq_array_iff.1 hvw.kind_eq.symm
      refine .arrays (forall₂_comp_of_mem ?_ hxy hvw.of_arrays)
      exact fun x hx y z hxy hyz => ih x (height_lt_array hx) hxy hyz
    | same notObject notArray huv =>
      have hkind : u.kind = v.kind := same_kind huv
      have hvw : v.same w = true := hvw.to_same (hkind ▸ notObject) (hkind ▸ notArray)
      exact .same notObject notArray (same_trans huv hvw)

theorem compatible_equivalence : Equivalence Compatible := ⟨.refl, .symm, .trans⟩

/-! ## Merges -/

theorem exists_mergeItems {xs ys : List Value}
    (h : List.Forall₂ (fun x y => ∃ z, x.merge y = some z ∧ x.Compatible z) xs ys) :
    ∃ zs, mergeItems xs ys = some zs ∧ List.Forall₂ Compatible xs zs := by
  induction h with
  | nil => exact ⟨[], rfl, .nil⟩
  | cons hxy _ ih =>
    obtain ⟨z, hz, hxz⟩ := hxy
    obtain ⟨zs, hzs, hrest⟩ := ih
    exact ⟨z :: zs, by simp only [mergeItems, hz, hzs], .cons hxz hrest⟩

/-- compatible values merge, into a value compatible with the left one -/
theorem Compatible.exists_merge (h : v.Compatible w) : ∃ u, v.merge w = some u ∧ v.Compatible u := by
  induction v using height_induction generalizing w with
  | step v ih =>
    cases h with
    | objects a b =>
      refine ⟨.object (Object.overlaid a b), ?_, .objects a _⟩
      rw [merge, Object.overlay_object]
    | arrays hxy =>
      have hitems := forall₂_imp_of_mem (fun x hx y hxy => ih x (height_lt_array hx) hxy) hxy
      obtain ⟨zs, hzs, hxz⟩ := exists_mergeItems hitems
      exact ⟨.array zs, by rw [merge, hzs]; rfl, .arrays hxz⟩
    | same notObject notArray hvw =>
      have hkind : v.kind = w.kind := same_kind hvw
      refine ⟨v, ?_, .refl v⟩
      rw [merge_eq_left notObject (hkind ▸ notObject) fun harrays => notArray harrays.1, if_pos hvw]

/-- only compatible values merge -/
theorem compatible_of_merge (h : v.merge w = some u) : v.Compatible w := by
  induction v using height_induction generalizing w u with
  | step v ih =>
    rcases merge_cases h with ⟨a, b, rfl, rfl, -⟩ | ⟨xs, ys, zs, rfl, rfl, -, hlength, hitems⟩ | ⟨hv, harrays, hsame, -⟩
    · exact .objects a b
    · refine .arrays (List.forall₂_iff_zip.2 ⟨hlength, fun {x y} hxy => ?_⟩)
      obtain ⟨z, -, hz⟩ := exists_right_of_forall₂ hitems hxy
      exact ih x (height_lt_array (List.of_mem_zip hxy).1) hz
    · have hkind : v.kind = w.kind := same_kind hsame
      exact .same hv (fun harray => harrays ⟨harray, hkind ▸ harray⟩) hsame

/-- **Values merge exactly if they are compatible.** -/
theorem isSome_merge_iff : (v.merge w).isSome = true ↔ v.Compatible w := by
  rw [Option.isSome_iff_exists]
  constructor
  · rintro ⟨u, hu⟩
    exact compatible_of_merge hu
  · intro h
    obtain ⟨u, hu, -⟩ := h.exists_merge
    exact ⟨u, hu⟩

/-- **A merge is compatible with its values.** -/
theorem Compatible.of_merge (h : v.merge w = some u) : v.Compatible u ∧ w.Compatible u := by
  have hvw : v.Compatible w := compatible_of_merge h
  obtain ⟨u', hu', hvu⟩ := hvw.exists_merge
  obtain rfl : u' = u := Option.some.inj (hu'.symm.trans h)
  exact ⟨hvu, hvw.symm.trans hvu⟩

end ValueSchema.Value
