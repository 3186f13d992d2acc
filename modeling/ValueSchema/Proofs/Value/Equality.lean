import ValueSchema.Proofs.Value.Same
import ValueSchema.Proofs.Value.WellFormed

/-!
Plain equality of values beside sameness.

Both compare values in one way, level by level, and part only on numbers: not-a-number is the same as itself and equal to
nothing. One such number anywhere in a value is enough to make the value differ from itself, so plain equality is sameness
of values that hold none.

Results:
- `eq_iff`: plain equality through sameness.
- `eq_iff_same`, `eq_self_iff`: where the two agree, and which values equal themselves.
- `sameness_of_values`: sameness is an equivalence within kinds, and what plain equality is beside it.
-/

namespace ValueSchema

/-- numbers are equal if they are the same number and not not-a-number -/
theorem Double.numEq_iff {x y : Double} : x.numEq y = true ↔ x ≠ .nan ∧ x.same y = true := by
  cases x with
  | nan => simp [numEq, compareBy, place?]
  | _ => simp [same, isNaN]

theorem Double.numEq_symm {x y : Double} (h : x.numEq y = true) : y.numEq x = true := by
  cases x <;> cases y <;> simp_all [numEq, compareBy, place?]

namespace Value

/-- not-a-number stands nowhere in the value -/
inductive WithoutNaN : Value → Prop
  | intro {v : Value} : v ≠ .number .nan → (∀ u ∈ v.parts, WithoutNaN u) → WithoutNaN v

variable {v w : Value}

theorem WithoutNaN.here : v.WithoutNaN → v ≠ .number .nan
  | .intro h _ => h

theorem WithoutNaN.parts : v.WithoutNaN → ∀ u ∈ v.parts, u.WithoutNaN
  | .intro _ h => h

/-! ## One level -/

theorem withoutNaN_number_iff {x : Double} : (number x).WithoutNaN ↔ x ≠ .nan := by
  have hnumber : number x ≠ number .nan ↔ x ≠ .nan := not_congr ⟨number.inj, congrArg number⟩
  constructor
  · exact fun h => hnumber.1 h.here
  · exact fun h => .intro (hnumber.2 h) nofun

/-- only numbers are not-a-number: any other value is without it if its parts are -/
theorem withoutNaN_iff_of_kind (hkind : v.kind ≠ .number) : v.WithoutNaN ↔ ∀ u ∈ v.parts, u.WithoutNaN := by
  refine ⟨WithoutNaN.parts, .intro ?_⟩
  rintro rfl
  exact hkind rfl

theorem withoutNaN_map_iff {es : List (Value × Value)} :
    (map es).WithoutNaN ↔ ∀ e ∈ es, e.1.WithoutNaN ∧ e.2.WithoutNaN := by
  have hparts : (map es).parts = es.map Prod.fst ++ es.map Prod.snd := rfl
  rw [withoutNaN_iff_of_kind (v := map es) nofun, hparts, List.forall_mem_append]
  simp only [List.forall_mem_map, imp_and, forall_and]

theorem withoutNaN_object_iff {o : Object Value} :
    (object o).WithoutNaN ↔ ∀ name u, o.get? name = some u → u.WithoutNaN := by
  have hparts : (object o).parts = o.toList.map Prod.snd := rfl
  rw [withoutNaN_iff_of_kind (v := object o) nofun, hparts, List.forall_mem_map]
  constructor
  · exact fun h name u hu => h (name, u) (Object.get?_eq_some_iff.1 hu)
  · exact fun h e he => h e.1 e.2 (Object.get?_eq_some_iff.2 he)

/-! ## Equality through sameness -/

/-- lists of values are equal if they are the same and hold no not-a-number, when this is so of their elements -/
theorem eqListBy_numEq_iff {xs ys : List Value}
    (h : ∀ x ∈ xs, ∀ y, x.eq y = true ↔ x.WithoutNaN ∧ x.same y = true) :
    eqListBy Double.numEq xs ys = true ↔ (∀ x ∈ xs, x.WithoutNaN) ∧ eqListBy Double.same xs ys = true := by
  rw [eqListBy_iff, eqListBy_iff, ← List.forall₂_and_left]
  exact forall₂_congr_of_mem h

theorem eqEntriesBy_numEq_iff {es fs : List (Value × Value)}
    (h : ∀ e ∈ es, ∀ f : Value × Value, (e.1.eq f.1 = true ↔ e.1.WithoutNaN ∧ e.1.same f.1 = true) ∧
      (e.2.eq f.2 = true ↔ e.2.WithoutNaN ∧ e.2.same f.2 = true)) :
    eqEntriesBy Double.numEq es fs = true ↔
      (∀ e ∈ es, e.1.WithoutNaN ∧ e.2.WithoutNaN) ∧ eqEntriesBy Double.same es fs = true := by
  rw [eqEntriesBy_iff, eqEntriesBy_iff, ← List.forall₂_and_left]
  refine forall₂_congr_of_mem fun e he f => ?_
  obtain ⟨hkey, hvalue⟩ := h e he f
  exact (and_congr hkey hvalue).trans and_and_and_comm

theorem object_eq_iff {a b : Object Value}
    (h : ∀ name x, a.get? name = some x → ∀ y, x.eq y = true ↔ x.WithoutNaN ∧ x.same y = true) :
    (object a).eq (object b) = true ↔
      (∀ name x, a.get? name = some x → x.WithoutNaN) ∧ (object a).same (object b) = true := by
  rw [object_same_iff, ← forall_and]
  refine object_eqBy_iff.trans (forall_congr' fun name => ?_)
  rw [← optionRel_and_left]
  exact optionRel_congr_of_mem (h name)

/-- **Plain equality through sameness**: two values are equal if they are the same and the first holds no not-a-number. -/
theorem eq_iff : v.eq w = true ↔ v.WithoutNaN ∧ v.same w = true := by
  induction v using height_induction generalizing w with
  | step v ih =>
    by_cases hkind : v.kind = w.kind
    · cases v with
      | number x =>
        cases w <;> cases hkind
        rw [withoutNaN_number_iff]
        exact Double.numEq_iff
      | array xs =>
        cases w <;> cases hkind
        rw [withoutNaN_iff_of_kind (v := array xs) nofun]
        exact eqListBy_numEq_iff fun x hx y => ih x (height_lt_array hx)
      | set xs =>
        cases w <;> cases hkind
        rw [withoutNaN_iff_of_kind (v := set xs) nofun]
        exact eqListBy_numEq_iff fun x hx y => ih x (height_lt_set hx)
      | map es =>
        cases w <;> cases hkind
        rw [withoutNaN_map_iff]
        exact eqEntriesBy_numEq_iff fun e he f => ⟨ih e.1 (height_lt_map he).1, ih e.2 (height_lt_map he).2⟩
      | object a =>
        cases w <;> cases hkind
        rw [withoutNaN_object_iff]
        exact object_eq_iff fun name x hx y => ih x (height_lt_of_get? hx)
      | _ =>
        -- a value without numbers in it: both equalities compare it in one way
        cases w <;> cases hkind
        exact (and_iff_right (.intro nofun nofun)).symm
    · exact iff_of_false (fun heq => hkind (eqBy_kind heq)) fun h => hkind (same_kind h.2)

/-- where one of them holds no not-a-number, values are equal as soon as they are the same -/
theorem eq_iff_same (h : v.WithoutNaN ∨ w.WithoutNaN) : v.eq w = true ↔ v.same w = true := by
  refine ⟨fun heq => (eq_iff.1 heq).2, fun hsame => ?_⟩
  rcases h with hv | hw
  · exact eq_iff.2 ⟨hv, hsame⟩
  · have hflip : w.eq v = true := eq_iff.2 ⟨hw, same_symm hsame⟩
    exact eqBy_symm (fun _ _ => Double.numEq_symm) hflip

/-- the values that are equal to themselves -/
theorem eq_self_iff : v.eq v = true ↔ v.WithoutNaN := by
  rw [eq_iff, same_refl, and_iff_left rfl]

/-- **Sameness of values.** It is an equivalence on all values, however they nest, and values of different kinds are never
the same. It contains plain equality, and wherever one of two values holds no not-a-number at any depth the two agree on
them; a value that does hold one is the same as itself and not equal to itself. -/
theorem sameness_of_values :
    Equivalence (fun v w : Value => v.same w = true) ∧
      (∀ v w : Value, v.kind ≠ w.kind → v.same w = false) ∧
      (∀ v w : Value, v.eq w = true → v.same w = true) ∧
      (∀ v w : Value, v.WithoutNaN ∨ w.WithoutNaN → (v.eq w = true ↔ v.same w = true)) ∧
      ∀ v : Value, v.eq v = true ↔ v.WithoutNaN := by
  refine ⟨⟨same_refl, same_symm, same_trans⟩, fun v w hkind => ?_, fun v w h => (eq_iff.1 h).2,
    fun v w => eq_iff_same, fun v => eq_self_iff⟩
  cases hsame : v.same w with
  | true => exact absurd (same_kind hsame) hkind
  | false => rfl

/-- members in other orders, zeros of both signs and not-a-number: the same in both directions, and not equal to itself -/
theorem reordered_members_same :
    (object (Object.ofList [("a", number .nan), ("b", number (.zero true))])).same
        (object (Object.ofList [("b", number (.zero false)), ("a", number .nan)])) = true ∧
      (object (Object.ofList [("b", number (.zero false)), ("a", number .nan)])).same
        (object (Object.ofList [("a", number .nan), ("b", number (.zero true))])) = true ∧
      ¬ (object (Object.ofList [("a", number .nan), ("b", number (.zero true))])).WithoutNaN ∧
      (set [number (.zero true)]).WithoutNaN ∧
      (set [number (.zero true)]).eq (set [number (.zero false)]) = true ∧
      (array []).kind ≠ (set []).kind ∧ (array []).same (set []) = false := by
  obtain ⟨equivalence, kinds, -, agree, self⟩ := sameness_of_values
  have hsame : (object (Object.ofList [("a", number .nan), ("b", number (.zero true))])).same
      (object (Object.ofList [("b", number (.zero false)), ("a", number .nan)])) = true := by decide +kernel
  have hnan : ¬ (object (Object.ofList [("a", number .nan), ("b", number (.zero true))])).WithoutNaN := by
    rw [← self]
    decide +kernel
  have hzero : (set [number (.zero true)]).WithoutNaN := by
    rw [← self]
    decide +kernel
  have hzeros : (set [number (.zero true)]).same (set [number (.zero false)]) = true := by decide +kernel
  have hkind : (array []).kind ≠ (set []).kind := by decide
  exact ⟨hsame, equivalence.symm hsame, hnan, hzero, (agree _ _ (.inl hzero)).2 hzeros, hkind, kinds _ _ hkind⟩

end Value

end ValueSchema
