import ValueSchema.Proofs.Validator.Accepted
import ValueSchema.Proofs.Value.Distinct

/-!
Collections of stable validators are stable.

A stable validator accepts its own outputs as they are. The output of a collection is put together from outputs of its
parts, some of which fall away: elements of a set and keys of a map that are the same as earlier ones, members of a
record whose new names meet, members of an object that no field describes, fields whose absence stays absence. What is
left is accepted again, and nothing more falls away.
-/

namespace ValueSchema

namespace Validator

/-- accepts its own outputs as they are -/
def Stable (a : Validator) : Prop := ∀ ctx v w, a ctx v = some (.ok w) → a ctx w = some (.ok w)

variable {ctx : Context}

/-- what a stable validator makes of a list, it accepts element by element -/
theorem Stable.outputs {a : Validator} (ha : a.Stable) {xs ys : List Value}
    (h : List.Forall₂ (fun x y => a ctx x = some (.ok y)) xs ys) : ∀ y ∈ ys, a ctx y = some (.ok y) := by
  intro y hy
  obtain ⟨x, -, hxy⟩ := exists_left_of_forall₂ h hy
  exact ha ctx x y hxy

/-! ## Sequences, sets and maps -/

theorem array_stable {a : Validator} (he : a.Explained) (ha : a.Stable) (sizes : Checks SizeTest) :
    (array a sizes).Stable := by
  intro ctx v w h
  obtain ⟨xs, ys, rfl, rfl, hxy, hsize⟩ := (array_eq_ok_iff he).1 h
  rw [hxy.length_eq] at hsize
  exact (array_eq_ok_iff he).2 ⟨ys, ys, rfl, rfl, List.forall₂_same.2 (ha.outputs hxy), hsize⟩

/-- the bounds of a set were asked of what is left, which is built from its own elements -/
theorem set_stable {a : Validator} (he : a.Explained) (ha : a.Stable) (sizes : Checks SizeTest) :
    (set a sizes).Stable := by
  intro ctx v w h
  obtain ⟨xs, ys, rfl, rfl, hxy, hsize⟩ := (set_eq_ok_iff he).1 h
  refine (set_eq_ok_iff he).2 ⟨Value.distinct ys, Value.distinct ys, rfl, ?_, ?_, ?_⟩
  · rw [Value.distinct_distinct]
  · exact List.forall₂_same.2 fun y hy => ha.outputs hxy y (Value.mem_of_mem_distinct hy)
  · rwa [Value.distinct_distinct]

theorem tuple_outputs {items : List Validator} (hs : ∀ a ∈ items, a.Stable) {xs ys : List Value}
    (hlen : xs.length = items.length)
    (h : List.Forall₂ (fun (e : Validator × Value) y => e.1 ctx e.2 = some (.ok y)) (items.zip xs) ys) :
    List.Forall₂ (fun (e : Validator × Value) y => e.1 ctx e.2 = some (.ok y)) (items.zip ys) ys := by
  induction items generalizing xs ys with
  | nil =>
    cases h
    exact .nil
  | cons a items ih =>
    cases xs with
    | nil => simp at hlen
    | cons x xs =>
      cases h with
      | cons hxy h =>
        refine .cons (hs a List.mem_cons_self ctx x _ hxy) ?_
        exact ih (fun b hb => hs b (List.mem_cons_of_mem _ hb)) (by simpa using hlen) h

theorem tuple_stable {items : List Validator} (he : ∀ a ∈ items, a.Explained) (hs : ∀ a ∈ items, a.Stable) :
    (tuple items).Stable := by
  intro ctx v w h
  obtain ⟨xs, ys, rfl, rfl, hlen, hxy⟩ := (tuple_eq_ok_iff he).1 h
  refine (tuple_eq_ok_iff he).2 ⟨ys, ys, rfl, rfl, ?_, tuple_outputs hs hlen hxy⟩
  have hzip := hxy.length_eq
  rw [List.length_zip, hlen, Nat.min_self] at hzip
  exact hzip.symm

/-- a key stays with the latest value of the keys that are the same; each was accepted by itself -/
theorem map_stable {key a : Validator} (hke : key.Explained) (he : a.Explained) (hk : key.Stable) (ha : a.Stable) :
    (map key a).Stable := by
  intro ctx v w h
  obtain ⟨es, es', rfl, rfl, hes⟩ := (map_eq_ok_iff hke he).1 h
  refine (map_eq_ok_iff hke he).2 ⟨Value.distinctEntries es', Value.distinctEntries es', rfl, ?_, ?_⟩
  · exact congrArg Value.map (Value.distinctEntries_distinctEntries es').symm
  · refine List.forall₂_same.2 fun e hmem => ?_
    obtain ⟨⟨k, hk', hkey⟩, u, hu, hvalue⟩ := Value.exists_of_mem_distinctEntries hmem
    obtain ⟨e₁, -, h₁, -⟩ := exists_left_of_forall₂ hes hk'
    obtain ⟨e₂, -, -, h₂⟩ := exists_left_of_forall₂ hes hu
    rw [← hkey, ← hvalue]
    exact ⟨hk ctx _ _ h₁, ha ctx _ _ h₂⟩

/-! ## Records -/

/-- the name that a member is kept under is kept as it is -/
theorem recordKey_stable {key : Option Validator} (hk : ∀ a ∈ key, a.Stable) {name other : String}
    (h : recordKey key ctx name = some (.ok other)) : recordKey key ctx other = some (.ok other) := by
  obtain ⟨-, hsafe, hkept⟩ := recordKey_eq_ok_iff.1 h
  refine recordKey_eq_ok_iff.2 ⟨hsafe, hsafe, ?_⟩
  cases key with
  | none => exact rfl
  | some a =>
    rcases hkept with hkept | ⟨rfl, w, hw, hno⟩
    · exact Or.inl (hk a rfl ctx _ _ hkept)
    · exact Or.inr ⟨rfl, w, hw, hno⟩

theorem record_stable {key : Option Validator} {a : Validator} (he : a.Explained) (hk : ∀ a ∈ key, a.Stable)
    (ha : a.Stable) : (record key a).Stable := by
  intro ctx v w h
  obtain ⟨o, es, rfl, rfl, hes⟩ := (record_eq_ok_iff he).1 h
  refine (record_eq_ok_iff he).2 ⟨Object.ofList es, (Object.ofList es).toList, rfl, ?_, ?_⟩
  · rw [Object.ofList_toList]
  · refine List.forall₂_same.2 fun e hmem => ?_
    obtain ⟨e', -, hname, hvalue⟩ := exists_left_of_forall₂ hes (Object.mem_of_mem_ofList hmem)
    exact ⟨recordKey_stable hk hname, ha ctx _ _ hvalue⟩

/-! ## Objects with known fields -/

/-- members kept beside the fields are kept again as they are -/
theorem extrasKept_self {unknown : UnknownKeys Validator} (hu : ∀ a ∈ unknown.parts, a.Stable)
    {es others : List (String × Value)} (h : ExtrasKept unknown ctx es others) : ExtrasKept unknown ctx others others := by
  cases unknown with
  | strip => exact h
  | strict => exact ⟨h.2, h.2⟩
  | passthrough =>
    have h' : others = es.filter fun e => !Key.isDangerous e.1 := h
    show others = others.filter fun e => !Key.isDangerous e.1
    rw [h', List.filter_filter]
    simp
  | catchall a =>
    have h' : List.Forall₂ (fun e e' => e'.1 = e.1 ∧ a ctx e.2 = some (.ok e'.2))
      (es.filter fun e => !Key.isDangerous e.1) others := h
    have hsafe : others.filter (fun e => !Key.isDangerous e.1) = others := by
      rw [List.filter_eq_self]
      intro e' he'
      obtain ⟨e, he, hname, -⟩ := exists_left_of_forall₂ h' he'
      rw [hname]
      exact (List.mem_filter.1 he).2
    show List.Forall₂ _ (others.filter _) others
    rw [hsafe]
    refine List.forall₂_same.2 fun e' he' => ⟨rfl, ?_⟩
    obtain ⟨e, -, -, hvalue⟩ := exists_left_of_forall₂ h' he'
    exact hu a (by simp [UnknownKeys.parts]) ctx _ _ hvalue

/-- the names of members kept beside the fields are names of undescribed members, in their order -/
theorem names_extrasKept {unknown : UnknownKeys Validator} {es others : List (String × Value)}
    (h : ExtrasKept unknown ctx es others) : (others.map Prod.fst).Sublist (es.map Prod.fst) := by
  cases unknown with
  | strip =>
    obtain rfl : others = [] := h
    exact List.nil_sublist _
  | strict =>
    obtain ⟨-, rfl⟩ : es = [] ∧ others = [] := h
    exact List.nil_sublist _
  | passthrough =>
    obtain rfl : others = es.filter fun e => !Key.isDangerous e.1 := h
    exact List.filter_sublist.map _
  | catchall a =>
    have h' : List.Forall₂ (fun e e' => e'.1 = e.1 ∧ a ctx e.2 = some (.ok e'.2))
      (es.filter fun e => !Key.isDangerous e.1) others := h
    have hnames : others.map Prod.fst = (es.filter fun e => !Key.isDangerous e.1).map Prod.fst := by
      clear h
      generalize es.filter (fun e => !Key.isDangerous e.1) = safe at h'
      induction h' with
      | nil => rfl
      | cons he _ ih => rw [List.map_cons, List.map_cons, he.1, ih]
    rw [hnames]
    exact List.filter_sublist.map _

/-- the fields' part of the output of an object: what each field makes of the member under its name -/
def FieldsKept (ctx : Context) (o : Object Value) : List (String × Validator) → List (Option (String × Value)) → Prop :=
  List.Forall₂ fun f m => ∃ u, f.2 ctx ((o.get? f.1).getD .undefined) = some (.ok u) ∧ m = memberOf o f.1 u

theorem names_fieldsKept {fields : List (String × Validator)} {o : Object Value} {known : List (Option (String × Value))}
    (h : FieldsKept ctx o fields known) : ((known.filterMap id).map Prod.fst).Sublist (fields.map Prod.fst) := by
  induction h with
  | nil => exact .slnil
  | @cons f m fields known hfm _ ih =>
    obtain ⟨u, -, rfl⟩ := hfm
    unfold memberOf
    split_ifs
    · exact ih.cons_cons _
    · exact ih.cons _

section Fields

variable {fields : List (String × Validator)} {unknown : UnknownKeys Validator} {o : Object Value}
  {known : List (Option (String × Value))} {others : List (String × Value)}

/-- members beside the fields have names of no field -/
theorem notMem_fields_of_extrasKept (hothers : ExtrasKept unknown ctx (extras fields o) others) {e : String × Value}
    (he : e ∈ others) : e.1 ∉ fields.map Prod.fst := by
  have hname := (names_extrasKept hothers).subset (List.mem_map_of_mem he)
  obtain ⟨e', he', heq⟩ := List.mem_map.1 hname
  rw [← heq]
  simpa [extras] using List.of_mem_filter he'

/-- members of the output of an object, in order -/
theorem toList_output (hnames : (fields.map Prod.fst).Nodup) (hknown : FieldsKept ctx o fields known)
    (hothers : ExtrasKept unknown ctx (extras fields o) others) :
    (Object.ofList (known.filterMap id ++ others)).toList = known.filterMap id ++ others := by
  refine Object.toList_ofList_of_nodup ?_
  rw [List.map_append]
  refine List.Nodup.append (hnames.sublist (names_fieldsKept hknown)) ?_ ?_
  · exact (o.nodup_toList.sublist (List.filter_sublist.map _)).sublist (names_extrasKept hothers)
  · intro name hleft hright
    obtain ⟨e, he, rfl⟩ := List.mem_map.1 hright
    exact notMem_fields_of_extrasKept hothers he ((names_fieldsKept hknown).subset hleft)

/-- a field's name holds in the output of an object what the field makes of the input, absence included -/
theorem get?_output (hnames : (fields.map Prod.fst).Nodup) (hknown : FieldsKept ctx o fields known)
    (hothers : ExtrasKept unknown ctx (extras fields o) others) {f : String × Validator} (hf : f ∈ fields) {u : Value}
    (hu : f.2 ctx ((o.get? f.1).getD .undefined) = some (.ok u)) :
    ((Object.ofList (known.filterMap id ++ others)).get? f.1).getD .undefined = u ∧
      memberOf (Object.ofList (known.filterMap id ++ others)) f.1 u = memberOf o f.1 u := by
  have hlist := toList_output hnames hknown hothers
  obtain ⟨m, hm, u', hu', hmember⟩ := exists_right_of_forall₂ hknown hf
  obtain rfl : u' = u := by
    rw [hu] at hu'
    cases hu'
    rfl
  by_cases hkept : o.contains f.1 = true ∨ u'.isUndefined = false
  · -- the field is a member of the output
    have hsome : memberOf o f.1 u' = some (f.1, u') := by
      unfold memberOf
      rw [if_pos (by simpa using hkept)]
    have hmem : (f.1, u') ∈ known.filterMap id := List.mem_filterMap.2 ⟨m, hm, hmember.trans hsome⟩
    have hget : (Object.ofList (known.filterMap id ++ others)).get? f.1 = some u' := by
      rw [Object.get?_eq_some_iff, hlist]
      exact List.mem_append_left _ hmem
    refine ⟨by rw [hget]; rfl, ?_⟩
    rw [hsome]
    unfold memberOf
    have hcontains : (Object.ofList (known.filterMap id ++ others)).contains f.1 = true := by
      rw [Object.contains_iff, Object.mem_names_iff, hlist]
      exact ⟨u', List.mem_append_left _ hmem⟩
    rw [hcontains]
    rfl
  · -- absence stayed absence, and no other field has this name
    rw [not_or] at hkept
    have hundefined : u' = .undefined := isUndefined_iff.1 (by simpa using hkept.2)
    have hnone : memberOf o f.1 u' = none := by
      unfold memberOf
      rw [if_neg (by simpa using hkept)]
    have habsent : f.1 ∉ (Object.ofList (known.filterMap id ++ others)).names := by
      rw [Object.mem_names_ofList, List.map_append, List.mem_append]
      rintro (hin | hin)
      · obtain ⟨e, he, hname⟩ := List.mem_map.1 hin
        obtain ⟨m', hm', hme⟩ := List.mem_filterMap.1 he
        obtain ⟨f', hf', u'', hu'', hmember'⟩ := exists_left_of_forall₂ hknown hm'
        have hsome : memberOf o f'.1 u'' = some e := hmember'.symm.trans hme
        have hname' : f'.1 = e.1 := by
          unfold memberOf at hsome
          split_ifs at hsome
          cases hsome
          rfl
        obtain rfl : f' = f := List.inj_on_of_nodup_map hnames hf' hf (hname'.trans hname)
        rw [hu] at hu''
        cases hu''
        rw [hnone] at hsome
        cases hsome
      · obtain ⟨e, he, hname⟩ := List.mem_map.1 hin
        exact notMem_fields_of_extrasKept hothers he (hname ▸ List.mem_map_of_mem hf)
    refine ⟨by rw [Object.get?_eq_none_iff.2 habsent, hundefined]; rfl, ?_⟩
    have hcontains : (Object.ofList (known.filterMap id ++ others)).contains f.1 = false := by
      rwa [← Bool.not_eq_true, Object.contains_iff]
    rw [hnone, memberOf, hcontains, hundefined]
    rfl

/-- the members of the output that no field describes are those kept beside the fields -/
theorem extras_output (hnames : (fields.map Prod.fst).Nodup) (hknown : FieldsKept ctx o fields known)
    (hothers : ExtrasKept unknown ctx (extras fields o) others) :
    extras fields (Object.ofList (known.filterMap id ++ others)) = others := by
  unfold extras
  rw [toList_output hnames hknown hothers, List.filter_append]
  have hfields : (known.filterMap id).filter (fun e => !(fields.map Prod.fst).contains e.1) = [] := by
    rw [List.filter_eq_nil_iff]
    intro e he
    have hmem := (names_fieldsKept hknown).subset (List.mem_map_of_mem he)
    simpa using hmem
  have hrest : others.filter (fun e => !(fields.map Prod.fst).contains e.1) = others := by
    rw [List.filter_eq_self]
    intro e he
    simpa using notMem_fields_of_extrasKept hothers he
  rw [hfields, hrest, List.nil_append]

end Fields

/-- **Objects are stable**, whatever the policy for undescribed members. -/
theorem object_stable {fields : List (String × Validator)} {unknown : UnknownKeys Validator}
    (hnames : (fields.map Prod.fst).Nodup) (hfe : ∀ f ∈ fields, f.2.Explained) (hue : ∀ a ∈ unknown.parts, a.Explained)
    (hf : ∀ f ∈ fields, f.2.Stable) (hu : ∀ a ∈ unknown.parts, a.Stable) : (object fields unknown).Stable := by
  intro ctx v w h
  obtain ⟨o, known, others, rfl, rfl, hknown, hothers⟩ := (object_eq_ok_iff hfe hue).1 h
  refine (object_eq_ok_iff hfe hue).2 ⟨_, known, others, rfl, rfl, ?_, ?_⟩
  · -- each field sees what it made of the input
    have hagain : ∀ f ∈ fields, ∀ m, (∃ u, f.2 ctx ((o.get? f.1).getD .undefined) = some (.ok u) ∧ m = memberOf o f.1 u) →
        ∃ u, f.2 ctx (((Object.ofList (known.filterMap id ++ others)).get? f.1).getD .undefined) = some (.ok u) ∧
          m = memberOf (Object.ofList (known.filterMap id ++ others)) f.1 u := by
      rintro f hmem m ⟨u, hfu, rfl⟩
      obtain ⟨hget, hmember⟩ := get?_output hnames hknown hothers hmem hfu
      exact ⟨u, hget ▸ hf f hmem ctx _ u hfu, hmember.symm⟩
    exact forall₂_imp_of_mem hagain hknown
  · rw [extras_output hnames hknown hothers]
    exact extrasKept_self hu hothers

end Validator

end ValueSchema
