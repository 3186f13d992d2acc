import ValueSchema.Proofs.Order.Built
import ValueSchema.Proofs.Order.Meets
import ValueSchema.Proofs.Schema.Parts
import ValueSchema.Validator.Collection

/-!
Collections do not see the order of members.

`OrderBlind a` says that the validator `a` gives alike values one verdict, with alike outputs. Arrays, sets, tuples and
maps run their parts in step on alike values; so does an object its declared fields, while its other members, and those
of a record, are run in two orders.
-/

namespace ValueSchema

open Value (Alike MemberAlike EntryAlike MembersAlike Reordered)

/-! ## Ends of runs -/

section Ends

variable {α β : Type} {L : List α → List β → Prop} {ps : List (Part α)} {qs : List (Part β)} {mode : Mode}

theorem settle_of_ne_nil {issues : List Issue} (h : issues ≠ []) (w : Value) : settle issues w = .error issues := by
  simp [settle, h]

theorem close_of_ne_nil {issues : List Issue} (h : issues ≠ []) (mode : Mode) (others : List Issue) (w : Value) :
    ∃ js, js ≠ [] ∧ Validator.close mode issues others w = .error js := by
  unfold Validator.close
  split_ifs
  · exact ⟨issues, h, rfl⟩
  · exact ⟨issues ++ others, by simp [h], settle_of_ne_nil (by simp [h]) w⟩

theorem settle_agree (h : Part.RunsAgree L ps qs) {f : List α → Value} {g : List β → Value}
    (hout : ∀ as bs, L as bs → (f as).Alike (g bs)) :
    Part.Agree Alike (settle (Part.allIssues ps) (f (Part.values ps)))
      (settle (Part.allIssues qs) (g (Part.values qs))) := by
  cases h with
  | ok hlist =>
    simp only [Part.allIssues_map_ok, Part.values_map_ok]
    exact .ok (hout _ _ hlist)
  | error hps hqs =>
    rw [settle_of_ne_nil hps, settle_of_ne_nil hqs]
    exact .error hps hqs

/-- the issues of the whole are the same where both runs succeed -/
theorem close_agree (h : Part.RunsAgree L ps qs) {others others' : List Issue} {v w : Value}
    (hclean : ∀ as bs, ps = as.map .ok → qs = bs.map .ok → L as bs → others = others' ∧ v.Alike w) :
    Part.Agree Alike (Validator.close mode (Part.allIssues ps) others v)
      (Validator.close mode (Part.allIssues qs) others' w) := by
  cases h with
  | ok hlist =>
    obtain ⟨rfl, hvw⟩ := hclean _ _ rfl rfl hlist
    simp only [Validator.close, Part.allIssues_map_ok, stops_nil, Bool.false_eq_true, if_false, List.nil_append]
    by_cases hothers : others = []
    · rw [hothers]
      exact .ok hvw
    · rw [settle_of_ne_nil hothers, settle_of_ne_nil hothers]
      exact .error hothers hothers
  | error hps hqs =>
    obtain ⟨is, hi, his⟩ := close_of_ne_nil hps mode others v
    obtain ⟨js, hj, hjs⟩ := close_of_ne_nil hqs mode others' w
    rw [his, hjs]
    exact .error hi hj

end Ends

namespace Validator

/-- one verdict on alike values, and alike outputs -/
def OrderBlind (a : Validator) : Prop :=
  ∀ ctx v w, v.Alike w → Meets ctx.mode (Part.Agree Alike) (a ctx v) (a ctx w)

section Combinators

variable {a key : Validator} {ctx : Context}

theorem wrongKind_meets (expected expected' : String) (v w : Value) (own own' : Option String) :
    Meets ctx.mode (Part.Agree Alike) (some (ctx.wrongKind expected v own)) (some (ctx.wrongKind expected' w own')) :=
  .some (.fail ..)

theorem OrderBlind.child (ha : a.OrderBlind) (segment segment' : Segment) {v w : Value} (h : v.Alike w) :
    Meets ctx.mode (Part.Agree Alike) (a.child segment ctx v) (a.child segment' ctx w) :=
  (ha ctx v w h).map fun _ _ hpq => hpq.within segment segment'

/-! ## Sequences -/

theorem elements_meet (ha : a.OrderBlind) {xs ys : List Value} (h : List.Forall₂ Alike xs ys) :
    Meets ctx.mode (Part.RunsAgree (List.Forall₂ Alike)) (a.elements ctx xs) (a.elements ctx ys) := by
  refine Meets.run ((forall₂_zipIdx h).imp fun e f hef => ?_)
  exact ha.child (.index e.2) (.index f.2) hef

theorem array_blind (ha : a.OrderBlind) (sizes : Checks SizeTest) : (array a sizes).OrderBlind := by
  intro ctx v w h
  cases v with
  | array xs =>
    obtain ⟨ys, rfl, hxy⟩ := h.of_array
    refine (elements_meet ha hxy).map fun ps qs hpq => close_agree hpq fun as bs hps hqs hab => ?_
    subst hps hqs
    simp only [Part.values_map_ok, hxy.length_eq, true_and]
    exact .array hab
  | _ =>
    cases w <;> cases h.kind_eq
    exact wrongKind_meets _ _ _ _ _ _

theorem set_blind (ha : a.OrderBlind) (sizes : Checks SizeTest) : (set a sizes).OrderBlind := by
  intro ctx v w h
  cases v with
  | set xs =>
    obtain ⟨ys, rfl, hxy⟩ := h.of_set
    refine (elements_meet ha hxy).map fun ps qs hpq => close_agree hpq fun as bs hps hqs hab => ?_
    subst hps hqs
    have hdistinct := Value.distinct_alike hab
    simp only [Part.allIssues_map_ok, Part.values_map_ok, List.isEmpty_nil, if_true, hdistinct.length_eq, true_and]
    exact .set hdistinct
  | _ =>
    cases w <;> cases h.kind_eq
    exact wrongKind_meets _ _ _ _ _ _

theorem zip_alike {xs ys : List Value} (h : List.Forall₂ Alike xs ys) (items : List Validator) :
    List.Forall₂ (fun (e f : Validator × Value) => e.1 = f.1 ∧ e.1 ∈ items ∧ e.2.Alike f.2) (items.zip xs) (items.zip ys) := by
  induction h generalizing items with
  | nil => simp
  | cons hxy _ ih =>
    cases items with
    | nil => exact .nil
    | cons item items =>
      refine .cons ⟨rfl, List.mem_cons_self, hxy⟩ ((ih items).imp fun e f hef => ?_)
      exact ⟨hef.1, List.mem_cons_of_mem _ hef.2.1, hef.2.2⟩

theorem tuple_blind {items : List Validator} (hi : ∀ a ∈ items, a.OrderBlind) : (tuple items).OrderBlind := by
  intro ctx v w h
  cases v with
  | array xs =>
    obtain ⟨ys, rfl, hxy⟩ := h.of_array
    simp only [tuple, hxy.length_eq]
    split_ifs
    · have hzip := forall₂_zipIdx (zip_alike hxy items)
      refine (Meets.run (hzip.imp fun e f hef => ?_)).map fun ps qs hpq => settle_agree hpq fun as bs hab => .array hab
      obtain ⟨hitem, hmem, hvalue⟩ := hef
      rw [← hitem]
      exact (hi e.1.1 hmem).child (.index e.2) (.index f.2) hvalue
    · exact .some (.fail ..)
  | _ =>
    cases w <;> cases h.kind_eq
    exact wrongKind_meets _ _ _ _ _ _

/-! ## Maps -/

theorem mapEntry_meets (hk : key.OrderBlind) (ha : a.OrderBlind) {e f : (Value × Value) × Nat} (h : EntryAlike e.1 f.1) :
    Meets ctx.mode (Part.Agree EntryAlike) (mapEntry key a ctx e) (mapEntry key a ctx f) := by
  unfold mapEntry
  have hkey := (hk ctx _ _ h.1).map fun p q hpq =>
    (hpq.within (.key "key") (.key "key")).within (.index e.2) (.index f.2)
  have hvalue := (ha ctx _ _ h.2).map fun p q hpq =>
    (hpq.within (.key "value") (.key "value")).within (.index e.2) (.index f.2)
  refine hkey.bind fun k l hkl => ?_
  cases hkl with
  | ok hkl =>
    simp only [Part.issues, stops_nil, Bool.false_eq_true, if_false]
    refine hvalue.map fun x y hxy => ?_
    cases hxy with
    | ok hxy => exact .ok ⟨hkl, hxy⟩
    | error hi hj => exact .error hi hj
  | @error is js hi hj =>
    simp only [Part.issues, stops_of_ne_nil hi, stops_of_ne_nil hj]
    split_ifs
    · exact .some (.error hi hj)
    · exact hvalue.map fun x y _ => .error (by simp [hi]) (by simp [hj])

theorem map_blind (hk : key.OrderBlind) (ha : a.OrderBlind) : (map key a).OrderBlind := by
  intro ctx v w h
  cases v with
  | map es =>
    obtain ⟨fs, rfl, hef⟩ := h.of_map
    refine (Meets.run ((forall₂_zipIdx hef).imp fun e f hef => mapEntry_meets hk ha hef)).map fun ps qs hpq => ?_
    refine settle_agree hpq fun as bs hab => .of_entries (Value.distinctEntries_alike hab)
  | _ =>
    cases w <;> cases h.kind_eq
    exact wrongKind_meets _ _ _ _ _ _

/-! ## Objects -/

/-- runs over members with the same names in two orders, by parts that keep the names -/
theorem reordered_run {part : String × Value → Option (Part (String × Value))} {es fs : List (String × Value)}
    (h : Reordered es fs) (keeps : ∀ e a, part e = some (.ok a) → e.1 = a.1)
    (hpart : ∀ e f, MemberAlike e f → Meets ctx.mode (Part.Agree MemberAlike) (part e) (part f)) :
    Meets ctx.mode (Part.RunsAgree Reordered) (Part.run ctx.mode part es) (Part.run ctx.mode part fs) := by
  have left : ∀ e ∈ es, ∃ f ∈ fs, Meets ctx.mode (Part.Agree MemberAlike) (part e) (part f) := by
    intro e he
    obtain ⟨f, hf, hef⟩ := h.left e he
    exact ⟨f, hf, hpart e f hef⟩
  have right : ∀ f ∈ fs, ∃ e ∈ es, Meets ctx.mode (Part.Agree MemberAlike) (part e) (part f) := by
    intro f hf
    obtain ⟨e, he, hef⟩ := h.right f hf
    exact ⟨e, he, hpart e f hef⟩
  refine (Meets.run_shuffled left right).imp fun ps qs hpq => ?_
  cases hpq with
  | error hps hqs => exact .error hps hqs
  | @ok as bs hlists =>
    obtain ⟨has, hbs⟩ := hlists
    refine .ok ⟨?_, ?_, fun a ha => ?_, fun b hb => ?_⟩
    · rw [← map_eq_of_forall₂ (has.imp fun e a => keeps e a)]
      exact h.nodup
    · rw [← map_eq_of_forall₂ (hbs.imp fun f b => keeps f b)]
      exact h.nodup'
    · obtain ⟨e, he, hea⟩ := exists_left_of_forall₂ has ha
      obtain ⟨f, hf, hmeets⟩ := left e he
      obtain ⟨b, hb, hfb⟩ := exists_right_of_forall₂ hbs hf
      cases (hmeets _ hfb).2 _ hea with
      | ok hab => exact ⟨b, hb, hab⟩
    · obtain ⟨f, hf, hfb⟩ := exists_left_of_forall₂ hbs hb
      obtain ⟨e, he, hmeets⟩ := right f hf
      obtain ⟨a, ha, hea⟩ := exists_right_of_forall₂ has he
      cases (hmeets _ hfb).2 _ hea with
      | ok hab => exact ⟨a, ha, hab⟩

/-- a validator on the value of a member, whose name is kept -/
theorem member_meets (ha : a.OrderBlind) {e f : String × Value} (h : MemberAlike e f) :
    Meets ctx.mode (Part.Agree MemberAlike) ((a.child (.key e.1) ctx e.2).map (Part.map (e.1, ·)))
      ((a.child (.key f.1) ctx f.2).map (Part.map (f.1, ·))) :=
  (ha.child (.key e.1) (.key f.1) h.2).map fun _ _ hpq => hpq.map fun _ _ hvw => ⟨h.1, hvw⟩

theorem member_keeps {e m : String × Value} (h : (a.child (.key e.1) ctx e.2).map (Part.map (e.1, ·)) = some (.ok m)) :
    e.1 = m.1 := by
  obtain ⟨p, -, hp⟩ := Option.map_eq_some_iff.1 h
  cases p with
  | ok w =>
    cases hp
    rfl
  | error issues => cases hp

/-- a record without a validator of names -/
theorem record_blind (ha : a.OrderBlind) : (record none a).OrderBlind := by
  intro ctx v w h
  cases v with
  | object o =>
    obtain ⟨o', rfl, -⟩ := h.of_object
    have hentry (e : String × Value) : recordEntry none a ctx e =
        if Key.isDangerous e.1 then some (.error [refusedKey ctx e.1 []])
        else (a.child (.key e.1) ctx e.2).map (Part.map (e.1, ·)) := by
      unfold recordEntry recordKey
      split_ifs <;> rfl
    have hout : ∀ es fs, Reordered es fs → (Value.object (Object.ofList es)).Alike (.object (Object.ofList fs)) :=
      fun es fs hef => hef.membersAlike.object
    refine (reordered_run (.of_alike h) (fun e m hm => ?_) fun e f hef => ?_).map fun ps qs hpq => settle_agree hpq hout
    · rw [hentry] at hm
      split_ifs at hm
      · cases hm
      · exact member_keeps hm
    · have hdangerous : Key.isDangerous e.1 = Key.isDangerous f.1 := congrArg Key.isDangerous hef.1
      rw [hentry, hentry, hdangerous]
      split_ifs
      · exact .some (.error (List.cons_ne_nil _ _) (List.cons_ne_nil _ _))
      · exact member_meets ha hef
  | _ =>
    cases w <;> cases h.kind_eq
    exact wrongKind_meets _ _ _ _ _ _

theorem keepExtras_meets {unknown : UnknownKeys Validator} (hu : ∀ a ∈ unknown.parts, a.OrderBlind)
    {es fs : List (String × Value)} (h : Reordered es fs) :
    Meets ctx.mode (Part.RunsAgree Reordered) (keepExtras unknown ctx es) (keepExtras unknown ctx fs) := by
  have hsafe := h.filter fun name => !Key.isDangerous name
  cases unknown with
  | strip => exact .some (@Part.RunsAgree.ok _ _ Reordered [] [] .nil)
  | strict =>
    simp only [keepExtras, h.isEmpty_eq]
    split_ifs
    · exact .some (@Part.RunsAgree.ok _ _ Reordered [] [] .nil)
    · exact .some (.error (by simp [Part.issues]) (by simp [Part.issues]))
  | passthrough => exact .some (.ok hsafe)
  | catchall a =>
    exact reordered_run hsafe (fun e m => member_keeps) fun e f => member_meets (hu a (List.mem_singleton_self a))

theorem field_meets {f : String × Validator} (hf : f.2.OrderBlind) {o o' : Object Value}
    (h : (Value.object o).Alike (.object o')) :
    Meets ctx.mode (Part.Agree (Option.Rel MemberAlike)) (field ctx o f) (field ctx o' f) := by
  have hcontains : o.contains f.1 = o'.contains f.1 := by
    rw [Bool.eq_iff_iff, Object.contains_iff, Object.contains_iff]
    exact Value.names_iff_of_alike h f.1
  refine (hf.child (.key f.1) (.key f.1) (h.getD f.1)).map fun p q hpq => hpq.map fun v w hvw => ?_
  rw [hcontains, hvw.isUndefined_eq]
  split_ifs
  · exact .some ⟨rfl, hvw⟩
  · exact .none

/-- the members that fields give, in the order of the fields -/
theorem kept_alike {ms ms' : List (Option (String × Value))} (h : List.Forall₂ (Option.Rel MemberAlike) ms ms') :
    List.Forall₂ MemberAlike (ms.filterMap id) (ms'.filterMap id) := by
  induction h with
  | nil => exact .nil
  | cons hm _ ih =>
    cases hm with
    | none => exact ih
    | some hm => exact .cons hm ih

theorem object_blind {fields : List (String × Validator)} (hf : ∀ f ∈ fields, f.2.OrderBlind)
    {unknown : UnknownKeys Validator} (hu : ∀ a ∈ unknown.parts, a.OrderBlind) : (object fields unknown).OrderBlind := by
  intro ctx v w h
  cases v with
  | object o =>
    obtain ⟨o', rfl, -⟩ := h.of_object
    have hknown : Meets ctx.mode (Part.RunsAgree (List.Forall₂ (Option.Rel MemberAlike)))
        (Part.run ctx.mode (field ctx o) fields) (Part.run ctx.mode (field ctx o') fields) :=
      Meets.run (List.forall₂_same.2 fun f hmem => field_meets (hf f hmem) h)
    have hextras : Reordered (extras fields o) (extras fields o') :=
      (Reordered.of_alike h).filter fun name => !(fields.map Prod.fst).contains name
    refine hknown.bind fun known known' hknown => ?_
    cases hknown with
    | @ok ms ms' hms =>
      simp only [Part.allIssues_map_ok, stops_nil, Bool.false_eq_true, if_false, List.nil_append]
      refine (keepExtras_meets hu hextras).map fun ps qs hpq => ?_
      simp only [Part.values_map_ok]
      refine settle_agree hpq (f := fun es => .object (Object.ofList (ms.filterMap id ++ es)))
        (g := fun es => .object (Object.ofList (ms'.filterMap id ++ es))) fun es fs hef => ?_
      exact ((MembersAlike.of_forall₂ (kept_alike hms)).append hef.membersAlike).object
    | error hps hqs =>
      simp only [stops_of_ne_nil hps, stops_of_ne_nil hqs]
      split_ifs
      · exact .some (.error hps hqs)
      · refine (keepExtras_meets hu hextras).map fun ps qs _ => ?_
        rw [settle_of_ne_nil (by simp [hps]), settle_of_ne_nil (by simp [hqs])]
        exact .error (by simp [hps]) (by simp [hqs])
  | _ =>
    cases w <;> cases h.kind_eq
    exact wrongKind_meets _ _ _ _ _ _

end Combinators

end Validator

end ValueSchema
