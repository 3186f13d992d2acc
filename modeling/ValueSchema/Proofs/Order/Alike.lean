import ValueSchema.Proofs.Leaf.Reading
import ValueSchema.Proofs.Value.Same

/-!
Values that differ only by the order of members.

Two values are alike if one becomes the other by reordering the members of objects, at any depth: inside arrays, sets,
maps and the keys of maps. The order of everything else counts, and numbers and symbols have to be equal.

Results:
- `alike_object_iff_perm`: objects are alike if the members of one, in some other order, are alike to those of the other.
- `Alike.symm`: being alike goes both ways.
- `Alike.same`, `same_congr`: alike values are the same, and sameness does not tell them apart.
- `Alike.toText?_eq`, …: neither do readings.
-/

namespace ValueSchema

namespace Value

/-- the values differ at most by the order of the members of objects, at any depth -/
inductive Alike : Value → Value → Prop
  | refl (v : Value) : Alike v v
  | array {xs ys : List Value} : List.Forall₂ Alike xs ys → Alike (.array xs) (.array ys)
  | set {xs ys : List Value} : List.Forall₂ Alike xs ys → Alike (.set xs) (.set ys)
  | map {es fs : List (Value × Value)} :
    List.Forall₂ Alike (es.map Prod.fst) (fs.map Prod.fst) → List.Forall₂ Alike (es.map Prod.snd) (fs.map Prod.snd) →
      Alike (.map es) (.map fs)
  | object {a b : Object Value} : (∀ name, Option.Rel Alike (a.get? name) (b.get? name)) → Alike (.object a) (.object b)

variable {v w : Value}

/-! ## Collections -/

theorem forall₂_alike_refl (xs : List Value) : List.Forall₂ Alike xs xs := List.forall₂_same.2 fun x _ => .refl x

theorem optionRel_alike_refl (x : Option Value) : Option.Rel Alike x x := by
  cases x with
  | none => exact .none
  | some x => exact .some (.refl x)

theorem Alike.of_array {xs : List Value} (h : (Value.array xs).Alike w) : ∃ ys, w = Value.array ys ∧ List.Forall₂ Alike xs ys := by
  cases h with
  | refl => exact ⟨xs, rfl, forall₂_alike_refl xs⟩
  | array h => exact ⟨_, rfl, h⟩

theorem Alike.of_set {xs : List Value} (h : (Value.set xs).Alike w) : ∃ ys, w = Value.set ys ∧ List.Forall₂ Alike xs ys := by
  cases h with
  | refl => exact ⟨xs, rfl, forall₂_alike_refl xs⟩
  | set h => exact ⟨_, rfl, h⟩

/-- members of one name with alike values -/
def MemberAlike (e f : String × Value) : Prop := e.1 = f.1 ∧ e.2.Alike f.2

/-- entries of maps with alike keys and alike values -/
def EntryAlike (e f : Value × Value) : Prop := e.1.Alike f.1 ∧ e.2.Alike f.2

theorem Alike.of_map {es : List (Value × Value)} (h : (Value.map es).Alike w) :
    ∃ fs, w = Value.map fs ∧ List.Forall₂ EntryAlike es fs := by
  cases h with
  | refl => exact ⟨es, rfl, List.forall₂_same.2 fun e _ => ⟨.refl e.1, .refl e.2⟩⟩
  | map hkeys hvalues =>
    rw [List.forall₂_map_left_iff, List.forall₂_map_right_iff] at hkeys hvalues
    exact ⟨_, rfl, forall₂_and hkeys hvalues⟩

theorem Alike.of_entries {es fs : List (Value × Value)} (h : List.Forall₂ EntryAlike es fs) : (Value.map es).Alike (Value.map fs) := by
  refine .map ?_ ?_ <;> rw [List.forall₂_map_left_iff, List.forall₂_map_right_iff]
  · exact h.imp fun _ _ hef => hef.1
  · exact h.imp fun _ _ hef => hef.2

theorem Alike.of_object {a : Object Value} (h : (Value.object a).Alike w) :
    ∃ b, w = Value.object b ∧ ∀ name, Option.Rel Alike (a.get? name) (b.get? name) := by
  cases h with
  | refl => exact ⟨a, rfl, fun name => optionRel_alike_refl _⟩
  | object h => exact ⟨_, rfl, h⟩

/-- what alike objects hold under one name -/
theorem Alike.get? {a b : Object Value} (h : (Value.object a).Alike (Value.object b)) (name : String) :
    Option.Rel Alike (a.get? name) (b.get? name) := by
  obtain ⟨b', hb, hname⟩ := h.of_object
  cases hb
  exact hname name

/-- the same, absence standing for a missing member -/
theorem Alike.getD {a b : Object Value} (h : (Value.object a).Alike (Value.object b)) (name : String) :
    ((a.get? name).getD .undefined).Alike ((b.get? name).getD .undefined) := by
  have hname := h.get? name
  generalize a.get? name = x at hname
  generalize b.get? name = y at hname
  cases hname with
  | none => exact .refl _
  | some hxy => exact hxy

theorem Alike.kind_eq (h : v.Alike w) : v.kind = w.kind := by
  cases h <;> rfl

/-! ## Both ways -/

theorem Alike.symm (h : v.Alike w) : w.Alike v := by
  induction v using height_induction generalizing w with
  | step v ih =>
    cases h with
    | refl => exact .refl v
    | array hxy =>
      have hyx := forall₂_imp_of_mem (fun x hx y hxy => ih x (height_lt_array hx) hxy) hxy
      exact .array hyx.flip
    | set hxy =>
      have hyx := forall₂_imp_of_mem (fun x hx y hxy => ih x (height_lt_set hx) hxy) hxy
      exact .set hyx.flip
    | @map es fs hkeys hvalues =>
      have hkeys' := forall₂_imp_of_mem (S := fun k l => l.Alike k) (fun k hk l hkl => by
        obtain ⟨e, he, rfl⟩ := List.mem_map.1 hk
        exact ih e.1 (height_lt_map he).1 hkl) hkeys
      have hvalues' := forall₂_imp_of_mem (S := fun x y => y.Alike x) (fun x hx y hxy => by
        obtain ⟨e, he, rfl⟩ := List.mem_map.1 hx
        exact ih e.2 (height_lt_map he).2 hxy) hvalues
      exact .map hkeys'.flip hvalues'.flip
    | object hab =>
      refine .object fun name => ?_
      have hname := optionRel_imp_of_mem (S := fun x y => y.Alike x)
        (fun x hx y hxy => ih x (height_lt_of_get? hx) hxy) (hab name)
      exact optionRel_flip hname

/-- a member of an object has an alike member under the same name in an alike object -/
theorem exists_member_of_alike {a b : Object Value} (h : (object a).Alike (object b)) {e : String × Value}
    (he : e ∈ a.toList) : ∃ f ∈ b.toList, MemberAlike e f := by
  have hname := h.get? e.1
  rw [Object.get?_eq_some_iff.2 he] at hname
  obtain ⟨y, hy, hxy⟩ := optionRel_some_left hname
  exact ⟨(e.1, y), Object.get?_eq_some_iff.1 hy, rfl, hxy⟩

theorem names_iff_of_alike {a b : Object Value} (h : (object a).Alike (object b)) (name : String) :
    name ∈ a.names ↔ name ∈ b.names := by
  constructor
  · intro hname
    obtain ⟨x, hx⟩ := Object.mem_names_iff.1 hname
    obtain ⟨f, hf, rfl, -⟩ := exists_member_of_alike h hx
    exact Object.mem_names_iff.2 ⟨f.2, hf⟩
  · intro hname
    obtain ⟨x, hx⟩ := Object.mem_names_iff.1 hname
    obtain ⟨f, hf, rfl, -⟩ := exists_member_of_alike h.symm hx
    exact Object.mem_names_iff.2 ⟨f.2, hf⟩

/-- **Objects are alike up to order**: the members of one, in some order, have the names of the other and alike values. -/
theorem alike_object_iff_perm {a b : Object Value} :
    (object a).Alike (object b) ↔
      ∃ es, a.toList.Perm es ∧ List.Forall₂ MemberAlike es b.toList := by
  constructor
  · intro h
    -- the members of the first object in the order of the second one
    refine ⟨b.toList.map fun f => (f.1, (a.get? f.1).getD .undefined), ?_, ?_⟩
    · have hnodup : ((b.toList.map fun f => (f.1, (a.get? f.1).getD .undefined)).map Prod.fst).Nodup := by
        rw [List.map_map]
        exact b.nodup_toList
      refine (List.perm_ext_iff_of_nodup a.nodup_toList.of_map hnodup.of_map).2 fun e => ?_
      constructor
      · intro he
        obtain ⟨f, hf, hname, -⟩ := exists_member_of_alike h he
        refine List.mem_map.2 ⟨f, hf, ?_⟩
        rw [← hname, Object.get?_eq_some_iff.2 he, Option.getD_some]
      · intro he
        obtain ⟨f, hf, rfl⟩ := List.mem_map.1 he
        obtain ⟨x, hx⟩ := Object.mem_names_iff.1 ((names_iff_of_alike h f.1).2 (Object.mem_names_iff.2 ⟨f.2, hf⟩))
        rw [Object.get?_eq_some_iff.2 hx, Option.getD_some]
        exact hx
    · rw [List.forall₂_map_left_iff, List.forall₂_same]
      intro f hf
      obtain ⟨e, he, hname, hfe⟩ := exists_member_of_alike h.symm hf
      rw [hname, Object.get?_eq_some_iff.2 he, Option.getD_some]
      exact ⟨hname.symm, hfe.symm⟩
  · rintro ⟨es, hperm, hstep⟩
    refine .object fun name => ?_
    cases ha : a.get? name with
    | some x =>
      have hmem : (name, x) ∈ es := hperm.mem_iff.1 (Object.get?_eq_some_iff.1 ha)
      obtain ⟨f, hf, rfl, hxf⟩ := exists_right_of_forall₂ hstep hmem
      rw [Object.get?_eq_some_iff.2 hf]
      exact .some hxf
    | none =>
      cases hb : b.get? name with
      | none => exact .none
      | some y =>
        obtain ⟨e, he, rfl, -⟩ := exists_left_of_forall₂ hstep (Object.get?_eq_some_iff.1 hb)
        rw [Object.get?_eq_some_iff.2 (hperm.mem_iff.2 he)] at ha
        cases ha

/-! ## Sameness -/

theorem Alike.same (h : v.Alike w) : v.same w = true := by
  induction v using height_induction generalizing w with
  | step v ih =>
    cases h with
    | refl => exact same_refl v
    | array hxy => exact array_same_iff.2 (forall₂_imp_of_mem (fun x hx y hxy => ih x (height_lt_array hx) hxy) hxy)
    | set hxy => exact set_same_iff.2 (forall₂_imp_of_mem (fun x hx y hxy => ih x (height_lt_set hx) hxy) hxy)
    | map hkeys hvalues =>
      obtain ⟨fs, hfs, hentries⟩ := (Alike.map hkeys hvalues).of_map
      cases hfs
      refine map_same_iff.2 (forall₂_imp_of_mem (fun e he f hef => ?_) hentries)
      exact ⟨ih e.1 (height_lt_map he).1 hef.1, ih e.2 (height_lt_map he).2 hef.2⟩
    | object hab =>
      refine object_same_iff.2 fun name => ?_
      exact optionRel_imp_of_mem (fun x hx y hxy => ih x (height_lt_of_get? hx) hxy) (hab name)

/-- sameness does not tell alike values apart -/
theorem same_congr {v' w' : Value} (hv : v.Alike v') (hw : w.Alike w') : v.same w = v'.same w' := by
  rw [Bool.eq_iff_iff]
  constructor
  · exact fun h => same_trans hv.symm.same (same_trans h hw.same)
  · exact fun h => same_trans hv.same (same_trans h hw.symm.same)

/-! ## Readings -/

theorem Alike.typeName_eq (h : v.Alike w) : v.typeName = w.typeName := by
  cases h <;> rfl

theorem Alike.isUndefined_eq (h : v.Alike w) : v.isUndefined = w.isUndefined := by
  cases h <;> rfl

theorem Alike.isNull_eq (h : v.Alike w) : v.isNull = w.isNull := by
  cases h <;> rfl

theorem Alike.text?_eq (h : v.Alike w) : v.text? = w.text? := by
  cases h <;> rfl

theorem Alike.number?_eq (h : v.Alike w) : v.number? = w.number? ∧ v.toNumber? = w.toNumber? := by
  cases h <;> exact ⟨rfl, rfl⟩

theorem Alike.bigint?_eq (h : v.Alike w) : v.bigint? = w.bigint? ∧ v.toBigInt? = w.toBigInt? := by
  cases h <;> exact ⟨rfl, rfl⟩

theorem Alike.bool?_eq (h : v.Alike w) : v.bool? = w.bool? ∧ v.toBool? = w.toBool? := by
  cases h <;> exact ⟨rfl, rfl⟩

theorem Alike.readDate_eq (h : v.Alike w) : v.readDate = w.readDate := by
  cases h <;> rfl

theorem itemTexts_eq {xs ys : List Value} (h : List.Forall₂ (fun x y => x.toText? = y.toText?) xs ys) :
    itemTexts xs = itemTexts ys := by
  induction h with
  | nil => rfl
  | cons hxy _ ih => rw [itemTexts, itemTexts, hxy, ih]

/-- arrays are written item by item, objects all in one way -/
theorem Alike.toText?_eq (h : v.Alike w) : v.toText? = w.toText? := by
  induction v using height_induction generalizing w with
  | step v ih =>
    cases h with
    | array hxy =>
      rw [toText?, toText?, itemTexts_eq (forall₂_imp_of_mem (fun x hx y hxy => ih x (height_lt_array hx) hxy) hxy)]
    | _ => rfl

end Value

end ValueSchema
