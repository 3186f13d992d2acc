import ValueSchema.Proofs.Budget.Suffices
import ValueSchema.Proofs.Intersection
import ValueSchema.Proofs.Value.WellFormed

/-!
Merges level by level.

Two objects always merge. Their merge has the safe names of the left object and then the safe names that only the right
one has; a name of both holds the merge of two objects, and otherwise what the right one holds. Arrays of one length merge
place by place, and so only if they do at every place. Anything else merges only if the two are the same, into the left
one. A value without dangerous names merges with itself into itself.

Results:
- `merge_eq_none_iff`: what does not merge.
- `merge_objects`, `merge_arrays`, `merge_others`: what the others merge into.
- `SafelyNamed.merge_self`: a value with itself.
- `merges_level_by_level`: all of it, and what it says of a schema intersected with itself.
-/

namespace ValueSchema

namespace Value

variable {u v w : Value}

/-! ## What does not merge -/

/-- two arrays with as many items -/
def ArraysInStep (v w : Value) : Prop := ∃ xs ys, v = .array xs ∧ w = .array ys ∧ xs.length = ys.length

/-- an object and something else, arrays in step with a place that does not merge, or other values that are not the same -/
def Clash (v w : Value) : Prop :=
  (v.kind = .object ∧ w.kind ≠ .object ∨ v.kind ≠ .object ∧ w.kind = .object) ∨
  (∃ xs ys, v = .array xs ∧ w = .array ys ∧ xs.length = ys.length ∧
    ∃ (position : Nat) (x y : Value), xs[position]? = some x ∧ ys[position]? = some y ∧ x.merge y = none) ∨
  (v.kind ≠ .object ∧ w.kind ≠ .object ∧ ¬ ArraysInStep v w ∧ v.same w = false)

theorem mergeItems_eq_none_iff {xs ys : List Value} (hlen : xs.length = ys.length) :
    mergeItems xs ys = none ↔ ∃ e ∈ xs.zip ys, e.1.merge e.2 = none := by
  induction xs generalizing ys with
  | nil =>
    obtain rfl : ys = [] := List.length_eq_zero_iff.1 hlen.symm
    simp [mergeItems]
  | cons x xs ih =>
    cases ys with
    | nil => cases hlen
    | cons y ys =>
      have hrest := ih (Nat.succ.inj hlen)
      rw [List.zip_cons_cons, List.exists_mem_cons_iff, ← hrest, mergeItems]
      cases x.merge y with
      | none => simp
      | some z => cases mergeItems xs ys <;> simp

/-- arrays in step do not merge exactly if they do not at some place -/
theorem merge_arrays_eq_none_iff {xs ys : List Value} (hlen : xs.length = ys.length) :
    (array xs).merge (array ys) = none ↔
      ∃ (position : Nat) (x y : Value), xs[position]? = some x ∧ ys[position]? = some y ∧ x.merge y = none := by
  rw [merge, Option.map_eq_none_iff, mergeItems_eq_none_iff hlen]
  constructor
  · rintro ⟨⟨x, y⟩, he, hnone⟩
    obtain ⟨position, hposition⟩ := List.mem_iff_getElem?.1 he
    obtain ⟨hx, hy⟩ := List.getElem?_zip_eq_some.1 hposition
    exact ⟨position, x, y, hx, hy, hnone⟩
  · rintro ⟨position, x, y, hx, hy, hnone⟩
    exact ⟨(x, y), List.mem_iff_getElem?.2 ⟨position, List.getElem?_zip_eq_some.2 ⟨hx, hy⟩⟩, hnone⟩

/-- arrays of different lengths neither merge nor are the same -/
theorem merge_arrays_of_length_ne {xs ys : List Value} (hlen : xs.length ≠ ys.length) :
    (array xs).merge (array ys) = none ∧ (array xs).same (array ys) = false := by
  constructor
  · rw [merge, Option.map_eq_none_iff, Option.eq_none_iff_forall_not_mem]
    exact fun zs hzs => hlen (forall₂_of_mergeItems hzs).1
  · rw [Bool.eq_false_iff]
    exact fun hsame => hlen (array_same_iff.1 hsame).length_eq

/-- apart from objects and arrays in step, values merge only if they are the same, into the left one -/
theorem merge_others (hv : v.kind ≠ .object) (hw : w.kind ≠ .object) (hstep : ¬ ArraysInStep v w) :
    v.merge w = if v.same w then some v else none := by
  by_cases harrays : v.kind = .array ∧ w.kind = .array
  · obtain ⟨xs, rfl⟩ := kind_eq_array_iff.1 harrays.1
    obtain ⟨ys, rfl⟩ := kind_eq_array_iff.1 harrays.2
    obtain ⟨hmerge, hsame⟩ := merge_arrays_of_length_ne fun hlen => hstep ⟨xs, ys, rfl, rfl, hlen⟩
    rw [hmerge, hsame, if_neg Bool.false_ne_true]
  · exact merge_eq_left hv hw harrays

/-- **Values that clash do not merge, and all others do.** -/
theorem merge_eq_none_iff (v w : Value) : v.merge w = none ↔ v.Clash w := by
  constructor
  · intro h
    by_cases hv : v.kind = .object <;> by_cases hw : w.kind = .object
    · obtain ⟨a, rfl⟩ := kind_eq_object_iff.1 hv
      obtain ⟨b, rfl⟩ := kind_eq_object_iff.1 hw
      cases h
    · exact .inl (.inl ⟨hv, hw⟩)
    · exact .inl (.inr ⟨hv, hw⟩)
    · by_cases hstep : ArraysInStep v w
      · obtain ⟨xs, ys, rfl, rfl, hlen⟩ := hstep
        exact .inr (.inl ⟨xs, ys, rfl, rfl, hlen, (merge_arrays_eq_none_iff hlen).1 h⟩)
      · rw [merge_others hv hw hstep] at h
        exact .inr (.inr ⟨hv, hw, hstep, by simpa using h⟩)
  · rintro (h | ⟨xs, ys, rfl, rfl, hlen, hplace⟩ | ⟨hv, hw, hstep, hsame⟩)
    · exact merge_eq_none h
    · exact (merge_arrays_eq_none_iff hlen).2 hplace
    · rw [merge_others hv hw hstep, hsame, if_neg Bool.false_ne_true]

/-! ## What the others merge into -/

/-- what a merge holds under a name, from what the left and the right object hold there -/
def mergedMember : Option Value → Option Value → Option Value
  | some (.object a), some (.object b) => (Value.object a).merge (.object b)
  | _, some w => some w
  | x, none => x

/-- the right value wins, except over an object with which it merges -/
theorem mergedMember_some (v w : Value) : mergedMember (some v) (some w) = some (v.overlay w) := by
  by_cases hobjects : v.kind = .object ∧ w.kind = .object
  · obtain ⟨a, rfl⟩ := kind_eq_object_iff.1 hobjects.1
    obtain ⟨b, rfl⟩ := kind_eq_object_iff.1 hobjects.2
    rfl
  · rw [overlay_eq_right hobjects]
    cases v with
    | object a =>
      cases w with
      | object b => exact absurd ⟨rfl, rfl⟩ hobjects
      | _ => rfl
    | _ => rfl

theorem names_overlaid (a b : Object Value) :
    (Object.overlaid a b).names = (a.names.filter fun name => !Key.isDangerous name) ++
      b.names.filter fun name => !a.names.contains name && !Key.isDangerous name := by
  simp only [← Object.map_fst_toList, Object.toList_overlaid, List.map_append, List.map_map, List.filter_map]
  rfl

theorem get?_overlaid_eq {a b : Object Value} {name : String} (h : name ∈ (Object.overlaid a b).names) :
    (Object.overlaid a b).get? name = mergedMember (a.get? name) (b.get? name) := by
  have hsafe := Object.safe_of_mem_overlaid h
  cases ha : a.get? name with
  | none =>
    rw [Object.get?_overlaid_right hsafe ha]
    cases b.get? name <;> rfl
  | some v =>
    cases hb : b.get? name with
    | none =>
      rw [Object.get?_overlaid_left hsafe ha hb]
      cases v <;> rfl
    | some w => rw [Object.get?_overlaid hsafe ha hb, mergedMember_some]

/-- the members of a merge of two objects: names in their order, and what stands under each -/
structure MembersMerged (a b o : Object Value) : Prop where
  names : o.names = (a.names.filter fun name => !Key.isDangerous name) ++
    b.names.filter fun name => !a.names.contains name && !Key.isDangerous name
  members : ∀ name ∈ o.names, o.get? name = mergedMember (a.get? name) (b.get? name)

/-- the items of a merge of two arrays -/
structure ItemsMerged (xs ys zs : List Value) : Prop where
  length : zs.length = xs.length
  items : ∀ (position : Nat) (x y : Value), xs[position]? = some x → ys[position]? = some y →
    ∃ z, zs[position]? = some z ∧ x.merge y = some z

/-- **Two objects always merge**, name by name. -/
theorem merge_objects (a b : Object Value) :
    ∃ o, (object a).merge (object b) = some (object o) ∧ MembersMerged a b o := by
  refine ⟨Object.overlaid a b, ?_, names_overlaid a b, fun name => get?_overlaid_eq⟩
  rw [merge, Object.overlay_object]

/-- **Arrays in step merge place by place.** -/
theorem merge_arrays {xs ys : List Value} (h : (array xs).merge (array ys) = some u) :
    ∃ zs, u = array zs ∧ ItemsMerged xs ys zs := by
  obtain ⟨zs, hzs, rfl⟩ := Option.map_eq_some_iff.1 h
  obtain ⟨hlen, hitems⟩ := forall₂_of_mergeItems hzs
  refine ⟨zs, rfl, ?_, fun position x y => mergeItems_getElem? hzs⟩
  rw [← hitems.length_eq, List.length_zip, ← hlen, Nat.min_self]

/-- what a merge is, level by level -/
structure MergedByLevel (v w : Value) : Prop where
  fails : v.merge w = none ↔ v.Clash w
  objects : ∀ a b, v = .object a → w = .object b → ∃ o, v.merge w = some (.object o) ∧ MembersMerged a b o
  arrays : ∀ xs ys u, v = .array xs → w = .array ys → xs.length = ys.length → v.merge w = some u →
    ∃ zs, u = .array zs ∧ ItemsMerged xs ys zs
  others : ∀ u, v.kind ≠ .object → w.kind ≠ .object → ¬ ArraysInStep v w → v.merge w = some u → u = v

theorem mergedByLevel (v w : Value) : MergedByLevel v w where
  fails := merge_eq_none_iff v w
  objects := by
    rintro a b rfl rfl
    exact merge_objects a b
  arrays := by
    rintro xs ys u rfl rfl - h
    exact merge_arrays h
  others := by
    intro u hv hw hstep h
    rw [merge_others hv hw hstep] at h
    split_ifs at h
    exact (Option.some.inj h).symm

/-! ## A value with itself -/

/-- no object has a dangerous name, at any depth -/
inductive SafelyNamed : Value → Prop
  | intro {v : Value} : (∀ o, v = .object o → ∀ name ∈ o.names, Key.isDangerous name = false) →
    (∀ u ∈ v.parts, SafelyNamed u) → SafelyNamed v

theorem SafelyNamed.names {o : Object Value} : (object o).SafelyNamed → ∀ name ∈ o.names, Key.isDangerous name = false
  | .intro h _ => h o rfl

theorem SafelyNamed.parts : v.SafelyNamed → ∀ u ∈ v.parts, u.SafelyNamed
  | .intro _ h => h

theorem SafelyNamed.members {o : Object Value} (h : (object o).SafelyNamed) {e : String × Value} (he : e ∈ o.toList) :
    e.2.SafelyNamed := h.parts e.2 (List.mem_map_of_mem he)

/-- members that stay as they are when laid over themselves -/
theorem overlaid_self {o : Object Value} (hnames : ∀ name ∈ o.names, Key.isDangerous name = false)
    (hmembers : ∀ e ∈ o.toList, e.2.overlay e.2 = e.2) : Object.overlaid o o = o := by
  have hleft : (o.toList.filter fun e => !Key.isDangerous e.1) = o.toList := by
    refine List.filter_eq_self.2 fun e he => ?_
    rw [hnames e.1 (Object.mem_names_iff.2 ⟨e.2, he⟩), Bool.not_false]
  have hright : (o.toList.filter fun e => !o.names.contains e.1 && !Key.isDangerous e.1) = [] := by
    refine List.filter_eq_nil_iff.2 fun e he => ?_
    have hmem : e.1 ∈ o.names := Object.mem_names_iff.2 ⟨e.2, he⟩
    simp [hmem]
  refine Object.ext_toList ?_
  rw [Object.toList_overlaid, hleft, hright, List.append_nil]
  refine List.map_congr_left (g := id) ?_ |>.trans (List.map_id _)
  intro e he
  rw [Object.get?_eq_some_iff.2 he]
  exact Prod.ext rfl (hmembers e he)

theorem SafelyNamed.overlay_self (h : v.SafelyNamed) : v.overlay v = v := by
  induction v using height_induction with
  | step v ih =>
    by_cases hobject : v.kind = .object
    · obtain ⟨o, rfl⟩ := kind_eq_object_iff.1 hobject
      rw [Object.overlay_object, overlaid_self h.names fun e he => ih e.2 (height_lt_object he) (h.members he)]
    · exact overlay_eq_right fun hobjects => hobject hobjects.1

theorem mergeItems_self {xs : List Value} (h : ∀ x ∈ xs, x.merge x = some x) : mergeItems xs xs = some xs := by
  induction xs with
  | nil => rfl
  | cons x xs ih =>
    obtain ⟨hx, hxs⟩ := List.forall_mem_cons.1 h
    rw [mergeItems, hx, ih hxs]

/-- **A value without dangerous names merges with itself into itself.** -/
theorem SafelyNamed.merge_self (h : v.SafelyNamed) : v.merge v = some v := by
  induction v using height_induction with
  | step v ih =>
    by_cases hobject : v.kind = .object
    · obtain ⟨o, rfl⟩ := kind_eq_object_iff.1 hobject
      rw [merge, h.overlay_self]
    · by_cases harray : v.kind = .array
      · obtain ⟨xs, rfl⟩ := kind_eq_array_iff.1 harray
        have hitems : ∀ x ∈ xs, x.merge x = some x := fun x hx => ih x (height_lt_array hx) (h.parts x hx)
        rw [merge, mergeItems_self hitems, Option.map_some]
      · rw [merge_eq_left hobject hobject fun harrays => harray harrays.1, if_pos (same_refl v)]

end Value

/-! ## Intersections -/

namespace Schema

theorem run_intersection_self {defs : Definitions} {n : Nat} {ctx : Context} {s : Schema} {v w : Value}
    (hw : w.SafelyNamed) (h : s.run defs n ctx v = some (.ok w)) :
    (Schema.intersection s s).run defs n ctx v = some (.ok w) := by
  rw [run_eq] at h
  rw [run_eq, validator, Validator.intersection_of_ok h h, hw.merge_self]

/-- **Merges are made level by level.** Values that clash do not merge. Two objects merge name by name and arrays of one
length place by place; anything else merges into the left value. So a value without dangerous names merges with itself
into itself, and a schema whose output has no dangerous name answers the same when it is intersected with itself. -/
theorem merges_level_by_level :
    (∀ v w, Value.MergedByLevel v w) ∧
      (∀ v : Value, v.SafelyNamed → v.merge v = some v) ∧
      ∀ (defs : Definitions) (ctx : Context) (s : Schema) (v w : Value), w.SafelyNamed →
        (∀ n, s.run defs n ctx v = some (.ok w) → (Schema.intersection s s).run defs n ctx v = some (.ok w)) ∧
        (s.validate defs ctx v = some (.ok w) → (Schema.intersection s s).validate defs ctx v = some (.ok w)) := by
  refine ⟨Value.mergedByLevel, fun v hv => hv.merge_self, fun defs ctx s v w hw => ⟨fun n => ?_, ?_⟩⟩
  · exact run_intersection_self hw
  · intro h
    obtain ⟨n, hn⟩ := validate_eq_some_iff.1 h
    exact validate_eq_of_run (run_intersection_self hw hn)

/-- an array with an object in it, merged with itself and put out by a schema intersected with itself -/
theorem nested_member_merges_with_itself :
    (Value.array [.object (Object.ofList [("a", .null)])]).SafelyNamed ∧
      (Value.array [.object (Object.ofList [("a", .null)])]).merge (.array [.object (Object.ofList [("a", .null)])]) =
        some (.array [.object (Object.ofList [("a", .null)])]) ∧
      (Schema.intersection (.leaf .any) (.leaf .any)).validate [] ⟨Catalog.english, .collect⟩
          (.array [.object (Object.ofList [("a", .null)])]) =
        some (.ok (.array [.object (Object.ofList [("a", .null)])])) := by
  have hnull : Value.null.SafelyNamed := .intro nofun nofun
  have hitem : (Value.object (Object.ofList [("a", .null)])).SafelyNamed := by
    refine .intro ?_ fun u hu => ?_
    · rintro o ho
      cases ho
      decide
    · obtain rfl := List.mem_singleton.1 hu
      exact hnull
  have harray : (Value.array [.object (Object.ofList [("a", .null)])]).SafelyNamed := by
    refine .intro nofun fun u hu => ?_
    obtain rfl := List.mem_singleton.1 hu
    exact hitem
  obtain ⟨-, hself, hschemas⟩ := merges_level_by_level
  exact ⟨harray, hself _ harray, (hschemas [] ⟨Catalog.english, .collect⟩ (.leaf .any) _ _ harray).2
    (validate_eq_of_run (n := 0) rfl)⟩

end Schema

end ValueSchema
