import ValueSchema.Proofs.Order.Alike
import ValueSchema.Proofs.Value.Merge

/-!
What is built of alike parts is alike.

Results:
- `MembersAlike.object`: objects built from entries of which the last ones of each name are alike.
- `Reordered.membersAlike`: entries with distinct names in two orders are of that kind.
- `distinct_alike`, `distinctEntries_alike`: sets and maps built from elements and entries in step.
- `merge_alike`: merges of alike values.
-/

namespace ValueSchema.Value

/-! ## Objects -/

/-- the last entries of each name have alike values, or there are none in both lists -/
def MembersAlike (es fs : List (String × Value)) : Prop :=
  ∀ name, Option.Rel Alike (es.reverse.lookup name) (fs.reverse.lookup name)

namespace MembersAlike

variable {es fs es' fs' : List (String × Value)}

/-- objects built from such entries are alike -/
theorem object (h : MembersAlike es fs) : (Value.object (Object.ofList es)).Alike (.object (Object.ofList fs)) := by
  refine .object fun name => ?_
  rw [Object.get?_ofList, Object.get?_ofList]
  exact h name

theorem nil : MembersAlike [] [] := fun _ => .none

theorem append (h : MembersAlike es fs) (h' : MembersAlike es' fs') : MembersAlike (es ++ es') (fs ++ fs') := by
  intro name
  have hlast := h' name
  rw [List.reverse_append, List.reverse_append, List.lookup_append, List.lookup_append]
  generalize es'.reverse.lookup name = x at hlast
  generalize fs'.reverse.lookup name = y at hlast
  cases hlast with
  | none => exact h name
  | some hxy => exact .some hxy

/-- entries in step -/
theorem of_forall₂ (h : List.Forall₂ MemberAlike es fs) : MembersAlike es fs := by
  induction h with
  | nil => exact nil
  | @cons e f es fs hef _ ih =>
    obtain ⟨n, v⟩ := e
    obtain ⟨n', w⟩ := f
    obtain ⟨rfl, hvw⟩ := hef
    have hone : MembersAlike [(n, v)] [(n, w)] := by
      intro name
      by_cases hname : name = n
      · subst hname
        simpa using hvw
      · simp [List.lookup_cons, beq_eq_false_iff_ne.2 hname]
    exact hone.append ih

end MembersAlike

/-- the same distinct names with alike values, in some order each -/
structure Reordered (es fs : List (String × Value)) : Prop where
  nodup : (es.map Prod.fst).Nodup
  nodup' : (fs.map Prod.fst).Nodup
  left : ∀ e ∈ es, ∃ f ∈ fs, MemberAlike e f
  right : ∀ f ∈ fs, ∃ e ∈ es, MemberAlike e f

namespace Reordered

variable {es fs : List (String × Value)}

theorem nil : Reordered [] [] := ⟨.nil, .nil, nofun, nofun⟩

/-- the members of alike objects -/
theorem of_alike {a b : Object Value} (h : (Value.object a).Alike (.object b)) : Reordered a.toList b.toList where
  nodup := a.nodup_toList
  nodup' := b.nodup_toList
  left _ he := exists_member_of_alike h he
  right f hf := by
    obtain ⟨e, he, hname, hvalue⟩ := exists_member_of_alike h.symm hf
    exact ⟨e, he, hname.symm, hvalue.symm⟩

/-- a selection by name -/
theorem filter (h : Reordered es fs) (keep : String → Bool) :
    Reordered (es.filter fun e => keep e.1) (fs.filter fun f => keep f.1) where
  nodup := h.nodup.sublist (List.filter_sublist.map _)
  nodup' := h.nodup'.sublist (List.filter_sublist.map _)
  left e he := by
    obtain ⟨hmem, hkeep⟩ := List.mem_filter.1 he
    obtain ⟨f, hf, hef⟩ := h.left e hmem
    exact ⟨f, List.mem_filter.2 ⟨hf, hef.1 ▸ hkeep⟩, hef⟩
  right f hf := by
    obtain ⟨hmem, hkeep⟩ := List.mem_filter.1 hf
    obtain ⟨e, he, hef⟩ := h.right f hmem
    exact ⟨e, List.mem_filter.2 ⟨he, hef.1 ▸ hkeep⟩, hef⟩

theorem isEmpty_eq (h : Reordered es fs) : es.isEmpty = fs.isEmpty := by
  rw [Bool.eq_iff_iff, List.isEmpty_iff, List.isEmpty_iff, List.eq_nil_iff_forall_not_mem, List.eq_nil_iff_forall_not_mem]
  constructor
  · intro hnil f hf
    obtain ⟨e, he, -⟩ := h.right f hf
    exact hnil e he
  · intro hnil e he
    obtain ⟨f, hf, -⟩ := h.left e he
    exact hnil f hf

theorem membersAlike (h : Reordered es fs) : MembersAlike es fs := by
  intro name
  have hlookup {gs : List (String × Value)} (hgs : (gs.map Prod.fst).Nodup) {g : String × Value} (hg : g ∈ gs) :
      gs.reverse.lookup g.1 = some g.2 := by
    refine lookup_of_mem ?_ (List.mem_reverse.2 hg)
    rwa [List.map_reverse, List.nodup_reverse]
  cases he : es.reverse.lookup name with
  | some v =>
    obtain ⟨f, hf, rfl, hvf⟩ := h.left (name, v) (List.mem_reverse.1 (mem_of_lookup he))
    rw [hlookup h.nodup' hf]
    exact .some hvf
  | none =>
    cases hf : fs.reverse.lookup name with
    | none => exact .none
    | some w =>
      obtain ⟨e, hmem, rfl, -⟩ := h.right (name, w) (List.mem_reverse.1 (mem_of_lookup hf))
      rw [hlookup h.nodup hmem] at he
      cases he

end Reordered

/-! ## Sets and maps -/

theorem any_same_eq {xs ys : List Value} (h : List.Forall₂ Alike xs ys) {v w : Value} (hvw : v.Alike w) :
    xs.any (·.same v) = ys.any (·.same w) := by
  induction h with
  | nil => rfl
  | cons hxy _ ih => rw [List.any_cons, List.any_cons, same_congr hxy hvw, ih]

theorem addElement_alike {xs ys : List Value} (h : List.Forall₂ Alike xs ys) {v w : Value} (hvw : v.Alike w) :
    List.Forall₂ Alike (addElement xs v) (addElement ys w) := by
  unfold addElement
  rw [any_same_eq h hvw]
  split_ifs
  · exact h
  · exact List.rel_append h (.cons hvw .nil)

theorem distinct_alike {xs ys : List Value} (h : List.Forall₂ Alike xs ys) :
    List.Forall₂ Alike (distinct xs) (distinct ys) := by
  unfold distinct
  refine List.rel_foldl (P := List.Forall₂ Alike) (R := Alike) ?_ .nil h
  exact fun _ _ hacc _ _ hvw => addElement_alike hacc hvw

theorem putEntry_alike {es fs : List (Value × Value)} (h : List.Forall₂ EntryAlike es fs) {k l v w : Value} (hkl : k.Alike l)
    (hvw : v.Alike w) : List.Forall₂ EntryAlike (putEntry k v es) (putEntry l w fs) := by
  induction h with
  | nil => exact .cons ⟨hkl, hvw⟩ .nil
  | cons hef hrest ih =>
    rw [putEntry, putEntry, same_congr hef.1 hkl]
    split_ifs
    · exact .cons ⟨hef.1, hvw⟩ hrest
    · exact .cons hef ih

theorem distinctEntries_alike {es fs : List (Value × Value)} (h : List.Forall₂ EntryAlike es fs) :
    List.Forall₂ EntryAlike (distinctEntries es) (distinctEntries fs) := by
  unfold distinctEntries
  refine List.rel_foldl (P := List.Forall₂ EntryAlike) (R := EntryAlike) ?_ .nil h
  exact fun _ _ hacc _ _ hef => putEntry_alike hacc hef.1 hef.2

/-! ## Merges -/

theorem overlay_alike {v v' w w' : Value} (hv : v.Alike v') (hw : w.Alike w') : (v.overlay w).Alike (v'.overlay w') := by
  induction v using height_induction generalizing v' w w' with
  | step v ih =>
    by_cases hobjects : v.kind = .object ∧ w.kind = .object
    · obtain ⟨a, rfl⟩ := kind_eq_object_iff.1 hobjects.1
      obtain ⟨b, rfl⟩ := kind_eq_object_iff.1 hobjects.2
      obtain ⟨a', rfl, -⟩ := hv.of_object
      obtain ⟨b', rfl, -⟩ := hw.of_object
      rw [Object.overlay_object, Object.overlay_object]
      refine .object fun name => ?_
      cases hd : Key.isDangerous name with
      | true =>
        rw [Object.get?_overlaid_of_dangerous hd, Object.get?_overlaid_of_dangerous hd]
        exact .none
      | false =>
        have hleft := hv.get? name
        have hright := hw.get? name
        cases ha : a.get? name with
        | none =>
          rw [ha] at hleft
          rw [Object.get?_overlaid_right hd ha, Object.get?_overlaid_right hd (optionRel_none_left hleft)]
          exact hright
        | some x =>
          rw [ha] at hleft
          obtain ⟨x', ha', hxx⟩ := optionRel_some_left hleft
          cases hb : b.get? name with
          | none =>
            rw [hb] at hright
            rw [Object.get?_overlaid_left hd ha hb, Object.get?_overlaid_left hd ha' (optionRel_none_left hright)]
            exact .some hxx
          | some y =>
            rw [hb] at hright
            obtain ⟨y', hb', hyy⟩ := optionRel_some_left hright
            rw [Object.get?_overlaid hd ha hb, Object.get?_overlaid hd ha' hb']
            exact .some (ih x (height_lt_of_get? ha) hxx hyy)
    · rw [overlay_eq_right hobjects, overlay_eq_right (by rwa [← hv.kind_eq, ← hw.kind_eq])]
      exact hw

theorem mergeItems_alike {xs xs' ys ys' : List Value} (hx : List.Forall₂ Alike xs xs') (hy : List.Forall₂ Alike ys ys')
    (h : ∀ x ∈ xs, ∀ x' y y', x.Alike x' → y.Alike y' → Option.Rel Alike (x.merge y) (x'.merge y')) :
    Option.Rel (List.Forall₂ Alike) (mergeItems xs ys) (mergeItems xs' ys') := by
  induction hx generalizing ys ys' with
  | nil =>
    cases hy with
    | nil => exact .some .nil
    | cons => exact .none
  | @cons x x' xs xs' hxx _ ih =>
    cases hy with
    | nil => exact .none
    | @cons y y' ys ys' hyy hys =>
      have hfirst := h x List.mem_cons_self x' y y' hxx hyy
      have hrest := ih hys fun u hu => h u (List.mem_cons_of_mem _ hu)
      simp only [mergeItems]
      generalize x.merge y = z at hfirst
      generalize x'.merge y' = z' at hfirst
      generalize mergeItems xs ys = zs at hrest
      generalize mergeItems xs' ys' = zs' at hrest
      cases hfirst with
      | none => exact .none
      | some hz =>
        cases hrest with
        | none => exact .none
        | some hzs => exact .some (.cons hz hzs)

/-- **Merges of alike values are alike**, where there are any. -/
theorem merge_alike {v v' w w' : Value} (hv : v.Alike v') (hw : w.Alike w') :
    Option.Rel Alike (v.merge w) (v'.merge w') := by
  induction v using height_induction generalizing v' w w' with
  | step v ih =>
    have hvk := hv.kind_eq
    have hwk := hw.kind_eq
    by_cases hvo : v.kind = .object <;> by_cases hwo : w.kind = .object
    · obtain ⟨a, rfl⟩ := kind_eq_object_iff.1 hvo
      obtain ⟨b, rfl⟩ := kind_eq_object_iff.1 hwo
      obtain ⟨a', rfl, -⟩ := hv.of_object
      obtain ⟨b', rfl, -⟩ := hw.of_object
      exact .some (overlay_alike hv hw)
    · rw [merge_eq_none (.inl ⟨hvo, hwo⟩), merge_eq_none (.inl ⟨hvk ▸ hvo, hwk ▸ hwo⟩)]
      exact .none
    · rw [merge_eq_none (.inr ⟨hvo, hwo⟩), merge_eq_none (.inr ⟨hvk ▸ hvo, hwk ▸ hwo⟩)]
      exact .none
    · by_cases harrays : v.kind = .array ∧ w.kind = .array
      · obtain ⟨xs, rfl⟩ := kind_eq_array_iff.1 harrays.1
        obtain ⟨ys, rfl⟩ := kind_eq_array_iff.1 harrays.2
        obtain ⟨xs', rfl, hxs⟩ := hv.of_array
        obtain ⟨ys', rfl, hys⟩ := hw.of_array
        have hitems := mergeItems_alike hxs hys
          fun x hx x' y y' hxx hyy => ih x (height_lt_array hx) hxx hyy
        rw [merge, merge]
        exact optionRel_map hitems fun zs zs' hzs => .array hzs
      · rw [merge_eq_left hvo hwo harrays, merge_eq_left (hvk ▸ hvo) (hwk ▸ hwo) (by rwa [← hvk, ← hwk]), same_congr hv hw]
        split_ifs
        · exact .some hv
        · exact .none

end ValueSchema.Value
