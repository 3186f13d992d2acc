import ValueSchema.Proofs.Budget.Heights
import ValueSchema.Proofs.Value.Distinct
import ValueSchema.Proofs.Value.Merge

/-!
Values in which nothing repeats.

A set stands for its elements and a map for its keys, so no two of them should be the same; a list of elements or of
entries by itself promises nothing of the kind. A value is well formed when no set and no map in it repeats anything, at
any depth. Sets and maps built from any well-formed values are well formed, and so is a merge of well-formed values.

Results:
- `wellFormed_array_iff`, `wellFormed_object_iff`, `wellFormed_set_iff`, `wellFormed_map_iff`: one level of a value.
- `wellFormed_ofElements`, `wellFormed_ofEntries`, `wellFormed_ofList`: what is built of well-formed values.
- `WellFormed.merge`: merges.
-/

namespace ValueSchema.Value

/-- the values directly inside a value -/
def parts : Value → List Value
  | .array items => items
  | .object o => o.toList.map Prod.snd
  | .set elements => elements
  | .map entries => entries.map Prod.fst ++ entries.map Prod.snd
  | _ => []

/-- no element of a set, and no key of a map, is the same as another one -/
def RepeatsNothing : Value → Prop
  | .set elements => Repetitionless elements
  | .map entries => Repetitionless (entries.map Prod.fst)
  | _ => True

/-- at every depth, nothing repeats -/
inductive WellFormed : Value → Prop
  | intro {v : Value} : v.RepeatsNothing → (∀ u ∈ v.parts, WellFormed u) → WellFormed v

variable {u v w : Value}

theorem WellFormed.here : v.WellFormed → v.RepeatsNothing
  | .intro h _ => h

theorem WellFormed.parts : v.WellFormed → ∀ u ∈ v.parts, u.WellFormed
  | .intro _ h => h

/-! ## One level -/

theorem wellFormed_array_iff {items : List Value} : (array items).WellFormed ↔ ∀ x ∈ items, x.WellFormed := by
  constructor
  · exact fun h => h.parts
  · intro h
    exact .intro trivial h

theorem wellFormed_object_iff {o : Object Value} : (object o).WellFormed ↔ ∀ e ∈ o.toList, e.2.WellFormed := by
  have hparts : (object o).parts = o.toList.map Prod.snd := rfl
  constructor
  · intro h e he
    refine h.parts e.2 ?_
    rw [hparts]
    exact List.mem_map_of_mem he
  · intro h
    refine .intro trivial fun u hu => ?_
    rw [hparts] at hu
    obtain ⟨e, he, rfl⟩ := List.mem_map.1 hu
    exact h e he

theorem wellFormed_set_iff {elements : List Value} :
    (set elements).WellFormed ↔ Repetitionless elements ∧ ∀ x ∈ elements, x.WellFormed :=
  ⟨fun h => ⟨h.here, h.parts⟩, fun h => .intro h.1 h.2⟩

theorem wellFormed_map_iff {entries : List (Value × Value)} :
    (map entries).WellFormed ↔
      Repetitionless (entries.map Prod.fst) ∧ ∀ e ∈ entries, e.1.WellFormed ∧ e.2.WellFormed := by
  have hparts : (map entries).parts = entries.map Prod.fst ++ entries.map Prod.snd := rfl
  constructor
  · intro h
    refine ⟨h.here, fun e he => ?_⟩
    have hinside := h.parts
    rw [hparts] at hinside
    constructor
    · exact hinside e.1 (List.mem_append_left _ (List.mem_map_of_mem he))
    · exact hinside e.2 (List.mem_append_right _ (List.mem_map_of_mem he))
  · rintro ⟨hkeys, h⟩
    refine .intro hkeys fun u hu => ?_
    rw [hparts] at hu
    rcases List.mem_append.1 hu with hu | hu
    · obtain ⟨e, he, rfl⟩ := List.mem_map.1 hu
      exact (h e he).1
    · obtain ⟨e, he, rfl⟩ := List.mem_map.1 hu
      exact (h e he).2

/-- a value without parts -/
def IsScalar (v : Value) : Prop := v.RepeatsNothing ∧ v.parts = []

theorem IsScalar.wellFormed (h : v.IsScalar) : v.WellFormed := by
  refine .intro h.1 fun u hu => ?_
  rw [h.2] at hu
  simp at hu

/-! ## Sets, maps and objects that are built -/

theorem wellFormed_ofElements {elements : List Value} (h : ∀ x ∈ elements, x.WellFormed) :
    (ofElements elements).WellFormed :=
  wellFormed_set_iff.2 ⟨repetitionless_distinct elements, fun x hx => h x (mem_of_mem_distinct hx)⟩

/-- keys of a map that is built from entries do not repeat -/
theorem repetitionless_keys (entries : List (Value × Value)) : Repetitionless ((distinctEntries entries).map Prod.fst) := by
  rw [keys_distinctEntries]
  exact repetitionless_distinct _

theorem wellFormed_ofEntries {entries : List (Value × Value)} (h : ∀ e ∈ entries, e.1.WellFormed ∧ e.2.WellFormed) :
    (ofEntries entries).WellFormed := by
  refine wellFormed_map_iff.2 ⟨repetitionless_keys entries, fun e he => ?_⟩
  obtain ⟨⟨k, hk, hkey⟩, ⟨x, hx, hvalue⟩⟩ := exists_of_mem_distinctEntries he
  rw [← hkey, ← hvalue]
  exact ⟨(h k hk).1, (h x hx).2⟩

theorem wellFormed_ofList {entries : List (String × Value)} (h : ∀ e ∈ entries, e.2.WellFormed) :
    (object (Object.ofList entries)).WellFormed :=
  wellFormed_object_iff.2 fun e he => h e (Object.mem_of_mem_ofList he)

/-- what stands under a name is well formed, absence included -/
theorem WellFormed.get? {o : Object Value} (h : (object o).WellFormed) (name : String) :
    ((o.get? name).getD .undefined).WellFormed := by
  cases hget : o.get? name with
  | none => exact IsScalar.wellFormed ⟨trivial, rfl⟩
  | some v => exact wellFormed_object_iff.1 h (name, v) (Object.get?_eq_some_iff.1 hget)

/-! ## Merges -/

theorem WellFormed.overlay (hv : v.WellFormed) (hw : w.WellFormed) : (v.overlay w).WellFormed := by
  induction v using height_induction generalizing w with
  | step v ih =>
    by_cases hobjects : v.kind = .object ∧ w.kind = .object
    · obtain ⟨a, rfl⟩ := kind_eq_object_iff.1 hobjects.1
      obtain ⟨b, rfl⟩ := kind_eq_object_iff.1 hobjects.2
      have ha := wellFormed_object_iff.1 hv
      have hb := wellFormed_object_iff.1 hw
      rw [Object.overlay_object]
      refine wellFormed_object_iff.2 fun e he => ?_
      rw [Object.toList_overlaid] at he
      rcases List.mem_append.1 he with he | he
      · obtain ⟨e, hsafe, rfl⟩ := List.mem_map.1 he
        have hmem : e ∈ a.toList := List.mem_of_mem_filter hsafe
        cases hget : b.get? e.1 with
        | none =>
          simp only
          exact ha e hmem
        | some x =>
          simp only
          exact ih e.2 (height_lt_object hmem) (ha e hmem) (hb (e.1, x) (Object.get?_eq_some_iff.1 hget))
      · exact hb e (List.mem_of_mem_filter he)
    · rw [overlay_eq_right hobjects]
      exact hw

/-- **Merges are well formed** if what is merged is. -/
theorem WellFormed.merge (hv : v.WellFormed) (hw : w.WellFormed) (h : v.merge w = some u) : u.WellFormed := by
  induction v using height_induction generalizing w u with
  | step v ih =>
    rcases merge_cases h with ⟨a, b, rfl, rfl, rfl⟩ | ⟨xs, ys, zs, rfl, rfl, rfl, -, hitems⟩ | ⟨-, -, -, rfl⟩
    · rw [← Object.overlay_object]
      exact hv.overlay hw
    · refine wellFormed_array_iff.2 fun z hz => ?_
      obtain ⟨e, he, hmerge⟩ := exists_left_of_forall₂ hitems hz
      obtain ⟨hx, hy⟩ := List.of_mem_zip he
      have hxw : e.1.WellFormed := wellFormed_array_iff.1 hv e.1 hx
      have hyw : e.2.WellFormed := wellFormed_array_iff.1 hw e.2 hy
      exact ih e.1 (height_lt_array hx) hxw hyw hmerge
    · exact hv

end ValueSchema.Value
