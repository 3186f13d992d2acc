import Mathlib.Tactic
import ValueSchema.Value.Same

/-!
Sets and maps without repetition.

Building a set keeps the first of the elements that are the same; building a map keeps the first of the keys, each with
its latest value. Neither needs sameness to be an equivalence here: what is built has no later element the same as an
earlier one, and building it again changes nothing.

Results:
- `repetitionless_distinct`, `distinct_distinct`: what is built for a set, and that it is built from itself.
- `keys_distinctEntries`: the keys of a map are built as a set is.
- `distinctEntries_distinctEntries`: a map is built from its own entries.
-/

namespace ValueSchema.Value

/-- no later element is the same as an earlier one -/
def Repetitionless (vs : List Value) : Prop := vs.Pairwise fun a b => a.same b = false

/-! ## Sets -/

theorem addElement_of_notSame {vs : List Value} {v : Value} (h : ∀ u ∈ vs, u.same v = false) :
    addElement vs v = vs ++ [v] := by
  have hany : vs.any (·.same v) = false := by simpa using h
  rw [addElement, hany, if_neg Bool.false_ne_true]

theorem repetitionless_addElement {vs : List Value} (h : Repetitionless vs) (v : Value) :
    Repetitionless (addElement vs v) := by
  unfold addElement
  by_cases hany : vs.any (·.same v) = true
  · rwa [if_pos hany]
  · rw [if_neg hany]
    refine List.pairwise_append.2 ⟨h, List.pairwise_singleton _ v, ?_⟩
    intro a ha b hb
    obtain rfl := List.mem_singleton.1 hb
    simp only [List.any_eq_true, not_exists, not_and, Bool.not_eq_true] at hany
    exact hany a ha

theorem mem_of_mem_addElement {vs : List Value} {u v : Value} (h : u ∈ addElement vs v) : u ∈ vs ∨ u = v := by
  unfold addElement at h
  split_ifs at h
  · exact Or.inl h
  · simpa using h

theorem repetitionless_foldl_addElement (vs acc : List Value) (h : Repetitionless acc) :
    Repetitionless (vs.foldl addElement acc) := by
  induction vs generalizing acc with
  | nil => exact h
  | cons v vs ih => exact ih _ (repetitionless_addElement h v)

theorem mem_of_mem_foldl_addElement (vs acc : List Value) {u : Value} (h : u ∈ vs.foldl addElement acc) :
    u ∈ acc ∨ u ∈ vs := by
  induction vs generalizing acc with
  | nil => exact Or.inl h
  | cons v vs ih =>
    rcases ih _ h with h | h
    · rcases mem_of_mem_addElement h with h | rfl
      · exact Or.inl h
      · exact Or.inr List.mem_cons_self
    · exact Or.inr (List.mem_cons_of_mem _ h)

/-- elements without repetition are all added -/
theorem foldl_addElement_of_repetitionless (vs acc : List Value) (h : Repetitionless (acc ++ vs)) :
    vs.foldl addElement acc = acc ++ vs := by
  induction vs generalizing acc with
  | nil => simp
  | cons v vs ih =>
    have hv : ∀ u ∈ acc, u.same v = false := fun u hu => (List.pairwise_append.1 h).2.2 u hu v List.mem_cons_self
    rw [List.foldl_cons, addElement_of_notSame hv]
    rw [ih (acc ++ [v]) (by simpa using h)]
    simp

theorem repetitionless_distinct (vs : List Value) : Repetitionless (distinct vs) :=
  repetitionless_foldl_addElement vs [] .nil

theorem mem_of_mem_distinct {vs : List Value} {u : Value} (h : u ∈ distinct vs) : u ∈ vs :=
  (mem_of_mem_foldl_addElement vs [] h).resolve_left (by simp)

theorem distinct_of_repetitionless {vs : List Value} (h : Repetitionless vs) : distinct vs = vs :=
  foldl_addElement_of_repetitionless vs [] h

/-- a set is built from its own elements -/
theorem distinct_distinct (vs : List Value) : distinct (distinct vs) = distinct vs :=
  distinct_of_repetitionless (repetitionless_distinct vs)

/-! ## Maps -/

/-- putting an entry adds its key as an element is added -/
theorem keys_putEntry (k v : Value) (es : List (Value × Value)) :
    (putEntry k v es).map Prod.fst = addElement (es.map Prod.fst) k := by
  induction es with
  | nil => rfl
  | cons e es ih =>
    cases hs : e.1.same k with
    | true => simp [putEntry, addElement, hs]
    | false =>
      rw [putEntry, hs, if_neg Bool.false_ne_true, List.map_cons, ih]
      unfold addElement
      rw [List.map_cons, List.any_cons, hs, Bool.false_or]
      split_ifs <;> rfl

theorem keys_foldl_putEntry (es acc : List (Value × Value)) :
    (es.foldl (fun acc e => putEntry e.1 e.2 acc) acc).map Prod.fst =
      (es.map Prod.fst).foldl addElement (acc.map Prod.fst) := by
  induction es generalizing acc with
  | nil => rfl
  | cons e es ih =>
    rw [List.foldl_cons, ih, keys_putEntry]
    rfl

/-- the keys of a map are built as a set is -/
theorem keys_distinctEntries (es : List (Value × Value)) :
    (distinctEntries es).map Prod.fst = distinct (es.map Prod.fst) := keys_foldl_putEntry es []

theorem putEntry_of_notSame {k v : Value} {es : List (Value × Value)} (h : ∀ e ∈ es, e.1.same k = false) :
    putEntry k v es = es ++ [(k, v)] := by
  induction es with
  | nil => rfl
  | cons e es ih =>
    rw [putEntry, h e List.mem_cons_self, if_neg Bool.false_ne_true,
      ih fun e' he' => h e' (List.mem_cons_of_mem _ he'), List.cons_append]

/-- what stands among the entries after one is put: the value is its own or an earlier one -/
theorem mem_putEntry_value {k v : Value} {es : List (Value × Value)} {e : Value × Value} (h : e ∈ putEntry k v es) :
    e.2 = v ∨ ∃ e' ∈ es, e'.2 = e.2 := by
  induction es with
  | nil =>
    obtain rfl := List.mem_singleton.1 h
    exact Or.inl rfl
  | cons e' es ih =>
    unfold putEntry at h
    split_ifs at h
    · rcases List.mem_cons.1 h with rfl | h
      · exact Or.inl rfl
      · exact Or.inr ⟨e, List.mem_cons_of_mem _ h, rfl⟩
    · rcases List.mem_cons.1 h with rfl | h
      · exact Or.inr ⟨e, List.mem_cons_self, rfl⟩
      · rcases ih h with h | ⟨e'', he'', hv⟩
        · exact Or.inl h
        · exact Or.inr ⟨e'', List.mem_cons_of_mem _ he'', hv⟩

theorem mem_foldl_putEntry_value (es acc : List (Value × Value)) {e : Value × Value}
    (h : e ∈ es.foldl (fun acc e => putEntry e.1 e.2 acc) acc) :
    (∃ e' ∈ acc, e'.2 = e.2) ∨ ∃ e' ∈ es, e'.2 = e.2 := by
  induction es generalizing acc with
  | nil => exact Or.inl ⟨e, h, rfl⟩
  | cons e₀ es ih =>
    rcases ih _ h with ⟨e', he', hv⟩ | ⟨e', he', hv⟩
    · rcases mem_putEntry_value he' with h | ⟨e'', he'', hv'⟩
      · exact Or.inr ⟨e₀, List.mem_cons_self, h.symm.trans hv⟩
      · exact Or.inl ⟨e'', he'', hv'.trans hv⟩
    · exact Or.inr ⟨e', List.mem_cons_of_mem _ he', hv⟩

/-- the key and the value of an entry of a map are those of entries it is built from, perhaps of different ones -/
theorem exists_of_mem_distinctEntries {es : List (Value × Value)} {e : Value × Value} (h : e ∈ distinctEntries es) :
    (∃ e' ∈ es, e'.1 = e.1) ∧ ∃ e' ∈ es, e'.2 = e.2 := by
  constructor
  · have hkey : e.1 ∈ (distinctEntries es).map Prod.fst := List.mem_map_of_mem h
    rw [keys_distinctEntries] at hkey
    obtain ⟨e', he', hk⟩ := List.mem_map.1 (mem_of_mem_distinct hkey)
    exact ⟨e', he', hk⟩
  · exact (mem_foldl_putEntry_value es [] h).resolve_left (by simp)

theorem foldl_putEntry_of_repetitionless (es acc : List (Value × Value))
    (h : Repetitionless ((acc ++ es).map Prod.fst)) :
    es.foldl (fun acc e => putEntry e.1 e.2 acc) acc = acc ++ es := by
  induction es generalizing acc with
  | nil => simp
  | cons e es ih =>
    have he : ∀ e' ∈ acc, e'.1.same e.1 = false := by
      intro e' he'
      rw [List.map_append] at h
      exact (List.pairwise_append.1 h).2.2 e'.1 (List.mem_map_of_mem he') e.1 List.mem_cons_self
    rw [List.foldl_cons, putEntry_of_notSame he, ih (acc ++ [e]) (by simpa using h)]
    simp

/-- a map is built from its own entries -/
theorem distinctEntries_distinctEntries (es : List (Value × Value)) :
    distinctEntries (distinctEntries es) = distinctEntries es := by
  refine foldl_putEntry_of_repetitionless _ [] ?_
  rw [List.nil_append, keys_distinctEntries]
  exact repetitionless_distinct _

end ValueSchema.Value
