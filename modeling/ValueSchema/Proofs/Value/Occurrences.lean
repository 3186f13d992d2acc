import ValueSchema.Proofs.Value.Distinct
import ValueSchema.Proofs.Value.Same

/-!
Sets and maps from the lists they are built of.

Sameness splits a list into groups. A set keeps the first element of each group, in the order in which these stand in the
list; a map keeps the first key of each group, with the value that the last entry of the group gives. That the groups do
not overlap, so that a new element belongs to one kept element at most, is where sameness has to be an equivalence.

Results:
- `distinct_eq_firstOccurrences`: the elements of a set, by their positions in the list.
- `filter_same_distinct`: of each group, the set keeps the earliest element and no other.
- `valueUnder_distinctEntries`: under a key, the map holds the value that was given last.
- `collections_built_canonically`: what sets and maps are, and that they are built of themselves.
-/

namespace ValueSchema.Value

/-! ## Groups -/

/-- a group has the same members whichever of them it is named by -/
theorem same_right_congr {v w : Value} (h : v.same w = true) (u : Value) : u.same v = u.same w := by
  rw [Bool.eq_iff_iff]
  exact ⟨fun huv => same_trans huv h, fun huw => same_trans huw (same_symm h)⟩

theorem same_left_congr {v w : Value} (h : v.same w = true) (u : Value) : v.same u = w.same u := by
  rw [Bool.eq_iff_iff]
  exact ⟨same_trans (same_symm h), same_trans h⟩

/-! ## Sets -/

/-- the elements of a list that no earlier element is the same as -/
def firstOccurrences (vs : List Value) : List Value :=
  (vs.zipIdx.filter fun e => !(vs.take e.2).any (·.same e.1)).map Prod.fst

/-- what a list has in front does not depend on what comes after it -/
theorem firstOccurrences_append (vs : List Value) (v : Value) :
    firstOccurrences (vs ++ [v]) = firstOccurrences vs ++ if vs.any (·.same v) then [] else [v] := by
  have hbefore : ∀ e ∈ vs.zipIdx, (vs ++ [v]).take e.2 = vs.take e.2 := by
    intro e he
    have hlt : e.2 < vs.length := List.snd_lt_of_mem_zipIdx he
    exact List.take_append_of_le_length hlt.le
  have hlast : (vs ++ [v]).take vs.length = vs := List.take_left
  rw [firstOccurrences, List.zipIdx_append, List.filter_append, List.map_append]
  congr 1
  · refine congrArg _ (List.filter_congr fun e he => ?_)
    rw [hbefore e he]
  · rw [List.zipIdx_singleton, Nat.zero_add, List.filter_singleton, hlast]
    cases vs.any (·.same v) <;> rfl

theorem firstOccurrences_sublist (vs : List Value) : (firstOccurrences vs).Sublist vs := by
  have hall : vs.zipIdx.map Prod.fst = vs := List.zipIdx_map_fst 0 vs
  have hsome : (firstOccurrences vs).Sublist (vs.zipIdx.map Prod.fst) := List.filter_sublist.map Prod.fst
  rwa [hall] at hsome

/-- adding an element makes its group present -/
theorem any_same_addElement (vs : List Value) (v w : Value) :
    (addElement vs v).any (·.same w) = (vs.any (·.same w) || v.same w) := by
  unfold addElement
  split_ifs with h
  · cases hvw : v.same w with
    | false => rw [Bool.or_false]
    | true =>
      -- the group of the element was there before
      obtain ⟨u, hu, huv⟩ := List.any_eq_true.1 h
      have huw : u.same w = true := same_trans huv hvw
      rw [Bool.or_true, List.any_eq_true]
      exact ⟨u, hu, huw⟩
  · rw [List.any_append, List.any_cons, List.any_nil, Bool.or_false]

theorem any_same_foldl_addElement (vs acc : List Value) (w : Value) :
    (vs.foldl addElement acc).any (·.same w) = (acc.any (·.same w) || vs.any (·.same w)) := by
  induction vs generalizing acc with
  | nil => rw [List.foldl_nil, List.any_nil, Bool.or_false]
  | cons v vs ih => rw [List.foldl_cons, ih, any_same_addElement, List.any_cons, Bool.or_assoc]

/-- a set has something of each group of its list, and of no other group -/
theorem any_same_distinct (vs : List Value) (w : Value) : (distinct vs).any (·.same w) = vs.any (·.same w) :=
  any_same_foldl_addElement vs [] w

/-- a new element is kept if its group is new -/
theorem distinct_append (vs : List Value) (v : Value) :
    distinct (vs ++ [v]) = distinct vs ++ if vs.any (·.same v) then [] else [v] := by
  have hstep : distinct (vs ++ [v]) = addElement (distinct vs) v := by
    rw [distinct, List.foldl_append, List.foldl_cons, List.foldl_nil, ← distinct]
  rw [hstep, addElement, any_same_distinct]
  split_ifs
  · rw [List.append_nil]
  · rfl

/-- **The elements of a set are the first occurrences** in its list, in their order. -/
theorem distinct_eq_firstOccurrences (vs : List Value) : distinct vs = firstOccurrences vs := by
  induction vs using List.reverseRecOn with
  | nil => rfl
  | append_singleton vs v ih => rw [distinct_append, firstOccurrences_append, ih]

/-- **Of each group, the set keeps the earliest element** and no other; of a group that the list does not have, nothing. -/
theorem filter_same_distinct (vs : List Value) (w : Value) :
    (distinct vs).filter (·.same w) = (vs.find? (·.same w)).toList := by
  induction vs using List.reverseRecOn with
  | nil => rfl
  | append_singleton vs v ih =>
    rw [distinct_append, List.filter_append, ih, List.find?_append]
    cases hvw : v.same w with
    | false =>
      have hnew : (if vs.any (·.same v) then [] else [v]).filter (·.same w) = [] := by
        split_ifs
        · rfl
        · rw [List.filter_singleton, hvw]
          rfl
      rw [hnew, List.append_nil, List.find?_singleton, hvw]
      exact congrArg Option.toList Option.or_none.symm
    | true =>
      -- the element is new exactly if the list has nothing of this group before it
      have hgroup : vs.any (·.same v) = (vs.find? (·.same w)).isSome := by
        rw [List.isSome_find?]
        exact congrArg (List.any vs) (funext (same_right_congr hvw))
      rw [hgroup]
      cases vs.find? (·.same w) with
      | none => simp [hvw]
      | some u => simp

/-! ## Maps -/

/-- the value of the first entry whose key is the same as a value -/
def valueUnder (es : List (Value × Value)) (k : Value) : Option Value := (es.find? (·.1.same k)).map Prod.snd

theorem valueUnder_cons (e : Value × Value) (es : List (Value × Value)) (w : Value) :
    valueUnder (e :: es) w = if e.1.same w then some e.2 else valueUnder es w := by
  rw [valueUnder, List.find?_cons]
  cases e.1.same w <;> rfl

theorem valueUnder_append (es fs : List (Value × Value)) (w : Value) :
    valueUnder (es ++ fs) w = (valueUnder es w).or (valueUnder fs w) := by
  rw [valueUnder, List.find?_append, Option.map_or]
  rfl

/-- an entry that is put gives its value to the group of its key, and to no other -/
theorem valueUnder_putEntry (k v w : Value) (es : List (Value × Value)) :
    valueUnder (putEntry k v es) w = if k.same w then some v else valueUnder es w := by
  induction es with
  | nil => exact valueUnder_cons (k, v) [] w
  | cons e es ih =>
    cases he : e.1.same k with
    | true =>
      -- the key of the entry stays, which is of the same group
      have hgroup : e.1.same w = k.same w := same_left_congr he w
      rw [putEntry, he, if_pos rfl, valueUnder_cons, valueUnder_cons, hgroup]
      split_ifs <;> rfl
    | false =>
      rw [putEntry, he, if_neg Bool.false_ne_true, valueUnder_cons, ih, valueUnder_cons]
      split_ifs with hew hkw
      · have hek : e.1.same k = true := same_trans hew (same_symm hkw)
        rw [he] at hek
        cases hek
      all_goals rfl

theorem valueUnder_foldl_putEntry (es acc : List (Value × Value)) (w : Value) :
    valueUnder (es.foldl (fun acc e => putEntry e.1 e.2 acc) acc) w =
      (valueUnder es.reverse w).or (valueUnder acc w) := by
  induction es generalizing acc with
  | nil => rfl
  | cons e es ih =>
    have hlast : valueUnder [e] w = if e.1.same w then some e.2 else none := valueUnder_cons e [] w
    rw [List.foldl_cons, ih, valueUnder_putEntry, List.reverse_cons, valueUnder_append, Option.or_assoc, hlast]
    split_ifs
    · rfl
    · rfl

/-- **Under a key, a map holds the value that was given last** for its group. -/
theorem valueUnder_distinctEntries (es : List (Value × Value)) (w : Value) :
    valueUnder (distinctEntries es) w = valueUnder es.reverse w := by
  rw [distinctEntries, valueUnder_foldl_putEntry]
  exact Option.or_none

/-! ## What is built -/

/-- elements that hold of each group of a list the earliest one and no other, in the order of the list -/
structure EarliestOf (vs us : List Value) : Prop where
  positions : us = firstOccurrences vs
  inOrder : us.Sublist vs
  apart : us.Pairwise fun u u' => u.same u' = false
  one : ∀ v ∈ vs, ∃ u, us.filter (·.same v) = [u] ∧ vs.find? (·.same v) = some u

/-- entries that hold of each group of keys the earliest one, with the value of the last entry of the group -/
structure LatestOf (es fs : List (Value × Value)) : Prop where
  keys : EarliestOf (es.map Prod.fst) (fs.map Prod.fst)
  one : ∀ e ∈ es, ∃ f, fs.filter (·.1.same e.1) = [f] ∧ (es.map Prod.fst).find? (·.same e.1) = some f.1 ∧
    valueUnder es.reverse e.1 = some f.2

theorem distinct_earliestOf (vs : List Value) : EarliestOf vs (distinct vs) where
  positions := distinct_eq_firstOccurrences vs
  inOrder := distinct_eq_firstOccurrences vs ▸ firstOccurrences_sublist vs
  apart := repetitionless_distinct vs
  one v hv := by
    have hpresent : (vs.find? (·.same v)).isSome = true := List.find?_isSome.2 ⟨v, hv, same_refl v⟩
    obtain ⟨u, hu⟩ := Option.isSome_iff_exists.1 hpresent
    refine ⟨u, ?_, hu⟩
    rw [filter_same_distinct, hu, Option.toList_some]

theorem distinctEntries_latestOf (es : List (Value × Value)) : LatestOf es (distinctEntries es) := by
  have hkeys : EarliestOf (es.map Prod.fst) ((distinctEntries es).map Prod.fst) := by
    rw [keys_distinctEntries]
    exact distinct_earliestOf (es.map Prod.fst)
  refine ⟨hkeys, fun e he => ?_⟩
  obtain ⟨k, hone, hfirst⟩ := hkeys.one e.1 (List.mem_map_of_mem he)
  rw [List.filter_map] at hone
  obtain ⟨f, hf, rfl⟩ := List.map_eq_singleton_iff.1 hone
  have hfound : (distinctEntries es).find? (·.1.same e.1) = some f := by
    rw [← List.head?_filter]
    exact congrArg List.head? hf
  refine ⟨f, hf, hfirst, ?_⟩
  rw [← valueUnder_distinctEntries, valueUnder, hfound, Option.map_some]

/-- **Sets and maps are built canonically.** A set built of any list holds the first occurrences in it: at the positions
where no earlier element is the same, in the order of the list, no two of them the same; and each element of the list is
the same as exactly one of them, the earliest in the list that it is the same as. The keys of a map built of any entries
are such elements of the keys given; and for each key given exactly one key of the map is the same, the earliest such key,
under which stands the value of the last entry whose key is the same. Built again of what it holds, a set or a map comes
out as it is. -/
theorem collections_built_canonically :
    (∀ vs, ∃ us, ofElements vs = set us ∧ EarliestOf vs us ∧ ofElements us = set us) ∧
      ∀ es, ∃ fs, ofEntries es = map fs ∧ LatestOf es fs ∧ ofEntries fs = map fs := by
  constructor
  · intro vs
    refine ⟨distinct vs, rfl, distinct_earliestOf vs, ?_⟩
    rw [ofElements, distinct_distinct]
  · intro es
    refine ⟨distinctEntries es, rfl, distinctEntries_latestOf es, ?_⟩
    rw [ofEntries, distinctEntries_distinctEntries]

/-- both zeros are one key, which stays as it stood first and takes the value given last; not-a-number is another key -/
theorem zeros_share_key :
    EarliestOf [number (.zero true), number .nan, number (.zero false)] [number (.zero true), number .nan] ∧
      LatestOf [(number (.zero true), bool true), (number .nan, null), (number (.zero false), bool false)]
        [(number (.zero true), bool false), (number .nan, null)] := by
  obtain ⟨us, hset, hus, -⟩ :=
    collections_built_canonically.1 [number (.zero true), number .nan, number (.zero false)]
  obtain ⟨fs, hmap, hfs, -⟩ := collections_built_canonically.2
    [(number (.zero true), bool true), (number .nan, null), (number (.zero false), bool false)]
  obtain rfl : us = [number (.zero true), number .nan] := (set.inj hset).symm.trans rfl
  obtain rfl : fs = [(number (.zero true), bool false), (number .nan, null)] := (map.inj hmap).symm.trans rfl
  exact ⟨hus, hfs⟩

end ValueSchema.Value
