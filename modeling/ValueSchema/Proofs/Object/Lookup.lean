import Mathlib.Tactic
import ValueSchema.Object

/-!
Looking up members by name, and building objects from entries.

Results:
- `get?_eq_some_iff`: a name leads to a value exactly when the two are a member.
- `toList_ofList_of_nodup`: entries with distinct names are the members of the object built from them, in order.
- `get?_ofList`, `get?_merge`: what an object built from any entries, or from two objects, holds under a name.
- `mem_of_mem_ofList` / `mem_names_ofList`: an object built from any entries has their names and some of their values.
-/

namespace ValueSchema

/-! ## Association lists -/

section Lookup

variable {α β : Type} [BEq α] [LawfulBEq α]

theorem mem_of_lookup {entries : List (α × β)} {k : α} {b : β} (h : entries.lookup k = some b) : (k, b) ∈ entries := by
  obtain ⟨l, r, rfl, -⟩ := List.lookup_eq_some_iff.1 h
  simp

theorem lookup_of_mem {entries : List (α × β)} (hd : (entries.map Prod.fst).Nodup) {k : α} {b : β}
    (h : (k, b) ∈ entries) : entries.lookup k = some b := by
  induction entries with
  | nil => simp at h
  | cons e rest ih =>
    simp only [List.map_cons, List.nodup_cons, List.mem_map, not_exists, not_and] at hd
    rcases List.mem_cons.1 h with rfl | h
    · simp
    · have hne : (k == e.1) = false := by
        rw [beq_eq_false_iff_ne]; exact hd.1 _ h
      rw [List.lookup_cons, hne]
      exact ih hd.2 h

theorem lookup_eq_none_iff_notMem {entries : List (α × β)} {k : α} :
    entries.lookup k = none ↔ k ∉ entries.map Prod.fst := by
  rw [List.lookup_eq_none_iff]
  constructor
  · intro h hk
    obtain ⟨e, he, rfl⟩ := List.mem_map.1 hk
    simpa using h e he
  · intro h e he
    simp only [bne_iff_ne, ne_eq]
    rintro rfl
    exact h (List.mem_map_of_mem he)

end Lookup

/-- choosing among entries and giving them other values keeps the order of names -/
theorem names_filterMap {α β : Type} {f : String × α → Option (String × β)} (h : ∀ e m, f e = some m → m.1 = e.1)
    (es : List (String × α)) : ((es.filterMap f).map Prod.fst).Sublist (es.map Prod.fst) := by
  induction es with
  | nil => exact .slnil
  | cons e es ih =>
    rw [List.filterMap_cons, List.map_cons]
    cases hm : f e with
    | none => exact ih.cons _
    | some m =>
      rw [List.map_cons, h e m hm]
      exact ih.cons_cons _

/-! ## Insertion -/

section Upsert

variable {α : Type}

theorem upsert_of_notMem {name : String} {value : α} {entries : List (String × α)} (h : name ∉ entries.map Prod.fst) :
    upsert name value entries = entries ++ [(name, value)] := by
  induction entries with
  | nil => rfl
  | cons e rest ih =>
    simp only [List.map_cons, List.mem_cons, not_or] at h
    simp only [upsert, if_neg (Ne.symm h.1), ih h.2, List.cons_append]

theorem mem_of_mem_upsert {name : String} {value : α} {entries : List (String × α)} {e : String × α}
    (h : e ∈ upsert name value entries) : e = (name, value) ∨ e ∈ entries := by
  induction entries with
  | nil => exact Or.inl (List.mem_singleton.1 h)
  | cons e' rest ih =>
    simp only [upsert] at h
    split at h
    · rcases List.mem_cons.1 h with h | h
      · exact Or.inl h
      · exact Or.inr (List.mem_cons_of_mem _ h)
    · rcases List.mem_cons.1 h with rfl | h
      · exact Or.inr List.mem_cons_self
      · exact (ih h).imp_right (List.mem_cons_of_mem _)

/-- entries whose names are new and distinct are appended as they are -/
theorem foldl_upsert_of_nodup (entries acc : List (String × α)) (h : ((acc ++ entries).map Prod.fst).Nodup) :
    entries.foldl (fun acc e => upsert e.1 e.2 acc) acc = acc ++ entries := by
  induction entries generalizing acc with
  | nil => simp
  | cons e rest ih =>
    have hnew : e.1 ∉ acc.map Prod.fst := by
      rw [List.map_append, List.map_cons, List.nodup_append] at h
      exact fun hm => h.2.2 _ hm _ List.mem_cons_self rfl
    rw [List.foldl_cons, upsert_of_notMem hnew, ih]
    · simp
    · simpa using h

theorem lastWins_of_nodup {entries : List (String × α)} (h : (entries.map Prod.fst).Nodup) :
    lastWins entries = entries := foldl_upsert_of_nodup entries [] h

theorem mem_of_mem_foldl_upsert (entries acc : List (String × α)) {e : String × α}
    (h : e ∈ entries.foldl (fun acc e => upsert e.1 e.2 acc) acc) : e ∈ acc ∨ e ∈ entries := by
  induction entries generalizing acc with
  | nil => exact Or.inl h
  | cons e' rest ih =>
    rcases ih _ h with h | h
    · rcases mem_of_mem_upsert h with rfl | h
      · exact Or.inr List.mem_cons_self
      · exact Or.inl h
    · exact Or.inr (List.mem_cons_of_mem _ h)

theorem mem_map_fst_foldl_upsert (entries acc : List (String × α)) (n : String) :
    n ∈ (entries.foldl (fun acc e => upsert e.1 e.2 acc) acc).map Prod.fst ↔
      n ∈ acc.map Prod.fst ∨ n ∈ entries.map Prod.fst := by
  induction entries generalizing acc with
  | nil => simp
  | cons e rest ih =>
    rw [List.foldl_cons, ih, mem_map_fst_upsert, List.map_cons, List.mem_cons]
    tauto

/-- the value put under a name stands there, and nothing else moves -/
theorem lookup_upsert (name n : String) (value : α) (entries : List (String × α)) :
    (upsert name value entries).lookup n = if n = name then some value else entries.lookup n := by
  induction entries with
  | nil =>
    by_cases h : n = name
    · simp [upsert, h]
    · simp [upsert, h, List.lookup_cons, beq_eq_false_iff_ne.2 h]
  | cons e rest ih =>
    by_cases he : e.1 = name
    · rw [upsert, if_pos he, List.lookup_cons, List.lookup_cons, he]
      by_cases h : n = name
      · simp [h]
      · simp [h, beq_eq_false_iff_ne.2 h]
    · rw [upsert, if_neg he, List.lookup_cons, List.lookup_cons, ih]
      by_cases h : n = e.1
      · simp [h, he]
      · simp [beq_eq_false_iff_ne.2 h]

theorem lookup_foldl_upsert (entries acc : List (String × α)) (n : String) :
    (entries.foldl (fun acc e => upsert e.1 e.2 acc) acc).lookup n = (entries.reverse.lookup n).or (acc.lookup n) := by
  induction entries generalizing acc with
  | nil => rfl
  | cons e rest ih =>
    have hlast : [e].lookup n = if n = e.1 then some e.2 else none := lookup_upsert e.1 n e.2 []
    rw [List.foldl_cons, ih, lookup_upsert, List.reverse_cons, List.lookup_append, Option.or_assoc, hlast]
    split_ifs
    · rfl
    · rfl

end Upsert

/-! ## Objects -/

namespace Object

variable {α : Type}

theorem get?_eq_some_iff {o : Object α} {name : String} {v : α} : o.get? name = some v ↔ (name, v) ∈ o.toList :=
  ⟨mem_of_lookup, lookup_of_mem o.nodup_toList⟩

theorem get?_eq_none_iff {o : Object α} {name : String} : o.get? name = none ↔ name ∉ o.names := by
  rw [← o.map_fst_toList]
  exact lookup_eq_none_iff_notMem

theorem mem_names_iff {o : Object α} {name : String} : name ∈ o.names ↔ ∃ v, (name, v) ∈ o.toList := by
  rw [← o.map_fst_toList]
  simp only [List.mem_map, Prod.exists, exists_and_right, exists_eq_right]

theorem contains_iff {o : Object α} {name : String} : o.contains name = true ↔ name ∈ o.names := by
  simp [contains]

/-- entries with distinct names are the members of the object built from them -/
theorem toList_ofList_of_nodup {entries : List (String × α)} (h : (entries.map Prod.fst).Nodup) :
    (ofList entries).toList = entries := by
  rw [ofList, toList_ofNodup, lastWins_of_nodup h]

theorem mem_of_mem_ofList {entries : List (String × α)} {e : String × α} (h : e ∈ (ofList entries).toList) :
    e ∈ entries := by
  rw [ofList, toList_ofNodup] at h
  exact (mem_of_mem_foldl_upsert entries [] h).resolve_left (by simp)

theorem mem_names_ofList {entries : List (String × α)} {name : String} :
    name ∈ (ofList entries).names ↔ name ∈ entries.map Prod.fst := by
  rw [← map_fst_toList, ofList, toList_ofNodup, lastWins, mem_map_fst_foldl_upsert]
  simp

/-- the last entry of a name wins -/
theorem get?_ofList (entries : List (String × α)) (name : String) :
    (ofList entries).get? name = entries.reverse.lookup name := by
  rw [get?, ofList, toList_ofNodup, lastWins, lookup_foldl_upsert]
  exact Option.or_none

/-- an object is built from its members -/
theorem ofList_toList (o : Object α) : ofList o.toList = o := ext_toList (toList_ofList_of_nodup o.nodup_toList)

theorem toList_merge (o other : Object α) :
    (o.merge other).toList = other.toList.foldl (fun acc e => upsert e.1 e.2 acc) o.toList := by
  rw [merge]
  generalize other.toList = entries
  induction entries generalizing o with
  | nil => rfl
  | cons e rest ih => rw [List.foldl_cons, ih, toList_insert, List.foldl_cons]

/-- the members of the other object win -/
theorem get?_merge (o other : Object α) (name : String) :
    (o.merge other).get? name = (other.get? name).or (o.get? name) := by
  rw [get?, toList_merge, lookup_foldl_upsert, ← get?_ofList, ofList_toList]
  rfl

end Object

end ValueSchema
