import ValueSchema.Proofs.Order.Alike
import ValueSchema.Proofs.Value.WellFormed

/-!
Values through JSON and back.

On its way into JSON a value loses what JSON has no word for: members drop out, values turn into null or into text, and
members take the order of their names. All of this happens once. What comes back is made of null, truth values, finite
numbers, texts, arrays and objects, and says the same JSON again; and a value made of these alone comes back as it was,
but for the order of members. Numbers are written as doubles, and no double is read as a big integer, however large.

Results:
- `canonical_toJson`, `toJson_ofJson`: the JSON of values is canonical, and canonical JSON comes back.
- `JsonLike.alike`, `JsonLike.of_alike`: the values that come back up to the order of members.
- `json_there_and_back`: conversion to JSON is stable and faithful.
-/

namespace ValueSchema

/-! ## Members in order of their names -/

section Sorted

variable {α : Type}

theorem pairwise_sortByName (es : List (String × α)) : (sortByName es).Pairwise fun e f => ¬ f.1 < e.1 := by
  have htrans : ∀ e f g : String × α, (!decide (f.1 < e.1)) = true → (!decide (g.1 < f.1)) = true →
      (!decide (g.1 < e.1)) = true := by
    intro e f g hef hfg
    simp only [Bool.not_eq_true', decide_eq_false_iff_not, String.not_lt] at *
    exact String.le_trans hef hfg
  have htotal : ∀ e f : String × α, ((!decide (f.1 < e.1)) || !decide (e.1 < f.1)) = true := by
    intro e f
    simp only [Bool.or_eq_true, Bool.not_eq_true', decide_eq_false_iff_not, String.not_lt]
    exact String.le_total e.1 f.1
  have hpairwise := List.pairwise_mergeSort htrans htotal es
  exact hpairwise.imp fun hef => by simpa using hef

theorem sortByName_of_pairwise {es : List (String × α)} (h : es.Pairwise fun e f => ¬ f.1 < e.1) :
    sortByName es = es := by
  refine List.mergeSort_of_pairwise ?_
  simpa only [Bool.not_eq_true', decide_eq_false_iff_not] using h

namespace Object

variable (o : Object α)

@[simp] theorem toList_sorted : o.sorted.toList = sortByName o.toList := toList_ofNodup _ _

/-- sorted members are those there were -/
theorem toList_sorted_perm : o.sorted.toList.Perm o.toList := by
  rw [toList_sorted]
  exact List.mergeSort_perm _ _

theorem sorted_sorted : o.sorted.sorted = o.sorted := by
  refine ext_toList ?_
  rw [toList_sorted, toList_sorted]
  exact sortByName_of_pairwise (pairwise_sortByName _)

end Object

end Sorted

/-! ## Canonical JSON -/

namespace Json

/-- JSON as values are written: numbers are finite doubles, and members stand in order of their names, at every depth -/
inductive Canonical : Json → Prop
  | null : Canonical .null
  | bool (b : Bool) : Canonical (.bool b)
  | number {x : Double} : x.isFinite = true → Canonical (.number (.float x))
  | string (s : String) : Canonical (.string s)
  | array {items : List Json} : (∀ j ∈ items, Canonical j) → Canonical (.array items)
  | object {o : Object Json} : o.sorted = o → (∀ e ∈ o.toList, Canonical e.2) → Canonical (.object o)

theorem canonical_ofMembers {es : List (String × Json)} (h : ∀ e ∈ es, e.2.Canonical) : (ofMembers es).Canonical := by
  refine .object (Object.sorted_sorted _) fun e he => h e ?_
  exact Object.mem_of_mem_ofList ((Object.toList_sorted_perm _).mem_iff.1 he)

theorem ofMembers_toList {o : Object Json} (h : o.sorted = o) : ofMembers o.toList = .object o := by
  rw [ofMembers, Object.ofList_toList, h]

end Json

namespace Value

/-! ## One level of the conversions -/

theorem toJsonList_eq (vs : List Value) : toJsonList vs = vs.map toJson := by
  induction vs with
  | nil => rfl
  | cons v rest ih => rw [toJsonList, ih, List.map_cons]

theorem toJsonEntries_eq (es : List (Value × Value)) :
    toJsonEntries es = es.map fun e => .array [e.1.toJson, e.2.toJson] := by
  induction es with
  | nil => rfl
  | cons e rest ih => rw [toJsonEntries, ih, List.map_cons]

/-- the members that an object speaks of, in its order -/
def spokenMembers (o : Object Value) : List (String × Json) :=
  (o.toList.filter fun e => !e.2.isUnspoken).map fun e => (e.1, e.2.toJson)

theorem toJsonMembers_eq {names : List String} (m : Members Value names) :
    toJsonMembers m = (m.toList.filter fun e => !e.2.isUnspoken).map fun e => (e.1, e.2.toJson) := by
  induction m with
  | nil => rfl
  | cons name v rest ih =>
    rw [toJsonMembers, Members.toList]
    cases hv : v.isUnspoken with
    | true => simp [hv, ih]
    | false => simp [hv, ih]

theorem toJson_object (o : Object Value) : (object o).toJson = Json.ofMembers (spokenMembers o) := by
  obtain ⟨m, nodup⟩ := o
  exact congrArg Json.ofMembers (toJsonMembers_eq m)

theorem ofJsonList_eq (js : List Json) : ofJsonList js = js.map ofJson := by
  induction js with
  | nil => rfl
  | cons j rest ih => rw [ofJsonList, ih, List.map_cons]

theorem toList_ofJsonMembers {names : List String} (m : Members Json names) :
    (ofJsonMembers m).toList = m.toList.map fun e => (e.1, ofJson e.2) := by
  induction m with
  | nil => rfl
  | cons name j rest ih => rw [ofJsonMembers, Members.toList, ih, Members.toList, List.map_cons]

theorem ofJson_object (o : Object Json) : ofJson (.object o) = object (o.mapValues fun _ => ofJson) := by
  obtain ⟨m, nodup⟩ := o
  refine congrArg object (Object.ext_toList ?_)
  rw [Object.toList_mapValues]
  exact toList_ofJsonMembers m

theorem isUnspoken_ofJson (j : Json) : (ofJson j).isUnspoken = false := by
  cases j with
  | number n =>
    cases n with
    | float x => rfl
    | integer n =>
      rw [ofJson, ofJsonNumber]
      split_ifs
      · cases BigInt.ofInt? n <;> rfl
      · rfl
  | object o =>
    rw [ofJson_object]
    rfl
  | _ => rfl

/-! ## Stability -/

/-- **The JSON of a value is canonical**, whatever is in the value. -/
theorem canonical_toJson (v : Value) : v.toJson.Canonical := by
  induction v using height_induction with
  | step v ih =>
    cases v with
    | number x =>
      rw [toJson]
      split_ifs with hfinite
      · exact .number hfinite
      · exact .null
    | array items =>
      rw [toJson, toJsonList_eq]
      refine .array (List.forall_mem_map.2 fun u hu => ?_)
      exact ih u (height_lt_array hu)
    | set elements =>
      rw [toJson, toJsonList_eq]
      refine .array (List.forall_mem_map.2 fun u hu => ?_)
      exact ih u (height_lt_set hu)
    | map entries =>
      rw [toJson, toJsonEntries_eq]
      refine .array (List.forall_mem_map.2 fun e he => .array ?_)
      have hentry := height_lt_map he
      simpa using And.intro (ih e.1 hentry.1) (ih e.2 hentry.2)
    | object o =>
      rw [toJson_object]
      refine Json.canonical_ofMembers (List.forall_mem_map.2 fun e he => ?_)
      exact ih e.2 (height_lt_object (List.mem_of_mem_filter he))
    | undefined => exact .null
    | null => exact .null
    | symbol _ => exact .null
    | bool b => exact .bool b
    | bigint n => exact .string _
    | string s => exact .string s
    | date t => exact .string _

/-- nothing that was read from JSON is left out when it is said again -/
theorem spokenMembers_mapValues (o : Object Json) :
    spokenMembers (o.mapValues fun _ => ofJson) = o.toList.map fun e => (e.1, (ofJson e.2).toJson) := by
  have hspoken : ∀ e ∈ o.toList.map fun e => (e.1, ofJson e.2), (!e.2.isUnspoken) = true := by
    refine List.forall_mem_map.2 fun e _ => ?_
    rw [isUnspoken_ofJson, Bool.not_false]
  rw [spokenMembers, Object.toList_mapValues, List.filter_eq_self.2 hspoken, List.map_map]
  rfl

/-- **Canonical JSON comes back** from the value it is read as. -/
theorem toJson_ofJson {j : Json} (h : j.Canonical) : (ofJson j).toJson = j := by
  induction h with
  | null => rfl
  | bool b => rfl
  | string s => rfl
  | number hfinite => exact if_pos hfinite
  | @array items _ ih =>
    rw [ofJson, toJson, ofJsonList_eq, toJsonList_eq, List.map_map]
    have hitems : items.map (toJson ∘ ofJson) = items := (List.map_congr_left ih).trans (List.map_id _)
    rw [hitems]
  | @object o hsorted _ ih =>
    have hmembers : (o.toList.map fun e => (e.1, (ofJson e.2).toJson)) = o.toList := by
      refine (List.map_congr_left fun e he => ?_).trans (List.map_id _)
      rw [ih e he]
      rfl
    rw [ofJson_object, toJson_object, spokenMembers_mapValues, hmembers, Json.ofMembers_toList hsorted]

/-! ## Faithfulness -/

/-- of a kind that JSON has: null, a truth value, a finite number, a text, an array or an object -/
def HasJsonForm : Value → Prop
  | .null => True
  | .bool _ => True
  | .number x => x.isFinite = true
  | .string _ => True
  | .array _ => True
  | .object _ => True
  | _ => False

/-- made of what JSON has, at every depth -/
inductive JsonLike : Value → Prop
  | intro {v : Value} : v.HasJsonForm → (∀ u ∈ v.parts, JsonLike u) → JsonLike v

variable {v w : Value}

theorem JsonLike.here : v.JsonLike → v.HasJsonForm
  | .intro h _ => h

theorem JsonLike.parts : v.JsonLike → ∀ u ∈ v.parts, u.JsonLike
  | .intro _ h => h

theorem JsonLike.members {o : Object Value} (h : (object o).JsonLike) : ∀ e ∈ o.toList, e.2.JsonLike := by
  have hparts : (object o).parts = o.toList.map Prod.snd := rfl
  have hinside := h.parts
  rw [hparts, List.forall_mem_map] at hinside
  exact hinside

theorem jsonLike_object {o : Object Value} (h : ∀ e ∈ o.toList, e.2.JsonLike) : (object o).JsonLike := by
  have hparts : (object o).parts = o.toList.map Prod.snd := rfl
  refine .intro trivial ?_
  rw [hparts, List.forall_mem_map]
  exact h

/-- what is read from canonical JSON is made of what JSON has; in particular no number is read as a big integer -/
theorem jsonLike_ofJson {j : Json} (h : j.Canonical) : (ofJson j).JsonLike := by
  induction h with
  | null => exact .intro trivial nofun
  | bool b => exact .intro trivial nofun
  | string s => exact .intro trivial nofun
  | number hfinite => exact .intro hfinite nofun
  | array _ ih =>
    rw [ofJson, ofJsonList_eq]
    exact .intro trivial (List.forall_mem_map.2 ih)
  | object _ _ ih =>
    rw [ofJson_object]
    refine jsonLike_object ?_
    rw [Object.toList_mapValues]
    exact List.forall_mem_map.2 ih

/-- a value that JSON has is no member that an object leaves out -/
theorem JsonLike.isUnspoken_eq (h : v.JsonLike) : v.isUnspoken = false := by
  have hform := h.here
  cases v with
  | undefined => exact hform.elim
  | symbol => exact hform.elim
  | _ => rfl

/-- an object of such values speaks of all its members -/
theorem JsonLike.toJson_object {o : Object Value} (h : (object o).JsonLike) :
    (object o).toJson = .object (o.mapValues fun _ => toJson).sorted := by
  have hspoken : ∀ e ∈ o.toList, (!e.2.isUnspoken) = true := by
    intro e he
    rw [(h.members e he).isUnspoken_eq, Bool.not_false]
  have hmembers : spokenMembers o = (o.mapValues fun _ => toJson).toList := by
    rw [spokenMembers, List.filter_eq_self.2 hspoken, Object.toList_mapValues]
  rw [Value.toJson_object, hmembers, Json.ofMembers, Object.ofList_toList]

/-- **Values that JSON has come back** from their JSON, up to the order of members. -/
theorem JsonLike.alike (h : v.JsonLike) : (ofJson v.toJson).Alike v := by
  induction h with
  | @intro v hform hparts ih =>
    cases v with
    | null => exact .refl _
    | bool b => exact .refl _
    | string s => exact .refl _
    | number x =>
      have hjson : (number x).toJson = .number (.float x) := if_pos hform
      rw [hjson]
      exact .refl _
    | array items =>
      rw [toJson, toJsonList_eq, ofJson, ofJsonList_eq, List.map_map]
      refine .array ?_
      rw [List.forall₂_map_left_iff, List.forall₂_same]
      exact ih
    | object o =>
      rw [(JsonLike.intro hform hparts).toJson_object, ofJson_object, alike_object_iff_perm]
      -- the members that come back, in the order in which the object had them
      refine ⟨o.toList.map fun e => (e.1, ofJson e.2.toJson), ?_, ?_⟩
      · have hperm := ((o.mapValues fun _ => toJson).toList_sorted_perm).map fun e => (e.1, ofJson e.2)
        rw [Object.toList_mapValues] at hperm ⊢
        rwa [List.map_map] at hperm
      · rw [List.forall₂_map_left_iff, List.forall₂_same]
        exact fun e he => ⟨rfl, ih e.2 (List.mem_map_of_mem he)⟩
    | _ => exact hform.elim

/-- the order of members has no say in what a value is made of -/
theorem JsonLike.of_alike (h : v.JsonLike) (hvw : v.Alike w) : w.JsonLike := by
  induction h generalizing w with
  | @intro v hform hparts ih =>
    cases hvw with
    | refl => exact .intro hform hparts
    | array hxy =>
      refine .intro trivial fun y hy => ?_
      obtain ⟨x, hx, halike⟩ := exists_left_of_forall₂ hxy hy
      exact ih x hx halike
    | set => exact hform.elim
    | map => exact hform.elim
    | @object a b hab =>
      refine jsonLike_object fun f hf => ?_
      obtain ⟨e, he, -, halike⟩ := exists_member_of_alike (Alike.object hab).symm hf
      exact ih e.2 (List.mem_map_of_mem he) halike.symm

/-! ## Places -/

/-- the value at the end of a path, through members of objects and items of arrays -/
def atPath? : Value → Path → Option Value
  | v, [] => some v
  | v, .key name :: path => (v.get? name).bind (atPath? · path)
  | v, .index position :: path => (v.element? position).bind (atPath? · path)

/-- alike values hold alike values at the end of every path -/
theorem Alike.exists_atPath? (h : v.Alike w) {path : Path} {x : Value} (hx : v.atPath? path = some x) :
    ∃ y, w.atPath? path = some y ∧ x.Alike y := by
  induction path generalizing v w with
  | nil =>
    cases hx
    exact ⟨w, rfl, h⟩
  | cons segment path ih =>
    cases segment with
    | key name =>
      obtain ⟨v', hv', hrest⟩ := Option.bind_eq_some_iff.1 hx
      obtain ⟨o, rfl, hget⟩ := get?_eq_some hv'
      obtain ⟨p, rfl, hmembers⟩ := h.of_object
      have hmember := hmembers name
      rw [hget] at hmember
      obtain ⟨w', hw', halike⟩ := optionRel_some_left hmember
      obtain ⟨y, hy, hxy⟩ := ih halike hrest
      exact ⟨y, Option.bind_eq_some_iff.2 ⟨w', hw', hy⟩, hxy⟩
    | index position =>
      obtain ⟨v', hv', hrest⟩ := Option.bind_eq_some_iff.1 hx
      obtain ⟨items, rfl, hitem⟩ := element?_eq_some hv'
      obtain ⟨others, rfl, hitems⟩ := h.of_array
      obtain ⟨w', hw', halike⟩ := getElem?_of_forall₂ hitems hitem
      obtain ⟨y, hy, hxy⟩ := ih halike hrest
      exact ⟨y, Option.bind_eq_some_iff.2 ⟨w', hw', hy⟩, hxy⟩

/-- **JSON is stable and faithful.** Whatever a value is, its JSON read as a value says the same JSON again, and nothing in
what is read is of a kind that JSON does not have: no number comes back as a big integer. Exactly the values made of null,
truth values, finite numbers, texts, arrays and objects come back as they were, up to the order of members; their numbers
come back at their places, each as the same number. -/
theorem json_there_and_back :
    (∀ v : Value, (ofJson v.toJson).toJson = v.toJson) ∧
      (∀ v : Value, (ofJson v.toJson).JsonLike) ∧
      (∀ v : Value, v.JsonLike ↔ (ofJson v.toJson).Alike v) ∧
      ∀ v : Value, v.JsonLike → ∀ path x, v.atPath? path = some (number x) →
        (ofJson v.toJson).atPath? path = some (number x) := by
  refine ⟨fun v => toJson_ofJson (canonical_toJson v), fun v => jsonLike_ofJson (canonical_toJson v), fun v => ?_, ?_⟩
  · constructor
    · exact JsonLike.alike
    · exact fun halike => (jsonLike_ofJson (canonical_toJson v)).of_alike halike
  · intro v h path x hx
    obtain ⟨u, hu, halike⟩ := h.alike.symm.exists_atPath? hx
    cases halike
    exact hu

/-- a number that JSON texts would spell as a large integer, in an object whose members change places -/
theorem large_number_stays_number :
    (object (Object.ofList [("b", null), ("a", array [bool true, number (.ofInt 1152921504606846976)])])).JsonLike ∧
      (ofJson (object (Object.ofList
        [("b", null), ("a", array [bool true, number (.ofInt 1152921504606846976)])])).toJson).atPath?
        [.key "a", .index 1] = some (number (.ofInt 1152921504606846976)) := by
  obtain ⟨-, -, -, hplaces⟩ := json_there_and_back
  have hfinite : (Double.ofInt 1152921504606846976).isFinite = true := by decide +kernel
  have hitems : (array [bool true, number (.ofInt 1152921504606846976)]).JsonLike :=
    .intro trivial (List.forall_mem_cons.2 ⟨.intro trivial nofun, List.forall_mem_singleton.2 (.intro hfinite nofun)⟩)
  have hobject : (object (Object.ofList
      [("b", null), ("a", array [bool true, number (.ofInt 1152921504606846976)])])).JsonLike :=
    jsonLike_object (List.forall_mem_cons.2 ⟨.intro trivial nofun, List.forall_mem_singleton.2 hitems⟩)
  exact ⟨hobject, hplaces _ hobject [.key "a", .index 1] _ rfl⟩

end Value

end ValueSchema
