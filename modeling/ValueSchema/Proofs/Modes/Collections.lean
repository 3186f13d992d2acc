import ValueSchema.Proofs.Modes.Abridged
import ValueSchema.Proofs.Schema.Parts

/-!
Collections abridge what they collect.

`Validator.Abridged a words f` says that the validator `f` comes to an end in the setting `a` whenever it does when it
collects issues in the words of a catalog, and then gives the same output or abridges the issues. Every collection has
this of its parts: an early return leaves out only what comes after the first issue, and trailing issues come last in
both settings.
-/

namespace ValueSchema

namespace Validator

/-- the same output as when all issues are collected, or issues that abridge those -/
def Abridged (a : Context) (words : Catalog) (f : Validator) : Prop :=
  ∀ v, Follows (Part.Abridges a words) (f a v) (f ⟨words, .collect⟩ v)

section Collections

variable {a : Context} {words : Catalog} {element key value f : Validator}

theorem wrongKind_abridges (expected : String) (v : Value) (own : Option String) :
    Follows (Part.Abridges a words) (some (a.wrongKind expected v own))
      (some (Context.wrongKind ⟨words, .collect⟩ expected v own)) := .some (.fail _ _)

theorem child_abridges (hf : f.Abridged a words) (segment : Segment) (v : Value) :
    Follows (Part.Abridges a words) (f.child segment a v) (f.child segment ⟨words, .collect⟩ v) :=
  (hf v).map fun _ _ h => h.within segment

/-! ## Arrays, sets and tuples -/

theorem elements_abridges (he : element.Abridged a words) (vs : List Value) :
    Follows (Part.RunAbridges a words) (element.elements a vs) (element.elements ⟨words, .collect⟩ vs) :=
  Part.run_abridges fun e _ => child_abridges he (.index e.2) e.1

theorem array_abridged (he : element.Abridged a words) (sizes : Checks SizeTest) :
    (array element sizes).Abridged a words := by
  intro v
  cases v with
  | array items =>
    refine (elements_abridges he items).map fun ps qs h => ?_
    exact close_abridges h.issues (Checks.firstIssue_abridges ..) fun hnil => congrArg Value.array (h.values hnil)
  | _ => exact wrongKind_abridges _ _ _

/-- the size that counts is the same: that of the set returned, or that of the input when an element failed -/
theorem set_abridged (he : element.Abridged a words) (sizes : Checks SizeTest) :
    (set element sizes).Abridged a words := by
  intro v
  cases v with
  | set vs =>
    refine (elements_abridges he vs).map fun ps qs h => ?_
    have hsize : (if (Part.allIssues ps).isEmpty then (Value.distinct (Part.values ps)).length else vs.length) =
        if (Part.allIssues qs).isEmpty then (Value.distinct (Part.values qs)).length else vs.length := by
      by_cases hnil : Part.allIssues ps = []
      · rw [hnil, h.issues.eq_nil_iff.1 hnil, h.values hnil]
      · rw [if_neg (by simpa using hnil), if_neg (by simpa using mt h.issues.eq_nil_iff.2 hnil)]
    simp only [hsize]
    refine close_abridges h.issues (Checks.firstIssue_abridges ..) fun hnil => ?_
    rw [h.values hnil]
  | _ => exact wrongKind_abridges _ _ _

theorem tuple_abridged {items : List Validator} (hi : ∀ f ∈ items, f.Abridged a words) :
    (tuple items).Abridged a words := by
  intro v
  cases v with
  | array vs =>
    unfold tuple
    by_cases hlen : vs.length = items.length
    · simp only [if_pos hlen]
      have hrun : Follows (Part.RunAbridges a words)
          (Part.run a.mode (fun e => e.1.1.child (.index e.2) a e.1.2) (items.zip vs).zipIdx)
          (Part.run .collect (fun e => e.1.1.child (.index e.2) ⟨words, .collect⟩ e.1.2) (items.zip vs).zipIdx) := by
        refine Part.run_abridges fun e he => ?_
        have hmem : e.1 ∈ items.zip vs := List.fst_mem_of_mem_zipIdx he
        exact child_abridges (hi _ (List.of_mem_zip hmem).1) (.index e.2) e.1.2
      refine hrun.map fun ps qs h => settle_abridges h.issues fun hnil => ?_
      rw [h.values hnil]
    · simp only [if_neg hlen]
      exact .some (.fail _ _)
  | _ => exact wrongKind_abridges _ _ _

/-! ## Records and maps -/

theorem refusedKey_abridges (name : String) {is js : List Issue} (h : Issue.ListAbridges a words is js) :
    (refusedKey a name is).Abridges a words (refusedKey ⟨words, .collect⟩ name js) := by
  refine Issue.Abridges.within ?_ (.key name)
  have hcause : (a.issue (.invalidKey name) none).Abridges a words _ := .cause (.invalidKey name) none
  exact { hcause with nested := h.length_le }

theorem recordKey_abridges {key : Option Validator} (hk : ∀ f ∈ key, f.Abridged a words) (name : String) :
    Follows (Part.Abridges a words) (recordKey key a name) (recordKey key ⟨words, .collect⟩ name) := by
  unfold recordKey
  by_cases hd : Key.isDangerous name = true
  · simp only [if_pos hd]
    exact .some (.one (refusedKey_abridges name .nil))
  · simp only [if_neg hd]
    cases key with
    | none => exact .some (.ok name)
    | some f =>
      refine (hk f rfl (.string name)).map fun p q h => ?_
      cases h with
      | ok w =>
        cases w with
        | string other =>
          by_cases ho : Key.isDangerous other = true
          · simp only [if_pos ho]
            exact .one (refusedKey_abridges name .nil)
          · simp only [if_neg ho]
            exact .ok other
        | _ => exact .ok name
      | error ne h => exact .one (refusedKey_abridges name h)

theorem recordEntry_abridges {key : Option Validator} (hk : ∀ f ∈ key, f.Abridged a words) (hv : value.Abridged a words)
    (e : String × Value) :
    Follows (Part.Abridges a words) (recordEntry key value a e) (recordEntry key value ⟨words, .collect⟩ e) := by
  refine (recordKey_abridges hk e.1).bind fun p q h => ?_
  cases h with
  | ok name => exact (child_abridges hv (.key e.1) e.2).map fun p q h => h.map _
  | error ne h => exact .some (.error ne h)

theorem record_abridged {key : Option Validator} (hk : ∀ f ∈ key, f.Abridged a words) (hv : value.Abridged a words) :
    (record key value).Abridged a words := by
  intro v
  cases v with
  | object o =>
    refine (Part.run_abridges fun e _ => recordEntry_abridges hk hv e).map fun ps qs h => ?_
    refine settle_abridges h.issues fun hnil => ?_
    rw [h.values hnil]
  | _ => exact wrongKind_abridges _ _ _

/-- a key that fails ends its entry only when the first issue decides -/
theorem mapEntry_abridges (hk : key.Abridged a words) (hv : value.Abridged a words) (e : (Value × Value) × Nat) :
    Follows (Part.Abridges a words) (mapEntry key value a e) (mapEntry key value ⟨words, .collect⟩ e) := by
  unfold mapEntry
  have placed (name : String) {p q : Part Value} (h : p.Abridges a words q) :
      ((p.within (.key name)).within (.index e.2)).Abridges a words ((q.within (.key name)).within (.index e.2)) :=
    (h.within _).within _
  have hkey := (hk e.1.1).map fun p q h => placed "key" h
  have hvalue := (hv e.1.2).map fun p q h => placed "value" h
  refine hkey.bind fun p q h => ?_
  rw [stops_collect, if_neg Bool.false_ne_true]
  cases h with
  | ok k =>
    simp only [Part.issues, stops_nil, Bool.false_eq_true, if_false]
    refine hvalue.map fun r s h => ?_
    cases h with
    | ok w => exact .ok (k, w)
    | error ne h => exact .error ne h
  | @error is js ne h =>
    have hissues : Part.issues (.error is : Part Value) = is := rfl
    rw [hissues]
    by_cases hs : a.mode.stops is = true
    · rw [if_pos hs]
      intro r hr
      obtain ⟨s, -, rfl⟩ := Option.map_eq_some_iff.1 hr
      exact ⟨_, rfl, .error ne (h.append_right ne s.issues)⟩
    · rw [if_neg hs]
      refine hvalue.map fun r s hrs => ?_
      exact .error (List.append_ne_nil_of_left_ne_nil ne _) (h.append hrs.issues (eq_collect_of_not_stops hs))

theorem map_abridged (hk : key.Abridged a words) (hv : value.Abridged a words) : (map key value).Abridged a words := by
  intro v
  cases v with
  | map entries =>
    refine (Part.run_abridges fun e _ => mapEntry_abridges hk hv e).map fun ps qs h => ?_
    refine settle_abridges h.issues fun hnil => ?_
    rw [h.values hnil]
  | _ => exact wrongKind_abridges _ _ _

/-! ## Objects -/

theorem field_abridges (hf : f.Abridged a words) (o : Object Value) (name : String) :
    Follows (Part.Abridges a words) (field a o (name, f)) (field ⟨words, .collect⟩ o (name, f)) :=
  (child_abridges hf (.key name) _).map fun _ _ h => h.map _

theorem keepExtras_abridges {unknown : UnknownKeys Validator} (hu : ∀ f ∈ unknown.parts, f.Abridged a words)
    (es : List (String × Value)) :
    Follows (Part.RunAbridges a words) (keepExtras unknown a es) (keepExtras unknown ⟨words, .collect⟩ es) := by
  cases unknown with
  | strip => exact .some ⟨.nil, fun _ => rfl⟩
  | strict =>
    cases es with
    | nil => exact .some ⟨.nil, fun _ => rfl⟩
    | cons e es => exact .some ⟨.one (.cause _ none) [], fun _ => rfl⟩
  | passthrough =>
    refine .some ⟨?_, fun _ => rfl⟩
    rw [Part.allIssues_map_ok]
    exact .nil
  | catchall f =>
    have hf : f.Abridged a words := hu f (by simp [UnknownKeys.parts])
    exact Part.run_abridges fun e _ => (child_abridges hf (.key e.1) e.2).map fun p q h => h.map _

/-- issues of fields come before those of undescribed members, which are looked at only if no field has decided -/
theorem object_abridged {fields : List (String × Validator)} {unknown : UnknownKeys Validator}
    (hf : ∀ f ∈ fields, f.2.Abridged a words) (hu : ∀ f ∈ unknown.parts, f.Abridged a words) :
    (object fields unknown).Abridged a words := by
  intro v
  cases v with
  | object o =>
    have hknown : Follows (Part.RunAbridges a words) (Part.run a.mode (field a o) fields)
        (Part.run .collect (field ⟨words, .collect⟩ o) fields) :=
      Part.run_abridges fun e he => field_abridges (hf e he) o e.1
    refine hknown.bind fun ps qs h => ?_
    simp only [stops_collect, Bool.false_eq_true, if_false]
    have hextras := keepExtras_abridges hu (extras fields o)
    by_cases hs : a.mode.stops (Part.allIssues ps) = true
    · rw [if_pos hs]
      intro r hr
      obtain ⟨others, -, rfl⟩ := Option.map_eq_some_iff.1 hr
      exact ⟨_, rfl, stops_abridges h.issues (stops_eq_true_iff.1 hs).2⟩
    · rw [if_neg hs]
      refine hextras.map fun ps' qs' h' => ?_
      refine settle_abridges (h.issues.append h'.issues (eq_collect_of_not_stops hs)) fun hnil => ?_
      obtain ⟨hnil, hnil'⟩ := List.append_eq_nil_iff.1 hnil
      rw [h.values hnil, h'.values hnil']
  | _ => exact wrongKind_abridges _ _ _

end Collections

end Validator

end ValueSchema
