import Mathlib.Data.List.Forall2
import ValueSchema.Proofs.Explained

/-!
What acceptance by a combinator says of its parts.

A collection accepts a value exactly when each part accepts its piece of it and the bounds of the whole hold; the output
is put together from the outputs of the parts. One equivalence for each collection, `array_eq_ok_iff` to
`object_eq_ok_iff`, says which pieces, which bounds and which output. They hold of parts that never fail without an
issue.
-/

namespace ValueSchema

/-- an answer that is an output -/
def Accepted (answer : Option Outcome) : Prop := ∃ w, answer = some (.ok w)

namespace Part

variable {α β : Type}

/-- a run gives values without an issue exactly when each part gives its value -/
theorem run_eq_ok_iff (mode : Mode) {part : β → Option (Part α)} {bs : List β} {as : List α}
    (explained : ∀ b ∈ bs, part b ≠ some (.error [])) :
    (∃ ps, run mode part bs = some ps ∧ allIssues ps = [] ∧ values ps = as) ↔
      List.Forall₂ (fun b a => part b = some (.ok a)) bs as := by
  constructor
  · rintro ⟨ps, hps, hn, rfl⟩
    obtain ⟨as, rfl, has⟩ := forall₂_of_run hps explained hn
    rwa [values_map_ok]
  · intro h
    exact ⟨as.map .ok, run_of_forall₂ mode h, allIssues_map_ok as, values_map_ok as⟩

/-- a run that is settled into an output gives one exactly when each part gives its value -/
theorem settle_run_eq_ok_iff {mode : Mode} {part : β → Option (Part α)} {bs : List β} (output : List α → Value)
    (explained : ∀ b ∈ bs, part b ≠ some (.error [])) {w : Value} :
    (run mode part bs).map (fun ps => settle (allIssues ps) (output (values ps))) = some (.ok w) ↔
      ∃ as, List.Forall₂ (fun b a => part b = some (.ok a)) bs as ∧ w = output as := by
  constructor
  · intro h
    obtain ⟨ps, hps, h⟩ := Option.map_eq_some_iff.1 h
    obtain ⟨hn, rfl⟩ := settle_eq_ok_iff.1 h
    exact ⟨values ps, (run_eq_ok_iff mode explained).1 ⟨ps, hps, hn, rfl⟩, rfl⟩
  · rintro ⟨as, has, rfl⟩
    obtain ⟨ps, hps, hn, rfl⟩ := (run_eq_ok_iff mode explained).2 has
    exact Option.map_eq_some_iff.2 ⟨ps, hps, settle_eq_ok_iff.2 ⟨hn, rfl⟩⟩

end Part

namespace Validator

theorem wrongKind_ne_ok {ctx : Context} {expected : String} {v w : Value} {own : Option String} :
    some (ctx.wrongKind expected v own) ≠ some (.ok w) := by simp [Context.wrongKind, Context.fail]

theorem child_eq_ok_iff {a : Validator} {segment : Segment} {ctx : Context} {v w : Value} :
    a.child segment ctx v = some (.ok w) ↔ a ctx v = some (.ok w) := by
  simp only [child, Option.map_eq_some_iff]
  constructor
  · rintro ⟨p, hp, hw⟩
    cases p with
    | ok u => cases hw; exact hp
    | error => simp [Part.within] at hw
  · exact fun h => ⟨_, h, rfl⟩

theorem close_eq_ok_iff {mode : Mode} {partIssues wholeIssues : List Issue} {output w : Value} :
    close mode partIssues wholeIssues output = .ok w ↔ partIssues = [] ∧ wholeIssues = [] ∧ output = w := by
  unfold close
  split_ifs with hs
  · simp [(stops_eq_true_iff.1 hs).2]
  · rw [settle_eq_ok_iff, List.append_eq_nil_iff, and_assoc]

theorem elements_eq_ok_iff {a : Validator} (ha : a.Explained) {ctx : Context} {vs ws : List Value} :
    (∃ ps, a.elements ctx vs = some ps ∧ Part.allIssues ps = [] ∧ Part.values ps = ws) ↔
      List.Forall₂ (fun v w => a ctx v = some (.ok w)) vs ws := by
  simp only [elements]
  rw [Part.run_eq_ok_iff _ fun e _ => child_ne_unexplained ha _ _ _]
  conv_rhs => rw [← List.zipIdx_map_fst 0 vs, List.forall₂_map_left_iff]
  simp only [child_eq_ok_iff]

/-! ## Sequences -/

theorem array_eq_ok_iff {a : Validator} (ha : a.Explained) {sizes : Checks SizeTest} {ctx : Context} {v w : Value} :
    array a sizes ctx v = some (.ok w) ↔
      ∃ xs ys, v = .array xs ∧ w = .array ys ∧ List.Forall₂ (fun x y => a ctx x = some (.ok y)) xs ys ∧
        sizes.sizeIssues .array ctx xs.length = [] := by
  constructor
  · intro h
    cases v with
    | array xs =>
      obtain ⟨ps, hps, h⟩ := Option.map_eq_some_iff.1 h
      obtain ⟨hn, hsize, rfl⟩ := close_eq_ok_iff.1 h
      exact ⟨xs, Part.values ps, rfl, rfl, (elements_eq_ok_iff ha).1 ⟨ps, hps, hn, rfl⟩, hsize⟩
    | _ => exact absurd h wrongKind_ne_ok
  · rintro ⟨xs, ys, rfl, rfl, h, hsize⟩
    obtain ⟨ps, hps, hn, rfl⟩ := (elements_eq_ok_iff ha).2 h
    exact Option.map_eq_some_iff.2 ⟨ps, hps, close_eq_ok_iff.2 ⟨hn, hsize, rfl⟩⟩

theorem set_eq_ok_iff {a : Validator} (ha : a.Explained) {sizes : Checks SizeTest} {ctx : Context} {v w : Value} :
    set a sizes ctx v = some (.ok w) ↔
      ∃ xs ys, v = .set xs ∧ w = .set (Value.distinct ys) ∧ List.Forall₂ (fun x y => a ctx x = some (.ok y)) xs ys ∧
        sizes.sizeIssues .set ctx (Value.distinct ys).length = [] := by
  constructor
  · intro h
    cases v with
    | set xs =>
      obtain ⟨ps, hps, h⟩ := Option.map_eq_some_iff.1 h
      obtain ⟨hn, hsize, rfl⟩ := close_eq_ok_iff.1 h
      rw [hn] at hsize
      exact ⟨xs, Part.values ps, rfl, rfl, (elements_eq_ok_iff ha).1 ⟨ps, hps, hn, rfl⟩, hsize⟩
    | _ => exact absurd h wrongKind_ne_ok
  · rintro ⟨xs, ys, rfl, rfl, h, hsize⟩
    obtain ⟨ps, hps, hn, rfl⟩ := (elements_eq_ok_iff ha).2 h
    refine Option.map_eq_some_iff.2 ⟨ps, hps, close_eq_ok_iff.2 ⟨hn, ?_, rfl⟩⟩
    rw [hn]
    exact hsize

theorem tuple_eq_ok_iff {items : List Validator} (hi : ∀ a ∈ items, a.Explained) {ctx : Context} {v w : Value} :
    tuple items ctx v = some (.ok w) ↔
      ∃ xs ys, v = .array xs ∧ w = .array ys ∧ xs.length = items.length ∧
        List.Forall₂ (fun (e : Validator × Value) y => e.1 ctx e.2 = some (.ok y)) (items.zip xs) ys := by
  cases v with
  | array xs =>
    have hrun (ys : List Value) :
        List.Forall₂ (fun e y => e.1.1.child (.index e.2) ctx e.1.2 = some (.ok y)) (items.zip xs).zipIdx ys ↔
          List.Forall₂ (fun (e : Validator × Value) y => e.1 ctx e.2 = some (.ok y)) (items.zip xs) ys := by
      conv_rhs => rw [← List.zipIdx_map_fst 0 (items.zip xs), List.forall₂_map_left_iff]
      simp only [child_eq_ok_iff]
    have explained : ∀ e ∈ (items.zip xs).zipIdx, e.1.1.child (.index e.2) ctx e.1.2 ≠ some (.error []) := fun e he =>
      child_ne_unexplained (hi _ (List.of_mem_zip (List.fst_mem_of_mem_zipIdx he)).1) _ _ _
    unfold tuple
    by_cases hlen : xs.length = items.length
    · simp only [if_pos hlen]
      rw [Part.settle_run_eq_ok_iff .array explained]
      constructor
      · rintro ⟨ys, hys, rfl⟩
        exact ⟨xs, ys, rfl, rfl, hlen, (hrun ys).1 hys⟩
      · rintro ⟨xs', ys, hxs, rfl, -, hys⟩
        cases hxs
        exact ⟨ys, (hrun ys).2 hys, rfl⟩
    · simp only [if_neg hlen]
      constructor
      · intro h
        cases h
      · rintro ⟨xs', ys, hxs, -, hlen', -⟩
        cases hxs
        exact absurd hlen' hlen
  | _ =>
    constructor
    · exact fun h => absurd h wrongKind_ne_ok
    · rintro ⟨xs, ys, hv, -⟩
      cases hv

/-! ## Objects with any names, and maps -/

/-- the name that a validator of names puts in the place of a name: the text it makes of it, or the name itself -/
def KeptAs (key : Option Validator) (ctx : Context) (name other : String) : Prop :=
  match key with
  | none => other = name
  | some a => a ctx (.string name) = some (.ok (.string other)) ∨
      other = name ∧ ∃ w, a ctx (.string name) = some (.ok w) ∧ w.text? = none

/-- names are guarded before and after the validator of names sees them -/
theorem recordKey_eq_ok_iff {key : Option Validator} {ctx : Context} {name other : String} :
    recordKey key ctx name = some (.ok other) ↔
      Key.isDangerous name = false ∧ Key.isDangerous other = false ∧ KeptAs key ctx name other := by
  unfold recordKey KeptAs
  cases hd : Key.isDangerous name with
  | true => simp
  | false =>
    cases key with
    | none =>
      simp only [Bool.false_eq_true, if_false, Option.some.injEq, Except.ok.injEq, true_and]
      exact ⟨fun h => ⟨h ▸ hd, h.symm⟩, fun h => h.2.symm⟩
    | some a =>
      simp only [Bool.false_eq_true, if_false, Option.map_eq_some_iff, true_and]
      constructor
      · rintro ⟨o, ho, h⟩
        split at h
        · rename_i other'
          split_ifs at h with hd'
          cases h
          exact ⟨by simpa using hd', Or.inl ho⟩
        · rename_i w hw
          cases h
          refine ⟨hd, Or.inr ⟨rfl, w, ho, ?_⟩⟩
          cases w with
          | string s => exact absurd rfl (hw s)
          | _ => rfl
        · simp at h
      · rintro ⟨hd', h | ⟨rfl, w, hw, ht⟩⟩
        · exact ⟨_, h, by simp [hd']⟩
        · refine ⟨_, hw, ?_⟩
          cases w with
          | string s => simp [Value.text?] at ht
          | _ => rfl

theorem recordKey_ne_unexplained {key : Option Validator} {ctx : Context} {name : String} :
    recordKey key ctx name ≠ some (.error []) := by
  unfold recordKey
  intro h
  split_ifs at h
  · simp at h
  · split at h
    · simp at h
    · obtain ⟨o, -, h⟩ := Option.map_eq_some_iff.1 h
      split at h
      · split_ifs at h
        simp at h
      · simp at h
      · simp at h

theorem recordEntry_eq_ok_iff {key : Option Validator} {a : Validator} {ctx : Context} {e e' : String × Value} :
    recordEntry key a ctx e = some (.ok e') ↔
      recordKey key ctx e.1 = some (.ok e'.1) ∧ a ctx e.2 = some (.ok e'.2) := by
  simp only [recordEntry, Option.bind_eq_some_iff]
  constructor
  · rintro ⟨k, hk, h⟩
    cases k with
    | error => simp at h
    | ok name =>
      obtain ⟨p, hp, h⟩ := Option.map_eq_some_iff.1 h
      cases p with
      | error => simp [Part.map] at h
      | ok w =>
        cases h
        exact ⟨hk, child_eq_ok_iff.1 hp⟩
  · rintro ⟨hk, hw⟩
    exact ⟨_, hk, Option.map_eq_some_iff.2 ⟨_, child_eq_ok_iff.2 hw, rfl⟩⟩

theorem recordEntry_ne_unexplained {key : Option Validator} {a : Validator} (ha : a.Explained) {ctx : Context}
    {e : String × Value} : recordEntry key a ctx e ≠ some (.error []) := by
  simp only [recordEntry, ne_eq, Option.bind_eq_some_iff, not_exists, not_and]
  intro k hk h
  cases k with
  | error issues =>
    simp only [Option.some.injEq, Except.error.injEq] at h
    exact recordKey_ne_unexplained (h ▸ hk)
  | ok name =>
    obtain ⟨p, hp, h⟩ := Option.map_eq_some_iff.1 h
    cases p with
    | ok w => simp [Part.map] at h
    | error issues =>
      simp only [Part.map, Except.error.injEq] at h
      exact child_ne_unexplained ha _ _ _ (h ▸ hp)

theorem record_eq_ok_iff {key : Option Validator} {a : Validator} (ha : a.Explained) {ctx : Context} {v w : Value} :
    record key a ctx v = some (.ok w) ↔
      ∃ (o : Object Value) (es : List (String × Value)), v = .object o ∧ w = .object (Object.ofList es) ∧
        List.Forall₂ (fun e e' => recordKey key ctx e.1 = some (.ok e'.1) ∧ a ctx e.2 = some (.ok e'.2)) o.toList es := by
  simp only [← recordEntry_eq_ok_iff]
  cases v with
  | object o =>
    refine (Part.settle_run_eq_ok_iff (fun es => .object (Object.ofList es)) fun _ _ =>
      recordEntry_ne_unexplained ha).trans ?_
    constructor
    · rintro ⟨es, hes, rfl⟩
      exact ⟨o, es, rfl, rfl, hes⟩
    · rintro ⟨o', es, ho, rfl, hes⟩
      cases ho
      exact ⟨es, hes, rfl⟩
  | _ =>
    constructor
    · exact fun h => absurd h wrongKind_ne_ok
    · rintro ⟨o, es, hv, -⟩
      cases hv

theorem mapEntry_eq_ok_iff {key a : Validator} {ctx : Context} {e : (Value × Value) × Nat} {e' : Value × Value} :
    mapEntry key a ctx e = some (.ok e') ↔ key ctx e.1.1 = some (.ok e'.1) ∧ a ctx e.1.2 = some (.ok e'.2) := by
  simp only [mapEntry, Option.bind_eq_some_iff]
  constructor
  · rintro ⟨k, hk, h⟩
    obtain ⟨k₀, hk₀, rfl⟩ := Option.map_eq_some_iff.1 hk
    split_ifs at h
    · simp at h
    · obtain ⟨w, hw, h⟩ := Option.map_eq_some_iff.1 h
      obtain ⟨w₀, hw₀, rfl⟩ := Option.map_eq_some_iff.1 hw
      cases k₀ with
      | error => simp [Part.within] at h
      | ok k =>
        cases w₀ with
        | error => simp [Part.within] at h
        | ok w => cases h; exact ⟨hk₀, hw₀⟩
  · rintro ⟨hk, hw⟩
    refine ⟨_, Option.map_eq_some_iff.2 ⟨_, hk, rfl⟩, ?_⟩
    simp only [Part.within, Part.issues, stops_nil, Bool.false_eq_true, if_false]
    exact Option.map_eq_some_iff.2 ⟨_, Option.map_eq_some_iff.2 ⟨_, hw, rfl⟩, rfl⟩

theorem mapEntry_ne_unexplained {key a : Validator} (hk : key.Explained) (ha : a.Explained) {ctx : Context}
    {e : (Value × Value) × Nat} : mapEntry key a ctx e ≠ some (.error []) := by
  simp only [mapEntry, ne_eq, Option.bind_eq_some_iff, not_exists, not_and]
  intro k hkv h
  obtain ⟨k₀, hk₀, rfl⟩ := Option.map_eq_some_iff.1 hkv
  split_ifs at h with hs
  · rw [Option.some.injEq, Except.error.injEq] at h
    exact (stops_eq_true_iff.1 hs).2 h
  · obtain ⟨w, hw, h⟩ := Option.map_eq_some_iff.1 h
    obtain ⟨w₀, hw₀, rfl⟩ := Option.map_eq_some_iff.1 hw
    cases k₀ with
    | error is =>
      simp only [Part.within, Issue.allWithin, Part.issues, Except.error.injEq, List.append_eq_nil_iff,
        List.map_eq_nil_iff] at h
      exact hk _ _ (h.1 ▸ hk₀)
    | ok k =>
      cases w₀ with
      | ok w => simp [Part.within] at h
      | error js =>
        simp only [Part.within, Issue.allWithin, Part.issues, Except.error.injEq, List.nil_append,
          List.map_eq_nil_iff] at h
        exact ha _ _ (h ▸ hw₀)

theorem map_eq_ok_iff {key a : Validator} (hk : key.Explained) (ha : a.Explained) {ctx : Context} {v w : Value} :
    map key a ctx v = some (.ok w) ↔
      ∃ es es' : List (Value × Value), v = .map es ∧ w = Value.ofEntries es' ∧
        List.Forall₂ (fun e e' => key ctx e.1 = some (.ok e'.1) ∧ a ctx e.2 = some (.ok e'.2)) es es' := by
  cases v with
  | map es =>
    have hrun (es' : List (Value × Value)) :
        List.Forall₂ (fun e e' => mapEntry key a ctx e = some (.ok e')) es.zipIdx es' ↔
          List.Forall₂ (fun e e' => key ctx e.1 = some (.ok e'.1) ∧ a ctx e.2 = some (.ok e'.2)) es es' := by
      conv_rhs => rw [← List.zipIdx_map_fst 0 es, List.forall₂_map_left_iff]
      simp only [mapEntry_eq_ok_iff]
    refine (Part.settle_run_eq_ok_iff Value.ofEntries fun _ _ => mapEntry_ne_unexplained hk ha).trans ?_
    constructor
    · rintro ⟨es', hes, rfl⟩
      exact ⟨es, es', rfl, rfl, (hrun es').1 hes⟩
    · rintro ⟨es₀, es', hv, rfl, hes⟩
      cases hv
      exact ⟨es', (hrun es').2 hes, rfl⟩
  | _ =>
    constructor
    · exact fun h => absurd h wrongKind_ne_ok
    · rintro ⟨es, es', hv, -⟩
      cases hv

/-! ## Objects with known fields -/

/-- the member that the output of a field becomes: none where absence stays absence -/
def memberOf (o : Object Value) (name : String) (w : Value) : Option (String × Value) :=
  if o.contains name || !w.isUndefined then some (name, w) else none

theorem field_eq_ok_iff {ctx : Context} {o : Object Value} {f : String × Validator} {m : Option (String × Value)} :
    field ctx o f = some (.ok m) ↔
      ∃ w, f.2 ctx ((o.get? f.1).getD .undefined) = some (.ok w) ∧ m = memberOf o f.1 w := by
  simp only [field, Option.map_eq_some_iff]
  constructor
  · rintro ⟨p, hp, h⟩
    cases p with
    | error => simp [Part.map] at h
    | ok w =>
      cases h
      exact ⟨w, child_eq_ok_iff.1 hp, rfl⟩
  · rintro ⟨w, hw, rfl⟩
    exact ⟨_, child_eq_ok_iff.2 hw, rfl⟩

theorem field_ne_unexplained {ctx : Context} {o : Object Value} {f : String × Validator} (hf : f.2.Explained) :
    field ctx o f ≠ some (.error []) := by
  simp only [field, ne_eq, Option.map_eq_some_iff, not_exists, not_and]
  intro p hp h
  cases p with
  | ok w => simp [Part.map] at h
  | error issues =>
    simp only [Part.map, Except.error.injEq] at h
    exact child_ne_unexplained hf _ _ _ (h ▸ hp)

/-- what a policy that finds no fault keeps of the members that no field describes -/
def ExtrasKept (unknown : UnknownKeys Validator) (ctx : Context) (es others : List (String × Value)) : Prop :=
  match unknown with
  | .strip => others = []
  | .strict => es = [] ∧ others = []
  | .passthrough => others = es.filter fun e => !Key.isDangerous e.1
  | .catchall a => List.Forall₂ (fun e e' => e'.1 = e.1 ∧ a ctx e.2 = some (.ok e'.2))
      (es.filter fun e => !Key.isDangerous e.1) others

theorem catchall_eq_ok_iff {a : Validator} {ctx : Context} {e e' : String × Value} :
    (a.child (.key e.1) ctx e.2).map (Part.map (e.1, ·)) = some (.ok e') ↔
      e'.1 = e.1 ∧ a ctx e.2 = some (.ok e'.2) := by
  simp only [Option.map_eq_some_iff]
  constructor
  · rintro ⟨p, hp, h⟩
    cases p with
    | error => simp [Part.map] at h
    | ok w =>
      cases h
      exact ⟨rfl, child_eq_ok_iff.1 hp⟩
  · rintro ⟨hn, hw⟩
    exact ⟨_, child_eq_ok_iff.2 hw, by rw [Part.map, ← hn]⟩

theorem catchall_ne_unexplained {a : Validator} (ha : a.Explained) {ctx : Context} {e : String × Value} :
    (a.child (.key e.1) ctx e.2).map (Part.map (e.1, ·)) ≠ some (.error []) := by
  simp only [ne_eq, Option.map_eq_some_iff, not_exists, not_and]
  intro p hp h
  cases p with
  | ok w => simp [Part.map] at h
  | error issues =>
    simp only [Part.map, Except.error.injEq] at h
    exact child_ne_unexplained ha _ _ _ (h ▸ hp)

theorem keepExtras_eq_ok_iff {unknown : UnknownKeys Validator} (hu : ∀ a ∈ unknown.parts, a.Explained) {ctx : Context}
    {es others : List (String × Value)} :
    (∃ ps, keepExtras unknown ctx es = some ps ∧ Part.allIssues ps = [] ∧ Part.values ps = others) ↔
      ExtrasKept unknown ctx es others := by
  cases unknown with
  | strip =>
    constructor
    · rintro ⟨ps, h, -, rfl⟩; cases h; rfl
    · rintro rfl; exact ⟨[], rfl, rfl, rfl⟩
  | strict =>
    constructor
    · rintro ⟨ps, h, hn, rfl⟩
      cases es with
      | nil => cases h; exact ⟨rfl, rfl⟩
      | cons e es => cases h; simp [Part.issues] at hn
    · rintro ⟨rfl, rfl⟩; exact ⟨[], rfl, rfl, rfl⟩
  | passthrough =>
    constructor
    · rintro ⟨ps, h, -, rfl⟩; cases h; exact Part.values_map_ok _
    · rintro rfl; exact ⟨_, rfl, Part.allIssues_map_ok _, Part.values_map_ok _⟩
  | catchall a =>
    have ha : a.Explained := hu a (List.mem_singleton_self a)
    simp only [keepExtras, ExtrasKept, ← catchall_eq_ok_iff]
    exact Part.run_eq_ok_iff _ fun e _ => catchall_ne_unexplained ha

theorem object_eq_ok_iff {fields : List (String × Validator)} {unknown : UnknownKeys Validator}
    (hf : ∀ f ∈ fields, f.2.Explained) (hu : ∀ a ∈ unknown.parts, a.Explained) {ctx : Context} {v w : Value} :
    object fields unknown ctx v = some (.ok w) ↔
      ∃ (o : Object Value) (known : List (Option (String × Value))) (others : List (String × Value)), v = .object o ∧
        w = .object (Object.ofList (known.filterMap id ++ others)) ∧
        List.Forall₂ (fun f m => ∃ u, f.2 ctx ((o.get? f.1).getD .undefined) = some (.ok u) ∧ m = memberOf o f.1 u)
          fields known ∧
        ExtrasKept unknown ctx (extras fields o) others := by
  simp only [← field_eq_ok_iff]
  constructor
  · intro h
    cases v with
    | object o =>
      simp only [object, Option.bind_eq_some_iff] at h
      obtain ⟨known, hknown, h⟩ := h
      split_ifs at h with hs
      · simp at h
      obtain ⟨others, hothers, h⟩ := Option.map_eq_some_iff.1 h
      obtain ⟨hn, rfl⟩ := settle_eq_ok_iff.1 h
      obtain ⟨hn₁, hn₂⟩ := List.append_eq_nil_iff.1 hn
      exact ⟨o, Part.values known, Part.values others, rfl, rfl,
        (Part.run_eq_ok_iff _ fun f hm => field_ne_unexplained (hf f hm)).1 ⟨known, hknown, hn₁, rfl⟩,
        (keepExtras_eq_ok_iff hu).1 ⟨others, hothers, hn₂, rfl⟩⟩
    | _ => exact absurd h wrongKind_ne_ok
  · rintro ⟨o, known, others, rfl, rfl, hknown, hothers⟩
    obtain ⟨ks, hks, hn₁, rfl⟩ :=
      (Part.run_eq_ok_iff ctx.mode fun f hm => field_ne_unexplained (hf f hm)).2 hknown
    obtain ⟨os, hos, hn₂, rfl⟩ := (keepExtras_eq_ok_iff hu).2 hothers
    simp only [object, Option.bind_eq_some_iff]
    refine ⟨ks, hks, ?_⟩
    rw [hn₁, stops_nil, if_neg (by simp)]
    exact Option.map_eq_some_iff.2 ⟨os, hos, by rw [hn₂]; rfl⟩

/-! ## Choices and wrappers -/

theorem exists_of_attempt {ctx : Context} {v w : Value} {l : List (Alternative × Nat)}
    (h : attempt ctx v l = some (.ok w)) : ∃ a ∈ l, a.1.validator ctx v = some (.ok w) := by
  induction l with
  | nil => simp [attempt] at h
  | cons a rest ih =>
    simp only [attempt] at h
    split at h
    · simp at h
    · rename_i u ha
      simp only [Option.some.injEq, Except.ok.injEq] at h
      exact ⟨a, List.mem_cons_self, h ▸ ha⟩
    · have hrest : attempt ctx v rest = some (.ok w) := by
        split at h
        · simp at h
        · rename_i u hu
          simp only [Option.some.injEq, Except.ok.injEq] at h
          exact h ▸ hu
        · simp at h
      obtain ⟨b, hb, hbv⟩ := ih hrest
      exact ⟨b, List.mem_cons_of_mem _ hb, hbv⟩

/-- a pass fails if each alternative does; the failures are theirs, under their positions -/
theorem attempt_eq_error_iff {ctx : Context} {v : Value} {l : List (Alternative × Nat)} {failures : Failures} :
    attempt ctx v l = some (.error failures) ↔
      List.Forall₂ (fun a f => a.1.validator ctx v = some (.error f.2) ∧ a.2 = f.1) l failures := by
  induction l generalizing failures with
  | nil => simp [attempt, eq_comm]
  | cons a rest ih =>
    simp only [attempt, List.forall₂_cons_left_iff, ← ih]
    cases a.1.validator ctx v with
    | none => simp
    | some o =>
      cases o with
      | ok w => simp
      | error issues =>
        cases attempt ctx v rest with
        | none => simp
        | some r =>
          cases r with
          | ok w => simp
          | error others =>
            constructor
            · intro h
              cases h
              exact ⟨_, _, ⟨rfl, rfl⟩, rfl, rfl⟩
            · rintro ⟨⟨position, js⟩, fs, ⟨hjs, rfl⟩, hfs, rfl⟩
              cases hjs
              cases hfs
              rfl

/-- a union fails with one issue, about failures of its alternatives, all of which have failed -/
theorem union_eq_error {alternatives : List Alternative} {ctx : Context} {v : Value} {issues : List Issue}
    (h : union alternatives ctx v = some (.error issues)) :
    (∀ a ∈ alternatives, ∃ js, a.validator ctx v = some (.error js)) ∧
      ∃ failures, issues = [noMatch ctx failures] ∧
        ∀ js ∈ failures, ∃ a ∈ alternatives, a.validator ctx v = some (.error js) := by
  simp only [union, List.partition_eq_filter_filter, Option.bind_eq_some_iff] at h
  obtain ⟨likely, hlikely, h⟩ := h
  cases likely with
  | ok u => simp at h
  | error failures =>
    obtain ⟨unlikely, hunlikely, h⟩ := Option.map_eq_some_iff.1 h
    cases unlikely with
    | ok u => simp at h
    | error others =>
      cases h
      have hfirst := attempt_eq_error_iff.1 hlikely
      have hsecond := attempt_eq_error_iff.1 hunlikely
      constructor
      · intro a ha
        obtain ⟨i, hi⟩ : ∃ i, (a, i) ∈ alternatives.zipIdx := by
          rw [← List.zipIdx_map_fst 0 alternatives] at ha
          obtain ⟨⟨b, i⟩, hb, rfl⟩ := List.mem_map.1 ha
          exact ⟨i, hb⟩
        by_cases hadmits : a.admits v.kind = true
        · obtain ⟨f, -, hf, -⟩ := exists_right_of_forall₂ hfirst (List.mem_filter.2 ⟨hi, hadmits⟩)
          exact ⟨f.2, hf⟩
        · obtain ⟨f, -, hf, -⟩ := exists_right_of_forall₂ hsecond (List.mem_filter.2 ⟨hi, by simpa using hadmits⟩)
          exact ⟨f.2, hf⟩
      · refine ⟨_, rfl, fun js hjs => ?_⟩
        obtain ⟨position, -, hlookup⟩ := List.mem_filterMap.1 hjs
        rcases List.mem_append.1 (mem_of_lookup hlookup) with hmem | hmem
        · obtain ⟨a, ha, hjs, -⟩ := exists_left_of_forall₂ hfirst hmem
          exact ⟨a.1, List.fst_mem_of_mem_zipIdx (List.mem_of_mem_filter ha), hjs⟩
        · obtain ⟨a, ha, hjs, -⟩ := exists_left_of_forall₂ hsecond hmem
          exact ⟨a.1, List.fst_mem_of_mem_zipIdx (List.mem_of_mem_filter ha), hjs⟩

/-- a union accepts only what one of its alternatives accepts, with the output of that one -/
theorem exists_of_union {alternatives : List Alternative} {ctx : Context} {v w : Value}
    (h : union alternatives ctx v = some (.ok w)) : ∃ a ∈ alternatives, a.validator ctx v = some (.ok w) := by
  have ofZip : ∀ p : Alternative × Nat → Bool, ∀ a ∈ alternatives.zipIdx.filter p, a.1 ∈ alternatives :=
    fun p a ha => List.fst_mem_of_mem_zipIdx (List.mem_of_mem_filter ha)
  simp only [union, List.partition_eq_filter_filter, Option.bind_eq_some_iff] at h
  obtain ⟨likely, hlikely, h⟩ := h
  cases likely with
  | ok u =>
    simp only [Option.some.injEq, Except.ok.injEq] at h
    obtain ⟨a, ha, hav⟩ := exists_of_attempt (h ▸ hlikely)
    exact ⟨a.1, ofZip _ a ha, hav⟩
  | error failures =>
    obtain ⟨unlikely, hunlikely, h⟩ := Option.map_eq_some_iff.1 h
    cases unlikely with
    | ok u =>
      simp only [Except.ok.injEq] at h
      obtain ⟨a, ha, hav⟩ := exists_of_attempt (h ▸ hunlikely)
      exact ⟨a.1, ofZip _ a ha, hav⟩
    | error => simp at h

theorem intersection_eq_ok {left right : Validator} {ctx : Context} {v w : Value}
    (h : intersection left right ctx v = some (.ok w)) :
    ∃ a b, left ctx v = some (.ok a) ∧ right ctx v = some (.ok b) ∧ a.merge b = some w := by
  simp only [intersection, Option.bind_eq_some_iff] at h
  obtain ⟨l, hl, h⟩ := h
  split_ifs at h with hs
  · rw [Option.some.injEq] at h
    subst h
    simp [Part.issues] at hs
  · obtain ⟨r, hr, h⟩ := Option.map_eq_some_iff.1 h
    cases l with
    | error => simp at h
    | ok a =>
      cases r with
      | error => simp at h
      | ok b =>
        simp only at h
        split at h
        · rename_i u hu
          cases h
          exact ⟨a, b, hl, hr, hu⟩
        · simp [Context.fail] at h

theorem isUndefined_iff {v : Value} : v.isUndefined = true ↔ v = .undefined := by
  cases v <;> simp [Value.isUndefined]

theorem isNull_iff {v : Value} : v.isNull = true ↔ v = .null := by
  cases v <;> simp [Value.isNull]

theorem optional_eq_ok_iff {inner : Validator} {ctx : Context} {v w : Value} :
    optional inner ctx v = some (.ok w) ↔
      v = .undefined ∧ w = .undefined ∨ v ≠ .undefined ∧ inner ctx v = some (.ok w) := by
  unfold optional
  by_cases hv : v = .undefined
  · subst hv
    simp [Value.isUndefined, eq_comm]
  · simp [isUndefined_iff, hv]

theorem nullable_eq_ok_iff {inner : Validator} {ctx : Context} {v w : Value} :
    nullable inner ctx v = some (.ok w) ↔ v = .null ∧ w = .null ∨ v ≠ .null ∧ inner ctx v = some (.ok w) := by
  unfold nullable
  by_cases hv : v = .null
  · subst hv
    simp [Value.isNull, eq_comm]
  · simp [isNull_iff, hv]

theorem defaulting_eq_ok_iff {inner : Validator} {fallback : Value} {ctx : Context} {v w : Value} :
    defaulting inner fallback ctx v = some (.ok w) ↔
      v = .undefined ∧ w = fallback ∨ v ≠ .undefined ∧ inner ctx v = some (.ok w) := by
  unfold defaulting
  by_cases hv : v = .undefined
  · subst hv
    simp [Value.isUndefined, eq_comm]
  · simp [isUndefined_iff, hv]

theorem refine_eq_ok {inner : Validator} {holds : Predicate} {message : String} {path : Path} {ctx : Context}
    {v w : Value} (h : refine inner holds message path ctx v = some (.ok w)) :
    inner ctx v = some (.ok w) ∧ holds w = true := by
  obtain ⟨o, ho, h⟩ := Option.map_eq_some_iff.1 h
  cases o with
  | error => simp at h
  | ok u =>
    simp only at h
    split_ifs at h with hp
    cases h
    exact ⟨ho, hp⟩

theorem transform_eq_ok {inner : Validator} {convert : Conversion} {ctx : Context} {v w : Value}
    (h : transform inner convert ctx v = some (.ok w)) : ∃ u, inner ctx v = some (.ok u) ∧ convert u = .ok w := by
  obtain ⟨o, ho, h⟩ := Option.map_eq_some_iff.1 h
  cases o with
  | error => simp at h
  | ok u =>
    simp only at h
    split at h
    · rename_i x hx
      cases h
      exact ⟨u, ho, hx⟩
    · simp [Context.fail] at h

theorem pipe_eq_ok {first second : Validator} {ctx : Context} {v w : Value}
    (h : pipe first second ctx v = some (.ok w)) : ∃ u, first ctx v = some (.ok u) ∧ second ctx u = some (.ok w) := by
  simp only [pipe, Option.bind_eq_some_iff] at h
  obtain ⟨o, ho, h⟩ := h
  cases o with
  | error => simp at h
  | ok u => exact ⟨u, ho, h⟩

end Validator

namespace Schema

/-- an object type accepts only objects whose members, absence for those that are missing, its fields accept -/
theorem fields_accept {refs : References} (hrefs : ∀ name, (refs name).Explained) {type : ObjectType Schema}
    {ctx : Context} {v : Value} (h : Accepted ((Schema.object type).validator refs ctx v)) :
    ∃ o, v = .object o ∧ ∀ f ∈ type.shape.toList,
      Accepted (f.2.validator refs ctx ((o.get? f.1).getD .undefined)) := by
  obtain ⟨w, hw⟩ := h
  rw [validator_object] at hw
  obtain ⟨o, known, others, rfl, -, hknown, -⟩ := (Validator.object_eq_ok_iff (objectFields_explained hrefs type)
    (unknown_explained hrefs type.unknown)).1 hw
  refine ⟨o, rfl, fun f hf => ?_⟩
  obtain ⟨m, -, u, hu, -⟩ := exists_right_of_forall₂ hknown (List.mem_map_of_mem hf)
  exact ⟨u, hu⟩

end Schema

end ValueSchema
