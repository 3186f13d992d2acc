import ValueSchema.Proofs.Budget.Heights
import ValueSchema.Proofs.Schema.Runs
import ValueSchema.Proofs.Validator.Run

/-!
A schema reads its names at the value and at smaller values only.

`Validator.Extends ctx v a b` says that `b` gives on the value `v` what `a` gives, whenever `a` comes to an end. Without
pipelines a schema hands on the value it is given or parts of it, all less high; its validator over some names extends
the one over other names at a value if the names do so there and at all less high values. Behind a pipeline a schema may
see any value.

Results:
- `array_extends`, …, `pipe_extends`: the combinators.
- `validator_extends`: schemas, with all values where there are pipelines.
-/

namespace ValueSchema

namespace Validator

/-- the second validator comes to the end of the first on a value, if that comes to one -/
def Extends (ctx : Context) (v : Value) (a b : Validator) : Prop := Follows Eq (b ctx v) (a ctx v)

section Combinators

variable {ctx : Context} {v : Value} {a b key key' : Validator} {σ : Type} {f g : σ → Validator}

theorem child_extends (h : Extends ctx v a b) (segment : Segment) :
    Follows Eq (b.child segment ctx v) (a.child segment ctx v) := h.map_eq _

/-! ## Collections -/

theorem array_extends (sizes : Checks SizeTest) (h : ∀ u, u.height < v.height → Extends ctx u a b) :
    Extends ctx v (array a sizes) (array b sizes) := by
  cases v with
  | array items =>
    refine Follows.map_eq (Part.run_follows fun e he => child_extends (h e.1 ?_) (.index e.2)) _
    exact Value.height_lt_array (List.fst_mem_of_mem_zipIdx he)
  | _ => exact .refl _

theorem set_extends (sizes : Checks SizeTest) (h : ∀ u, u.height < v.height → Extends ctx u a b) :
    Extends ctx v (set a sizes) (set b sizes) := by
  cases v with
  | set elements =>
    refine Follows.map_eq (Part.run_follows fun e he => child_extends (h e.1 ?_) (.index e.2)) _
    exact Value.height_lt_set (List.fst_mem_of_mem_zipIdx he)
  | _ => exact .refl _

theorem tuple_extends {items : List σ} (h : ∀ s ∈ items, ∀ u, u.height < v.height → Extends ctx u (f s) (g s)) :
    Extends ctx v (tuple (items.map f)) (tuple (items.map g)) := by
  cases v with
  | array vs =>
    unfold Extends tuple
    simp only [List.length_map]
    split_ifs
    · -- both run the same elements, each under the validator of its place
      have hzip (f : σ → Validator) : ((items.map f).zip vs).zipIdx =
          (items.zip vs).zipIdx.map fun e => ((f e.1.1, e.1.2), e.2) := by
        rw [List.zip_map_left, List.zipIdx_map]
        rfl
      rw [hzip f, hzip g, Part.run_map, Part.run_map]
      refine Follows.map_eq (Part.run_follows fun e he => ?_) _
      have hmem := List.of_mem_zip (List.fst_mem_of_mem_zipIdx he)
      exact child_extends (h e.1.1 hmem.1 e.1.2 (Value.height_lt_array hmem.2)) (.index e.2)
    · exact .refl _
  | _ => exact .refl _

theorem recordKey_extends {key : Option σ} {name : String} (h : ∀ s ∈ key, Extends ctx (.string name) (f s) (g s)) :
    Follows Eq (recordKey (key.map g) ctx name) (recordKey (key.map f) ctx name) := by
  unfold recordKey
  split_ifs
  · exact .refl _
  · cases key with
    | none => exact .refl _
    | some s => exact Follows.map_eq (h s rfl) _

theorem record_extends {key : Option σ} (hk : ∀ s ∈ key, ∀ u, u.height < v.height → Extends ctx u (f s) (g s))
    (h : ∀ u, u.height < v.height → Extends ctx u a b) : Extends ctx v (record (key.map f) a) (record (key.map g) b) := by
  cases v with
  | object o =>
    refine Follows.map_eq (Part.run_follows fun e he => ?_) _
    refine (recordKey_extends fun s hs => hk s hs _ (Value.height_pos_of_object o)).bind_eq fun p => ?_
    cases p with
    | error issues => exact .refl _
    | ok name => exact (child_extends (h e.2 (Value.height_lt_object he)) (.key e.1)).map_eq _
  | _ => exact .refl _

theorem map_extends (hk : ∀ u, u.height < v.height → Extends ctx u key key')
    (h : ∀ u, u.height < v.height → Extends ctx u a b) : Extends ctx v (map key a) (map key' b) := by
  cases v with
  | map entries =>
    refine Follows.map_eq (Part.run_follows fun e he => ?_) _
    obtain ⟨hkey, hvalue⟩ := Value.height_lt_map (List.fst_mem_of_mem_zipIdx he)
    unfold mapEntry
    refine ((hk e.1.1 hkey).map_eq _).bind_eq fun p => ?_
    split_ifs
    · exact .refl _
    · exact ((h e.1.2 hvalue).map_eq _).map_eq _
  | _ => exact .refl _

theorem keepExtras_extends {unknown : UnknownKeys Schema} {refs refs' : References} {es : List (String × Value)}
    (h : ∀ s ∈ unknown.parts, ∀ e ∈ es, Extends ctx e.2 (s.validator refs) (s.validator refs')) :
    Follows Eq (keepExtras (Schema.unknownValidator refs' unknown) ctx es)
      (keepExtras (Schema.unknownValidator refs unknown) ctx es) := by
  cases unknown with
  | catchall s =>
    refine Part.run_follows fun e he => (child_extends ?_ (.key e.1)).map_eq _
    exact h s (by simp [UnknownKeys.parts]) e (List.mem_of_mem_filter he)
  | _ => exact .refl _

theorem object_extends {fields : List (String × Schema)} {unknown : UnknownKeys Schema} {refs refs' : References}
    (hf : ∀ e ∈ fields, ∀ u, u.height < v.height → Extends ctx u (e.2.validator refs) (e.2.validator refs'))
    (hu : ∀ s ∈ unknown.parts, ∀ u, u.height < v.height → Extends ctx u (s.validator refs) (s.validator refs')) :
    Extends ctx v
      (object (fields.map fun e => (e.1, e.2.validator refs)) (Schema.unknownValidator refs unknown))
      (object (fields.map fun e => (e.1, e.2.validator refs')) (Schema.unknownValidator refs' unknown)) := by
  cases v with
  | object o =>
    unfold Extends object
    simp only [Part.run_map]
    have hfields : Follows Eq (Part.run ctx.mode (fun e => field ctx o (e.1, e.2.validator refs')) fields)
        (Part.run ctx.mode (fun e => field ctx o (e.1, e.2.validator refs)) fields) := by
      refine Part.run_follows fun e he => (child_extends ?_ (.key e.1)).map_eq _
      exact hf e he _ (Value.height_get?_lt o e.1)
    refine hfields.bind_eq fun known => ?_
    split_ifs
    · exact .refl _
    · have hextras (refs : References) : extras (fields.map fun e => (e.1, e.2.validator refs)) o =
          o.toList.filter fun e => !(fields.map Prod.fst).contains e.1 := by
        unfold extras
        rw [List.map_map]
        rfl
      rw [hextras refs, hextras refs']
      refine (keepExtras_extends fun s hs e he => ?_).map_eq _
      exact hu s hs e.2 (Value.height_lt_object (List.mem_of_mem_filter he))
  | _ => exact .refl _

/-! ## Choices -/

/-- a pass over alternatives steps through the first one -/
theorem attempt_cons (a : Alternative) (position : Nat) (rest : List (Alternative × Nat)) :
    attempt ctx v ((a, position) :: rest) = (a.validator ctx v).bind fun
      | .ok w => some (.ok w)
      | .error issues => (attempt ctx v rest).map fun
        | .ok w => .ok w
        | .error failures => .error ((position, issues) :: failures) := by
  rw [attempt]
  cases a.validator ctx v with
  | none => rfl
  | some o =>
    cases o with
    | ok w => rfl
    | error issues =>
      cases attempt ctx v rest with
      | none => rfl
      | some r => cases r <;> rfl

theorem attempt_extends {kinds : σ → Option (List Kind)} {l : List (σ × Nat)} (h : ∀ e ∈ l, Extends ctx v (f e.1) (g e.1)) :
    Follows Eq (attempt ctx v (l.map fun e => (⟨kinds e.1, g e.1⟩, e.2)))
      (attempt ctx v (l.map fun e => (⟨kinds e.1, f e.1⟩, e.2))) := by
  induction l with
  | nil => exact .refl _
  | cons e rest ih =>
    have hrest := ih fun e' he' => h e' (List.mem_cons_of_mem _ he')
    rw [List.map_cons, List.map_cons, attempt_cons, attempt_cons]
    refine Follows.bind_eq (h e List.mem_cons_self) fun p => ?_
    cases p with
    | ok w => exact .refl _
    | error issues => exact hrest.map_eq _

theorem union_extends {kinds : σ → Option (List Kind)} {options : List σ} (h : ∀ s ∈ options, Extends ctx v (f s) (g s)) :
    Extends ctx v (union (options.map fun s => ⟨kinds s, f s⟩)) (union (options.map fun s => ⟨kinds s, g s⟩)) := by
  have hlist (f : σ → Validator) : (options.map fun s => (⟨kinds s, f s⟩ : Alternative)).zipIdx =
      options.zipIdx.map fun e => (⟨kinds e.1, f e.1⟩, e.2) := by
    rw [List.zipIdx_map]
    rfl
  have hmem : ∀ p : σ × Nat → Bool, ∀ e ∈ options.zipIdx.filter p, Extends ctx v (f e.1) (g e.1) :=
    fun p e he => h e.1 (List.fst_mem_of_mem_zipIdx (List.mem_of_mem_filter he))
  unfold Extends union
  simp only [List.partition_eq_filter_filter, hlist, List.filter_map, List.length_map]
  -- which alternatives are tried first depends on their kinds alone
  refine Follows.bind_eq (attempt_extends (hmem _)) fun p => ?_
  cases p with
  | ok w => exact .refl _
  | error failures => exact (attempt_extends (hmem _)).map_eq _

theorem discriminated_extends {tag : String} {tags : σ → List Value} {options : List σ}
    (h : ∀ s ∈ options, Extends ctx v (f s) (g s)) :
    Extends ctx v (discriminated tag (options.map fun s => ⟨tags s, f s⟩))
      (discriminated tag (options.map fun s => ⟨tags s, g s⟩)) := by
  cases v with
  | object o =>
    unfold Extends discriminated
    simp only [List.find?_map, Function.comp_def, List.flatMap_map]
    cases hfind : options.find? fun s => (tags s).any (·.same ((o.get? tag).getD .undefined)) with
    | some s => exact h s (List.mem_of_find?_eq_some hfind)
    | none => exact .refl _
  | _ => exact .refl _

theorem intersection_extends {c d : Validator} (hl : Extends ctx v a b) (hr : Extends ctx v c d) :
    Extends ctx v (intersection a c) (intersection b d) := by
  unfold Extends intersection
  refine Follows.bind_eq hl fun p => ?_
  split_ifs
  · exact .refl _
  · exact Follows.map_eq hr _

/-! ## Wrappers -/

theorem optional_extends (h : Extends ctx v a b) : Extends ctx v (optional a) (optional b) := by
  unfold Extends optional
  split_ifs
  · exact .refl _
  · exact h

theorem nullable_extends (h : Extends ctx v a b) : Extends ctx v (nullable a) (nullable b) := by
  unfold Extends nullable
  split_ifs
  · exact .refl _
  · exact h

theorem defaulting_extends (h : Extends ctx v a b) (fallback : Value) :
    Extends ctx v (defaulting a fallback) (defaulting b fallback) := by
  unfold Extends defaulting
  split_ifs
  · exact .refl _
  · exact h

theorem catching_extends (h : Extends ctx v a b) (fallback : Value) :
    Extends ctx v (catching a fallback) (catching b fallback) := Follows.map_eq h _

theorem refine_extends (h : Extends ctx v a b) (holds : Predicate) (message : String) (path : Path) :
    Extends ctx v (refine a holds message path) (refine b holds message path) := Follows.map_eq h _

theorem transform_extends (h : Extends ctx v a b) (convert : Conversion) :
    Extends ctx v (transform a convert) (transform b convert) := Follows.map_eq h _

theorem pipe_extends {c d : Validator} (hfirst : Extends ctx v a b) (hsecond : ∀ u, Extends ctx u c d) :
    Extends ctx v (pipe a c) (pipe b d) := by
  refine Follows.bind_eq hfirst fun o => ?_
  cases o with
  | ok w => exact hsecond w
  | error issues => exact .refl _

end Combinators

end Validator

/-! ## Schemas -/

namespace Schema

open Validator

/-- a form that hands on the value it is given, or parts of it -/
def HandsOn : Schema → Prop
  | .pipe .. => False
  | _ => True

/-- every schema inside is of such a form -/
abbrev Direct (s : Schema) : Prop := s.All HandsOn

/-- **Names are read at the value and below**, and behind pipelines anywhere. -/
theorem validator_extends {refs refs' : References} {ctx : Context} {s : Schema} {v : Value}
    (hrefs : ∀ name u, u = v ∨ u.height < v.height ∨ ¬ s.Direct → Extends ctx u (refs name) (refs' name)) :
    Extends ctx v (s.validator refs) (s.validator refs') := by
  induction s using parts_induction generalizing v with
  | step s ih =>
    have indirect : ∀ t ∈ s.parts, ¬ t.Direct → ¬ s.Direct := fun t ht hnot h => hnot (h.parts t ht)
    have here : ∀ t ∈ s.parts, Extends ctx v (t.validator refs) (t.validator refs') :=
      fun t ht => ih t ht fun name u hu => hrefs name u (hu.imp_right (Or.imp_right (indirect t ht)))
    have other : ∀ t ∈ s.parts, ∀ u, u.height < v.height ∨ ¬ s.Direct →
        Extends ctx u (t.validator refs) (t.validator refs') := by
      intro t ht u hu
      refine ih t ht fun name x hx => hrefs name x (Or.inr ?_)
      rcases hx with rfl | hx | hx
      · exact hu
      · exact hu.imp_left hx.trans
      · exact Or.inr (indirect t ht hx)
    have below : ∀ t ∈ s.parts, ∀ u, u.height < v.height → Extends ctx u (t.validator refs) (t.validator refs') :=
      fun t ht u hu => other t ht u (Or.inl hu)
    cases s with
    | leaf l => exact .refl _
    | object type =>
      rw [validator_object, validator_object]
      refine object_extends (fun e he => ?_) fun t ht => ?_
      · exact below e.2 (List.mem_append_left _ (List.mem_map_of_mem he))
      · exact below t (List.mem_append_right _ ht)
    | array element sizes => exact array_extends sizes (below element (by simp [parts]))
    | set element sizes => exact set_extends sizes (below element (by simp [parts]))
    | tuple items =>
      rw [validator_tuple, validator_tuple]
      exact tuple_extends below
    | record key value =>
      rw [validator_record, validator_record]
      refine record_extends (fun t ht => ?_) (below value (by simp [parts]))
      obtain rfl : key = some t := ht
      exact below t (by simp [parts])
    | map key value => exact map_extends (below key (by simp [parts])) (below value (by simp [parts]))
    | union options =>
      rw [validator_union, validator_union]
      exact union_extends here
    | discriminated tag options =>
      rw [validator_discriminated, validator_discriminated]
      exact discriminated_extends fun type htype => here (.object type) (List.mem_map_of_mem htype)
    | intersection left right => exact intersection_extends (here left (by simp [parts])) (here right (by simp [parts]))
    | optional inner => exact optional_extends (here inner (by simp [parts]))
    | nullable inner => exact nullable_extends (here inner (by simp [parts]))
    | defaulting inner fallback => exact defaulting_extends (here inner (by simp [parts])) fallback
    | catching inner fallback => exact catching_extends (here inner (by simp [parts])) fallback
    | refine inner holds message path => exact refine_extends (here inner (by simp [parts])) holds message path
    | transform inner convert => exact transform_extends (here inner (by simp [parts])) convert
    | pipe first second =>
      refine pipe_extends (here first (by simp [parts])) fun u => ?_
      exact other second (by simp [parts]) u (Or.inr fun h => h.here)
    | lazy name => exact hrefs name v (Or.inl rfl)

end Schema

end ValueSchema
