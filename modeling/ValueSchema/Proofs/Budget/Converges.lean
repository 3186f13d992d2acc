import ValueSchema.Proofs.Budget.Extends

/-!
Combinators come to an end if their parts do.

`Converges x` says of a computation at a depth that from some depth on it has one and the same end. A combinator waits for
nothing but its parts: it converges on a value if they do on the parts of the value that they see, of which there are
finitely many.

Results:
- `Converges.bind`, `Converges.run`: computations one after the other.
- `array_converges`, …, `pipe_converges`: the combinators.
-/

namespace ValueSchema

/-- from some depth on, one and the same end -/
def Converges {α : Type} (x : Nat → Option α) : Prop := ∃ a N, ∀ n, N ≤ n → x n = some a

namespace Converges

variable {α β : Type} {x : Nat → Option α}

theorem const (a : α) : Converges fun _ => some a := ⟨a, 0, fun _ _ => rfl⟩

theorem bind {k : Nat → α → Option β} (hx : Converges x) (hk : ∀ a, Converges fun n => k n a) :
    Converges fun n => (x n).bind (k n) := by
  obtain ⟨a, N, hN⟩ := hx
  obtain ⟨b, M, hM⟩ := hk a
  refine ⟨b, max N M, fun n hn => ?_⟩
  simp only [hN n (le_of_max_le_left hn), Option.bind_some]
  exact hM n (le_of_max_le_right hn)

theorem map (hx : Converges x) (f : α → β) : Converges fun n => (x n).map f := by
  obtain ⟨a, N, hN⟩ := hx
  refine ⟨f a, N, fun n hn => ?_⟩
  simp only [hN n hn, Option.map_some]

/-- the first depth does not matter -/
theorem of_succ (h : Converges fun n => x (n + 1)) : Converges x := by
  obtain ⟨a, N, hN⟩ := h
  refine ⟨a, N + 1, fun n hn => ?_⟩
  obtain ⟨n, rfl⟩ := Nat.exists_eq_add_of_le' (Nat.one_le_of_lt hn)
  exact hN n (by omega)

theorem isSome {x : Option α} (h : Converges fun _ => x) : x.isSome = true := by
  obtain ⟨a, N, hN⟩ := h
  exact Option.isSome_iff_exists.2 ⟨a, hN N le_rfl⟩

theorem of_isSome {x : Option α} (h : x.isSome = true) : Converges fun _ => x := by
  obtain ⟨a, rfl⟩ := Option.isSome_iff_exists.1 h
  exact .const a

/-- a run converges if its parts do -/
theorem run {mode : Mode} {part : Nat → β → Option (Part α)} {bs : List β}
    (h : ∀ b ∈ bs, Converges fun n => part n b) : Converges fun n => Part.run mode (part n) bs := by
  induction bs with
  | nil => exact .const []
  | cons b bs ih =>
    simp only [Part.run_cons]
    refine (h b List.mem_cons_self).bind fun p => ?_
    split_ifs
    · exact .const [p]
    · exact (ih fun b' hb' => h b' (List.mem_cons_of_mem _ hb')).map _

end Converges

namespace Validator

section Combinators

variable {ctx : Context} {v : Value} {a b key : Nat → Validator} {σ : Type} {f : Nat → σ → Validator}

theorem child_converges (h : Converges fun n => a n ctx v) (segment : Segment) :
    Converges fun n => (a n).child segment ctx v := h.map _

/-! ## Collections -/

theorem array_converges (sizes : Checks SizeTest) (h : ∀ u, u.height < v.height → Converges fun n => a n ctx u) :
    Converges fun n => array (a n) sizes ctx v := by
  cases v with
  | array items =>
    refine (Converges.run fun e he => child_converges (h e.1 ?_) (.index e.2)).map _
    exact Value.height_lt_array (List.fst_mem_of_mem_zipIdx he)
  | _ => exact .const _

theorem set_converges (sizes : Checks SizeTest) (h : ∀ u, u.height < v.height → Converges fun n => a n ctx u) :
    Converges fun n => set (a n) sizes ctx v := by
  cases v with
  | set elements =>
    refine (Converges.run fun e he => child_converges (h e.1 ?_) (.index e.2)).map _
    exact Value.height_lt_set (List.fst_mem_of_mem_zipIdx he)
  | _ => exact .const _

theorem tuple_converges {items : List σ} (h : ∀ s ∈ items, ∀ u, u.height < v.height → Converges fun n => f n s ctx u) :
    Converges fun n => tuple (items.map (f n)) ctx v := by
  cases v with
  | array vs =>
    simp only [tuple, List.length_map]
    split_ifs
    · have hzip (n : Nat) : ((items.map (f n)).zip vs).zipIdx =
          (items.zip vs).zipIdx.map fun e => ((f n e.1.1, e.1.2), e.2) := by
        rw [List.zip_map_left, List.zipIdx_map]
        rfl
      simp only [hzip, Part.run_map]
      refine (Converges.run fun e he => ?_).map _
      have hmem := List.of_mem_zip (List.fst_mem_of_mem_zipIdx he)
      exact child_converges (h e.1.1 hmem.1 e.1.2 (Value.height_lt_array hmem.2)) (.index e.2)
    · exact .const _
  | _ => exact .const _

theorem recordKey_converges {k : Option σ} {name : String} (h : ∀ s ∈ k, Converges fun n => f n s ctx (.string name)) :
    Converges fun n => recordKey (k.map (f n)) ctx name := by
  unfold recordKey
  split_ifs
  · exact .const _
  · cases k with
    | none => exact .const _
    | some s => exact (h s rfl).map _

theorem record_converges {k : Option σ} (hk : ∀ s ∈ k, ∀ u, u.height < v.height → Converges fun n => f n s ctx u)
    (h : ∀ u, u.height < v.height → Converges fun n => a n ctx u) :
    Converges fun n => record (k.map (f n)) (a n) ctx v := by
  cases v with
  | object o =>
    refine (Converges.run fun e he => ?_).map _
    refine (recordKey_converges fun s hs => hk s hs _ (Value.height_pos_of_object o)).bind fun p => ?_
    cases p with
    | error issues => exact .const _
    | ok name => exact (child_converges (h e.2 (Value.height_lt_object he)) (.key e.1)).map _
  | _ => exact .const _

theorem map_converges (hk : ∀ u, u.height < v.height → Converges fun n => key n ctx u)
    (h : ∀ u, u.height < v.height → Converges fun n => a n ctx u) : Converges fun n => map (key n) (a n) ctx v := by
  cases v with
  | map entries =>
    refine (Converges.run fun e he => ?_).map _
    obtain ⟨hkey, hvalue⟩ := Value.height_lt_map (List.fst_mem_of_mem_zipIdx he)
    unfold mapEntry
    refine ((hk e.1.1 hkey).map _).bind fun p => ?_
    split_ifs
    · exact .const _
    · exact ((h e.1.2 hvalue).map _).map _
  | _ => exact .const _

theorem keepExtras_converges {unknown : UnknownKeys Schema} {refs : Nat → References} {es : List (String × Value)}
    (h : ∀ s ∈ unknown.parts, ∀ e ∈ es, Converges fun n => s.validator (refs n) ctx e.2) :
    Converges fun n => keepExtras (Schema.unknownValidator (refs n) unknown) ctx es := by
  cases unknown with
  | catchall s =>
    refine Converges.run fun e he => (child_converges ?_ (.key e.1)).map _
    exact h s (by simp [UnknownKeys.parts]) e (List.mem_of_mem_filter he)
  | _ => exact .const _

theorem object_converges {fields : List (String × Schema)} {unknown : UnknownKeys Schema} {refs : Nat → References}
    (hf : ∀ e ∈ fields, ∀ u, u.height < v.height → Converges fun n => e.2.validator (refs n) ctx u)
    (hu : ∀ s ∈ unknown.parts, ∀ u, u.height < v.height → Converges fun n => s.validator (refs n) ctx u) :
    Converges fun n => object (fields.map fun e => (e.1, e.2.validator (refs n)))
      (Schema.unknownValidator (refs n) unknown) ctx v := by
  cases v with
  | object o =>
    have hextras (n : Nat) : extras (fields.map fun e => (e.1, e.2.validator (refs n))) o =
        o.toList.filter fun e => !(fields.map Prod.fst).contains e.1 := by
      unfold extras
      rw [List.map_map]
      rfl
    simp only [object, Part.run_map, hextras]
    have hfields : Converges fun n => Part.run ctx.mode (fun e => field ctx o (e.1, e.2.validator (refs n))) fields := by
      simp only [field]
      refine Converges.run fun e he => (child_converges ?_ (.key e.1)).map _
      exact hf e he _ (Value.height_get?_lt o e.1)
    refine hfields.bind fun known => ?_
    split_ifs
    · exact .const _
    · refine (keepExtras_converges fun s hs e he => ?_).map _
      exact hu s hs e.2 (Value.height_lt_object (List.mem_of_mem_filter he))
  | _ => exact .const _

/-! ## Choices -/

theorem attempt_converges {kinds : σ → Option (List Kind)} {l : List (σ × Nat)}
    (h : ∀ e ∈ l, Converges fun n => f n e.1 ctx v) :
    Converges fun n => attempt ctx v (l.map fun e => (⟨kinds e.1, f n e.1⟩, e.2)) := by
  induction l with
  | nil => exact .const _
  | cons e rest ih =>
    simp only [List.map_cons, attempt_cons]
    refine (h e List.mem_cons_self).bind fun o => ?_
    cases o with
    | ok w => exact .const _
    | error issues => exact (ih fun e' he' => h e' (List.mem_cons_of_mem _ he')).map _

theorem union_converges {kinds : σ → Option (List Kind)} {options : List σ}
    (h : ∀ s ∈ options, Converges fun n => f n s ctx v) :
    Converges fun n => union (options.map fun s => ⟨kinds s, f n s⟩) ctx v := by
  have hlist (n : Nat) : (options.map fun s => (⟨kinds s, f n s⟩ : Alternative)).zipIdx =
      options.zipIdx.map fun e => (⟨kinds e.1, f n e.1⟩, e.2) := by
    rw [List.zipIdx_map]
    rfl
  have hmem : ∀ p : σ × Nat → Bool, ∀ e ∈ options.zipIdx.filter p, Converges fun n => f n e.1 ctx v :=
    fun p e he => h e.1 (List.fst_mem_of_mem_zipIdx (List.mem_of_mem_filter he))
  unfold union
  simp only [List.partition_eq_filter_filter, hlist, List.filter_map, List.length_map, Function.comp_def, Alternative.admits]
  refine (attempt_converges (hmem _)).bind fun o => ?_
  cases o with
  | ok w => exact .const _
  | error failures => exact (attempt_converges (hmem _)).map _

/-- a union comes to an end on a value on which all its alternatives do -/
theorem isSome_union {alternatives : List Alternative} (h : ∀ b ∈ alternatives, (b.validator ctx v).isSome = true) :
    (union alternatives ctx v).isSome = true := by
  have hunion : Converges fun _ => union (alternatives.map fun b => ⟨b.kinds, b.validator⟩) ctx v :=
    union_converges fun b hb => .of_isSome (h b hb)
  rw [show alternatives.map (fun b => ⟨b.kinds, b.validator⟩) = alternatives from List.map_id _] at hunion
  exact hunion.isSome

theorem discriminated_converges {tag : String} {tags : σ → List Value} {options : List σ}
    (h : ∀ s ∈ options, Converges fun n => f n s ctx v) :
    Converges fun n => discriminated tag (options.map fun s => ⟨tags s, f n s⟩) ctx v := by
  cases v with
  | object o =>
    simp only [discriminated, List.find?_map, Function.comp_def, List.flatMap_map]
    cases hfind : options.find? fun s => (tags s).any (·.same ((o.get? tag).getD .undefined)) with
    | some s => exact h s (List.mem_of_find?_eq_some hfind)
    | none => exact .const _
  | _ => exact .const _

theorem intersection_converges (ha : Converges fun n => a n ctx v) (hb : Converges fun n => b n ctx v) :
    Converges fun n => intersection (a n) (b n) ctx v := by
  unfold intersection
  refine ha.bind fun l => ?_
  split_ifs
  · exact .const _
  · exact hb.map _

/-! ## Wrappers -/

theorem optional_converges (h : Converges fun n => a n ctx v) : Converges fun n => optional (a n) ctx v := by
  unfold optional
  split_ifs
  · exact .const _
  · exact h

theorem nullable_converges (h : Converges fun n => a n ctx v) : Converges fun n => nullable (a n) ctx v := by
  unfold nullable
  split_ifs
  · exact .const _
  · exact h

theorem defaulting_converges (h : Converges fun n => a n ctx v) (fallback : Value) :
    Converges fun n => defaulting (a n) fallback ctx v := by
  unfold defaulting
  split_ifs
  · exact .const _
  · exact h

theorem catching_converges (h : Converges fun n => a n ctx v) (fallback : Value) :
    Converges fun n => catching (a n) fallback ctx v := h.map _

theorem refine_converges (h : Converges fun n => a n ctx v) (holds : Predicate) (message : String) (path : Path) :
    Converges fun n => refine (a n) holds message path ctx v := h.map _

theorem transform_converges (h : Converges fun n => a n ctx v) (convert : Conversion) :
    Converges fun n => transform (a n) convert ctx v := h.map _

/-- the second validator of a pipeline may see any value -/
theorem pipe_converges (ha : Converges fun n => a n ctx v) (hb : ∀ u, Converges fun n => b n ctx u) :
    Converges fun n => pipe (a n) (b n) ctx v := by
  refine ha.bind fun o => ?_
  cases o with
  | ok w => exact hb w
  | error issues => exact .const _

end Combinators

end Validator

end ValueSchema
