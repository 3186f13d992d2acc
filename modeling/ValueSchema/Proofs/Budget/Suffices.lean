import Mathlib.Order.Filter.AtTopBot.Basic
import ValueSchema.Proofs.Budget.Extends

/-!
How deep names need to be followed.

Following names deeper never changes an outcome, it can only give one, and so `validate`, which goes as deep as it takes,
gives what any depth gives. At one value, the names that come to an end grow with the depth; once they do not grow from one
depth to the next, they never grow again, since what a name gives depends only on what names give at the same value and at
smaller ones. There are as many names as definitions, so that the names at one value have settled after as many steps, and
the names at all values of some height after as many steps for each height.

Results:
- `run_mono`: a deeper run extends a less deep one.
- `validate_eq_some_iff`: `validate` gives exactly what some depth gives.
- `eventually_run_eq_validate`: from some depth on, runs are `validate`.
- `exists_settled`: names at a value settle within as many steps as there are definitions.
- `run_eq_of_run`: without pipelines, so deep runs give what any depth gives.
-/

namespace ValueSchema.Schema

open Validator

variable {defs : Definitions}

/-! ## Deeper runs -/

theorem references_succ (defs : Definitions) (n : Nat) (name : String) :
    references defs (n + 1) name = match defs.lookup name with
      | some d => d.validator (references defs n)
      | none => fun _ _ => none := by
  unfold references
  dsimp only
  cases defs.lookup name with
  | none => rfl
  | some d => exact run_eq defs n d

/-- names that are followed one step deeper extend the others, if they do so in the definitions -/
theorem references_step (hdefs : ∀ d ∈ defs, d.2.Direct) {m n : Nat} {ctx : Context} {v : Value}
    (h : ∀ name u, u = v ∨ u.height < v.height → Extends ctx u (references defs m name) (references defs n name))
    (name : String) : Extends ctx v (references defs (m + 1) name) (references defs (n + 1) name) := by
  rw [references_succ, references_succ]
  cases hd : defs.lookup name with
  | none => exact .refl _
  | some d =>
    refine validator_extends fun next u hu => h next u (hu.imp_right (Or.resolve_right · ?_))
    exact not_not_intro (hdefs _ (mem_of_lookup hd))

theorem references_mono (defs : Definitions) {m n : Nat} (hmn : m ≤ n) (ctx : Context) (v : Value) (name : String) :
    Extends ctx v (references defs m name) (references defs n name) := by
  induction m generalizing n v name with
  | zero => exact .none _
  | succ m ih =>
    obtain ⟨n, rfl⟩ : ∃ k, n = k + 1 := ⟨n - 1, by omega⟩
    rw [references_succ, references_succ]
    cases defs.lookup name with
    | none => exact .refl _
    | some d => exact validator_extends fun next u _ => ih (by omega) u next

/-- **Deeper runs** give what less deep ones give. -/
theorem run_mono (defs : Definitions) (s : Schema) {m n : Nat} (hmn : m ≤ n) (ctx : Context) (v : Value) :
    Extends ctx v (s.run defs m) (s.run defs n) := by
  rw [run_eq, run_eq]
  exact validator_extends fun name u _ => references_mono defs hmn ctx u name

/-- at two depths a schema does not give two outcomes -/
theorem run_unique {s : Schema} {ctx : Context} {v : Value} {m n : Nat} {o o' : Outcome}
    (h : s.run defs m ctx v = some o) (h' : s.run defs n ctx v = some o') : o = o' := by
  rcases Nat.le_total m n with hmn | hnm
  · obtain ⟨_, hdeeper, rfl⟩ := run_mono defs s hmn ctx v o h
    exact Option.some.inj (hdeeper.symm.trans h')
  · obtain ⟨_, hdeeper, rfl⟩ := run_mono defs s hnm ctx v o' h'
    exact Option.some.inj (h.symm.trans hdeeper)

/-- whatever outcome some depth gives, `validate` gives -/
theorem validate_eq_of_run {s : Schema} {n : Nat} {ctx : Context} {v : Value} {o : Outcome}
    (h : s.run defs n ctx v = some o) : s.validate defs ctx v = some o := by
  refine deepening_eq_some (n := n) (fun m hm => ?_) fun m o' ho' => run_unique ho' h
  obtain ⟨_, hdeeper, rfl⟩ := run_mono defs s hm ctx v o h
  exact hdeeper

/-- **Validation is deep enough**: it gives exactly what some depth gives. -/
theorem validate_eq_some_iff {s : Schema} {ctx : Context} {v : Value} {o : Outcome} :
    s.validate defs ctx v = some o ↔ ∃ n, s.run defs n ctx v = some o :=
  ⟨fun h => ⟨_, h⟩, fun ⟨_, h⟩ => validate_eq_of_run h⟩

/-- from some depth on, runs are `validate` -/
theorem eventually_run_eq_validate (defs : Definitions) (s : Schema) (ctx : Context) (v : Value) :
    ∀ᶠ n in Filter.atTop, s.run defs n ctx v = s.validate defs ctx v := by
  cases h : s.validate defs ctx v with
  | none =>
    refine Filter.Eventually.of_forall fun n => ?_
    cases hn : s.run defs n ctx v with
    | none => rfl
    | some o => exact (validate_eq_of_run hn).symm.trans h
  | some o =>
    obtain ⟨N, hN⟩ := validate_eq_some_iff.1 h
    refine Filter.eventually_atTop.2 ⟨N, fun n hn => ?_⟩
    obtain ⟨_, hdeeper, rfl⟩ := run_mono defs s hn ctx v o hN
    exact hdeeper

/-- outcomes that are related at every depth are so in the end -/
theorem validate_rel {R : Outcome → Outcome → Prop} {s t : Schema} {ctx ctx' : Context} {v w : Value}
    (h : ∀ n, Option.Rel R (s.run defs n ctx v) (t.run defs n ctx' w)) :
    Option.Rel R (s.validate defs ctx v) (t.validate defs ctx' w) := by
  obtain ⟨n, hs, ht⟩ :=
    ((eventually_run_eq_validate defs s ctx v).and (eventually_run_eq_validate defs t ctx' w)).exists
  rw [← hs, ← ht]
  exact h n

/-- schemas that give the same at every depth validate alike -/
theorem validate_congr {s t : Schema} {ctx ctx' : Context} {v w : Value}
    (h : ∀ n, s.run defs n ctx v = t.run defs n ctx' w) : s.validate defs ctx v = t.validate defs ctx' w :=
  congrArg deepening (funext h)

/-! ## Names settle -/

/-- subsets of a finite set that grow step by step stop growing once -/
theorem exists_eq_succ {α : Type} [DecidableEq α] {F : Nat → Finset α} (grows : ∀ k, F k ⊆ F (k + 1)) {m : Nat}
    (bounded : ∀ k, (F k).card ≤ m) : ∃ k ≤ m, F k = F (k + 1) := by
  by_contra hnot
  push Not at hnot
  have hcard : ∀ k ≤ m + 1, k ≤ (F k).card := by
    intro k
    induction k with
    | zero => exact fun _ => Nat.zero_le _
    | succ k ih =>
      intro hk
      have hlt : (F k).card < (F (k + 1)).card :=
        Finset.card_lt_card ((grows k).ssubset_of_ne (hnot k (by omega)))
      have := ih (by omega)
      omega
  have h₁ := hcard (m + 1) le_rfl
  have h₂ := bounded (m + 1)
  omega

/-- at a value, what any depth gives for a name this depth gives -/
def Settled (defs : Definitions) (ctx : Context) (n : Nat) (v : Value) : Prop :=
  ∀ m name, Extends ctx v (references defs m name) (references defs n name)

theorem Settled.mono {ctx : Context} {m n : Nat} (hmn : m ≤ n) {v : Value}
    (h : Settled defs ctx m v) : Settled defs ctx n v := by
  intro k name o ho
  obtain ⟨o', ho', rfl⟩ := h k name o ho
  exact references_mono defs hmn ctx v name _ ho'

/-- names that do not grow in one step above settled smaller values have settled -/
theorem settled_of_eq_succ (hdefs : ∀ d ∈ defs, d.2.Direct) {ctx : Context} {n : Nat} {v : Value}
    (below : ∀ u, u.height < v.height → Settled defs ctx n u)
    (stop : ∀ name, Extends ctx v (references defs (n + 1) name) (references defs n name)) : Settled defs ctx n v := by
  -- no number of further steps gives more
  have further : ∀ k name, Extends ctx v (references defs (n + k) name) (references defs n name) := by
    intro k
    induction k with
    | zero => exact fun name => .refl _
    | succ k ih =>
      intro name o ho
      have hstep : Extends ctx v (references defs (n + k + 1) name) (references defs (n + 1) name) := by
        refine references_step hdefs (fun name u hu => ?_) name
        rcases hu with rfl | hu
        · exact ih name
        · exact below u hu (n + k) name
      obtain ⟨o', ho', rfl⟩ := hstep o ho
      exact stop name _ ho'
  intro m name
  rcases Nat.le_total m n with hmn | hmn
  · exact references_mono defs hmn ctx v name
  · obtain ⟨k, rfl⟩ := Nat.exists_eq_add_of_le hmn
    exact further k name

/-- **Names at a value settle** within as many steps as there are definitions, once they have settled at smaller values.
-/
theorem exists_settled (hdefs : ∀ d ∈ defs, d.2.Direct) {ctx : Context} {n : Nat} {v : Value}
    (below : ∀ u, u.height < v.height → Settled defs ctx n u) : ∃ k ≤ defs.length, Settled defs ctx (n + k) v := by
  -- the names that come to an end at each depth
  set F : Nat → Finset String := fun k =>
    (defs.map Prod.fst).toFinset.filter fun name => (references defs (n + k) name ctx v).isSome
  have grows : ∀ k, F k ⊆ F (k + 1) := by
    intro k name hname
    obtain ⟨hmem, hsome⟩ := Finset.mem_filter.1 hname
    obtain ⟨o, ho⟩ := Option.isSome_iff_exists.1 hsome
    obtain ⟨o', ho', -⟩ := references_mono defs (Nat.le_succ (n + k)) ctx v name o ho
    exact Finset.mem_filter.2 ⟨hmem, Option.isSome_iff_exists.2 ⟨o', ho'⟩⟩
  have bounded : ∀ k, (F k).card ≤ defs.length := by
    intro k
    refine (Finset.card_filter_le _ _).trans ((List.toFinset_card_le _).trans ?_)
    rw [List.length_map]
  obtain ⟨k, hk, heq⟩ := exists_eq_succ grows bounded
  refine ⟨k, hk, settled_of_eq_succ hdefs ?_ ?_⟩
  · exact fun u hu => (below u hu).mono (Nat.le_add_right n k)
  · intro name o ho
    have hname : name ∈ F (k + 1) := by
      refine Finset.mem_filter.2 ⟨?_, Option.isSome_iff_exists.2 ⟨o, ho⟩⟩
      rw [references_succ] at ho
      cases hd : defs.lookup name with
      | none =>
        rw [hd] at ho
        cases ho
      | some d => exact List.mem_toFinset.2 (List.mem_map_of_mem (mem_of_lookup hd))
    rw [← heq] at hname
    obtain ⟨o', ho'⟩ := Option.isSome_iff_exists.1 (Finset.mem_filter.1 hname).2
    obtain ⟨o'', ho'', rfl⟩ := references_mono defs (Nat.le_succ (n + k)) ctx v name o' ho'
    rw [ho] at ho''
    cases ho''
    exact ⟨_, ho', rfl⟩

/-- names at a value have settled after as many steps as there are definitions, for each height up to its own -/
theorem settled_of_height (hdefs : ∀ d ∈ defs, d.2.Direct) (ctx : Context) (v : Value) :
    Settled defs ctx ((v.height + 1) * defs.length) v := by
  induction hh : v.height using Nat.strong_induction_on generalizing v with
  | _ height ih =>
    have below : ∀ u, u.height < v.height → Settled defs ctx (height * defs.length) u := by
      intro u hu
      refine (ih u.height (hh ▸ hu) u rfl).mono ?_
      exact Nat.mul_le_mul_right _ (by omega)
    obtain ⟨k, hk, hsettled⟩ := exists_settled hdefs below
    refine hsettled.mono ?_
    rw [Nat.succ_mul]
    omega

/-- from this depth on, a schema without pipelines gives what it gives at any depth -/
theorem run_eq_of_run (hdefs : ∀ d ∈ defs, d.2.Direct) {s : Schema} (hs : s.Direct) {m n : Nat} {ctx : Context} {v : Value}
    (hn : (v.height + 1) * defs.length ≤ n) {o : Outcome} (h : s.run defs m ctx v = some o) :
    s.run defs n ctx v = some o := by
  have hnames : ∀ name u, u = v ∨ u.height < v.height → Extends ctx u (references defs m name) (references defs n name) := by
    intro name u hu
    refine (settled_of_height hdefs ctx u).mono ?_ m name
    have hle : u.height + 1 ≤ v.height + 1 := by
      rcases hu with rfl | hu <;> omega
    exact (Nat.mul_le_mul_right _ hle).trans hn
  rw [run_eq] at h ⊢
  have hextends : Extends ctx v (s.validator (references defs m)) (s.validator (references defs n)) :=
    validator_extends fun name u hu => hnames name u (hu.imp_right (Or.resolve_right · (not_not_intro hs)))
  obtain ⟨o', ho', rfl⟩ := hextends o h
  exact ho'

end ValueSchema.Schema
