import ValueSchema.Proofs.InStep
import ValueSchema.Validator.Basic

/-!
Runs of parts: when they succeed, and what they give.

Results:
- `run_of_forall₂` / `forall₂_of_run`: a run whose parts all succeed gives their values in order, and a run without
  issues is one whose parts all succeeded, as long as no part fails without an issue.
- `run_follows`: a run comes to the end of another one if its parts come to the ends of the other parts.
- `Follows`: two computations, the first of which comes to an end whenever the second does.
-/

namespace ValueSchema

/-! ## Two computations -/

/-- the first comes to an end whenever the second does, and then the two ends are related -/
def Follows {α β : Type} (R : α → β → Prop) (x : Option α) (y : Option β) : Prop :=
  ∀ q, y = some q → ∃ p, x = some p ∧ R p q

namespace Follows

variable {α β γ δ : Type} {R : α → β → Prop} {S : γ → δ → Prop}

theorem some {p : α} {q : β} (h : R p q) : Follows R (some p) (some q) := by
  intro q' hq
  cases hq
  exact ⟨p, rfl, h⟩

theorem none (x : Option α) : Follows R x Option.none := nofun

theorem bind {x : Option α} {y : Option β} {k : α → Option γ} {l : β → Option δ} (h : Follows R x y)
    (hk : ∀ p q, R p q → Follows S (k p) (l q)) : Follows S (x.bind k) (y.bind l) := by
  intro r hr
  obtain ⟨q, hq, hr⟩ := Option.bind_eq_some_iff.1 hr
  obtain ⟨p, rfl, hpq⟩ := h q hq
  exact hk p q hpq r hr

theorem map {x : Option α} {y : Option β} {f : α → γ} {g : β → δ} (h : Follows R x y)
    (hf : ∀ p q, R p q → S (f p) (g q)) : Follows S (x.map f) (y.map g) := by
  intro r hr
  obtain ⟨q, hq, rfl⟩ := Option.map_eq_some_iff.1 hr
  obtain ⟨p, rfl, hpq⟩ := h q hq
  exact ⟨f p, rfl, hf p q hpq⟩

theorem refl (x : Option α) : Follows Eq x x := fun q hq => ⟨q, hq, rfl⟩

/-- the same steps follow each other, as far as each comes to an end -/
theorem bind_eq {x y : Option α} {k l : α → Option γ} (h : Follows Eq x y) (hk : ∀ p, Follows Eq (k p) (l p)) :
    Follows Eq (x.bind k) (y.bind l) := by
  refine h.bind ?_
  rintro p _ rfl
  exact hk p

theorem map_eq {x y : Option α} (h : Follows Eq x y) (f : α → γ) : Follows Eq (x.map f) (y.map f) := by
  refine h.map ?_
  rintro p _ rfl
  rfl

end Follows

/-! ## Ends of runs -/

theorem settle_eq_ok_iff {issues : List Issue} {w u : Value} : settle issues w = .ok u ↔ issues = [] ∧ w = u := by
  cases issues <;> simp [settle]

theorem settle_ne_unexplained (issues : List Issue) (w : Value) : settle issues w ≠ .error [] := by
  cases issues <;> simp [settle]

theorem stops_eq_true_iff {mode : Mode} {issues : List Issue} :
    mode.stops issues = true ↔ mode = .failFast ∧ issues ≠ [] := by
  cases issues <;> simp [Mode.stops]

theorem stops_of_ne_nil {issues : List Issue} (h : issues ≠ []) (mode : Mode) :
    mode.stops issues = decide (mode = .failFast) := by
  simp [Mode.stops, h]

@[simp] theorem stops_nil (mode : Mode) : mode.stops [] = false := by simp [Mode.stops]

@[simp] theorem stops_collect (issues : List Issue) : Mode.collect.stops issues = false := by simp [Mode.stops]

namespace Part

variable {α β : Type}

@[simp] theorem issues_within (segment : Segment) (p : Part α) :
    (p.within segment).issues = Issue.allWithin segment p.issues := by
  cases p <;> rfl

@[simp] theorem issues_map (f : α → β) (p : Part α) : (p.map f).issues = p.issues := by
  cases p <;> rfl

@[simp] theorem issues_settle (issues : List Issue) (w : Value) : Part.issues (settle issues w) = issues := by
  cases issues <;> rfl

@[simp] theorem allIssues_nil : allIssues ([] : List (Part α)) = [] := rfl

@[simp] theorem allIssues_cons (p : Part α) (ps : List (Part α)) : allIssues (p :: ps) = p.issues ++ allIssues ps := by
  simp [allIssues]

@[simp] theorem allIssues_map_ok (as : List α) : allIssues (as.map (.ok : α → Part α)) = [] := by
  induction as with
  | nil => rfl
  | cons a as ih => simpa [Part.issues] using ih

@[simp] theorem values_map_ok (as : List α) : values (as.map (.ok : α → Part α)) = as := by
  induction as with
  | nil => rfl
  | cons a as ih =>
    simp only [values, List.map_cons, List.filterMap_cons, value?] at ih ⊢
    rw [ih]

theorem issues_eq_nil_of_allIssues {ps : List (Part α)} (h : allIssues ps = []) {p : Part α} (hp : p ∈ ps) :
    p.issues = [] := List.flatMap_eq_nil_iff.1 h p hp

/-! ## Runs -/

/-- a run steps through its first part -/
theorem run_cons (mode : Mode) (part : β → Option (Part α)) (b : β) (bs : List β) :
    run mode part (b :: bs) = (part b).bind fun p =>
      if mode.stops p.issues then some [p] else (run mode part bs).map (p :: ·) := by
  rw [run]
  cases part b with
  | none => rfl
  | some p =>
    simp only [Option.bind_some]
    split
    · rfl
    · cases run mode part bs <;> rfl

theorem run_map {γ : Type} (mode : Mode) (part : β → Option (Part α)) (f : γ → β) (cs : List γ) :
    run mode part (cs.map f) = run mode (fun c => part (f c)) cs := by
  induction cs with
  | nil => rfl
  | cons c cs ih => rw [List.map_cons, run_cons, run_cons, ih]

/-- parts that are the same make the same run -/
theorem run_congr {mode : Mode} {part part' : β → Option (Part α)} {bs : List β} (h : ∀ b ∈ bs, part b = part' b) :
    run mode part bs = run mode part' bs := by
  induction bs with
  | nil => rfl
  | cons b bs ih =>
    rw [run_cons, run_cons, h b List.mem_cons_self, ih fun b' hb' => h b' (List.mem_cons_of_mem _ hb')]

/-- what a run gives, one of its parts gives -/
theorem mem_of_run {mode : Mode} {part : β → Option (Part α)} {bs : List β} {ps : List (Part α)}
    (h : run mode part bs = some ps) {p : Part α} (hp : p ∈ ps) : ∃ b ∈ bs, part b = some p := by
  induction bs generalizing ps with
  | nil =>
    cases h
    cases hp
  | cons b bs ih =>
    rw [run_cons, Option.bind_eq_some_iff] at h
    obtain ⟨q, hq, h⟩ := h
    split_ifs at h
    · cases h
      obtain rfl := List.mem_singleton.1 hp
      exact ⟨b, List.mem_cons_self, hq⟩
    · obtain ⟨qs, hqs, rfl⟩ := Option.map_eq_some_iff.1 h
      rcases List.mem_cons.1 hp with rfl | hp
      · exact ⟨b, List.mem_cons_self, hq⟩
      · obtain ⟨b', hb', hpart⟩ := ih hqs hp
        exact ⟨b', List.mem_cons_of_mem _ hb', hpart⟩

/-- a run that no issue ends runs every part -/
theorem forall₂_of_complete {mode : Mode} {part : β → Option (Part α)} {bs : List β} {ps : List (Part α)}
    (h : run mode part bs = some ps) (complete : mode = .collect ∨ allIssues ps = []) :
    List.Forall₂ (fun b p => part b = some p) bs ps := by
  induction bs generalizing ps with
  | nil =>
    cases h
    exact .nil
  | cons b bs ih =>
    rw [run_cons, Option.bind_eq_some_iff] at h
    obtain ⟨p, hp, h⟩ := h
    split_ifs at h with hs
    · cases h
      obtain ⟨rfl, hne⟩ := stops_eq_true_iff.1 hs
      rcases complete with hcollect | hnil
      · cases hcollect
      · exact absurd (issues_eq_nil_of_allIssues hnil (List.mem_singleton_self p)) hne
    · obtain ⟨qs, hqs, rfl⟩ := Option.map_eq_some_iff.1 h
      refine .cons hp (ih hqs (complete.imp_right fun hnil => ?_))
      rw [allIssues_cons] at hnil
      exact (List.append_eq_nil_iff.1 hnil).2

theorem isSome_run {mode : Mode} {part : β → Option (Part α)} {bs : List β} (h : ∀ b ∈ bs, (part b).isSome = true) :
    (run mode part bs).isSome = true := by
  induction bs with
  | nil => rfl
  | cons b bs ih =>
    obtain ⟨p, hp⟩ := Option.isSome_iff_exists.1 (h b List.mem_cons_self)
    rw [run_cons, hp, Option.bind_some]
    split_ifs
    · rfl
    · rw [Option.isSome_map]
      exact ih fun b' hb' => h b' (List.mem_cons_of_mem _ hb')

/-- parts that all succeed are all run -/
theorem run_of_forall₂ (mode : Mode) {part : β → Option (Part α)} {bs : List β} {as : List α}
    (h : List.Forall₂ (fun b a => part b = some (.ok a)) bs as) : run mode part bs = some (as.map .ok) := by
  induction h with
  | nil => rfl
  | cons hb _ ih => simp [run_cons, hb, ih, Part.issues]

/-- a run without issues is one whose parts all succeeded -/
theorem forall₂_of_run {mode : Mode} {part : β → Option (Part α)} {bs : List β} {ps : List (Part α)}
    (h : run mode part bs = some ps) (explained : ∀ b ∈ bs, part b ≠ some (.error [])) (hn : allIssues ps = []) :
    ∃ as : List α, ps = as.map .ok ∧ List.Forall₂ (fun b a => part b = some (.ok a)) bs as := by
  induction bs generalizing ps with
  | nil =>
    cases h
    exact ⟨[], rfl, .nil⟩
  | cons b bs ih =>
    rw [run_cons, Option.bind_eq_some_iff] at h
    obtain ⟨q, hq, h⟩ := h
    cases q with
    | error issues =>
      -- a part that failed has an issue, which the run would have kept
      exfalso
      have hne : issues ≠ [] := by
        rintro rfl
        exact explained b List.mem_cons_self hq
      have hmem : (.error issues : Part α) ∈ ps := by
        split at h
        · cases h; exact List.mem_cons_self
        · obtain ⟨qs, -, rfl⟩ := Option.map_eq_some_iff.1 h; exact List.mem_cons_self
      exact hne (issues_eq_nil_of_allIssues hn hmem)
    | ok a =>
      simp only [Part.issues, stops_nil, Bool.false_eq_true, if_false] at h
      obtain ⟨qs, hqs, rfl⟩ := Option.map_eq_some_iff.1 h
      have hrest : allIssues qs = [] := by simpa [Part.issues] using hn
      obtain ⟨as, rfl, has⟩ := ih hqs (fun b' hb' => explained b' (List.mem_cons_of_mem _ hb')) hrest
      exact ⟨a :: as, rfl, .cons hq has⟩

/-- a run follows another one part by part -/
theorem run_follows {mode : Mode} {part part' : β → Option (Part α)} {bs : List β}
    (h : ∀ b ∈ bs, Follows Eq (part' b) (part b)) : Follows Eq (run mode part' bs) (run mode part bs) := by
  induction bs with
  | nil => exact .refl _
  | cons b bs ih =>
    rw [run_cons, run_cons]
    refine (h b List.mem_cons_self).bind_eq fun p => ?_
    split_ifs
    · exact .refl _
    · exact (ih fun b' hb' => h b' (List.mem_cons_of_mem _ hb')).map_eq _

end Part

end ValueSchema
