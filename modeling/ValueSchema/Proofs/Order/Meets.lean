import ValueSchema.Proofs.InStep
import ValueSchema.Proofs.Validator.Run

/-!
Two runs with one verdict.

Two computations meet if their ends are related whenever both come to one. Runs that collect issues run every part, so
that there the first also comes to an end whenever the second does; when the first issue decides, one run may stop before
a part without an end that the other one runs first.

Results:
- `Meets.bind`, `Meets.map`: computations that go on from related ends.
- `Meets.run`: runs of parts in step.
- `Meets.run_shuffled`: runs of the same parts in another order.
-/

namespace ValueSchema

variable {α β γ δ : Type}

/-! ## Parts -/

/-- both succeed with related results, or both fail with issues -/
inductive Part.Agree (R : α → β → Prop) : Part α → Part β → Prop
  | ok {a : α} {b : β} : R a b → Agree R (.ok a) (.ok b)
  | error {is js : List Issue} : is ≠ [] → js ≠ [] → Agree R (.error is) (.error js)

namespace Part.Agree

variable {R : α → β → Prop} {S : γ → δ → Prop} {p : Part α} {q : Part β}

theorem fail (ctx : Context) (m m' : Message) (own own' : Option String) :
    Agree R (ctx.fail m own : Part α) (ctx.fail m' own' : Part β) := .error (List.cons_ne_nil _ _) (List.cons_ne_nil _ _)

theorem issues_eq_nil_iff (h : Agree R p q) : p.issues = [] ↔ q.issues = [] := by
  cases h with
  | ok => simp [issues]
  | error hi hj => simp [issues, hi, hj]

theorem within (h : Agree R p q) (segment segment' : Segment) : Agree R (p.within segment) (q.within segment') := by
  cases h with
  | ok hab => exact .ok hab
  | error hi hj => exact .error (by simpa [Issue.allWithin] using hi) (by simpa [Issue.allWithin] using hj)

theorem map {f : α → γ} {g : β → δ} (h : Agree R p q) (hfg : ∀ a b, R a b → S (f a) (g b)) :
    Agree S (p.map f) (q.map g) := by
  cases h with
  | ok hab => exact .ok (hfg _ _ hab)
  | error hi hj => exact .error hi hj

end Part.Agree

/-! ## Computations -/

/-- ends are related where there are two; and when issues are collected, the first computation comes to an end if the
second one does -/
def Meets (mode : Mode) (R : α → β → Prop) (x : Option α) (y : Option β) : Prop :=
  ∀ q, y = some q → (mode = .collect → x.isSome = true) ∧ ∀ p, x = some p → R p q

namespace Meets

variable {mode : Mode} {R : α → β → Prop} {S : γ → δ → Prop} {x : Option α} {y : Option β}

theorem some {p : α} {q : β} (h : R p q) : Meets mode R (some p) (some q) := by
  intro q' hq
  cases hq
  refine ⟨fun _ => rfl, fun p' hp => ?_⟩
  cases hp
  exact h

theorem none : Meets mode R Option.none Option.none := nofun

theorem imp {R' : α → β → Prop} (h : Meets mode R x y) (himp : ∀ p q, R p q → R' p q) : Meets mode R' x y :=
  fun q hq => ⟨(h q hq).1, fun p hp => himp p q ((h q hq).2 p hp)⟩

theorem bind {k : α → Option γ} {l : β → Option δ} (h : Meets mode R x y)
    (hk : ∀ p q, R p q → Meets mode S (k p) (l q)) : Meets mode S (x.bind k) (y.bind l) := by
  intro r hr
  obtain ⟨q, hq, hr⟩ := Option.bind_eq_some_iff.1 hr
  obtain ⟨hends, hrel⟩ := h q hq
  constructor
  · intro hcollect
    obtain ⟨p, hp⟩ := Option.isSome_iff_exists.1 (hends hcollect)
    rw [hp]
    exact (hk p q (hrel p hp) r hr).1 hcollect
  · intro t ht
    obtain ⟨p, hp, ht⟩ := Option.bind_eq_some_iff.1 ht
    exact (hk p q (hrel p hp) r hr).2 t ht

theorem map {f : α → γ} {g : β → δ} (h : Meets mode R x y) (hfg : ∀ p q, R p q → S (f p) (g q)) :
    Meets mode S (x.map f) (y.map g) := by
  rw [Option.map_eq_bind, Option.map_eq_bind]
  exact h.bind fun p q hpq => .some (hfg p q hpq)

end Meets

/-! ## Runs -/

/-- a run has no issue if each of its parts has a part of another run without issues that vouches for it -/
theorem Part.clean_of_clean {mode : Mode} {part : γ → Option (Part α)} {part' : δ → Option (Part β)} {cs : List γ}
    {ds : List δ} {ps : List (Part α)} {qs : List (Part β)} (hps : run mode part cs = some ps)
    (hqs : run mode part' ds = some qs)
    (h : ∀ d ∈ ds, ∃ c ∈ cs, ∀ p q, part c = some p → part' d = some q → p.issues = [] → q.issues = [])
    (hnil : allIssues ps = []) : allIssues qs = [] := by
  have hall := forall₂_of_complete hps (.inr hnil)
  refine List.flatMap_eq_nil_iff.2 fun q hq => ?_
  obtain ⟨d, hd, hdq⟩ := mem_of_run hqs hq
  obtain ⟨c, hc, hcd⟩ := h d hd
  obtain ⟨p, hp, hcp⟩ := exists_right_of_forall₂ hall hc
  exact hcd p q hcp hdq (issues_eq_nil_of_allIssues hnil hp)

/-- both runs succeed with related results, or both have issues -/
inductive Part.RunsAgree (L : List α → List β → Prop) : List (Part α) → List (Part β) → Prop
  | ok {as : List α} {bs : List β} : L as bs → RunsAgree L (as.map .ok) (bs.map .ok)
  | error {ps : List (Part α)} {qs : List (Part β)} : allIssues ps ≠ [] → allIssues qs ≠ [] → RunsAgree L ps qs

namespace Meets

variable {mode : Mode} {R : α → β → Prop} {part : γ → Option (Part α)} {part' : δ → Option (Part β)} {cs : List γ}
  {ds : List δ}

/-- **Runs in step** meet if their parts do. -/
theorem run (h : List.Forall₂ (fun c d => Meets mode (Part.Agree R) (part c) (part' d)) cs ds) :
    Meets mode (Part.RunsAgree (List.Forall₂ R)) (Part.run mode part cs) (Part.run mode part' ds) := by
  induction h with
  | nil => exact .some (@Part.RunsAgree.ok _ _ (List.Forall₂ R) [] [] .nil)
  | cons hcd _ ih =>
    rw [Part.run_cons, Part.run_cons]
    refine hcd.bind fun p q hpq => ?_
    cases hpq with
    | ok hab =>
      simp only [Part.issues, stops_nil, Bool.false_eq_true, if_false]
      refine ih.map fun ps qs hpsqs => ?_
      cases hpsqs with
      | ok hlist => exact @Part.RunsAgree.ok _ _ (List.Forall₂ R) (_ :: _) (_ :: _) (.cons hab hlist)
      | error hps hqs => exact .error (by simpa [Part.issues] using hps) (by simpa [Part.issues] using hqs)
    | @error is js hi hj =>
      simp only [Part.issues, stops_of_ne_nil hi, stops_of_ne_nil hj]
      split_ifs
      · exact .some (.error (by simpa [Part.issues] using hi) (by simpa [Part.issues] using hj))
      · exact ih.map fun ps qs _ => .error (by simp [Part.issues, hi]) (by simp [Part.issues, hj])

/-- **Runs of the same parts in another order**: if each part of one meets a part of the other, the runs have the same
verdict, and runs that succeed have run every part. -/
theorem run_shuffled (left : ∀ c ∈ cs, ∃ d ∈ ds, Meets mode (Part.Agree R) (part c) (part' d))
    (right : ∀ d ∈ ds, ∃ c ∈ cs, Meets mode (Part.Agree R) (part c) (part' d)) :
    Meets mode (Part.RunsAgree fun as bs => List.Forall₂ (fun c a => part c = .some (.ok a)) cs as ∧
        List.Forall₂ (fun d b => part' d = .some (.ok b)) ds bs)
      (Part.run mode part cs) (Part.run mode part' ds) := by
  intro qs hqs
  constructor
  · intro hcollect
    have hall := Part.forall₂_of_complete hqs (.inl hcollect)
    refine Part.isSome_run fun c hc => ?_
    obtain ⟨d, hd, hmeets⟩ := left c hc
    obtain ⟨q, -, hq⟩ := exists_right_of_forall₂ hall hd
    exact (hmeets q hq).1 hcollect
  · intro ps hps
    have hclean : Part.allIssues ps = [] ↔ Part.allIssues qs = [] := by
      constructor
      · refine Part.clean_of_clean hps hqs fun d hd => ?_
        obtain ⟨c, hc, hmeets⟩ := right d hd
        exact ⟨c, hc, fun p q hp hq => ((hmeets q hq).2 p hp).issues_eq_nil_iff.1⟩
      · refine Part.clean_of_clean hqs hps fun c hc => ?_
        obtain ⟨d, hd, hmeets⟩ := left c hc
        exact ⟨d, hd, fun q p hq hp => ((hmeets q hq).2 p hp).issues_eq_nil_iff.2⟩
    by_cases hnil : Part.allIssues ps = []
    · have hall := Part.forall₂_of_complete hps (.inr hnil)
      have hall' := Part.forall₂_of_complete hqs (.inr (hclean.1 hnil))
      -- all parts have been run, and those that failed would have given issues
      obtain ⟨as, rfl, has⟩ := Part.forall₂_of_run hps (fun c hc hp => by
        obtain ⟨d, hd, hmeets⟩ := left c hc
        obtain ⟨q, -, hq⟩ := exists_right_of_forall₂ hall' hd
        cases (hmeets q hq).2 _ hp with
        | error hi _ => exact hi rfl) hnil
      obtain ⟨bs, rfl, hbs⟩ := Part.forall₂_of_run hqs (fun d hd hq => by
        obtain ⟨c, hc, hmeets⟩ := right d hd
        obtain ⟨p, -, hp⟩ := exists_right_of_forall₂ hall hc
        cases (hmeets _ hq).2 p hp with
        | error _ hj => exact hj rfl) (hclean.1 hnil)
      exact .ok ⟨has, hbs⟩
    · exact .error hnil (mt hclean.2 hnil)

end Meets

end ValueSchema
