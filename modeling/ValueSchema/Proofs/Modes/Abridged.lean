import ValueSchema.Proofs.Leaf.Verdict
import ValueSchema.Proofs.Validator.Run
import ValueSchema.Validator.Collection

/-!
What is left of a list of issues when the first one decides.

Validation in any setting `a` is compared with validation that collects issues in the words of some catalog. Its issues
abridge those collected: they begin alike, are no more, and are at most one when the first one decides. Words agree
where the catalogs do, and the issues held inside an issue may be fewer.

Results:
- `settle_abridges`, `close_abridges`: ends of runs keep this.
- `Part.run_abridges`: if every part abridges the part collected, so does a run of parts, though it may stop early.
- `Leaf.abridges`: leaves in two settings.
-/

namespace ValueSchema

/-! ## Issues -/

/-- both issues say the same, in the same words where the catalogs agree; the first may hold fewer issues inside -/
structure Issue.Abridges (a : Context) (words : Catalog) (i j : Issue) : Prop where
  code : i.code = j.code
  path : i.path = j.path
  message : a.catalog = words → i.message = j.message
  params : i.params = j.params
  nested : i.nested.length ≤ j.nested.length

/-- the first issues abridge each other, there are no more of them, and at most one when the first one decides -/
structure Issue.ListAbridges (a : Context) (words : Catalog) (is js : List Issue) : Prop where
  head : Option.Rel (Issue.Abridges a words) is.head? js.head?
  length_le : is.length ≤ js.length
  single : a.mode = .failFast → is.length ≤ 1

namespace Issue

variable {a : Context} {words : Catalog} {i j : Issue} {is js : List Issue}

/-- one cause, told in two settings -/
theorem Abridges.cause (m : Message) (own : Option String) :
    Abridges a words (a.issue m own) (Context.issue ⟨words, .collect⟩ m own) where
  code := rfl
  path := rfl
  message := by
    intro h
    simp only [Context.issue, h]
  params := rfl
  nested := le_rfl

theorem Abridges.within (h : Abridges a words i j) (segment : Segment) :
    Abridges a words (i.within segment) (j.within segment) where
  code := h.code
  path := congrArg (segment :: ·) h.path
  message := h.message
  params := h.params
  nested := h.nested

/-- issues that say the same are displayed alike -/
theorem Abridges.display (h : Abridges a words i j) (hwords : a.catalog = words) : i.display = j.display := by
  unfold Issue.display
  rw [h.path, h.message hwords]

namespace ListAbridges

theorem nil : ListAbridges a words [] [] := ⟨.none, le_rfl, fun _ => Nat.zero_le 1⟩

theorem one (h : Abridges a words i j) (rest : List Issue) : ListAbridges a words [i] (j :: rest) :=
  ⟨.some h, by simp, fun _ => le_rfl⟩

theorem eq_nil_iff (h : ListAbridges a words is js) : is = [] ↔ js = [] := by
  have hhead := h.head
  cases is with
  | nil =>
    cases js with
    | nil => simp
    | cons j js => nomatch hhead
  | cons i is =>
    cases js with
    | nil => nomatch hhead
    | cons j js => simp

/-- what comes after the first list is left out when its first issue decides -/
theorem append_right (h : ListAbridges a words is js) (hne : is ≠ []) (rest : List Issue) :
    ListAbridges a words is (js ++ rest) := by
  refine ⟨?_, ?_, h.single⟩
  · rw [List.head?_append_of_ne_nil _ (mt h.eq_nil_iff.2 hne)]
    exact h.head
  · rw [List.length_append]
    exact Nat.le_add_right_of_le h.length_le

/-- lists of issues add up, unless an issue of the first has decided -/
theorem append {is' js' : List Issue} (h : ListAbridges a words is js) (h' : ListAbridges a words is' js')
    (hmode : is ≠ [] → a.mode = .collect) : ListAbridges a words (is ++ is') (js ++ js') := by
  by_cases hne : is = []
  · have hjs := h.eq_nil_iff.1 hne
    subst hne hjs
    exact h'
  · refine ⟨?_, ?_, ?_⟩
    · rw [List.head?_append_of_ne_nil _ hne, List.head?_append_of_ne_nil _ (mt h.eq_nil_iff.2 hne)]
      exact h.head
    · simpa only [List.length_append] using Nat.add_le_add h.length_le h'.length_le
    · intro hfast
      rw [hmode hne] at hfast
      cases hfast

theorem within (h : ListAbridges a words is js) (segment : Segment) :
    ListAbridges a words (allWithin segment is) (allWithin segment js) := by
  refine ⟨?_, by simpa [allWithin] using h.length_le, by simpa [allWithin] using h.single⟩
  have hhead := h.head
  simp only [allWithin, List.head?_map]
  generalize is.head? = i at hhead
  generalize js.head? = j at hhead
  cases hhead with
  | none => exact .none
  | some hij => exact .some (hij.within segment)

end ListAbridges

end Issue

/-! ## Parts -/

/-- the same result, or issues that abridge those of the other -/
inductive Part.Abridges (a : Context) (words : Catalog) {α : Type} : Part α → Part α → Prop
  | ok (x : α) : Abridges a words (.ok x) (.ok x)
  | error {is js : List Issue} (ne : is ≠ []) (h : Issue.ListAbridges a words is js) :
    Abridges a words (.error is) (.error js)

section Parts

variable {a : Context} {words : Catalog} {α β : Type}

namespace Part.Abridges

variable {p q : Part α}

theorem issues (h : p.Abridges a words q) : Issue.ListAbridges a words p.issues q.issues := by
  cases h with
  | ok x => exact .nil
  | error ne h => exact h

theorem within (h : p.Abridges a words q) (segment : Segment) :
    (p.within segment).Abridges a words (q.within segment) := by
  cases h with
  | ok x => exact .ok x
  | error ne h => exact .error (by simpa [Issue.allWithin] using ne) (h.within segment)

theorem map (h : p.Abridges a words q) (f : α → β) : (p.map f).Abridges a words (q.map f) := by
  cases h with
  | ok x => exact .ok (f x)
  | error ne h => exact .error ne h

/-- an issue told in two settings -/
theorem one {i j : Issue} (h : i.Abridges a words j) : Part.Abridges a words (.error [i] : Part α) (.error [j]) :=
  .error (List.cons_ne_nil _ _) (.one h [])

/-- failure for one cause -/
theorem fail (m : Message) (own : Option String) :
    Part.Abridges a words (a.fail m own : Part α) (Context.fail ⟨words, .collect⟩ m own) := one (.cause m own)

end Part.Abridges

/-- a run that issues do not end collects them -/
theorem eq_collect_of_not_stops {mode : Mode} {issues : List Issue} (hs : ¬ mode.stops issues = true)
    (hne : issues ≠ []) : mode = .collect := by
  cases mode with
  | collect => rfl
  | failFast => exact absurd (stops_eq_true_iff.2 ⟨rfl, hne⟩) hs

theorem settle_abridges {is js : List Issue} {w u : Value} (h : Issue.ListAbridges a words is js)
    (hout : is = [] → w = u) : Part.Abridges a words (settle is w) (settle js u) := by
  by_cases hne : is = []
  · rw [h.eq_nil_iff.1 hne, hne, hout hne]
    exact .ok u
  · have hw : settle is w = .error is := by simp [settle, hne]
    have hu : settle js u = .error js := by simp [settle, mt h.eq_nil_iff.2 hne]
    rw [hw, hu]
    exact .error hne h

/-- issues that end the run stand for all that would have come after them -/
theorem stops_abridges {is js rest : List Issue} {u : Value} (h : Issue.ListAbridges a words is js) (hne : is ≠ []) :
    Part.Abridges a words (.error is) (settle (js ++ rest) u) := by
  have hu : settle (js ++ rest) u = .error (js ++ rest) := by simp [settle, mt h.eq_nil_iff.2 hne]
  rw [hu]
  exact .error hne (h.append_right hne rest)

theorem close_abridges {is js is' js' : List Issue} {w u : Value} (h : Issue.ListAbridges a words is js)
    (h' : Issue.ListAbridges a words is' js') (hout : is = [] → w = u) :
    Part.Abridges a words (Validator.close a.mode is is' w) (Validator.close .collect js js' u) := by
  unfold Validator.close
  rw [stops_collect, if_neg Bool.false_ne_true]
  by_cases hs : a.mode.stops is = true
  · rw [if_pos hs]
    exact stops_abridges h (stops_eq_true_iff.1 hs).2
  · rw [if_neg hs]
    refine settle_abridges (h.append h' ?_) fun hnil => hout (List.append_eq_nil_iff.1 hnil).1
    exact eq_collect_of_not_stops hs

/-- the issues of a run abridge those of the other, and the values are the same unless there are issues -/
structure Part.RunAbridges (a : Context) (words : Catalog) {α : Type} (ps qs : List (Part α)) : Prop where
  issues : Issue.ListAbridges a words (allIssues ps) (allIssues qs)
  values : allIssues ps = [] → values ps = values qs

/-- **Runs of parts.** If every part abridges the part collected, so does the run, though it may end early. -/
theorem Part.run_abridges {part collected : β → Option (Part α)} {bs : List β}
    (h : ∀ b ∈ bs, Follows (Part.Abridges a words) (part b) (collected b)) :
    Follows (Part.RunAbridges a words) (run a.mode part bs) (run .collect collected bs) := by
  induction bs with
  | nil => exact .some ⟨.nil, fun _ => rfl⟩
  | cons b bs ih =>
    have hrest := ih fun b' hb' => h b' (List.mem_cons_of_mem _ hb')
    rw [run_cons, run_cons]
    refine (h b List.mem_cons_self).bind fun p q hpq => ?_
    rw [stops_collect, if_neg Bool.false_ne_true]
    cases hpq with
    | ok x =>
      simp only [Part.issues, stops_nil, Bool.false_eq_true, if_false]
      exact hrest.map fun ps qs hps => ⟨hps.issues, fun hnil => congrArg (x :: ·) (hps.values hnil)⟩
    | @error is js ne hij =>
      -- the values no longer matter, and the rest of the issues only if this one does not decide
      by_cases hs : a.mode.stops is = true
      · have hs' : a.mode.stops (Part.issues (.error is : Part α)) = true := hs
        rw [if_pos hs']
        intro qs hqs
        obtain ⟨rest, -, rfl⟩ := Option.map_eq_some_iff.1 hqs
        refine ⟨_, rfl, ?_, fun hnil => absurd (by simpa [Part.issues] using hnil) ne⟩
        simpa [Part.issues] using hij.append_right ne (allIssues rest)
      · have hs' : ¬ a.mode.stops (Part.issues (.error is : Part α)) = true := hs
        rw [if_neg hs']
        refine hrest.map fun ps qs hps => ⟨?_, fun hnil => ?_⟩
        · rw [allIssues_cons, allIssues_cons]
          exact hij.append hps.issues (eq_collect_of_not_stops hs)
        · rw [allIssues_cons] at hnil
          exact absurd (List.append_eq_nil_iff.1 hnil).1 ne

/-- the first check that fails is the same in two settings -/
theorem Checks.firstIssue_abridges {κ : Type} (c : Checks κ) (failure : κ → α → Option Message) (x : α) :
    Issue.ListAbridges a words (c.firstIssue failure a x).toList (c.firstIssue failure ⟨words, .collect⟩ x).toList := by
  obtain ⟨items, own⟩ := c
  unfold Checks.firstIssue
  induction items with
  | nil => exact .nil
  | cons check rest ih =>
    rw [List.findSome?_cons, List.findSome?_cons]
    cases failure check.test x with
    | none => exact ih
    | some m => exact .one (.cause m check.message) []

/-- a leaf gives the same output in two settings, or fails for the same cause -/
theorem Leaf.abridges (l : Leaf) (v : Value) :
    Part.Abridges a words (l.validate a v) (l.validate ⟨words, .collect⟩ v) := by
  rcases l.verdict v with ⟨w, h⟩ | ⟨m, own, h⟩
  · rw [show l.validate a v = .ok w from h a, show l.validate ⟨words, .collect⟩ v = .ok w from h _]
    exact .ok w
  · rw [show l.validate a v = a.fail m own from h a,
      show l.validate ⟨words, .collect⟩ v = Context.fail ⟨words, .collect⟩ m own from h _]
    exact .fail m own

end Parts

end ValueSchema
