import ValueSchema.Proofs.Explained
import ValueSchema.Proofs.InStep

/-!
How the answer on a value with parts breaks down into answers on the parts.

A `Breakdown` names the schemas that are asked about the parts of a value, and says which issues and which output their
answers add up to. It is written down apart from the validators: `Breakdown.Of` ties it to what a schema answers while
issues are collected. The tie is an equivalence, so that nothing is lost and nothing is made up: there is an answer exactly
if every schema that is asked comes to an end, and it is the one that the breakdown says.

Results:
- `run_told`, `isSome_of_run`: a collecting run of parts, from what the parts answer and back.
- `Breakdown.of_told`: how a breakdown is tied to answers.
-/

namespace ValueSchema

/-- what each schema answers on each value by itself -/
abbrev Answers := Schema → Value → Outcome

/-- the issues of an answer, with the way to the part it is about put before the place of each -/
def issuesAt (way : Path) (o : Outcome) : List Issue := (Part.issues o).map fun i => { i with path := way ++ i.path }

/-- what the answer on a value is made of -/
structure Breakdown where
  /-- the schemas that are asked, each with the part it is asked about -/
  asked : Answers → List (Schema × Value)
  issues : Answers → List Issue
  /-- the output when there are no issues -/
  output : Answers → Value

namespace Breakdown

def outcome (b : Breakdown) (told : Answers) : Outcome :=
  if b.issues told = [] then .ok (b.output told) else .error (b.issues told)

/-- every schema that is asked comes to an end with what is told of it -/
def Told (b : Breakdown) (ask : Schema → Value → Option Outcome) (told : Answers) : Prop :=
  ∀ q ∈ b.asked told, ask q.1 q.2 = some (told q.1 q.2)

/-- an answer breaks down so into the answers of the schemas that are asked -/
structure Of (b : Breakdown) (ask : Schema → Value → Option Outcome) (answer : Option Outcome) : Prop where
  outcome (o : Outcome) : answer = some o ↔ ∃ told, b.Told ask told ∧ o = b.outcome told
  /-- without issues every schema that is asked has accepted its part -/
  accepted (told : Answers) : b.Told ask told → b.issues told = [] → ∀ q ∈ b.asked told, ∃ w, told q.1 q.2 = .ok w

/-- the answers of schemas that come to an end -/
def heard (ask : Schema → Value → Option Outcome) : Answers := fun s v => (ask s v).getD (.error [])

theorem heard_eq {ask : Schema → Value → Option Outcome} {s : Schema} {v : Value} (h : (ask s v).isSome = true) :
    ask s v = some (heard ask s v) := by
  obtain ⟨o, ho⟩ := Option.isSome_iff_exists.1 h
  rw [heard, ho, Option.getD_some]

/-- **A breakdown is tied to an answer** by what it is when the schemas that are asked come to an end, by their coming to
an end when it does, and by their issues being among its own. -/
theorem of_told {b : Breakdown} {ask : Schema → Value → Option Outcome} {answer : Option Outcome}
    (answers : ∀ told, b.Told ask told → answer = some (b.outcome told))
    (ends : answer.isSome = true → ∀ q ∈ b.asked (heard ask), (ask q.1 q.2).isSome = true)
    (kept : ∀ told, b.issues told = [] → ∀ q ∈ b.asked told, Part.issues (told q.1 q.2) = [])
    (explained : ∀ s v, ask s v ≠ some (.error [])) : b.Of ask answer where
  outcome o := by
    constructor
    · rintro rfl
      have htold : b.Told ask (heard ask) := fun q hq => heard_eq (ends rfl q hq)
      exact ⟨heard ask, htold, Option.some.inj (answers _ htold)⟩
    · rintro ⟨told, htold, rfl⟩
      exact answers told htold
  accepted told htold hnil q hq := by
    have hanswer := htold q hq
    have hissues := kept told hnil q hq
    cases ho : told q.1 q.2 with
    | ok w => exact ⟨w, rfl⟩
    | error issues =>
      rw [ho] at hanswer hissues
      obtain rfl : issues = [] := hissues
      exact absurd hanswer (explained _ _)

end Breakdown

/-! ## Issues in their places -/

theorem issuesAt_eq_nil_iff {way : Path} {o : Outcome} : issuesAt way o = [] ↔ Part.issues o = [] := List.map_eq_nil_iff

theorem allWithin_eq_issuesAt (segment : Segment) (o : Outcome) :
    Issue.allWithin segment (Part.issues o) = issuesAt [segment] o := rfl

theorem settle_eq (issues : List Issue) (w : Value) :
    settle issues w = if issues = [] then .ok w else .error issues := by
  cases issues <;> rfl

/-! ## Collecting runs -/

namespace Part

variable {α β : Type} {part : β → Option (Part α)} {bs : List β}

/-- the issues of a part of a part -/
theorem issues_within_within (outer inner : Segment) (o : Outcome) :
    ((Part.within inner o).within outer).issues = issuesAt [outer, inner] o := by
  rw [issues_within, issues_within, Issue.allWithin, Issue.allWithin, List.map_map]
  rfl

@[simp] theorem value?_within (segment : Segment) (p : Part α) : (p.within segment).value? = p.value? := by
  cases p <;> rfl

theorem allIssues_map (told : β → Part α) (bs : List β) : allIssues (bs.map told) = bs.flatMap fun b => (told b).issues :=
  List.flatMap_map ..

theorem values_map (told : β → Part α) (bs : List β) : values (bs.map told) = bs.filterMap fun b => (told b).value? :=
  List.filterMap_map ..

/-- a run that collects issues gives what every part gives -/
theorem run_told {told : β → Part α} (h : ∀ b ∈ bs, part b = some (told b)) : run .collect part bs = some (bs.map told) := by
  induction bs with
  | nil => rfl
  | cons b bs ih =>
    rw [run_cons, h b List.mem_cons_self, Option.bind_some, stops_collect, if_neg Bool.false_ne_true,
      ih fun b' hb' => h b' (List.mem_cons_of_mem _ hb')]
    rfl

/-- when it comes to an end, every part has -/
theorem isSome_of_run (h : (run .collect part bs).isSome = true) {b : β} (hb : b ∈ bs) : (part b).isSome = true := by
  obtain ⟨ps, hps⟩ := Option.isSome_iff_exists.1 h
  obtain ⟨p, -, hp⟩ := exists_right_of_forall₂ (forall₂_of_complete hps (.inl rfl)) hb
  rw [hp]
  rfl

end Part

namespace Validator

theorem child_told {a : Validator} {ctx : Context} {v : Value} {o : Outcome} (segment : Segment) (h : a ctx v = some o) :
    a.child segment ctx v = some (Part.within segment o) := by
  rw [child, h, Option.map_some]

end Validator

end ValueSchema
