import Mathlib.Data.List.Forall2
import ValueSchema.Proofs.Leaf.Verdict
import ValueSchema.Proofs.Validator.Run
import ValueSchema.Validator.Collection

/-!
One outcome in the words of two catalogs.

Two runs in one mode, each with a catalog of its own, are compared finding by finding. Related issues have the same
code, place and details, hold related issues inside, and tell one finding, each in the words of its own catalog; an
author's text for the finding is no catalog's and so is the same in both. Only the finding of a union is not quite the
same, since a union tells what its alternatives have told.

Results:
- `Issue.Reworded.own_text`: an author's text is told by both.
- `Part.run_reworded`: runs of parts that are reworded.
- `settle_reworded`, `close_reworded`: ends of runs.
- `Leaf.reworded`: leaves.
-/

namespace ValueSchema

/-! ## Issues -/

/-- one finding, up to what the alternatives of a union have told -/
inductive Finding.Same : Finding → Finding → Prop
  | refl (f : Finding) : Same f f
  | union (shown shown' : List String) : Same ⟨.invalidUnion shown, none⟩ ⟨.invalidUnion shown', none⟩

/-- the issue has the code and the details of a finding, in the words of a catalog unless there is an author's text -/
structure Issue.Tells (i : Issue) (words : Catalog) (f : Finding) : Prop where
  code : i.code = f.message.code
  params : i.params = f.message.params
  message : i.message = f.own.getD (words.render f.message)

/-- two issues tell one of some findings, each in the words of its own catalog -/
def Issue.TellSame (findings : Finding → Prop) (a b : Catalog) (i j : Issue) : Prop :=
  ∃ f g : Finding, f.Same g ∧ findings f ∧ findings g ∧ i.Tells a f ∧ j.Tells b g

/-- the same issue in the words of two catalogs, and so are the issues inside it -/
inductive Issue.Reworded (findings : Finding → Prop) (a b : Catalog) : Issue → Issue → Prop
  | intro {i j : Issue} (code : i.code = j.code) (path : i.path = j.path) (params : i.params = j.params)
    (told : Issue.TellSame findings a b i j) (nested : List.Forall₂ (Reworded findings a b) i.nested j.nested) :
    Reworded findings a b i j

variable {findings : Finding → Prop} {a b : Catalog} {i j : Issue} {is js : List Issue}

namespace Finding.Same

variable {f g : Finding}

theorem own_eq (h : f.Same g) : f.own = g.own := by
  cases h <;> rfl

theorem code_eq (h : f.Same g) : f.message.code = g.message.code := by
  cases h <;> rfl

theorem params_eq (h : f.Same g) : f.message.params = g.message.params := by
  cases h <;> rfl

end Finding.Same

namespace Issue

theorem tells_tell (words : Catalog) (mode : Mode) (f : Finding) : (Context.tell ⟨words, mode⟩ f).Tells words f :=
  ⟨rfl, rfl, rfl⟩

namespace Reworded

/-- issues that tell one finding at one place, with related issues inside -/
theorem of_tellSame (path : i.path = j.path) (told : TellSame findings a b i j)
    (nested : List.Forall₂ (Reworded findings a b) i.nested j.nested) : Reworded findings a b i j := by
  have hfinding := told
  obtain ⟨f, g, hsame, -, -, hi, hj⟩ := hfinding
  have code : i.code = j.code := by rw [hi.code, hj.code, hsame.code_eq]
  have params : i.params = j.params := by rw [hi.params, hj.params, hsame.params_eq]
  exact .intro code path params told nested

theorem tell {f : Finding} (hf : findings f) (mode : Mode) :
    Reworded findings a b (Context.tell ⟨a, mode⟩ f) (Context.tell ⟨b, mode⟩ f) :=
  .of_tellSame rfl ⟨f, f, .refl f, hf, hf, tells_tell a mode f, tells_tell b mode f⟩ .nil

theorem within (h : Reworded findings a b i j) (segment : Segment) :
    Reworded findings a b (i.within segment) (j.within segment) := by
  obtain ⟨code, path, params, ⟨f, g, hsame, hf, hg, hi, hj⟩, nested⟩ := h
  refine .intro code (congrArg (segment :: ·) path) params ⟨f, g, hsame, hf, hg, ?_, ?_⟩ nested
  · exact ⟨hi.code, hi.params, hi.message⟩
  · exact ⟨hj.code, hj.params, hj.message⟩

/-- **Own texts.** Each of two reworded issues tells a finding, and the author's text if there is one: both tell it. -/
theorem own_text (h : Reworded findings a b i j) :
    ∃ f, findings f ∧ i.Tells a f ∧ ∀ text, f.own = some text → i.message = text ∧ j.message = text := by
  obtain ⟨-, -, -, ⟨f, g, hsame, hf, -, hi, hj⟩, -⟩ := h
  refine ⟨f, hf, hi, fun text hown => ⟨?_, ?_⟩⟩
  · rw [hi.message, hown, Option.getD_some]
  · rw [hj.message, ← hsame.own_eq, hown, Option.getD_some]

end Reworded

/-- lists of reworded issues -/
abbrev AllReworded (findings : Finding → Prop) (a b : Catalog) : List Issue → List Issue → Prop :=
  List.Forall₂ (Reworded findings a b)

theorem AllReworded.within (h : AllReworded findings a b is js) (segment : Segment) :
    AllReworded findings a b (allWithin segment is) (allWithin segment js) :=
  List.rel_map (fun _ _ hij => hij.within segment) h

end Issue

/-- lists in step end a run both or neither -/
theorem stops_eq_of_forall₂ {R : Issue → Issue → Prop} (h : List.Forall₂ R is js) (mode : Mode) :
    mode.stops is = mode.stops js := by
  unfold Mode.stops
  rw [isEmpty_eq_of_forall₂ h]

/-! ## Parts -/

/-- the same result, or the same issues in the words of two catalogs -/
inductive Part.Reworded (findings : Finding → Prop) (a b : Catalog) {α : Type} : Part α → Part α → Prop
  | ok (x : α) : Reworded findings a b (.ok x) (.ok x)
  | error {is js : List Issue} (h : Issue.AllReworded findings a b is js) : Reworded findings a b (.error is) (.error js)

section Parts

variable {α β : Type}

namespace Part.Reworded

variable {p q : Part α}

theorem issues (h : p.Reworded findings a b q) : Issue.AllReworded findings a b p.issues q.issues := by
  cases h with
  | ok x => exact .nil
  | error h => exact h

theorem value?_eq (h : p.Reworded findings a b q) : p.value? = q.value? := by
  cases h <;> rfl

theorem within (h : p.Reworded findings a b q) (segment : Segment) :
    (p.within segment).Reworded findings a b (q.within segment) := by
  cases h with
  | ok x => exact .ok x
  | error h => exact .error (h.within segment)

theorem map (h : p.Reworded findings a b q) (f : α → β) : (p.map f).Reworded findings a b (q.map f) := by
  cases h with
  | ok x => exact .ok (f x)
  | error h => exact .error h

/-- one issue -/
theorem one (h : i.Reworded findings a b j) : Part.Reworded findings a b (.error [i] : Part α) (.error [j]) :=
  .error (.cons h .nil)

/-- failure for one cause -/
theorem fail {m : Message} {own : Option String} (hf : findings ⟨m, own⟩) (mode : Mode) :
    Part.Reworded findings a b (Context.fail ⟨a, mode⟩ m own : Part α) (Context.fail ⟨b, mode⟩ m own) :=
  one (.tell hf mode)

end Part.Reworded

/-- runs of parts that are reworded one by one -/
abbrev Part.AllReworded (findings : Finding → Prop) (a b : Catalog) : List (Part α) → List (Part α) → Prop :=
  List.Forall₂ (Part.Reworded findings a b)

namespace Part.AllReworded

variable {ps qs : List (Part α)}

theorem allIssues (h : AllReworded findings a b ps qs) :
    Issue.AllReworded findings a b (Part.allIssues ps) (Part.allIssues qs) :=
  List.rel_flatMap h fun _ _ hpq => hpq.issues

theorem values_eq (h : AllReworded findings a b ps qs) : values ps = values qs := by
  unfold values
  induction h with
  | nil => rfl
  | cons hpq _ ih => rw [List.filterMap_cons, List.filterMap_cons, hpq.value?_eq, ih]

end Part.AllReworded

/-- **Runs of parts.** If every part is reworded, so is the run; it ends at the same part. -/
theorem Part.run_reworded {mode : Mode} {part part' : β → Option (Part α)} {bs : List β}
    (h : ∀ b' ∈ bs, Option.Rel (Part.Reworded findings a b) (part b') (part' b')) :
    Option.Rel (Part.AllReworded findings a b) (run mode part bs) (run mode part' bs) := by
  induction bs with
  | nil => exact .some .nil
  | cons c cs ih =>
    have hrest := ih fun b' hb' => h b' (List.mem_cons_of_mem _ hb')
    rw [run_cons, run_cons]
    refine optionRel_bind (h c List.mem_cons_self) fun p q hpq => ?_
    rw [stops_eq_of_forall₂ hpq.issues]
    split_ifs
    · exact .some (.cons hpq .nil)
    · exact optionRel_map hrest fun ps qs hps => .cons hpq hps

/-! ## Ends of runs -/

theorem settle_reworded (h : Issue.AllReworded findings a b is js) (w : Value) :
    Part.Reworded findings a b (settle is w) (settle js w) := by
  cases h with
  | nil => exact .ok w
  | cons hij hrest => exact .error (.cons hij hrest)

theorem close_reworded {is' js' : List Issue} (h : Issue.AllReworded findings a b is js)
    (h' : Issue.AllReworded findings a b is' js') (mode : Mode) (w : Value) :
    Part.Reworded findings a b (Validator.close mode is is' w) (Validator.close mode js js' w) := by
  unfold Validator.close
  rw [stops_eq_of_forall₂ h]
  split_ifs
  · exact .error h
  · exact settle_reworded (List.rel_append h h') w

theorem sizeIssues_reworded {sizes : Checks SizeTest} {origin : Origin} {size : Nat}
    (hf : ∀ f, sizes.finding? (SizeTest.failure origin) size = some f → findings f) (mode : Mode) :
    Issue.AllReworded findings a b (sizes.sizeIssues origin ⟨a, mode⟩ size) (sizes.sizeIssues origin ⟨b, mode⟩ size) := by
  unfold Checks.sizeIssues
  rw [Checks.firstIssue_eq, Checks.firstIssue_eq]
  cases hfound : sizes.finding? (SizeTest.failure origin) size with
  | none => exact .nil
  | some f => exact .cons (.tell (hf f hfound) mode) .nil

/-- a leaf gives the same output with two catalogs, or tells what it finds in the words of each -/
theorem Leaf.reworded {l : Leaf} {v : Value} (hf : ∀ f, l.finding? v = some f → findings f) (mode : Mode) :
    Part.Reworded findings a b (l.validate ⟨a, mode⟩ v) (l.validate ⟨b, mode⟩ v) := by
  have hjudged := l.judged v
  cases hfound : l.finding? v with
  | none =>
    rw [hfound] at hjudged
    obtain ⟨w, hw : ∀ ctx, l.validate ctx v = .ok w⟩ := hjudged
    rw [hw, hw]
    exact .ok w
  | some f =>
    rw [hfound] at hjudged
    have hfail : ∀ ctx, l.validate ctx v = .error [ctx.tell f] := hjudged
    rw [hfail, hfail]
    exact .one (.tell (hf f hfound) mode)

end Parts

end ValueSchema
