import ValueSchema.Proofs.Budget.Suffices
import ValueSchema.Proofs.Schema.Runs
import ValueSchema.Proofs.Words.Combinators

/-!
Catalogs choose words and nothing else.

With any two catalogs a schema has one verdict: the same output, or issues that differ in their words at most, at every
depth. Each issue tells something that a schema inside found wrong, and where the author of that schema gave a text, no
catalog has a say.

Results:
- `Schema.FindsInside`: what schemas inside a schema, names followed, may find wrong.
- `run_reworded`: every run of every schema.
- `catalogs_choose_words`: runs, `validate`, and the texts that authors gave.
-/

namespace ValueSchema

namespace Schema

open Validator

/-- the schemas inside a schema, itself among them -/
inductive Contains : Schema → Schema → Prop
  | self (s : Schema) : Contains s s
  | part {s t u : Schema} : t ∈ s.parts → Contains t u → Contains s u

theorem all_of_contains {P : Schema → Prop} {s : Schema} (h : ∀ t, s.Contains t → P t) : s.All P := by
  induction s using parts_induction with
  | step s ih =>
    refine .intro (h s (.self s)) fun t ht => ih t ht fun u hu => ?_
    exact h u (.part ht hu)

/-- what a schema inside finds wrong, or one inside the schemas that names stand for -/
def FindsInside (defs : Definitions) (s : Schema) (f : Finding) : Prop :=
  ∃ t, (s.Contains t ∨ ∃ d ∈ defs, d.2.Contains t) ∧ t.Finds f

/-- combinators that find only what is among the findings are reworded if their parts are -/
theorem reworded_passedOn (findings : Finding → Prop) (a b : Catalog) :
    PassedOnBy (FindsOnly findings) (Validator.Reworded findings a b) where
  leaf hself := fun mode _ => .some (Leaf.reworded (fun f hf => hself f (.leaf hf)) mode)
  object := object_reworded
  array := array_reworded
  set := set_reworded
  tuple := tuple_reworded
  record := record_reworded
  map := map_reworded
  union := union_reworded
  discriminated := discriminated_reworded
  intersection := intersection_reworded
  optional _ := optional_reworded
  nullable _ := nullable_reworded
  defaulting _ h := defaulting_reworded h _
  catching _ h := catching_reworded h _
  refine := refine_reworded
  transform := transform_reworded
  pipe _ := pipe_reworded

/-- **Runs are reworded.** -/
theorem run_reworded (defs : Definitions) (s : Schema) (a b : Catalog) (n : Nat) :
    (s.run defs n).Reworded (s.FindsInside defs) a b := by
  have inside {t : Schema} (ht : s.Contains t ∨ ∃ d ∈ defs, d.2.Contains t) : t.FindsOnly (s.FindsInside defs) :=
    fun f hf => ⟨t, ht, hf⟩
  refine (reworded_passedOn (s.FindsInside defs) a b).run (fun _ _ => .none) (fun d hd => ?_) n ?_
  · exact all_of_contains fun t ht => inside (Or.inr ⟨d, hd, ht⟩)
  · exact all_of_contains fun t ht => inside (Or.inl ht)

/-- an author's text is told in a setting: by a leaf that finds what it was given for, about the size of a collection, and
about a condition that does not hold -/
structure TellsOwnTexts (ctx : Context) : Prop where
  leaf : ∀ (l : Leaf) (v : Value) (f : Finding) (text : String), l.finding? v = some f → f.own = some text →
    ∃ i, l.validate ctx v = .error [i] ∧ i.message = text
  size : ∀ (sizes : Checks SizeTest) (origin : Origin) (size : Nat) (f : Finding) (text : String),
    sizes.finding? (SizeTest.failure origin) size = some f → f.own = some text →
    ∃ i, sizes.sizeIssues origin ctx size = [i] ∧ i.message = text
  condition : ∀ (defs : Definitions) (n : Nat) (inner : Schema) (holds : Predicate) (text : String) (path : Path)
    (v w : Value), inner.run defs n ctx v = some (.ok w) → holds w = false →
    ∃ i, (Schema.refine inner holds text path).run defs n ctx v = some (.error [i]) ∧ i.message = text

theorem tellsOwnTexts (ctx : Context) : TellsOwnTexts ctx where
  leaf l v f text h hown := Leaf.own_text h hown ctx
  size sizes origin size f text h hown := by
    obtain ⟨i, hi, htext⟩ := Checks.own_text h hown ctx
    refine ⟨i, ?_, htext⟩
    rw [Checks.sizeIssues, hi, Option.toList_some]
  condition defs n inner holds text path v w hw hfails := by
    rw [run_eq] at hw ⊢
    refine ⟨{ ctx.issue .custom (some text) with path := path }, ?_, rfl⟩
    simp only [validator, Validator.refine, hw, Option.map_some, hfails, Bool.false_eq_true, if_false]

/-- **Catalogs choose words and nothing else.** In either mode and with any two catalogs, a schema gives the same output,
or issues that are told differently at most: there are as many, and one by one, inside issues too, they have the same code,
place and details, and tell one finding of a schema inside. Where the author gave a text for what was found, both tell
this text. This holds however deep names are followed. -/
theorem catalogs_choose_words (defs : Definitions) (s : Schema) (a b : Catalog) (mode : Mode) (v : Value) :
    (∀ n, Option.Rel (Part.Reworded (s.FindsInside defs) a b) (s.run defs n ⟨a, mode⟩ v) (s.run defs n ⟨b, mode⟩ v)) ∧
    Option.Rel (Part.Reworded (s.FindsInside defs) a b) (s.validate defs ⟨a, mode⟩ v) (s.validate defs ⟨b, mode⟩ v) ∧
    (∀ i j : Issue, i.Reworded (s.FindsInside defs) a b j → ∃ f, s.FindsInside defs f ∧ i.Tells a f ∧
      ∀ text, f.own = some text → i.message = text ∧ j.message = text) ∧
    TellsOwnTexts ⟨a, mode⟩ :=
  ⟨fun n => run_reworded defs s a b n mode v, validate_rel fun n => run_reworded defs s a b n mode v,
    fun _ _ h => h.own_text, tellsOwnTexts ⟨a, mode⟩⟩

/-- a catalog of one word for everything -/
def oneWord : Catalog := ⟨"none", fun _ => "?"⟩

/-- a text that must not be empty, with the author's word for it, or null -/
def wordOrNull : Schema := .union [.leaf (.string ⟨[], ⟨[⟨.atLeast 1, some "no word"⟩], none⟩, false⟩), .leaf .null]

/-- both catalogs leave the author's text inside the issue of the union as it is -/
theorem no_word_in_both : ∃ i j : Issue,
    wordOrNull.validate [] ⟨Catalog.english, .collect⟩ (.string "") = some (.error [i]) ∧
    wordOrNull.validate [] ⟨oneWord, .collect⟩ (.string "") = some (.error [j]) ∧
    i.Reworded (wordOrNull.FindsInside []) Catalog.english oneWord j ∧
    i.nested.head?.map Issue.message = some "no word" ∧ j.nested.head?.map Issue.message = some "no word" := by
  obtain ⟨-, hvalidate, -, -⟩ := catalogs_choose_words [] wordOrNull Catalog.english oneWord .collect (.string "")
  obtain ⟨i, hi, htext⟩ : ∃ i, wordOrNull.validate [] ⟨Catalog.english, .collect⟩ (.string "") = some (.error [i]) ∧
      i.nested.head?.map Issue.message = some "no word" := ⟨_, validate_eq_of_run (n := 0) rfl, rfl⟩
  obtain ⟨j, hj, htext'⟩ : ∃ j, wordOrNull.validate [] ⟨oneWord, .collect⟩ (.string "") = some (.error [j]) ∧
      j.nested.head?.map Issue.message = some "no word" := ⟨_, validate_eq_of_run (n := 0) rfl, rfl⟩
  refine ⟨i, j, hi, hj, ?_, htext, htext'⟩
  rw [hi, hj] at hvalidate
  cases hvalidate with
  | some hboth =>
    cases hboth with
    | error hissues =>
      cases hissues with
      | cons hij _ => exact hij

end Schema

end ValueSchema
