import ValueSchema.Parse
import ValueSchema.Proofs.Budget.Suffices
import ValueSchema.Proofs.Modes.Choices
import ValueSchema.Proofs.Schema.Runs

/-!
All entry points give one verdict.

Stopping at the first issue is collecting issues cut short: the same output, or the first issue alone. What a schema
accepts and what it makes of it depends neither on the mode nor on the words of issues.

Results:
- `abridged_passedOn`: combinators pass on that they abridge what they collect.
- `entry_points_agree`: the two modes, the five entry points, and that a refusal always has a first issue.
-/

namespace ValueSchema

/-- the outcome with all issues, cut short after the first, which may hold fewer issues inside -/
inductive CutShort : Outcome → Outcome → Prop
  | ok (w : Value) : CutShort (.ok w) (.ok w)
  | error {i j : Issue} {rest : List Issue} (code : i.code = j.code) (path : i.path = j.path)
    (message : i.message = j.message) (params : i.params = j.params) (nested : i.nested.length ≤ j.nested.length) :
    CutShort (.error [i]) (.error (j :: rest))

/-- an answer with the verdict and the output of an outcome, and with an issue if it is a refusal -/
def AnswersAs (answer : Option Outcome) (full : Outcome) : Prop :=
  ∃ o, answer = some o ∧ Part.value? o = Part.value? full ∧ ∀ issues, o = .error issues → issues ≠ []

/-- issues in the same words, when the first one decides, are the first one -/
theorem cutShort_of_abridges {words : Catalog} {early full : Outcome}
    (h : Part.Abridges ⟨words, .failFast⟩ words early full) : CutShort early full := by
  cases h with
  | ok w => exact .ok w
  | @error is js ne h =>
    obtain ⟨i, rfl⟩ : ∃ i, is = [i] := by
      have hlen := h.single rfl
      cases is with
      | nil => exact absurd rfl ne
      | cons i is =>
        cases is with
        | nil => exact ⟨i, rfl⟩
        | cons => simp at hlen
    cases js with
    | nil => exact absurd (h.eq_nil_iff.2 rfl) ne
    | cons j js =>
      cases h.head with
      | some hij => exact .error hij.code hij.path (hij.message rfl) hij.params hij.nested

/-- in any words, verdict and output are those of the outcome with all issues -/
theorem answersAs_of_abridges {a : Context} {words : Catalog} {o full : Outcome} (h : Part.Abridges a words o full) :
    AnswersAs (some o) full := by
  refine ⟨o, rfl, ?_⟩
  cases h with
  | ok w => exact ⟨rfl, nofun⟩
  | error ne h =>
    refine ⟨rfl, ?_⟩
    intro issues hissues
    cases hissues
    exact ne

namespace Schema

open Validator

/-- every combinator abridges what it collects if its parts do -/
theorem abridged_passedOn (a : Context) (words : Catalog) : PassedOn (Abridged a words) where
  none := fun _ => .none _
  leaf l := fun v => .some (l.abridges v)
  object := object_abridged
  array sizes h := array_abridged h sizes
  set sizes h := set_abridged h sizes
  tuple := tuple_abridged
  record := record_abridged
  map := map_abridged
  union := union_abridged
  discriminated := discriminated_abridged
  intersection := intersection_abridged
  optional := optional_abridged
  nullable := nullable_abridged
  defaulting fallback h := defaulting_abridged h fallback
  catching fallback h := catching_abridged h fallback
  refine holds message path h := refine_abridged h holds message path
  transform convert h := transform_abridged h convert
  pipe := pipe_abridged

theorem run_abridged (a : Context) (words : Catalog) (defs : Definitions) (n : Nat) (s : Schema) :
    (s.run defs n).Abridged a words := (abridged_passedOn a words).run defs n s

/-- **One verdict.** Whenever a schema comes to an end on a value while it collects issues, it comes to an end when it
stops at the first issue, with the same output or with the first of the issues collected; and then every entry point,
with any options, has this verdict and this output, and gives an issue with each refusal. -/
theorem entry_points_agree (defs : Definitions) (s : Schema) (v : Value) :
    (∀ n catalog full, s.run defs n ⟨catalog, .collect⟩ v = some full →
      ∃ early, s.run defs n ⟨catalog, .failFast⟩ v = some early ∧ CutShort early full) ∧
    (∀ catalog full, s.validate defs ⟨catalog, .collect⟩ v = some full →
      s.isValid defs v = some (Part.value? full).isSome ∧
      AnswersAs (s.parse defs v) full ∧
      AnswersAs (s.safeParse defs v) full ∧
      ∀ options : Options,
        AnswersAs (s.parseWith defs options v) full ∧
        AnswersAs (s.safeParseWith defs options v) full ∧
        (options.abortEarly = true → s.safeParseWith defs options v = s.parseWith defs options v)) := by
  constructor
  · intro n catalog full hfull
    obtain ⟨early, hearly, h⟩ := run_abridged ⟨catalog, .failFast⟩ catalog defs n s v full hfull
    exact ⟨early, hearly, cutShort_of_abridges h⟩
  · intro catalog full hfull
    have hany (a : Context) : ∃ o, s.validate defs a v = some o ∧ Part.Abridges a catalog o full := by
      obtain ⟨n, hn⟩ := validate_eq_some_iff.1 hfull
      obtain ⟨o, ho, h⟩ := run_abridged a catalog defs n s v full hn
      exact ⟨o, validate_eq_of_run ho, h⟩
    have hanswers (a : Context) : AnswersAs (s.validate defs a v) full := by
      obtain ⟨o, ho, h⟩ := hany a
      rw [ho]
      exact answersAs_of_abridges h
    refine ⟨?_, hanswers _, hanswers _, fun options => ⟨hanswers _, hanswers _, ?_⟩⟩
    · obtain ⟨o, ho, h⟩ := hany ⟨Catalog.english, .failFast⟩
      rw [isValid, ho]
      cases h <;> rfl
    · intro hearly
      rw [safeParseWith, parseWith, if_pos hearly]

/-- an array of two values that are not null: two issues, of which one is left when the first one decides -/
theorem array_of_null_refuses_bools :
    (∃ early, (Schema.array (.leaf .null) .empty).run [] 0 ⟨Catalog.english, .failFast⟩ (.array [.bool true, .bool false]) =
        some early ∧
      CutShort early (.error
        [(Context.issue ⟨Catalog.english, .collect⟩ (.invalidType "null" "boolean") none).within (.index 0),
          (Context.issue ⟨Catalog.english, .collect⟩ (.invalidType "null" "boolean") none).within (.index 1)])) ∧
    (Schema.array (.leaf .null) .empty).isValid [] (.array [.bool true, .bool false]) = some false ∧
    (Schema.array (.leaf .null) .empty).safeParseWith [] ⟨Catalog.english, true⟩ (.array [.bool true, .bool false]) =
      (Schema.array (.leaf .null) .empty).parseWith [] ⟨Catalog.english, true⟩ (.array [.bool true, .bool false]) := by
  have h := entry_points_agree [] (.array (.leaf .null) .empty) (.array [.bool true, .bool false])
  refine ⟨h.1 0 Catalog.english _ rfl, ?_⟩
  have hcollected := h.2 Catalog.english (.error
    [(Context.issue ⟨Catalog.english, .collect⟩ (.invalidType "null" "boolean") none).within (.index 0),
      (Context.issue ⟨Catalog.english, .collect⟩ (.invalidType "null" "boolean") none).within (.index 1)])
    (validate_eq_of_run (n := 0) rfl)
  exact ⟨hcollected.1, (hcollected.2.2.2 ⟨Catalog.english, true⟩).2.2 rfl⟩

end Schema

end ValueSchema
