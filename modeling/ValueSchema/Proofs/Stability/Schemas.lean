import ValueSchema.Proofs.Budget.Suffices
import ValueSchema.Proofs.Leaf.Stable
import ValueSchema.Proofs.Stability.Collections

/-!
Schemas that only normalise are stable.

`Schema.Normalizes` leaves out the forms that put a value of their own making in the place of the one they validate:
fallbacks, conversions by a caller, pipelines, unions, merges and changes of case. A schema of the other forms, names
included, accepts its own outputs as they are. A discriminated union selects the same option again since the field of
its tag lists its values, and gives the value that it was given.

Results:
- `discriminated_stable`, `optional_stable`, `nullable_stable`, `refine_stable`: the other combinators.
- `run_stable`: every run of a schema that only normalises is stable.
- `output_stable`: so is `validate`.
-/

namespace ValueSchema

namespace Validator

/-! ## Choices and wrappers -/

/-- if the selected option gives the tag that selected it, it is selected again -/
theorem discriminated_stable {tag : String} {options : List TaggedOption}
    (hs : ∀ option ∈ options, option.validator.Stable)
    (htag : ∀ option ∈ options, option.tags ≠ [] → ∀ ctx o w, option.validator ctx (.object o) = some (.ok w) →
      ∃ o', w = .object o' ∧ (o'.get? tag).getD .undefined = (o.get? tag).getD .undefined) :
    (discriminated tag options).Stable := by
  intro ctx v w h
  cases v with
  | object o =>
    unfold discriminated at h
    simp only at h
    cases hfind : options.find? fun option => option.tags.any (·.same ((o.get? tag).getD .undefined)) with
    | none =>
      rw [hfind] at h
      simp at h
    | some option =>
      rw [hfind] at h
      have hmem := List.mem_of_find?_eq_some hfind
      have htags : option.tags ≠ [] := by
        intro hnil
        have hany := List.find?_some hfind
        rw [hnil] at hany
        simp at hany
      obtain ⟨o', rfl, hget⟩ := htag option hmem htags ctx o w h
      unfold discriminated
      simp only [hget, hfind]
      exact hs option hmem ctx _ _ h
  | _ => exact absurd h wrongKind_ne_ok

variable {inner : Validator}

theorem optional_stable (hs : inner.Stable) : (optional inner).Stable := by
  intro ctx v w h
  rcases optional_eq_ok_iff.1 h with ⟨-, rfl⟩ | ⟨-, h⟩
  · exact optional_eq_ok_iff.2 (Or.inl ⟨rfl, rfl⟩)
  · by_cases hw : w = .undefined
    · exact optional_eq_ok_iff.2 (Or.inl ⟨hw, hw⟩)
    · exact optional_eq_ok_iff.2 (Or.inr ⟨hw, hs ctx v w h⟩)

theorem nullable_stable (hs : inner.Stable) : (nullable inner).Stable := by
  intro ctx v w h
  rcases nullable_eq_ok_iff.1 h with ⟨-, rfl⟩ | ⟨-, h⟩
  · exact nullable_eq_ok_iff.2 (Or.inl ⟨rfl, rfl⟩)
  · by_cases hw : w = .null
    · exact nullable_eq_ok_iff.2 (Or.inl ⟨hw, hw⟩)
    · exact nullable_eq_ok_iff.2 (Or.inr ⟨hw, hs ctx v w h⟩)

/-- the condition was asked of the output -/
theorem refine_stable (hs : inner.Stable) (holds : Predicate) (message : String) (path : Path) :
    (refine inner holds message path).Stable := by
  intro ctx v w h
  obtain ⟨hw, hp⟩ := refine_eq_ok h
  unfold refine
  rw [hs ctx v w hw, Option.map_some]
  simp only [if_pos hp]

end Validator

namespace Schema

open Validator

/-! ## Schemas that only normalise -/

/-- a form that puts no value of its own making in the place of the one it validates -/
def KeepsToInput : Schema → Prop
  | .leaf l => l.TrimsOnly
  | .union _ => False
  | .intersection .. => False
  | .defaulting .. => False
  | .catching .. => False
  | .transform .. => False
  | .pipe .. => False
  | _ => True

/-- every schema inside is of such a form -/
abbrev Normalizes (s : Schema) : Prop := s.All KeepsToInput

variable {refs : References}

theorem objectFields_nodup (refs : References) (type : ObjectType Schema) :
    ((type.shape.toList.map fun f => (f.1, f.2.validator refs)).map Prod.fst).Nodup := by
  rw [List.map_map]
  exact type.shape.nodup_toList

/-- an object type whose field lists the values of a tag gives the tag it is given -/
theorem tag_of_output (hrefs : ∀ name, (refs name).Explained) {tag : String} {type : ObjectType Schema}
    (htags : (tagsOf? tag type).getD [] ≠ []) {ctx : Context} {o : Object Value} {w : Value}
    (h : (Schema.object type).validator refs ctx (.object o) = some (.ok w)) :
    ∃ o', w = .object o' ∧ (o'.get? tag).getD .undefined = (o.get? tag).getD .undefined := by
  obtain ⟨values, hvalues⟩ : ∃ values, tagsOf? tag type = some values := by
    cases hv : tagsOf? tag type with
    | none => simp [hv] at htags
    | some values => exact ⟨values, rfl⟩
  obtain ⟨s, hs, hliteral⟩ := Option.bind_eq_some_iff.1 hvalues
  obtain ⟨l, rfl⟩ : ∃ l, s = .leaf l := by
    cases s with
    | leaf l => exact ⟨l, rfl⟩
    | _ => cases hliteral
  rw [validator_object] at h
  obtain ⟨i, known, others, hi, rfl, hknown, hothers⟩ := (object_eq_ok_iff (objectFields_explained hrefs type)
    (unknown_explained hrefs type.unknown)).1 h
  cases hi
  have hfield : (tag, (Schema.leaf l).validator refs) ∈ type.shape.toList.map fun f => (f.1, f.2.validator refs) :=
    List.mem_map.2 ⟨(tag, .leaf l), Object.get?_eq_some_iff.1 hs, rfl⟩
  obtain ⟨m, -, u, hu, -⟩ := exists_right_of_forall₂ hknown hfield
  refine ⟨_, rfl, ?_⟩
  rw [(get?_output (objectFields_nodup refs type) hknown hothers hfield hu).1]
  exact Leaf.output_eq_of_literalValues hliteral (Option.some.inj hu)

/-- a schema that only normalises is stable if the names in it are -/
theorem validator_stable (hexplained : ∀ name, (refs name).Explained) (hrefs : ∀ name, (refs name).Stable) {s : Schema}
    (hs : s.Normalizes) : (s.validator refs).Stable := by
  have explained (t : Schema) : (t.validator refs).Explained := validator_explained hexplained t
  induction s using parts_induction with
  | step s ih =>
    have stable : ∀ t ∈ s.parts, (t.validator refs).Stable := fun t ht => ih t ht (hs.parts t ht)
    have hform := hs.here
    cases s with
    | leaf l => exact fun ctx v w h => congrArg some (Leaf.stable hform (Option.some.inj h))
    | object type =>
      rw [validator_object]
      refine object_stable (objectFields_nodup refs type) (objectFields_explained hexplained type)
        (unknown_explained hexplained type.unknown) ?_ ?_
      · intro f hf
        obtain ⟨e, he, rfl⟩ := List.mem_map.1 hf
        exact stable e.2 (List.mem_append_left _ (List.mem_map_of_mem he))
      · intro a ha
        rw [unknownValidator_parts] at ha
        obtain ⟨t, ht, rfl⟩ := List.mem_map.1 ha
        exact stable t (List.mem_append_right _ ht)
    | array element sizes => exact array_stable (explained element) (stable element (by simp [parts])) sizes
    | set element sizes => exact set_stable (explained element) (stable element (by simp [parts])) sizes
    | tuple items =>
      rw [validator_tuple]
      refine tuple_stable ?_ ?_
      · intro a ha
        obtain ⟨t, -, rfl⟩ := List.mem_map.1 ha
        exact explained t
      · intro a ha
        obtain ⟨t, ht, rfl⟩ := List.mem_map.1 ha
        exact stable t ht
    | record key value =>
      rw [validator_record]
      refine record_stable (explained value) ?_ (stable value (by simp [parts]))
      intro a ha
      obtain ⟨t, rfl, rfl⟩ := Option.map_eq_some_iff.1 ha
      exact stable t (by simp [parts])
    | map key value =>
      exact map_stable (explained key) (explained value) (stable key (by simp [parts])) (stable value (by simp [parts]))
    | discriminated tag options =>
      rw [validator_discriminated]
      refine discriminated_stable ?_ ?_
      · intro option ho
        obtain ⟨type, htype, rfl⟩ := List.mem_map.1 ho
        exact stable (.object type) (List.mem_map_of_mem htype)
      · intro option ho htags ctx o w h
        obtain ⟨type, -, rfl⟩ := List.mem_map.1 ho
        exact tag_of_output hexplained htags h
    | optional inner => exact optional_stable (stable inner (by simp [parts]))
    | nullable inner => exact nullable_stable (stable inner (by simp [parts]))
    | refine inner holds message path => exact refine_stable (stable inner (by simp [parts])) holds message path
    | lazy name => exact hrefs name
    | union | intersection | defaulting | catching | transform | pipe => exact hform.elim

/-- **Runs are stable.** -/
theorem run_stable {defs : Definitions} (hdefs : ∀ d ∈ defs, d.2.Normalizes) (n : Nat) {s : Schema} (hs : s.Normalizes) :
    (s.run defs n).Stable := by
  have h : (s.run defs n).Explained ∧ (s.run defs n).Stable := by
    refine run_induction (Q := fun a => a.Explained ∧ a.Stable) ⟨fun _ _ => nofun, fun _ _ _ => nofun⟩ ?_ hdefs n hs
    intro refs hrefs t ht
    exact ⟨validator_explained (fun name => (hrefs name).1) t,
      validator_stable (fun name => (hrefs name).1) (fun name => (hrefs name).2) ht⟩
  exact h.2

/-- **Normalisation is stable.** What a schema that only normalises makes of a value, it accepts as it is, in every
setting, however deep names are followed, and so in `validate`. -/
theorem output_stable (defs : Definitions) (hdefs : ∀ d ∈ defs, d.2.Normalizes) {s : Schema} (hs : s.Normalizes)
    (ctx : Context) (v w : Value) :
    (∀ n, s.run defs n ctx v = some (.ok w) → s.run defs n ctx w = some (.ok w)) ∧
      (s.validate defs ctx v = some (.ok w) → s.validate defs ctx w = some (.ok w)) := by
  have hrun (n : Nat) (h : s.run defs n ctx v = some (.ok w)) : s.run defs n ctx w = some (.ok w) :=
    run_stable hdefs n hs ctx v w h
  refine ⟨hrun, fun h => ?_⟩
  obtain ⟨n, hn⟩ := validate_eq_some_iff.1 h
  exact validate_eq_of_run (hrun n hn)

/-- a set of trimmed texts, two of which meet once they are trimmed -/
theorem trimmed_set_stable :
    (Schema.set (.lazy "text") ⟨[⟨.atMost 1, none⟩], none⟩).validate
        [("text", .leaf (.string ⟨[.trim], ⟨[⟨.atLeast 1, none⟩], none⟩, true⟩))] ⟨Catalog.english, .collect⟩
        (.set [.string "a"]) = some (.ok (.set [.string "a"])) := by
  have htext : (Schema.leaf (.string ⟨[.trim], ⟨[⟨.atLeast 1, none⟩], none⟩, true⟩)).Normalizes := by
    refine .intro ?_ (by simp [parts])
    intro n hn
    exact List.mem_singleton.1 hn
  have hset : (Schema.set (.lazy "text") ⟨[⟨.atMost 1, none⟩], none⟩).Normalizes := by
    refine .intro trivial fun t ht => ?_
    obtain rfl : t = .lazy "text" := by simpa [parts] using ht
    exact .intro trivial (by simp [parts])
  refine (output_stable [("text", .leaf (.string ⟨[.trim], ⟨[⟨.atLeast 1, none⟩], none⟩, true⟩))] ?_ hset
    ⟨Catalog.english, .collect⟩ (.set [.string " a ", .string "a"]) _).2 (validate_eq_of_run (n := 1) rfl)
  intro d hd
  obtain rfl := List.mem_singleton.1 hd
  exact htext

end Schema

end ValueSchema
