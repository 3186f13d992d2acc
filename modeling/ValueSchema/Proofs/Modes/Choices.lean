import Mathlib.Data.List.Forall2
import ValueSchema.Proofs.Modes.Collections
import ValueSchema.Validator.Choice
import ValueSchema.Validator.Wrapper

/-!
Choices and wrappers abridge what they collect.

The message of a union shows the first issue of each alternative, so that two settings give the same message only
because each alternative begins alike in both; the issues inside it are one of each alternative where the first one
decides.
-/

namespace ValueSchema

namespace Validator

section Choices

variable {a : Context} {words : Catalog} {inner first second : Validator}

/-! ## Unions -/

/-- failures at the same positions, those of the first setting abridging the others -/
abbrev FailuresAbridge (a : Context) (words : Catalog) : Failures → Failures → Prop :=
  List.Forall₂ fun f g => f.1 = g.1 ∧ f.2 ≠ [] ∧ Issue.ListAbridges a words f.2 g.2

/-- the same output of a pass over alternatives, or failures that abridge the others -/
inductive PassAbridges (a : Context) (words : Catalog) : Except Failures Value → Except Failures Value → Prop
  | ok (w : Value) : PassAbridges a words (.ok w) (.ok w)
  | error {fs gs : Failures} (h : FailuresAbridge a words fs gs) : PassAbridges a words (.error fs) (.error gs)

theorem attempt_abridges {l : List (Alternative × Nat)} (h : ∀ b ∈ l, b.1.validator.Abridged a words) (v : Value) :
    Follows (PassAbridges a words) (attempt a v l) (attempt ⟨words, .collect⟩ v l) := by
  induction l with
  | nil => exact .some (.error .nil)
  | cons b rest ih =>
    have hrest := ih fun b' hb' => h b' (List.mem_cons_of_mem _ hb')
    intro r hr
    rw [attempt] at hr ⊢
    cases hq : b.1.validator ⟨words, .collect⟩ v with
    | none =>
      rw [hq] at hr
      cases hr
    | some q =>
      rw [hq] at hr
      obtain ⟨p, hp, hpq⟩ := h b List.mem_cons_self v q hq
      rw [hp]
      cases hpq with
      | ok w =>
        cases hr
        exact ⟨_, rfl, .ok w⟩
      | @error is js ne hissues =>
        cases hq' : attempt ⟨words, .collect⟩ v rest with
        | none =>
          simp only [hq'] at hr
          cases hr
        | some q' =>
          simp only [hq'] at hr
          obtain ⟨p', hp', hpq'⟩ := hrest q' hq'
          simp only [hp']
          cases hpq' with
          | ok w =>
            cases hr
            exact ⟨_, rfl, .ok w⟩
          | error hfailures =>
            cases hr
            exact ⟨_, rfl, .error (.cons ⟨rfl, ne, hissues⟩ hfailures)⟩

/-- the issue of a union is worded by the first issues of its alternatives -/
theorem noMatch_abridges {fs gs : List (List Issue)}
    (h : List.Forall₂ (fun is js => is ≠ [] ∧ Issue.ListAbridges a words is js) fs gs) :
    (noMatch a fs).Abridges a words (noMatch ⟨words, .collect⟩ gs) where
  code := rfl
  path := rfl
  message := by
    intro hwords
    have hshown : fs.filterMap (fun issues => issues.head?.map Issue.display) =
        gs.filterMap fun issues => issues.head?.map Issue.display := by
      induction h with
      | nil => rfl
      | @cons is js fs gs hij _ ih =>
        have hhead : is.head?.map Issue.display = js.head?.map Issue.display := by
          have hrel := hij.2.head
          generalize is.head? = i at hrel
          generalize js.head? = j at hrel
          cases hrel with
          | none => rfl
          | some hij => exact congrArg some (hij.display hwords)
        rw [List.filterMap_cons, List.filterMap_cons, hhead, ih]
    simp only [noMatch, Context.issue, hshown, hwords]
  params := rfl
  nested := by
    show fs.flatten.length ≤ gs.flatten.length
    induction h with
    | nil => exact le_rfl
    | cons hij _ ih =>
      rw [List.flatten_cons, List.flatten_cons, List.length_append, List.length_append]
      exact Nat.add_le_add hij.2.length_le ih

theorem union_abridged {alternatives : List Alternative} (h : ∀ b ∈ alternatives, b.validator.Abridged a words) :
    (union alternatives).Abridged a words := by
  intro v
  unfold union
  simp only [List.partition_eq_filter_filter]
  have hpass (p : Alternative × Nat → Bool) : Follows (PassAbridges a words)
      (attempt a v (alternatives.zipIdx.filter p)) (attempt ⟨words, .collect⟩ v (alternatives.zipIdx.filter p)) :=
    attempt_abridges (fun b hb => h b.1 (List.fst_mem_of_mem_zipIdx (List.mem_of_mem_filter hb))) v
  refine (hpass _).bind fun p q hpq => ?_
  cases hpq with
  | ok w => exact .some (.ok w)
  | @error fs gs hfs =>
    refine (hpass _).map fun p q hpq => ?_
    cases hpq with
    | ok w => exact .ok w
    | @error fs' gs' hfs' =>
      refine .one (noMatch_abridges ?_)
      have hboth : FailuresAbridge a words (fs ++ fs') (gs ++ gs') := List.rel_append hfs hfs'
      refine List.rel_filterMap (R := Eq) ?_ (List.forall₂_refl _)
      rintro i _ rfl
      exact optionRel_lookup hboth i

/-! ## Discriminated unions and intersections -/

theorem discriminated_abridged {tag : String} {options : List TaggedOption}
    (h : ∀ option ∈ options, option.validator.Abridged a words) : (discriminated tag options).Abridged a words := by
  intro v
  cases v with
  | object o =>
    unfold discriminated
    simp only
    cases hfind : options.find? fun option => option.tags.any (·.same ((o.get? tag).getD .undefined)) with
    | some option => exact h option (List.mem_of_find?_eq_some hfind) (.object o)
    | none => exact .some (.one (.within (.cause _ none) (.key tag)))
  | _ => exact wrongKind_abridges _ _ _

/-- the right member is left out only when an issue of the left one decides -/
theorem intersection_abridged (hf : first.Abridged a words) (hs : second.Abridged a words) :
    (intersection first second).Abridged a words := by
  intro v
  unfold intersection
  refine (hf v).bind fun p q hpq => ?_
  rw [stops_collect, if_neg Bool.false_ne_true]
  cases hpq with
  | ok x =>
    have hgo : a.mode.stops (Part.issues (.ok x : Part Value)) = false := stops_nil a.mode
    rw [hgo, if_neg Bool.false_ne_true]
    refine (hs v).map fun r s hrs => ?_
    cases hrs with
    | ok y =>
      simp only
      cases x.merge y with
      | some w => exact .ok w
      | none => exact .fail _ _
    | error ne h => exact .error ne h
  | @error is js ne h =>
    have hissues : Part.issues (.error is : Part Value) = is := rfl
    rw [hissues]
    by_cases hstop : a.mode.stops is = true
    · rw [if_pos hstop]
      intro r hr
      obtain ⟨s, -, rfl⟩ := Option.map_eq_some_iff.1 hr
      exact ⟨_, rfl, .error ne (h.append_right ne (Part.issues s))⟩
    · rw [if_neg hstop]
      refine (hs v).map fun r s hrs => ?_
      exact .error (List.append_ne_nil_of_left_ne_nil ne _) (h.append hrs.issues (eq_collect_of_not_stops hstop))

/-! ## Wrappers -/

theorem optional_abridged (h : inner.Abridged a words) : (optional inner).Abridged a words := by
  intro v
  unfold optional
  split_ifs
  · exact .some (.ok v)
  · exact h v

theorem nullable_abridged (h : inner.Abridged a words) : (nullable inner).Abridged a words := by
  intro v
  unfold nullable
  split_ifs
  · exact .some (.ok v)
  · exact h v

theorem defaulting_abridged (h : inner.Abridged a words) (fallback : Value) :
    (defaulting inner fallback).Abridged a words := by
  intro v
  unfold defaulting
  split_ifs
  · exact .some (.ok fallback)
  · exact h v

theorem catching_abridged (h : inner.Abridged a words) (fallback : Value) :
    (catching inner fallback).Abridged a words := by
  intro v
  refine (h v).map fun p q hpq => ?_
  cases hpq with
  | ok w => exact .ok w
  | error => exact .ok fallback

theorem refine_abridged (h : inner.Abridged a words) (holds : Predicate) (message : String) (path : Path) :
    (refine inner holds message path).Abridged a words := by
  intro v
  refine (h v).map fun p q hpq => ?_
  cases hpq with
  | ok w =>
    by_cases hw : holds w = true
    · simp only [if_pos hw]
      exact .ok w
    · simp only [if_neg hw]
      have hcause : (a.issue .custom (some message)).Abridges a words _ := .cause .custom (some message)
      exact .one { hcause with path := rfl }
  | error ne h => exact .error ne h

theorem transform_abridged (h : inner.Abridged a words) (convert : Conversion) :
    (transform inner convert).Abridged a words := by
  intro v
  refine (h v).map fun p q hpq => ?_
  cases hpq with
  | ok w =>
    cases hc : convert w with
    | ok u => simpa only [hc] using .ok u
    | error fault => simpa only [hc] using .fail _ _
  | error ne h => exact .error ne h

theorem pipe_abridged (hf : first.Abridged a words) (hs : second.Abridged a words) :
    (pipe first second).Abridged a words := by
  intro v
  refine (hf v).bind fun p q hpq => ?_
  cases hpq with
  | ok w => exact hs w
  | error ne h => exact .some (.error ne h)

end Choices

end Validator

end ValueSchema
