import Mathlib.Tactic

/-!
Lists in step: of one length, with related elements at each position; and options in step: related elements, or none in
both.
-/

namespace ValueSchema

variable {α β : Type} {R : α → β → Prop} {as : List α} {bs : List β}

theorem exists_left_of_forall₂ (h : List.Forall₂ R as bs) {b : β} (hb : b ∈ bs) : ∃ a ∈ as, R a b := by
  induction h with
  | nil => simp at hb
  | @cons a b' as bs hab _ ih =>
    rcases List.mem_cons.1 hb with rfl | hb
    · exact ⟨a, List.mem_cons_self, hab⟩
    · obtain ⟨a', ha', h⟩ := ih hb
      exact ⟨a', List.mem_cons_of_mem _ ha', h⟩

theorem exists_right_of_forall₂ (h : List.Forall₂ R as bs) {a : α} (ha : a ∈ as) : ∃ b ∈ bs, R a b :=
  exists_left_of_forall₂ (R := flip R) h.flip ha

theorem isEmpty_eq_of_forall₂ (h : List.Forall₂ R as bs) : as.isEmpty = bs.isEmpty := by
  cases h <;> rfl

theorem getElem?_of_forall₂ (h : List.Forall₂ R as bs) {position : Nat} {a : α} (ha : as[position]? = some a) :
    ∃ b, bs[position]? = some b ∧ R a b := by
  induction h generalizing position with
  | nil => simp at ha
  | cons hab _ ih =>
    cases position with
    | zero =>
      cases ha
      exact ⟨_, rfl, hab⟩
    | succ position => exact ih ha

/-- lists stay in step under another relation that follows from the first one for elements of the left list -/
theorem forall₂_imp_of_mem {S : α → β → Prop} (himp : ∀ a ∈ as, ∀ b, R a b → S a b) (h : List.Forall₂ R as bs) :
    List.Forall₂ S as bs := by
  induction h with
  | nil => exact .nil
  | cons hab _ ih =>
    exact .cons (himp _ List.mem_cons_self _ hab) (ih fun a ha => himp a (List.mem_cons_of_mem _ ha))

/-- two relations that agree on elements of the left list keep the same lists in step -/
theorem forall₂_congr_of_mem {S : α → β → Prop} (h : ∀ a ∈ as, ∀ b, R a b ↔ S a b) :
    List.Forall₂ R as bs ↔ List.Forall₂ S as bs :=
  ⟨forall₂_imp_of_mem fun a ha b => (h a ha b).1, forall₂_imp_of_mem fun a ha b => (h a ha b).2⟩

/-- lists in step with a list between them are in step -/
theorem forall₂_comp_of_mem {γ : Type} {S : β → γ → Prop} {T : α → γ → Prop} {cs : List γ}
    (h : ∀ a ∈ as, ∀ b c, R a b → S b c → T a c) (hR : List.Forall₂ R as bs) (hS : List.Forall₂ S bs cs) :
    List.Forall₂ T as cs := by
  induction hR generalizing cs with
  | nil =>
    cases hS
    exact .nil
  | cons hab _ ih =>
    cases hS with
    | cons hbc hS =>
      refine .cons (h _ List.mem_cons_self _ _ hab hbc) ?_
      exact ih (fun a ha => h a (List.mem_cons_of_mem _ ha)) hS

theorem map_eq_of_forall₂ {γ : Type} {f : α → γ} {g : β → γ} (h : List.Forall₂ (fun a b => f a = g b) as bs) :
    as.map f = bs.map g := by
  induction h with
  | nil => rfl
  | cons hab _ ih => rw [List.map_cons, List.map_cons, hab, ih]

theorem forall₂_and {S : α → β → Prop} (hR : List.Forall₂ R as bs) (hS : List.Forall₂ S as bs) :
    List.Forall₂ (fun a b => R a b ∧ S a b) as bs := by
  induction hR with
  | nil => exact .nil
  | cons hab _ ih =>
    cases hS with
    | cons hab' hS => exact .cons ⟨hab, hab'⟩ (ih hS)

/-- elements stay in step with their positions beside them -/
theorem forall₂_zipIdx (h : List.Forall₂ R as bs) : List.Forall₂ (fun e f => R e.1 f.1) as.zipIdx bs.zipIdx := by
  rwa [← List.zipIdx_map_fst 0 as, ← List.zipIdx_map_fst 0 bs, List.forall₂_map_left_iff, List.forall₂_map_right_iff] at h

/-! ## Options -/

variable {x : Option α} {y : Option β}

theorem optionRel_imp_of_mem {S : α → β → Prop} (himp : ∀ a, x = some a → ∀ b, R a b → S a b) (h : Option.Rel R x y) :
    Option.Rel S x y := by
  cases h with
  | none => exact .none
  | some hab => exact .some (himp _ rfl _ hab)

theorem optionRel_congr_of_mem {S : α → β → Prop} (h : ∀ a, x = some a → ∀ b, R a b ↔ S a b) :
    Option.Rel R x y ↔ Option.Rel S x y :=
  ⟨optionRel_imp_of_mem fun a ha b => (h a ha b).1, optionRel_imp_of_mem fun a ha b => (h a ha b).2⟩

/-- a condition on the left element only -/
theorem optionRel_and_left {P : α → Prop} :
    Option.Rel (fun a b => P a ∧ R a b) x y ↔ (∀ a, x = some a → P a) ∧ Option.Rel R x y := by
  cases x <;> cases y <;> simp

theorem optionRel_flip (h : Option.Rel R x y) : Option.Rel (flip R) y x := by
  cases h with
  | none => exact .none
  | some hab => exact .some hab

theorem optionRel_comp_of_mem {γ : Type} {S : β → γ → Prop} {T : α → γ → Prop} {z : Option γ}
    (h : ∀ a, x = some a → ∀ b c, R a b → S b c → T a c) (hR : Option.Rel R x y) (hS : Option.Rel S y z) :
    Option.Rel T x z := by
  cases hR with
  | none =>
    cases hS
    exact .none
  | some hab =>
    cases hS with
    | some hbc => exact .some (h _ rfl _ _ hab hbc)

/-- computations in step go on in step -/
theorem optionRel_bind {γ δ : Type} {S : γ → δ → Prop} {k : α → Option γ} {l : β → Option δ} (h : Option.Rel R x y)
    (hk : ∀ a b, R a b → Option.Rel S (k a) (l b)) : Option.Rel S (x.bind k) (y.bind l) := by
  cases h with
  | none => exact .none
  | some hab => exact hk _ _ hab

theorem optionRel_map {γ δ : Type} {S : γ → δ → Prop} {f : α → γ} {g : β → δ} (h : Option.Rel R x y)
    (hfg : ∀ a b, R a b → S (f a) (g b)) : Option.Rel S (x.map f) (y.map g) := by
  cases h with
  | none => exact .none
  | some hab => exact .some (hfg _ _ hab)

/-- what entries in step hold under a key -/
theorem optionRel_lookup {fs : List (Nat × α)} {gs : List (Nat × β)}
    (h : List.Forall₂ (fun f g => f.1 = g.1 ∧ R f.2 g.2) fs gs) (key : Nat) :
    Option.Rel R (fs.lookup key) (gs.lookup key) := by
  induction h with
  | nil => exact .none
  | @cons f g fs gs hfg _ ih =>
    obtain ⟨i, a⟩ := f
    obtain ⟨j, b⟩ := g
    obtain ⟨rfl, hab⟩ := hfg
    by_cases hi : key = i
    · subst hi
      simp only [List.lookup_cons_self]
      exact .some hab
    · simpa only [List.lookup_cons, beq_eq_false_iff_ne.2 hi] using ih

theorem optionRel_some_left {a : α} (h : Option.Rel R (some a) y) : ∃ b, y = some b ∧ R a b := by
  cases h with
  | some hab => exact ⟨_, rfl, hab⟩

theorem optionRel_none_left (h : Option.Rel R none y) : y = none := by
  cases h
  rfl

end ValueSchema
