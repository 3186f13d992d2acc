import Mathlib.Data.List.Basic
import Mathlib.Data.List.TakeWhile
import ValueSchema.Text.Blank

/-!
Trimming a class of characters off a text.

What is left is described by the text itself, with no order in which its two ends are trimmed: characters of the class,
what is left, and again characters of the class. So a text read backwards trims to what it trims to, read backwards.

Results:
- `trimBy_eq_iff`: what is left by trimming.
- `trimBy_reverse`: trimming does not prefer an end.
- `trimBy_cons_of_pos`, `trimBy_cons_of_neg`: one more character in front of a text.
-/

namespace ValueSchema.Text

/-! ## Where a class of characters ends -/

theorem head_dropWhile (p : Char → Bool) (cs : List Char) : ∀ c ∈ (cs.dropWhile p).head?, p c = false := by
  intro c hc
  have hfirst := List.head?_dropWhile_not p cs
  rwa [Option.mem_def.1 hc] at hfirst

/-- characters of a class, and then something that does not begin with one -/
theorem span_append {p : Char → Bool} {front rest : List Char} (hfront : ∀ c ∈ front, p c = true)
    (hrest : ∀ c ∈ rest.head?, p c = false) :
    (front ++ rest).takeWhile p = front ∧ (front ++ rest).dropWhile p = rest := by
  have hstop : rest.takeWhile p = [] ∧ rest.dropWhile p = rest := by
    cases rest with
    | nil => exact ⟨rfl, rfl⟩
    | cons c rest =>
      have hc : ¬ p c = true := Bool.eq_false_iff.1 (hrest c rfl)
      exact ⟨List.takeWhile_cons_of_neg hc, List.dropWhile_cons_of_neg hc⟩
  rw [List.takeWhile_append_of_pos hfront, List.dropWhile_append_of_pos hfront, hstop.1, hstop.2, List.append_nil]
  exact ⟨rfl, rfl⟩

/-! ## What is left -/

variable {p : Char → Bool} {cs body : List Char}

/-- a text is another one with characters of a class around it -/
def Surrounds (p : Char → Bool) (cs body : List Char) : Prop :=
  ∃ before after, cs = before ++ (body ++ after) ∧ (∀ c ∈ before, p c = true) ∧ ∀ c ∈ after, p c = true

/-- a text begins with the class, or with what the class surrounds -/
theorem Surrounds.head (h : Surrounds p cs body) : ∀ c ∈ cs.head?, p c = true ∨ c ∈ body.head? := by
  obtain ⟨before, after, rfl, hbefore, hafter⟩ := h
  intro c hc
  cases before with
  | cons d before =>
    cases hc
    exact .inl (hbefore c List.mem_cons_self)
  | nil =>
    cases body with
    | cons d body => exact .inr hc
    | nil => exact .inl (hafter c (List.mem_of_mem_head? hc))

theorem Surrounds.reverse (h : Surrounds p cs body) : Surrounds p cs.reverse body.reverse := by
  obtain ⟨before, after, rfl, hbefore, hafter⟩ := h
  refine ⟨after.reverse, before.reverse, ?_, ?_, ?_⟩
  · rw [List.reverse_append, List.reverse_append, List.append_assoc]
  · exact fun c hc => hafter c (List.mem_reverse.1 hc)
  · exact fun c hc => hbefore c (List.mem_reverse.1 hc)

/-- a text ends with the class, or with what the class surrounds -/
theorem Surrounds.last (h : Surrounds p cs body) : ∀ c ∈ cs.getLast?, p c = true ∨ c ∈ body.getLast? := by
  intro c hc
  have hhead := h.reverse.head c
  rw [List.head?_reverse, List.head?_reverse] at hhead
  exact hhead hc

/-- a text without the characters of a class around it: none of the class is left at either end -/
structure TrimsTo (p : Char → Bool) (cs body : List Char) : Prop where
  around : Surrounds p cs body
  first : ∀ c ∈ body.head?, p c = false
  last : ∀ c ∈ body.getLast?, p c = false

theorem trimsTo_trimBy (p : Char → Bool) (cs : List Char) : TrimsTo p cs (trimBy p cs) := by
  -- what trimming leaves, read backwards, is what is left after the characters at the end
  have hbody : ((cs.dropWhile p).reverse.dropWhile p).reverse = trimBy p cs := rfl
  have hrest : cs.dropWhile p = trimBy p cs ++ ((cs.dropWhile p).reverse.takeWhile p).reverse := by
    rw [← hbody, ← List.reverse_append, List.takeWhile_append_dropWhile, List.reverse_reverse]
  refine ⟨⟨cs.takeWhile p, ((cs.dropWhile p).reverse.takeWhile p).reverse, ?_, ?_, ?_⟩, ?_, ?_⟩
  · rw [← hrest, List.takeWhile_append_dropWhile]
  · exact fun c hc => List.mem_takeWhile_imp hc
  · exact fun c hc => List.mem_takeWhile_imp (List.mem_reverse.1 hc)
  · intro c hc
    refine head_dropWhile p cs c ?_
    rw [hrest, List.head?_append, Option.mem_def.1 hc]
    rfl
  · intro c hc
    refine head_dropWhile p (cs.dropWhile p).reverse c ?_
    rwa [← hbody, List.getLast?_reverse] at hc

/-- **Trimming** takes off the characters of a class around a text, and nothing else. -/
theorem trimBy_eq_iff : trimBy p cs = body ↔ TrimsTo p cs body := by
  constructor
  · rintro rfl
    exact trimsTo_trimBy p cs
  · rintro ⟨⟨before, after, rfl, hbefore, hafter⟩, hfirst, hlast⟩
    have hstart : dropStart p (before ++ (body ++ after)) = dropStart p (body ++ after) :=
      List.dropWhile_append_of_pos hbefore
    rw [trimBy, hstart]
    by_cases hempty : body = []
    · have hnothing : after.dropWhile p = [] := List.dropWhile_eq_nil_iff.2 hafter
      rw [hempty, List.nil_append, dropStart, hnothing]
      rfl
    · have hhead : ∀ c ∈ (body ++ after).head?, p c = false := by
        rwa [List.head?_append_of_ne_nil _ hempty]
      have hbody : (body ++ after).dropWhile p = body ++ after :=
        (span_append (List.forall_mem_nil _) hhead).2
      have hend : (after.reverse ++ body.reverse).dropWhile p = body.reverse := by
        refine (span_append (fun c hc => hafter c (List.mem_reverse.1 hc)) ?_).2
        rwa [List.head?_reverse]
      rw [dropStart, hbody, dropEnd, List.reverse_append, hend, List.reverse_reverse]

theorem TrimsTo.reverse (h : TrimsTo p cs body) : TrimsTo p cs.reverse body.reverse where
  around := h.around.reverse
  first := by
    rw [List.head?_reverse]
    exact h.last
  last := by
    rw [List.getLast?_reverse]
    exact h.first

/-- trimming does not prefer an end -/
theorem trimBy_reverse (p : Char → Bool) (cs : List Char) : trimBy p cs.reverse = (trimBy p cs).reverse :=
  trimBy_eq_iff.2 (trimsTo_trimBy p cs).reverse

/-! ## One more character -/

theorem trimBy_cons_of_pos {c : Char} (hc : p c = true) (cs : List Char) : trimBy p (c :: cs) = trimBy p cs := by
  rw [trimBy, dropStart, List.dropWhile_cons_of_pos hc]
  rfl

/-- a character outside the class stays, and with it all that it keeps from the end -/
theorem trimBy_cons_of_neg {c : Char} (hc : p c = false) (hcs : ∀ d ∈ cs.head?, p d = false) :
    trimBy p (c :: cs) = c :: trimBy p cs := by
  obtain ⟨⟨before, after, heq, hbefore, hafter⟩, -, hlast⟩ := trimsTo_trimBy p cs
  have hnone : before = [] := by
    cases before with
    | nil => rfl
    | cons d before =>
      have hd : d ∈ cs.head? := by rw [heq]; rfl
      exact absurd (hbefore d List.mem_cons_self) (Bool.eq_false_iff.1 (hcs d hd))
  subst hnone
  refine trimBy_eq_iff.2 ⟨⟨[], after, ?_, List.forall_mem_nil _, hafter⟩, ?_, ?_⟩
  · exact congrArg (c :: ·) heq
  · intro d hd
    cases hd
    exact hc
  · intro d hd
    rw [List.getLast?_cons] at hd
    cases hbody : (trimBy p cs).getLast? with
    | none =>
      rw [hbody] at hd
      cases hd
      exact hc
    | some e =>
      rw [hbody] at hd
      cases hd
      exact hlast _ hbody

end ValueSchema.Text
