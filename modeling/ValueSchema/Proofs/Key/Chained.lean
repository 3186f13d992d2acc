import Mathlib.Tactic
import ValueSchema.Key
import ValueSchema.Proofs.Text.Trimmed

/-!
Names chained into paths, and the guard on them.

A name from the input may be a path already, and it may become a part of a longer one: behind a dot, in brackets, or in
quotes in brackets. The guard takes a text apart at all dots and brackets, those inside quotes included, so that quotes are
torn from what they enclose. What it looks at are the bare segments, without the blanks and then the quotes around them,
and a quote at an end of a text changes none of these unless a blank stands next to it. So the guard finds in a chain what
it finds in the names that were chained, and nothing else.

Results:
- `isDangerousSegment_iff`: the dangerous segments, with no trimming in the description.
- `segments_append_cons`, `segments_cons_quote`, `segments_concat_quote`: how the bare segments of a longer text are made.
- `isDangerous_join`: one joint.
- `chaining_hides_nothing`: any number of joints, in any order.
-/

namespace ValueSchema.Key

open Text

/-! ## Bare segments -/

/-- a segment without the blanks, and then the quotes, around it -/
def bare (segment : List Char) : List Char := trimBy isQuote (trim segment)

theorem isQuote_cases {c : Char} (h : isQuote c = true) : c = '"' ∨ c = '\'' := by
  simpa only [isQuote, Bool.or_eq_true, decide_eq_true_eq] using h

theorem not_isBlank_of_isQuote {c : Char} (h : isQuote c = true) : isBlank c = false := by
  rcases isQuote_cases h with rfl | rfl
  · decide
  · decide

theorem not_isSeparator_of_isQuote {c : Char} (h : isQuote c = true) : isSeparator c = false := by
  rcases isQuote_cases h with rfl | rfl
  · decide
  · decide

/-- neither blanks nor quotes stand at the ends of a name that leads to a prototype -/
theorem ends_of_dangerous {name : String} (h : name ∈ dangerousSegments) :
    (∀ c ∈ name.toList.head?, isBlank c = false ∧ isQuote c = false) ∧
      ∀ c ∈ name.toList.getLast?, isBlank c = false ∧ isQuote c = false := by
  have hall : ∀ name ∈ dangerousSegments, (name.toList.head?.all fun c => !isBlank c && !isQuote c) = true ∧
      (name.toList.getLast?.all fun c => !isBlank c && !isQuote c) = true := by decide
  simpa [Option.all_eq_true] using hall name h

/-- a name that leads to a prototype, with any quotes around it and any blanks around these -/
def LeadsToPrototype (segment : List Char) : Prop :=
  ∃ name ∈ dangerousSegments, ∃ quoted, Surrounds isBlank segment quoted ∧ Surrounds isQuote quoted name.toList

/-- **Dangerous segments** are the names that lead to a prototype, with quotes and blanks around them. -/
theorem isDangerousSegment_iff {segment : List Char} : isDangerousSegment segment = true ↔ LeadsToPrototype segment := by
  have hbare : isDangerousSegment segment = true ↔ String.ofList (bare segment) ∈ dangerousSegments :=
    List.contains_iff_mem
  rw [hbare]
  constructor
  · intro h
    refine ⟨_, h, trim segment, (trimsTo_trimBy _ _).around, ?_⟩
    rw [String.toList_ofList]
    exact (trimsTo_trimBy _ _).around
  · rintro ⟨name, hname, quoted, hblanks, hquotes⟩
    obtain ⟨hfirst, hlast⟩ := ends_of_dangerous hname
    have htrim : trim segment = quoted := by
      refine trimBy_eq_iff.2 ⟨hblanks, fun c hc => ?_, fun c hc => ?_⟩
      · exact (hquotes.head c hc).elim not_isBlank_of_isQuote fun h => (hfirst c h).1
      · exact (hquotes.last c hc).elim not_isBlank_of_isQuote fun h => (hlast c h).1
    have hunquoted : trimBy isQuote quoted = name.toList :=
      trimBy_eq_iff.2 ⟨hquotes, fun c hc => (hfirst c hc).2, fun c hc => (hlast c hc).2⟩
    rwa [bare, htrim, hunquoted, String.ofList_toList]

section Quote

variable {quote : Char} {cs : List Char}

theorem bare_cons_quote (hq : isQuote quote = true) (h : ∀ c ∈ cs.head?, isBlank c = false) :
    bare (quote :: cs) = bare cs := by
  rw [bare, trim, trimBy_cons_of_neg (not_isBlank_of_isQuote hq) h, trimBy_cons_of_pos hq]
  rfl

theorem bare_reverse (cs : List Char) : bare cs.reverse = (bare cs).reverse := by
  rw [bare, trim, trimBy_reverse, trimBy_reverse]
  rfl

theorem bare_concat_quote (hq : isQuote quote = true) (h : ∀ c ∈ cs.getLast?, isBlank c = false) :
    bare (cs ++ [quote]) = bare cs := by
  have hreverse : bare (quote :: cs.reverse) = bare cs.reverse := bare_cons_quote hq (by rwa [List.head?_reverse])
  rwa [← List.reverse_concat, bare_reverse, bare_reverse, List.reverse_inj] at hreverse

end Quote

/-! ## The segments of a text -/

/-- the segments of a text, all of them bare -/
def segments (cs : List Char) : List (List Char) := (partsBy isSeparator cs).map bare

theorem isDangerous_eq (name : String) :
    isDangerous name = (segments name.toList).any fun segment => dangerousSegments.contains (String.ofList segment) := by
  rw [segments, List.any_map]
  rfl

section Segments

variable {quote : Char} {cs : List Char}

theorem segments_append_cons {c : Char} (hc : isSeparator c = true) (front back : List Char) :
    segments (front ++ c :: back) = segments front ++ segments back := by
  rw [segments, partsBy_append_cons hc, List.map_append]
  rfl

theorem segments_of_forall (h : ∀ c ∈ cs, isSeparator c = false) : segments cs = [bare cs] := by
  rw [segments, partsBy_of_forall h]
  rfl

/-- a text without separators is one segment; any other has a first separator -/
theorem segment_or_first (cs : List Char) : (∀ c ∈ cs, isSeparator c = false) ∨
    ∃ front c back, cs = front ++ c :: back ∧ isSeparator c = true ∧ ∀ d ∈ front, isSeparator d = false := by
  cases h : cs.find? isSeparator with
  | none => exact .inl fun c hc => Bool.eq_false_iff.2 (List.find?_eq_none.1 h c hc)
  | some c =>
    obtain ⟨hc, front, back, heq, hfront⟩ := List.find?_eq_some_iff_append.1 h
    exact .inr ⟨front, c, back, heq, hc, fun d hd => by simpa using hfront d hd⟩

/-- a text without separators is one segment; any other has a last separator -/
theorem segment_or_last (cs : List Char) : (∀ c ∈ cs, isSeparator c = false) ∨
    ∃ front c back, cs = front ++ c :: back ∧ isSeparator c = true ∧ ∀ d ∈ back, isSeparator d = false := by
  obtain h | ⟨front, c, back, heq, hc, hfront⟩ := segment_or_first cs.reverse
  · exact .inl fun c hc => h c (List.mem_reverse.2 hc)
  · refine .inr ⟨back.reverse, c, front.reverse, ?_, hc, fun d hd => hfront d (List.mem_reverse.1 hd)⟩
    rw [← List.reverse_reverse cs, heq]
    simp

/-- a quote in front of a text goes to its first segment, which it leaves as it is -/
theorem segments_cons_quote (hq : isQuote quote = true) (h : ∀ c ∈ cs.head?, isBlank c = false) :
    segments (quote :: cs) = segments cs := by
  have hquote : isSeparator quote = false := not_isSeparator_of_isQuote hq
  obtain hone | ⟨front, c, back, rfl, hc, hfront⟩ := segment_or_first cs
  · rw [segments_of_forall hone, segments_of_forall (List.forall_mem_cons.2 ⟨hquote, hone⟩), bare_cons_quote hq h]
  · have hhead : ∀ d ∈ front.head?, isBlank d = false := by
      intro d hd
      refine h d ?_
      rw [List.head?_append, Option.mem_def.1 hd]
      rfl
    rw [← List.cons_append, segments_append_cons hc, segments_append_cons hc, segments_of_forall hfront,
      segments_of_forall (List.forall_mem_cons.2 ⟨hquote, hfront⟩), bare_cons_quote hq hhead]

/-- a quote behind a text goes to its last segment, which it leaves as it is -/
theorem segments_concat_quote (hq : isQuote quote = true) (h : ∀ c ∈ cs.getLast?, isBlank c = false) :
    segments (cs ++ [quote]) = segments cs := by
  have hquote : ∀ d ∈ [quote], isSeparator d = false := List.forall_mem_singleton.2 (not_isSeparator_of_isQuote hq)
  obtain hone | ⟨front, c, back, rfl, hc, hback⟩ := segment_or_last cs
  · rw [segments_of_forall hone, segments_of_forall (List.forall_mem_append.2 ⟨hone, hquote⟩), bare_concat_quote hq h]
  · have hlast : ∀ d ∈ back.getLast?, isBlank d = false := by
      intro d hd
      refine h d ?_
      rw [List.getLast?_append, List.getLast?_cons, Option.mem_def.1 hd]
      rfl
    rw [List.append_assoc, List.cons_append, segments_append_cons hc, segments_append_cons hc, segments_of_forall hback,
      segments_of_forall (List.forall_mem_append.2 ⟨hback, hquote⟩), bare_concat_quote hq hlast]

end Segments

/-! ## Joints -/

/-- how one name stands behind another -/
inductive Joint where
  | dot
  | brackets
  | doubleQuotes
  | singleQuotes

def Joint.join : Joint → String → String → String
  | dot, front, back => front ++ "." ++ back
  | brackets, front, back => front ++ "[" ++ back ++ "]"
  | doubleQuotes, front, back => front ++ "[\"" ++ back ++ "\"]"
  | singleQuotes, front, back => front ++ "['" ++ back ++ "']"

/-- no blank stands at either end of a name -/
def Unblank (name : String) : Prop :=
  (∀ c ∈ name.toList.head?, isBlank c = false) ∧ ∀ c ∈ name.toList.getLast?, isBlank c = false

instance (name : String) : Decidable (Unblank name) :=
  decidable_of_iff ((name.toList.head?.all (!isBlank ·)) = true ∧ (name.toList.getLast?.all (!isBlank ·)) = true)
    (by simp [Unblank, Option.all_eq_true])

/-- blanks at the ends of a name may be enclosed in brackets, but not in quotes -/
def Joint.Takes : Joint → String → Prop
  | dot, _ | brackets, _ => True
  | doubleQuotes, name | singleQuotes, name => Unblank name

/-- brackets add an empty segment to those of the texts before and inside them -/
theorem segments_brackets (front back : List Char) :
    segments (front ++ '[' :: (back ++ [']'])) = segments front ++ (segments back ++ [[]]) := by
  rw [segments_append_cons (by decide), segments_append_cons (by decide)]
  rfl

/-- and quotes inside the brackets add nothing -/
theorem segments_quotes {quote : Char} (hq : isQuote quote = true) (front : List Char) {back : String} (h : Unblank back) :
    segments (front ++ '[' :: (quote :: (back.toList ++ [quote]) ++ [']'])) =
      segments front ++ (segments back.toList ++ [[]]) := by
  have hlast : ∀ c ∈ (quote :: back.toList).getLast?, isBlank c = false := by
    cases hb : back.toList with
    | nil =>
      intro c hc
      cases hc
      exact not_isBlank_of_isQuote hq
    | cons d rest =>
      rw [List.getLast?_cons_cons, ← hb]
      exact h.2
  rw [segments_brackets, ← List.cons_append, segments_concat_quote hq hlast, segments_cons_quote hq h.1]

/-- a joint adds no segment to those of the joined names, or an empty one -/
theorem segments_join {joint : Joint} {back : String} (h : joint.Takes back) (front : String) :
    ∃ added, segments (joint.join front back).toList = segments front.toList ++ (segments back.toList ++ added) ∧
      ∀ segment ∈ added, segment = [] := by
  cases joint with
  | dot =>
    refine ⟨[], ?_, List.forall_mem_nil _⟩
    rw [List.append_nil, ← segments_append_cons (by decide : isSeparator '.' = true)]
    simp [Joint.join]
  | brackets =>
    refine ⟨[[]], ?_, List.forall_mem_singleton.2 rfl⟩
    rw [← segments_brackets]
    simp [Joint.join]
  | doubleQuotes =>
    refine ⟨[[]], ?_, List.forall_mem_singleton.2 rfl⟩
    rw [← segments_quotes (by decide : isQuote '"' = true) _ h]
    simp [Joint.join]
  | singleQuotes =>
    refine ⟨[[]], ?_, List.forall_mem_singleton.2 rfl⟩
    rw [← segments_quotes (by decide : isQuote '\'' = true) _ h]
    simp [Joint.join]

/-- **One joint**: the guard finds in two joined names what it finds in either. -/
theorem isDangerous_join (joint : Joint) (front : String) {back : String} (h : joint.Takes back) :
    isDangerous (joint.join front back) = true ↔ isDangerous front = true ∨ isDangerous back = true := by
  obtain ⟨added, heq, hadded⟩ := segments_join h front
  have hsafe : (added.any fun segment => dangerousSegments.contains (String.ofList segment)) = false := by
    refine List.any_eq_false.2 fun segment hsegment => ?_
    rw [hadded segment hsegment]
    decide
  rw [isDangerous_eq, heq, List.any_append, List.any_append, hsafe, Bool.or_false, Bool.or_eq_true, ← isDangerous_eq,
    ← isDangerous_eq]

/-! ## Chains -/

/-- names with joints between them; what stands behind a joint may be joined itself -/
inductive Chain where
  | name (text : String)
  | joined (joint : Joint) (front back : Chain)

namespace Chain

def text : Chain → String
  | name text => text
  | joined joint front back => joint.join front.text back.text

def names : Chain → List String
  | name text => [text]
  | joined _ front back => front.names ++ back.names

/-- quotes enclose no blanks at the ends of what they enclose -/
def Fits : Chain → Prop
  | name _ => True
  | joined joint front back => front.Fits ∧ back.Fits ∧ joint.Takes back.text

/-- the guard finds in a chain what it finds in its names -/
theorem isDangerous_text {chain : Chain} (h : chain.Fits) :
    isDangerous chain.text = true ↔ ∃ name ∈ chain.names, isDangerous name = true := by
  induction chain with
  | name text => simp [Chain.text, names]
  | joined joint front back ihfront ihback =>
    obtain ⟨hfront, hback, htakes⟩ := h
    rw [Chain.text, isDangerous_join joint _ htakes, ihfront hfront, ihback hback]
    simp only [names, List.mem_append, or_and_right, exists_or]

end Chain

/-- a guard on names that no joint misleads -/
structure LooksThroughJoints (guard : String → Bool) : Prop where
  /-- of a single segment it finds the names that lead to a prototype, with quotes and blanks around them -/
  segment : ∀ name : String, (∀ c ∈ name.toList, isSeparator c = false) →
    (guard name = true ↔ LeadsToPrototype name.toList)
  dotted : ∀ front back : String,
    guard (front ++ "." ++ back) = true ↔ guard front = true ∨ guard back = true
  bracketed : ∀ front back : String,
    guard (front ++ "[" ++ back ++ "]") = true ↔ guard front = true ∨ guard back = true
  /-- the enclosed text may hold dots, brackets and quotes of its own -/
  doubleQuoted : ∀ front back : String, Unblank back →
    (guard (front ++ "[\"" ++ back ++ "\"]") = true ↔ guard front = true ∨ guard back = true)
  singleQuoted : ∀ front back : String, Unblank back →
    (guard (front ++ "['" ++ back ++ "']") = true ↔ guard front = true ∨ guard back = true)
  /-- any number of joints, in any order -/
  chained : ∀ chain : Chain, chain.Fits → (guard chain.text = true ↔ ∃ name ∈ chain.names, guard name = true)

/-- **Chaining hides nothing.** Two names behind a dot, in brackets, or in quotes in brackets are dangerous exactly if one
of them is, whatever dots, brackets and quotes they hold themselves; only blanks at the ends of what quotes enclose are
left out. So a chain of names is dangerous exactly if one of its names is, and a single segment exactly if it is a name
that leads to a prototype, with quotes and blanks around it. -/
theorem chaining_hides_nothing : LooksThroughJoints isDangerous where
  segment := by
    intro name hname
    rw [← isDangerousSegment_iff, isDangerous, partsBy_of_forall hname, List.any_cons, List.any_nil, Bool.or_false]
  dotted := fun front _ => isDangerous_join .dot front trivial
  bracketed := fun front _ => isDangerous_join .brackets front trivial
  doubleQuoted := fun front _ h => isDangerous_join .doubleQuotes front h
  singleQuoted := fun front _ h => isDangerous_join .singleQuotes front h
  chained := fun _ h => Chain.isDangerous_text h

/-- Quotes torn apart by what they enclose: of `user["x['constructor"]` the guard sees the segment `'constructor"`, and of
`a[b['c].prototype']]` the segment `prototype'`. -/
theorem torn_quotes_seen_through :
    (Unblank "x['constructor" ∧ isDangerous ("user" ++ "[\"" ++ "x['constructor" ++ "\"]") = true) ∧
      ((Chain.joined .brackets (.name "a") (.joined .singleQuotes (.name "b") (.name "c].prototype"))).Fits ∧
        isDangerous (Chain.joined .brackets (.name "a") (.joined .singleQuotes (.name "b") (.name "c].prototype"))).text =
          true) := by
  have hback : Unblank "x['constructor" := by decide
  have hfits : (Chain.joined .brackets (.name "a") (.joined .singleQuotes (.name "b") (.name "c].prototype"))).Fits := by
    refine ⟨trivial, ⟨trivial, trivial, ?_⟩, trivial⟩
    show Unblank "c].prototype"
    decide
  refine ⟨⟨hback, ?_⟩, hfits, ?_⟩
  · exact (chaining_hides_nothing.doubleQuoted "user" _ hback).2 (.inr (by decide))
  · exact (chaining_hides_nothing.chained _ hfits).2 ⟨"c].prototype", by decide, by decide⟩

example : isDangerous " constructor" = true ∧ isDangerous "user[\" constructor\"]" = false := by decide

end ValueSchema.Key
