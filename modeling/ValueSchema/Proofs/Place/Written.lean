import Mathlib.Data.List.Induction
import ValueSchema.Key
import ValueSchema.Path

/-!
Written paths, and how they are read back.

A path is written step by step, a position in brackets and a name behind a dot, which is left out where the text begins. So
every step but a first name begins with a dot or an opening bracket, and a text is taken apart at these. Which of the two
stood there does not matter: a position ends with the bracket that closes it, and no plain name has one. Only names that
are empty, or hold dots or brackets, can be mistaken for something else.

Results:
- `steps_follow`: one more step of a path is one more step of its text.
- `read_text`: a plain path is read back from its text.
- `plain_paths_told_apart`: different plain paths are written differently.
-/

namespace ValueSchema

open Text

/-! ## Steps -/

/-- names that are not empty and hold neither dots nor brackets; all positions -/
def Segment.Plain : Segment → Prop
  | key name => name ≠ "" ∧ ∀ c ∈ name.toList, Key.isSeparator c = false
  | index _ => True

/-- a path that names its steps plainly -/
def Path.Plain (path : Path) : Prop := ∀ segment ∈ path, segment.Plain

/-- the text of a step behind the dot or the bracket that begins it -/
def Segment.written : Segment → List Char
  | key name => name.toList
  | index position => Nat.toDigits 10 position ++ [']']

/-- the step that is written so -/
def Segment.read (cs : List Char) : Segment :=
  if cs.getLast? = some ']' then index (Nat.ofDigitChars 10 cs.dropLast 0) else key (String.ofList cs)

namespace Path

def beginsStep (c : Char) : Bool := c = '.' || c = '['

/-- the steps of a text; before a first bracket there is none -/
def steps (cs : List Char) : List (List Char) := (partsBy beginsStep cs).filter (· ≠ [])

/-- the path that is written so -/
def read (text : String) : Path := (steps text.toList).map Segment.read

end Path

namespace Segment

variable {segment : Segment}

/-- a plain step is told by its end -/
theorem read_written (h : segment.Plain) : read segment.written = segment := by
  cases segment with
  | key name =>
    have hend : ¬ name.toList.getLast? = some ']' := by
      intro hlast
      exact absurd (h.2 _ (List.mem_of_mem_getLast? hlast)) (by decide)
    rw [read, written, if_neg hend, String.ofList_toList]
  | index position =>
    rw [read, written, if_pos List.getLast?_concat, List.dropLast_concat, Nat.ofDigitChars_ten_toDigits]

theorem written_ne_nil (h : segment.Plain) : segment.written ≠ [] := by
  cases segment with
  | key name => exact fun hnil => h.1 (String.toList_eq_nil_iff.1 hnil)
  | index position => exact List.append_ne_nil_of_right_ne_nil _ (List.cons_ne_nil _ _)

theorem not_beginsStep_of_isDigit {c : Char} (h : c.isDigit = true) : Path.beginsStep c = false := by
  refine Bool.eq_false_iff.2 fun hc => ?_
  simp only [Path.beginsStep, Bool.or_eq_true, decide_eq_true_eq] at hc
  rcases hc with rfl | rfl
  · exact absurd h (by decide)
  · exact absurd h (by decide)

/-- nothing inside a plain step begins another one -/
theorem not_beginsStep_of_mem_written (h : segment.Plain) : ∀ c ∈ segment.written, Path.beginsStep c = false := by
  intro c hc
  cases segment with
  | key name =>
    have hplain := h.2 c hc
    simp only [Key.isSeparator, Bool.or_eq_false_iff] at hplain
    exact Bool.or_eq_false_iff.2 hplain.1
  | index position =>
    rcases List.mem_append.1 hc with hdigit | hclose
    · exact not_beginsStep_of_isDigit (Nat.isDigit_of_mem_toDigits (by decide) (by decide) hdigit)
    · cases List.mem_singleton.1 hclose
      decide

end Segment

/-! ## Texts -/

namespace Path

variable {segment : Segment} {path p q : Path}

theorem steps_append_cons {c : Char} (hc : beginsStep c = true) (front back : List Char) :
    steps (front ++ c :: back) = steps front ++ steps back := by
  rw [steps, partsBy_append_cons hc, List.filter_append]
  rfl

theorem steps_written (h : segment.Plain) : steps segment.written = [segment.written] := by
  rw [steps, partsBy_of_forall (Segment.not_beginsStep_of_mem_written h)]
  exact List.filter_cons_of_pos (decide_eq_true (Segment.written_ne_nil h))

/-- **One more step**: whatever is written already, a plain step after it is one step more. -/
theorem steps_follow (h : segment.Plain) (text : List Char) :
    steps (segment.follow text) = steps text ++ [segment.written] := by
  rw [← steps_written h]
  cases segment with
  | index position => exact steps_append_cons (by decide) text _
  | key name =>
    rw [Segment.follow]
    split_ifs with hempty
    · -- the dot is left out where nothing stands before the name
      rw [hempty]
      rfl
    · exact steps_append_cons (by decide) text _

theorem steps_text (h : path.Plain) : steps path.text.toList = path.map Segment.written := by
  rw [Path.text, String.toList_ofList]
  induction path using List.reverseRecOn with
  | nil => rfl
  | append_singleton path segment ih =>
    have hpath : Path.Plain path := fun s hs => h s (List.mem_append_left _ hs)
    have hsegment : segment.Plain := h segment (List.mem_append_right _ List.mem_cons_self)
    rw [List.foldl_append, List.foldl_cons, List.foldl_nil, steps_follow hsegment, ih hpath, List.map_append]
    rfl

/-- **Reading back**: a plain path is what its text says. -/
theorem read_text (h : path.Plain) : read path.text = path := by
  rw [read, steps_text h, List.map_map]
  calc path.map (Segment.read ∘ Segment.written)
      = path.map id := List.map_congr_left fun s hs => Segment.read_written (h s hs)
    _ = path := List.map_id path

/-- **Plain paths are told apart** by their texts, whatever names, positions and names of digits they are made of. -/
theorem plain_paths_told_apart (hp : p.Plain) (hq : q.Plain) : p.text = q.text ↔ p = q := by
  constructor
  · intro htext
    calc p = read p.text := (read_text hp).symm
      _ = read q.text := by rw [htext]
      _ = q := read_text hq
  · exact congrArg Path.text

/-- a name of digits is no position, wherever it stands -/
theorem digits_told_apart :
    (Path.Plain [.key "0", .index 0, .key "12"] ∧ Path.Plain [.index 0, .key "0", .key "12"]) ∧
      Path.text [.key "0", .index 0, .key "12"] ≠ Path.text [.index 0, .key "0", .key "12"] := by
  have hfirst : Path.Plain [.key "0", .index 0, .key "12"] := by
    simp [Path.Plain, Segment.Plain, Key.isSeparator]
  have hsecond : Path.Plain [.index 0, .key "0", .key "12"] := by
    simp [Path.Plain, Segment.Plain, Key.isSeparator]
  exact ⟨⟨hfirst, hsecond⟩, mt (plain_paths_told_apart hfirst hsecond).1 (by decide)⟩

example : Path.text [.key "a.b"] = Path.text [.key "a", .key "b"] := by decide

end Path

end ValueSchema
