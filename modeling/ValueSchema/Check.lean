import ValueSchema.Context

/-!
Lists of checks.

A schema's checks run in the order of their declaration and the first one that fails decides the issue. A text given with
`Checks.message` belongs to the check declared last, and before any check to the issues about the value's kind.

`Checks.firstIssue_eq_none_iff`: no issue exactly when every check passes.
-/

namespace ValueSchema

/-- a check and its own text, if it has one -/
structure Check (κ : Type) where
  test : κ
  message : Option String

structure Checks (κ : Type) where
  items : List (Check κ)
  /-- own text for a value of the wrong kind -/
  kindMessage : Option String

namespace Checks

variable {κ α : Type}

def empty : Checks κ := ⟨[], none⟩

/-- declares one more check -/
def add (c : Checks κ) (test : κ) : Checks κ := { c with items := c.items ++ [⟨test, none⟩] }

/-- the same checks, the last with another text -/
def setLastMessage (text : String) : List (Check κ) → List (Check κ)
  | [] => []
  | [check] => [{ check with message := some text }]
  | check :: rest => check :: setLastMessage text rest

/-- gives the check declared last a text of its own; before any check, the issues about kind -/
def message (c : Checks κ) (text : String) : Checks κ :=
  match c.items with
  | [] => { c with kindMessage := some text }
  | items => { c with items := setLastMessage text items }

/-- the issue of the first check that fails on a value -/
def firstIssue (c : Checks κ) (failure : κ → α → Option Message) (ctx : Context) (a : α) : Option Issue :=
  c.items.findSome? fun check => (failure check.test a).map fun m => ctx.issue m check.message

theorem firstIssue_eq_none_iff {c : Checks κ} {failure : κ → α → Option Message} {ctx : Context} {a : α} :
    c.firstIssue failure ctx a = none ↔ ∀ check ∈ c.items, failure check.test a = none := by
  simp [firstIssue, List.findSome?_eq_none_iff]

/-- accepts a value as an output unless a check fails -/
def run (c : Checks κ) (failure : κ → α → Option Message) (ctx : Context) (a : α) (output : Value) : Outcome :=
  match c.firstIssue failure ctx a with
  | some i => .error [i]
  | none => .ok output

end Checks

end ValueSchema
