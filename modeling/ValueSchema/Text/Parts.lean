/-!
Starts, ends and parts of texts.
-/

namespace ValueSchema.Text

/-- the parts of a text between separators, always at least one -/
def partsBy (isSeparator : Char → Bool) : List Char → List (List Char)
  | [] => [[]]
  | c :: rest =>
    if isSeparator c then [] :: partsBy isSeparator rest
    else match partsBy isSeparator rest with
      | part :: more => (c :: part) :: more
      | [] => [[c]]

/-- the rest of a text behind a given start -/
def dropHead? (head : List Char) (cs : List Char) : Option (List Char) :=
  if head.isPrefixOf cs then some (cs.drop head.length) else none

/-- what stands before the first occurrence of a sign and after it -/
def splitAt? (sign : List Char) : List Char → Option (List Char × List Char)
  | [] => if sign = [] then some ([], []) else none
  | c :: rest =>
    match dropHead? sign (c :: rest) with
    | some after => some ([], after)
    | none => (splitAt? sign rest).map fun r => (c :: r.1, r.2)

/-- whether a text occurs in another -/
def occursIn (part : List Char) (cs : List Char) : Bool := (splitAt? part cs).isSome

/-- parting is the library's splitting of lists -/
theorem partsBy_eq_splitOnP (isSeparator : Char → Bool) (cs : List Char) :
    partsBy isSeparator cs = cs.splitOnP isSeparator := by
  induction cs with
  | nil => rfl
  | cons c rest ih =>
    rw [partsBy, List.splitOnP_cons_eq_if_modifyHead, ih]
    split
    · rfl
    · cases h : List.splitOnP isSeparator rest with
      | nil => exact absurd h (List.splitOnP_ne_nil _ rest)
      | cons part more => rfl

variable {isSeparator : Char → Bool}

/-- the parts before a separator and the parts after it -/
theorem partsBy_append_cons {c : Char} (hc : isSeparator c = true) (front back : List Char) :
    partsBy isSeparator (front ++ c :: back) = partsBy isSeparator front ++ partsBy isSeparator back := by
  simp only [partsBy_eq_splitOnP]
  exact List.splitOnP_append_cons front back hc

/-- one part where nothing parts it -/
theorem partsBy_of_forall {cs : List Char} (h : ∀ c ∈ cs, isSeparator c = false) : partsBy isSeparator cs = [cs] := by
  rw [partsBy_eq_splitOnP]
  exact List.splitOnP_eq_singleton h

end ValueSchema.Text
