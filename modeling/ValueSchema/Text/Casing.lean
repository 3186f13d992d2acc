import ValueSchema.Text.CasingTable

/-!
Lower and upper case of whole texts. A character may become several; a capital sigma at the end of a word becomes the
final small sigma.
-/

namespace ValueSchema.Text

/-- whether the first character that is not passed over has case -/
def meetsCased (cs : List Char) : Bool :=
  match cs.dropWhile caseIgnorable.contains with
  | c :: _ => cased.contains c
  | [] => false

/-- lower case of one character in its place: the characters before it, nearest first, and after it -/
def lowerAt (before : List Char) (c : Char) (after : List Char) : List Char :=
  if c.toNat < 128 then [c.toLower]
  else if c = 'Σ' then [if meetsCased before && !meetsCased after then 'ς' else 'σ']
  else if c = 'İ' then ['i', Char.ofNat 0x307]
  else [Shift.apply lowerShifts c]

def lowerFrom (before : List Char) : List Char → List Char
  | [] => []
  | c :: after => lowerAt before c after ++ lowerFrom (c :: before) after

def toLower (cs : List Char) : List Char := lowerFrom [] cs

/-- upper case of one character -/
def upperOf (c : Char) : List Char :=
  if c.toNat < 128 then [c.toUpper]
  else match upperSequences.lookup c with
    | some cs => cs
    | none => [Shift.apply upperShifts c]

def toUpper (cs : List Char) : List Char := cs.flatMap upperOf

end ValueSchema.Text
