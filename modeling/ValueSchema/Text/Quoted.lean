import ValueSchema.Text.VisibilityTable

/-!
Text between double quotes with everything invisible spelled out, as values are shown to people.
-/

namespace ValueSchema.Text

/-- a character by its code point in hexadecimal, between braces -/
def escapedCode (c : Char) : List Char :=
  "\\u\x7b".toList ++ Nat.toDigits 16 c.toNat ++ ['\x7d']

/-- one character inside quotes -/
def quotedChar (c : Char) : List Char :=
  if c = '"' then ['\\', '"']
  else if c = '\\' then ['\\', '\\']
  else if c = '\n' then ['\\', 'n']
  else if c = '\r' then ['\\', 'r']
  else if c = '\t' then ['\\', 't']
  else if c.toNat = 0 then ['\\', '0']
  else if 32 ≤ c.toNat ∧ c.toNat < 127 then [c]
  else if extending.contains c || unprintable.contains c then escapedCode c
  else [c]

def quoted (s : String) : String := String.ofList ('"' :: (s.toList.flatMap quotedChar ++ ['"']))

end ValueSchema.Text
