import ValueSchema.Text.Blank
import ValueSchema.Text.Parts

/-!
The guard on names taken from the input.

A consumer of the output may take a name for a path into its objects. A name with a segment that would lead to the
prototype of an object is dangerous; it is never copied into an output.
-/

namespace ValueSchema.Key

open Text

/-- dots and brackets part a name into segments -/
def isSeparator (c : Char) : Bool := c = '.' || c = '[' || c = ']'

def isQuote (c : Char) : Bool := c = '"' || c = '\''

/-- segments that lead to a prototype -/
def dangerousSegments : List String := ["__proto__", "constructor", "prototype"]

/-- a segment counts without the blanks and then the quotes around it -/
def isDangerousSegment (segment : List Char) : Bool :=
  dangerousSegments.contains (String.ofList (trimBy isQuote (trim segment)))

def isDangerous (name : String) : Bool := (partsBy isSeparator name.toList).any isDangerousSegment

end ValueSchema.Key
