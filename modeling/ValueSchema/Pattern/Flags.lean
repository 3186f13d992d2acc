import ValueSchema.Pattern.CharClass

/-!
Flags of patterns and what the signs of a pattern mean under them.

Where Unicode is off, only ASCII may be matched by a class: what would match part of a character has no meaning.
-/

namespace ValueSchema.Pattern

/-- a pattern's expression -/
abbrev Expr := Regex CharSet PlaceTest

structure Flags where
  ignoreCase : Bool
  /-- line ends are ends of text for `^` and `$` -/
  multiLine : Bool
  /-- the dot takes line ends too -/
  dotAll : Bool
  unicode : Bool
  /-- a carriage return is part of a line end -/
  crlf : Bool
  /-- blanks and comments do not count -/
  verbose : Bool

def Flags.standard : Flags := ⟨false, false, false, true, false, false⟩

/-- sets the flag of a letter; greed does not change what is found -/
def Flags.set? (f : Flags) (letter : Char) (on : Bool) : Option Flags :=
  match letter with
  | 'i' => some { f with ignoreCase := on }
  | 'm' => some { f with multiLine := on }
  | 's' => some { f with dotAll := on }
  | 'u' => some { f with unicode := on }
  | 'R' => some { f with crlf := on }
  | 'x' => some { f with verbose := on }
  | 'U' => some f
  | _ => none

/-- a sign that stands for itself, or a class, a place or the dot -/
inductive Sign where
  /-- a byte is written by two hexadecimal digits -/
  | letter (c : Char) (isByte : Bool)
  /-- a class with a name, without and with Unicode, and how much room it takes -/
  | set (unicode ascii : Option CharSet) (negated : Bool) (room : Nat)
  | place (test : Flags → PlaceTest)
  | dot

/-- a set of characters and how much room it takes -/
structure Sized where
  set : CharSet
  room : Nat

namespace Flags

variable (f : Flags)

/-- all cases of a class, if case does not count -/
def fold (s : CharSet) : CharSet :=
  if !f.ignoreCase then s else if f.unicode then s.foldCase else s.foldAsciiCase

/-- the complement of a class, which has bytes beyond ASCII where Unicode is off -/
def negate? (negated : Bool) (s : CharSet) : Option CharSet :=
  if !negated then some s else if f.unicode then some s.compl else none

/-- one character; a byte beyond ASCII is no character where Unicode is off -/
def letter? (c : Char) (isByte : Bool) : Option CharSet :=
  if f.unicode then some (if f.ignoreCase then CharSet.caseless c else (· == c))
  else if isByte && !CharSet.isAscii c then none
  else some (if f.ignoreCase && CharSet.isAscii c then CharSet.foldAsciiCase (· == c) else (· == c))

/-- a named class -/
def named? (unicode ascii : Option CharSet) (negated : Bool) : Option CharSet :=
  (if f.unicode then unicode else ascii).bind fun s => f.negate? negated (f.fold s)

def dot? : Option CharSet :=
  if !f.unicode then none
  else if f.dotAll then some fun _ => true
  else if f.crlf then some fun c => c ≠ '\r' && c ≠ '\n'
  else some fun c => c ≠ '\n'

/-- the start of the text, or of a line -/
def lineStart : PlaceTest := fun before after =>
  before.isNone || f.multiLine &&
    (before == some '\n' || f.crlf && before == some '\r' && after != some '\n')

/-- the end of the text, or of a line -/
def lineEnd : PlaceTest := fun before after =>
  after.isNone || f.multiLine &&
    (if f.crlf then after == some '\r' || after == some '\n' && before != some '\r' else after == some '\n')

/-- a condition on whether the neighbours of a place are parts of words -/
def wordPlace (test : Bool → Bool → Bool) : PlaceTest := fun before after =>
  let isWord := if f.unicode then CharSet.word else CharSet.word.asciiOnly
  test (before.any isWord) (after.any isWord)

/-- the expression of a sign outside of brackets, with the room it takes -/
def expr? : Sign → Option (Expr × Nat)
  | .letter c isByte => (f.letter? c isByte).map fun s => (.char s, 32 * c.utf8Size)
  | .set unicode ascii negated room => (f.named? unicode ascii negated).map fun s => (.char s, room)
  | .place test => some (.look (test f), 32)
  | .dot => f.dot?.map fun s => (.char s, 700)

/-- the class that a sign stands for in brackets -/
def member? : Sign → Option Sized
  | .letter c _ => if f.unicode || CharSet.isAscii c then some ⟨(· == c), 32⟩ else none
  | .set unicode ascii negated room => (f.named? unicode ascii negated).map fun s => ⟨s, room⟩
  | .place _ => none
  | .dot => none

/-- the class of the characters between two signs in brackets -/
def range? : Sign → Sign → Option Sized
  | .letter low _, .letter high _ =>
    if low ≤ high && (f.unicode || CharSet.isAscii high) then some ⟨CharSet.range low high, 32⟩ else none
  | _, _ => none

end Flags

end ValueSchema.Pattern
