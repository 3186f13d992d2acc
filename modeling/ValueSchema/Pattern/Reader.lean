import ValueSchema.Pattern.Bracket

/-!
Reading patterns.

A pattern is read from left to right with the groups that are still open on a stack. Flags set inside a group hold up to its
end, across its alternatives. A pattern that nests too deep or takes too much room is refused.
-/

namespace ValueSchema.Pattern

open Text

/-- part of a pattern, with how deep it nests and how much room it takes -/
structure Part where
  expr : Expr
  depth : Nat
  room : Nat

/-- the parts of one alternative, the last first; a setting of flags is a part that cannot be repeated -/
abbrev Parts := List (Option Part)

/-- the parts one after the other -/
def Parts.join (parts : Parts) : Part :=
  let present := parts.reverse.filterMap id
  let depth := (present.map Part.depth).foldl max 0
  { expr := Regex.seqs (present.map Part.expr)
    depth := if 2 ≤ parts.length then depth + 1 else depth
    room := (present.map Part.room).foldl (· + ·) 32 }

/-- a group, or the whole pattern, that is not closed yet -/
structure OpenGroup where
  /-- the alternative being read -/
  parts : Parts
  /-- the alternatives before it, the last first -/
  before : List Part

namespace OpenGroup

def empty : OpenGroup := ⟨[], []⟩

def push (g : OpenGroup) (p : Option Part) : OpenGroup := { g with parts := p :: g.parts }

/-- what the group matches -/
def join (g : OpenGroup) : Part :=
  match g.before.reverse with
  | [] => g.parts.join
  | first :: rest =>
    let all := rest ++ [g.parts.join]
    { expr := Regex.eithers first.expr (all.map Part.expr)
      depth := (all.map Part.depth).foldl max first.depth + 1
      room := (all.map Part.room).foldl (· + ·) (first.room + 32) }

end OpenGroup

structure State where
  flags : Flags
  group : OpenGroup
  /-- the groups around it with their flags, the innermost first -/
  outer : List (OpenGroup × Flags)
  /-- names of groups -/
  names : List (List Char)
  rest : List Char

namespace State

def push (s : State) (p : Option Part) (rest : List Char) : State := { s with group := s.group.push p, rest := rest }

/-- repeats the part read last -/
def repeatLast? (s : State) (least : Nat) (most : Option Nat) (rest : List Char) : Option State :=
  match s.group.parts with
  | some p :: parts =>
    let copies := max 1 (most.getD (max 1 least))
    some { s with
      group := { s.group with parts := some ⟨.repeated p.expr least most, p.depth + 1, p.room * copies + 32⟩ :: parts }
      rest := rest }
  | _ => none

/-- drops the mark of a repetition that prefers to end early, which finds the same -/
def dropLazy : List Char → List Char
  | '?' :: rest => rest
  | cs => cs

/-- a count in decimal digits, blanks around it allowed -/
def readCount? (verbose : Bool) (cs : List Char) : Option Nat × List Char :=
  let (digits, rest) := spanSkipping verbose Char.isDigit cs.length (cs.dropWhile isBlank)
  let count := (readNat? digits).filter (· < 4294967296)
  (count, skip verbose (rest.dropWhile isBlank))

/-- a counted repetition behind its brace -/
def readCounted? (s : State) (cs : List Char) : Option State :=
  let verbose := s.flags.verbose
  let close (least : Nat) (most : Option Nat) : List Char → Option State
    | '\x7d' :: rest =>
      if most.all (least ≤ ·) then s.repeatLast? least most (dropLazy (skip verbose rest)) else none
    | _ => none
  let (first, rest) := readCount? verbose (skip verbose cs)
  first.bind fun least =>
    match rest with
    | ',' :: rest =>
      match skip verbose rest with
      | '\x7d' :: rest => close least none ('\x7d' :: rest)
      | rest =>
        let (last, rest) := readCount? verbose rest
        last.bind fun most => close least (some most) rest
    | rest => close least (some least) rest

/-- opens a group under the given flags -/
def openGroup (s : State) (flags : Flags) (rest : List Char) : State :=
  { s with group := .empty, outer := (s.group, s.flags) :: s.outer, flags := flags, rest := rest }

/-- characters of names of groups -/
def isNameChar (first : Bool) (c : Char) : Bool :=
  let isLetter := (CharSet.ofProperty? "alpha").any (· c)
  c = '_' || isLetter || !first && (c = '.' || c = '[' || c = ']' || isOfCategory ["nd", "nl", "no"] c)

/-- a group behind the start of its name -/
def openNamed? (s : State) (cs : List Char) : Option State :=
  let name := cs.takeWhile (· ≠ '>')
  match name, cs.dropWhile (· ≠ '>') with
  | first :: more, _ :: rest =>
    if isNameChar true first && more.all (isNameChar false) && !s.names.contains name then
      some { s.openGroup s.flags rest with names := name :: s.names }
    else none
  | _, _ => none

/-- the letters of flags up to their end; each stands once, and a minus is followed by some -/
def readFlags? (flags : Flags) (on : Bool) (seen : List Char) : List Char → Option (Flags × List Char × List Char)
  | [] => none
  | c :: rest =>
    if c = ':' || c = ')' then
      if seen.head? = some '-' then none else some (flags, seen, c :: rest)
    else if seen.contains c then none
    else if c = '-' then readFlags? flags false (c :: seen) rest
    else (flags.set? c on).bind fun flags => readFlags? flags on (c :: seen) rest

/-- the first of some starts that a text has, and the text behind it -/
def startsWithAny (starts : List String) (cs : List Char) : Option (List Char) :=
  starts.findSome? fun start => dropHead? start.toList cs

/-- a group, or a setting of flags, behind its parenthesis; looking around is not supported -/
def readGroup? (s : State) (cs : List Char) : Option State :=
  let cs := skip s.flags.verbose cs
  if (startsWithAny ["?=", "?!", "?<=", "?<!"] cs).isSome then none
  else match startsWithAny ["?P<", "?<"] cs, cs with
    | some rest, _ => s.openNamed? rest
    | none, '?' :: rest =>
      (readFlags? s.flags true [] rest).bind fun (flags, seen, rest) =>
        match rest with
        | ')' :: rest => if seen = [] then none else some { s.push none rest with flags := flags }
        | _ => some (s.openGroup flags (rest.drop 1))
    | none, cs => some (s.openGroup s.flags cs)

/-- closes the innermost group -/
def closeGroup? (s : State) (rest : List Char) : Option State :=
  match s.outer with
  | [] => none
  | (parent, flags) :: outer =>
    let p := s.group.join
    some { s with
      group := parent.push (some ⟨p.expr, p.depth + 1, p.room + 64⟩)
      outer := outer
      flags := flags
      rest := rest }

/-- reads one element -/
def step? (s : State) : Option State :=
  match s.rest with
  | [] => none
  | '(' :: rest => s.readGroup? rest
  | ')' :: rest => s.closeGroup? rest
  | '|' :: rest => some { s with group := ⟨[], s.group.parts.join :: s.group.before⟩, rest := rest }
  | '[' :: rest =>
    (readBracket? s.flags rest).map fun ((c, depth), rest) => s.push (some ⟨.char c.set, depth, c.room⟩) rest
  | '?' :: rest => s.repeatLast? 0 (some 1) (dropLazy rest)
  | '*' :: rest => s.repeatLast? 0 none (dropLazy rest)
  | '+' :: rest => s.repeatLast? 1 none (dropLazy rest)
  | '\x7b' :: rest => s.readCounted? rest
  | cs =>
    (readSign? s.flags.verbose cs).bind fun (sign, rest) =>
      (s.flags.expr? sign).map fun (expr, room) => s.push (some ⟨expr, 0, room⟩) rest

/-- reads to the end, in at most a number of steps -/
def run? : Nat → State → Option State
  | 0, _ => none
  | n + 1, s =>
    match skip s.flags.verbose s.rest with
    | [] => some s
    | rest => { s with rest := rest }.step?.bind (run? n)

end State

/-- how deep a pattern may nest -/
def depthLimit : Nat := 250

/-- how much room a pattern may take -/
def roomLimit : Nat := 10485760

/-- the expression of a pattern -/
def readExpr? (source : String) : Option Expr :=
  (State.run? (source.toList.length + 1) ⟨.standard, .empty, [], [], source.toList⟩).bind fun s =>
    let p := s.group.join
    if s.outer.isEmpty && p.depth ≤ depthLimit && p.room ≤ roomLimit then some p.expr else none

end Pattern

/-- a pattern: its text and what that means -/
structure Pattern where
  source : String
  expr : Pattern.Expr

namespace Pattern

def read? (source : String) : Option Pattern := (readExpr? source).map fun e => ⟨source, e⟩

/-- whether the pattern is found in a text -/
def foundIn (p : Pattern) (text : String) : Bool := p.expr.foundIn text.toList

end Pattern

end ValueSchema
