import ValueSchema.Pattern.Sign

/-!
Reading classes in brackets: unions of signs, ranges, named classes and further classes, with intersection (`&&`),
difference (`--`) and symmetric difference (`~~`) between unions, from the left.
-/

namespace ValueSchema.Pattern

open Text

inductive SetOperator where
  | inter
  | diff
  | symmDiff

def SetOperator.apply : SetOperator → CharSet → CharSet → CharSet
  | .inter => CharSet.inter
  | .diff => CharSet.diff
  | .symmDiff => CharSet.symmDiff

/-- a class that is not closed yet -/
structure OpenClass where
  negated : Bool
  /-- the union being read -/
  union : Sized
  /-- how many items the union has -/
  count : Nat
  /-- how deep its items nest -/
  depth : Nat
  /-- the operator before the union, with its left side and how deep that nests -/
  pending : Option (SetOperator × Sized × Nat)

namespace OpenClass

def empty (negated : Bool) : OpenClass := ⟨negated, ⟨fun _ => false, 64⟩, 0, 0, none⟩

/-- adds an item to the union -/
def add (o : OpenClass) (s : Sized) (depth : Nat) : OpenClass :=
  { o with
    union := if o.count = 0 then ⟨s.set, o.union.room + s.room⟩ else ⟨o.union.set.union s.set, o.union.room + s.room⟩
    count := o.count + 1
    depth := max o.depth depth }

/-- what was read so far, with how deep it nests -/
def value (o : OpenClass) (f : Flags) : Sized × Nat :=
  let depth := if 2 ≤ o.count then o.depth + 1 else o.depth
  match o.pending with
  | none => (o.union, depth)
  | some (operator, left, leftDepth) =>
    (⟨operator.apply (f.fold left.set) (f.fold o.union.set), left.room + o.union.room⟩, max leftDepth depth + 1)

/-- goes on to the right side of an operator -/
def operate (o : OpenClass) (f : Flags) (operator : SetOperator) : OpenClass :=
  let (left, depth) := o.value f
  { empty o.negated with pending := some (operator, left, depth) }

def close? (o : OpenClass) (f : Flags) : Option (Sized × Nat) :=
  let (s, depth) := o.value f
  (f.negate? o.negated (f.fold s.set)).map fun set => (⟨set, s.room + if o.negated then 700 else 0⟩, depth + 1)

end OpenClass

/-- the start of a class behind its bracket: a sign of negation, then hyphens, then perhaps a bracket as a character -/
def openClass? (f : Flags) (cs : List Char) : Option (OpenClass × List Char) :=
  let (negated, cs) := match skip f.verbose cs with
    | '^' :: rest => (true, skip f.verbose rest)
    | cs => (false, cs)
  let (hyphens, cs) := spanSkipping f.verbose (· = '-') cs.length cs
  let start := hyphens.foldl (fun o c => o.add ⟨(· == c), 32⟩ 0) (OpenClass.empty negated)
  let (start, cs) := match hyphens, cs with
    | [], ']' :: rest => (start.add ⟨(· == ']'), 32⟩ 0, skip f.verbose rest)
    | _, cs => (start, cs)
  if cs = [] then none else some (start, cs)

/-- a class such as `[:alpha:]` inside of brackets, behind the first bracket -/
def readAsciiClass? : List Char → Option (Sign × List Char)
  | ':' :: rest =>
    let (negated, rest) := match rest with
      | '^' :: rest => (true, rest)
      | rest => (false, rest)
    match dropHead? [':', ']'] (rest.dropWhile (· ≠ ':')) with
    | some after =>
      (CharSet.ofAsciiName? (String.ofList (rest.takeWhile (· ≠ ':')))).map fun s =>
        (.set (some s) (some s) negated 64, after)
    | none => none
  | _ => none

/-- one end of a range, or a sign of its own -/
def readMember? (f : Flags) : List Char → Option (Sign × List Char)
  | [] => none
  | '\\' :: rest => readEscape? f.verbose rest
  | c :: rest => some (.letter c false, rest)

/-- the character that follows, blanks not counted in verbose patterns -/
def peek? (verbose : Bool) (cs : List Char) : Option Char :=
  if !verbose then cs.head?
  else match cs.dropWhile isBlank with
    | '#' :: rest => (rest.dropWhile isBlank).head?
    | cs => cs.head?

/-- a sign or a range; a hyphen before a bracket or another hyphen makes no range -/
def readItem? (f : Flags) (cs : List Char) : Option (Sized × List Char) :=
  (readMember? f cs).bind fun (first, rest) =>
    let single := (f.member? first).map fun s => (s, skip f.verbose rest)
    match skip f.verbose rest with
    | [] => none
    | '-' :: more =>
      if peek? f.verbose more = some ']' || peek? f.verbose more = some '-' then single
      else (readMember? f (skip f.verbose more)).bind fun (last, rest) =>
        (f.range? first last).map fun s => (s, rest)
    | _ => single

/-- reads on in a class, given the classes around it, for at most a number of steps -/
def readClass? (f : Flags) : Nat → OpenClass → List OpenClass → List Char → Option ((Sized × Nat) × List Char)
  | 0, _, _, _ => none
  | n + 1, current, outer, cs =>
    match skip f.verbose cs with
    | [] => none
    | '[' :: rest =>
      match readAsciiClass? rest with
      | some (sign, rest) =>
        (f.member? sign).bind fun s => readClass? f n (current.add s 0) outer rest
      | none => (openClass? f rest).bind fun (inner, rest) => readClass? f n inner (current :: outer) rest
    | ']' :: rest =>
      (current.close? f).bind fun (s, depth) =>
        match outer with
        | [] => some ((s, depth), rest)
        | parent :: outer => readClass? f n (parent.add s depth) outer rest
    | '&' :: '&' :: rest => readClass? f n (current.operate f .inter) outer rest
    | '-' :: '-' :: rest => readClass? f n (current.operate f .diff) outer rest
    | '~' :: '~' :: rest => readClass? f n (current.operate f .symmDiff) outer rest
    | cs => (readItem? f cs).bind fun (s, rest) => readClass? f n (current.add s 0) outer rest

/-- the class behind an opening bracket, with how deep it nests -/
def readBracket? (f : Flags) (cs : List Char) : Option ((Sized × Nat) × List Char) :=
  (openClass? f cs).bind fun (start, rest) => readClass? f cs.length start [] rest

end ValueSchema.Pattern
