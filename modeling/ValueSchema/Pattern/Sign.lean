import ValueSchema.Pattern.Flags
import ValueSchema.Text.Digits
import ValueSchema.Text.Parts

/-!
Reading the signs of a pattern: single characters and escapes.

Each reader answers what it read and the rest of the pattern, or nothing if the pattern is no pattern.
-/

namespace ValueSchema.Pattern

open Text

/-- drops blanks, and comments up to the end of their line -/
def dropComments (inComment : Bool) : List Char → List Char
  | [] => []
  | c :: rest =>
    if inComment then dropComments (c ≠ '\n') rest
    else if isBlank c then dropComments false rest
    else if c = '#' then dropComments true rest
    else c :: rest

/-- drops what does not count in verbose patterns -/
def skip (verbose : Bool) (cs : List Char) : List Char := if verbose then dropComments false cs else cs

/-- the leading characters of a class, with blanks between them in verbose patterns -/
def spanSkipping (verbose : Bool) (p : Char → Bool) : Nat → List Char → List Char × List Char
  | 0, cs => ([], cs)
  | _ + 1, [] => ([], [])
  | n + 1, c :: rest =>
    if p c then
      let (more, left) := spanSkipping verbose p n (skip verbose rest)
      (c :: more, left)
    else ([], c :: rest)

/-- characters that a backslash makes literal: the signs of ASCII except angles, which are kept for places -/
def isEscapable (c : Char) : Bool := CharSet.isAscii c && !c.isAlphanum && c ≠ '<' && c ≠ '>'

def isHex (c : Char) : Bool := (digitValue? 16 c).isSome

/-- the character with a code in hexadecimal digits -/
def charOfHex? (digits : List Char) : Option Char :=
  (readRadix? 16 digits).bind fun n => if n.isValidChar then some (Char.ofNat n) else none

/-- a fixed number of hexadecimal digits -/
def readHexDigits? (verbose : Bool) : Nat → List Char → Option (List Char × List Char)
  | 0, cs => some ([], cs)
  | _ + 1, [] => none
  | n + 1, c :: rest =>
    if isHex c then (readHexDigits? verbose n (if n = 0 then rest else skip verbose rest)).map fun r => (c :: r.1, r.2)
    else none

/-- the code of a character after `x`, `u` or `U`: two, four or eight digits, or any number in braces -/
def readHex? (verbose : Bool) (width : Nat) (cs : List Char) : Option (Sign × List Char) :=
  match skip verbose cs with
  | [] => none
  | '\x7b' :: rest =>
    let (digits, rest) := spanSkipping verbose isHex rest.length (skip verbose rest)
    match rest with
    | '\x7d' :: rest => (charOfHex? digits).map fun c => (.letter c false, skip verbose rest)
    | _ => none
  | cs => (readHexDigits? verbose width cs).bind fun r =>
    (charOfHex? r.1).map fun c => (.letter c (width == 2), skip verbose r.2)

/-- a property in braces, by name or by name and value; the inequality turns it around -/
def propertyOf? (negated : Bool) (name : List Char) : Option Sign :=
  let sign (negated : Bool) (s : Option CharSet) : Option Sign := s.map fun s => .set (some s) none negated 9000
  match splitAt? ['!', '='] name with
  | some (property, value) => sign (!negated) (CharSet.ofValue? property value)
  | none => match (splitAt? [':'] name <|> splitAt? ['='] name) with
    | some (property, value) => sign negated (CharSet.ofValue? property value)
    | none => sign negated (CharSet.ofName? name)

/-- a property after `p` or `P` -/
def readProperty? (verbose : Bool) (negated : Bool) (cs : List Char) : Option (Sign × List Char) :=
  match skip verbose cs with
  | [] => none
  | '\x7b' :: rest =>
    let (name, rest) := spanSkipping verbose (· ≠ '\x7d') rest.length (skip verbose rest)
    match rest with
    | _ :: rest => (propertyOf? negated name).map fun s => (s, rest)
    | [] => none
  | '\\' :: _ => none
  | c :: rest => (propertyOf? negated [c]).map fun s => (s, skip verbose rest)

/-- places at the edges of words -/
def wordEdge : Bool → Bool → Bool := fun before after => before != after

def wordStart : Bool → Bool → Bool := fun before after => !before && after

def wordEnd : Bool → Bool → Bool := fun before after => before && !after

/-- a place named in braces after `\b`; braces that begin otherwise count repetitions -/
def readWordPlace? (verbose : Bool) (cs : List Char) : Option (Sign × List Char) :=
  let place (test : Bool → Bool → Bool) : Sign := .place fun f => f.wordPlace test
  let isNamed (c : Char) : Bool := c.isAlpha || c = '-'
  match cs with
  | '\x7b' :: rest =>
    match skip verbose rest with
    | [] => none
    | c :: more =>
      if !isNamed c then some (place wordEdge, cs)
      else
        let (name, rest) := spanSkipping verbose isNamed (more.length + 1) (c :: more)
        match rest with
        | '\x7d' :: rest =>
          match String.ofList name with
          | "start" => some (place wordStart, rest)
          | "end" => some (place wordEnd, rest)
          | "start-half" => some (place fun before _ => !before, rest)
          | "end-half" => some (place fun _ after => !after, rest)
          | _ => none
        | _ => none
  | _ => some (place wordEdge, cs)

/-- the sign after a backslash -/
def readEscape? (verbose : Bool) : List Char → Option (Sign × List Char)
  | [] => none
  | c :: rest =>
    let named (s : CharSet) (negated : Bool) (room : Nat) : Option (Sign × List Char) :=
      some (.set (some s) (some s.asciiOnly) negated room, rest)
    let letter (c : Char) : Option (Sign × List Char) := some (.letter c false, rest)
    let place (test : Flags → PlaceTest) : Option (Sign × List Char) := some (.place test, rest)
    match c with
    | 'x' => readHex? verbose 2 rest
    | 'u' => readHex? verbose 4 rest
    | 'U' => readHex? verbose 8 rest
    | 'p' => readProperty? verbose false rest
    | 'P' => readProperty? verbose true rest
    | 'd' => named CharSet.digit false 9000
    | 'D' => named CharSet.digit true 9000
    | 's' => named CharSet.space false 600
    | 'S' => named CharSet.space true 600
    | 'w' => named CharSet.word false 48000
    | 'W' => named CharSet.word true 48000
    | 'a' => letter '\x07'
    | 'f' => letter '\x0C'
    | 't' => letter '\t'
    | 'n' => letter '\n'
    | 'r' => letter '\r'
    | 'v' => letter '\x0B'
    | 'A' => place fun _ before _ => before.isNone
    | 'z' => place fun _ _ after => after.isNone
    | 'b' => readWordPlace? verbose rest
    | 'B' => place fun f => f.wordPlace fun before after => before == after
    | '<' => place fun f => f.wordPlace wordStart
    | '>' => place fun f => f.wordPlace wordEnd
    | c => if isEscapable c then letter c else none

/-- the sign at the start of a pattern outside of brackets -/
def readSign? (verbose : Bool) : List Char → Option (Sign × List Char)
  | [] => none
  | '\\' :: rest => readEscape? verbose rest
  | '.' :: rest => some (.dot, rest)
  | '^' :: rest => some (.place Flags.lineStart, rest)
  | '$' :: rest => some (.place Flags.lineEnd, rest)
  | c :: rest => some (.letter c false, rest)

end ValueSchema.Pattern
