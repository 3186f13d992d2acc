import ValueSchema.Json.Basic

/-!
Strict reading of JSON text.

No comments, no trailing commas, no leading zeros, no lone surrogates, at most 127 levels of nesting. A whole number is
kept when it fits 64 bits. Every other number is read as a significand of at most 64 bits, digits past those being passed
over, which is scaled by one power of ten; a number too large for a double is refused.
-/

namespace ValueSchema.Json.Reader

open Text

def isSpace (c : Char) : Bool := c = ' ' || c = '\n' || c = '\t' || c = '\r'

def skipSpace (cs : List Char) : List Char := cs.dropWhile isSpace

/-! ## Numbers -/

/-- the first number that needs more than 64 bits -/
def wordLimit : Nat := 18446744073709551616

/-- significand and power of ten read so far; `full` once a digit no longer fitted -/
structure Significand where
  value : Nat
  exponent : Int
  full : Bool

namespace Significand

/-- a digit before the point: once full it only counts as a factor of ten -/
def wholeDigit (s : Significand) (c : Char) : Significand :=
  let next := s.value * 10 + (c.toNat - 48)
  if s.full || wordLimit ≤ next then { s with exponent := s.exponent + 1, full := true }
  else { s with value := next }

/-- a digit after the point: once full it is passed over -/
def fractionDigit (s : Significand) (c : Char) : Significand :=
  let next := s.value * 10 + (c.toNat - 48)
  if s.full || wordLimit ≤ next then { s with full := true }
  else { s with value := next, exponent := s.exponent - 1 }

/-- scales by a power of ten; what lies below the powers that doubles hold is reached in several steps -/
def scale? : Nat → Double → Int → Option Double
  | 0, x, _ => some x
  | fuel + 1, x, exponent =>
    let power := Double.ofNat (tenPow (min exponent.natAbs 308))
    if exponent.natAbs ≤ 308 then
      if 0 ≤ exponent then
        let y := x.mul power
        if y.isFinite then some y else none
      else some (x.div power)
    else if x.isZero then some x
    else if 0 ≤ exponent then none
    else scale? fuel (x.div power) (exponent + 308)

/-- the double of a significand; a product that overflows has none -/
def toDouble? (negative : Bool) (s : Significand) : Option Double :=
  (scale? 8 (Double.ofNat s.value) s.exponent).map fun x => if negative then x.neg else x

end Significand

/-- digits before the point: a zero alone, or digits that start with another -/
def wholeDigits (cs : List Char) : Option (List Char × List Char) :=
  match spanDigits cs with
  | ([], _) => none
  | ('0' :: _ :: _, _) => none
  | r => some r

/-- an optional fraction: its digits -/
def fractionDigits (cs : List Char) : Option (Option (List Char) × List Char) :=
  match cs with
  | '.' :: rest =>
    match spanDigits rest with
    | ([], _) => none
    | (ds, rest) => some (some ds, rest)
  | _ => some (none, cs)

/-- an optional exponent -/
def exponentPart (cs : List Char) : Option (Option Int × List Char) :=
  match cs with
  | c :: rest =>
    if c = 'e' ∨ c = 'E' then
      let (negative, rest) := readSign rest
      match spanDigits rest with
      | ([], _) => none
      | (ds, rest) =>
        let n : Int := Nat.ofDigitChars 10 ds 0
        some (some (if negative then -n else n), rest)
    else some (none, cs)
  | [] => some (none, cs)

/-- a number without fraction and exponent: exact when it fits 64 bits; negative zero is a double -/
def wholeNumber? (negative : Bool) (ds : List Char) : Option JsonNumber :=
  let n := Nat.ofDigitChars 10 ds 0
  if !negative && n < wordLimit then some (.integer n)
  else if negative && 0 < n && n ≤ wordLimit / 2 then some (.integer (-n))
  else (Significand.toDouble? negative (ds.foldl Significand.wholeDigit ⟨0, 0, false⟩)).map .float

def number (cs : List Char) : Option (Json × List Char) := do
  let (negative, cs) := match cs with
    | '-' :: rest => (true, rest)
    | _ => (false, cs)
  let (whole, cs) ← wholeDigits cs
  let (fraction, cs) ← fractionDigits cs
  let (exponent, cs) ← exponentPart cs
  match fraction, exponent with
  | none, none => (wholeNumber? negative whole).map fun n => (.number n, cs)
  | _, _ =>
    let s := whole.foldl Significand.wholeDigit ⟨0, 0, false⟩
    -- a fraction starts afresh: its first digit may fit where a digit before the point did not
    let s := (fraction.getD []).foldl Significand.fractionDigit { s with full := false }
    let x ← Significand.toDouble? negative { s with exponent := s.exponent + exponent.getD 0 }
    some (.number (.float x), cs)

/-! ## Strings -/

/-- the code unit of four hexadecimal digits -/
def codeUnit? (a b c d : Char) : Option Nat := readRadix? 16 [a, b, c, d]

/-- the characters up to the closing quote, and the rest after it -/
def stringBody : List Char → Option (List Char × List Char)
  | [] => none
  | '"' :: rest => some ([], rest)
  | '\\' :: 'u' :: a :: b :: c :: d :: rest => do
    let unit ← codeUnit? a b c d
    if 0xD800 ≤ unit ∧ unit < 0xDC00 then
      match rest with
      | '\\' :: 'u' :: e :: f :: g :: h :: rest =>
        let low ← codeUnit? e f g h
        if 0xDC00 ≤ low ∧ low < 0xE000 then
          let r ← stringBody rest
          some (Char.ofNat (0x10000 + (unit - 0xD800) * 1024 + (low - 0xDC00)) :: r.1, r.2)
        else none
      | _ => none
    else if 0xDC00 ≤ unit ∧ unit < 0xE000 then none
    else
      let r ← stringBody rest
      some (Char.ofNat unit :: r.1, r.2)
  | '\\' :: c :: rest => do
    let x ←
      if c = '"' ∨ c = '\\' ∨ c = '/' then some c
      else if c = 'b' then some (Char.ofNat 8)
      else if c = 'f' then some (Char.ofNat 12)
      else if c = 'n' then some '\n'
      else if c = 'r' then some '\r'
      else if c = 't' then some '\t'
      else none
    let r ← stringBody rest
    some (x :: r.1, r.2)
  | c :: rest => do
    if c.toNat < 32 ∨ c = '\\' then none
    else
      let r ← stringBody rest
      some (c :: r.1, r.2)

/-! ## Values -/

/-- the rest after a fixed word -/
def word (w : String) (j : Json) (cs : List Char) : Option (Json × List Char) :=
  if w.toList.isPrefixOf cs then some (j, cs.drop w.length) else none

mutual

/-- a value inside `depth` more levels of nesting; every call uses one unit of fuel -/
def value : Nat → Nat → List Char → Option (Json × List Char)
  | 0, _, _ => none
  | fuel + 1, depth, cs =>
    match skipSpace cs with
    | '"' :: rest => (stringBody rest).map fun r => (.string (String.ofList r.1), r.2)
    | '[' :: rest =>
      if depth = 0 then none
      else match skipSpace rest with
        | ']' :: rest => some (.array [], rest)
        | rest => (items fuel (depth - 1) rest).map fun r => (.array r.1, r.2)
    | '\x7b' :: rest =>
      if depth = 0 then none
      else match skipSpace rest with
        | '\x7d' :: rest => some (ofMembers [], rest)
        | rest => (members fuel (depth - 1) rest).map fun r => (ofMembers r.1, r.2)
    | 'n' :: rest => word "null" .null ('n' :: rest)
    | 't' :: rest => word "true" (.bool true) ('t' :: rest)
    | 'f' :: rest => word "false" (.bool false) ('f' :: rest)
    | rest => number rest

/-- the items of an array up to the closing bracket -/
def items : Nat → Nat → List Char → Option (List Json × List Char)
  | 0, _, _ => none
  | fuel + 1, depth, cs => do
    let (j, cs) ← value fuel depth cs
    match skipSpace cs with
    | ',' :: rest =>
      let r ← items fuel depth rest
      some (j :: r.1, r.2)
    | ']' :: rest => some ([j], rest)
    | _ => none

/-- the members of an object up to the closing brace -/
def members : Nat → Nat → List Char → Option (List (String × Json) × List Char)
  | 0, _, _ => none
  | fuel + 1, depth, cs => do
    match skipSpace cs with
    | '"' :: rest =>
      let (name, cs) ← stringBody rest
      match skipSpace cs with
      | ':' :: rest =>
        let (j, cs) ← value fuel depth rest
        match skipSpace cs with
        | ',' :: rest =>
          let r ← members fuel depth rest
          some ((String.ofList name, j) :: r.1, r.2)
        | '\x7d' :: rest => some ([(String.ofList name, j)], rest)
        | _ => none
      | _ => none
    | _ => none

end

end Reader

/-- the tree of a whole text -/
def read? (s : String) : Option Json :=
  let cs := s.toList
  match Reader.value (2 * cs.length + 2) 127 cs with
  | some (j, rest) => if Reader.skipSpace rest = [] then some j else none
  | none => none

end ValueSchema.Json
