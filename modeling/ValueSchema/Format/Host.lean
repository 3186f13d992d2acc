import ValueSchema.Format.Address
import ValueSchema.Power
import ValueSchema.Text.Bidi
import ValueSchema.Text.Casing
import ValueSchema.Text.CategoryTable
import ValueSchema.Text.HostTable
import ValueSchema.Text.Punycode

/-!
Hosts of URLs: names, addresses and, for schemes that give them no meaning, opaque texts.

Percent escapes are decoded before a name is read, and characters that stand for others are replaced. A name whose last part
is a number must be an address; numbers are decimal, octal behind `0` or hexadecimal behind `0x`, and the last one fills all
octets that are left. Which letters join is not looked at, and the two signs that join or part letters are refused.
-/

namespace ValueSchema.Format

open Text

/-- whether ASCII alone is used -/
def isAsciiText (cs : List Char) : Bool := cs.all fun c => c.toNat < 128

/-- ASCII characters that no name holds -/
def isRefusedInName (c : Char) : Bool := c.toNat ≤ 32 || c.toNat == 127 || "%#/:<>?@[\\]^|".toList.contains c

/-- characters that no opaque host holds -/
def isRefusedInOpaque (c : Char) : Bool :=
  c.toNat == 0 || c = '\t' || c = '\n' || c = '\r' || " #/:<>?@[\\]^|".toList.contains c

/-- the bytes of a text with percent escapes decoded; a percent sign without two digits stays -/
def percentDecoded : List Char → List UInt8
  | [] => []
  | '%' :: a :: b :: rest =>
    match digitValue? 16 a, digitValue? 16 b with
    | some high, some low => UInt8.ofNat (16 * high + low) :: percentDecoded rest
    | _, _ => 37 :: percentDecoded (a :: b :: rest)
  | c :: rest => (String.singleton c).toUTF8.toList ++ percentDecoded rest

/-- what a character contributes to a name -/
def nameChar? (c : Char) : Option (List Char) :=
  if c.toNat < 128 then if isRefusedInName c then none else some [c.toLower]
  else if unhostable.contains c then none
  else if unheard.contains c then some []
  else some [Shift.apply plainShifts c]

/-- a name with each character replaced by what it contributes -/
def plainName? (cs : List Char) : Option (List Char) :=
  cs.foldr (fun c acc => (nameChar? c).bind fun a => acc.map (a ++ ·)) (some [])

/-- whether a part begins with a mark, which would join the point before it -/
def beginsWithMark : List Char → Bool
  | c :: _ => 128 ≤ c.toNat && isOfCategory ["mn", "mc", "me"] c
  | [] => false

/-- a character that contributes itself -/
def isPlain (c : Char) : Bool := nameChar? c == some [c] && toLower [c] == [c]

/-- the text of one part of a name; an ASCII spelling must spell a part that needs it -/
def labelText? (cs : List Char) : Option (List Char) :=
  match dropHead? "xn--".toList cs with
  | none => if beginsWithMark cs then none else some cs
  | some spelling =>
    if isAsciiText spelling then
      (Punycode.decode? spelling).filter fun text => !isAsciiText text && text.all isPlain && !beginsWithMark text
    else none

/-- a number in one of three bases -/
def numberPart? : List Char → Option Nat
  | '0' :: 'x' :: rest => if rest = [] then some 0 else readRadix? 16 rest
  | '0' :: c :: rest => readRadix? 8 (c :: rest)
  | cs => readRadix? 10 cs

/-- without the part behind a last point, if that is empty -/
def withoutRoot (parts : List (List Char)) : List (List Char) :=
  match parts.reverse with
  | [] :: rest => rest.reverse
  | _ => parts

/-- whether the last part is a number or made of digits -/
def endsInNumber (parts : List (List Char)) : Bool :=
  match (withoutRoot parts).getLast? with
  | some part => part ≠ [] && part.all Char.isDigit || (numberPart? part).isSome
  | none => false

/-- up to four numbers: octets, and a last one that fits what is left of 32 bits -/
def isNumericAddress (parts : List (List Char)) : Bool :=
  let parts := withoutRoot parts
  let numbers := parts.filterMap numberPart?
  parts.length ≤ 4 && numbers.length == parts.length &&
    match numbers.reverse with
    | last :: octets => octets.all (· ≤ 255) && last < twoPow (32 - 8 * octets.length)
    | [] => false

/-- an address in brackets -/
def isBracketed (cs : List Char) : Bool :=
  match cs with
  | '[' :: rest => rest.getLast? == some ']' && isIpv6 rest.dropLast
  | _ => false

/-- a name or an address -/
def isHost (cs : List Char) : Bool :=
  if cs.head? = some '[' then isBracketed cs
  else match (String.fromUTF8? ⟨(percentDecoded cs).toArray⟩).bind fun text => plainName? text.toList with
    | none => false
    | some name =>
      let parts := partsBy (· == '.') name
      name ≠ [] && (parts.mapM labelText?).any keepDirections && (!endsInNumber parts || isNumericAddress parts)

/-- an address in brackets or a text without signs of other parts of URLs -/
def isOpaqueHost (cs : List Char) : Bool :=
  if cs.head? = some '[' then isBracketed cs else !cs.any isRefusedInOpaque

end ValueSchema.Format
