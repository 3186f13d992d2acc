import ValueSchema.Double.Basic
import ValueSchema.Text.Digits

/-!
Decimal numbers and the doubles nearest to them.

A decimal is a whole number of digits times a power of ten. Texts are read by one grammar: an optional sign, digits with
an optional point among or around them, an optional exponent.
-/

namespace ValueSchema

open Text

/-- the number digits × 10^exponent -/
structure Decimal where
  digits : Nat
  exponent : Int
  deriving DecidableEq

namespace Decimal

/-- an exponent mark with its digits, or nothing at all -/
def readExponent? : List Char → Option Int
  | [] => some 0
  | c :: rest =>
    if c = 'e' ∨ c = 'E' then readInt? rest else none

/-- an unsigned decimal: digits around an optional point, at least one, then an optional exponent -/
def read? (cs : List Char) : Option Decimal :=
  let whole := spanDigits cs
  let fraction := match whole.2 with
    | '.' :: rest => spanDigits rest
    | rest => ([], rest)
  if whole.1 = [] ∧ fraction.1 = [] then none
  else (readExponent? fraction.2).map fun e =>
    { digits := Nat.ofDigitChars 10 (whole.1 ++ fraction.1) 0, exponent := e - fraction.1.length }

end Decimal

namespace Double

/-- the number of the format nearest to a decimal; powers of ten far beyond the format are not computed -/
def ofDecimalIn (p : Precision) (negative : Bool) (d : Decimal) : Double :=
  let top := ((Nat.toDigits 10 d.digits).length : Int) + d.exponent
  if d.digits = 0 then zero negative
  else if 400 < top then .infinite negative
  else if top < -400 then zero negative
  else match d.exponent with
    | .ofNat k => ofUnitsIn p negative (d.digits * tenPow k * one) 1
    | .negSucc k => ofUnitsIn p negative (d.digits * one) (tenPow (k + 1))

/-- the double nearest to a decimal -/
def ofDecimal (negative : Bool) (d : Decimal) : Double := ofDecimalIn .double negative d

/-- names of the values without digits, in any case -/
def ofName? (negative : Bool) (cs : List Char) : Option Double :=
  let name := cs.map Char.toLower
  if name = "inf".toList ∨ name = "infinity".toList then some (.infinite negative)
  else if name = "nan".toList then some .nan
  else none

/-- a number of the format: an optional sign, then a decimal or a name -/
def readIn? (p : Precision) (cs : List Char) : Option Double :=
  let (negative, body) := readSign cs
  match Decimal.read? body with
  | some d => some (ofDecimalIn p negative d)
  | none => ofName? negative body

end Double

end ValueSchema
