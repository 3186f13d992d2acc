import ValueSchema.Double.Shortest

/-!
Texts of doubles: shortest digits, written out in full for people and schemas, and with a point or an exponent in JSON.
-/

namespace ValueSchema

open Text

namespace Decimal

/-- number of digits before the point -/
def pointPlace (d : Decimal) : Int := (Nat.toDigits 10 d.digits).length + d.exponent

/-- all digits, zeros filled in on either side of the point, no exponent -/
def plainText (d : Decimal) : List Char :=
  let ds := Nat.toDigits 10 d.digits
  match d.exponent with
  | .ofNat e => ds ++ List.replicate e '0'
  | .negSucc e =>
    let places := e + 1
    if places < ds.length then ds.take (ds.length - places) ++ '.' :: ds.drop (ds.length - places)
    else "0.".toList ++ List.replicate (places - ds.length) '0' ++ ds

/-- one digit, a point before the others, a signed exponent -/
def scientificText (d : Decimal) : List Char :=
  let ds := Nat.toDigits 10 d.digits
  let x := d.pointPlace - 1
  let mantissa := match ds.tail with
    | [] => ds
    | rest => ds.take 1 ++ '.' :: rest
  mantissa ++ 'e' :: (if x < 0 then '-' else '+') :: Nat.toDigits 10 x.natAbs

/-- number of digits after the point -/
def places (d : Decimal) : Nat := (-d.exponent).toNat

end Decimal

namespace Double

/-- puts a minus sign in front -/
def signText (negative : Bool) (cs : List Char) : List Char := if negative then '-' :: cs else cs

/-- full decimal text; a tie between two shortest decimals goes up, negative zero keeps its sign -/
def plainText : Double → String
  | .nan => "NaN"
  | .infinite negative => String.ofList (signText negative "Infinity".toList)
  | .finite negative units _ =>
    String.ofList (signText negative (if units = 0 then ['0'] else (shortest .up units).plainText))

/-- full decimal text with one spelling of zero -/
def text (x : Double) : String := if x.isZero then "0" else x.plainText

/-- text as a JSON number: a point always, an exponent outside 10^-5 … 10^15, a tie goes to the even digit; none for the
values that JSON has no number for -/
def jsonText? : Double → Option String
  | .finite negative units _ =>
    let d := shortest .even units
    let body :=
      if units = 0 then "0.0".toList
      else if -5 ≤ d.pointPlace - 1 ∧ d.pointPlace - 1 ≤ 15 then
        if 0 ≤ d.exponent then d.plainText ++ ".0".toList else d.plainText
      else d.scientificText
    some (String.ofList (signText negative body))
  | _ => none

/-- digits after the point of the full text -/
def decimalPlaces : Double → Nat
  | .finite _ units _ => if units = 0 then 0 else (shortest .up units).places
  | _ => 0

/-- remainder on whole numbers: both sides are scaled by the power of ten that clears their decimals, at most 10^15, and
rounded, so that steps such as 0.1 divide what they should -/
def decimalRem (value step : Double) : Double :=
  let scale := ofNat (tenPow (min (max value.decimalPlaces step.decimalPlaces) 15))
  ((value.mul scale).round).rem ((step.mul scale).round)

end Double

end ValueSchema
