import ValueSchema.Text.Digits
import ValueSchema.Text.Parts

/-!
Addresses of the Internet protocol, versions 4 and 6.
-/

namespace ValueSchema.Format

open Text

/-- a number up to 255 in one to three digits without leading zeros -/
def isOctet (cs : List Char) : Bool :=
  match cs with
  | ['0'] => true
  | '0' :: _ => false
  | _ => (readNat? cs).any (· ≤ 255)

/-- four octets with points between them -/
def isIpv4 (cs : List Char) : Bool :=
  let parts := partsBy (· == '.') cs
  parts.length == 4 && parts.all isOctet

/-- one to four hexadecimal digits -/
def isGroup (cs : List Char) : Bool := 1 ≤ cs.length && cs.length ≤ 4 && cs.all fun c => (digitValue? 16 c).isSome

/-- how many groups stand between colons; the last two may be written as an address of version 4 -/
def groupCount? (mayEndInIpv4 : Bool) : List (List Char) → Option Nat
  | [] => some 0
  | [part] => if isGroup part then some 1 else if mayEndInIpv4 && isIpv4 part then some 2 else none
  | part :: rest => if isGroup part then (groupCount? mayEndInIpv4 rest).map (· + 1) else none

/-- how many groups a text between double colons has, which may be empty -/
def sideCount? (mayEndInIpv4 : Bool) (cs : List Char) : Option Nat :=
  if cs = [] then some 0 else groupCount? mayEndInIpv4 (partsBy (· == ':') cs)

/-- eight groups, or fewer around a double colon that stands for at least one -/
def isIpv6 (cs : List Char) : Bool :=
  match splitAt? [':', ':'] cs with
  | none => groupCount? true (partsBy (· == ':') cs) == some 8
  | some (before, after) =>
    match sideCount? false before, sideCount? true after with
    | some m, some n => m + n ≤ 7
    | _, _ => false

end ValueSchema.Format
