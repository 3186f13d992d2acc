import ValueSchema.Pattern.Regex

/-!
Mail addresses and universally unique identifiers.
-/

namespace ValueSchema.Format

open Regex

/-- a character of a class -/
def one (p : Char → Bool) : Regex CharSet PlaceTest := .char p

/-- an expression for whole texts -/
def whole (r : Regex CharSet PlaceTest) : Regex CharSet PlaceTest :=
  .seqs [.look fun before _ => before.isNone, r, .look fun _ after => after.isNone]

def isAlphanumOrHyphen (c : Char) : Bool := c.isAlphanum || c = '-'

def isMailboxChar (c : Char) : Bool := c.isAlphanum || ".!#$%&'*+/=?^_\x60\x7b|\x7d~-".toList.contains c

def isHexDigit (c : Char) : Bool := c.isDigit || ('a' ≤ c && c ≤ 'f') || ('A' ≤ c && c ≤ 'F')

/-- part of a domain: 1 to 63 letters, digits and hyphens, without a hyphen at either end -/
def domainLabel : Regex CharSet PlaceTest :=
  .seqs [one Char.isAlphanum,
    Regex.opt (.seqs [.repeated (one isAlphanumOrHyphen) 0 (some 61), one Char.isAlphanum])]

/-- a mailbox at a domain of two or more parts -/
def emailExpr : Regex CharSet PlaceTest :=
  whole (.seqs [Regex.some (one isMailboxChar), one (· == '@'), domainLabel,
    Regex.some (.seqs [one (· == '.'), domainLabel])])

/-- groups of 8, 4, 4, 4 and 12 hexadecimal digits -/
def uuidExpr : Regex CharSet PlaceTest :=
  let digits (n : Nat) : Regex CharSet PlaceTest := (one isHexDigit).times n
  let hyphen := one (· == '-')
  whole (.seqs [digits 8, hyphen, digits 4, hyphen, digits 4, hyphen, digits 4, hyphen, digits 12])

def isEmail (cs : List Char) : Bool := emailExpr.foundIn cs

def isUuid (cs : List Char) : Bool := uuidExpr.foundIn cs

end ValueSchema.Format
