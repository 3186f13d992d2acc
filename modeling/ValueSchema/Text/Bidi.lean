import ValueSchema.Text.CategoryTable

/-!
The direction of texts: which characters run from left to right, which from right to left, and which go along with others.

A name whose parts run in both directions could be shown in an order in which it is not read. So if any part has characters
that run from right to left, each part has to keep to one direction from a first letter on.
-/

namespace ValueSchema.Text

/-- how a character takes part in the direction of a text -/
inductive BidiClass where
  | left
  | right
  /-- numbers of right-to-left scripts -/
  | arabicNumber
  | europeanNumber
  /-- marks on the character before them -/
  | mark
  | neutral
  deriving DecidableEq

/-- letters that run from right to left -/
def rightTable : String :=
  "14u 1 1 1 2 1 2 1 9 11 j 1 2 1 1 1 d 1c y 3 1 2t f 2 7 2 a n 1 u t 2h b 1m 9 2 4 1 3 o 4 1 9 1 3 1 7 15
  5 1d h 16 4tn 4 171g 1 1 a 1 es i 3c 14 d 38 3w 1s3 7w 4 69 f 12 a 4l 6 23 a dg 9o 16 3 5 26 1y b 1d 4
  35 16o9 5s 1c 1w 7 12p"

def rightLetters : Ranges := Ranges.ofTable rightTable

def arabicNumberTable : String :=
  "19c a 1 2 1fwj 9b"

def arabicNumbers : Ranges := Ranges.ofTable arabicNumberTable

/-- numbers beyond ASCII -/
def europeanNumberTable : String :=
  "4y 2 5 1 2 3 181 a 512 1 3 6 6 a 5i g 15 1 k6 14 2q 1 2na f 29 f 14cw a qv r 161e 1e 4xt a 25h a"

def europeanNumbers : Ranges := Ranges.ofTable europeanNumberTable

/-- signs beyond ASCII without a direction -/
def neutralTable : String :=
  "4h 9 1 7 4 2 3 1 3 1 n 1 v 1 ch 2 7 e 2 e 5 9 1 h 38 2 8 1 8 1 32 1 b7 6 3a 2 1 2 1 1 1 2 2i 1 37 1 a 1
  7g 4 e0 2 7 1 6t 1 75 8 3h 7 cg 1 6y 4 uq a 2u 1 ii 2 8u 1 k r 8l 6 48 y 167 1 r 2i l 5 b 5 h 8 1 o 1v 1
  3 1 b 1 2 2 5 2 3 1 1 1 1 1 1 1 4 1 b 1 5 5 5 4 1o bw 1x q 1 51 4g ch 1 9f 74 lc 6d 6 e 7 74 4f 1 2b 7i
  4 3 p f 1 5 2 5 3 2o 1 2i 1 5g 10 5i4 1s h3k 1j 92 3 2r 1 a 2 3k y 2u 1 4f 4 c 2 1m 4 ky 2 fr1 1 es i 3j
  1 19 3 g 9 o 1l 45 g c 3 x 2 q b 3e f 7m 1 1q 25 3 h 1ha 1 ex 7 102 k 16i d 1uw t fsg 1 f5p 4 479 2h 3 1
  56 2f oa 1 p 1 v 1 p 1 v 1 p 1 v 1 p 1 v 1 p 1 27v 1 2cw ee l 5 v 1 1p 3 1p 1 4y 1uz"

def neutralSigns : Ranges := Ranges.ofTable neutralTable

def bidiClass (c : Char) : BidiClass :=
  if c.toNat < 128 then if c.isAlpha then .left else if c.isDigit then .europeanNumber else .neutral
  else if rightLetters.contains c then .right
  else if arabicNumbers.contains c then .arabicNumber
  else if europeanNumbers.contains c then .europeanNumber
  else if isOfCategory ["mn", "me"] c then .mark
  else if neutralSigns.contains c then .neutral
  else .left

/-- whether a part of a name keeps to the direction of its first letter; marks at the end aside, the last character is a
letter of this direction or a number, and a part from right to left has numbers of one kind only -/
def keepsDirection : List BidiClass → Bool
  | [] => true
  | first :: rest =>
    let inner := (rest.reverse.dropWhile (· = .mark)).reverse
    match first with
    | .left =>
      inner.all (fun k => k ≠ .right && k ≠ .arabicNumber) &&
        inner.getLast?.all fun k => k = .left || k = .europeanNumber
    | .right =>
      inner.all (· ≠ .left) && inner.getLast?.all (fun k => k = .right || k = .arabicNumber || k = .europeanNumber) &&
        !(inner.contains .arabicNumber && inner.contains .europeanNumber)
    | _ => false

/-- whether the parts of a name keep their directions, which matters only where one runs from right to left -/
def keepDirections (parts : List (List Char)) : Bool :=
  let classes := parts.map (·.map bidiClass)
  !classes.any (·.any fun k => k = .right || k = .arabicNumber) || classes.all keepsDirection

end ValueSchema.Text
