import ValueSchema.Text.Parts

/-!
Punycode: ASCII spellings of texts with other characters.

The ASCII characters come first, a hyphen behind them. The others follow in the order of their codes, each as the distance
that an insertion point has to move through all codes and places, written in digits of base 36 whose weights adapt.
-/

namespace ValueSchema.Text.Punycode

/-- `a` to `z` are the digits 0 to 25 and `0` to `9` those up to 35 -/
def digit? (c : Char) : Option Nat :=
  if c.isLower then some (c.toNat - 97)
  else if c.isUpper then some (c.toNat - 65)
  else if c.isDigit then some (c.toNat - 22)
  else none

/-- the digit at a position is the last one of its number if it is below this -/
def threshold (position bias : Nat) : Nat := max 1 (min 26 (position - bias))

/-- divides by 35 until at most 455 is left, counting the positions -/
def shrink : Nat → Nat → Nat → Nat × Nat
  | 0, delta, positions => (delta, positions)
  | n + 1, delta, positions => if 455 < delta then shrink n (delta / 35) (positions + 36) else (delta, positions)

/-- the bias after a distance, for a text that has grown to a length -/
def adapt (distance length : Nat) (isFirst : Bool) : Nat :=
  let halved := if isFirst then distance / 700 else distance / 2
  let (delta, positions) := shrink 40 (halved + halved / length) 0
  positions + 36 * delta / (delta + 38)

structure Decoder where
  /-- characters so far -/
  text : List Char
  /-- code of the next character, less the turns still to come -/
  code : Nat
  /-- place of the next insertion, with the turns still to come -/
  place : Nat
  bias : Nat
  /-- the place where the number being read started, and the weight and position of its next digit -/
  start : Nat
  weight : Nat
  position : Nat

namespace Decoder

def init (text : List Char) : Decoder := ⟨text, 128, 0, 72, 0, 1, 36⟩

/-- whether no number is left unfinished -/
def isComplete (d : Decoder) : Bool := d.position == 36

def step? (d : Decoder) (c : Char) : Option Decoder :=
  (digit? c).bind fun digit =>
    let place := d.place + digit * d.weight
    let limit := threshold d.position d.bias
    if digit < limit then
      let length := d.text.length + 1
      let code := d.code + place / length
      if code.isValidChar then
        let at0 := place % length
        some
          { text := d.text.take at0 ++ Char.ofNat code :: d.text.drop at0
            code := code
            place := at0 + 1
            bias := adapt (place - d.start) length (d.start == 0)
            start := at0 + 1
            weight := 1
            position := 36 }
      else none
    else some { d with place := place, weight := d.weight * (36 - limit), position := d.position + 36 }

end Decoder

/-- the characters before the last hyphen and those after it -/
def splitLast (cs : List Char) : List Char × List Char :=
  let tail := (cs.reverse.takeWhile (· ≠ '-')).reverse
  (cs.take (cs.length - tail.length - 1), tail)

/-- the text of a spelling -/
def decode? (cs : List Char) : Option (List Char) :=
  let (text, digits) := splitLast cs
  (digits.foldl (fun d c => d.bind (·.step? c)) (some (Decoder.init text))).bind fun d =>
    if d.isComplete then some d.text else none

end ValueSchema.Text.Punycode
