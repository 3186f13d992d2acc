/-!
Regular expressions and where they match.

A set of places in a text is one number: bit `i` stands for the place before character `i`. Matching carries such sets
through the expression, so a search costs no more than the expression's size times the length of the text squared, whatever
the expression is.
-/

namespace ValueSchema

/-- a regular expression over sets of characters `α` and conditions on places `β` -/
inductive Regex (α β : Type) where
  | empty
  | char (set : α)
  /-- matches nothing, in the right place -/
  | look (place : β)
  | seq (first second : Regex α β)
  | either (first second : Regex α β)
  /-- the body from `least` to `most` times, without end if that is missing -/
  | repeated (body : Regex α β) (least : Nat) (most : Option Nat)

/-- a set of characters -/
abbrev CharSet := Char → Bool

/-- a condition on the characters before and after a place, which are missing at the ends of the text -/
abbrev PlaceTest := Option Char → Option Char → Bool

namespace Regex

variable {α β γ δ : Type}

def map (f : α → γ) (g : β → δ) : Regex α β → Regex γ δ
  | .empty => .empty
  | .char set => .char (f set)
  | .look place => .look (g place)
  | .seq a b => .seq (a.map f g) (b.map f g)
  | .either a b => .either (a.map f g) (b.map f g)
  | .repeated body least most => .repeated (body.map f g) least most

def seqs : List (Regex α β) → Regex α β
  | [] => .empty
  | [r] => r
  | r :: rest => .seq r (seqs rest)

def eithers : Regex α β → List (Regex α β) → Regex α β
  | r, [] => r
  | r, next :: rest => .either r (eithers next rest)

def some (r : Regex α β) : Regex α β := .repeated r 1 none

def opt (r : Regex α β) : Regex α β := .repeated r 0 (.some 1)

def times (r : Regex α β) (n : Nat) : Regex α β := .repeated r n (.some n)

/-- the number whose bits are the given ones, the lowest first -/
def bits : List Bool → Nat
  | [] => 0
  | b :: rest => (if b then 1 else 0) + 2 * bits rest

/-- the places whose next character is in a set -/
def charPlaces (text : List Char) (set : CharSet) : Nat := bits (text.map set)

/-- the answers of a condition place by place, given the character before the first -/
def lookFrom (test : PlaceTest) : Option Char → List Char → List Bool
  | before, [] => [test before none]
  | before, c :: rest => test before (.some c) :: lookFrom test (.some c) rest

/-- the places that fulfil a condition -/
def lookPlaces (text : List Char) (test : PlaceTest) : Nat := bits (lookFrom test none text)

/-- `n` steps from a set of places; nothing is reached from none -/
def advance (step : Nat → Nat) : Nat → Nat → Nat
  | 0, places => places
  | n + 1, places => if places = 0 then 0 else advance step n (step places)

/-- the places reached in at most `n` steps: those passed, and those reached last -/
def spread (step : Nat → Nat) : Nat → Nat → Nat → Nat
  | 0, passed, _ => passed
  | n + 1, passed, last =>
    let next := step last
    if Nat.lor passed next = passed then passed else spread step n (Nat.lor passed next) next

/-- the places where a match ends that starts in one of some places, for a text of a given length

More repetitions than the text has places reach nothing new. -/
def ends (length : Nat) : Regex Nat Nat → Nat → Nat
  | .empty, places => places
  | .char set, places => 2 * Nat.land places set
  | .look allowed, places => Nat.land places allowed
  | .seq a b, places => b.ends length (a.ends length places)
  | .either a b, places => Nat.lor (a.ends length places) (b.ends length places)
  | .repeated body least most, places =>
    let start := advance (body.ends length) (min least (length + 1)) places
    let more := match most with
      | .some n => min (n - least) (length + 1)
      | none => length + 1
    spread (body.ends length) more start start

/-- whether an expression matches some part of a text -/
def foundIn (r : Regex CharSet PlaceTest) (text : List Char) : Bool :=
  let length := text.length
  (r.map (charPlaces text) (lookPlaces text)).ends length (bits (List.replicate (length + 1) true)) != 0

end Regex

end ValueSchema
