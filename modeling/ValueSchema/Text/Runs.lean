/-!
Sets of characters and maps between them, read from compact tables.

A table is a text of whole numbers in base 36, apart by spaces. A set lists alternately the length of a gap and the length
of a run of members; a map lists runs of characters that move by one distance.
-/

namespace ValueSchema.Text

/-- reader of numbers in base 36: those finished, last first, and the one being read -/
structure NumberReader where
  done : List Nat
  current : Option Nat

namespace NumberReader

def step (r : NumberReader) (c : Char) : NumberReader :=
  if c.isDigit then ⟨r.done, some (36 * r.current.getD 0 + (c.toNat - 48))⟩
  else if c.isLower then ⟨r.done, some (36 * r.current.getD 0 + (c.toNat - 87))⟩
  else ⟨r.current.toList ++ r.done, none⟩

def finish (r : NumberReader) : List Nat := (r.current.toList ++ r.done).reverse

end NumberReader

/-- the numbers of a table -/
def readNumbers (table : String) : List Nat := (table.toList.foldl NumberReader.step ⟨[], none⟩).finish

/-- inclusive ranges of code points -/
structure Ranges where
  items : Array (Nat × Nat)

namespace Ranges

/-- ranges from alternating lengths of gaps and runs, starting at a code point -/
def ofLengths : Nat → List Nat → List (Nat × Nat)
  | first, gap :: run :: rest => (first + gap, first + gap + run - 1) :: ofLengths (first + gap + run) rest
  | _, _ => []

def ofTable (table : String) : Ranges := ⟨(ofLengths 0 (readNumbers table)).toArray⟩

def contains (r : Ranges) (c : Char) : Bool := r.items.any fun p => p.1 ≤ c.toNat && c.toNat ≤ p.2

end Ranges

/-- `count` code points from `first`, `stride` apart, each moving by `distance` -/
structure Shift where
  first : Nat
  count : Nat
  stride : Nat
  distance : Int

namespace Shift

/-- distances alternate between the sides of zero: 0, -1, 1, -2, … -/
def readDistance (n : Nat) : Int := if n % 2 = 0 then (n / 2 : Nat) else -((n / 2 : Nat) + 1 : Int)

def ofNumbers : List Nat → List Shift
  | first :: count :: stride :: d :: rest => ⟨first, count, stride, readDistance d⟩ :: ofNumbers rest
  | _ => []

def ofTable (table : String) : Array Shift := (ofNumbers (readNumbers table)).toArray

/-- whether a code point moves -/
def covers (s : Shift) (n : Nat) : Bool :=
  s.first ≤ n && n < s.first + s.count * s.stride && (n - s.first) % s.stride == 0

/-- where a character goes; one that no run covers stays -/
def apply (shifts : Array Shift) (c : Char) : Char :=
  match shifts.find? (·.covers c.toNat) with
  | some s => Char.ofNat (Int.toNat ((c.toNat : Int) + s.distance))
  | none => c

/-- the characters that go to a given one -/
def sources (shifts : Array Shift) (c : Char) : List Char :=
  shifts.toList.filterMap fun s =>
    let n := Int.toNat ((c.toNat : Int) - s.distance)
    if s.covers n then some (Char.ofNat n) else none

end Shift

end ValueSchema.Text
