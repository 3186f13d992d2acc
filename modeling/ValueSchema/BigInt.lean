/-!
Integers of 128 bits, which hold exactly what doubles would round.
-/

namespace ValueSchema

/-- 2^127, the first integer above the range -/
def bigIntLimit : Int := 170141183460469231731687303715884105728

/-- an integer from -2^127 to 2^127 - 1 -/
structure BigInt where
  toInt : Int
  lower_le : -bigIntLimit ≤ toInt
  lt_upper : toInt < bigIntLimit
  deriving DecidableEq

namespace BigInt

/-- the big integer of an integer in range -/
def ofInt? (n : Int) : Option BigInt :=
  if h : -bigIntLimit ≤ n ∧ n < bigIntLimit then some ⟨n, h.1, h.2⟩ else none

def zero : BigInt := ⟨0, by decide, by decide⟩

def one : BigInt := ⟨1, by decide, by decide⟩

theorem ofInt?_toInt (n : BigInt) : ofInt? n.toInt = some n := by
  simp only [ofInt?, n.lower_le, n.lt_upper, and_self, dite_true]

theorem ofInt?_eq_some_iff {n : Int} {b : BigInt} : ofInt? n = some b ↔ b.toInt = n := by
  constructor
  · intro h
    simp only [ofInt?] at h
    split at h
    · injection h with h
      rw [← h]
    · contradiction
  · intro h
    rw [← h, ofInt?_toInt]

end BigInt

end ValueSchema
