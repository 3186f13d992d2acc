/-!
Digits and signs at the start of a text.

Texts are read as lists of characters. `Nat.toDigits 10` writes a whole number and `Nat.ofDigitChars 10` reads one back.
-/

namespace ValueSchema.Text

/-- the leading decimal digits and the rest -/
def spanDigits (cs : List Char) : List Char × List Char := (cs.takeWhile Char.isDigit, cs.dropWhile Char.isDigit)

/-- an optional leading sign: whether it is minus, and the rest -/
def readSign : List Char → Bool × List Char
  | '-' :: rest => (true, rest)
  | '+' :: rest => (false, rest)
  | cs => (false, cs)

/-- the number written by a text of one or more decimal digits -/
def readNat? (cs : List Char) : Option Nat :=
  if cs ≠ [] ∧ cs.all Char.isDigit then some (Nat.ofDigitChars 10 cs 0) else none

/-- the number written by an optional sign and one or more decimal digits -/
def readInt? (cs : List Char) : Option Int :=
  (readNat? (readSign cs).2).map fun n => if (readSign cs).1 then -n else n

/-- value of a digit in bases up to 36, letters of either case standing for ten and above -/
def digitValue? (radix : Nat) (c : Char) : Option Nat :=
  let n := c.toNat
  let v :=
    if 48 ≤ n ∧ n ≤ 57 then n - 48
    else if 97 ≤ n ∧ n ≤ 122 then n - 87
    else if 65 ≤ n ∧ n ≤ 90 then n - 55
    else radix
  if v < radix then some v else none

/-- the number written by one or more digits of a base -/
def readRadix? (radix : Nat) : List Char → Option Nat
  | [] => none
  | cs => cs.foldl (fun acc c => acc.bind fun n => (digitValue? radix c).map fun d => radix * n + d) (some 0)

/-- decimal digits, filled up with leading zeros to a least width -/
def padded (width n : Nat) : List Char :=
  let ds := Nat.toDigits 10 n
  List.replicate (width - ds.length) '0' ++ ds

/-- decimal text of an integer -/
def intText (n : Int) : List Char :=
  if n < 0 then '-' :: Nat.toDigits 10 n.natAbs else Nat.toDigits 10 n.natAbs

theorem readNat?_toDigits (n : Nat) : readNat? (Nat.toDigits 10 n) = some n := by
  have h : (Nat.toDigits 10 n).all Char.isDigit = true :=
    List.all_eq_true.2 fun c hc => Nat.isDigit_of_mem_toDigits (by decide) (by decide) hc
  simp only [readNat?, ne_eq, Nat.toDigits_ne_nil, not_false_eq_true, h, and_self, if_true,
    Nat.ofDigitChars_ten_toDigits]

theorem readSign_toDigits (n : Nat) : readSign (Nat.toDigits 10 n) = (false, Nat.toDigits 10 n) := by
  have h : ∀ c ∈ Nat.toDigits 10 n, c.isDigit = true :=
    fun c hc => Nat.isDigit_of_mem_toDigits (by decide) (by decide) hc
  match hd : Nat.toDigits 10 n with
  | [] => rfl
  | c :: rest =>
    have hc : c.isDigit = true := h c (by rw [hd]; exact List.mem_cons_self)
    unfold readSign
    split
    · simp_all [Char.isDigit]
    · simp_all [Char.isDigit]
    · rfl

/-- an integer's text reads back as the integer -/
theorem readInt?_intText (n : Int) : readInt? (intText n) = some n := by
  by_cases h : n < 0
  · have hs : readSign (intText n) = (true, Nat.toDigits 10 n.natAbs) := by simp [intText, h, readSign]
    rw [readInt?, hs, readNat?_toDigits]
    exact congrArg some (by simp only [if_true]; omega)
  · have hs : readSign (intText n) = (false, Nat.toDigits 10 n.natAbs) := by
      simp only [intText, h, if_false, readSign_toDigits]
    rw [readInt?, hs, readNat?_toDigits]
    exact congrArg some (by simp only [Bool.false_eq_true, if_false]; omega)

end ValueSchema.Text
