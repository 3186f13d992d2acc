import ValueSchema.Leaf.Number
import ValueSchema.Leaf.Text
import ValueSchema.Proofs.Text.Numerals

/-!
Texts and numbers that become big integers.

A text stands for an integer if, without the white space around it, it is an optional sign and digits. It converts exactly
if that integer is in the range of big integers, so what is written for a big integer, as text or as JSON, gives it back.

A number converts if its exact value is such an integer, and to that integer, with one exception: the least big integer,
-2^127, is a number that is refused, because the magnitude is held against the limit of the integers above zero.

Results:
- `BigInt.ofText?_eq_some_iff`: the texts that stand for big integers.
- `Double.toInt?_eq_some_iff`: whole numbers by their exact values.
- `BigIntSchema.integer_texts_convert`: what schemas of big integers do with texts.
- `BigIntSchema.whole_numbers_convert`: and with numbers; `least_integer_refused` is the exception.
-/

namespace ValueSchema

open Text

/-! ## Texts of integers -/

namespace BigInt

theorem bigIntLimit_eq : bigIntLimit = 2 ^ 127 := by decide

/-- the integer that a text stands for, white space around it aside -/
def StandsFor (s : String) (n : Int) : Prop := ∃ body, StripsTo s.toList body ∧ IntegerText body n

/-- the integers in range are those that are held -/
theorem exists_toInt_eq_iff {n : Int} : (∃ b : BigInt, b.toInt = n) ↔ -2 ^ 127 ≤ n ∧ n ≤ 2 ^ 127 - 1 := by
  rw [← bigIntLimit_eq]
  constructor
  · rintro ⟨b, rfl⟩
    exact ⟨b.lower_le, Int.le_sub_one_of_lt b.lt_upper⟩
  · rintro ⟨hlower, hupper⟩
    exact ⟨⟨n, hlower, Int.lt_of_le_sub_one hupper⟩, rfl⟩

/-- a text stands for the integer that is read from it -/
theorem standsFor_iff {s : String} {n : Int} : StandsFor s n ↔ readInt? (trim s.toList) = some n := by
  rw [readInt?_eq_some_iff]
  constructor
  · rintro ⟨body, hbody, hn⟩
    rwa [trim_eq_iff.2 hbody]
  · exact fun hn => ⟨_, stripsTo_trim _, hn⟩

/-- **Texts of big integers** are an optional sign and digits, and each is read as the integer it writes. -/
theorem ofText?_eq_some_iff {s : String} {b : BigInt} : ofText? s = some b ↔ StandsFor s b.toInt := by
  rw [standsFor_iff, ofText?, Option.bind_eq_some_iff]
  constructor
  · rintro ⟨n, hn, hb⟩
    rwa [ofInt?_eq_some_iff.1 hb]
  · exact fun hn => ⟨b.toInt, hn, ofInt?_toInt b⟩

/-- what is written for an integer stands for it -/
theorem standsFor_intText (n : Int) : StandsFor (String.ofList (intText n)) n := by
  refine ⟨intText n, ?_, integerText_intText n⟩
  rw [String.toList_ofList]
  exact (integerText_intText n).stripsTo_self

end BigInt

/-! ## Numbers that are integers -/

namespace Double

/-- the exact value of a finite number -/
def rational? : Double → Option ℚ
  | .finite negative units _ => some ((signed negative units : ℚ) / (one : ℚ))
  | _ => none

theorem signed_mul (negative : Bool) (m k : Nat) : signed negative (m * k) = signed negative m * k := by
  cases negative with
  | false => exact Int.natCast_mul m k
  | true => exact (congrArg Neg.neg (Int.natCast_mul m k)).trans (Int.neg_mul _ _).symm

theorem natAbs_signed (negative : Bool) (m : Nat) : (signed negative m).natAbs = m := by
  cases negative with
  | false => exact Int.natAbs_natCast m
  | true => exact (Int.natAbs_neg _).trans (Int.natAbs_natCast m)

/-- a whole multiple of a unit is a whole quotient by it -/
theorem signed_eq_mul_iff {negative : Bool} {units k : Nat} {i : Int} (hk : 0 < k) :
    signed negative units = i * k ↔ units % k = 0 ∧ signed negative (units / k) = i := by
  have hcancel : (k : Int) ≠ 0 := Int.natCast_ne_zero.2 hk.ne'
  constructor
  · intro h
    have hunits : units = i.natAbs * k := by
      rw [← natAbs_signed negative units, h, Int.natAbs_mul, Int.natAbs_natCast]
    refine ⟨?_, ?_⟩
    · rw [hunits, Nat.mul_mod_left]
    · rw [hunits, signed_mul] at h
      rw [hunits, Nat.mul_div_cancel _ hk]
      exact Int.eq_of_mul_eq_mul_right hcancel h
  · rintro ⟨hmod, rfl⟩
    rw [← signed_mul, Nat.div_mul_cancel (Nat.dvd_of_mod_eq_zero hmod)]

/-- **Whole numbers** are the finite ones whose exact value is an integer. -/
theorem toInt?_eq_some_iff {x : Double} {i : Int} : x.toInt? = some i ↔ x.rational? = some (i : ℚ) := by
  cases x with
  | nan => exact iff_of_false nofun nofun
  | infinite negative => exact iff_of_false nofun nofun
  | finite negative units h =>
    have hunit : (one : ℚ) ≠ 0 := Nat.cast_ne_zero.2 one_pos.ne'
    simp only [toInt?, rational?, Option.ite_none_right_eq_some, Option.some.injEq]
    rw [← signed_eq_mul_iff one_pos, div_eq_iff hunit]
    exact_mod_cast Iff.rfl

end Double

/-! ## Schemas of big integers -/

namespace BigIntSchema

section Converting

variable {ctx : Context} {v : Value}

/-- a schema with conversions checks what a value converts to, if it does -/
theorem validate_coerced (checks : Checks BigIntTest) :
    validate ⟨checks, true⟩ ctx v = match v.toBigInt? with
      | some b => checks.run BigIntTest.failure ctx b (.bigint b)
      | none => ctx.notConverted "bigint" v checks.kindMessage := by
  cases v <;> rfl

/-- a value that converts to nothing is refused, whatever the checks -/
theorem validate_refused (h : ∀ b, v.toBigInt? ≠ some b) (checks : Checks BigIntTest) :
    validate ⟨checks, true⟩ ctx v = ctx.notConverted "bigint" v checks.kindMessage := by
  rw [validate_coerced, Option.eq_none_iff_forall_ne_some.2 h]

/-- with no checks, what a value converts to is all that is accepted -/
theorem converting_eq_ok_iff {w : Value} :
    converting.validate ctx v = .ok w ↔ ∃ b, v.toBigInt? = some b ∧ w = .bigint b := by
  rw [converting, validate_coerced]
  cases v.toBigInt? with
  | none => exact iff_of_false nofun (by rintro ⟨b, ⟨⟩, -⟩)
  | some b =>
    constructor
    · intro h
      cases h
      exact ⟨b, rfl, rfl⟩
    · rintro ⟨_, ⟨⟩, rfl⟩
      rfl

end Converting

/-! ### Texts -/

theorem toBigInt?_string {s : String} {b : BigInt} :
    (Value.string s).toBigInt? = some b ↔ BigInt.StandsFor s b.toInt := BigInt.ofText?_eq_some_iff

/-- **Integer text is converted exactly, over the whole range.** A text converts exactly if it stands for an integer from
-2^127 to 2^127 - 1, and then to that integer, on which the checks are run; any other text is refused as a conversion that
failed. So each big integer, at either limit too, comes back from the text it is converted to and from its JSON. -/
theorem integer_texts_convert (ctx : Context) :
    (∀ (checks : Checks BigIntTest) (s : String),
      (∀ b : BigInt, BigInt.StandsFor s b.toInt →
        validate ⟨checks, true⟩ ctx (.string s) = checks.run BigIntTest.failure ctx b (.bigint b)) ∧
      ((∀ n, BigInt.StandsFor s n → ¬ (-2 ^ 127 ≤ n ∧ n ≤ 2 ^ 127 - 1)) →
        validate ⟨checks, true⟩ ctx (.string s) = ctx.notConverted "bigint" (.string s) checks.kindMessage)) ∧
      (∀ s w, converting.validate ctx (.string s) = .ok w ↔ ∃ b : BigInt, BigInt.StandsFor s b.toInt ∧ w = .bigint b) ∧
      (∀ s, (∃ w, converting.validate ctx (.string s) = .ok w) ↔
        ∃ n, BigInt.StandsFor s n ∧ -2 ^ 127 ≤ n ∧ n ≤ 2 ^ 127 - 1) ∧
      ∀ b : BigInt,
        (∃ t, TextSchema.converting.validate ctx (.bigint b) = .ok (.string t) ∧
          converting.validate ctx (.string t) = .ok (.bigint b)) ∧
        converting.validate ctx (Value.ofJson (Value.bigint b).toJson) = .ok (.bigint b) := by
  have haccepted : ∀ s w, converting.validate ctx (.string s) = .ok w ↔
      ∃ b : BigInt, BigInt.StandsFor s b.toInt ∧ w = .bigint b := by
    intro s w
    rw [converting_eq_ok_iff]
    exact exists_congr fun b => by rw [toBigInt?_string]
  have hwritten : ∀ b : BigInt,
      converting.validate ctx (.string (String.ofList (intText b.toInt))) = .ok (.bigint b) :=
    fun b => (haccepted _ _).2 ⟨b, BigInt.standsFor_intText b.toInt, rfl⟩
  refine ⟨fun checks s => ⟨fun b hb => ?_, fun h => ?_⟩, haccepted, fun s => ?_, ?_⟩
  · rw [validate_coerced, toBigInt?_string.2 hb]
  · refine validate_refused (fun b hb => ?_) checks
    exact h b.toInt (toBigInt?_string.1 hb) (BigInt.exists_toInt_eq_iff.1 ⟨b, rfl⟩)
  · constructor
    · rintro ⟨w, hw⟩
      obtain ⟨b, hb, rfl⟩ := (haccepted s w).1 hw
      exact ⟨b.toInt, hb, BigInt.exists_toInt_eq_iff.1 ⟨b, rfl⟩⟩
    · rintro ⟨n, hn, hrange⟩
      obtain ⟨b, rfl⟩ := BigInt.exists_toInt_eq_iff.2 hrange
      exact ⟨.bigint b, (haccepted s _).2 ⟨b, hn, rfl⟩⟩
  · exact fun b => ⟨⟨_, rfl, hwritten b⟩, hwritten b⟩

/-- the least integer behind leading zeros, and the one below it, which is refused -/
theorem lower_limit_converts :
    BigInt.StandsFor " -00170141183460469231731687303715884105728\n" (-2 ^ 127) ∧
      converting.validate ⟨Catalog.english, .collect⟩ (.string " -00170141183460469231731687303715884105728\n") =
        .ok (.bigint ⟨-2 ^ 127, by decide, by decide⟩) ∧
      BigInt.StandsFor "-170141183460469231731687303715884105729" (-2 ^ 127 - 1) ∧
      converting.validate ⟨Catalog.english, .collect⟩ (.string "-170141183460469231731687303715884105729") =
        (⟨Catalog.english, .collect⟩ : Context).notConverted "bigint"
          (.string "-170141183460469231731687303715884105729") none := by
  obtain ⟨htexts, -⟩ := integer_texts_convert ⟨Catalog.english, .collect⟩
  have hleast : BigInt.StandsFor " -00170141183460469231731687303715884105728\n" (-2 ^ 127) :=
    BigInt.standsFor_iff.2 (by decide +kernel)
  have hbelow : BigInt.StandsFor "-170141183460469231731687303715884105729" (-2 ^ 127 - 1) :=
    BigInt.standsFor_iff.2 (by decide +kernel)
  refine ⟨hleast, ?_, hbelow, ?_⟩
  · exact (htexts .empty _).1 ⟨-2 ^ 127, by decide, by decide⟩ hleast
  · refine (htexts .empty _).2 fun n hn => ?_
    -- no other integer is read from the text
    have hread := (BigInt.standsFor_iff.1 hbelow).symm.trans (BigInt.standsFor_iff.1 hn)
    obtain rfl := Option.some.inj hread
    omega

/-! ### Numbers -/

/-- which numbers stand for big integers: those with an integer in range for their value, but for the least one -/
theorem toBigInt?_number {x : Double} {b : BigInt} :
    (Value.number x).toBigInt? = some b ↔ x.rational? = some (b.toInt : ℚ) ∧ b.toInt ≠ -2 ^ 127 := by
  have hmagnitude : (b.toInt.natAbs : Int) < bigIntLimit ↔ b.toInt ≠ -2 ^ 127 := by
    have hlower := b.lower_le
    have hupper := b.lt_upper
    rw [← BigInt.bigIntLimit_eq]
    omega
  rw [← Double.toInt?_eq_some_iff, ← hmagnitude]
  simp only [Value.toBigInt?, Option.bind_eq_some_iff, Option.ite_none_right_eq_some, BigInt.ofInt?_eq_some_iff]
  constructor
  · rintro ⟨i, hi, hlt, rfl⟩
    exact ⟨hi, hlt⟩
  · rintro ⟨hi, hlt⟩
    exact ⟨b.toInt, hi, hlt, rfl⟩

/-- **Whole numbers are converted exactly, all but the least.** With no checks, a number is accepted exactly if it is finite
and its exact value is an integer above -2^127 and at most 2^127 - 1, and the output is then that integer. Any other number
is refused as a conversion that failed. -/
theorem whole_numbers_convert (ctx : Context) (x : Double) :
    (∀ w, converting.validate ctx (.number x) = .ok w ↔
      ∃ b : BigInt, x.rational? = some (b.toInt : ℚ) ∧ b.toInt ≠ -2 ^ 127 ∧ w = .bigint b) ∧
      ((∃ w, converting.validate ctx (.number x) = .ok w) ↔
        ∃ n : Int, x.rational? = some (n : ℚ) ∧ -2 ^ 127 < n ∧ n ≤ 2 ^ 127 - 1) ∧
      ((∀ n : Int, x.rational? = some (n : ℚ) → ¬ (-2 ^ 127 < n ∧ n ≤ 2 ^ 127 - 1)) →
        converting.validate ctx (.number x) = ctx.notConverted "bigint" (.number x) none) := by
  have haccepted : ∀ w, converting.validate ctx (.number x) = .ok w ↔
      ∃ b : BigInt, x.rational? = some (b.toInt : ℚ) ∧ b.toInt ≠ -2 ^ 127 ∧ w = .bigint b := by
    intro w
    rw [converting_eq_ok_iff]
    exact exists_congr fun b => by rw [toBigInt?_number, and_assoc]
  have hrange : ∀ b : BigInt, b.toInt ≠ -2 ^ 127 → -2 ^ 127 < b.toInt ∧ b.toInt ≤ 2 ^ 127 - 1 := by
    intro b hleast
    obtain ⟨hlower, hupper⟩ := BigInt.exists_toInt_eq_iff.1 ⟨b, rfl⟩
    omega
  refine ⟨haccepted, ?_, fun h => ?_⟩
  · constructor
    · rintro ⟨w, hw⟩
      obtain ⟨b, hvalue, hleast, rfl⟩ := (haccepted w).1 hw
      exact ⟨b.toInt, hvalue, hrange b hleast⟩
    · rintro ⟨n, hvalue, hlower, hupper⟩
      obtain ⟨b, rfl⟩ := BigInt.exists_toInt_eq_iff.2 ⟨hlower.le, hupper⟩
      exact ⟨.bigint b, (haccepted _).2 ⟨b, hvalue, hlower.ne', rfl⟩⟩
  · refine validate_refused (fun b hb => ?_) .empty
    obtain ⟨hvalue, hleast⟩ := toBigInt?_number.1 hb
    exact h b.toInt hvalue (hrange b hleast)

/-- the number next to the least integer converts, and a number with a fraction does not -/
theorem second_least_number_converts :
    converting.validate ⟨Catalog.english, .collect⟩ (.number (.ofInt (-2 ^ 127 + 2 ^ 74))) =
        .ok (.bigint ⟨-2 ^ 127 + 2 ^ 74, by decide, by decide⟩) ∧
      converting.validate ⟨Catalog.english, .collect⟩ (.number (.ofRatio true 1 2)) =
        (⟨Catalog.english, .collect⟩ : Context).notConverted "bigint" (.number (.ofRatio true 1 2)) none := by
  constructor
  · obtain ⟨haccepted, -⟩ := whole_numbers_convert ⟨Catalog.english, .collect⟩ (.ofInt (-2 ^ 127 + 2 ^ 74))
    refine (haccepted _).2 ⟨⟨-2 ^ 127 + 2 ^ 74, by decide, by decide⟩, ?_, by decide, rfl⟩
    exact Double.toInt?_eq_some_iff.1 (by decide +kernel)
  · obtain ⟨-, -, hrefused⟩ := whole_numbers_convert ⟨Catalog.english, .collect⟩ (.ofRatio true 1 2)
    refine hrefused fun n hn => ?_
    have hfraction : (Double.ofRatio true 1 2).toInt? = none := by decide +kernel
    rw [← Double.toInt?_eq_some_iff, hfraction] at hn
    cases hn

/-- The least big integer is a number, and its text converts to it, but the number itself does not: its magnitude is not
below the limit, which is the first integer above the range and not the magnitude of the first below it. -/
theorem least_integer_refused :
    (Double.ofInt (-2 ^ 127)).rational? = some ((-2 ^ 127 : Int) : ℚ) ∧
      converting.validate ⟨Catalog.english, .collect⟩ (.number (.ofInt (-2 ^ 127))) =
        (⟨Catalog.english, .collect⟩ : Context).notConverted "bigint" (.number (.ofInt (-2 ^ 127))) none ∧
      converting.validate ⟨Catalog.english, .collect⟩ (.string "-170141183460469231731687303715884105728") =
        .ok (.bigint ⟨-2 ^ 127, by decide, by decide⟩) := by
  refine ⟨Double.toInt?_eq_some_iff.1 (by decide +kernel), ?_, ?_⟩
  · have hconvert : (Value.number (.ofInt (-2 ^ 127))).toBigInt? = none := by decide +kernel
    exact validate_refused (Option.eq_none_iff_forall_ne_some.1 hconvert) .empty
  · have hstands : BigInt.StandsFor "-170141183460469231731687303715884105728" (-2 ^ 127) :=
      BigInt.standsFor_iff.2 (by decide +kernel)
    exact converting_eq_ok_iff.2 ⟨⟨-2 ^ 127, by decide, by decide⟩, toBigInt?_string.2 hstands, rfl⟩

end BigIntSchema

end ValueSchema
