import ValueSchema.Proofs.Leaf.Reading
import ValueSchema.Proofs.Text.Numerals

/-!
Texts that become numbers.

A text stands for a number if, without the white space around it, it is infinity with an optional sign, digits behind the
mark of a base, or a decimal with an optional sign. A schema of numbers that converts takes exactly these texts for
numbers; every other text is a conversion that failed, and none is not-a-number.

Results:
- `ofText?_eq_some_iff`: the texts that stand for numbers are those of the grammar.
- `number_texts_by_grammar`: what schemas of numbers do with texts.
-/

namespace ValueSchema

open Text

namespace Double

/-! ## Texts of numbers -/

/-- the mark behind a zero that announces a base -/
inductive RadixMark : Char → Nat → Prop
  | hexadecimal {c : Char} : c = 'x' ∨ c = 'X' → RadixMark c 16
  | octal {c : Char} : c = 'o' ∨ c = 'O' → RadixMark c 8
  | binary {c : Char} : c = 'b' ∨ c = 'B' → RadixMark c 2

/-- the texts of numbers: infinity and decimals with an optional sign, digits of another base below 2^64 without one -/
inductive NumberText : List Char → Double → Prop
  | infinity {sign : List Char} {minus : Bool} : SignText sign minus →
    NumberText (sign ++ "Infinity".toList) (.infinite minus)
  | based {mark : Char} {radix n : Nat} {digits : List Char} : RadixMark mark radix → RadixText radix digits n →
    n < 2 ^ 64 → NumberText ('0' :: mark :: digits) (.ofNat n)
  | decimal {sign cs : List Char} {minus : Bool} {d : Decimal} : SignText sign minus → Decimal.DecimalText cs d →
    NumberText (sign ++ cs) (.ofDecimal minus d)

/-- the number that a text stands for, white space around it aside -/
def StandsFor (s : String) (x : Double) : Prop := ∃ body, StripsTo s.toList body ∧ NumberText body x

theorem RadixMark.radix_le {c : Char} {radix : Nat} (h : RadixMark c radix) : radix ≤ 16 := by
  cases h with
  | hexadecimal => decide
  | octal => decide
  | binary => decide

theorem radixPrefix?_eq_some_iff {cs digits : List Char} {radix : Nat} :
    radixPrefix? cs = some (radix, digits) ↔ ∃ mark, RadixMark mark radix ∧ cs = '0' :: mark :: digits := by
  constructor
  · intro h
    unfold radixPrefix? at h
    split at h
    · split_ifs at h with hx ho hb
      · cases h
        exact ⟨_, .hexadecimal hx, rfl⟩
      · cases h
        exact ⟨_, .octal ho, rfl⟩
      · cases h
        exact ⟨_, .binary hb, rfl⟩
    · cases h
  · rintro ⟨mark, hmark, rfl⟩
    cases hmark with
    | hexadecimal h => rcases h with rfl | rfl <;> rfl
    | octal h => rcases h with rfl | rfl <;> rfl
    | binary h => rcases h with rfl | rfl <;> rfl

/-! ## Reading them -/

/-- what a text stands for, by what follows its sign -/
theorem ofText?_eq {s : String} {cs body : List Char} {minus : Bool} (htrim : trim s.toList = cs)
    (hsign : readSign cs = (minus, body)) :
    ofText? s =
      if body = "Infinity".toList then some (.infinite minus)
      else match radixPrefix? body with
        | some (radix, digits) =>
          if body ≠ cs then none
          else (readRadix? radix digits).bind fun n => if n < 2 ^ 64 then some (.ofNat n) else none
        | none => (Decimal.read? body).map (.ofDecimal minus) := by
  simp only [ofText?, htrim, hsign]
  rfl

/-- a decimal is neither infinity nor marked with a base: no letter in either stands in a decimal -/
theorem not_marked_of_decimalText {cs : List Char} {d : Decimal} (h : Decimal.DecimalText cs d) :
    cs ≠ "Infinity".toList ∧ radixPrefix? cs = none := by
  constructor
  · rintro rfl
    rcases h.mem 'I' (by decide) with hdigit | hother
    · exact absurd hdigit (by decide)
    · exact absurd hother (by decide)
  · cases hradix : radixPrefix? cs with
    | none => rfl
    | some marked =>
      obtain ⟨radix, digits⟩ := marked
      obtain ⟨mark, hmark, rfl⟩ := radixPrefix?_eq_some_iff.1 hradix
      have hletter : ¬ (mark.isDigit = true ∨ mark ∈ ['.', 'e', 'E', '+', '-']) := by
        cases hmark with
        | hexadecimal h => rcases h with rfl | rfl <;> decide
        | octal h => rcases h with rfl | rfl <;> decide
        | binary h => rcases h with rfl | rfl <;> decide
      exact absurd (h.mem mark (by simp)) hletter

theorem numberText_of_ofText? {s : String} {x : Double} (h : ofText? s = some x) : NumberText (trim s.toList) x := by
  obtain ⟨sign, minus, body, hread, hsign, hcs⟩ := exists_readSign (trim s.toList)
  rw [ofText?_eq rfl hread] at h
  by_cases hinfinity : body = "Infinity".toList
  · rw [if_pos hinfinity] at h
    cases h
    rw [hcs, hinfinity]
    exact .infinity hsign
  · rw [if_neg hinfinity] at h
    cases hradix : radixPrefix? body with
    | some marked =>
      obtain ⟨radix, digits⟩ := marked
      obtain ⟨mark, hmark, hbody⟩ := radixPrefix?_eq_some_iff.1 hradix
      simp only [hradix, ne_eq, ite_not, Option.ite_none_right_eq_some] at h
      obtain ⟨hunsigned, hvalue⟩ := h
      obtain ⟨n, hn, hlimit⟩ := Option.bind_eq_some_iff.1 hvalue
      split_ifs at hlimit with hlt
      rw [← Option.some.inj hlimit, ← hunsigned, hbody]
      exact .based hmark ((readRadix?_eq_some_iff hmark.radix_le).1 hn) hlt
    | none =>
      rw [hradix] at h
      obtain ⟨d, hd, rfl⟩ := Option.map_eq_some_iff.1 h
      rw [hcs]
      exact .decimal hsign (Decimal.read?_eq_some_iff.1 hd)

theorem ofText?_of_numberText {s : String} {x : Double} (h : NumberText (trim s.toList) x) : ofText? s = some x := by
  generalize hcs : trim s.toList = cs at h
  cases h with
  | @infinity sign minus hsign =>
    have hfirst : ∀ c ∈ "Infinity".toList.head?, c ≠ '-' ∧ c ≠ '+' := by
      intro c hc
      obtain rfl := Option.some.inj hc
      decide
    rw [ofText?_eq hcs (readSign_append hsign hfirst), if_pos rfl]
  | @based mark radix n digits hmark hdigits hlt =>
    have hread : readSign ('0' :: mark :: digits) = (false, '0' :: mark :: digits) := rfl
    have hprefix : radixPrefix? ('0' :: mark :: digits) = some (radix, digits) :=
      radixPrefix?_eq_some_iff.2 ⟨mark, hmark, rfl⟩
    have hne : '0' :: mark :: digits ≠ "Infinity".toList := by
      intro h
      exact absurd (List.cons.inj h).1 (by decide)
    have hn := (readRadix?_eq_some_iff hmark.radix_le).2 hdigits
    rw [ofText?_eq hcs hread, if_neg hne, hprefix]
    simp only [ne_eq, not_true_eq_false, if_false, hn, Option.bind_some, if_pos hlt]
  | @decimal sign body minus d hsign hdecimal =>
    have hfirst : ∀ c ∈ body.head?, c ≠ '-' ∧ c ≠ '+' := by
      intro c hc
      rcases hdecimal.head c hc with hdigit | rfl
      · exact not_sign_of_isDigit hdigit
      · decide
    obtain ⟨hne, hprefix⟩ := not_marked_of_decimalText hdecimal
    rw [ofText?_eq hcs (readSign_append hsign hfirst), if_neg hne, hprefix]
    simp only [Decimal.read?_eq_some_iff.2 hdecimal, Option.map_some]

/-- **Texts of numbers** are those of the grammar, and each is read as the number that the grammar says. -/
theorem ofText?_eq_some_iff {s : String} {x : Double} : ofText? s = some x ↔ StandsFor s x := by
  constructor
  · exact fun h => ⟨_, stripsTo_trim _, numberText_of_ofText? h⟩
  · rintro ⟨body, hbody, h⟩
    rw [← trim_eq_iff.2 hbody] at h
    exact ofText?_of_numberText h

/-! ## No text is not-a-number -/

theorem ofUnitsIn_ne_nan (p : Precision) (negative : Bool) (num den : Nat) : ofUnitsIn p negative num den ≠ .nan := by
  unfold ofUnitsIn
  split_ifs
  · nofun
  · nofun

theorem ofDecimalIn_ne_nan (p : Precision) (negative : Bool) (d : Decimal) : ofDecimalIn p negative d ≠ .nan := by
  simp only [ofDecimalIn]
  split_ifs
  · nofun
  · nofun
  · nofun
  · cases d.exponent with
    | ofNat k => exact ofUnitsIn_ne_nan p negative _ _
    | negSucc k => exact ofUnitsIn_ne_nan p negative _ _

theorem StandsFor.ne_nan {s : String} {x : Double} (h : StandsFor s x) : x ≠ .nan := by
  obtain ⟨body, -, hbody⟩ := h
  cases hbody with
  | infinity => nofun
  | @based mark radix n digits => exact ofUnitsIn_ne_nan .double false (n * one) 1
  | decimal => exact ofDecimalIn_ne_nan _ _ _

end Double

/-! ## Schemas of numbers -/

namespace NumberSchema

/-- no check finds that a conversion failed -/
theorem code_of_failure {test : NumberTest} {n : Double} {m : Message} (h : test.failure n = some m) :
    m.code ≠ .coercionFailed := by
  cases test <;> simp only [NumberTest.failure] at h <;> split_ifs at h <;> cases h <;> simp [Message.code]

/-- so no issue of a check is told as one -/
theorem code_of_run {checks : Checks NumberTest} {ctx : Context} {n : Double} {output : Value} {issues : List Issue}
    (h : checks.run NumberTest.failure ctx n output = .error issues) : ∀ i ∈ issues, i.code ≠ .coercionFailed := by
  unfold Checks.run at h
  cases hfirst : checks.firstIssue NumberTest.failure ctx n with
  | none =>
    rw [hfirst] at h
    cases h
  | some issue =>
    rw [hfirst] at h
    obtain rfl := Except.error.inj h
    obtain ⟨check, -, hcheck⟩ := List.exists_of_findSome?_eq_some hfirst
    obtain ⟨m, hm, rfl⟩ := Option.map_eq_some_iff.1 hcheck
    intro i hi
    rw [List.mem_singleton.1 hi]
    exact code_of_failure hm

/-- a text that stands for a number is checked as that number -/
theorem validate_of_standsFor {s : String} {x : Double} (h : Double.StandsFor s x) (checks : Checks NumberTest)
    (ctx : Context) :
    validate ⟨checks, true⟩ ctx (.string s) = checks.run NumberTest.failure ctx x (.number x) := by
  have hconvert : (Value.string s).toNumber? = some x := Double.ofText?_eq_some_iff.2 h
  have hnumber : x.isNaN = false := by
    cases x with
    | nan => exact absurd rfl h.ne_nan
    | _ => rfl
  rw [validate_eq, readAs]
  simp only [Value.number?, if_true, hconvert, hnumber, Bool.false_eq_true, if_false]

/-- and any other text is refused -/
theorem validate_of_not_standsFor {s : String} (h : ∀ x, ¬ Double.StandsFor s x) (checks : Checks NumberTest)
    (ctx : Context) :
    validate ⟨checks, true⟩ ctx (.string s) = ctx.notConverted "number" (.string s) checks.kindMessage := by
  have hconvert : (Value.string s).toNumber? = none := by
    refine Option.eq_none_iff_forall_ne_some.2 fun x hx => h x ?_
    exact Double.ofText?_eq_some_iff.1 hx
  rw [validate_eq, readAs]
  simp only [Value.number?, if_true, hconvert]
  rfl

/-- **Numeric text is converted by its grammar, and by nothing else.** A text converts exactly if it stands for a number
in the grammar, and then to the number that the grammar says, which is never not-a-number; what is left is to run the
checks on it. Every other text, and only such a text, is told to be a conversion that failed, whatever the checks. With no
checks a schema accepts exactly the texts of the grammar. -/
theorem number_texts_by_grammar (checks : Checks NumberTest) (ctx : Context) (s : String) :
    (∀ x, (Value.string s).toNumber? = some x ↔ Double.StandsFor s x) ∧
      (∀ x, Double.StandsFor s x → x ≠ .nan ∧
        validate ⟨checks, true⟩ ctx (.string s) = checks.run NumberTest.failure ctx x (.number x)) ∧
      ((∀ x, ¬ Double.StandsFor s x) →
        validate ⟨checks, true⟩ ctx (.string s) = ctx.notConverted "number" (.string s) checks.kindMessage) ∧
      ((∃ issues i, validate ⟨checks, true⟩ ctx (.string s) = .error issues ∧ i ∈ issues ∧ i.code = .coercionFailed) ↔
        ∀ x, ¬ Double.StandsFor s x) ∧
      ∀ w, converting.validate ctx (.string s) = .ok w ↔ ∃ x, Double.StandsFor s x ∧ w = .number x := by
  have hrefused := fun h => validate_of_not_standsFor (s := s) h
  refine ⟨fun x => Double.ofText?_eq_some_iff, fun x h => ⟨h.ne_nan, validate_of_standsFor h checks ctx⟩,
    fun h => hrefused h checks ctx, ?_, fun w => ?_⟩
  · constructor
    · rintro ⟨issues, i, herror, hi, hcode⟩ x h
      rw [validate_of_standsFor h] at herror
      exact code_of_run herror i hi hcode
    · exact fun h => ⟨_, _, hrefused h checks ctx, List.mem_singleton_self _, rfl⟩
  · constructor
    · intro hok
      by_cases h : ∃ x, Double.StandsFor s x
      · obtain ⟨x, h⟩ := h
        rw [converting, validate_of_standsFor h] at hok
        cases hok
        exact ⟨x, h, rfl⟩
      · rw [converting, hrefused (not_exists.1 h)] at hok
        cases hok
    · rintro ⟨x, h, rfl⟩
      rw [converting, validate_of_standsFor h]
      rfl

/-- a decimal with white space around it, and a text that misses the grammar by a second sign -/
theorem signed_decimal_converts :
    Double.StandsFor "\t-.5E1\u2003" (.ofDecimal true ⟨5, 0⟩) ∧
      converting.validate ⟨Catalog.english, .collect⟩ (.string "\t-.5E1\u2003") =
        .ok (.number (.ofDecimal true ⟨5, 0⟩)) ∧
      (∀ x, ¬ Double.StandsFor "+-5" x) ∧
      converting.validate ⟨Catalog.english, .collect⟩ (.string "+-5") =
        (⟨Catalog.english, .collect⟩ : Context).notConverted "number" (.string "+-5") none := by
  obtain ⟨hstands, hchecked, -⟩ := number_texts_by_grammar .empty ⟨Catalog.english, .collect⟩ "\t-.5E1\u2003"
  obtain ⟨hstands', -, hrefused, -⟩ := number_texts_by_grammar .empty ⟨Catalog.english, .collect⟩ "+-5"
  have hnumber : Double.StandsFor "\t-.5E1\u2003" (.ofDecimal true ⟨5, 0⟩) := (hstands _).1 (by decide +kernel)
  have hnone : (Value.string "+-5").toNumber? = none := by decide +kernel
  have houtside : ∀ x, ¬ Double.StandsFor "+-5" x := by
    intro x hx
    rw [← hstands', hnone] at hx
    cases hx
  exact ⟨hnumber, (hchecked _ hnumber).2, houtside, hrefused houtside⟩

end NumberSchema

end ValueSchema
