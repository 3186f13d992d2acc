import Mathlib.Data.Nat.Digits.Defs
import Mathlib.Tactic
import ValueSchema.Double.Decimal
import ValueSchema.Proofs.Text.Trimmed

/-!
Numerals: which texts write numbers, and which numbers they write.

The form of a numeral is a relation between a text and what it stands for, put together from signs, digits, points and
exponents, with no reader in it. Each reader finds exactly what its form says, so that a text outside the form is refused.

Results:
- `trim_eq_iff`: what a text is without the white space around it.
- `readInt?_eq_some_iff`, `readRadix?_eq_some_iff`: whole numbers, with a sign or in another base.
- `Decimal.read?_eq_some_iff`: decimals with a point and an exponent.
-/

namespace ValueSchema

namespace Text

/-! ## White space around a text -/

/-- a text without the white space around it: nothing white is left at either end -/
structure StripsTo (cs body : List Char) : Prop where
  around : ∃ before after, cs = before ++ (body ++ after) ∧ (∀ c ∈ before, isBlank c = true) ∧
    ∀ c ∈ after, isBlank c = true
  first : ∀ c ∈ body.head?, isBlank c = false
  last : ∀ c ∈ body.getLast?, isBlank c = false

/-- **Trimming** takes off the white space around a text, and nothing else. -/
theorem trim_eq_iff {cs body : List Char} : trim cs = body ↔ StripsTo cs body := by
  rw [trim, trimBy_eq_iff]
  exact ⟨fun h => ⟨h.around, h.first, h.last⟩, fun h => ⟨h.around, h.first, h.last⟩⟩

/-- every text strips to what trimming leaves of it -/
theorem stripsTo_trim (cs : List Char) : StripsTo cs (trim cs) := trim_eq_iff.1 rfl

/-! ## Whole numbers with a sign -/

/-- an optional sign, and whether it is minus -/
inductive SignText : List Char → Bool → Prop
  | none : SignText [] false
  | plus : SignText ['+'] false
  | minus : SignText ['-'] true

/-- one or more decimal digits -/
def IsDigits (cs : List Char) : Prop := cs ≠ [] ∧ ∀ c ∈ cs, c.isDigit = true

/-- an optional sign, then one or more decimal digits: the integer that they write -/
inductive IntegerText : List Char → Int → Prop
  | intro {sign ds : List Char} {minus : Bool} : SignText sign minus → IsDigits ds →
    IntegerText (sign ++ ds) (if minus then -Nat.ofDigitChars 10 ds 0 else Nat.ofDigitChars 10 ds 0)

theorem not_sign_of_isDigit {c : Char} (h : c.isDigit = true) : c ≠ '-' ∧ c ≠ '+' := by
  constructor
  · rintro rfl
    exact absurd h (by decide)
  · rintro rfl
    exact absurd h (by decide)

theorem IsDigits.head {cs : List Char} (h : IsDigits cs) : ∀ c ∈ cs.head?, c.isDigit = true :=
  fun c hc => h.2 c (List.mem_of_mem_head? hc)

/-- what is read as a sign is an optional sign at the front -/
theorem exists_readSign (cs : List Char) :
    ∃ sign minus body, readSign cs = (minus, body) ∧ SignText sign minus ∧ cs = sign ++ body := by
  unfold readSign
  split
  · exact ⟨_, _, _, rfl, .minus, rfl⟩
  · exact ⟨_, _, _, rfl, .plus, rfl⟩
  · exact ⟨_, _, _, rfl, .none, rfl⟩

/-- a sign is read off anything that does not begin with another one -/
theorem readSign_append {sign body : List Char} {minus : Bool} (hsign : SignText sign minus)
    (hbody : ∀ c ∈ body.head?, c ≠ '-' ∧ c ≠ '+') : readSign (sign ++ body) = (minus, body) := by
  cases hsign with
  | plus => rfl
  | minus => rfl
  | none =>
    rw [List.nil_append]
    unfold readSign
    split
    · exact absurd rfl (hbody '-' rfl).1
    · exact absurd rfl (hbody '+' rfl).2
    · rfl

theorem readNat?_eq_some_iff {cs : List Char} {n : Nat} :
    readNat? cs = some n ↔ IsDigits cs ∧ Nat.ofDigitChars 10 cs 0 = n := by
  simp only [readNat?, IsDigits, List.all_eq_true, Option.ite_none_right_eq_some, Option.some.injEq]

theorem readInt?_eq (cs : List Char) :
    readInt? cs = (readNat? (readSign cs).2).map fun n : Nat => if (readSign cs).1 then -(n : Int) else n := by
  unfold readInt?
  cases readNat? (readSign cs).2 with
  | none => rfl
  | some n => rfl

/-- **Integers**: an optional sign and digits are read as the integer they write, and nothing else is read. -/
theorem readInt?_eq_some_iff {cs : List Char} {n : Int} : readInt? cs = some n ↔ IntegerText cs n := by
  constructor
  · intro h
    obtain ⟨sign, minus, body, hread, hsign, rfl⟩ := exists_readSign cs
    rw [readInt?_eq, hread] at h
    obtain ⟨m, hm, rfl⟩ := Option.map_eq_some_iff.1 h
    obtain ⟨hdigits, rfl⟩ := readNat?_eq_some_iff.1 hm
    exact .intro hsign hdigits
  · rintro ⟨hsign, hdigits⟩
    have hread := readSign_append hsign fun c hc => not_sign_of_isDigit (hdigits.head c hc)
    rw [readInt?_eq, hread, readNat?_eq_some_iff.2 ⟨hdigits, rfl⟩, Option.map_some]

/-- signs and digits are all that stands in an integer -/
theorem IntegerText.mem {cs : List Char} {n : Int} (h : IntegerText cs n) :
    ∀ c ∈ cs, c.isDigit = true ∨ c = '+' ∨ c = '-' := by
  obtain ⟨hsign, hdigits⟩ := h
  intro c hc
  rcases List.mem_append.1 hc with hc | hc
  · cases hsign with
    | none => exact absurd hc List.not_mem_nil
    | plus => exact .inr (.inl (List.mem_singleton.1 hc))
    | minus => exact .inr (.inr (List.mem_singleton.1 hc))
  · exact .inl (hdigits.2 c hc)

theorem isBlank_of_isDigit {c : Char} (h : c.isDigit = true) : isBlank c = false := by
  simp only [Char.isDigit, ge_iff_le, Bool.and_eq_true, decide_eq_true_eq, UInt32.le_iff_toNat_le] at h
  have hrange : 48 ≤ c.toNat ∧ c.toNat ≤ 57 := h
  have hwhite : ¬ isBlank c = true := by
    simp only [isBlank, Bool.or_eq_true, Bool.and_eq_true, decide_eq_true_eq, beq_iff_eq]
    omega
  exact Bool.eq_false_iff.2 hwhite

/-- so there is no white space in an integer to strip off -/
theorem IntegerText.stripsTo_self {cs : List Char} {n : Int} (h : IntegerText cs n) : StripsTo cs cs := by
  have hinside : ∀ c ∈ cs, isBlank c = false := by
    intro c hc
    rcases h.mem c hc with hdigit | rfl | rfl
    · exact isBlank_of_isDigit hdigit
    · decide
    · decide
  refine ⟨⟨[], [], by simp, nofun, nofun⟩, fun c hc => ?_, fun c hc => ?_⟩
  · exact hinside c (List.mem_of_mem_head? hc)
  · exact hinside c (List.mem_of_mem_getLast? hc)

/-- what is written for an integer writes it -/
theorem integerText_intText (n : Int) : IntegerText (intText n) n := readInt?_eq_some_iff.1 (readInt?_intText n)

/-! ## Whole numbers in other bases -/

/-- a digit of a base, letters of either case standing for ten and above -/
def IsDigitOf (radix : Nat) (c : Char) (d : Nat) : Prop :=
  d < radix ∧ (c = Nat.digitChar d ∨ c = (Nat.digitChar d).toUpper)

/-- one or more digits of a base, the most significant first: the number that they write -/
inductive RadixText (radix : Nat) : List Char → Nat → Prop
  | intro {cs : List Char} {ds : List Nat} : cs ≠ [] → List.Forall₂ (IsDigitOf radix) cs ds →
    RadixText radix cs (Nat.ofDigits radix ds.reverse)

theorem digitValue?_eq_some_iff {radix d : Nat} {c : Char} (hradix : radix ≤ 16) :
    digitValue? radix c = some d ↔ IsDigitOf radix c d := by
  have hlower : ∀ d < 16, (Nat.digitChar d).toNat = if d < 10 then d + 48 else d + 87 := by decide
  have hupper : ∀ d < 16, (Nat.digitChar d).toUpper.toNat = if d < 10 then d + 48 else d + 55 := by decide
  have hvalue : digitValue? radix c = some d ↔
      d < radix ∧ (c.toNat = if d < 10 then d + 48 else d + 87) ∨
      d < radix ∧ (c.toNat = if d < 10 then d + 48 else d + 55) := by
    unfold digitValue?
    simp only [Option.ite_none_right_eq_some, Option.some.injEq]
    split_ifs <;> omega
  rw [hvalue, ← and_or_left]
  refine and_congr_right fun hd => ?_
  rw [← hlower d (by omega), ← hupper d (by omega), Char.toNat_inj, Char.toNat_inj]

/-- digits taken in one after the other -/
theorem foldl_digits_eq_some_iff {radix n : Nat} {cs : List Char} (hradix : radix ≤ 16) (acc : Option Nat) :
    cs.foldl (fun acc c => acc.bind fun n => (digitValue? radix c).map fun d => radix * n + d) acc = some n ↔
      ∃ start ds, acc = some start ∧ List.Forall₂ (IsDigitOf radix) cs ds ∧
        ds.foldl (fun n d => radix * n + d) start = n := by
  induction cs generalizing acc with
  | nil =>
    constructor
    · rintro rfl
      exact ⟨n, [], rfl, .nil, rfl⟩
    · rintro ⟨start, ds, rfl, hds, rfl⟩
      cases hds
      rfl
  | cons c cs ih =>
    rw [List.foldl_cons, ih]
    constructor
    · rintro ⟨next, ds, hnext, hds, rfl⟩
      obtain ⟨start, rfl, hstep⟩ := Option.bind_eq_some_iff.1 hnext
      obtain ⟨d, hd, rfl⟩ := Option.map_eq_some_iff.1 hstep
      exact ⟨start, d :: ds, rfl, .cons ((digitValue?_eq_some_iff hradix).1 hd) hds, rfl⟩
    · rintro ⟨start, ds, rfl, hds, rfl⟩
      cases hds with
      | @cons _ d _ ds hd hds =>
        have hvalue := (digitValue?_eq_some_iff hradix).2 hd
        exact ⟨radix * start + d, ds, by rw [hvalue]; rfl, hds, rfl⟩

/-- **Other bases**: up to 16, one or more digits of the base are read as the number they write, and nothing else is. -/
theorem readRadix?_eq_some_iff {radix n : Nat} {cs : List Char} (hradix : radix ≤ 16) :
    readRadix? radix cs = some n ↔ RadixText radix cs n := by
  have hvalue : ∀ ds : List Nat, ds.foldl (fun n d => radix * n + d) 0 = Nat.ofDigits radix ds.reverse := by
    intro ds
    rw [Nat.ofDigits_eq_foldr, List.foldr_reverse]
    simp only [Nat.cast_id, add_comm]
  constructor
  · intro h
    cases cs with
    | nil => cases h
    | cons c cs =>
      obtain ⟨start, ds, hstart, hds, rfl⟩ := (foldl_digits_eq_some_iff hradix _).1 h
      cases hstart
      rw [hvalue]
      exact .intro (List.cons_ne_nil _ _) hds
  · rintro ⟨hne, hds⟩
    rename_i ds
    cases cs with
    | nil => exact absurd rfl hne
    | cons c cs => exact (foldl_digits_eq_some_iff hradix _).2 ⟨0, ds, rfl, hds, hvalue ds⟩

end Text

namespace Decimal

open Text

/-! ## Decimals -/

/-- digits with an optional point and further digits, or a point and one or more digits: what stands before the point and
what stands after it -/
inductive SignificandText : List Char → List Char → List Char → Prop
  | whole {ds : List Char} : IsDigits ds → SignificandText ds ds []
  | pointed {ds fs : List Char} : IsDigits ds → (∀ c ∈ fs, c.isDigit = true) → SignificandText (ds ++ '.' :: fs) ds fs
  | fraction {fs : List Char} : IsDigits fs → SignificandText ('.' :: fs) [] fs

/-- an optional exponent: a mark, then an integer -/
inductive ExponentText : List Char → Int → Prop
  | none : ExponentText [] 0
  | some {mark : Char} {cs : List Char} {e : Int} : mark = 'e' ∨ mark = 'E' → IntegerText cs e → ExponentText (mark :: cs) e

/-- a significand and an optional exponent: the digits on both sides of the point, scaled -/
inductive DecimalText : List Char → Decimal → Prop
  | intro {significand tail ds fs : List Char} {e : Int} : SignificandText significand ds fs → ExponentText tail e →
    DecimalText (significand ++ tail) ⟨Nat.ofDigitChars 10 (ds ++ fs) 0, e - fs.length⟩

theorem readExponent?_eq_some_iff {cs : List Char} {e : Int} : readExponent? cs = some e ↔ ExponentText cs e := by
  constructor
  · intro h
    cases cs with
    | nil =>
      cases h
      exact .none
    | cons mark cs =>
      rw [readExponent?] at h
      split_ifs at h with hmark
      exact .some hmark (readInt?_eq_some_iff.1 h)
  · intro h
    cases h with
    | none => rfl
    | some hmark hinteger =>
      rw [readExponent?, if_pos hmark]
      exact readInt?_eq_some_iff.2 hinteger

/-- an exponent does not go on with the digits or the point before it -/
theorem ExponentText.head {cs : List Char} {e : Int} (h : ExponentText cs e) :
    ∀ c ∈ cs.head?, c.isDigit = false ∧ c ≠ '.' := by
  cases h with
  | none => nofun
  | some hmark _ =>
    intro c hc
    obtain rfl := Option.some.inj hc
    rcases hmark with rfl | rfl
    · decide
    · decide

theorem spanDigits_append {ds rest : List Char} (hds : ∀ c ∈ ds, c.isDigit = true)
    (hrest : ∀ c ∈ rest.head?, c.isDigit = false) : spanDigits (ds ++ rest) = (ds, rest) := by
  obtain ⟨hfront, hback⟩ := span_append hds hrest
  rw [spanDigits, hfront, hback]

/-- the digits in front, and the rest, which does not begin with one -/
theorem exists_spanDigits (cs : List Char) : ∃ ds rest, spanDigits cs = (ds, rest) ∧ cs = ds ++ rest ∧
    (∀ c ∈ ds, c.isDigit = true) ∧ ∀ c ∈ rest.head?, c.isDigit = false :=
  ⟨_, _, rfl, List.takeWhile_append_dropWhile.symm, fun _ hc => List.mem_takeWhile_imp hc, head_dropWhile _ _⟩

section Read

variable {ds fs tail : List Char} (hds : ∀ c ∈ ds, c.isDigit = true)

include hds

/-- what is read where a point follows the first digits -/
theorem read?_pointed (hfs : ∀ c ∈ fs, c.isDigit = true) (htail : ∀ c ∈ tail.head?, c.isDigit = false) :
    read? (ds ++ '.' :: (fs ++ tail)) =
      if ds = [] ∧ fs = [] then none
      else (readExponent? tail).map fun e => ⟨Nat.ofDigitChars 10 (ds ++ fs) 0, e - fs.length⟩ := by
  have hwhole : spanDigits (ds ++ '.' :: (fs ++ tail)) = (ds, '.' :: (fs ++ tail)) := by
    refine spanDigits_append hds fun c hc => ?_
    obtain rfl := Option.some.inj hc
    decide
  simp only [read?, hwhole, spanDigits_append hfs htail]

/-- what is read where none does -/
theorem read?_unpointed (htail : ∀ c ∈ tail.head?, c.isDigit = false ∧ c ≠ '.') :
    read? (ds ++ tail) =
      if ds = [] then none else (readExponent? tail).map fun e => ⟨Nat.ofDigitChars 10 ds 0, e⟩ := by
  have hwhole : spanDigits (ds ++ tail) = (ds, tail) := spanDigits_append hds fun c hc => (htail c hc).1
  simp only [read?, hwhole]
  cases tail with
  | nil => simp
  | cons c rest =>
    have hc : c ≠ '.' := (htail c rfl).2
    simp [hc]

end Read

/-- **Decimals**: a significand and an optional exponent are read as the decimal they write, and nothing else is read. -/
theorem read?_eq_some_iff {cs : List Char} {d : Decimal} : read? cs = some d ↔ DecimalText cs d := by
  constructor
  · intro h
    obtain ⟨ds, rest, -, rfl, hds, hrest⟩ := exists_spanDigits cs
    by_cases hpoint : '.' ∈ rest.head?
    · obtain ⟨after, rfl⟩ := List.head?_eq_some_iff.1 hpoint
      obtain ⟨fs, tail, -, rfl, hfs, htail⟩ := exists_spanDigits after
      rw [read?_pointed hds hfs htail] at h
      split_ifs at h with hempty
      obtain ⟨e, he, rfl⟩ := Option.map_eq_some_iff.1 h
      have hexponent := readExponent?_eq_some_iff.1 he
      by_cases hwhole : ds = []
      · subst hwhole
        have hne : fs ≠ [] := fun hfraction => hempty ⟨rfl, hfraction⟩
        have hsignificand : SignificandText ('.' :: fs) [] fs := .fraction ⟨hne, hfs⟩
        have hform := DecimalText.intro hsignificand hexponent
        exact hform
      · have hform := DecimalText.intro (.pointed ⟨hwhole, hds⟩ hfs) hexponent
        rwa [List.append_assoc] at hform
    · rw [read?_unpointed hds fun c hc => ⟨hrest c hc, fun hdot => hpoint (hdot ▸ hc)⟩] at h
      split_ifs at h with hempty
      obtain ⟨e, he, rfl⟩ := Option.map_eq_some_iff.1 h
      have hform := DecimalText.intro (.whole ⟨hempty, hds⟩) (readExponent?_eq_some_iff.1 he)
      simpa using hform
  · rintro ⟨hsignificand, hexponent⟩
    have hhead := hexponent.head
    have htail := fun c hc => (hhead c hc).1
    have hread := readExponent?_eq_some_iff.2 hexponent
    cases hsignificand with
    | whole hds =>
      rw [read?_unpointed hds.2 hhead, if_neg hds.1, hread]
      simp
    | pointed hds hfs =>
      rw [List.append_assoc, List.cons_append, read?_pointed hds.2 hfs htail, if_neg fun h => hds.1 h.1, hread]
      rfl
    | @fraction fs hfs =>
      have hfraction := read?_pointed (List.forall_mem_nil _) hfs.2 htail
      rw [if_neg fun h => hfs.1 h.2, hread] at hfraction
      exact hfraction

/-- digits and points are all that stands in a significand, and something does -/
theorem SignificandText.mem {cs ds fs : List Char} (h : SignificandText cs ds fs) :
    cs ≠ [] ∧ ∀ c ∈ cs, c.isDigit = true ∨ c = '.' := by
  cases h with
  | whole hds => exact ⟨hds.1, fun c hc => .inl (hds.2 c hc)⟩
  | pointed hds hfs =>
    refine ⟨List.append_ne_nil_of_left_ne_nil hds.1 _, fun c hc => ?_⟩
    rcases List.mem_append.1 hc with hc | hc
    · exact .inl (hds.2 c hc)
    · rcases List.mem_cons.1 hc with rfl | hc
      · exact .inr rfl
      · exact .inl (hfs c hc)
  | fraction hfs =>
    refine ⟨List.cons_ne_nil _ _, fun c hc => ?_⟩
    rcases List.mem_cons.1 hc with rfl | hc
    · exact .inr rfl
    · exact .inl (hfs.2 c hc)

/-- a decimal begins with a digit or a point -/
theorem DecimalText.head {cs : List Char} {d : Decimal} (h : DecimalText cs d) :
    ∀ c ∈ cs.head?, c.isDigit = true ∨ c = '.' := by
  obtain ⟨hsignificand, -⟩ := h
  intro c hc
  rw [List.head?_append_of_ne_nil _ hsignificand.mem.1] at hc
  exact hsignificand.mem.2 c (List.mem_of_mem_head? hc)

/-- digits, points, signs and the marks of exponents are all that stands in a decimal -/
theorem DecimalText.mem {cs : List Char} {d : Decimal} (h : DecimalText cs d) :
    ∀ c ∈ cs, c.isDigit = true ∨ c ∈ ['.', 'e', 'E', '+', '-'] := by
  obtain ⟨hsignificand, hexponent⟩ := h
  intro c hc
  rcases List.mem_append.1 hc with hc | hc
  · rcases hsignificand.mem.2 c hc with hdigit | rfl
    · exact .inl hdigit
    · exact .inr (by decide)
  · cases hexponent with
    | none => exact absurd hc List.not_mem_nil
    | some hmark hinteger =>
      rcases List.mem_cons.1 hc with rfl | hc
      · rcases hmark with rfl | rfl
        · exact .inr (by decide)
        · exact .inr (by decide)
      · rcases hinteger.mem c hc with hdigit | rfl | rfl
        · exact .inl hdigit
        · exact .inr (by decide)
        · exact .inr (by decide)

end Decimal

end ValueSchema
