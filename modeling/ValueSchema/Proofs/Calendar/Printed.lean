import ValueSchema.Proofs.Calendar.SameDay
import ValueSchema.Proofs.Leaf.Reading
import ValueSchema.Proofs.Text.Numerals

/-!
Texts of instants, read again.

The text of an instant is an internet timestamp as long as its year has four digits. Then the first form of texts reads it,
and finds the instant without what is finer than a millisecond. Outside those years the text begins with a sign. No form has
both a sign and a zone: the timestamp refuses the sign, and the forms that take a sign stop before the Z.

Results:
- `Instant.digits_padded`: numbers of full width are read back.
- `Instant.ofTimestamp?_text`, `Instant.ofLocal?_shownClock`: timestamps, and the instants that they stand for.
- `Instant.readers_of_sign`: no form reads a printed year with a sign.
- `DateSchema.reading_of_printed`: what printed dates are read as.
-/

namespace ValueSchema

open Text CalendarDate

/-! ## Digits of full width -/

namespace Text

theorem ofDigitChars_replicate_zero (k : Nat) (ds : List Char) :
    Nat.ofDigitChars 10 (List.replicate k '0' ++ ds) 0 = Nat.ofDigitChars 10 ds 0 := by
  induction k with
  | zero => rfl
  | succ k ih =>
    rw [List.replicate_succ, List.cons_append, Nat.ofDigitChars_eq_foldl, List.foldl_cons, ← Nat.ofDigitChars_eq_foldl]
    exact ih

variable {width n : Nat}

theorem ofDigitChars_padded (width n : Nat) : Nat.ofDigitChars 10 (padded width n) 0 = n := by
  rw [padded, ofDigitChars_replicate_zero, Nat.ofDigitChars_ten_toDigits]

theorem isDigits_padded (width n : Nat) : IsDigits (padded width n) := by
  refine ⟨List.append_ne_nil_of_right_ne_nil _ Nat.toDigits_ne_nil, fun c hc => ?_⟩
  rcases List.mem_append.1 hc with hzero | hdigit
  · rw [List.eq_of_mem_replicate hzero]
    decide
  · exact Nat.isDigit_of_mem_toDigits (by decide) (by decide) hdigit

theorem length_padded (hwidth : 0 < width) (h : n < 10 ^ width) : (padded width n).length = width := by
  have hlength := Nat.toDigits_length 10 n width hwidth h
  rw [padded, List.length_append, List.length_replicate]
  omega

theorem le_length_padded (width n : Nat) : width ≤ (padded width n).length := by
  rw [padded, List.length_append, List.length_replicate]
  omega

end Text

namespace Instant

variable {cs rest : List Char}

theorem bind_of_eq_some {α β : Type} {step : Option α} {a : α} {next : α → Option β} (h : step = some a) :
    (step >>= next) = next a := by
  rw [h]
  rfl

/-- digits are read up to where they end -/
theorem digits_append {least most : Nat} {ds : List Char} (hds : IsDigits ds) (hleast : least ≤ ds.length)
    (hmost : ds.length ≤ most) (hrest : ∀ c ∈ rest.head?, c.isDigit = false) :
    digits least most (ds ++ rest) = some (Nat.ofDigitChars 10 ds 0, rest) := by
  have hspan : ((ds ++ rest).takeWhile Char.isDigit).take most = ds := by
    rw [(span_append hds.2 hrest).1, List.take_of_length_le hmost]
  simp only [digits, hspan]
  rw [if_pos hleast, List.drop_left]

/-- **Numbers of full width** are read back. -/
theorem digits_padded {least width most n : Nat} {x : Char} (hwidth : 0 < width) (hn : n < 10 ^ width)
    (hleast : least ≤ width) (hmost : width ≤ most) (hx : x.isDigit = false) :
    digits least most (padded width n ++ x :: rest) = some (n, x :: rest) := by
  have hlength := length_padded hwidth hn
  have hrest : ∀ c ∈ (x :: rest).head?, c.isDigit = false := by
    rintro _ ⟨⟩
    exact hx
  rw [digits_append (isDigits_padded width n) (hleast.trans_eq hlength.symm) (hlength.trans_le hmost) hrest,
    ofDigitChars_padded]

/-- two digits -/
theorem digits_two {n : Nat} {x : Char} (hn : n < 100) (hx : x.isDigit = false) :
    digits 2 2 (padded 2 n ++ x :: rest) = some (n, x :: rest) := digits_padded (by decide) hn le_rfl le_rfl hx

theorem digits_of_not_digit {least most : Nat} {c : Char} (hleast : 0 < least) (hc : c.isDigit = false) :
    digits least most (c :: rest) = none := by
  have hnone : (c :: rest).takeWhile Char.isDigit = [] := List.takeWhile_cons_of_neg (Bool.eq_false_iff.1 hc)
  simp only [digits, hnone, List.take_nil, List.length_nil]
  exact if_neg (by omega)

theorem char_self (c : Char) (cs : List Char) : char c (c :: cs) = some cs := if_pos rfl

theorem trimStart_of_not_blank (h : ∀ c ∈ cs.head?, isBlank c = false) : trimStart cs = cs :=
  (span_append (List.forall_mem_nil _) h).2

theorem trimStart_padded (width n : Nat) (rest : List Char) :
    trimStart (padded width n ++ rest) = padded width n ++ rest := by
  have hdigits := isDigits_padded width n
  refine trimStart_of_not_blank ?_
  rw [List.head?_append_of_ne_nil _ hdigits.1]
  exact fun c hc => isBlank_of_isDigit (hdigits.head c hc)

theorem field_two {n : Nat} {x : Char} (hn : n < 100) (hx : x.isDigit = false) :
    field 2 (padded 2 n ++ x :: rest) = some (n, x :: rest) := by
  rw [field, trimStart_padded]
  exact digits_padded (by decide) hn (by decide) le_rfl hx

/-- three digits after the point are milliseconds -/
theorem fraction_padded {n : Nat} {x : Char} (hn : n < 1000) (hx : x.isDigit = false) :
    fraction ('.' :: (padded 3 n ++ x :: rest)) = some (n * 1000000, x :: rest) := by
  have hrest : ∀ c ∈ (x :: rest).head?, c.isDigit = false := by
    rintro _ ⟨⟩
    exact hx
  have hspan := span_append (isDigits_padded 3 n).2 hrest
  have htake : (padded 3 n ++ List.replicate 9 '0').take 9 = padded 3 n ++ List.replicate 6 '0' := by
    rw [List.take_append, List.take_of_length_le, length_padded (by decide) hn]
    · rfl
    · rw [length_padded (by decide) hn]
      decide
  rw [fraction, nanoseconds, hspan.1, hspan.2, htake]
  simp only [(isDigits_padded 3 n).1, if_false]
  have hzeros : Nat.ofDigitChars 10 (List.replicate 6 '0') 0 = 0 := by decide
  rw [Nat.ofDigitChars_append, ofDigitChars_padded, Nat.ofDigitChars_eq_ofDigitChars_zero, hzeros,
    List.length_replicate, Nat.mul_comm, Nat.add_zero]

/-! ## Dates and times of day -/

/-- the part of a text before the T -/
def dateChars (d : CalendarDate) : List Char := yearText d.year ++ '-' :: (padded 2 d.month ++ '-' :: padded 2 d.day)

/-- the part of a text between the T and the Z -/
def clockChars (c : Clock) : List Char :=
  padded 2 c.hour ++ ':' :: (padded 2 c.minute ++ ':' :: (padded 2 c.second ++ '.' :: padded 3 (c.nanos / 1000000)))

/-- the time of day that the text of an instant shows -/
def shownClock (t : Instant) : Clock where
  hour := (t.seconds % 86400).toNat / 3600
  minute := (t.seconds % 86400).toNat / 60 % 60
  second := (t.seconds % 86400).toNat % 60 + if 1000000000 ≤ t.nanos then 1 else 0
  nanos := t.nanos % 1000000000 / 1000000 * 1000000

theorem chars_eq (t : Instant) : t.chars = dateChars t.date ++ 'T' :: (clockChars t.shownClock ++ ['Z']) := by
  simp only [chars, dateChars, clockChars, shownClock, List.append_assoc, List.cons_append,
    Nat.mul_div_cancel _ (show 0 < 1000000 by decide)]

/-- a time of day on a clock that shows whole milliseconds -/
structure Clock.IsShown (c : Clock) : Prop where
  hour : c.hour ≤ 23
  minute : c.minute ≤ 59
  second : c.second ≤ 60
  nanos : c.nanos < 1000000000
  millis : c.nanos / 1000000 * 1000000 = c.nanos

theorem shownClock_isShown (t : Instant) : t.shownClock.IsShown := by
  refine ⟨?_, ?_, ?_, ?_, ?_⟩
  · simp only [shownClock]
    omega
  · simp only [shownClock]
    omega
  · simp only [shownClock]
    split_ifs
    · omega
    · omega
  · simp only [shownClock]
    omega
  · simp only [shownClock]
    omega

/-- months and days of the month have two digits -/
theorem date_lt_hundred (t : Instant) : t.date.month < 100 ∧ t.date.day < 100 := by
  obtain ⟨-, h12, -, hlength⟩ := isDay_ofDayNumber t.day
  have hmonth : daysInMonth t.date.year t.date.month ≤ 31 := by
    simp only [daysInMonth]
    split_ifs <;> decide
  exact ⟨Nat.lt_of_le_of_lt h12 (by decide), Nat.lt_of_le_of_lt (hlength.trans hmonth) (by decide)⟩

/-- a time of day on the date of an instant is counted from the midnight of its day -/
theorem ofLocal?_date (t : Instant) {c : Clock} (h : c.IsShown) :
    ofLocal? t.date c 0 =
      if c.second = 60 then
        ofParts? (t.day * 86400 + (c.hour * 3600 + c.minute * 60 + 59 : Nat)) (c.nanos + 1000000000)
      else ofParts? (t.day * 86400 + (c.hour * 3600 + c.minute * 60 + c.second : Nat)) c.nanos := by
  have hvalid := isValid_ofDayNumber t.firstDay_le_day t.day_le_lastDay
  simp only [ofLocal?, date, hvalid, h.hour, h.minute, h.second, decide_true, Bool.and_self, if_true,
    dayNumber_ofDayNumber, sub_zero]
  split_ifs
  · rfl
  · rfl

/-- the clock shows the instant, whole milliseconds at least, if no leap second stands inside a minute -/
theorem ofLocal?_shownClock {t : Instant} (h : t.nanos < 1000000000 ∨ t.seconds % 60 = 59) :
    ofLocal? t.date t.shownClock 0 = some t.truncateToMillis := by
  have hfirst := t.first_le
  have hlast := t.lt_last
  have hnanos := t.nanos_lt
  have hparts : ∀ {seconds : Int} {nanos : Nat}, seconds = t.seconds → nanos = t.nanos / 1000000 * 1000000 →
      ofParts? seconds nanos = some t.truncateToMillis := by
    rintro _ _ rfl rfl
    rw [ofParts?, dif_pos ⟨by omega, by omega, hfirst, hlast⟩]
    rfl
  rw [ofLocal?_date t t.shownClock_isShown]
  by_cases hleap : 1000000000 ≤ t.nanos
  · have hsecond : t.shownClock.second = 60 := by
      simp only [shownClock, if_pos hleap]
      omega
    rw [if_pos hsecond]
    refine hparts ?_ ?_
    · simp only [shownClock, day]
      omega
    · simp only [shownClock]
      omega
  · have hsecond : t.shownClock.second = (t.seconds % 86400).toNat % 60 := by
      simp only [shownClock, if_neg hleap, Nat.add_zero]
    rw [if_neg (by omega), hsecond]
    refine hparts ?_ ?_
    · simp only [shownClock, day]
      omega
    · simp only [shownClock]
      omega

/-- inside a minute the clock goes on to the next second -/
theorem ofLocal?_shownClock_of_leap {t : Instant} (hleap : 1000000000 ≤ t.nanos) (hminute : t.seconds % 60 ≠ 59) :
    ∃ s : Instant, s.seconds = t.seconds + 1 ∧ s.nanos = (t.nanos - 1000000000) / 1000000 * 1000000 ∧
      ofLocal? t.date t.shownClock 0 = some s := by
  have hfirst := t.first_le
  have hlast := t.lt_last
  have hnanos := t.nanos_lt
  refine ⟨⟨t.seconds + 1, (t.nanos - 1000000000) / 1000000 * 1000000, by omega, by omega, by omega⟩, rfl, rfl, ?_⟩
  have hsecond : t.shownClock.second = (t.seconds % 86400).toNat % 60 + 1 := by
    simp only [shownClock, if_pos hleap]
  have hseconds : t.day * 86400 +
      (t.shownClock.hour * 3600 + t.shownClock.minute * 60 + t.shownClock.second : Nat) = t.seconds + 1 := by
    rw [hsecond]
    simp only [shownClock, day]
    omega
  have hmillis : t.shownClock.nanos = (t.nanos - 1000000000) / 1000000 * 1000000 := by
    simp only [shownClock]
    omega
  rw [ofLocal?_date t t.shownClock_isShown, if_neg (by omega), hseconds, hmillis, ofParts?,
    dif_pos ⟨by omega, by omega, by omega, by omega⟩]

/-! ## Years of four digits -/

section

variable {d : CalendarDate} {c : Clock}

/-- what is printed of a date with a four-digit year is read as a timestamp in UTC -/
theorem ofTimestamp?_text (hyear : 0 ≤ d.year ∧ d.year ≤ 9999) (hmonth : d.month < 100) (hday : d.day < 100)
    (hclock : c.IsShown) :
    ofTimestamp? (dateChars d ++ 'T' :: (clockChars c ++ ['Z'])) = ofLocal? d c 0 := by
  obtain ⟨year, month, day⟩ := d
  obtain ⟨hour, minute, second, nanos⟩ := c
  obtain ⟨hhour, hminute, hsecond, hnanos, hmillis⟩ := hclock
  dsimp only at *
  obtain ⟨n, rfl⟩ := Int.eq_ofNat_of_zero_le hyear.1
  have hyearText : yearText n = padded 4 n := if_pos hyear
  have hfraction : fraction ('.' :: (padded 3 (nanos / 1000000) ++ ['Z'])) = some (nanos, ['Z']) := by
    rw [fraction_padded (by omega) (by decide), hmillis]
  simp only [dateChars, clockChars, hyearText, List.append_assoc, List.cons_append]
  rw [ofTimestamp?]
  refine (bind_of_eq_some (digits_padded (by decide) (by omega) le_rfl le_rfl (by decide))).trans ?_
  refine (bind_of_eq_some (char_self _ _)).trans ?_
  refine (bind_of_eq_some (digits_two hmonth (by decide))).trans ?_
  refine (bind_of_eq_some (char_self _ _)).trans ?_
  refine (bind_of_eq_some (digits_two hday (by decide))).trans ?_
  refine (bind_of_eq_some (show separator ('T' :: _) = some _ from rfl)).trans ?_
  refine (bind_of_eq_some (digits_two (by omega) (by decide))).trans ?_
  refine (bind_of_eq_some (char_self _ _)).trans ?_
  refine (bind_of_eq_some (digits_two (by omega) (by decide))).trans ?_
  refine (bind_of_eq_some (char_self _ _)).trans ?_
  refine (bind_of_eq_some (digits_two (by omega) (by decide))).trans ?_
  refine (bind_of_eq_some hfraction).trans ?_
  refine (bind_of_eq_some (show zone ['Z'] = some (0, []) from rfl)).trans ?_
  exact if_pos rfl

end

/-! ## Years with a sign -/

/-- the sign of a year -/
def IsSign (x : Char) : Prop := x = '-' ∨ x = '+'

theorem IsSign.not_blank {x : Char} (h : IsSign x) : isBlank x = false := by
  rcases h with rfl | rfl <;> decide

theorem IsSign.not_digit {x : Char} (h : IsSign x) : x.isDigit = false := by
  rcases h with rfl | rfl <;> decide

theorem yearText_of_signed {y : Int} (h : ¬ (0 ≤ y ∧ y ≤ 9999)) :
    ∃ x, IsSign x ∧ yearText y = x :: padded 4 y.natAbs := by
  rw [yearText, if_neg h]
  split_ifs
  · exact ⟨_, .inl rfl, rfl⟩
  · exact ⟨_, .inr rfl, rfl⟩

/-- a text does not begin with white space where a year begins -/
theorem head_yearText_append (y : Int) (rest : List Char) : ∀ c ∈ (yearText y ++ rest).head?, isBlank c = false := by
  by_cases h : 0 ≤ y ∧ y ≤ 9999
  · have hdigits := isDigits_padded 4 y.toNat
    rw [yearText, if_pos h, List.head?_append_of_ne_nil _ hdigits.1]
    exact fun c hc => isBlank_of_isDigit (hdigits.head c hc)
  · obtain ⟨x, hx, hyear⟩ := yearText_of_signed h
    rw [hyear]
    rintro _ ⟨⟩
    exact hx.not_blank

section

variable {x : Char} {n : Nat} {d : CalendarDate} {c : Clock}

theorem ofTimestamp?_of_sign (hx : IsSign x) : ofTimestamp? (x :: rest) = none := by
  rw [ofTimestamp?, digits_of_not_digit (by decide) hx.not_digit]
  rfl

/-- a year with a sign is read up to the hyphen after it -/
theorem looseYear_of_sign (hx : IsSign x) (n : Nat) (rest : List Char) :
    ∃ year, looseYear (x :: (padded 4 n ++ '-' :: rest)) = some (year, '-' :: rest) := by
  have hlength := le_length_padded 4 n
  have hdigits : digits 1 (padded 4 n ++ '-' :: rest).length (padded 4 n ++ '-' :: rest) =
      some (Nat.ofDigitChars 10 (padded 4 n) 0, '-' :: rest) := by
    refine digits_append (isDigits_padded 4 n) (by omega) ?_ ?_
    · rw [List.length_append]
      omega
    · rintro _ ⟨⟩
      rfl
  have htrim : trimStart (x :: (padded 4 n ++ '-' :: rest)) = x :: (padded 4 n ++ '-' :: rest) := by
    refine trimStart_of_not_blank ?_
    rintro _ ⟨⟩
    exact hx.not_blank
  rcases hx with rfl | rfl
  · simp only [looseYear, htrim, hdigits, Option.map_some]
    exact ⟨_, rfl⟩
  · simp only [looseYear, htrim, hdigits, Option.map_some]
    exact ⟨_, rfl⟩

/-- the forms with a sign read the date -/
theorem looseDate_of_sign (hx : IsSign x) (hmonth : d.month < 100) (hday : d.day < 100) :
    ∃ date, looseDate (x :: (padded 4 n ++ '-' :: (padded 2 d.month ++ '-' :: (padded 2 d.day ++ 'T' :: rest)))) =
      some (date, 'T' :: rest) := by
  obtain ⟨year, hyear⟩ := looseYear_of_sign hx n (padded 2 d.month ++ '-' :: (padded 2 d.day ++ 'T' :: rest))
  refine ⟨⟨year, d.month, d.day⟩, ?_⟩
  simp only [looseDate, hyear, Option.bind_eq_bind, Option.bind_some, char_self,
    field_two hmonth (show '-'.isDigit = false by decide), field_two hday (show 'T'.isDigit = false by decide)]

theorem looseMinutes_clockChars (hclock : c.IsShown) : ∃ clock rest,
    looseMinutes (clockChars c ++ ['Z']) = some (clock, ':' :: rest) ∧
      looseClock (clockChars c ++ ['Z']) = some (⟨clock.hour, clock.minute, c.second, c.nanos⟩, ['Z']) := by
  obtain ⟨hour, minute, second, nanos⟩ := c
  obtain ⟨hhour, hminute, hsecond, hnanos, hmillis⟩ := hclock
  dsimp only at *
  have hminutes : looseMinutes (clockChars ⟨hour, minute, second, nanos⟩ ++ ['Z']) =
      some (⟨hour, minute, 0, 0⟩, ':' :: (padded 2 second ++ '.' :: (padded 3 (nanos / 1000000) ++ ['Z']))) := by
    simp only [looseMinutes, clockChars, List.append_assoc, List.cons_append, Option.bind_eq_bind, Option.bind_some,
      char_self, field_two (show hour < 100 by omega) (show ':'.isDigit = false by decide),
      field_two (show minute < 100 by omega) (show ':'.isDigit = false by decide)]
  have hfraction : fraction ('.' :: (padded 3 (nanos / 1000000) ++ ['Z'])) = some (nanos, ['Z']) := by
    rw [fraction_padded (by omega) (by decide), hmillis]
  refine ⟨_, _, hminutes, ?_⟩
  simp only [looseClock, hminutes, Option.bind_eq_bind, Option.bind_some, char_self, hfraction,
    field_two (show second < 100 by omega) (show '.'.isDigit = false by decide)]

theorem named_of_sign {names : List String} (hx : IsSign x) (hnames : ∀ name ∈ names, name.toList.head? ≠ some x) :
    named names (x :: rest) = none := by
  have hlower : x.toLower = x := by
    rcases hx with rfl | rfl <;> decide
  have hnone : names.findIdx? (· = String.ofList (((x :: rest).take 3).map Char.toLower)) = none := by
    refine List.findIdx?_eq_none_iff.2 fun name hname => decide_eq_false ?_
    rintro rfl
    refine hnames _ hname ?_
    rw [String.toList_ofList, List.take_succ_cons, List.map_cons, hlower]
    rfl
  simp only [named, hnone, Option.map_none]

theorem ofMail?_of_sign (hx : IsSign x) : ofMail? (x :: rest) = none := by
  have htrim : trimStart (x :: rest) = x :: rest := by
    refine trimStart_of_not_blank ?_
    rintro _ ⟨⟩
    exact hx.not_blank
  have hweekday : named weekdayNames (x :: rest) = none := by
    refine named_of_sign hx ?_
    rcases hx with rfl | rfl <;> decide
  have hday : digits 1 2 (trimStart (x :: rest)) = none := by
    rw [htrim, digits_of_not_digit (by decide) hx.not_digit]
  rw [ofMail?, htrim, mailWeekday, hweekday, Option.bind_eq_bind, Option.bind_some]
  change (digits 1 2 (trimStart (x :: rest))).bind _ = none
  rw [hday, Option.bind_none]

/-- **No form** reads a printed date with a sign: those that take the sign stop before the Z. -/
theorem readers_of_sign (hx : IsSign x) (hmonth : d.month < 100) (hday : d.day < 100) (hclock : c.IsShown)
    (hcs : cs = x :: (padded 4 n ++ '-' :: (padded 2 d.month ++ '-' :: (padded 2 d.day ++
      'T' :: (clockChars c ++ ['Z']))))) :
    ofTimestamp? cs = none ∧ ofDate? cs = none ∧ ofDateTime? (char 'T') looseClock cs = none ∧
      ofDateTime? (fun cs => some (trimStart cs)) looseClock cs = none ∧
      ofDateTime? (char 'T') looseMinutes cs = none ∧ ofMail? cs = none := by
  obtain ⟨date, hdate⟩ : ∃ date, looseDate cs = some (date, 'T' :: (clockChars c ++ ['Z'])) := by
    rw [hcs]
    exact looseDate_of_sign hx hmonth hday
  obtain ⟨clock, rest, hminutes, hread⟩ := looseMinutes_clockChars hclock
  refine ⟨?_, ?_, ?_, ?_, ?_, ?_⟩
  · rw [hcs, ofTimestamp?_of_sign hx]
  · simp only [ofDate?, hdate, Option.bind_eq_bind, Option.bind_some, reduceCtorEq, if_false]
  · simp only [ofDateTime?, hdate, Option.bind_eq_bind, Option.bind_some, char_self, hread, reduceCtorEq, if_false]
  · have hblank : trimStart ('T' :: (clockChars c ++ ['Z'])) = 'T' :: (clockChars c ++ ['Z']) := rfl
    have hhour : looseClock ('T' :: (clockChars c ++ ['Z'])) = none := rfl
    simp only [ofDateTime?, hdate, Option.bind_eq_bind, Option.bind_some, hblank, hhour, Option.bind_none]
  · simp only [ofDateTime?, hdate, Option.bind_eq_bind, Option.bind_some, char_self, hminutes, reduceCtorEq, if_false]
  · rw [hcs, ofMail?_of_sign hx]

end

/-! ## Reading what is printed -/

theorem trim_chars (t : Instant) : trim t.chars = t.chars := by
  refine trim_eq_iff.2 ⟨⟨[], [], ?_, List.forall_mem_nil _, List.forall_mem_nil _⟩, ?_, ?_⟩
  · rw [List.append_nil, List.nil_append]
  · rw [chars_eq, dateChars, List.append_assoc]
    exact head_yearText_append _ _
  · rw [chars_eq, ← List.cons_append, ← List.append_assoc, List.getLast?_concat]
    rintro _ ⟨⟩
    decide

theorem read?_text_of_year {t s : Instant} (hyear : 0 ≤ t.date.year ∧ t.date.year ≤ 9999)
    (hshown : ofLocal? t.date t.shownClock 0 = some s) : read? t.text = some s := by
  obtain ⟨hmonth, hday⟩ := t.date_lt_hundred
  simp only [read?, text, String.toList_ofList, trim_chars]
  rw [chars_eq, ofTimestamp?_text hyear hmonth hday t.shownClock_isShown, hshown]
  rfl

theorem read?_text_of_signed {t : Instant} (hyear : ¬ (0 ≤ t.date.year ∧ t.date.year ≤ 9999)) :
    read? t.text = none := by
  obtain ⟨hmonth, hday⟩ := t.date_lt_hundred
  obtain ⟨x, hx, hyearText⟩ := yearText_of_signed hyear
  have hchars := t.chars_eq
  rw [dateChars, hyearText] at hchars
  simp only [List.append_assoc, List.cons_append] at hchars
  obtain ⟨h1, h2, h3, h4, h5, h6⟩ := readers_of_sign hx hmonth hday t.shownClock_isShown hchars
  simp only [read?, text, String.toList_ofList, trim_chars, h1, h2, h3, h4, h5, h6]
  rfl

end Instant

namespace DateSchema

open Instant

variable {ctx : Context} {t : Instant}

/-- with nothing asked of dates, the texts that stand for instants are accepted -/
theorem plain_string {text : String} {t? : Option Instant} (h : read? text = t?) :
    plain.validate ctx (.string text) = t?.elim (ctx.fail .invalidDate none) fun t => .ok (.date t) := by
  rw [validate_plain, Value.readDate_string h]
  cases t? with
  | none => rfl
  | some t => rfl

/-- **What printed dates are read as.** The text of a date is its JSON and what it converts to as a text. With nothing asked
of dates, it is read as the date without what is finer than a millisecond if the year has four digits and no leap second
stands inside a minute. A leap second inside a minute is printed as the second after it and is read as that; a year before 0
or after 9999 is printed with a sign, and no such text is read. -/
theorem reading_of_printed (ctx : Context) (t : Instant) :
    (Value.date t).toJson = .string t.text ∧ TextSchema.converting.validate ctx (.date t) = .ok (.string t.text) ∧
      (0 ≤ t.date.year ∧ t.date.year ≤ 9999 → t.nanos < 1000000000 ∨ t.seconds % 60 = 59 →
        plain.validate ctx (.string t.text) = .ok (.date t.truncateToMillis)) ∧
      (0 ≤ t.date.year ∧ t.date.year ≤ 9999 → 1000000000 ≤ t.nanos → t.seconds % 60 ≠ 59 →
        ∃ s : Instant, s.seconds = t.seconds + 1 ∧ s.nanos = (t.nanos - 1000000000) / 1000000 * 1000000 ∧
          plain.validate ctx (.string t.text) = .ok (.date s)) ∧
      (¬ (0 ≤ t.date.year ∧ t.date.year ≤ 9999) →
        plain.validate ctx (.string t.text) = ctx.fail .invalidDate none) := by
  refine ⟨rfl, rfl, fun hyear h => ?_, fun hyear hleap hminute => ?_, fun hyear => ?_⟩
  · rw [plain_string (read?_text_of_year hyear (ofLocal?_shownClock h)), Option.elim_some]
  · obtain ⟨s, hseconds, hnanos, hshown⟩ := ofLocal?_shownClock_of_leap hleap hminute
    refine ⟨s, hseconds, hnanos, ?_⟩
    rw [plain_string (read?_text_of_year hyear hshown), Option.elim_some]
  · rw [plain_string (read?_text_of_signed hyear), Option.elim_none]

/-- a leap second at the end of 1968, a leap second inside a minute of that day, and the start of the year 10000 -/
theorem three_printed_dates :
    let ctx : Context := ⟨Catalog.english, .collect⟩
    let ending : Instant := ⟨-31536001, 1234567890, by decide, by decide, by decide⟩
    let inside : Instant := ⟨-31536010, 1234567890, by decide, by decide, by decide⟩
    let late : Instant := ⟨253402300800, 0, by decide, by decide, by decide⟩
    ending.date = ⟨1968, 12, 31⟩ ∧ ending.text = "1968-12-31T23:59:60.234Z" ∧
      plain.validate ctx (.string ending.text) = .ok (.date ending.truncateToMillis) ∧
      inside.text = "1968-12-31T23:59:51.234Z" ∧
      (∃ s : Instant, s.seconds = -31536009 ∧ s.nanos = 234000000 ∧
        plain.validate ctx (.string inside.text) = .ok (.date s)) ∧
      late.date = ⟨10000, 1, 1⟩ ∧ late.text = "+10000-01-01T00:00:00.000Z" ∧
      plain.validate ctx (.string late.text) = ctx.fail .invalidDate none := by
  intro ctx ending inside late
  obtain ⟨-, -, hend, -, -⟩ := reading_of_printed ctx ending
  obtain ⟨-, -, -, hinside, -⟩ := reading_of_printed ctx inside
  obtain ⟨-, -, -, -, hlate⟩ := reading_of_printed ctx late
  obtain ⟨s, hseconds, hnanos, hread⟩ := hinside (by decide) (by decide) (by decide)
  exact ⟨by decide, by decide, hend (by decide) (by decide), by decide,
    ⟨s, hseconds.trans (by decide), hnanos.trans (by decide), hread⟩, by decide, by decide, hlate (by decide)⟩

/-- printed, the start of the year 10000 is refused -/
theorem five_digit_year_not_read :
    let ctx : Context := ⟨Catalog.english, .collect⟩
    let t : Instant := ⟨253402300800, 0, by decide, by decide, by decide⟩
    t.text = "+10000-01-01T00:00:00.000Z" ∧ TextSchema.converting.validate ctx (.date t) = .ok (.string t.text) ∧
      plain.validate ctx (.string t.text) ≠ .ok (.date t.truncateToMillis) := by
  intro ctx t
  have hrefused : plain.validate ctx (.string t.text) = ctx.fail .invalidDate none := by
    rw [plain_string (read?_text_of_signed (by decide)), Option.elim_none]
  refine ⟨by decide, rfl, ?_⟩
  rw [hrefused]
  nofun

end DateSchema

end ValueSchema
