import ValueSchema.Proofs.Double.Whole
import ValueSchema.Proofs.Leaf.Reading

/-!
Dates and their distance from the epoch.

Outside leap seconds an instant is a count of nanoseconds from the epoch, and its number of milliseconds is that count
rounded down. The calendar ends within the distance at which numbers stand for instants, and well within the whole numbers
that doubles hold, so nothing is lost on the way to the number and back but what is finer than a millisecond.

Results:
- `Instant.toMillis_eq`, `Instant.ofMillis?_toMillis`, `Instant.toMillis_of_ofMillis?`: milliseconds of instants.
- `Instant.ofNumber?_eq`: which instant a whole number stands for.
- `DateSchema.epoch_millis_round_trip`: conversion to numbers and back, in either order.
-/

namespace ValueSchema

open CalendarDate

namespace Instant

/-! ## Milliseconds -/

/-- nanoseconds since the epoch; a leap second counts on into the second after it -/
def toNanos (t : Instant) : Int := t.seconds * 1000000000 + t.nanos

/-- milliseconds are nanoseconds rounded down -/
theorem toMillis_eq (t : Instant) : t.toMillis = t.toNanos / 1000000 := by
  simp only [toMillis, toNanos]
  omega

/-- what is finer than a millisecond is rounded off downwards, before the epoch too -/
theorem toNanos_truncateToMillis (t : Instant) : t.truncateToMillis.toNanos = t.toNanos / 1000000 * 1000000 := by
  simp only [toNanos, truncateToMillis]
  omega

/-- the calendar ends within the distance at which numbers stand for instants -/
theorem toMillis_bounds {t : Instant} (h : t.nanos < 1000000000) :
    -maxEpochMillis ≤ t.toMillis ∧ t.toMillis ≤ maxEpochMillis := by
  have hfirst := t.first_le
  have hlast := t.lt_last
  simp only [firstDay, lastDay] at hfirst hlast
  simp only [toMillis, maxEpochMillis]
  omega

/-- outside leap seconds the milliseconds of an instant stand for it -/
theorem ofMillis?_toMillis {t : Instant} (h : t.nanos < 1000000000) : ofMillis? t.toMillis = some t.truncateToMillis := by
  have hfirst := t.first_le
  have hlast := t.lt_last
  have hseconds : t.toMillis / 1000 = t.seconds := by
    simp only [toMillis]
    omega
  have hnanos : (t.toMillis % 1000).toNat * 1000000 = t.nanos / 1000000 * 1000000 := by
    simp only [toMillis]
    omega
  rw [ofMillis?, hseconds, hnanos, ofParts?, dif_pos ⟨by omega, by omega, hfirst, hlast⟩]
  rfl

/-- an instant made from milliseconds has them -/
theorem toMillis_of_ofMillis? {millis : Int} {t : Instant} (h : ofMillis? millis = some t) : t.toMillis = millis := by
  simp only [ofMillis?, ofParts?] at h
  split_ifs at h
  rw [← Option.some.inj h, toMillis]
  dsimp only
  omega

/-! ## Numbers -/

theorem natAbs_lt_of_bounds {millis : Int} (h : -maxEpochMillis ≤ millis ∧ millis ≤ maxEpochMillis) :
    millis.natAbs < twoPow 53 := by
  have hlimit : maxEpochMillis < (twoPow 53 : Nat) := by decide
  omega

theorem toInt?_maxEpochMillis :
    (Double.ofInt maxEpochMillis).toInt? = some maxEpochMillis ∧
      (Double.ofInt (-maxEpochMillis)).toInt? = some (-maxEpochMillis) :=
  ⟨Double.toInt?_ofInt (by decide), Double.toInt?_ofInt (by decide)⟩

/-- within the distance at which numbers stand for instants -/
def WithinEpochLimit (x : Double) : Prop :=
  (Double.ofInt (-maxEpochMillis)).numLe x = true ∧ x.numLe (Double.ofInt maxEpochMillis) = true

theorem withinEpochLimit_iff {x : Double} {i : Int} (h : x.toInt? = some i) :
    WithinEpochLimit x ↔ -maxEpochMillis ≤ i ∧ i ≤ maxEpochMillis := by
  obtain ⟨hmax, hmin⟩ := toInt?_maxEpochMillis
  rw [WithinEpochLimit, Double.numLe_iff_of_toInt? hmin h, Double.numLe_iff_of_toInt? h hmax]

/-- a whole number within the limit stands for the instant at that many milliseconds -/
theorem ofNumber?_eq {x : Double} {i : Int} (h : x.toInt? = some i) :
    ofNumber? x = if -maxEpochMillis ≤ i ∧ i ≤ maxEpochMillis then ofMillis? i else none := by
  have hlimit : ((Double.ofInt (-maxEpochMillis)).numLe x && x.numLe (Double.ofInt maxEpochMillis)) = true ↔
      -maxEpochMillis ≤ i ∧ i ≤ maxEpochMillis := by
    rw [Bool.and_eq_true]
    exact withinEpochLimit_iff h
  rw [ofNumber?, Double.trunc?_of_toInt? h, Option.bind_some]
  exact if_congr hlimit rfl rfl

end Instant

namespace DateSchema

open Instant

variable {ctx : Context}

/-- with nothing asked of dates, the numbers that stand for instants are accepted -/
theorem plain_number_eq_ok_iff {x : Double} {w : Value} :
    plain.validate ctx (.number x) = .ok w ↔ ∃ t, ofNumber? x = some t ∧ w = .date t := by
  generalize h : ofNumber? x = t?
  rw [validate_plain, Value.readDate_number h]
  cases t? with
  | none => exact iff_of_false nofun (by rintro ⟨t, h, -⟩; cases h)
  | some t => simp only [Option.elim_some, Except.ok.injEq, Option.some.injEq, exists_eq_left', eq_comm]

/-- with nothing asked of numbers, a date converts to its milliseconds -/
theorem converting_date (t : Instant) :
    NumberSchema.converting.validate ctx (.date t) = .ok (.number (.ofInt t.toMillis)) := by
  have hread : readAs Value.number? Value.toNumber? "number" NumberSchema.converting.coerced (.date t) =
      .ok (.ofInt t.toMillis) := rfl
  rw [NumberSchema.validate_eq, hread]
  simp only [Double.isNaN_ofInt]
  rfl

/-- **Milliseconds and dates are inverse.** Outside leap seconds, a date converts to the number of milliseconds from the
epoch, rounded down to a whole number that is held exactly and lies within the limit, and this number is accepted as the
date without what is finer than a millisecond. The other way, a whole number that is accepted as a date is the number that
the date converts to. -/
theorem epoch_millis_round_trip (ctx : Context) :
    (∀ t : Instant, t.nanos < 1000000000 → ∃ x : Double,
      NumberSchema.converting.validate ctx (.date t) = .ok (.number x) ∧
      x.rational? = some ((t.toNanos / 1000000 : Int) : ℚ) ∧ (t.toNanos / 1000000).natAbs < 2 ^ 53 ∧
      WithinEpochLimit x ∧
      plain.validate ctx (.number x) = .ok (.date t.truncateToMillis) ∧
      t.truncateToMillis.toNanos = t.toNanos / 1000000 * 1000000) ∧
    ∀ (x : Double) (w : Value), x.isInteger = true → plain.validate ctx (.number x) = .ok w →
      ∃ y : Double, NumberSchema.converting.validate ctx w = .ok (.number y) ∧ y.numEq x = true := by
  constructor
  · intro t ht
    have hbounds := toMillis_bounds ht
    have hexact := natAbs_lt_of_bounds hbounds
    have hint : (Double.ofInt t.toMillis).toInt? = some t.toMillis := Double.toInt?_ofInt hexact.le
    rw [← toMillis_eq]
    refine ⟨.ofInt t.toMillis, converting_date t, Double.rational?_ofInt hexact.le, hexact, ?_, ?_, ?_⟩
    · exact (withinEpochLimit_iff hint).2 hbounds
    · refine plain_number_eq_ok_iff.2 ⟨_, ?_, rfl⟩
      rw [ofNumber?_eq hint, if_pos hbounds, ofMillis?_toMillis ht]
    · rw [toMillis_eq, toNanos_truncateToMillis]
  · intro x w hwhole haccepted
    obtain ⟨i, hi⟩ := Option.isSome_iff_exists.1 hwhole
    obtain ⟨t, ht, rfl⟩ := plain_number_eq_ok_iff.1 haccepted
    rw [ofNumber?_eq hi, Option.ite_none_right_eq_some] at ht
    obtain ⟨hbounds, hmillis⟩ := ht
    refine ⟨_, converting_date t, ?_⟩
    rw [toMillis_of_ofMillis? hmillis,
      Double.numEq_iff_of_toInt? (Double.toInt?_ofInt (natAbs_lt_of_bounds hbounds).le) hi]

/-- the last nanosecond before the epoch goes down to the millisecond -1, which goes back and forth unchanged -/
theorem last_nanosecond_before_epoch :
    let ctx : Context := ⟨Catalog.english, .collect⟩
    let t : Instant := ⟨-1, 999999999, by decide, by decide, by decide⟩
    let start : Instant := ⟨-1, 999000000, by decide, by decide, by decide⟩
    t.nanos < 1000000000 ∧ ∃ x : Double, NumberSchema.converting.validate ctx (.date t) = .ok (.number x) ∧
      x.rational? = some (-1) ∧ x.isInteger = true ∧ plain.validate ctx (.number x) = .ok (.date start) ∧
      ∃ y : Double, NumberSchema.converting.validate ctx (.date start) = .ok (.number y) ∧ y.numEq x = true := by
  intro ctx t start
  obtain ⟨x, hconverted, hrational, -, -, haccepted, -⟩ := (epoch_millis_round_trip ctx).1 t (by decide)
  have hmillis : t.toNanos / 1000000 = -1 := by decide
  have hstart : t.truncateToMillis = start := by decide
  rw [hmillis] at hrational
  rw [hstart] at haccepted
  have hwhole : x.isInteger = true := Option.isSome_iff_exists.2 ⟨-1, Double.toInt?_eq_some_iff.2 hrational⟩
  exact ⟨by decide, x, hconverted, by simpa using hrational, hwhole, haccepted,
    (epoch_millis_round_trip ctx).2 x (.date start) hwhole haccepted⟩

end DateSchema

end ValueSchema
