import ValueSchema.Leaf.Date
import ValueSchema.Proofs.Calendar.Dates

/-!
Being on the day of a reference is having its date.

The check compares with two midnights, one at each end of the day of the reference. An instant lies between them exactly if
its day is that one: leap seconds prolong the last second of a day and stay in it, days before the epoch are counted
downwards, and after the last day there is no midnight and no instant either.

Results:
- `Instant.date_eq_iff`, `Instant.date_before_iff`: dates of instants, by their days.
- `DateSchema.on_day_of_reference`: what the check accepts, and with which limits it refuses.
-/

namespace ValueSchema

open CalendarDate

namespace Instant

/-! ## Days of instants -/

theorem firstDay_le_day (t : Instant) : firstDay ≤ t.day := by
  have h := t.first_le
  simp only [day]
  omega

theorem day_le_lastDay (t : Instant) : t.day ≤ lastDay := by
  have h := t.lt_last
  simp only [day]
  omega

theorem date_eq_iff {s t : Instant} : s.date = t.date ↔ s.day = t.day := ofDayNumber_inj

theorem date_before_iff {s t : Instant} : s.date.Before t.date ↔ s.day < t.day := before_ofDayNumber_iff

theorem lt_eq_true_iff {s t : Instant} :
    s.lt t = true ↔ s.seconds < t.seconds ∨ s.seconds = t.seconds ∧ s.nanos < t.nanos := by
  simp only [lt, Bool.or_eq_true, Bool.and_eq_true, decide_eq_true_eq, beq_iff_eq]

/-! ## Midnights -/

/-- the first instant of a date -/
structure IsMidnight (t : Instant) (d : CalendarDate) : Prop where
  date : t.date = d
  seconds : t.seconds % 86400 = 0
  nanos : t.nanos = 0

/-- before a midnight are the instants of earlier dates -/
theorem IsMidnight.lt_iff {m t : Instant} {d : CalendarDate} (h : m.IsMidnight d) : t.lt m = true ↔ t.date.Before d := by
  obtain ⟨rfl, hseconds, hnanos⟩ := h
  rw [lt_eq_true_iff, date_before_iff, hnanos, day, day]
  omega

theorem startOfDay_isMidnight (t : Instant) : t.startOfDay.IsMidnight t.date := by
  refine ⟨date_eq_iff.2 ?_, ?_, rfl⟩
  · simp only [startOfDay, day]
    omega
  · simp only [startOfDay]
    omega

/-- a day ends at the midnight of the next one, or is the last day -/
theorem endOfDay?_spec (t : Instant) :
    (∃ m, t.endOfDay? = some m ∧ m.IsMidnight t.date.next) ∨ t.endOfDay? = none ∧ t.day = lastDay := by
  have hfirst := t.firstDay_le_day
  have hlast := t.day_le_lastDay
  simp only [endOfDay?, ofParts?]
  split_ifs with h
  · refine .inl ⟨_, rfl, ?_, ?_, rfl⟩
    · rw [date, date, ← ofDayNumber_succ]
      congr 1
      simp only [day]
      omega
    · dsimp only
      omega
  · refine .inr ⟨rfl, ?_⟩
    omega

/-- before the next date are the instants of a day and of those before it -/
theorem date_before_next_iff {s t : Instant} : s.date.Before t.date.next ↔ s.day ≤ t.day := by
  rw [date, date, ← ofDayNumber_succ, before_ofDayNumber_iff, Int.lt_add_one_iff]

end Instant

/-! ## The check -/

namespace DateTest

open Instant

variable {reference t : Instant}

theorem sameDay_failure_of_before (h : t.date.Before reference.date) :
    (sameDay reference).failure t = some (.tooSmall .date (.date reference.startOfDay) true false) := by
  have hlt := reference.startOfDay_isMidnight.lt_iff.2 h
  simp only [failure, hlt, if_true]

theorem sameDay_failure_of_after (h : reference.date.Before t.date) :
    ∃ next : Instant, next.IsMidnight reference.date.next ∧
      (sameDay reference).failure t = some (.tooBig .date (.date next) false false) := by
  have hday := date_before_iff.1 h
  have hlast := t.day_le_lastDay
  obtain ⟨next, hnext, hmidnight⟩ | ⟨-, hend⟩ := reference.endOfDay?_spec
  · have hstart : t.lt reference.startOfDay = false := by
      rw [Bool.eq_false_iff, Ne, reference.startOfDay_isMidnight.lt_iff, date_before_iff]
      omega
    have hle : next.le t = true := by
      rw [le, Bool.not_eq_true', Bool.eq_false_iff, Ne, hmidnight.lt_iff, date_before_next_iff]
      omega
    refine ⟨next, hmidnight, ?_⟩
    simp only [failure, hstart, hnext, hle, if_true, Bool.false_eq_true, if_false]
  · omega

theorem sameDay_failure_of_eq (h : t.date = reference.date) : (sameDay reference).failure t = none := by
  have hday := date_eq_iff.1 h
  have hstart : t.lt reference.startOfDay = false := by
    rw [Bool.eq_false_iff, Ne, reference.startOfDay_isMidnight.lt_iff, date_before_iff]
    omega
  obtain ⟨next, hnext, hmidnight⟩ | ⟨hnone, -⟩ := reference.endOfDay?_spec
  · have hle : next.le t = false := by
      rw [le, Bool.not_eq_false', hmidnight.lt_iff, date_before_next_iff]
      omega
    simp only [failure, hstart, hnext, hle, Bool.false_eq_true, if_false]
  · simp only [failure, hstart, hnone, Bool.false_eq_true, if_false]

end DateTest

namespace DateSchema

open Instant DateTest

/-- accepts the instants on the day of a reference -/
def onDayOf (reference : Instant) : DateSchema := plain.check (.sameDay reference)

theorem validate_onDayOf (ctx : Context) (reference t : Instant) :
    (onDayOf reference).validate ctx (.date t) = match (sameDay reference).failure t with
      | some m => ctx.fail m none
      | none => .ok (.date t) := by
  have hissue : (onDayOf reference).checks.firstIssue DateTest.failure ctx t =
      ((sameDay reference).failure t).map fun m => ctx.issue m none := by
    rw [onDayOf, check, plain, Checks.add, Checks.empty, Checks.firstIssue, List.nil_append, List.findSome?_singleton]
  have hread : (onDayOf reference).validate ctx (.date t) =
      (onDayOf reference).checks.run DateTest.failure ctx t (.date t) := rfl
  rw [hread, Checks.run, hissue]
  cases (sameDay reference).failure t with
  | none => rfl
  | some m => rfl

/-- **On the day of a reference** are exactly the instants of its date. One of an earlier date is refused with the midnight
that begins the date of the reference, one of a later date with the midnight that begins the next date, which is not
included. -/
theorem on_day_of_reference (ctx : Context) (reference t : Instant) :
    ((onDayOf reference).validate ctx (.date t) = .ok (.date t) ↔ t.date = reference.date) ∧
      (t.date.Before reference.date → ∃ start : Instant, start.IsMidnight reference.date ∧
        (onDayOf reference).validate ctx (.date t) = ctx.fail (.tooSmall .date (.date start) true false) none) ∧
      (reference.date.Before t.date → ∃ next : Instant, next.IsMidnight reference.date.next ∧
        (onDayOf reference).validate ctx (.date t) = ctx.fail (.tooBig .date (.date next) false false) none) := by
  have hsmall : t.date.Before reference.date → ∃ start : Instant, start.IsMidnight reference.date ∧
      (onDayOf reference).validate ctx (.date t) = ctx.fail (.tooSmall .date (.date start) true false) none := by
    intro h
    refine ⟨reference.startOfDay, reference.startOfDay_isMidnight, ?_⟩
    rw [validate_onDayOf, sameDay_failure_of_before h]
  have hbig : reference.date.Before t.date → ∃ next : Instant, next.IsMidnight reference.date.next ∧
      (onDayOf reference).validate ctx (.date t) = ctx.fail (.tooBig .date (.date next) false false) none := by
    intro h
    obtain ⟨next, hmidnight, hfailure⟩ := sameDay_failure_of_after h
    refine ⟨next, hmidnight, ?_⟩
    rw [validate_onDayOf, hfailure]
  refine ⟨⟨fun haccepted => ?_, fun h => ?_⟩, hsmall, hbig⟩
  · rw [date_eq_iff]
    rcases lt_trichotomy t.day reference.day with hlt | heq | hgt
    · obtain ⟨start, -, hrefused⟩ := hsmall (date_before_iff.2 hlt)
      cases haccepted.symm.trans hrefused
    · exact heq
    · obtain ⟨next, -, hrefused⟩ := hbig (date_before_iff.2 hgt)
      cases haccepted.symm.trans hrefused
  · rw [validate_onDayOf, sameDay_failure_of_eq h]

/-- the first instant there is, and noon and a leap second of the last day, which no midnight ends -/
theorem first_and_last_day :
    let first : Instant := ⟨-8334601228800, 0, by decide, by decide, by decide⟩
    let noon : Instant := ⟨8210266833600, 0, by decide, by decide, by decide⟩
    let leap : Instant := ⟨8210266876799, 1999999999, by decide, by decide, by decide⟩
    leap.date = ⟨262142, 12, 31⟩ ∧ noon.endOfDay? = none ∧
      (onDayOf noon).validate ⟨Catalog.english, .collect⟩ (.date leap) = .ok (.date leap) ∧
      first.date.Before noon.date ∧
      (∃ start : Instant, start.IsMidnight ⟨262142, 12, 31⟩ ∧
        (onDayOf noon).validate ⟨Catalog.english, .collect⟩ (.date first) =
          (⟨Catalog.english, .collect⟩ : Context).fail (.tooSmall .date (.date start) true false) none) ∧
      ∃ next : Instant, next.IsMidnight ⟨-262143, 1, 2⟩ ∧
        (onDayOf first).validate ⟨Catalog.english, .collect⟩ (.date leap) =
          (⟨Catalog.english, .collect⟩ : Context).fail (.tooBig .date (.date next) false false) none := by
  intro first noon leap
  have hearlier : first.date.Before noon.date := date_before_iff.2 (by decide)
  have hlater : first.date.Before leap.date := date_before_iff.2 (by decide)
  obtain ⟨haccepted, hsmall, -⟩ := on_day_of_reference ⟨Catalog.english, .collect⟩ noon leap
  refine ⟨by decide, by decide, haccepted.2 (date_eq_iff.2 (by decide)), hearlier, ?_, ?_⟩
  · exact (on_day_of_reference ⟨Catalog.english, .collect⟩ noon first).2.1 hearlier
  · exact (on_day_of_reference ⟨Catalog.english, .collect⟩ first leap).2.2 hlater

end DateSchema

end ValueSchema
