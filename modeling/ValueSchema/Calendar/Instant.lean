import ValueSchema.Calendar.Day

/-!
Instants in UTC: whole seconds since the start of 1970 and nanoseconds inside the second.

A leap second is a second running on: its nanoseconds start at 10^9. Clocks in UTC have it at the end of a minute only, and so
has what is made from parts or read from a text; an instant that comes from elsewhere can have it after any second. Instants
are limited to the years of calendar dates.
-/

namespace ValueSchema

structure Instant where
  /-- whole seconds since the epoch, rounded down -/
  seconds : Int
  /-- nanoseconds inside the second, 10^9 more inside a leap second -/
  nanos : Nat
  nanos_lt : nanos < 2000000000
  first_le : CalendarDate.firstDay * 86400 ≤ seconds
  lt_last : seconds < (CalendarDate.lastDay + 1) * 86400
  deriving DecidableEq

namespace Instant

/-- the instant with the given parts, if there is one; a leap second must end its minute -/
def ofParts? (seconds : Int) (nanos : Nat) : Option Instant :=
  if h : nanos < 2000000000 ∧ (1000000000 ≤ nanos → seconds % 60 = 59) ∧
      CalendarDate.firstDay * 86400 ≤ seconds ∧ seconds < (CalendarDate.lastDay + 1) * 86400 then
    some ⟨seconds, nanos, h.1, h.2.2.1, h.2.2.2⟩
  else none

/-- strictly earlier; a leap second is later than the second it prolongs -/
def lt (a b : Instant) : Bool := a.seconds < b.seconds || (a.seconds == b.seconds && a.nanos < b.nanos)

def le (a b : Instant) : Bool := !b.lt a

/-- milliseconds since the epoch, rounded down -/
def toMillis (t : Instant) : Int := t.seconds * 1000 + (t.nanos / 1000000 : Nat)

def ofMillis? (millis : Int) : Option Instant := ofParts? (millis / 1000) ((millis % 1000).toNat * 1000000)

/-- the day number of the calendar day -/
def day (t : Instant) : Int := t.seconds / 86400

def date (t : Instant) : CalendarDate := CalendarDate.ofDayNumber t.day

/-- midnight at the start of the instant's day -/
def startOfDay (t : Instant) : Instant where
  seconds := t.day * 86400
  nanos := 0
  nanos_lt := by decide
  first_le := by
    have h := t.first_le
    simp only [day]
    omega
  lt_last := by
    have h := t.lt_last
    simp only [day]
    omega

/-- midnight at the end of the instant's day; none on the last day -/
def endOfDay? (t : Instant) : Option Instant := ofParts? ((t.day + 1) * 86400) 0

/-- without what is finer than a millisecond -/
def truncateToMillis (t : Instant) : Instant where
  seconds := t.seconds
  nanos := t.nanos / 1000000 * 1000000
  nanos_lt := by have h := t.nanos_lt; omega
  first_le := t.first_le
  lt_last := t.lt_last

end Instant

end ValueSchema
