import ValueSchema.Check
import ValueSchema.Value.Coerce

/-!
Dates: instants, and texts and numbers of milliseconds that stand for one.

A value of these kinds that stands for no instant is an invalid date, which is not the same as a value of the wrong kind.
-/

namespace ValueSchema

/-- what can be asked of an instant -/
inductive DateTest where
  | atLeast (bound : Instant)
  | atMost (bound : Instant)
  | before (reference : Instant)
  | after (reference : Instant)
  /-- on the calendar day of a reference, in UTC -/
  | sameDay (reference : Instant)
  deriving DecidableEq

/-- why an instant fails a test, if it does; the last day has no end -/
def DateTest.failure (test : DateTest) (t : Instant) : Option Message :=
  match test with
  | .atLeast bound => if t.lt bound then some (.tooSmall .date (.date bound) true false) else none
  | .atMost bound => if bound.lt t then some (.tooBig .date (.date bound) true false) else none
  | .before reference => if reference.le t then some (.tooBig .date (.date reference) false false) else none
  | .after reference => if t.le reference then some (.tooSmall .date (.date reference) false false) else none
  | .sameDay reference =>
    if t.lt reference.startOfDay then some (.tooSmall .date (.date reference.startOfDay) true false)
    else match reference.endOfDay? with
      | some midnight => if midnight.le t then some (.tooBig .date (.date midnight) false false) else none
      | none => none

structure DateSchema where
  checks : Checks DateTest
  /-- whether a value of another kind is one that failed to convert -/
  coerced : Bool

namespace DateSchema

def plain : DateSchema := ⟨.empty, false⟩

/-- takes a value of another kind for one that failed to convert -/
def converting : DateSchema := ⟨.empty, true⟩

def check (s : DateSchema) (test : DateTest) : DateSchema := { s with checks := s.checks.add test }

def message (s : DateSchema) (text : String) : DateSchema := { s with checks := s.checks.message text }

def validate (s : DateSchema) (ctx : Context) (v : Value) : Outcome :=
  match v.readDate with
  | .instant t => s.checks.run DateTest.failure ctx t (.date t)
  | .unreadable => ctx.fail .invalidDate s.checks.kindMessage
  | .wrongKind =>
    if s.coerced then ctx.notConverted "date" v s.checks.kindMessage
    else ctx.wrongKind "date" v s.checks.kindMessage

end DateSchema

end ValueSchema
