import ValueSchema.Leaf.Date
import ValueSchema.Leaf.Exact
import ValueSchema.Leaf.Number
import ValueSchema.Leaf.Text

/-!
Schemas without parts.
-/

namespace ValueSchema

inductive Leaf where
  | string (s : TextSchema)
  | number (s : NumberSchema)
  | boolean (s : BooleanSchema)
  | bigint (s : BigIntSchema)
  | date (s : DateSchema)
  | symbol
  | literal (s : LiteralSchema)
  | enumeration (s : EnumSchema)
  | any
  /-- accepts everything as well, under another name -/
  | unknown
  | never
  | null
  | undefined

namespace Leaf

/-- accepts the values of one kind -/
def ofKind (kind : Kind) (ctx : Context) (v : Value) : Outcome :=
  if v.kind = kind then .ok v else ctx.wrongKind kind.name v none

def validate : Leaf → Context → Value → Outcome
  | .string s, ctx, v => s.validate ctx v
  | .number s, ctx, v => s.validate ctx v
  | .boolean s, ctx, v => s.validate ctx v
  | .bigint s, ctx, v => s.validate ctx v
  | .date s, ctx, v => s.validate ctx v
  | .symbol, ctx, v => ofKind .symbol ctx v
  | .literal s, ctx, v => s.validate ctx v
  | .enumeration s, ctx, v => s.validate ctx v
  | .any, _, v => .ok v
  | .unknown, _, v => .ok v
  | .never, ctx, v => ctx.wrongKind "never" v none
  | .null, ctx, v => ofKind .null ctx v
  | .undefined, ctx, v => ofKind .undefined ctx v

/-- the exact values accepted, where they are listed -/
def literalValues? : Leaf → Option (List Value)
  | .literal s => some [s.value]
  | .enumeration s => some (s.options.map .string)
  | _ => none

/-- kinds of the values that could be accepted; none if that is not known -/
def inputKinds? : Leaf → Option (List Kind)
  | .string s => if s.coerced then none else some [.string]
  | .number s => if s.coerced then none else some [.number]
  | .boolean s => if s.coerced then none else some [.boolean]
  | .bigint s => if s.coerced then none else some [.bigint]
  | .date _ => some [.date, .string, .number]
  | .symbol => some [.symbol]
  | .literal s => some [s.value.kind]
  | .enumeration _ => some [.string]
  | .any => none
  | .unknown => none
  | .never => some []
  | .null => some [.null]
  | .undefined => some [.undefined]

end Leaf

end ValueSchema
