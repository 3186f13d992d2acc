import Mathlib.Tactic
import ValueSchema.Leaf.Basic

/-!
How leaves read values: a leaf with conversions reads a value of its own kind as it is and converts one of another kind,
or says why it cannot; what it does afterwards depends on what it has read alone.

Results:
- `TextSchema.validate_eq`, `NumberSchema.validate_eq`, `BigIntSchema.validate_eq`, `BooleanSchema.validate_eq`.
- `Value.readDate_string`, `Value.readDate_number`, `DateSchema.validate_plain`: dates.
-/

namespace ValueSchema

/-- what a leaf reads: a value of its own kind as it is, another one converted if the leaf converts, or why there is
nothing -/
def readAs {α : Type} (own? convert : Value → Option α) (target : String) (coerced : Bool) (v : Value) : Except Message α :=
  match own? v with
  | some a => .ok a
  | none =>
    if coerced then match convert v with
      | some a => .ok a
      | none => .error (.coercionFailed target v.typeName)
    else .error (.invalidType target v.typeName)

/-- a big integer as it is -/
def Value.bigint? : Value → Option BigInt
  | .bigint n => some n
  | _ => none

theorem TextSchema.validate_eq (s : TextSchema) (ctx : Context) (v : Value) :
    s.validate ctx v = match readAs Value.text? Value.toText? "string" s.coerced v with
      | .ok text => s.checks.run TextTest.failure ctx (s.normalized text) (.string (s.normalized text))
      | .error m => ctx.fail m s.checks.kindMessage := by
  cases v with
  | string text => rfl
  | _ =>
    simp only [validate, readAs, Value.text?]
    generalize Value.toText? _ = converted
    cases s.coerced with
    | false => rfl
    | true => cases converted <;> rfl

theorem NumberSchema.validate_eq (s : NumberSchema) (ctx : Context) (v : Value) :
    s.validate ctx v = match readAs Value.number? Value.toNumber? "number" s.coerced v with
      | .ok n =>
        if n.isNaN then ctx.wrongKind "number" (.number n) s.checks.kindMessage
        else s.checks.run NumberTest.failure ctx n (.number n)
      | .error m => ctx.fail m s.checks.kindMessage := by
  cases v with
  | number n => rfl
  | _ =>
    simp only [validate, readAs, Value.number?]
    generalize Value.toNumber? _ = converted
    cases s.coerced with
    | false => rfl
    | true => cases converted <;> rfl

theorem BigIntSchema.validate_eq (s : BigIntSchema) (ctx : Context) (v : Value) :
    s.validate ctx v = match readAs Value.bigint? Value.toBigInt? "bigint" s.coerced v with
      | .ok n => s.checks.run BigIntTest.failure ctx n (.bigint n)
      | .error m => ctx.fail m s.checks.kindMessage := by
  cases v with
  | bigint n => rfl
  | _ =>
    simp only [validate, readAs, Value.bigint?]
    generalize Value.toBigInt? _ = converted
    cases s.coerced with
    | false => rfl
    | true => cases converted <;> rfl

theorem BooleanSchema.validate_eq (s : BooleanSchema) (ctx : Context) (v : Value) :
    s.validate ctx v = match readAs Value.bool? Value.toBool? "boolean" s.coerced v with
      | .ok b => .ok (.bool b)
      | .error m => ctx.fail m s.message := by
  cases v with
  | bool b => rfl
  | _ =>
    simp only [validate, readAs, Value.bool?]
    generalize Value.toBool? _ = converted
    cases s.coerced with
    | false => rfl
    | true => cases converted <;> rfl

section

variable {t? : Option Instant}

-- `rfl` would compute the limits of numbers that stand for instants, so the definition is opened by hand
theorem Value.readDate_string {text : String} (h : Instant.read? text = t?) :
    (Value.string text).readDate = t?.elim .unreadable .instant := by
  delta Value.readDate
  dsimp only
  rw [h]
  cases t? with
  | none => rfl
  | some t => rfl

theorem Value.readDate_number {x : Double} (h : Instant.ofNumber? x = t?) :
    (Value.number x).readDate = t?.elim .unreadable .instant := by
  delta Value.readDate
  dsimp only
  rw [h]
  cases t? with
  | none => rfl
  | some t => rfl

end

theorem DateSchema.validate_plain (ctx : Context) (v : Value) :
    plain.validate ctx v = match v.readDate with
      | .instant t => .ok (.date t)
      | .unreadable => ctx.fail .invalidDate none
      | .wrongKind => ctx.wrongKind "date" v none := by
  rw [validate]
  cases v.readDate with
  | _ => rfl

end ValueSchema
