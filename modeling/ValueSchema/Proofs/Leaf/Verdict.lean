import ValueSchema.Proofs.Leaf.Reading

/-!
Leaves decide by the value alone.

A finding is a failure and the text that the author of the schema gave for it, if any. A leaf finds something wrong with a
value or it does not, and no setting has a say in that: it accepts the value with the same output in every setting, or
fails in every setting with one issue that tells what it has found. A catalog is asked for words only where there is no
text of the schema's own.

Results:
- `Checks.firstIssue_eq`, `Leaf.judged`: checks and leaves tell what they find.
- `Checks.own_text`, `Leaf.own_text`: where the author gave a text, this is what is told.
- `Leaf.verdict`: one output in every setting, or one cause of failure.
-/

namespace ValueSchema

/-- a failure, and the author's text for it -/
structure Finding where
  message : Message
  own : Option String

/-- the issue that tells a finding -/
def Context.tell (ctx : Context) (f : Finding) : Issue := ctx.issue f.message f.own

/-! ## Checks -/

section Checks

variable {κ α : Type} (c : Checks κ) (failure : κ → α → Option Message) (a : α)

/-- what the first check that fails finds, with the text of that check -/
def Checks.finding? : Option Finding := c.items.findSome? fun check => (failure check.test a).map (⟨·, check.message⟩)

theorem Checks.firstIssue_eq (ctx : Context) :
    c.firstIssue failure ctx a = (c.finding? failure a).map ctx.tell := by
  obtain ⟨items, own⟩ := c
  simp only [firstIssue, finding?]
  induction items with
  | nil => rfl
  | cons check rest ih =>
    rw [List.findSome?_cons, List.findSome?_cons]
    cases failure check.test a with
    | none => exact ih
    | some m => rfl

end Checks

/-- **Own texts of checks.** Whatever the catalog, the issue of the first check that fails has the text of that check. -/
theorem Checks.own_text {κ α : Type} {c : Checks κ} {failure : κ → α → Option Message} {a : α} {f : Finding} {text : String}
    (h : c.finding? failure a = some f) (hown : f.own = some text) (ctx : Context) :
    ∃ i, c.firstIssue failure ctx a = some i ∧ i.message = text := by
  refine ⟨ctx.tell f, ?_, ?_⟩
  · rw [firstIssue_eq, h, Option.map_some]
  · simp only [Context.tell, Context.issue, hown, Option.getD_some]

/-! ## Leaves -/

/-- what a leaf for one kind finds -/
def Leaf.otherKind? (kind : Kind) (v : Value) : Option Finding :=
  if v.kind = kind then none else some ⟨.invalidType kind.name v.typeName, none⟩

/-- what a leaf finds wrong with a value -/
def Leaf.finding? : Leaf → Value → Option Finding
  | .string s, v => match readAs Value.text? Value.toText? "string" s.coerced v with
    | .ok text => s.checks.finding? TextTest.failure (s.normalized text)
    | .error m => some ⟨m, s.checks.kindMessage⟩
  | .number s, v => match readAs Value.number? Value.toNumber? "number" s.coerced v with
    | .ok n =>
      if n.isNaN then some ⟨.invalidType "number" (Value.number n).typeName, s.checks.kindMessage⟩
      else s.checks.finding? NumberTest.failure n
    | .error m => some ⟨m, s.checks.kindMessage⟩
  | .bigint s, v => match readAs Value.bigint? Value.toBigInt? "bigint" s.coerced v with
    | .ok n => s.checks.finding? BigIntTest.failure n
    | .error m => some ⟨m, s.checks.kindMessage⟩
  | .boolean s, v => match readAs Value.bool? Value.toBool? "boolean" s.coerced v with
    | .ok _ => none
    | .error m => some ⟨m, s.message⟩
  | .date s, v => match v.readDate with
    | .instant t => s.checks.finding? DateTest.failure t
    | .unreadable => some ⟨.invalidDate, s.checks.kindMessage⟩
    | .wrongKind =>
      if s.coerced then some ⟨.coercionFailed "date" v.typeName, s.checks.kindMessage⟩
      else some ⟨.invalidType "date" v.typeName, s.checks.kindMessage⟩
  | .literal s, v => if v.same s.value then none else some ⟨.invalidLiteral s.value, s.message⟩
  | .enumeration s, v =>
    if v.text?.any s.options.contains then none else some ⟨.invalidEnumValue s.options v, s.message⟩
  | .symbol, v => otherKind? .symbol v
  | .null, v => otherKind? .null v
  | .undefined, v => otherKind? .undefined v
  | .any, _ => none
  | .unknown, _ => none
  | .never, v => some ⟨.invalidType "never" v.typeName, none⟩

/-- one output in every setting if nothing is found, and otherwise the finding told in each -/
def JudgedBy (judge : Context → Outcome) : Option Finding → Prop
  | none => ∃ w, ∀ ctx, judge ctx = .ok w
  | some f => ∀ ctx, judge ctx = .error [ctx.tell f]

namespace JudgedBy

theorem ok (w : Value) : JudgedBy (fun _ => .ok w) none := ⟨w, fun _ => rfl⟩

theorem fail (m : Message) (own : Option String) : JudgedBy (fun ctx => ctx.fail m own) (some ⟨m, own⟩) := fun _ => rfl

theorem checks {κ α : Type} (c : Checks κ) (failure : κ → α → Option Message) (a : α) (output : Value) :
    JudgedBy (fun ctx => c.run failure ctx a output) (c.finding? failure a) := by
  simp only [Checks.run, Checks.firstIssue_eq]
  cases c.finding? failure a with
  | none => exact .ok output
  | some f => exact fun _ => rfl

end JudgedBy

theorem Leaf.ofKind_judged (kind : Kind) (v : Value) : JudgedBy (ofKind kind · v) (otherKind? kind v) := by
  unfold ofKind otherKind?
  split_ifs
  · exact .ok v
  · exact .fail _ _

/-- **Leaves find the same in every setting**, and tell what they find. -/
theorem Leaf.judged (l : Leaf) (v : Value) : JudgedBy (l.validate · v) (l.finding? v) := by
  cases l with
  | string s =>
    simp only [validate, finding?, TextSchema.validate_eq]
    cases readAs Value.text? Value.toText? "string" s.coerced v with
    | ok text => exact .checks _ _ _ _
    | error m => exact .fail _ _
  | number s =>
    simp only [validate, finding?, NumberSchema.validate_eq]
    cases readAs Value.number? Value.toNumber? "number" s.coerced v with
    | ok n =>
      simp only
      split_ifs
      · exact .fail _ _
      · exact .checks _ _ _ _
    | error m => exact .fail _ _
  | bigint s =>
    simp only [validate, finding?, BigIntSchema.validate_eq]
    cases readAs Value.bigint? Value.toBigInt? "bigint" s.coerced v with
    | ok n => exact .checks _ _ _ _
    | error m => exact .fail _ _
  | boolean s =>
    simp only [validate, finding?, BooleanSchema.validate_eq]
    cases readAs Value.bool? Value.toBool? "boolean" s.coerced v with
    | ok b => exact .ok _
    | error m => exact .fail _ _
  | date s =>
    simp only [validate, finding?, DateSchema.validate]
    cases v.readDate with
    | instant t => exact .checks _ _ _ _
    | unreadable => exact .fail _ _
    | wrongKind =>
      simp only
      split_ifs
      · exact .fail _ _
      · exact .fail _ _
  | literal s =>
    simp only [validate, finding?, LiteralSchema.validate]
    split_ifs
    · exact .ok _
    · exact .fail _ _
  | enumeration s =>
    simp only [validate, finding?, EnumSchema.validate]
    split_ifs
    · exact .ok _
    · exact .fail _ _
  | symbol => exact ofKind_judged .symbol v
  | null => exact ofKind_judged .null v
  | undefined => exact ofKind_judged .undefined v
  | any | unknown => exact .ok v
  | never => exact .fail _ _

/-- **Own texts of leaves.** Whatever the catalog, a leaf that fails where its author gave a text gives this text. -/
theorem Leaf.own_text {l : Leaf} {v : Value} {f : Finding} {text : String} (h : l.finding? v = some f)
    (hown : f.own = some text) (ctx : Context) : ∃ i, l.validate ctx v = .error [i] ∧ i.message = text := by
  have hjudged := l.judged v
  rw [h] at hjudged
  refine ⟨ctx.tell f, hjudged ctx, ?_⟩
  simp only [Context.tell, Context.issue, hown, Option.getD_some]

/-- one output in every setting, or one cause of failure in every setting -/
def Verdict (judge : Context → Outcome) : Prop :=
  (∃ w, ∀ ctx, judge ctx = .ok w) ∨ ∃ m own, ∀ ctx, judge ctx = ctx.fail m own

/-- **Leaves decide by the value alone.** In every setting a leaf gives the same output, or fails with the same cause. -/
theorem Leaf.verdict (l : Leaf) (v : Value) : Verdict (l.validate · v) := by
  have hjudged := l.judged v
  cases hf : l.finding? v with
  | none =>
    rw [hf] at hjudged
    exact Or.inl hjudged
  | some f =>
    rw [hf] at hjudged
    exact Or.inr ⟨f.message, f.own, hjudged⟩

end ValueSchema
