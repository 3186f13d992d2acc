import ValueSchema.Proofs.Builder.Calls
import ValueSchema.Proofs.Schema.Runs

/-!
Builders make pipelines.

A schema made by a row of calls first prepares a value: it reads or converts it and applies the normalisers, or validates
the elements. Only then do checks run, whichever way the calls were interleaved. What is prepared depends on the
normalisers alone, what is found on the tests alone, and texts are told and nothing else.

Results:
- `IsPipeline.of_eq`: a schema that prepares and then checks is a pipeline.
- `Schema.built_is_pipeline`: texts, numbers, big integers, dates, arrays and sets.
-/

namespace ValueSchema

open Call

/-! ## Pipelines -/

/-- a value that is ready for its checks: the issues of its elements, what the checks look at, and the output if they
pass -/
structure Prepared (α : Type) where
  issues : List Issue
  subject : α
  output : Value

/-- how values are prepared, given the normalisers in the order of their declaration: nothing if an element does not come
to an end, and the cause of refusal if there is nothing to check -/
abbrev Preparation (ν α : Type) := List ν → Context → Value → Option (Except Message (Prepared α))

/-- the value is of the wrong kind, fails to convert, or is a date that cannot be read -/
def Message.IsRefusal (m : Message) : Prop :=
  m.code = .invalidType ∨ m.code = .coercionFailed ∨ m.code = .invalidDate

/-- an outcome without the words of its issues -/
def Outcome.wordless (o : Outcome) : Outcome := o.mapError (List.map fun i => { i with message := "" })

/-- what a row of calls makes is a pipeline: values are prepared first, then checked in the order of declaration -/
structure IsPipeline {κ ν α : Type} (failure : κ → α → Option Message) (prepare : Preparation ν α)
    (judge : List (Call κ ν) → Validator) : Prop where
  /-- without an answer from the elements there is none -/
  unanswered (calls : List (Call κ ν)) (ctx : Context) (v : Value) :
    prepare (normalizers calls) ctx v = none → judge calls ctx v = none
  /-- what cannot be checked is refused, in the last text before the first check if there is one -/
  refused (calls : List (Call κ ν)) (ctx : Context) (v : Value) (m : Message) :
    prepare (normalizers calls) ctx v = some (.error m) → judge calls ctx v = some (ctx.fail m (ownText calls))
  /-- what is refused is not a value to check -/
  refusal (ns : List ν) (ctx : Context) (v : Value) (m : Message) : prepare ns ctx v = some (.error m) → m.IsRefusal
  /-- what can be checked does not depend on a text given before any check -/
  leading_text (before after : List (Call κ ν)) (text : String) (ctx : Context) (v : Value) (p : Prepared α) :
    tests before = [] → prepare (normalizers (before ++ after)) ctx v = some (.ok p) →
      judge (before ++ .message text :: after) ctx v = judge (before ++ after) ctx v
  /-- a value passes if and only if it passes every test -/
  accepted_iff (calls : List (Call κ ν)) (ctx : Context) (v : Value) (p : Prepared α) :
    prepare (normalizers calls) ctx v = some (.ok p) → p.issues = [] →
      (judge calls ctx v = some (.ok p.output) ↔ ∀ test ∈ tests calls, failure test p.subject = none)
  /-- otherwise there is one issue, that of the first check that fails, in the last text before the next check -/
  first_failure (calls : List (Call κ ν)) (ctx : Context) (v : Value) (p : Prepared α) :
    prepare (normalizers calls) ctx v = some (.ok p) → p.issues = [] →
      (∃ test ∈ tests calls, failure test p.subject ≠ none) →
      ∃ before test after m, calls = before ++ .check test :: after ∧
        (∀ earlier ∈ tests before, failure earlier p.subject = none) ∧ failure test p.subject = some m ∧
        judge calls ctx v = some (ctx.fail m (ownText after))
  /-- if the first issue decides, issues of elements leave the checks out -/
  stopped (calls : List (Call κ ν)) (ctx : Context) (v : Value) (p : Prepared α) :
    prepare (normalizers calls) ctx v = some (.ok p) → p.issues ≠ [] → ctx.mode = .failFast →
      judge calls ctx v = some (.error p.issues)
  /-- otherwise what the checks find comes after the issues of elements -/
  collected (calls : List (Call κ ν)) (ctx : Context) (v : Value) (p : Prepared α) :
    prepare (normalizers calls) ctx v = some (.ok p) → p.issues ≠ [] → ctx.mode = .collect →
      ∃ found, Finds failure p.subject calls found ∧
        judge calls ctx v = some (.error (p.issues ++ found.toList.map ctx.tell))
  /-- rows of calls that differ in their texts alone differ in words alone -/
  wordless (calls calls' : List (Call κ ν)) (ctx : Context) (v : Value) :
    (calls.filter fun call => !call.isMessage) = (calls'.filter fun call => !call.isMessage) →
      (judge calls ctx v).map Outcome.wordless = (judge calls' ctx v).map Outcome.wordless

/-- ends with the issues of elements and what the checks find -/
def Prepared.conclude {α : Type} (p : Prepared α) (ctx : Context) (found : Option Finding) : Outcome :=
  Validator.close ctx.mode p.issues (found.toList.map ctx.tell) p.output

namespace Prepared

variable {α : Type} {p : Prepared α}

theorem conclude_of_nil (h : p.issues = []) (ctx : Context) (found : Option Finding) :
    p.conclude ctx found = match found with
      | none => .ok p.output
      | some f => ctx.fail f.message f.own := by
  have hstops : ctx.mode.stops [] = false := by
    rw [Mode.stops, List.isEmpty_nil, Bool.not_true, Bool.and_false]
  rw [conclude, h, Validator.close, hstops]
  cases found with
  | none => rfl
  | some f => rfl

theorem conclude_of_failFast (h : p.issues ≠ []) {ctx : Context} (hmode : ctx.mode = .failFast)
    (found : Option Finding) : p.conclude ctx found = .error p.issues := by
  have hstops : ctx.mode.stops p.issues = true := by
    rw [Mode.stops, hmode, Bool.and_eq_true, Bool.not_eq_true', List.isEmpty_eq_false_iff]
    exact ⟨decide_eq_true rfl, h⟩
  rw [conclude, Validator.close, hstops, if_pos rfl]

theorem conclude_of_collect (h : p.issues ≠ []) {ctx : Context} (hmode : ctx.mode = .collect)
    (found : Option Finding) : p.conclude ctx found = .error (p.issues ++ found.toList.map ctx.tell) := by
  have hstops : ctx.mode.stops p.issues = false := by
    rw [Mode.stops, hmode]
    rfl
  have hsome : (p.issues ++ found.toList.map ctx.tell).isEmpty = false := by
    rw [List.isEmpty_eq_false_iff]
    exact List.append_ne_nil_of_left_ne_nil h _
  rw [conclude, Validator.close, hstops, settle, hsome]
  rfl

/-- beyond the message of what is found, only words depend on it -/
theorem wordless_conclude (ctx : Context) {found found' : Option Finding}
    (h : found.map Finding.message = found'.map Finding.message) :
    (p.conclude ctx found).wordless = (p.conclude ctx found').wordless := by
  cases found with
  | none =>
    rw [Option.map_none, eq_comm, Option.map_eq_none_iff] at h
    rw [h]
  | some f =>
    obtain ⟨f', rfl, hmessage⟩ := Option.map_eq_some_iff.1 h.symm
    have htell : ({ ctx.tell f with message := "" } : Issue) = { ctx.tell f' with message := "" } := by
      simp only [Context.tell, Context.issue, hmessage]
    by_cases hissues : p.issues = []
    · simp only [conclude_of_nil hissues, Context.fail, Outcome.wordless, Except.mapError, List.map_cons, List.map_nil]
      exact congrArg (fun i => Except.error [i]) htell
    · cases hmode : ctx.mode with
      | failFast => rw [conclude_of_failFast hissues hmode, conclude_of_failFast hissues hmode]
      | collect =>
        rw [conclude_of_collect hissues hmode, conclude_of_collect hissues hmode]
        simp only [Outcome.wordless, Except.mapError, List.map_append, Option.toList_some, List.map_cons, List.map_nil,
          htell]

end Prepared

/-- what a list of checks makes of a prepared value -/
def Checks.answer {κ α : Type} (c : Checks κ) (failure : κ → α → Option Message) (ctx : Context) :
    Except Message (Prepared α) → Outcome
  | .error m => ctx.fail m c.kindMessage
  | .ok p => p.conclude ctx (c.finding? failure p.subject)

/-- **A schema that prepares values and then runs its checks** is a pipeline. -/
theorem IsPipeline.of_eq {κ ν α : Type} {failure : κ → α → Option Message} {prepare : Preparation ν α}
    {judge : List (Call κ ν) → Validator}
    (hrefusal : ∀ ns ctx v m, prepare ns ctx v = some (.error m) → m.IsRefusal)
    (h : ∀ calls ctx v, judge calls ctx v =
      (prepare (normalizers calls) ctx v).map ((Checks.build calls).answer failure ctx)) :
    IsPipeline failure prepare judge where
  refusal := hrefusal
  unanswered calls ctx v hprepare := by
    rw [h, hprepare, Option.map_none]
  refused calls ctx v m hprepare := by
    rw [h, hprepare, Option.map_some, Checks.answer, Checks.build_eq]
  leading_text before after text ctx v p hbefore hprepare := by
    have hsame : normalizers (before ++ .message text :: after) = normalizers (before ++ after) := by
      rw [normalizers, normalizers, List.filterMap_append, List.filterMap_append, List.filterMap_cons_none rfl]
    rw [h, h, hsame, hprepare, Option.map_some, Option.map_some]
    simp only [Checks.answer, Checks.finding?, Checks.build_eq, declared_leading_message hbefore]
  accepted_iff calls ctx v p hprepare hissues := by
    have hfinds := Checks.build_finds failure p.subject calls
    rw [h, hprepare, Option.map_some, Option.some.injEq, Checks.answer, Prepared.conclude_of_nil hissues]
    generalize (Checks.build calls).finding? failure p.subject = found at hfinds
    cases hfinds with
    | nothing hpass => exact iff_of_true rfl hpass
    | @first before after test m hcalls hearlier hfails =>
      refine iff_of_false (fun haccepted => by cases haccepted) fun hpass => ?_
      have htest : test ∈ tests calls := by
        rw [hcalls]
        exact mem_tests_of_split
      exact Option.some_ne_none m (hfails.symm.trans (hpass test htest))
  first_failure calls ctx v p hprepare hissues hsome := by
    have hfinds := Checks.build_finds failure p.subject calls
    rw [h, hprepare, Option.map_some, Checks.answer, Prepared.conclude_of_nil hissues]
    generalize (Checks.build calls).finding? failure p.subject = found at hfinds
    cases hfinds with
    | nothing hpass =>
      obtain ⟨test, htest, hfails⟩ := hsome
      exact absurd (hpass test htest) hfails
    | @first before after test m hcalls hearlier hfails =>
      exact ⟨before, test, after, m, hcalls, hearlier, hfails, rfl⟩
  stopped calls ctx v p hprepare hissues hmode := by
    rw [h, hprepare, Option.map_some, Checks.answer, Prepared.conclude_of_failFast hissues hmode]
  collected calls ctx v p hprepare hissues hmode := by
    refine ⟨_, Checks.build_finds failure p.subject calls, ?_⟩
    rw [h, hprepare, Option.map_some, Checks.answer, Prepared.conclude_of_collect hissues hmode]
  wordless calls calls' ctx v hsame := by
    obtain ⟨htests, hnormalizers⟩ := eq_of_filter_message hsame
    rw [h, h, hnormalizers]
    cases prepare (normalizers calls') ctx v with
    | none => rfl
    | some prepared =>
      cases prepared with
      | error m => rfl
      | ok p =>
        refine congrArg some (Prepared.wordless_conclude ctx ?_)
        rw [Checks.build_finding_message, Checks.build_finding_message, htests]

/-- checks of something that is ready -/
theorem Checks.run_eq_answer {κ α : Type} (c : Checks κ) (failure : κ → α → Option Message) (ctx : Context) (a : α)
    (output : Value) : c.run failure ctx a output = c.answer failure ctx (.ok ⟨[], a, output⟩) := by
  rw [run, firstIssue_eq, answer, Prepared.conclude_of_nil rfl]
  cases c.finding? failure a with
  | none => rfl
  | some f => rfl

/-! ## Leaves -/

theorem isRefusal_of_readAs {α : Type} {own? convert : Value → Option α} {target : String} {coerced : Bool}
    {v : Value} {m : Message} (h : readAs own? convert target coerced v = .error m) : m.IsRefusal := by
  unfold readAs at h
  split at h
  · cases h
  · split_ifs at h
    · split at h
      · cases h
      · cases h
        exact .inr (.inl rfl)
    · cases h
      exact .inl rfl

theorem isRefusal_of_map_readAs {α β : Type} {own? convert : Value → Option α} {target : String} {coerced : Bool}
    {v : Value} {f : α → β} {m : Message} (h : (readAs own? convert target coerced v).map f = .error m) :
    m.IsRefusal := by
  cases hread : readAs own? convert target coerced v with
  | ok a =>
    rw [hread] at h
    cases h
  | error m' =>
    rw [hread] at h
    cases h
    exact isRefusal_of_readAs hread

namespace TextSchema

/-- a schema for texts, as a row of calls makes it -/
def build (coerced : Bool) (calls : List (Call TextTest Normalizer)) : TextSchema :=
  Call.build check normalize message ⟨[], .empty, coerced⟩ calls

/-- a text is read, or converted to where the schema does that, and normalised in the order of declaration -/
def prepare (coerced : Bool) : Preparation Normalizer String := fun ns _ v =>
  some ((readAs Value.text? Value.toText? "string" coerced v).map fun text =>
    ⟨[], ns.foldl (fun t n => n.apply t) text, .string (ns.foldl (fun t n => n.apply t) text)⟩)

theorem build_eq (coerced : Bool) (calls : List (Call TextTest Normalizer)) :
    build coerced calls = ⟨Call.normalizers calls, Checks.build calls, coerced⟩ := by
  induction calls using List.reverseRecOn with
  | nil => rfl
  | append_singleton calls last ih =>
    have hlast : build coerced (calls ++ [last]) = Call.apply check normalize message (build coerced calls) last :=
      build_append_singleton _ _ _ _ _ _
    rw [hlast, ih, Checks.build_append_singleton, Call.normalizers, Call.normalizers, List.filterMap_append]
    cases last with
    | check test => rw [List.filterMap_cons_none rfl, List.filterMap_nil, List.append_nil]; rfl
    | normalize n => rfl
    | message text => rw [List.filterMap_cons_none rfl, List.filterMap_nil, List.append_nil]; rfl

theorem prepare_refusal {coerced : Bool} {ns : List Normalizer} {ctx : Context} {v : Value} {m : Message}
    (h : prepare coerced ns ctx v = some (.error m)) : m.IsRefusal :=
  isRefusal_of_map_readAs (Option.some.inj h)

theorem validate_build (coerced : Bool) (calls : List (Call TextTest Normalizer)) (ctx : Context) (v : Value) :
    some ((build coerced calls).validate ctx v) =
      (prepare coerced (Call.normalizers calls) ctx v).map ((Checks.build calls).answer TextTest.failure ctx) := by
  rw [validate_eq, build_eq, prepare, Option.map_some]
  cases readAs Value.text? Value.toText? "string" coerced v with
  | error m => rfl
  | ok text => exact congrArg some (Checks.run_eq_answer _ _ _ _ _)

end TextSchema

namespace NumberSchema

/-- a schema for numbers, as a row of calls makes it -/
def build (coerced : Bool) (calls : List (Call NumberTest Empty)) : NumberSchema :=
  Call.build check (fun s _ => s) message ⟨.empty, coerced⟩ calls

/-- a number is read, or converted to where the schema does that; not-a-number is none -/
def prepare (coerced : Bool) : Preparation Empty Double := fun _ _ v =>
  some (match readAs Value.number? Value.toNumber? "number" coerced v with
    | .error m => .error m
    | .ok n => if n.isNaN then .error (.invalidType "number" (Value.number n).typeName) else .ok ⟨[], n, .number n⟩)

theorem prepare_refusal {coerced : Bool} {ns : List Empty} {ctx : Context} {v : Value} {m : Message}
    (h : prepare coerced ns ctx v = some (.error m)) : m.IsRefusal := by
  rw [prepare, Option.some.injEq] at h
  cases hread : readAs Value.number? Value.toNumber? "number" coerced v with
  | ok n =>
    simp only [hread] at h
    split_ifs at h
    cases h
    exact .inl rfl
  | error m' =>
    rw [hread] at h
    cases h
    exact isRefusal_of_readAs hread

theorem validate_build (coerced : Bool) (calls : List (Call NumberTest Empty)) (ctx : Context) (v : Value) :
    some ((build coerced calls).validate ctx v) =
      (prepare coerced (normalizers calls) ctx v).map ((Checks.build calls).answer NumberTest.failure ctx) := by
  have hbuild : build coerced calls = ⟨Checks.build calls, coerced⟩ :=
    Call.build_eq_of_checks (NumberSchema.mk · coerced) (fun _ _ => rfl) (fun _ _ => rfl) calls
  rw [validate_eq, hbuild, prepare, Option.map_some]
  cases readAs Value.number? Value.toNumber? "number" coerced v with
  | error m => rfl
  | ok n =>
    dsimp only
    split_ifs
    · rfl
    · exact congrArg some (Checks.run_eq_answer _ _ _ _ _)

end NumberSchema

namespace BigIntSchema

/-- a schema for big integers, as a row of calls makes it -/
def build (coerced : Bool) (calls : List (Call BigIntTest Empty)) : BigIntSchema :=
  Call.build check (fun s _ => s) message ⟨.empty, coerced⟩ calls

/-- a big integer is read, or converted to where the schema does that -/
def prepare (coerced : Bool) : Preparation Empty BigInt := fun _ _ v =>
  some ((readAs Value.bigint? Value.toBigInt? "bigint" coerced v).map fun n => ⟨[], n, .bigint n⟩)

theorem prepare_refusal {coerced : Bool} {ns : List Empty} {ctx : Context} {v : Value} {m : Message}
    (h : prepare coerced ns ctx v = some (.error m)) : m.IsRefusal :=
  isRefusal_of_map_readAs (Option.some.inj h)

theorem validate_build (coerced : Bool) (calls : List (Call BigIntTest Empty)) (ctx : Context) (v : Value) :
    some ((build coerced calls).validate ctx v) =
      (prepare coerced (normalizers calls) ctx v).map ((Checks.build calls).answer BigIntTest.failure ctx) := by
  have hbuild : build coerced calls = ⟨Checks.build calls, coerced⟩ :=
    Call.build_eq_of_checks (BigIntSchema.mk · coerced) (fun _ _ => rfl) (fun _ _ => rfl) calls
  rw [validate_eq, hbuild, prepare, Option.map_some]
  cases readAs Value.bigint? Value.toBigInt? "bigint" coerced v with
  | error m => rfl
  | ok n => exact congrArg some (Checks.run_eq_answer _ _ _ _ _)

end BigIntSchema

namespace DateSchema

/-- a schema for dates, as a row of calls makes it -/
def build (coerced : Bool) (calls : List (Call DateTest Empty)) : DateSchema :=
  Call.build check (fun s _ => s) message ⟨.empty, coerced⟩ calls

/-- a date is read from a date, a text or a number -/
def prepare (coerced : Bool) : Preparation Empty Instant := fun _ _ v =>
  some (match v.readDate with
    | .instant t => .ok ⟨[], t, .date t⟩
    | .unreadable => .error .invalidDate
    | .wrongKind => .error (if coerced then .coercionFailed "date" v.typeName else .invalidType "date" v.typeName))

theorem prepare_refusal {coerced : Bool} {ns : List Empty} {ctx : Context} {v : Value} {m : Message}
    (h : prepare coerced ns ctx v = some (.error m)) : m.IsRefusal := by
  rw [prepare, Option.some.injEq] at h
  cases hread : v.readDate with
  | instant t =>
    rw [hread] at h
    cases h
  | unreadable =>
    rw [hread] at h
    cases h
    exact .inr (.inr rfl)
  | wrongKind =>
    simp only [hread] at h
    split_ifs at h
    · cases h
      exact .inr (.inl rfl)
    · cases h
      exact .inl rfl

theorem validate_build (coerced : Bool) (calls : List (Call DateTest Empty)) (ctx : Context) (v : Value) :
    some ((build coerced calls).validate ctx v) =
      (prepare coerced (normalizers calls) ctx v).map ((Checks.build calls).answer DateTest.failure ctx) := by
  have hbuild : build coerced calls = ⟨Checks.build calls, coerced⟩ :=
    Call.build_eq_of_checks (DateSchema.mk · coerced) (fun _ _ => rfl) (fun _ _ => rfl) calls
  rw [validate, hbuild, prepare, Option.map_some]
  cases v.readDate with
  | instant t => exact congrArg some (Checks.run_eq_answer _ _ _ _ _)
  | unreadable => rfl
  | wrongKind =>
    cases coerced with
    | false => rfl
    | true => rfl

end DateSchema

/-! ## Collections -/

namespace Validator

variable (element : Validator)

/-- the items of an array are validated; what counts is its length -/
def prepareArray : Preparation Empty Nat := fun _ ctx v =>
  match v with
  | .array items => (element.elements ctx items).map fun parts =>
    .ok ⟨Part.allIssues parts, items.length, .array (Part.values parts)⟩
  | v => some (.error (.invalidType "array" v.typeName))

/-- the elements of a set are validated; what counts is the size of the set returned, and that of the set given if an
element has issues -/
def prepareSet : Preparation Empty Nat := fun _ ctx v =>
  match v with
  | .set vs => (element.elements ctx vs).map fun parts =>
    let output := Value.distinct (Part.values parts)
    .ok ⟨Part.allIssues parts, if (Part.allIssues parts).isEmpty then output.length else vs.length, .set output⟩
  | v => some (.error (.invalidType "set" v.typeName))

theorem prepareArray_refusal {ns : List Empty} {ctx : Context} {v : Value} {m : Message}
    (h : element.prepareArray ns ctx v = some (.error m)) : m.IsRefusal := by
  cases v with
  | array items =>
    obtain ⟨parts, -, hparts⟩ := Option.map_eq_some_iff.1 h
    cases hparts
  | _ =>
    cases h
    exact .inl rfl

theorem prepareSet_refusal {ns : List Empty} {ctx : Context} {v : Value} {m : Message}
    (h : element.prepareSet ns ctx v = some (.error m)) : m.IsRefusal := by
  cases v with
  | set vs =>
    obtain ⟨parts, -, hparts⟩ := Option.map_eq_some_iff.1 h
    cases hparts
  | _ =>
    cases h
    exact .inl rfl

theorem close_eq_answer (sizes : Checks SizeTest) (origin : Origin) (ctx : Context) (p : Prepared Nat) :
    close ctx.mode p.issues (sizes.sizeIssues origin ctx p.subject) p.output =
      sizes.answer (SizeTest.failure origin) ctx (.ok p) := by
  rw [Checks.sizeIssues, Checks.firstIssue_eq, Checks.answer, Prepared.conclude, Option.toList_map]

theorem array_build (calls : List (Call SizeTest Empty)) (ctx : Context) (v : Value) :
    element.array (Checks.build calls) ctx v =
      (element.prepareArray (normalizers calls) ctx v).map
        ((Checks.build calls).answer (SizeTest.failure .array) ctx) := by
  cases v with
  | array items =>
    simp only [array, prepareArray, Option.map_map]
    refine congrArg (fun f => Option.map f _) (funext fun parts => ?_)
    exact close_eq_answer (Checks.build calls) .array ctx ⟨_, _, _⟩
  | _ => rfl

theorem set_build (calls : List (Call SizeTest Empty)) (ctx : Context) (v : Value) :
    element.set (Checks.build calls) ctx v =
      (element.prepareSet (normalizers calls) ctx v).map
        ((Checks.build calls).answer (SizeTest.failure .set) ctx) := by
  cases v with
  | set vs =>
    simp only [set, prepareSet, Option.map_map]
    refine congrArg (fun f => Option.map f _) (funext fun parts => ?_)
    exact close_eq_answer (Checks.build calls) .set ctx ⟨_, _, _⟩
  | _ => rfl

end Validator

namespace Schema

/-- **Builders make pipelines.** Whatever calls are made on a schema for texts, numbers, big integers, dates, arrays or
sets, and in whichever order, values are prepared first and then checked in the order of declaration. -/
theorem built_is_pipeline (defs : Definitions) (n : Nat) :
    (∀ coerced, IsPipeline TextTest.failure (TextSchema.prepare coerced)
      fun calls => run defs n (.leaf (.string (.build coerced calls)))) ∧
    (∀ coerced, IsPipeline NumberTest.failure (NumberSchema.prepare coerced)
      fun calls => run defs n (.leaf (.number (.build coerced calls)))) ∧
    (∀ coerced, IsPipeline BigIntTest.failure (BigIntSchema.prepare coerced)
      fun calls => run defs n (.leaf (.bigint (.build coerced calls)))) ∧
    (∀ coerced, IsPipeline DateTest.failure (DateSchema.prepare coerced)
      fun calls => run defs n (.leaf (.date (.build coerced calls)))) ∧
    (∀ element, IsPipeline (SizeTest.failure .array) (Validator.prepareArray (run defs n element))
      fun calls => run defs n (.array element (.build calls))) ∧
    ∀ element, IsPipeline (SizeTest.failure .set) (Validator.prepareSet (run defs n element))
      fun calls => run defs n (.set element (.build calls)) := by
  simp only [run_eq]
  refine ⟨fun coerced => ?_, fun coerced => ?_, fun coerced => ?_, fun coerced => ?_, fun element => ?_, fun element => ?_⟩
  · exact .of_eq (fun _ _ _ _ => TextSchema.prepare_refusal) (TextSchema.validate_build coerced)
  · exact .of_eq (fun _ _ _ _ => NumberSchema.prepare_refusal) (NumberSchema.validate_build coerced)
  · exact .of_eq (fun _ _ _ _ => BigIntSchema.prepare_refusal) (BigIntSchema.validate_build coerced)
  · exact .of_eq (fun _ _ _ _ => DateSchema.prepare_refusal) (DateSchema.validate_build coerced)
  · exact .of_eq (fun _ _ _ _ => Validator.prepareArray_refusal _) (Validator.array_build _)
  · exact .of_eq (fun _ _ _ _ => Validator.prepareSet_refusal _) (Validator.set_build _)

/-- two checks, three texts and a normaliser, interleaved -/
theorem interleaved_calls :
    let ctx : Context := ⟨Catalog.english, .collect⟩
    let calls : List (Call TextTest Normalizer) :=
      [.message "a name", .check (.atLeast 3), .message "short", .normalize .trim, .message "too short", .check (.atMost 5)]
    let judge := run [] 0 (.leaf (.string (.build false calls))) ctx
    judge .null = some (ctx.fail (.invalidType "string" "null") (some "a name")) ∧
      judge (.string " abcd ") = some (.ok (.string "abcd")) ∧
      ∃ before test after m, calls = before ++ .check test :: after ∧
        (∀ earlier ∈ tests before, TextTest.failure earlier "ab" = none) ∧ TextTest.failure test "ab" = some m ∧
        judge (.string " ab ") = some (ctx.fail m (ownText after)) := by
  intro ctx calls judge
  have hpipeline := (built_is_pipeline [] 0).1 false
  have hprepare : ∀ {text trimmed : String}, Normalizer.trim.apply text = trimmed →
      TextSchema.prepare false (normalizers calls) ctx (.string text) = some (.ok ⟨[], trimmed, .string trimmed⟩) := by
    rintro text _ rfl
    rfl
  refine ⟨hpipeline.refused calls ctx .null _ rfl, ?_, ?_⟩
  · have hpass : ∀ test ∈ tests calls, TextTest.failure test "abcd" = none := by decide
    exact (hpipeline.accepted_iff calls ctx (.string " abcd ") _ (hprepare (by decide)) rfl).2 hpass
  · have hfail : ∃ test ∈ tests calls, TextTest.failure test "ab" ≠ none := ⟨.atLeast 3, by decide, by decide⟩
    exact hpipeline.first_failure calls ctx (.string " ab ") _ (hprepare (by decide)) rfl hfail

example (ctx : Context) : run [] 0
    (.leaf (.string (.build false
      [.message "a name", .check (.atLeast 3), .message "short", .normalize .trim, .message "too short"])))
    ctx (.string " ab ") = some (ctx.fail (.tooSmall .string (.count 3) true false) (some "too short")) := rfl

end Schema

end ValueSchema
