import ValueSchema.Proofs.Leaf.Verdict

/-!
Calls of builders.

A schema with checks is made by a row of calls. Each declares a check, declares a normaliser or gives a text of the
author's own. The text belongs to the check declared last, and before any check to the refusal of values that cannot be
checked at all; so what counts for a check is the row of calls up to the next check.

Results:
- `Checks.build_eq`: the checks that a row of calls makes, each with its own text.
- `Checks.build_finds`: what the first check that fails tells.
- `Checks.build_finding_message`: texts have no say in what is found.
-/

namespace ValueSchema

/-- one call of a builder -/
inductive Call (κ ν : Type) where
  | check (test : κ)
  | normalize (n : ν)
  | message (text : String)

namespace Call

variable {κ ν : Type}

def isCheck : Call κ ν → Bool
  | .check _ => true
  | _ => false

def isMessage : Call κ ν → Bool
  | .message _ => true
  | _ => false

def test? : Call κ ν → Option κ
  | .check test => some test
  | _ => none

def normalizer? : Call κ ν → Option ν
  | .normalize n => some n
  | _ => none

def text? : Call κ ν → Option String
  | .message text => some text
  | _ => none

/-- the tests that are declared, in order -/
def tests (calls : List (Call κ ν)) : List κ := calls.filterMap test?

/-- the normalisers that are declared, in order -/
def normalizers (calls : List (Call κ ν)) : List ν := calls.filterMap normalizer?

/-- the last text given before the next check -/
def ownText (calls : List (Call κ ν)) : Option String :=
  ((calls.takeWhile fun call => !call.isCheck).filterMap text?).getLast?

/-- the checks that are declared, each with the text given after it -/
def declared : List (Call κ ν) → List (Check κ)
  | [] => []
  | .check test :: rest => ⟨test, ownText rest⟩ :: declared rest
  | .normalize _ :: rest => declared rest
  | .message _ :: rest => declared rest

section

variable {σ : Type} (check : σ → κ → σ) (normalize : σ → ν → σ) (message : σ → String → σ)

/-- what a call makes of a builder -/
def apply (s : σ) : Call κ ν → σ
  | .check test => check s test
  | .normalize n => normalize s n
  | .message text => message s text

/-- what a row of calls makes of a builder, one call after the other -/
def build (start : σ) (calls : List (Call κ ν)) : σ := calls.foldl (apply check normalize message) start

theorem build_append_singleton (start : σ) (calls : List (Call κ ν)) (last : Call κ ν) :
    build check normalize message start (calls ++ [last]) =
      apply check normalize message (build check normalize message start calls) last := by
  rw [build, List.foldl_append]
  rfl

end

/-! ## One more call -/

theorem ownText_message_cons (text : String) (rest : List (Call κ ν)) :
    ownText (.message text :: rest) = some ((ownText rest).getD text) := List.getLast?_cons

/-- only texts change what the last text is -/
theorem ownText_append_silent {last : Call κ ν} (hlast : last.text? = none) (calls : List (Call κ ν)) :
    ownText (calls ++ [last]) = ownText calls := by
  induction calls with
  | nil =>
    cases last with
    | message _ => cases hlast
    | check _ | normalize _ => rfl
  | cons call rest ih =>
    cases call with
    | check _ => rfl
    | normalize _ => exact ih
    | message text => rw [List.cons_append, ownText_message_cons, ownText_message_cons, ih]

/-- a text given last counts where no check is declared before it -/
theorem ownText_append_message (calls : List (Call κ ν)) (text : String) :
    ownText (calls ++ [.message text]) = if declared calls = [] then some text else ownText calls := by
  induction calls with
  | nil => rfl
  | cons call rest ih =>
    cases call with
    | check _ => rfl
    | normalize _ => exact ih
    | message earlier =>
      rw [List.cons_append, ownText_message_cons, ownText_message_cons, ih, declared]
      split_ifs
      · rfl
      · rfl

theorem declared_append_check (calls : List (Call κ ν)) (test : κ) :
    declared (calls ++ [.check test]) = declared calls ++ [⟨test, none⟩] := by
  induction calls with
  | nil => rfl
  | cons call rest ih =>
    cases call with
    | check _ => rw [List.cons_append, declared, declared, ih, ownText_append_silent rfl, List.cons_append]
    | normalize _ => exact ih
    | message _ => exact ih

theorem declared_append_normalize (calls : List (Call κ ν)) (n : ν) :
    declared (calls ++ [.normalize n]) = declared calls := by
  induction calls with
  | nil => rfl
  | cons call rest ih =>
    cases call with
    | check _ => rw [List.cons_append, declared, declared, ih, ownText_append_silent rfl]
    | normalize _ => exact ih
    | message _ => exact ih

/-- a text given last belongs to the check declared last -/
theorem declared_append_message (calls : List (Call κ ν)) (text : String) :
    declared (calls ++ [.message text]) = Checks.setLastMessage text (declared calls) := by
  induction calls with
  | nil => rfl
  | cons call rest ih =>
    cases call with
    | normalize _ => exact ih
    | message _ => exact ih
    | check test =>
      rw [List.cons_append, declared, declared, ih, ownText_append_message]
      cases hrest : declared rest with
      | nil => rfl
      | cons check others =>
        rw [if_neg (List.cons_ne_nil _ _)]
        rfl

theorem map_test_declared (calls : List (Call κ ν)) : (declared calls).map Check.test = tests calls := by
  induction calls with
  | nil => rfl
  | cons call rest ih =>
    cases call with
    | check _ => exact congrArg (_ :: ·) ih
    | normalize _ => exact ih
    | message _ => exact ih

/-- before any check, a text changes nothing in the checks -/
theorem declared_leading_message {before : List (Call κ ν)} (hbefore : tests before = []) (text : String)
    (after : List (Call κ ν)) : declared (before ++ .message text :: after) = declared (before ++ after) := by
  induction before with
  | nil => rfl
  | cons call rest ih =>
    cases call with
    | check _ => cases hbefore
    | normalize _ => exact ih hbefore
    | message _ => exact ih hbefore

theorem mem_tests_of_split {before after : List (Call κ ν)} {test : κ} :
    test ∈ tests (before ++ .check test :: after) :=
  List.mem_filterMap.2 ⟨.check test, List.mem_append_right _ List.mem_cons_self, rfl⟩

/-- what is not taken from texts is taken from the other calls -/
theorem filterMap_of_silent {β : Type} {f : Call κ ν → Option β} (hf : ∀ text, f (.message text) = none)
    (calls : List (Call κ ν)) : calls.filterMap f = (calls.filter fun call => !call.isMessage).filterMap f := by
  rw [List.filterMap_filter]
  refine List.filterMap_congr fun call _ => ?_
  cases call with
  | message text => exact hf text
  | check _ | normalize _ => rfl

/-- what is declared in two rows of calls that differ in their texts alone -/
theorem eq_of_filter_message {calls calls' : List (Call κ ν)}
    (h : calls.filter (fun call => !call.isMessage) = calls'.filter fun call => !call.isMessage) :
    tests calls = tests calls' ∧ normalizers calls = normalizers calls' := by
  constructor
  · rw [tests, tests, filterMap_of_silent (fun _ => rfl) calls, filterMap_of_silent (fun _ => rfl) calls', h]
  · rw [normalizers, normalizers, filterMap_of_silent (fun _ => rfl) calls, filterMap_of_silent (fun _ => rfl) calls', h]

end Call

open Call

/-! ## Checks -/

/-- what a row of declared checks finds: nothing if all pass, otherwise the failure of the first one that fails, with the
last text given before the next check -/
inductive Finds {κ ν α : Type} (failure : κ → α → Option Message) (a : α) (calls : List (Call κ ν)) :
    Option Finding → Prop
  | nothing : (∀ test ∈ tests calls, failure test a = none) → Finds failure a calls none
  | first {before after : List (Call κ ν)} {test : κ} {m : Message} : calls = before ++ .check test :: after →
    (∀ earlier ∈ tests before, failure earlier a = none) → failure test a = some m →
    Finds failure a calls (some ⟨m, ownText after⟩)

/-- in front of a row, a call changes nothing in what is found unless it declares a check that fails -/
theorem Finds.cons {κ ν α : Type} {failure : κ → α → Option Message} {a : α} {call : Call κ ν} {rest : List (Call κ ν)}
    {found : Option Finding} (hcall : ∀ test ∈ call.test?, failure test a = none) (h : Finds failure a rest found) :
    Finds failure a (call :: rest) found := by
  have htests : ∀ row, tests (call :: row) = call.test?.toList ++ tests row := fun row => by
    cases call <;> rfl
  cases h with
  | nothing h =>
    refine .nothing fun test htest => ?_
    rw [htests, List.mem_append, Option.mem_toList] at htest
    exact htest.elim (hcall test) (h test)
  | @first before after test m hrest hearlier hfails =>
    have hcalls : call :: rest = (call :: before) ++ .check test :: after := congrArg (call :: ·) hrest
    refine .first hcalls (fun earlier htest => ?_) hfails
    rw [htests, List.mem_append, Option.mem_toList] at htest
    exact htest.elim (hcall earlier) (hearlier earlier)

namespace Checks

variable {κ ν α : Type}

/-- the checks that a row of calls makes -/
def build (calls : List (Call κ ν)) : Checks κ := Call.build add (fun c _ => c) message empty calls

theorem build_append_singleton (calls : List (Call κ ν)) (last : Call κ ν) :
    build (calls ++ [last]) = Call.apply add (fun c _ => c) message (build calls) last :=
  Call.build_append_singleton _ _ _ _ _ _

/-- **The checks of a row of calls** are those declared, each with the last text before the next check; the last text
before the first check is that for refused values. -/
theorem build_eq (calls : List (Call κ ν)) : build calls = ⟨declared calls, ownText calls⟩ := by
  induction calls using List.reverseRecOn with
  | nil => rfl
  | append_singleton calls last ih =>
    rw [build_append_singleton, ih]
    cases last with
    | check test => rw [declared_append_check, ownText_append_silent rfl, apply, add]
    | normalize n => rw [declared_append_normalize, ownText_append_silent rfl, apply]
    | message text =>
      rw [declared_append_message, ownText_append_message, apply, message]
      cases declared calls with
      | nil => rfl
      | cons check others => rfl

variable (failure : κ → α → Option Message) (a : α)

/-- **The first check that fails** tells what is found, and nothing is found if there is none. -/
theorem build_finds (calls : List (Call κ ν)) : Finds failure a calls ((build calls).finding? failure a) := by
  rw [build_eq, finding?]
  induction calls with
  | nil => exact .nothing (List.forall_mem_nil _)
  | cons call rest ih =>
    cases call with
    | normalize _ | message _ =>
      refine ih.cons fun test htest => ?_
      cases htest
    | check test =>
      cases hfailure : failure test a with
      | none =>
        rw [declared, List.findSome?_cons, hfailure]
        refine ih.cons fun declared hdeclared => ?_
        rw [← Option.some.inj hdeclared]
        exact hfailure
      | some m =>
        rw [declared, List.findSome?_cons, hfailure]
        have hcalls : Call.check test :: rest = [] ++ .check test :: rest := rfl
        exact .first hcalls (List.forall_mem_nil _) hfailure

/-- texts have no say in what is found -/
theorem build_finding_message (calls : List (Call κ ν)) :
    ((build calls).finding? failure a).map Finding.message = (tests calls).findSome? (failure · a) := by
  rw [build_eq, finding?, ← map_test_declared, List.findSome?_map, List.map_findSome?]
  refine congrArg (fun f => List.findSome? f _) (funext fun check => ?_)
  rw [Function.comp_apply, Function.comp_apply, Option.map_map]
  cases failure check.test a with
  | none => rfl
  | some m => rfl

end Checks

/-- a builder that keeps nothing but its checks is what its checks are -/
theorem Call.build_eq_of_checks {κ σ : Type} (make : Checks κ → σ) {check : σ → κ → σ} {message : σ → String → σ}
    (hcheck : ∀ c test, check (make c) test = make (c.add test))
    (hmessage : ∀ c text, message (make c) text = make (c.message text)) (calls : List (Call κ Empty)) :
    Call.build check (fun s _ => s) message (make .empty) calls = make (Checks.build calls) := by
  induction calls using List.reverseRecOn with
  | nil => rfl
  | append_singleton calls last ih =>
    rw [build_append_singleton, ih, Checks.build_append_singleton]
    cases last with
    | check test => exact hcheck _ _
    | normalize n => rfl
    | message text => exact hmessage _ _

end ValueSchema
