import ValueSchema.Proofs.Budget.Suffices
import ValueSchema.Proofs.Guard

/-!
Two schemas for objects with any names.

A record and an object type without fields that leaves all members to a catch-all put the same question to each member.
They part where a name is dangerous: the record refuses it, the catch-all passes over it. So on objects with safe names
only they cannot be told apart. On others the record fails; while issues are collected it reports what the catch-all reports
and one more issue for each dangerous name, and when the first issue decides, whichever of the two comes first.

Results:
- `object_catchall`: a catch-all runs the members with safe names.
- `run_recordEntry_collect` / `run_recordEntry_failFast`: the members of a record beside those of a catch-all.
- `records_are_guarded_catchalls`: what this says of the schemas.
-/

namespace ValueSchema

/-- whether the place of an issue begins with a dangerous name -/
def Issue.isUnderDangerous (i : Issue) : Bool :=
  match i.path with
  | .key name :: _ => Key.isDangerous name
  | _ => false

/-- the dangerous names of an object, in order -/
def Object.dangerousNames {α : Type} (o : Object α) : List String := o.names.filter Key.isDangerous

/-- the object without the members that these name -/
def Object.safe {α : Type} (o : Object α) : Object α := o.filterNames (!Key.isDangerous ·)

theorem Object.toList_safe {α : Type} (o : Object α) : o.safe.toList = o.toList.filter (!Key.isDangerous ·.1) :=
  toList_filterNames ..

namespace Validator

/-! ## Members -/

/-- a member with a validator for its value -/
def member (a : Validator) (ctx : Context) (e : String × Value) : Option (Part (String × Value)) :=
  (a.child (.key e.1) ctx e.2).map (Part.map (e.1, ·))

variable {a : Validator} {ctx : Context}

/-- the issues of a member stand under its name -/
theorem path_of_member {e : String × Value} {p : Part (String × Value)} (h : member a ctx e = some p) {i : Issue}
    (hi : i ∈ p.issues) : ∃ rest, i.path = .key e.1 :: rest := by
  obtain ⟨q, hq, rfl⟩ := Option.map_eq_some_iff.1 h
  obtain ⟨o, -, rfl⟩ := Option.map_eq_some_iff.1 hq
  rw [Part.issues_map, Part.issues_within] at hi
  obtain ⟨j, -, rfl⟩ := List.mem_map.1 hi
  exact ⟨j.path, rfl⟩

theorem recordEntry_of_dangerous {e : String × Value} (h : Key.isDangerous e.1 = true) :
    recordEntry none a ctx e = some (.error [refusedKey ctx e.1 []]) := by
  rw [recordEntry, recordKey, if_pos h]
  rfl

/-- under a safe name, a record asks what a catch-all asks -/
theorem recordEntry_of_safe {e : String × Value} (h : Key.isDangerous e.1 = false) :
    recordEntry none a ctx e = member a ctx e := by
  rw [recordEntry, recordKey, if_neg (by rw [h]; exact Bool.false_ne_true)]
  rfl

/-- **A catch-all** without fields beside it runs the members with safe names. -/
theorem object_catchall (a : Validator) (ctx : Context) (o : Object Value) :
    object [] (.catchall a) ctx (.object o) =
      (Part.run ctx.mode (member a ctx) o.safe.toList).map fun ps =>
        settle (Part.allIssues ps) (.object (Object.ofList (Part.values ps))) := by
  have hextras : extras [] o = o.toList := List.filter_true o.toList
  rw [Object.toList_safe]
  simp only [object, Part.run, Option.bind_some, Part.allIssues_nil, stops_nil, Bool.false_eq_true, if_false, hextras]
  rfl

/-- members with dangerous names make no difference to it -/
theorem object_catchall_safe (a : Validator) (ctx : Context) (o : Object Value) :
    object [] (.catchall a) ctx (.object o.safe) = object [] (.catchall a) ctx (.object o) := by
  have hsafe : o.safe.safe.toList = o.safe.toList := by
    simp only [Object.toList_safe, List.filter_filter, Bool.and_self]
  rw [object_catchall, object_catchall, hsafe]

theorem record_eq_object_catchall {v : Value}
    (h : ∀ o, v = .object o → ∀ name ∈ o.names, Key.isDangerous name = false) :
    record none a ctx v = object [] (.catchall a) ctx v := by
  cases v with
  | object o =>
    have hsafe : ∀ e ∈ o.toList, Key.isDangerous e.1 = false := by
      intro e he
      refine h o rfl e.1 ?_
      rw [← o.map_fst_toList]
      exact List.mem_map_of_mem he
    have hall : o.safe.toList = o.toList := by
      rw [Object.toList_safe, List.filter_eq_self]
      intro e he
      rw [hsafe e he]
      rfl
    rw [object_catchall, hall, record, Part.run_congr fun e he => recordEntry_of_safe (hsafe e he)]
  | _ => rfl

/-! ## Dangerous names -/

/-- one issue more for each dangerous name, in the place of the name -/
structure RefusesNames (ctx : Context) (names : List String) (kept issues : List Issue) : Prop where
  kept : issues.filter (!·.isUnderDangerous) = kept
  refused : issues.filter (·.isUnderDangerous) = names.map (refusedKey ctx · [])

theorem run_recordEntry_collect {es : List (String × Value)} {ps : List (Part (String × Value))}
    (h : Part.run .collect (member a ctx) (es.filter (!Key.isDangerous ·.1)) = some ps) :
    ∃ qs, Part.run .collect (recordEntry none a ctx) es = some qs ∧
      RefusesNames ctx ((es.map Prod.fst).filter Key.isDangerous) (Part.allIssues ps) (Part.allIssues qs) := by
  induction es generalizing ps with
  | nil =>
    cases h
    exact ⟨[], rfl, rfl, rfl⟩
  | cons e es ih =>
    cases hd : Key.isDangerous e.1 with
    | true =>
      rw [List.filter_cons_of_neg (by simp [hd])] at h
      obtain ⟨qs, hqs, hrest⟩ := ih h
      refine ⟨.error [refusedKey ctx e.1 []] :: qs, ?_, ?_⟩
      · rw [Part.run_cons, recordEntry_of_dangerous hd, Option.bind_some, stops_collect, if_neg Bool.false_ne_true, hqs]
        rfl
      · have hunder : (refusedKey ctx e.1 []).isUnderDangerous = true := hd
        rw [Part.allIssues_cons, List.map_cons, List.filter_cons_of_pos hd]
        constructor
        · rw [Part.issues, List.singleton_append, List.filter_cons_of_neg (by simp [hunder]), hrest.kept]
        · rw [Part.issues, List.singleton_append, List.filter_cons_of_pos hunder, hrest.refused]
          rfl
    | false =>
      rw [List.filter_cons_of_pos (by simp [hd]), Part.run_cons, Option.bind_eq_some_iff] at h
      obtain ⟨p, hp, h⟩ := h
      rw [stops_collect, if_neg Bool.false_ne_true, Option.map_eq_some_iff] at h
      obtain ⟨ps, hps, rfl⟩ := h
      obtain ⟨qs, hqs, hrest⟩ := ih hps
      -- all issues of the member stand under its name
      have hunder : ∀ i ∈ p.issues, i.isUnderDangerous = false := by
        intro i hi
        obtain ⟨rest, hpath⟩ := path_of_member hp hi
        rw [Issue.isUnderDangerous, hpath]
        exact hd
      refine ⟨p :: qs, ?_, ?_⟩
      · rw [Part.run_cons, recordEntry_of_safe hd, hp, Option.bind_some, stops_collect, if_neg Bool.false_ne_true, hqs]
        rfl
      · rw [Part.allIssues_cons, Part.allIssues_cons, List.map_cons, List.filter_cons_of_neg (by simp [hd])]
        constructor
        · rw [List.filter_append, hrest.kept, List.filter_eq_self.2 fun i hi => by simp [hunder i hi]]
        · rw [List.filter_append, hrest.refused, List.filter_eq_nil_iff.2 fun i hi => by simp [hunder i hi],
            List.nil_append]

theorem run_recordEntry_failFast {es : List (String × Value)} {ps : List (Part (String × Value))}
    (h : Part.run .failFast (member a ctx) (es.filter (!Key.isDangerous ·.1)) = some ps) {name : String}
    (hname : ((es.map Prod.fst).filter Key.isDangerous).head? = some name) :
    ∃ qs, Part.run .failFast (recordEntry none a ctx) es = some qs ∧
      (Part.allIssues qs = [refusedKey ctx name []] ∨ Part.allIssues qs = Part.allIssues ps ∧ Part.allIssues ps ≠ []) := by
  induction es generalizing ps with
  | nil => cases hname
  | cons e es ih =>
    cases hd : Key.isDangerous e.1 with
    | true =>
      -- the refusal is the first issue
      rw [List.map_cons, List.filter_cons_of_pos hd] at hname
      cases hname
      refine ⟨[.error [refusedKey ctx e.1 []]], ?_, Or.inl rfl⟩
      rw [Part.run_cons, recordEntry_of_dangerous hd]
      rfl
    | false =>
      rw [List.map_cons, List.filter_cons_of_neg (by simp [hd])] at hname
      rw [List.filter_cons_of_pos (by simp [hd]), Part.run_cons, Option.bind_eq_some_iff] at h
      obtain ⟨p, hp, h⟩ := h
      have hstep (x : Option (List (Part (String × Value)))) (hx : Part.run .failFast (recordEntry none a ctx) es = x) :
          Part.run .failFast (recordEntry none a ctx) (e :: es) =
            if Mode.failFast.stops p.issues then some [p] else x.map (p :: ·) := by
        rw [Part.run_cons, recordEntry_of_safe hd, hp, hx, Option.bind_some]
      split_ifs at h with hs
      · cases h
        refine ⟨[p], by rw [hstep _ rfl, if_pos hs], Or.inr ⟨rfl, ?_⟩⟩
        simpa using (stops_eq_true_iff.1 hs).2
      · obtain ⟨ps, hps, rfl⟩ := Option.map_eq_some_iff.1 h
        obtain ⟨qs, hqs, hends⟩ := ih hps hname
        have hnil : p.issues = [] := by
          by_contra hne
          exact hs (stops_eq_true_iff.2 ⟨rfl, hne⟩)
        refine ⟨p :: qs, by rw [hstep _ hqs, if_neg hs, Option.map_some], ?_⟩
        rwa [Part.allIssues_cons, Part.allIssues_cons, hnil, List.nil_append, List.nil_append]

/-- a record fails where a catch-all ends in an outcome: it refuses the names beside the issues of the outcome, or it
stops at the first name or where the outcome does -/
inductive FailsBeside (ctx : Context) (names : List String) (out : Outcome) : Outcome → Prop
  | collected {issues : List Issue} (mode : ctx.mode = .collect) (ne : issues ≠ [])
    (h : RefusesNames ctx names (Part.issues out) issues) : FailsBeside ctx names out (.error issues)
  | refused {name : String} (mode : ctx.mode = .failFast) (first : names.head? = some name) :
    FailsBeside ctx names out (.error [refusedKey ctx name []])
  | sooner {issues : List Issue} (mode : ctx.mode = .failFast) (ne : issues ≠ []) (h : out = .error issues) :
    FailsBeside ctx names out (.error issues)

/-- **A record refuses dangerous names**, one after the other, and comes to an end where a catch-all does. -/
theorem record_of_dangerous {o : Object Value} (hnames : o.dangerousNames ≠ []) {out : Outcome}
    (h : object [] (.catchall a) ctx (.object o) = some out) :
    ∃ failure, record none a ctx (.object o) = some failure ∧ FailsBeside ctx o.dangerousNames out failure := by
  have hlist : (o.toList.map Prod.fst).filter Key.isDangerous = o.dangerousNames := by rw [o.map_fst_toList]; rfl
  rw [object_catchall, Object.toList_safe, Option.map_eq_some_iff] at h
  obtain ⟨ps, hps, rfl⟩ := h
  have hrecord {qs : List (Part (String × Value))} (hqs : Part.run ctx.mode (recordEntry none a ctx) o.toList = some qs)
      {issues : List Issue} (hissues : Part.allIssues qs = issues) (hne : issues ≠ []) :
      record none a ctx (.object o) = some (.error issues) := by
    simp only [record, hqs, Option.map_some, hissues, settle, List.isEmpty_iff, if_neg hne]
  cases hmode : ctx.mode with
  | collect =>
    rw [hmode] at hps hrecord
    obtain ⟨qs, hqs, hrefuses⟩ := run_recordEntry_collect hps
    rw [hlist] at hrefuses
    have hne : Part.allIssues qs ≠ [] := by
      intro hnil
      have hrefused := hrefuses.refused
      rw [hnil] at hrefused
      exact hnames (List.map_eq_nil_iff.1 hrefused.symm)
    refine ⟨_, hrecord hqs rfl hne, .collected hmode hne ?_⟩
    rwa [Part.issues_settle]
  | failFast =>
    rw [hmode] at hps hrecord
    obtain ⟨name, hname⟩ : ∃ name, o.dangerousNames.head? = some name := ⟨_, List.head?_eq_some_head hnames⟩
    obtain ⟨qs, hqs, hends⟩ := run_recordEntry_failFast hps (hlist ▸ hname)
    rcases hends with hfirst | ⟨hsame, hne⟩
    · exact ⟨_, hrecord hqs hfirst (List.cons_ne_nil _ _), .refused hmode hname⟩
    · refine ⟨_, hrecord hqs hsame hne, .sooner hmode hne ?_⟩
      rw [settle, if_neg (by simpa using hne)]

end Validator

namespace Schema

open Validator

/-- objects with any names, whose members are all left to one schema -/
def ofAnyNames (s : Schema) : Schema := .object ((ObjectType.ofFields []).withUnknown (.catchall s))

/-- **Records are catch-alls with a guard.** On every value but objects with dangerous names, a record and an object type
without fields, with a catch-all for the same schema, have the same outcome: the same output with its members in the same
order, or the same issues. On an object with dangerous names the catch-all does what it does without these members. The
record does not accept the object; it fails whenever the catch-all comes to an end, with what that reports and one more
issue in the place of each dangerous name, or with the first of these if the first issue decides. This holds however deep
names are followed, and so of `validate`. -/
theorem records_are_guarded_catchalls (defs : Definitions) (s : Schema) (ctx : Context) :
    (∀ v, (∀ o, v = .object o → ∀ name ∈ o.names, Key.isDangerous name = false) →
      ∀ n, (Schema.record none s).run defs n ctx v = s.ofAnyNames.run defs n ctx v) ∧
    ∀ o : Object Value, o.dangerousNames ≠ [] →
      (∀ n, s.ofAnyNames.run defs n ctx (.object o) = s.ofAnyNames.run defs n ctx (.object o.safe)) ∧
      s.ofAnyNames.validate defs ctx (.object o) = s.ofAnyNames.validate defs ctx (.object o.safe) ∧
      (∀ n w, (Schema.record none s).run defs n ctx (.object o) ≠ some (.ok w)) ∧
      ∀ n out, s.ofAnyNames.run defs n ctx (.object o) = some out →
        ∃ failure, (Schema.record none s).run defs n ctx (.object o) = some failure ∧
          FailsBeside ctx o.dangerousNames out failure := by
  have hrecord (n : Nat) : (Schema.record none s).run defs n = Validator.record none (s.run defs n) := by
    rw [run_eq, run_eq, validator_record]
    rfl
  have hany (n : Nat) : s.ofAnyNames.run defs n = Validator.object [] (.catchall (s.run defs n)) := by
    rw [run_eq, run_eq, ofAnyNames, validator_object]
    rfl
  have hsafe (o : Object Value) (n : Nat) :
      s.ofAnyNames.run defs n ctx (.object o) = s.ofAnyNames.run defs n ctx (.object o.safe) := by
    rw [hany, object_catchall_safe]
  refine ⟨fun v hv n => ?_, fun o hnames => ⟨hsafe o, validate_congr (hsafe o), fun n w hw => ?_, fun n out hout => ?_⟩⟩
  · rw [hrecord, hany, record_eq_object_catchall hv]
  · rw [hrecord] at hw
    obtain ⟨i, -, hi, -, hinput, -⟩ := record_names (run_explained defs n s) hw
    cases hi
    refine hnames (List.filter_eq_nil_iff.2 fun name hname => ?_)
    rw [hinput name hname]
    exact Bool.false_ne_true
  · rw [hany] at hout
    rw [hrecord]
    exact record_of_dangerous hnames hout

/-- a safe name makes no difference; a dangerous one is refused beside the issue about the other member -/
theorem prototype_name_refused :
    (Schema.record none (.leaf .null)).run [] 0 ⟨Catalog.english, .collect⟩ (.object (Object.ofList [("a", .null)])) =
      (ofAnyNames (.leaf .null)).run [] 0 ⟨Catalog.english, .collect⟩ (.object (Object.ofList [("a", .null)])) ∧
    (∃ out, (ofAnyNames (.leaf .null)).validate [] ⟨Catalog.english, .collect⟩
      (.object (Object.ofList [("__proto__", .null), ("a", .bool true)])) = some out) ∧
    ∃ out failure, (Schema.record none (.leaf .null)).run [] 0 ⟨Catalog.english, .collect⟩
        (.object (Object.ofList [("__proto__", .null), ("a", .bool true)])) = some failure ∧
      FailsBeside ⟨Catalog.english, .collect⟩ ["__proto__"] out failure := by
  have h := records_are_guarded_catchalls [] (.leaf .null) ⟨Catalog.english, .collect⟩
  refine ⟨h.1 _ ?_ 0, ?_⟩
  · rintro o ho name hname
    cases ho
    obtain rfl : name = "a" := List.mem_singleton.1 hname
    decide
  · have hnames : (Object.ofList [("__proto__", Value.null), ("a", .bool true)]).dangerousNames = ["__proto__"] := by decide
    have hsecond := h.2 (Object.ofList [("__proto__", .null), ("a", .bool true)]) (hnames ▸ List.cons_ne_nil _ _)
    obtain ⟨failure, hfailure, hbeside⟩ := hsecond.2.2.2 0 _ rfl
    rw [hnames] at hbeside
    exact ⟨⟨_, hsecond.2.1.trans (validate_eq_of_run (n := 0) rfl)⟩, _, failure, hfailure, hbeside⟩

end Schema

end ValueSchema
