import ValueSchema.Proofs.Breakdown.Basic

/-!
Collections lose and invent nothing.

While issues are collected, an array, a tuple, a set, a record or a map reports what its schemas find wrong with each
part, in the order of the parts, and besides that only what is wrong with the whole: a bound that is missed, another
length, a name that is refused. The output is made of what the schemas make of the parts.

Results:
- `Breakdown.array`, …, `Breakdown.map`: what a collection asks, reports and makes.
- `array_breakdown`, …, `map_breakdown`: each collection answers so if its schemas are validators over any references.
- `collections_account_for_parts`: what this says of runs.
-/

namespace ValueSchema

/-! ## What collections ask, report and make -/

/-- issues for the bounds that a size misses, of which only that of the bound declared first is reported -/
def boundIssue (sizes : Checks SizeTest) (origin : Origin) (ctx : Context) (size : Nat) : List Issue :=
  (sizes.items.filterMap fun check => (check.test.failure origin size).map fun m => ctx.issue m check.message).take 1

/-- the name of a member of a record is refused if it is dangerous, if the schema of names finds something wrong with it,
or if that schema puts a dangerous name in its place; with what was found wrong -/
def refusal (key : Option Schema) (told : Answers) (name : String) : Option (List Issue) :=
  if Key.isDangerous name then some []
  else match key.map fun s => told s (.string name) with
    | none => none
    | some (.error found) => some found
    | some (.ok (.string other)) => if Key.isDangerous other then some [] else none
    | some (.ok _) => none

/-- the name under which a record keeps a member: the text that the schema of names makes of it, if it makes one -/
def keptName (key : Option Schema) (told : Answers) (name : String) : String :=
  match key.map fun s => told s (.string name) with
  | some (.ok (.string other)) => other
  | _ => name

namespace Breakdown

def array (element : Schema) (sizes : Checks SizeTest) (ctx : Context) (items : List Value) : Breakdown where
  asked _ := items.map (element, ·)
  issues told :=
    (items.zipIdx.flatMap fun e => issuesAt [.index e.2] (told element e.1)) ++ boundIssue sizes .array ctx items.length
  output told := .array (items.filterMap fun x => Part.value? (told element x))

/-- the size that counts is that of the set that is made, as long as no element has an issue -/
def set (element : Schema) (sizes : Checks SizeTest) (ctx : Context) (elements : List Value) : Breakdown where
  asked _ := elements.map (element, ·)
  issues told :=
    let found := elements.zipIdx.flatMap fun e => issuesAt [.index e.2] (told element e.1)
    let made := Value.distinct (elements.filterMap fun x => Part.value? (told element x))
    found ++ boundIssue sizes .set ctx (if found = [] then made.length else elements.length)
  output told := .set (Value.distinct (elements.filterMap fun x => Part.value? (told element x)))

def tuple (schemas : List Schema) (ctx : Context) (items : List Value) : Breakdown where
  asked _ := if items.length = schemas.length then schemas.zip items else []
  issues told :=
    if items.length = schemas.length then
      (schemas.zip items).zipIdx.flatMap fun e => issuesAt [.index e.2] (told e.1.1 e.1.2)
    else [ctx.issue (.tupleLength schemas.length items.length) none]
  output told := .array ((schemas.zip items).filterMap fun q => Part.value? (told q.1 q.2))

/-- a member whose name is refused gives one issue, and its value is not looked at -/
def record (key : Option Schema) (value : Schema) (ctx : Context) (members : Object Value) : Breakdown where
  asked told := members.toList.flatMap fun e =>
    (if Key.isDangerous e.1 then [] else key.toList.map (·, .string e.1)) ++
      (if (refusal key told e.1).isNone then [(value, e.2)] else [])
  issues told := members.toList.flatMap fun e =>
    match refusal key told e.1 with
    | some found => [{ ctx.issue (.invalidKey e.1) none with path := [.key e.1], nested := found }]
    | none => issuesAt [.key e.1] (told value e.2)
  output told := .object (Object.ofList (members.toList.filterMap fun e =>
    (Part.value? (told value e.2)).map (keptName key told e.1, ·)))

def map (key value : Schema) (entries : List (Value × Value)) : Breakdown where
  asked _ := entries.flatMap fun e => [(key, e.1), (value, e.2)]
  issues told := entries.zipIdx.flatMap fun e =>
    issuesAt [.index e.2, .key "key"] (told key e.1.1) ++ issuesAt [.index e.2, .key "value"] (told value e.1.2)
  output told := Value.ofEntries (entries.filterMap fun e =>
    match told key e.1, told value e.2 with
    | .ok k, .ok w => some (k, w)
    | _, _ => none)

end Breakdown

/-! ## Arrays, sets and tuples -/

theorem sizeIssues_eq (sizes : Checks SizeTest) (origin : Origin) (ctx : Context) (size : Nat) :
    sizes.sizeIssues origin ctx size = boundIssue sizes origin ctx size := by
  rw [Checks.sizeIssues, Checks.firstIssue, boundIssue, List.take_one, List.head?_filterMap]

namespace Validator

theorem close_collect (partIssues wholeIssues : List Issue) (w : Value) :
    close .collect partIssues wholeIssues w =
      if partIssues ++ wholeIssues = [] then .ok w else .error (partIssues ++ wholeIssues) := by
  rw [close, stops_collect, if_neg Bool.false_ne_true, settle_eq]

theorem isSome_child {a : Validator} {ctx : Context} {segment : Segment} {v : Value} :
    (a.child segment ctx v).isSome = (a ctx v).isSome := by
  rw [child, Option.isSome_map]

end Validator

namespace Schema

open Validator Breakdown

/-- what a schema answers while issues are collected -/
abbrev collected (refs : References) (catalog : Catalog) (s : Schema) (v : Value) : Option Outcome :=
  s.validator refs ⟨catalog, .collect⟩ v

variable {refs : References} {catalog : Catalog}

theorem collected_ne_unexplained (catalog : Catalog) (hrefs : ∀ name, (refs name).Explained) (s : Schema) (v : Value) :
    collected refs catalog s v ≠ some (.error []) := validator_explained hrefs s _ v

/-- a schema on a part, with the position of the part -/
def placed (refs : References) (catalog : Catalog) (e : (Schema × Value) × Nat) : Option (Part Value) :=
  (e.1.1.validator refs).child (.index e.2) ⟨catalog, .collect⟩ e.1.2

/-- the issues of schemas on parts, each where the part stands -/
def placedIssues (parts : List (Schema × Value)) (told : Answers) : List Issue :=
  parts.zipIdx.flatMap fun e => issuesAt [.index e.2] (told e.1.1 e.1.2)

/-- what schemas make of parts -/
def made (parts : List (Schema × Value)) (told : Answers) : List Value :=
  parts.filterMap fun q => Part.value? (told q.1 q.2)

theorem run_placed {parts : List (Schema × Value)} {told : Answers}
    (h : ∀ q ∈ parts, collected refs catalog q.1 q.2 = some (told q.1 q.2)) :
    ∃ ps, Part.run .collect (placed refs catalog) parts.zipIdx = some ps ∧
      Part.allIssues ps = placedIssues parts told ∧ Part.values ps = made parts told := by
  refine ⟨_, Part.run_told fun e he => child_told (.index e.2) (h e.1 (List.fst_mem_of_mem_zipIdx he)), ?_, ?_⟩
  · simp only [Part.allIssues_map, Part.issues_within, allWithin_eq_issuesAt]
    rfl
  · rw [made]
    conv_rhs => rw [← List.zipIdx_map_fst 0 parts, List.filterMap_map]
    simp only [Part.values_map, Part.value?_within]
    rfl

/-- what runs schemas on parts at their positions, and then looks only at issues and values, breaks down into them -/
theorem of_placed (hrefs : ∀ name, (refs name).Explained) {b : Breakdown} {answer : Option Outcome}
    {parts : List (Schema × Value)} (finish : List Issue → List Value → Outcome)
    (asked : ∀ told, b.asked told = parts)
    (runs : answer = (Part.run .collect (placed refs catalog) parts.zipIdx).map fun ps =>
      finish (Part.allIssues ps) (Part.values ps))
    (finishes : ∀ told, finish (placedIssues parts told) (made parts told) = b.outcome told)
    (kept : ∀ told, b.issues told = [] → placedIssues parts told = []) : b.Of (collected refs catalog) answer := by
  refine of_told ?_ ?_ ?_ (collected_ne_unexplained catalog hrefs)
  · intro told htold
    rw [Told, asked] at htold
    obtain ⟨ps, hps, hissues, hvalues⟩ := run_placed htold
    rw [runs, hps, Option.map_some, hissues, hvalues, finishes]
  · intro hends q hq
    rw [asked, ← List.zipIdx_map_fst 0 parts] at hq
    obtain ⟨e, he, rfl⟩ := List.mem_map.1 hq
    rw [runs, Option.isSome_map] at hends
    have hchild := Part.isSome_of_run hends he
    rwa [placed, isSome_child] at hchild
  · intro told hnil q hq
    rw [asked, ← List.zipIdx_map_fst 0 parts] at hq
    obtain ⟨e, he, rfl⟩ := List.mem_map.1 hq
    exact issuesAt_eq_nil_iff.1 (List.flatMap_eq_nil_iff.1 (kept told hnil) e he)

/-! ### One schema for all parts -/

variable {element : Schema} {vs : List Value} {told : Answers}

theorem elements_eq_run (element : Schema) (vs : List Value) :
    (element.validator refs).elements ⟨catalog, .collect⟩ vs =
      Part.run .collect (placed refs catalog) (vs.map (element, ·)).zipIdx := by
  rw [List.zipIdx_map, Part.run_map]
  rfl

theorem placedIssues_map :
    placedIssues (vs.map (element, ·)) told = vs.zipIdx.flatMap fun e => issuesAt [.index e.2] (told element e.1) := by
  rw [placedIssues, List.zipIdx_map, List.flatMap_map]
  rfl

theorem made_map : made (vs.map (element, ·)) told = vs.filterMap fun x => Part.value? (told element x) := by
  rw [made, List.filterMap_map]
  rfl

theorem array_breakdown (hrefs : ∀ name, (refs name).Explained) (element : Schema) (sizes : Checks SizeTest)
    (items : List Value) :
    (Breakdown.array element sizes ⟨catalog, .collect⟩ items).Of (collected refs catalog)
      (collected refs catalog (.array element sizes) (.array items)) := by
  refine of_placed hrefs (fun found values =>
    close .collect found (sizes.sizeIssues .array ⟨catalog, .collect⟩ items.length) (.array values))
    (fun _ => rfl) ?_ (fun told => ?_) fun told hnil => ?_
  · rw [← elements_eq_run]
    rfl
  · rw [placedIssues_map, made_map, close_collect, sizeIssues_eq]
    rfl
  · rw [placedIssues_map]
    exact (List.append_eq_nil_iff.1 hnil).1

theorem set_breakdown (hrefs : ∀ name, (refs name).Explained) (element : Schema) (sizes : Checks SizeTest)
    (elements : List Value) :
    (Breakdown.set element sizes ⟨catalog, .collect⟩ elements).Of (collected refs catalog)
      (collected refs catalog (.set element sizes) (.set elements)) := by
  refine of_placed hrefs (fun found values =>
    let size := if found.isEmpty then (Value.distinct values).length else elements.length
    close .collect found (sizes.sizeIssues .set ⟨catalog, .collect⟩ size) (.set (Value.distinct values)))
    (fun _ => rfl) ?_ (fun told => ?_) fun told hnil => ?_
  · rw [← elements_eq_run]
    rfl
  · rw [placedIssues_map, made_map, close_collect, sizeIssues_eq]
    simp only [List.isEmpty_iff]
    rfl
  · rw [placedIssues_map]
    exact (List.append_eq_nil_iff.1 hnil).1

/-! ### A schema for each part -/

theorem tuple_breakdown (hrefs : ∀ name, (refs name).Explained) (schemas : List Schema) (items : List Value) :
    (Breakdown.tuple schemas ⟨catalog, .collect⟩ items).Of (collected refs catalog)
      (collected refs catalog (.tuple schemas) (.array items)) := by
  by_cases hlen : items.length = schemas.length
  · have hissues (told : Answers) : (Breakdown.tuple schemas ⟨catalog, .collect⟩ items).issues told =
        placedIssues (schemas.zip items) told := if_pos hlen
    refine of_placed hrefs (fun found values => settle found (.array values)) (fun _ => if_pos hlen) ?_
      (fun told => ?_) fun told hnil => ?_
    · rw [collected, validator_tuple, Validator.tuple, List.length_map, if_pos hlen, List.zip_map_left, List.zipIdx_map,
        Part.run_map]
      rfl
    · rw [settle_eq, Breakdown.outcome, hissues]
      rfl
    · rw [← hissues, hnil]
  · have hasked (told : Answers) : (Breakdown.tuple schemas ⟨catalog, .collect⟩ items).asked told = [] := if_neg hlen
    have hissues (told : Answers) : (Breakdown.tuple schemas ⟨catalog, .collect⟩ items).issues told =
        [Context.issue ⟨catalog, .collect⟩ (.tupleLength schemas.length items.length) none] := if_neg hlen
    refine of_told ?_ ?_ ?_ (collected_ne_unexplained catalog hrefs)
    · intro told _
      rw [collected, validator_tuple, Validator.tuple, List.length_map, if_neg hlen, Breakdown.outcome, hissues]
      rfl
    · intro _ q hq
      rw [hasked] at hq
      simp at hq
    · intro told _ q hq
      rw [hasked] at hq
      simp at hq

/-! ## Records -/

/-- what a record makes of a member, in terms of what its schemas make of the name and of the value -/
def toldMember (key : Option Schema) (value : Schema) (ctx : Context) (told : Answers) (e : String × Value) :
    Part (String × Value) :=
  match refusal key told e.1 with
  | some found => .error [refusedKey ctx e.1 found]
  | none => Part.map (keptName key told e.1, ·) (Part.within (.key e.1) (told value e.2))

variable {key : Option Schema} {value : Schema}

theorem recordKey_told (told : Answers) {name : String}
    (h : Key.isDangerous name = false → ∀ k ∈ key, collected refs catalog k (.string name) = some (told k (.string name))) :
    recordKey (key.map (validator refs)) ⟨catalog, .collect⟩ name = some (match refusal key told name with
      | some found => .error [refusedKey ⟨catalog, .collect⟩ name found]
      | none => .ok (keptName key told name)) := by
  unfold recordKey refusal keptName
  cases hd : Key.isDangerous name with
  | true => rfl
  | false =>
    cases key with
    | none => rfl
    | some k =>
      have hk : k.validator refs ⟨catalog, .collect⟩ (.string name) = some (told k (.string name)) := h hd k rfl
      simp only [Option.map_some, Bool.false_eq_true, if_false]
      rw [hk, Option.map_some]
      cases told k (.string name) with
      | error found => rfl
      | ok w =>
        cases w with
        | string other =>
          simp only
          cases Key.isDangerous other <;> rfl
        | _ => rfl

theorem recordEntry_told {e : String × Value}
    (hkey : Key.isDangerous e.1 = false → ∀ k ∈ key, collected refs catalog k (.string e.1) = some (told k (.string e.1)))
    (hvalue : refusal key told e.1 = none → collected refs catalog value e.2 = some (told value e.2)) :
    recordEntry (key.map (validator refs)) (value.validator refs) ⟨catalog, .collect⟩ e =
      some (toldMember key value ⟨catalog, .collect⟩ told e) := by
  rw [recordEntry, recordKey_told told hkey, Option.bind_some, toldMember]
  cases hr : refusal key told e.1 with
  | some found => rfl
  | none =>
    simp only
    rw [child_told (.key e.1) (hvalue hr), Option.map_some]

/-- issues of members, each refused name giving one -/
theorem issues_toldMember (ctx : Context) (e : String × Value) :
    (toldMember key value ctx told e).issues = match refusal key told e.1 with
      | some found => [{ ctx.issue (.invalidKey e.1) none with path := [.key e.1], nested := found }]
      | none => issuesAt [.key e.1] (told value e.2) := by
  unfold toldMember
  cases refusal key told e.1 with
  | some found => rfl
  | none =>
    simp only [Part.issues_map, Part.issues_within]
    rfl

theorem value?_toldMember {ctx : Context} {e : String × Value} (h : (toldMember key value ctx told e).issues = []) :
    (toldMember key value ctx told e).value? = (Part.value? (told value e.2)).map (keptName key told e.1, ·) := by
  unfold toldMember at h ⊢
  cases hr : refusal key told e.1 with
  | some found =>
    rw [hr] at h
    cases h
  | none =>
    simp only
    cases told value e.2 <;> rfl

theorem issues_of_not_refused {k : Schema} {name : String} (h : refusal (some k) told name = none) :
    Part.issues (told k (.string name)) = [] := by
  unfold refusal at h
  split_ifs at h
  simp only [Option.map_some] at h
  cases ho : told k (.string name) with
  | ok w => rfl
  | error found =>
    rw [ho] at h
    cases h

/-- an entry that comes to an end has asked the schema of names, and that of values unless the name is refused -/
theorem isSome_of_recordEntry {e : String × Value}
    (h : (recordEntry (key.map (validator refs)) (value.validator refs) ⟨catalog, .collect⟩ e).isSome = true) :
    (Key.isDangerous e.1 = false → ∀ k ∈ key, (collected refs catalog k (.string e.1)).isSome = true) ∧
      (refusal key (heard (collected refs catalog)) e.1 = none → (collected refs catalog value e.2).isSome = true) := by
  obtain ⟨p, hp⟩ := Option.isSome_iff_exists.1 h
  obtain ⟨name, hname, hrest⟩ := Option.bind_eq_some_iff.1 hp
  have hasked : Key.isDangerous e.1 = false → ∀ k ∈ key, (collected refs catalog k (.string e.1)).isSome = true := by
    rintro hd k rfl
    simp only [recordKey, hd, Bool.false_eq_true, if_false, Option.map_some] at hname
    obtain ⟨o, ho, -⟩ := Option.map_eq_some_iff.1 hname
    exact Option.isSome_iff_exists.2 ⟨o, ho⟩
  refine ⟨hasked, fun hr => ?_⟩
  have hkey := recordKey_told (heard (collected refs catalog)) fun hd k hk => heard_eq (hasked hd k hk)
  rw [hname, Option.some.injEq, hr] at hkey
  subst hkey
  obtain ⟨q, hq, -⟩ := Option.map_eq_some_iff.1 hrest
  rw [← isSome_child, hq]
  rfl

theorem record_breakdown (hrefs : ∀ name, (refs name).Explained) (key : Option Schema) (value : Schema)
    (members : Object Value) :
    (Breakdown.record key value ⟨catalog, .collect⟩ members).Of (collected refs catalog)
      (collected refs catalog (.record key value) (.object members)) := by
  have hdef : collected refs catalog (.record key value) (.object members) =
      (Part.run .collect (recordEntry (key.map (validator refs)) (value.validator refs) ⟨catalog, .collect⟩)
        members.toList).map fun ps => settle (Part.allIssues ps) (.object (Object.ofList (Part.values ps))) := by
    rw [collected, validator_record]
    rfl
  refine of_told ?_ ?_ ?_ (collected_ne_unexplained catalog hrefs)
  · intro told htold
    have hentries : ∀ e ∈ members.toList,
        recordEntry (key.map (validator refs)) (value.validator refs) ⟨catalog, .collect⟩ e =
          some (toldMember key value ⟨catalog, .collect⟩ told e) := by
      intro e he
      refine recordEntry_told ?_ ?_
      · intro hd k hk
        refine htold (k, .string e.1) (List.mem_flatMap.2 ⟨e, he, List.mem_append_left _ ?_⟩)
        rw [hd, if_neg Bool.false_ne_true]
        exact List.mem_map.2 ⟨k, Option.mem_toList.2 hk, rfl⟩
      · intro hr
        refine htold (value, e.2) (List.mem_flatMap.2 ⟨e, he, List.mem_append_right _ ?_⟩)
        rw [hr]
        exact List.mem_singleton_self _
    have hissues : Part.allIssues (members.toList.map (toldMember key value ⟨catalog, .collect⟩ told)) =
        (Breakdown.record key value ⟨catalog, .collect⟩ members).issues told := by
      simp only [Part.allIssues_map, issues_toldMember]
      rfl
    rw [hdef, Part.run_told hentries, Option.map_some, settle_eq, hissues, Breakdown.outcome]
    by_cases hnil : (Breakdown.record key value ⟨catalog, .collect⟩ members).issues told = []
    · have hvalues : Part.values (members.toList.map (toldMember key value ⟨catalog, .collect⟩ told)) =
          members.toList.filterMap fun e => (Part.value? (told value e.2)).map (keptName key told e.1, ·) := by
        rw [Part.values_map]
        refine List.filterMap_congr fun e he => value?_toldMember ?_
        exact Part.issues_eq_nil_of_allIssues (hissues.trans hnil) (List.mem_map_of_mem he)
      rw [if_pos hnil, if_pos hnil, hvalues]
      rfl
    · rw [if_neg hnil, if_neg hnil]
  · intro hends q hq
    rw [hdef, Option.isSome_map] at hends
    obtain ⟨e, he, hq⟩ := List.mem_flatMap.1 hq
    obtain ⟨hkeys, hvalue⟩ := isSome_of_recordEntry (Part.isSome_of_run hends he)
    rcases List.mem_append.1 hq with hq | hq
    · split_ifs at hq with hd
      · simp at hq
      · obtain ⟨k, hk, rfl⟩ := List.mem_map.1 hq
        exact hkeys (by simpa using hd) k (Option.mem_toList.1 hk)
    · split_ifs at hq with hr
      · obtain rfl := List.mem_singleton.1 hq
        exact hvalue (Option.isNone_iff_eq_none.1 hr)
      · simp at hq
  · intro told hnil q hq
    obtain ⟨e, he, hq⟩ := List.mem_flatMap.1 hq
    have hmember := List.flatMap_eq_nil_iff.1 hnil e he
    cases hr : refusal key told e.1 with
    | some found =>
      rw [hr] at hmember
      cases hmember
    | none =>
      rw [hr] at hmember hq
      rcases List.mem_append.1 hq with hq | hq
      · split_ifs at hq
        · simp at hq
        · obtain ⟨k, hk, rfl⟩ := List.mem_map.1 hq
          obtain rfl := Option.mem_toList.1 hk
          exact issues_of_not_refused hr
      · obtain rfl := List.mem_singleton.1 hq
        exact issuesAt_eq_nil_iff.1 hmember

/-! ## Maps -/

/-- what a map makes of an entry -/
def toldEntry (key value : Schema) (told : Answers) (e : (Value × Value) × Nat) : Part (Value × Value) :=
  match told key e.1.1, told value e.1.2 with
  | .ok k, .ok w => .ok (k, w)
  | k, w => .error (issuesAt [.index e.2, .key "key"] k ++ issuesAt [.index e.2, .key "value"] w)

theorem mapEntry_told {key value : Schema} {e : (Value × Value) × Nat}
    (hkey : collected refs catalog key e.1.1 = some (told key e.1.1))
    (hvalue : collected refs catalog value e.1.2 = some (told value e.1.2)) :
    mapEntry (key.validator refs) (value.validator refs) ⟨catalog, .collect⟩ e = some (toldEntry key value told e) := by
  rw [collected] at hkey hvalue
  simp only [mapEntry, hkey, hvalue, Option.map_some, Option.bind_some, stops_collect, Bool.false_eq_true, if_false,
    toldEntry, ← Part.issues_within_within]
  cases told key e.1.1 <;> cases told value e.1.2 <;> rfl

theorem issues_toldEntry (key value : Schema) (e : (Value × Value) × Nat) :
    (toldEntry key value told e).issues =
      issuesAt [.index e.2, .key "key"] (told key e.1.1) ++ issuesAt [.index e.2, .key "value"] (told value e.1.2) := by
  unfold toldEntry
  cases told key e.1.1 <;> cases told value e.1.2 <;> rfl

theorem isSome_of_mapEntry {key value : Schema} {e : (Value × Value) × Nat}
    (h : (mapEntry (key.validator refs) (value.validator refs) ⟨catalog, .collect⟩ e).isSome = true) :
    (collected refs catalog key e.1.1).isSome = true ∧ (collected refs catalog value e.1.2).isSome = true := by
  obtain ⟨p, hp⟩ := Option.isSome_iff_exists.1 h
  obtain ⟨k, hk, hrest⟩ := Option.bind_eq_some_iff.1 hp
  obtain ⟨o, ho, -⟩ := Option.map_eq_some_iff.1 hk
  rw [stops_collect, if_neg Bool.false_ne_true] at hrest
  obtain ⟨w, hw, -⟩ := Option.map_eq_some_iff.1 hrest
  obtain ⟨u, hu, -⟩ := Option.map_eq_some_iff.1 hw
  exact ⟨Option.isSome_iff_exists.2 ⟨o, ho⟩, Option.isSome_iff_exists.2 ⟨u, hu⟩⟩

theorem map_breakdown (hrefs : ∀ name, (refs name).Explained) (key value : Schema) (entries : List (Value × Value)) :
    (Breakdown.map key value entries).Of (collected refs catalog)
      (collected refs catalog (.map key value) (.map entries)) := by
  have hdef : collected refs catalog (.map key value) (.map entries) =
      (Part.run .collect (mapEntry (key.validator refs) (value.validator refs) ⟨catalog, .collect⟩) entries.zipIdx).map
        fun ps => settle (Part.allIssues ps) (Value.ofEntries (Part.values ps)) := rfl
  have hasked {told : Answers} {e : Value × Value} (he : e ∈ entries) :
      (key, e.1) ∈ (Breakdown.map key value entries).asked told ∧
        (value, e.2) ∈ (Breakdown.map key value entries).asked told := by
    constructor
    · exact List.mem_flatMap.2 ⟨e, he, List.mem_cons_self⟩
    · exact List.mem_flatMap.2 ⟨e, he, List.mem_cons_of_mem _ List.mem_cons_self⟩
  refine of_told ?_ ?_ ?_ (collected_ne_unexplained catalog hrefs)
  · intro told htold
    have hentries : ∀ e ∈ entries.zipIdx,
        mapEntry (key.validator refs) (value.validator refs) ⟨catalog, .collect⟩ e = some (toldEntry key value told e) := by
      intro e he
      obtain ⟨hkey, hvalue⟩ := hasked (List.fst_mem_of_mem_zipIdx he)
      exact mapEntry_told (htold _ hkey) (htold _ hvalue)
    have hvalues : Part.values (entries.zipIdx.map (toldEntry key value told)) = entries.filterMap fun e =>
        match told key e.1, told value e.2 with
        | .ok k, .ok w => some (k, w)
        | _, _ => none := by
      conv_rhs => rw [← List.zipIdx_map_fst 0 entries, List.filterMap_map]
      rw [Part.values_map]
      refine List.filterMap_congr fun e _ => ?_
      simp only [toldEntry, Function.comp_apply]
      cases told key e.1.1 <;> cases told value e.1.2 <;> rfl
    rw [hdef, Part.run_told hentries, Option.map_some, settle_eq, hvalues]
    simp only [Part.allIssues_map, issues_toldEntry]
    rfl
  · intro hends q hq
    rw [hdef, Option.isSome_map] at hends
    obtain ⟨e, he, hq⟩ := List.mem_flatMap.1 hq
    rw [← List.zipIdx_map_fst 0 entries] at he
    obtain ⟨f, hf, rfl⟩ := List.mem_map.1 he
    obtain ⟨hkey, hvalue⟩ := isSome_of_mapEntry (Part.isSome_of_run hends hf)
    rcases List.mem_pair.1 hq with rfl | rfl
    · exact hkey
    · exact hvalue
  · intro told hnil q hq
    obtain ⟨e, he, hq⟩ := List.mem_flatMap.1 hq
    rw [← List.zipIdx_map_fst 0 entries] at he
    obtain ⟨f, hf, rfl⟩ := List.mem_map.1 he
    obtain ⟨hkey, hvalue⟩ := List.append_eq_nil_iff.1 (List.flatMap_eq_nil_iff.1 hnil f hf)
    rcases List.mem_pair.1 hq with rfl | rfl
    · exact issuesAt_eq_nil_iff.1 hkey
    · exact issuesAt_eq_nil_iff.1 hvalue

/-! ## Runs -/

/-- **Nothing lost, nothing invented.** While issues are collected, arrays, sets, tuples, records and maps answer what
their breakdowns say: they come to an end exactly if every schema that they ask does; their issues are those of the parts,
each with the way to the part before its place and otherwise unchanged, in the order of the parts, together with the issues
about the whole; and without issues they accept, with the output made of what the parts became. This holds however deep
names are followed, and so of `validate`. -/
theorem collections_account_for_parts (defs : Definitions) (n : Nat) (catalog : Catalog) :
    (∀ element sizes items, (Breakdown.array element sizes ⟨catalog, .collect⟩ items).Of
      (fun s v => s.run defs n ⟨catalog, .collect⟩ v)
      ((Schema.array element sizes).run defs n ⟨catalog, .collect⟩ (.array items))) ∧
    (∀ element sizes elements, (Breakdown.set element sizes ⟨catalog, .collect⟩ elements).Of
      (fun s v => s.run defs n ⟨catalog, .collect⟩ v)
      ((Schema.set element sizes).run defs n ⟨catalog, .collect⟩ (.set elements))) ∧
    (∀ schemas items, (Breakdown.tuple schemas ⟨catalog, .collect⟩ items).Of
      (fun s v => s.run defs n ⟨catalog, .collect⟩ v)
      ((Schema.tuple schemas).run defs n ⟨catalog, .collect⟩ (.array items))) ∧
    (∀ key value members, (Breakdown.record key value ⟨catalog, .collect⟩ members).Of
      (fun s v => s.run defs n ⟨catalog, .collect⟩ v)
      ((Schema.record key value).run defs n ⟨catalog, .collect⟩ (.object members))) ∧
    (∀ key value entries, (Breakdown.map key value entries).Of
      (fun s v => s.run defs n ⟨catalog, .collect⟩ v)
      ((Schema.map key value).run defs n ⟨catalog, .collect⟩ (.map entries))) := by
  have hrefs : ∀ name, (references defs n name).Explained := references_explained defs n
  simp only [run_eq]
  exact ⟨array_breakdown hrefs, set_breakdown hrefs, tuple_breakdown hrefs, record_breakdown hrefs, map_breakdown hrefs⟩

end Schema

end ValueSchema
