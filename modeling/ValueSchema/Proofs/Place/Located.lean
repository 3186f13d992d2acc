import ValueSchema.Proofs.Budget.Suffices
import ValueSchema.Proofs.Place.Resolves
import ValueSchema.Proofs.Validator.Accepted

/-!
Issues stand where the trouble is.

`a.Locates v place` says that the issues of the validator `a` about the value `v` stand at such places. A collection gives
its parts what stands at a place of its value, and puts the steps to this place before the issues of the part; most other
validators give their parts the value itself. Pipelines do neither: the second part sees a value that is not in the input.

Results:
- `array_locates`, …, `transform_locates`: the combinators, whatever the places are.
- `validator_locates`: schemas report at places that resolve under them, if the names in them do.
- `issues_address_input`: what this says of runs.
-/

namespace ValueSchema

open Issue (AllAddress)

/-- the issues of a run address what those of its parts do -/
theorem Part.allAddress_run {α β : Type} {place : Path → Prop} {mode : Mode} {part : β → Option (Part α)} {bs : List β}
    {ps : List (Part α)} (hrun : run mode part bs = some ps)
    (h : ∀ b ∈ bs, ∀ p, part b = some p → AllAddress place p.issues) : AllAddress place (allIssues ps) := by
  intro i hi
  obtain ⟨p, hp, hi⟩ := List.mem_flatMap.1 hi
  obtain ⟨b, hb, hpart⟩ := mem_of_run hrun hp
  exact h b hb p hpart i hi

namespace Validator

/-- the issues that a validator reports about a value stand at such places -/
def Locates (a : Validator) (v : Value) (place : Path → Prop) : Prop :=
  ∀ ctx o, a ctx v = some o → AllAddress place (Part.issues o)

section Combinators

variable {v : Value} {place : Path → Prop} {a key left right inner : Validator}

theorem Locates.mono {others : Path → Prop} (ha : a.Locates v place) (h : ∀ path, place path → others path) :
    a.Locates v others := fun ctx o ho => (ha ctx o ho).mono h

/-- issues about what stands at the end of a path, under a schema for it, are issues about the whole -/
theorem Locates.inside {defs : Definitions} {s t : Schema} {u : Value} (ha : a.Locates u (t.Resolves defs u))
    (before : Path) (hvalue : ∀ path w, u.Holds path w → v.Holds (before ++ path) w)
    (hschema : ∀ path r, t.Assigns defs path r → s.Assigns defs (before ++ path) r) :
    a.Locates u fun path => s.Resolves defs v (before ++ path) :=
  ha.mono fun _ => .within before hvalue hschema

theorem Locates.child {segment : Segment} (ha : a.Locates v fun path => place (segment :: path)) {ctx : Context}
    {p : Part Value} (h : a.child segment ctx v = some p) : AllAddress place p.issues := by
  obtain ⟨o, ho, rfl⟩ := Option.map_eq_some_iff.1 h
  rw [Part.issues_within]
  exact (ha ctx o ho).within

theorem allAddress_wrongKind (here : place []) {ctx : Context} {expected : String} {own : Option String} {o : Outcome}
    (h : some (ctx.wrongKind expected v own) = some o) : AllAddress place (Part.issues o) := by
  cases h
  exact .issue here ctx _ own

theorem allAddress_sizeIssues (here : place []) (sizes : Checks SizeTest) (origin : Origin) (ctx : Context) (size : Nat) :
    AllAddress place (sizes.sizeIssues origin ctx size) := by
  intro i hi
  obtain ⟨check, -, hcheck⟩ := List.exists_of_findSome?_eq_some (Option.mem_toList.1 hi)
  obtain ⟨m, -, rfl⟩ := Option.map_eq_some_iff.1 hcheck
  exact .intro here nofun

theorem allAddress_close {partIssues wholeIssues : List Issue} (hpart : AllAddress place partIssues)
    (hwhole : AllAddress place wholeIssues) (mode : Mode) (w : Value) :
    AllAddress place (Part.issues (close mode partIssues wholeIssues w)) := by
  unfold close
  split_ifs
  · exact hpart
  · rw [Part.issues_settle]
    exact hpart.append hwhole

/-! ## Sequences -/

theorem array_locates (here : place []) (sizes : Checks SizeTest)
    (h : ∀ items, v = .array items → ∀ position u, items[position]? = some u →
      a.Locates u fun path => place (.index position :: path)) : (array a sizes).Locates v place := by
  intro ctx o ho
  cases v with
  | array items =>
    obtain ⟨ps, hps, rfl⟩ := Option.map_eq_some_iff.1 ho
    refine allAddress_close (Part.allAddress_run hps fun e he p hp => ?_) (allAddress_sizeIssues here _ _ _ _) _ _
    exact (h items rfl e.2 e.1 (List.mk_mem_zipIdx_iff_getElem?.1 he)).child hp
  | _ => exact allAddress_wrongKind here ho

theorem set_locates (here : place []) (sizes : Checks SizeTest)
    (h : ∀ elements, v = .set elements → ∀ position u, elements[position]? = some u →
      a.Locates u fun path => place (.index position :: path)) : (set a sizes).Locates v place := by
  intro ctx o ho
  cases v with
  | set elements =>
    obtain ⟨ps, hps, rfl⟩ := Option.map_eq_some_iff.1 ho
    refine allAddress_close (Part.allAddress_run hps fun e he p hp => ?_) (allAddress_sizeIssues here _ _ _ _) _ _
    exact (h elements rfl e.2 e.1 (List.mk_mem_zipIdx_iff_getElem?.1 he)).child hp
  | _ => exact allAddress_wrongKind here ho

theorem tuple_locates (here : place []) {items : List Validator}
    (h : ∀ vs, v = .array vs → ∀ (position : Nat) (a : Validator) (u : Value), items[position]? = some a →
      vs[position]? = some u → a.Locates u fun path => place (.index position :: path)) : (tuple items).Locates v place := by
  intro ctx o ho
  cases v with
  | array vs =>
    simp only [tuple] at ho
    split_ifs at ho
    · obtain ⟨ps, hps, rfl⟩ := Option.map_eq_some_iff.1 ho
      rw [Part.issues_settle]
      refine Part.allAddress_run hps fun e he p hp => ?_
      -- the value at a position of the pairs is the one at this position of the array
      have hpair : (items.zip vs)[e.2]? = some e.1 := List.mk_mem_zipIdx_iff_getElem?.1 he
      obtain ⟨hitem, hvalue⟩ := List.getElem?_zip_eq_some.1 hpair
      exact (h vs rfl e.2 _ _ hitem hvalue).child hp
    · cases ho
      exact .issue here ctx _ none
  | _ => exact allAddress_wrongKind here ho

/-! ## Maps and objects -/

/-- the issues of an entry stand at its key or at its value -/
theorem allAddress_mapEntry {e : (Value × Value) × Nat}
    (hkey : key.Locates e.1.1 fun path => place (.index e.2 :: .key "key" :: path))
    (hvalue : a.Locates e.1.2 fun path => place (.index e.2 :: .key "value" :: path)) {ctx : Context}
    {p : Part (Value × Value)} (h : mapEntry key a ctx e = some p) : AllAddress place p.issues := by
  -- both parts are placed by two steps, between which there is no value
  have hplaced : ∀ (name : String) (o : Outcome),
      AllAddress (fun path => place (.index e.2 :: .key name :: path)) (Part.issues o) →
      AllAddress place (Part.issues ((Part.within (.key name) o).within (.index e.2))) := by
    intro name o ho
    rw [Part.issues_within, Part.issues_within]
    exact AllAddress.within (AllAddress.within ho)
  simp only [mapEntry, Option.bind_eq_some_iff] at h
  obtain ⟨k', hk', h⟩ := h
  obtain ⟨k, hk, rfl⟩ := Option.map_eq_some_iff.1 hk'
  have hkissues := hplaced "key" k (hkey ctx k hk)
  split_ifs at h
  · cases h
    exact hkissues
  · obtain ⟨w', hw', rfl⟩ := Option.map_eq_some_iff.1 h
    obtain ⟨w, hw, rfl⟩ := Option.map_eq_some_iff.1 hw'
    have hwissues := hplaced "value" w (hvalue ctx w hw)
    split
    · exact .nil _
    · exact hkissues.append hwissues

theorem map_locates (here : place [])
    (hkey : ∀ entries, v = .map entries → ∀ position e, entries[position]? = some e →
      key.Locates e.1 fun path => place (.index position :: .key "key" :: path))
    (hvalue : ∀ entries, v = .map entries → ∀ position e, entries[position]? = some e →
      a.Locates e.2 fun path => place (.index position :: .key "value" :: path)) : (map key a).Locates v place := by
  intro ctx o ho
  cases v with
  | map entries =>
    obtain ⟨ps, hps, rfl⟩ := Option.map_eq_some_iff.1 ho
    rw [Part.issues_settle]
    refine Part.allAddress_run hps fun e he p hp => ?_
    have hget : entries[e.2]? = some e.1 := List.mk_mem_zipIdx_iff_getElem?.1 he
    exact allAddress_mapEntry (hkey entries rfl _ _ hget) (hvalue entries rfl _ _ hget) hp
  | _ => exact allAddress_wrongKind here ho

/-- the issue about a name stands at its member, and what the validator of names finds is nested in it -/
theorem allAddress_recordKey {key : Option Validator} {name : String} (hmember : place [.key name])
    (hkey : ∀ k ∈ key, k.Locates (.string name) fun path => place (.key name :: path)) {ctx : Context} {p : Part String}
    (h : recordKey key ctx name = some p) : AllAddress place p.issues := by
  have hrefused : ∀ nested : List Issue, AllAddress (fun path => place (.key name :: path)) nested →
      AllAddress place [refusedKey ctx name nested] := by
    intro nested hnested
    exact .one (.intro hmember fun j hj => (hnested j hj).moved [.key name])
  unfold recordKey at h
  split_ifs at h
  · cases h
    exact hrefused [] (.nil _)
  · cases key with
    | none =>
      cases h
      exact .nil _
    | some k =>
      obtain ⟨o, ho, rfl⟩ := Option.map_eq_some_iff.1 h
      have hnested := hkey k rfl ctx o ho
      split
      · split_ifs
        · exact hrefused [] (.nil _)
        · exact .nil _
      · exact .nil _
      · exact hrefused _ hnested

theorem record_locates (here : place []) {key : Option Validator}
    (hmember : ∀ obj, v = .object obj → ∀ e ∈ obj.toList, place [.key e.1])
    (hkey : ∀ obj, v = .object obj → ∀ e ∈ obj.toList, ∀ k ∈ key,
      k.Locates (.string e.1) fun path => place (.key e.1 :: path))
    (hvalue : ∀ obj, v = .object obj → ∀ e ∈ obj.toList, a.Locates e.2 fun path => place (.key e.1 :: path)) :
    (record key a).Locates v place := by
  intro ctx o ho
  cases v with
  | object obj =>
    obtain ⟨ps, hps, rfl⟩ := Option.map_eq_some_iff.1 ho
    rw [Part.issues_settle]
    refine Part.allAddress_run hps fun e he p hp => ?_
    obtain ⟨k, hk, hp⟩ := Option.bind_eq_some_iff.1 hp
    cases k with
    | error issues =>
      cases hp
      exact allAddress_recordKey (hmember obj rfl e he) (hkey obj rfl e he) hk
    | ok name =>
      obtain ⟨q, hq, rfl⟩ := Option.map_eq_some_iff.1 hp
      rw [Part.issues_map]
      exact (hvalue obj rfl e he).child hq
  | _ => exact allAddress_wrongKind here ho

theorem allAddress_keepExtras (here : place []) {unknown : UnknownKeys Validator} {es : List (String × Value)}
    (hu : ∀ a ∈ unknown.parts, ∀ e ∈ es, a.Locates e.2 fun path => place (.key e.1 :: path)) {ctx : Context}
    {ps : List (Part (String × Value))} (h : keepExtras unknown ctx es = some ps) :
    AllAddress place (Part.allIssues ps) := by
  cases unknown with
  | strip =>
    cases h
    exact .nil _
  | strict =>
    cases h
    split_ifs
    · exact .nil _
    · exact .issue here ctx _ none
  | passthrough =>
    cases h
    rw [Part.allIssues_map_ok]
    exact .nil _
  | catchall a =>
    refine Part.allAddress_run h fun e he p hp => ?_
    obtain ⟨q, hq, rfl⟩ := Option.map_eq_some_iff.1 hp
    rw [Part.issues_map]
    exact (hu a (List.mem_singleton_self a) e (List.mem_of_mem_filter he)).child hq

theorem object_locates (here : place []) {fields : List (String × Validator)} {unknown : UnknownKeys Validator}
    (hf : ∀ obj, v = .object obj → ∀ f ∈ fields,
      f.2.Locates ((obj.get? f.1).getD .undefined) fun path => place (.key f.1 :: path))
    (hu : ∀ obj, v = .object obj → ∀ a ∈ unknown.parts, ∀ e ∈ obj.toList, e.1 ∉ fields.map Prod.fst →
      a.Locates e.2 fun path => place (.key e.1 :: path)) : (object fields unknown).Locates v place := by
  intro ctx o ho
  cases v with
  | object obj =>
    simp only [object, Option.bind_eq_some_iff] at ho
    obtain ⟨known, hknown, ho⟩ := ho
    have hissues : AllAddress place (Part.allIssues known) := by
      refine Part.allAddress_run hknown fun f hfm p hp => ?_
      obtain ⟨q, hq, rfl⟩ := Option.map_eq_some_iff.1 hp
      rw [Part.issues_map]
      exact (hf obj rfl f hfm).child hq
    split_ifs at ho
    · cases ho
      exact hissues
    · obtain ⟨others, hothers, rfl⟩ := Option.map_eq_some_iff.1 ho
      rw [Part.issues_settle]
      refine hissues.append (allAddress_keepExtras here (fun a ha e he => ?_) hothers)
      obtain ⟨hmem, hextra⟩ := List.mem_filter.1 he
      exact hu obj rfl a ha e hmem (by simpa using hextra)
  | _ => exact allAddress_wrongKind here ho

/-! ## Choices -/

theorem union_locates (here : place []) {alternatives : List Alternative}
    (h : ∀ b ∈ alternatives, b.validator.Locates v place) : (union alternatives).Locates v place := by
  intro ctx o ho
  cases o with
  | ok w => exact .nil _
  | error issues =>
    obtain ⟨-, failures, rfl, hfailures⟩ := union_eq_error ho
    refine .one (.intro here fun j hj => ?_)
    obtain ⟨js, hjs, hj⟩ := List.mem_flatten.1 hj
    obtain ⟨b, hb, hbv⟩ := hfailures js hjs
    exact h b hb ctx _ hbv j hj

theorem discriminated_locates (here : place []) {tag : String} (htag : ∀ obj, v = .object obj → place [.key tag])
    {options : List TaggedOption} (h : ∀ option ∈ options, option.validator.Locates v place) :
    (discriminated tag options).Locates v place := by
  intro ctx o ho
  cases v with
  | object obj =>
    simp only [discriminated] at ho
    cases hfind : options.find? fun option => option.tags.any (·.same ((obj.get? tag).getD .undefined)) with
    | some option =>
      rw [hfind] at ho
      exact h option (List.mem_of_find?_eq_some hfind) ctx o ho
    | none =>
      rw [hfind] at ho
      cases ho
      exact .one (.intro (htag obj rfl) (List.forall_mem_nil _))
  | _ => exact allAddress_wrongKind here ho

theorem intersection_locates (here : place []) (hl : left.Locates v place) (hr : right.Locates v place) :
    (intersection left right).Locates v place := by
  intro ctx o ho
  simp only [intersection, Option.bind_eq_some_iff] at ho
  obtain ⟨l, hlv, ho⟩ := ho
  have hlissues := hl ctx l hlv
  split_ifs at ho
  · cases ho
    exact hlissues
  · obtain ⟨r, hrv, rfl⟩ := Option.map_eq_some_iff.1 ho
    split
    · split
      · exact .nil _
      · exact .issue here ctx _ none
    · exact hlissues.append (hr ctx r hrv)

/-! ## Wrappers -/

theorem optional_locates (h : inner.Locates v place) : (optional inner).Locates v place := by
  intro ctx o ho
  simp only [optional] at ho
  split_ifs at ho
  · cases ho
    exact .nil _
  · exact h ctx o ho

theorem nullable_locates (h : inner.Locates v place) : (nullable inner).Locates v place := by
  intro ctx o ho
  simp only [nullable] at ho
  split_ifs at ho
  · cases ho
    exact .nil _
  · exact h ctx o ho

theorem defaulting_locates (h : inner.Locates v place) (fallback : Value) :
    (defaulting inner fallback).Locates v place := by
  intro ctx o ho
  simp only [defaulting] at ho
  split_ifs at ho
  · cases ho
    exact .nil _
  · exact h ctx o ho

theorem catching_locates (inner : Validator) (fallback : Value) : (catching inner fallback).Locates v place := by
  intro ctx o ho
  obtain ⟨p, -, rfl⟩ := Option.map_eq_some_iff.1 ho
  cases p <;> exact .nil _

/-- a refinement without a path of its own -/
theorem refine_locates (here : place []) (h : inner.Locates v place) (holds : Predicate) (message : String) :
    (refine inner holds message []).Locates v place := by
  intro ctx o ho
  obtain ⟨p, hp, rfl⟩ := Option.map_eq_some_iff.1 ho
  cases p with
  | ok w =>
    simp only
    split_ifs
    · exact .nil _
    · exact .issue here ctx .custom (some message)
  | error issues => exact h ctx _ hp

theorem transform_locates (here : place []) (h : inner.Locates v place) (convert : Conversion) :
    (transform inner convert).Locates v place := by
  intro ctx o ho
  obtain ⟨p, hp, rfl⟩ := Option.map_eq_some_iff.1 ho
  cases p with
  | ok w =>
    simp only
    split
    · exact .nil _
    · exact .issue here ctx _ none
  | error issues => exact h ctx _ hp

end Combinators

end Validator

theorem Leaf.validate_locates (l : Leaf) (v : Value) {place : Path → Prop} (here : place []) :
    Validator.Locates (fun ctx v => some (l.validate ctx v)) v place := by
  intro ctx o h
  obtain rfl := Option.some.inj h
  rcases l.verdict v with ⟨w, hw⟩ | ⟨m, own, hm⟩
  · rw [show l.validate ctx v = .ok w from hw ctx]
    exact .nil _
  · rw [show l.validate ctx v = ctx.fail m own from hm ctx]
    exact .issue here ctx m own

/-! ## Schemas -/

namespace Schema

open Validator

/-- the schema is no pipeline, and no refinement that reports at a place of its own choice -/
def OnInput : Schema → Prop
  | .pipe _ _ => False
  | .refine _ _ _ path => path = []
  | _ => True

variable {defs : Definitions}

theorem unknown_eq_of_mem_parts {unknown : UnknownKeys Schema} {t : Schema} (h : t ∈ unknown.parts) :
    unknown = .catchall t := by
  cases unknown with
  | catchall rest => rw [List.mem_singleton.1 h]
  | _ => cases h

/-- **Schemas report at places that resolve**, if the names in them do. -/
theorem validator_locates {refs : References} (hrefs : ∀ name v, (refs name).Locates v ((Schema.lazy name).Resolves defs v))
    {s : Schema} (hs : s.All OnInput) (v : Value) : (s.validator refs).Locates v (s.Resolves defs v) := by
  induction s using parts_induction generalizing v with
  | step s ih =>
    have here : s.Resolves defs v [] := .here defs s v
    have part : ∀ t ∈ s.parts, ∀ u, (t.validator refs).Locates u (t.Resolves defs u) :=
      fun t ht u => ih t ht (hs.parts t ht) u
    -- parts that are asked about the value itself
    have asked : ∀ t ∈ s.askedHere, t ∈ s.parts → (t.validator refs).Locates v (s.Resolves defs v) :=
      fun t hasked ht => (part t ht v).mono fun _ => .asked hasked
    have form := hs.here
    cases s with
    | leaf l => exact l.validate_locates v here
    | object type =>
      rw [validator_object]
      refine object_locates here ?_ ?_
      · rintro obj rfl f hf
        obtain ⟨g, hg, rfl⟩ := List.mem_map.1 hf
        exact (part g.2 (List.mem_append_left _ (List.mem_map_of_mem hg)) _).mono fun _ => .field hg
      · rintro obj rfl a ha e he hextra
        rw [unknownValidator_parts] at ha
        obtain ⟨t, ht, rfl⟩ := List.mem_map.1 ha
        have hname : e.1 ∉ type.shape.names := by
          rwa [List.map_map, Function.comp_def, Object.map_fst_toList] at hextra
        exact (part t (List.mem_append_right _ ht) e.2).inside [.key e.1]
          (fun _ _ => .member (Object.get?_eq_some_iff.2 he)) fun _ _ => .other (unknown_eq_of_mem_parts ht) hname
    | array element sizes =>
      refine array_locates here sizes ?_
      rintro items rfl position u hu
      exact (part element (by simp [parts]) u).inside [.index position] (fun _ _ => .item hu) fun _ _ => .item
    | set element sizes =>
      refine set_locates here sizes ?_
      rintro elements rfl position u hu
      exact (part element (by simp [parts]) u).inside [.index position] (fun _ _ => .element hu)
        fun _ _ => .element
    | tuple items =>
      rw [validator_tuple]
      refine tuple_locates here ?_
      rintro vs rfl position a u ha hu
      rw [List.getElem?_map] at ha
      obtain ⟨t, ht, rfl⟩ := Option.map_eq_some_iff.1 ha
      exact (part t (List.mem_of_getElem? ht) u).inside [.index position] (fun _ _ => .item hu)
        fun _ _ => .component ht
    | record key value =>
      rw [validator_record]
      have hplace : ∀ obj, v = .object obj → ∀ e ∈ obj.toList, (Schema.record key value).Resolves defs v [.key e.1] := by
        rintro obj rfl e he
        exact .part (.member (Object.get?_eq_some_iff.2 he) (.here e.2))
      refine record_locates here hplace ?_ ?_
      · -- the validator of names is asked about a text, which has no place but its own
        rintro obj hobj e he k hk
        obtain ⟨t, ht, rfl⟩ := Option.map_eq_some_iff.1 hk
        refine (part t (by simp [parts, ht]) (.string e.1)).mono fun path hpath => ?_
        rw [hpath.eq_nil_of_string]
        exact hplace obj hobj e he
      · rintro obj rfl e he
        exact (part value (by simp [parts]) e.2).inside [.key e.1]
          (fun _ _ => .member (Object.get?_eq_some_iff.2 he)) fun _ _ => .member
    | map key value =>
      refine map_locates here ?_ ?_
      · rintro entries rfl position e he
        exact (part key (by simp [parts]) e.1).inside [.index position, .key "key"] (fun _ _ => .entryKey he)
          fun _ _ => .entryKey
      · rintro entries rfl position e he
        exact (part value (by simp [parts]) e.2).inside [.index position, .key "value"]
          (fun _ _ => .entryValue he) fun _ _ => .entryValue
    | union options =>
      rw [validator_union]
      refine union_locates here fun b hb => ?_
      obtain ⟨t, ht, rfl⟩ := List.mem_map.1 hb
      exact asked t ht ht
    | discriminated tag options =>
      rw [validator_discriminated]
      refine discriminated_locates here ?_ fun option ho => ?_
      · rintro obj rfl
        exact .declared rfl
      · obtain ⟨type, htype, rfl⟩ := List.mem_map.1 ho
        exact asked (.object type) (List.mem_map_of_mem htype) (List.mem_map_of_mem htype)
    | intersection left right =>
      exact intersection_locates here (asked left (by simp [askedHere]) (by simp [parts]))
        (asked right (by simp [askedHere]) (by simp [parts]))
    | optional inner => exact optional_locates (asked inner (by simp [askedHere]) (by simp [parts]))
    | nullable inner => exact nullable_locates (asked inner (by simp [askedHere]) (by simp [parts]))
    | defaulting inner fallback =>
      exact defaulting_locates (asked inner (by simp [askedHere]) (by simp [parts])) fallback
    | catching inner fallback => exact catching_locates _ fallback
    | refine inner holds message path =>
      obtain rfl : path = [] := form
      exact refine_locates here (asked inner (by simp [askedHere]) (by simp [parts])) holds message
    | transform inner convert => exact transform_locates here (asked inner (by simp [askedHere]) (by simp [parts])) convert
    | pipe first second => exact form.elim
    | lazy name => exact hrefs name v

/-- names report at places that resolve, however deep they are followed -/
theorem references_locates (hdefs : ∀ d ∈ defs, d.2.All OnInput) (n : Nat) (name : String) (v : Value) :
    (references defs n name).Locates v ((Schema.lazy name).Resolves defs v) := by
  induction n generalizing name v with
  | zero => exact nofun
  | succ n ih =>
    rw [references_succ]
    cases hd : defs.lookup name with
    | none => exact nofun
    | some d =>
      have hlocates := validator_locates ih (hdefs _ (mem_of_lookup hd)) v
      exact hlocates.mono fun _ => .within [] (fun _ _ hw => hw) fun _ _ => .lazy hd

theorem run_locates (hdefs : ∀ d ∈ defs, d.2.All OnInput) (n : Nat) {s : Schema} (hs : s.All OnInput) (v : Value) :
    (s.run defs n).Locates v (s.Resolves defs v) := by
  rw [run_eq]
  exact validator_locates (references_locates hdefs n) hs v

/-- **Every reported path addresses the input.** Where no schema is a pipeline and no refinement reports elsewhere, each
issue of a failed run stands at a place that resolves in the input, and so does every issue nested in it, at every depth,
behind the paths of the issues around it: it leads to a part of the input, or to a member that an object in the input lacks
and that a schema for this object declares. This holds in every setting, however deep names are followed, and so of
`validate`. -/
theorem issues_address_input (defs : Definitions) (hdefs : ∀ d ∈ defs, d.2.All OnInput) {s : Schema} (hs : s.All OnInput)
    (ctx : Context) (v : Value) (issues : List Issue) :
    (∀ n, s.run defs n ctx v = some (.error issues) → ∀ i ∈ issues, i.Addresses (s.Resolves defs v) []) ∧
      (s.validate defs ctx v = some (.error issues) → ∀ i ∈ issues, i.Addresses (s.Resolves defs v) []) := by
  have hrun (n : Nat) (h : s.run defs n ctx v = some (.error issues)) :
      ∀ i ∈ issues, i.Addresses (s.Resolves defs v) [] := run_locates hdefs n hs v ctx _ h
  refine ⟨hrun, fun h => ?_⟩
  obtain ⟨n, hn⟩ := validate_eq_some_iff.1 h
  exact hrun n hn

/-- lists of maps from any key to an object with a field, or to null -/
def rows : Schema := .array (.map (.leaf .any) (.union [.object (.ofFields [("a", .leaf .null)]), .leaf .null])) .empty

/-- a member missing from the value of an entry, found by an alternative of a union: its path is nested behind that of the
union's issue -/
theorem missing_member_nested :
    ∃ i, rows.run [] 0 ⟨Catalog.english, .collect⟩ (.array [.map [(.null, .object .empty)]]) = some (.error [i]) ∧
      i.path = [.index 0, .index 0, .key "value"] ∧ i.nested.map Issue.path = [[.key "a"], []] ∧
      i.Addresses (rows.Resolves [] (.array [.map [(.null, .object .empty)]])) [] := by
  have leaf (l : Leaf) : (Schema.leaf l).All OnInput := .intro trivial nofun
  have hobject : (Schema.object (.ofFields [("a", .leaf .null)])).All OnInput :=
    .intro trivial (List.forall_mem_cons.2 ⟨leaf _, nofun⟩)
  have hunion : (Schema.union [.object (.ofFields [("a", .leaf .null)]), .leaf .null]).All OnInput :=
    .intro trivial (List.forall_mem_cons.2 ⟨hobject, List.forall_mem_cons.2 ⟨leaf _, nofun⟩⟩)
  have hs : rows.All OnInput := .intro trivial (List.forall_mem_cons.2 ⟨.intro trivial
    (List.forall_mem_cons.2 ⟨leaf _, List.forall_mem_cons.2 ⟨hunion, nofun⟩⟩), nofun⟩)
  refine ⟨_, rfl, rfl, rfl, ?_⟩
  exact (issues_address_input [] nofun hs ⟨Catalog.english, .collect⟩ (.array [.map [(.null, .object .empty)]]) _).1 0 rfl _
    (List.mem_singleton_self _)

end Schema

end ValueSchema
