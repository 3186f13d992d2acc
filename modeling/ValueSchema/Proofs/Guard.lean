import ValueSchema.Proofs.Explained
import ValueSchema.Proofs.Validator.Accepted
import ValueSchema.Proofs.Value.Merge

/-!
Dangerous names stay out of outputs.

Names reach an output by five ways: as the names of fields, as members passed through, as members for a catch-all, as
names of a record, and as names of merged objects. Only the first gives a dangerous name, one that the schema itself
declares.

Results:
- `object_names`, `record_names`, `merge_names`: where the names of an output come from, for each way.
- `dangerous_names_stay_out`: what this says of every object, record and intersection schema.
-/

namespace ValueSchema

namespace Validator

variable {ctx : Context} {v w : Value}

/-- members kept beside the fields are members of the input with safe names -/
theorem safe_of_extrasKept {unknown : UnknownKeys Validator} {es others : List (String × Value)}
    (h : ExtrasKept unknown ctx es others) {e : String × Value} (he : e ∈ others) : Key.isDangerous e.1 = false := by
  cases unknown with
  | strip =>
    obtain rfl : others = [] := h
    simp at he
  | strict =>
    obtain ⟨-, rfl⟩ : es = [] ∧ others = [] := h
    simp at he
  | passthrough =>
    obtain rfl : others = es.filter fun e => !Key.isDangerous e.1 := h
    simpa using List.of_mem_filter he
  | catchall a =>
    have h' : List.Forall₂ (fun e e' => e'.1 = e.1 ∧ a ctx e.2 = some (.ok e'.2))
      (es.filter fun e => !Key.isDangerous e.1) others := h
    obtain ⟨e', he', hname, -⟩ := exists_left_of_forall₂ h' he
    rw [hname]
    simpa using List.of_mem_filter he'

/-- a name of the output of an object is that of a field or safe -/
theorem object_names {fields : List (String × Validator)} {unknown : UnknownKeys Validator}
    (hf : ∀ f ∈ fields, f.2.Explained) (hu : ∀ a ∈ unknown.parts, a.Explained) {o : Object Value}
    (h : object fields unknown ctx v = some (.ok (.object o))) {name : String} (hname : name ∈ o.names) :
    name ∈ fields.map Prod.fst ∨ Key.isDangerous name = false := by
  obtain ⟨i, known, others, -, ho, hknown, hothers⟩ := (object_eq_ok_iff hf hu).1 h
  cases ho
  rw [Object.mem_names_ofList] at hname
  obtain ⟨e, he, rfl⟩ := List.mem_map.1 hname
  rcases List.mem_append.1 he with he | he
  · left
    obtain ⟨m, hm, hme⟩ := List.mem_filterMap.1 he
    obtain ⟨f, hmem, u, -, hfm⟩ := exists_left_of_forall₂ hknown hm
    have hkept : memberOf i f.1 u = some e := hfm.symm.trans hme
    unfold memberOf at hkept
    split_ifs at hkept
    cases hkept
    exact List.mem_map_of_mem hmem
  · right
    exact safe_of_extrasKept hothers he

/-- names of the input and of the output of a record are safe -/
theorem record_names {key : Option Validator} {a : Validator} (ha : a.Explained)
    (h : record key a ctx v = some (.ok w)) :
    ∃ i o, v = .object i ∧ w = .object o ∧ (∀ name ∈ i.names, Key.isDangerous name = false) ∧
      ∀ name ∈ o.names, Key.isDangerous name = false := by
  obtain ⟨i, es, rfl, rfl, hes⟩ := (record_eq_ok_iff ha).1 h
  refine ⟨i, _, rfl, rfl, fun name hname => ?_, fun name hname => ?_⟩
  · obtain ⟨u, hu⟩ := Object.mem_names_iff.1 hname
    obtain ⟨e', -, hkey, -⟩ := exists_right_of_forall₂ hes hu
    exact (recordKey_eq_ok_iff.1 hkey).1
  · rw [Object.mem_names_ofList] at hname
    obtain ⟨e', he', rfl⟩ := List.mem_map.1 hname
    obtain ⟨e, -, hkey, -⟩ := exists_left_of_forall₂ hes he'
    exact (recordKey_eq_ok_iff.1 hkey).2.1

end Validator

/-- a merge holds no dangerous name, neither at the root nor where both values hold objects; such a place is cut off
only if a dangerous name leads there -/
theorem merge_names {a b w : Value} (h : a.merge b = some w) :
    (∀ o, w = .object o → ∀ name ∈ o.names, Key.isDangerous name = false) ∧
    ∀ positions names oa ob, a.at? positions names = some (.object oa) → b.at? positions names = some (.object ob) →
      (∀ u, w.at? positions names = some u →
        ∃ o, u = .object o ∧ ∀ name ∈ o.names, Key.isDangerous name = false) ∧
      ((∀ name ∈ names, Key.isDangerous name = false) → ∃ o, w.at? positions names = some (.object o)) := by
  constructor
  · rintro o rfl name hname
    obtain ⟨oa, ob, -, -, rfl⟩ := Value.objects_of_merge h
    exact Object.safe_of_mem_overlaid hname
  · intro positions names oa ob ha hb
    rw [Value.at?_merge h ha hb]
    constructor
    · intro u hu
      split_ifs at hu
      cases hu
      exact ⟨_, rfl, fun name hname => Object.safe_of_mem_overlaid hname⟩
    · intro hsafe
      refine ⟨Object.overlaid oa ob, if_neg ?_⟩
      simpa using hsafe

namespace Schema

open Validator

/-- **Dangerous names stay out.** In the output of an object schema they are names of its fields. A record schema
accepts no input with one and gives none, whatever its schema of names does. An intersection gives none at the root, nor
at any place where the outputs of both its members hold objects, and keeps every such place that safe names lead to. This
holds however deep names are followed, and so of `validate`. -/
theorem dangerous_names_stay_out (defs : Definitions) (n : Nat) (ctx : Context) (v w : Value) :
    (∀ type o, (Schema.object type).run defs n ctx v = some (.ok w) → w = .object o →
      ∀ name ∈ o.names, Key.isDangerous name = true → name ∈ type.shape.names) ∧
    (∀ key value, (Schema.record key value).run defs n ctx v = some (.ok w) →
      ∃ i o, v = .object i ∧ w = .object o ∧ (∀ name ∈ i.names, Key.isDangerous name = false) ∧
        ∀ name ∈ o.names, Key.isDangerous name = false) ∧
    (∀ left right, (Schema.intersection left right).run defs n ctx v = some (.ok w) →
      (∀ o, w = .object o → ∀ name ∈ o.names, Key.isDangerous name = false) ∧
      ∃ a b, left.run defs n ctx v = some (.ok a) ∧ right.run defs n ctx v = some (.ok b) ∧
        ∀ positions names oa ob,
          a.at? positions names = some (.object oa) → b.at? positions names = some (.object ob) →
          (∀ u, w.at? positions names = some u →
            ∃ o, u = .object o ∧ ∀ name ∈ o.names, Key.isDangerous name = false) ∧
          ((∀ name ∈ names, Key.isDangerous name = false) → ∃ o, w.at? positions names = some (.object o))) := by
  have hrefs : ∀ name, (references defs n name).Explained := references_explained defs n
  refine ⟨?_, ?_, ?_⟩
  · rintro type o h rfl name hname hd
    rw [run_eq, validator_object] at h
    have hnames := object_names (objectFields_explained hrefs type) (unknown_explained hrefs type.unknown) h hname
    rcases hnames with hfield | hsafe
    · rw [List.map_map] at hfield
      rw [← Object.map_fst_toList]
      exact hfield
    · rw [hsafe] at hd
      cases hd
  · intro key value h
    rw [run_eq, validator_record] at h
    exact record_names (validator_explained hrefs value) h
  · intro left right h
    rw [run_eq] at h
    obtain ⟨a, b, ha, hb, hmerge⟩ := intersection_eq_ok h
    obtain ⟨hroot, hplaces⟩ := merge_names hmerge
    refine ⟨hroot, a, b, ?_, ?_, hplaces⟩
    · rw [run_eq]
      exact ha
    · rw [run_eq]
      exact hb

/-- a declared name, a record of safe names, and a nested object of both members that loses its dangerous name -/
theorem guarded_members :
    ("__proto__" ∈ (Object.ofList [("__proto__", Schema.leaf .null)]).names) ∧
    (∃ i : Object Value, Value.object (Object.ofList [("a", .null)]) = .object i ∧
      ∀ name ∈ i.names, Key.isDangerous name = false) ∧
    ∃ w o, (Schema.intersection (.leaf .any) (.leaf .any)).run [] 0 ⟨Catalog.english, .collect⟩
        (.array [.object (Object.ofList [("in", .object (Object.ofList [("__proto__", .null), ("a", .null)]))])]) =
          some (.ok w) ∧
      w.at? [0] ["in"] = some (.object o) ∧ ∀ name ∈ o.names, Key.isDangerous name = false := by
  refine ⟨?_, ?_, ?_⟩
  · exact (dangerous_names_stay_out [] 0 ⟨Catalog.english, .collect⟩ (.object (Object.ofList [("__proto__", .null)])) _).1
      ⟨Object.ofList [("__proto__", Schema.leaf .null)], .passthrough⟩ (Object.ofList [("__proto__", .null)]) rfl rfl
      "__proto__" (by decide) (by decide)
  · obtain ⟨i, o, hi, -, hsafe, -⟩ := (dangerous_names_stay_out [] 0 ⟨Catalog.english, .collect⟩
      (.object (Object.ofList [("a", .null)])) _).2.1 none (.leaf .null) rfl
    exact ⟨i, hi, hsafe⟩
  · obtain ⟨-, a, b, ha, hb, hplaces⟩ := (dangerous_names_stay_out [] 0 ⟨Catalog.english, .collect⟩ (.array [.object
      (Object.ofList [("in", .object (Object.ofList [("__proto__", .null), ("a", .null)]))])]) _).2.2
        (.leaf .any) (.leaf .any) rfl
    cases ha
    cases hb
    obtain ⟨hsafe, hkept⟩ := hplaces [0] ["in"] _ _ rfl rfl
    obtain ⟨o, ho⟩ := hkept (by decide)
    obtain ⟨o', ho', hnames⟩ := hsafe _ ho
    cases ho'
    exact ⟨_, o, rfl, ho, hnames⟩

end Schema

end ValueSchema
