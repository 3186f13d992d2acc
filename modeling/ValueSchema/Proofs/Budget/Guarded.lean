import ValueSchema.Proofs.Budget.Converges
import ValueSchema.Proofs.Budget.Suffices

/-!
Guarded definitions come to an end.

A name in a schema is asked for at the value that the schema is given, unless it stands in a part of a collection: there
it is asked for at parts of the value, at absence or at a member's name, all less high. Definitions are guarded if no name
leads back to itself through names asked for at one value. Then the names at one value come to an end one after the
other, and the names at all values height by height.

Results:
- `validator_converges`: a schema comes to an end on a value if the names in it do where they are asked for.
- `references_converges`: guarded names come to an end everywhere.
- `guarded_schemas_terminate`: what this says of runs, and from which depth on.
-/

namespace ValueSchema.Schema

open Validator

/-! ## Names asked for -/

/-- collections give their parts other values than their own -/
def IsCollection : Schema → Prop
  | .object _ | .array .. | .set .. | .tuple _ | .record .. | .map .. => True
  | _ => False

/-- the name occurs in the schema outside all parts of collections -/
inductive AsksHere (name : String) : Schema → Prop
  | lazy : AsksHere name (.lazy name)
  | inside {s t : Schema} : ¬ s.IsCollection → t ∈ s.parts → AsksHere name t → AsksHere name s

/-- the first definition asks for the second name at the value that it is given -/
def Leads (defs : Definitions) (name next : String) : Prop := ∃ d, defs.lookup name = some d ∧ d.AsksHere next

/-- every cycle of names passes through a part of a collection -/
def Guarded (defs : Definitions) : Prop := ∀ name, ¬ Relation.TransGen (Leads defs) name name

/-- the schema is no name without a definition -/
def Defined (defs : Definitions) : Schema → Prop
  | .lazy name => (defs.lookup name).isSome = true
  | _ => True

variable {defs : Definitions}

/-- a schema comes to an end on a value if the names in it do there, where they are asked for there, and elsewhere: on all
less high values, and if there are pipelines on all values -/
theorem validator_converges {refs : Nat → References} {ctx : Context} {s : Schema} (hs : s.All (Defined defs)) {v : Value}
    (here : ∀ name, (defs.lookup name).isSome = true → s.AsksHere name → Converges fun n => refs n name ctx v)
    (elsewhere : ∀ name, (defs.lookup name).isSome = true → ∀ u, u.height < v.height ∨ ¬ s.Direct →
      Converges fun n => refs n name ctx u) :
    Converges fun n => s.validator (refs n) ctx v := by
  induction s using parts_induction generalizing v with
  | step s ih =>
    have indirect : ∀ t ∈ s.parts, ¬ t.Direct → ¬ s.Direct := fun t ht hnot h => hnot (h.parts t ht)
    -- parts that see another value, a less high one or any one behind a pipeline
    have other : ∀ t ∈ s.parts, ∀ u, u.height < v.height ∨ ¬ s.Direct → Converges fun n => t.validator (refs n) ctx u := by
      intro t ht u hu
      refine ih t ht (hs.parts t ht) (fun name hname _ => elsewhere name hname u hu) fun name hname x hx => ?_
      refine elsewhere name hname x ?_
      rcases hx with hx | hx
      · exact hu.imp_left hx.trans
      · exact Or.inr (indirect t ht hx)
    have below : ∀ t ∈ s.parts, ∀ u, u.height < v.height → Converges fun n => t.validator (refs n) ctx u :=
      fun t ht u hu => other t ht u (Or.inl hu)
    -- parts that see the same value
    have same : ¬ s.IsCollection → ∀ t ∈ s.parts, Converges fun n => t.validator (refs n) ctx v := by
      intro hc t ht
      refine ih t ht (hs.parts t ht) (fun name hname hasks => here name hname (.inside hc ht hasks)) ?_
      exact fun name hname u hu => elsewhere name hname u (hu.imp_right (indirect t ht))
    have hform := hs.here
    cases s with
    | leaf l => exact .const _
    | object type =>
      simp only [validator_object]
      refine object_converges (fun e he => ?_) fun t ht => ?_
      · exact below e.2 (List.mem_append_left _ (List.mem_map_of_mem he))
      · exact below t (List.mem_append_right _ ht)
    | array element sizes => exact array_converges sizes (below element (by simp [parts]))
    | set element sizes => exact set_converges sizes (below element (by simp [parts]))
    | tuple items =>
      simp only [validator_tuple]
      exact tuple_converges below
    | record key value =>
      simp only [validator_record]
      refine record_converges (fun t ht => ?_) (below value (by simp [parts]))
      obtain rfl : key = some t := ht
      exact below t (by simp [parts])
    | map key value => exact map_converges (below key (by simp [parts])) (below value (by simp [parts]))
    | union options =>
      simp only [validator_union]
      exact union_converges (same id)
    | discriminated tag options =>
      simp only [validator_discriminated]
      exact discriminated_converges fun type htype => same id (.object type) (List.mem_map_of_mem htype)
    | intersection left right =>
      exact intersection_converges (same id left (by simp [parts])) (same id right (by simp [parts]))
    | optional inner => exact optional_converges (same id inner (by simp [parts]))
    | nullable inner => exact nullable_converges (same id inner (by simp [parts]))
    | defaulting inner fallback => exact defaulting_converges (same id inner (by simp [parts])) fallback
    | catching inner fallback => exact catching_converges (same id inner (by simp [parts])) fallback
    | refine inner holds message path => exact refine_converges (same id inner (by simp [parts])) holds message path
    | transform inner convert => exact transform_converges (same id inner (by simp [parts])) convert
    | pipe first second =>
      refine pipe_converges (same id first (by simp [parts])) fun u => ?_
      exact other second (by simp [parts]) u (Or.inr fun h => h.here)
    | lazy name => exact here name hform .lazy

/-! ## Guarded names -/

/-- induction over the names asked for at one value, which come to an end as there are finitely many definitions -/
theorem Guarded.induction (hguarded : Guarded defs) {motive : String → Prop}
    (step : ∀ name, (defs.lookup name).isSome = true →
      (∀ next, (defs.lookup next).isSome = true → Leads defs name next → motive next) → motive name)
    {name : String} (hname : (defs.lookup name).isSome = true) : motive name := by
  have hfinite : {name | (defs.lookup name).isSome = true}.Finite := by
    refine (defs.map Prod.fst).finite_toSet.subset fun name h => ?_
    obtain ⟨d, hd⟩ := Option.isSome_iff_exists.1 h
    have hmem : (name, d) ∈ defs := mem_of_lookup hd
    exact List.mem_map.2 ⟨_, hmem, rfl⟩
  have : IsStrictOrder String (flip (Relation.TransGen (Leads defs))) :=
    { irrefl := hguarded
      trans := fun a b c hab hbc => hbc.trans hab }
  refine hfinite.wellFoundedOn (r := flip (Relation.TransGen (Leads defs))) |>.induction hname fun name hname ih => ?_
  exact step name hname fun next hnext hleads => ih next hnext (.single hleads)

/-- **Guarded names come to an end**, on every value. -/
theorem references_converges (hguarded : Guarded defs) (hdirect : ∀ d ∈ defs, d.2.Direct)
    (hdefined : ∀ d ∈ defs, d.2.All (Defined defs)) {name : String} (hname : (defs.lookup name).isSome = true)
    (ctx : Context) (v : Value) : Converges fun n => references defs n name ctx v := by
  induction v using Value.height_induction generalizing name with
  | step v below =>
    refine hguarded.induction (motive := fun name => Converges fun n => references defs n name ctx v) ?_ hname
    intro name hname ih
    obtain ⟨d, hd⟩ := Option.isSome_iff_exists.1 hname
    have hmem := mem_of_lookup hd
    refine Converges.of_succ ?_
    simp only [references_succ, hd]
    refine validator_converges (hdefined _ hmem) (fun next hnext hasks => ih next hnext ⟨d, hd, hasks⟩) ?_
    rintro other hother u (hu | hnot)
    · exact below u hu hother
    · exact absurd (hdirect _ hmem) hnot

/-- **Guarded definitions come to an end.** Let no definition be a pipeline, let every name have a definition, and let
every cycle of names pass through a part of a collection. Then every schema comes to an end on every value, in every
setting, and from some depth on with the same outcome, which `validate` gives. Behind a pipeline a value of any height may
be seen; if the schema has none either, as many steps as there are definitions suffice for each height up to that of the
value. -/
theorem guarded_schemas_terminate (defs : Definitions) (hdirect : ∀ d ∈ defs, d.2.Direct) (hguarded : Guarded defs)
    (hdefined : ∀ d ∈ defs, d.2.All (Defined defs)) {s : Schema} (hs : s.All (Defined defs)) (ctx : Context) (v : Value) :
    (∃ o N, (∀ n, N ≤ n → s.run defs n ctx v = some o) ∧ s.validate defs ctx v = some o) ∧
      (s.Direct → ∃ o, (∀ n, (v.height + 1) * defs.length ≤ n → s.run defs n ctx v = some o) ∧
        s.validate defs ctx v = some o) := by
  have hconverges : Converges fun n => s.run defs n ctx v := by
    simp only [run_eq]
    exact validator_converges hs (fun name hname _ => references_converges hguarded hdirect hdefined hname ctx v)
      fun name hname u _ => references_converges hguarded hdirect hdefined hname ctx u
  obtain ⟨o, N, hN⟩ := hconverges
  have hvalidate : s.validate defs ctx v = some o := validate_eq_of_run (hN N le_rfl)
  exact ⟨⟨o, N, hN, hvalidate⟩, fun hds => ⟨o, fun n hn => run_eq_of_run hdirect hds hn (hN N le_rfl), hvalidate⟩⟩

/-- a list is null or a cell, and a cell leads on to a list -/
def cells : Definitions :=
  [("list", .union [.leaf .null, .lazy "cell"]), ("cell", .object (.ofFields [("next", .lazy "list")]))]

theorem cells_guarded : Guarded cells := by
  -- only the list asks for the other name at its own value
  have hleads : ∀ name next, Leads cells name next → name = "list" ∧ next = "cell" := by
    rintro name next ⟨d, hd, hasks⟩
    have hmem : (name, d) ∈ cells := mem_of_lookup hd
    simp only [cells, List.mem_cons, List.not_mem_nil, or_false, Prod.mk.injEq] at hmem
    obtain ⟨rfl, rfl⟩ | ⟨rfl, rfl⟩ := hmem
    · refine ⟨rfl, ?_⟩
      cases hasks with
      | inside _ ht hasks =>
        simp only [parts, List.mem_cons, List.not_mem_nil, or_false] at ht
        obtain rfl | rfl := ht
        · cases hasks with
          | inside _ ht _ => cases ht
        · cases hasks with
          | lazy => rfl
          | inside _ ht _ => cases ht
    · cases hasks with
      | inside hc _ _ => exact absurd trivial hc
  intro name h
  obtain ⟨_, hfirst, _⟩ := Relation.TransGen.head'_iff.1 h
  obtain ⟨_, _, hlast⟩ := Relation.TransGen.tail'_iff.1 h
  have hcell : "list" = "cell" := (hleads _ _ hfirst).1.symm.trans (hleads _ _ hlast).2
  exact absurd hcell (by decide)

/-- the cells of a value of height two come to an end within three rounds of both names -/
theorem cells_terminate :
    ∃ o, (∀ n, 6 ≤ n → (Schema.lazy "list").run cells n ⟨Catalog.english, .collect⟩
        (.object (Object.ofList [("next", .object (Object.ofList [("next", .null)]))])) = some o) ∧
      (Schema.lazy "list").validate cells ⟨Catalog.english, .collect⟩
        (.object (Object.ofList [("next", .object (Object.ofList [("next", .null)]))])) = some o := by
  have hall (P : Schema → Prop) (hnull : P (.leaf .null)) (hlist : P (.lazy "list")) (hcell : P (.lazy "cell"))
      (hunion : P (.union [.leaf .null, .lazy "cell"])) (hobject : P (.object (.ofFields [("next", .lazy "list")]))) :
      ∀ d ∈ cells, d.2.All P :=
    List.forall_mem_cons.2 ⟨.intro hunion (List.forall_mem_cons.2 ⟨.intro hnull nofun,
      List.forall_mem_cons.2 ⟨.intro hcell nofun, nofun⟩⟩),
      List.forall_mem_cons.2 ⟨.intro hobject (List.forall_mem_cons.2 ⟨.intro hlist nofun, nofun⟩), nofun⟩⟩
  have hs : (Schema.lazy "list").All (Defined cells) := .intro rfl nofun
  exact (guarded_schemas_terminate cells (hall HandsOn trivial trivial trivial trivial trivial) cells_guarded
    (hall (Defined cells) trivial rfl rfl trivial trivial) hs ⟨Catalog.english, .collect⟩
      (.object (Object.ofList [("next", .object (Object.ofList [("next", .null)]))]))).2 (.intro trivial nofun)

end ValueSchema.Schema
