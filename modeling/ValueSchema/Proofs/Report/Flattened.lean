import Mathlib.Tactic
import ValueSchema.Report

/-!
The view of issues for forms.

An issue belongs to the group of the first step of its place, whether that is a name or a position that is written the same;
an issue of the whole belongs to no group. The view is made issue by issue, and yet it can be read off the whole list: it
has one entry for each group in the order in which the groups first occur, with the messages of the group in the order of
their issues.

Results:
- `addMessage_groups`: what one more message does to groups.
- `flatten_eq`: the view, read off the list.
- `flatten_files_messages`: nothing is lost, doubled or out of order.
-/

namespace ValueSchema

/-! ## First occurrences -/

section FirstOccurrences

variable {α : Type} [DecidableEq α]

/-- one more element at the end is kept if it is new -/
theorem eraseDups_concat (xs : List α) (x : α) :
    (xs ++ [x]).eraseDups = xs.eraseDups ++ if x ∈ xs then [] else [x] := by
  rw [List.eraseDups_append]
  congr 1
  split_ifs with h <;> simp [List.removeAll, List.eraseDups_cons, h]

theorem nodup_eraseDups (xs : List α) : xs.eraseDups.Nodup := by
  induction xs using List.reverseRecOn with
  | nil => exact List.nodup_nil
  | append_singleton xs x ih =>
    rw [eraseDups_concat]
    split_ifs with h
    · rwa [List.append_nil]
    · refine ih.append (List.nodup_singleton x) ?_
      rw [List.disjoint_singleton, List.mem_eraseDups]
      exact h

end FirstOccurrences

namespace Report

/-! ## Groups -/

/-- the group of an issue: the text of the first step of its place; none for an issue of the whole -/
def group? (issue : Issue) : Option String := issue.path.head?.map Segment.text

/-- the messages of a group, or of the whole, in the order of their issues -/
def messagesOf (group : Option String) (issues : List Issue) : List String :=
  (issues.filter fun issue => group? issue = group).map Issue.message

/-- the groups that occur, in the order of their first issues -/
def groups (issues : List Issue) : List String := (issues.filterMap group?).eraseDups

theorem mem_groups {name : String} {issues : List Issue} :
    name ∈ groups issues ↔ ∃ issue ∈ issues, group? issue = some name := by
  rw [groups, List.mem_eraseDups, List.mem_filterMap]

theorem messagesOf_concat (group : Option String) (issues : List Issue) (issue : Issue) :
    messagesOf group (issues ++ [issue]) =
      messagesOf group issues ++ if group? issue = group then [issue.message] else [] := by
  rw [messagesOf, List.filter_append, List.map_append, ← messagesOf]
  congr 1
  split_ifs with h <;> simp [h]

/-- a group that has not occurred has no messages -/
theorem messagesOf_eq_nil_iff {name : String} {issues : List Issue} :
    messagesOf (some name) issues = [] ↔ name ∉ groups issues := by
  rw [messagesOf, List.map_eq_nil_iff, List.filter_eq_nil_iff, mem_groups]
  simp

theorem groups_concat_of_none {issue : Issue} (h : group? issue = none) (issues : List Issue) :
    groups (issues ++ [issue]) = groups issues := by
  simp [groups, h]

theorem groups_concat_of_some {issue : Issue} {name : String} (h : group? issue = some name) (issues : List Issue) :
    groups (issues ++ [issue]) = groups issues ++ if name ∈ groups issues then [] else [name] := by
  have hmem : name ∈ issues.filterMap group? ↔ name ∈ groups issues := List.mem_eraseDups.symm
  rw [groups, List.filterMap_append, List.filterMap_cons_some h, List.filterMap_nil, eraseDups_concat, ← groups]
  simp only [hmem]

/-! ## One message more -/

theorem addMessage_of_notMem {name : String} {names : List String} (h : name ∉ names) (messages : String → List String)
    (message : String) :
    addMessage name message (names.map fun n => (n, messages n)) =
      (names.map fun n => (n, messages n)) ++ [(name, [message])] := by
  induction names with
  | nil => rfl
  | cons n names ih =>
    obtain ⟨hne, hrest⟩ := not_or.1 (mt List.mem_cons.2 h)
    rw [List.map_cons, addMessage, if_neg (Ne.symm hne), ih hrest, List.cons_append]

theorem addMessage_of_mem {name : String} {names : List String} (hd : names.Nodup) (h : name ∈ names)
    (messages : String → List String) (message : String) :
    addMessage name message (names.map fun n => (n, messages n)) =
      names.map fun n => (n, messages n ++ if n = name then [message] else []) := by
  induction names with
  | nil => cases h
  | cons n names ih =>
    obtain ⟨hn, hd⟩ := List.nodup_cons.1 hd
    rw [List.map_cons, addMessage, List.map_cons]
    by_cases heq : n = name
    · subst heq
      -- the name does not occur again
      have hrest : names.map (fun k => (k, messages k ++ if k = n then [message] else [])) =
          names.map fun k => (k, messages k) := by
        refine List.map_congr_left fun k hk => ?_
        rw [if_neg (ne_of_mem_of_not_mem hk hn), List.append_nil]
      rw [if_pos rfl, if_pos rfl, hrest]
    · rw [if_neg heq, if_neg heq, List.append_nil, ih hd ((List.mem_cons.1 h).resolve_left (Ne.symm heq))]

/-- **One more message** goes to the end of its group, and a new group to the end of the groups. -/
theorem addMessage_groups {issue : Issue} {name : String} (h : group? issue = some name) (issues : List Issue) :
    addMessage name issue.message ((groups issues).map fun n => (n, messagesOf (some n) issues)) =
      (groups (issues ++ [issue])).map fun n => (n, messagesOf (some n) (issues ++ [issue])) := by
  have hmessages (n : String) : messagesOf (some n) (issues ++ [issue]) =
      messagesOf (some n) issues ++ if n = name then [issue.message] else [] := by
    rw [messagesOf_concat, h]
    simp only [Option.some.injEq, eq_comm]
  simp only [hmessages]
  rw [groups_concat_of_some h]
  by_cases hmem : name ∈ groups issues
  · rw [if_pos hmem, List.append_nil]
    exact addMessage_of_mem (nodup_eraseDups _) hmem _ _
  · rw [if_neg hmem, addMessage_of_notMem hmem, List.map_append]
    congr 1
    · refine List.map_congr_left fun n hn => ?_
      rw [if_neg (ne_of_mem_of_not_mem hn hmem), List.append_nil]
    · rw [List.map_singleton, if_pos rfl, messagesOf_eq_nil_iff.2 hmem, List.nil_append]

/-! ## The whole view -/

/-- **The view, read off the list**: the messages of the whole, and each group that occurs with its messages. -/
theorem flatten_eq (issues : List Issue) :
    flatten issues = ⟨messagesOf none issues, (groups issues).map fun n => (n, messagesOf (some n) issues)⟩ := by
  induction issues using List.reverseRecOn with
  | nil => rfl
  | append_singleton issues issue ih =>
    have hstep : flatten (issues ++ [issue]) = addIssue (flatten issues) issue := by
      rw [flatten, List.foldl_append, List.foldl_cons, List.foldl_nil, ← flatten]
    rw [hstep, ih, addIssue]
    cases hp : issue.path with
    | nil =>
      have hg : group? issue = none := by rw [group?, hp]; rfl
      have hmessages (n : String) : messagesOf (some n) (issues ++ [issue]) = messagesOf (some n) issues := by
        rw [messagesOf_concat, hg, if_neg (by simp), List.append_nil]
      simp only [groups_concat_of_none hg, hmessages, messagesOf_concat none, hg, if_true]
    | cons segment rest =>
      have hg : group? issue = some segment.text := by rw [group?, hp]; rfl
      simp only [addMessage_groups hg]
      rw [messagesOf_concat none, hg, if_neg (by simp), List.append_nil]

/-- a message more than before, whatever its group -/
theorem addMessage_perm (name message : String) (entries : List (String × List String)) :
    ((addMessage name message entries).flatMap Prod.snd).Perm (entries.flatMap Prod.snd ++ [message]) := by
  induction entries with
  | nil => exact .refl _
  | cons e rest ih =>
    rw [addMessage]
    split_ifs
    · rw [List.flatMap_cons, List.flatMap_cons, List.append_assoc, List.append_assoc]
      exact List.perm_append_comm.append_left e.2
    · rw [List.flatMap_cons, List.flatMap_cons, List.append_assoc]
      exact ih.append_left e.2

theorem flatten_perm (issues : List Issue) :
    ((flatten issues).form ++ (flatten issues).fields.flatMap Prod.snd).Perm (issues.map Issue.message) := by
  induction issues using List.reverseRecOn with
  | nil => exact .refl _
  | append_singleton issues issue ih =>
    rw [List.map_append, List.map_singleton]
    refine List.Perm.trans ?_ (ih.append_right [issue.message])
    rw [flatten, List.foldl_append, List.foldl_cons, List.foldl_nil, ← flatten, addIssue]
    cases issue.path with
    | nil =>
      rw [List.append_assoc, List.append_assoc]
      exact List.perm_append_comm.append_left _
    | cons segment rest =>
      rw [List.append_assoc]
      exact (addMessage_perm _ _ _).append_left _

/-- the messages of issues, filed by the first steps of their places -/
structure Files (issues : List Issue) (view : FlattenedIssues) : Prop where
  /-- the messages of the issues of the whole, in order -/
  form : view.form = (issues.filter (·.path.isEmpty)).map Issue.message
  /-- the texts of first steps, each once, in the order in which they first occur -/
  names : view.fields.map Prod.fst = (issues.filterMap fun i => i.path.head?.map Segment.text).eraseDups
  distinct : (view.fields.map Prod.fst).Nodup
  /-- under each text, the messages of the issues whose first step is written so, in order -/
  messages : ∀ e ∈ view.fields,
    e.2 = (issues.filter fun i => i.path.head?.map Segment.text = some e.1).map Issue.message ∧ e.2 ≠ []
  /-- each message as often as before -/
  all : (view.form ++ view.fields.flatMap Prod.snd).Perm (issues.map Issue.message)
  count : view.form.length + (view.fields.map fun e => e.2.length).sum = issues.length

/-- **Nothing lost, nothing doubled.** The view of any issues holds the messages of the whole in order, and one entry for
each text of a first step, in the order of first occurrence; none of the entries is empty, and each holds the messages of
the issues whose first step is written so, in order. A name and a position that are written the same share an entry. All
together it holds the messages of the issues, and as many as there are issues. -/
theorem flatten_files_messages (issues : List Issue) : Files issues (flatten issues) where
  form := by
    rw [flatten_eq, messagesOf]
    refine congrArg _ (List.filter_congr fun i _ => ?_)
    cases hp : i.path <;> simp [group?, hp]
  names := by
    rw [flatten_eq, List.map_map]
    exact List.map_id _
  distinct := by
    rw [flatten_eq, List.map_map]
    exact (List.map_id (groups issues)).symm ▸ nodup_eraseDups _
  messages := by
    intro e he
    rw [flatten_eq] at he
    obtain ⟨n, hn, rfl⟩ := List.mem_map.1 he
    exact ⟨rfl, fun hnil => messagesOf_eq_nil_iff.1 hnil hn⟩
  all := flatten_perm issues
  count := by
    have hlength := (flatten_perm issues).length_eq
    rwa [List.length_append, List.length_flatMap, List.length_map] at hlength

example : flatten [⟨.custom, [.key "0"], "a", [], []⟩, ⟨.custom, [], "b", [], []⟩, ⟨.custom, [.index 0, .key "x"], "c", [], []⟩] =
    ⟨["b"], [("0", ["a", "c"])]⟩ := by decide

end Report

end ValueSchema
