import Mathlib.Tactic
import ValueSchema.Proofs.Object.Lookup
import ValueSchema.Schema.Validate

/-!
Parts of a value are less high than the value.

`height_induction`: what a value has whenever all less high values have it, every value has.
-/

namespace ValueSchema

mutual

/-- how deep a value nests -/
def Value.height : Value → Nat
  | .array items => Value.listHeight items + 1
  | .object (@Object.mk _ _ members _) => Value.membersHeight members + 1
  | .set elements => Value.listHeight elements + 1
  | .map entries => Value.entriesHeight entries + 1
  | _ => 0
termination_by structural v => v

def Value.listHeight : List Value → Nat
  | [] => 0
  | v :: rest => max v.height (Value.listHeight rest)
termination_by structural vs => vs

def Value.membersHeight : {names : List String} → Members Value names → Nat
  | _, .nil => 0
  | _, .cons _ v rest => max v.height (Value.membersHeight rest)
termination_by structural _ members => members

def Value.entriesHeight : List (Value × Value) → Nat
  | [] => 0
  | (k, v) :: rest => max (max k.height v.height) (Value.entriesHeight rest)
termination_by structural entries => entries

end

namespace Value

theorem height_le_listHeight {vs : List Value} {v : Value} (h : v ∈ vs) : v.height ≤ listHeight vs := by
  induction vs with
  | nil => simp at h
  | cons u vs ih =>
    rw [listHeight]
    rcases List.mem_cons.1 h with rfl | h
    · exact le_max_left _ _
    · exact (ih h).trans (le_max_right _ _)

theorem height_le_membersHeight {names : List String} {m : Members Value names} {e : String × Value} (h : e ∈ m.toList) :
    e.2.height ≤ membersHeight m := by
  induction m with
  | nil => simp [Members.toList] at h
  | cons name v rest ih =>
    rw [membersHeight]
    rcases List.mem_cons.1 h with rfl | h
    · exact le_max_left _ _
    · exact (ih h).trans (le_max_right _ _)

theorem height_le_entriesHeight {es : List (Value × Value)} {e : Value × Value} (h : e ∈ es) :
    e.1.height ≤ entriesHeight es ∧ e.2.height ≤ entriesHeight es := by
  induction es with
  | nil => simp at h
  | cons e' es ih =>
    obtain ⟨k, v⟩ := e'
    rw [entriesHeight]
    rcases List.mem_cons.1 h with rfl | h
    · exact ⟨(le_max_left _ _).trans (le_max_left _ _), (le_max_right _ _).trans (le_max_left _ _)⟩
    · exact ⟨(ih h).1.trans (le_max_right _ _), (ih h).2.trans (le_max_right _ _)⟩

theorem height_lt_array {items : List Value} {v : Value} (h : v ∈ items) : v.height < (array items).height :=
  Nat.lt_succ_of_le (height_le_listHeight h)

theorem height_lt_set {elements : List Value} {v : Value} (h : v ∈ elements) : v.height < (set elements).height :=
  Nat.lt_succ_of_le (height_le_listHeight h)

theorem height_lt_map {es : List (Value × Value)} {e : Value × Value} (h : e ∈ es) :
    e.1.height < (map es).height ∧ e.2.height < (map es).height :=
  ⟨Nat.lt_succ_of_le (height_le_entriesHeight h).1, Nat.lt_succ_of_le (height_le_entriesHeight h).2⟩

theorem height_lt_object {o : Object Value} {e : String × Value} (h : e ∈ o.toList) : e.2.height < (object o).height := by
  obtain ⟨m, nodup⟩ := o
  exact Nat.lt_succ_of_le (height_le_membersHeight h)

theorem height_lt_of_get? {o : Object Value} {name : String} {v : Value} (h : o.get? name = some v) :
    v.height < (object o).height := height_lt_object (Object.get?_eq_some_iff.1 h)

/-- a text, a name or an absent member is less high than any object -/
theorem height_pos_of_object (o : Object Value) : 0 < (object o).height := by
  obtain ⟨m, nodup⟩ := o
  exact Nat.succ_pos _

/-- so is what stands under a name, absence included -/
theorem height_get?_lt (o : Object Value) (name : String) : ((o.get? name).getD .undefined).height < (object o).height := by
  cases hget : o.get? name with
  | none => exact height_pos_of_object o
  | some v => exact height_lt_of_get? hget

/-- **Induction over values.** What a value has whenever all less high values have it, every value has. -/
@[elab_as_elim]
theorem height_induction {motive : Value → Prop} (step : ∀ v : Value, (∀ u, u.height < v.height → motive u) → motive v)
    (v : Value) : motive v := by
  induction hh : v.height using Nat.strong_induction_on generalizing v with
  | _ height ih =>
    subst hh
    exact step v fun u hu => ih u.height hu u rfl

end Value

end ValueSchema
