/-!
Records with named members: each name once, in the order of first insertion.

`Members α names` is the chain of members whose names are exactly `names`; an `Object α` is such a chain with distinct
names. The view is `toList`, and each operation is described by what it does to it. Values and schemas nest objects of
themselves, which is why the names stand apart from the members.

`toList_ofList`: members with distinct names come back as they were. `ext_toList`: an object is its list of members.
-/

namespace ValueSchema

universe u v

/-- members named, in order, by the index -/
inductive Members (α : Type u) : List String → Type u where
  | nil : Members α []
  | cons {names : List String} (name : String) (value : α) (rest : Members α names) : Members α (name :: names)

/-- members with distinct names -/
structure Object (α : Type u) where
  {names : List String}
  members : Members α names
  nodup : names.Nodup

namespace Members

variable {α : Type u} {β : Type v}

def toList : {names : List String} → Members α names → List (String × α)
  | _, .nil => []
  | _, .cons name value rest => (name, value) :: rest.toList

def ofList : (entries : List (String × α)) → Members α (entries.map Prod.fst)
  | [] => .nil
  | (name, value) :: rest => .cons name value (ofList rest)

@[simp] theorem toList_ofList (entries : List (String × α)) : (ofList entries).toList = entries := by
  induction entries with
  | nil => rfl
  | cons e rest ih => exact congrArg (e :: ·) ih

@[simp] theorem map_fst_toList {names : List String} (m : Members α names) : m.toList.map Prod.fst = names := by
  induction m with
  | nil => rfl
  | cons name value rest ih => exact congrArg (name :: ·) ih

/-- a chain is determined by its members -/
theorem eq_of_toList_eq {names : List String} {m m' : Members α names} (h : m.toList = m'.toList) : m = m' := by
  induction m with
  | nil => cases m'; rfl
  | cons name value rest ih =>
    cases m' with
    | cons _ value' rest' =>
      injection h with h1 h2
      injection h1 with _ hv
      rw [hv, ih h2]

end Members

/-- puts a value under a name: in place where the name stands, at the end where it does not -/
def upsert {α : Type u} (name : String) (value : α) : List (String × α) → List (String × α)
  | [] => [(name, value)]
  | entry :: rest => if entry.1 = name then (name, value) :: rest else entry :: upsert name value rest

theorem mem_map_fst_upsert {α : Type u} {name n : String} {value : α} {entries : List (String × α)} :
    n ∈ (upsert name value entries).map Prod.fst ↔ n = name ∨ n ∈ entries.map Prod.fst := by
  induction entries with
  | nil => simp [upsert]
  | cons e rest ih =>
    simp only [upsert]
    split
    · rename_i h
      simp [h]
    · simp only [List.map_cons, List.mem_cons, ih]
      grind

theorem nodup_upsert {α : Type u} {name : String} {value : α} {entries : List (String × α)}
    (h : (entries.map Prod.fst).Nodup) : ((upsert name value entries).map Prod.fst).Nodup := by
  induction entries with
  | nil => simp [upsert]
  | cons e rest ih =>
    simp only [List.map_cons, List.nodup_cons] at h
    simp only [upsert]
    split
    · rename_i he
      simp only [List.map_cons, List.nodup_cons]
      exact ⟨he ▸ h.1, h.2⟩
    · rename_i he
      simp only [List.map_cons, List.nodup_cons, mem_map_fst_upsert]
      exact ⟨by grind, ih h.2⟩

/-- entries without repeated names: a later value takes the place of an earlier one -/
def lastWins {α : Type u} (entries : List (String × α)) : List (String × α) :=
  entries.foldl (fun acc e => upsert e.1 e.2 acc) []

theorem nodup_foldl_upsert {α : Type u} (entries acc : List (String × α)) (h : (acc.map Prod.fst).Nodup) :
    ((entries.foldl (fun acc e => upsert e.1 e.2 acc) acc).map Prod.fst).Nodup := by
  induction entries generalizing acc with
  | nil => exact h
  | cons e rest ih => exact ih _ (nodup_upsert h)

theorem nodup_lastWins {α : Type u} (entries : List (String × α)) : ((lastWins entries).map Prod.fst).Nodup :=
  nodup_foldl_upsert entries [] List.nodup_nil

namespace Object

variable {α : Type u} {β : Type v}

/-- members in order -/
def toList (o : Object α) : List (String × α) := o.members.toList

/-- the object with the given members, which have distinct names -/
def ofNodup (entries : List (String × α)) (h : (entries.map Prod.fst).Nodup) : Object α := ⟨Members.ofList entries, h⟩

/-- the object built by inserting entries one after the other -/
def ofList (entries : List (String × α)) : Object α := ofNodup (lastWins entries) (nodup_lastWins entries)

def empty : Object α := ⟨.nil, List.nodup_nil⟩

def size (o : Object α) : Nat := o.names.length

/-- the value under a name -/
def get? (o : Object α) (name : String) : Option α := o.toList.lookup name

def contains (o : Object α) (name : String) : Bool := o.names.contains name

/-- puts a value under a name, in place or at the end -/
def insert (o : Object α) (name : String) (value : α) : Object α :=
  ofNodup (upsert name value o.toList) (nodup_upsert (by rw [toList, Members.map_fst_toList]; exact o.nodup))

/-- inserts the members of another object, which win -/
def merge (o other : Object α) : Object α := other.toList.foldl (fun acc e => acc.insert e.1 e.2) o

/-- the members whose names are selected -/
def filterNames (o : Object α) (keep : String → Bool) : Object α :=
  ofNodup (o.toList.filter fun e => keep e.1) (by
    have h : (o.toList.map Prod.fst).Nodup := by rw [toList, Members.map_fst_toList]; exact o.nodup
    exact List.Sublist.nodup (List.Sublist.map _ List.filter_sublist) h)

/-- the same names with other values -/
def mapValues (o : Object α) (f : String → α → β) : Object β :=
  ofNodup (o.toList.map fun e => (e.1, f e.1 e.2)) (by
    rw [List.map_map]
    show (o.toList.map fun e => e.1).Nodup
    rw [toList, Members.map_fst_toList]
    exact o.nodup)

instance : Inhabited (Object α) := ⟨empty⟩

@[simp] theorem map_fst_toList (o : Object α) : o.toList.map Prod.fst = o.names := o.members.map_fst_toList

theorem nodup_toList (o : Object α) : (o.toList.map Prod.fst).Nodup := o.map_fst_toList.symm ▸ o.nodup

@[simp] theorem toList_ofNodup (entries : List (String × α)) (h : (entries.map Prod.fst).Nodup) :
    (ofNodup entries h).toList = entries := Members.toList_ofList entries

@[simp] theorem toList_insert (o : Object α) (name : String) (value : α) :
    (o.insert name value).toList = upsert name value o.toList := toList_ofNodup _ _

@[simp] theorem toList_filterNames (o : Object α) (keep : String → Bool) :
    (o.filterNames keep).toList = o.toList.filter fun e => keep e.1 := toList_ofNodup _ _

@[simp] theorem toList_mapValues (o : Object α) (f : String → α → β) :
    (o.mapValues f).toList = o.toList.map fun e => (e.1, f e.1 e.2) := toList_ofNodup _ _

/-- an object is determined by its members in order -/
theorem ext_toList {o o' : Object α} (h : o.toList = o'.toList) : o = o' := by
  obtain ⟨m, hm⟩ := o
  obtain ⟨m', hm'⟩ := o'
  rename_i names names'
  have hn : names = names' := by
    have h1 : m.toList.map Prod.fst = m'.toList.map Prod.fst := congrArg (List.map Prod.fst) h
    rwa [m.map_fst_toList, m'.map_fst_toList] at h1
  subst hn
  have hmm : m = m' := Members.eq_of_toList_eq h
  subst hmm
  rfl

end Object

end ValueSchema
