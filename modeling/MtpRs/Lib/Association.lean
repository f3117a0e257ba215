import Mathlib.Data.List.AList

set_option autoImplicit false

/- More of what a map with distinct keys does: keeping some entries, changing values, and being
gone through in an order of the map's own. -/
namespace AList

variable {κ ν : Type} [DecidableEq κ]

def keep (table : AList fun _ : κ => ν) (test : κ → ν → Bool) : AList fun _ : κ => ν :=
  ⟨table.entries.filter fun entry => test entry.1 entry.2,
    table.nodupKeys.sublist (List.filter_sublist ..)⟩

/-- Every value changed, under its own key. -/
def mapValues (table : AList fun _ : κ => ν) (change : κ → ν → ν) : AList fun _ : κ => ν :=
  ⟨table.entries.map fun entry => ⟨entry.1, change entry.1 entry.2⟩,
    table.nodupKeys.map₂ change⟩

/-- The value under one key changed, where there is one. -/
def modify (table : AList fun _ : κ => ν) (key : κ) (change : ν → ν) : AList fun _ : κ => ν :=
  table.mapValues fun other value => if other = key then change value else value

section

variable {table : AList fun _ : κ => ν} {key other : κ} {value : ν}

theorem lookup_insert_eq_some {inserted : ν} :
    (table.insert key inserted).lookup other = some value ↔
      other = key ∧ inserted = value ∨ other ≠ key ∧ table.lookup other = some value := by
  by_cases same : other = key
  · subst same
    rw [lookup_insert]
    simp
  · rw [lookup_insert_ne same]
    simp [same]

theorem lookup_erase_eq_some :
    (table.erase key).lookup other = some value ↔
      other ≠ key ∧ table.lookup other = some value := by
  by_cases same : other = key
  · subst same
    rw [lookup_erase]
    simp
  · rw [lookup_erase_ne same]
    simp [same]

theorem lookup_keep_eq_some {test : κ → ν → Bool} :
    (table.keep test).lookup key = some value ↔
      table.lookup key = some value ∧ test key value = true := by
  constructor
  · intro found
    obtain ⟨kept, passed⟩ := List.mem_filter.mp (mem_lookup_iff.mp found)
    exact ⟨mem_lookup_iff.mpr kept, passed⟩
  · rintro ⟨found, passed⟩
    exact mem_lookup_iff.mpr (List.mem_filter.mpr ⟨mem_lookup_iff.mp found, passed⟩)

theorem lookup_mapValues (table : AList fun _ : κ => ν) (change : κ → ν → ν) (key : κ) :
    (table.mapValues change).lookup key = (table.lookup key).map (change key) :=
  List.dlookup_map₂ key

theorem lookup_modify_eq_some {change : ν → ν} :
    (table.modify key change).lookup other = some value ↔
      (∃ before, table.lookup key = some before ∧ other = key ∧ value = change before) ∨
        other ≠ key ∧ table.lookup other = some value := by
  rw [modify, lookup_mapValues, Option.map_eq_some_iff]
  constructor
  · rintro ⟨before, found, changed⟩
    by_cases same : other = key
    · rw [if_pos same] at changed
      exact Or.inl ⟨before, same ▸ found, same, changed.symm⟩
    · rw [if_neg same] at changed
      exact Or.inr ⟨same, changed ▸ found⟩
  · rintro (⟨before, found, rfl, rfl⟩ | ⟨different, found⟩)
    · exact ⟨before, found, if_pos rfl⟩
    · exact ⟨value, found, if_neg different⟩

theorem lookup_modify_ne {change : ν → ν} (different : other ≠ key) :
    (table.modify key change).lookup other = table.lookup other := by
  rw [modify, lookup_mapValues]
  simp only [if_neg different, Option.map_id']

end

end AList

/-- An order in which the elements of a list can be gone through: one the caller cannot choose. -/
structure Arrangement (α : Type) where
  arrange : List α → List α
  perm : ∀ list, (arrange list).Perm list

namespace Arrangement

variable {α : Type}

def asIs : Arrangement α := ⟨id, fun _ => .refl _⟩

/-- The first element that meets a test, in that order. -/
def find? (order : Arrangement α) (test : α → Bool) (list : List α) : Option α :=
  (order.arrange list).find? test

theorem find?_eq_some {order : Arrangement α} {test : α → Bool} {list : List α} {found : α}
    (search : order.find? test list = some found) : found ∈ list ∧ test found = true :=
  ⟨(order.perm list).mem_iff.mp (List.mem_of_find?_eq_some search), List.find?_some search⟩

theorem find?_eq_none {order : Arrangement α} {test : α → Bool} {list : List α} :
    order.find? test list = none ↔ ∀ element ∈ list, test element = false := by
  rw [find?, List.find?_eq_none]
  constructor
  · intro none element mem
    exact Bool.eq_false_iff.mpr (none element ((order.perm list).mem_iff.mpr mem))
  · intro fails element mem
    exact Bool.eq_false_iff.mp (fails element ((order.perm list).mem_iff.mp mem))

theorem mem_arrange {order : Arrangement α} {list : List α} {element : α} :
    element ∈ order.arrange list ↔ element ∈ list :=
  (order.perm list).mem_iff

end Arrangement
