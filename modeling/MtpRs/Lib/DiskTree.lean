import MtpRs.Lib.Frontier
import MtpRs.Lib.Places

set_option autoImplicit false

/- What lies below a directory, as a forest of names. -/
namespace Files

open Walk (Forest)

namespace Disk

/-- A folder as the place of what lies in it: none for the top. -/
def placeOf (folder : List Name) : Option (List Name) := if folder = [] then none else some folder

/-- The nodes below a place, each by its names from there on. -/
def forest (disk : Disk) (root : Location) : Forest (List Name) where
  nodes := ((disk.domain.dedup.filter fun location =>
      decide (root <+: location ∧ location ≠ root) && (disk.node location).isSome).map
    fun location => location.drop root.length)
  home names := placeOf names.dropLast

variable {disk : Disk} {root : Location} {names folder : List Name} {name : Name}

theorem placeOf_inj {first second : List Name} :
    placeOf first = placeOf second ↔ first = second := by
  unfold placeOf
  constructor
  · intro same
    split at same
    · next top =>
        split at same
        · next other => rw [top, other]
        · cases same
    · split at same
      · cases same
      · exact Option.some.inj same
  · intro same
    rw [same]

theorem mem_forest : names ∈ (disk.forest root).nodes ↔
    names ≠ [] ∧ (disk.node (root ++ names)).isSome = true := by
  unfold forest
  rw [List.mem_map]
  constructor
  · rintro ⟨location, mem, rfl⟩
    obtain ⟨-, test⟩ := List.mem_filter.mp mem
    rw [Bool.and_eq_true, decide_eq_true_iff] at test
    obtain ⟨⟨⟨rest, rfl⟩, different⟩, there⟩ := test
    rw [List.drop_left]
    exact ⟨by simpa using different, there⟩
  · rintro ⟨some, there⟩
    refine ⟨root ++ names, List.mem_filter.mpr ⟨?_, ?_⟩, List.drop_left⟩
    · exact List.mem_dedup.mpr (disk.covered _ there)
    · rw [there, Bool.and_true, decide_eq_true_iff]
      exact ⟨List.prefix_append .., by simpa using some⟩

theorem forest_length_le (disk : Disk) (root : Location) :
    (disk.forest root).nodes.length ≤ disk.domain.length := by
  unfold forest
  rw [List.length_map]
  exact (List.length_filter_le ..).trans (List.dedup_sublist disk.domain).length_le

theorem forest_home : (disk.forest root).home (folder ++ [name]) = placeOf folder := by
  unfold forest
  dsimp only
  rw [List.dropLast_concat]

/-- Every node is reached through the folders it lies in. -/
theorem forest_reached : (disk.forest root).Reached names ↔ names ∈ (disk.forest root).nodes := by
  refine ⟨Forest.Reached.mem, fun mem => ?_⟩
  induction names using List.reverseRecOn with
  | nil => exact absurd rfl (mem_forest.mp mem).1
  | append_singleton folder name ih =>
      by_cases top : folder = []
      · exact .top mem (forest_home.trans (if_pos top))
      · have there := (mem_forest.mp mem).2
        rw [← List.append_assoc] at there
        have directory := disk.closed _ name there
        exact .inside (ih (mem_forest.mpr ⟨top, present_of_directoryAt directory⟩)) mem
          (forest_home.trans (if_neg top))

/-- The entries of a folder are the nodes in its place. -/
theorem forest_listed {entries : List Name} (distinct : entries.Nodup)
    (whole : ∀ name, name ∈ entries ↔ (disk.node (root ++ folder ++ [name])).isSome = true) :
    (disk.forest root).Listed (placeOf folder) (entries.map fun name => folder ++ [name]) where
  distinct := distinct.map fun _ _ same => by simpa using same
  mem names := by
    rw [List.mem_map, mem_forest]
    constructor
    · rintro ⟨name, mem, rfl⟩
      refine ⟨⟨by simp, ?_⟩, forest_home⟩
      rw [← List.append_assoc]
      exact (whole name).mp mem
    · rintro ⟨⟨some, there⟩, home⟩
      obtain ⟨inner, name, rfl⟩ : ∃ inner name, names = inner ++ [name] :=
        ⟨names.dropLast, names.getLast some, (List.dropLast_concat_getLast some).symm⟩
      rw [forest_home, placeOf_inj] at home
      subst home
      rw [← List.append_assoc] at there
      exact ⟨name, (whole name).mpr there, rfl⟩

end Disk

end Files
