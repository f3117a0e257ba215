import Mathlib.Algebra.BigOperators.Group.Finset.Basic
import MtpRs.Lib.Places

set_option autoImplicit false

/- The space the files below a directory take. -/
namespace Files

namespace Disk

def bytesAt (disk : Disk) (location : Location) : Nat :=
  match disk.node location with
  | some ⟨.file bytes, _, _⟩ => bytes.length
  | _ => 0

def under (disk : Disk) (location : Location) : Finset Location :=
  disk.domain.toFinset.filter fun other =>
    (location <+: other ∧ other ≠ location) ∧ (disk.node other).isSome = true

def bytesBelow (disk : Disk) (location : Location) : Nat :=
  ∑ other ∈ disk.under location, disk.bytesAt other

variable {disk : Disk} {location other : Location} {names : List Name} {name : Name}

theorem mem_under : other ∈ disk.under location ↔
    (location <+: other ∧ other ≠ location) ∧ (disk.node other).isSome = true := by
  rw [under, Finset.mem_filter, List.mem_toFinset]
  exact ⟨And.right, fun below => ⟨disk.covered other below.2, below⟩⟩

/-- What lies below a directory is its entries and what lies below these. -/
theorem under_eq (listed : ∀ name, name ∈ names ↔ (disk.node (location ++ [name])).isSome = true) :
    disk.under location =
      names.toFinset.biUnion fun name =>
        insert (location ++ [name]) (disk.under (location ++ [name])) := by
  ext other
  simp only [mem_under, Finset.mem_biUnion, Finset.mem_insert, List.mem_toFinset]
  constructor
  · rintro ⟨⟨⟨names, rfl⟩, different⟩, there⟩
    cases names with
    | nil => exact absurd (List.append_nil _) different
    | cons name rest =>
        have split : location ++ name :: rest = (location ++ [name]) ++ rest := by simp
        rw [split] at there ⊢
        cases rest with
        | nil =>
            rw [List.append_nil] at there ⊢
            exact ⟨name, (listed name).mpr there, Or.inl rfl⟩
        | cons next more =>
            have entry := present_of_directoryAt (directoryAt_of_below (List.cons_ne_nil _ _) there)
            exact ⟨name, (listed name).mpr entry, Or.inr ⟨⟨List.prefix_append .., by simp⟩, there⟩⟩
  · rintro ⟨name, mem, rfl | ⟨⟨inside, -⟩, there⟩⟩
    · exact ⟨⟨List.prefix_append .., by simp⟩, (listed name).mp mem⟩
    · refine ⟨⟨(List.prefix_append ..).trans inside, ?_⟩, there⟩
      rintro rfl
      have length := inside.length_le
      rw [List.length_append, List.length_singleton] at length
      omega

theorem apart_under {first second : Name} (different : first ≠ second) :
    Disjoint (insert (location ++ [first]) (disk.under (location ++ [first])))
      (insert (location ++ [second]) (disk.under (location ++ [second]))) := by
  rw [Finset.disjoint_left]
  intro other left right
  have prefixed : ∀ {name}, other ∈ insert (location ++ [name]) (disk.under (location ++ [name])) →
      location ++ [name] <+: other := by
    intro name mem
    rcases Finset.mem_insert.mp mem with rfl | below
    · exact List.prefix_refl _
    · exact (mem_under.mp below).1.1
  have same := List.prefix_of_prefix_length_le (prefixed left) (prefixed right) (by simp)
  have equal := same.eq_of_length (by simp)
  exact different (List.cons.inj (List.append_cancel_left equal)).1

/-- The bytes below a directory are those of its entries and below these. -/
theorem bytesBelow_eq (distinct : names.Nodup)
    (listed : ∀ name, name ∈ names ↔ (disk.node (location ++ [name])).isSome = true) :
    disk.bytesBelow location = (names.map fun name =>
      disk.bytesAt (location ++ [name]) + disk.bytesBelow (location ++ [name])).sum := by
  rw [bytesBelow, under_eq listed,
    Finset.sum_biUnion fun _ _ _ _ different => apart_under different,
    ← List.sum_toFinset _ distinct]
  refine Finset.sum_congr rfl fun name _ => ?_
  refine Finset.sum_insert fun mem => ?_
  exact (mem_under.mp mem).1.2 rfl

/-- Nothing lies below what is no directory. -/
theorem bytesBelow_of_file (file : disk.directoryAt location = false) :
    disk.bytesBelow location = 0 := by
  have none : ∀ name, name ∈ ([] : List Name) ↔
      (disk.node (location ++ [name])).isSome = true := by
    intro name
    rw [names_of_file file name]
    simp
  exact (bytesBelow_eq List.nodup_nil none).trans rfl

end Disk

end Files
