import Mathlib.Algebra.Order.Ring.Nat
import MtpRs.Lib.FileCalls

set_option autoImplicit false

/- Where paths lead, and how much lies below a directory. -/
namespace Files

theorem sum_countP_le {α β : Type} {inside : α → β → Bool} (all : β → Bool) (places : List α)
    (nodes : List β) (distinct : places.Nodup)
    (within : ∀ place ∈ places, ∀ node, inside place node = true → all node = true)
    (apart : ∀ first second node, inside first node = true → inside second node = true →
      first = second) :
    (places.map fun place => nodes.countP (inside place)).sum ≤ nodes.countP all := by
  induction places generalizing all with
  | nil => exact Nat.zero_le _
  | cons place rest ih =>
      obtain ⟨fresh, distinct⟩ := List.nodup_cons.mp distinct
      have others := ih (fun node => all node && !inside place node) distinct (by
        intro other mem node there
        have different : inside place node = false := by
          rw [Bool.eq_false_iff]
          intro both
          exact fresh (apart place other node both there ▸ mem)
        simp [within other (List.mem_cons_of_mem _ mem) node there, different])
      have split : nodes.countP (inside place) +
          nodes.countP (fun node => all node && !inside place node) ≤ nodes.countP all := by
        clear others ih
        induction nodes with
        | nil => exact Nat.zero_le _
        | cons node nodes ih =>
            have here := within place (List.mem_cons_self ..) node
            simp only [List.countP_cons]
            cases there : inside place node
            · cases all node <;> simp <;> omega
            · rw [here there]
              simp
              omega
      rw [List.map_cons, List.sum_cons]
      omega

namespace Disk

variable {disk : Disk} {here location : Location}

theorem present_of_directoryAt (directory : disk.directoryAt location = true) :
    (disk.node location).isSome = true := by
  unfold directoryAt directoryIn at directory
  cases node : disk.node location with
  | none => rw [node] at directory; cases directory
  | some _ => rfl

theorem walk_append (here : Location) (first rest : List Component) :
    disk.walk here (first ++ rest) = (disk.walk here first).bind fun there =>
      disk.walk there rest := by
  induction first generalizing here with
  | nil => rfl
  | cons component first ih =>
      cases component with
      | rootDir => rfl
      | curDir =>
          simp only [List.cons_append, walk, ih]
          split <;> rfl
      | parentDir =>
          simp only [List.cons_append, walk, ih]
          split <;> rfl
      | normal name =>
          simp only [List.cons_append, walk, ih]
          split <;> rfl

/-- Names lead down. -/
theorem walk_normals {names : List Name} {there : Location}
    (walked : disk.walk here (names.map .normal) = some there) : there = here ++ names := by
  induction names generalizing here with
  | nil =>
      rw [List.append_nil]
      exact (Option.some.inj walked).symm
  | cons name names ih =>
      rw [List.map_cons, walk] at walked
      split at walked
      · rw [ih walked, List.append_assoc, List.singleton_append]
      · cases walked

/-- Every node can be reached by its names. -/
theorem walk_present {names : List Name} (there : (disk.node (here ++ names)).isSome = true) :
    disk.walk here (names.map .normal) = some (here ++ names) := by
  induction names using List.reverseRecOn with
  | nil => rw [List.append_nil]; rfl
  | append_singleton names name ih =>
      rw [← List.append_assoc] at there ⊢
      have directory : disk.directoryAt (here ++ names) = true := disk.closed _ name there
      rw [List.map_append, walk_append, ih (present_of_directoryAt directory)]
      simp only [List.map_cons, List.map_nil, Option.bind_some, walk, directory, ↓reduceIte]

theorem locate_append {path : Path} (start : path.components ≠ []) (rest : List Component) :
    disk.locate ⟨path.components ++ rest⟩ = (disk.locate path).bind fun there =>
      disk.walk there rest := by
  obtain ⟨components⟩ := path
  match components, start with
  | .rootDir :: _, _ => exact walk_append ..
  | .curDir :: inner, _ => exact walk_append disk.workingDirectory (.curDir :: inner) rest
  | .parentDir :: inner, _ => exact walk_append disk.workingDirectory (.parentDir :: inner) rest
  | .normal name :: inner, _ => exact walk_append disk.workingDirectory (.normal name :: inner) rest

theorem components_ne_nil {path : Path} (located : disk.locate path = some location) :
    path.components ≠ [] := by
  intro empty
  rw [locate, empty] at located
  cases located

/-- Names after a path lead down from where it leads. -/
theorem locate_descend {path : Path} (start : path.components ≠ []) (names : List Name) :
    disk.locate (path.descend names) = (disk.locate path).bind fun there =>
      disk.walk there (names.map .normal) :=
  locate_append start _

/-- A name leads from a directory to a place in it. -/
theorem locate_child {parent : Path} (located : disk.locate parent = some location)
    (directory : disk.directoryAt location = true) (name : Name) :
    disk.locate (parent.child name) = some (location ++ [name]) := by
  have down : disk.locate (parent.descend [name]) =
      (disk.locate parent).bind fun there => disk.walk there ([name].map .normal) :=
    locate_descend (components_ne_nil located) [name]
  rw [located, Option.bind_some] at down
  rw [show parent.child name = parent.descend [name] from rfl, down, List.map_singleton, walk,
    if_pos directory]
  rfl

/-- Every place on the way down to a node is a directory. -/
theorem directoryAt_of_below {names : List Name} (more : names ≠ [])
    (there : (disk.node (location ++ names)).isSome = true) : disk.directoryAt location = true := by
  induction names using List.reverseRecOn with
  | nil => exact absurd rfl more
  | append_singleton names name ih =>
      rw [← List.append_assoc] at there
      have inner := disk.closed _ name there
      cases names with
      | nil => rwa [List.append_nil] at inner
      | cons first rest => exact ih (List.cons_ne_nil _ _) (present_of_directoryAt inner)

theorem isDirectory_iff {path : Path} :
    disk.isDirectory path = true ↔
      ∃ there, disk.locate path = some there ∧ disk.directoryAt there = true := by
  unfold isDirectory metadata
  cases located : disk.locate path with
  | none => simp
  | some there => simp [directoryAt, directoryIn]

theorem present_iff {path : Path} :
    disk.present path = true ↔
      ∃ there, disk.locate path = some there ∧ (disk.node there).isSome = true := by
  unfold present metadata
  cases located : disk.locate path with
  | none => simp
  | some there => simp

/-- Names after a path lead to a node where they do so from its place. -/
theorem present_descend_iff {path : Path} (start : path.components ≠ []) {names : List Name} :
    disk.present (path.descend names) = true ↔
      ∃ there, disk.locate path = some there ∧ (disk.node (there ++ names)).isSome = true := by
  rw [present_iff, locate_descend start]
  constructor
  · rintro ⟨target, located, node⟩
    obtain ⟨there, same, walked⟩ := Option.bind_eq_some_iff.mp located
    rw [walk_normals walked] at node
    exact ⟨there, same, node⟩
  · rintro ⟨there, same, node⟩
    exact ⟨there ++ names, by rw [same, Option.bind_some, walk_present node], node⟩

theorem isDirectory_descend {path : Path} (start : path.components ≠ []) {there : Location}
    (located : disk.locate path = some there) {names : List Name}
    (node : (disk.node (there ++ names)).isSome = true) :
    disk.isDirectory (path.descend names) = disk.directoryAt (there ++ names) := by
  rw [isDirectory, metadata, locate_descend start, located, Option.bind_some, walk_present node]
  rfl

def below (disk : Disk) (location : Location) : Nat :=
  disk.domain.dedup.countP fun other =>
    decide (location <+: other ∧ other ≠ location) && (disk.node other).isSome

theorem below_le (disk : Disk) (location : Location) : disk.below location ≤ disk.domain.length :=
  Nat.le_trans List.countP_le_length (List.dedup_sublist disk.domain).length_le

/-- The node itself comes on top of what is below it. -/
theorem countP_within (there : (disk.node location).isSome = true) :
    (disk.domain.dedup.countP fun other =>
      decide (location <+: other) && (disk.node other).isSome) = disk.below location + 1 := by
  have once : disk.domain.dedup.count location = 1 :=
    List.count_eq_one_of_mem (List.nodup_dedup _)
      (List.mem_dedup.mpr (disk.covered location there))
  have split : ∀ nodes : List Location,
      (nodes.countP fun other => decide (location <+: other) && (disk.node other).isSome) =
        (nodes.countP fun other => decide (location <+: other ∧ other ≠ location) &&
          (disk.node other).isSome) + nodes.count location := by
    intro nodes
    induction nodes with
    | nil => rfl
    | cons node nodes ih =>
        rw [List.countP_cons, List.countP_cons, List.count_cons, ih]
        by_cases same : node = location
        · subst same
          simp [there]
          omega
        · simp [same]
          omega
  rw [split, once]
  rfl

/-- What is below the entries of a directory, and the entries, are below the directory. -/
theorem sum_below_le {names : List Name} (distinct : names.Nodup)
    (listed : ∀ name ∈ names, name ∈ disk.names location) :
    (names.map fun name => disk.below (location ++ [name]) + 1).sum ≤ disk.below location := by
  have counts : (names.map fun name => disk.below (location ++ [name]) + 1) =
      names.map fun name => disk.domain.dedup.countP fun other =>
        decide (location ++ [name] <+: other) && (disk.node other).isSome :=
    List.map_congr_left fun name mem => (countP_within (mem_names.mp (listed name mem))).symm
  rw [counts]
  apply sum_countP_le _ names disk.domain.dedup distinct
  · intro name _ other inside
    simp only [Bool.and_eq_true, decide_eq_true_eq] at inside ⊢
    refine ⟨⟨(List.prefix_append ..).trans inside.1, ?_⟩, inside.2⟩
    rintro rfl
    have length := inside.1.length_le
    rw [List.length_append, List.length_singleton] at length
    omega
  · intro first second other left right
    simp only [Bool.and_eq_true, decide_eq_true_eq] at left right
    have same := List.prefix_of_prefix_length_le left.1 right.1 (by simp)
    have equal := same.eq_of_length (by simp)
    exact (List.cons.inj (List.append_cancel_left equal)).1

/-- Less lies below an entry than below its directory. -/
theorem below_lt {name : Name} (there : (disk.node (location ++ [name])).isSome = true) :
    disk.below (location ++ [name]) < disk.below location := by
  have listed : ∀ other ∈ [name], other ∈ disk.names location :=
    List.forall_mem_singleton.mpr (mem_names.mpr there)
  have sum := sum_below_le (List.nodup_singleton name) listed
  rw [List.map_singleton, List.sum_singleton] at sum
  omega

end Disk

end Files
