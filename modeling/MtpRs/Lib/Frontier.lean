import Mathlib.Data.List.Infix
import Mathlib.Data.List.Perm.Subperm
import Mathlib.Logic.Relation

set_option autoImplicit false

/- Walking a finite forest with a list of places still to visit: every node that can be reached
from the top is found once, and the walk ends. -/
namespace Walk

variable {α : Type}

/-- Finitely many nodes, each in one place: at the top, or inside another node. -/
structure Forest (α : Type) where
  nodes : List α
  home : α → Option α

/-- The nodes of the forest that lead up to the top. -/
inductive Forest.Reached (forest : Forest α) : α → Prop where
  | top {node : α} : node ∈ forest.nodes → forest.home node = none → forest.Reached node
  | inside {node container : α} : forest.Reached container → node ∈ forest.nodes →
      forest.home node = some container → forest.Reached node

theorem Forest.Reached.mem {forest : Forest α} {node : α} (reached : forest.Reached node) :
    node ∈ forest.nodes := by
  cases reached with
  | top mem => exact mem
  | inside _ mem => exact mem

/-- Whether the one node holds the other, directly or further down. -/
def Forest.Encloses (forest : Forest α) : α → α → Prop :=
  Relation.TransGen fun container node => forest.home node = some container

/-- A list in which a node comes after the one that holds it. -/
def Forest.Ordered (forest : Forest α) (nodes : List α) : Prop :=
  ∀ before node after, nodes = before ++ node :: after →
    ∀ container, forest.home node = some container → container ∈ before

theorem Forest.ordered_nil (forest : Forest α) : forest.Ordered [] := by
  intro before node after split
  simp at split

/-- The nodes of one place come after what holds them, in any order. -/
theorem Forest.Ordered.append {forest : Forest α} {nodes added : List α}
    (ordered : forest.Ordered nodes)
    (held : ∀ node ∈ added, ∀ container, forest.home node = some container → container ∈ nodes) :
    forest.Ordered (nodes ++ added) := by
  intro before node after split container home
  rcases List.append_eq_append_iff.mp split with ⟨more, early, late⟩ | ⟨more, early, late⟩
  · rw [early]
    apply List.mem_append_left
    exact held node (late ▸ by simp) container home
  · cases more with
    | nil =>
        rw [List.nil_append] at late
        rw [List.append_nil] at early
        rw [← early]
        exact held node (late ▸ List.mem_cons_self ..) container home
    | cons first more =>
        rw [List.cons_append, List.cons.injEq] at late
        exact ordered before node more (late.1 ▸ early) container home

/-- It comes after everything it lies in. -/
theorem Forest.Ordered.encloses {forest : Forest α} {nodes : List α}
    (ordered : forest.Ordered nodes) {container node : α}
    (encloses : forest.Encloses container node)
    {before after : List α} (split : nodes = before ++ node :: after) : container ∈ before := by
  induction encloses generalizing before after with
  | single home => exact ordered before _ after split container home
  | tail _ home ih =>
      obtain ⟨first, second, inner⟩ :=
        List.append_of_mem (ordered before _ after split _ home)
      have earlier := ih (by rw [split, inner, List.append_assoc, List.cons_append])
      rw [inner]
      exact List.mem_append_left _ earlier

/-- The nodes in one place, each once, in any order. -/
structure Forest.Listed (forest : Forest α) (place : Option α) (nodes : List α) : Prop where
  distinct : nodes.Nodup
  mem : ∀ node, node ∈ nodes ↔ node ∈ forest.nodes ∧ forest.home node = place

/-- Halfway through a walk: the places to visit are those found and not visited yet, and what
lies in any other place found so far has been found. -/
structure Frontier (forest : Forest α) (places : List (Option α)) (found : List α) : Prop where
  found_nodup : found.Nodup
  places_nodup : places.Nodup
  reached : ∀ node ∈ found, forest.Reached node
  waiting : ∀ container, some container ∈ places → container ∈ found
  visited : ∀ node ∈ found, forest.home node ∉ places
  rooted : ∀ node ∈ found, ∀ container, forest.home node = some container → container ∈ found
  complete : ∀ node ∈ forest.nodes,
    (∀ container, forest.home node = some container → container ∈ found) →
    node ∈ found ∨ forest.home node ∈ places

section

variable {forest : Forest α} {place : Option α} {places entered : List (Option α)}
  {found listed : List α}

theorem Frontier.start (forest : Forest α) : Frontier forest [none] [] where
  found_nodup := List.nodup_nil
  places_nodup := List.pairwise_singleton ..
  reached _ mem := absurd mem List.not_mem_nil
  waiting container mem := by simp at mem
  visited _ mem := absurd mem List.not_mem_nil
  rooted _ mem := absurd mem List.not_mem_nil
  complete node _ inside := by
    cases home : forest.home node with
    | none => exact Or.inr (List.mem_singleton_self _)
    | some container => exact absurd (inside container home) List.not_mem_nil

theorem Frontier.apart (frontier : Frontier forest (place :: places) found)
    (lists : forest.Listed place listed) : ∀ node ∈ listed, node ∉ found := by
  intro node mem there
  apply frontier.visited node there
  rw [((lists.mem node).mp mem).2]
  exact List.mem_cons_self ..

/-- Visiting the next place. The nodes entered are among those it holds; one that holds others
has to be. -/
theorem Frontier.visit (frontier : Frontier forest (place :: places) found)
    (lists : forest.Listed place listed) (distinct : entered.Nodup)
    (enters : ∀ next ∈ entered, ∃ node ∈ listed, next = some node)
    (holding : ∀ node ∈ forest.nodes, ∀ container ∈ listed,
      forest.home node = some container → some container ∈ entered) :
    Frontier forest (entered ++ places) (found ++ listed) := by
  have apart := frontier.apart lists
  have home : ∀ node ∈ listed, forest.home node = place := fun node mem =>
    ((lists.mem node).mp mem).2
  have inFound : ∀ container, place = some container → container ∈ found := by
    rintro container rfl
    exact frontier.waiting container (List.mem_cons_self ..)
  have placeNew : place ∉ places := (List.nodup_cons.mp frontier.places_nodup).1
  have notEntered : ∀ container ∈ found, some container ∉ entered := by
    intro container there mem
    obtain ⟨node, inListed, same⟩ := enters _ mem
    cases same
    exact apart container inListed there
  refine ⟨?_, ?_, ?_, ?_, ?_, ?_, ?_⟩
  · rw [List.nodup_append]
    refine ⟨frontier.found_nodup, lists.distinct, ?_⟩
    rintro node there _ mem rfl
    exact apart node mem there
  · rw [List.nodup_append]
    refine ⟨distinct, (List.nodup_cons.mp frontier.places_nodup).2, ?_⟩
    rintro next mem _ there rfl
    obtain ⟨node, inListed, rfl⟩ := enters next mem
    exact apart node inListed (frontier.waiting node (List.mem_cons_of_mem _ there))
  · intro node mem
    rcases List.mem_append.mp mem with there | new
    · exact frontier.reached node there
    · obtain ⟨inForest, same⟩ := (lists.mem node).mp new
      cases place with
      | none => exact .top inForest same
      | some container =>
          exact .inside (frontier.reached container (inFound container rfl)) inForest same
  · intro container mem
    rcases List.mem_append.mp mem with new | there
    · obtain ⟨node, inListed, same⟩ := enters _ new
      cases same
      exact List.mem_append_right _ inListed
    · exact List.mem_append_left _ (frontier.waiting container (List.mem_cons_of_mem _ there))
  · intro node mem there
    rcases List.mem_append.mp mem with old | new
    · rcases List.mem_append.mp there with added | waiting
      · obtain ⟨container, inListed, same⟩ := enters _ added
        exact apart container inListed (frontier.rooted node old container same)
      · exact frontier.visited node old (List.mem_cons_of_mem _ waiting)
    · rw [home node new] at there
      rcases List.mem_append.mp there with added | waiting
      · obtain ⟨container, inListed, same⟩ := enters _ added
        exact apart container inListed (inFound container same)
      · exact placeNew waiting
  · intro node mem container same
    rcases List.mem_append.mp mem with old | new
    · exact List.mem_append_left _ (frontier.rooted node old container same)
    · rw [home node new] at same
      exact List.mem_append_left _ (inFound container same)
  · intro node inForest inside
    by_cases fresh : ∃ container ∈ listed, forest.home node = some container
    · obtain ⟨container, inListed, same⟩ := fresh
      rw [same]
      exact Or.inr (List.mem_append_left _ (holding node inForest container inListed same))
    · have older : ∀ container, forest.home node = some container → container ∈ found := by
        intro container same
        rcases List.mem_append.mp (inside container same) with old | new
        · exact old
        · exact absurd ⟨container, new, same⟩ fresh
      rcases frontier.complete node inForest older with old | waits
      · exact Or.inl (List.mem_append_left _ old)
      · rcases List.mem_cons.mp waits with same | later
        · exact Or.inl (List.mem_append_right _ ((lists.mem node).mpr ⟨inForest, same⟩))
        · exact Or.inr (List.mem_append_right _ later)

/-- At the end every node that can be reached has been found, and no other. -/
theorem Frontier.done (frontier : Frontier forest [] found) (node : α) :
    node ∈ found ↔ forest.Reached node := by
  constructor
  · exact frontier.reached node
  · intro reached
    induction reached with
    | top mem home =>
        rcases frontier.complete _ mem (by simp [home]) with there | waits
        · exact there
        · exact absurd waits List.not_mem_nil
    | inside _ mem home ih =>
        rcases frontier.complete _ mem (by rintro _ same; cases home.symm.trans same; exact ih)
          with there | waits
        · exact there
        · exact absurd waits List.not_mem_nil

/-- No more nodes are found than there are. -/
theorem Frontier.found_length_le (frontier : Frontier forest places found) :
    found.length ≤ forest.nodes.length :=
  (List.subperm_of_subset frontier.found_nodup fun node mem =>
    (frontier.reached node mem).mem).length_le

end

end Walk
