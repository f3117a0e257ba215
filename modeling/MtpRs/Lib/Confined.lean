import MtpRs.Lib.Places

set_option autoImplicit false

/- Where a path leads on a disk without links, and what the calls on a path leave alone. -/
namespace Files

def Component.follow (here : Location) : Component → Location
  | .rootDir => []
  | .curDir => here
  | .parentDir => here.dropLast
  | .normal name => here ++ [name]

namespace Path

/-- Where a path leads from a place, if it leads anywhere. -/
def follow (path : Path) (here : Location) : Location := path.components.foldl Component.follow here

section

variable {path base : Path} {here : Location}

@[simp] theorem follow_empty (here : Location) : empty.follow here = here := rfl

@[simp] theorem follow_child (path : Path) (name : Name) (here : Location) :
    (path.child name).follow here = path.follow here ++ [name] := by
  simp [follow, Component.follow]

theorem follow_descend (path : Path) (names : List Name) (here : Location) :
    (path.descend names).follow here = path.follow here ++ names := by
  induction names using List.reverseRecOn with
  | nil => rw [descend_nil, List.append_nil]
  | append_singleton names name ih => rw [descend_concat, follow_child, ih, List.append_assoc]

@[simp] theorem follow_ofLocation (location here : Location) :
    (ofLocation location).follow here = location := by
  have root : ofLocation location = (⟨[.rootDir]⟩ : Path).descend location := rfl
  rw [root, follow_descend]
  rfl

theorem follow_join (base path : Path) (here : Location) :
    (base.join path).follow here = path.follow (base.follow here) := by
  obtain ⟨outer⟩ := base
  obtain ⟨inner⟩ := path
  cases outer with
  | nil => cases inner with
    | nil => rfl
    | cons first rest => cases first <;> rfl
  | cons start outer => cases inner with
    | nil => simp [join, isAbsolute, follow]
    | cons first rest => cases first <;> simp [join, isAbsolute, follow, Component.follow]

theorem parent_concat {front : List Component} {last : Component} (inner : last ≠ .rootDir) :
    Path.parent ⟨front ++ [last]⟩ = some ⟨front⟩ := by
  rw [Path.parent, List.getLast?_concat, List.dropLast_concat]
  cases last with
  | rootDir => exact absurd rfl inner
  | curDir => rfl
  | parentDir => rfl
  | normal name => rfl

theorem parent_eq_some {parent : Path} (above : path.parent = some parent) :
    ∃ last, last ≠ .rootDir ∧ path.components = parent.components ++ [last] := by
  obtain ⟨components⟩ := path
  induction components using List.reverseRecOn with
  | nil => cases above
  | append_singleton front last _ =>
      have inner : last ≠ .rootDir := by
        rintro rfl
        rw [Path.parent, List.getLast?_concat] at above
        cases above
      rw [parent_concat inner] at above
      cases above
      exact ⟨last, inner, rfl⟩

/-- A last component stays the last one, unless it starts the path anew or says where it is. -/
theorem join_concat {front : List Component} {last : Component}
    (further : front ≠ [] ∨ last ≠ .rootDir ∧ last ≠ .curDir) :
    base.join ⟨front ++ [last]⟩ = ⟨(base.join ⟨front⟩).components ++ [last]⟩ := by
  obtain ⟨outer⟩ := base
  cases front with
  | nil =>
      cases last with
      | rootDir => simp at further
      | curDir => simp at further
      | parentDir => cases outer <;> simp [join, isAbsolute]
      | normal name => cases outer <;> simp [join, isAbsolute]
  | cons first rest => cases outer <;> cases first <;> simp [join, isAbsolute]

/-- The directory a joined path lies in, unless the path is the base again. -/
theorem parent_join {parent : Path} (above : path.parent = some parent)
    (further : path ≠ ⟨[.curDir]⟩) : (base.join path).parent = some (base.join parent) := by
  obtain ⟨last, inner, components⟩ := parent_eq_some above
  obtain ⟨front⟩ := parent
  have split : path = ⟨front ++ [last]⟩ := congrArg Path.mk components
  have apart : front ≠ [] ∨ last ≠ .rootDir ∧ last ≠ .curDir := by
    by_cases start : front = []
    · refine Or.inr ⟨inner, ?_⟩
      rintro rfl
      exact further (by rw [split, start, List.nil_append])
    · exact Or.inl start
  rw [split, join_concat apart, parent_concat inner]

/-- A path that ends at the root does so wherever it is joined to. -/
theorem parent_join_none (top : path.parent = none) (some : path ≠ empty) :
    (base.join path).parent = none := by
  obtain ⟨components⟩ := path
  induction components using List.reverseRecOn with
  | nil => exact absurd rfl some
  | append_singleton front last _ =>
      have root : last = .rootDir := by
        by_contra inner
        rw [parent_concat inner] at top
        cases top
      subst root
      cases front with
      | nil => exact top
      | cons first rest =>
          rw [join_concat (Or.inl (List.cons_ne_nil _ _)), Path.parent, List.getLast?_concat]

theorem child_of_fileName {name : Name} (named : path.fileName = some name) :
    ∃ parent, path.parent = some parent ∧ path = parent.child name := by
  obtain ⟨components⟩ := path
  cases components using List.reverseRecOn with
  | nil => cases named
  | append_singleton init last =>
      rw [fileName, List.getLast?_concat] at named
      cases last with
      | normal other =>
          cases named
          exact ⟨⟨init⟩, parent_concat (by simp), rfl⟩
      | rootDir => cases named
      | curDir => cases named
      | parentDir => cases named

end

end Path

namespace Disk

variable {disk : Disk} {path : Path} {location : Location}

theorem walk_follow (here : Location) (components : List Component)
    (walked : disk.walk here components = some location) :
    location = components.foldl Component.follow here := by
  induction components generalizing here with
  | nil => exact (Option.some.inj walked).symm
  | cons first rest ih =>
      cases first with
      | rootDir => cases walked
      | curDir | parentDir | normal name =>
          rw [walk] at walked
          split at walked
          · exact ih _ walked
          · cases walked

/-- A path leads where its components do. -/
theorem locate_follow (located : disk.locate path = some location) :
    location = path.follow disk.workingDirectory := by
  obtain ⟨components⟩ := path
  cases components with
  | nil => cases located
  | cons first rest =>
      cases first with
      | rootDir =>
          have led := walk_follow [] rest located
          exact led
      | curDir | parentDir | normal name =>
          exact walk_follow disk.workingDirectory (_ :: rest) located

theorem canonicalize_follow {canonical : Path} (found : disk.canonicalize path = some canonical) :
    canonical = .ofLocation (path.follow disk.workingDirectory) := by
  unfold canonicalize at found
  cases located : disk.locate path with
  | none =>
      rw [located] at found
      cases found
  | some location =>
      simp only [located] at found
      split at found
      · cases found
        rw [locate_follow located]
      · cases found

/-- A path to something, or to what could lie in something. -/
def attached (disk : Disk) (path : Path) : Prop :=
  disk.present path = true ∨ ∃ parent, path.parent = some parent ∧ disk.present parent = true

theorem attached.start (leads : disk.attached path) : path.components ≠ [] := by
  rcases leads with there | ⟨parent, above, -⟩
  · obtain ⟨location, located, -⟩ := present_iff.mp there
    exact components_ne_nil located
  · obtain ⟨last, -, components⟩ := Path.parent_eq_some above
    rw [components]
    exact List.concat_ne_nil last _

/-- What could lie in a directory. -/
theorem attached_child (directory : disk.isDirectory path = true) (name : Name) :
    disk.attached (path.child name) := by
  obtain ⟨location, located, there⟩ := isDirectory_iff.mp directory
  exact Or.inr ⟨path, Path.parent_child, present_iff.mpr
    ⟨location, located, present_of_directoryAt there⟩⟩

/-- On the way there everything is a directory. -/
theorem isDirectory_front {front rest : List Component} (start : front ≠ []) (more : rest ≠ [])
    (there : disk.present ⟨front ++ rest⟩ = true) : disk.isDirectory ⟨front⟩ = true := by
  obtain ⟨target, located, -⟩ := present_iff.mp there
  have named : (⟨front⟩ : Path).components ≠ [] := start
  rw [locate_append named] at located
  obtain ⟨middle, reached, walked⟩ := Option.bind_eq_some_iff.mp located
  apply isDirectory_iff.mpr
  refine ⟨middle, reached, ?_⟩
  cases rest with
  | nil => exact absurd rfl more
  | cons first rest =>
      cases first with
      | rootDir => cases walked
      | curDir | parentDir | normal name =>
          rw [walk] at walked
          split at walked
          · next directory => exact directory
          · cases walked

theorem present_of_isDirectory (directory : disk.isDirectory path = true) :
    disk.present path = true := by
  obtain ⟨location, located, there⟩ := isDirectory_iff.mp directory
  exact present_iff.mpr ⟨location, located, present_of_directoryAt there⟩

theorem present_front {front rest : List Component} (start : front ≠ []) (more : rest ≠ [])
    (there : disk.present ⟨front ++ rest⟩ = true) : disk.present ⟨front⟩ = true :=
  present_of_isDirectory (isDirectory_front start more there)

theorem attached.front {front rest : List Component} (start : front ≠ []) (more : rest ≠ [])
    (leads : disk.attached ⟨front ++ rest⟩) : disk.present ⟨front⟩ = true := by
  rcases leads with there | ⟨parent, above, there⟩
  · exact present_front start more there
  · obtain ⟨last, -, components⟩ := Path.parent_eq_some above
    induction rest using List.reverseRecOn with
    | nil => exact absurd rfl more
    | append_singleton rest other _ =>
        rw [← List.append_assoc] at components
        have same : (⟨front ++ rest⟩ : Path) = parent :=
          congrArg Path.mk (List.append_inj_left' components rfl)
        rw [← same] at there
        cases rest with
        | nil => rwa [List.append_nil] at there
        | cons first rest => exact present_front start (List.cons_ne_nil _ _) there

end Disk

/-- A place with nothing of a region at it or below it. -/
def Away (region : Location → Prop) (location : Location) : Prop :=
  ∀ other, location <+: other → ¬ region other

/-- A region is as it was, and no call since was for anything there. -/
structure Spares (region : Location → Prop) (before after : Disk) : Prop where
  node : ∀ location, region location → after.node location = before.node location
  workingDirectory : after.workingDirectory = before.workingDirectory
  calls : ∃ made, after.calls = made ++ before.calls ∧
    ∀ call ∈ made, ∀ target ∈ call.targets, Away region target

/-- What was there is still there, and a directory if it was one. -/
structure Builds (region : Location → Prop) (before after : Disk) : Prop
    extends Spares region before after where
  present : ∀ location, (before.node location).isSome = true →
    (after.node location).isSome = true
  directories : ∀ location, before.directoryAt location = true → after.directoryAt location = true

section

variable {region : Location → Prop} {disk before middle after : Disk} {location : Location}
  {path : Path}

theorem Away.below (away : Away region location) {other : Location} (inside : location <+: other) :
    Away region other :=
  fun _ further => away _ (inside.trans further)

theorem Spares.refl (disk : Disk) : Spares region disk disk where
  node _ _ := rfl
  workingDirectory := rfl
  calls := ⟨[], rfl, fun _ mem => absurd mem List.not_mem_nil⟩

theorem Spares.trans (first : Spares region before middle) (second : Spares region middle after) :
    Spares region before after where
  node location inside := (second.node location inside).trans (first.node location inside)
  workingDirectory := second.workingDirectory.trans first.workingDirectory
  calls := by
    obtain ⟨early, earlyCalls, earlyAway⟩ := first.calls
    obtain ⟨late, lateCalls, lateAway⟩ := second.calls
    refine ⟨late ++ early, by rw [lateCalls, earlyCalls, List.append_assoc], ?_⟩
    intro call mem
    rcases List.mem_append.mp mem with inLate | inEarly
    · exact lateAway call inLate
    · exact earlyAway call inEarly

theorem Builds.refl (disk : Disk) : Builds region disk disk where
  toSpares := .refl disk
  present _ there := there
  directories _ there := there

theorem Builds.trans (first : Builds region before middle) (second : Builds region middle after) :
    Builds region before after where
  toSpares := first.toSpares.trans second.toSpares
  present location there := second.present location (first.present location there)
  directories location there := second.directories location (first.directories location there)

theorem spares_of_call {call : Call} (workingDirectory : after.workingDirectory =
      disk.workingDirectory) (calls : after.calls = call :: disk.calls)
    (away : ∀ target ∈ call.targets, Away region target)
    (node : ∀ other, (∀ target ∈ call.targets, ¬ target <+: other) →
      after.node other = disk.node other) : Spares region disk after where
  node other inside := node other fun target mem below => away target mem other below inside
  workingDirectory := workingDirectory
  calls := ⟨[call], calls, fun made mem => by rwa [List.mem_singleton.mp mem]⟩

theorem Disk.put_builds {new : Node} {call : Call} (room : disk.hasRoom location = true)
    (stays : disk.directoryAt location = true → new.isDirectory = true)
    (targets : call.targets = [location]) (away : Away region location) :
    Builds region disk (disk.put location new call room stays) where
  toSpares := by
    refine spares_of_call rfl rfl ?_ ?_
    · rw [targets]
      exact List.forall_mem_singleton.mpr away
    · intro other apart
      rw [targets, List.forall_mem_singleton] at apart
      have different : other ≠ location := fun same => apart (same ▸ List.prefix_refl _)
      exact if_neg different
  present other there := by
    by_cases same : other = location
    · simp [Disk.put, same]
    · simpa [Disk.put, same] using there
  directories other there := by
    by_cases same : other = location
    · subst same
      simpa [Disk.put, Disk.directoryAt, directoryIn] using stays there
    · simpa [Disk.put, Disk.directoryAt, directoryIn, same] using there

theorem Disk.take_spares {call : Call} (below : location ≠ [])
    (empty : ∀ name, (disk.node (location ++ [name])).isSome = false)
    (targets : call.targets = [location]) (away : Away region location) :
    Spares region disk (disk.take location call below empty) := by
  refine spares_of_call rfl rfl ?_ ?_
  · rw [targets]
    exact List.forall_mem_singleton.mpr away
  · intro other apart
    rw [targets, List.forall_mem_singleton] at apart
    have different : other ≠ location := fun same => apart (same ▸ List.prefix_refl _)
    exact if_neg different

theorem Disk.shift_spares {source target : Location} (below : source ≠ [])
    (room : disk.hasRoom target = true) (apart : ¬ source <+: target)
    (sourceAway : Away region source) (targetAway : Away region target) :
    Spares region disk (disk.shift source target (.rename source target) below room apart) := by
  refine spares_of_call rfl rfl ?_ ?_
  · simp [Call.targets, sourceAway, targetAway]
  · intro other outside
    simp only [Call.targets, List.mem_cons, List.not_mem_nil, or_false, forall_eq_or_imp,
      forall_eq] at outside
    simp [Disk.shift, outside.1, outside.2]

/-- A walk goes on where directories stay. -/
theorem Builds.walk (builds : Builds region before after) {here : Location}
    {components : List Component} (walked : before.walk here components = some location) :
    after.walk here components = some location := by
  induction components generalizing here with
  | nil => exact walked
  | cons first rest ih =>
      cases first with
      | rootDir => cases walked
      | curDir | parentDir | normal name =>
          rw [Disk.walk] at walked ⊢
          split at walked
          · next directory =>
              rw [if_pos (builds.directories here directory)]
              exact ih walked
          · cases walked

theorem Builds.locate (builds : Builds region before after)
    (located : before.locate path = some location) : after.locate path = some location := by
  obtain ⟨components⟩ := path
  cases components with
  | nil => cases located
  | cons first rest =>
      cases first with
      | rootDir => exact builds.walk located
      | curDir | parentDir | normal name =>
          rw [Disk.locate] at located ⊢
          rw [builds.workingDirectory]
          exact builds.walk located

theorem Builds.present_path (builds : Builds region before after)
    (there : before.present path = true) : after.present path = true := by
  obtain ⟨location, located, node⟩ := Disk.present_iff.mp there
  exact Disk.present_iff.mpr ⟨location, builds.locate located, builds.present location node⟩

theorem Builds.isDirectory (builds : Builds region before after)
    (there : before.isDirectory path = true) : after.isDirectory path = true := by
  obtain ⟨location, located, directory⟩ := Disk.isDirectory_iff.mp there
  exact Disk.isDirectory_iff.mpr
    ⟨location, builds.locate located, builds.directories location directory⟩

end

end Files
