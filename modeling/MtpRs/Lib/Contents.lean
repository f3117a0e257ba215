import MtpRs.Lib.Effects

set_option autoImplicit false

/- What a path finds on a disk, and what changes leave it as it is. -/
namespace Files

/-- The places a path goes through from a place, the one it leads to among them. -/
def placesFrom : Location → List Component → List Location
  | here, [] => [here]
  | here, first :: rest => here :: placesFrom (first.follow here) rest

def Path.places (path : Path) (here : Location) : List Location :=
  match path.components with
  | .rootDir :: rest => placesFrom [] rest
  | components => placesFrom here components

/-- What is there, its times left aside. -/
def Disk.contents (disk : Disk) (path : Path) : Option Content :=
  (disk.metadata path).map Node.content

section

variable {before after : Disk} {here location : Location} {components : List Component}
  {path : Path}

theorem mem_placesFrom (here : Location) (components : List Component) :
    components.foldl Component.follow here ∈ placesFrom here components := by
  induction components generalizing here with
  | nil => exact List.mem_singleton_self here
  | cons first rest ih => exact List.mem_cons_of_mem _ (ih _)

theorem follow_mem_places (path : Path) (here : Location) :
    path.follow here ∈ path.places here := by
  unfold Path.follow Path.places
  split
  · next rest same =>
      rw [same]
      exact mem_placesFrom [] rest
  · exact mem_placesFrom here _

/-- A walk goes where it went while nothing on its way changes. -/
theorem walk_congr (same : ∀ place ∈ placesFrom here components,
    after.directoryAt place = before.directoryAt place) :
    after.walk here components = before.walk here components := by
  induction components generalizing here with
  | nil => rfl
  | cons first rest ih =>
      have now := same here (List.mem_cons_self ..)
      have onward := ih fun place mem => same place (List.mem_cons_of_mem _ mem)
      cases first with
      | rootDir => rfl
      | curDir | parentDir | normal name =>
          rw [Disk.walk, Disk.walk, now]
          split
          · exact onward
          · rfl

theorem locate_congr (directory : after.workingDirectory = before.workingDirectory)
    (same : ∀ place ∈ path.places before.workingDirectory,
      after.directoryAt place = before.directoryAt place) :
    after.locate path = before.locate path := by
  obtain ⟨components⟩ := path
  cases components with
  | nil => rfl
  | cons first rest =>
      cases first with
      | rootDir => exact walk_congr same
      | curDir | parentDir | normal name =>
          unfold Disk.locate
          dsimp only
          rw [directory]
          exact walk_congr same

/-- A path finds what it found where none of its places is called for. -/
theorem Spares.metadata (spares : Spares (· ∈ path.places before.workingDirectory) before after) :
    after.metadata path = before.metadata path := by
  have located : after.locate path = before.locate path := by
    refine locate_congr spares.workingDirectory fun place mem => ?_
    unfold Disk.directoryAt directoryIn
    rw [spares.node place mem]
  rw [Disk.metadata, Disk.metadata, located]
  cases found : before.locate path with
  | none => rfl
  | some location =>
      refine spares.node location ?_
      rw [Disk.locate_follow found]
      exact follow_mem_places path _

theorem Disk.contents_eq_some {content : Content} : before.contents path = some content ↔
    ∃ location created modified, before.locate path = some location ∧
      before.node location = some ⟨content, created, modified⟩ := by
  unfold contents metadata
  constructor
  · intro found
    obtain ⟨node, there, same⟩ := Option.map_eq_some_iff.mp found
    obtain ⟨location, located, placed⟩ := Option.bind_eq_some_iff.mp there
    obtain ⟨_, created, modified⟩ := node
    cases same
    exact ⟨location, created, modified, located, placed⟩
  · rintro ⟨location, created, modified, located, placed⟩
    rw [located, Option.bind_some, placed]
    rfl

theorem away_nowhere (location : Location) : Away (fun _ => False) location :=
  fun _ _ => id

namespace Host

variable {host : Host} {bytes : List UInt8}

theorem read_of_contents (there : before.contents path = some (.file bytes))
    (readable : ∀ location, host.refuses before (.read location) = none) :
    host.read before path = some bytes := by
  obtain ⟨location, created, modified, located, placed⟩ := Disk.contents_eq_some.mp there
  rw [read, located]
  dsimp only
  rw [placed]
  exact if_pos (readable location)

/-- What was in a file that is opened to be cut is gone. -/
theorem openAt_empty (opened : host.openAt before location true = some after) :
    ∃ created modified, after.node location = some ⟨.file [], created, modified⟩ := by
  unfold openAt at opened
  split at opened
  · cases opened
    simp only [Disk.put, if_true]
    split
    · exact ⟨_, _, rfl⟩
    · exact ⟨_, _, rfl⟩
  · cases opened

theorem storeAt_empty {created modified : Option Int}
    (empty : before.node location = some ⟨.file [], created, modified⟩)
    (stored : host.storeAt before location bytes = (true, after)) :
    ∃ created modified, after.node location = some ⟨.file bytes, created, modified⟩ := by
  unfold storeAt at stored
  split at stored
  · rw [empty] at stored
    simp only [Prod.mk.injEq, Option.isNone_iff_eq_none] at stored
    obtain ⟨allowed, rfl⟩ := stored
    refine ⟨created, some (host.now before), ?_⟩
    simp [Disk.put, allowed]
  · cases stored

/-- A file that is written holds what was written. -/
theorem write_contents (wrote : host.write before path bytes = (true, after)) :
    after.contents path = some (.file bytes) := by
  have builds : Builds (fun _ => False) before (host.write before path bytes).2 :=
    write_builds bytes (away_nowhere _)
  rw [wrote] at builds
  unfold write at wrote
  split at wrote
  · cases wrote
  · next location located =>
      split at wrote
      · cases wrote
      · next opened cut =>
          obtain ⟨_, _, empty⟩ := openAt_empty cut
          obtain ⟨created, modified, placed⟩ := storeAt_empty empty wrote
          exact Disk.contents_eq_some.mpr
            ⟨location, created, modified, builds.locate located, placed⟩

/-- A time of its own is all that a file gets. -/
theorem setModified_contents {time : Int} (there : before.contents path = some (.file bytes))
    (stamped : host.setModified before path time = some after) :
    after.contents path = some (.file bytes) := by
  have builds : Builds (fun _ => False) before after :=
    setModified_builds stamped (away_nowhere _)
  obtain ⟨location, created, modified, located, placed⟩ := Disk.contents_eq_some.mp there
  unfold setModified at stamped
  rw [located] at stamped
  dsimp only at stamped
  split at stamped
  · rw [placed] at stamped
    cases stamped
    refine Disk.contents_eq_some.mpr ⟨location, created, some time, builds.locate located, ?_⟩
    exact if_pos rfl
  · cases stamped

end Host

end

end Files
