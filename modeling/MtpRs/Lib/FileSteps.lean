import MtpRs.Lib.Places

set_option autoImplicit false

/- Calls that change one file only, or move one: what they leave of a disk, where they fail as
well. -/
namespace Files

namespace Host

/-- `write_all` of an open file, behind what was written to it so far. -/
def appendAt (host : Host) (disk : Disk) (location : Location) (bytes : List UInt8) : Bool × Disk :=
  if ready : disk.directoryAt location = false ∧ disk.hasRoom location = true then
    match disk.node location with
    | some ⟨.file before, created, _⟩ =>
        ((host.refuses disk (.write location)).isNone,
          disk.put location
            ⟨.file (before ++ bytes.take ((host.refuses disk (.write location)).getD bytes.length)),
              created, some (host.now disk)⟩
            (.write location) ready.2 fun isDirectory =>
              absurd isDirectory (Bool.eq_false_iff.mp ready.1))
    | _ => (false, disk)
  else (false, disk)

end Host

def Disk.fileAt (disk : Disk) (location : Location) : Option (List UInt8) :=
  match disk.node location with
  | some ⟨.file bytes, _, _⟩ => some bytes
  | _ => none

/-- Nothing has changed but files in some places. -/
structure Within (places : Location → Prop) (before after : Disk) : Prop where
  node : ∀ location, ¬ places location → after.node location = before.node location
  directories : ∀ location, after.directoryAt location = before.directoryAt location
  workingDirectory : after.workingDirectory = before.workingDirectory

section

variable {places wider : Location → Prop} {disk before middle after : Disk} {location : Location}
  {path : Path} {host : Host}

namespace Within

theorem refl (disk : Disk) : Within places disk disk := ⟨fun _ _ => rfl, fun _ => rfl, rfl⟩

theorem trans (first : Within places before middle) (second : Within places middle after) :
    Within places before after where
  node location outside := (second.node location outside).trans (first.node location outside)
  directories location := (second.directories location).trans (first.directories location)
  workingDirectory := second.workingDirectory.trans first.workingDirectory

theorem walk (within : Within places before after) (here : Location)
    (components : List Component) : after.walk here components = before.walk here components := by
  induction components generalizing here with
  | nil => rfl
  | cons first rest ih =>
      cases first with
      | rootDir => rfl
      | curDir | parentDir | normal name => simp only [Disk.walk, within.directories, ih]

/-- Paths lead where they did. -/
theorem locate (within : Within places before after) (path : Path) :
    after.locate path = before.locate path := by
  obtain ⟨components⟩ := path
  cases components with
  | nil => rfl
  | cons first rest =>
      cases first with
      | rootDir => exact within.walk [] rest
      | curDir | parentDir | normal name =>
          simp only [Disk.locate, within.workingDirectory, within.walk]

end Within

theorem directoryAt_congr (same : after.node location = before.node location) :
    after.directoryAt location = before.directoryAt location := by
  rw [Disk.directoryAt, Disk.directoryAt, directoryIn, directoryIn, same]

section

variable {new : Node} {call : Call} {room : disk.hasRoom location = true}
  {stays : disk.directoryAt location = true → new.isDirectory = true}

theorem node_put : (disk.put location new call room stays).node location = some new := if_pos rfl

theorem within_put (file : disk.directoryAt location = false) (newFile : new.isDirectory = false) :
    Within (· = location) disk (disk.put location new call room stays) where
  node other apart := if_neg apart
  directories other := by
    by_cases same : other = location
    · rw [same, file, Disk.directoryAt, directoryIn, node_put, Option.any_some, newFile]
    · exact directoryAt_congr (if_neg same)
  workingDirectory := rfl

end

theorem openAt_within {truncate : Bool} (opened : host.openAt disk location truncate = some after) :
    Within (· = location) disk after := by
  unfold Host.openAt at opened
  split at opened
  · next ready =>
      cases opened
      apply within_put ready.2.1
      split
      · split <;> rfl
      · rfl
  · cases opened

/-- A file that is cut when it is opened is empty. -/
theorem openAt_file (opened : host.openAt disk location true = some after) :
    after.fileAt location = some [] := by
  unfold Host.openAt at opened
  split at opened
  · cases opened
    rw [Disk.fileAt, node_put]
    cases disk.node location with
    | none => rfl
    | some node =>
        obtain ⟨content, created, modified⟩ := node
        cases content <;> rfl
  · cases opened

theorem appendAt_within (bytes : List UInt8) :
    Within (· = location) disk (host.appendAt disk location bytes).2 := by
  unfold Host.appendAt
  split
  · next ready =>
      split
      · dsimp only
        exact within_put ready.1 rfl
      · exact .refl disk
  · exact .refl disk

theorem appendAt_file {bytes written : List UInt8} (file : disk.fileAt location = some written)
    (appended : host.appendAt disk location bytes = (true, after)) :
    after.fileAt location = some (written ++ bytes) := by
  unfold Host.appendAt at appended
  split at appended
  · split at appended
    · next before created modified node =>
        rw [Disk.fileAt, node] at file
        cases file
        obtain ⟨whole, rfl⟩ := Prod.mk.inj appended
        rw [Option.isNone_iff_eq_none] at whole
        rw [Disk.fileAt, node_put, whole, Option.getD_none, List.take_length]
    · cases appended
  · cases appended

theorem unlinkAt_within (host : Host) (disk : Disk) (location : Location) :
    Within (· = location) disk (host.unlinkAt disk location).2 := by
  unfold Host.unlinkAt
  split
  · next ready =>
      constructor
      · intro other apart
        exact if_neg apart
      · intro other
        by_cases same : other = location
        · have gone : (disk.take location (.unlink location) ready.1.1
              (Disk.names_of_file ready.1.2)).node location = none := if_pos rfl
          rw [same, ready.1.2, Disk.directoryAt, directoryIn, gone]
          rfl
        · exact directoryAt_congr (if_neg same)
      · rfl
  · exact .refl disk

theorem unlinkAt_gone (removed : host.unlinkAt disk location = (true, after)) :
    after.node location = none := by
  unfold Host.unlinkAt at removed
  split at removed
  · obtain ⟨-, rfl⟩ := Prod.mk.inj removed
    exact if_pos rfl
  · cases removed

theorem unlinkAt_failed (failed : host.unlinkAt disk location = (false, after)) : after = disk := by
  unfold Host.unlinkAt at failed
  split at failed
  · cases failed
  · exact (Prod.mk.inj failed).2.symm

theorem fileAt_node {bytes : List UInt8} (file : disk.fileAt location = some bytes) :
    ∃ created modified, disk.node location = some ⟨.file bytes, created, modified⟩ := by
  unfold Disk.fileAt at file
  split at file
  · next node =>
      cases file
      exact ⟨_, _, node⟩
  · cases file

theorem fileAt_congr (same : after.node location = before.node location) :
    after.fileAt location = before.fileAt location := by
  rw [Disk.fileAt, Disk.fileAt, same]

theorem directoryAt_fileAt {bytes : List UInt8} (file : disk.fileAt location = some bytes) :
    disk.directoryAt location = false := by
  obtain ⟨created, modified, node⟩ := fileAt_node file
  rw [Disk.directoryAt, directoryIn, node]
  rfl

/-- Nothing lies below a file. -/
theorem node_below (file : disk.directoryAt location = false) {rest : List Name}
    (more : rest ≠ []) :
    disk.node (location ++ rest) = none := by
  by_contra there
  have directory := Disk.directoryAt_of_below more (Option.isSome_iff_ne_none.mpr there)
  rw [file] at directory
  cases directory

/-- A file that is moved is where it was moved to, and no longer where it was. -/
structure Moved (source target : Location) (bytes : List UInt8) (before after : Disk) : Prop where
  arrived : after.fileAt target = some bytes
  gone : after.node source = none
  within : Within (fun location => location = source ∨ location = target) before after

theorem shift_moved {source target : Location} {bytes : List UInt8} {call : Call}
    {below : source ≠ []} {room : disk.hasRoom target = true} {apart : ¬ source <+: target}
    (file : disk.fileAt source = some bytes) (replaced : disk.directoryAt target = false) :
    Moved source target bytes disk (disk.shift source target call below room apart) := by
  have plain := directoryAt_fileAt file
  have beside : ¬ target <+: source := by
    intro ⟨rest, same⟩
    have more : rest ≠ [] := by
      intro none
      rw [none, List.append_nil] at same
      exact apart (by rw [same])
    rw [← same, Disk.fileAt, node_below replaced more] at file
    cases file
  have arrived : (disk.shift source target call below room apart).node target =
      disk.node source := by
    rw [Disk.shift]
    dsimp only
    rw [if_pos (List.prefix_refl _), List.drop_length, List.append_nil]
  have gone : (disk.shift source target call below room apart).node source = none := by
    rw [Disk.shift]
    dsimp only
    rw [if_neg beside, if_pos (List.prefix_refl _)]
  have others : ∀ other, ¬ (other = source ∨ other = target) →
      (disk.shift source target call below room apart).node other = disk.node other := by
    intro other elsewhere
    rw [not_or] at elsewhere
    rw [Disk.shift]
    dsimp only
    by_cases inTarget : target <+: other
    · obtain ⟨rest, rfl⟩ := inTarget
      have more : rest ≠ [] := by
        intro none
        exact elsewhere.2 (by rw [none, List.append_nil])
      rw [if_pos (List.prefix_append _ _), List.drop_left, node_below plain more,
        node_below replaced more]
    · rw [if_neg inTarget]
      by_cases inSource : source <+: other
      · obtain ⟨rest, rfl⟩ := inSource
        have more : rest ≠ [] := by
          intro none
          exact elsewhere.1 (by rw [none, List.append_nil])
        rw [if_pos (List.prefix_append _ _), node_below plain more]
      · rw [if_neg inSource]
  constructor
  · rw [← file]
    rw [Disk.fileAt, Disk.fileAt, arrived]
  · exact gone
  · constructor
    · exact others
    · intro other
      by_cases atSource : other = source
      · rw [atSource, plain, Disk.directoryAt, directoryIn, gone]
        rfl
      · by_cases atTarget : other = target
        · rw [atTarget, replaced, ← plain, Disk.directoryAt, directoryIn, arrived]
          rfl
        · exact directoryAt_congr (others other (by simp [atSource, atTarget]))
    · rfl

theorem renameAt_moved {source target : Location} {bytes : List UInt8}
    (file : disk.fileAt source = some bytes) (apart : source ≠ target)
    (renamed : host.renameAt disk source target = some after) :
    Moved source target bytes disk after := by
  unfold Host.renameAt at renamed
  split at renamed
  · cases renamed
  · split at renamed
    · next ready =>
        cases renamed
        exact shift_moved file (ready.2.2.1 (directoryAt_fileAt file))
    · cases renamed

theorem directoryAt_dropLast (directory : disk.directoryAt location = true) :
    disk.directoryAt location.dropLast = true := by
  cases location using List.reverseRecOn with
  | nil => exact directory
  | append_singleton front last =>
      rw [List.dropLast_concat]
      exact disk.closed front last (Disk.present_of_directoryAt directory)

/-- A path that names no entry ends at a directory. -/
theorem directoryAt_of_unnamed (unnamed : path.fileName = none)
    (located : disk.locate path = some location) : disk.directoryAt location = true := by
  have step : ∀ here last, (∀ name, last ≠ Component.normal name) →
      disk.walk here [last] = some location → disk.directoryAt location = true := by
    intro here last inner walked
    cases last with
    | rootDir => cases walked
    | normal name => exact absurd rfl (inner name)
    | curDir | parentDir =>
        rw [Disk.walk] at walked
        split at walked
        · next directory =>
            cases walked
            first
              | exact directory
              | exact directoryAt_dropLast directory
        · cases walked
  obtain ⟨components⟩ := path
  cases components using List.reverseRecOn with
  | nil => cases located
  | append_singleton front last =>
      have inner : ∀ name, last ≠ .normal name := by
        intro name same
        rw [Path.fileName, List.getLast?_concat, same] at unnamed
        cases unnamed
      by_cases start : front = []
      · rw [start, List.nil_append] at located
        cases last with
        | rootDir =>
            cases located
            exact disk.rooted
        | curDir | parentDir => exact step disk.workingDirectory _ inner located
        | normal name => exact absurd rfl (inner name)
      · have split : disk.locate ⟨front ++ [last]⟩ = (disk.locate ⟨front⟩).bind fun there =>
            disk.walk there [last] := @Disk.locate_append disk ⟨front⟩ start [last]
        rw [split, Option.bind_eq_some_iff] at located
        obtain ⟨here, -, walked⟩ := located
        exact step here last inner walked

end

end Files
