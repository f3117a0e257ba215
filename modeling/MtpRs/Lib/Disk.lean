import Mathlib.Data.List.Dedup
import MtpRs.Lib.Association
import MtpRs.Lib.Paths

set_option autoImplicit false

/- A disk of directories and files, without links, and the calls that read and change it. A call
is carried out whole or, where the host refuses it, fails. -/
namespace Files

inductive Content where
  | directory
  | file (bytes : List UInt8)
deriving DecidableEq

/-- Times are in nanoseconds since the Unix epoch. -/
structure Node where
  content : Content
  created : Option Int
  modified : Option Int
deriving DecidableEq

def Node.isDirectory (node : Node) : Bool := node.content == .directory

inductive Call where
  | readDir (location : Location)
  | read (location : Location)
  | mkdir (location : Location)
  | open (location : Location)
  | write (location : Location)
  | setModified (location : Location)
  | rename (source target : Location)
  | unlink (location : Location)
  | rmdir (location : Location)
deriving DecidableEq

/-- What a call creates, changes or removes where it is carried out. -/
def Call.targets : Call → List Location
  | readDir _ => []
  | read _ => []
  | mkdir location => [location]
  | .open location => [location]
  | write location => [location]
  | setModified location => [location]
  | rename source target => [source, target]
  | unlink location => [location]
  | rmdir location => [location]

def directoryIn (node : Location → Option Node) (location : Location) : Bool :=
  (node location).any Node.isDirectory

/-- What lies where: files and directories, no symbolic links. The calls that changed it so far are
kept, the last one first. -/
structure Disk where
  node : Location → Option Node
  domain : List Location
  covered : ∀ location, (node location).isSome = true → location ∈ domain
  rooted : directoryIn node [] = true
  closed : ∀ location name, (node (location ++ [name])).isSome = true →
    directoryIn node location = true
  workingDirectory : Location
  calls : List Call

/-- What the disk does not decide: which calls fail, and after how many bytes or entries; the
order of a directory; the clock; the length it gives a directory itself; and how deep
directories can be copied before their names are too long. -/
structure Host where
  refuses : Disk → Call → Option Nat
  entryOrder : Arrangement Name
  now : Disk → Int
  directoryLength : Disk → Location → Nat
  nesting : Nat

/-- One thing after the other, up to the first that fails. -/
def inTurn {σ α : Type} (act : σ → α → Bool × σ) : List α → σ → Bool × σ
  | [], state => (true, state)
  | first :: rest, state =>
      match act state first with
      | (true, next) => inTurn act rest next
      | (false, next) => (false, next)

namespace Disk

def bare : Disk where
  node location := if location = [] then some ⟨.directory, none, none⟩ else none
  domain := [[]]
  covered location there := by
    by_cases root : location = []
    · exact root ▸ List.mem_cons_self ..
    · rw [if_neg root] at there
      cases there
  rooted := rfl
  closed location name there := by
    rw [if_neg (List.concat_ne_nil name location)] at there
    cases there
  workingDirectory := []
  calls := []

variable (disk : Disk)

def directoryAt (location : Location) : Bool := directoryIn disk.node location

def hasRoom (location : Location) : Bool :=
  location != [] && disk.directoryAt location.dropLast

def names (location : Location) : List Name :=
  (disk.domain.filterMap fun other =>
    if other.dropLast = location ∧ (disk.node other).isSome = true then other.getLast?
    else none).dedup

/-- Goes through components from a place on, each of which has to be taken from a directory. -/
def walk : Location → List Component → Option Location
  | here, [] => some here
  | _, .rootDir :: _ => none
  | here, .curDir :: rest => if disk.directoryAt here then walk here rest else none
  | here, .parentDir :: rest => if disk.directoryAt here then walk here.dropLast rest else none
  | here, .normal name :: rest =>
      if disk.directoryAt here then walk (here ++ [name]) rest else none

/-- The place a path leads to, whether or not anything lies there. -/
def locate (path : Path) : Option Location :=
  match path.components with
  | [] => none
  | .rootDir :: rest => disk.walk [] rest
  | first :: rest => disk.walk disk.workingDirectory (first :: rest)

def metadata (path : Path) : Option Node := (disk.locate path).bind disk.node

def present (path : Path) : Bool := (disk.metadata path).isSome

def isDirectory (path : Path) : Bool := (disk.metadata path).any Node.isDirectory

def canonicalize (path : Path) : Option Path :=
  match disk.locate path with
  | some location => if (disk.node location).isSome then some (.ofLocation location) else none
  | none => none

/-- Something new in a place, a directory for a directory. -/
def put (location : Location) (new : Node) (call : Call)
    (room : disk.hasRoom location = true)
    (stays : disk.directoryAt location = true → new.isDirectory = true) : Disk where
  node other := if other = location then some new else disk.node other
  domain := location :: disk.domain
  covered other there := by
    by_cases same : other = location
    · exact same ▸ List.mem_cons_self ..
    · rw [if_neg same] at there
      exact List.mem_cons_of_mem _ (disk.covered other there)
  rooted := by
    have below : ([] : Location) ≠ location := by
      rintro rfl
      simp [hasRoom] at room
    rw [directoryIn, if_neg below]
    exact disk.rooted
  closed other name there := by
    have parent : disk.directoryAt other = true := by
      by_cases same : other ++ [name] = location
      · rw [hasRoom, ← same, List.dropLast_concat, Bool.and_eq_true] at room
        exact room.2
      · rw [if_neg same] at there
        exact disk.closed other name there
    rw [directoryIn]
    by_cases same : other = location
    · rw [if_pos same]
      exact stays (same ▸ parent)
    · rw [if_neg same]
      exact parent
  workingDirectory := disk.workingDirectory
  calls := call :: disk.calls

/-- Nothing in a place that held nothing else. -/
def take (location : Location) (call : Call) (below : location ≠ [])
    (empty : ∀ name, (disk.node (location ++ [name])).isSome = false) : Disk where
  node other := if other = location then none else disk.node other
  domain := disk.domain
  covered other there := by
    by_cases same : other = location
    · rw [if_pos same] at there
      cases there
    · rw [if_neg same] at there
      exact disk.covered other there
  rooted := by
    rw [directoryIn, if_neg (Ne.symm below)]
    exact disk.rooted
  closed other name there := by
    by_cases gone : other ++ [name] = location
    · rw [if_pos gone] at there
      cases there
    · rw [if_neg gone] at there
      have different : other ≠ location := by
        rintro rfl
        exact absurd there (Bool.eq_false_iff.mp (empty name))
      rw [directoryIn, if_neg different]
      exact disk.closed other name there
  workingDirectory := disk.workingDirectory
  calls := call :: disk.calls

def shift (source target : Location) (call : Call) (below : source ≠ [])
    (room : disk.hasRoom target = true) (apart : ¬ source <+: target) : Disk where
  node other :=
    if target <+: other then disk.node (source ++ other.drop target.length)
    else if source <+: other then none
    else disk.node other
  domain := disk.domain ++ disk.domain.map fun other => target ++ other.drop source.length
  covered other there := by
    by_cases moved : target <+: other
    · rw [if_pos moved] at there
      apply List.mem_append_right
      have known := List.mem_map_of_mem (f := fun old => target ++ old.drop source.length)
        (disk.covered _ there)
      rw [List.drop_left] at known
      obtain ⟨rest, rfl⟩ := moved
      rwa [List.drop_left] at known
    · rw [if_neg moved] at there
      by_cases left : source <+: other
      · rw [if_pos left] at there
        cases there
      · rw [if_neg left] at there
        exact List.mem_append_left _ (disk.covered other there)
  rooted := by
    have kept : ¬ target <+: [] := by
      rw [List.prefix_nil]
      rintro rfl
      simp [hasRoom] at room
    have stays : ¬ source <+: [] := by
      rw [List.prefix_nil]
      exact below
    rw [directoryIn, if_neg kept, if_neg stays]
    exact disk.rooted
  closed other name there := by
    by_cases moved : target <+: other
    · have further : target <+: other ++ [name] := moved.trans (List.prefix_append ..)
      rw [if_pos further, List.drop_append_of_le_length moved.length_le, ← List.append_assoc]
        at there
      rw [directoryIn, if_pos moved]
      exact disk.closed _ name there
    · have parent : disk.directoryAt other = true ∧ ¬ source <+: other := by
        by_cases further : target <+: other ++ [name]
        · have same : target = other ++ [name] := by
            rcases List.prefix_concat_iff.mp further with same | shorter
            · exact same
            · exact absurd shorter moved
          rw [hasRoom, same, List.dropLast_concat, Bool.and_eq_true] at room
          exact ⟨room.2, fun inside =>
            apart (same ▸ inside.trans (List.prefix_append ..))⟩
        · rw [if_neg further] at there
          by_cases left : source <+: other ++ [name]
          · rw [if_pos left] at there
            cases there
          · rw [if_neg left] at there
            exact ⟨disk.closed other name there, fun inside =>
              left (inside.trans (List.prefix_append ..))⟩
      rw [directoryIn, if_neg moved, if_neg parent.2]
      exact parent.1
  workingDirectory := disk.workingDirectory
  calls := call :: disk.calls

end Disk

end Files
