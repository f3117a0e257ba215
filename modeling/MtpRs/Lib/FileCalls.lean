import MtpRs.Lib.Disk

set_option autoImplicit false

/- The calls on files and directories, and what is built of them. -/
namespace Files

namespace Disk

theorem mem_names {disk : Disk} {location : Location} {name : Name} :
    name ∈ disk.names location ↔ (disk.node (location ++ [name])).isSome = true := by
  rw [names, List.mem_dedup, List.mem_filterMap]
  constructor
  · rintro ⟨other, -, entry⟩
    split at entry
    · next here =>
        obtain ⟨rest, rfl⟩ := List.getLast?_eq_some_iff.mp entry
        rw [List.dropLast_concat] at here
        exact here.1 ▸ here.2
    · cases entry
  · intro there
    refine ⟨location ++ [name], disk.covered _ there, ?_⟩
    rw [if_pos ⟨List.dropLast_concat, there⟩, List.getLast?_concat]

theorem names_eq_nil {disk : Disk} {location : Location} (none : disk.names location = [])
    (name : Name) : (disk.node (location ++ [name])).isSome = false := by
  rw [Bool.eq_false_iff]
  intro there
  have listed := mem_names.mpr there
  rw [none] at listed
  exact absurd listed List.not_mem_nil

/-- Nothing lies below what is no directory. -/
theorem names_of_file {disk : Disk} {location : Location}
    (file : disk.directoryAt location = false) (name : Name) :
    (disk.node (location ++ [name])).isSome = false := by
  rw [Bool.eq_false_iff]
  intro there
  exact Bool.eq_false_iff.mp file (disk.closed location name there)

end Disk

namespace Host

variable (host : Host)

/-- The entries of a directory as far as they can be read, and whether that was all of them. -/
def readDirAt (disk : Disk) (location : Location) : Option (List Name × Bool) :=
  if disk.directoryAt location then
    let entries := host.entryOrder.arrange (disk.names location)
    match host.refuses disk (.readDir location) with
    | none => some (entries, true)
    | some 0 => none
    | some (count + 1) => some (entries.take count, false)
  else none

def readDir (disk : Disk) (path : Path) : Option (List Name × Bool) :=
  (disk.locate path).bind (host.readDirAt disk)

/-- The length in a path's metadata, where something is there. -/
def length (disk : Disk) (path : Path) : Option Nat :=
  match disk.locate path with
  | none => none
  | some location =>
      (disk.node location).map fun node =>
        match node.content with
        | .directory => host.directoryLength disk location
        | .file bytes => bytes.length

/-- The bytes of a file: `fs::read`. -/
def read (disk : Disk) (path : Path) : Option (List UInt8) :=
  match disk.locate path with
  | none => none
  | some location =>
      match disk.node location with
      | some ⟨.file bytes, _, _⟩ =>
          if host.refuses disk (.read location) = none then some bytes else none
      | _ => none

def mkdirAt (disk : Disk) (location : Location) : Option Disk :=
  if ready : disk.hasRoom location = true ∧ disk.directoryAt location = false ∧
      (disk.node location).isNone = true ∧ host.refuses disk (.mkdir location) = none then
    some (disk.put location ⟨.directory, some (host.now disk), some (host.now disk)⟩
      (.mkdir location) ready.1 fun _ => rfl)
  else none

/-- `create_dir_all`: every directory on the way that is not there, from the top. -/
def createDirAll (disk : Disk) (path : Path) : Bool × Disk :=
  inTurn (fun disk components =>
    if disk.isDirectory ⟨components⟩ then (true, disk)
    else
      match (disk.locate ⟨components⟩).bind (host.mkdirAt disk) with
      | some made => (true, made)
      | none => (false, disk)) path.components.inits.tail disk

/-- A file opened for writing: a new one is empty, an old one is cut to nothing or kept. -/
def openAt (disk : Disk) (location : Location) (truncate : Bool) : Option Disk :=
  if ready : disk.hasRoom location = true ∧ disk.directoryAt location = false ∧
      host.refuses disk (.open location) = none then
    let opened : Node :=
      match disk.node location with
      | some ⟨.file bytes, created, modified⟩ =>
          if truncate then ⟨.file [], created, some (host.now disk)⟩
          else ⟨.file bytes, created, modified⟩
      | _ => ⟨.file [], some (host.now disk), some (host.now disk)⟩
    some (disk.put location opened (.open location) ready.1 fun isDirectory =>
      absurd isDirectory (Bool.eq_false_iff.mp ready.2.1))
  else none

/-- Bytes written from the start of an open file: what lies after them stays. -/
def storeAt (disk : Disk) (location : Location) (bytes : List UInt8) : Bool × Disk :=
  if ready : disk.hasRoom location = true ∧ disk.directoryAt location = false then
    match disk.node location with
    | some ⟨.file before, created, _⟩ =>
        let written := bytes.take ((host.refuses disk (.write location)).getD bytes.length)
        ((host.refuses disk (.write location)).isNone,
          disk.put location
            ⟨.file (written ++ before.drop written.length), created, some (host.now disk)⟩
            (.write location) ready.1 fun isDirectory =>
              absurd isDirectory (Bool.eq_false_iff.mp ready.2))
    | _ => (false, disk)
  else (false, disk)

/-- `fs::write`. -/
def write (disk : Disk) (path : Path) (bytes : List UInt8) : Bool × Disk :=
  match disk.locate path with
  | none => (false, disk)
  | some location =>
      match host.openAt disk location true with
      | none => (false, disk)
      | some opened => host.storeAt opened location bytes

/-- `File::set_modified`, of a file opened for writing. -/
def setModified (disk : Disk) (path : Path) (time : Int) : Option Disk :=
  match disk.locate path with
  | none => none
  | some location =>
      if ready : disk.hasRoom location = true ∧ disk.directoryAt location = false ∧
          host.refuses disk (.setModified location) = none then
        match disk.node location with
        | some ⟨.file bytes, created, _⟩ =>
            some (disk.put location ⟨.file bytes, created, some time⟩ (.setModified location)
              ready.1 fun isDirectory => absurd isDirectory (Bool.eq_false_iff.mp ready.2.1))
        | _ => none
      else none

/-- `fs::rename`: over a file or an empty directory, if it is one itself. -/
def renameAt (disk : Disk) (source target : Location) : Option Disk :=
  if (disk.node source).isNone then none
  else if source = target then some disk
  else if ready : (source ≠ [] ∧ disk.hasRoom target = true ∧ ¬ source <+: target) ∧
      (disk.directoryAt source = true → (disk.node target).isSome = true →
        disk.directoryAt target = true ∧ disk.names target = []) ∧
      (disk.directoryAt source = false → disk.directoryAt target = false) ∧
      host.refuses disk (.rename source target) = none then
    some (disk.shift source target (.rename source target) ready.1.1 ready.1.2.1 ready.1.2.2)
  else none

def rename (disk : Disk) (source target : Path) : Option Disk :=
  match disk.locate source, disk.locate target with
  | some source, some target => host.renameAt disk source target
  | _, _ => none

def unlinkAt (disk : Disk) (location : Location) : Bool × Disk :=
  if ready : (location ≠ [] ∧ disk.directoryAt location = false) ∧
      (disk.node location).isSome = true ∧ host.refuses disk (.unlink location) = none then
    (true, disk.take location (.unlink location) ready.1.1 (Disk.names_of_file ready.1.2))
  else (false, disk)

def rmdirAt (disk : Disk) (location : Location) : Bool × Disk :=
  if ready : (location ≠ [] ∧ disk.names location = []) ∧
      disk.directoryAt location = true ∧ host.refuses disk (.rmdir location) = none then
    (true, disk.take location (.rmdir location) ready.1.1 (Disk.names_eq_nil ready.1.2))
  else (false, disk)

/-- A directory and all below it, what it holds first. -/
def removeTreeAt : Nat → Disk → Location → Bool × Disk
  | 0, disk, _ => (false, disk)
  | fuel + 1, disk, location =>
      match host.readDirAt disk location with
      | none => (false, disk)
      | some (entries, complete) =>
          match inTurn (fun disk name =>
            if disk.directoryAt (location ++ [name]) then
              removeTreeAt fuel disk (location ++ [name])
            else host.unlinkAt disk (location ++ [name])) entries disk with
          | (true, emptied) => if complete then host.rmdirAt emptied location else (false, emptied)
          | (false, left) => (false, left)

/-- `remove_dir_all`. No directory is deeper than there are places. -/
def removeDirAll (disk : Disk) (path : Path) : Bool × Disk :=
  match disk.locate path with
  | none => (false, disk)
  | some location => host.removeTreeAt (disk.domain.length + 1) disk location

def removeFile (disk : Disk) (path : Path) : Bool × Disk :=
  match disk.locate path with
  | none => (false, disk)
  | some location => host.unlinkAt disk location

/-- The bytes of one file written into another that is opened first. -/
def copyBytes (disk : Disk) (source target : Path) (truncate : Bool) : Bool × Disk :=
  match host.read disk source, disk.locate target with
  | some _, some location =>
      match host.openAt disk location truncate with
      | none => (false, disk)
      | some opened =>
          -- An old target that is the source has been cut by now.
          match host.read opened source with
          | none => (false, opened)
          | some bytes => host.storeAt opened location bytes
  | _, _ => (false, disk)

/-- `fs::copy`. -/
def copy (disk : Disk) (source target : Path) : Bool × Disk :=
  host.copyBytes disk source target true

end Host

end Files
