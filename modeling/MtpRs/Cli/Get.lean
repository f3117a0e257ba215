import MtpRs.Cli.Path
import MtpRs.Lib.Paths

set_option autoImplicit false

/- The download of a whole folder: what it plans to write, before it writes anything. -/
namespace Cli

open Attempts (Attempt)
open Files (Name Path)
open Mtp (EntryCollection Error ObjectEntry ObjectHandle)

/-- One object the device listed but refused to describe. -/
structure SkippedRow where
  remoteFolder : String
  handle : ObjectHandle
  error : String

structure PlannedFolder where
  remotePath : String
  localPath : Path

structure PlannedFile where
  handle : ObjectHandle
  remotePath : String
  localPath : Path

/-- Everything a folder download will write. -/
structure FolderPlan where
  folders : List PlannedFolder
  files : List PlannedFile
  skipped : List SkippedRow

def FolderPlan.empty : FolderPlan := ⟨[], [], []⟩

/-- Every planned folder and file, by its remote and its local path. -/
def FolderPlan.entries (self : FolderPlan) : List (String × Path) :=
  self.folders.map (fun folder => (folder.remotePath, folder.localPath)) ++
    self.files.map fun file => (file.remotePath, file.localPath)

def isWindowsReserved (c : Char) : Bool :=
  ['<', '>', ':', '\x22', '|', '?', '*'].contains c || c.val < 0x20

def isPortNumber : List Char → Bool
  | [c] => c.isDigit || ['¹', '²', '³'].contains c
  | _ => false

def localNameProblem (name : String) (windows : Bool) : Option String :=
  if name = "" then some "empty"
  else if name = "." ∨ name = ".." then some "`.` and `..` aren't names"
  else if holdsChar name '/' || holdsChar name '\\' then some "contains a path separator"
  else if holdsChar name '\x00' then some "contains a null byte"
  else if !windows then none
  else if name.toList.any isWindowsReserved then
    some "contains a character Windows doesn't allow"
  else if name.toList.getLast? = some '.' ∨ name.toList.getLast? = some ' ' then
    some "ends with a dot or space, which Windows drops"
  else
    let stem := (name.toList.takeWhile (· != '.')).map Char.toUpper
    let port := (stem.dropPrefix? "COM".toList).or (stem.dropPrefix? "LPT".toList)
    if ["CON", "PRN", "AUX", "NUL"].contains (String.ofList stem) ||
        port.any (fun number => isPortNumber number) then
      some "a reserved device name on Windows"
    else none

/-- A folder still to list, and the two paths it has. -/
structure Visit where
  parent : Option ObjectHandle
  remoteFolder : String
  localFolder : Path

def Visit.remotePath (self : Visit) (name : String) : String :=
  if self.remoteFolder = "/" then "/" ++ name else self.remoteFolder ++ "/" ++ name

def Visit.localPath (self : Visit) (name : String) : Path := self.localFolder.join (.ofString name)

section

variable {σ : Type} (collectObjects : Option ObjectHandle → Attempt σ Error EntryCollection)
  (settings : Settings) (windows : Bool) (debug : String → String)

def unusableName (visit : Visit) (problem name : String) : CliError :=
  .new .remotePath ("remote object in " ++ visit.remoteFolder ++
    " has a name that can't be used locally (" ++ problem ++ "): " ++ debug name)

/-- The objects of one folder, put into the plan; what is a folder itself is still to visit. -/
def planObjects (visit : Visit) : List ObjectEntry → FolderPlan → List Visit →
    Except CliError (FolderPlan × List Visit)
  | [], plan, toVisit => .ok (plan, toVisit)
  | object :: rest, plan, toVisit =>
      match localNameProblem object.filename windows with
      | some problem => .error (unusableName debug visit problem object.filename)
      | none =>
          let remotePath := visit.remotePath object.filename
          let localPath := visit.localPath object.filename
          if object.isFolder then
            planObjects visit rest
              { plan with folders := plan.folders ++ [⟨remotePath, localPath⟩] }
              (⟨some object.handle, remotePath, localPath⟩ :: toVisit)
          else
            planObjects visit rest
              { plan with files := plan.files ++ [⟨object.handle, remotePath, localPath⟩] } toVisit

def FolderPlan.addSkipped (self : FolderPlan) (visit : Visit) (collection : EntryCollection) :
    FolderPlan :=
  { self with
    skipped := self.skipped ++ collection.skipped.map fun skipped =>
      ⟨visit.remoteFolder, skipped.handle, skipped.error.text⟩ }

/-- The loop of `walk_folder`, the folder listed next in front. None is a loop out of fuel. -/
def walkFolders : Nat → List Visit → FolderPlan → σ → Option (Except CliError FolderPlan × σ)
  | _, [], plan, state => some (.ok plan, state)
  | 0, _ :: _, _, _ => none
  | fuel + 1, visit :: toVisit, plan, state =>
      match request settings ("list " ++ visit.remoteFolder) (collectObjects visit.parent)
        state with
      | (.error e, state) => some (.error e, state)
      | (.ok collection, state) =>
          match planObjects windows debug visit collection.objects
              (plan.addSkipped visit collection) toVisit with
          | .error e => some (.error e, state)
          | .ok (plan, toVisit) => walkFolders fuel toVisit plan state

def walkFolder (root : Option ObjectHandle) (remoteRoot : String) (localRoot : Path) (fuel : Nat)
    (state : σ) : Option (Except CliError FolderPlan × σ) :=
  walkFolders collectObjects settings windows debug fuel [⟨root, remoteRoot, localRoot⟩] .empty
    state

end

section

variable (lower : String → String) (caseInsensitive : Bool)

def comparedName (name : String) : String := if caseInsensitive then lower name else name

/-- What an entry is looked up by: its folder as it is, and its name as it is compared. -/
def collisionKey (localPath : Path) : Option Path × String :=
  (localPath.parent,
    comparedName lower caseInsensitive ((localPath.fileName.map Name.text).getD ""))

/-- The loop of `find_collision`, over the entries seen. -/
def findCollisionAmong : List ((Option Path × String) × String) → List (String × Path) →
    Option (String × String)
  | _, [] => none
  | seen, (remotePath, localPath) :: rest =>
      match seen.lookup (collisionKey lower caseInsensitive localPath) with
      | some first => some (first, remotePath)
      | none =>
          findCollisionAmong ((collisionKey lower caseInsensitive localPath, remotePath) :: seen)
            rest
termination_by structural _ entries => entries

def findCollision (entries : List (String × Path)) : Option (String × String) :=
  findCollisionAmong lower caseInsensitive [] entries

/-- `check_no_collisions`, over what the probe of the destination found. -/
def checkNoCollisions (probed : Except String Bool) (shownRoot : String) (plan : FolderPlan) :
    Except CliError Unit :=
  match probed with
  | .error e => .error (.new .other ("check local folder " ++ shownRoot ++ ": " ++ e))
  | .ok caseInsensitive =>
      match findCollision lower caseInsensitive plan.entries with
      | some (first, second) =>
          .error (.new .remotePath (first ++ " and " ++ second ++
            " would be saved to the same local path; nothing was downloaded"))
      | none => .ok ()

variable {lower} in
theorem findCollision_of_checkNoCollisions {probed : Except String Bool} {shownRoot : String}
    {plan : FolderPlan} (passes : checkNoCollisions lower probed shownRoot plan = .ok ()) :
    ∃ caseInsensitive, probed = .ok caseInsensitive ∧
      findCollision lower caseInsensitive plan.entries = none := by
  unfold checkNoCollisions at passes
  cases probed with
  | error e => cases passes
  | ok caseInsensitive =>
      refine ⟨caseInsensitive, rfl, ?_⟩
      cases found : findCollision lower caseInsensitive plan.entries with
      | none => rfl
      | some both =>
          simp only [found] at passes
          cases passes

end

example : (findCollision (fun name => String.ofList (name.toList.map Char.toLower)) true
    [("/DCIM/IMG.jpg", .ofString "out/IMG.jpg"), ("/DCIM/img.JPG", .ofString "out/img.JPG")]) =
      some ("/DCIM/IMG.jpg", "/DCIM/img.JPG") := by decide

end Cli
