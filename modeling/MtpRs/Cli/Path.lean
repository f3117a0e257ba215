import Mathlib.Data.List.Basic
import MtpRs.Cli.Error

set_option autoImplicit false

/- Paths on a device, and the objects they lead to. -/
namespace Cli

open Attempts (Attempt)
open Mtp (ObjectEntry ObjectHandle Storage)

structure RemotePath where
  raw : String
  components : List String
  trailingSlash : Bool
deriving DecidableEq, Repr

/-- `contains` of a character. -/
def holdsChar (text : String) (c : Char) : Bool := text.toList.contains c

def validateComponent (component : String) : Except CliError Unit :=
  if component = "" ∨ component = "." ∨ component = ".." then
    .error (.new .remotePath ("invalid remote path component '" ++ component ++ "'"))
  else if holdsChar component '/' || holdsChar component '\\' || holdsChar component '\x00' then
    .error (.new .remotePath ("invalid remote filename '" ++ component ++ "'"))
  else .ok ()

namespace RemotePath

/-- The pieces between separators, without the empty ones. -/
def pieces (path : String) : List String :=
  ((path.toList.splitOn '/').filter (· != [])).map String.ofList

def parse (path : String) : Except CliError RemotePath :=
  if path.toList.head? ≠ some '/' then
    .error (.new .remotePath "remote path must be absolute, for example /Music/song.mp3")
  else do
    (pieces path).forM validateComponent
    return {
      raw := path
      components := pieces path
      trailingSlash := path != "/" && path.toList.getLast? == some '/' }

def isRoot (self : RemotePath) : Bool := self.components.isEmpty

end RemotePath

inductive ExistingRemote where
  | root
  | object (object : ObjectEntry)
deriving DecidableEq, Repr

structure UploadTarget where
  parent : Option ObjectHandle
  filename : String
  existing : Option ObjectEntry
deriving DecidableEq, Repr

section

variable {σ : Type} (storage : Storage σ) (settings : Settings)

def walkComponents (path : RemotePath) :
    Option ObjectHandle → String → List String → Attempt σ CliError ObjectEntry
  | parent, component, rest => do
      let objects ← request settings "list remote folder" (storage.listObjects parent)
      match objects.find? (·.filename == component) with
      | none => Attempt.fail (.new .remotePath ("remote path not found: " ++ path.raw))
      | some object =>
          match rest with
          | [] => Attempt.done object
          | next :: rest =>
              if object.isFolder then walkComponents path (some object.handle) next rest
              else
                Attempt.fail
                  (.new .remotePath ("remote parent is not a folder: " ++ object.filename))
termination_by structural _ _ rest => rest

def resolveExisting (path : RemotePath) : Attempt σ CliError ExistingRemote :=
  match path.components with
  | [] => Attempt.done .root
  | component :: rest => do
      let object ← walkComponents storage settings path none component rest
      return .object object

def parentRawFromComponents (components : List String) : String :=
  if components.isEmpty then "/" else "/" ++ "/".intercalate components

/-- A folder by its path, the root as none; what else is there is refused with this message. -/
def resolveFolder (path : RemotePath) (notFolder : String) :
    Attempt σ CliError (Option ObjectHandle) := do
  match ← resolveExisting storage settings path with
  | .root => Attempt.done none
  | .object object =>
      if object.isFolder then Attempt.done (some object.handle)
      else Attempt.fail (.new .remotePath notFolder)

def resolveUploadTarget (remotePath : RemotePath) (localFilename : String) :
    Attempt σ CliError UploadTarget :=
  if remotePath.isRoot then Attempt.done ⟨none, localFilename, none⟩
  else do
    let components :=
      if remotePath.trailingSlash then remotePath.components else remotePath.components.dropLast
    let finalName :=
      if remotePath.trailingSlash then localFilename
      else remotePath.components.getLast?.getD ""
    Attempt.lift (validateComponent finalName)
    let parentPath : RemotePath := ⟨parentRawFromComponents components, components, false⟩
    let parent ← resolveFolder storage settings parentPath "remote parent is not a folder"
    let objects ← request settings "list remote folder" (storage.listObjects parent)
    match objects.find? fun object => object.filename == finalName && object.isFolder with
    | some existingFolder => return ⟨some existingFolder.handle, localFilename, none⟩
    | none =>
        return {
          parent
          filename := finalName
          existing := objects.find? fun object => object.filename == finalName && !object.isFolder }

def existingObject (path : RemotePath) : Attempt σ CliError ObjectEntry := do
  match ← resolveExisting storage settings path with
  | .root => Attempt.fail (.new .remotePath "remote path cannot be the storage root")
  | .object object => Attempt.done object

def resolveObjectDestination (destinationPath : RemotePath) (sourceFilename : String) :
    Attempt σ CliError UploadTarget :=
  resolveUploadTarget storage settings destinationPath sourceFilename

def ensureRenameSupported : Except CliError Unit :=
  if storage.backend.supportsRename then .ok ()
  else
    .error (.new .transfer
      "device does not support rename; cannot change the destination filename")

/-- What a command that puts one object in a place has resolved. -/
structure Prepared where
  sourcePath : RemotePath
  destinationPath : RemotePath
  source : ObjectEntry
  target : UploadTarget

def Prepared.renamed (self : Prepared) : Bool := self.target.filename != self.source.filename

/-- How `mv` and `cp` begin. -/
def prepare (source destination : String) : Attempt σ CliError Prepared := do
  let sourcePath ← Attempt.lift (RemotePath.parse source)
  let destinationPath ← Attempt.lift (RemotePath.parse destination)
  let source ← existingObject storage settings sourcePath
  let target ← resolveObjectDestination storage settings destinationPath source.filename
  let prepared : Prepared := ⟨sourcePath, destinationPath, source, target⟩
  Attempt.lift (if prepared.renamed then ensureRenameSupported storage else .ok ())
  return prepared

def ensureNotSameObject (source destination : ObjectHandle) : Except CliError Unit :=
  if source = destination then
    .error (.new .remotePath "source and destination are the same remote object")
  else .ok ()

/-- What stands in the way is deleted where that was asked for. -/
def replaceExisting (source : ObjectHandle) (replace : Bool) :
    Option ObjectEntry → Attempt σ CliError Unit
  | none => Attempt.done ()
  | some existing => do
      Attempt.lift (ensureNotSameObject source existing.handle)
      if replace then
        request settings "delete existing destination" (storage.delete existing.handle)
      else
        Attempt.fail
          (.new .remotePath "destination already exists; pass --replace to delete it first")

/-- An object gets the name of its destination where that is another one. -/
def renameWhere (context : String) (renamed : Bool) (handle : ObjectHandle) (filename : String) :
    Attempt σ CliError Unit :=
  if renamed then request settings context (storage.rename handle filename) else Attempt.done ()

end

end Cli
