import MtpRs.VirtualDevice.Handlers

set_option autoImplicit false

/- What the device makes of changes to its backing directories that it did not make itself. -/
namespace VirtualDevice

open Files (Disk Path)

/-- The events of the file system the watcher looks at. A rename is told from its target or its
source, or left open. -/
inductive EventKind where
  | create
  | remove
  | renameTo
  | renameFrom
  | renameAny
  | other
deriving DecidableEq, Repr

def droppedPathsCap : Nat := 1024

def findStorageForPath (path : Path) (storages : List (Path × UInt32)) : Option (UInt32 × Path) :=
  match storages.find? fun storage => path.startsWith storage.1 with
  | none => none
  | some (dir, storageId) => (path.stripPrefix dir).map fun relPath => (storageId, relPath)

namespace VirtualDeviceState

/-- The handle of the folder a new path lies in. An unknown folder counts as the root. -/
def parentOf (host : Host) (self : VirtualDeviceState) (storageId : UInt32) (relPath : Path) :
    UInt32 :=
  match relPath.parent with
  | none => handleRoot
  | some parentRel =>
      if parentRel = .empty then handleRoot
      else (self.handleAt host storageId parentRel).getD handleRoot

def notifyCreated (host : Host) (self : VirtualDeviceState) (storageId : UInt32)
    (relPath : Path) : VirtualDeviceState :=
  match self.handleAt host storageId relPath with
  | some _ => self
  | none =>
      let parent := self.parentOf host storageId relPath
      let (handle, allocated) := self.allocHandle
      ((allocated.track handle ⟨relPath, storageId, parent⟩).queueEvent .objectAdded
        [handle]).queueEvent .storageInfoChanged [storageId]

def notifyRemoved (host : Host) (self : VirtualDeviceState) (storageId : UInt32)
    (relPath : Path) : VirtualDeviceState :=
  match self.handleAt host storageId relPath with
  | none => self
  | some handle =>
      ({ self with objects := self.objects.erase handle }.queueEvent .objectRemoved
        [handle]).queueEvent .storageInfoChanged [storageId]

def notifyPath (host : Host) (storages : List (Path × UInt32)) (kind : EventKind)
    (self : VirtualDeviceState) (path : Path) : VirtualDeviceState :=
  let canonical := (self.disk.canonicalize path).getD path
  let isCreate : Bool :=
    match kind with
    | .renameAny => self.disk.present path
    | kind => kind == .create || kind == .renameTo
  match findStorageForPath canonical storages with
  | none => self
  | some (storageId, relPath) =>
      if relPath = .empty then self
      else if 0 < self.pauseCount then
        let dropped := self.droppedPaths ++ [canonical]
        { self with
          droppedPaths := if droppedPathsCap < dropped.length then dropped.drop 1 else dropped }
      else if isCreate then self.notifyCreated host storageId relPath
      else self.notifyRemoved host storageId relPath

def handleNotifyEvent (host : Host) (storages : List (Path × UInt32)) (kind : EventKind)
    (paths : List Path) (self : VirtualDeviceState) : VirtualDeviceState :=
  if kind = .other then self else paths.foldl (notifyPath host storages kind) self

end VirtualDeviceState

end VirtualDevice
