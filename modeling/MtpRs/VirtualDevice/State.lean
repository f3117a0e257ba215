import MtpRs.Lib.FileCalls
import MtpRs.Mtp.ObjectBytes
import MtpRs.Ptp.Calendar
import MtpRs.Ptp.Container

set_option autoImplicit false

/- The virtual device: objects tracked by handle, each a file or folder under the directory that
backs its storage. -/
namespace VirtualDevice

open Ptp (Bytes ContainerType EventCode ObjectPropertyCode UtcOffset headerSize packHeader packU32)
open Files (Disk Name Path)

def handleRoot : UInt32 := 0

def handleAll : UInt32 := 0xFFFFFFFF

def handleSendRoot : UInt32 := 0xFFFFFFFF

def buildResponse (code : UInt16) (txId : UInt32) (params : List UInt32) : Bytes :=
  packHeader ⟨UInt32.ofNat (headerSize + params.length * 4), ContainerType.response.toCode, code,
    txId⟩ ++ params.flatMap packU32

def buildDataContainer (opCode : UInt16) (txId : UInt32) (payload : Bytes) : Bytes :=
  packHeader ⟨UInt32.ofNat (headerSize + payload.length), ContainerType.data.toCode, opCode,
    txId⟩ ++ payload

def buildEvent (code : EventCode) (params : List UInt32) : Bytes :=
  let sent := params.take 3
  packHeader ⟨UInt32.ofNat (headerSize + sent.length * 4), ContainerType.event.toCode,
    code.toCode, 0⟩ ++ sent.flatMap packU32

structure VirtualStorageConfig where
  description : String
  capacity : UInt64
  backingDir : Path
  readOnly : Bool

structure VirtualDeviceConfig where
  manufacturer : String
  model : String
  serial : String
  storages : List VirtualStorageConfig
  supportsRename : Bool
  supportsPartialObject64 : Bool
  supportsPartialObject : Bool
  supportsObjectPropList : Bool
  propListDeclinedProperties : List ObjectPropertyCode
  undescribableObjects : List String
  utcOffset : UtcOffset
  datesIncludeOffset : Bool

structure VirtualStorageState where
  config : VirtualStorageConfig
  storageId : UInt32

/-- A tracked file or directory, its path relative to the backing directory. -/
structure VirtualObject where
  relPath : Path
  storageId : UInt32
  parent : UInt32
deriving DecidableEq

abbrev Objects := AList fun _ : UInt32 => VirtualObject

/-- An upload between `SendObjectInfo` and `SendObject`. -/
structure PendingSendInfo where
  storageId : UInt32
  parent : UInt32
  filename : String
  size : Nat
  isFolder : Bool
  assignedHandle : UInt32
  modified : Option Int

structure PendingCommand where
  code : UInt16
  txId : UInt32
  params : List UInt32

/-- The device's state, with the disk it works on. Handles are counted without end: the one
handed out is the count's low 32 bits. -/
structure VirtualDeviceState where
  config : VirtualDeviceConfig
  sessionOpen : Bool
  nextHandle : Nat
  objects : Objects
  storages : List VirtualStorageState
  pendingSend : Option PendingSendInfo
  pendingCommand : Option PendingCommand
  eventQueue : List Bytes
  responseQueue : List Bytes
  pauseCount : Nat
  droppedPaths : List Path
  forcedPartialReadCaps : List Nat
  pendingOperationWedge : Bool
  forcedObjectInfoErrors : AList fun _ : UInt32 => UInt16
  disk : Disk

/-- What neither the device nor the disk decides: the host's calls, and the order in which a
hash map or a hash set is gone through. -/
structure Host where
  files : Files.Host
  /-- Whether a file can be read from an offset on. -/
  seeks : Disk → Path → Nat → Bool
  /-- How many of the bytes asked for from an offset on one read gives, unless it fails. -/
  brings : Disk → Path → Nat → Nat → Option Nat
  objectOrder : Arrangement (Σ _ : UInt32, VirtualObject)
  storageOrder : Arrangement UInt32

/-- A host that refuses nothing and keeps every order. No file has bytes beyond the largest signed
offset, and one read gives at most 0x7ffff000. -/
def Host.usual : Host where
  files := ⟨fun _ _ => none, .asIs, fun _ => 0, fun _ _ => 0, 16⟩
  seeks _ _ offset := decide (offset < 2 ^ 63)
  brings _ _ _ count := some (min count 0x7ffff000)
  objectOrder := .asIs
  storageOrder := .asIs

namespace VirtualStorageState

/-- The backing directory in the form the host gives it, where it is there. -/
def resolve (disk : Disk) (index : Nat) (config : VirtualStorageConfig) : VirtualStorageState :=
  ⟨{ config with backingDir := (disk.canonicalize config.backingDir).getD config.backingDir },
    0x00010001 + UInt32.ofNat index⟩

end VirtualStorageState

namespace VirtualDeviceState

def new (config : VirtualDeviceConfig) (disk : Disk) : VirtualDeviceState where
  config := config
  sessionOpen := false
  nextHandle := 1
  objects := ∅
  storages := config.storages.mapIdx (VirtualStorageState.resolve disk)
  pendingSend := none
  pendingCommand := none
  eventQueue := []
  responseQueue := []
  pauseCount := 0
  droppedPaths := []
  forcedPartialReadCaps := []
  pendingOperationWedge := false
  forcedObjectInfoErrors := ∅
  disk := disk

variable (host : Host) (self : VirtualDeviceState)

def allocHandle : UInt32 × VirtualDeviceState :=
  (UInt32.ofNat self.nextHandle, { self with nextHandle := self.nextHandle + 1 })

/-- `objects.insert`. -/
def track (handle : UInt32) (object : VirtualObject) : VirtualDeviceState :=
  { self with objects := self.objects.insert handle object }

def queueEvent (code : EventCode) (params : List UInt32) : VirtualDeviceState :=
  { self with eventQueue := self.eventQueue ++ [buildEvent code params] }

def findStorage (id : UInt32) : Option VirtualStorageState :=
  self.storages.find? fun storage => storage.storageId == id

def handleAt (storageId : UInt32) (relPath : Path) : Option UInt32 :=
  (host.objectOrder.find? (fun entry => entry.2.storageId == storageId &&
    entry.2.relPath == relPath) self.objects.entries).map Sigma.fst

/-- The object at a path gets a new handle; what lies in it follows. -/
def rekeyObject (relPath : Path) : Option (UInt32 × UInt32) × VirtualDeviceState :=
  match host.objectOrder.find? (fun entry => entry.2.relPath == relPath) self.objects.entries with
  | none => (none, self)
  | some ⟨oldKey, obj⟩ =>
      let (newHandle, allocated) := self.allocHandle
      let moved := (allocated.objects.erase oldKey).insert newHandle obj
      let reparented := moved.mapValues fun _ child =>
        if child.parent = oldKey then { child with parent := newHandle } else child
      (some (oldKey, newHandle), { allocated with objects := reparented })

/-- The relative path of an entry of a folder that is tracked, or of the root. -/
def entryPath (parent : UInt32) (name : Name) : Path :=
  if parent = handleRoot then ⟨[.normal name]⟩
  else
    match self.objects.lookup parent with
    | some parentObj => parentObj.relPath.child name
    | none => ⟨[.normal name]⟩

/-- The loop of `scan_dir`: the handle of each entry, a new one where it is not tracked. -/
def scanEntries (storageId parent : UInt32) :
    List Name → VirtualDeviceState → List UInt32 × VirtualDeviceState
  | [], self => ([], self)
  | fileName :: rest, self =>
      let rel := self.entryPath parent fileName
      match self.handleAt host storageId rel with
      | some handle =>
          let (handles, after) := scanEntries storageId parent rest self
          (handle :: handles, after)
      | none =>
          let (handle, allocated) := self.allocHandle
          let (handles, after) :=
            scanEntries storageId parent rest (allocated.track handle ⟨rel, storageId, parent⟩)
          (handle :: handles, after)

/-- The directory a listing of a parent reads. -/
def scannedDir (storage : VirtualStorageState) (parent : UInt32) : Option Path :=
  if parent = handleRoot then some storage.config.backingDir
  else
    match self.objects.lookup parent with
    | some obj =>
        if obj.storageId = storage.storageId then some (storage.config.backingDir.join obj.relPath)
        else none
    | none => none

def scanDir (storageId parent : UInt32) : Option (List UInt32) × VirtualDeviceState :=
  match self.findStorage storageId with
  | none => (none, self)
  | some storage =>
      match self.scannedDir storage parent with
      | none => (some [], self)
      | some dirPath =>
          if self.disk.isDirectory dirPath then
            match host.files.readDir self.disk dirPath with
            | none => (none, self)
            | some (entries, complete) =>
                let (handles, after) := scanEntries host storageId parent entries self
                (if complete then some handles else none, after)
          else (some [], self)

/-- The loop of `scan_all`, the folder to look into next on top of the stack. It gives up when
the fuel ends first. -/
def scanFolders (storageId : UInt32) : Nat → List UInt32 → List UInt32 → VirtualDeviceState →
    Option (Option (List UInt32) × VirtualDeviceState)
  | _, [], allHandles, self => some (some allHandles, self)
  | 0, _ :: _, _, _ => none
  | fuel + 1, handle :: queue, allHandles, self =>
      match self.objects.lookup handle, self.findStorage storageId with
      | some obj, some storage =>
          if self.disk.isDirectory (storage.config.backingDir.join obj.relPath) then
            match self.scanDir host storageId handle with
            | (none, after) => some (none, after)
            | (some children, after) =>
                scanFolders storageId fuel (children.reverse ++ queue) (allHandles ++ children)
                  after
          else scanFolders storageId fuel queue allHandles self
      | _, _ => scanFolders storageId fuel queue allHandles self

def scanAll (storageId : UInt32) : Option (Option (List UInt32) × VirtualDeviceState) :=
  match self.scanDir host storageId handleRoot with
  | (none, after) => some (none, after)
  | (some rootHandles, after) =>
      scanFolders host storageId self.disk.domain.length rootHandles.reverse rootHandles after

def resolvePath (handle : UInt32) : Option Path :=
  match self.objects.lookup handle with
  | none => none
  | some obj =>
      (self.findStorage obj.storageId).map fun storage =>
        storage.config.backingDir.join obj.relPath

def isReadOnly (storageId : UInt32) : Bool :=
  match self.findStorage storageId with
  | some storage => storage.config.readOnly
  | none => false

structure RescanSummary where
  added : Nat
  removed : Nat
deriving DecidableEq, Repr

/-- The objects whose files are gone, with their storages. -/
def staleHandles : List (UInt32 × UInt32) :=
  (host.objectOrder.arrange self.objects.entries).filterMap fun entry =>
    match self.findStorage entry.2.storageId with
    | none => none
    | some storage =>
        if self.disk.present (storage.config.backingDir.join entry.2.relPath) then none
        else some (entry.1, entry.2.storageId)

def dropStale : List (UInt32 × UInt32) → VirtualDeviceState → VirtualDeviceState
  | [], self => self
  | (handle, _) :: rest, self =>
      dropStale rest ({ self with objects := self.objects.erase handle }.queueEvent
        .objectRemoved [handle])

/-- The entries of one directory a rescan adds, and those below. No directory is deeper than the
fuel counts. -/
def rescanDir (storageId : UInt32) (backingDir : Path) :
    Nat → VirtualDeviceState → (dirPath : Path) → (parent : UInt32) → Nat × VirtualDeviceState
  | 0, self, _, _ => (0, self)
  | fuel + 1, self, dirPath, parent =>
      match host.files.readDir self.disk dirPath with
      | none => (0, self)
      | some (entries, _) =>
          entries.foldl (fun counted entry =>
            let (added, self) := counted
            let fullPath := dirPath.child entry
            match fullPath.stripPrefix backingDir with
            | none => (added, self)
            | some relPath =>
                let (handle, new, self) :=
                  match self.handleAt host storageId relPath with
                  | some known => (known, 0, self)
                  | none =>
                      let (handle, allocated) := self.allocHandle
                      (handle, 1, (allocated.track handle ⟨relPath, storageId, parent⟩).queueEvent
                        .objectAdded [handle])
                if self.disk.isDirectory fullPath then
                  let (below, self) := rescanDir storageId backingDir fuel self fullPath handle
                  (added + new + below, self)
                else (added + new, self)) (0, self)

/-- Brings the objects in line with the disk. -/
def rescanBackingDirs : RescanSummary × VirtualDeviceState :=
  let stale := self.staleHandles host
  let dropped := dropStale stale self
  let (added, changed, scanned) := self.storages.foldl
    (fun (counted : Nat × List UInt32 × VirtualDeviceState) storage =>
      let (added, changed, self) := counted
      let (storageAdded, self) := rescanDir host storage.storageId storage.config.backingDir
        (self.disk.domain.length + 1) self storage.config.backingDir handleRoot
      (added + storageAdded, if 0 < storageAdded then changed ++ [storage.storageId] else changed,
        self)) (0, stale.map Prod.snd, dropped)
  (⟨added, stale.length⟩, (host.storageOrder.arrange changed.dedup).foldl
    (fun self storageId => self.queueEvent .storageInfoChanged [storageId]) scanned)

end VirtualDeviceState

end VirtualDevice
