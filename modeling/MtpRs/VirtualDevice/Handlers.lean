import MtpRs.VirtualDevice.PropList

set_option autoImplicit false

/- Protocol operation handlers for the virtual device. -/
namespace VirtualDevice

open Ptp (Bytes ObjectDataset ObjectPropertyCode OperationCode packU32 packU32Array packU64
  unpackString)
open Files (Disk Path inTurn)

/-- The canonical form of a path that lies inside a directory, or could be created there. -/
def validatePathWithin (disk : Disk) (baseDir path : Path) : Option Path := do
  let canonicalBase ← disk.canonicalize baseDir
  if disk.present path then
    let canonical ← disk.canonicalize path
    if canonical.startsWith canonicalBase then some canonical else none
  else
    let parent ← path.parent
    if disk.present parent then
      let canonicalParent ← disk.canonicalize parent
      if canonicalParent.startsWith canonicalBase then
        let filename ← path.fileName
        let text := filename.text.toList
        if ['.', '.'] <:+: text ∨ '/' ∈ text ∨ '\\' ∈ text then none
        else some (canonicalParent.child filename)
      else none
    else none

/-- Whether two paths name the same file. -/
def isSameFile (disk : Disk) (first second : Path) : Bool :=
  disk.present first && disk.present second && disk.locate first == disk.locate second

/-- A copy that leaves what is longer in the target, and a file copied onto itself as it is. -/
def copyFileInPlace (host : Host) (disk : Disk) (src dst : Path) : Bool × Disk :=
  if isSameFile disk src dst then (true, disk)
  else host.files.copyBytes disk src dst false

/-- A directory copied into another with all below it, down to where names are too long. -/
def copyDirAllWithin (host : Host) : Nat → Disk → (src dst : Path) → Bool × Disk
  | 0, disk, _, _ => (false, disk)
  | fuel + 1, disk, src, dst =>
      match host.files.createDirAll disk dst with
      | (false, failed) => (false, failed)
      | (true, made) =>
          match host.files.readDir made src with
          | none => (false, made)
          | some (entries, complete) =>
              let (copied, after) := inTurn (fun disk entry =>
                if disk.isDirectory (src.child entry) then
                  copyDirAllWithin host fuel disk (src.child entry) (dst.child entry)
                else copyFileInPlace host disk (src.child entry) (dst.child entry)) entries made
              (copied && complete, after)

def copyDirAll (host : Host) (disk : Disk) (src dst : Path) : Bool × Disk :=
  copyDirAllWithin host host.files.nesting disk src dst

/-- A file written after the directory it lies in is made. -/
def writeInDir (host : Host) (disk : Disk) (path : Path) (data : Bytes) : Bool × Disk :=
  match path.parent with
  | none => host.files.write disk path data
  | some parent =>
      match host.files.createDirAll disk parent with
      | (false, failed) => (false, failed)
      | (true, made) => host.files.write made path data

def removePath (host : Host) (disk : Disk) (path : Path) : Bool × Disk :=
  if disk.isDirectory path then host.files.removeDirAll disk path
  else host.files.removeFile disk path

namespace VirtualDeviceState

def respond (self : VirtualDeviceState) (code : UInt16) (txId : UInt32) (params : List UInt32) :
    VirtualDeviceState :=
  { self with responseQueue := self.responseQueue ++ [buildResponse code txId params] }

def respondData (self : VirtualDeviceState) (opCode : UInt16) (txId : UInt32) (payload : Bytes) :
    VirtualDeviceState :=
  { self with responseQueue := self.responseQueue ++ [buildDataContainer opCode txId payload]
    }.respond
    Code.ok txId []

def handleGetDeviceInfo (self : VirtualDeviceState) (opCode : UInt16) (txId : UInt32) :
    VirtualDeviceState :=
  self.respondData opCode txId self.buildDeviceInfo

def handleOpenSession (self : VirtualDeviceState) (txId : UInt32) : VirtualDeviceState :=
  if self.sessionOpen then self.respond Code.sessionAlreadyOpen txId []
  else { self with sessionOpen := true }.respond Code.ok txId []

def handleCloseSession (self : VirtualDeviceState) (txId : UInt32) : VirtualDeviceState :=
  { self with sessionOpen := false, objects := ∅, pendingSend := none }.respond Code.ok txId []

def handleGetStorageIds (self : VirtualDeviceState) (opCode : UInt16) (txId : UInt32) :
    VirtualDeviceState :=
  self.respondData opCode txId (packU32Array (self.storages.map VirtualStorageState.storageId))

def handleGetStorageInfo (host : Host) (self : VirtualDeviceState) (opCode : UInt16)
    (txId : UInt32) (params : List UInt32) : VirtualDeviceState :=
  match self.buildStorageInfo host (param params 0) with
  | some payload => self.respondData opCode txId payload
  | none => self.respond Code.invalidStorageId txId []

/-- Whether a parent is tracked in a storage. -/
def knownIn (self : VirtualDeviceState) (storageId parent : UInt32) : Bool :=
  match self.objects.lookup parent with
  | some obj => obj.storageId == storageId
  | none => false

def handleGetObjectHandles (host : Host) (self : VirtualDeviceState) (opCode : UInt16)
    (txId : UInt32) (params : List UInt32) : Option VirtualDeviceState :=
  let storageId := param params 0
  let parent := param params 2
  if (self.findStorage storageId).isNone then some (self.respond Code.invalidStorageId txId [])
  else if parent ≠ handleAll ∧ parent ≠ handleRoot ∧ self.knownIn storageId parent = false then
    some (self.respond Code.invalidObjectHandle txId [])
  else
    let listing :=
      if parent = handleAll then self.scanAll host storageId
      else some (self.scanDir host storageId parent)
    listing.map fun result =>
      match result with
      | (some handles, after) => after.respondData opCode txId (packU32Array handles)
      | (none, after) => after.respond Code.generalError txId []

def handleGetObjectInfo (self : VirtualDeviceState) (opCode : UInt16) (txId : UInt32)
    (params : List UInt32) : VirtualDeviceState :=
  match self.descriptionRefusal (param params 0) with
  | some code => self.respond code txId []
  | none =>
      match self.buildObjectInfo (param params 0) with
      | some payload => self.respondData opCode txId payload
      | none => self.respond Code.invalidObjectHandle txId []

def handleGetObject (host : Host) (self : VirtualDeviceState) (opCode : UInt16) (txId : UInt32)
    (params : List UInt32) : VirtualDeviceState :=
  match self.resolvePath (param params 0) with
  | none => self.respond Code.invalidObjectHandle txId []
  | some path =>
      match host.files.read self.disk path with
      | some data => self.respondData opCode txId data
      | none => self.respond Code.generalError txId []

/-- One read of at most as many bytes as a test hook allows. It may be short. -/
def readPartial (host : Host) (self : VirtualDeviceState) (opCode : UInt16) (txId handle : UInt32)
    (offset maxBytes : Nat) : VirtualDeviceState :=
  let (maxBytes, self) :=
    match self.forcedPartialReadCaps with
    | cap :: caps => (min cap maxBytes, { self with forcedPartialReadCaps := caps })
    | [] => (maxBytes, self)
  match self.resolvePath handle with
  | none => self.respond Code.invalidObjectHandle txId []
  | some path =>
      match host.files.read self.disk path with
      | none => self.respond Code.generalError txId []
      | some data =>
          if 0 < offset ∧ host.seeks self.disk path offset = false then
            self.respond Code.generalError txId []
          else
            match host.brings self.disk path offset maxBytes with
            | none => self.respond Code.generalError txId []
            | some n => self.respondData opCode txId (((data.drop offset).take maxBytes).take n)

def handleGetPartialObject (host : Host) (self : VirtualDeviceState) (opCode : UInt16)
    (txId : UInt32) (params : List UInt32) : VirtualDeviceState :=
  self.readPartial host opCode txId (param params 0) (param params 1).toNat
    (param params 2).toNat

def handleGetPartialObject64 (host : Host) (self : VirtualDeviceState) (opCode : UInt16)
    (txId : UInt32) (params : List UInt32) : VirtualDeviceState :=
  self.readPartial host opCode txId (param params 0)
    ((param params 2).toNat * 2 ^ 32 + (param params 1).toNat) (param params 3).toNat

def handleGetObjectPropList (host : Host) (self : VirtualDeviceState) (opCode : UInt16)
    (txId : UInt32) (params : List UInt32) : Option VirtualDeviceState :=
  (self.answer host params).map fun result =>
    match result with
    | (.ok payload, after) => after.respondData opCode txId payload
    | (.error code, after) => after.respond code txId []

def handleGetThumb (self : VirtualDeviceState) (txId : UInt32) (params : List UInt32) :
    VirtualDeviceState :=
  if (self.objects.lookup (param params 0)).isNone then
    self.respond Code.invalidObjectHandle txId []
  else self.respond Code.noThumbnail txId []

/-- What `SendObjectInfo` is sure of before it changes anything. -/
structure SendTarget where
  storage : VirtualStorageState
  parent : UInt32
  parentPath : Path
  info : ObjectDataset

def checkSendObjectInfo (self : VirtualDeviceState) (params : List UInt32)
    (dataPayload : Option Bytes) : Except UInt16 SendTarget :=
  let storageId := param params 0
  let parent := if param params 1 = handleSendRoot then handleRoot else param params 1
  match self.findStorage storageId with
  | none => .error Code.invalidStorageId
  | some storage =>
      if self.isReadOnly storageId then .error Code.storeReadOnly
      else do
        let parentPath ←
          if parent = handleRoot then .ok Path.empty
          else
            match self.objects.lookup parent with
            | some obj =>
                -- The path it resolves to: the storage is its own.
                if obj.storageId = storageId ∧
                    self.disk.isDirectory (storage.config.backingDir.join obj.relPath) = true then
                  .ok obj.relPath
                else .error Code.invalidParent
            | none => .error Code.invalidParent
        match dataPayload with
        | none => .error Code.generalError
        | some data =>
            match ObjectDataset.fromBytes data with
            | .error _ => .error Code.generalError
            | .ok info => .ok ⟨storage, parent, parentPath, info⟩

def SendTarget.pending (target : SendTarget) (config : VirtualDeviceConfig)
    (newHandle : UInt32) : PendingSendInfo where
  storageId := target.storage.storageId
  parent := target.parent
  filename := target.info.filename
  size := target.info.size
  isFolder := target.info.format == .association
  assignedHandle := newHandle
  modified := do
    let dt ← target.info.modified
    let secs ← dt.toUnixSecondsWithFallback config.utcOffset
    some (systemTimeFromUnix secs)

def SendTarget.relPath (target : SendTarget) : Path :=
  target.parentPath.join (.ofString target.info.filename)

def SendTarget.fullPath (target : SendTarget) : Path :=
  target.storage.config.backingDir.join target.relPath

/-- The folder, or an empty placeholder for the file. -/
def SendTarget.create (target : SendTarget) (host : Host) (disk : Disk) : Bool × Disk :=
  if target.info.format = .association then host.files.createDirAll disk target.fullPath
  else writeInDir host disk target.fullPath []

def handleSendObjectInfo (host : Host) (self : VirtualDeviceState) (txId : UInt32)
    (params : List UInt32) (dataPayload : Option Bytes) : VirtualDeviceState :=
  match self.checkSendObjectInfo params dataPayload with
  | .error code => self.respond code txId []
  | .ok target =>
      let (newHandle, self) := self.allocHandle
      if (validatePathWithin self.disk target.storage.config.backingDir target.fullPath).isNone then
        { self with pendingSend := none }.respond Code.generalError txId []
      else
        match target.create host self.disk with
        | (false, disk) =>
            { self with pendingSend := none, disk := disk }.respond Code.generalError txId []
        | (true, disk) =>
            let pending := target.pending self.config newHandle
            let created : VirtualDeviceState :=
              { self with
                disk := disk
                pendingSend := if pending.isFolder then none else some pending }
            let tracked := created.track newHandle
              ⟨target.relPath, target.storage.storageId, target.parent⟩
            ((tracked.queueEvent .objectAdded [newHandle]).queueEvent .storageInfoChanged
              [target.storage.storageId]).respond Code.ok txId
              [target.storage.storageId, target.parent, newHandle]

/-- Where `SendObject` writes: the storage and the path in it. -/
def checkSendObject (self : VirtualDeviceState) (pending : PendingSendInfo) :
    Except UInt16 (VirtualStorageState × Path) :=
  match self.findStorage pending.storageId with
  | none => .error Code.invalidStorageId
  | some storage => do
      let parentPath ←
        if pending.parent = handleRoot then .ok Path.empty
        else
          match self.objects.lookup pending.parent with
          | some obj => .ok obj.relPath
          | none => .error Code.invalidParent
      let relPath := parentPath.join (.ofString pending.filename)
      if (validatePathWithin self.disk storage.config.backingDir
          (storage.config.backingDir.join relPath)).isNone then .error Code.generalError
      else .ok (storage, relPath)

/-- The received time on the file. A failure leaves the time of writing. -/
def stamp (host : Host) (disk : Disk) (path : Path) (modified : Option Int) : Disk :=
  match modified with
  | none => disk
  | some time => (host.files.setModified disk path time).getD disk

def handleSendObject (host : Host) (self : VirtualDeviceState) (txId : UInt32)
    (dataPayload : Option Bytes) : VirtualDeviceState :=
  match self.pendingSend with
  | none => self.respond Code.generalError txId []
  | some pending =>
      let self := { self with pendingSend := none }
      if pending.isFolder then self.respond Code.ok txId []
      else
        match self.checkSendObject pending with
        | .error code => self.respond code txId []
        | .ok (storage, relPath) =>
            let fullPath := storage.config.backingDir.join relPath
            match writeInDir host self.disk fullPath (dataPayload.getD []) with
            | (false, disk) => { self with disk := disk }.respond Code.generalError txId []
            | (true, disk) =>
                let stamped := { self with disk := stamp host disk fullPath pending.modified }
                let tracked := stamped.track pending.assignedHandle
                  ⟨relPath, pending.storageId, pending.parent⟩
                ((tracked.queueEvent .objectInfoChanged [pending.assignedHandle]).queueEvent
                  .storageInfoChanged [pending.storageId]).respond Code.ok txId []

def checkDeleteObject (self : VirtualDeviceState) (handle : UInt32) :
    Except UInt16 (VirtualObject × Path) :=
  match self.objects.lookup handle with
  | none => .error Code.invalidObjectHandle
  | some obj =>
      if self.isReadOnly obj.storageId then .error Code.storeReadOnly
      else
        match self.resolvePath handle with
        | none => .error Code.generalError
        | some path => .ok (obj, path)

def handleDeleteObject (host : Host) (self : VirtualDeviceState) (txId : UInt32)
    (params : List UInt32) : VirtualDeviceState :=
  let handle := param params 0
  match self.checkDeleteObject handle with
  | .error code => self.respond code txId []
  | .ok (obj, path) =>
      match removePath host self.disk path with
      | (false, disk) => { self with disk := disk }.respond Code.generalError txId []
      | (true, disk) =>
          let removed : VirtualDeviceState :=
            { self with
              disk := disk
              objects := self.objects.keep fun _ other =>
                !(other.storageId == obj.storageId && other.relPath.startsWith obj.relPath) }
          ((removed.queueEvent .objectRemoved [handle]).queueEvent .storageInfoChanged
            [obj.storageId]).respond Code.ok txId []

/-- What a move or a copy is sure of before it changes anything. -/
structure Transfer where
  obj : VirtualObject
  srcPath : Path
  destStorage : VirtualStorageState
  destParent : UInt32
  newRel : Path

def Transfer.destPath (transfer : Transfer) : Path :=
  transfer.destStorage.config.backingDir.join transfer.newRel

/-- The checks of a move and of a copy. Only a move changes the storage it is from. -/
def checkTransfer (self : VirtualDeviceState) (moves : Bool) (params : List UInt32) :
    Except UInt16 Transfer :=
  let handle := param params 0
  let destStorage := param params 1
  let destParent := param params 2
  match self.objects.lookup handle with
  | none => .error Code.invalidObjectHandle
  | some obj =>
      if moves && self.isReadOnly obj.storageId || self.isReadOnly destStorage then
        .error Code.storeReadOnly
      else
        match self.resolvePath handle with
        | none => .error Code.generalError
        | some srcPath =>
            match self.findStorage destStorage with
            | none => .error Code.invalidStorageId
            | some destStorageState => do
                let destParentRel ←
                  if destParent = handleRoot then .ok Path.empty
                  else
                    match self.objects.lookup destParent with
                    | some parentObj => .ok parentObj.relPath
                    | none => .error Code.invalidParent
                let transfer : Transfer := ⟨obj, srcPath, destStorageState, destParent,
                  destParentRel.join obj.relPath.fileNamePath⟩
                if (validatePathWithin self.disk destStorageState.config.backingDir
                    transfer.destPath).isNone then .error Code.generalError
                else .ok transfer

/-- A rename, or a copy and a removal where it fails. What cannot be removed stays. -/
def movePath (host : Host) (disk : Disk) (srcPath destPath : Path) : Bool × Disk :=
  match host.files.rename disk srcPath destPath with
  | some renamed => (true, renamed)
  | none =>
      let (copied, after) :=
        if disk.isDirectory srcPath then copyDirAll host disk srcPath destPath
        else host.files.copy disk srcPath destPath
      if copied then (true, (removePath host after srcPath).2) else (false, after)

def handleMoveObject (host : Host) (self : VirtualDeviceState) (txId : UInt32)
    (params : List UInt32) : VirtualDeviceState :=
  let handle := param params 0
  match self.checkTransfer true params with
  | .error code => self.respond code txId []
  | .ok transfer =>
      match movePath host self.disk transfer.srcPath transfer.destPath with
      | (false, disk) => { self with disk := disk }.respond Code.generalError txId []
      | (true, disk) =>
          let destStorage := transfer.destStorage.storageId
          let moved : VirtualDeviceState :=
            { self with
              disk := disk
              objects := self.objects.modify handle fun _ =>
                ⟨transfer.newRel, destStorage, transfer.destParent⟩ }
          let told := (moved.queueEvent .objectInfoChanged [handle]).queueEvent
            .storageInfoChanged [transfer.obj.storageId]
          (if destStorage ≠ transfer.obj.storageId then
            told.queueEvent .storageInfoChanged [destStorage] else told).respond Code.ok txId []

/-- Whether the destination tracks an object of the same name. -/
def clashes (self : VirtualDeviceState) (transfer : Transfer) : Bool :=
  match transfer.obj.relPath.fileName with
  | none => false
  | some filename =>
      self.objects.entries.any fun entry =>
        entry.2.storageId == transfer.destStorage.storageId &&
          entry.2.parent == transfer.destParent && entry.2.relPath.fileName == some filename

def copyPath (host : Host) (disk : Disk) (srcPath destPath : Path) : Bool × Disk :=
  if disk.isDirectory srcPath then copyDirAll host disk srcPath destPath
  else copyFileInPlace host disk srcPath destPath

/-- The handle Android sends back where it refused a copy: -1 cut to sixteen bits. -/
def aospTruncatedInvalidHandle : UInt32 := 0x0000FFFF

def handleCopyObject (host : Host) (self : VirtualDeviceState) (txId : UInt32)
    (params : List UInt32) : VirtualDeviceState :=
  match self.checkTransfer false params with
  | .error code => self.respond code txId []
  | .ok transfer =>
      let (copied, disk) := copyPath host self.disk transfer.srcPath transfer.destPath
      if self.clashes transfer then
        let code :=
          if copied && !self.disk.isDirectory transfer.srcPath then Code.ok else Code.generalError
        { self with disk := disk }.respond code txId [aospTruncatedInvalidHandle]
      else if copied then
        let (newHandle, allocated) := { self with disk := disk }.allocHandle
        let destStorage := transfer.destStorage.storageId
        let tracked := allocated.track newHandle ⟨transfer.newRel, destStorage, transfer.destParent⟩
        ((tracked.queueEvent .objectAdded [newHandle]).queueEvent .storageInfoChanged
          [destStorage]).respond Code.ok txId [newHandle]
      else { self with disk := disk }.respond Code.generalError txId []

/-- A path is asked for where the object's storage has to be known. -/
def handleGetObjectPropValue (host : Host) (self : VirtualDeviceState) (opCode : UInt16)
    (txId : UInt32) (params : List UInt32) : Option VirtualDeviceState :=
  let handle := param params 0
  match self.objects.lookup handle with
  | none => some (self.respond Code.invalidObjectHandle txId [])
  | some obj =>
      match ObjectPropertyCode.ofCode (param params 1).toUInt16 with
      | .objectFileName =>
          some (self.respondData opCode txId (packDeviceString (fileNameText obj.relPath)))
      | .storageId => some (self.respondData opCode txId (packU32 obj.storageId))
      | .parentObject => some (self.respondData opCode txId (packU32 obj.parent))
      | .objectSize =>
          (self.resolvePath handle).map fun path =>
            self.respondData opCode txId
              (packU64 (UInt64.ofNat ((host.files.length self.disk path).getD 0)))
      | _ => some (self.respond Code.operationNotSupported txId [])

/-- The object to rename, its path and its new name. -/
def checkRename (self : VirtualDeviceState) (params : List UInt32) (dataPayload : Option Bytes) :
    Except UInt16 (VirtualObject × Path × String) :=
  if self.config.supportsRename = false then .error Code.operationNotSupported
  else if ObjectPropertyCode.ofCode (param params 1).toUInt16 ≠ .objectFileName then
    .error Code.operationNotSupported
  else
    match dataPayload with
    | none => .error Code.generalError
    | some data =>
        match unpackString data with
        | .error _ => .error Code.generalError
        | .ok (newName, _) =>
            match self.objects.lookup (param params 0) with
            | none => .error Code.invalidObjectHandle
            | some obj =>
                if self.isReadOnly obj.storageId then .error Code.storeReadOnly
                else
                  match self.resolvePath (param params 0) with
                  | none => .error Code.generalError
                  | some oldPath => .ok (obj, oldPath, newName)

def renamedPath (relPath : Path) (newName : String) : Path :=
  match relPath.parent with
  | some parent => if parent = .empty then .ofString newName else parent.join (.ofString newName)
  | none => .ofString newName

/-- The parent of the path is taken for granted. -/
def handleSetObjectPropValue (host : Host) (self : VirtualDeviceState) (txId : UInt32)
    (params : List UInt32) (dataPayload : Option Bytes) : Option VirtualDeviceState :=
  match self.checkRename params dataPayload with
  | .error code => some (self.respond code txId [])
  | .ok (obj, oldPath, newName) =>
      oldPath.parent.map fun directory =>
        let newPath := directory.join (.ofString newName)
        match self.findStorage obj.storageId with
        | none => self.respond Code.generalError txId []
        | some storage =>
            if (validatePathWithin self.disk storage.config.backingDir newPath).isNone then
              self.respond Code.generalError txId []
            else
              match host.files.rename self.disk oldPath newPath with
              | none => self.respond Code.generalError txId []
              | some disk =>
                  { self with
                    disk := disk
                    objects := self.objects.modify (param params 0) fun renamed =>
                      { renamed with relPath := renamedPath renamed.relPath newName } }.respond
                    Code.ok txId []

/-- Handles one operation, with the payload of its data phase. There is no state after a panic or
a listing that does not end. -/
def dispatch (host : Host) (self : VirtualDeviceState) (opCode : UInt16) (txId : UInt32)
    (params : List UInt32) (dataPayload : Option Bytes) : Option VirtualDeviceState :=
  let unsupported := some (self.respond Code.operationNotSupported txId [])
  match OperationCode.ofCode opCode with
  | .getDeviceInfo => some (self.handleGetDeviceInfo opCode txId)
  | .openSession => some (self.handleOpenSession txId)
  | .closeSession => some (self.handleCloseSession txId)
  | op =>
      if self.sessionOpen = false then some (self.respond Code.sessionNotOpen txId [])
      else
        match op with
        | .getStorageIds => some (self.handleGetStorageIds opCode txId)
        | .getStorageInfo => some (self.handleGetStorageInfo host opCode txId params)
        | .getObjectHandles => self.handleGetObjectHandles host opCode txId params
        | .getObjectInfo => some (self.handleGetObjectInfo opCode txId params)
        | .getObject => some (self.handleGetObject host opCode txId params)
        | .getPartialObject =>
            if self.config.supportsPartialObject then
              some (self.handleGetPartialObject host opCode txId params)
            else unsupported
        | .getPartialObject64 =>
            if self.config.supportsPartialObject64 then
              some (self.handleGetPartialObject64 host opCode txId params)
            else unsupported
        | .getObjectPropList =>
            if self.config.supportsObjectPropList then
              self.handleGetObjectPropList host opCode txId params
            else unsupported
        | .getThumb => some (self.handleGetThumb txId params)
        | .sendObjectInfo => some (self.handleSendObjectInfo host txId params dataPayload)
        | .sendObject => some (self.handleSendObject host txId dataPayload)
        | .deleteObject => some (self.handleDeleteObject host txId params)
        | .moveObject => some (self.handleMoveObject host txId params)
        | .copyObject => some (self.handleCopyObject host txId params)
        | .getObjectPropValue => self.handleGetObjectPropValue host opCode txId params
        | .setObjectPropValue => self.handleSetObjectPropValue host txId params dataPayload
        | _ => unsupported

end VirtualDeviceState

end VirtualDevice
