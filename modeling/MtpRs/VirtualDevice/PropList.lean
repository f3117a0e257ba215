import MtpRs.VirtualDevice.Builders

set_option autoImplicit false

/- `GetObjectPropList` for the virtual device. -/
namespace VirtualDevice

open Ptp (Bytes ObjectPropertyCode packU16 packU32 packU64)
open Files (Path)

namespace Code

def ok : UInt16 := 0x2001
def generalError : UInt16 := 0x2002
def sessionNotOpen : UInt16 := 0x2003
def operationNotSupported : UInt16 := 0x2005
def parameterNotSupported : UInt16 := 0x2006
def invalidStorageId : UInt16 := 0x2008
def invalidObjectHandle : UInt16 := 0x2009
def storeReadOnly : UInt16 := 0x200E
def noThumbnail : UInt16 := 0x2010
def invalidParent : UInt16 := 0x201A
def sessionAlreadyOpen : UInt16 := 0x201E
def invalidObjectPropCode : UInt16 := 0xA801
def specificationByGroupUnsupported : UInt16 := 0xA807
def specificationByDepthUnsupported : UInt16 := 0xA808

end Code

def persistentUid : UInt16 := 0xDC41

def displayName : UInt16 := 0xDCE0

def dateAdded : UInt16 := 0xDC4E

/-- What "all properties" answers, in Android's order. -/
def fileProperties : List UInt16 :=
  [0xDC01, 0xDC02, 0xDC03, 0xDC04, 0xDC07, 0xDC09, persistentUid, 0xDC0B, 0xDC44, displayName,
    dateAdded]

/-- `params.get(i).copied().unwrap_or(0)`. -/
def param (params : List UInt32) (i : Nat) : UInt32 := params[i]?.getD 0

namespace VirtualDeviceState

variable (host : Host) (self : VirtualDeviceState)

/-- The code the device refuses to describe an object with. -/
def descriptionRefusal (handle : UInt32) : Option UInt16 :=
  match self.forcedObjectInfoErrors.lookup handle with
  | some code => some code
  | none =>
      match self.objects.lookup handle with
      | none => none
      | some obj =>
          if self.config.undescribableObjects.any fun candidate =>
              Path.ofString candidate == obj.relPath then some Code.generalError
          else none

/-- A listing of each storage in turn, up to the first that fails. -/
def listStorages (list : VirtualDeviceState → UInt32 →
    Option (Option (List UInt32) × VirtualDeviceState)) :
    List UInt32 → VirtualDeviceState → Option (Option (List UInt32) × VirtualDeviceState)
  | [], self => some (some [], self)
  | storage :: rest, self =>
      match list self storage with
      | none => none
      | some (none, after) => some (none, after)
      | some (some handles, after) =>
          match listStorages list rest after with
          | none => none
          | some (none, last) => some (none, last)
          | some (some others, last) => some (some (handles ++ others), last)

/-- The objects a request covers: the children first, then the object itself. -/
def requestedObjects (handle depth : UInt32) :
    Option (Except UInt16 (List UInt32) × VirtualDeviceState) :=
  let storages := self.storages.map VirtualStorageState.storageId
  let listed (listing : Option (Option (List UInt32) × VirtualDeviceState)) :=
    listing.map fun result =>
      match result with
      | (some handles, after) => (Except.ok handles, after)
      | (none, after) => (.error Code.generalError, after)
  if handle = handleAll ∧ depth = 0 then
    listed (listStorages (fun state storage => state.scanAll host storage) storages self)
  else if handle = 0 ∨ handle = handleAll then
    listed (listStorages (fun state storage => some (state.scanDir host storage handleRoot))
      storages self)
  else
    match self.objects.lookup handle with
    | none => some (.error Code.invalidObjectHandle, self)
    | some obj =>
        if depth = 1 then
          match self.scanDir host obj.storageId handle with
          | (some children, after) => some (.ok (children ++ [handle]), after)
          | (none, after) => some (.error Code.generalError, after)
        else some (.ok [handle], self)

/-- The facts of each object of the wanted format. An object that has vanished has none. -/
def describedObjects (format : UInt32) : List UInt32 → Except UInt16 (List (UInt32 × ObjectFacts))
  | [] => .ok []
  | handle :: rest =>
      match self.descriptionRefusal handle with
      | some code => .error code
      | none =>
          match self.objectFacts handle with
          | none => describedObjects format rest
          | some facts =>
              (describedObjects format rest).map fun others =>
                if format = 0 ∨ facts.format.toUInt32 = format then (handle, facts) :: others
                else others

/-- The data type and value of one property; `Undefined` with no value for an unknown one. -/
def elementValue (handle : UInt32) (property : UInt16) (facts : ObjectFacts) : UInt16 × Bytes :=
  if property = persistentUid then
    (0x000A, packU32 handle ++ packU32 facts.storageId ++ List.replicate 8 0)
  else if property = displayName then (0xFFFF, packDeviceString facts.filename)
  else if property = dateAdded then (0xFFFF, self.packFileTime facts.modified)
  else
    match ObjectPropertyCode.ofCode property with
    | .storageId => (0x0006, packU32 facts.storageId)
    | .objectFormat => (0x0004, packU16 facts.format)
    | .protectionStatus => (0x0004, packU16 0)
    | .objectSize => (0x0008, packU64 facts.size)
    | .objectFileName => (0xFFFF, packDeviceString facts.filename)
    | .name => (0xFFFF, packDeviceString facts.filename)
    | .dateCreated => (0xFFFF, self.packFileTime facts.created)
    | .dateModified => (0xFFFF, self.packFileTime facts.modified)
    | .parentObject => (0x0006, packU32 facts.parent)
    | .unknown _ => (0x0000, [])

/-- One element: handle, property, data type, value. -/
def pushElement (handle : UInt32) (property : UInt16) (facts : ObjectFacts) : Bytes :=
  let (dataType, value) := self.elementValue handle property facts
  packU32 handle ++ packU16 property ++ packU16 dataType ++ value

def declined (code : UInt16) : Bool :=
  self.config.propListDeclinedProperties.contains (.ofCode code)

def requestedProperties (property : UInt32) : Except UInt16 (List UInt16) :=
  if property = 0xFFFFFFFF then
    .ok (fileProperties.filter fun code => !self.declined code)
  else if self.declined property.toUInt16 then .error Code.invalidObjectPropCode
  else .ok [property.toUInt16]

def propListDataset (objects : List (UInt32 × ObjectFacts)) (properties : List UInt16) : Bytes :=
  packU32 (UInt32.ofNat (objects.length * properties.length)) ++
    objects.flatMap fun object =>
      properties.flatMap fun property => self.pushElement object.1 property object.2

/-- The handle, depth and properties of a request, or the code it is refused with. -/
def checkPropList (params : List UInt32) : Except UInt16 (UInt32 × UInt32 × List UInt16) := do
  let handle := param params 0
  let property := param params 2
  let group := param params 3
  let depth := param params 4
  if property = 0 then
    .error (if group = 0 then Code.parameterNotSupported
      else Code.specificationByGroupUnsupported)
  else
    let (handle, depth) :=
      if depth = 0xFFFFFFFF ∧ (handle = 0 ∨ handle = handleAll) then (handleAll, 0)
      else (handle, depth)
    if 1 < depth then .error Code.specificationByDepthUnsupported
    else
      let properties ← self.requestedProperties property
      .ok (handle, depth, properties)

/-- The dataset for a request, or the code it is refused with. -/
def answer (params : List UInt32) : Option (Except UInt16 Bytes × VirtualDeviceState) :=
  match self.checkPropList params with
  | .error code => some (.error code, self)
  | .ok (handle, depth, properties) =>
      match self.requestedObjects host handle depth with
      | none => none
      | some (.error code, after) => some (.error code, after)
      | some (.ok handles, after) =>
          match after.describedObjects (param params 1) handles with
          | .error code => some (.error code, after)
          | .ok objects => some (.ok (after.propListDataset objects properties), after)

end VirtualDeviceState

end VirtualDevice
