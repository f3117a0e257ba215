import MtpRs.Mtp.Objects

set_option autoImplicit false

/- The per-handle listing: one request for the handles, its filter by parent, and one
`GetObjectInfo` a handle. -/
namespace Mtp

open Ptp (Bytes ObjectDataset ObjectPropListElement ObjectPropertyCode PtpError)

def handleRoot : UInt32 := 0

def handleAll : UInt32 := 0xFFFFFFFF

/-- Where a listing looks at its cancel token. -/
inductive Checkpoint where
  | entry
  | handles
  | property (property : ObjectPropertyCode)
  | handle (cursor : Nat)
deriving DecidableEq, Repr

/-- What one listing hears. A request or a look at the token is made once at most, so that
one answer to each stands for every device and every moment of a cancellation: the requests
for handles are told apart by their number, those about an object by its place. -/
structure Responder where
  cancelled : Checkpoint → Bool
  objectHandles : (attempt : Nat) → (storage parent : UInt32) → Except PtpError (List UInt32)
  objectInfo : (cursor : Nat) → (handle : UInt32) → Except PtpError ObjectDataset
  objectSize : (cursor : Nat) → (handle : UInt32) → Except PtpError Bytes
  /-- Outside, how the transaction ends; inside, what the dataset parses to. -/
  objectPropList : (parent : UInt32) → ObjectPropertyCode →
    Except PtpError (Except PtpError (List ObjectPropListElement))

namespace Responder

def bailIfCancelled (device : Responder) (here : Checkpoint) : Except PtpError Unit :=
  if device.cancelled here then .error .cancelled else .ok ()

def getObjectInfoFull (device : Responder) (cursor : Nat) (handle : UInt32) :
    Except PtpError ObjectDataset :=
  Ptp.getObjectDatasetFull (device.objectInfo cursor handle) (device.objectSize cursor handle)

end Responder

/-- The device answered that it won't, as opposed to the session failing under it. -/
def isAllHandleRejection : PtpError → Bool
  | .protocol _ _ => true
  | .io _ _ => true
  | _ => false

/-- How to filter objects by parent during a listing. -/
inductive ParentFilter where
  | exact (expected : UInt32)
  | root (storage : Option UInt32)
deriving DecidableEq, Repr

def ParentFilter.accepts (self : ParentFilter) (parent : UInt32) : Bool :=
  match self with
  | .exact expected => parent == expected
  | .root storage =>
      parent == 0 || parent == 0xFFFFFFFF || storage.any (fun s => parent == s)

/-- The storage ID marks the root unless it is a handle of the set. -/
def rootFilter (storage : UInt32) (handles : List UInt32) : ParentFilter :=
  let collides := handles.any (· == storage)
  .root (if collides then none else some storage)

/-- The request for `parent`'s own handles, and the last resort of a root listing. -/
def resolveOwn (device : Responder) (storage : UInt32) (parent : Option UInt32) :
    Except PtpError (List UInt32 × ParentFilter) := do
  device.bailIfCancelled .handles
  match device.objectHandles 1 storage (parent.getD 0) with
  | .ok handles => .ok (handles, .exact (parent.getD handleRoot))
  | .error (.protocol .invalidObjectHandle operation) =>
      if parent.isNone then do
        let handles ← device.objectHandles 2 storage handleAll
        .ok (handles, rootFilter storage handles)
      else .error (.protocol .invalidObjectHandle operation)
  | .error e => .error e

/-- The handles of a listing, and the filter that goes with them. -/
def resolveListing (device : Responder) (storage : UInt32) (parent : Option UInt32) :
    Except PtpError (List UInt32 × ParentFilter) :=
  if parent.isNone then
    match device.objectHandles 0 storage handleAll with
    | .ok handles => .ok (handles, rootFilter storage handles)
    | .error e =>
        if isAllHandleRejection e then resolveOwn device storage parent
        -- a sick session is not asked again
        else .error e
  else resolveOwn device storage parent

inductive ListingErrorDisposition where
  | skipObject
  | fatal
deriving DecidableEq, Repr

structure BackendListingError where
  handle : UInt32
  source : Error
  disposition : ListingErrorDisposition
deriving DecidableEq, Repr

/-- One object's failed metadata request: skippable when the device completed it. -/
def listingError (handle : UInt32) (e : PtpError) : BackendListingError where
  handle := handle
  source := .ofPtp e
  disposition := if e = .protocol .generalError .getObjectInfo then .skipObject else .fatal

abbrev ListingItem := Except BackendListingError ListedObject

/-- The stream of a listing from its cursor on. A cancelled one is listed up to the
cancellation, which is the answer to every later look at it. -/
def listingItems (device : Responder) (filter : ParentFilter) : Nat → List UInt32 →
    List ListingItem
  | _, [] => []
  | cursor, handle :: rest =>
      match device.bailIfCancelled (.handle cursor) with
      | .error e => [.error ⟨handle, .ofPtp e, .fatal⟩]
      | .ok _ =>
          match device.getObjectInfoFull cursor handle with
          | .error e =>
              .error (listingError handle e) :: listingItems device filter (cursor + 1) rest
          | .ok info =>
              if filter.accepts info.parent then
                .ok (.fromPtp { info with handle := handle }) ::
                  listingItems device filter (cursor + 1) rest
              else listingItems device filter (cursor + 1) rest

/-- An in-progress listing: the handles the device reported, before the filter, and the stream. -/
structure BackendListing where
  total : Nat
  items : List ListingItem
deriving DecidableEq

def listPerHandle (device : Responder) (storage : UInt32) (parent : Option UInt32) :
    Except Error BackendListing :=
  match resolveListing device storage parent with
  | .error e => .error (.ofPtp e)
  | .ok (handles, filter) => .ok {
      total := handles.length
      items := listingItems device filter 0 handles }

/-- The objects and the failed handles of a listing, or the first failure that ends it. -/
def collectItems : List ListingItem → List ListedObject → List BackendListingError →
    Except Error (List ListedObject × List BackendListingError)
  | [], objects, skipped => .ok (objects, skipped)
  | .ok object :: rest, objects, skipped => collectItems rest (objects ++ [object]) skipped
  | .error error :: rest, objects, skipped =>
      if error.disposition = .skipObject then collectItems rest objects (skipped ++ [error])
      else .error error.source

structure SkippedObject where
  handle : UInt32
  error : Error
deriving DecidableEq, Repr

structure ObjectCollection where
  objects : List ListedObject
  skipped : List SkippedObject
deriving DecidableEq, Repr

def collectIn (listing : Except Error BackendListing) : Except Error ObjectCollection := do
  let listing ← listing
  let (objects, skipped) ← collectItems listing.items [] []
  match objects, skipped with
  -- a device that answered nothing does not make an empty folder
  | [], first :: _ => .error first.source
  | objects, skipped => .ok ⟨objects, skipped.map fun e => ⟨e.handle, e.source⟩⟩

end Mtp
