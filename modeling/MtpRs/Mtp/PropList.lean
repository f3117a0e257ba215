import MtpRs.Mtp.HandleListing

set_option autoImplicit false

/- The listing of a folder from `GetObjectPropList` answers, one request a property, with
what the backend remembers of a device that does not serve them. -/
namespace Mtp

open Ptp (ObjectDataset ObjectPropListElement ObjectPropertyCode PropertyValue PtpError)

/-- What a listing can't do without, asked first. -/
def propListRequired : List ObjectPropertyCode :=
  [.parentObject, .objectFileName, .objectFormat, .objectSize]

/-- What a listing reads when the device serves it, with its bit among the declined ones. -/
def propListOptional : List (UInt8 × ObjectPropertyCode) :=
  [(1, .dateModified), (2, .dateCreated)]

/-- What one request for a property came to, short of a failing session. -/
inductive PropListAnswer where
  | elements (elements : List ObjectPropListElement)
  | declined
  | refused
  | unparseable
deriving DecidableEq

/-- Why an answer can't stand in for the per-handle listing. -/
inductive Unusable where
  | systemic
  | incomplete
deriving DecidableEq, Repr

/-- The refusals that say the device can't serve the request at all. -/
def isPropListCapabilityDecline : PtpError → Bool
  | .io _ _ => true
  | .protocol code _ =>
      code == .operationNotSupported || code == .parameterNotSupported ||
        code.toCode == 0xA801 || code.toCode == 0xA802 || code.toCode == 0xA807 ||
        code.toCode == 0xA808
  | _ => false

def askPropList (device : Responder) (parent : UInt32) (property : ObjectPropertyCode) :
    Except PtpError PropListAnswer :=
  match device.objectPropList parent property with
  | .ok (.ok elements) => .ok (.elements elements)
  | .ok (.error _) => .ok .unparseable
  | .error e =>
      if isPropListCapabilityDecline e then .ok .declined
      else if isAllHandleRejection e then .ok .refused
      else .error e

/-- A property's bit in a set of the required ones, by position. -/
def requiredBit (property : ObjectPropertyCode) : UInt8 :=
  match propListRequired.findIdx? (· == property) with
  | some i => 1 <<< UInt8.ofNat i
  | none => 0

structure Child where
  info : ObjectDataset
  required : UInt8
  hasStorage : Bool
deriving DecidableEq, Repr

namespace Child

def new (handle : UInt32) : Child where
  info := { ObjectDataset.empty with handle := handle }
  required := 0
  hasStorage := false

def setElement (self : Child) (element : ObjectPropListElement) : Child :=
  match element.value.bind (self.info.setProperty element.property) with
  | none => self
  | some info => {
      info := info
      required := self.required ||| requiredBit element.property
      hasStorage := self.hasStorage || element.property == .storageId }

def needs (self : Child) : UInt8 :=
  let all := (1 <<< UInt8.ofNat propListRequired.length) - 1
  if self.info.isFolder then all &&& ~~~ requiredBit .objectSize else all

/-- The dataset, in the listing's storage unless the answers named one. -/
def finish (self : Child) (storage : UInt32) : ObjectDataset :=
  if self.hasStorage then self.info else { self.info with storageId := storage }

end Child

def updateChild (children : List Child) (handle : UInt32) (update : Child → Child) :
    List Child :=
  children.map fun child => if child.info.handle = handle then update child else child

/-- Takes one element in: its child is new, at the end, or the one already there. -/
def takeElement (children : List Child) (element : ObjectPropListElement) : List Child :=
  let children :=
    if children.any (fun child => child.info.handle == element.handle) then children
    else children ++ [Child.new element.handle]
  updateChild children element.handle fun child => child.setElement element

/-- Whether the children carry what they need. A property missing from all that need it is
no use asking again; one missing from some is a passing state. -/
def requiredVerdict (children : List Child) : List ObjectPropertyCode → Except Unusable Unit →
    Except Unusable Unit
  | [], verdict => verdict
  | property :: rest, verdict =>
      let bit := requiredBit property
      let needing := children.filter fun child => child.needs &&& bit != 0
      let lacking := needing.filter fun child => child.required &&& bit == 0
      if 0 < lacking.length ∧ lacking.length = needing.length then .error .systemic
      else
        requiredVerdict children rest (if 0 < lacking.length then .error .incomplete else verdict)

/-- Folds elements into `parent`'s children, one for each handle in first-seen order. -/
def childrenFromPropList (elements : List ObjectPropListElement) (storage parent : UInt32) :
    Except Unusable (List ObjectDataset) :=
  let children := (elements.filter (fun e => e.handle != parent)).foldl takeElement []
  if children.any (fun c =>
      c.required &&& requiredBit .parentObject != 0 && c.info.parent != parent) then
    .error .systemic
  else do
    requiredVerdict children propListRequired (.ok ())
    .ok (children.map fun child => child.finish storage)

/-- The fields of the backend a folder listing reads and remembers. -/
structure ListingBackend where
  hasObjectPropList : Bool
  propListOff : Bool
  propListDeclinedOptional : UInt8
deriving DecidableEq, Repr

/-- The required answers together, or why there are none. -/
inductive RequiredAnswer where
  | elements (elements : List ObjectPropListElement)
  | off
  | refused
deriving DecidableEq

def askRequired (device : Responder) (parent : UInt32) : List ObjectPropertyCode →
    List ObjectPropListElement → Except PtpError RequiredAnswer
  | [], elements => .ok (.elements elements)
  | property :: rest, elements => do
      device.bailIfCancelled (.property property)
      match ← askPropList device parent property with
      | .elements answer => askRequired device parent rest (elements ++ answer)
      | .declined | .unparseable => .ok .off
      | .refused => .ok .refused

def setOptional (state : List ObjectDataset × Bool) (element : ObjectPropListElement) :
    List ObjectDataset × Bool :=
  let accepts (child : ObjectDataset) :=
    if child.handle = element.handle then
      element.value.bind (child.setProperty element.property)
    else none
  (state.1.map fun child => (accepts child).getD child,
    state.2 || state.1.any fun child => (accepts child).isSome)

namespace ListingBackend

/-- Asks for each optional property that was not declined and sets it on the children. -/
def addOptionalProperties (device : Responder) (parent : UInt32) :
    List (UInt8 × ObjectPropertyCode) → ListingBackend → List ObjectDataset →
    Except PtpError (List ObjectDataset) × ListingBackend
  | [], self, children => (.ok children, self)
  | (bit, property) :: rest, self, children =>
      let declined : ListingBackend :=
        { self with propListDeclinedOptional := self.propListDeclinedOptional ||| bit }
      if self.propListDeclinedOptional &&& bit ≠ 0 then
        addOptionalProperties device parent rest self children
      else
        match device.bailIfCancelled (.property property) with
        | .error e => (.error e, self)
        | .ok _ =>
            match askPropList device parent property with
            | .error e => (.error e, self)
            | .ok (.elements answer) =>
                let (children, served) :=
                  (answer.filter (fun e => e.property == property)).foldl setOptional
                    (children, false)
                addOptionalProperties device parent rest (if served then self else declined)
                  children
            | .ok .declined | .ok .unparseable =>
                addOptionalProperties device parent rest declined children
            -- this folder only: asked again next time
            | .ok .refused => addOptionalProperties device parent rest self children

/-- The children by property lists, or nothing where the caller lists per handle. -/
def listByPropList (self : ListingBackend) (device : Responder) (storage parent : UInt32) :
    Except PtpError (Option (List ObjectDataset)) × ListingBackend :=
  let off : ListingBackend := { self with propListOff := true }
  if self.propListOff then (.ok none, self)
  else
    match askRequired device parent propListRequired [] with
    | .error e => (.error e, self)
    | .ok .off => (.ok none, off)
    | .ok .refused => (.ok none, self)
    | .ok (.elements elements) =>
        match childrenFromPropList elements storage parent with
        -- the per-handle path confirms that the folder is empty
        | .ok [] => (.ok none, self)
        | .ok children =>
            match self.addOptionalProperties device parent propListOptional children with
            | (.ok children, after) => (.ok (some children), after)
            | (.error e, after) => (.error e, after)
        | .error .systemic => (.ok none, off)
        | .error .incomplete => (.ok none, self)

/-- `list`: the fast path below the root, the per-handle path wherever it does not answer. -/
def list (self : ListingBackend) (device : Responder) (storage : UInt32)
    (parent : Option UInt32) : Except Error BackendListing × ListingBackend :=
  match device.bailIfCancelled .entry with
  | .error e => (.error (.ofPtp e), self)
  | .ok _ =>
      match if self.hasObjectPropList then parent else none with
      | none => (listPerHandle device storage parent, self)
      | some folder =>
          match self.listByPropList device storage folder with
          | (.error e, after) => (.error (.ofPtp e), after)
          | (.ok none, after) => (listPerHandle device storage parent, after)
          | (.ok (some objects), after) => (.ok {
              total := objects.length
              items := objects.map fun info => .ok (.fromPtp info) }, after)

end ListingBackend

end Mtp
