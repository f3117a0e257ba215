import MtpRs.Wpd.Props

set_option autoImplicit false

namespace Wpd

open Mtp (Error ObjectHandle ObjectEntry StorageId)

/-- What one call of `IEnumPortableDeviceObjectIDs::Next` answers: its code and the IDs it
fetched. -/
structure NextResult where
  hr : HResult
  ids : List String
deriving DecidableEq, Repr

/-- Both loops break on `fetched == 0 || hr != S_OK`. -/
def NextResult.Stops (self : NextResult) : Prop := self.ids.length = 0 ∨ self.hr ≠ sOk

instance (next : NextResult) : Decidable next.Stops :=
  inferInstanceAs (Decidable (next.ids.length = 0 ∨ next.hr ≠ sOk))

/-- An enumeration: the calls that say `S_OK`, each with up to 32 IDs, and the first that does
not. -/
structure Enumeration where
  batches : List (List String)
  last : NextResult
  batched : ∀ batch ∈ batches, batch.length ≤ 32
  ended : last.hr ≠ sOk
  lastBatched : last.ids.length ≤ 32

/-- The answers of the calls of `Next`, in order. -/
def Enumeration.results (self : Enumeration) : List NextResult :=
  self.batches.map (NextResult.mk sOk) ++ [self.last]

def enumerationOf (ids : List String) (fits : ids.length ≤ 32) : Enumeration where
  batches := []
  last := ⟨sFalse, ids⟩
  batched _ mem := absurd mem List.not_mem_nil
  ended := show sFalse ≠ sOk by decide
  lastBatched := fits

/-- Every ID the calls bring. -/
def Enumeration.ids (self : Enumeration) : List String := self.batches.flatten ++ self.last.ids

/-- What the device answers when asked for an object's properties or children. -/
structure Content where
  getValues : String → Except WinError Values
  enumObjects : String → Except WinError Enumeration

def deviceObjectId : String := "DEVICE"

/-- The batches of an enumeration, read until the first call that fetches nothing or says anything
but `S_OK`, with the answers left. -/
def enumChildrenLoop (out : List String) : List NextResult → List String × List NextResult
  | [] => (out, [])
  | next :: rest =>
      if next.Stops then (out ++ next.ids, rest)
      else enumChildrenLoop (out ++ next.ids) rest

def enumChildren (content : Content) (parentWpdId : String) :
    Except Error (List String × List NextResult) :=
  match content.enumObjects parentWpdId with
  | .error e => .error (mapHresult e)
  | .ok enumerator => .ok (enumChildrenLoop [] enumerator.results)

/-- The state of an open device on the worker thread. -/
structure WpdDevice where
  ids : IdMap
  storageWpdIds : List String

namespace WpdDevice

/-- Interns one batch and reads each object's properties. -/
def listBatch (content : Content) (childParent : ObjectHandle) (storage : StorageId)
    (ids : IdMap) (out : List ObjectEntry) : List String → IdMap × List ObjectEntry
  | [] => (ids, out)
  | id :: batch =>
      let (handle, ids) := ids.object id
      let info := readObjectInfo (content.getValues id) handle childParent storage
      listBatch content childParent storage ids (out ++ [info]) batch

/-- The loop of `list`; `cancelled` is what each look at the cancel token finds. -/
def listLoop (content : Content) (childParent : ObjectHandle) (storage : StorageId)
    (cancelled : Nat → Bool) (look : Nat) (ids : IdMap) (out : List ObjectEntry) :
    List NextResult → (Except Error (List ObjectEntry) × List NextResult) × IdMap
  | [] => if cancelled look then ((.error .cancelled, []), ids) else ((.ok out, []), ids)
  | next :: rest =>
      if cancelled look then ((.error .cancelled, next :: rest), ids)
      else
        let (ids, out) := listBatch content childParent storage ids out next.ids
        if next.Stops then ((.ok out, rest), ids)
        else listLoop content childParent storage cancelled (look + 1) ids out rest

/-- The WPD ID of the folder to list and the parent its children get. -/
def listed (self : WpdDevice) (storage : StorageId) (parent : Option ObjectHandle) :
    Except Error (String × ObjectHandle) :=
  match parent with
  | none =>
      match self.ids.storageId storage with
      | none => .error .notFound
      | some id => .ok (id, ObjectHandle.root)
  | some handle =>
      match self.ids.objectId handle with
      | none => .error .staleHandle
      | some id => .ok (id, handle)

def list (self : WpdDevice) (content : Content) (storage : StorageId) (parent : Option ObjectHandle)
    (cancelled : Nat → Bool) :
    (Except Error (List ObjectEntry) × List NextResult) × WpdDevice :=
  match self.listed storage parent with
  | .error e => ((.error e, []), self)
  | .ok (parentWpd, childParent) =>
      match content.enumObjects parentWpd with
      | .error e => ((.error (mapHresult e), []), self)
      | .ok enumerator =>
          let (result, ids) :=
            listLoop content childParent storage cancelled 0 self.ids [] enumerator.results
          (result, { self with ids })

end WpdDevice

end Wpd
