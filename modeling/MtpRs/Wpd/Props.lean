import MtpRs.Lib.Association
import MtpRs.Mtp.Neutral

set_option autoImplicit false

/- What the Windows backend gets from COM: result codes, property bags, and the strings that are
WPD's object IDs. -/
namespace Wpd

open Mtp (Error ObjectHandle ObjectEntry StorageId mapResponseCode)
open Ptp (DateTime ResponseCode)

abbrev HResult := UInt32

def sOk : HResult := 0

/-- How an enumeration says that it has no more. -/
def sFalse : HResult := 1

/-- A failure: the sign bit is set. -/
def HResult.Failed (hr : HResult) : Prop := 0x80000000 ≤ hr

instance (hr : HResult) : Decidable hr.Failed := inferInstanceAs (Decidable (0x80000000 ≤ hr))

/-- A failed COM call: its code and the text Windows has for it. -/
structure WinError where
  code : HResult
  message : String
deriving DecidableEq, Repr

/-- The MTP response code inside an `HRESULT`, when Windows passed one through. -/
def mtpResponseCode (hr : HResult) : Option ResponseCode :=
  if hr &&& 0xFFFF0000 ≠ 0x80040000 then none
  else
    let code := (hr &&& 0xFFFF).toUInt16
    if code >>> 12 == 0x2 || code >>> 12 == 0xA then some (ResponseCode.ofCode code) else none

/-- `{:#010x}`. -/
def hex (code : UInt32) : String :=
  let digits := Nat.toDigits 16 code.toNat
  "0x" ++ String.ofList (List.replicate (8 - digits.length) '0' ++ digits)

/-- `HRESULT_FROM_WIN32`. -/
def win32 (code : UInt32) : HResult := 0x80070000 ||| (code &&& 0xFFFF)

def mapHresult (e : WinError) : Error :=
  match mtpResponseCode e.code with
  | some code => mapResponseCode code
  | none =>
      if e.code == 0x80070005 || e.code == 0x80030005 then .accessDenied
      else if e.code == win32 5 then .accessDenied
      else if e.code == win32 2 || e.code == win32 3 then .notFound
      else if e.code == win32 170 then .busy
      else if e.code == win32 4319 || e.code == win32 1617 then .disconnected
      else if e.code == 0x80030070 then .storageFull
      else if e.code == 0x80004001 then .unsupported
      else if e.code == win32 50 then .unsupported
      else .other s!"HRESULT {hex e.code}: {e.message}"

/-- The kinds of content the backend tells apart. -/
inductive ContentType where
  | folder
  | functionalObject
  | other
deriving DecidableEq, Repr

def isFolderContentType : ContentType → Bool
  | .folder | .functionalObject => true
  | .other => false

/-- The properties of one object, each as its getter answers: `none` is a getter that failed. -/
structure Values where
  originalFileName : Option String
  name : Option String
  contentType : Option ContentType
  size : Option UInt64
  parentId : Option String
  created : Option DateTime
  modified : Option DateTime
deriving DecidableEq, Repr

/-- `token`: FNV-1a of the ID's bytes, with the high bit set. -/
def token (wpdId : String) : UInt64 :=
  (wpdId.toUTF8.data.toList.foldl
    (fun h b => (h ^^^ b.toUInt64) * 0x100000001b3) 0xcbf29ce484222325) ||| 0x8000000000000000

/-- The WPD IDs handed out so far, each under its token. -/
structure IdMap where
  reverse : AList fun _ : UInt64 => String
  own : ∀ t wpdId, reverse.lookup t = some wpdId → token wpdId = t

namespace IdMap

def new : IdMap := ⟨∅, fun t wpdId found => by rw [AList.lookup_empty] at found; cases found⟩

/-- `intern`. On two IDs with one token the first stays. -/
def intern (self : IdMap) (wpdId : String) : UInt64 × IdMap :=
  let t := token wpdId
  match self.reverse.lookup t with
  | some _ => (t, self)
  | none => (t, ⟨self.reverse.insert t wpdId, fun other found same => by
      cases AList.lookup_insert_eq_some.mp same with
      | inl inserted => exact inserted.2 ▸ inserted.1.symm
      | inr earlier => exact self.own other found earlier.2⟩)

def object (self : IdMap) (wpdId : String) : ObjectHandle × IdMap := self.intern wpdId

def storage (self : IdMap) (wpdId : String) : StorageId × IdMap := self.intern wpdId

def objectId (self : IdMap) (handle : ObjectHandle) : Option String := self.reverse.lookup handle

def storageId (self : IdMap) (storage : StorageId) : Option String := self.reverse.lookup storage

/-- Interning an ID answers its token, whatever was interned before. -/
@[simp] theorem intern_fst (self : IdMap) (wpdId : String) :
    (self.intern wpdId).1 = token wpdId := by
  dsimp only [intern]
  split <;> rfl

/-- What an ID's token names after the ID was interned: the first ID with that token. -/
theorem lookup_intern (self : IdMap) (wpdId : String) :
    (self.intern wpdId).2.reverse.lookup (token wpdId) =
      some ((self.reverse.lookup (token wpdId)).getD wpdId) := by
  dsimp only [intern]
  split
  · next first found => rw [found, Option.getD_some]
  · next none => rw [AList.lookup_insert, none, Option.getD_none]

end IdMap

def nonEmpty (name : Option String) : Option String := name.filter fun s => !s.isEmpty

/-- `read_object_info`: an object without readable properties is listed without a name. -/
def readObjectInfo (vals : Except WinError Values) (handle : ObjectHandle) (parent : ObjectHandle)
    (storage : StorageId) : ObjectEntry :=
  match vals with
  | .ok v =>
      let folder := (v.contentType.map isFolderContentType).getD false
      { handle
        storageId := storage
        parent
        filename := ((nonEmpty v.originalFileName).or v.name).getD ""
        size := if folder then 0 else (v.size.map UInt64.toNat).getD 0
        format := if folder then 0x3001 else 0x3000
        created := v.created
        modified := v.modified
        imageWidth := 0
        imageHeight := 0
        folder }
  | .error _ =>
      { handle
        storageId := storage
        parent
        filename := ""
        size := 0
        format := 0x3000
        created := none
        modified := none
        imageWidth := 0
        imageHeight := 0
        folder := false }

@[simp] theorem readObjectInfo_handle (vals : Except WinError Values) (handle parent : ObjectHandle)
    (storage : StorageId) : (readObjectInfo vals handle parent storage).handle = handle := by
  unfold readObjectInfo
  split <;> rfl

end Wpd
