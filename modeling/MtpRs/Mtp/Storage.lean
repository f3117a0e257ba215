import MtpRs.Lib.Attempts
import MtpRs.Mtp.Copy
import MtpRs.Ptp.Strings

set_option autoImplicit false

/- A storage of a device, as the high-level API gives it over a backend. -/
namespace Mtp

open Attempts (Attempt)

def maxNameUnits : Nat := Ptp.maxStringUnits

def checkNameLength (name : String) : Except Error Unit :=
  let units := (Ptp.encodeUtf16 name).length
  if maxNameUnits < units then .error (.nameTooLong units) else .ok ()

/-- What a storage asks of its backend, whose state is of the type `σ`, and whether the device takes
renames. -/
structure StorageBackend (σ : Type) extends CopyBackend σ where
  supportsRename : Bool
  createFolder : σ → StorageId → Option ObjectHandle → String → Except Error ObjectHandle × σ
  delete : σ → ObjectHandle → Except Error Unit × σ
  moveObject : σ → ObjectHandle → ObjectHandle → StorageId → Except Error Unit × σ
  rename : σ → ObjectHandle → String → Except Error Unit × σ

structure Storage (σ : Type) where
  backend : StorageBackend σ
  id : StorageId

namespace Storage

variable {σ : Type} (self : Storage σ)

def listObjects (parent : Option ObjectHandle) : Attempt σ Error (List ObjectEntry) :=
  fun state => self.backend.collect state self.id parent

def createFolder (parent : Option ObjectHandle) (name : String) :
    Attempt σ Error ObjectHandle := do
  Attempt.lift (checkNameLength name)
  fun state => self.backend.createFolder state self.id parent name

def delete (handle : ObjectHandle) : Attempt σ Error Unit :=
  fun state => self.backend.delete state handle

def moveObject (handle newParent : ObjectHandle) (newStorage : Option StorageId) :
    Attempt σ Error Unit :=
  fun state => self.backend.moveObject state handle newParent (newStorage.getD self.id)

def copyObject (lower : String → String) (handle newParent : ObjectHandle)
    (newStorage : Option StorageId) : Attempt σ Error ObjectHandle :=
  fun state =>
    Mtp.copyObject lower self.backend.toCopyBackend state self.id handle newParent newStorage

def rename (handle : ObjectHandle) (newName : String) : Attempt σ Error Unit := do
  Attempt.lift (checkNameLength newName)
  fun state => self.backend.rename state handle newName

end Storage

end Mtp
