import MtpRs.Mtp.HandleListing
import MtpRs.Mtp.Upload

set_option autoImplicit false

/- Copies: what the façade refuses before it asks the backend, and the USB backend's check of what
the device answers. -/
namespace Mtp

open Ptp (ObjectDataset PtpError ResponseContainer)

/-- `same_name`; `lower` is `to_lowercase`. -/
def sameName (lower : String → String) (a b : String) : Bool := a == b || lower a == lower b

structure CopyBackend (σ : Type) where
  objectInfo : σ → ObjectHandle → Except Error ObjectEntry × σ
  /-- The objects of `collect_in`. -/
  collect : σ → StorageId → Option ObjectHandle → Except Error (List ObjectEntry) × σ
  copyObject : σ → ObjectHandle → ObjectHandle → StorageId → Except Error ObjectHandle × σ

/-- A parent as a listing takes it: the root is none. -/
def folderOf (newParent : ObjectHandle) : Option ObjectHandle :=
  if newParent = ObjectHandle.root then none else some newParent

def copyObject {σ : Type} (lower : String → String) (backend : CopyBackend σ) (state : σ)
    (id : StorageId) (handle newParent : ObjectHandle) (newStorage : Option StorageId) :
    Except Error ObjectHandle × σ :=
  let storage := newStorage.getD id
  match backend.objectInfo state handle with
  | (.error e, state) => (.error e, state)
  | (.ok info, state) =>
      match backend.collect state storage (folderOf newParent) with
      | (.error e, state) => (.error e, state)
      | (.ok siblings, state) =>
          if siblings.any fun o => sameName lower o.filename info.filename then
            (.error .alreadyExists, state)
          else backend.copyObject state handle newParent storage

/-- The checks before the backend is asked pass, and leave it in the state `seen`. -/
def Admitted {σ : Type} (lower : String → String) (backend : CopyBackend σ) (state : σ)
    (storage : StorageId) (handle newParent : ObjectHandle) (seen : σ) : Prop :=
  ∃ info described siblings, backend.objectInfo state handle = (.ok info, described) ∧
    backend.collect described storage (folderOf newParent) = (.ok siblings, seen) ∧
    ∀ o ∈ siblings, sameName lower o.filename info.filename = false

/-- A copy that is reported was admitted, and the backend reported it. -/
theorem copyObject_ok_iff {σ : Type} (lower : String → String) (backend : CopyBackend σ)
    (state after : σ) (id : StorageId) (handle newParent copy : ObjectHandle)
    (newStorage : Option StorageId) :
    copyObject lower backend state id handle newParent newStorage = (.ok copy, after) ↔
      ∃ seen, Admitted lower backend state (newStorage.getD id) handle newParent seen ∧
        backend.copyObject seen handle newParent (newStorage.getD id) = (.ok copy, after) := by
  unfold copyObject Admitted
  dsimp only
  rcases described : backend.objectInfo state handle with ⟨e | info, state⟩
  · simp
  · rcases listed : backend.collect state (newStorage.getD id) (folderOf newParent) with
      ⟨e | siblings, seen⟩
    · simp [listed]
    · by_cases taken : siblings.any fun o => sameName lower o.filename info.filename
      · simp_all
      · dsimp only
        rw [listed]
        dsimp only
        rw [if_neg taken]
        simp_all

/-- A USB device during one copy: what it says of the source and lists of the destination before,
its answer to `CopyObject`, and what it says of an object after. -/
structure CopyPeer where
  source : UInt32 → Except PtpError ObjectDataset
  listing : UInt32 → Option UInt32 → Except Error BackendListing
  answer : List UInt32 → Except PtpError ResponseContainer
  info : UInt32 → Except PtpError ObjectDataset

namespace CopyPeer

/-- The session's `copy_object`: the handle the device answers with. -/
def sendCopy (self : CopyPeer) (handle storage parent : UInt32) : Except PtpError UInt32 := do
  let response ← self.answer [handle, storage, parent]
  Ptp.checkResponse response .copyObject
  match response.params with
  | copy :: _ => .ok copy
  | [] => .error (.invalidData "CopyObject response missing handle")

/-- `{:#x}`. -/
def hexHandle (handle : UInt32) : String := "0x" ++ String.ofList (Nat.toDigits 16 handle.toNat)

/-- `verify_copy`'s error. -/
def phantom (copy : UInt32) (why : String) : Error :=
  .invalidData (s!"the device reported a copy it didn't make: handle {hexHandle copy} " ++ why)

def expectedParent (destParent destStorage : UInt32) : ParentFilter :=
  if destParent = handleRoot then .root (some destStorage) else .exact destParent

def verifyCopy (self : CopyPeer) (source copy destParent destStorage : UInt32) :
    Except Error Unit :=
  if copy = source then .error (phantom copy "is the source object itself")
  else
    match self.info copy with
    | .error (.protocol .invalidObjectHandle _) => .error (phantom copy "names no object")
    | .error e => .error (Error.ofPtp e)
    | .ok info =>
        if (expectedParent destParent destStorage).accepts info.parent then .ok ()
        else .error (phantom copy
          (s!"sits under parent {hexHandle info.parent}, not the destination " ++
          hexHandle destParent))

/-- `copy_object` over USB. -/
def copyObject (self : CopyPeer) (obj newParent : ObjectHandle) (newStorage : StorageId) :
    Except Error ObjectHandle :=
  match self.sendCopy (toPtp obj) (toPtp newStorage) (toPtp newParent) with
  | .error e => .error (Error.ofPtp e)
  | .ok copy =>
      match self.verifyCopy (toPtp obj) copy (toPtp newParent) (toPtp newStorage) with
      | .error e => .error e
      | .ok _ => .ok (ofPtp copy)

/-- `object_info` over USB. -/
def objectInfo (self : CopyPeer) (obj : ObjectHandle) : Except Error ObjectEntry :=
  match self.source (toPtp obj) with
  | .error e => .error (Error.ofPtp e)
  | .ok info => .ok (.ofListed (.fromPtp { info with handle := toPtp obj }))

/-- `collect_in` over USB. -/
def collect (self : CopyPeer) (storage : StorageId) (parent : Option ObjectHandle) :
    Except Error (List ObjectEntry) :=
  match collectIn (self.listing (toPtp storage) (parent.map toPtp)) with
  | .error e => .error e
  | .ok collection => .ok (collection.objects.map .ofListed)

/-- The device as the façade's backend. -/
def backend (self : CopyPeer) : CopyBackend Unit where
  objectInfo := fun _ obj => (self.objectInfo obj, ())
  collect := fun _ storage parent => (self.collect storage parent, ())
  copyObject := fun _ obj newParent newStorage => (self.copyObject obj newParent newStorage, ())

end CopyPeer

/-- Where an object is: on a storage, in a folder or at the root. -/
structure Place where
  storage : UInt32
  folder : Option UInt32
deriving DecidableEq, Repr

/-- What an object's `ObjectInfo` may say of its parent: a root has three spellings. -/
def Place.Spells (self : Place) (parent : UInt32) : Prop :=
  match self.folder with
  | some folder => parent = folder
  | none => parent = handleRoot ∨ parent = handleAll ∨ parent = self.storage

def destination (destParent destStorage : UInt32) : Place :=
  ⟨destStorage, if destParent = handleRoot then none else some destParent⟩

namespace CopyPeer

/-- The device tells the truth of where objects are, of the destination before the copy and of any
object after it, and the destination loses nothing. -/
structure Truthful (peer : CopyPeer) (before after : UInt32 → Option Place) (dest : Place) :
    Prop where
  listed : ∀ collection, collectIn (peer.listing dest.storage dest.folder) = .ok collection →
    ∀ handle, handle ∈ collection.objects.map (·.handle) ++ collection.skipped.map (·.handle) ↔
      before handle = some dest
  info : ∀ handle info, peer.info handle = .ok info →
    ∃ place, after handle = some place ∧ info.storageId = place.storage ∧ place.Spells info.parent
  kept : ∀ handle, before handle = some dest → after handle = some dest

/-- The object is not the source, and has a parent that passes for the destination, and yet was in
the destination before or is elsewhere. -/
def Misread (self : CopyPeer) (before after : UInt32 → Option Place) (source destParent
    destStorage copy : UInt32) : Prop :=
  copy ≠ source ∧ ∃ info place, self.info copy = .ok info ∧ after copy = some place ∧
    (expectedParent destParent destStorage).accepts info.parent = true ∧
    (before copy = some (destination destParent destStorage) ∨
      place ≠ destination destParent destStorage)

/-- What the check of a copy lets through. -/
theorem verifyCopy_ok_iff (self : CopyPeer) (source copy destParent destStorage : UInt32) :
    self.verifyCopy source copy destParent destStorage = .ok () ↔
      copy ≠ source ∧ ∃ info, self.info copy = .ok info ∧
        (expectedParent destParent destStorage).accepts info.parent = true := by
  unfold verifyCopy
  by_cases same : copy = source
  · simp [same]
  · rw [if_neg same]
    cases described : self.info copy with
    | error e =>
        split <;> simp_all
    | ok info =>
        by_cases accepted : (expectedParent destParent destStorage).accepts info.parent = true
        · simp [accepted, same]
        · simp [accepted]

/-- A copy the backend reports is the handle the device answered with, checked. -/
theorem backed_ok_iff (self : CopyPeer) (obj newParent newStorage copy : UInt64) :
    self.copyObject obj newParent newStorage = .ok copy ↔
      ∃ handle, copy = ofPtp handle ∧
        self.sendCopy (toPtp obj) (toPtp newStorage) (toPtp newParent) = .ok handle ∧
        self.verifyCopy (toPtp obj) handle (toPtp newParent) (toPtp newStorage) = .ok () := by
  unfold copyObject
  cases sent : self.sendCopy (toPtp obj) (toPtp newStorage) (toPtp newParent) with
  | error e => simp
  | ok handle =>
      cases checked : self.verifyCopy (toPtp obj) handle (toPtp newParent) (toPtp newStorage) with
      | error e => simp [checked]
      | ok _ => simp [checked, eq_comm]

/-- Every copy that is reported is in the destination, where it was not before, and is not the
source. -/
def ReportsCopies (self : CopyPeer) (lower : String → String) (before after : UInt32 → Option Place)
    (id : StorageId) (handle newParent : ObjectHandle) (newStorage : Option StorageId) : Prop :=
  ∀ copy, (Mtp.copyObject lower self.backend () id handle newParent newStorage).1 = .ok copy →
    copy ≠ handle ∧ ∃ object, copy = ofPtp object ∧
      after object = some (destination (toPtp newParent) (toPtp (newStorage.getD id))) ∧
      before object ≠ some (destination (toPtp newParent) (toPtp (newStorage.getD id)))

/-- The handle the device answers with, when it is asked, is not misread. -/
def AnswersPlainly (self : CopyPeer) (lower : String → String)
    (before after : UInt32 → Option Place) (id : StorageId) (handle newParent : ObjectHandle)
    (newStorage : Option StorageId) : Prop :=
  Admitted lower self.backend () (newStorage.getD id) handle newParent () →
    ∀ copy, self.sendCopy (toPtp handle) (toPtp (newStorage.getD id)) (toPtp newParent) = .ok copy →
      ¬ self.Misread before after (toPtp handle) (toPtp newParent) (toPtp (newStorage.getD id)) copy

theorem reportsCopies_iff {self : CopyPeer} {before after : UInt32 → Option Place} {id : StorageId}
    {newParent : ObjectHandle} {newStorage : Option StorageId} (lower : String → String)
    (handle : ObjectHandle)
    (truthful : self.Truthful before after
      (destination (toPtp newParent) (toPtp (newStorage.getD id)))) :
    self.ReportsCopies lower before after id handle newParent newStorage ↔
      self.AnswersPlainly lower before after id handle newParent newStorage := by
  have reported : ∀ copy,
      (Mtp.copyObject lower self.backend () id handle newParent newStorage).1 = .ok copy ↔
        Admitted lower self.backend () (newStorage.getD id) handle newParent () ∧
          self.copyObject handle newParent (newStorage.getD id) = .ok copy := by
    intro copy
    have facade := copyObject_ok_iff lower self.backend () () id handle newParent copy newStorage
    rw [Prod.ext_iff] at facade
    simp only [and_true] at facade
    rw [facade]
    constructor
    · rintro ⟨_, admitted, backed⟩
      exact ⟨admitted, congrArg Prod.fst backed⟩
    · rintro ⟨admitted, backed⟩
      exact ⟨(), admitted, Prod.ext backed rfl⟩
  constructor
  · intro genuine admitted copy sent misread
    obtain ⟨other, info, place, described, where_, accepted, wrong⟩ := misread
    have checked := (self.verifyCopy_ok_iff _ copy _ _).mpr ⟨other, info, described, accepted⟩
    obtain ⟨_, object, same, now, fresh⟩ := genuine (ofPtp copy)
      ((reported _).mpr ⟨admitted, (self.backed_ok_iff _ _ _ _).mpr ⟨copy, rfl, sent, checked⟩⟩)
    cases ofPtp_injective same
    cases wrong with
    | inl earlier => exact fresh earlier
    | inr elsewhere => exact elsewhere (Option.some.inj (where_.symm.trans now))
  · intro plain copy ok
    obtain ⟨admitted, backed⟩ := (reported copy).mp ok
    obtain ⟨object, rfl, sent, checked⟩ := (self.backed_ok_iff _ _ _ _).mp backed
    obtain ⟨other, info, described, accepted⟩ := (self.verifyCopy_ok_iff _ _ _ _).mp checked
    obtain ⟨place, where_, _⟩ := truthful.info object info described
    have faithful := plain admitted object sent
    constructor
    · intro same
      apply other
      rw [← same, toPtp_ofPtp]
    · refine ⟨object, rfl, ?_, ?_⟩
      · by_contra elsewhere
        exact faithful ⟨other, info, place, described, where_, accepted,
          Or.inr fun same => elsewhere (same ▸ where_)⟩
      · intro earlier
        exact faithful ⟨other, info, place, described, where_, accepted, Or.inl earlier⟩

end CopyPeer

end Mtp
