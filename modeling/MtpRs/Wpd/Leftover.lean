import MtpRs.Wpd.Listings
import MtpRs.Wpd.Upload

set_option autoImplicit false

/- Which object a failed upload names as its leftover. -/
namespace Wpd

open Mtp (Error NewObjectInfo ObjectHandle ObjectEntry ProgressFn StorageId UploadError UploadPeer
  UploadStream)
open Ptp (Bytes)

/-- The objects `put` deletes after an upload: the leftover of a failed one. -/
def putCleanup : Except UploadError ObjectHandle → List ObjectHandle
  | .ok _ => []
  | .error failed => failed.partialObject.toList

/-- Everything `put` deletes afterwards is the upload's own. -/
def DeletesOwn (own : ObjectHandle → Prop) (result : Except UploadError ObjectHandle) : Prop :=
  ∀ handle ∈ putCleanup result, own handle

/-- The handle of the object an upload over USB made. -/
def OwnOverUsb (peer : UploadPeer) (handle : ObjectHandle) : Prop :=
  ∃ created, peer.created = some created ∧ handle = Mtp.ofPtp created

/-- The handle of the object an upload over WPD made. -/
def OwnOverWpd (target : UploadTarget) (handle : ObjectHandle) : Prop :=
  ∃ wpdId, target.created = some wpdId ∧ handle = token wpdId

/-- Every other object of the name is listed behind an own one of the name. -/
def OwnFirst (own : ObjectHandle → Prop) (name : String) (objects : List ObjectEntry) : Prop :=
  ∀ front other back, objects = front ++ other :: back → other.filename = name →
    ¬ own other.handle → ∃ leftover ∈ front, leftover.filename = name ∧ own leftover.handle

/-- The first object of a name is an own one exactly when no other comes before. -/
theorem find_own_iff (own : ObjectHandle → Prop) (name : String) (objects : List ObjectEntry) :
    (∀ found, objects.find? (fun o => o.filename == name) = some found → own found.handle) ↔
      OwnFirst own name objects := by
  constructor
  · intro finds front other back split named stranger
    rw [split, List.find?_append] at finds
    cases search : front.find? fun o => o.filename == name with
    | none =>
        rw [search, Option.none_or] at finds
        have found := finds other (by simp [named])
        exact absurd found stranger
    | some leftover =>
        rw [search, Option.some_or] at finds
        have same : (leftover.filename == name) = true :=
          List.find?_some (p := fun o : ObjectEntry => o.filename == name) search
        exact ⟨leftover, List.mem_of_find?_eq_some search, beq_iff_eq.mp same, finds leftover rfl⟩
  · intro first found search
    obtain ⟨named, front, back, split, unnamed⟩ := List.find?_eq_some_iff_append.mp search
    by_contra stranger
    obtain ⟨leftover, mem, same, _⟩ := first front found back split (beq_iff_eq.mp named) stranger
    have different := unnamed leftover mem
    simp [same] at different

/-- What `send_object_info` names is what the device made. -/
theorem sendObjectInfo_created {peer : UploadPeer} {storage parent handle : UInt32}
    {info : Ptp.ObjectDataset} (sent : peer.sendObjectInfo storage parent info = .ok handle) :
    peer.created = some handle := by
  unfold UploadPeer.sendObjectInfo at sent
  cases packed : info.toBytes with
  | error e =>
      rw [packed] at sent
      cases sent
  | ok bytes =>
      cases answered : peer.sendInfo [storage, parent] bytes with
      | error e =>
          simp only [packed, answered, bind, Except.bind] at sent
          cases sent
      | ok response =>
          simp only [packed, answered, bind, Except.bind, Ptp.checkResponse] at sent
          by_cases accepted : response.code = .ok
          · simp only [accepted, ↓reduceIte] at sent
            split at sent
            · next params =>
                cases sent
                exact peer.names _ _ _ _ answered accepted (by rw [params]; rfl)
            · cases sent
          · simp only [accepted, ↓reduceIte] at sent
            cases sent

/-- Over USB a failed upload names the object it made, or none. -/
theorem usb_deletesOwn (peer : UploadPeer) (storage : StorageId) (parent : Option ObjectHandle)
    (info : NewObjectInfo) (source : UploadStream) (progress : Option ProgressFn) :
    DeletesOwn (OwnOverUsb peer) (peer.upload storage parent info source progress) := by
  intro handle deleted
  unfold UploadPeer.upload at deleted
  dsimp only at deleted
  split at deleted
  · cases deleted
  · next created sent =>
      split at deleted
      · simp only [putCleanup, Option.toList_some, List.mem_singleton] at deleted
        exact ⟨created, sendObjectInfo_created sent, deleted⟩
      · cases deleted

section

variable (device : WpdDevice) (target : UploadTarget) (alive : Bool) (gone : Nat → Bool)
  (storage : StorageId) (parent : Option ObjectHandle) (info : NewObjectInfo)
  (source : UploadStream) (progress : Option ProgressFn)

/-- The channel closed before the declared size had come, and no write had failed: the worker looks
for a leftover. -/
def CutShort : Prop :=
  alive = true ∧
    target.received (forward target gone progress info.size [] source).2 = .ok () ∧
    ((forward target gone progress info.size [] source).2.map List.length).sum ≠ info.size

/-- The worker's verdict on an upload that is cut short. -/
theorem handleUpload_cutShort {chunks : List Bytes} (received : target.received chunks = .ok ())
    (short : (chunks.map List.length).sum ≠ info.size) :
    device.handleUpload target storage parent info chunks =
      .shortClosed (device.findChildByName target.after storage parent info.filename).1 := by
  simp only [WpdDevice.handleUpload, received, short, ↓reduceIte]

theorem findChildByName_eq (after : Content) (name : String) :
    (device.findChildByName after storage parent name).1 =
      match (device.list after storage parent fun _ => false).1.1 with
      | .error _ => none
      | .ok objects => (objects.find? fun o => o.filename == name).map (·.handle) := by
  simp only [WpdDevice.findChildByName]
  split <;> simp_all

/-- What `put` deletes after an upload over WPD: what the worker finds after one that is cut
short. -/
theorem putCleanup_wpd (handle : ObjectHandle) :
    handle ∈ putCleanup (device.upload target alive gone storage parent info source progress) ↔
      CutShort target alive gone info source progress ∧
        (device.findChildByName target.after storage parent info.filename).1 = some handle := by
  cases alive with
  | false => simp [WpdDevice.upload, putCleanup, CutShort]
  | true =>
      simp only [WpdDevice.upload, ↓reduceIte, CutShort, true_and]
      cases received : target.received (forward target gone progress info.size [] source).2 with
      | error e => simp [WpdDevice.handleUpload, received, reconcile, putCleanup]
      | ok _ =>
          by_cases whole : ((forward target gone progress info.size [] source).2.map
            List.length).sum =
              info.size
          · simp only [WpdDevice.handleUpload, received, whole, ↓reduceIte]
            cases target.commit <;> simp [reconcile, putCleanup]
          · rw [handleUpload_cutShort device target storage parent info received whole]
            cases (forward target gone progress info.size [] source).1 <;>
              simp [reconcile, putCleanup, whole, eq_comm]

/-- A failed upload names its own leftover, always over USB, and over WPD exactly when every other
object of the name in the folder is listed behind the leftover, or the upload is not cut short. -/
theorem leftover_own_iff (peer : UploadPeer) :
    DeletesOwn (OwnOverUsb peer) (peer.upload storage parent info source progress) ∧
      (DeletesOwn (OwnOverWpd target)
          (device.upload target alive gone storage parent info source progress) ↔
        (CutShort target alive gone info source progress →
          ∀ objects, (device.list target.after storage parent fun _ => false).1.1 = .ok objects →
            OwnFirst (OwnOverWpd target) info.filename objects)) := by
  refine ⟨usb_deletesOwn peer storage parent info source progress, ?_⟩
  have search := findChildByName_eq device storage parent target.after info.filename
  constructor
  · intro deletes short objects listed
    rw [listed] at search
    apply (find_own_iff _ _ _).mp
    intro found first
    apply deletes
    rw [putCleanup_wpd, search]
    refine ⟨short, ?_⟩
    show (objects.find? fun o => o.filename == info.filename).map (·.handle) = some found.handle
    rw [first, Option.map_some]
  · intro first handle deleted
    obtain ⟨short, found⟩ := (putCleanup_wpd device target alive gone storage parent info source
      progress handle).mp deleted
    rw [search] at found
    cases listed : (device.list target.after storage parent fun _ => false).1.1 with
    | error e =>
        rw [listed] at found
        cases found
    | ok objects =>
        rw [listed] at found
        obtain ⟨o, first_named, same⟩ := Option.map_eq_some_iff.mp found
        rw [← same]
        exact (find_own_iff _ _ _).mpr (first short objects listed) o first_named

end

/-- The older object in a folder, and a device that has kept nothing of the upload. -/
def olderContent : Content where
  getValues := fun _ => .ok ⟨some "a.bin", none, some .other, some 9, some "s1", none, none⟩
  enumObjects := fun _ => .ok (enumerationOf ["o1"] (by decide))

def forgetfulTarget : UploadTarget :=
  ⟨.ok (), fun _ => .ok 1, .ok "o7", none, olderContent⟩

/-- The device, its only storage known, and the upload of a file of three bytes. -/
def knownStorage : WpdDevice := ⟨(IdMap.new.storage "s1").2, ["s1"]⟩

def threeBytesDeclared : NewObjectInfo := ⟨"a.bin", 3, none, none⟩

theorem olderContent_listed :
    (knownStorage.list olderContent (token "s1") none fun _ => false).1.1 =
      .ok [listedInfo olderContent ObjectHandle.root (token "s1") "o1"] := by
  have opened : knownStorage.listed (token "s1") none = .ok ("s1", ObjectHandle.root) := by
    simp only [WpdDevice.listed, knownStorage, IdMap.storageId, IdMap.storage, IdMap.lookup_intern]
    rfl
  simp only [WpdDevice.list, opened]
  rfl

/-- A source that ends after one of three bytes: the older object of the name is deleted. -/
theorem leftover_not_own :
    token "o1" ∈ putCleanup (knownStorage.upload forgetfulTarget true (fun _ => false) (token "s1")
        none threeBytesDeclared [.ok [1]] none) ∧
      ¬ DeletesOwn (OwnOverWpd forgetfulTarget) (knownStorage.upload forgetfulTarget true
        (fun _ => false) (token "s1") none threeBytesDeclared [.ok [1]] none) := by
  have forwarded : forward forgetfulTarget (fun _ => false) none 3 [] [.ok [1]] =
      (.clean, [[1]]) := by
    simp [forward, Mtp.breaks, UploadTarget.received, UploadTarget.writeAll, forgetfulTarget]
  have received : forgetfulTarget.received [[1]] = .ok () := by
    simp [UploadTarget.received, UploadTarget.writeAll, streamWrite, forgetfulTarget]
  have found : (knownStorage.findChildByName olderContent (token "s1") none "a.bin").1 =
      some (token "o1") := by
    rw [findChildByName_eq, olderContent_listed]
    rfl
  have deleted := (putCleanup_wpd knownStorage forgetfulTarget true (fun _ => false) (token "s1")
    none threeBytesDeclared [.ok [1]] none (token "o1")).mpr
      ⟨⟨rfl, by rw [threeBytesDeclared, forwarded]; exact received,
        by rw [threeBytesDeclared, forwarded]; decide⟩, found⟩
  refine ⟨deleted, fun own => ?_⟩
  obtain ⟨_, none, _⟩ := own (token "o1") deleted
  cases none

end Wpd
