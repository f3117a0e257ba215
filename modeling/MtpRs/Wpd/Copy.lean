import MtpRs.Mtp.Copy
import MtpRs.Wpd.Listings

set_option autoImplicit false

/- Copies on Windows: the copy is the object the destination has after `Copy` and had not before. -/
namespace Wpd

open Mtp (CopyBackend CopyPeer Error ObjectEntry ObjectHandle StorageId folderOf)

namespace IdMap

/-- The later map knows every ID the earlier one knows, under the same token. -/
def Extends (self earlier : IdMap) : Prop :=
  ∀ t wpdId, earlier.reverse.lookup t = some wpdId → self.reverse.lookup t = some wpdId

theorem Extends.refl (self : IdMap) : self.Extends self := fun _ _ known => known

theorem Extends.trans {last later first : IdMap} (second : last.Extends later)
    (one : later.Extends first) : last.Extends first :=
  fun t wpdId known => second t wpdId (one t wpdId known)

theorem intern_extends (self : IdMap) (wpdId : String) : (self.intern wpdId).2.Extends self := by
  intro t other known
  dsimp only [intern]
  split
  · exact known
  · next unknown =>
      apply AList.lookup_insert_eq_some.mpr
      right
      constructor
      · intro same
        rw [same, unknown] at known
        cases known
      · exact known

/-- The later map knows what the earlier one knows, and the token of every ID that was read. -/
def Interned (self earlier : IdMap) (read : List String) : Prop :=
  self.Extends earlier ∧ ∀ wpdId ∈ read, ∃ named, self.objectId (token wpdId) = some named

theorem Interned.append {last later first : IdMap} {read more : List String}
    (one : later.Interned first read) (second : last.Interned later more) :
    last.Interned first (read ++ more) := by
  constructor
  · exact second.1.trans one.1
  · intro wpdId mem
    cases List.mem_append.mp mem with
    | inl earlier =>
        obtain ⟨named, known⟩ := one.2 wpdId earlier
        exact ⟨named, second.1 _ _ known⟩
    | inr now => exact second.2 wpdId now

theorem intern_interned (self : IdMap) (wpdId : String) :
    (self.intern wpdId).2.Interned self [wpdId] := by
  constructor
  · exact self.intern_extends wpdId
  · intro other mem
    rw [List.mem_singleton.mp mem]
    exact ⟨_, self.lookup_intern wpdId⟩

theorem interned_nil (self : IdMap) : self.Interned self [] :=
  ⟨Extends.refl self, fun _ mem => absurd mem List.not_mem_nil⟩

theorem token_objectId {self : IdMap} {handle : ObjectHandle} {wpdId : String}
    (known : self.objectId handle = some wpdId) : token wpdId = handle :=
  self.own handle wpdId known

end IdMap

namespace WpdDevice

def objectInfo (self : WpdDevice) (content : Content) (obj : ObjectHandle) :
    Except Error ObjectEntry × WpdDevice :=
  match self.ids.objectId obj with
  | none => (.error .staleHandle, self)
  | some wpdId =>
      match content.getValues wpdId with
      | .error e => (.error (mapHresult e), self)
      | .ok v =>
          match (nonEmpty v.originalFileName).or (nonEmpty v.name) with
          -- a deleted object keeps its token and has no properties
          | none => (.error .notFound, self)
          | some filename =>
              let folder := (v.contentType.map isFolderContentType).getD false
              let parentId := v.parentId.getD ""
              let (parent, ids) :=
                if parentId.isEmpty || self.storageWpdIds.contains parentId then
                  (ObjectHandle.root, self.ids)
                else self.ids.object parentId
              (.ok {
                handle := obj
                storageId := 0
                parent
                filename
                size := if folder then 0 else (v.size.map UInt64.toNat).getD 0
                format := if folder then 0x3001 else 0x3000
                created := v.created
                modified := v.modified
                imageWidth := 0
                imageHeight := 0
                folder }, { self with ids })

def destWpdId (self : WpdDevice) (newStorage : StorageId) (newParent : ObjectHandle) :
    Except Error String :=
  if newParent = ObjectHandle.root then
    match self.ids.storageId newStorage with
    | none => .error .notFound
    | some wpdId => .ok wpdId
  else
    match self.ids.objectId newParent with
    | none => .error .staleHandle
    | some wpdId => .ok wpdId

end WpdDevice

/-- A device during one copy: its objects until `Copy` and from then on, and how `Copy` ends. -/
structure CopyTarget where
  before : Content
  after : Content
  copied : Except WinError Unit

/-- The object taken for the copy: the newcomer with the source's name, or the only newcomer. -/
def newcomer (obj : ObjectHandle) (filename : String) (before : List ObjectHandle)
    (objects : List ObjectEntry) : Option ObjectHandle :=
  let new := objects.filter fun o => o.handle != obj && !before.contains o.handle
  ((new.find? fun o => o.filename == filename).or
    (if new.length = 1 then new.head? else none)).map (·.handle)

namespace WpdDevice

def copyObject (self : WpdDevice) (target : CopyTarget) (obj newParent : ObjectHandle)
    (newStorage : StorageId) : Except Error ObjectHandle × WpdDevice :=
  match self.ids.objectId obj with
  | none => (.error .staleHandle, self)
  | some _ =>
  match self.objectInfo target.before obj with
  | (.error e, device) => (.error e, device)
  | (.ok info, device) =>
  match device.destWpdId newStorage newParent with
  | .error e => (.error e, device)
  | .ok _ =>
  match device.list target.before newStorage (folderOf newParent) (fun _ => false) with
  | ((.error e, _), device) => (.error e, device)
  | ((.ok before, _), device) =>
  match target.copied with
  | .error e => (.error (mapHresult e), device)
  | .ok _ =>
  match device.list target.after newStorage (folderOf newParent) (fun _ => false) with
  | ((.error e, _), device) => (.error e, device)
  | ((.ok objects, _), device) =>
  match newcomer obj info.filename (before.map (·.handle)) objects with
  | some copy => (.ok copy, device)
  | none => (.error (.invalidData
      "the device reported a copy it didn't make: no new object appeared in the destination"),
        device)

end WpdDevice

section

variable (content : Content) (childParent : ObjectHandle) (storage : StorageId)

theorem listBatch_interned (batch : List String) (ids : IdMap) (out : List ObjectEntry) :
    (WpdDevice.listBatch content childParent storage ids out batch).1.Interned ids batch := by
  induction batch generalizing ids out with
  | nil => exact ids.interned_nil
  | cons id batch ih =>
      exact (ids.intern_interned id).append (ih (ids.object id).2 _)

theorem listLoop_interned (cancelled : Nat → Bool) (results : List NextResult) (look : Nat)
    (ids : IdMap) (out : List ObjectEntry) {read : List String × List NextResult}
    (readable : readBatches cancelled look results = some read) :
    (WpdDevice.listLoop content childParent storage cancelled look ids out results).2.Interned ids
      read.1 := by
  induction results generalizing look ids out read with
  | nil =>
      cases set : cancelled look with
      | true => simp [readBatches, set] at readable
      | false =>
          simp only [readBatches, set, Bool.false_eq_true, ↓reduceIte,
            Option.some.injEq] at readable
          rw [← readable]
          simpa [WpdDevice.listLoop, set] using ids.interned_nil
  | cons next rest ih =>
      cases set : cancelled look with
      | true => simp [readBatches, set] at readable
      | false =>
          have batch := listBatch_interned content childParent storage next.ids ids out
          by_cases stops : next.Stops
          · simp only [readBatches, set, stops, Bool.false_eq_true, ↓reduceIte,
              Option.some.injEq] at readable
            rw [← readable]
            simpa [WpdDevice.listLoop, set, stops] using batch
          · simp only [readBatches, set, stops, Bool.false_eq_true, ↓reduceIte,
              Option.map_eq_some_iff] at readable
            obtain ⟨later, found, rfl⟩ := readable
            simp only [WpdDevice.listLoop, set, stops, Bool.false_eq_true, ↓reduceIte]
            exact batch.append (ih (look + 1) _ _ found)

end

/-- A listing gives no ID that is no child of its folder. It may be cut. -/
def Content.Truthful (self : Content) (children : String → List String) : Prop :=
  ∀ parent enumerator, self.enumObjects parent = .ok enumerator →
    ∀ id ∈ enumerator.ids, id ∈ children parent

/-- The listing of a folder gives all its children, and no answer cuts it short. -/
def Content.GivesAll (self : Content) (children : String → List String) (folder : String) : Prop :=
  ∀ enumerator, self.enumObjects folder = .ok enumerator →
    (∀ id ∈ children folder, id ∈ enumerator.ids) ∧
      ∀ next ∈ enumerator.results, ¬ next.Misleads

theorem mem_of_readBatches {cancelled : Nat → Bool} {results : List NextResult} :
    ∀ {look : Nat} {read : List String × List NextResult},
    readBatches cancelled look results = some read → ∀ id ∈ read.1, ∃ next ∈ results,
      id ∈ next.ids := by
  induction results with
  | nil =>
      intro look read found id mem
      cases set : cancelled look with
      | true => simp [readBatches, set] at found
      | false =>
          simp only [readBatches, set, Bool.false_eq_true, ↓reduceIte, Option.some.injEq] at found
          rw [← found] at mem
          cases mem
  | cons next rest ih =>
      intro look read found id mem
      cases set : cancelled look with
      | true => simp [readBatches, set] at found
      | false =>
          by_cases stops : next.Stops
          · simp only [readBatches, set, stops, Bool.false_eq_true, ↓reduceIte,
              Option.some.injEq] at found
            rw [← found] at mem
            exact ⟨next, List.mem_cons_self, mem⟩
          · simp only [readBatches, set, stops, Bool.false_eq_true, ↓reduceIte,
              Option.map_eq_some_iff] at found
            obtain ⟨later, found, rfl⟩ := found
            rcases List.mem_append.mp mem with here | there
            · exact ⟨next, List.mem_cons_self, here⟩
            · obtain ⟨other, inside, mem⟩ := ih found id there
              exact ⟨other, List.mem_cons_of_mem _ inside, mem⟩

theorem Enumeration.mem_ids {self : Enumeration} {next : NextResult} {id : String}
    (inside : next ∈ self.results) (mem : id ∈ next.ids) : id ∈ self.ids := by
  rw [ids]
  rcases List.mem_append.mp inside with earlier | last
  · obtain ⟨batch, member, rfl⟩ := List.mem_map.mp earlier
    exact List.mem_append_left _ (List.mem_flatten.mpr ⟨batch, member, mem⟩)
  · rw [List.mem_singleton.mp last] at mem
    exact List.mem_append_right _ mem

/-- An enumeration without a misleading answer is read to its end. -/
theorem readBatches_steady {enumerator : Enumeration}
    (steady : ∀ next ∈ enumerator.results, ¬ next.Misleads) :
    readBatches (fun _ => false) 0 enumerator.results = some (enumerator.ids, []) := by
  have loop := (enumChildrenLoop_eq 0 enumerator.results []).1
  have whole := (readBatches_end_iff (fun _ => false) enumerator.batches enumerator.ended 0).mpr
    (heldBack_never.mpr steady)
  have ended := (whole _ loop).1
  dsimp only at ended
  rw [ended] at loop
  rw [loop, readBatches_ids _ loop, Enumeration.ids]

namespace WpdDevice

/-- The folder `list` reads is the one `copy_object` copies into. -/
theorem listed_folderOf (self : WpdDevice) (storage : StorageId) (newParent : ObjectHandle) :
    self.listed storage (folderOf newParent) =
      (self.destWpdId storage newParent).map fun wpdId => (wpdId, newParent) := by
  unfold folderOf destWpdId
  by_cases root : newParent = ObjectHandle.root
  · rw [if_pos root, if_pos root]
    cases known : self.ids.storageId storage <;> simp [listed, known, root, Except.map]
  · rw [if_neg root, if_neg root]
    cases known : self.ids.objectId newParent <;> simp [listed, known, Except.map]

/-- A destination keeps its ID as more IDs get known. -/
theorem destWpdId_extends {self later : WpdDevice} {storage : StorageId} {newParent : ObjectHandle}
    {wpdId : String} (extended : later.ids.Extends self.ids)
    (known : self.destWpdId storage newParent = .ok wpdId) :
    later.destWpdId storage newParent = .ok wpdId := by
  unfold destWpdId at known ⊢
  split at known
  · next root =>
      rw [if_pos root]
      split at known
      · cases known
      · next other found =>
          rw [show later.ids.storageId storage = some other from extended _ _ found]
          exact known
  · next folder =>
      rw [if_neg folder]
      split at known
      · cases known
      · next other found =>
          rw [show later.ids.objectId newParent = some other from extended _ _ found]
          exact known

/-- The destination's own token. -/
theorem token_destWpdId {self : WpdDevice} {storage : StorageId} {newParent : ObjectHandle}
    {wpdId : String} (known : self.destWpdId storage newParent = .ok wpdId) :
    token wpdId = if newParent = ObjectHandle.root then storage else newParent := by
  unfold destWpdId at known
  split at known
  · next root =>
      rw [if_pos root]
      split at known
      · cases known
      · next other found =>
          cases known
          exact self.ids.own _ _ found
  · next folder =>
      rw [if_neg folder]
      split at known
      · cases known
      · next other found =>
          cases known
          exact self.ids.own _ _ found

/-- A listing of a destination has objects of it, and makes their tokens known; one that is not
cut has them all. -/
theorem list_ok {self later : WpdDevice} {content : Content} {children : String → List String}
    {storage : StorageId} {newParent : ObjectHandle} {wpdId : String} {objects : List ObjectEntry}
    {left : List NextResult} (known : self.destWpdId storage newParent = .ok wpdId)
    (listed : self.list content storage (folderOf newParent) (fun _ => false) =
      ((.ok objects, left), later)) :
    ∃ read, objects.map (·.handle) = read.map token ∧ later.ids.Interned self.ids read ∧
      (content.Truthful children → ∀ id ∈ read, id ∈ children wpdId) ∧
      (content.GivesAll children wpdId → ∀ id ∈ children wpdId, id ∈ read) := by
  have folder := self.listed_folderOf storage newParent
  rw [known] at folder
  have folder : self.listed storage (folderOf newParent) = .ok (wpdId, newParent) := folder
  cases opened : content.enumObjects wpdId with
  | error e =>
      rw [list, folder] at listed
      simp [opened] at listed
  | ok enumerator =>
      have loop := (enumChildrenLoop_eq 0 enumerator.results []).1
      have described := (listLoop_eq content newParent storage (fun _ => false) enumerator.results 0
        self.ids []).1 _ loop
      have interned := listLoop_interned content newParent storage (fun _ => false)
        enumerator.results 0 self.ids [] loop
      simp only [list, folder, opened, described, List.nil_append] at listed
      cases listed
      refine ⟨(enumChildrenLoop [] enumerator.results).1, ?_, interned, ?_, ?_⟩
      · rw [List.map_map]
        apply List.map_congr_left
        intro id _
        exact readObjectInfo_handle _ _ _ _
      · intro truthful id mem
        obtain ⟨next, inside, mem⟩ := mem_of_readBatches loop id mem
        exact truthful wpdId enumerator opened id (Enumeration.mem_ids inside mem)
      · intro givesAll id mem
        obtain ⟨all, steady⟩ := givesAll enumerator opened
        have read := Option.some.inj (loop.symm.trans (readBatches_steady steady))
        rw [congrArg Prod.fst read]
        exact all id mem

end WpdDevice

theorem newcomer_some {obj copy : ObjectHandle} {filename : String} {before : List ObjectHandle}
    {objects : List ObjectEntry} (found : newcomer obj filename before objects = some copy) :
    copy ≠ obj ∧ copy ∉ before ∧ copy ∈ objects.map (·.handle) := by
  unfold newcomer at found
  dsimp only at found
  obtain ⟨o, chosen, rfl⟩ := Option.map_eq_some_iff.mp found
  have mem : o ∈ objects.filter fun o => o.handle != obj && !before.contains o.handle := by
    cases Option.or_eq_some_iff.mp chosen with
    | inl named => exact List.mem_of_find?_eq_some named
    | inr sole =>
        rw [Option.ite_none_right_eq_some] at sole
        exact List.mem_of_mem_head? sole.2.2
  obtain ⟨listed, fresh⟩ := List.mem_filter.mp mem
  simp only [Bool.and_eq_true, bne_iff_ne, ne_eq, Bool.not_eq_eq_eq_not, Bool.not_true,
    List.contains_eq_mem, decide_eq_false_iff_not] at fresh
  exact ⟨fresh.1, fresh.2, List.mem_map_of_mem listed⟩

/-- The device as the façade's backend. -/
def CopyTarget.backend (self : CopyTarget) : CopyBackend WpdDevice where
  objectInfo := fun device obj => device.objectInfo self.before obj
  collect := fun device storage parent =>
    let ((listing, _), device) := device.list self.before storage parent (fun _ => false)
    (listing, device)
  copyObject := fun device obj newParent newStorage =>
    device.copyObject self obj newParent newStorage

/-- The copy is a child of the destination that was none of its children before, nor the source,
and its handle names it, or an ID with the same token. -/
structure CopyMade (childrenBefore childrenAfter : String → List String)
    (handle newParent : ObjectHandle) (storage : StorageId) (copy : ObjectHandle)
    (final : WpdDevice) (destId object named : String) : Prop where
  dest : final.destWpdId storage newParent = .ok destId
  place : token destId = if newParent = ObjectHandle.root then storage else newParent
  other : copy ≠ handle
  made : object ∈ childrenAfter destId
  own : token object = copy
  fresh : ∀ old ∈ childrenBefore destId, token old ≠ copy
  names : final.ids.objectId copy = some named
  same : token named = copy

/-- Every copy that is reported was made. -/
def CopyTarget.ReportsCopies (self : CopyTarget) (lower : String → String)
    (childrenBefore childrenAfter : String → List String) (device : WpdDevice) (id : StorageId)
    (handle newParent : ObjectHandle) (newStorage : Option StorageId) : Prop :=
  ∀ copy final, Mtp.copyObject lower self.backend device id handle newParent newStorage =
      (.ok copy, final) →
    ∃ destId object named, CopyMade childrenBefore childrenAfter handle newParent
      (newStorage.getD id) copy final destId object named

/-- The destination's listing before `Copy` is not cut. -/
def CopyTarget.ListsBefore (self : CopyTarget) (childrenBefore : String → List String)
    (newParent : ObjectHandle) (storage : StorageId) : Prop :=
  ∀ folder, token folder = (if newParent = ObjectHandle.root then storage else newParent) →
    self.before.GivesAll childrenBefore folder

theorem copyObject_made {target : CopyTarget} {childrenBefore childrenAfter : String → List String}
    (truthful : target.after.Truthful childrenAfter) {device final : WpdDevice}
    {handle newParent copy : ObjectHandle} {storage : StorageId}
    (whole : target.ListsBefore childrenBefore newParent storage)
    (reported : device.copyObject target handle newParent storage = (.ok copy, final)) :
    ∃ destId object named, CopyMade childrenBefore childrenAfter handle newParent storage copy final
      destId object named := by
  unfold WpdDevice.copyObject at reported
  split at reported
  · cases reported
  split at reported
  · cases reported
  split at reported
  · cases reported
  next described _ destId dest =>
  split at reported
  · cases reported
  next first =>
  split at reported
  · cases reported
  split at reported
  · cases reported
  next last =>
  split at reported
  · next found =>
      cases reported
      obtain ⟨readBefore, handlesBefore, knownBefore, _, all⟩ := WpdDevice.list_ok dest first
      have destLater := WpdDevice.destWpdId_extends knownBefore.1 dest
      obtain ⟨readAfter, handlesAfter, knownAfter, inside, _⟩ := WpdDevice.list_ok destLater last
      obtain ⟨other, fresh, listed⟩ := newcomer_some found
      rw [handlesBefore] at fresh
      rw [handlesAfter] at listed
      obtain ⟨object, made, rfl⟩ := List.mem_map.mp listed
      obtain ⟨named, names⟩ := knownAfter.2 object made
      have givesAll := whole destId (WpdDevice.token_destWpdId dest)
      exact ⟨destId, object, named, {
        dest := WpdDevice.destWpdId_extends knownAfter.1 destLater
        place := WpdDevice.token_destWpdId dest
        other
        made := inside truthful object made
        own := rfl
        fresh := fun old mem same => fresh (List.mem_map.mpr ⟨old, all givesAll old mem, same⟩)
        names
        same := IdMap.token_objectId names }⟩
  · cases reported

/-- Every copy that is reported is one, over WPD where the destination's listing before `Copy` is
not cut, and over USB exactly when the handle the device answers with is not taken for an object of
the destination that it is not, or that was there before. -/
theorem reported_copies_iff (lower : String → String) {peer : CopyPeer}
    {before after : UInt32 → Option Mtp.Place} (usb : StorageId) (usbParent : ObjectHandle)
    (usbStorage : Option StorageId)
    (truthful : peer.Truthful before after
      (Mtp.destination (Mtp.toPtp usbParent) (Mtp.toPtp (usbStorage.getD usb))))
    (target : CopyTarget) {childrenAfter : String → List String}
    (truthfulAfter : target.after.Truthful childrenAfter) :
    (∀ handle, peer.ReportsCopies lower before after usb handle usbParent usbStorage ↔
        peer.AnswersPlainly lower before after usb handle usbParent usbStorage) ∧
      ∀ childrenBefore device id handle newParent newStorage,
        target.ListsBefore childrenBefore newParent (newStorage.getD id) →
        target.ReportsCopies lower childrenBefore childrenAfter device id handle newParent
          newStorage := by
  constructor
  · intro handle
    exact CopyPeer.reportsCopies_iff lower handle truthful
  · intro childrenBefore device id handle newParent newStorage whole copy final reported
    obtain ⟨seen, _, backed⟩ :=
      (Mtp.copyObject_ok_iff lower target.backend device final id handle newParent copy
        newStorage).mp reported
    exact copyObject_made truthfulAfter whole backed

/-- A phone with one photo at the root and one, of another name, in the folder it is copied into. -/
def photosBefore (handle : UInt32) : Option Mtp.Place :=
  if handle = 1 ∨ handle = 2 then some ⟨0x10001, none⟩
  else if handle = 3 then some ⟨0x10001, some 2⟩
  else none

def photosAfter (handle : UInt32) : Option Mtp.Place :=
  if handle = 4 then some ⟨0x10001, some 2⟩ else photosBefore handle

def secondPhoto : Ptp.ObjectDataset :=
  { Ptp.ObjectDataset.empty with handle := 3, storageId := 0x10001, parent := 2, filename :=
    "b.jpg" }

def phoneAnswering (copy : UInt32) : CopyPeer where
  source := fun handle =>
    .ok { Ptp.ObjectDataset.empty with handle, storageId := 0x10001, filename := "a.jpg" }
  listing := fun _ _ => .ok ⟨1, [.ok (.fromPtp secondPhoto)]⟩
  answer := fun _ => .ok ⟨.ok, 0, [copy]⟩
  info := fun handle =>
    if handle = 3 ∨ handle = 4 then .ok { secondPhoto with handle }
    else .error (.protocol .invalidObjectHandle .getObjectInfo)

theorem phoneAnswering_truthful (copy : UInt32) :
    (phoneAnswering copy).Truthful photosBefore photosAfter (Mtp.destination 2 0x10001) where
  listed := by
    intro collection collected handle
    cases collected
    by_cases third : handle = 3
    · subst third
      decide
    · have apart : photosBefore handle ≠ some (Mtp.destination 2 0x10001) := by
        unfold photosBefore
        split
        · decide
        · simp
      exact iff_of_false (by simp [Mtp.ListedObject.fromPtp, secondPhoto, third]) apart
  info := by
    intro handle info described
    by_cases shown : handle = 3 ∨ handle = 4
    · simp only [phoneAnswering, if_pos shown] at described
      cases described
      refine ⟨⟨0x10001, some 2⟩, ?_, rfl, rfl⟩
      cases shown with
      | inl third => rw [third]; decide
      | inr fourth => rw [fourth]; decide
    · simp only [phoneAnswering, if_neg shown] at described
      cases described
  kept := by
    intro handle there
    by_cases third : handle = 3
    · subst third
      decide
    · unfold photosBefore at there
      split at there
      · exact absurd there (by decide)
      · simp at there

/-- What a device shows in each folder, of objects that all have one name. -/
def shownContent (name : String) (ids : List String) (fits : ids.length ≤ 32) : Content where
  getValues := fun _ => .ok ⟨some name, none, none, none, none, none, none⟩
  enumObjects := fun _ => .ok (enumerationOf ids fits)

/-- A device on which a copy into an empty folder makes an object. -/
def copiedPhoto : CopyTarget where
  before := shownContent "a.jpg" [] (by decide)
  after := shownContent "a.jpg" ["oC"] (by decide)
  copied := .ok ()

theorem shownContent_truthful (name : String) (ids : List String) (fits : ids.length ≤ 32) :
    (shownContent name ids fits).Truthful fun _ => ids := by
  intro parent enumerator opened id mem
  cases opened
  simpa [Enumeration.ids, enumerationOf] using mem

theorem shownContent_givesAll (name : String) (ids : List String) (fits : ids.length ≤ 32)
    (folder : String) : (shownContent name ids fits).GivesAll (fun _ => ids) folder := by
  intro enumerator opened
  cases opened
  refine ⟨fun id mem => by simpa [Enumeration.ids, enumerationOf] using mem, ?_⟩
  intro next mem misleads
  rw [Enumeration.results, enumerationOf, List.map_nil, List.nil_append,
    List.mem_singleton] at mem
  subst mem
  cases misleads with
  | inl failed => exact absurd (show sFalse.Failed from failed) (by decide)
  | inr ok => exact absurd (show sFalse = sOk from ok.1) (by decide)

/-- Two phones that answer with the copy they made. -/
theorem reported_copies_of_photo :
    (phoneAnswering 4).ReportsCopies (fun s => s) photosBefore photosAfter 0x10001 1 2 none ∧
      CopyTarget.ReportsCopies copiedPhoto (fun s => s) (fun _ => []) (fun _ => ["oC"])
        ⟨((IdMap.new.storage "s10001").2.object "oA").2, ["s10001"]⟩ (token "s10001") (token "oA")
        ObjectHandle.root none := by
  have both := reported_copies_iff (fun s => s) 0x10001 2 none (phoneAnswering_truthful 4)
    copiedPhoto (shownContent_truthful "a.jpg" ["oC"] (by decide))
  constructor
  · apply (both.1 1).mpr
    intro _ copy sent
    cases sent
    rintro ⟨_, info, place, _, found, _, wrong⟩
    cases found
    cases wrong with
    | inl earlier => exact absurd earlier (by decide)
    | inr elsewhere => exact elsewhere (by decide)
  · exact both.2 _ _ _ _ _ _ fun folder _ => shownContent_givesAll "a.jpg" [] (by decide) folder

/-- A device that knows a storage and an object. -/
def knownPhoto : WpdDevice := ⟨((IdMap.new.storage "s10001").2.object "oA").2, ["s10001"]⟩

theorem no_batches : ∀ batch ∈ ([] : List (List String)), batch.length ≤ 32 :=
  fun _ mem => absurd mem List.not_mem_nil

/-- A device whose listing fails at once before `Copy`, makes no copy, and shows what was there. -/
def uncopiedPhoto : CopyTarget where
  before := { shownContent "b.jpg" [] (by decide) with
    enumObjects := fun _ => .ok { cutEnumeration with batches := [], batched := no_batches } }
  after := shownContent "b.jpg" ["oB"] (by decide)
  copied := .ok ()

/-- The photo that was in the folder already is reported as the copy: over USB for the handle the
phone answers with, over WPD for a listing that is cut. -/
theorem sibling_reported :
    ((phoneAnswering 3).Truthful photosBefore photosAfter (Mtp.destination 2 0x10001) ∧
      ¬ (phoneAnswering 3).ReportsCopies (fun s => s) photosBefore photosAfter 0x10001 1 2 none) ∧
    uncopiedPhoto.before.Truthful (fun _ => ["oB"]) ∧
      uncopiedPhoto.after.Truthful (fun _ => ["oB"]) ∧
      ¬ uncopiedPhoto.ReportsCopies (fun s => s) (fun _ => ["oB"]) (fun _ => ["oB"]) knownPhoto
        (token "s10001") (token "oA") ObjectHandle.root none := by
  refine ⟨⟨phoneAnswering_truthful 3, fun genuine => ?_⟩, ?_,
    shownContent_truthful "b.jpg" ["oB"] (by decide), fun genuine => ?_⟩
  · obtain ⟨_, object, same, _, fresh⟩ := genuine 3 (by decide)
    cases (show 3 = object from Mtp.ofPtp_injective same)
    exact fresh (by decide)
  · intro parent enumerator opened id mem
    cases opened
    cases mem
  · obtain ⟨_, _, _, made⟩ := genuine (token "oB") _ rfl
    exact made.fresh "oB" List.mem_cons_self rfl

end Wpd
