import MtpRs.VirtualDevice.Containers
import MtpRs.VirtualDevice.Descriptions
import MtpRs.VirtualDevice.GuardedOperations

set_option autoImplicit false

/- The modification time of an upload, from the announcement to the description of the object. -/
namespace VirtualDevice

open Files (Disk Path)
open Ptp (Bytes DateTime ObjectDataset OperationCode UtcOffset isValid_iff maxUnixSeconds
  minUnixSeconds packHeader packU32)

theorem buildResponse_inj {code code' : UInt16} {txId txId' : UInt32} {params params' : List UInt32}
    (same : buildResponse code txId params = buildResponse code' txId' params') :
    code = code' ∧ params = params' := by
  obtain ⟨headers, words⟩ := List.append_inj same rfl
  have front := congrArg (fun header => Ptp.unpackHeader (header ++ [])) headers
  simp only [Ptp.unpackHeader_packHeader, Except.ok.injEq, Ptp.ContainerHeader.mk.injEq] at front
  have back := congrArg readParams words
  rw [readParams_flatMap, readParams_flatMap] at back
  exact ⟨front.2.2.1, back⟩

theorem writeInDir_made {host : Host} {disk after : Disk} {path : Path} {data : Bytes}
    (wrote : writeInDir host disk path data = (true, after)) : after.holdsFile path := by
  unfold writeInDir at wrote
  split at wrote
  · exact Files.Host.write_made wrote
  · split at wrote
    · cases wrote
    · exact Files.Host.write_made wrote

namespace VirtualDeviceState

variable {host : Host} {self : VirtualDeviceState} {code : UInt16} {txId : UInt32}
  {params : List UInt32} {dataPayload : Option Bytes}

theorem respond_ok {sent : List UInt32}
    (answered : (self.respond code txId params).responseQueue =
      self.responseQueue ++ [buildResponse Code.ok txId sent]) :
    code = Code.ok ∧ params = sent :=
  buildResponse_inj (List.singleton_inj.mp (List.append_cancel_left answered))

theorem dispatch_sendObjectInfo :
    self.dispatch host OperationCode.sendObjectInfo.toCode txId params dataPayload =
      if self.sessionOpen = false then some (self.respond Code.sessionNotOpen txId [])
      else some (self.handleSendObjectInfo host txId params dataPayload) := rfl

theorem dispatch_sendObject :
    self.dispatch host OperationCode.sendObject.toCode txId params dataPayload =
      if self.sessionOpen = false then some (self.respond Code.sessionNotOpen txId [])
      else some (self.handleSendObject host txId dataPayload) := rfl

theorem dispatch_getObjectInfo :
    self.dispatch host OperationCode.getObjectInfo.toCode txId params dataPayload =
      if self.sessionOpen = false then some (self.respond Code.sessionNotOpen txId [])
      else some (self.handleGetObjectInfo OperationCode.getObjectInfo.toCode txId params) := rfl

/-- Only the handler answers with a success. -/
theorem answered_sendObjectInfo {after : VirtualDeviceState} {sent : List UInt32}
    (answered : self.dispatch host OperationCode.sendObjectInfo.toCode txId params dataPayload =
      some after)
    (accepted : after.responseQueue = self.responseQueue ++ [buildResponse Code.ok txId sent]) :
    self.sessionOpen = true ∧ after = self.handleSendObjectInfo host txId params dataPayload := by
  rw [dispatch_sendObjectInfo] at answered
  split at answered
  · cases answered
    exact absurd (respond_ok accepted).1 (by decide)
  · next session =>
      cases answered
      exact ⟨by simpa using session, rfl⟩

theorem checkSendObjectInfo_info {target : SendTarget} {data : Bytes} {info : ObjectDataset}
    (checked : self.checkSendObjectInfo params (some data) = .ok target)
    (sent : ObjectDataset.fromBytes data = .ok info) : target.info = info := by
  unfold checkSendObjectInfo at checked
  dsimp only at checked
  rw [sent] at checked
  split at checked
  · cases checked
  · split at checked
    · cases checked
    · simp only [bind, Except.bind] at checked
      repeat' split at checked
      all_goals cases checked
      all_goals rfl

/-- What an announcement that is accepted leaves behind: the upload, where it is a file's. -/
theorem handleSendObjectInfo_ok {storage parent handle : UInt32}
    (accepted : (self.handleSendObjectInfo host txId params dataPayload).responseQueue =
      self.responseQueue ++ [buildResponse Code.ok txId [storage, parent, handle]]) :
    ∃ target, self.checkSendObjectInfo params dataPayload = .ok target ∧
      (self.handleSendObjectInfo host txId params dataPayload).pendingSend =
        (if (target.pending self.config handle).isFolder then none
          else some (target.pending self.config handle)) ∧
      (self.handleSendObjectInfo host txId params dataPayload).config = self.config ∧
      (self.handleSendObjectInfo host txId params dataPayload).sessionOpen = self.sessionOpen := by
  unfold handleSendObjectInfo at accepted ⊢
  split at accepted
  · obtain ⟨-, short⟩ := respond_ok accepted
    cases short
  · next target checked =>
      dsimp only at accepted
      split at accepted
      · obtain ⟨-, short⟩ := respond_ok accepted
        cases short
      · next valid =>
          split at accepted
          · obtain ⟨-, short⟩ := respond_ok accepted
            cases short
          · next disk made =>
              obtain ⟨-, sent⟩ := respond_ok accepted
              simp only [List.cons.injEq, and_true] at sent
              rw [checked]
              dsimp only
              rw [if_neg valid, made, sent.2.2]
              exact ⟨target, rfl, rfl, rfl, rfl⟩

theorem checkSendObject_error {pending : PendingSendInfo}
    (refused : self.checkSendObject pending = .error code) : code ≠ Code.ok := by
  unfold checkSendObject at refused
  split at refused
  · cases refused
    decide
  · simp only [bind, Except.bind] at refused
    repeat' split at refused
    all_goals cases refused
    all_goals decide

/-- What an upload that is taken leaves behind. -/
theorem handleSendObject_ok {pending : PendingSendInfo} (waiting : self.pendingSend = some pending)
    (file : pending.isFolder = false)
    (finished : (self.handleSendObject host txId dataPayload).responseQueue =
      self.responseQueue ++ [buildResponse Code.ok txId []]) :
    ∃ storage relPath disk, self.findStorage pending.storageId = some storage ∧
      writeInDir host self.disk (storage.config.backingDir.join relPath) (dataPayload.getD []) =
        (true, disk) ∧
      (self.handleSendObject host txId dataPayload).disk =
        stamp host disk (storage.config.backingDir.join relPath) pending.modified ∧
      (self.handleSendObject host txId dataPayload).objects.lookup pending.assignedHandle =
        some ⟨relPath, pending.storageId, pending.parent⟩ ∧
      (self.handleSendObject host txId dataPayload).config = self.config ∧
      (self.handleSendObject host txId dataPayload).storages = self.storages ∧
      (self.handleSendObject host txId dataPayload).sessionOpen = self.sessionOpen := by
  unfold handleSendObject at finished ⊢
  simp only [waiting, file, Bool.false_eq_true, ↓reduceIte] at finished ⊢
  split at finished
  · next code refused =>
      exact absurd (respond_ok finished).1 (checkSendObject_error refused)
  · next storage relPath checked =>
      have found : self.findStorage pending.storageId = some storage :=
        (checkSendObject_ok checked).1
      split at finished
      · exact absurd (respond_ok finished).1 (by decide)
      · next disk wrote =>
          exact ⟨storage, relPath, disk, found, wrote, rfl, AList.lookup_insert _, rfl, rfl, rfl⟩

theorem objectFacts_some {handle : UInt32} {obj : VirtualObject} {storage : VirtualStorageState}
    {node : Files.Node} (tracked : self.objects.lookup handle = some obj)
    (found : self.findStorage obj.storageId = some storage)
    (there : self.disk.metadata (storage.config.backingDir.join obj.relPath) = some node) :
    ∃ facts, self.objectFacts handle = some facts ∧ facts.modified = node.modified := by
  unfold objectFacts
  simp only [Option.bind_eq_bind, tracked, Option.bind_some, found, there]
  exact ⟨_, rfl, rfl⟩

/-- The time that came with an upload is the file's. -/
theorem handleSendObject_facts {pending : PendingSendInfo} {time : Int}
    (waiting : self.pendingSend = some pending) (file : pending.isFolder = false)
    (stamped : pending.modified = some time)
    (finished : (self.handleSendObject host txId dataPayload).responseQueue =
      self.responseQueue ++ [buildResponse Code.ok txId []])
    (keeps : ∀ disk location, host.files.refuses disk (.setModified location) = none) :
    ∃ facts, (self.handleSendObject host txId dataPayload).objectFacts pending.assignedHandle =
      some facts ∧ facts.modified = some time := by
  obtain ⟨storage, relPath, disk, found, wrote, onDisk, tracked, -, storages, -⟩ :=
    handleSendObject_ok waiting file finished
  obtain ⟨after, node, set, there, modified⟩ := @Files.Host.setModified_made host.files disk
    (storage.config.backingDir.join relPath) time (writeInDir_made wrote) (keeps disk)
  have same : (self.handleSendObject host txId dataPayload).disk = after := by
    rw [onDisk, stamped, stamp, set, Option.getD_some]
  have owner : (self.handleSendObject host txId dataPayload).findStorage pending.storageId =
      some storage := by
    rw [findStorage, storages]
    exact found
  rw [← same] at there
  obtain ⟨facts, known, dated⟩ := objectFacts_some tracked owner there
  exact ⟨facts, known, dated.trans modified⟩

theorem handleGetObjectInfo_facts {opCode : UInt16} {handle : UInt32} {facts : ObjectFacts}
    (described : self.descriptionRefusal handle = none)
    (known : self.objectFacts handle = some facts) :
    ∃ report, self.handleGetObjectInfo opCode txId [handle] =
        self.respondData opCode txId report ∧
      ObjectDataset.fromBytes report = .ok (self.describe facts).received.toObjectDataset := by
  obtain ⟨report, built, read⟩ := read_buildObjectInfo known
  have first : param [handle] 0 = handle := rfl
  refine ⟨report, ?_, read⟩
  rw [handleGetObjectInfo, first, described, built]

end VirtualDeviceState

open VirtualDeviceState

/-- The modification time that was sent is the one described, wherever it can be written. -/
theorem stored_time (host : Host) (self announced stored : VirtualDeviceState)
    (txId sendId infoId storage parent handle : UInt32) (params sendParams : List UInt32)
    (data : Bytes) (body : Option Bytes) (info : ObjectDataset) (m : DateTime)
    (valid : m.isValid = true) (sent : ObjectDataset.fromBytes data = .ok info)
    (dated : info.modified = some m)
    (announce : self.dispatch host OperationCode.sendObjectInfo.toCode txId params (some data) =
      some announced)
    (accepted : announced.responseQueue =
      self.responseQueue ++ [buildResponse Code.ok txId [storage, parent, handle]])
    (complete : announced.dispatch host OperationCode.sendObject.toCode sendId sendParams body =
      some stored)
    (finished : stored.responseQueue =
      announced.responseQueue ++ [buildResponse Code.ok sendId []])
    (keeps : ∀ disk location, host.files.refuses disk (.setModified location) = none)
    (described : stored.descriptionRefusal handle = none) :
    ∃ secs report reported,
      m.toUnixSecondsWithFallback self.config.utcOffset = some secs ∧
      stored.dispatch host OperationCode.getObjectInfo.toCode infoId [handle] none =
        some (stored.respondData OperationCode.getObjectInfo.toCode infoId report) ∧
      ObjectDataset.fromBytes report = .ok reported ∧
      (minUnixSeconds ≤ secs + self.config.utcOffset.seconds →
        secs + self.config.utcOffset.seconds ≤ maxUnixSeconds →
        ∃ m', reported.modified = some m' ∧
          m'.toUnixSecondsWithFallback self.config.utcOffset = some secs) ∧
      (m.offset = none → ∃ m', reported.modified = some m' ∧ m'.clock = m.clock) := by
  have real := isValid_iff.mp valid
  have instant : m.toUnixSecondsWithFallback self.config.utcOffset =
      some (m.wallSeconds - (m.offset.getD self.config.utcOffset).seconds) :=
    Ptp.toUnixSecondsWithFallback_eq real
  generalize resolved : m.wallSeconds - (m.offset.getD self.config.utcOffset).seconds = secs
    at instant
  obtain ⟨session, rfl⟩ := answered_sendObjectInfo announce accepted
  obtain ⟨target, checked, waiting, config, inSession⟩ := handleSendObjectInfo_ok accepted
  have same := checkSendObjectInfo_info checked sent
  have stamped : (target.pending self.config handle).modified = some (systemTimeFromUnix secs) := by
    rw [SendTarget.pending, same, dated]
    dsimp only [bind, Option.bind]
    rw [instant]
  generalize self.handleSendObjectInfo host txId params (some data) = announced at *
  have received : stored = announced.handleSendObject host sendId body := by
    rw [dispatch_sendObject, inSession, session, if_neg (by decide)] at complete
    exact (Option.some.inj complete).symm
  subst received
  by_cases folder : (target.pending self.config handle).isFolder = true
  · rw [if_pos folder] at waiting
    rw [handleSendObject, waiting] at finished
    exact absurd (respond_ok finished).1 (by decide)
  · rw [if_neg folder] at waiting
    rw [Bool.not_eq_true] at folder
    obtain ⟨facts, known, modified⟩ := handleSendObject_facts waiting folder stamped finished keeps
    obtain ⟨-, -, -, -, -, -, -, config', -, session'⟩ :=
      handleSendObject_ok waiting folder finished
    generalize announced.handleSendObject host sendId body = stored at *
    obtain ⟨report, answered, read⟩ := @handleGetObjectInfo_facts stored infoId
      OperationCode.getObjectInfo.toCode handle facts described known
    have device : stored.config = self.config := config'.trans config
    have dates : minUnixSeconds ≤ secs + self.config.utcOffset.seconds →
        secs + self.config.utcOffset.seconds ≤ maxUnixSeconds →
        ∃ m', (stored.describe facts).received.modified = some m' ∧ m'.Real ∧
          m'.toUnixSecondsWithFallback self.config.utcOffset = some secs ∧
          m'.wallSeconds = secs + self.config.utcOffset.seconds := by
      intro low high
      rw [← device] at low high ⊢
      obtain ⟨m', date, written⟩ := fileDate_second low high
      rw [← modified] at date
      exact ⟨m', date, written⟩
    refine ⟨secs, report, _, instant, ?_, read, ?_, ?_⟩
    · rw [dispatch_getObjectInfo, session', inSession, session, if_neg (by decide), answered]
    · intro low high
      obtain ⟨m', date, -, back, -⟩ := dates low high
      exact ⟨m', date, back⟩
    · intro zoneless
      have clock : secs + self.config.utcOffset.seconds = m.wallSeconds := by
        rw [← resolved, zoneless, Option.getD_none, Int.sub_add_cancel]
      have within := real.wall
      obtain ⟨m', date, written, -, wall⟩ := dates (by omega) (by omega)
      exact ⟨m', date, Ptp.clock_eq_of_wallSeconds_eq written real (wall.trans clock)⟩

/-- A device in India, in a session. -/
def indianDevice : VirtualDeviceState :=
  { VirtualDeviceState.new ⟨"", "", "", [⟨"", 0, ⟨[.rootDir]⟩, false⟩], false, false, false, false,
      [], [], Ptp.halfPastFive, true⟩ .bare with sessionOpen := true }

def oldUpload : ObjectDataset :=
  { ObjectDataset.empty with
    filename := "a"
    modified := some ⟨1969, 12, 31, 23, 0, 0, none⟩ }

def oldAnnounced : VirtualDeviceState :=
  indianDevice.handleSendObjectInfo Host.usual 1 [0x00010001, 0xFFFFFFFF]
    oldUpload.toBytes.toOption

def oldStored : VirtualDeviceState :=
  oldAnnounced.handleSendObject Host.usual 2 (some [0x68])

theorem stored_time_old :
    ∃ secs report reported,
      DateTime.toUnixSecondsWithFallback ⟨1969, 12, 31, 23, 0, 0, none⟩
        indianDevice.config.utcOffset = some secs ∧
      oldStored.dispatch Host.usual OperationCode.getObjectInfo.toCode 3 [1] none =
        some (oldStored.respondData OperationCode.getObjectInfo.toCode 3 report) ∧
      ObjectDataset.fromBytes report = .ok reported ∧
      (minUnixSeconds ≤ secs + indianDevice.config.utcOffset.seconds →
        secs + indianDevice.config.utcOffset.seconds ≤ maxUnixSeconds →
        ∃ m', reported.modified = some m' ∧
          m'.toUnixSecondsWithFallback indianDevice.config.utcOffset = some secs) ∧
      ((none : Option UtcOffset) = none → ∃ m', reported.modified = some m' ∧
        m'.clock = [1969, 12, 31, 23, 0, 0]) :=
  stored_time Host.usual indianDevice oldAnnounced oldStored 1 2 3 0x00010001 0 1
    [0x00010001, 0xFFFFFFFF] [] (oldUpload.toBytes.toOption.getD []) (some [0x68]) oldUpload
    ⟨1969, 12, 31, 23, 0, 0, none⟩ (by decide) (by decide +kernel) rfl rfl (by decide +kernel) rfl
    (by decide +kernel) (fun _ _ => rfl) (by decide +kernel)

end VirtualDevice
