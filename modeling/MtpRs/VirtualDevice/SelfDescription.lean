import MtpRs.Mtp.Capabilities
import MtpRs.VirtualDevice.Descriptions
import MtpRs.VirtualDevice.Uploads

set_option autoImplicit false

/- What a device says it is and can do, against what it was set up as and what it does. -/
namespace VirtualDevice

open Files (Disk)
open Mtp (Capabilities UsbBackend)
open Ptp (Bytes DeviceInfo EventCode ObjectFormatCode OperationCode PtpError ResponseCode
  checkResponse packString packU16 packU16Array packU32 receivedText writes_string writes_u16
  writes_u16Array writes_u32)
open Readers (Reader Writes)
open Runs (Run)

theorem receivedText_fittingPart {s : String} (fits : (Ptp.encodeUtf16 s).length ≤ 254)
    (plain : '\x00' ∉ s.toList) : receivedText (fittingPart s) = s := by
  rw [fittingPart_eq fits, Ptp.receivedText_eq_iff.mpr plain]

theorem flatMap_packU16_length (units : List UInt16) :
    (units.flatMap packU16).length = 2 * units.length := by
  induction units with
  | nil => rfl
  | cons unit rest ih =>
      rw [List.flatMap_cons, List.length_append, Ptp.packU16_length, ih, List.length_cons]
      omega

/-- A string on the wire: its length in one byte, and two for each unit. -/
theorem packDeviceString_length (s : String) : (packDeviceString s).length ≤ 511 := by
  have packed := packString_fittingPart s
  unfold packString at packed
  split at packed
  · rw [← Except.ok.inj packed]
    decide
  · dsimp only at packed
    split at packed
    · cases packed
    · next fits =>
        rw [← Except.ok.inj packed]
        unfold Ptp.maxStringUnits at fits
        rw [List.length_append, List.length_cons, flatMap_packU16_length]
        simp only [List.length_cons, List.length_nil]
        omega

namespace VirtualDeviceState

/-- The dataset a device describes itself with, as it comes over the wire. -/
def deviceInfo (self : VirtualDeviceState) : DeviceInfo where
  standardVersion := 100
  vendorExtensionId := 6
  vendorExtensionVersion := 100
  vendorExtensionDesc := "microsoft.com: 1.0"
  functionalMode := 0
  operationsSupported := self.operationsSupported
  eventsSupported := [.objectAdded, .objectRemoved, .storageInfoChanged]
  devicePropertiesSupported := []
  captureFormats := []
  playbackFormats := [.undefined, .association, .text, .jpeg, .png, .mp3, .mp4Container]
  manufacturer := receivedText (fittingPart self.config.manufacturer)
  model := receivedText (fittingPart self.config.model)
  deviceVersion := "1.0.0"
  serialNumber := receivedText (fittingPart self.config.serial)

section

variable (self : VirtualDeviceState)

theorem operations_read : (self.operationsSupported.map OperationCode.toCode).map
    OperationCode.ofCode = self.operationsSupported := by
  unfold operationsSupported
  cases self.config.supportsPartialObject <;> cases self.config.supportsPartialObject64 <;>
    cases self.config.supportsRename <;> cases self.config.supportsObjectPropList <;> rfl

theorem operations_few : self.operationsSupported.length ≤ 19 := by
  unfold operationsSupported
  have flagged := List.length_filter_le Prod.fst
    [(self.config.supportsPartialObject, OperationCode.getPartialObject),
      (self.config.supportsPartialObject64, .getPartialObject64),
      (self.config.supportsRename, .setObjectPropValue),
      (self.config.supportsObjectPropList, .getObjectPropList)]
  simp only [List.length_append, List.length_map, List.length_cons, List.length_nil] at flagged ⊢
  omega

theorem read_head : Writes DeviceInfo.readHead
    (packU16 100 ++ (packU32 6 ++ (packU16 100 ++ (packDeviceString "microsoft.com: 1.0" ++
      packU16 0)))) ⟨100, 6, 100, "microsoft.com: 1.0", 0⟩ := by
  have desc := writes_packDeviceString "microsoft.com: 1.0"
  rw [receivedText_fittingPart (by decide) (by decide)] at desc
  exact (writes_u16 100).bind ((writes_u32 6).bind ((writes_u16 100).bind
    (desc.bind (writes_u16 0).return)))

/-- A host reads the dataset that was meant. -/
theorem read_buildDeviceInfo : DeviceInfo.fromBytes self.buildDeviceInfo = .ok self.deviceInfo := by
  have few := self.operations_few
  have version := writes_packDeviceString "1.0.0"
  rw [receivedText_fittingPart (by decide) (by decide)] at version
  have operations : Writes Ptp.unpackU16Array
      (packU16Array (self.operationsSupported.map OperationCode.toCode))
      (self.operationsSupported.map OperationCode.toCode) :=
    writes_u16Array (by rw [List.length_map]; omega)
  have codes : ∀ array : List UInt16, array.length ≤ 7 →
      Writes Ptp.unpackU16Array (packU16Array array) array :=
    fun _ few => writes_u16Array (by omega)
  have events := codes [EventCode.objectAdded.toCode, EventCode.objectRemoved.toCode,
    EventCode.storageInfoChanged.toCode] (by decide)
  have none := codes [] (by decide)
  have playback := codes [ObjectFormatCode.undefined.toCode, ObjectFormatCode.association.toCode,
    ObjectFormatCode.text.toCode, ObjectFormatCode.jpeg.toCode, ObjectFormatCode.png.toCode,
    ObjectFormatCode.mp3.toCode, ObjectFormatCode.mp4Container.toCode] (by decide)
  have reads : Writes DeviceInfo.read _ { self.deviceInfo with
      operationsSupported :=
        (self.operationsSupported.map OperationCode.toCode).map OperationCode.ofCode } :=
    read_head.bind (operations.bind (events.bind (none.bind (none.bind (playback.bind
      ((writes_packDeviceString self.config.manufacturer).bind
        ((writes_packDeviceString self.config.model).bind (version.bind
          (writes_packDeviceString self.config.serial).return))))))))
  rw [operations_read] at reads
  have result := reads.result
  simp only [List.append_assoc] at result
  rw [DeviceInfo.fromBytes, buildDeviceInfo]
  simp only [List.flatten_cons, List.flatten_nil, List.append_nil]
  rw [result]
  rfl

theorem buildDeviceInfo_short : 12 + self.buildDeviceInfo.length < 2 ^ 32 := by
  have few := self.operations_few
  have manufacturer := packDeviceString_length self.config.manufacturer
  have model := packDeviceString_length self.config.model
  have serial := packDeviceString_length self.config.serial
  have desc := packDeviceString_length "microsoft.com: 1.0"
  have version := packDeviceString_length "1.0.0"
  have array : ∀ array : List UInt16, (packU16Array array).length = 4 + 2 * array.length := by
    intro array
    rw [packU16Array, List.length_append, Ptp.packU32_length, flatMap_packU16_length]
  rw [buildDeviceInfo]
  simp only [List.flatten_cons, List.flatten_nil, List.length_append, array, Ptp.packU16_length,
    Ptp.packU32_length, List.length_map, List.length_cons, List.length_nil]
  omega

end

/-- `get_device_info`, from the device. Its transport does not care how to cancel. -/
def getDeviceInfo (host : Host) (txId : UInt32) (self : VirtualDeviceState) :
    Option (Except PtpError DeviceInfo × VirtualDeviceState) :=
  ((Request.executeWithReceive .getDeviceInfo []).exchange host txId self).map
    fun (result, after) =>
      (do
        let (response, data) ← result
        checkResponse response .getDeviceInfo
        DeviceInfo.fromBytes data, after)

section

variable {host : Host} {state : VirtualDeviceState} {txId : UInt32} {opCode : UInt16}
  {params : List UInt32} {dataPayload : Option Bytes}

theorem getDeviceInfo_answered (idle : Idle state) :
    state.getDeviceInfo host txId = some (.ok state.deviceInfo, state) := by
  have exchanged : (Request.executeWithReceive .getDeviceInfo []).exchange host txId state =
      some (.ok (⟨.ofCode Code.ok, txId, []⟩, state.buildDeviceInfo), state) :=
    exchange_respondData idle rfl rfl rfl state.buildDeviceInfo_short
  have accepted : checkResponse ⟨.ofCode Code.ok, txId, []⟩ .getDeviceInfo = .ok () := rfl
  rw [getDeviceInfo, exchanged, Option.map_some]
  simp only [bind, Except.bind, accepted, read_buildDeviceInfo]

/-- What a device does not list it does not do. -/
theorem dispatch_unlisted (opened : state.sessionOpen = true)
    (unlisted : OperationCode.ofCode opCode ∉ state.operationsSupported) :
    state.dispatch host opCode txId params dataPayload =
      some (state.respond Code.operationNotSupported txId []) := by
  have session : ¬ state.sessionOpen = false := by simp [opened]
  unfold operationsSupported at unlisted
  unfold VirtualDeviceState.dispatch
  generalize OperationCode.ofCode opCode = op at unlisted ⊢
  cases op with
  | getPartialObject =>
      have off : ¬ state.config.supportsPartialObject = true := by
        intro on
        simp [on] at unlisted
      simp only [if_neg session, if_neg off]
  | getPartialObject64 =>
      have off : ¬ state.config.supportsPartialObject64 = true := by
        intro on
        simp [on] at unlisted
      simp only [if_neg session, if_neg off]
  | getObjectPropList =>
      have off : ¬ state.config.supportsObjectPropList = true := by
        intro on
        simp [on] at unlisted
      simp only [if_neg session, if_neg off]
  | setObjectPropValue =>
      have off : state.config.supportsRename = false := by
        rw [Bool.eq_false_iff]
        intro on
        simp [on] at unlisted
      simp only [if_neg session]
      unfold handleSetObjectPropValue checkRename
      rw [if_pos off]
  | getDeviceInfo | openSession | closeSession | getStorageIds | getStorageInfo
  | getObjectHandles | getObjectInfo | getObject | getThumb | sendObjectInfo | sendObject
  | deleteObject | moveObject | copyObject | getObjectPropValue =>
      simp at unlisted
  | _ => simp only [if_neg session]

/-- A refusal is what the session returns, and nothing has changed. -/
theorem exchange_respond {request : Request} {code : UInt16} (idle : Idle state)
    (matched : request.matched = true)
    (dispatched : request.dispatch host txId state = some (state.respond code txId [])) :
    request.exchange host txId state = some (.ok (⟨.ofCode code, txId, []⟩, []), state) := by
  have queue : (state.respond code txId []).responseQueue = [buildResponse code txId []] := by
    rw [respond, idle.replied]
    rfl
  have answered : Answered request.operation.toCode txId
      (state.respond code txId []).responseQueue ⟨.ofCode code, txId, []⟩ [] := by
    rw [queue]
    exact .response code [] (Nat.zero_le _)
  have fits : ∀ reply ∈ (state.respond code txId []).responseQueue, reply.length < 2 ^ 32 := by
    rw [queue]
    intro reply mem
    have size : (buildResponse code txId []).length = 12 := rfl
    rw [List.mem_singleton.mp mem, size]
    decide
  rw [Request.exchange_answered idle matched dispatched answered fits]
  exact congrArg (fun after => some (Except.ok (_, []), after)) (emptied idle)

theorem supportsOperation_deviceInfo (op : OperationCode) :
    state.deviceInfo.supportsOperation op = decide (op ∈ state.operationsSupported) :=
  List.contains_eq_mem ..

theorem listed_partial64 :
    (UsbBackend.new state.deviceInfo).hasPartialObject64 =
      state.config.supportsPartialObject64 := by
  simp only [UsbBackend.new, supportsOperation_deviceInfo]
  simp [operationsSupported]

theorem listed_partial :
    (UsbBackend.new state.deviceInfo).hasPartialObject = state.config.supportsPartialObject := by
  simp only [UsbBackend.new, supportsOperation_deviceInfo]
  simp [operationsSupported]

/-- What a host makes of the operations listed. -/
theorem listed_capabilities : Capabilities.fromPtpDeviceInfo state.deviceInfo =
    { canUpload := true, canDelete := true, canRename := state.config.supportsRename
      canMove := true, canCopy := true, canCreateFolder := true
      supportsPartialDownload :=
        state.config.supportsPartialObject64 || state.config.supportsPartialObject
      supportsThumbnails := true, supportsEvents := true } := by
  have events : state.deviceInfo.eventsSupported.isEmpty = false := rfl
  unfold Capabilities.fromPtpDeviceInfo DeviceInfo.supportsRename
  simp only [supportsOperation_deviceInfo, events]
  simp [operationsSupported]

/-- It does not pass for Android's. -/
theorem not_android : state.deviceInfo.runsAndroidMtpServer = false := by
  have plain : ¬ "android.com".toList <:+: "microsoft.com: 1.0".toList.map Char.toLower := by
    decide
  refine Bool.or_eq_false_iff.mpr ⟨decide_eq_false plain, ?_⟩
  unfold deviceInfo operationsSupported
  cases state.config.supportsPartialObject <;> cases state.config.supportsPartialObject64 <;>
    cases state.config.supportsRename <;> cases state.config.supportsObjectPropList <;> rfl

end

end VirtualDeviceState

section

variable {host : Host} {state next : VirtualDeviceState} {occurrence : Occurrence}
  {happening : Happening}

theorem Happens.standing (happens : Happens host state occurrence next) :
    next.standing = state.standing := by
  cases ops : occurrence.isOperation with
  | false => exact (happens.quiet ops).2
  | true =>
      cases occurrence with
      | operation opCode txId params dataPayload =>
          exact VirtualDeviceState.dispatch_standing happens
      | _ => cases ops

/-- What a device is set up as does not change. -/
theorem config_of_run {config : VirtualDeviceConfig} {disk : Disk} {happenings : List Happening}
    (run : Run (Converses host) (.new config disk) happenings state) : state.config = config := by
  have kept := run.invariant (fun state => Ready state ∧ state.config = config)
    (fun state happening next held converses => by
      obtain ⟨after, happens, same⟩ := held.1.happens converses
      refine ⟨held.1.converses converses, ?_⟩
      rw [same]
      exact (Prod.mk.inj happens.standing).1.trans held.2) ⟨ready_new config disk, rfl⟩
  exact kept.2

end

/-- After every conversation a device tells the host, and changes nothing by it, the strings it was
set up with as far as they go and the operations it was set up to do; what it does not list it
refuses, and changes nothing then either. -/
theorem device_described (host : Host) (config : VirtualDeviceConfig) (disk : Disk)
    (happenings : List Happening) (state : VirtualDeviceState)
    (run : Run (Converses host) (.new config disk) happenings state) (txId : UInt32) :
    ∃ info, state.getDeviceInfo host txId = some (.ok info, state) ∧
      Mtp.DeviceInfo.fromPtp info = ⟨receivedText (fittingPart config.manufacturer),
        receivedText (fittingPart config.model), receivedText (fittingPart config.serial),
          "1.0.0"⟩ ∧
      Capabilities.fromPtpDeviceInfo info =
        { canUpload := true, canDelete := true, canRename := config.supportsRename
          canMove := true, canCopy := true, canCreateFolder := true
          supportsPartialDownload :=
            config.supportsPartialObject64 || config.supportsPartialObject
          supportsThumbnails := true, supportsEvents := true } ∧
      UsbBackend.new info = ⟨config.supportsPartialObject64, config.supportsPartialObject⟩ ∧
      info.runsAndroidMtpServer = false ∧
      ∀ (request : Request) (txId : UInt32), state.sessionOpen = true → request.matched = true →
        OperationCode.ofCode request.operation.toCode ∉ info.operationsSupported →
          request.exchange host txId state =
            some (.ok (⟨.operationNotSupported, txId, []⟩, []), state) := by
  have idle := (ready_of_run run).idle
  have same := config_of_run run
  refine ⟨state.deviceInfo, VirtualDeviceState.getDeviceInfo_answered idle, ?_, ?_, ?_,
    VirtualDeviceState.not_android, ?_⟩
  · rw [← same]
    rfl
  · rw [← same]
    exact VirtualDeviceState.listed_capabilities
  · rw [← same, ← VirtualDeviceState.listed_partial64, ← VirtualDeviceState.listed_partial]
  · intro request txId opened matched unlisted
    exact VirtualDeviceState.exchange_respond idle matched
      (VirtualDeviceState.dispatch_unlisted opened unlisted)

/-- A device without partial reads, asked for one. -/
theorem device_described_refusal : ∃ state info,
    Run (Converses Host.usual) (.new besideReadOnly twoBackings) announcedThenRescanned state ∧
    state.getDeviceInfo Host.usual 3 = some (.ok info, state) ∧
    (Capabilities.fromPtpDeviceInfo info).canRename = true ∧
    (Request.executeWithReceive .getPartialObject64 [1, 0, 0, 5]).exchange Host.usual 4 state =
      some (.ok (⟨.operationNotSupported, 4, []⟩, []), state) := by
  have runs : ((converse announcedThenRescanned (.new besideReadOnly twoBackings)).map fun state =>
      decide (state.sessionOpen = true ∧
        OperationCode.getPartialObject64 ∉ state.deviceInfo.operationsSupported)) = some true := by
    decide +kernel
  obtain ⟨state, ran, facts⟩ := Option.map_eq_some_iff.mp runs
  obtain ⟨opened, unlisted⟩ := of_decide_eq_true facts
  have run := run_of_converse ran
  obtain ⟨info, told, -, capabilities, -, -, refused⟩ :=
    device_described Host.usual besideReadOnly twoBackings _ state run 3
  have same : info = state.deviceInfo := by
    rw [VirtualDeviceState.getDeviceInfo_answered (ready_of_run run).idle] at told
    cases told
    rfl
  subst same
  exact ⟨state, _, run, told, by rw [capabilities]; rfl, refused _ 4 opened rfl unlisted⟩

end VirtualDevice
