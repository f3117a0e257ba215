import MtpRs.Ptp.Accepted
import MtpRs.VirtualDevice.Transport

set_option autoImplicit false

/- The containers that the device and its host exchange. -/
namespace VirtualDevice

open Ptp (Accepted Bytes CommandContainer ContainerHeader ContainerType DataContainer EventCode
  EventContainer OperationCode PtpError ResponseCode ResponseContainer body headerSize packHeader
  packU32 unpackHeader)

/-- A command that has come in: it is handled at once, or waits for its data. -/
def VirtualDeviceState.takeCommand (host : Host) (self : VirtualDeviceState)
    (command : PendingCommand) : Option (Except PtpError Unit × VirtualDeviceState) :=
  if self.pendingOperationWedge then
    some (.error .deviceReset, { self with pendingOperationWedge := false })
  else if takesData command.code then
    some (.ok (), { self with pendingCommand := some command })
  else
    (self.dispatch host command.code command.txId command.params none).map
      fun after => (.ok (), after)

/-- Words are read back from their bytes. -/
theorem readParams_flatMap (params : List UInt32) :
    readParams (params.flatMap packU32) = params := by
  induction params with
  | nil => rfl
  | cons param params ih =>
      have bound := param.toNat_lt
      rw [List.flatMap_cons]
      simp only [packU32, List.cons_append, List.nil_append, readParams, UInt8.toNat_ofNat']
      rw [ih]
      congr 1
      apply UInt32.toNat_inj.mp
      rw [UInt32.toNat_ofNat']
      omega

theorem accepted_packed (type : ContainerType) (fits : Nat → Prop) (header : ContainerHeader)
    {content : Bytes} (typed : header.typeCode = type.toCode)
    (length : header.length.toNat = headerSize + content.length) (fitting : fits content.length) :
    Accepted type fits (packHeader header ++ content) header ∧
      body header (packHeader header ++ content) = content := by
  have size : (packHeader header ++ content).length = headerSize + content.length := by
    rw [List.length_append, Ptp.packHeader_length]
  refine ⟨⟨?_, Ptp.unpackHeader_packHeader header content, typed, ?_, ?_, ?_⟩, ?_⟩
  · rw [size]
    exact Nat.le_add_right _ _
  · rw [length]
    exact Nat.le_add_right _ _
  · rw [size, length]
  · rw [length, Nat.add_sub_cancel_left]
    exact fitting
  · rw [body, length, ← size, List.take_length, List.drop_left' (Ptp.packHeader_length header)]

theorem length_field {size : Nat} (fits : headerSize + size < 2 ^ 32) :
    (UInt32.ofNat (headerSize + size)).toNat = headerSize + size := by
  rw [UInt32.toNat_ofNat', Nat.mod_eq_of_lt fits]

theorem read_buildDataContainer (code : UInt16) (txId : UInt32) (payload : Bytes)
    (fits : headerSize + payload.length < 2 ^ 32) :
    DataContainer.fromBytes (buildDataContainer code txId payload) =
      .ok ⟨OperationCode.ofCode code, txId, payload⟩ := by
  obtain ⟨accepted, whole⟩ := accepted_packed .data (fun _ => True)
    ⟨UInt32.ofNat (headerSize + payload.length), ContainerType.data.toCode, code, txId⟩
    rfl (length_field fits) trivial
  exact DataContainer.fromBytes_iff.mpr ⟨_, accepted, by rw [buildDataContainer, whole]⟩

theorem read_buildResponse (code : UInt16) (txId : UInt32) (params : List UInt32)
    (fits : headerSize + params.length * 4 < 2 ^ 32) :
    ResponseContainer.fromBytes (buildResponse code txId params) =
      .ok ⟨ResponseCode.ofCode code, txId, params⟩ := by
  have size := Ptp.flatMap_packU32_length params
  obtain ⟨accepted, whole⟩ := accepted_packed .response (· % 4 = 0)
    ⟨UInt32.ofNat (headerSize + params.length * 4), ContainerType.response.toCode, code, txId⟩
    rfl (by rw [size]; exact length_field fits) (by rw [size]; exact Nat.mul_mod_left ..)
  exact ResponseContainer.fromBytes_iff.mpr ⟨_, accepted, rfl, rfl, whole.symm⟩

theorem read_buildEvent (code : EventCode) (params : List UInt32) :
    EventContainer.fromBytes (buildEvent code params) =
      .ok ⟨EventCode.ofCode code.toCode, 0, EventContainer.firstThree params⟩ := by
  have size := Ptp.flatMap_packU32_length (params.take 3)
  have few : (params.take 3).length ≤ 3 := List.length_take_le ..
  obtain ⟨accepted, whole⟩ := accepted_packed .event EventContainer.Fits
    ⟨UInt32.ofNat (headerSize + (params.take 3).length * 4), ContainerType.event.toCode,
      code.toCode, 0⟩
    rfl (by rw [size]; exact length_field (by unfold headerSize; omega))
    (by rw [size]; exact ⟨by omega, Nat.mul_mod_left ..⟩)
  refine EventContainer.fromBytes_iff.mpr ⟨_, accepted, params.take 3, whole.symm, ?_⟩
  unfold EventContainer.firstThree
  rw [List.getElem?_take_of_lt (by decide), List.getElem?_take_of_lt (by decide),
    List.getElem?_take_of_lt (by decide)]

/-- A host's command is taken for what it is. -/
theorem sendBulk_command (host : Host) (self : VirtualDeviceState) (command : CommandContainer) :
    self.sendBulk host command.toBytes =
      self.takeCommand host ⟨command.code.toCode, command.transactionId, command.params⟩ := by
  have long : ¬ command.toBytes.length < headerSize := by
    rw [CommandContainer.toBytes, List.length_append, Ptp.packHeader_length]
    omega
  have read : unpackHeader command.toBytes =
      .ok ⟨UInt32.ofNat (headerSize + command.params.length * 4), ContainerType.command.toCode,
        command.code.toCode, command.transactionId⟩ := Ptp.unpackHeader_packHeader ..
  have params : readParams (command.toBytes.drop headerSize) = command.params := by
    rw [CommandContainer.toBytes, List.drop_left' (Ptp.packHeader_length _), readParams_flatMap]
  unfold VirtualDeviceState.sendBulk VirtualDeviceState.takeCommand
  rw [if_neg long, read, params]
  rfl

/-- What one end writes the other reads, and what is read is accepted for its header and the bytes
this counts alone. -/
theorem containers_round_trip :
    (∀ (code : UInt16) (txId : UInt32) (payload : Bytes),
      headerSize + payload.length < 2 ^ 32 →
        DataContainer.fromBytes (DataContainer.toBytes ⟨.ofCode code, txId, payload⟩) =
            .ok ⟨.ofCode code, txId, payload⟩ ∧
          DataContainer.fromBytes (buildDataContainer code txId payload) =
            .ok ⟨.ofCode code, txId, payload⟩) ∧
      (∀ (code : UInt16) (txId : UInt32) (params : List UInt32), params.length ≤ 5 →
        ResponseContainer.fromBytes (buildResponse code txId params) =
          .ok ⟨.ofCode code, txId, params⟩) ∧
      (∀ (code : UInt16) (params : List UInt32), params.length ≤ 5 →
        EventContainer.fromBytes (buildEvent (.ofCode code) params) =
          .ok ⟨.ofCode code, 0, EventContainer.firstThree params⟩) ∧
      (∀ (host : Host) (self : VirtualDeviceState) (code : UInt16) (txId : UInt32)
        (params : List UInt32), params.length ≤ 5 →
          self.sendBulk host (CommandContainer.toBytes ⟨.ofCode code, txId, params⟩) =
            self.takeCommand host ⟨code, txId, params⟩) ∧
      ∀ buf : Bytes,
        ((∃ container, DataContainer.fromBytes buf = .ok container) ↔
            ∃ header, Accepted .data (fun _ => True) buf header) ∧
          ((∃ container, ResponseContainer.fromBytes buf = .ok container) ↔
            ∃ header, Accepted .response (· % 4 = 0) buf header) ∧
          ((∃ container, EventContainer.fromBytes buf = .ok container) ↔
            ∃ header, Accepted .event (fun size => size ≤ 12 ∧ size % 4 = 0) buf header) ∧
          ∀ (header : ContainerHeader) (more : Bytes), unpackHeader buf = .ok header →
            (∀ container, DataContainer.fromBytes buf = .ok container →
              DataContainer.fromBytes (buf.take header.length.toNat ++ more) = .ok container) ∧
            (∀ container, ResponseContainer.fromBytes buf = .ok container →
              ResponseContainer.fromBytes (buf.take header.length.toNat ++ more) =
                .ok container) ∧
            ∀ container, EventContainer.fromBytes buf = .ok container →
              EventContainer.fromBytes (buf.take header.length.toNat ++ more) =
                .ok container := by
  refine ⟨?_, ?_, ?_, ?_, ?_⟩
  · intro code txId payload fits
    have written := read_buildDataContainer code txId payload fits
    refine ⟨?_, written⟩
    rw [← written, DataContainer.toBytes, DataContainer.header, OperationCode.toCode_ofCode]
    rfl
  · intro code txId params few
    exact read_buildResponse code txId params (by unfold headerSize; omega)
  · intro code params few
    rw [read_buildEvent, EventCode.toCode_ofCode]
  · intro host self code txId params few
    rw [sendBulk_command]
    simp only [OperationCode.toCode_ofCode]
  · intro buf
    refine ⟨DataContainer.accepts_iff, ResponseContainer.accepts_iff, EventContainer.accepts_iff,
      ?_⟩
    intro header more read
    have same : ∀ {type fits other}, Accepted type fits buf other → other = header :=
      fun accepted => Except.ok.inj (accepted.read.symm.trans read)
    refine ⟨?_, ?_, ?_⟩
    · intro container parsed
      obtain ⟨other, accepted, is⟩ := DataContainer.fromBytes_iff.mp parsed
      cases same accepted
      obtain ⟨still, content⟩ := accepted.front more
      exact DataContainer.fromBytes_iff.mpr ⟨_, still, by rw [content, is]⟩
    · intro container parsed
      obtain ⟨other, accepted, code, txId, packed⟩ := ResponseContainer.fromBytes_iff.mp parsed
      cases same accepted
      obtain ⟨still, content⟩ := accepted.front more
      exact ResponseContainer.fromBytes_iff.mpr ⟨_, still, code, txId, by rw [content, packed]⟩
    · intro container parsed
      obtain ⟨other, accepted, params, packed, is⟩ := EventContainer.fromBytes_iff.mp parsed
      cases same accepted
      obtain ⟨still, content⟩ := accepted.front more
      exact EventContainer.fromBytes_iff.mpr ⟨_, still, params, by rw [content, packed], is⟩

def bareDevice : VirtualDeviceState :=
  .new ⟨"", "", "", [], false, false, false, false, [], [], .utc, false⟩ .bare

theorem containers_round_trip_small :
    DataContainer.fromBytes (buildDataContainer 0x100A 7 [0xFF, 0xD8]) =
        .ok ⟨.ofCode 0x100A, 7, [0xFF, 0xD8]⟩ ∧
      ResponseContainer.fromBytes (buildResponse 0x2001 7 [1]) = .ok ⟨.ofCode 0x2001, 7, [1]⟩ ∧
      EventContainer.fromBytes (buildEvent (.ofCode 0x4002) [5]) =
        .ok ⟨.ofCode 0x4002, 0, #v[5, 0, 0]⟩ ∧
      bareDevice.sendBulk Host.usual (CommandContainer.toBytes ⟨.ofCode 0x1003, 7, []⟩) =
        bareDevice.takeCommand Host.usual ⟨0x1003, 7, []⟩ ∧
      EventContainer.fromBytes ((buildEvent (.ofCode 0x4002) [5]).take 16 ++ [9]) =
        .ok ⟨.ofCode 0x4002, 0, #v[5, 0, 0]⟩ :=
  ⟨(containers_round_trip.1 0x100A 7 [0xFF, 0xD8] (by decide)).2,
    containers_round_trip.2.1 0x2001 7 [1] (by decide),
    containers_round_trip.2.2.1 0x4002 [5] (by decide),
    containers_round_trip.2.2.2.1 Host.usual bareDevice 0x1003 7 [] (by decide),
    ((containers_round_trip.2.2.2.2 _).2.2.2 ⟨16, 4, 0x4002, 0⟩ [9] (by decide)).2.2 _
      (by decide)⟩

end VirtualDevice
