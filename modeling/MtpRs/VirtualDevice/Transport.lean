import MtpRs.VirtualDevice.Handlers

set_option autoImplicit false

/- The device as a transport: containers in, containers out. -/
namespace VirtualDevice

open Ptp (Bytes OperationCode PtpError headerSize unpackHeader)

/-- The parameters after a command's header, whole words only. -/
def readParams : Bytes → List UInt32
  | b0 :: b1 :: b2 :: b3 :: rest =>
      UInt32.ofNat (b0.toNat + 2 ^ 8 * b1.toNat + 2 ^ 16 * b2.toNat + 2 ^ 24 * b3.toNat) ::
        readParams rest
  | _ => []

/-- The operations whose data phase comes from the host. -/
def takesData (opCode : UInt16) : Bool :=
  match OperationCode.ofCode opCode with
  | .sendObjectInfo => true
  | .sendObject => true
  | .setObjectPropValue => true
  | _ => false

namespace VirtualDeviceState

/-- Takes a container in: a command is handled at once or waits for its data. -/
def sendBulk (host : Host) (self : VirtualDeviceState) (data : Bytes) :
    Option (Except PtpError Unit × VirtualDeviceState) :=
  if data.length < headerSize then some (.error (.invalidData "container too small"), self)
  else
    match unpackHeader data with
    | .error e => some (.error e, self)
    | .ok header =>
        if header.typeCode = 1 then
          if self.pendingOperationWedge then
            some (.error .deviceReset, { self with pendingOperationWedge := false })
          else
            let params := readParams (data.drop headerSize)
            if takesData header.code then
              some (.ok (),
                { self with pendingCommand := some ⟨header.code, header.transactionId, params⟩ })
            else
              (self.dispatch host header.code header.transactionId params none).map
                fun after => (.ok (), after)
        else if header.typeCode = 2 then
          match self.pendingCommand with
          | some pending =>
              ({ self with pendingCommand := none }.dispatch host pending.code pending.txId
                pending.params (some (data.drop headerSize))).map fun after => (.ok (), after)
          | none =>
              some (.error (.invalidData "received data container without pending command"), self)
        else
          some (.error (.invalidData ("unexpected container type: " ++ toString header.typeCode)),
            self)

def receiveBulk (self : VirtualDeviceState) : Except PtpError Bytes × VirtualDeviceState :=
  match self.responseQueue with
  | data :: rest => (.ok data, { self with responseQueue := rest })
  | [] => (.error (.invalidData "no response available"), self)

end VirtualDeviceState

end VirtualDevice
