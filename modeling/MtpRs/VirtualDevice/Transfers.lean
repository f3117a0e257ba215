import MtpRs.VirtualDevice.Carried
import MtpRs.VirtualDevice.Uploads

set_option autoImplicit false

/- What is moved, renamed or copied is read where it has gone, in whatever conversation goes on. -/
namespace VirtualDevice

open Files (Carries Disk Location Path)
open Mtp (UsbBackend)
open Ptp (Bytes OperationCode ResponseCode)
open Runs (Restricted Run)
open VirtualDeviceState (copyPath movePath renamedPath)

section

variable {host : Host} {disk after : Disk} {src dst : Path}

end

namespace VirtualDeviceState

section

variable {host : Host} {state after : VirtualDeviceState} {opCode : UInt16} {txId : UInt32}
  {params : List UInt32} {dataPayload : Option Bytes} {response : Ptp.ResponseContainer}
  {data : Bytes} {src dst : Path}

/-- A response without data is the one that was queued. -/
theorem answered_respond {code : UInt16} {sent : List UInt32} (idle : Idle state)
    (answered : Answered opCode txId (state.responseQueue ++ [buildResponse code txId sent])
      response data) : response.code = .ofCode code ∧ response.params = sent := by
  rw [idle.replied, List.nil_append] at answered
  generalize same : [buildResponse code txId sent] = replies at answered
  cases answered with
  | response other params few =>
      obtain ⟨rfl, rfl⟩ := buildResponse_inj (List.singleton_inj.mp same)
      exact ⟨rfl, rfl⟩
  | data payload brings => cases congrArg List.length same

theorem not_refused {code : UInt16} {sent : List UInt32} (idle : Idle state)
    (answered : Answered opCode txId (state.responseQueue ++ [buildResponse code txId sent])
      response data) (accepted : response.code = .ok) (refusal : code ≠ Code.ok) : False := by
  have same := (answered_respond idle answered).1
  rw [accepted] at same
  exact refusal (code_ok same.symm)

end

end VirtualDeviceState

section

variable {host : Host} {state next : VirtualDeviceState} {happening : Happening} {path : Path}
  {data : Bytes}

/-- A file stays what it is while nothing that happens is aimed at it. -/
theorem Ready.keeps (ready : Ready state) (there : state.disk.contents path = some (.file data))
    (converses : Converses host state happening next)
    (spared : happening.reaches state path = false) :
    Ready next ∧ next.disk.contents path = some (.file data) := by
  obtain ⟨after, happens, same⟩ := ready.happens converses
  refine ⟨ready.converses converses, ?_⟩
  rw [same]
  exact (happens.contents spared).trans there

end

def announcedFolder (name : UInt8) : Bytes :=
  [0, 0, 0, 0, 1, 0x30] ++ List.replicate 46 0 ++ [2, name, 0, 0, 0, 0, 0, 0]

/-- A folder `d` and a file `a` in it. -/
def folderFilled : List Happening :=
  [.requested 1 (.execute .openSession [1]),
    .requested 2 (.executeWithSend .sendObjectInfo [0x00010001, 0xFFFFFFFF]
      (announcedFolder 100)),
    .requested 3 (.executeWithSend .sendObjectInfo [0x00010001, 1] (announced 97)),
    .requested 4 (.executeWithSend .sendObject [] [1, 2, 3])]

end VirtualDevice
