import MtpRs.VirtualDevice.Transfers

set_option autoImplicit false

/- What is deleted is gone for good, in whatever conversation goes on. -/
namespace VirtualDevice

open Files (Disk Path)
open Ptp (Bytes OperationCode)
open Runs (Run)

section

variable {host : Host} {disk after : Disk} {path : Path}

/-- What was removed is not there any more, nor is anything below it. -/
theorem removePath_gone (removed : removePath host disk path = (true, after))
    (names : List Files.Name) : after.contents (path.descend names) = none := by
  have spares : Files.Spares (fun _ => False) disk (removePath host disk path).2 :=
    removePath_spares (Files.away_nowhere _)
  rw [removed] at spares
  refine Files.contents_gone ?_ names
  rw [spares.workingDirectory]
  unfold removePath at removed
  split at removed
  · exact Files.Host.removeDirAll_gone removed
  · exact Files.Host.removeFile_gone removed

end

namespace VirtualDeviceState

/-- Whether an object is at the path of another one or below it. -/
def beneath (obj other : VirtualObject) : Bool :=
  other.storageId == obj.storageId && other.relPath.startsWith obj.relPath

section

variable {host : Host} {state : VirtualDeviceState} {opCode : UInt16} {txId : UInt32}
  {params : List UInt32} {dataPayload : Option Bytes} {response : Ptp.ResponseContainer}
  {data : Bytes}

theorem dispatch_deleteObject : state.dispatch host OperationCode.deleteObject.toCode txId params
    dataPayload = if state.sessionOpen = false then
      some (state.respond Code.sessionNotOpen txId [])
    else some (state.handleDeleteObject host txId params) := rfl

theorem aims_deleteObject {obj : VirtualObject} {path : Path}
    (checked : state.checkDeleteObject (param params 0) = .ok (obj, path)) :
    state.aims (.ofCode OperationCode.deleteObject.toCode) params dataPayload = [path] := by
  have read : OperationCode.ofCode OperationCode.deleteObject.toCode = .deleteObject := rfl
  rw [read, aims, checked]

theorem checkDeleteObject_error {handle : UInt32} {code : UInt16}
    (refused : state.checkDeleteObject handle = .error code) : code ≠ Code.ok := by
  unfold checkDeleteObject at refused
  split at refused
  · cases refused
    decide
  · split at refused
    · cases refused
      decide
    · split at refused
      · cases refused
        decide
      · cases refused

theorem deleteObject_ok (idle : Idle state)
    (answered : Answered opCode txId (state.handleDeleteObject host txId params).responseQueue
      response data) (accepted : response.code = .ok) :
    ∃ obj path disk, state.checkDeleteObject (param params 0) = .ok (obj, path) ∧
      removePath host state.disk path = (true, disk) ∧
      state.Leaves (state.handleDeleteObject host txId params) state.nextHandle
        (state.objects.keep fun _ other => !beneath obj other) state.pendingSend disk := by
  unfold handleDeleteObject at answered ⊢
  dsimp only at answered ⊢
  split at answered
  · next code refused =>
      exact (not_refused idle answered accepted (checkDeleteObject_error refused)).elim
  · next obj path checked =>
      split at answered
      · next disk failed => exact (not_refused idle answered accepted (by decide)).elim
      · next disk removed =>
          exact ⟨obj, path, disk, checked, removed, ⟨rfl, rfl, rfl, rfl, rfl, rfl⟩⟩

end

end VirtualDeviceState

section

variable {host : Host} {state later : VirtualDeviceState} {handle : UInt32}

/-- A handle that denotes nothing any more, as long as there are handles. -/
theorem spent_of_run {more : List Happening} (ready : Ready state)
    (spent : state.Spent handle) (run : Run (Converses host) state more later)
    (bound : later.nextHandle ≤ 2 ^ 32) : later.Spent handle := by
  refine (run.invariant (fun reached => Ready reached ∧
    (reached.nextHandle ≤ 2 ^ 32 → reached.Spent handle)) ?_ ⟨ready, fun _ => spent⟩).2 bound
  rintro reached happening next ⟨ready, held⟩ converses
  refine ⟨ready.converses converses, fun bound => ?_⟩
  obtain ⟨after, happens, same⟩ := ready.happens converses
  rw [same] at bound ⊢
  have spent := happens.spent (held (happens.nextHandle_le.trans bound)) bound
  exact ⟨spent.given, spent.finished, spent.nothing⟩

end

/-- After a deletion that the device took, nothing is at the path of the object or below it, all
else is on the disk as it was, the handles of all other objects denote what they did, and those of
what was at the path or below it, unless an upload waits under one, denote nothing in any
conversation that goes on. -/
theorem deleted_for_good (host : Host) (config : VirtualDeviceConfig) (disk : Disk)
    (happenings : List Happening) (state : VirtualDeviceState)
    (run : Run (Converses host) (.new config disk) happenings state) (txId : UInt32)
    (request : Request) (deletes : request.operation = .deleteObject) (lasts : state.HandlesLast)
    (meets : (Happening.requested txId request).meets host state = true)
    (response : Ptp.ResponseContainer) (nothing : Bytes) (next : VirtualDeviceState)
    (sent : request.exchange host txId state = some (.ok (response, nothing), next))
    (accepted : response.code = .ok) :
    ∃ obj path, state.objects.lookup (param request.params 0) = some obj ∧
      state.resolvePath (param request.params 0) = some path ∧
      (∀ names, next.disk.contents (path.descend names) = none) ∧
      (∀ other, state.crosses path other = false →
        next.disk.contents other = state.disk.contents other) ∧
      ∀ handle other, state.objects.lookup handle = some other →
        (VirtualDeviceState.beneath obj other = false →
          next.objects.lookup handle = some other) ∧
        (VirtualDeviceState.beneath obj other = true →
          (∀ upload, state.pendingSend = some upload → upload.assignedHandle ≠ handle) →
            ∀ more later, Run (Converses host) next more later → later.nextHandle ≤ 2 ^ 32 →
              later.objects.lookup handle = none) := by
  have ready := ready_of_run run
  obtain ⟨after, other, received, dispatched, answered, exchanged, readyAfter⟩ :=
    ready.exchange lasts meets
  rw [exchanged] at sent
  cases sent
  rw [Request.dispatch, deletes] at dispatched
  have happens : Happens host state (.operation OperationCode.deleteObject.toCode txId
      request.params request.data) after := dispatched
  rw [VirtualDeviceState.dispatch_deleteObject] at dispatched
  split at dispatched
  · cases dispatched
    exact (VirtualDeviceState.not_refused ready.idle answered accepted (by decide)).elim
  cases dispatched
  obtain ⟨obj, path, disk, checked, removed, leaves⟩ :=
    VirtualDeviceState.deleteObject_ok ready.idle answered accepted
  obtain ⟨tracked, -, resolved⟩ := VirtualDeviceState.checkDeleteObject_ok checked
  refine ⟨obj, path, tracked, resolved, fun names => ?_, fun other apart => ?_,
    fun handle other found => ⟨fun apart => ?_, fun below finished more later run bound => ?_⟩⟩
  · dsimp only
    rw [leaves.disk]
    exact removePath_gone removed names
  · refine happens.contents ?_
    rw [Occurrence.reaches, VirtualDeviceState.aims_deleteObject checked, List.any_cons, apart]
    rfl
  · dsimp only
    rw [leaves.objects, AList.lookup_keep_eq_some, apart]
    exact ⟨found, rfl⟩
  · refine (spent_of_run readyAfter ⟨?_, ?_, ?_⟩ run bound).nothing
    · dsimp only
      rw [leaves.nextHandle]
      exact ((ready.numbered lasts.bound).live handle other found).2
    · dsimp only
      rw [leaves.pendingSend]
      exact finished
    · dsimp only
      rw [leaves.objects, Option.eq_none_iff_forall_ne_some]
      intro kept there
      obtain ⟨there, above⟩ := AList.lookup_keep_eq_some.mp there
      rw [found, Option.some.injEq] at there
      rw [← there, below] at above
      cases above

/-- The folder deleted with its file, and a folder of the same name made in its place. -/
theorem deleted_for_good_folder : ∃ state next later,
    Run (Converses Host.usual) (.new besideReadOnlyPartially twoBackings) folderFilled state ∧
    (Request.execute .deleteObject [1, 0]).exchange Host.usual 5 state =
      some (.ok (⟨.ok, 5, []⟩, []), next) ∧
    Run (Converses Host.usual) next
      [.requested 6 (.executeWithSend .sendObjectInfo [0x00010001, 0xFFFFFFFF]
        (announcedFolder 100))] later ∧
    later.objects.keys = [3] ∧ later.objects.lookup 2 = none := by
  have runs : ((converse folderFilled
      (.new besideReadOnlyPartially twoBackings)).bind fun state =>
    ((Request.execute .deleteObject [1, 0]).exchange Host.usual 5 state).bind
      fun sent => match sent with
      | (.error _, _) => none
      | (.ok answer, next) =>
          (converse [.requested 6 (.executeWithSend .sendObjectInfo [0x00010001, 0xFFFFFFFF]
            (announcedFolder 100))] next).map fun later => decide (
              answer = (⟨.ok, 5, []⟩, []) ∧ state.HandlesLast ∧
                (Happening.requested 5 (.execute .deleteObject [1, 0])).meets Host.usual
                  state = true ∧ state.pendingSend.isNone = true ∧ later.nextHandle ≤ 2 ^ 32 ∧
                later.objects.keys = [3]) &&
              ((state.objects.lookup 1).bind fun obj => (state.objects.lookup 2).map
                fun other => VirtualDeviceState.beneath obj other) == some true) = some true := by
    decide +kernel
  obtain ⟨state, ran, rest⟩ := Option.bind_eq_some_iff.mp runs
  obtain ⟨⟨result, next⟩, exchanged, rest⟩ := Option.bind_eq_some_iff.mp rest
  cases result with
  | error e => cases rest
  | ok answer =>
      obtain ⟨later, goesOn, facts⟩ := Option.map_eq_some_iff.mp rest
      rw [Bool.and_eq_true, decide_eq_true_iff, beq_iff_eq] at facts
      obtain ⟨⟨rfl, lasts, meets, idle, bound, keys⟩, inside⟩ := facts
      obtain ⟨folder, first, inside⟩ := Option.bind_eq_some_iff.mp inside
      obtain ⟨file, second, below⟩ := Option.map_eq_some_iff.mp inside
      have run := run_of_converse ran
      have more := run_of_converse goesOn
      obtain ⟨obj, path, tracked, -, -, -, handles⟩ := deleted_for_good Host.usual
        besideReadOnlyPartially twoBackings _ state run 5 (.execute .deleteObject [1, 0]) rfl lasts
        meets ⟨.ok, 5, []⟩ [] next exchanged rfl
      cases first.symm.trans tracked
      have gone := (handles 2 file second).2 below (fun upload waits => by
        rw [Option.isNone_iff_eq_none.mp idle] at waits
        cases waits) _ later more bound
      exact ⟨state, next, later, run, exchanged, more, keys, gone⟩

end VirtualDevice
