import MtpRs.Wpd.Upload

set_option autoImplicit false

/- How an upload ends on either backend, over a device that accepts everything it is sent. -/
namespace Wpd

open Mtp (Error NewObjectInfo ObjectHandle ProgressFn StorageId UploadError UploadPeer UploadStream
  breaks progressStream)
open Ptp (Bytes IoError PtpError)

/-- The class of an upload's outcome. -/
inductive Ending where
  | ok
  | cancelled
  | failed
deriving DecidableEq, Repr

def endingOf : Except UploadError ObjectHandle → Ending
  | .ok _ => .ok
  | .error ⟨.cancelled, _⟩ => .cancelled
  | .error _ => .failed

/-- Why a source stops, and the bytes it yielded before: it ends, it fails, or the callback breaks
at a chunk. -/
def stopOf (progress : Option ProgressFn) (total call bytesSent : Nat) : UploadStream → Stop × Nat
  | [] => (.clean, bytesSent)
  | .error e :: _ => (.source e, bytesSent)
  | .ok chunk :: rest =>
      if breaks progress call (bytesSent + chunk.length) total then (.cancelled, bytesSent)
      else stopOf progress total (call + 1) (bytesSent + chunk.length) rest

/-- What a source that stops so comes to over USB. -/
def usbEnding : Stop → Ending
  | .clean => .ok
  | .cancelled => .cancelled
  | .source e => if e.kind = .interrupted then .cancelled else .failed

/-- What it comes to over WPD. -/
def wpdEnding (stop : Stop) (bytes size : Nat) : Ending :=
  if bytes = size then .ok
  else
    match stop with
    | .cancelled => .cancelled
    | .clean | .source _ => .failed

/-- A device that accepts every object and all its data. -/
structure PeerAccepts (peer : UploadPeer) : Prop where
  info : ∀ params bytes, ∃ response, peer.sendInfo params bytes = .ok response ∧
    response.code = .ok ∧ 3 ≤ response.params.length
  command : peer.command = .ok ()
  transfer : ∀ n, peer.transfer n = .ok ()
  finish : peer.finish = .ok ()
  respond : ∃ response, peer.respond = .ok response ∧ response.code = .ok

/-- The same over WPD. -/
structure TargetAccepts (target : UploadTarget) : Prop where
  stream : target.createUploadStream = .ok ()
  write : ∀ n, ∃ wrote, target.write n = .ok wrote ∧ wrote ≠ 0
  commit : ∃ wpdId, target.commit = .ok wpdId

section

variable {peer : UploadPeer} {target : UploadTarget} (progress : Option ProgressFn)

/-- What the data phase comes to over USB. -/
theorem sendData_of_accepts (accepts : PeerAccepts peer) (total : Nat) (source : UploadStream)
    (sent call bytesSent : Nat) :
    peer.sendData sent (progressStream progress total call bytesSent source) =
      match (stopOf progress total call bytesSent source).1 with
      | .clean => .ok ()
      | .cancelled => .error (.io .interrupted "cancelled")
      | .source e => .error (.io e.kind e.text) := by
  induction source generalizing sent call bytesSent with
  | nil =>
      simp only [progressStream, UploadPeer.sendData, stopOf, accepts.finish, ite_self]
  | cons item rest ih =>
      cases item with
      | error e => rfl
      | ok chunk =>
          by_cases broke : breaks progress call (bytesSent + chunk.length) total = true
          · simp only [progressStream, stopOf, broke, ↓reduceIte, UploadPeer.sendData]
          · simp only [progressStream, stopOf, broke, Bool.false_eq_true, ↓reduceIte,
              UploadPeer.sendData, accepts.transfer, ih, ite_self]

theorem sendObjectInfo_of_accepts (accepts : PeerAccepts peer) {info : Ptp.ObjectDataset}
    (packs : ∃ bytes, info.toBytes = .ok bytes) (storage parent : UInt32) :
    ∃ handle, peer.sendObjectInfo storage parent info = .ok handle := by
  obtain ⟨bytes, packed⟩ := packs
  obtain ⟨response, answered, code, long⟩ := accepts.info [storage, parent] bytes
  simp only [UploadPeer.sendObjectInfo, packed, bind, Except.bind, answered, Ptp.checkResponse,
    code, ↓reduceIte]
  match params : response.params with
  | _ :: _ :: handle :: _ => exact ⟨handle, rfl⟩
  | [] | [_] | [_, _] =>
      rw [params] at long
      simp at long

/-- How an upload over USB ends. -/
theorem endingOf_usb (accepts : PeerAccepts peer) (storage : StorageId)
    (parent : Option ObjectHandle) {info : NewObjectInfo}
    (packs : ∃ bytes, info.toObjectInfo.toBytes = .ok bytes) (source : UploadStream) :
    endingOf (peer.upload storage parent info source progress) =
      usbEnding (stopOf progress info.size 0 0 source).1 := by
  obtain ⟨handle, sent⟩ :=
    sendObjectInfo_of_accepts accepts packs (Mtp.toPtp storage)
      ((parent.map Mtp.toPtp).getD 0xFFFFFFFF)
  obtain ⟨response, answered, code⟩ := accepts.respond
  have data := sendData_of_accepts progress accepts info.size source 0 0 0
  simp only [UploadPeer.upload, sent, UploadPeer.sendObjectStream, UploadPeer.executeWithSendStream,
    accepts.command, data, answered, bind, Except.bind]
  cases stop : (stopOf progress info.size 0 0 source).1 with
  | clean => simp [Ptp.checkResponse, code, endingOf, usbEnding]
  | cancelled => rfl
  | source e =>
      obtain ⟨kind, text⟩ := e
      cases kind <;> rfl

theorem streamWrite_of_accepts {write : Nat → Except WinError Nat}
    (accepts : ∀ n, ∃ wrote, write n = .ok wrote ∧ wrote ≠ 0) (count : Nat) (data : Bytes) :
    (streamWrite write count data).1 = .ok () := by
  fun_induction streamWrite write count data with
  | case1 count => rfl
  | case2 count data some e failed =>
      obtain ⟨wrote, written, _⟩ := accepts count
      rw [written] at failed
      cases failed
  | case3 count data some written =>
      obtain ⟨wrote, written', positive⟩ := accepts count
      rw [written'] at written
      exact absurd (Except.ok.inj written) positive
  | case4 count data some wrote written positive ih => exact ih

theorem received_of_accepts (accepts : TargetAccepts target) (chunks : List Bytes) :
    target.received chunks = .ok () := by
  have written : ∀ count, target.writeAll count chunks = .ok () := by
    induction chunks with
    | nil => intro count; rfl
    | cons chunk rest ih =>
        intro count
        have first := streamWrite_of_accepts accepts.write count chunk
        cases wrote : streamWrite target.write count chunk with
        | mk result after =>
            rw [wrote] at first
            cases first
            simp only [UploadTarget.writeAll, wrote]
            exact ih after
  simp only [UploadTarget.received, accepts.stream, written]

/-- The source stops as it does for itself, with the bytes before it forwarded. -/
theorem forward_of_accepts (accepts : TargetAccepts target) (gone : Nat → Bool) (total : Nat)
    (source : UploadStream) (sent : List Bytes) :
    (forward target gone progress total sent source).1 =
        (stopOf progress total sent.length (sent.map List.length).sum source).1 ∧
      ((forward target gone progress total sent source).2.map List.length).sum =
        (stopOf progress total sent.length (sent.map List.length).sum source).2 := by
  induction source generalizing sent with
  | nil => exact ⟨rfl, rfl⟩
  | cons item rest ih =>
      cases item with
      | error e => exact ⟨rfl, rfl⟩
      | ok chunk =>
          by_cases broke : breaks progress sent.length ((sent.map List.length).sum + chunk.length)
              total = true
          · simp only [forward, stopOf, broke, ↓reduceIte, and_self]
          · have later := ih (sent ++ [chunk])
            simp only [List.length_append, List.length_singleton, List.map_append, List.map_cons,
              List.map_nil, List.sum_append, List.sum_singleton] at later
            simp only [forward, stopOf, broke, Bool.false_eq_true, ↓reduceIte,
              received_of_accepts accepts]
            exact later

/-- How an upload over WPD ends. -/
theorem endingOf_wpd (accepts : TargetAccepts target) (device : WpdDevice) (gone : Nat → Bool)
    (storage : StorageId) (parent : Option ObjectHandle) (info : NewObjectInfo)
    (source : UploadStream) :
    endingOf (device.upload target true gone storage parent info source progress) =
      wpdEnding (stopOf progress info.size 0 0 source).1 (stopOf progress info.size 0 0 source).2
        info.size := by
  obtain ⟨stop, total⟩ := forward_of_accepts progress accepts gone info.size source []
  obtain ⟨wpdId, committed⟩ := accepts.commit
  simp only [List.length_nil, List.map_nil, List.sum_nil] at stop total
  simp only [WpdDevice.upload, ↓reduceIte, WpdDevice.handleUpload, received_of_accepts accepts,
    total, stop]
  by_cases whole : (stopOf progress info.size 0 0 source).2 = info.size
  · simp only [wpdEnding, whole, ↓reduceIte, committed]
    cases (stopOf progress info.size 0 0 source).1 <;> rfl
  · simp only [wpdEnding, whole, ↓reduceIte]
    cases (stopOf progress info.size 0 0 source).1 <;> rfl

end

/-- The class an outcome should have: a success exactly for a source that yields the declared size,
ends cleanly and is not broken off, a cancellation exactly for one that is. -/
def AsStopped (ending : Ending) (stop : Stop) (bytes size : Nat) : Prop :=
  (ending = .ok ↔ stop = .clean ∧ bytes = size) ∧ (ending = .cancelled ↔ stop = .cancelled)

/-- Over WPD an upload succeeds exactly when the declared size was forwarded before the source
stopped, and else is cancelled exactly when the callback broke. Over USB a whole source succeeds, a
break cancels, and a source that fails, not interrupted, fails the upload. So both end as they
should on a source that ends cleanly exactly when it yielded the declared size, and is not
interrupted. -/
theorem upload_endings {peer : UploadPeer} {target : UploadTarget} (usb : PeerAccepts peer)
    (wpd : TargetAccepts target) (device : WpdDevice) (gone : Nat → Bool) (storage : StorageId)
    (parent : Option ObjectHandle) {info : NewObjectInfo}
    (packs : ∃ bytes, info.toObjectInfo.toBytes = .ok bytes) (source : UploadStream)
    (progress : Option ProgressFn) :
    let stop := (stopOf progress info.size 0 0 source).1
    let bytes := (stopOf progress info.size 0 0 source).2
    let overUsb := endingOf (peer.upload storage parent info source progress)
    let overWpd := endingOf (device.upload target true gone storage parent info source progress)
    (overWpd = .ok ↔ bytes = info.size) ∧
      (overWpd = .cancelled ↔ bytes ≠ info.size ∧ stop = .cancelled) ∧
      (stop = .clean → bytes = info.size → overUsb = .ok) ∧
      (stop = .cancelled → overUsb = .cancelled) ∧
      (∀ e, stop = .source e → e.kind ≠ .interrupted → overUsb = .failed) ∧
      ((stop = .clean ↔ bytes = info.size) → (∀ e, stop = .source e → e.kind ≠ .interrupted) →
        overUsb = overWpd ∧ AsStopped overUsb stop bytes info.size) := by
  intro stop bytes overUsb overWpd
  have over_usb : overUsb = usbEnding stop :=
    endingOf_usb progress usb storage parent packs source
  have over_wpd : overWpd = wpdEnding stop bytes info.size :=
    endingOf_wpd progress wpd device gone storage parent info source
  rw [over_usb, over_wpd]
  clear_value stop bytes
  by_cases whole : bytes = info.size
  · cases stop with
    | clean => simp [usbEnding, wpdEnding, whole, AsStopped]
    | cancelled => simp [usbEnding, wpdEnding, whole]
    | source e => simp [usbEnding, wpdEnding, whole]
  · cases stop with
    | clean => simp [usbEnding, wpdEnding, whole]
    | cancelled => simp [usbEnding, wpdEnding, whole, AsStopped]
    | source e =>
        by_cases interrupted : e.kind = .interrupted <;>
          simp [usbEnding, wpdEnding, whole, interrupted, AsStopped]

/-- Devices that accept everything, and a file of three bytes. -/
def openPeer : UploadPeer where
  split := false
  sendInfo := fun _ _ => .ok ⟨.ok, 0, [0x10001, 0, 7]⟩
  created := some 7
  command := .ok ()
  transfer := fun _ => .ok ()
  finish := .ok ()
  respond := .ok ⟨.ok, 0, []⟩
  names := by
    intro params bytes response handle answered _ named
    cases answered
    exact named

def openTarget : UploadTarget :=
  ⟨.ok (), fun _ => .ok 1, .ok "o7", some "o7", ⟨fun _ => .error ⟨0x80070002, ""⟩,
    fun _ => .error ⟨0x80070002, ""⟩⟩⟩

def threeByteFile : NewObjectInfo := ⟨"a.bin", 3, none, none⟩

theorem openPeer_accepts : PeerAccepts openPeer where
  info := fun _ _ => ⟨_, rfl, rfl, Nat.le_refl 3⟩
  command := rfl
  transfer := fun _ => rfl
  finish := rfl
  respond := ⟨_, rfl, rfl⟩

theorem openTarget_accepts : TargetAccepts openTarget where
  stream := rfl
  write := fun _ => ⟨1, rfl, Nat.one_ne_zero⟩
  commit := ⟨_, rfl⟩

theorem threeByteFile_packs : ∃ bytes, threeByteFile.toObjectInfo.toBytes = .ok bytes := by
  obtain ⟨name, packed⟩ := Ptp.packString_ok (s := "a.bin") (by decide)
  simp only [Ptp.ObjectDataset.toBytes, threeByteFile, NewObjectInfo.toObjectInfo,
    Ptp.ObjectDataset.empty, packed, Ptp.packOptionalDatetime, bind, Except.bind, pure, Except.pure]
  exact ⟨_, rfl⟩

/-- A source that is broken off at its second chunk cancels both uploads. -/
theorem upload_endings_broken :
    endingOf (openPeer.upload 0x10001 none threeByteFile [.ok [1, 2], .ok [3]]
        (some fun call _ => call == 1)) =
      endingOf (WpdDevice.upload ⟨IdMap.new, []⟩ openTarget true (fun _ => false) 0x10001 none
        threeByteFile [.ok [1, 2], .ok [3]] (some fun call _ => call == 1)) :=
  ((upload_endings openPeer_accepts openTarget_accepts ⟨IdMap.new, []⟩ (fun _ => false) 0x10001 none
    threeByteFile_packs [.ok [1, 2], .ok [3]] (some fun call _ => call == 1)).2.2.2.2.2
      (by decide) (by intro e stopped; cases stopped)).1

/-- A source that fails behind the last byte fails the upload over USB, and not over WPD. -/
theorem upload_endings_differ :
    endingOf (openPeer.upload 0x10001 none threeByteFile
        [.ok [1, 2, 3], .error ⟨.other, ""⟩] none) = .failed ∧
      endingOf (WpdDevice.upload ⟨IdMap.new, []⟩ openTarget true (fun _ => false) 0x10001 none
        threeByteFile [.ok [1, 2, 3], .error ⟨.other, ""⟩] none) = .ok :=
  ⟨endingOf_usb none openPeer_accepts 0x10001 none threeByteFile_packs _,
    endingOf_wpd none openTarget_accepts ⟨IdMap.new, []⟩ (fun _ => false) 0x10001 none
      threeByteFile _⟩

end Wpd
