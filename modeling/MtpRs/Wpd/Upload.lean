import MtpRs.Mtp.Upload
import MtpRs.Wpd.Com

set_option autoImplicit false

/- Uploads on Windows: the caller forwards the source's chunks over a channel to the worker, which
writes them to the device. -/
namespace Wpd

open Mtp (Error NewObjectInfo ObjectHandle ObjectEntry ProgressFn StorageId UploadError UploadStream
  breaks)
open Ptp (Bytes IoError)

/-- `find_child_by_name`, with the device's state after the listing. -/
def WpdDevice.findChildByName (self : WpdDevice) (content : Content) (storage : StorageId)
    (parent : Option ObjectHandle) (name : String) : Option ObjectHandle × WpdDevice :=
  let ((listing, _), device) := self.list content storage parent (fun _ => false)
  match listing with
  | .error _ => (none, device)
  | .ok objects => ((objects.find? fun o => o.filename == name).map (·.handle), device)

/-- `stream_write`, from write number `count` on: what the data left comes to after short writes. -/
def streamWrite (write : Nat → Except WinError Nat) (count : Nat) (data : Bytes) :
    Except Error Unit × Nat :=
  if data = [] then (.ok (), count)
  else
    match write count with
    | .error e => (.error (mapHresult e), count + 1)
    | .ok wrote =>
        if _some : wrote = 0 then
          (.error (.other "WPD stream write returned 0 bytes"), count + 1)
        else streamWrite write (count + 1) (data.drop wrote)
termination_by data.length
decreasing_by
  rename_i some
  have positive := List.length_pos_iff.mpr some
  rw [List.length_drop]
  omega

/-- The device during one upload: whether it opens a stream for the object, how many bytes each
write takes, the ID it commits the object under, the object it made, and its objects when the stream
has been released. -/
structure UploadTarget where
  createUploadStream : Except Error Unit
  write : Nat → Except WinError Nat
  commit : Except Error String
  created : Option String
  after : Content

namespace UploadTarget

/-- The loop of `handle_upload` over the chunks so far, from write number `count` on: the failed
write it ended at, if one failed. -/
def writeAll (self : UploadTarget) (count : Nat) : List Bytes → Except Error Unit
  | [] => .ok ()
  | chunk :: rest =>
      match streamWrite self.write count chunk with
      | (.error e, _) => .error e
      | (.ok _, count) => self.writeAll count rest

/-- What the worker has come to after some chunks, before the channel closes: an error ends it. -/
def received (self : UploadTarget) (chunks : List Bytes) : Except Error Unit :=
  match self.createUploadStream with
  | .error e => .error e
  | .ok _ => self.writeAll 0 chunks

end UploadTarget

/-- The verdict the worker sends back. -/
inductive UploadReply where
  | committed (handle : ObjectHandle)
  | shortClosed (partialObject : Option ObjectHandle)
  | error (source : Error)
deriving DecidableEq, Repr

/-- `handle_upload`, over the chunks the channel brings until it closes. -/
def WpdDevice.handleUpload (self : WpdDevice) (target : UploadTarget) (storage : StorageId)
    (parent : Option ObjectHandle) (info : NewObjectInfo) (chunks : List Bytes) : UploadReply :=
  match target.received chunks with
  | .error e => .error e
  | .ok _ =>
      let written := (chunks.map List.length).sum
      if written = info.size then
        match target.commit with
        | .ok wpdId => .committed (self.ids.object wpdId).1
        | .error e => .error e
      else .shortClosed (self.findChildByName target.after storage parent info.filename).1

inductive Stop where
  | clean
  | cancelled
  | source (error : IoError)
deriving DecidableEq, Repr

/-- The loop of `upload` that forwards the source, with the chunks the channel took. Once the worker
has ended, `gone` is whether a send already finds the channel closed. -/
def forward (target : UploadTarget) (gone : Nat → Bool) (progress : Option ProgressFn) (total : Nat)
    (sent : List Bytes) : UploadStream → Stop × List Bytes
  | [] => (.clean, sent)
  | .error e :: _ => (.source e, sent)
  | .ok chunk :: rest =>
      let next := (sent.map List.length).sum + chunk.length
      if breaks progress sent.length next total then (.cancelled, sent)
      else
        match target.received sent, gone sent.length with
        | .error _, true => (.clean, sent)
        | _, _ => forward target gone progress total (sent ++ [chunk]) rest

/-- How `upload` reconciles why the source stopped with the worker's verdict. -/
def reconcile : Stop → UploadReply → Except UploadError ObjectHandle
  | _, .error source => .error ⟨source, none⟩
  | _, .committed handle => .ok handle
  | .cancelled, .shortClosed partialObject => .error ⟨.cancelled, partialObject⟩
  | .source e, .shortClosed partialObject => .error ⟨.io e.text, partialObject⟩
  | .clean, .shortClosed partialObject =>
      .error ⟨.invalidData "upload stream ended before the declared size was reached",
        partialObject⟩

/-- `upload` over WPD. A worker that is gone answers nothing. -/
def WpdDevice.upload (self : WpdDevice) (target : UploadTarget) (alive : Bool) (gone : Nat → Bool)
    (storage : StorageId) (parent : Option ObjectHandle) (info : NewObjectInfo)
    (data : UploadStream) (progress : Option ProgressFn) : Except UploadError ObjectHandle :=
  if alive then
    let (stop, chunks) := forward target gone progress info.size [] data
    reconcile stop (self.handleUpload target storage parent info chunks)
  else .error ⟨.disconnected, none⟩

end Wpd
