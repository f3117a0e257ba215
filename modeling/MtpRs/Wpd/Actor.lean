import MtpRs.Lib.Runs
import MtpRs.Wpd.Stream

set_option autoImplicit false

/- The worker thread that owns the device: how it reads ranges and windows, and the stream it keeps
for the next one. -/
namespace Wpd

open Mtp (Error ObjectHandle)
open Ptp (Bytes)

/-- An object's bytes, as many as a 64-bit size counts. -/
structure ObjectData where
  bytes : Bytes
  fits : bytes.length < 2 ^ 64

/-- The stream of the last read that stopped before the end, and where it stopped. -/
structure OpenRead where
  obj : ObjectHandle
  stoppedAt : UInt64
  stream : IStream

structure Worker where
  ids : IdMap
  contents : String → ObjectData
  lastRead : Option OpenRead

namespace Worker

/-- `open_stream`; `getStream` is the device's answer. -/
def openStream (self : Worker) (obj : ObjectHandle) (getStream : Except WinError (Option Traits)) :
    Except Error IStream :=
  match self.ids.objectId obj with
  | none => .error .staleHandle
  | some id =>
      match getStream with
      | .error e => .error (mapHresult e)
      | .ok none => .error (.other "WPD GetStream returned a null stream")
      | .ok (some traits) => .ok ⟨(self.contents id).bytes, traits, 0, 0⟩

def openAt (self : Worker) (obj : ObjectHandle) (offset : UInt64)
    (getStream : Except WinError (Option Traits)) : Except Error IStream :=
  match self.openStream obj getStream with
  | .error e => .error e
  | .ok stream =>
      match streamSeek stream offset with
      | (.error e, _) => .error e
      | (.ok _, stream) => .ok stream

/-- The kept stream, when the read starts where it stopped, else a new one. -/
def streamAt (self : Worker) (obj : ObjectHandle) (offset : UInt64)
    (getStream : Except WinError (Option Traits)) : Except Error IStream :=
  match self.lastRead.filter fun kept => kept.obj == obj && kept.stoppedAt == offset with
  | some kept => .ok kept.stream
  | none => self.openAt obj offset getStream

def handleReadRange (self : Worker) (obj : ObjectHandle) (offset : UInt64) (len : Option UInt32)
    (getStream : Except WinError (Option Traits)) : Except Error Bytes × Option OpenRead :=
  match self.streamAt obj offset getStream with
  | .error e => (.error e, none)
  | .ok stream =>
      match readRangeLoop (len.map UInt32.toNat) [] stream with
      | (.error e, _) => (.error e, none)
      | (.ok (out, eof), stream) =>
          (.ok out, if eof then none else some ⟨obj, offset + UInt64.ofNat out.length, stream⟩)

/-- Who gets a window's chunks: whether it still waits for the reply, and which sends find it
reading. -/
structure Consumer where
  waits : Bool
  takes : Nat → Bool

/-- `handle_download_window`: how the chunks ended and those the consumer took, with the stream that
is kept. -/
def handleDownloadWindow (self : Worker) (obj : ObjectHandle) (offset : UInt64) (len : UInt32)
    (getStream : Except WinError (Option Traits)) (consumer : Consumer) :
    Except Error (PumpOutcome × List (Except Error Bytes)) × Option OpenRead :=
  match self.streamAt obj offset getStream with
  | .error e => (.error e, none)
  | .ok stream =>
      if consumer.waits then
        let pumped := pumpLoop consumer.takes (some len.toNat) 0 stream
        (.ok (pumped.1, pumped.2.1),
          if pumped.1 = .complete then some ⟨obj, offset + len.toUInt64, pumped.2.2⟩ else none)
      else (.ok (.stopped, []), none)

/-- What happens on the worker: a request, the timeout for the next window, or the device's objects
and the IDs handed out for them changing. -/
inductive Event where
  | readRange (obj : ObjectHandle) (offset : UInt64) (len : Option UInt32)
      (getStream : Except WinError (Option Traits))
  | downloadWindow (obj : ObjectHandle) (offset : UInt64) (len : UInt32)
      (getStream : Except WinError (Option Traits)) (consumer : Consumer)
  | otherRequest
  | idle
  | change (ids : IdMap) (contents : String → ObjectData)

/-- One turn of the loop of `worker_main`: the kept stream is released before any request but a
read, and by the timeout. -/
def next (self : Worker) : Event → Worker
  | .readRange obj offset len getStream =>
      { self with lastRead := (self.handleReadRange obj offset len getStream).2 }
  | .downloadWindow obj offset len getStream consumer =>
      { self with lastRead := (self.handleDownloadWindow obj offset len getStream consumer).2 }
  | .otherRequest => { self with lastRead := none }
  | .idle => { self with lastRead := none }
  | .change ids contents => { self with ids, contents }

/-- An ID once handed out stays, and an object does not change while a stream on it is kept. -/
def Allowed (self : Worker) : Event → Prop
  | .change ids contents =>
      (∀ handle id, self.ids.objectId handle = some id → ids.objectId handle = some id) ∧
        ∀ kept id, self.lastRead = some kept → self.ids.objectId kept.obj = some id →
          contents id = self.contents id
  | _ => True

/-- The runs of the worker. -/
abbrev Runs (first : Worker) (events : List Event) (last : Worker) : Prop :=
  Runs.Run (Runs.Restricted Allowed fun worker event after => worker.next event = after)
    first events last

end Worker

end Wpd
