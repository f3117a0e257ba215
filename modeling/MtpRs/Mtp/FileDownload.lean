import MtpRs.Mtp.Error
import MtpRs.Ptp.Pack

set_option autoImplicit false

/- A file download: a held-open transfer or a series of windows. Its futures are
cut at their awaits. Byte counts are natural numbers, `u64` in the source: where a
device may send more than was asked for, a result says that they fit. -/
namespace Mtp

open Ptp (Bytes)

/-- Which bytes of an object a download should cover. -/
inductive ByteRange where
  | full
  | from_ (offset : Nat)
  | range (offset len : Nat)
deriving DecidableEq, Repr

def ByteRange.offset : ByteRange → Nat
  | .full => 0
  | .from_ offset => offset
  | .range offset _ => offset

def u32Max : Nat := 2 ^ 32 - 1

def u64Max : Nat := 2 ^ 64 - 1

def ByteRange.end_ (self : ByteRange) (size : Nat) : Nat :=
  match self with
  | .range offset len => min (min (offset + len) u64Max) size
  | _ => size

/-- How a download spreads a file over device transactions. A duration counts
nanoseconds. -/
inductive DownloadPacing where
  | heldOpen
  | maxCancelDelay (target : Nat)
  | fixedWindow (size : UInt32)
deriving DecidableEq, Repr

def mib : Nat := 1024 * 1024

/-- The first window of an adaptive download, before any speed is known. -/
def firstWindow : Nat := 8 * mib

def minWindow : Nat := mib

/-- The floating-point steps on a rate, in bytes a second. -/
structure Rates (ρ : Type) where
  measured : Nat → Nat → ρ
  average : ρ → ρ → ρ
  bytesIn : ρ → Nat → Nat

structure Pacer (ρ : Type) where
  pacing : DownloadPacing
  rate : Option ρ

namespace Pacer

variable {ρ : Type} (rates : Rates ρ)

def new (pacing : DownloadPacing) : Pacer ρ := ⟨pacing, none⟩

def heldOpen (self : Pacer ρ) : Bool := self.pacing = .heldOpen

/-- The `want` of `next_window`. -/
def want (self : Pacer ρ) (remaining : Nat) : Nat :=
  match self.pacing with
  | .fixedWindow size => max size.toNat 1
  | .maxCancelDelay target =>
      match self.rate with
      | none => firstWindow
      | some rate => max (rates.bytesIn rate target / mib * mib) minWindow
  | .heldOpen => remaining

/-- The size of the next window, given the bytes still to read. -/
def nextWindow (self : Pacer ρ) (remaining : Nat) : UInt32 :=
  let size := min (self.want rates remaining) remaining
  if size ≤ u32Max then UInt32.ofNat size else UInt32.ofNat u32Max

/-- Learn from a finished window: `bytes` read in `deviceTime`. -/
def record (self : Pacer ρ) (bytes deviceTime : Nat) : Pacer ρ :=
  if bytes = 0 ∨ deviceTime = 0 then self
  else
    let rate := rates.measured bytes deviceTime
    { self with rate := some (match self.rate with
        | none => rate
        | some old => rates.average old rate) }

end Pacer

/-- A read asked of the backend: `download_window` or `download`. -/
inductive DownloadRequest where
  | window (handle : UInt32) (offset : Nat) (len : UInt32)
  | transfer (handle : UInt32) (range : ByteRange) (size : Nat)
deriving DecidableEq, Repr

/-- One read in flight. The body is known by the request it serves. -/
structure ActiveRead where
  body : DownloadRequest
  heldOpen : Bool
  requested : Nat
  received : Nat
  deviceTime : Nat
deriving DecidableEq, Repr

structure FileDownload (ρ : Type) where
  handle : UInt32
  size : Nat
  start : Nat
  end_ : Nat
  offset : Nat
  pacer : Pacer ρ
  current : Option ActiveRead
  started : Bool
  done : Bool

/-- What a download uses of its backend besides the bodies. -/
structure Backend where
  canReadPartiallyAt : Nat → Bool

/-- What a body's `next_chunk` gives. -/
abbrev BodyItem := Option (Except Error Bytes)

/-- Where a call of `next_chunk` waits. -/
inductive DownloadAwait where
  | body
  | closing (read : ActiveRead) (chunk : Bytes)
  | yielding
  | opening (read : ActiveRead)
deriving DecidableEq, Repr

inductive DownloadAnswer where
  | item (item : BodyItem) (waited : Nat)
  | yielded
  | opened (result : Except Error Unit) (waited : Nat)
deriving DecidableEq, Repr

/-- Where a call of `next_chunk` stands after a poll, with the request it sent. -/
inductive DownloadPoll (ρ : Type) where
  | pending (download : FileDownload ρ) (await : DownloadAwait) (asked : Option DownloadRequest)
  | ready (download : FileDownload ρ) (item : BodyItem)

namespace FileDownload

variable {ρ : Type} (rates : Rates ρ) (backend : Backend)

/-- End the download on an error, dropping any read in flight. -/
def fail (self : FileDownload ρ) : FileDownload ρ :=
  { self with current := none, done := true }

/-- The held-open transfer of `start_next_read`. -/
def transfer (self : FileDownload ρ) : ActiveRead where
  body := .transfer self.handle (if self.offset = 0 ∧ self.end_ = self.size then .full
    else .range self.offset (self.end_ - self.offset)) self.size
  heldOpen := true
  requested := self.end_ - self.offset
  received := 0
  deviceTime := 0

/-- The next window of `start_next_read`. -/
def window (self : FileDownload ρ) : ActiveRead :=
  let len := self.pacer.nextWindow rates (self.end_ - self.offset)
  { body := .window self.handle self.offset len
    heldOpen := false
    requested := len.toNat
    received := 0
    deviceTime := 0 }

def asks (self : FileDownload ρ) (read : ActiveRead) : DownloadPoll ρ :=
  .pending self (.opening read) (some read.body)

/-- `start_next_read`. Between windows it yields once. -/
def startNextRead (self : FileDownload ρ) : DownloadPoll ρ :=
  if !self.pacer.heldOpen && backend.canReadPartiallyAt self.offset then
    if self.started then .pending self .yielding none
    else self.asks (self.window rates)
  else self.asks self.transfer

/-- The end of the loop's body, with no read in flight. -/
def readNext (self : FileDownload ρ) : DownloadPoll ρ :=
  if self.end_ ≤ self.offset then .ready { self with done := true } none
  else self.startNextRead rates backend

def nextChunk (self : FileDownload ρ) : DownloadPoll ρ :=
  if self.done then .ready self none
  else
    match self.current with
    | some _ => .pending self .body none
    | none => self.readNext rates backend

def received (self : FileDownload ρ) (read : ActiveRead) (chunk : Bytes) : DownloadPoll ρ :=
  let read := { read with received := read.received + chunk.length }
  let self := { self with current := some read, offset := self.offset + chunk.length }
  if !read.heldOpen && read.requested < read.received then
    .ready self.fail (some (.error (.invalidData ("device sent " ++ toString read.received ++
      " bytes for a " ++ toString read.requested ++ "-byte read at offset " ++
      toString (self.offset - read.received)))))
  else if !read.heldOpen && read.received = read.requested then
    -- `close_full_window` takes the window out of the state before it awaits
    .pending { self with current := none } (.closing read chunk) none
  else .ready self (some (.ok chunk))

def readEnded (self : FileDownload ρ) (read : ActiveRead) : DownloadPoll ρ :=
  let self := { self with current := none }
  if read.received = 0 ∧ self.offset < self.end_ then
    .ready self.fail (some (.error (.invalidData ("device returned no data at offset " ++
      toString self.offset ++ " of " ++ toString self.size ++ " (expected up to " ++
      toString read.requested ++ "); treating it as a stall, not the end of the file"))))
  else if read.heldOpen then self.readNext rates backend
  else { self with pacer := self.pacer.record rates read.received read.deviceTime }.readNext
    rates backend

def bodyItem (self : FileDownload ρ) (read : ActiveRead) : BodyItem → DownloadPoll ρ
  | some (.ok chunk) => self.received read chunk
  | some (.error e) => .ready self.fail (some (.error e))
  | none => self.readEnded rates backend read

/-- The rest of `close_full_window`, and of the call that holds `chunk`. -/
def windowClosed (self : FileDownload ρ) (read : ActiveRead) (chunk : Bytes) :
    BodyItem → DownloadPoll ρ
  | none => .ready { self with pacer := self.pacer.record rates read.received read.deviceTime }
      (some (.ok chunk))
  | some (.ok extra) => .ready self.fail (some (.error (.invalidData ("device sent " ++
      toString extra.length ++ " bytes more than the " ++ toString read.requested ++
      " asked for at offset " ++ toString (self.offset - read.received)))))
  | some (.error e) => .ready self.fail (some (.error e))

/-- A poll of a call whose await is answered, `none` where the answer is of
another kind than the await. -/
def resume (self : FileDownload ρ) : DownloadAwait → DownloadAnswer → Option (DownloadPoll ρ)
  | .body, .item item waited =>
      self.current.map fun read =>
        self.bodyItem rates backend { read with deviceTime := read.deviceTime + waited } item
  | .closing read chunk, .item item waited =>
      some (self.windowClosed rates { read with deviceTime := read.deviceTime + waited } chunk item)
  | .yielding, .yielded => some (self.asks (self.window rates))
  | .opening read, .opened (.ok ()) waited =>
      some (.pending { self with
        current := some { read with deviceTime := waited }, started := true } .body none)
  | .opening _, .opened (.error e) _ => some (.ready self.fail (some (.error e)))
  | _, _ => none

/-- The download that `start` sets up, before a held-open transfer starts. -/
def prepare (handle : UInt32) (size : Nat) (range : ByteRange) (pacing : DownloadPacing) :
    FileDownload ρ :=
  let start := range.offset
  let end_ := range.end_ size
  let wholeFile := start = 0 ∧ end_ = size
  { handle, size, start, end_
    offset := start
    pacer := .new (if wholeFile ∧ 0 < end_ ∧ !backend.canReadPartiallyAt (end_ - 1) then .heldOpen
      else pacing)
    current := none
    started := false
    done := false }

def startsTransfer (self : FileDownload ρ) : Bool :=
  (self.pacer.heldOpen || !backend.canReadPartiallyAt self.start) && self.start < self.end_

/-- `start`, with what the backend makes of the transfer it may start. -/
def startDownload (handle : UInt32) (size : Nat) (range : ByteRange) (pacing : DownloadPacing)
    (transfer : Except Error Unit) (waited : Nat) : Except Error (FileDownload ρ) :=
  if size < range.offset then
    .error (.invalidData ("download offset " ++ toString range.offset ++
      " is past the object size " ++ toString size))
  else
    let download : FileDownload ρ := prepare backend handle size range pacing
    if download.startsTransfer backend then
      match transfer with
      | .error e => .error e
      | .ok () => .ok { download with
          current := some { download.transfer with deviceTime := waited }, started := true }
    else .ok download

def cancel (self : FileDownload ρ) : FileDownload ρ := { self with current := none, done := true }

end FileDownload

end Mtp
