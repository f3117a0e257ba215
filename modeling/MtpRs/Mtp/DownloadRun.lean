import MtpRs.Lib.Runs
import MtpRs.Mtp.FileDownload

set_option autoImplicit false

/- A download in use: its calls, the answers they wait for, the futures dropped. -/
namespace Mtp

open Ptp (Bytes)

/-- What the backend is asked, and what the calls of `next_chunk` return. -/
inductive DownloadEvent where
  | asked (request : DownloadRequest)
  | returned (item : BodyItem)
  | cancelled
deriving DecidableEq, Repr

namespace DownloadEvent

@[simp] def chunks : List DownloadEvent → List Bytes
  | [] => []
  | .returned (some (.ok chunk)) :: rest => chunk :: chunks rest
  | _ :: rest => chunks rest

@[simp] theorem chunks_append (front back : List DownloadEvent) :
    chunks (front ++ back) = chunks front ++ chunks back := by
  induction front with
  | nil => rfl
  | cons event rest ih =>
      rcases event with request | (_ | _ | chunk) | _ <;>
        simp only [List.cons_append, chunks, ih]

def bytes (events : List DownloadEvent) : Bytes := (chunks events).flatten

@[simp] theorem bytes_nil : bytes [] = [] := rfl

@[simp] theorem bytes_append (front back : List DownloadEvent) :
    bytes (front ++ back) = bytes front ++ bytes back := by
  simp only [bytes, chunks_append, List.flatten_append]

@[simp] theorem bytes_asked (asked : Option DownloadRequest) :
    bytes (asked.map .asked).toList = [] := by
  cases asked <;> rfl

@[simp] theorem bytes_request (request : DownloadRequest) : bytes [.asked request] = [] := rfl

@[simp] theorem bytes_chunk (chunk : Bytes) : bytes [.returned (some (.ok chunk))] = chunk :=
  List.append_nil chunk

@[simp] theorem bytes_failed (e : Error) : bytes [.returned (some (.error e))] = [] := rfl

@[simp] theorem bytes_over : bytes [.returned none] = [] := rfl

@[simp] theorem bytes_cancelled : bytes [.cancelled] = [] := rfl

/-- A call returned an error, or the download was cancelled. -/
def Stopped (events : List DownloadEvent) : Prop :=
  .cancelled ∈ events ∨ ∃ e, .returned (some (.error e)) ∈ events

end DownloadEvent

structure Reader (ρ : Type) where
  download : FileDownload ρ
  await : Option DownloadAwait
  events : List DownloadEvent

inductive DownloadAction where
  | call
  | answer (answer : DownloadAnswer)
  | drop
  | cancel
deriving DecidableEq, Repr

namespace Reader

variable {ρ : Type} (rates : Rates ρ) (backend : Backend)

def initial (download : FileDownload ρ) : Reader ρ :=
  ⟨download, none, ((download.current.map ActiveRead.body).map .asked).toList⟩

def polled (self : Reader ρ) : DownloadPoll ρ → Reader ρ
  | .pending download await asked =>
      ⟨download, some await, self.events ++ (asked.map .asked).toList⟩
  | .ready download item => ⟨download, none, self.events ++ [.returned item]⟩

def step (self : Reader ρ) : DownloadAction → Option (Reader ρ)
  | .call =>
      match self.await with
      | none => some (self.polled (self.download.nextChunk rates backend))
      | some _ => none
  | .answer answer =>
      match self.await with
      | none => none
      | some await => (self.download.resume rates backend await answer).map self.polled
  | .drop =>
      match self.await with
      | none => none
      | some _ => some { self with await := none }
  | .cancel =>
      match self.await with
      | none => some ⟨self.download.cancel, none, self.events ++ [.cancelled]⟩
      | some _ => none

/-- The steps of a download in use. -/
def Steps (self : Reader ρ) (action : DownloadAction) (next : Reader ρ) : Prop :=
  self.step rates backend action = some next

/-- The chunk a call that closes a full window holds. -/
def held (self : Reader ρ) : Bytes :=
  match self.await with
  | some (.closing _ chunk) => chunk
  | _ => []

end Reader

end Mtp
