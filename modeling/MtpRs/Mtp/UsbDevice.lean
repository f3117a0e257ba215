import MtpRs.Mtp.Usb
import MtpRs.Mtp.Windows

set_option autoImplicit false

/- A USB device that answers a download's commands with the object's bytes. -/
namespace Mtp

open Ptp (Bytes ObjectInfo PtpError)

open DownloadEvent (bytes Stopped)

def StreamCommand.covers (object : Bytes) (self : StreamCommand) : Bytes :=
  match self.operation, self.params with
  | .getObject, [_] => object
  | .getPartialObject64, [_, low, high, maxBytes] =>
      (object.drop (low.toNat + 2 ^ 32 * high.toNat)).take maxBytes.toNat
  | .getPartialObject, [_, offset, maxBytes] => (object.drop offset.toNat).take maxBytes.toNat
  | _, _ => []

/-- What a device gives for a command, `received` bytes in: the next of the bytes asked
for. A partial read may end early, a whole object may not. -/
def StreamCommand.Answers (object : Bytes) (self : StreamCommand) (received : Nat) :
    BodyItem → Prop
  | some (.ok chunk) => received + chunk.length ≤ (self.covers object).length ∧
      chunk <+: (self.covers object).drop received
  | some (.error _) => True
  | none => self.operation = .getObject → received = object.length

namespace UsbBackend

/-- An offset the device reads partially at is one it has a command for. -/
theorem command_of_canReadPartiallyAt (self : UsbBackend) {offset : Nat}
    (can : self.canReadPartiallyAt offset = true) (obj : UInt32) (maxBytes : UInt32) :
    ∃ command, self.partialReadStream obj offset maxBytes = .ok command := by
  unfold canReadPartiallyAt at can
  unfold partialReadStream
  cases planned : self.partialRead offset with
  | error e =>
      rw [planned] at can
      cases can
  | ok op => cases op <;> exact ⟨_, rfl⟩

/-- A partial read asks for the bytes from its offset, whichever operation it takes. -/
theorem partialReadStream_covers {self : UsbBackend} {obj : UInt32} {offset : Nat}
    {maxBytes : UInt32} {command : StreamCommand} (object : Bytes) (fits : offset ≤ u64Max)
    (sent : self.partialReadStream obj offset maxBytes = .ok command) :
    command.covers object = (object.drop offset).take maxBytes.toNat ∧
      command.operation ≠ .getObject := by
  unfold partialReadStream at sent
  cases planned : self.partialRead offset with
  | error e =>
      rw [planned] at sent
      cases sent
  | ok op =>
      rw [planned] at sent
      cases op with
      | wide =>
          cases sent
          have split : (UInt32.ofNat offset).toNat +
              2 ^ 32 * (UInt32.ofNat (offset / 2 ^ 32)).toNat = offset := by
            unfold u64Max at fits
            rw [UInt32.toNat_ofNat', UInt32.toNat_ofNat']
            omega
          exact ⟨by simp only [StreamCommand.covers, split], nofun⟩
      | narrow =>
          cases sent
          have low : (UInt32.ofNat offset).toNat = offset := by
            unfold partialRead planPartialRead at planned
            split at planned
            · cases planned
            · split at planned
              · split at planned
                · cases planned
                · rename_i reaches
                  unfold u32Max at reaches
                  rw [UInt32.toNat_ofNat']
                  omega
              · cases planned
          exact ⟨by simp only [StreamCommand.covers, low], nofun⟩

/-- The command for a whole object. -/
theorem download_full (self : UsbBackend) (obj : UInt32) (size : Nat) :
    self.download obj .full size = .ok {
      operation := .getObject
      params := [obj]
      size := if u32Max < size then some size else none } := rfl

/-- A ranged transfer asks for no more than its range. -/
theorem download_range {self : UsbBackend} {obj : UInt32} {offset len size : Nat}
    {command : StreamCommand} (object : Bytes) (fits : offset ≤ u64Max)
    (sent : self.download obj (.range offset len) size = .ok command) :
    ∃ maxBytes ≤ len, command.covers object = (object.drop offset).take maxBytes := by
  unfold download at sent
  dsimp only at sent
  split at sent
  · cases sent
  · refine ⟨_, ?_, (partialReadStream_covers object fits sent).1⟩
    have most : (UInt32.ofNat u32Max).toNat = u32Max := rfl
    split
    · rename_i small
      unfold u32Max at small
      rw [UInt32.toNat_ofNat']
      omega
    · omega

end UsbBackend

namespace Reader

variable {ρ : Type} {object : Bytes}

/-- The device answers the commands of the download. -/
def Answered (usb : UsbBackend) (object : Bytes) (self : Reader ρ) (action : DownloadAction) :
    Prop :=
  match self.await, self.download.current, action with
  | some (.opening read), _, .answer (.opened result _) =>
      match usb.command read.body with
      | .error e => result = .error e
      | .ok _ => True
  | some .body, some read, .answer (.item item _) =>
      ∃ command, usb.command read.body = .ok command ∧
        command.Answers object read.received item
  | _, _, _ => True

/-- An honest USB device, and a caller that waits for the end of each full window. -/
def Device (usb : UsbBackend) (object : Bytes) (self : Reader ρ) (action : DownloadAction) : Prop :=
  self.Answered usb object action ∧ self.Kept action

end Reader

section Reads

variable {ρ : Type} {usb : UsbBackend} {download : FileDownload ρ} {read : ActiveRead}

/-- A read starts inside the range. -/
theorem FileDownload.Along.offset_le (along : download.Along read) :
    read.body.offset ≤ download.end_ := by
  have fits := along.fits
  unfold FileDownload.Fits at fits
  split at fits <;> rename_i body <;> rw [body] <;>
    simp only [DownloadRequest.offset, ByteRange.offset]
  · omega
  · omega
  · exact Nat.zero_le _
  · exact absurd fits id

/-- A chunk of what stands behind the first `received` bytes of a part. -/
theorem prefix_of_part {object chunk : Bytes} {offset received most : Nat}
    (next : chunk <+: ((object.drop offset).take most).drop received) :
    chunk <+: object.drop (offset + received) := by
  rw [List.drop_take, List.drop_drop] at next
  exact next.trans (List.take_prefix _ _)

/-- What a device answers to a command serves the read that sent it. -/
theorem serves_of_answers {object : Bytes} (along : download.Along read)
    (fits : download.end_ ≤ u64Max) {command : StreamCommand}
    (sent : usb.command read.body = .ok command) {item : BodyItem}
    (answers : command.Answers object read.received item) :
    Serves object read.body read.received item := by
  have starts := Nat.le_trans along.offset_le fits
  have whole := along.fits
  rcases item with _ | e | chunk
  · trivial
  · trivial
  · obtain ⟨inside, next⟩ := answers
    unfold FileDownload.Fits at whole
    split at whole <;> rename_i body <;> rw [body] at sent starts ⊢ <;>
      simp only [DownloadRequest.offset, ByteRange.offset] at starts
    · rw [(UsbBackend.partialReadStream_covers object starts sent).1] at next
      exact ⟨prefix_of_part next, trivial⟩
    · obtain ⟨maxBytes, most, covers⟩ := UsbBackend.download_range object starts sent
      rw [covers] at next inside
      refine ⟨prefix_of_part next, ?_⟩
      rw [List.length_take] at inside
      exact Nat.le_trans inside (Nat.le_trans (Nat.min_le_left _ _) most)
    · cases sent
      exact ⟨by simpa [StreamCommand.covers, DownloadRequest.offset, ByteRange.offset] using next,
        trivial⟩
    · exact absurd whole id

end Reads

namespace Reader

variable {ρ : Type} {usb : UsbBackend} {object : Bytes}

/-- An honest device serves a download that goes on. -/
theorem Device.honest {reader : Reader ρ} (follows : reader.Going object ∨ reader.Halted object)
    (fits : reader.download.end_ ≤ u64Max) {action : DownloadAction}
    (device : reader.Device usb object action) : reader.Honest object action := by
  refine ⟨?_, device.2⟩
  have answered := device.1
  unfold Served
  split
  · rename_i read item waited waits inFlight
    simp only [Answered, waits, inFlight] at answered
    obtain ⟨command, sent, answers⟩ := answered
    rcases follows with going | halted
    · exact serves_of_answers (going.flight read inFlight) fits sent answers
    · rw [halted.idle] at waits
      cases waits
  · trivial

/-- A device that answers in windows is an honest one, also where the object goes on
behind the bytes it reports. -/
theorem Windowed.device {reader : Reader ρ} {part : Bytes} (ahead : part <+: object)
    (inWindows : reader.InWindows usb.backend part) (fits : reader.download.end_ ≤ u64Max)
    {action : DownloadAction} (windowed : reader.Windowed part action) :
    reader.Device usb object action := by
  have windowing := inWindows.windowing
  have sends : ∀ {read}, WindowRead reader.download.start reader.download.end_ read →
      ∃ handle offset len command, read.body = .window handle offset len ∧
        usb.partialReadStream handle offset len = .ok command := by
    intro read window
    obtain ⟨handle, offset, len, body⟩ := window.body
    have begins := window.begins
    have inside := window.inside
    have least := window.least
    rw [body] at begins inside
    simp only [DownloadRequest.offset] at begins inside
    obtain ⟨command, sent⟩ := usb.command_of_canReadPartiallyAt
      (windowing.partially offset begins (by omega)) handle len
    exact ⟨handle, offset, len, command, body, sent⟩
  refine ⟨?_, (windowed.honest windowing).2⟩
  unfold Answered
  split
  · rename_i read result waited waits
    obtain ⟨handle, offset, len, command, body, sent⟩ := sends (windowing.opening read waits).1
    rw [body]
    simp only [UsbBackend.command, UsbBackend.downloadWindow, sent]
  · rename_i read item waited waits inFlight
    have along := inWindows.going.flight read inFlight
    obtain ⟨handle, offset, len, command, body, sent⟩ := sends (windowing.flight read inFlight)
    have starts := Nat.le_trans along.offset_le fits
    have whole := along.fits
    simp only [FileDownload.Fits, body] at whole
    rw [body] at starts
    simp only [DownloadRequest.offset] at starts
    obtain ⟨covers, partially⟩ := UsbBackend.partialReadStream_covers object starts sent
    refine ⟨command, by rw [body]; exact sent, ?_⟩
    unfold Windowed at windowed
    simp only [waits, inFlight] at windowed
    rcases item with _ | e | chunk
    · exact fun full => absurd full partially
    · trivial
    · obtain ⟨some_, next, room⟩ := windowed
      rw [body] at next
      have next := next.trans (List.IsPrefix.drop ahead _)
      have long := next.length_le
      have positive := List.length_pos_of_ne_nil some_
      rw [List.length_drop] at long
      simp only [DownloadRequest.offset] at next long
      rw [whole.2.1] at room
      refine ⟨?_, ?_⟩
      · rw [covers, List.length_take, List.length_drop]
        omega
      · rw [covers, List.drop_take, List.drop_drop, List.prefix_take_iff]
        exact ⟨next, by omega⟩
  · trivial

end Reader

end Mtp
