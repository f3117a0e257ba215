import Mathlib.Data.Nat.Find
import MtpRs.Mtp.Stranding

set_option autoImplicit false

/- The run of a download that strands: it reads in full up to the first boundary past 4 GiB, and
there the device has no command. -/
namespace Mtp

open Ptp (Bytes)

open DownloadEvent (Stopped)

namespace Reader

variable {ρ : Type} (rates : Rates ρ) {usb : UsbBackend} (object : Bytes)

/-- The steps of a download on a device that answers in full. -/
abbrev FullRun (usb : UsbBackend) (reader : Reader ρ)
    (actions : List DownloadAction) (next : Reader ρ) : Prop :=
  Runs.Run (Runs.Restricted (InFull usb object) (Steps rates usb.backend)) reader actions next

theorem inFull_call (reader : Reader ρ) : reader.InFull usb object .call := trivial

/-- A read that is asked for and has no command is an error. -/
theorem exists_refused {reader : Reader ρ} {read : ActiveRead} {e : Error}
    (waits : reader.await = some (.opening read)) (refused : usb.command read.body = .error e) :
    ∃ actions next, FullRun rates object usb reader actions next ∧ Stopped next.events := by
  have fails : reader.Steps rates usb.backend (.answer (.opened (.error e) 0))
      (reader.polled (.ready reader.download.fail (some (.error e)))) := by
    simp only [Steps, step, waits, FileDownload.resume, Option.map_some]
  refine ⟨_, _, .cons ⟨?_, fails⟩ (.nil _), Or.inr ⟨e, by simp [polled]⟩⟩
  simp only [InFull, waits, refused]
  rfl

theorem exists_window_end {reader : Reader ρ} {read : ActiveRead}
    (waits : reader.await = some (.opening read)) (windowed : read.heldOpen = false)
    (fresh : read.received = 0) {command : StreamCommand}
    (sent : usb.command read.body = .ok command)
    (full : (usb.covered object read.body).length = read.requested) (some_ : 0 < read.requested) :
    ∃ actions next, FullRun rates object usb reader actions next ∧ next.await = none ∧
      next.download = { reader.download with
        current := none
        started := true
        offset := reader.download.offset + read.requested
        pacer := reader.download.pacer.record rates read.requested 3 } := by
  have opened : reader.Steps rates usb.backend (.answer (.opened (.ok ()) 1))
      ⟨{ reader.download with current := some { read with deviceTime := 1 }, started := true },
        some .body, reader.events⟩ := by
    simp [Steps, step, waits, FileDownload.resume, polled]
  have chunk : Steps rates usb.backend
      ⟨{ reader.download with current := some { read with deviceTime := 1 }, started := true },
        some .body, reader.events⟩ (.answer (.item (some (.ok (usb.covered object read.body))) 1))
      ⟨{ reader.download with
          current := none
          started := true
          offset := reader.download.offset + read.requested },
        some (.closing { read with received := read.requested, deviceTime := 2 }
          (usb.covered object read.body)), reader.events⟩ := by
    simp [Steps, step, FileDownload.resume, FileDownload.bodyItem, FileDownload.received, windowed,
      fresh, full, polled]
  have closed : Steps rates usb.backend
      ⟨{ reader.download with
          current := none
          started := true
          offset := reader.download.offset + read.requested },
        some (.closing { read with received := read.requested, deviceTime := 2 }
          (usb.covered object read.body)), reader.events⟩ (.answer (.item none 1)) _ := rfl
  refine ⟨_, _, .cons ⟨?_, opened⟩ (.cons ⟨?_, chunk⟩ (.cons ⟨?_, closed⟩ (.nil _))), rfl, rfl⟩
  · simp only [InFull, waits, sent]
    rfl
  · simp only [InFull, fresh]
    constructor
    · apply List.ne_nil_of_length_pos
      rw [full]
      exact some_
    · exact List.prefix_refl _
  · simp only [InFull]

/-- Between two windows, the next one is asked for. -/
theorem exists_window_asked {reader : Reader ρ} (idle : reader.await = none)
    (between : reader.download.current = none) (unfinished : reader.download.done = false)
    (room : reader.download.offset < reader.download.end_)
    (paced : reader.download.pacer.heldOpen = false)
    (can : usb.canReadPartiallyAt reader.download.offset = true) :
    ∃ actions next, FullRun rates object usb reader actions next ∧
      next.await = some (.opening (reader.download.window rates)) ∧
      next.download = reader.download := by
  have can : usb.backend.canReadPartiallyAt reader.download.offset = true := can
  cases again : reader.download.started with
  | false =>
      have called : reader.Steps rates usb.backend .call
          (reader.polled (reader.download.asks (reader.download.window rates))) := by
        simp [Steps, step, idle, FileDownload.nextChunk, unfinished, between, FileDownload.readNext,
          Nat.not_le.mpr room, FileDownload.startNextRead, paced, can, again]
      exact ⟨_, _, .cons ⟨inFull_call object _, called⟩ (.nil _), rfl, rfl⟩
  | true =>
      have called : reader.Steps rates usb.backend .call
          ⟨reader.download, some .yielding, reader.events⟩ := by
        simp [Steps, step, idle, FileDownload.nextChunk, unfinished, between, FileDownload.readNext,
          Nat.not_le.mpr room, FileDownload.startNextRead, paced, can, again, polled]
      have yielded : Steps rates usb.backend ⟨reader.download, some .yielding, reader.events⟩
          (.answer .yielded) _ := rfl
      exact ⟨_, _, .cons ⟨inFull_call object _, called⟩
        (.cons ⟨by simp only [InFull], yielded⟩ (.nil _)), rfl, rfl⟩

/-- Where the device cannot read partially, a transfer is asked for instead. -/
theorem steps_transfer_asked {reader : Reader ρ} (idle : reader.await = none)
    (between : reader.download.current = none) (unfinished : reader.download.done = false)
    (room : reader.download.offset < reader.download.end_)
    (cannot : usb.canReadPartiallyAt reader.download.offset = false) :
    reader.Steps rates usb.backend .call
      (reader.polled (reader.download.asks reader.download.transfer)) := by
  have cannot : usb.backend.canReadPartiallyAt reader.download.offset = false := cannot
  simp [Steps, step, idle, FileDownload.nextChunk, unfinished, between, FileDownload.readNext,
    Nat.not_le.mpr room, FileDownload.startNextRead, cannot]

/-- A transfer of part of the rest, in one chunk, and the next one that is asked for. -/
theorem exists_transfer_next {reader : Reader ρ} {read : ActiveRead}
    (waits : reader.await = some .body) (inFlight : reader.download.current = some read)
    (unfinished : reader.download.done = false) (heldOpen : read.heldOpen = true)
    (fresh : read.received = 0) (some_ : usb.covered object read.body ≠ [])
    (paced : reader.download.pacer.heldOpen = true)
    (room : reader.download.offset + (usb.covered object read.body).length < reader.download.end_) :
    ∃ actions next, FullRun rates object usb reader actions next ∧
      next.await = some (.opening next.download.transfer) ∧
      next.download = { reader.download with
        current := none
        offset := reader.download.offset + (usb.covered object read.body).length } := by
  have positive := List.length_pos_of_ne_nil some_
  have chunk : reader.Steps rates usb.backend
      (.answer (.item (some (.ok (usb.covered object read.body))) 0))
      ⟨{ reader.download with
          current := some { read with received := (usb.covered object read.body).length }
          offset := reader.download.offset + (usb.covered object read.body).length }, none,
        reader.events ++ [.returned (some (.ok (usb.covered object read.body)))]⟩ := by
    simp [Steps, step, waits, FileDownload.resume, inFlight, FileDownload.bodyItem,
      FileDownload.received, heldOpen, fresh, polled]
  have called : Steps rates usb.backend
      ⟨{ reader.download with
          current := some { read with received := (usb.covered object read.body).length }
          offset := reader.download.offset + (usb.covered object read.body).length }, none,
        reader.events ++ [.returned (some (.ok (usb.covered object read.body)))]⟩ .call
      ⟨{ reader.download with
          current := some { read with received := (usb.covered object read.body).length }
          offset := reader.download.offset + (usb.covered object read.body).length }, some .body,
        reader.events ++ [.returned (some (.ok (usb.covered object read.body)))]⟩ := by
    simp [Steps, step, FileDownload.nextChunk, unfinished, polled]
  have ended : ∃ next, Steps rates usb.backend
      ⟨{ reader.download with
          current := some { read with received := (usb.covered object read.body).length }
          offset := reader.download.offset + (usb.covered object read.body).length }, some .body,
        reader.events ++ [.returned (some (.ok (usb.covered object read.body)))]⟩
      (.answer (.item none 0)) next ∧ next.await = some (.opening next.download.transfer) ∧
      next.download = { reader.download with
        current := none
        offset := reader.download.offset + (usb.covered object read.body).length } := by
    simp [Steps, step, FileDownload.resume, FileDownload.bodyItem, FileDownload.readEnded, heldOpen,
      some_, FileDownload.readNext, Nat.not_le.mpr room, FileDownload.startNextRead, paced,
      FileDownload.asks, polled]
  obtain ⟨next, ended, opening, download⟩ := ended
  refine ⟨_, next, .cons ⟨?_, chunk⟩
    (.cons ⟨inFull_call object _, called⟩ (.cons ⟨?_, ended⟩ (.nil _))), opening, download⟩
  · simp only [InFull, waits, inFlight, fresh]
    exact ⟨some_, List.prefix_refl _⟩
  · simp only [InFull]
    exact Nat.le_refl _

theorem exists_transfer_opened {reader : Reader ρ} {read : ActiveRead} {command : StreamCommand}
    (waits : reader.await = some (.opening read)) (sent : usb.command read.body = .ok command) :
    ∃ actions next, FullRun rates object usb reader actions next ∧ next.await = some .body ∧
      next.download = { reader.download with
        current := some { read with deviceTime := 0 }
        started := true } := by
  have opened : reader.Steps rates usb.backend (.answer (.opened (.ok ()) 0))
      ⟨{ reader.download with current := some { read with deviceTime := 0 }, started := true },
        some .body, reader.events⟩ := by
    simp [Steps, step, waits, FileDownload.resume, polled]
  refine ⟨_, _, .cons ⟨?_, opened⟩ (.nil _), rfl, rfl⟩
  simp only [InFull, waits, sent]
  rfl

end Reader

section

variable {usb : UsbBackend} {object : Bytes} {handle : UInt32} {range : ByteRange}
  {pacing : DownloadPacing} {k : Nat}

/-- The windows of a device that is slow, or whose pace is fixed, end at the boundaries. -/
theorem noRates_want {pacer : Pacer Unit} (start remaining : Nat) (same : pacer.pacing = pacing)
    (paced : pacing ≠ .heldOpen) (learned : pacer.rate = none ↔ k = 0) :
    pacing.boundary start k + pacer.want noRates remaining = pacing.boundary start (k + 1) ∧
      pacer.want noRates remaining ≤ u32Max := by
  cases pacing with
  | heldOpen => exact absurd rfl paced
  | fixedWindow size =>
      have want : pacer.want noRates remaining = max size.toNat 1 := by rw [Pacer.want, same]
      have fits := size.toNat_lt
      have most : u32Max = 2 ^ 32 - 1 := rfl
      rw [want, boundary_fixedWindow, boundary_fixedWindow, Nat.succ_mul]
      omega
  | maxCancelDelay target =>
      cases k with
      | zero =>
          rw [want_first noRates same (learned.mpr rfl), boundary_zero, boundary_maxCancelDelay,
            Nat.zero_mul, Nat.add_zero]
          exact ⟨rfl, by decide⟩
      | succ k =>
          have want : pacer.want noRates remaining = mib := by
            rw [Pacer.want, same]
            dsimp only
            split
            · next first => cases learned.mp first
            · rw [show noRates.bytesIn _ target = 0 from rfl, Nat.zero_div, Nat.zero_mul,
                Nat.zero_max]
              rfl
          rw [want, boundary_maxCancelDelay, boundary_maxCancelDelay, Nat.succ_mul, Nat.add_assoc]
          exact ⟨rfl, by decide⟩

/-- A download between two reads at a boundary. -/
structure Resting (usb : UsbBackend) (object : Bytes) (range : ByteRange) (pacing : DownloadPacing)
    (k : Nat) (reader : Reader Unit) : Prop where
  idle : reader.await = none
  between : reader.download.current = none
  unfinished : reader.download.done = false
  stands : reader.download.offset = pacing.boundary range.offset k
  size : reader.download.size = object.length
  ends : reader.download.end_ = range.end_ object.length
  pacing : reader.download.pacer.pacing = pacing
  learned : reader.download.pacer.rate = none ↔ k = 0

theorem Resting.next {reader : Reader Unit} (rests : Resting usb object range pacing k reader)
    (fits : object.length ≤ u64Max) (paced : pacing ≠ .heldOpen)
    (narrow : usb.hasPartialObject = true) (near : pacing.boundary range.offset k ≤ u32Max)
    (room : pacing.boundary range.offset (k + 1) < range.end_ object.length) :
    ∃ actions next, Reader.FullRun noRates object usb reader actions next ∧
      Resting usb object range pacing (k + 1) next := by
  obtain ⟨boundary, small⟩ := noRates_want (k := k) range.offset
    (reader.download.end_ - reader.download.offset) rests.pacing paced rests.learned
  have inside := range.end_le object.length
  have stands := rests.stands
  have ends := rests.ends
  have heldOpen : reader.download.pacer.heldOpen = false := by
    rw [Pacer.heldOpen, rests.pacing]
    exact decide_eq_false paced
  have can : usb.canReadPartiallyAt reader.download.offset = true := by
    rw [UsbBackend.canReadPartiallyAt_iff, stands]
    exact Or.inr ⟨narrow, near⟩
  have unfinished : reader.download.offset < reader.download.end_ := by omega
  have requested : (reader.download.window noRates).requested =
      reader.download.pacer.want noRates (reader.download.end_ - reader.download.offset) := by
    have len := reader.download.pacer.nextWindow_toNat noRates
      (reader.download.end_ - reader.download.offset)
    show (reader.download.pacer.nextWindow noRates _).toNat = _
    omega
  have least := (Reader.windowRead_window noRates heldOpen unfinished (Nat.le_refl _)).least
  obtain ⟨asking, asked, askRun, opening, same⟩ := Reader.exists_window_asked noRates object
    rests.idle rests.between rests.unfinished unfinished heldOpen can
  obtain ⟨⟨command, sent⟩, covered⟩ := covered_window object reader.download.handle
    (reader.download.pacer.nextWindow noRates (reader.download.end_ - reader.download.offset))
    (show reader.download.offset ≤ u64Max by omega) can
  have full : (usb.covered object (reader.download.window noRates).body).length =
      (reader.download.window noRates).requested := by
    show (usb.covered object (.window _ _ _)).length = _
    rw [covered, List.length_take, List.length_drop]
    show min (reader.download.window noRates).requested _ = _
    omega
  obtain ⟨reading, next, readRun, idle, after⟩ := Reader.exists_window_end noRates object
    opening rfl rfl sent full least
  refine ⟨_, next, askRun.append readRun, ?_⟩
  rw [same] at after
  exact {
    idle
    between := by rw [after]
    unfinished := by rw [after]; exact rests.unfinished
    stands := by
      rw [after]
      show reader.download.offset + _ = _
      rw [requested, ← boundary, ← stands]
    size := by rw [after]; exact rests.size
    ends := by rw [after]; exact rests.ends
    pacing := by
      rw [after]
      exact (Pacer.record_pacing noRates _ _ _).trans rests.pacing
    learned := by
      rw [after]
      apply iff_of_false
      · show (Pacer.record noRates _ _ _).rate ≠ none
        rw [Pacer.record, if_neg (by omega)]
        exact Option.some_ne_none _
      · exact Nat.succ_ne_zero k }

/-- A held-open download of part of an object, at a boundary. -/
structure Holding (object : Bytes) (range : ByteRange) (k : Nat) (download : FileDownload Unit) :
    Prop where
  unfinished : download.done = false
  stands : download.offset = DownloadPacing.heldOpen.boundary range.offset k
  size : download.size = object.length
  ends : download.end_ = range.end_ object.length
  held : download.pacer.heldOpen = true
  partly : ¬ (download.offset = 0 ∧ download.end_ = download.size)

theorem Holding.body {download : FileDownload Unit} (holds : Holding object range k download) :
    download.transfer.body = .transfer download.handle
      (.range download.offset (download.end_ - download.offset)) download.size := by
  rw [FileDownload.transfer, if_neg holds.partly]

/-- One transfer gives what 32 bits count, and the next one is asked for. -/
theorem Holding.next {reader : Reader Unit} {read : ActiveRead}
    (holds : Holding object range k reader.download) (fits : object.length ≤ u64Max)
    (narrow : usb.hasPartialObject = true)
    (near : DownloadPacing.heldOpen.boundary range.offset k ≤ u32Max)
    (room : DownloadPacing.heldOpen.boundary range.offset (k + 1) < range.end_ object.length)
    (waits : reader.await = some .body) (inFlight : reader.download.current = some read)
    (heldOpen : read.heldOpen = true) (fresh : read.received = 0)
    (body : read.body = reader.download.transfer.body) :
    ∃ actions next, Reader.FullRun noRates object usb reader actions next ∧
      next.await = some (.opening next.download.transfer) ∧
      Holding object range (k + 1) next.download := by
  have inside := range.end_le object.length
  have stands := holds.stands
  have sizes := holds.size
  have ends := holds.ends
  have positive : 0 < u32Max := by decide
  rw [boundary_heldOpen, Nat.succ_mul, ← Nat.add_assoc, ← boundary_heldOpen, ← stands] at room
  have can : usb.canReadPartiallyAt reader.download.offset = true := by
    rw [UsbBackend.canReadPartiallyAt_iff, stands]
    exact Or.inr ⟨narrow, near⟩
  have length : (usb.covered object read.body).length = u32Max := by
    rw [body, holds.body, (covered_range object _ _ (by omega) (by omega) can).2, List.length_take,
      List.length_drop]
    omega
  have some_ : usb.covered object read.body ≠ [] := List.ne_nil_of_length_pos (by omega)
  obtain ⟨actions, next, run, opening, after⟩ := Reader.exists_transfer_next noRates object waits
    inFlight holds.unfinished heldOpen fresh some_ holds.held (by omega)
  rw [length] at after
  refine ⟨actions, next, run, opening, ?_⟩
  exact {
    unfinished := by rw [after]; exact holds.unfinished
    stands := by
      rw [after, boundary_heldOpen, Nat.succ_mul, ← Nat.add_assoc, ← boundary_heldOpen, ← stands]
    size := by rw [after]; exact sizes
    ends := by rw [after]; exact ends
    held := by rw [after]; exact holds.held
    partly := by
      rw [after]
      rintro ⟨start, _⟩
      have start : reader.download.offset + u32Max = 0 := start
      omega }

theorem Holding.opened {reader : Reader Unit} (holds : Holding object range k reader.download)
    (fits : object.length ≤ u64Max) (narrow : usb.hasPartialObject = true)
    (near : DownloadPacing.heldOpen.boundary range.offset k ≤ u32Max)
    (room : DownloadPacing.heldOpen.boundary range.offset (k + 1) < range.end_ object.length)
    (waits : reader.await = some (.opening reader.download.transfer)) :
    ∃ actions next, Reader.FullRun noRates object usb reader actions next ∧
      next.await = some (.opening next.download.transfer) ∧
      Holding object range (k + 1) next.download := by
  have inside := range.end_le object.length
  have stands := holds.stands
  have sizes := holds.size
  have ends := holds.ends
  have before : reader.download.offset ≤ reader.download.end_ := by
    rw [boundary_heldOpen, Nat.succ_mul, ← Nat.add_assoc, ← boundary_heldOpen, ← stands] at room
    omega
  have can : usb.canReadPartiallyAt reader.download.offset = true := by
    rw [UsbBackend.canReadPartiallyAt_iff, stands]
    exact Or.inr ⟨narrow, near⟩
  obtain ⟨⟨command, sent⟩, _⟩ := covered_range object reader.download.handle
    (reader.download.end_ - reader.download.offset) (show reader.download.size ≤ u64Max by omega)
    (by omega) can
  rw [← holds.body] at sent
  obtain ⟨opening, flying, openRun, body, after⟩ :=
    Reader.exists_transfer_opened noRates object waits sent
  have holding : Holding object range k flying.download := by
    rw [after]
    exact ⟨holds.unfinished, stands, sizes, ends, holds.held, holds.partly⟩
  have inFlight : flying.download.current =
      some { reader.download.transfer with deviceTime := 0 } := by rw [after]
  obtain ⟨actions, next, run, asked⟩ := holding.next fits narrow near room body inFlight rfl rfl
    (by rw [after]; rfl)
  exact ⟨_, next, openRun.append run, asked⟩

/-- A ranged transfer past 4 GiB is an error. -/
theorem exists_stopped (object : Bytes) {reader : Reader Unit}
    (wide : usb.hasPartialObject64 = false)
    (far : u32Max < reader.download.offset)
    (waits : reader.await = some (.opening reader.download.transfer)) :
    ∃ actions next, Reader.FullRun noRates object usb reader actions next ∧
      Stopped next.events := by
  have cannot := UsbBackend.cannotRead_past wide far
  have body : reader.download.transfer.body = .transfer reader.download.handle
      (.range reader.download.offset (reader.download.end_ - reader.download.offset))
      reader.download.size := by
    rw [FileDownload.transfer, if_neg (by omega)]
  cases sent : usb.command reader.download.transfer.body with
  | error e => exact Reader.exists_refused noRates object waits sent
  | ok command =>
      rw [body] at sent
      exact absurd sent (command_range_refused cannot)

/-- Windows up to the first boundary past 4 GiB. -/
theorem exists_windows_stopped (fits : object.length ≤ u64Max) (paced : pacing ≠ .heldOpen)
    (wide : usb.hasPartialObject64 = false) (narrow : usb.hasPartialObject = true)
    {first : Reader Unit} (rests : Resting usb object range pacing 0 first) {last : Nat}
    (far : u32Max < pacing.boundary range.offset last)
    (near : ∀ k < last, pacing.boundary range.offset k ≤ u32Max)
    (inside : pacing.boundary range.offset last < range.end_ object.length) :
    ∃ actions next, Reader.FullRun noRates object usb first actions next ∧ Stopped next.events := by
  have reached : ∀ k ≤ last, ∃ actions next, Reader.FullRun noRates object usb first actions next ∧
      Resting usb object range pacing k next := by
    intro k
    induction k with
    | zero => exact fun _ => ⟨[], first, .nil first, rests⟩
    | succ k ih =>
        intro before
        obtain ⟨actions, reader, run, rests⟩ := ih (Nat.le_of_succ_le before)
        have room : pacing.boundary range.offset (k + 1) < range.end_ object.length := by
          by_cases same : k + 1 = last
          · rw [same]
            exact inside
          · have closer := near (k + 1) (by omega)
            omega
        obtain ⟨more, next, later, rests⟩ :=
          rests.next fits paced narrow (near k (by omega)) room
        exact ⟨_, next, run.append later, rests⟩
  obtain ⟨actions, reader, run, rests⟩ := reached last (Nat.le_refl last)
  have stands := rests.stands
  have ends := rests.ends
  have past : u32Max < reader.download.offset := by omega
  have called : reader.Steps noRates usb.backend .call
      (reader.polled (reader.download.asks reader.download.transfer)) :=
    Reader.steps_transfer_asked noRates rests.idle rests.between rests.unfinished (by omega)
      (UsbBackend.cannotRead_past wide past)
  obtain ⟨more, next, later, stopped⟩ := exists_stopped object wide
    (show u32Max < (reader.polled (reader.download.asks reader.download.transfer)).download.offset
      from past) rfl
  exact ⟨_, next, run.append (.cons ⟨Reader.inFull_call object _, called⟩ later), stopped⟩

/-- Transfers up to the first boundary past 4 GiB. -/
theorem exists_transfers_stopped (fits : object.length ≤ u64Max)
    (wide : usb.hasPartialObject64 = false) (narrow : usb.hasPartialObject = true)
    {first : Reader Unit} {read : ActiveRead} (holds : Holding object range 0 first.download)
    (idle : first.await = none) (inFlight : first.download.current = some read)
    (heldOpen : read.heldOpen = true) (fresh : read.received = 0)
    (body : read.body = first.download.transfer.body) {last : Nat}
    (far : u32Max < DownloadPacing.heldOpen.boundary range.offset last)
    (near : ∀ k < last, DownloadPacing.heldOpen.boundary range.offset k ≤ u32Max)
    (inside : DownloadPacing.heldOpen.boundary range.offset last < range.end_ object.length)
    (begins : range.offset ≤ u32Max) :
    ∃ actions next, Reader.FullRun noRates object usb first actions next ∧ Stopped next.events := by
  have room : ∀ k ≤ last,
      DownloadPacing.heldOpen.boundary range.offset k < range.end_ object.length := by
    intro k before
    by_cases same : k = last
    · rw [same]
      exact inside
    · have closer := near k (by omega)
      omega
  have called : first.Steps noRates usb.backend .call ⟨first.download, some .body,
    first.events⟩ := by
    simp [Reader.Steps, Reader.step, idle, FileDownload.nextChunk, holds.unfinished, inFlight,
      Reader.polled]
  have reached : ∀ k < last, ∃ actions next, Reader.FullRun noRates object usb first actions next ∧
      next.await = some (.opening next.download.transfer) ∧
      Holding object range (k + 1) next.download := by
    intro k
    induction k with
    | zero =>
        intro before
        obtain ⟨actions, next, run, asked⟩ := Holding.next
          (show Holding object range 0 (Reader.mk first.download (some .body) first.events).download
            from holds) fits narrow (near 0 before) (room 1 before) rfl inFlight heldOpen fresh body
        exact ⟨_, next, .cons ⟨Reader.inFull_call object _, called⟩ run, asked⟩
    | succ k ih =>
        intro before
        obtain ⟨actions, reader, run, waits, holds⟩ := ih (Nat.lt_of_succ_lt before)
        obtain ⟨more, next, later, asked⟩ :=
          holds.opened fits narrow (near (k + 1) before) (room (k + 2) before) waits
        exact ⟨_, next, run.append later, asked⟩
  have begun : 0 < last := by
    apply Nat.pos_of_ne_zero
    intro none_
    rw [none_, boundary_zero] at far
    omega
  obtain ⟨actions, reader, run, waits, holds⟩ := reached (last - 1) (by omega)
  rw [Nat.sub_add_cancel begun] at holds
  obtain ⟨more, next, later, stopped⟩ := exists_stopped object wide
    (by rw [holds.stands]; exact far) waits
  exact ⟨_, next, run.append later, stopped⟩

theorem exists_first_past (past : ∃ k, u32Max < pacing.boundary range.offset k ∧
      pacing.boundary range.offset k < range.end_ object.length) :
    ∃ last, u32Max < pacing.boundary range.offset last ∧
      (∀ k < last, pacing.boundary range.offset k ≤ u32Max) ∧
      pacing.boundary range.offset last < range.end_ object.length := by
  obtain ⟨bound, past, within⟩ := past
  have some_ : ∃ k, u32Max < pacing.boundary range.offset k := ⟨bound, past⟩
  refine ⟨Nat.find some_, Nat.find_spec some_, ?_, ?_⟩
  · intro k before
    exact Nat.le_of_not_lt (Nat.find_min some_ before)
  · exact Nat.lt_of_le_of_lt (boundary_mono pacing range.offset (Nat.find_min' some_ past)) within

/-- A range held open starts with a transfer, which the download holds. -/
theorem holding_of_started {download : FileDownload Unit}
    (started : FileDownload.Started usb.backend handle object.length range .heldOpen download)
    (partly : ¬ (range.offset = 0 ∧ range.end_ object.length = object.length)) :
    Holding object range 0 download := by
  obtain ⟨stands, paces⟩ := started_pacing started
  rw [if_neg fun all => partly all.1] at paces
  obtain ⟨sizes, ends⟩ := same_bounds started rfl
  exact {
    unfinished := by cases started <;> rfl
    stands
    size := sizes
    ends
    held := by
      rw [paces]
      rfl
    partly := by
      rw [stands, ends, sizes]
      exact partly }

theorem exists_transfer_of_started {download : FileDownload Unit}
    (started : FileDownload.Started usb.backend handle object.length range .heldOpen download)
    (held : download.pacer.heldOpen = true) (room : range.offset < range.end_ object.length) :
    ∃ read, download.current = some read ∧ read.heldOpen = true ∧ read.received = 0 ∧
      read.body = download.transfer.body := by
  cases started with
  | transfers _ _ _ => exact ⟨_, rfl, rfl, rfl, rfl⟩
  | waits _ idle =>
      have heldOpen : (FileDownload.prepare usb.backend handle object.length range .heldOpen :
          FileDownload Unit).pacer.heldOpen = true := held
      rw [FileDownload.startsTransfer, heldOpen, Bool.true_or, Bool.true_and,
        decide_eq_false_iff_not] at idle
      exact absurd room idle

/-- A range in windows starts with none in flight. -/
theorem resting_of_started {download : FileDownload Unit} (paced : pacing ≠ .heldOpen)
    (started : FileDownload.Started usb.backend handle object.length range pacing download)
    (partly : ¬ (range.offset = 0 ∧ range.end_ object.length = object.length))
    (can : usb.canReadPartiallyAt range.offset = true) :
    Resting usb object range pacing 0 (Reader.initial download) := by
  obtain ⟨stands, paces⟩ := started_pacing started
  rw [if_neg fun all => partly all.1] at paces
  obtain ⟨sizes, ends⟩ := same_bounds started rfl
  have between : download.current = none := by
    cases started with
    | transfers _ _ begun =>
        have windows : (FileDownload.prepare usb.backend handle object.length range pacing :
            FileDownload Unit).pacer.heldOpen = false := by
          show Pacer.heldOpen _ = false
          rw [show (FileDownload.prepare usb.backend handle object.length range pacing :
            FileDownload Unit).pacer = .new pacing from paces]
          exact decide_eq_false paced
        have can : usb.backend.canReadPartiallyAt (FileDownload.prepare usb.backend handle
            object.length range pacing : FileDownload Unit).start = true := can
        simp [FileDownload.startsTransfer, windows, can] at begun
    | waits _ _ => rfl
  exact {
    idle := rfl
    between
    unfinished := by cases started <;> rfl
    stands
    size := sizes
    ends
    pacing := by
      show download.pacer.pacing = pacing
      rw [paces]
      rfl
    learned := by
      show download.pacer.rate = none ↔ _
      rw [paces]
      exact iff_of_true rfl rfl }

/-- A download that strands is returned by the call and ends with an error. -/
theorem exists_stranded (handle : UInt32) (fits : object.length ≤ u64Max)
    (strands : Strands usb range object.length pacing) :
    ∃ (download : FileDownload Unit) (actions : List DownloadAction) (reader : Reader Unit),
      downloadWithPacing usb.backend handle (.ok ⟨handle, object.length⟩) range pacing
        (usb.takes handle object.length range pacing) 0 = .ok download ∧
      Reader.FullRun noRates object usb (.initial download) actions reader ∧
      Stopped reader.events := by
  obtain ⟨wide, narrow, partly, begins, bound, past, within⟩ := strands
  obtain ⟨last, far, near, inside⟩ := exists_first_past ⟨bound, past, within⟩
  have whole := range.end_le object.length
  have room : range.offset < range.end_ object.length := by omega
  have can : usb.canReadPartiallyAt range.offset = true := by
    rw [UsbBackend.canReadPartiallyAt_iff]
    exact Or.inr ⟨narrow, begins⟩
  have takes : usb.takes handle object.length range pacing = .ok () := by
    obtain ⟨⟨command, sent⟩, _⟩ := covered_range object handle
      (range.end_ object.length - range.offset) (show object.length ≤ u64Max from fits)
        (by omega) can
    rw [UsbBackend.takes, prepare_transfer usb.backend partly, sent]
    rfl
  obtain ⟨download, starts⟩ : ∃ download : FileDownload Unit, FileDownload.startDownload usb.backend
      handle object.length range pacing (.ok ()) 0 = .ok download := exists_started (by omega) 0
  have started := FileDownload.started_of_startDownload usb.backend starts
  have returned : downloadWithPacing usb.backend handle (.ok ⟨handle, object.length⟩) range pacing
      (usb.takes handle object.length range pacing) 0 = .ok download := by
    rw [takes]
    exact starts
  by_cases held : pacing = .heldOpen
  · subst held
    have holds : Holding object range 0 (Reader.initial download).download :=
      holding_of_started started partly
    obtain ⟨read, inFlight, windowed, fresh, body⟩ :=
      exists_transfer_of_started started holds.held room
    obtain ⟨actions, reader, run, stopped⟩ := exists_transfers_stopped fits wide narrow holds rfl
      inFlight windowed fresh body far near inside begins
    exact ⟨download, actions, reader, returned, run, stopped⟩
  · have rests := resting_of_started held started partly can
    obtain ⟨actions, reader, run, stopped⟩ :=
      exists_windows_stopped fits held wide narrow rests far near inside
    exact ⟨download, actions, reader, returned, run, stopped⟩

end

/-- A download of which the call returns Ok runs to its end on every device that answers in full,
exactly when it does not read a part of an object with 32-bit offsets over 4 GiB. -/
theorem runsToEnd_iff (usb : UsbBackend) {object : Bytes} (fits : object.length ≤ u64Max)
    (handle : UInt32) (range : ByteRange) (pacing : DownloadPacing) :
    RunsToEnd usb object handle range pacing ↔ ¬ Strands usb range object.length pacing := by
  constructor
  · intro ends strands
    obtain ⟨download, actions, reader, returned, run, stopped⟩ :=
      exists_stranded handle fits strands
    exact (ends Unit noRates 0 download returned actions reader run).unstopped stopped
  · exact runsToEnd_of_not_strands fits

/-- Two bytes from offset 1, on a device with 32-bit offsets. -/
theorem runsToEnd_from_one : RunsToEnd ⟨false, true⟩ [1, 2] 7 (.from_ 1) (.fixedWindow 1) := by
  apply (runsToEnd_iff ⟨false, true⟩ (by decide) 7 (.from_ 1) (.fixedWindow 1)).mpr
  intro strands
  obtain ⟨k, far, inside⟩ := strands.boundary
  have inside := Nat.lt_of_lt_of_le inside ((ByteRange.from_ 1).end_le 2)
  have most : u32Max = 2 ^ 32 - 1 := rfl
  omega

/-- The rest of an object of 5 GiB from its second byte, held open on a device with 32-bit offsets:
the call returns and the second transfer has no command. -/
theorem from_one_strands :
    ¬ RunsToEnd ⟨false, true⟩ (List.replicate (5 * 2 ^ 30) 0) 7 (.from_ 1) .heldOpen := by
  have length : (List.replicate (5 * 2 ^ 30) 0 : Bytes).length = 5 * 2 ^ 30 := List.length_replicate
  have strands : Strands ⟨false, true⟩ (.from_ 1) (5 * 2 ^ 30) .heldOpen := by
    refine ⟨rfl, rfl, by decide, by decide, 1, ?_, ?_⟩
    · rw [boundary_heldOpen]
      decide
    · rw [boundary_heldOpen]
      decide
  rw [← length] at strands
  obtain ⟨download, actions, reader, returned, run, stopped⟩ :=
    exists_stranded 7 (by rw [length]; decide) strands
  intro ends
  exact (ends Unit noRates 0 download returned actions reader run).unstopped stopped

end Mtp
