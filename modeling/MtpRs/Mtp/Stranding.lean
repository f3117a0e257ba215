import Mathlib.Order.Monotone.Basic
import MtpRs.Mtp.Coverage
import MtpRs.Mtp.WholeFile

set_option autoImplicit false

/- Which downloads a USB device can finish: the call refuses what it cannot start, and where a range
is read with 32-bit offsets the download may run into 4 GiB on its way. -/
namespace Mtp

open Ptp (Bytes)

open DownloadEvent (Stopped)

/-- Where the reads of a range start, each in full. An adaptive window is some whole number of MiB,
and the first one is known. -/
def DownloadPacing.boundary (self : DownloadPacing) (start : Nat) : Nat → Nat
  | 0 => start
  | k + 1 =>
      match self with
      | .heldOpen => start + (k + 1) * u32Max
      | .fixedWindow size => start + (k + 1) * max size.toNat 1
      | .maxCancelDelay _ => start + firstWindow + k * mib

/-- A part of an object that a device reads with 32-bit offsets only, from an offset in reach, in
reads of which one starts past it. -/
structure Strands (usb : UsbBackend) (range : ByteRange) (size : Nat) (pacing : DownloadPacing) :
    Prop where
  wide : usb.hasPartialObject64 = false
  narrow : usb.hasPartialObject = true
  partly : ¬ (range.offset = 0 ∧ range.end_ size = size)
  starts : range.offset ≤ u32Max
  boundary : ∃ k, u32Max < pacing.boundary range.offset k ∧
    pacing.boundary range.offset k < range.end_ size

theorem UsbBackend.canReadPartiallyAt_iff (self : UsbBackend) (offset : Nat) :
    self.canReadPartiallyAt offset = true ↔
      self.hasPartialObject64 = true ∨ self.hasPartialObject = true ∧ offset ≤ u32Max := by
  unfold canReadPartiallyAt partialRead planPartialRead
  by_cases wide : self.hasPartialObject64 = true
  · simp [wide, Except.isOk, Except.toBool]
  · by_cases narrow : self.hasPartialObject = true
    · by_cases far : u32Max < offset
      · simp [wide, narrow, far, Except.isOk, Except.toBool]
      · simp [wide, narrow, far, Nat.le_of_not_lt far, Except.isOk, Except.toBool]
    · simp [wide, narrow, Except.isOk, Except.toBool]

theorem UsbBackend.cannotRead_past {usb : UsbBackend} {offset : Nat}
    (wide : usb.hasPartialObject64 = false) (far : u32Max < offset) :
    usb.canReadPartiallyAt offset = false := by
  rw [← Bool.not_eq_true, canReadPartiallyAt_iff, wide]
  rintro (absent | ⟨_, near⟩)
  · cases absent
  · omega

section

variable {ρ : Type} {usb : UsbBackend} {object : Bytes} {good : Pacer ρ → Nat → Prop}
  {download : FileDownload ρ}

theorem covered_window (object : Bytes) (handle len : UInt32) {offset : Nat}
    (fits : offset ≤ u64Max)
    (can : usb.canReadPartiallyAt offset = true) :
    (∃ command, usb.command (.window handle offset len) = .ok command) ∧
      usb.covered object (.window handle offset len) = (object.drop offset).take len.toNat := by
  obtain ⟨command, sent⟩ := usb.command_of_canReadPartiallyAt can handle len
  have asked : usb.command (.window handle offset len) = .ok command := sent
  constructor
  · exact ⟨command, asked⟩
  · rw [UsbBackend.covered, asked]
    exact (UsbBackend.partialReadStream_covers object fits sent).1

theorem covered_range (object : Bytes) (handle : UInt32) {offset size : Nat} (len : Nat)
    (fits : size ≤ u64Max)
    (inside : offset + len ≤ size) (can : usb.canReadPartiallyAt offset = true) :
    (∃ command, usb.command (.transfer handle (.range offset len) size) = .ok command) ∧
      usb.covered object (.transfer handle (.range offset len) size) =
        (object.drop offset).take (min len u32Max) := by
  have want : min (size - offset) len = len := by omega
  obtain ⟨maxBytes, most, exact_⟩ : ∃ maxBytes : UInt32,
      maxBytes = (if len ≤ u32Max then UInt32.ofNat len else UInt32.ofNat u32Max) ∧
        maxBytes.toNat = min len u32Max := by
    refine ⟨_, rfl, ?_⟩
    split
    · next small =>
        unfold u32Max at small ⊢
        rw [UInt32.toNat_ofNat']
        omega
    · next large =>
        show u32Max = min len u32Max
        omega
  obtain ⟨command, sent⟩ := usb.command_of_canReadPartiallyAt can handle maxBytes
  have asked : usb.command (.transfer handle (.range offset len) size) = .ok command := by
    simp only [UsbBackend.command, UsbBackend.download, ByteRange.offset, want, ← most]
    rw [if_neg (by omega)]
    exact sent
  constructor
  · exact ⟨command, asked⟩
  · rw [UsbBackend.covered, asked, ← exact_]
    exact (UsbBackend.partialReadStream_covers object (by omega) sent).1

theorem reading_window (rates : Rates ρ) (fits : object.length ≤ u64Max)
    (inside : download.end_ ≤ object.length) (unfinished : download.offset < download.end_)
    (paced : download.pacer.heldOpen = false)
    (can : usb.canReadPartiallyAt download.offset = true)
    (lands : ∀ pacer, good pacer (download.offset +
      (download.pacer.nextWindow rates (download.end_ - download.offset)).toNat)) :
    Reader.Reading usb object good download.end_ (download.window rates) := by
  obtain ⟨windowed, _, least, _, room⟩ :=
    Reader.windowRead_window rates paced unfinished (Nat.le_refl _)
  obtain ⟨sent, covered⟩ := covered_window object download.handle
    (download.pacer.nextWindow rates (download.end_ - download.offset))
      (show download.offset ≤ u64Max by omega) can
  have length : (usb.covered object (download.window rates).body).length =
      (download.window rates).requested := by
    show (usb.covered object (.window _ _ _)).length = _
    rw [covered, List.length_take, List.length_drop]
    exact Nat.min_eq_left (by
      show (download.window rates).requested ≤ object.length - download.offset
      change download.offset + _ ≤ _ at room
      omega)
  exact ⟨sent, by omega, by omega, fun _ => length, by rw [length]; exact lands⟩

theorem reading_range (fits : object.length ≤ u64Max) (sizes : download.size = object.length)
    (inside : download.end_ ≤ object.length) (unfinished : download.offset < download.end_)
    (partly : ¬ (download.offset = 0 ∧ download.end_ = download.size))
    (can : usb.canReadPartiallyAt download.offset = true)
    (lands : ∀ pacer, good pacer (download.offset + min (download.end_ - download.offset) u32Max)) :
    Reader.Reading usb object good download.end_ download.transfer := by
  have body : download.transfer.body = .transfer download.handle
      (.range download.offset (download.end_ - download.offset)) download.size := by
    rw [FileDownload.transfer, if_neg partly]
  obtain ⟨sent, covered⟩ := covered_range object download.handle
    (download.end_ - download.offset) (show download.size ≤ u64Max by omega) (by omega) can
  have length : (usb.covered object download.transfer.body).length =
      min (download.end_ - download.offset) u32Max := by
    rw [body, covered, List.length_take, List.length_drop]
    omega
  have some_ : 0 < u32Max := by decide
  refine ⟨by rw [body]; exact sent, by omega, ?_, fun windowed => (by cases windowed), ?_⟩
  · rw [length, body]
    show download.offset + _ ≤ _
    omega
  · rw [length, body]
    exact lands

theorem reading_full (sizes : download.size = object.length)
    (unfinished : download.offset < download.end_)
    (whole : download.offset = 0 ∧ download.end_ = download.size)
    (lands : ∀ pacer, good pacer download.end_) :
    Reader.Reading usb object good download.end_ download.transfer := by
  have body : download.transfer.body = .transfer download.handle .full download.size := by
    rw [FileDownload.transfer, if_pos whole]
  have sent := usb.download_full download.handle download.size
  have covered : usb.covered object (.transfer download.handle .full download.size) = object := by
    rw [UsbBackend.covered, UsbBackend.command, sent]
    rfl
  refine ⟨⟨_, by rw [body]; exact sent⟩, ?_, ?_, fun windowed => (by cases windowed), ?_⟩
  · rw [body, covered]
    omega
  · rw [body, covered]
    show 0 + _ ≤ _
    omega
  · rw [body, covered]
    show ∀ pacer, good pacer (0 + object.length)
    rw [Nat.zero_add, ← sizes, ← whole.2]
    exact lands

end

section

variable {ρ : Type} (rates : Rates ρ) {pacer : Pacer ρ} {start end_ : Nat}

theorem boundary_zero (pacing : DownloadPacing) (start : Nat) : pacing.boundary start 0 = start :=
  rfl

theorem boundary_heldOpen (start k : Nat) :
    DownloadPacing.heldOpen.boundary start k = start + k * u32Max := by
  cases k with
  | zero => rw [Nat.zero_mul]; rfl
  | succ k => rfl

theorem boundary_fixedWindow (size : UInt32) (start k : Nat) :
    (DownloadPacing.fixedWindow size).boundary start k = start + k * max size.toNat 1 := by
  cases k with
  | zero => rw [Nat.zero_mul]; rfl
  | succ k => rfl

theorem boundary_maxCancelDelay (target start k : Nat) :
    (DownloadPacing.maxCancelDelay target).boundary start (k + 1) = start + firstWindow + k * mib :=
  rfl

theorem boundary_mono (pacing : DownloadPacing) (start : Nat) :
    Monotone (pacing.boundary start) := by
  apply monotone_nat_of_le_succ
  intro k
  cases pacing with
  | heldOpen =>
      rw [boundary_heldOpen, boundary_heldOpen, Nat.succ_mul]
      omega
  | fixedWindow size =>
      rw [boundary_fixedWindow, boundary_fixedWindow, Nat.succ_mul]
      omega
  | maxCancelDelay target =>
      cases k with
      | zero =>
          rw [boundary_zero, boundary_maxCancelDelay, Nat.zero_mul]
          omega
      | succ k =>
          rw [boundary_maxCancelDelay, boundary_maxCancelDelay, Nat.succ_mul]
          omega

/-- An adaptive window wants some whole number of MiB. -/
theorem want_adaptive {target : Nat} (adaptive : pacer.pacing = .maxCancelDelay target)
    (remaining : Nat) : ∃ m, pacer.want rates remaining = (m + 1) * mib := by
  have least : minWindow = mib := rfl
  unfold Pacer.want
  rw [adaptive]
  dsimp only
  split
  · exact ⟨7, rfl⟩
  · next rate learned =>
      rw [least]
      generalize rates.bytesIn rate target / mib = n
      cases n with
      | zero => exact ⟨0, by rw [Nat.zero_mul, Nat.zero_max, Nat.zero_add, Nat.one_mul]⟩
      | succ n =>
          refine ⟨n, Nat.max_eq_left ?_⟩
          rw [Nat.succ_mul]
          exact Nat.le_add_left mib (n * mib)

theorem want_first {target : Nat} (adaptive : pacer.pacing = .maxCancelDelay target)
    (first : pacer.rate = none) (remaining : Nat) :
    pacer.want rates remaining = firstWindow := by
  rw [Pacer.want, adaptive]
  dsimp only
  rw [first]

variable {offset : Nat}

theorem fixed_next {size : UInt32} (fixed : pacer.pacing = .fixedWindow size) :
    end_ ≤ offset + (pacer.nextWindow rates (end_ - offset)).toNat ∨
      (pacer.nextWindow rates (end_ - offset)).toNat = max size.toNat 1 := by
  have len := pacer.nextWindow_toNat rates (end_ - offset)
  have want : pacer.want rates (end_ - offset) = max size.toNat 1 := by
    rw [Pacer.want, fixed]
  have fits := size.toNat_lt
  have most : u32Max = 2 ^ 32 - 1 := rfl
  omega

theorem adaptive_next {target : Nat} (adaptive : pacer.pacing = .maxCancelDelay target)
    (near : pacer.rate = none ∨ end_ ≤ offset + u32Max) :
    end_ ≤ offset + (pacer.nextWindow rates (end_ - offset)).toNat ∨
      (pacer.nextWindow rates (end_ - offset)).toNat = pacer.want rates (end_ - offset) := by
  have len := pacer.nextWindow_toNat rates (end_ - offset)
  cases near with
  | inl first =>
      have want := want_first rates adaptive first (end_ - offset)
      have small : firstWindow ≤ u32Max := by decide
      omega
  | inr near => omega

/-- The end of the range, or where one of its reads starts. The pacer knows no rate at the first. -/
def AtBoundary (pacing : DownloadPacing) (start end_ : Nat) (pacer : Pacer ρ) (offset : Nat) :
    Prop :=
  end_ ≤ offset ∨ ∃ k, offset = pacing.boundary start k ∧ (k = 0 → pacer.rate = none)

theorem window_lands {pacing : DownloadPacing} (same : pacer.pacing = pacing)
    (paced : pacer.heldOpen = false)
    (near : ∀ k, pacing.boundary start k < end_ → pacing.boundary start k ≤ u32Max)
    (rests : AtBoundary pacing start end_ pacer offset) (unfinished : offset < end_)
    (later : Pacer ρ) : AtBoundary pacing start end_ later
      (offset + (pacer.nextWindow rates (end_ - offset)).toNat) := by
  obtain ⟨k, stands, learned⟩ := rests.resolve_left (Nat.not_le.mpr unfinished)
  cases pacing with
  | heldOpen =>
      rw [Pacer.heldOpen, same] at paced
      cases paced
  | fixedWindow size =>
      apply (fixed_next rates same).imp_right
      intro len
      refine ⟨k + 1, ?_, fun zero => absurd zero (Nat.succ_ne_zero k)⟩
      rw [len, stands, boundary_fixedWindow, boundary_fixedWindow, Nat.succ_mul, Nat.add_assoc]
  | maxCancelDelay target =>
      cases k with
      | zero =>
          have first := learned rfl
          apply (adaptive_next rates same (Or.inl first)).imp_right
          intro len
          refine ⟨1, ?_, fun zero => absurd zero Nat.one_ne_zero⟩
          rw [len, want_first rates same first, stands, boundary_zero, boundary_maxCancelDelay,
            Nat.zero_mul, Nat.add_zero]
      | succ k =>
          rw [boundary_maxCancelDelay] at stands
          have ends : end_ ≤ offset + u32Max := by
            by_contra far
            -- 4095 MiB on, a read would start past 4 GiB
            have past := near (k + 4095 + 1)
            have room : u32Max < firstWindow + 4095 * mib := by decide
            have most : 4095 * mib ≤ u32Max := by decide
            rw [boundary_maxCancelDelay, Nat.add_mul] at past
            omega
          apply (adaptive_next rates same (Or.inr ends)).imp_right
          intro len
          obtain ⟨m, want⟩ := want_adaptive rates same (end_ - offset)
          refine ⟨k + (m + 1) + 1, ?_, fun zero => absurd zero (Nat.succ_ne_zero _)⟩
          rw [boundary_maxCancelDelay, len, want, stands, Nat.add_mul k, Nat.add_assoc]

theorem heldOpen_lands
    (rests : AtBoundary .heldOpen start end_ pacer offset) (unfinished : offset < end_)
    (later : Pacer ρ) : AtBoundary .heldOpen start end_ later
      (offset + min (end_ - offset) u32Max) := by
  obtain ⟨k, stands, _⟩ := rests.resolve_left (Nat.not_le.mpr unfinished)
  by_cases last : end_ ≤ offset + u32Max
  · left
    omega
  · right
    refine ⟨k + 1, ?_, fun zero => absurd zero (Nat.succ_ne_zero k)⟩
    rw [show min (end_ - offset) u32Max = u32Max by omega, stands, boundary_heldOpen,
      boundary_heldOpen, Nat.succ_mul, Nat.add_assoc]

end

/-- What a device that takes every command it has makes of the transfer a download may start
with. -/
def UsbBackend.takes (self : UsbBackend) (handle : UInt32) (size : Nat) (range : ByteRange)
    (pacing : DownloadPacing) : Except Error Unit :=
  (self.command (FileDownload.prepare self.backend handle size range pacing :
    FileDownload Unit).transfer.body).map fun _ => ()

/-- Every download that the call returns runs to its end on a device that answers in full. -/
def RunsToEnd (usb : UsbBackend) (object : Bytes) (handle : UInt32) (range : ByteRange)
    (pacing : DownloadPacing) : Prop :=
  ∀ (ρ : Type) (rates : Rates ρ) (waited : Nat) (download : FileDownload ρ),
    downloadWithPacing usb.backend handle (.ok ⟨handle, object.length⟩) range pacing
      (usb.takes handle object.length range pacing) waited = .ok download →
    ∀ actions reader, Runs.Run
      (Runs.Restricted (Reader.InFull usb object) (Reader.Steps rates usb.backend))
      (.initial download) actions reader → RunsOn rates usb object range actions reader

section

variable {ρ : Type} {usb : UsbBackend} {object : Bytes} {handle : UInt32} {range : ByteRange}
  {pacing : DownloadPacing} {download : FileDownload ρ}

/-- A download is returned only if the device has a command for the transfer it starts with. -/
theorem started_of_takes {size waited : Nat} (returned : downloadWithPacing usb.backend handle
      (.ok ⟨handle, size⟩) range pacing (usb.takes handle size range pacing)
        waited = .ok download) :
    FileDownload.Started usb.backend handle size range pacing download ∧
      ((FileDownload.prepare usb.backend handle size range pacing : FileDownload ρ).startsTransfer
          usb.backend = true →
        ∃ command, usb.command (FileDownload.prepare usb.backend handle size range pacing :
          FileDownload ρ).transfer.body = .ok command) := by
  have returned : FileDownload.startDownload usb.backend handle size range pacing
      (usb.takes handle size range pacing) waited = .ok download := returned
  constructor
  · exact FileDownload.started_of_startDownload usb.backend returned
  · intro starts
    have same : (FileDownload.prepare usb.backend handle size range pacing :
        FileDownload Unit).transfer.body = (FileDownload.prepare usb.backend handle size range
          pacing :
        FileDownload ρ).transfer.body := rfl
    unfold FileDownload.startDownload at returned
    split at returned
    · cases returned
    · dsimp only at returned
      rw [if_pos starts, UsbBackend.takes, same] at returned
      cases sent : usb.command (FileDownload.prepare usb.backend handle size range pacing :
          FileDownload ρ).transfer.body with
      | error e =>
          rw [sent] at returned
          cases returned
      | ok command => exact ⟨command, rfl⟩

/-- What a device without partial reads at an offset makes of a ranged transfer from there. -/
theorem command_range_refused {offset len size : Nat} {command : StreamCommand}
    (cannot : usb.canReadPartiallyAt offset = false) :
    usb.command (.transfer handle (.range offset len) size) ≠ .ok command := by
  intro sent
  unfold UsbBackend.canReadPartiallyAt at cannot
  simp only [UsbBackend.command, UsbBackend.download] at sent
  split at sent
  · cases sent
  · cases planned : usb.partialRead offset with
    | error e =>
        rw [UsbBackend.partialReadStream, show usb.partialRead (ByteRange.range offset len).offset =
          .error e from planned] at sent
        cases sent
    | ok op =>
        rw [planned] at cannot
        cases cannot

theorem started_pacing {size : Nat}
    (started : FileDownload.Started usb.backend handle size range pacing download) :
    download.offset = range.offset ∧ download.pacer = .new
      (if (range.offset = 0 ∧ range.end_ size = size) ∧ 0 < range.end_ size ∧
        !usb.canReadPartiallyAt (range.end_ size - 1) then .heldOpen else pacing) := by
  cases started <;> exact ⟨rfl, rfl⟩

/-- The transfer that a download of part of an object may start with. -/
theorem prepare_transfer (backend : Backend) {size : Nat}
    (partly : ¬ (range.offset = 0 ∧ range.end_ size = size)) :
    (FileDownload.prepare backend handle size range pacing : FileDownload ρ).transfer.body =
      .transfer handle (.range range.offset (range.end_ size - range.offset)) size := by
  show DownloadRequest.transfer _ (if range.offset = 0 ∧ range.end_ size = size then _ else _) _ = _
  rw [if_neg partly]
  rfl

/-- What is asked of a download while it is in use. -/
theorem same_bounds {size : Nat} {later : FileDownload ρ}
    (started : FileDownload.Started usb.backend handle size range pacing download)
    (same : later.bounds = download.bounds) :
    later.size = size ∧ later.end_ = range.end_ size := by
  rw [started_bounds started] at same
  simp only [FileDownload.bounds, Prod.mk.injEq] at same
  exact ⟨same.2.1, same.2.2.2⟩

/-- A whole object in one transfer is in reach of every device. -/
theorem scheduled_whole (rates : Rates ρ)
    (started : FileDownload.Started usb.backend handle object.length range pacing download)
    (whole : range.end_ object.length = object.length) (held : download.pacer.heldOpen = true) :
    Reader.Scheduled rates usb object
      (fun _ offset => offset = 0 ∨ range.end_ object.length ≤ offset) download where
  window := by
    intro later same pacing rests unfinished paced can
    rw [Pacer.heldOpen, pacing] at paced
    rw [Pacer.heldOpen, paced] at held
    cases held
  transfer := by
    intro later same pacing rests unfinished unwindowed
    obtain ⟨sizes, ends⟩ := same_bounds started same
    have start : later.offset = 0 := by omega
    apply reading_full sizes unfinished ⟨start, by omega⟩
    intro _
    right
    omega

/-- Partial reads are, where the device has them at every offset that a read starts from. -/
theorem scheduled_parts (rates : Rates ρ) (fits : object.length ≤ u64Max)
    (started : FileDownload.Started usb.backend handle object.length range pacing download)
    {good : Pacer ρ → Nat → Prop}
    (reaches : ∀ pacer offset, good pacer offset → offset < range.end_ object.length →
      usb.canReadPartiallyAt offset = true)
    (ended : ∀ pacer, good pacer (range.end_ object.length))
    (windows : ∀ (pacer : Pacer ρ) offset, pacer.pacing = download.pacer.pacing →
      pacer.heldOpen = false → good pacer offset → offset < range.end_ object.length →
      ∀ later, good later (offset +
        (pacer.nextWindow rates (range.end_ object.length - offset)).toNat))
    (transfers : ∀ (pacer : Pacer ρ) offset, pacer.pacing = download.pacer.pacing →
      pacer.heldOpen = true → good pacer offset → offset < range.end_ object.length →
      ∀ later, good later (offset + min (range.end_ object.length - offset) u32Max)) :
    Reader.Scheduled rates usb object good download where
  window := by
    intro later same pacing rests unfinished paced can
    obtain ⟨sizes, ends⟩ := same_bounds started same
    have inside := range.end_le object.length
    rw [ends] at unfinished
    apply reading_window rates fits (by omega) (by omega) paced can
    rw [ends]
    exact windows later.pacer later.offset pacing paced rests unfinished
  transfer := by
    intro later same pacing rests unfinished unwindowed
    obtain ⟨sizes, ends⟩ := same_bounds started same
    have inside := range.end_le object.length
    rw [ends] at unfinished
    have can := reaches later.pacer later.offset rests unfinished
    have held := unwindowed.resolve_right (by simp [can])
    by_cases whole : later.offset = 0 ∧ later.end_ = later.size
    · apply reading_full sizes (by omega) whole
      rw [ends]
      exact ended
    · apply reading_range fits sizes (by omega) (by omega) whole can
      rw [ends]
      exact transfers later.pacer later.offset pacing held rests unfinished

end

/-- A device that cannot read at an offset cannot read behind it. -/
theorem UsbBackend.cannotRead_of_le {usb : UsbBackend} {offset later : Nat}
    (behind : offset ≤ later)
    (cannot : ¬ usb.canReadPartiallyAt offset = true) : ¬ usb.canReadPartiallyAt later = true := by
  intro can
  apply cannot
  rw [canReadPartiallyAt_iff] at can ⊢
  exact can.imp_right fun narrow => ⟨narrow.1, Nat.le_trans behind narrow.2⟩

/-- A download that does not strand runs to its end. -/
theorem runsToEnd_of_not_strands {usb : UsbBackend} {object : Bytes} {handle : UInt32}
    {range : ByteRange} {pacing : DownloadPacing} (fits : object.length ≤ u64Max)
    (free : ¬ Strands usb range object.length pacing) :
    RunsToEnd usb object handle range pacing := by
  intro ρ rates waited download returned actions reader run
  obtain ⟨started, sends⟩ := started_of_takes returned
  obtain ⟨starts, paces⟩ := started_pacing started
  by_cases room : range.offset < range.end_ object.length
  · by_cases whole : (range.offset = 0 ∧ range.end_ object.length = object.length) ∧
        download.pacer.heldOpen = true
    · apply runsOn_of_scheduled _ fits started (scheduled_whole rates started whole.1.2 whole.2) _
        run
      left
      rw [starts]
      exact whole.1.1
    · -- windows, or the parts of a range: a whole object that is out of reach is one transfer
      have split : ∀ offset < range.end_ object.length, ¬ usb.canReadPartiallyAt offset = true →
          ¬ (range.offset = 0 ∧ range.end_ object.length = object.length) := by
        intro offset inside cannot all
        apply whole
        refine ⟨all, ?_⟩
        have last := UsbBackend.cannotRead_of_le
          (show offset ≤ range.end_ object.length - 1 by omega) cannot
        rw [paces, if_pos ⟨all, by omega, by simpa using last⟩]
        rfl
      have begins : usb.canReadPartiallyAt range.offset = true := by
        by_contra cannot
        have partly := split range.offset room cannot
        have cannot : usb.canReadPartiallyAt range.offset = false := by simpa using cannot
        obtain ⟨command, sent⟩ := sends (by
          simp only [FileDownload.startsTransfer, Bool.and_eq_true, Bool.or_eq_true,
            Bool.not_eq_true', decide_eq_true_eq]
          exact ⟨Or.inr cannot, room⟩)
        rw [prepare_transfer usb.backend partly] at sent
        exact command_range_refused cannot sent
      by_cases everywhere : ∀ offset < range.end_ object.length,
          usb.canReadPartiallyAt offset = true
      · exact runsOn_of_scheduled (fun _ _ => True) fits started
          (scheduled_parts rates fits started (fun _ offset _ inside => everywhere offset inside)
            (fun _ => trivial) (fun _ _ _ _ _ _ _ => trivial) (fun _ _ _ _ _ _ _ => trivial))
          trivial run
      · simp only [not_forall] at everywhere
        obtain ⟨offset, inside, cannot⟩ := everywhere
        have partly := split offset inside cannot
        rw [UsbBackend.canReadPartiallyAt_iff] at begins cannot
        have wide : ¬ usb.hasPartialObject64 = true := fun wide => cannot (Or.inl wide)
        obtain ⟨narrow, near⟩ := begins.resolve_left wide
        have reach : ∀ k, pacing.boundary range.offset k < range.end_ object.length →
            pacing.boundary range.offset k ≤ u32Max := by
          intro k before
          by_contra far
          exact free ⟨by simpa using wide, narrow, partly, near, k, Nat.lt_of_not_le far, before⟩
        rw [if_neg fun all => partly all.1] at paces
        have pacing_eq : download.pacer.pacing = pacing := by rw [paces]; rfl
        apply runsOn_of_scheduled (AtBoundary pacing range.offset (range.end_ object.length)) fits
          started (scheduled_parts rates fits started ?_ ?_ ?_ ?_) _ run
        · intro pacer offset rests unfinished
          obtain ⟨k, stands, _⟩ := rests.resolve_left (Nat.not_le.mpr unfinished)
          rw [UsbBackend.canReadPartiallyAt_iff]
          exact Or.inr ⟨narrow, by rw [stands]; exact reach k (stands ▸ unfinished)⟩
        · intro pacer
          exact Or.inl (Nat.le_refl _)
        · intro pacer offset same paced rests unfinished later
          exact window_lands rates (same.trans pacing_eq) paced reach rests unfinished later
        · intro pacer offset same held rests unfinished later
          have held : pacing = .heldOpen := by
            simpa [Pacer.heldOpen, same.trans pacing_eq] using held
          subst held
          exact heldOpen_lands rests unfinished later
        · right
          exact ⟨0, starts, fun _ => by rw [paces]; rfl⟩
  · apply runsOn_of_scheduled (fun _ offset => range.end_ object.length ≤ offset) fits started _ _
      run
    · constructor
      · intro later same _ rests unfinished
        have ends := (same_bounds started same).2
        omega
      · intro later same _ rests unfinished
        have ends := (same_bounds started same).2
        omega
    · rw [starts]
      exact Nat.le_of_not_lt room

end Mtp
