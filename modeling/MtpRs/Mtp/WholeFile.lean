import MtpRs.Mtp.UsbDevice

set_option autoImplicit false

/- Whether a download of a whole file by USB hands out the whole file. -/
namespace Mtp

open Ptp (Bytes ObjectInfo PtpError)

open DownloadEvent (bytes Stopped)

/-- A device that reports an object truthfully: its size as far as 32 bits go, and the
`ObjectSize` property in full or refused. -/
inductive Reports (object : Bytes) : Except PtpError ObjectInfo → Except PtpError Bytes → Prop where
  | answered (info : ObjectInfo) (size : info.size = min object.length u32Max) :
      Reports object (.ok info) (.ok (Ptp.packU64 (UInt64.ofNat object.length)))
  | refused (info : ObjectInfo) (size : info.size = min object.length u32Max) (e : PtpError) :
      Reports object (.ok info) (.error e)

/-- The size is resolved, or one transfer is held open. -/
def Complete (usb : UsbBackend) (object : Bytes) (objectSize : Except PtpError Bytes)
    (pacing : DownloadPacing) : Prop :=
  object.length ≤ u32Max ∨ objectSize.isOk = true ∨ pacing = .heldOpen ∨
    usb.hasPartialObject64 = false ∧ usb.hasPartialObject = false

theorem objectInfo_size {object : Bytes} {info : Except PtpError ObjectInfo}
    {objectSize : Except PtpError Bytes} (fits : object.length ≤ u64Max)
    (reports : Reports object info objectSize) (handle : UInt32) :
    ∃ resolved, UsbBackend.objectInfo handle info objectSize = .ok resolved ∧
      (object.length ≤ u32Max ∨ objectSize.isOk = true → resolved.size = object.length) ∧
      (u32Max < object.length → objectSize.isOk = false → resolved.size = u32Max) := by
  unfold UsbBackend.objectInfo
  cases reports with
  | answered info size =>
      by_cases saturated : info.size = 2 ^ 32 - 1
      · rw [Ptp.getObjectInfoFull_resolved saturated]
        refine ⟨_, rfl, fun _ => ?_, fun _ refused => by cases refused⟩
        unfold u64Max at fits
        change (UInt64.ofNat object.length).toNat = object.length
        rw [UInt64.toNat_ofNat']
        omega
      · rw [Ptp.getObjectInfoFull_small saturated]
        refine ⟨_, rfl, fun _ => ?_, fun _ refused => by cases refused⟩
        change info.size = object.length
        unfold u32Max at size
        omega
  | refused info size e =>
      rw [Ptp.getObjectInfoFull_refused]
      refine ⟨_, rfl, fun small => ?_, fun large _ => ?_⟩
      · change info.size = object.length
        have small : object.length ≤ u32Max := small.resolve_right fun answered => by cases answered
        omega
      · change info.size = u32Max
        omega

theorem UsbBackend.canReadPartiallyAt_of_le {usb : UsbBackend}
    (partially : usb.hasPartialObject64 = true ∨ usb.hasPartialObject = true) {offset : Nat}
    (near : offset ≤ u32Max) : usb.canReadPartiallyAt offset = true := by
  unfold canReadPartiallyAt partialRead planPartialRead
  split
  · rfl
  · rename_i narrow
    rw [if_pos (partially.resolve_left narrow), if_neg (Nat.not_lt.mpr near)]
    rfl

theorem UsbBackend.canReadPartiallyAt_nowhere {usb : UsbBackend}
    (nothing : usb.hasPartialObject64 = false ∧ usb.hasPartialObject = false) (offset : Nat) :
    usb.canReadPartiallyAt offset = false := by
  unfold canReadPartiallyAt partialRead planPartialRead
  rw [nothing.1, nothing.2]
  rfl

namespace Reader

variable {ρ : Type} {rates : Rates ρ} {backend : Backend} {usb : UsbBackend} {object : Bytes}

/-- A download that is one held-open transfer of the whole object. -/
structure OneTransfer (object : Bytes) (reader : Reader ρ) : Prop where
  going : reader.Going object
  flight : reader.download.done = false → ∃ read, reader.download.current = some read ∧
    read.heldOpen = true ∧ read.body = .transfer reader.download.handle .full reader.download.size
  waits : reader.await = none ∨ reader.await = some .body
  whole : reader.download.done = true → bytes reader.events = object

/-- The end of its body is the end of the object. -/
theorem OneTransfer.ended {reader : Reader ρ} (before : OneTransfer object reader)
    (waits : reader.await = some .body) {read : ActiveRead} {waited : Nat}
    (device : reader.Device usb object (.answer (.item none waited)))
    (inFlight : reader.download.current = some read)
    (body : read.body = .transfer reader.download.handle .full reader.download.size) :
    reader.download.offset = object.length ∧ reader.download.end_ = reader.download.size ∧
      bytes reader.events = object := by
  obtain ⟨place, fits⟩ := before.going.flight read inFlight
  have even := before.going.even
  have front := before.going.handed
  have answered := device.1
  simp only [FileDownload.Fits, body] at fits
  obtain ⟨_, starts, ends⟩ := fits
  simp only [Answered, waits, inFlight] at answered
  obtain ⟨command, sent, whole⟩ := answered
  rw [body] at sent place
  cases sent
  have received := whole rfl
  unfold Even held at even
  simp only [waits, List.append_nil, starts] at even
  simp only [DownloadRequest.offset, ByteRange.offset] at place
  rw [starts, List.drop_zero] at front
  exact ⟨by omega, ends, front.eq_of_length (by omega)⟩

/-- It ends with the object, also where the size it goes by is less. -/
theorem OneTransfer.step {reader next : Reader ρ} (before : OneTransfer object reader)
    (inside : reader.download.size ≤ object.length) (fits : reader.download.end_ ≤ u64Max)
    {action : DownloadAction} (device : reader.Device usb object action)
    (stepped : reader.Stepped rates backend action next) :
    OneTransfer object next ∨ Halted object next := by
  have honest := device.honest (Or.inl before.going) fits
  have follows := before.going.step honest stepped
  cases stepped with
  | called idle called =>
      have going := before.going.called idle called
      cases called with
      | finished atEnd =>
          exact Or.inl ⟨going, before.flight, Or.inl rfl, fun _ => by
            simpa [polled] using before.whole atEnd⟩
      | reads unfinished inFlight =>
          exact Or.inl ⟨going, before.flight, Or.inr rfl, fun atEnd => by
            simpa [polled] using before.whole atEnd⟩
      | next unfinished between next =>
          obtain ⟨read, inFlight, _⟩ := before.flight unfinished
          rw [between] at inFlight
          cases inFlight
  | answered waits resumed =>
      have body := before.waits.resolve_left (by simp [waits])
      rw [waits] at body
      cases body
      have unfinished := before.going.unfinished waits
      obtain ⟨read, inFlight, heldOpen, body⟩ := before.flight unfinished
      cases resumed with
      | chunk same room =>
          rw [inFlight] at same
          cases same
          exact follows.imp_left fun going => ⟨going, fun _ => ⟨_, rfl, heldOpen, body⟩, Or.inl rfl,
            fun atEnd => by
              have atEnd : reader.download.done = true := atEnd
              rw [unfinished] at atEnd
              cases atEnd⟩
      | fills same window full =>
          rw [inFlight] at same
          cases same
          rw [heldOpen] at window
          cases window
      | overfills same window long =>
          rw [inFlight] at same
          cases same
          rw [heldOpen] at window
          cases window
      | fails same => exact Or.inr (halted_of_failed rfl before.going.handed)
      | stalls same nothing unfinished => exact Or.inr (halted_of_failed rfl before.going.handed)
      | ends same delivered pacing next =>
          obtain ⟨offset, ends, handed⟩ := before.ended waits device inFlight body
          have atEnd : ¬ reader.download.offset < reader.download.end_ := by omega
          cases next with
          | atEnd finished =>
              exact follows.imp_left fun going => ⟨going, fun unfinished => (by cases unfinished),
                Or.inl rfl, fun _ => by simpa [polled] using handed⟩
          | yields unfinished paced partially again => exact absurd unfinished atEnd
          | opens unfinished paced partially again => exact absurd unfinished atEnd
          | transfers unfinished whole => exact absurd unfinished atEnd
  | dropped waits =>
      exact follows.imp_left fun going =>
        ⟨going, before.flight, Or.inl rfl, before.whole⟩
  | cancelled idle =>
      exact Or.inr ⟨Or.inl (by simp), rfl, rfl, by
        simpa [FileDownload.cancel] using before.going.handed⟩

/-- A call that the transfer of the whole object answers. -/
theorem run_transfer_item {reader : Reader ρ} {read : ActiveRead} (idle : reader.await = none)
    (unfinished : reader.download.done = false) (inFlight : reader.download.current = some read)
    {handle : UInt32} {size : Nat} (body : read.body = .transfer handle .full size)
    {item : BodyItem} (answers : ∀ command : StreamCommand, command.covers object = object →
      command.Answers object read.received item) {poll : DownloadPoll ρ}
    (resumed : reader.download.resume rates backend .body (.item item 0) = some poll) :
    Runs.Run (Runs.Restricted (Reader.Device usb object) (Reader.Steps rates backend)) reader
      [.call, .answer (.item item 0)] (reader.polled poll) := by
  have called : reader.Steps rates backend .call ⟨reader.download, some .body, reader.events⟩ := by
    simp [Steps, step, idle, FileDownload.nextChunk, unfinished, inFlight, polled]
  have answered : Reader.Steps rates backend ⟨reader.download, some .body, reader.events⟩
      (.answer (.item item 0)) (reader.polled poll) := by
    simp only [Steps, step, resumed, Option.map_some]
    cases poll <;> rfl
  have waits : ∀ {reader : Reader ρ} {action : DownloadAction}, action ≠ .drop →
      reader.Kept action := fun other drop => absurd drop other
  refine .cons ⟨⟨?_, waits (by simp)⟩, called⟩ <| .cons ⟨⟨?_, waits (by simp)⟩, answered⟩ <| .nil _
  · simp only [Answered, idle]
  · simp only [Answered, inFlight]
    exact ⟨_, by rw [body]; exact usb.download_full handle size, answers _ rfl⟩

/-- One chunk of the whole object, and the end of the transfer. -/
theorem exists_transfer_end {reader : Reader ρ} {read : ActiveRead} (idle : reader.await = none)
    (unfinished : reader.download.done = false) (inFlight : reader.download.current = some read)
    (heldOpen : read.heldOpen = true) (fresh : read.received = 0)
    {handle : UInt32} {size : Nat} (body : read.body = .transfer handle .full size)
    (within : reader.download.end_ ≤ reader.download.offset + object.length)
    (something : object ≠ []) : ∃ actions next,
      Runs.Run (Runs.Restricted (Reader.Device usb object) (Reader.Steps rates backend)) reader
        actions
        next ∧ next.events = reader.events ++ [.returned (some (.ok object)), .returned none] := by
  have handed : reader.download.resume rates backend .body (.item (some (.ok object)) 0) =
      some (.ready { reader.download with
        current := some (read.took object 0)
        offset := reader.download.offset + object.length } (some (.ok object))) := by
    simp [FileDownload.resume, inFlight, FileDownload.bodyItem, FileDownload.received, heldOpen,
      ActiveRead.took]
  have first : Runs.Run (Runs.Restricted (Reader.Device usb object) (Reader.Steps rates backend))
      reader [.call, .answer (.item (some (.ok object)) 0)] (reader.polled _) :=
    run_transfer_item idle unfinished inFlight body (fun command covers => by
      simp [StreamCommand.Answers, covers, fresh]) handed
  obtain ⟨middle, state⟩ : ∃ middle, middle = reader.polled (.ready { reader.download with
      current := some (read.took object 0)
      offset := reader.download.offset + object.length } (some (.ok object))) := ⟨_, rfl⟩
  have idle' : middle.await = none := by rw [state, polled]
  have unfinished' : middle.download.done = false := by rw [state]; exact unfinished
  have inFlight' : middle.download.current = some (read.took object 0) := by rw [state, polled]
  have ended : middle.download.resume rates backend .body (.item none 0) =
      some (.ready { middle.download with current := none, done := true } none) := by
    simp [state, polled, FileDownload.resume, FileDownload.bodyItem, FileDownload.readEnded,
      heldOpen, ActiveRead.took, something, FileDownload.readNext, within]
  rw [← state] at first
  have second : Runs.Run (Runs.Restricted (Reader.Device usb object) (Reader.Steps rates backend))
      middle [.call, .answer (.item none 0)] (middle.polled _) :=
    run_transfer_item idle' unfinished' inFlight' body (fun command covers => by
      simp [StreamCommand.Answers, ActiveRead.took, fresh]) ended
  exact ⟨_, _, first.append second, by simp [state, polled]⟩

end Reader

section Prepared

variable {ρ : Type} {backend : Backend} {handle : UInt32} {size : Nat} {pacing : DownloadPacing}
  {download : FileDownload ρ}

/-- A transfer that succeeds lets a download start. -/
theorem exists_started {range : ByteRange} (inside : range.offset ≤ size)
    (waited : Nat) : ∃ download : FileDownload ρ, FileDownload.startDownload backend handle size
      range
      pacing (.ok ()) waited = .ok download := by
  unfold FileDownload.startDownload
  rw [if_neg (Nat.not_lt.mpr inside)]
  dsimp only
  split <;> exact ⟨_, rfl⟩

/-- What the held-open download of a whole file starts with. -/
theorem started_heldOpen (positive : 0 < size)
    (whole : pacing = .heldOpen ∨ backend.canReadPartiallyAt (size - 1) = false)
    (started : FileDownload.Started backend handle size .full pacing download) :
    download.done = false ∧ ∃ read, download.current = some read ∧ read.heldOpen = true ∧
      read.received = 0 ∧ read.body = .transfer handle .full size := by
  have heldOpen : (FileDownload.prepare backend handle size .full pacing :
      FileDownload ρ).pacer.heldOpen = true := by
    simp only [FileDownload.prepare]
    split
    · rfl
    · rename_i windowed
      rcases whole with whole | whole
      · exact decide_eq_true whole
      · refine absurd ⟨⟨rfl, rfl⟩, positive, ?_⟩ windowed
        change (!backend.canReadPartiallyAt (size - 1)) = true
        rw [whole]
        rfl
  cases started with
  | transfers inside waited starts =>
      exact ⟨rfl, _, rfl, rfl, rfl, by
        simp [FileDownload.transfer, FileDownload.prepare, ByteRange.offset, ByteRange.end_]⟩
  | waits inside starts =>
      simp only [FileDownload.startsTransfer, heldOpen, Bool.true_or, Bool.true_and,
        decide_eq_false_iff_not] at starts
      exact absurd positive starts

end Prepared

section Started

variable {ρ : Type}

/-- Where a whole-file download by USB can get that ended without an error. -/
def Finishes (rates : Rates ρ) (usb : UsbBackend) (object : Bytes) (handle : UInt32)
    (info : Except PtpError ObjectInfo) (objectSize : Except PtpError Bytes)
    (pacing : DownloadPacing) (reader : Reader ρ) : Prop :=
  ∃ (transfer : Except Error Unit) (waited : Nat) (download : FileDownload ρ)
    (actions : List DownloadAction),
    downloadWithPacing usb.backend handle (UsbBackend.objectInfo handle info objectSize) .full
      pacing
      transfer waited = .ok download ∧
    Runs.Run (Runs.Restricted (Reader.Device usb object) (Reader.Steps rates usb.backend))
      (.initial download) actions reader ∧
    .returned none ∈ reader.events ∧ ¬ Stopped reader.events

variable (rates : Rates ρ) {usb : UsbBackend} {object : Bytes} {handle : UInt32}
    {info : Except PtpError ObjectInfo}
  {objectSize : Except PtpError Bytes} {pacing : DownloadPacing}

/-- The download that a device lets start. -/
theorem started_of_finishes {reader : Reader ρ} (fits : object.length ≤ u64Max)
    (reports : Reports object info objectSize)
    (finishes : Finishes rates usb object handle info objectSize pacing reader) :
    ∃ (size : Nat) (download : FileDownload ρ) (actions : List DownloadAction),
      (object.length ≤ u32Max ∨ objectSize.isOk = true → size = object.length) ∧
      (u32Max < object.length → objectSize.isOk = false → size = u32Max) ∧
      FileDownload.Started usb.backend handle size .full pacing download ∧
      Runs.Run (Runs.Restricted (Reader.Device usb object) (Reader.Steps rates usb.backend))
        (.initial download) actions reader := by
  obtain ⟨transfer, waited, download, actions, started, run, _⟩ := finishes
  obtain ⟨resolved, described, small, large⟩ := objectInfo_size fits reports handle
  unfold downloadWithPacing at started
  rw [described] at started
  exact ⟨resolved.size, download, actions, small, large,
    FileDownload.started_of_startDownload usb.backend started, run⟩

theorem following_of_device {size : Nat} {download : FileDownload ρ} (fits : size ≤ u64Max)
    (started : FileDownload.Started usb.backend handle size .full pacing download)
    {actions : List DownloadAction} {reader : Reader ρ}
    (run : Runs.Run (Runs.Restricted (Reader.Device usb object) (Reader.Steps rates usb.backend))
      (.initial download) actions reader) : Following object download reader := by
  refine run.invariant (Following object download) (fun reader action next before taken => ?_)
    ⟨rfl, Or.inl (going_initial object fits started)⟩
  refine before.step (taken.1.honest before.follows ?_) (Reader.stepped_of_steps taken.2)
  rw [(bounds_of_started started before.bounds).2.2.2]
  exact fits

/-- A held-open download of a whole file ends with the object, whatever size it goes by. -/
theorem oneTransfer_of_device {size : Nat} {download : FileDownload ρ} (fits : size ≤ u64Max)
    (inside : size ≤ object.length) (positive : 0 < size)
    (whole : pacing = .heldOpen ∨ usb.canReadPartiallyAt (size - 1) = false)
    (started : FileDownload.Started usb.backend handle size .full pacing download)
    {actions : List DownloadAction} {reader : Reader ρ}
    (run : Runs.Run (Runs.Restricted (Reader.Device usb object) (Reader.Steps rates usb.backend))
      (.initial download) actions reader) :
    reader.OneTransfer object ∨ reader.Halted object := by
  have same := started_bounds started
  simp only [FileDownload.bounds, Prod.mk.injEq] at same
  obtain ⟨unfinished, read, inFlight, heldOpen, _, body⟩ := started_heldOpen positive whole started
  refine (run.invariant (fun reader => reader.download.bounds = download.bounds ∧
    (reader.OneTransfer object ∨ reader.Halted object)) (fun reader action next before taken => ?_)
    ⟨rfl, Or.inl {
      going := going_initial object fits started
      flight := fun _ => ⟨read, inFlight, heldOpen, ?_⟩
      waits := Or.inl rfl
      whole := fun atEnd => ?_ }⟩).2
  · have stepped := Reader.stepped_of_steps taken.2
    obtain ⟨_, sizes, _, ends⟩ := bounds_of_started started before.1
    refine ⟨stepped.bounds.trans before.1, ?_⟩
    rcases before.2 with one | halted
    · exact one.step (by omega) (by rw [ends]; exact fits) taken.1 stepped
    · exact Or.inr (halted.step stepped)
  · simp only [Reader.initial, same.1, same.2.1, body]
  · have atEnd : download.done = true := atEnd
    rw [unfinished] at atEnd
    cases atEnd

theorem finished_whole (fits : object.length ≤ u64Max) (reports : Reports object info objectSize)
    (complete : Complete usb object objectSize pacing) {reader : Reader ρ}
    (finishes : Finishes rates usb object handle info objectSize pacing reader) :
    bytes reader.events = object := by
  obtain ⟨size, download, actions, small, large, started, run⟩ :=
    started_of_finishes rates fits reports finishes
  obtain ⟨_, _, _, _, _, _, ended, unstopped⟩ := finishes
  by_cases resolved : object.length ≤ u32Max ∨ objectSize.isOk = true
  · have whole := small resolved
    have fits : size ≤ u64Max := by omega
    obtain ⟨bounds, follows⟩ := following_of_device rates fits started run
    obtain ⟨_, sizes, begins, ends⟩ := bounds_of_started started bounds
    have going := follows.resolve_right fun halted => unstopped halted.stopped
    exact going.handed_range whole.symm fits begins ends sizes (going.atEnd ended)
  · obtain ⟨long, refused⟩ := not_or.mp resolved
    have reached := large (by omega) (Bool.eq_false_iff.mpr refused)
    have held : pacing = .heldOpen ∨ usb.canReadPartiallyAt (size - 1) = false := by
      rcases complete with short | answered | held | nothing
      · exact absurd short long
      · exact absurd answered refused
      · exact Or.inl held
      · exact Or.inr (usb.canReadPartiallyAt_nowhere nothing _)
    have positive : 0 < size := by
      rw [reached]
      decide
    rcases oneTransfer_of_device rates (by omega) (by omega) positive held started run with
      one | halted
    · exact one.whole (one.going.atEnd ended)
    · exact absurd halted.stopped unstopped

/-- A windowed download that goes by the saturated size ends there. -/
theorem finished_short (fits : object.length ≤ u64Max) (reports : Reports object info objectSize)
    (incomplete : ¬ Complete usb object objectSize pacing) :
    ∃ reader, Finishes rates usb object handle info objectSize pacing reader ∧
      bytes reader.events = object.take u32Max := by
  simp only [Complete, not_or] at incomplete
  obtain ⟨long, refused, windowed, something⟩ := incomplete
  obtain ⟨resolved, described, _, large⟩ := objectInfo_size fits reports handle
  have size := large (by omega) (Bool.eq_false_iff.mpr refused)
  have length : (object.take u32Max).length = u32Max := by
    rw [List.length_take]
    omega
  have partially : ∀ offset, ByteRange.full.offset ≤ offset → offset < ByteRange.full.end_ u32Max →
      usb.backend.canReadPartiallyAt offset = true := fun offset _ near =>
    usb.canReadPartiallyAt_of_le (by
      rcases Bool.eq_false_or_eq_true usb.hasPartialObject64 with wide | none64
      · exact Or.inl wide
      · refine Or.inr ?_
        by_contra none32
        exact something ⟨none64, by simpa using none32⟩) (Nat.le_of_lt near)
  obtain ⟨download, starts⟩ : ∃ download : FileDownload ρ, FileDownload.startDownload usb.backend
      handle u32Max .full pacing (.ok ()) 0 = .ok download := exists_started (Nat.zero_le _) 0
  have started := FileDownload.started_of_startDownload usb.backend starts
  obtain ⟨actions, reader, run, unfailed, done⟩ := exists_windowed_end rates (by decide)
    (Nat.le_of_eq length.symm) windowed partially started
  obtain ⟨_, sizes, begins, ends⟩ := bounds_of_started started unfailed.bounds
  have answered : Runs.Run (Runs.Restricted (Reader.Device usb object)
      (Reader.Steps rates usb.backend)) (.initial download) actions reader := by
    refine run.allow (Unfailed usb.backend (object.take u32Max) download)
      (fun reader action before allowed => ?_)
      (fun _ _ _ before allowed taken => (before.step rates allowed.1 allowed.2 taken).1)
      (unfailed_initial _ (by decide) windowed partially started)
    refine allowed.1.device (List.take_prefix _ _) before.inWindows ?_
    rw [(bounds_of_started started before.bounds).2.2.2]
    decide
  refine ⟨reader, ⟨.ok (), 0, download, actions, ?_, answered, ?_, unfailed.unstopped⟩, ?_⟩
  · unfold downloadWithPacing
    rw [described]
    change FileDownload.startDownload usb.backend handle resolved.size .full pacing (.ok ()) 0 = _
    rw [size]
    exact starts
  · exact (unfailed.said done).resolve_left unfailed.unstopped
  · exact unfailed.inWindows.going.handed_range length (by decide) begins ends sizes done

/-- A held-open transfer of an object that is not empty, in one chunk. -/
theorem held_open_finishes (fits : object.length ≤ u64Max)
    (reports : Reports object info objectSize)
    (long : u32Max < object.length) (refused : objectSize.isOk = false) :
    ∃ held, Finishes rates usb object handle info objectSize .heldOpen held := by
  obtain ⟨resolved, described, _, large⟩ := objectInfo_size fits reports handle
  have size := large long refused
  obtain ⟨download, starts⟩ : ∃ download : FileDownload ρ, FileDownload.startDownload usb.backend
      handle u32Max .full .heldOpen (.ok ()) 0 = .ok download := exists_started (Nat.zero_le _) 0
  have started := FileDownload.started_of_startDownload usb.backend starts
  obtain ⟨_, _, _, ends⟩ := bounds_of_started started
    (rfl : (Reader.initial download).download.bounds = download.bounds)
  have ends : download.end_ = u32Max := ends
  obtain ⟨unfinished, read, inFlight, heldOpen, fresh, body⟩ :=
    started_heldOpen (by decide) (Or.inl rfl) started
  obtain ⟨actions, held, run, events⟩ : ∃ actions held, Runs.Run (Runs.Restricted
      (Reader.Device usb object) (Reader.Steps rates usb.backend)) (.initial download) actions
        held ∧
      held.events = (Reader.initial download).events ++
        [.returned (some (.ok object)), .returned none] :=
    Reader.exists_transfer_end rfl unfinished inFlight heldOpen fresh body
      (Nat.le_trans (by rw [Reader.initial, ends]; exact Nat.le_of_lt long) (Nat.le_add_left _ _))
      (List.ne_nil_of_length_pos (by omega))
  refine ⟨held, .ok (), 0, download, actions, ?_, run, ?_, ?_⟩
  · unfold downloadWithPacing
    rw [described]
    change FileDownload.startDownload usb.backend handle resolved.size .full .heldOpen (.ok ()) 0 =
      _
    rw [size]
    exact starts
  · rw [events]
    simp
  · rw [events]
    simp [Stopped, Reader.initial]

/-- A whole-file download that ends without an error has handed out the whole object
exactly when its size is resolved or it is one transfer; only then do a windowed
download and a held-open one hand out the same. -/
theorem whole_file_iff (fits : object.length ≤ u64Max) (reports : Reports object info objectSize) :
    ((∀ reader, Finishes rates usb object handle info objectSize pacing reader →
      bytes reader.events = object) ↔ Complete usb object objectSize pacing) ∧
    ((∀ reader held, Finishes rates usb object handle info objectSize pacing reader →
      Finishes rates usb object handle info objectSize .heldOpen held →
      bytes reader.events = bytes held.events) ↔ Complete usb object objectSize pacing) := by
  have heldOpen : Complete usb object objectSize .heldOpen := Or.inr (Or.inr (Or.inl rfl))
  have shortened : ¬ Complete usb object objectSize pacing → object.take u32Max ≠ object := by
    intro incomplete same
    have length := congrArg List.length same
    simp only [Complete, not_or] at incomplete
    rw [List.length_take] at length
    omega
  refine ⟨⟨fun whole => ?_, fun complete reader => finished_whole rates fits reports complete⟩,
    ⟨fun same => ?_, fun complete reader held finishes holds => ?_⟩⟩
  · by_contra incomplete
    obtain ⟨reader, finishes, short⟩ := finished_short rates fits reports incomplete
    exact shortened incomplete (short.symm.trans (whole reader finishes))
  · by_contra incomplete
    have unresolved := incomplete
    simp only [Complete, not_or] at unresolved
    obtain ⟨reader, finishes, short⟩ := finished_short rates fits reports incomplete
    obtain ⟨held, holds⟩ := held_open_finishes rates fits reports (Nat.lt_of_not_le unresolved.1)
      (Bool.eq_false_iff.mpr unresolved.2.1)
    exact shortened incomplete (short.symm.trans ((same reader held finishes holds).trans
      (finished_whole rates fits reports heldOpen holds)))
  · rw [finished_whole rates fits reports complete finishes,
      finished_whole rates fits reports heldOpen holds]

end Started

/-- Two bytes, in one transfer of a device without partial reads. -/
theorem whole_file_two_bytes : ∃ reader : Reader Unit,
    Finishes noRates ⟨false, false⟩ [1, 2] 7 (.ok ⟨7, 2⟩) (.error .timeout) (.fixedWindow 1)
      reader ∧
      bytes reader.events = [1, 2] := by
  have starts : FileDownload.startDownload (UsbBackend.backend ⟨false, false⟩) 7 2 .full
      (.fixedWindow 1) (.ok ()) 0 = .ok (⟨7, 2, 0, 2, 0, .new .heldOpen,
        some ⟨.transfer 7 .full 2, true, 2, 0, 0⟩, true, false⟩ : FileDownload Unit) := rfl
  obtain ⟨actions, reader, run, events⟩ : ∃ actions reader, Runs.Run (Runs.Restricted
      (Reader.Device ⟨false, false⟩ [1, 2])
        (Reader.Steps noRates (UsbBackend.backend ⟨false, false⟩)))
      (.initial ⟨7, 2, 0, 2, 0, .new .heldOpen, some ⟨.transfer 7 .full 2, true, 2, 0, 0⟩, true,
        false⟩)
      actions reader ∧ reader.events = [.asked (.transfer 7 .full 2)] ++
        [.returned (some (.ok [1, 2])), .returned none] :=
    Reader.exists_transfer_end rfl rfl rfl rfl rfl rfl (by decide) (by decide)
  have finishes : Finishes noRates ⟨false, false⟩ [1, 2] 7 (.ok ⟨7, 2⟩) (.error .timeout)
      (.fixedWindow 1) reader :=
    ⟨.ok (), 0, _, actions, starts, run, by simp [events], by simp [events, Stopped]⟩
  have reports : Reports [1, 2] (.ok ⟨7, 2⟩) (.error .timeout) := .refused ⟨7, 2⟩ rfl .timeout
  have complete : Complete ⟨false, false⟩ [1, 2] (.error .timeout) (.fixedWindow 1) :=
    Or.inl (by decide)
  exact ⟨reader, finishes,
    (whole_file_iff noRates (by decide) reports).1.mpr complete reader finishes⟩

/-- An object of 4 GiB, on a device that refuses its `ObjectSize`, in windows of 64 KiB. -/
theorem whole_file_cut : ¬ ∀ reader : Reader Unit,
    Finishes noRates ⟨true, true⟩ (List.replicate (2 ^ 32) 0) 7 (.ok ⟨7, 2 ^ 32 - 1⟩)
      (.error (.protocol .operationNotSupported .getObjectPropValue)) (.fixedWindow 65536) reader →
    bytes reader.events = List.replicate (2 ^ 32) 0 := by
  intro whole
  have length : (List.replicate (2 ^ 32) 0 : Bytes).length = 2 ^ 32 := List.length_replicate
  have incomplete : ¬ Complete ⟨true, true⟩ (List.replicate (2 ^ 32) 0)
      (.error (.protocol .operationNotSupported .getObjectPropValue)) (.fixedWindow 65536) := by
    rintro (small | answered | held | nothing)
    · rw [length] at small
      exact absurd small (by decide)
    · cases answered
    · cases held
    · cases nothing.1
  obtain ⟨reader, finishes, short⟩ := finished_short noRates (by rw [length]; decide)
    (.refused ⟨7, 2 ^ 32 - 1⟩ (by rw [length]; decide) _) incomplete
  have same := congrArg List.length (short.symm.trans (whole reader finishes))
  rw [List.length_take, length] at same
  exact absurd same (by decide)

end Mtp
