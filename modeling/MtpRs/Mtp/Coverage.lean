import MtpRs.Mtp.UsbDevice

set_option autoImplicit false

/- A download from a device that answers in full: it gets to its end where every read it starts has
a command. -/
namespace Mtp

open Ptp (Bytes)

open DownloadEvent (bytes Stopped)

/-- The bytes a read stands for, none if the device has no command for it. -/
def UsbBackend.covered (self : UsbBackend) (object : Bytes) (request : DownloadRequest) : Bytes :=
  match self.command request with
  | .ok command => command.covers object
  | .error _ => []

/-- A body that is given in full: its bytes in order, and no end before the last. -/
def Delivers (covered : Bytes) (received : Nat) : BodyItem → Prop
  | some (.ok chunk) => chunk ≠ [] ∧ chunk <+: covered.drop received
  | some (.error _) => False
  | none => covered.length ≤ received

namespace Reader

variable {ρ : Type}

/-- A device that takes every command it has and answers it in full, to a caller that waits for
every answer. -/
def InFull (usb : UsbBackend) (object : Bytes) (self : Reader ρ) : DownloadAction → Prop
  | .call => True
  | .answer answer =>
      match self.await, self.download.current, answer with
      | some .body, some read, .item item _ =>
          Delivers (usb.covered object read.body) read.received item
      | some (.closing _ _), _, .item item _ => item = none
      | some .yielding, _, .yielded => True
      | some (.opening read), _, .opened result _ =>
          result = (usb.command read.body).map fun _ => ()
      | _, _, _ => False
  | .drop => False
  | .cancel => False

/-- A read that the device has a command for, of at least one byte of the range, and that leaves the
download at a good offset, whatever its pacer learns from it. -/
structure Reading (usb : UsbBackend) (object : Bytes) (good : Pacer ρ → Nat → Prop) (end_ : Nat)
    (read : ActiveRead) : Prop where
  sent : ∃ command, usb.command read.body = .ok command
  least : 0 < (usb.covered object read.body).length
  inside : read.body.offset + (usb.covered object read.body).length ≤ end_
  window : read.heldOpen = false → (usb.covered object read.body).length = read.requested
  lands : ∀ pacer, good pacer (read.body.offset + (usb.covered object read.body).length)

/-- The reads a download may start next, from any good offset. -/
structure Scheduled (rates : Rates ρ) (usb : UsbBackend) (object : Bytes)
    (good : Pacer ρ → Nat → Prop)
    (first : FileDownload ρ) : Prop where
  window : ∀ download : FileDownload ρ, download.bounds = first.bounds →
    download.pacer.pacing = first.pacer.pacing → good download.pacer download.offset →
    download.offset < download.end_ → download.pacer.heldOpen = false →
    usb.canReadPartiallyAt download.offset = true →
    Reading usb object good download.end_ (download.window rates)
  transfer : ∀ download : FileDownload ρ, download.bounds = first.bounds →
    download.pacer.pacing = first.pacer.pacing → good download.pacer download.offset →
    download.offset < download.end_ →
    download.pacer.heldOpen = true ∨ usb.canReadPartiallyAt download.offset = false →
    Reading usb object good download.end_ download.transfer

/-- A download that has met no error, and whose reads are all in reach. -/
structure InReach (rates : Rates ρ) (usb : UsbBackend) (object : Bytes)
    (good : Pacer ρ → Nat → Prop)
    (first : FileDownload ρ) (reader : Reader ρ) : Prop where
  going : reader.Going object
  bounds : reader.download.bounds = first.bounds
  pacing : reader.download.pacer.pacing = first.pacer.pacing
  unstopped : ¬ Stopped reader.events
  rests : reader.download.current = none → (∀ read, reader.await ≠ some (.opening read)) →
    good reader.download.pacer reader.download.offset
  closing : ∀ read chunk, reader.await = some (.closing read chunk) →
    ∀ pacer, good pacer reader.download.offset
  flight : ∀ read, reader.download.current = some read →
    Reading usb object good reader.download.end_ read ∧
      (read.received < (usb.covered object read.body).length ∨
        read.heldOpen = true ∧ read.received = (usb.covered object read.body).length)
  opening : ∀ read, reader.await = some (.opening read) →
    Reading usb object good reader.download.end_ read ∧ read.received = 0
  yielding : reader.await = some .yielding →
    Reading usb object good reader.download.end_ (reader.download.window rates)
  between : ∀ await, reader.await = some await → await ≠ .body → reader.download.current = none
  flying : reader.await = some .body → ∃ read, reader.download.current = some read

variable {rates : Rates ρ} {usb : UsbBackend} {object : Bytes} {good : Pacer ρ → Nat → Prop}
  {first : FileDownload ρ}

/-- What a step of a download in reach does: it ends the download or gets on. -/
structure Advances (rates : Rates ρ) (usb : UsbBackend) (object : Bytes)
    (good : Pacer ρ → Nat → Prop)
    (first : FileDownload ρ) (reader next : Reader ρ) : Prop where
  inReach : InReach rates usb object good first next
  rises : next.download.done = true ∨ reader.progress < next.progress

/-- The loop, with no read in flight, starts a read in reach. -/
theorem advances_nextRead {reader : Reader ρ} {download : FileDownload ρ} {poll : DownloadPoll ρ}
    (scheduled : Scheduled rates usb object good first)
    (between : Between object reader.events download)
    (taken : download.NextRead rates usb.backend poll) (bounds : download.bounds = first.bounds)
    (pacing : download.pacer.pacing = first.pacer.pacing)
    (rests : good download.pacer download.offset)
    (unstopped : ¬ Stopped reader.events)
    (below : reader.progress ≤ 5 * (download.offset - download.start) + 1) :
    Advances rates usb object good first reader (reader.polled poll) := by
  have going := between.nextRead taken
  have current := between.current
  cases taken with
  | atEnd finished => exact {
      inReach := {
        going
        bounds
        pacing
        unstopped := by simpa [polled, Stopped] using unstopped
        rests := fun _ _ => rests
        flight := fun read inFlight => by cases current.symm.trans inFlight
        closing := fun read chunk waits => by cases waits
        opening := fun read waits => by cases waits
        yielding := fun waits => by cases waits
        between := fun await waits => by cases waits
        flying := fun waits => by cases waits }
      rises := Or.inl rfl }
  | yields unfinished paced partially again => exact {
      inReach := {
        going
        bounds
        pacing
        unstopped := by simpa [polled] using unstopped
        rests := fun _ _ => rests
        flight := fun read inFlight => by cases current.symm.trans inFlight
        closing := fun read chunk waits => by cases waits
        opening := fun read waits => by cases waits
        yielding := fun _ => scheduled.window download bounds pacing rests unfinished paced
          partially
        between := fun _ _ _ => current
        flying := fun waits => by cases waits }
      rises := Or.inr (Nat.lt_succ_of_le below) }
  | opens unfinished paced partially begins => exact {
      inReach := {
        going
        bounds
        pacing
        unstopped := by simpa [polled, FileDownload.asks, Stopped] using unstopped
        rests := fun _ idle => absurd rfl (idle _)
        flight := fun read inFlight => by cases current.symm.trans inFlight
        closing := fun read chunk waits => by cases waits
        opening := fun read waits => by
          cases waits
          exact ⟨scheduled.window download bounds pacing rests unfinished paced partially, rfl⟩
        yielding := fun waits => by cases waits
        between := fun _ _ _ => current
        flying := fun waits => by cases waits }
      rises := Or.inr (Nat.lt_succ_of_le (Nat.le_succ_of_le below)) }
  | transfers unfinished whole => exact {
      inReach := {
        going
        bounds
        pacing
        unstopped := by simpa [polled, FileDownload.asks, Stopped] using unstopped
        rests := fun _ idle => absurd rfl (idle _)
        flight := fun read inFlight => by cases current.symm.trans inFlight
        closing := fun read chunk waits => by cases waits
        opening := fun read waits => by
          cases waits
          exact ⟨scheduled.transfer download bounds pacing rests unfinished whole, rfl⟩
        yielding := fun waits => by cases waits
        between := fun _ _ _ => current
        flying := fun waits => by cases waits }
      rises := Or.inr (Nat.lt_succ_of_le (Nat.le_succ_of_le below)) }

theorem InReach.called {reader : Reader ρ} (before : InReach rates usb object good first reader)
    (scheduled : Scheduled rates usb object good first) (idle : reader.await = none)
    {poll : DownloadPoll ρ} (called : reader.download.Called rates usb.backend poll) :
    Advances rates usb object good first reader (reader.polled poll) := by
  have going := before.going.called idle called
  cases called with
  | finished atEnd => exact {
      inReach := { before with
        going
        unstopped := by simpa [polled, Stopped] using before.unstopped
        rests := fun between _ => before.rests between (by simp [idle])
        closing := fun read chunk waits => by cases waits
        opening := fun read waits => by cases waits
        yielding := fun waits => by cases waits
        between := fun await waits => by cases waits
        flying := fun waits => by cases waits }
      rises := Or.inl atEnd }
  | @reads read unfinished inFlight => exact {
      inReach := { before with
        going
        unstopped := by simpa [polled] using before.unstopped
        rests := fun between _ => before.rests between (by simp [idle])
        closing := fun read chunk waits => by cases waits
        opening := fun read waits => by cases waits
        yielding := fun waits => by cases waits
        between := fun await waits other => by
          cases waits
          exact absurd rfl other
        flying := fun _ => ⟨read, inFlight⟩ }
      rises := Or.inr (by
        simp only [progress, polled, idle, inFlight]
        split <;> omega) }
  | next unfinished between next =>
      apply advances_nextRead scheduled (before.going.between idle unfinished between) next
        before.bounds before.pacing (before.rests between (by simp [idle])) before.unstopped
      simp only [progress, idle, between]
      omega

theorem Reading.took {end_ : Nat} {read : ActiveRead} (reading : Reading usb object good end_ read)
    (chunk : Bytes) (waited : Nat) : Reading usb object good end_ (read.took chunk waited) :=
  ⟨reading.sent, reading.least, reading.inside, reading.window, reading.lands⟩

/-- What a device gives in full serves the read. -/
theorem InReach.served {reader : Reader ρ} (before : InReach rates usb object good first reader)
    (fits : reader.download.end_ ≤ u64Max) {action : DownloadAction}
    (full : reader.InFull usb object action) : reader.Served object action := by
  unfold Served
  split
  · rename_i read item waited waits inFlight
    simp only [InFull, waits, inFlight] at full
    obtain ⟨reading, taken⟩ := before.flight read inFlight
    obtain ⟨command, sent⟩ := reading.sent
    simp only [UsbBackend.covered, sent] at full taken
    rcases item with _ | e | chunk
    · trivial
    · trivial
    · apply serves_of_answers (before.going.flight read inFlight) fits sent
      obtain ⟨some_, next⟩ := full
      have positive := List.length_pos_of_ne_nil some_
      have inside := next.length_le
      rw [List.length_drop] at inside
      exact ⟨by omega, next⟩
  · trivial

section Answered

variable {reader : Reader ρ}

/-- A chunk of a read that is not full yet. -/
theorem InReach.chunk (before : InReach rates usb object good first reader)
    {read : ActiveRead} {chunk : Bytes} {waited : Nat} {next : Reader ρ}
    (waits : reader.await = some .body) (inFlight : reader.download.current = some read)
    (delivers : Delivers (usb.covered object read.body) read.received (some (.ok chunk)))
    (room : read.heldOpen = true ∨ read.received + chunk.length < read.requested)
    (taken : next = reader.polled (.ready { reader.download with
      current := some (read.took chunk waited)
      offset := reader.download.offset + chunk.length } (some (.ok chunk))))
    (follows : next.Going object ∨ next.Halted object) :
    Advances rates usb object good first reader next := by
  subst taken
  obtain ⟨reading, below⟩ := before.flight read inFlight
  obtain ⟨some_, inside⟩ := delivers
  have positive := List.length_pos_of_ne_nil some_
  have inside := inside.length_le
  rw [List.length_drop] at inside
  have even := before.going.even
  unfold Even at even
  have unread : read.received + chunk.length < (usb.covered object read.body).length ∨
      read.heldOpen = true ∧
        read.received + chunk.length = (usb.covered object read.body).length := by
    cases held : read.heldOpen with
    | true =>
        by_cases more : read.received + chunk.length < (usb.covered object read.body).length
        · exact Or.inl more
        · exact Or.inr ⟨rfl, by omega⟩
    | false =>
        have requested := reading.window held
        rw [held] at room
        have room := room.resolve_left (by decide)
        omega
  exact {
    inReach := { before with
      going := before.going.goes_on waits rfl follows
      unstopped := by simpa [polled, Stopped] using before.unstopped
      rests := fun between => by cases between
      flight := fun other same => by
        cases same
        exact ⟨reading.took chunk waited, unread⟩
      closing := fun read chunk waits => by cases waits
      opening := fun read waits => by cases waits
      yielding := fun waits => by cases waits
      between := fun await waits => by cases waits
      flying := fun waits => by cases waits }
    rises := Or.inr (by
      simp only [progress, polled, waits, inFlight]
      split <;> omega) }

theorem InReach.fills (before : InReach rates usb object good first reader)
    {read : ActiveRead} {chunk : Bytes} {waited : Nat} {next : Reader ρ}
    (waits : reader.await = some .body) (inFlight : reader.download.current = some read)
    (some_ : chunk ≠ []) (unheld : read.heldOpen = false)
    (filled : read.received + chunk.length = read.requested)
    (taken : next = reader.polled (.pending { reader.download with
      current := none
      offset := reader.download.offset + chunk.length }
      (.closing (read.took chunk waited) chunk) none))
    (follows : next.Going object ∨ next.Halted object) :
    Advances rates usb object good first reader next := by
  subst taken
  obtain ⟨reading, below⟩ := before.flight read inFlight
  have positive := List.length_pos_of_ne_nil some_
  have place := (before.going.flight read inFlight).place
  have even := before.going.even
  unfold Even at even
  have lands := reading.lands
  simp only [reading.window unheld, ← filled, ← Nat.add_assoc, place] at lands
  exact {
    inReach := { before with
      going := before.going.goes_on waits rfl follows
      unstopped := by simpa [polled] using before.unstopped
      rests := fun _ _ => lands _
      flight := fun other same => by cases same
      closing := fun _ _ _ => lands
      opening := fun read waits => by cases waits
      yielding := fun waits => by cases waits
      between := fun _ _ _ => rfl
      flying := fun waits => by cases waits }
    rises := Or.inr (by
      simp only [progress, polled, waits, inFlight]
      split <;> omega) }

/-- The end of a read that brought all it stands for. -/
theorem InReach.ends (before : InReach rates usb object good first reader)
    (scheduled : Scheduled rates usb object good first)
    {read : ActiveRead} {pacer : Pacer ρ} {poll : DownloadPoll ρ}
    (waits : reader.await = some .body) (inFlight : reader.download.current = some read)
    (whole : (usb.covered object read.body).length ≤ read.received)
    (pacing : pacer.pacing = reader.download.pacer.pacing)
    (next : FileDownload.NextRead rates usb.backend
      { reader.download with current := none, pacer } poll) :
    Advances rates usb object good first reader (reader.polled poll) := by
  obtain ⟨reading, below⟩ := before.flight read inFlight
  have place := (before.going.flight read inFlight).place
  have even := before.going.even
  unfold Even at even
  have least := reading.least
  have received : read.received ≠ 0 := by omega
  have lands := reading.lands
  simp only [show (usb.covered object read.body).length = read.received by omega, place] at lands
  apply advances_nextRead scheduled (before.going.drained waits pacer) next before.bounds
    (pacing.trans before.pacing) (lands _) before.unstopped
  simp only [progress, waits, inFlight, received, ↓reduceIte]
  omega

/-- The end of a window that was full. -/
theorem InReach.closed (before : InReach rates usb object good first reader)
    {read : ActiveRead} {chunk : Bytes} {pacer : Pacer ρ} {next : Reader ρ}
    (waits : reader.await = some (.closing read chunk))
    (pacing : pacer.pacing = reader.download.pacer.pacing)
    (taken : next = reader.polled (.ready { reader.download with pacer } (some (.ok chunk))))
    (follows : next.Going object ∨ next.Halted object) :
    Advances rates usb object good first reader next := by
  subst taken
  have current := before.between _ waits (by simp)
  exact {
    inReach := { before with
      going := before.going.goes_on waits rfl follows
      pacing := pacing.trans before.pacing
      unstopped := by simpa [polled, Stopped] using before.unstopped
      rests := fun _ _ => before.closing _ _ waits pacer
      closing := fun read chunk waits => by cases waits
      opening := fun read waits => by cases waits
      yielding := fun waits => by cases waits
      between := fun await waits => by cases waits
      flying := fun waits => by cases waits }
    rises := Or.inr (by
      simp only [progress, polled, waits, current]
      omega) }

/-- A download that has yielded asks for the next window. -/
theorem InReach.yielded (before : InReach rates usb object good first reader)
    {next : Reader ρ} (waits : reader.await = some .yielding)
    (taken : next = reader.polled (reader.download.asks (reader.download.window rates)))
    (follows : next.Going object ∨ next.Halted object) :
    Advances rates usb object good first reader next := by
  subst taken
  have current := before.between _ waits (by simp)
  exact {
    inReach := { before with
      going := before.going.goes_on waits rfl follows
      unstopped := by simpa [polled, FileDownload.asks, Stopped] using before.unstopped
      rests := fun _ idle => absurd rfl (idle _)
      closing := fun read chunk waits => by cases waits
      opening := fun read same => by
        cases same
        exact ⟨before.yielding waits, rfl⟩
      yielding := fun waits => by cases waits
      between := fun _ _ _ => current
      flying := fun waits => by cases waits }
    rises := Or.inr (by
      simp only [progress, polled, FileDownload.asks, waits]
      omega) }

/-- The device takes the request of a read. -/
theorem InReach.opened (before : InReach rates usb object good first reader)
    {read : ActiveRead} {waited : Nat} {next : Reader ρ}
    (waits : reader.await = some (.opening read))
    (taken : next = reader.polled (.pending { reader.download with
      current := some { read with deviceTime := waited }
      started := true } .body none))
    (follows : next.Going object ∨ next.Halted object) :
    Advances rates usb object good first reader next := by
  subst taken
  obtain ⟨reading, nothing⟩ := before.opening read waits
  exact {
    inReach := { before with
      going := before.going.goes_on waits rfl follows
      unstopped := by simpa [polled] using before.unstopped
      rests := fun between => by cases between
      flight := fun other same => by
        cases same
        refine ⟨⟨reading.sent, reading.least, reading.inside, reading.window, reading.lands⟩,
          Or.inl ?_⟩
        show read.received < (usb.covered object read.body).length
        rw [nothing]
        exact reading.least
      closing := fun read chunk waits => by cases waits
      opening := fun read waits => by cases waits
      yielding := fun waits => by cases waits
      between := fun await waits other => by
        cases waits
        exact absurd rfl other
      flying := fun _ => ⟨_, rfl⟩ }
    rises := Or.inr (by
      simp only [progress, polled, waits, nothing, ↓reduceIte]
      omega) }

theorem InReach.answered (before : InReach rates usb object good first reader)
    (scheduled : Scheduled rates usb object good first) (fits : reader.download.end_ ≤ u64Max)
    {await : DownloadAwait} {answer : DownloadAnswer} {poll : DownloadPoll ρ}
    (waits : reader.await = some await) (full : reader.InFull usb object (.answer answer))
    (resumed : reader.download.Resumed rates usb.backend await answer poll) :
    Advances rates usb object good first reader (reader.polled poll) := by
  have after := before.going.resumed waits (before.served fits full) resumed
  cases resumed with
  | chunk inFlight room =>
      simp only [InFull, waits, inFlight] at full
      exact before.chunk waits inFlight full room rfl after
  | fills inFlight unheld filled =>
      simp only [InFull, waits, inFlight] at full
      exact before.fills waits inFlight full.1 unheld filled rfl after
  | @overfills read chunk waited e inFlight unheld long =>
      simp only [InFull, waits, inFlight] at full
      obtain ⟨reading, taken⟩ := before.flight read inFlight
      have inside := full.2.length_le
      have requested := reading.window unheld
      rw [List.length_drop] at inside
      omega
  | fails inFlight =>
      simp only [InFull, waits, inFlight] at full
      exact absurd full id
  | @stalls read e waited inFlight nothing unended =>
      simp only [InFull, waits, inFlight, Delivers] at full
      have least := (before.flight read inFlight).1.least
      omega
  | ends inFlight delivered pacing next =>
      simp only [InFull, waits, inFlight, Delivers] at full
      exact before.ends scheduled waits inFlight full pacing next
  | closed pacing => exact before.closed waits pacing rfl after
  | closesBadly =>
      simp only [InFull, waits] at full
      cases full
  | yielded => exact before.yielded waits rfl after
  | opened => exact before.opened waits rfl after
  | @refused read e waited =>
      obtain ⟨command, sent⟩ := (before.opening read waits).1.sent
      simp only [InFull, waits, sent, Except.map] at full
      cases full

end Answered

theorem InReach.step {reader next : Reader ρ} (before : InReach rates usb object good first reader)
    (scheduled : Scheduled rates usb object good first) (fits : reader.download.end_ ≤ u64Max)
    {action : DownloadAction} (full : reader.InFull usb object action)
    (taken : reader.Steps rates usb.backend action next) :
    Advances rates usb object good first reader next := by
  cases stepped_of_steps taken with
  | called idle called => exact before.called scheduled idle called
  | answered waits resumed => exact before.answered scheduled fits waits full resumed
  | dropped waits => exact absurd full id
  | cancelled idle => exact absurd full id

/-- A download in reach can go on, with what its read has left. -/
theorem InReach.continues {reader : Reader ρ}
    (before : InReach rates usb object good first reader) :
    ∃ action next, reader.InFull usb object action ∧
      reader.Steps rates usb.backend action next := by
  unfold Steps
  cases waits : reader.await with
  | none => exact ⟨.call, _, trivial, by rw [Reader.step, waits]⟩
  | some await =>
      cases await with
      | body =>
          obtain ⟨read, inFlight⟩ := before.flying waits
          obtain ⟨reading, taken⟩ := before.flight read inFlight
          by_cases more : read.received < (usb.covered object read.body).length
          · refine ⟨.answer (.item (some (.ok ((usb.covered object read.body).drop read.received)))
            0), _, ?_, by
              simp only [Reader.step, waits, FileDownload.resume, inFlight, Option.map_some]
              rfl⟩
            simp only [InFull, waits, inFlight]
            constructor
            · apply List.ne_nil_of_length_pos
              rw [List.length_drop]
              omega
            · exact List.prefix_refl _
          · refine ⟨.answer (.item none 0), _, ?_, by
              simp only [Reader.step, waits, FileDownload.resume, inFlight, Option.map_some]
              rfl⟩
            simp only [InFull, waits, inFlight]
            exact Nat.le_of_not_lt more
      | closing read chunk =>
          exact ⟨.answer (.item none 0), _, by simp only [InFull, waits], by
            simp only [Reader.step, waits, FileDownload.resume, Option.map_some]
            rfl⟩
      | yielding =>
          exact ⟨.answer .yielded, _, by simp only [InFull, waits], by
            simp only [Reader.step, waits, FileDownload.resume, Option.map_some]
            rfl⟩
      | opening read =>
          obtain ⟨command, sent⟩ := (before.opening read waits).1.sent
          refine ⟨.answer (.opened (.ok ()) 0), _, ?_, by
            simp only [Reader.step, waits, FileDownload.resume, Option.map_some]
            rfl⟩
          simp only [InFull, waits, sent]
          rfl

end Reader

section Started

variable {ρ : Type} {rates : Rates ρ} {usb : UsbBackend} {object : Bytes}
  {good : Pacer ρ → Nat → Prop} {handle : UInt32} {size : Nat} {range : ByteRange}
  {pacing : DownloadPacing} {download : FileDownload ρ}

/-- A download whose reads are all in reach starts so. -/
theorem inReach_initial (fits : size ≤ u64Max)
    (started : FileDownload.Started usb.backend handle size range pacing download)
    (scheduled : Reader.Scheduled rates usb object good download)
    (begins : good download.pacer download.offset) :
    Reader.InReach rates usb object good download (.initial download) := by
  have going := going_initial object fits started
  have unstopped : ¬ Stopped (Reader.initial download).events := by simp [Reader.initial, Stopped]
  cases started with
  | transfers inside waited starts =>
      simp only [FileDownload.startsTransfer, Bool.and_eq_true, Bool.or_eq_true, Bool.not_eq_true',
        decide_eq_true_eq] at starts
      have reading := scheduled.transfer
        (FileDownload.prepare usb.backend handle size range pacing) rfl rfl begins starts.2 starts.1
      exact {
        going
        bounds := rfl
        pacing := rfl
        unstopped
        rests := fun between => by cases between
        closing := fun read chunk waits => by cases waits
        flight := fun read inFlight => by
          cases inFlight
          exact ⟨⟨reading.sent, reading.least, reading.inside, reading.window, reading.lands⟩,
            Or.inl reading.least⟩
        opening := fun read waits => by cases waits
        yielding := fun waits => by cases waits
        between := fun await waits => by cases waits
        flying := fun waits => by cases waits }
  | waits inside starts => exact {
      going
      bounds := rfl
      pacing := rfl
      unstopped
      rests := fun _ _ => begins
      closing := fun read chunk waits => by cases waits
      flight := fun read inFlight => by cases inFlight
      opening := fun read waits => by cases waits
      yielding := fun waits => by cases waits
      between := fun await waits => by cases waits
      flying := fun waits => by cases waits }

/-- A run of a download that has met no error: when it is over it has handed out the range, and
before that it is short and goes on. -/
structure RunsOn (rates : Rates ρ) (usb : UsbBackend) (object : Bytes) (range : ByteRange)
    (actions : List DownloadAction) (reader : Reader ρ) : Prop where
  unstopped : ¬ Stopped reader.events
  whole : .returned none ∈ reader.events → bytes reader.events = range.of object
  goesOn : .returned none ∉ reader.events →
    actions.length ≤ 5 * (range.end_ object.length - range.offset) + 4 ∧
      ∃ action next, reader.InFull usb object action ∧ reader.Steps rates usb.backend action next

/-- A download whose reads are all in reach runs to its end. -/
theorem runsOn_of_scheduled (good : Pacer ρ → Nat → Prop) (fits : object.length ≤ u64Max)
    (started : FileDownload.Started usb.backend handle object.length range pacing download)
    (scheduled : Reader.Scheduled rates usb object good download)
    (begins : good download.pacer download.offset) {actions : List DownloadAction}
    {reader : Reader ρ}
    (run : Runs.Run (Runs.Restricted (Reader.InFull usb object) (Reader.Steps rates usb.backend))
      (.initial download) actions reader) : RunsOn rates usb object range actions reader := by
  have ends : ∀ {reader : Reader ρ}, Reader.InReach rates usb object good download reader →
      reader.download.start = range.offset ∧ reader.download.size = object.length ∧
        reader.download.end_ = range.end_ object.length ∧ reader.download.end_ ≤ object.length := by
    intro reader inReach
    obtain ⟨_, sizes, begins, ends⟩ := bounds_of_started started inReach.bounds
    exact ⟨begins, sizes, ends, ends ▸ range.end_le object.length⟩
  have preserved : ∀ reader action next, Reader.InReach rates usb object good download reader →
      Runs.Restricted (Reader.InFull usb object) (Reader.Steps rates usb.backend)
        reader action next →
      Reader.Advances rates usb object good download reader next := by
    intro reader action next before taken
    have inside := (ends before).2.2.2
    exact before.step scheduled (by omega) taken.1 taken.2
  have kept : ∀ reader action next, Reader.InReach rates usb object good download reader →
      Runs.Restricted (Reader.InFull usb object) (Reader.Steps rates usb.backend)
        reader action next →
      Reader.InReach rates usb object good download next :=
    fun reader action next before taken => (preserved reader action next before taken).inReach
  have initially := inReach_initial fits started scheduled begins
  have inReach := run.invariant _ kept initially
  have said : reader.Said := run.invariant Reader.Said
    (fun _ _ _ before taken => before.step (Reader.stepped_of_steps taken.2)) (said_initial started)
  have short := run.over_or_length_le
    (fun reader : Reader ρ => reader.download.done = true) kept
    (fun _ _ _ before ended taken =>
      before.going.stays_done ended (Reader.stepped_of_steps taken.2))
    (fun _ _ _ before taken => (preserved _ _ _ before taken).rises) initially
  obtain ⟨starts, sizes, ends, inside⟩ := ends inReach
  exact {
    unstopped := inReach.unstopped
    whole := fun ended =>
      inReach.going.handed_range rfl fits starts ends sizes (inReach.going.atEnd ended)
    goesOn := by
      intro going
      constructor
      · have short := short.resolve_left fun ended =>
          (said ended).elim inReach.unstopped going
        have phase := reader.progress_le
        have bounded := inReach.going.bounded
        have even := inReach.going.even
        have front := inReach.going.front.length_le
        unfold Reader.Even at even
        rw [List.length_drop] at front
        omega
      · exact inReach.continues }

end Started

end Mtp
