import MtpRs.Mtp.DownloadStep

set_option autoImplicit false

/- Where a download resumes: its offset against the chunks its calls returned. -/
namespace Mtp

open Ptp (Bytes)

open DownloadEvent (bytes)

namespace Reader

variable {ρ : Type} {rates : Rates ρ} {backend : Backend}

/-- The offset is where the bytes handed out, or held to be, end. -/
def Even (self : Reader ρ) : Prop :=
  self.download.offset =
    self.download.start + (bytes self.events ++ self.held).length

/-- The action neither overfills a window, nor loses the chunk of a full one, nor
brings more bytes than a `u64` offset can count. -/
def intact (self : Reader ρ) : DownloadAction → Bool
  | .answer (.item item _) =>
      match self.await, self.download.current, item with
      | some .body, some read, some (.ok chunk) =>
          (read.heldOpen || read.received + chunk.length ≤ read.requested) &&
            self.download.offset + chunk.length ≤ u64Max
      | some (.closing _ _), _, some _ => false
      | _, _, _ => true
  | .drop =>
      match self.await with
      | some (.closing _ _) => false
      | _ => true
  | .call | .cancel | .answer _ => true

def Intact (self : Reader ρ) (action : DownloadAction) : Prop := self.intact action = true

instance (self : Reader ρ) : DecidablePred self.Intact :=
  fun action => inferInstanceAs (Decidable (self.intact action = true))

/-- The loop, with no read in flight, moves no offset and returns no chunk. -/
theorem Even.nextRead {self : Reader ρ} {download : FileDownload ρ} {poll : DownloadPoll ρ}
    (taken : download.NextRead rates backend poll)
    (even : download.offset = download.start + (bytes self.events).length) :
    (self.polled poll).Even := by
  cases taken with
  | atEnd finished => simpa only [polled, Even, held, DownloadEvent.bytes_append,
      DownloadEvent.bytes_over, List.append_nil] using even
  | yields unfinished paced partially again => simpa only [polled, Even, held,
      DownloadEvent.bytes_append, DownloadEvent.bytes_asked, List.append_nil] using even
  | opens unfinished paced partially first => simpa only [polled, Even, held, FileDownload.asks,
      DownloadEvent.bytes_append, DownloadEvent.bytes_asked, List.append_nil] using even
  | transfers unfinished whole => simpa only [polled, Even, held, FileDownload.asks,
      DownloadEvent.bytes_append, DownloadEvent.bytes_asked, List.append_nil] using even

theorem Even.resumed {self : Reader ρ} {await : DownloadAwait} {answer : DownloadAnswer}
    {poll : DownloadPoll ρ} (even : self.Even) (waits : self.await = some await)
    (intact : self.Intact (.answer answer))
    (resumed : self.download.Resumed rates backend await answer poll) :
    (self.polled poll).Even := by
  unfold Even held at even
  rw [waits] at even
  cases resumed with
  | chunk inFlight room =>
      simp only [List.append_nil] at even
      simp only [polled, Even, held, DownloadEvent.bytes_append, DownloadEvent.bytes_chunk,
        List.append_nil, List.length_append, even]
      omega
  | fills inFlight window full =>
      simp only [List.append_nil] at even
      simp only [polled, Even, held, DownloadEvent.bytes_append, DownloadEvent.bytes_asked,
        List.append_nil, List.length_append, even]
      omega
  | overfills inFlight window long =>
      simp only [Intact, Reader.intact, waits, inFlight, window, Bool.false_or, Bool.and_eq_true,
        decide_eq_true_eq] at intact
      omega
  | fails inFlight =>
      simpa only [polled, Even, held, FileDownload.fail, DownloadEvent.bytes_append,
        DownloadEvent.bytes_failed, List.append_nil] using even
  | stalls inFlight nothing unfinished =>
      simpa only [polled, Even, held, FileDownload.fail, DownloadEvent.bytes_append,
        DownloadEvent.bytes_failed, List.append_nil] using even
  | ends inFlight delivered pacing next =>
      simp only [List.append_nil] at even
      exact Even.nextRead next even
  | closed pacing =>
      simpa only [polled, Even, held, DownloadEvent.bytes_append, DownloadEvent.bytes_chunk,
        List.append_nil] using even
  | closesBadly =>
      simp only [Intact, Reader.intact, waits] at intact
      cases intact
  | yielded =>
      simpa only [polled, Even, held, FileDownload.asks, DownloadEvent.bytes_append,
        DownloadEvent.bytes_asked, List.append_nil] using even
  | opened =>
      simpa only [polled, Even, held, DownloadEvent.bytes_append, DownloadEvent.bytes_asked,
        List.append_nil] using even
  | refused =>
      simpa only [polled, Even, held, FileDownload.fail, DownloadEvent.bytes_append,
        DownloadEvent.bytes_failed, List.append_nil] using even

/-- Every step but overfilling a window and losing its last chunk keeps the offset even. -/
theorem Even.step {self next : Reader ρ} (even : self.Even) {action : DownloadAction}
    (intact : self.Intact action) (taken : self.Steps rates backend action next) : next.Even := by
  rcases stepped_of_steps taken with ⟨idle, called⟩ | ⟨waits, resumed⟩ | ⟨waits⟩ | idle
  · unfold Even held at even
    simp only [idle, List.append_nil] at even
    rcases called with atEnd | ⟨going, inFlight⟩ | ⟨going, between, next⟩
    · simpa only [polled, Even, held, DownloadEvent.bytes_append, DownloadEvent.bytes_over,
        List.append_nil] using even
    · simpa only [polled, Even, held, DownloadEvent.bytes_append, DownloadEvent.bytes_asked,
        List.append_nil] using even
    · exact Even.nextRead next even
  · exact even.resumed waits intact resumed
  · rename_i await
    unfold Even held at even
    rw [waits] at even
    cases await with
    | closing read chunk =>
        simp only [Intact, Reader.intact, waits] at intact
        cases intact
    | body => exact even
    | yielding => exact even
    | opening read => exact even
  · unfold Even held at even
    simp only [idle, List.append_nil] at even
    simpa only [Even, held, FileDownload.cancel, DownloadEvent.bytes_append,
      DownloadEvent.bytes_cancelled, List.append_nil] using even

end Reader

/-- A download that `start` returns has handed out nothing. -/
theorem even_initial {ρ : Type} {backend : Backend} {handle : UInt32} {size : Nat}
    {range : ByteRange} {pacing : DownloadPacing} {transfer : Except Error Unit} {waited : Nat}
    {download : FileDownload ρ} (started : FileDownload.startDownload backend handle size range
      pacing transfer waited = .ok download) : (Reader.initial download).Even := by
  rcases FileDownload.started_of_startDownload backend started with
    ⟨_, _, _⟩ | ⟨_, _⟩ <;> rfl

/-- While no window is overfilled, no full one closed but by its end and the offset
fits its type, the offset is where the chunks returned so far end. -/
theorem offset_resumes {ρ : Type} (rates : Rates ρ) {backend : Backend} {handle : UInt32}
    {size : Nat} {range : ByteRange} {pacing : DownloadPacing} {transfer : Except Error Unit}
    {waited : Nat} {download : FileDownload ρ} (started : FileDownload.startDownload backend handle
      size range pacing transfer waited = .ok download)
    {actions : List DownloadAction} {reader : Reader ρ}
    (run : Runs.Run (Runs.Restricted Reader.Intact (Reader.Steps rates backend))
      (.initial download) actions reader) (idle : reader.await = none) :
    reader.download.offset - reader.download.start = (bytes reader.events).length ∧
      reader.download.start ≤ reader.download.offset := by
  have even : reader.Even := run.invariant Reader.Even
    (fun _ _ _ before taken => before.step taken.1 taken.2) (even_initial started)
  unfold Reader.Even Reader.held at even
  simp only [idle, List.append_nil] at even
  omega

def noRates : Rates Unit := ⟨fun _ _ => (), fun _ _ => (), fun _ _ => 0⟩

/-- A device that reads partially everywhere. -/
def partialBackend : Backend := ⟨fun _ => true⟩

/-- Two bytes in one window of two. -/
theorem offset_resumes_one_window : ∃ reader : Reader Unit,
    bytes reader.events = [1, 2] ∧ reader.download.offset = 2 ∧
      reader.download.offset - reader.download.start = (bytes reader.events).length := by
  have started : FileDownload.startDownload partialBackend 7 2 .full (.fixedWindow 2) (.ok ()) 0 =
      .ok (FileDownload.prepare partialBackend 7 2 .full (.fixedWindow 2) : FileDownload Unit) :=
        rfl
  have run : Runs.Run (Runs.Restricted Reader.Intact (Reader.Steps noRates partialBackend))
      (.initial (FileDownload.prepare partialBackend 7 2 .full (.fixedWindow 2)))
      [.call, .answer (.opened (.ok ()) 1), .answer (.item (some (.ok [1, 2])) 1),
        .answer (.item none 1)] _ :=
    Runs.Run.restricted_of_foldlM (Reader.step noRates partialBackend) _ rfl
  exact ⟨_, rfl, rfl, (offset_resumes noRates started run rfl).1⟩

/-- A device sends two bytes for a window of one. -/
theorem offset_past_received : ¬ ∀ (download : FileDownload Unit)
    (actions : List DownloadAction) (reader : Reader Unit),
    FileDownload.startDownload partialBackend 7 2 .full (.fixedWindow 1) (.ok ()) 0 = .ok download →
    Runs.Run (Reader.Steps noRates partialBackend) (.initial download) actions reader →
      reader.await = none →
      reader.download.offset - reader.download.start = (bytes reader.events).length := by
  intro resumes
  have run : Runs.Run (Reader.Steps noRates partialBackend)
      (.initial (FileDownload.prepare partialBackend 7 2 .full (.fixedWindow 1)))
      [.call, .answer (.opened (.ok ()) 1), .answer (.item (some (.ok [1, 2])) 1)] _ :=
    Runs.Run.of_foldlM (fun _ _ _ taken => taken) _ rfl
  exact absurd (resumes _ _ _ rfl run rfl) (by decide)

end Mtp
