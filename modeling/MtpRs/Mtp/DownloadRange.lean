import MtpRs.Mtp.Consecutive

set_option autoImplicit false

/- The range arithmetic of a download: where its offset can stand, and the subtractions its
functions make on unsigned integers. -/
namespace Mtp

open Ptp (Bytes)

open DownloadEvent (bytes)

namespace FileDownload

variable {ρ : Type}

/-- The subtraction of `start_next_read`, where the loop gets to it. -/
def readSubtractions (self : FileDownload ρ) : List (Nat × Nat) :=
  if self.end_ ≤ self.offset then [] else [(self.end_, self.offset)]

/-- The subtractions of `bytes_received`, `collect` and `collect_with_progress`, minuend first. -/
def collectSubtractions (self : FileDownload ρ) : List (Nat × Nat) :=
  [(self.offset, self.start), (self.end_, self.offset), (self.end_, self.start)]

end FileDownload

namespace Reader

variable {ρ : Type} {rates : Rates ρ} {backend : Backend}

/-- The subtractions one poll of `next_chunk` makes, minuend first. -/
def subtractions (self : Reader ρ) : DownloadAction → List (Nat × Nat)
  | .call =>
      if self.download.done || self.download.current.isSome then []
      else self.download.readSubtractions
  | .answer (.item item _) =>
      match self.await, self.download.current, item with
      | some .body, some read, some (.ok chunk) =>
          if !read.heldOpen && read.requested < read.received + chunk.length then
            [(self.download.offset + chunk.length, read.received + chunk.length)]
          else []
      | some .body, some _, none => self.download.readSubtractions
      | some (.closing read _), _, some (.ok _) => [(self.download.offset, read.received)]
      | _, _, _ => []
  -- what is left was computed before the yield
  | .answer .yielded => [(self.download.end_, self.download.offset)]
  | .answer (.opened _ _) | .drop | .cancel => []

/-- The action brings no bytes from behind the end of the range. -/
def within (self : Reader ρ) : DownloadAction → Bool
  | .answer (.item (some (.ok chunk)) _) =>
      match self.await with
      | some .body => self.download.offset + chunk.length ≤ self.download.end_
      | _ => true
  | _ => true

def Within (self : Reader ρ) (action : DownloadAction) : Prop := self.within action = true

instance (self : Reader ρ) : DecidablePred self.Within :=
  fun action => inferInstanceAs (Decidable (self.within action = true))

def reads (self : Reader ρ) : List ActiveRead :=
  self.download.current.toList ++
    match self.await with
    | some (.closing read _) | some (.opening read) => [read]
    | _ => []

/-- The offset is in the range, no read received more than lies before it, and what was handed
out, or is held, ends no later. -/
structure InRange (reader : Reader ρ) : Prop where
  begun : reader.download.start ≤ reader.download.offset
  bounded : reader.download.offset ≤ reader.download.end_
  inside : reader.download.end_ ≤ reader.download.size
  reading : ∀ read ∈ reader.reads, read.received ≤ reader.download.offset
  handed : reader.download.start + (bytes reader.events ++ reader.held).length ≤
    reader.download.offset

theorem InRange.nextRead {self : Reader ρ} {download : FileDownload ρ} {poll : DownloadPoll ρ}
    (taken : download.NextRead rates backend poll) (between : download.current = none)
    (begun : download.start ≤ download.offset) (bounded : download.offset ≤ download.end_)
    (inside : download.end_ ≤ download.size)
    (handed : download.start + (bytes self.events).length ≤ download.offset) :
    (self.polled poll).InRange := by
  cases taken with
  | atEnd finished =>
      refine ⟨begun, bounded, inside, ?_, ?_⟩
      · simp [polled, reads, between]
      · simpa [polled, held] using handed
  | yields unfinished paced partially again =>
      refine ⟨begun, bounded, inside, ?_, ?_⟩
      · simp [polled, reads, between]
      · simpa [polled, held] using handed
  | opens unfinished paced partially first =>
      refine ⟨begun, bounded, inside, ?_, ?_⟩
      · simp [polled, FileDownload.asks, reads, between, FileDownload.window]
      · simpa [polled, FileDownload.asks, held] using handed
  | transfers unfinished whole =>
      refine ⟨begun, bounded, inside, ?_, ?_⟩
      · simp [polled, FileDownload.asks, reads, between, FileDownload.transfer]
      · simpa [polled, FileDownload.asks, held] using handed

/-- The bytes handed out are counted whatever the call holds. -/
theorem InRange.idle_handed {self : Reader ρ} (range : self.InRange) :
    self.download.start + (bytes self.events).length ≤ self.download.offset := by
  have handed := range.handed
  rw [List.length_append] at handed
  omega

theorem InRange.resumed {self : Reader ρ} {await : DownloadAwait} {answer : DownloadAnswer}
    {poll : DownloadPoll ρ} (range : self.InRange) (waits : self.await = some await)
    (within : self.Within (.answer answer))
    (resumed : self.download.Resumed rates backend await answer poll) :
    (self.polled poll).InRange := by
  have begun := range.begun
  have bounded := range.bounded
  have handed := range.idle_handed
  have reading := range.reading
  unfold reads at reading
  rw [waits] at reading
  cases resumed with
  | chunk inFlight room =>
      rename_i read chunk waited
      have before := reading read (by simp [inFlight])
      simp only [Within, Reader.within, waits, decide_eq_true_eq] at within
      refine ⟨by simp only [polled]; omega, within, range.inside, ?_, ?_⟩
      · simp only [polled, reads, Option.toList_some, List.append_nil, List.mem_singleton]
        intro other same
        rw [same, ActiveRead.took]
        dsimp only
        omega
      · simp only [polled, held, DownloadEvent.bytes_append, DownloadEvent.bytes_chunk,
          List.append_nil, List.length_append]
        omega
  | fills inFlight window full =>
      rename_i read chunk waited
      have before := reading read (by simp [inFlight])
      simp only [Within, Reader.within, waits, decide_eq_true_eq] at within
      refine ⟨by simp only [polled]; omega, within, range.inside, ?_, ?_⟩
      · simp only [polled, reads, Option.toList_none, List.nil_append, List.mem_singleton]
        intro other same
        rw [same, ActiveRead.took]
        dsimp only
        omega
      · simp only [polled, held, DownloadEvent.bytes_append, DownloadEvent.bytes_asked,
          List.append_nil, List.length_append]
        omega
  | overfills inFlight window long =>
      rename_i read chunk waited e
      simp only [Within, Reader.within, waits, decide_eq_true_eq] at within
      refine ⟨by simp only [polled]; omega, within, range.inside, ?_, ?_⟩
      · simp [polled, reads]
      · simp only [polled, held, DownloadEvent.bytes_append, DownloadEvent.bytes_failed,
          List.append_nil]
        omega
  | fails inFlight =>
      refine ⟨begun, bounded, range.inside, by simp [polled, reads, FileDownload.fail], ?_⟩
      simpa [polled, held, FileDownload.fail] using handed
  | stalls inFlight nothing unfinished =>
      refine ⟨begun, bounded, range.inside, by simp [polled, reads, FileDownload.fail], ?_⟩
      simpa [polled, held, FileDownload.fail] using handed
  | ends inFlight delivered pacing next =>
      exact InRange.nextRead next rfl begun bounded range.inside handed
  | closed pacing =>
      rename_i read chunk waited pacer
      refine ⟨begun, bounded, range.inside, ?_, ?_⟩
      · intro other mem
        simp only [polled, reads, List.append_nil] at mem
        exact reading other (List.mem_append_left _ mem)
      · have closing := range.handed
        unfold held at closing
        rw [waits] at closing
        simpa [polled, held] using closing
  | closesBadly =>
      refine ⟨begun, bounded, range.inside, by simp [polled, reads, FileDownload.fail], ?_⟩
      simpa [polled, held, FileDownload.fail] using handed
  | yielded =>
      refine ⟨begun, bounded, range.inside, ?_, ?_⟩
      · intro other mem
        simp only [polled, reads, FileDownload.asks, FileDownload.window, List.mem_append,
          List.mem_singleton] at mem
        rcases mem with current | opening
        · exact reading other (List.mem_append_left _ current)
        · rw [opening]
          exact Nat.zero_le _
      · simpa [polled, FileDownload.asks, held] using handed
  | opened =>
      rename_i read waited
      refine ⟨begun, bounded, range.inside, ?_, ?_⟩
      · intro other mem
        simp only [polled, reads, Option.toList_some, List.append_nil, List.mem_singleton] at mem
        rw [mem]
        exact reading read (List.mem_append_right _ List.mem_cons_self)
      · simpa [polled, held] using handed
  | refused =>
      refine ⟨begun, bounded, range.inside, by simp [polled, reads, FileDownload.fail], ?_⟩
      simpa [polled, held, FileDownload.fail] using handed

/-- Every action that brings no bytes from behind the range's end stays in range. -/
theorem InRange.step {self next : Reader ρ} (range : self.InRange) {action : DownloadAction}
    (within : self.Within action) (taken : self.Steps rates backend action next) :
    next.InRange := by
  rcases stepped_of_steps taken with ⟨idle, called⟩ | ⟨waits, resumed⟩ | ⟨waits⟩ | idle
  · cases called with
    | finished atEnd =>
        refine ⟨range.begun, range.bounded, range.inside, ?_, ?_⟩
        · intro read mem
          simp only [polled, reads, List.append_nil] at mem
          exact range.reading read (List.mem_append_left _ mem)
        · simpa [polled, held] using range.idle_handed
    | reads going inFlight =>
        refine ⟨range.begun, range.bounded, range.inside, ?_, ?_⟩
        · intro read mem
          simp only [polled, reads, List.append_nil] at mem
          exact range.reading read (List.mem_append_left _ mem)
        · simpa [polled, held] using range.idle_handed
    | next going between taken =>
        exact InRange.nextRead taken between range.begun range.bounded range.inside
          range.idle_handed
  · exact range.resumed waits within resumed
  · refine ⟨range.begun, range.bounded, range.inside, ?_, ?_⟩
    · intro read mem
      simp only [reads, List.append_nil] at mem
      exact range.reading read (List.mem_append_left _ mem)
    · simpa [held] using range.idle_handed
  · refine ⟨range.begun, range.bounded, range.inside, by simp [reads, FileDownload.cancel], ?_⟩
    simpa [held, FileDownload.cancel] using range.idle_handed

/-- No subtraction of a poll underflows in a state in range, whatever it is answered. -/
theorem InRange.subtractions_le {self : Reader ρ} (range : self.InRange) {action : DownloadAction}
    {a b : Nat} (subtracts : (a, b) ∈ self.subtractions action) : b ≤ a := by
  have reads : (a, b) ∈ self.download.readSubtractions → b ≤ a := by
    intro mem
    unfold FileDownload.readSubtractions at mem
    by_cases finished : self.download.end_ ≤ self.download.offset
    · rw [if_pos finished] at mem
      exact absurd mem List.not_mem_nil
    · rw [if_neg finished, List.mem_singleton, Prod.mk.injEq] at mem
      rw [mem.1, mem.2]
      exact range.bounded
  cases action with
  | call =>
      simp only [subtractions] at subtracts
      split at subtracts
      · exact absurd subtracts List.not_mem_nil
      · exact reads subtracts
  | drop => exact absurd subtracts List.not_mem_nil
  | cancel => exact absurd subtracts List.not_mem_nil
  | answer answer =>
      cases answer with
      | yielded =>
          simp only [subtractions, List.mem_singleton, Prod.mk.injEq] at subtracts
          rw [subtracts.1, subtracts.2]
          exact range.bounded
      | opened result waited => exact absurd subtracts List.not_mem_nil
      | item item waited =>
          simp only [subtractions] at subtracts
          split at subtracts
          · rename_i read chunk waits inFlight
            have before := range.reading read (by simp [Reader.reads, inFlight])
            split at subtracts
            · rw [List.mem_singleton, Prod.mk.injEq] at subtracts
              omega
            · exact absurd subtracts List.not_mem_nil
          · exact reads subtracts
          · rename_i read chunk extra waits
            have before := range.reading read (by simp [Reader.reads, waits])
            rw [List.mem_singleton, Prod.mk.injEq] at subtracts
            omega
          · exact absurd subtracts List.not_mem_nil

end Reader

theorem inRange_initial {ρ : Type} {backend : Backend} {handle : UInt32} {size : Nat}
    {range : ByteRange} {pacing : DownloadPacing} {download : FileDownload ρ} (fits : size ≤ u64Max)
    (started : FileDownload.Started backend handle size range pacing download) :
    (Reader.initial download).InRange := by
  have quiet : bytes (Reader.initial download).events = [] := DownloadEvent.bytes_asked _
  have ends : range.end_ size ≤ size := by
    cases range with
    | full => exact Nat.le_refl _
    | from_ offset => exact Nat.le_refl _
    | range offset len => exact Nat.min_le_right ..
  cases started with
  | transfers inside waited starts =>
      refine ⟨Nat.le_refl _, ByteRange.offset_le_end fits inside, ends, ?_, ?_⟩
      · simp [Reader.reads, Reader.initial, FileDownload.transfer]
      · rw [quiet]
        exact Nat.le_refl _
  | waits inside starts =>
      refine ⟨Nat.le_refl _, ByteRange.offset_le_end fits inside, ends, ?_, ?_⟩
      · simp [Reader.reads, Reader.initial, FileDownload.prepare]
      · rw [quiet]
        exact Nat.le_refl _

/-- While no chunk reaches past the end of the range, a download in use stays in it: its offset,
the bytes it hands out, and every subtraction its functions make. -/
theorem range_kept {ρ : Type} (rates : Rates ρ) {backend : Backend} {handle : UInt32} {size : Nat}
    (fits : size ≤ u64Max) {range : ByteRange} {pacing : DownloadPacing}
    {transfer : Except Error Unit} {waited : Nat} {download : FileDownload ρ}
    (started : FileDownload.startDownload backend handle size range pacing transfer waited =
      .ok download) {actions : List DownloadAction} {reader : Reader ρ}
    (run : Runs.Run (Runs.Restricted Reader.Within (Reader.Steps rates backend))
      (.initial download) actions reader) :
    (reader.download.start ≤ reader.download.offset ∧
      reader.download.offset ≤ reader.download.end_ ∧
      reader.download.end_ ≤ reader.download.size) ∧
    reader.download.start + (bytes reader.events).length ≤ reader.download.end_ ∧
    (∀ action a b, (a, b) ∈ reader.subtractions action → b ≤ a) ∧
    ∀ a b, (a, b) ∈ reader.download.collectSubtractions → b ≤ a := by
  have kept : reader.InRange := run.invariant Reader.InRange
    (fun _ _ _ before taken => before.step taken.1 taken.2)
    (inRange_initial fits (FileDownload.started_of_startDownload backend started))
  have begun := kept.begun
  have bounded := kept.bounded
  have handed := kept.idle_handed
  refine ⟨⟨begun, bounded, kept.inside⟩, by omega, ?_, ?_⟩
  · intro action a b subtracts
    exact kept.subtractions_le subtracts
  · intro a b subtracts
    simp only [FileDownload.collectSubtractions, List.mem_cons, Prod.mk.injEq, List.not_mem_nil,
      or_false] at subtracts
    omega

/-- A device that reads nothing partially. -/
def wholeBackend : Backend := ⟨fun _ => false⟩

/-- A held-open download of two bytes, as `start` returns it. -/
def twoByteTransfer : FileDownload Unit :=
  let download : FileDownload Unit := .prepare wholeBackend 7 2 .full .heldOpen
  { download with current := some download.transfer, started := true }

/-- Two bytes in one held-open transfer. -/
theorem range_kept_one_transfer : ∃ reader : Reader Unit,
    bytes reader.events = [1, 2] ∧ reader.download.offset = 2 ∧ reader.download.end_ = 2 ∧
      reader.download.start + (bytes reader.events).length ≤ reader.download.end_ := by
  have started : FileDownload.startDownload wholeBackend 7 2 .full .heldOpen (.ok ()) 0 =
      .ok twoByteTransfer := rfl
  have run : Runs.Run (Runs.Restricted Reader.Within (Reader.Steps noRates wholeBackend))
      (.initial twoByteTransfer)
      [.call, .answer (.item (some (.ok [1, 2])) 1)] _ :=
    Runs.Run.restricted_of_foldlM (Reader.step noRates wholeBackend) _ rfl
  exact ⟨_, rfl, rfl, rfl, (range_kept noRates (by decide) started run).2.1⟩

/-- A device sends three bytes for a held-open transfer of two. -/
theorem past_the_range : ¬ ∀ (download : FileDownload Unit)
    (actions : List DownloadAction) (reader : Reader Unit),
    FileDownload.startDownload wholeBackend 7 2 .full .heldOpen (.ok ()) 0 = .ok download →
    Runs.Run (Reader.Steps noRates wholeBackend) (.initial download) actions reader →
      reader.download.offset ≤ reader.download.end_ := by
  intro keeps
  have run : Runs.Run (Reader.Steps noRates wholeBackend)
      (.initial twoByteTransfer)
      [.call, .answer (.item (some (.ok [1, 2, 3])) 1)] _ :=
    Runs.Run.of_foldlM (fun _ _ _ taken => taken) _ rfl
  exact absurd (keeps _ _ _ rfl run) (by decide)

end Mtp
