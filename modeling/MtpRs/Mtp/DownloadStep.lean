import MtpRs.Mtp.DownloadRun

set_option autoImplicit false

/- What a poll of `next_chunk` can do, said once. -/
namespace Mtp

open Ptp (Bytes)

/-- A pacer changes its rate, never its pacing. -/
theorem Pacer.record_pacing {ρ : Type} (rates : Rates ρ) (self : Pacer ρ) (bytes deviceTime : Nat) :
    (self.record rates bytes deviceTime).pacing = self.pacing := by
  unfold Pacer.record
  split <;> rfl

def ActiveRead.took (self : ActiveRead) (chunk : Bytes) (waited : Nat) : ActiveRead :=
  { self with received := self.received + chunk.length, deviceTime := self.deviceTime + waited }

namespace FileDownload

variable {ρ : Type} (rates : Rates ρ) (backend : Backend)

/-- What the loop does with no read in flight. -/
inductive NextRead (self : FileDownload ρ) : DownloadPoll ρ → Prop where
  | atEnd (finished : self.end_ ≤ self.offset) :
      NextRead self (.ready { self with done := true } none)
  | yields (unfinished : self.offset < self.end_) (paced : self.pacer.heldOpen = false)
      (partially : backend.canReadPartiallyAt self.offset = true)
      (again : self.started = true) : NextRead self (.pending self .yielding none)
  | opens (unfinished : self.offset < self.end_) (paced : self.pacer.heldOpen = false)
      (partially : backend.canReadPartiallyAt self.offset = true)
      (first : self.started = false) :
      NextRead self (self.asks (self.window rates))
  | transfers (unfinished : self.offset < self.end_)
      (whole : self.pacer.heldOpen = true ∨ backend.canReadPartiallyAt self.offset = false) :
      NextRead self (self.asks self.transfer)

theorem readNext_step (self : FileDownload ρ) :
    NextRead rates backend self (self.readNext rates backend) := by
  unfold readNext
  split
  · rename_i finished
    exact .atEnd finished
  · rename_i unfinished
    have unfinished : self.offset < self.end_ := Nat.lt_of_not_le unfinished
    unfold startNextRead
    split
    · rename_i windowed
      simp only [Bool.and_eq_true, Bool.not_eq_true'] at windowed
      split
      · rename_i again
        exact .yields unfinished windowed.1 windowed.2 again
      · rename_i first
        exact .opens unfinished windowed.1 windowed.2 (Bool.eq_false_iff.mpr first)
    · rename_i windowed
      refine .transfers unfinished ?_
      simpa only [Bool.and_eq_true, Bool.not_eq_true', not_and_or, Bool.not_eq_false,
        Bool.not_eq_true] using windowed

/-- What a call does up to its first await. -/
inductive Called (self : FileDownload ρ) : DownloadPoll ρ → Prop where
  | finished (atEnd : self.done = true) : Called self (.ready self none)
  | reads {read : ActiveRead} (going : self.done = false) (inFlight : self.current = some read) :
      Called self (.pending self .body none)
  | next {poll : DownloadPoll ρ} (going : self.done = false) (between : self.current = none)
      (taken : NextRead rates backend self poll) : Called self poll

theorem nextChunk_step (self : FileDownload ρ) :
    Called rates backend self (self.nextChunk rates backend) := by
  unfold nextChunk
  split
  · rename_i atEnd
    exact .finished atEnd
  · rename_i going
    have going := Bool.eq_false_iff.mpr going
    split
    · rename_i inFlight
      exact .reads going inFlight
    · rename_i between
      exact .next going between (readNext_step rates backend self)

/-- What an answer does to the call that waits for it. -/
inductive Resumed (self : FileDownload ρ) :
    DownloadAwait → DownloadAnswer → DownloadPoll ρ → Prop where
  | chunk {read : ActiveRead} {chunk : Bytes} {waited : Nat} (inFlight : self.current = some read)
      (room : read.heldOpen = true ∨ read.received + chunk.length < read.requested) :
      Resumed self .body (.item (some (.ok chunk)) waited)
        (.ready { self with
          current := some (read.took chunk waited)
          offset := self.offset + chunk.length } (some (.ok chunk)))
  | fills {read : ActiveRead} {chunk : Bytes} {waited : Nat} (inFlight : self.current = some read)
      (window : read.heldOpen = false)
      (full : read.received + chunk.length = read.requested) :
      Resumed self .body (.item (some (.ok chunk)) waited)
        (.pending { self with current := none, offset := self.offset + chunk.length }
          (.closing (read.took chunk waited) chunk) none)
  | overfills {read : ActiveRead} {chunk : Bytes} {waited : Nat} {e : Error}
      (inFlight : self.current = some read) (window : read.heldOpen = false)
      (long : read.requested < read.received + chunk.length) :
      Resumed self .body (.item (some (.ok chunk)) waited)
        (.ready { self with
          current := none
          offset := self.offset + chunk.length
          done := true } (some (.error e)))
  | fails {read : ActiveRead} {e : Error} {waited : Nat} (inFlight : self.current = some read) :
      Resumed self .body (.item (some (.error e)) waited) (.ready self.fail (some (.error e)))
  | stalls {read : ActiveRead} {e : Error} {waited : Nat} (inFlight : self.current = some read)
      (nothing : read.received = 0) (unfinished : self.offset < self.end_) :
      Resumed self .body (.item none waited) (.ready self.fail (some (.error e)))
  | ends {read : ActiveRead} {waited : Nat} {pacer : Pacer ρ} {poll : DownloadPoll ρ}
      (inFlight : self.current = some read)
      (delivered : read.received ≠ 0 ∨ self.end_ ≤ self.offset)
      (pacing : pacer.pacing = self.pacer.pacing)
      (taken : NextRead rates backend { self with current := none, pacer } poll) :
      Resumed self .body (.item none waited) poll
  | closed {read : ActiveRead} {chunk : Bytes} {waited : Nat} {pacer : Pacer ρ}
      (pacing : pacer.pacing = self.pacer.pacing) :
      Resumed self (.closing read chunk) (.item none waited)
        (.ready { self with pacer } (some (.ok chunk)))
  | closesBadly {read : ActiveRead} {chunk : Bytes} {item : Except Error Bytes} {waited : Nat}
      {e : Error} : Resumed self (.closing read chunk) (.item (some item) waited)
        (.ready self.fail (some (.error e)))
  | yielded : Resumed self .yielding .yielded (self.asks (self.window rates))
  | opened {read : ActiveRead} {waited : Nat} :
      Resumed self (.opening read) (.opened (.ok ()) waited)
        (.pending { self with
          current := some { read with deviceTime := waited }
          started := true } .body none)
  | refused {read : ActiveRead} {e : Error} {waited : Nat} :
      Resumed self (.opening read) (.opened (.error e) waited)
        (.ready self.fail (some (.error e)))

theorem received_step (self : FileDownload ρ) {read : ActiveRead} (chunk : Bytes) (waited : Nat)
    (inFlight : self.current = some read) :
    Resumed rates backend self .body (.item (some (.ok chunk)) waited)
      (self.received { read with deviceTime := read.deviceTime + waited } chunk) := by
  unfold received
  dsimp only
  split
  · rename_i long
    simp only [Bool.and_eq_true, Bool.not_eq_true', decide_eq_true_eq] at long
    exact .overfills inFlight long.1 long.2
  · rename_i long
    split
    · rename_i full
      simp only [Bool.and_eq_true, Bool.not_eq_true', decide_eq_true_eq] at full
      exact .fills inFlight full.1 full.2
    · rename_i full
      refine .chunk inFlight ?_
      cases held : read.heldOpen with
      | true => exact Or.inl rfl
      | false =>
          simp only [held, Bool.not_false, Bool.true_and, decide_eq_true_eq] at long full
          exact Or.inr (by omega)

theorem readEnded_step (self : FileDownload ρ) {read : ActiveRead} (waited : Nat)
    (inFlight : self.current = some read) :
    Resumed rates backend self .body (.item none waited) (self.readEnded rates backend
      { read with deviceTime := read.deviceTime + waited }) := by
  unfold readEnded
  dsimp only
  split
  · rename_i stalled
    exact .stalls inFlight stalled.1 stalled.2
  · rename_i going
    have delivered : read.received ≠ 0 ∨ self.end_ ≤ self.offset := by omega
    split
    · exact .ends inFlight delivered rfl (readNext_step rates backend _)
    · exact .ends inFlight delivered (Pacer.record_pacing rates _ _ _)
        (readNext_step rates backend _)

theorem resume_step {self : FileDownload ρ} {await : DownloadAwait} {answer : DownloadAnswer}
    {poll : DownloadPoll ρ} (taken : self.resume rates backend await answer = some poll) :
    Resumed rates backend self await answer poll := by
  unfold resume at taken
  split at taken
  · rename_i item waited
    obtain ⟨read, inFlight, rfl⟩ := Option.map_eq_some_iff.mp taken
    rcases item with _ | e | chunk
    · exact readEnded_step rates backend self waited inFlight
    · exact .fails inFlight
    · exact received_step rates backend self chunk waited inFlight
  · rename_i read chunk item waited
    cases taken
    rcases item with _ | e | extra
    · exact .closed (Pacer.record_pacing rates _ _ _)
    · exact .closesBadly
    · exact .closesBadly
  · cases taken
    exact .yielded
  · cases taken
    exact .opened
  · cases taken
    exact .refused
  · cases taken

/-- What `start` returns. -/
inductive Started (backend : Backend) (handle : UInt32) (size : Nat) (range : ByteRange)
    (pacing : DownloadPacing) : FileDownload ρ → Prop where
  | transfers (inside : range.offset ≤ size) (waited : Nat)
      (starts : (prepare backend handle size range pacing : FileDownload ρ).startsTransfer backend =
        true) :
      Started backend handle size range pacing
        { (prepare backend handle size range pacing : FileDownload ρ) with
          current := some
            { (prepare backend handle size range pacing : FileDownload ρ).transfer with
              deviceTime := waited }
          started := true }
  | waits (inside : range.offset ≤ size)
      (starts : (prepare backend handle size range pacing : FileDownload ρ).startsTransfer backend =
        false) :
      Started backend handle size range pacing (prepare backend handle size range pacing)

theorem started_of_startDownload {handle : UInt32} {size : Nat} {range : ByteRange}
    {pacing : DownloadPacing} {transfer : Except Error Unit} {waited : Nat}
    {download : FileDownload ρ} (started : startDownload backend handle size range pacing transfer
      waited = .ok download) : Started backend handle size range pacing download := by
  unfold startDownload at started
  split at started
  · cases started
  · rename_i inside
    have inside := Nat.le_of_not_lt inside
    dsimp only at started
    split at started
    · rename_i starts
      split at started
      · cases started
      · cases started
        exact .transfers inside waited starts
    · rename_i starts
      cases started
      exact .waits inside (Bool.eq_false_iff.mpr starts)

end FileDownload

namespace Reader

variable {ρ : Type} {rates : Rates ρ} {backend : Backend}

/-- What an action does. -/
inductive Stepped (rates : Rates ρ) (backend : Backend) (self : Reader ρ) :
    DownloadAction → Reader ρ → Prop where
  | called {poll : DownloadPoll ρ} (idle : self.await = none)
      (taken : FileDownload.Called rates backend self.download poll) :
      Stepped rates backend self .call (self.polled poll)
  | answered {await : DownloadAwait} {answer : DownloadAnswer} {poll : DownloadPoll ρ}
      (waits : self.await = some await)
      (resumed : FileDownload.Resumed rates backend self.download await answer poll) :
      Stepped rates backend self (.answer answer) (self.polled poll)
  | dropped {await : DownloadAwait} (waits : self.await = some await) :
      Stepped rates backend self .drop { self with await := none }
  | cancelled (idle : self.await = none) :
      Stepped rates backend self .cancel
        ⟨self.download.cancel, none, self.events ++ [.cancelled]⟩

theorem stepped_of_steps {self next : Reader ρ} {action : DownloadAction}
    (taken : self.Steps rates backend action next) : Stepped rates backend self action next := by
  unfold Steps at taken
  cases action <;> simp only [step] at taken
  case call =>
    split at taken <;> cases taken
    exact .called ‹_› (FileDownload.nextChunk_step rates backend _)
  case answer answer =>
    split at taken
    · cases taken
    · rename_i await waits
      obtain ⟨poll, resumed, rfl⟩ := Option.map_eq_some_iff.mp taken
      exact .answered waits (FileDownload.resume_step rates backend resumed)
  case drop =>
    split at taken <;> cases taken
    exact .dropped ‹_›
  case cancel =>
    split at taken <;> cases taken
    exact .cancelled ‹_›

end Reader

end Mtp
