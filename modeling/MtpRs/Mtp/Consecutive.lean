import MtpRs.Mtp.Resume

set_option autoImplicit false

/- What the chunks of a download are worth: the object's bytes in order, from a
device that serves what it is asked. -/
namespace Mtp

open Ptp (Bytes)

open DownloadEvent (bytes Stopped)

/-- A prefix goes on with what stands behind it. -/
theorem prefix_append_of_drop {whole front chunk : Bytes} (ahead : front <+: whole)
    (next : chunk <+: whole.drop front.length) : front ++ chunk <+: whole := by
  obtain ⟨rest, rfl⟩ := ahead
  rw [List.drop_left] at next
  exact (List.prefix_append_right_inj front).mpr next

def DownloadRequest.offset : DownloadRequest → Nat
  | .window _ offset _ => offset
  | .transfer _ range _ => range.offset

/-- What a body gives is what stands behind the bytes it gave, a transfer of a range
no more than that range. -/
def Serves (object : Bytes) (request : DownloadRequest) (received : Nat) : BodyItem → Prop
  | some (.ok chunk) => chunk <+: object.drop (request.offset + received) ∧
      match request with
      | .transfer _ (.range _ len) _ => received + chunk.length ≤ len
      | _ => True
  | some (.error _) => True
  | none => True

/-- The size of a window is between one byte and what remains. -/
theorem Pacer.nextWindow_toNat {ρ : Type} (rates : Rates ρ) (self : Pacer ρ) (remaining : Nat) :
    (self.nextWindow rates remaining).toNat = min (min (self.want rates remaining) remaining)
      u32Max := by
  unfold Pacer.nextWindow
  dsimp only
  split
  · rename_i fits
    rw [UInt32.toNat_ofNat', Nat.mod_eq_of_lt (by unfold u32Max at fits; omega)]
    omega
  · rename_i large
    have : (UInt32.ofNat u32Max).toNat = u32Max := rfl
    omega

namespace FileDownload

variable {ρ : Type}

/-- A read stays inside the range, but for a transfer of the whole object. -/
def Fits (self : FileDownload ρ) (read : ActiveRead) : Prop :=
  match read.body with
  | .window _ offset len =>
      read.heldOpen = false ∧ read.requested = len.toNat ∧ offset + len.toNat ≤ self.end_
  | .transfer _ (.range offset len) _ => read.heldOpen = true ∧ offset + len ≤ self.end_
  | .transfer _ .full _ => read.heldOpen = true ∧ self.start = 0 ∧ self.end_ = self.size
  | .transfer _ (.from_ _) _ => False

def bounds (self : FileDownload ρ) : UInt32 × Nat × Nat × Nat :=
  (self.handle, self.size, self.start, self.end_)

/-- A read stands where the download does. -/
structure Along (download : FileDownload ρ) (read : ActiveRead) : Prop where
  place : read.body.offset + read.received = download.offset
  fits : download.Fits read

/-- A new window stays inside the range. -/
theorem along_window (rates : Rates ρ) {self : FileDownload ρ}
    (unfinished : self.offset < self.end_) :
    self.Along (self.window rates) where
  place := rfl
  fits := by
    have size := self.pacer.nextWindow_toNat rates (self.end_ - self.offset)
    refine ⟨rfl, rfl, ?_⟩
    omega

theorem along_transfer {self : FileDownload ρ} (begun : self.start ≤ self.offset)
    (unfinished : self.offset < self.end_) : self.Along self.transfer := by
  by_cases whole : self.offset = 0 ∧ self.end_ = self.size
  · have body : self.transfer.body = .transfer self.handle .full self.size := by
      rw [transfer, if_pos whole]
    refine ⟨?_, ?_⟩
    · rw [body]
      exact whole.1.symm
    · rw [Fits, body]
      exact ⟨rfl, by omega, whole.2⟩
  · have body : self.transfer.body =
        .transfer self.handle (.range self.offset (self.end_ - self.offset)) self.size := by
      rw [transfer, if_neg whole]
    refine ⟨?_, ?_⟩
    · rw [body]
      rfl
    · rw [Fits, body]
      exact ⟨rfl, by omega⟩

/-- What a served chunk leaves of the range. -/
theorem Along.bounded {self : FileDownload ρ} {read : ActiveRead} (along : self.Along read)
    {object chunk : Bytes} (serves : Serves object read.body read.received (some (.ok chunk)))
    (room : read.heldOpen = true ∨ read.received + chunk.length ≤ read.requested) :
    self.offset + chunk.length ≤ self.end_ ∨ self.start = 0 ∧ self.end_ = self.size := by
  obtain ⟨place, fits⟩ := along
  unfold Fits at fits
  split at fits
  · rename_i body
    obtain ⟨window, requested, inside⟩ := fits
    rw [body] at place
    simp only [DownloadRequest.offset] at place
    rcases room with held | room
    · rw [window] at held
      cases held
    · exact Or.inl (by omega)
  · rename_i body
    rw [body] at place serves
    have within := serves.2
    simp only [DownloadRequest.offset, ByteRange.offset] at place
    exact Or.inl (by omega)
  · exact Or.inr fits.2
  · exact absurd fits id

/-- The place moves with the chunk. -/
theorem Along.took {self : FileDownload ρ} {read : ActiveRead} (along : self.Along read)
    (chunk : Bytes) (waited : Nat) (current : Option ActiveRead) :
    ({ self with current, offset := self.offset + chunk.length } : FileDownload ρ).Along
      (read.took chunk waited) where
  place := by
    have place := along.place
    simp only [ActiveRead.took]
    omega
  fits := along.fits

end FileDownload

namespace Reader

variable {ρ : Type} {rates : Rates ρ} {backend : Backend} {object : Bytes}

/-- The device serves what it is asked. -/
def Served (object : Bytes) (self : Reader ρ) (action : DownloadAction) : Prop :=
  match self.await, self.download.current, action with
  | some .body, some read, .answer (.item item _) => Serves object read.body read.received item
  | _, _, _ => True

/-- The action drops no call that closes a full window. -/
def Kept (self : Reader ρ) (action : DownloadAction) : Prop :=
  action = .drop → ∀ read chunk, self.await ≠ some (.closing read chunk)

/-- An honest device, and a caller that waits for the end of each full window. -/
def Honest (object : Bytes) (self : Reader ρ) (action : DownloadAction) : Prop :=
  self.Served object action ∧ self.Kept action

/-- A download that goes on, or ended with its range. -/
structure Going (object : Bytes) (reader : Reader ρ) : Prop where
  even : reader.Even
  front : bytes reader.events ++ reader.held <+: object.drop reader.download.start
  flight : ∀ read, reader.download.current = some read → reader.download.Along read
  opening : ∀ read, reader.await = some (.opening read) → reader.download.Along read
  yielding : reader.await = some .yielding → reader.download.offset < reader.download.end_
  bounded : reader.download.offset ≤ reader.download.end_ ∨
    reader.download.start = 0 ∧ reader.download.end_ = reader.download.size
  atEnd : .returned none ∈ reader.events → reader.download.done = true
  done : reader.download.done = true →
    reader.download.end_ ≤ reader.download.offset ∧ reader.await = none

/-- A download that ended with an error or a cancel. -/
structure Halted (object : Bytes) (reader : Reader ρ) : Prop where
  stopped : Stopped reader.events
  done : reader.download.done = true
  idle : reader.await = none
  front : bytes reader.events <+: object.drop reader.download.start

/-- A download with no read in flight, at the end of what it handed out. -/
structure Between (object : Bytes) (events : List DownloadEvent) (download : FileDownload ρ) :
    Prop where
  current : download.current = none
  going : download.done = false
  even : download.offset = download.start + (bytes events).length
  front : bytes events <+: object.drop download.start
  bounded : download.offset ≤ download.end_ ∨ download.start = 0 ∧ download.end_ = download.size
  unended : .returned none ∉ events

/-- An error ends a download with what it has handed out. -/
theorem halted_of_failed {events : List DownloadEvent} {download : FileDownload ρ} {e : Error}
    (done : download.done = true) (front : bytes events <+: object.drop download.start) :
    Halted object ⟨download, none, events ++ [.returned (some (.error e))]⟩ where
  stopped := Or.inr ⟨e, by simp⟩
  done := done
  idle := rfl
  front := by simpa using front

theorem Going.handed {reader : Reader ρ} (going : Going object reader) :
    bytes reader.events <+: object.drop reader.download.start :=
  (List.prefix_append _ _).trans going.front

/-- A download that waits is not over. -/
theorem Going.unfinished {reader : Reader ρ} (going : Going object reader) {await : DownloadAwait}
    (waits : reader.await = some await) : reader.download.done = false := by
  by_contra done
  have idle := (going.done (by simpa using done)).2
  rw [waits] at idle
  cases idle

theorem Going.unended {reader : Reader ρ} (going : Going object reader) {await : DownloadAwait}
    (waits : reader.await = some await) : .returned none ∉ reader.events := by
  intro ended
  have done := going.atEnd ended
  rw [going.unfinished waits] at done
  cases done

theorem Going.not_over {reader : Reader ρ} (going : Going object reader) {await : DownloadAwait}
    (waits : reader.await = some await) {download : FileDownload ρ}
    (same : download.done = reader.download.done) : download.done ≠ true := by
  intro atEnd
  rw [same, going.unfinished waits] at atEnd
  cases atEnd

/-- What follows an answer has not failed unless it is over. -/
theorem Going.goes_on {reader next : Reader ρ} (going : Going object reader)
    {await : DownloadAwait} (waits : reader.await = some await)
    (same : next.download.done = reader.download.done)
    (follows : Going object next ∨ Halted object next) : Going object next :=
  follows.resolve_right fun halted => going.not_over waits same halted.done

/-- Where a body ends, a download stands between two reads. -/
theorem Going.drained {reader : Reader ρ} (going : Going object reader)
    (waits : reader.await = some .body) (pacer : Pacer ρ) :
    Between object reader.events { reader.download with current := none, pacer } where
  current := rfl
  going := going.unfinished waits
  even := by
    have even := going.even
    unfold Even held at even
    rw [waits] at even
    simpa only [List.append_nil] using even
  front := going.handed
  bounded := going.bounded
  unended := going.unended waits

theorem Between.asks {reader : Reader ρ} {download : FileDownload ρ} {read : ActiveRead}
    (between : Between object reader.events download) (along : download.Along read) :
    Going object (reader.polled (download.asks read)) where
  even := by simpa [polled, Even, held, FileDownload.asks] using between.even
  front := by simpa [polled, held, FileDownload.asks] using between.front
  flight := fun read inFlight => by
    have none_left : download.current = some read := inFlight
    rw [between.current] at none_left
    cases none_left
  opening := fun read waits => by
    cases waits
    exact along
  yielding := fun waits => by cases waits
  bounded := between.bounded
  atEnd := fun ended => absurd (by simpa [polled, FileDownload.asks] using ended) between.unended
  done := fun atEnd => by
    have finished : download.done = true := atEnd
    rw [between.going] at finished
    cases finished

/-- The loop goes on from between two reads. -/
theorem Between.nextRead {reader : Reader ρ} {download : FileDownload ρ} {poll : DownloadPoll ρ}
    (between : Between object reader.events download)
    (taken : download.NextRead rates backend poll) : Going object (reader.polled poll) := by
  cases taken with
  | atEnd finished => exact {
      even := by simpa [polled, Even, held] using between.even
      front := by simpa [polled, held] using between.front
      flight := fun read inFlight => by
        have none_left : download.current = some read := inFlight
        rw [between.current] at none_left
        cases none_left
      opening := fun read waits => by cases waits
      yielding := fun waits => by cases waits
      bounded := between.bounded
      atEnd := fun _ => rfl
      done := fun _ => ⟨finished, rfl⟩ }
  | yields unfinished paced partially again => exact {
      even := by simpa [polled, Even, held] using between.even
      front := by simpa [polled, held] using between.front
      flight := fun read inFlight => by
        have none_left : download.current = some read := inFlight
        rw [between.current] at none_left
        cases none_left
      opening := fun read waits => by cases waits
      yielding := fun _ => unfinished
      bounded := between.bounded
      atEnd := fun ended => absurd (by simpa [polled] using ended) between.unended
      done := fun atEnd => by
        have finished : download.done = true := atEnd
        rw [between.going] at finished
        cases finished }
  | opens unfinished paced partially first =>
      exact between.asks (FileDownload.along_window rates unfinished)
  | transfers unfinished whole =>
      have even := between.even
      exact between.asks (FileDownload.along_transfer (by omega) unfinished)

/-- What a chunk that a body serves adds. -/
theorem Going.chunk_front {reader : Reader ρ} (going : Going object reader)
    (waits : reader.await = some .body) {read : ActiveRead} {chunk : Bytes}
    (inFlight : reader.download.current = some read)
    (serves : Serves object read.body read.received (some (.ok chunk))) :
    bytes reader.events ++ chunk <+: object.drop reader.download.start := by
  have place := (going.flight read inFlight).place
  have even := going.even
  unfold Even held at even
  rw [waits, List.append_nil] at even
  refine prefix_append_of_drop going.handed ?_
  rw [List.drop_drop, ← even, ← place]
  exact serves.1

section Answered

variable {reader : Reader ρ}

theorem Going.chunk (going : Going object reader) {read : ActiveRead} {chunk : Bytes} (waited : Nat)
    (waits : reader.await = some .body) (inFlight : reader.download.current = some read)
    (room : read.heldOpen = true ∨ read.received + chunk.length < read.requested)
    (serves : Serves object read.body read.received (some (.ok chunk))) :
    Going object (reader.polled (.ready { reader.download with
      current := some (read.took chunk waited)
      offset := reader.download.offset + chunk.length } (some (.ok chunk)))) where
  even := by
    have even := going.even
    unfold Even held at even
    rw [waits] at even
    simp only [List.append_nil] at even
    simp only [polled, Even, held, DownloadEvent.bytes_append, DownloadEvent.bytes_chunk,
      List.append_nil, List.length_append, even]
    omega
  front := by simpa [polled, held] using going.chunk_front waits inFlight serves
  flight := fun other same => by
    cases same
    exact (going.flight read inFlight).took _ _ _
  opening := fun read same => by cases same
  yielding := fun same => by cases same
  bounded := (going.flight read inFlight).bounded serves (room.imp_right Nat.le_of_lt)
  atEnd := fun ended => absurd (by simpa [polled] using ended) (going.unended waits)
  done := fun atEnd => absurd atEnd (going.not_over waits rfl)

/-- The chunk that fills a window is held until the body has ended. -/
theorem Going.fills (going : Going object reader) {read : ActiveRead} {chunk : Bytes} (waited : Nat)
    (waits : reader.await = some .body) (inFlight : reader.download.current = some read)
    (full : read.received + chunk.length = read.requested)
    (serves : Serves object read.body read.received (some (.ok chunk))) :
    Going object (reader.polled (.pending { reader.download with
      current := none
      offset := reader.download.offset + chunk.length }
      (.closing (read.took chunk waited) chunk) none)) where
  even := by
    have even := going.even
    unfold Even held at even
    rw [waits] at even
    simp only [List.append_nil] at even
    simp only [polled, Even, held, DownloadEvent.bytes_append, DownloadEvent.bytes_asked,
      List.append_nil, List.length_append, even]
    omega
  front := by simpa [polled, held] using going.chunk_front waits inFlight serves
  flight := fun read same => by cases same
  opening := fun read same => by cases same
  yielding := fun same => by cases same
  bounded := (going.flight read inFlight).bounded serves (Or.inr (Nat.le_of_eq full))
  atEnd := fun ended => absurd (by simpa [polled] using ended) (going.unended waits)
  done := fun atEnd => absurd atEnd (going.not_over waits rfl)

theorem Going.closed (going : Going object reader) {read : ActiveRead} {chunk : Bytes}
    (pacer : Pacer ρ) (waits : reader.await = some (.closing read chunk)) :
    Going object (reader.polled (.ready { reader.download with pacer } (some (.ok chunk)))) where
  even := by
    have even := going.even
    unfold Even held at even
    rw [waits] at even
    simpa [polled, Even, held] using even
  front := by
    have front := going.front
    unfold held at front
    rw [waits] at front
    simpa [polled, held] using front
  flight := fun read inFlight =>
    ⟨(going.flight read inFlight).place, (going.flight read inFlight).fits⟩
  opening := fun read same => by cases same
  yielding := fun same => by cases same
  bounded := going.bounded
  atEnd := fun ended => absurd (by simpa [polled] using ended) (going.unended waits)
  done := fun atEnd => absurd atEnd (going.not_over waits rfl)

theorem Going.yielded (going : Going object reader) (rates : Rates ρ)
    (waits : reader.await = some .yielding) :
    Going object (reader.polled (reader.download.asks (reader.download.window rates))) where
  even := by
    have even := going.even
    unfold Even held at even
    rw [waits] at even
    simpa [polled, Even, held, FileDownload.asks] using even
  front := by simpa [polled, held, FileDownload.asks] using going.handed
  flight := going.flight
  opening := fun read same => by
    cases same
    exact FileDownload.along_window rates (going.yielding waits)
  yielding := fun same => by cases same
  bounded := going.bounded
  atEnd := fun ended =>
    absurd (by simpa [polled, FileDownload.asks] using ended) (going.unended waits)
  done := fun atEnd => absurd atEnd (going.not_over waits rfl)

theorem Going.opened (going : Going object reader) {read : ActiveRead} (waited : Nat)
    (waits : reader.await = some (.opening read)) :
    Going object (reader.polled (.pending { reader.download with
      current := some { read with deviceTime := waited }
      started := true } .body none)) where
  even := by
    have even := going.even
    unfold Even held at even
    rw [waits] at even
    simpa [polled, Even, held] using even
  front := by simpa [polled, held] using going.handed
  flight := fun other same => by
    cases same
    exact ⟨(going.opening read waits).place, (going.opening read waits).fits⟩
  opening := fun read same => by cases same
  yielding := fun same => by cases same
  bounded := going.bounded
  atEnd := fun ended => absurd (by simpa [polled] using ended) (going.unended waits)
  done := fun atEnd => absurd atEnd (going.not_over waits rfl)

/-- An answer leaves a download going, or halts it. -/
theorem Going.resumed (going : Going object reader) {await : DownloadAwait}
    {answer : DownloadAnswer} {poll : DownloadPoll ρ} (waits : reader.await = some await)
    (served : reader.Served object (.answer answer))
    (resumed : reader.download.Resumed rates backend await answer poll) :
    Going object (reader.polled poll) ∨ Halted object (reader.polled poll) := by
  cases resumed with
  | chunk inFlight room =>
      simp only [Served, waits, inFlight] at served
      exact Or.inl (going.chunk _ waits inFlight room served)
  | fills inFlight window full =>
      simp only [Served, waits, inFlight] at served
      exact Or.inl (going.fills _ waits inFlight full served)
  | overfills inFlight window long => exact Or.inr (halted_of_failed rfl going.handed)
  | fails inFlight => exact Or.inr (halted_of_failed rfl going.handed)
  | stalls inFlight nothing unfinished => exact Or.inr (halted_of_failed rfl going.handed)
  | ends inFlight delivered pacing next => exact Or.inl ((going.drained waits _).nextRead next)
  | closed pacing => exact Or.inl (going.closed _ waits)
  | closesBadly => exact Or.inr (halted_of_failed rfl going.handed)
  | yielded => exact Or.inl (going.yielded rates waits)
  | opened => exact Or.inl (going.opened _ waits)
  | refused => exact Or.inr (halted_of_failed rfl going.handed)

end Answered

/-- Between two reads, a download that goes on stands at the end of what it handed out. -/
theorem Going.between {reader : Reader ρ} (going : Going object reader) (idle : reader.await = none)
    (unfinished : reader.download.done = false) (between : reader.download.current = none) :
    Between object reader.events reader.download where
  current := between
  going := unfinished
  even := by
    have even := going.even
    unfold Even held at even
    simpa only [idle, List.append_nil] using even
  front := going.handed
  bounded := going.bounded
  unended := fun ended => by
    have done := going.atEnd ended
    rw [unfinished] at done
    cases done

theorem Going.called {reader : Reader ρ} (going : Going object reader) (idle : reader.await = none)
    {poll : DownloadPoll ρ} (called : reader.download.Called rates backend poll) :
    Going object (reader.polled poll) := by
  have even := going.even
  unfold Even held at even
  rw [idle, List.append_nil] at even
  cases called with
  | finished atEnd => exact {
      even := by simpa [polled, Even, held] using even
      front := by simpa [polled, held] using going.handed
      flight := going.flight
      opening := fun read same => by cases same
      yielding := fun same => by cases same
      bounded := going.bounded
      atEnd := fun _ => atEnd
      done := fun _ => ⟨(going.done atEnd).1, rfl⟩ }
  | reads unfinished inFlight => exact {
      even := by simpa [polled, Even, held] using even
      front := by simpa [polled, held] using going.handed
      flight := going.flight
      opening := fun read same => by cases same
      yielding := fun same => by cases same
      bounded := going.bounded
      atEnd := fun ended => going.atEnd (by simpa [polled] using ended)
      done := fun atEnd => by
        have finished : reader.download.done = true := atEnd
        rw [unfinished] at finished
        cases finished }
  | next unfinished between next =>
      exact (going.between idle unfinished between).nextRead next

/-- A download that halted stays so, with the chunks it had. -/
theorem Halted.step {reader next : Reader ρ} (halted : Halted object reader)
    {action : DownloadAction} (stepped : reader.Stepped rates backend action next) :
    Halted object next := by
  have later : ∀ more, Stopped (reader.events ++ more) := fun more =>
    halted.stopped.imp (List.mem_append_left more)
      fun ⟨e, failed⟩ => ⟨e, List.mem_append_left more failed⟩
  cases stepped with
  | called idle called =>
      cases called with
      | finished atEnd =>
          exact ⟨later _, halted.done, rfl, by simpa [polled] using halted.front⟩
      | reads unfinished inFlight =>
          rw [halted.done] at unfinished
          cases unfinished
      | next unfinished between next =>
          rw [halted.done] at unfinished
          cases unfinished
  | answered waits resumed =>
      rw [halted.idle] at waits
      cases waits
  | dropped waits =>
      rw [halted.idle] at waits
      cases waits
  | cancelled idle =>
      exact ⟨later _, rfl, rfl, by simpa [FileDownload.cancel] using halted.front⟩

/-- Every step with an honest device, but for losing the chunk of a full window,
keeps the chunks consecutive. -/
theorem Going.step {reader next : Reader ρ} (going : Going object reader) {action : DownloadAction}
    (honest : reader.Honest object action) (stepped : reader.Stepped rates backend action next) :
    Going object next ∨ Halted object next := by
  cases stepped with
  | called idle called => exact Or.inl (going.called idle called)
  | answered waits resumed => exact going.resumed waits honest.1 resumed
  | @dropped await waits =>
      have emptied : reader.held = [] := by
        unfold held
        rw [waits]
        cases await with
        | closing read chunk => exact absurd waits (honest.2 rfl read chunk)
        | body => rfl
        | yielding => rfl
        | opening read => rfl
      have even := going.even
      have front := going.front
      unfold Even at even
      rw [emptied] at even front
      exact Or.inl {
        even := even
        front := front
        flight := going.flight
        opening := fun read same => by cases same
        yielding := fun same => by cases same
        bounded := going.bounded
        atEnd := going.atEnd
        done := fun atEnd => ⟨(going.done atEnd).1, rfl⟩ }
  | cancelled idle =>
      exact Or.inr ⟨Or.inl (by simp), rfl, rfl, by simpa [FileDownload.cancel] using going.handed⟩

theorem Going.stays_done {reader next : Reader ρ} (going : Going object reader)
    (atEnd : reader.download.done = true) {action : DownloadAction}
    (stepped : reader.Stepped rates backend action next) : next.download.done = true := by
  have idle := (going.done atEnd).2
  cases stepped with
  | called idle called =>
      cases called with
      | finished atEnd => exact atEnd
      | reads unfinished inFlight =>
          rw [atEnd] at unfinished
          cases unfinished
      | next unfinished between next =>
          rw [atEnd] at unfinished
          cases unfinished
  | answered waits resumed =>
      rw [idle] at waits
      cases waits
  | dropped waits =>
      rw [idle] at waits
      cases waits
  | cancelled idle => rfl

/-- What a download was asked for does not change. -/
theorem Stepped.bounds {reader next : Reader ρ} {action : DownloadAction}
    (stepped : reader.Stepped rates backend action next) :
    next.download.bounds = reader.download.bounds := by
  have loop : ∀ {download : FileDownload ρ} {poll : DownloadPoll ρ},
      download.NextRead rates backend poll →
      (reader.polled poll).download.bounds = download.bounds := by
    intro download poll taken
    cases taken <;> rfl
  cases stepped with
  | called idle called =>
      cases called with
      | finished atEnd => rfl
      | reads unfinished inFlight => rfl
      | next unfinished between next => exact loop next
  | answered waits resumed =>
      cases resumed with
      | ends inFlight delivered pacing next => exact (loop next).trans rfl
      | _ => rfl
  | dropped waits => rfl
  | cancelled idle => rfl

end Reader

def ByteRange.of (object : Bytes) : ByteRange → Bytes
  | .full => object
  | .from_ offset => object.drop offset
  | .range offset len => (object.drop offset).take len

section Started

variable {ρ : Type} {backend : Backend} {handle : UInt32} {size : Nat} {range : ByteRange}
  {pacing : DownloadPacing} {download : FileDownload ρ}

theorem started_bounds
    (started : FileDownload.Started backend handle size range pacing download) :
    download.bounds = (handle, size, range.offset, range.end_ size) := by
  cases started <;> rfl

/-- What a download was asked for, while it is in use. -/
theorem bounds_of_started
    (started : FileDownload.Started backend handle size range pacing download)
    {reader : Reader ρ} (same : reader.download.bounds = download.bounds) :
    reader.download.handle = handle ∧ reader.download.size = size ∧
      reader.download.start = range.offset ∧ reader.download.end_ = range.end_ size := by
  rw [started_bounds started] at same
  simpa only [FileDownload.bounds, Prod.mk.injEq] using same

theorem ByteRange.offset_le_end (fits : size ≤ u64Max) (inside : range.offset ≤ size) :
    range.offset ≤ range.end_ size := by
  cases range with
  | full => exact Nat.zero_le size
  | from_ offset => exact inside
  | range offset len =>
      simp only [ByteRange.offset, ByteRange.end_] at inside ⊢
      omega

/-- What stands between the ends of a range. -/
theorem ByteRange.of_eq {object : Bytes} (fits : size ≤ u64Max) (whole : object.length = size) :
    (object.drop range.offset).take (range.end_ size - range.offset) = range.of object := by
  cases range with
  | full =>
      simp only [ByteRange.offset, ByteRange.end_, ByteRange.of, List.drop_zero, ← whole,
        Nat.sub_zero, List.take_length]
  | from_ offset =>
      simp only [ByteRange.offset, ByteRange.end_, ByteRange.of]
      exact List.take_of_length_le (by rw [List.length_drop]; omega)
  | range offset len =>
      simp only [ByteRange.offset, ByteRange.end_, ByteRange.of]
      rw [List.take_eq_take_iff, List.length_drop]
      omega

theorem Reader.Going.handed_range {object : Bytes} {reader : Reader ρ} (going : reader.Going object)
    (whole : object.length = size) (fits : size ≤ u64Max)
    (begins : reader.download.start = range.offset)
    (ends : reader.download.end_ = range.end_ size) (sizes : reader.download.size = size)
    (atEnd : reader.download.done = true) : bytes reader.events = range.of object := by
  obtain ⟨finished, idle⟩ := going.done atEnd
  have even := going.even
  have front := going.handed
  have bounded := going.bounded
  unfold Reader.Even Reader.held at even
  simp only [idle, List.append_nil] at even
  have inside := front.length_le
  rw [List.length_drop] at inside
  have length : (bytes reader.events).length = range.end_ size - range.offset := by omega
  rw [begins] at front
  rw [List.prefix_iff_eq_take.mp front, length, ByteRange.of_eq fits whole]

/-- A download that `start` returns goes on. -/
theorem going_initial (object : Bytes) (fits : size ≤ u64Max)
    (started : FileDownload.Started backend handle size range pacing download) :
    Reader.Going object (.initial download) := by
  have quiet : bytes (Reader.initial download).events = [] := DownloadEvent.bytes_asked _
  have unended : .returned none ∉ (Reader.initial download).events := by
    simp [Reader.initial]
  have flight : ∀ read, download.current = some read → download.Along read := by
    intro read inFlight
    cases started with
    | transfers inside waited starts =>
        cases inFlight
        simp only [FileDownload.startsTransfer, Bool.and_eq_true, decide_eq_true_eq] at starts
        have along : (FileDownload.prepare backend handle size range pacing :
            FileDownload ρ).Along (FileDownload.transfer _) :=
          FileDownload.along_transfer (Nat.le_refl _) starts.2
        exact ⟨along.place, along.fits⟩
    | waits inside starts => cases inFlight
  have unfinished : download.done = false := by cases started <;> rfl
  have begins : download.offset = download.start ∧ download.start ≤ download.end_ := by
    cases started with
    | transfers inside waited starts => exact ⟨rfl, ByteRange.offset_le_end fits inside⟩
    | waits inside starts => exact ⟨rfl, ByteRange.offset_le_end fits inside⟩
  exact {
    even := by
      rw [Reader.Even, quiet]
      exact begins.1
    front := by
      rw [quiet]
      exact List.nil_prefix
    flight := flight
    opening := fun read waits => by cases waits
    yielding := fun waits => by cases waits
    bounded := Or.inl (by rw [Reader.initial, begins.1]; exact begins.2)
    atEnd := fun ended => absurd ended unended
    done := fun atEnd => by
      have finished : download.done = true := atEnd
      rw [unfinished] at finished
      cases finished }

/-- What holds of a download in use. -/
structure Following (object : Bytes) (download : FileDownload ρ) (reader : Reader ρ) : Prop where
  bounds : reader.download.bounds = download.bounds
  follows : reader.Going object ∨ reader.Halted object

theorem Following.step {object : Bytes} {rates : Rates ρ} {reader next : Reader ρ}
    (before : Following object download reader) {action : DownloadAction}
    (honest : reader.Honest object action) (stepped : reader.Stepped rates backend action next) :
    Following object download next where
  bounds := stepped.bounds.trans before.bounds
  follows := before.follows.elim (fun going => going.step honest stepped)
    (fun halted => Or.inr (halted.step stepped))

variable (rates : Rates ρ)

theorem following_of_run {object : Bytes} (fits : size ≤ u64Max)
    (started : FileDownload.Started backend handle size range pacing download)
    {actions : List DownloadAction} {reader : Reader ρ}
    (run : Runs.Run (Runs.Restricted (Reader.Honest object) (Reader.Steps rates backend))
      (.initial download) actions reader) : Following object download reader := by
  exact run.invariant (Following object download)
    (fun _ _ _ before taken => before.step taken.1 (Reader.stepped_of_steps taken.2))
    ⟨rfl, Or.inl (going_initial object fits started)⟩

/-- While no call is dropped that closes a full window, the chunks are the
object's bytes in order, and a download that ends has handed out its whole range. -/
theorem chunks_consecutive {object : Bytes} (whole : object.length = size) (fits : size ≤ u64Max)
    {transfer : Except Error Unit} {waited : Nat} (started : FileDownload.startDownload backend
      handle size range pacing transfer waited = .ok download)
    {actions : List DownloadAction} {reader : Reader ρ}
    (run : Runs.Run (Runs.Restricted (Reader.Honest object) (Reader.Steps rates backend))
      (.initial download) actions reader) :
    bytes reader.events <+: object.drop range.offset ∧
      (.returned none ∈ reader.events → ¬ Stopped reader.events →
        bytes reader.events = range.of object) := by
  have started := FileDownload.started_of_startDownload backend started
  obtain ⟨same, follows⟩ := following_of_run rates fits started run
  obtain ⟨_, sizes, begins, ends⟩ := bounds_of_started started same
  rcases follows with going | halted
  · exact ⟨begins ▸ going.handed, fun ended _ =>
      going.handed_range whole fits begins ends sizes (going.atEnd ended)⟩
  · exact ⟨begins ▸ halted.front, fun _ going => absurd halted.stopped going⟩

end Started

theorem twoWindows_started : FileDownload.startDownload partialBackend 7 2 .full (.fixedWindow 1)
    (.ok ()) 0 = .ok (FileDownload.prepare partialBackend 7 2 .full (.fixedWindow 1) :
      FileDownload Unit) := rfl

theorem chunks_consecutive_two_windows : ∃ reader : Reader Unit,
    bytes reader.events = [1, 2] ∧ bytes reader.events <+: [1, 2] := by
  have run : Runs.Run (Runs.Restricted (Reader.Honest [1, 2]) (Reader.Steps noRates partialBackend))
      (.initial (FileDownload.prepare partialBackend 7 2 .full (.fixedWindow 1)))
      [.call, .answer (.opened (.ok ()) 1), .answer (.item (some (.ok [1])) 1),
        .answer (.item none 1), .call, .answer .yielded, .answer (.opened (.ok ()) 1),
        .answer (.item (some (.ok [2])) 1), .answer (.item none 1)] _ :=
    .cons ⟨⟨trivial, nofun⟩, rfl⟩ <| .cons ⟨⟨trivial, nofun⟩, rfl⟩ <|
    .cons ⟨⟨⟨⟨[2], rfl⟩, trivial⟩, nofun⟩, rfl⟩ <| .cons ⟨⟨trivial, nofun⟩, rfl⟩ <|
    .cons ⟨⟨trivial, nofun⟩, rfl⟩ <| .cons ⟨⟨trivial, nofun⟩, rfl⟩ <|
    .cons ⟨⟨trivial, nofun⟩, rfl⟩ <| .cons ⟨⟨⟨⟨[], rfl⟩, trivial⟩, nofun⟩, rfl⟩ <|
    .cons ⟨⟨trivial, nofun⟩, rfl⟩ <| .nil _
  exact ⟨_, rfl, (chunks_consecutive noRates rfl (by decide) twoWindows_started run).1⟩

/-- The call that closes the first window is dropped, and the next one goes on
behind the byte it held. -/
theorem chunk_lost : ¬ ∀ (actions : List DownloadAction) (reader : Reader Unit),
    Runs.Run (Runs.Restricted (Reader.Served [1, 2]) (Reader.Steps noRates partialBackend))
      (.initial (FileDownload.prepare partialBackend 7 2 .full (.fixedWindow 1))) actions reader →
    bytes reader.events <+: [1, 2] := by
  intro consecutive
  have run : Runs.Run (Runs.Restricted (Reader.Served [1, 2]) (Reader.Steps noRates partialBackend))
      (.initial (FileDownload.prepare partialBackend 7 2 .full (.fixedWindow 1)))
      [.call, .answer (.opened (.ok ()) 1), .answer (.item (some (.ok [1])) 1), .drop,
        .call, .answer .yielded, .answer (.opened (.ok ()) 1),
        .answer (.item (some (.ok [2])) 1), .answer (.item none 1)] _ :=
    .cons ⟨trivial, rfl⟩ <| .cons ⟨trivial, rfl⟩ <| .cons ⟨⟨⟨[2], rfl⟩, trivial⟩, rfl⟩ <|
    .cons ⟨trivial, rfl⟩ <| .cons ⟨trivial, rfl⟩ <| .cons ⟨trivial, rfl⟩ <|
    .cons ⟨trivial, rfl⟩ <| .cons ⟨⟨⟨[], rfl⟩, trivial⟩, rfl⟩ <| .cons ⟨trivial, rfl⟩ <| .nil _
  exact absurd (consecutive _ _ run) (by decide)

end Mtp
