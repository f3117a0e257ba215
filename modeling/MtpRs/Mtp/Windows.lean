import MtpRs.Mtp.Consecutive

set_option autoImplicit false

/- A download in windows: how they tile its range, and that it ends. -/
namespace Mtp

open Ptp (Bytes)

open DownloadEvent (bytes Stopped)

/-- A window asks for at least one byte. -/
theorem Pacer.one_le_want {ρ : Type} (rates : Rates ρ) {self : Pacer ρ} (remaining : Nat)
    (paced : self.heldOpen = false) : 1 ≤ self.want rates remaining := by
  unfold Pacer.want
  unfold Pacer.heldOpen at paced
  split
  · exact Nat.le_max_right _ _
  · split
    · decide
    · exact Nat.le_trans (by decide) (Nat.le_max_right _ _)
  · rename_i held
    rw [held] at paced
    cases paced

/-- The requests of a download tile its range: each is a window that starts where
the bytes handed out before it end. -/
inductive Tiled (handle : UInt32) (start end_ : Nat) : List DownloadEvent → Prop where
  | nil : Tiled handle start end_ []
  | asked {events : List DownloadEvent} {len : UInt32} (before : Tiled handle start end_ events)
      (least : 1 ≤ len.toNat) (inside : len.toNat ≤ min (end_ - (start + (bytes events).length))
        u32Max) :
      Tiled handle start end_
        (events ++ [.asked (.window handle (start + (bytes events).length) len)])
  | returned {events : List DownloadEvent} (before : Tiled handle start end_ events)
      (item : BodyItem) : Tiled handle start end_ (events ++ [.returned item])

theorem Tiled.window {ρ : Type} (rates : Rates ρ) {download : FileDownload ρ}
    {events : List DownloadEvent}
    (tiled : Tiled download.handle download.start download.end_ events)
    (paced : download.pacer.heldOpen = false) (unfinished : download.offset < download.end_)
    (even : download.offset = download.start + (bytes events).length) :
    Tiled download.handle download.start download.end_
      (events ++ [.asked (download.window rates).body]) := by
  have size := download.pacer.nextWindow_toNat rates (download.end_ - download.offset)
  have want := download.pacer.one_le_want rates (download.end_ - download.offset) paced
  have room : 1 ≤ u32Max := by decide
  simp only [FileDownload.window]
  rw [even] at size want unfinished ⊢
  exact tiled.asked (by omega) (by omega)

namespace Reader

variable {ρ : Type} {rates : Rates ρ} {backend : Backend} {object : Bytes}

/-- A device that answers each window with a prefix of the bytes it asks for, cut
into chunks that are not empty, to a caller that waits for every answer. -/
def Windowed (object : Bytes) (self : Reader ρ) : DownloadAction → Prop
  | .call => True
  | .answer answer =>
      match self.await, self.download.current, answer with
      | some .body, some read, .item (some (.ok chunk)) _ =>
          chunk ≠ [] ∧ chunk <+: object.drop (read.body.offset + read.received) ∧
            read.received + chunk.length ≤ read.requested
      | some .body, some _, .item none _ => True
      | some (.closing _ _), _, .item none _ => True
      | some .yielding, _, .yielded => True
      | some (.opening _), _, .opened (.ok ()) _ => True
      | _, _, _ => False
  | .drop => False
  | .cancel => False

/-- A window ends without a byte. -/
def Empties (self : Reader ρ) (action : DownloadAction) : Prop :=
  self.await = some .body ∧ (∃ read, self.download.current = some read ∧ read.received = 0) ∧
    ∃ waited, action = .answer (.item none waited)

/-- A read that is a window, of at least one byte. -/
structure WindowRead (start end_ : Nat) (read : ActiveRead) : Prop where
  windowed : read.heldOpen = false
  body : ∃ handle offset len, read.body = .window handle offset len
  least : 1 ≤ read.requested
  begins : start ≤ read.body.offset
  inside : read.body.offset + read.requested ≤ end_

/-- A download in windows that goes on. -/
structure Windowing (backend : Backend) (reader : Reader ρ) : Prop where
  paced : reader.download.pacer.heldOpen = false
  partially : ∀ offset, reader.download.start ≤ offset → offset < reader.download.end_ →
    backend.canReadPartiallyAt offset = true
  flight : ∀ read, reader.download.current = some read →
    WindowRead reader.download.start reader.download.end_ read
  opening : ∀ read, reader.await = some (.opening read) →
    WindowRead reader.download.start reader.download.end_ read ∧ read.received = 0
  between : ∀ await, reader.await = some await → await ≠ .body → reader.download.current = none
  flying : reader.await = some .body → ∃ read, reader.download.current = some read

theorem Windowed.honest {reader : Reader ρ} (windowing : reader.Windowing backend)
    {action : DownloadAction} (windowed : reader.Windowed object action) :
    reader.Honest object action := by
  constructor
  · unfold Served
    split
    · rename_i read item waited waits inFlight
      unfold Windowed at windowed
      simp only [waits, inFlight] at windowed
      rcases item with _ | e | chunk
      · trivial
      · trivial
      · obtain ⟨handle, offset, len, body⟩ := (windowing.flight read inFlight).body
        refine ⟨windowed.2.1, ?_⟩
        rw [body]
        trivial
    · trivial
  · intro drop
    rw [drop] at windowed
    exact absurd windowed id

/-- A window that `start_next_read` asks for. -/
theorem windowRead_window (rates : Rates ρ) {download : FileDownload ρ} {start : Nat}
    (paced : download.pacer.heldOpen = false) (unfinished : download.offset < download.end_)
    (begins : start ≤ download.offset) :
    WindowRead start download.end_ (download.window rates) := by
  have size := download.pacer.nextWindow_toNat rates (download.end_ - download.offset)
  have want := download.pacer.one_le_want rates (download.end_ - download.offset) paced
  have room : 1 ≤ u32Max := by decide
  refine ⟨rfl, ⟨_, _, _, rfl⟩, ?_, begins, ?_⟩
  · change 1 ≤ (download.pacer.nextWindow rates (download.end_ - download.offset)).toNat
    omega
  · change download.offset +
      (download.pacer.nextWindow rates (download.end_ - download.offset)).toNat ≤ download.end_
    omega

/-- What a download in windows has done so far: each byte takes at most a call, a
yield, the start of a window, a chunk and the end of its window. -/
def progress (self : Reader ρ) : Nat :=
  5 * (self.download.offset - self.download.start) +
    match self.await, self.download.current with
    | none, none => 1
    | none, some _ => 0
    | some .body, some read => if read.received = 0 then 4 else 1
    | some .body, none => 0
    | some .yielding, _ => 2
    | some (.opening _), _ => 3
    | some (.closing _ _), _ => 0

/-- A download in windows that has not failed. -/
structure InWindows (backend : Backend) (object : Bytes) (reader : Reader ρ) : Prop where
  going : reader.Going object
  windowing : reader.Windowing backend
  tiled : Tiled reader.download.handle reader.download.start reader.download.end_ reader.events

/-- What a step does that is no failure: it ends the download or gets on. -/
structure GetsOn (backend : Backend) (object : Bytes) (reader next : Reader ρ) : Prop where
  inWindows : InWindows backend object next
  rises : next.download.done = true ∨ reader.progress < next.progress
  quiet : ∀ e, next.events ≠ reader.events ++ [.returned (some (.error e))]

/-- What an empty window does. -/
structure Fails (object : Bytes) (reader next : Reader ρ) : Prop where
  halted : next.Halted object
  failed : ∃ e, next.events = reader.events ++ [.returned (some (.error e))]

/-- The loop of a download in windows, with no read in flight, gets on. -/
theorem getsOn_nextRead {reader : Reader ρ} {download : FileDownload ρ} {poll : DownloadPoll ρ}
    (between : Between object reader.events download)
    (taken : download.NextRead rates backend poll) (paced : download.pacer.heldOpen = false)
    (partially : ∀ offset, download.start ≤ offset → offset < download.end_ →
      backend.canReadPartiallyAt offset = true)
    (tiled : Tiled download.handle download.start download.end_ reader.events)
    (below : reader.progress ≤ 5 * (download.offset - download.start) + 1) :
    GetsOn backend object reader (reader.polled poll) := by
  have going := between.nextRead taken
  have current := between.current
  have begins : download.start ≤ download.offset := by
    have even := between.even
    omega
  have flight : ∀ read, download.current = some read →
      WindowRead download.start download.end_ read := fun read inFlight => by
    rw [current] at inFlight
    cases inFlight
  cases taken with
  | atEnd finished => exact {
      inWindows := ⟨going, {
        paced := paced
        partially := partially
        flight := flight
        opening := fun read waits => by cases waits
        between := fun await waits => by cases waits
        flying := fun waits => by cases waits }, tiled.returned none⟩
      rises := Or.inl rfl
      quiet := fun e same => by simp [polled] at same }
  | yields unfinished paced' partially' again => exact {
      inWindows := ⟨going, {
        paced := paced
        partially := partially
        flight := flight
        opening := fun read waits => by cases waits
        between := fun _ _ _ => current
        flying := fun waits => by cases waits }, by simpa [polled] using tiled⟩
      rises := Or.inr (Nat.lt_succ_of_le below)
      quiet := fun e same => by simp [polled] at same }
  | opens unfinished paced' partially' first => exact {
      inWindows := ⟨going, {
        paced := paced
        partially := partially
        flight := flight
        opening := fun read waits => by
          cases waits
          exact ⟨windowRead_window rates paced unfinished begins, rfl⟩
        between := fun _ _ _ => current
        flying := fun waits => by cases waits }, tiled.window rates paced unfinished between.even⟩
      rises := Or.inr (Nat.lt_succ_of_le (Nat.le_succ_of_le below))
      quiet := fun e same => by simp [polled, FileDownload.asks] at same }
  | transfers unfinished whole =>
      have windowed := partially _ begins unfinished
      rw [paced, windowed] at whole
      rcases whole with held | narrow
      · cases held
      · cases narrow

theorem InWindows.called {reader : Reader ρ} (inWindows : InWindows backend object reader)
    (idle : reader.await = none) {poll : DownloadPoll ρ}
    (called : reader.download.Called rates backend poll) :
    GetsOn backend object reader (reader.polled poll) := by
  have going := inWindows.going.called idle called
  obtain ⟨before, windowing, tiled⟩ := inWindows
  cases called with
  | finished atEnd => exact {
      inWindows := ⟨going, { windowing with
        opening := fun read waits => by cases waits
        between := fun await waits => by cases waits
        flying := fun waits => by cases waits }, tiled.returned none⟩
      rises := Or.inl atEnd
      quiet := fun e same => by simp [polled] at same }
  | @reads read unfinished inFlight => exact {
      inWindows := ⟨going, { windowing with
        opening := fun read waits => by cases waits
        between := fun await waits other => by
          cases waits
          exact absurd rfl other
        flying := fun _ => ⟨read, inFlight⟩ }, by simpa [polled] using tiled⟩
      rises := Or.inr (by
        simp only [progress, polled, idle, inFlight]
        split <;> omega)
      quiet := fun e same => by simp [polled] at same }
  | next unfinished between next =>
      refine getsOn_nextRead (before.between idle unfinished between) next windowing.paced
        windowing.partially tiled ?_
      simp only [progress, idle, between]
      omega

/-- A window in flight has bytes to come. -/
theorem InWindows.unfilled {reader : Reader ρ} (inWindows : InWindows backend object reader)
    {read : ActiveRead} (inFlight : reader.download.current = some read)
    (nothing : read.received = 0) : reader.download.offset < reader.download.end_ := by
  have place := (inWindows.going.flight read inFlight).place
  have window := inWindows.windowing.flight read inFlight
  have least := window.least
  have inside := window.inside
  omega

section Answered

variable {reader : Reader ρ}

/-- A chunk of a window that leaves room for more. -/
theorem InWindows.chunk (inWindows : InWindows backend object reader)
    {read : ActiveRead} {chunk : Bytes} {waited : Nat} {next : Reader ρ}
    (waits : reader.await = some .body) (inFlight : reader.download.current = some read)
    (some_ : chunk ≠ [])
    (taken : next = reader.polled (.ready { reader.download with
      current := some (read.took chunk waited)
      offset := reader.download.offset + chunk.length } (some (.ok chunk))))
    (follows : next.Going object ∨ next.Halted object) : GetsOn backend object reader next := by
  subst taken
  have window := inWindows.windowing.flight read inFlight
  have even := inWindows.going.even
  have positive := List.length_pos_of_ne_nil some_
  unfold Even at even
  exact {
    inWindows := ⟨inWindows.going.goes_on waits rfl follows, { inWindows.windowing with
      flight := fun other same => by
        cases same
        exact ⟨window.windowed, window.body, window.least, window.begins, window.inside⟩
      opening := fun read waits => by cases waits
      between := fun await waits => by cases waits
      flying := fun waits => by cases waits }, inWindows.tiled.returned _⟩
    rises := Or.inr (by
      simp only [progress, polled, waits, inFlight]
      split <;> omega)
    quiet := fun e same => by simp [polled] at same }

theorem InWindows.fills (inWindows : InWindows backend object reader)
    {read read' : ActiveRead} {chunk : Bytes} {next : Reader ρ}
    (waits : reader.await = some .body) (inFlight : reader.download.current = some read)
    (some_ : chunk ≠ [])
    (taken : next = reader.polled (.pending { reader.download with
      current := none
      offset := reader.download.offset + chunk.length } (.closing read' chunk) none))
    (follows : next.Going object ∨ next.Halted object) : GetsOn backend object reader next := by
  subst taken
  have even := inWindows.going.even
  have positive := List.length_pos_of_ne_nil some_
  unfold Even at even
  exact {
    inWindows := ⟨inWindows.going.goes_on waits rfl follows, { inWindows.windowing with
      flight := fun other same => by cases same
      opening := fun read waits => by cases waits
      between := fun _ _ _ => rfl
      flying := fun waits => by cases waits }, by simpa [polled] using inWindows.tiled⟩
    rises := Or.inr (by
      simp only [progress, polled, waits, inFlight]
      split <;> omega)
    quiet := fun e same => by simp [polled] at same }

theorem InWindows.ends (inWindows : InWindows backend object reader)
    {read : ActiveRead} {pacer : Pacer ρ} {poll : DownloadPoll ρ}
    (waits : reader.await = some .body) (inFlight : reader.download.current = some read)
    (received : read.received ≠ 0) (pacing : pacer.pacing = reader.download.pacer.pacing)
    (next : FileDownload.NextRead rates backend
      { reader.download with current := none, pacer } poll) :
    GetsOn backend object reader (reader.polled poll) := by
  obtain ⟨before, windowing, tiled⟩ := inWindows
  have even := before.even
  unfold Even at even
  refine getsOn_nextRead (before.drained waits pacer) next ?_ windowing.partially tiled ?_
  · have paced := windowing.paced
    simp only [Pacer.heldOpen, pacing] at paced ⊢
    exact paced
  · simp only [progress, waits, inFlight, received, ↓reduceIte]
    omega

theorem InWindows.closed (inWindows : InWindows backend object reader)
    {read : ActiveRead} {chunk : Bytes} {pacer : Pacer ρ} {next : Reader ρ}
    (waits : reader.await = some (.closing read chunk))
    (pacing : pacer.pacing = reader.download.pacer.pacing)
    (taken : next = reader.polled (.ready { reader.download with pacer } (some (.ok chunk))))
    (follows : next.Going object ∨ next.Halted object) : GetsOn backend object reader next := by
  subst taken
  have current := inWindows.windowing.between _ waits (by simp)
  exact {
    inWindows := ⟨inWindows.going.goes_on waits rfl follows, { inWindows.windowing with
      paced := by
        have paced := inWindows.windowing.paced
        simp only [Pacer.heldOpen, polled, pacing] at paced ⊢
        exact paced
      opening := fun read waits => by cases waits
      between := fun await waits => by cases waits
      flying := fun waits => by cases waits }, inWindows.tiled.returned _⟩
    rises := Or.inr (by
      simp only [progress, polled, waits, current]
      omega)
    quiet := fun e same => by simp [polled] at same }

/-- A download that has yielded asks for the next window. -/
theorem InWindows.yielded (inWindows : InWindows backend object reader)
    {next : Reader ρ} (waits : reader.await = some .yielding)
    (taken : next = reader.polled (reader.download.asks (reader.download.window rates)))
    (follows : next.Going object ∨ next.Halted object) : GetsOn backend object reader next := by
  subst taken
  have unended := inWindows.going.yielding waits
  have current := inWindows.windowing.between _ waits (by simp)
  have even := inWindows.going.even
  unfold Even at even
  have idle : reader.held = [] := by
    unfold held
    rw [waits]
  rw [idle, List.append_nil] at even
  have begins : reader.download.start ≤ reader.download.offset := by omega
  exact {
    inWindows := ⟨inWindows.going.goes_on waits rfl follows, { inWindows.windowing with
      opening := fun read waits => by
        cases waits
        exact ⟨windowRead_window rates inWindows.windowing.paced unended begins, rfl⟩
      between := fun _ _ _ => current
      flying := fun waits => by cases waits },
      inWindows.tiled.window rates inWindows.windowing.paced unended even⟩
    rises := Or.inr (by
      simp only [progress, polled, FileDownload.asks, waits]
      omega)
    quiet := fun e same => by simp [polled, FileDownload.asks] at same }

/-- The device takes the request of a window. -/
theorem InWindows.opened (inWindows : InWindows backend object reader)
    {read : ActiveRead} {waited : Nat} {next : Reader ρ}
    (waits : reader.await = some (.opening read))
    (taken : next = reader.polled (.pending { reader.download with
      current := some { read with deviceTime := waited }
      started := true } .body none))
    (follows : next.Going object ∨ next.Halted object) : GetsOn backend object reader next := by
  subst taken
  obtain ⟨window, nothing⟩ := inWindows.windowing.opening read waits
  exact {
    inWindows := ⟨inWindows.going.goes_on waits rfl follows, { inWindows.windowing with
      flight := fun other same => by
        cases same
        exact ⟨window.windowed, window.body, window.least, window.begins, window.inside⟩
      opening := fun read waits => by cases waits
      between := fun await waits other => by
        cases waits
        exact absurd rfl other
      flying := fun _ => ⟨_, rfl⟩ }, by simpa [polled] using inWindows.tiled⟩
    rises := Or.inr (by
      simp only [progress, polled, waits, nothing, ↓reduceIte]
      omega)
    quiet := fun e same => by simp [polled] at same }

theorem InWindows.answered (inWindows : InWindows backend object reader)
    {await : DownloadAwait} {answer : DownloadAnswer} {poll : DownloadPoll ρ}
    (waits : reader.await = some await) (windowed : reader.Windowed object (.answer answer))
    (resumed : reader.download.Resumed rates backend await answer poll) :
    (¬ reader.Empties (.answer answer) ∧ GetsOn backend object reader (reader.polled poll)) ∨
      (reader.Empties (.answer answer) ∧ Fails object reader (reader.polled poll)) := by
  have served := (windowed.honest inWindows.windowing).1
  have after := inWindows.going.resumed waits served resumed
  -- only a read that ends can be empty
  have filled : (∀ waited, answer ≠ .item none waited) →
      GetsOn backend object reader (reader.polled poll) →
      (¬ reader.Empties (.answer answer) ∧ GetsOn backend object reader (reader.polled poll)) ∨
        (reader.Empties (.answer answer) ∧ Fails object reader (reader.polled poll)) := by
    intro other gets_on
    refine Or.inl ⟨fun empties => ?_, gets_on⟩
    obtain ⟨_, _, waited, same⟩ := empties
    exact other waited (DownloadAction.answer.inj same)
  cases resumed with
  | chunk inFlight room =>
      simp only [Windowed, waits, inFlight] at windowed
      exact filled nofun (inWindows.chunk waits inFlight windowed.1 rfl after)
  | fills inFlight unheld full =>
      simp only [Windowed, waits, inFlight] at windowed
      exact filled nofun (inWindows.fills waits inFlight windowed.1 rfl after)
  | overfills inFlight unheld long =>
      simp only [Windowed, waits, inFlight] at windowed
      omega
  | fails inFlight => simp only [Windowed, waits, inFlight] at windowed
  | @stalls read e waited inFlight nothing unended =>
      exact Or.inr ⟨⟨waits, ⟨read, inFlight, nothing⟩, waited, rfl⟩,
        halted_of_failed rfl inWindows.going.handed, e, rfl⟩
  | @ends read waited pacer poll inFlight delivered pacing next =>
      have received : read.received ≠ 0 := fun nothing => by
        have unfilled := inWindows.unfilled inFlight nothing
        omega
      refine Or.inl ⟨fun empties => ?_, inWindows.ends waits inFlight received pacing next⟩
      obtain ⟨_, ⟨other, same, nothing⟩, _⟩ := empties
      rw [inFlight] at same
      cases same
      exact received nothing
  | closed pacing =>
      refine Or.inl ⟨fun empties => ?_, inWindows.closed waits pacing rfl after⟩
      have other := empties.1
      rw [waits] at other
      cases other
  | closesBadly => simp only [Windowed, waits] at windowed
  | yielded => exact filled nofun (inWindows.yielded waits rfl after)
  | opened => exact filled nofun (inWindows.opened waits rfl after)
  | refused => simp only [Windowed, waits] at windowed

end Answered

/-- A download in windows can go on, with a full window where one has started. -/
theorem InWindows.continues (rates : Rates ρ) {reader : Reader ρ}
    (inWindows : InWindows backend object reader)
    (within : reader.download.end_ ≤ object.length) : ∃ action next,
      reader.Windowed object action ∧ ¬ reader.Empties action ∧
        reader.Steps rates backend action next := by
  have quiet : ∀ {action : DownloadAction}, reader.await ≠ some .body → ¬ reader.Empties action :=
    fun other empties => other empties.1
  unfold Steps
  cases waits : reader.await with
  | none => exact ⟨.call, _, trivial, quiet (by simp [waits]), by rw [step, waits]⟩
  | some await =>
      cases await with
      | body =>
          obtain ⟨read, inFlight⟩ := inWindows.windowing.flying waits
          have window := inWindows.windowing.flight read inFlight
          by_cases nothing : read.received = 0
          · have filled : ∀ {item : BodyItem} {waited : Nat}, item ≠ none →
                ¬ reader.Empties (.answer (.item item waited)) := by
              rintro item waited some_ ⟨_, _, _, same⟩
              cases same
              exact some_ rfl
            refine ⟨.answer (.item (some (.ok ((object.drop read.body.offset).take read.requested)))
              0), _, ?_, filled (by simp), by
              simp only [step, waits, FileDownload.resume, inFlight, Option.map_some]
              rfl⟩
            have inside := window.inside
            have least := window.least
            have length : ((object.drop read.body.offset).take read.requested).length =
                read.requested := by
              rw [List.length_take, List.length_drop]
              omega
            simp only [Windowed, waits, inFlight, nothing, Nat.add_zero, length]
            exact ⟨List.ne_nil_of_length_pos (by omega), List.take_prefix _ _, by omega⟩
          · refine ⟨.answer (.item none 0), _, by simp only [Windowed, waits, inFlight],
              ?_, by
              simp only [step, waits, FileDownload.resume, inFlight, Option.map_some]
              rfl⟩
            rintro ⟨_, ⟨other, same, empty⟩, _⟩
            rw [inFlight] at same
            cases same
            exact nothing empty
      | closing read chunk =>
          exact ⟨.answer (.item none 0), _, by simp only [Windowed, waits],
            quiet (by simp [waits]), by
            simp only [step, waits, FileDownload.resume, Option.map_some]
            rfl⟩
      | yielding =>
          exact ⟨.answer .yielded, _, by simp only [Windowed, waits],
            quiet (by simp [waits]), by
            simp only [step, waits, FileDownload.resume, Option.map_some]
            rfl⟩
      | opening read =>
          exact ⟨.answer (.opened (.ok ()) 0), _, by simp only [Windowed, waits],
            quiet (by simp [waits]), by
            simp only [step, waits, FileDownload.resume, Option.map_some]
            rfl⟩

theorem InWindows.step {reader next : Reader ρ} (inWindows : InWindows backend object reader)
    {action : DownloadAction} (windowed : reader.Windowed object action)
    (taken : reader.Steps rates backend action next) :
    (¬ reader.Empties action ∧ GetsOn backend object reader next) ∨
      (reader.Empties action ∧ Fails object reader next) := by
  rcases stepped_of_steps taken with ⟨idle, called⟩ | ⟨waits, resumed⟩ | waits | idle
  · refine Or.inl ⟨fun empties => ?_, inWindows.called idle called⟩
    obtain ⟨_, _, waited, other⟩ := empties
    cases other
  · exact inWindows.answered waits windowed resumed
  · exact absurd windowed id
  · exact absurd windowed id

/-- A download that halted answers its calls at once. -/
theorem Halted.windowed {reader next : Reader ρ} (halted : reader.Halted object)
    {action : DownloadAction} (windowed : reader.Windowed object action)
    (stepped : reader.Stepped rates backend action next) :
    next.events = reader.events ++ [.returned none] := by
  cases stepped with
  | called idle called =>
      cases called with
      | finished atEnd => rfl
      | reads unfinished inFlight =>
          rw [halted.done] at unfinished
          cases unfinished
      | next unfinished between next =>
          rw [halted.done] at unfinished
          cases unfinished
  | answered waits resumed =>
      rw [halted.idle] at waits
      cases waits
  | dropped waits => exact absurd windowed id
  | cancelled idle => exact absurd windowed id

/-- A poll returns at most one error. -/
theorem polled_stopped {reader : Reader ρ} (poll : DownloadPoll ρ)
    (stopped : Stopped (reader.polled poll).events) :
    Stopped reader.events ∨
      ∃ e, (reader.polled poll).events = reader.events ++ [.returned (some (.error e))] := by
  cases poll with
  | pending download await asked => exact Or.inl (by simpa [polled, Stopped] using stopped)
  | ready download item =>
      rcases item with _ | e | chunk
      · exact Or.inl (by simpa [polled, Stopped] using stopped)
      · exact Or.inr ⟨e, rfl⟩
      · exact Or.inl (by simpa [polled, Stopped] using stopped)

/-- A download that gets on has returned no error. -/
theorem GetsOn.unstopped {reader next : Reader ρ} (gets_on : GetsOn backend object reader next)
    {action : DownloadAction} (windowed : reader.Windowed object action)
    (taken : reader.Steps rates backend action next) (unstopped : ¬ Stopped reader.events) :
    ¬ Stopped next.events := by
  intro stopped
  rcases stepped_of_steps taken with ⟨idle, called⟩ | ⟨waits, resumed⟩ | waits | idle
  · rcases polled_stopped _ stopped with before | ⟨e, failed⟩
    · exact unstopped before
    · exact gets_on.quiet e failed
  · rcases polled_stopped _ stopped with before | ⟨e, failed⟩
    · exact unstopped before
    · exact gets_on.quiet e failed
  · exact windowed
  · exact windowed

/-- A download that is over has said so. -/
def Said (reader : Reader ρ) : Prop :=
  reader.download.done = true → Stopped reader.events ∨ .returned none ∈ reader.events

theorem said_append {events : List DownloadEvent} (more : List DownloadEvent)
    (said : Stopped events ∨ .returned none ∈ events) :
    Stopped (events ++ more) ∨ .returned none ∈ events ++ more := by
  rcases said with (cancelled | ⟨e, failed⟩) | atEnd
  · exact Or.inl (Or.inl (List.mem_append_left more cancelled))
  · exact Or.inl (Or.inr ⟨e, List.mem_append_left more failed⟩)
  · exact Or.inr (List.mem_append_left more atEnd)

theorem Said.step {reader next : Reader ρ} (before : reader.Said) {action : DownloadAction}
    (stepped : reader.Stepped rates backend action next) : next.Said := by
  have fails : ∀ {download : FileDownload ρ} {e : Error},
      (reader.polled (.ready download (some (.error e)))).Said :=
    fun {_ e} _ => Or.inl (Or.inr ⟨e, by simp [polled]⟩)
  have loop : ∀ {download : FileDownload ρ} {poll : DownloadPoll ρ},
      download.done = reader.download.done → download.NextRead rates backend poll →
      (reader.polled poll).Said := by
    intro download poll same next
    cases next with
    | atEnd finished => exact fun _ => Or.inr (by simp [polled])
    | yields unfinished paced partially again =>
        exact fun atEnd => said_append _ (before (same ▸ atEnd))
    | opens unfinished paced partially first =>
        exact fun atEnd => said_append _ (before (same ▸ atEnd))
    | transfers unfinished whole => exact fun atEnd => said_append _ (before (same ▸ atEnd))
  cases stepped with
  | called idle called =>
      cases called with
      | finished atEnd => exact fun _ => said_append _ (before atEnd)
      | reads unfinished inFlight => exact fun atEnd => said_append _ (before atEnd)
      | next unfinished between next => exact loop rfl next
  | answered waits resumed =>
      cases resumed with
      | chunk inFlight room => exact fun atEnd => said_append _ (before atEnd)
      | fills inFlight window full => exact fun atEnd => said_append _ (before atEnd)
      | overfills inFlight window long => exact fails
      | fails inFlight => exact fails
      | stalls inFlight nothing unfinished => exact fails
      | ends inFlight delivered pacing next =>
          refine loop ?_ next
          rfl
      | closed pacing => exact fun atEnd => said_append _ (before atEnd)
      | closesBadly => exact fails
      | yielded => exact fun atEnd => said_append _ (before atEnd)
      | opened => exact fun atEnd => said_append _ (before atEnd)
      | refused => exact fails
  | dropped waits => exact before
  | cancelled idle => exact fun _ => Or.inl (Or.inl (by simp))

/-- What holds of a download in windows, also once a window was empty. -/
structure Paced (backend : Backend) (object : Bytes) (reader : Reader ρ) : Prop where
  follows : InWindows backend object reader ∨ reader.Halted object
  tiled : Tiled reader.download.handle reader.download.start reader.download.end_ reader.events

theorem Paced.step {reader next : Reader ρ} (before : Paced backend object reader)
    {action : DownloadAction} (windowed : reader.Windowed object action)
    (taken : reader.Steps rates backend action next) : Paced backend object next := by
  have stepped := stepped_of_steps taken
  have bounds := stepped.bounds
  simp only [FileDownload.bounds, Prod.mk.injEq] at bounds
  obtain ⟨handle, _, start, end_⟩ := bounds
  rcases before.follows with inWindows | halted
  · rcases inWindows.step windowed taken with ⟨_, gets_on⟩ | ⟨_, failed⟩
    · exact ⟨Or.inl gets_on.inWindows, gets_on.inWindows.tiled⟩
    · obtain ⟨e, events⟩ := failed.failed
      refine ⟨Or.inr failed.halted, ?_⟩
      rw [events, handle, start, end_]
      exact before.tiled.returned _
  · refine ⟨Or.inr (halted.step stepped), ?_⟩
    rw [halted.windowed windowed stepped, handle, start, end_]
    exact before.tiled.returned none

end Reader

section Started

variable {ρ : Type} {backend : Backend} {handle : UInt32} {size : Nat} {range : ByteRange}
  {pacing : DownloadPacing} {download : FileDownload ρ}

/-- A paced download that the device can read partially starts in windows. -/
theorem inWindows_initial (object : Bytes) (fits : size ≤ u64Max) (windowed : pacing ≠ .heldOpen)
    (partially : ∀ offset, range.offset ≤ offset → offset < range.end_ size →
      backend.canReadPartiallyAt offset = true)
    (started : FileDownload.Started backend handle size range pacing download) :
    Reader.InWindows backend object (.initial download) := by
  have going := going_initial object fits started
  have pacer : (FileDownload.prepare backend handle size range pacing : FileDownload ρ).pacer =
      .new pacing := by
    simp only [FileDownload.prepare]
    rw [if_neg]
    rintro ⟨⟨whole, _⟩, some_, narrow⟩
    rw [partially _ (by omega) (by omega)] at narrow
    cases narrow
  have paced : (FileDownload.prepare backend handle size range pacing :
      FileDownload ρ).pacer.heldOpen = false := by
    rw [pacer]
    exact decide_eq_false windowed
  cases started with
  | transfers inside waited starts =>
      simp only [FileDownload.startsTransfer, paced, Bool.false_or, Bool.and_eq_true,
        decide_eq_true_eq, Bool.not_eq_true'] at starts
      have narrow := starts.1
      have readable := partially range.offset (Nat.le_refl _) starts.2
      simp only [FileDownload.prepare, readable] at narrow
      cases narrow
  | waits inside starts => exact {
      going := going
      windowing := {
        paced := paced
        partially := partially
        flight := fun read inFlight => by cases inFlight
        opening := fun read waits => by cases waits
        between := fun await waits => by cases waits
        flying := fun waits => by cases waits }
      tiled := .nil }

variable (rates : Rates ρ)

/-- The steps of a download in windows that has not failed are counted by its bytes. -/
theorem Reader.progress_le (reader : Reader ρ) :
    reader.progress ≤ 5 * (reader.download.offset - reader.download.start) + 4 := by
  unfold Reader.progress
  rcases reader.await with _ | _ | _ | _ | _ <;> rcases reader.download.current with _ | _ <;>
    simp only <;> (try split) <;> omega

theorem Reader.InWindows.received_le {object : Bytes} {reader : Reader ρ}
    (inWindows : reader.InWindows backend object) :
    reader.download.offset - reader.download.start ≤ object.length - reader.download.start := by
  have even := inWindows.going.even
  have inside := inWindows.going.front.length_le
  unfold Reader.Even at even
  rw [List.length_drop] at inside
  omega

theorem said_initial (started : FileDownload.Started backend handle size range pacing download) :
    Reader.Said (.initial download) :=
  fun atEnd => by cases started <;> cases atEnd

theorem ByteRange.end_le (range : ByteRange) (size : Nat) : range.end_ size ≤ size := by
  cases range with
  | full => exact Nat.le_refl size
  | from_ offset => exact Nat.le_refl size
  | range offset len => exact Nat.min_le_right _ _

/-- A download in windows that has failed nowhere, with what it was asked for. -/
structure Unfailed (backend : Backend) (object : Bytes) (download : FileDownload ρ)
    (reader : Reader ρ) : Prop where
  bounds : reader.download.bounds = download.bounds
  inWindows : reader.InWindows backend object
  unstopped : ¬ Stopped reader.events
  said : reader.Said

/-- A window that is not empty does not make it fail. -/
theorem Unfailed.step {object : Bytes} {reader next : Reader ρ}
    (before : Unfailed backend object download reader) {action : DownloadAction}
    (windowed : reader.Windowed object action) (filled : ¬ reader.Empties action)
    (taken : reader.Steps rates backend action next) :
    Unfailed backend object download next ∧
      (next.download.done = true ∨ reader.progress < next.progress) := by
  have stepped := Reader.stepped_of_steps taken
  rcases before.inWindows.step windowed taken with ⟨_, gets_on⟩ | ⟨empties, _⟩
  · exact ⟨⟨stepped.bounds.trans before.bounds, gets_on.inWindows,
      gets_on.unstopped windowed taken before.unstopped, before.said.step stepped⟩, gets_on.rises⟩
  · exact absurd empties filled

theorem unfailed_initial (object : Bytes) (fits : size ≤ u64Max) (windowed : pacing ≠ .heldOpen)
    (partially : ∀ offset, range.offset ≤ offset → offset < range.end_ size →
      backend.canReadPartiallyAt offset = true)
    (started : FileDownload.Started backend handle size range pacing download) :
    Unfailed backend object download (.initial download) where
  bounds := rfl
  inWindows := inWindows_initial object fits windowed partially started
  unstopped := by simp [Reader.initial, Stopped]
  said := said_initial started

/-- Full windows bring a download to its end. -/
theorem exists_windowed_end {object : Bytes} (fits : size ≤ u64Max)
    (within : size ≤ object.length) (windowed : pacing ≠ .heldOpen)
    (partially : ∀ offset, range.offset ≤ offset → offset < range.end_ size →
      backend.canReadPartiallyAt offset = true)
    (started : FileDownload.Started backend handle size range pacing download) :
    ∃ actions reader, Runs.Run (Runs.Restricted (fun reader action =>
          reader.Windowed object action ∧ ¬ reader.Empties action) (Reader.Steps rates backend))
        (.initial download) actions reader ∧
      Unfailed backend object download reader ∧ reader.download.done = true := by
  refine Runs.Run.exists_over (Unfailed backend object download)
    (fun reader => reader.download.done = true) Reader.progress (5 * object.length + 4)
    (fun reader holds => ?_) (fun reader holds unfinished => ?_)
    (unfailed_initial object fits windowed partially started)
  · have received := holds.inWindows.received_le
    have phase := reader.progress_le
    omega
  · have inside : reader.download.end_ ≤ object.length := by
      rw [(bounds_of_started started holds.bounds).2.2.2]
      exact Nat.le_trans (range.end_le size) within
    obtain ⟨action, next, fills, filled, taken⟩ := holds.inWindows.continues rates inside
    obtain ⟨later, rises⟩ := holds.step rates fills filled taken
    exact ⟨action, next, ⟨⟨fills, filled⟩, taken⟩, later, rises⟩

end Started

end Mtp
