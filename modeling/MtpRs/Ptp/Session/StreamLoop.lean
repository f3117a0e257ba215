import MtpRs.Ptp.Session.StreamStep

set_option autoImplicit false

/- The loop of `next_chunk`, and `next_chunk` called again and again. -/
namespace Ptp

open Feed (Turn)

/-- A run of calls, as events: what left the wire and what the calls returned. -/
inductive StreamEvent where
  | wire (event : WireEvent)
  | returned (item : Item)
deriving DecidableEq, Repr

namespace StreamEvent

@[simp] def items : List StreamEvent → List Item
  | [] => []
  | .returned item :: rest => item :: items rest
  | .wire _ :: rest => items rest

@[simp] def wires : List StreamEvent → List WireEvent
  | [] => []
  | .returned _ :: rest => wires rest
  | .wire event :: rest => event :: wires rest

@[simp] theorem items_append (front back : List StreamEvent) :
    items (front ++ back) = items front ++ items back := by
  induction front with
  | nil => rfl
  | cons event rest ih => cases event <;> simp only [List.cons_append, items, ih]

@[simp] theorem wires_append (front back : List StreamEvent) :
    wires (front ++ back) = wires front ++ wires back := by
  induction front with
  | nil => rfl
  | cons event rest ih => cases event <;> simp only [List.cons_append, wires, ih]

@[simp] theorem items_wire (events : List WireEvent) : items (events.map .wire) = [] := by
  induction events with
  | nil => rfl
  | cons event rest ih => simpa only [List.map_cons, items] using ih

@[simp] theorem wires_wire (events : List WireEvent) : wires (events.map .wire) = events := by
  induction events with
  | nil => rfl
  | cons event rest ih => simp only [List.map_cons, wires, ih]

end StreamEvent

namespace ReceiveStream

/-- Every `continue` and every chunk makes this smaller: a header or payload
leaves the buffer, or the container ends. -/
def measure (self : ReceiveStream) : Nat :=
  2 * self.buffer.length + if self.inPayload then 1 else 0

theorem takeLength_le (self : ReceiveStream) : self.takeLength ≤ self.buffer.length := by
  unfold takeLength
  split <;> omega

theorem yieldChunk_buffer (self : ReceiveStream) :
    self.yieldChunk.2.buffer = self.buffer.drop self.takeLength := by
  unfold yieldChunk
  dsimp only
  split <;> rfl

theorem measure_le (self : ReceiveStream) : self.measure ≤ 2 * self.buffer.length + 1 := by
  unfold measure
  split <;> omega

/-- A payload step that goes on has less left to do than where it started. -/
theorem PayloadStep.measure_lt {self next : ReceiveStream} {events : List WireEvent} {pass : Pass}
    (step : PayloadStep self events pass)
    (onward : pass = .continues next ∨ ∃ item, pass = .returns item next) :
    next.measure < 2 * self.buffer.length + 1 := by
  cases step with
  | chunk streaming some =>
      obtain other | ⟨item, same⟩ := onward
      · cases other
      · cases same
        have bound := takeLength_le self.boundLargeObject
        have left := yieldChunk_buffer self.boundLargeObject
        have top := measure_le self.boundLargeObject.yieldChunk.2
        rw [left, List.length_drop] at top
        rw [boundLargeObject_buffer] at top bound
        omega
  | ends streaming nothing =>
      obtain same | ⟨item, other⟩ := onward
      · cases same
        simp only [measure, endContainer, boundLargeObject_buffer]
        simp
      · cases other
  | waits idle =>
      obtain other | ⟨item, other⟩ := onward <;> cases other

theorem PayloadStep.streaming {self next : ReceiveStream} {events : List WireEvent} {pass : Pass}
    (step : PayloadStep self events pass)
    (onward : pass = .continues next ∨ ∃ item, pass = .returns item next) :
    self.inPayload = true := by
  cases step with
  | chunk streaming some => exact streaming
  | ends streaming nothing => exact streaming
  | waits idle => obtain other | ⟨item, other⟩ := onward <;> cases other

/-- An accepted header takes at least itself off the buffer. -/
theorem HeaderStep.buffer_lt {self self' : ReceiveStream} {events : List WireEvent}
    {found : Header} (step : HeaderStep self self' events (.ok found)) (undone : found ≠ .done)
    (long : headerSize ≤ self.buffer.length) :
    self'.buffer.length + headerSize ≤ self.buffer.length := by
  cases step with
  | data type read least =>
      simp only [openContainer, List.length_drop]
      omega
  | done parsed own ok => exact absurd rfl undone
  | skipped front fills unseen stale may =>
      have long := fills.long
      rw [front, List.length_append]
      dsimp only
      omega

theorem PassStep.measure_lt {self next : ReceiveStream} {events : List WireEvent} {pass : Pass}
    (step : PassStep self events pass)
    (onward : pass = .continues next ∨ (∃ item, pass = .returns item next) ∧ next.done = false) :
    next.measure < self.measure := by
  have weaker : pass = .continues next ∨ ∃ item, pass = .returns item next :=
    onward.imp_right And.left
  cases step with
  | finished between long header =>
      obtain other | ⟨⟨item, same⟩, going⟩ := onward
      · cases other
      · cases same
        cases going
  | failed between long header =>
      obtain other | ⟨⟨item, same⟩, going⟩ := onward
      · cases other
      · cases same
        cases going
  | header between long header undone payload =>
      have less := payload.measure_lt weaker
      have left := header.buffer_lt undone long
      simp only [measure, between]
      unfold headerSize at left
      simp only [measure] at less
      simp
      omega
  | payload none payload =>
      have less := payload.measure_lt weaker
      simp only [measure, payload.streaming weaker, ↓reduceIte] at less ⊢
      exact less

theorem pass_continues_lt {self next : ReceiveStream} {events : List WireEvent}
    (taken : self.pass = (events, .continues next)) : next.measure < self.measure := by
  have step := self.pass_step
  rw [taken] at step
  exact step.measure_lt (Or.inl rfl)

/-- The loop of `next_chunk`, up to its `return` or its next await. -/
def loop (self : ReceiveStream) : List WireEvent × Poll :=
  match _taken : self.pass with
  | (events, .awaits next) => (events, .pending next)
  | (events, .returns item next) => (events, .ready item next)
  | (events, .continues next) => (events ++ next.loop.1, next.loop.2)
termination_by self.measure
decreasing_by
  all_goals exact pass_continues_lt _taken

def nextChunk (self : ReceiveStream) : List WireEvent × Poll :=
  if self.done then ([], .ready none self) else self.loop

/-- A call of `next_chunk` from the answer to its `receive_bulk` to its next await. -/
def resume (self : ReceiveStream) (read : Read) : List WireEvent × Poll :=
  match self.received read with
  | .awaits next => ([], .pending next)
  | .continues next => next.loop
  | .returns item next => ([], .ready item next)

theorem loop_ready_lt (self : ReceiveStream) : ∀ {next : ReceiveStream} {item : Item},
    self.loop.2 = .ready item next → next.done = false → next.measure < self.measure := by
  induction self using loop.induct with
  | case1 self events next taken =>
      intro last item ready
      rw [loop, taken] at ready
      cases ready
  | case2 self events item next taken =>
      intro last item' ready going
      rw [loop, taken] at ready
      cases ready
      have step := self.pass_step
      rw [taken] at step
      exact step.measure_lt (Or.inr ⟨⟨item, rfl⟩, going⟩)
  | case3 self events next taken ih =>
      intro last item ready going
      rw [loop, taken] at ready
      exact Nat.lt_trans (ih ready going) (pass_continues_lt taken)

/-- `next_chunk` called again and again until a call waits or the stream is over.
Left is the stream that waits, right the finished one. -/
def serve (self : ReceiveStream) : List StreamEvent × (ReceiveStream ⊕ ReceiveStream) :=
  match _called : self.loop with
  | (events, .pending next) => (events.map .wire, .inl next)
  | (events, .ready item next) =>
      if _over : next.done then (events.map .wire ++ [.returned item], .inr next)
      else (events.map .wire ++ [.returned item] ++ next.serve.1, next.serve.2)
termination_by self.measure
decreasing_by
  all_goals exact loop_ready_lt self (by rw [_called]) (Bool.eq_false_iff.mpr _over)

/-- What follows the synchronous part of a call, when every call that returns is
followed by another one. -/
def follow (polled : List WireEvent × Poll) : List StreamEvent × (ReceiveStream ⊕ ReceiveStream) :=
  match polled with
  | (events, .pending next) => (events.map .wire, .inl next)
  | (events, .ready item next) =>
      if next.done then (events.map .wire ++ [.returned item], .inr next)
      else (events.map .wire ++ [.returned item] ++ next.serve.1, next.serve.2)

theorem serve_eq (self : ReceiveStream) : self.serve = follow self.loop := by
  rw [serve]
  split <;> rename_i called <;> rw [called] <;> simp only [follow, dite_eq_ite]

section Serve

variable {self next : ReceiveStream} {events : List WireEvent} {item : Item}

theorem serve_awaits (passed : self.pass = (events, .awaits next)) :
    self.serve = (events.map .wire, .inl next) := by
  rw [serve_eq, loop, passed]
  rfl

theorem serve_continues (passed : self.pass = (events, .continues next)) :
    self.serve = (events.map .wire ++ next.serve.1, next.serve.2) := by
  rw [serve_eq, loop, passed, serve_eq next]
  rcases polled : next.loop with ⟨more, last | ⟨item, last⟩⟩
  · simp only [follow, polled, List.map_append]
  · simp only [follow, polled, List.map_append]
    split <;> simp only [List.append_assoc]

theorem serve_returns (passed : self.pass = (events, .returns item next))
    (going : next.done = false) :
    self.serve = (events.map .wire ++ [.returned item] ++ next.serve.1, next.serve.2) := by
  rw [serve_eq, loop, passed]
  simp only [follow, going, Bool.false_eq_true, ↓reduceIte]

theorem serve_ends (passed : self.pass = (events, .returns item next)) (atEnd : next.done = true) :
    self.serve = (events.map .wire ++ [.returned item], .inr next) := by
  rw [serve_eq, loop, passed]
  simp only [follow, atEnd, ↓reduceIte]

end Serve

/-- `next_chunk` called again and again, fed with the answers of `receive_bulk`. -/
def feed (self : ReceiveStream) (read : Read) : Turn ReceiveStream StreamEvent ReceiveStream :=
  match follow (self.resume read) with
  | (events, .inl waiting) => .again waiting events
  | (events, .inr atEnd) => .done atEnd events

theorem feed_continues {self next : ReceiveStream} {read : Read}
    (taken : self.received read = .continues next) :
    self.feed read = match next.serve with
      | (events, .inl waiting) => .again waiting events
      | (events, .inr atEnd) => .done atEnd events := by
  rw [feed, resume, taken, serve_eq]

/-- The same from a stream that waits, over as many answers as it takes. -/
def run (self : ReceiveStream) (reads : List Read) :
    Feed.Progress ReceiveStream Read StreamEvent ReceiveStream :=
  Feed.run feed self reads

def serveRun (self : ReceiveStream) (reads : List Read) :
    Feed.Progress ReceiveStream Read StreamEvent ReceiveStream :=
  match self.serve with
  | (events, .inl waiting) => (waiting.run reads).after events
  | (events, .inr atEnd) => ⟨events, .inr atEnd, reads⟩

theorem run_continues {self next : ReceiveStream} {read : Read}
    (taken : self.received read = .continues next) (rest : List Read) :
    self.run (read :: rest) = next.serveRun rest := by
  have turn := feed_continues taken
  unfold serveRun
  rcases served : next.serve with ⟨events, waiting | atEnd⟩ <;> rw [served] at turn
  · exact Feed.run_again feed turn rest
  · exact Feed.run_done feed turn rest

theorem serveRun_waits {self next : ReceiveStream} (served : self.serve = ([], .inl next))
    (reads : List Read) : self.serveRun reads = next.run reads := by
  rw [serveRun, served]
  rfl

theorem serveRun_after {self next : ReceiveStream} {events : List StreamEvent}
    (served : self.serve = (events ++ next.serve.1, next.serve.2)) (reads : List Read) :
    self.serveRun reads = (next.serveRun reads).after events := by
  rw [serveRun, served, serveRun]
  rcases next.serve with ⟨more, waiting | atEnd⟩
  · exact (Feed.Progress.after_after events more _).symm
  · rfl

end ReceiveStream

end Ptp
