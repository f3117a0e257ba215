import MtpRs.Ptp.Session.StreamLoop

set_option autoImplicit false

/- The induction over a whole run of `next_chunk` calls, said once. -/
namespace Ptp

namespace ReceiveStream

/-- Where a run stands after one trip through the loop. `top` is about the top of
the loop, `waiting` about a `receive_bulk` that is out, `atEnd` about a stream that
is done; each is about the reads taken so far and the events so far. -/
def Holds (top waiting atEnd : List Read → List StreamEvent → ReceiveStream → Prop)
    (fed : List Read) (acc : List StreamEvent) (passed : List WireEvent × Pass) : Prop :=
  match passed.2 with
  | .awaits next => waiting fed (acc ++ passed.1.map .wire) next
  | .continues next => top fed (acc ++ passed.1.map .wire) next
  | .returns item next =>
      (next.done = false → top fed (acc ++ passed.1.map .wire ++ [.returned item]) next) ∧
      (next.done = true → atEnd fed (acc ++ passed.1.map .wire ++ [.returned item]) next)

/-- What left the wire first came first. -/
theorem Holds.after_wires {top waiting atEnd : List Read → List StreamEvent → ReceiveStream → Prop}
    {fed : List Read} {acc : List StreamEvent} {events : List WireEvent}
    {passed : List WireEvent × Pass}
    (holds : Holds top waiting atEnd fed (acc ++ events.map .wire) passed) :
    Holds top waiting atEnd fed acc (events ++ passed.1, passed.2) := by
  rcases passed with ⟨more, next | next | ⟨item, next⟩⟩ <;>
    simpa only [Holds, List.map_append, List.append_assoc] using holds

/-- A run may be looked at under any reading `each` of its inputs at a time. -/
theorem Holds.intro {ι : Type} {each : ι → List Read → Prop}
    {top waiting atEnd : ι → List Read → List StreamEvent → ReceiveStream → Prop}
    {fed : List Read} {acc : List StreamEvent} {passed : List WireEvent × Pass}
    (holds : ∀ i, each i fed → Holds (top i) (waiting i) (atEnd i) fed acc passed) :
    Holds (fun fed acc self => ∀ i, each i fed → top i fed acc self)
      (fun fed acc self => ∀ i, each i fed → waiting i fed acc self)
      (fun fed acc self => ∀ i, each i fed → atEnd i fed acc self) fed acc passed := by
  rcases passed with ⟨events, next | next | ⟨item, next⟩⟩
  · exact fun i read => holds i read
  · exact fun i read => holds i read
  · exact ⟨fun going i read => (holds i read).1 going, fun done i read => (holds i read).2 done⟩

/-- What an argument about every run has to show. -/
structure Rule (top waiting atEnd : List Read → List StreamEvent → ReceiveStream → Prop) :
    Prop where
  pass : ∀ {fed acc self}, top fed acc self → Holds top waiting atEnd fed acc self.pass
  received : ∀ {fed acc self} (read : Read), waiting fed acc self →
    Holds top waiting atEnd (fed ++ [read]) acc ([], self.received read)

/-- `receive_bulk`'s answer never leads straight back to another `receive_bulk`. -/
theorem received_ne_awaits (self next : ReceiveStream) (read : Read) :
    self.received read ≠ .awaits next := by
  unfold received
  split
  · split
    · split
      · exact fun same => by cases same
      · split <;> exact fun same => by cases same
    · exact fun same => by cases same
  · exact fun same => by cases same

namespace Rule

variable {top waiting atEnd : List Read → List StreamEvent → ReceiveStream → Prop}

/-- Where a rule's predicates stand once a call's synchronous part has run. -/
def After (top waiting atEnd : List Read → List StreamEvent → ReceiveStream → Prop)
    (fed : List Read) (acc : List StreamEvent) (polled : List WireEvent × Poll) : Prop :=
  match polled.2 with
  | .pending next => waiting fed (acc ++ polled.1.map .wire) next
  | .ready item next =>
      (next.done = false → top fed (acc ++ polled.1.map .wire ++ [.returned item]) next) ∧
      (next.done = true → atEnd fed (acc ++ polled.1.map .wire ++ [.returned item]) next)

theorem loop (rule : Rule top waiting atEnd) (fed : List Read) (self : ReceiveStream) : ∀ acc,
    top fed acc self → After top waiting atEnd fed acc self.loop := by
  induction self using loop.induct with
  | case1 self events next taken =>
      intro acc holds
      have passed := rule.pass holds
      rw [taken] at passed
      rw [ReceiveStream.loop, taken]
      exact passed
  | case2 self events item next taken =>
      intro acc holds
      have passed := rule.pass holds
      rw [taken] at passed
      rw [ReceiveStream.loop, taken]
      exact passed
  | case3 self events next taken ih =>
      intro acc holds
      have passed := rule.pass holds
      rw [taken] at passed
      have later := ih _ passed
      rw [ReceiveStream.loop, taken]
      simpa only [After, List.map_append, List.append_assoc] using later

/-- Where a rule's predicates stand once the calls wait or the stream is done. -/
def Served (waiting atEnd : List Read → List StreamEvent → ReceiveStream → Prop)
    (fed : List Read) (acc : List StreamEvent)
    (served : List StreamEvent × (ReceiveStream ⊕ ReceiveStream)) : Prop :=
  match served.2 with
  | .inl next => waiting fed (acc ++ served.1) next
  | .inr next => atEnd fed (acc ++ served.1) next

theorem serve (rule : Rule top waiting atEnd) (fed : List Read) (self : ReceiveStream) : ∀ acc,
    top fed acc self → Served waiting atEnd fed acc self.serve := by
  induction self using serve.induct with
  | case1 self events next called =>
      intro acc holds
      have after := rule.loop fed self acc holds
      rw [ReceiveStream.serve_eq, called]
      rw [called] at after
      exact after
  | case2 self events item next called finished =>
      intro acc holds
      have after := rule.loop fed self acc holds
      rw [ReceiveStream.serve_eq, called]
      rw [called] at after
      simp only [follow, finished, ↓reduceIte, Served]
      simpa only [List.append_assoc] using after.2 finished
  | case3 self events item next called going ih =>
      intro acc holds
      have after := rule.loop fed self acc holds
      rw [called] at after
      have later := ih _ (after.1 (Bool.eq_false_iff.mpr going))
      rw [ReceiveStream.serve_eq, called]
      simp only [follow, going, Bool.false_eq_true, ↓reduceIte]
      simpa only [Served, List.append_assoc] using later

theorem follow (rule : Rule top waiting atEnd) {fed : List Read} {acc : List StreamEvent}
    {polled : List WireEvent × Poll} (after : After top waiting atEnd fed acc polled) :
    Served waiting atEnd fed acc (follow polled) := by
  rcases polled with ⟨events, next | ⟨item, next⟩⟩
  · exact after
  · simp only [ReceiveStream.follow]
    split
    · rename_i finished
      simpa only [Served, List.append_assoc] using after.2 finished
    · rename_i going
      have later := rule.serve fed next _ (after.1 (Bool.eq_false_iff.mpr going))
      simpa only [Served, List.append_assoc] using later

theorem resume (rule : Rule top waiting atEnd) (fed : List Read) (acc : List StreamEvent)
    {self : ReceiveStream} (read : Read) (holds : waiting fed acc self) :
    After top waiting atEnd (fed ++ [read]) acc (self.resume read) := by
  have taken := rule.received read holds
  unfold ReceiveStream.resume
  split <;> rename_i answer <;> rw [answer] at taken
  · exact absurd answer (received_ne_awaits self _ read)
  · exact rule.loop _ _ acc (by simpa only [Holds, List.map_nil, List.append_nil] using taken)
  · exact taken

theorem run (rule : Rule top waiting atEnd) (fed : List Read) (acc : List StreamEvent)
    (self : ReceiveStream) (holds : waiting fed acc self) (reads : List Read) :
    Feed.Reached waiting atEnd fed acc reads (self.run reads) := by
  refine Feed.run_rule feed waiting atEnd ?_ ?_ reads fed acc self holds
  · intro fed acc self read next more holds taken
    have served := rule.follow (rule.resume fed acc read holds)
    unfold feed at taken
    rcases calls : ReceiveStream.follow (self.resume read) with ⟨events, last | last⟩
    · rw [calls] at taken served
      cases taken
      exact served
    · rw [calls] at taken
      cases taken
  · intro fed acc self read final more holds taken
    have served := rule.follow (rule.resume fed acc read holds)
    unfold feed at taken
    rcases calls : ReceiveStream.follow (self.resume read) with ⟨events, last | last⟩
    · rw [calls] at taken
      cases taken
    · rw [calls] at taken served
      cases taken
      exact served

end Rule

end ReceiveStream

end Ptp
