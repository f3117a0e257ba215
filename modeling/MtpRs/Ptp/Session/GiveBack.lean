import MtpRs.Ptp.Session.Outstanding

set_option autoImplicit false

/- What a stream that reports its end leaves behind: itself done, the lock free,
and the pipe flagged when its response was not read. -/
namespace Ptp

/-- What `next_chunk` returns is the end of the stream. -/
def Item.ends : Item → Bool
  | none => true
  | some (.error _) => true
  | some (.ok _) => false

def Poll.ends : Poll → Bool
  | .pending _ => false
  | .ready item _ => item.ends

namespace ReceiveStream

/-- `finish`, statement by statement: the state each of them leaves. -/
def finishing (self : ReceiveStream) (pipeInDoubt : Bool) : List ReceiveStream :=
  let marked := { self with done := true }
  let flagged := { marked with
    recovery := if pipeInDoubt then marked.recovery.flag marked.transactionId else marked.recovery }
  [marked, flagged, { flagged with guard := false }]

/-- The pipe is flagged before the lock is free. -/
theorem finishing_released {self state : ReceiveStream} {pipeInDoubt : Bool}
    (guarded : self.guard = true) (inside : state ∈ self.finishing pipeInDoubt)
    (released : state.guard = false) : state.recovery = (self.finish pipeInDoubt).recovery := by
  simp only [finishing, List.mem_cons, List.not_mem_nil, or_false] at inside
  rcases inside with same | same | same
  · rw [same] at released
    rw [show self.guard = false from released] at guarded
    cases guarded
  · rw [same]
    rfl
  · rw [same]
    rfl

/-- An empty read is expected: it ends a large object's data phase, or is the
packet that ends one. -/
def emptyReadExpected (self : ReceiveStream) : Bool :=
  self.inPayload && self.largeObject || self.expectZeroLengthPacket

section Ends

variable {self next : ReceiveStream} {item : Item}

theorem pass_ends {events : List WireEvent} (taken : self.pass = (events, .returns item next))
    (ends : item.ends = true) : next.done = true := by
  have step := self.pass_step
  rw [taken] at step
  cases step with
  | finished between long header => rfl
  | failed between long header => rfl
  | header between long header undone payload =>
      cases payload
      cases ends
  | payload none payload =>
      cases payload
      cases ends

theorem loop_ends (self : ReceiveStream) : self.loop.2 = .ready item next → item.ends = true →
    next.done = true := by
  induction self using loop.induct with
  | case1 self events waiting taken =>
      intro ready
      rw [loop, taken] at ready
      cases ready
  | case2 self events returned last taken =>
      intro ready ends
      rw [loop, taken] at ready
      cases ready
      exact pass_ends taken ends
  | case3 self events onward taken ih =>
      intro ready
      rw [loop, taken] at ready
      exact ih ready

/-- The answer to a read ends the stream, unless it is an empty one out of place. -/
theorem resume_ends {read : Read}
    (expected : read = .ok [] → self.emptyReadExpected = true)
    (ready : (self.resume read).2 = .ready item next) (ends : item.ends = true) :
    next.done = true := by
  have step := received_step self read
  unfold resume at ready
  generalize taken : self.received read = pass at ready step
  cases step with
  | arrives some => exact loop_ends _ ready ends
  | phaseOver streaming large => exact loop_ends _ ready ends
  | packet packet => exact loop_ends _ ready ends
  | empty =>
      have due := expected rfl
      simp only [emptyReadExpected, Bool.or_eq_true] at due
      simp only [received, List.isEmpty_nil, ↓reduceIte] at taken
      rcases due with large | packet
      · rw [if_pos large] at taken
        cases taken
      · rw [packet] at taken
        split at taken <;> cases taken
  | broken =>
      cases ready
      rfl

/-- An empty read out of place is reported, and nothing is given back. -/
theorem resume_unexpected (unexpected : self.emptyReadExpected = false) :
    self.resume (.ok []) =
      ([], .ready (some (.error (.invalidData "Empty response from device"))) self) := by
  simp only [emptyReadExpected, Bool.or_eq_false_iff] at unexpected
  simp only [resume, received, List.isEmpty_nil, ↓reduceIte, unexpected, Bool.false_eq_true]

end Ends

end ReceiveStream

def Action.task : Action → Option Nat
  | .setSplitHeaderData _ => none
  | .spawn id _ | .acquire id | .answer id _ | .nextChunk id | .cancel id | .drop id => some id

namespace System

/-- In this step a method of stream `id` reports the end of its transfer. -/
def reportsEnd (system : System) (id : Nat) : Action → Bool
  | .nextChunk other => other == id && match system.tasks id with
      | some (.stream stream .idle) =>
          ({ stream with recovery := system.session.recovery } : ReceiveStream).nextChunk.2.ends
      | _ => false
  | .answer other answer => other == id && match system.tasks id, answer with
      | some (.stream stream .nextChunk), .read bytes =>
          (({ stream with recovery := system.session.recovery } : ReceiveStream).resume
            (.ok bytes)).2.ends
      | some (.stream _ .nextChunk), .failed _ => true
      | some (.stream _ .cancel), .done => true
      | some (.stream _ .cancel), .failed _ => true
      | _, _ => false
  | .cancel other => other == id && match system.tasks id with
      | some (.stream stream .idle) => stream.done
      | _ => false
  | .setSplitHeaderData _ | .spawn _ _ | .acquire _ | .drop _ => false

/-- The step is no empty read where `next_chunk` expects none. -/
def ReadExpected (system : System) : Action → Prop
  | .answer id (.read []) => match system.tasks id with
      | some (.stream stream .nextChunk) => stream.emptyReadExpected = true
      | _ => True
  | _ => True

/-- The value of a stream that is over is still there, and holds nothing. -/
def Over (system : System) (id : Nat) : Prop :=
  system.session.operationLock ≠ some id ∧
    ∃ stream : ReceiveStream, system.tasks id = some (.stream stream .idle) ∧
      stream.done = true ∧ stream.guard = false

/-- Whatever comes next on the session, the first thing on the pipe is a drain for `txId`. -/
def DrainsFirst (system : System) (txId : UInt32) : Prop :=
  ∀ later last, Runs.Run Steps system later last → ∃ silent rest : List PipeEvent,
    last.history = system.history ++ silent ++ rest ∧ (∀ event ∈ silent, event.Silent) ∧
      (rest = [] ∧ last.session.recovery = ⟨true, txId⟩ ∨ rest.head? = some (.drains txId))

/-- What a stream that reports its end in a step from `system` to `next` owes the session. -/
structure GivesBack (system next : System) (id : Nat) : Prop where
  ended : Over next id
  stays : ∀ later last, Runs.Run (Runs.Restricted (fun _ action => action ≠ .drop id) Steps)
    next later last → Over last id ∧ ∃ after, Steps last (.nextChunk id) after ∧
      after.history = last.history ++ [.returned id none]
  flagged : system.session.operationLock = some id → next.session.operationLock = none ∧
    ∃ (running : ReceiveStream) (doubt : Bool),
      next.tasks id = some (.stream (running.finish doubt) .idle) ∧
      (∀ state ∈ running.finishing doubt, state.guard = false →
        state.recovery = next.session.recovery) ∧
      (running.transactionId ∈ outstanding next.history →
        next.session.recovery = ⟨true, running.transactionId⟩ ∧
          DrainsFirst next running.transactionId)

section Steps

variable {system next : System} {id : Nat} {action : Action}

theorem put_tasks_other {task : Option Task} {session : PtpSession} {events : List PipeEvent}
    {other : Nat} (different : some id ≠ some other) :
    (system.put id task session events).tasks other = system.tasks other :=
  put_other _ _ _ _ _ fun same => different (by rw [same])

theorem putStream_tasks_other {before : ReceiveStream} {events : List PipeEvent}
    {polled : List WireEvent × Poll} {other : Nat} (different : some id ≠ some other) :
    (system.putStream id before events polled).tasks other = system.tasks other := by
  unfold putStream
  split <;> exact put_tasks_other different

/-- An action leaves the tasks alone that it is not about. -/
theorem tasks_of_step (taken : Steps system action next) (different : action.task ≠ some id) :
    next.tasks id = system.tasks id := by
  cases action with
  | setSplitHeaderData split =>
      cases taken
      rfl
  | spawn other request =>
      simp only [Steps, step] at taken
      split at taken <;> cases taken
      exact put_tasks_other different
  | acquire other =>
      simp only [Steps, step] at taken
      split at taken <;> cases taken
      rw [putCall_eq]
      exact put_tasks_other different
  | answer other answer =>
      simp only [Steps, step] at taken
      split at taken
      · obtain ⟨after, resumed, same⟩ := Option.map_eq_some_iff.mp taken
        rw [← same, putCall_eq]
        exact put_tasks_other different
      · rename_i stream activity found
        cases activity <;> cases answer <;> cases taken
        · exact putStream_tasks_other different
        · unfold answerChunk
          exact putStream_tasks_other different
        · exact put_tasks_other different
        · exact put_tasks_other different
      · cases taken
  | nextChunk other =>
      simp only [Steps, step] at taken
      split at taken <;> cases taken
      exact putStream_tasks_other different
  | cancel other =>
      simp only [Steps, step] at taken
      split at taken
      · split at taken <;> cases taken <;> exact put_tasks_other different
      · cases taken
  | drop other =>
      simp only [Steps, step] at taken
      split at taken <;> cases taken <;> exact put_tasks_other different

/-- A stream that is done holds nothing. -/
theorem Owned.ended (owned : Owned system) {stream : ReceiveStream} {activity : Activity}
    (found : system.tasks id = some (.stream stream activity)) (done : stream.done = true) :
    Over system id := by
  obtain ⟨aside, guard, idle⟩ := owned.finished found done
  subst idle
  exact ⟨aside, stream, found, done, guard⟩

/-- Only dropping the stream's value ends what holds of a stream that is over. -/
theorem Over.step (ended : Over system id) (owned : Owned system) (kept : action ≠ .drop id)
    (taken : Steps system action next) : Over next id := by
  obtain ⟨aside, stream, found, done, guard⟩ := ended
  have owned' := (owned.step taken).1
  by_cases mine : action.task = some id
  · cases action with
    | setSplitHeaderData split => cases mine
    | spawn other request =>
        cases mine
        simp only [Steps, System.step, found] at taken
        cases taken
    | acquire other =>
        cases mine
        simp only [Steps, System.step, found] at taken
        cases taken
    | answer other answer =>
        cases mine
        simp only [Steps, System.step, found] at taken
        cases answer <;> cases taken
    | nextChunk other =>
        cases mine
        have stepped := owned.nextChunk_done found done
        rw [show system.step (.nextChunk id) = some next from taken] at stepped
        cases stepped
        exact owned'.ended (put_self _ _ _ _ _) done
    | cancel other =>
        cases mine
        simp only [Steps, System.step, found, done, ↓reduceIte] at taken
        cases taken
        exact owned'.ended (put_self _ _ _ _ _) done
    | drop other =>
        cases mine
        exact absurd rfl kept
  · exact owned'.ended ((tasks_of_step taken mine).trans found) done

/-- Nothing but a drain starts on a pipe that is flagged. -/
theorem drainsFirst (owned : Owned system) (free : system.session.operationLock = none)
    {txId : UInt32} (flagged : system.session.recovery = ⟨true, txId⟩) :
    DrainsFirst system txId := by
  intro later last run
  have held : Owned last ∧ ∃ silent rest : List PipeEvent,
      last.history = system.history ++ silent ++ rest ∧ (∀ event ∈ silent, event.Silent) ∧
        (rest = [] ∧ last.inFlight = none ∧ last.session.recovery = ⟨true, txId⟩ ∨
          rest.head? = some (.drains txId)) := by
    refine run.invariant (fun last => Owned last ∧ ∃ silent rest : List PipeEvent,
      last.history = system.history ++ silent ++ rest ∧ (∀ event ∈ silent, event.Silent) ∧
        (rest = [] ∧ last.inFlight = none ∧ last.session.recovery = ⟨true, txId⟩ ∨
          rest.head? = some (.drains txId))) ?_ ?_
    · rintro state action after ⟨before, silent, rest, history, calm, stands⟩ taken
      obtain ⟨owned', events, grown, move⟩ := before.step taken
      refine ⟨owned', ?_⟩
      rcases stands with ⟨nothing, idle, still⟩ | drained
      · rw [nothing, List.append_nil] at history
        rw [idle] at move
        generalize holder : after.inFlight = inFlight at move
        generalize recovery : after.session.recovery = cell at move
        cases move with
        | rests quiet =>
            refine ⟨silent ++ events, [], ?_, ?_, Or.inl ⟨rfl, rfl, still⟩⟩
            · rw [grown, history, List.append_nil, List.append_assoc]
            · exact fun event inside =>
                (List.mem_append.mp inside).elim (calm event) (quiet event)
        | sends unflagged =>
            rw [still] at unflagged
            cases unflagged
        | drains flagged =>
            refine ⟨silent, [.drains state.session.recovery.poisonedTxId], ?_, calm, Or.inr ?_⟩
            · rw [grown, history]
            · rw [still]
              rfl
      · refine ⟨silent, rest ++ events, ?_, calm, Or.inr ?_⟩
        · rw [grown, history, List.append_assoc]
        · cases rest with
          | nil => cases drained
          | cons event others => exact drained
    · exact ⟨owned, [], [], by simp, fun _ inside => (by cases inside),
        Or.inl ⟨rfl, inFlight_of_free free, flagged⟩⟩
  obtain ⟨_, silent, rest, history, calm, stands⟩ := held
  exact ⟨silent, rest, history, calm, stands.imp_left fun stays => ⟨stays.1, stays.2.2⟩⟩

theorem putStream_finish {stream : ReceiveStream} {fed : List Read}
    {polled : List WireEvent × Poll} {events : List PipeEvent} {item : Item}
    {ended : ReceiveStream}
    (running : stream.holding = (system.session.recovery, true, stream.transactionId, false))
    (after : ReceiveStream.Rule.After
      (ReceiveStream.Running system.session.recovery stream.transactionId)
      (ReceiveStream.Running system.session.recovery stream.transactionId)
      (ReceiveStream.Stopped system.session.recovery stream.transactionId) fed [] polled)
    (ready : polled.2 = .ready item ended) (done : ended.done = true) :
    ∃ (last : ReceiveStream) (doubt : Bool), last.guard = true ∧
      last.transactionId = stream.transactionId ∧
      (system.putStream id stream events polled).tasks id =
        some (.stream (last.finish doubt) .idle) ∧
      (system.putStream id stream events polled).session.operationLock = none ∧
      (system.putStream id stream events polled).session.recovery =
        (last.finish doubt).recovery := by
  have guarded : stream.guard = true := congrArg (fun holding => holding.2.1) running
  rcases polled with ⟨wires, polled⟩
  cases ready
  obtain ⟨last, doubt, same, held, why⟩ := after.2 done
  subst same
  have settled := @settle_finish system _ _ guarded _ held doubt
  refine ⟨last, doubt, congrArg (fun holding => holding.2.1) held,
    congrArg (fun holding => holding.2.2.1) held, put_self _ _ _ _ _, ?_, rfl⟩
  simp only [putStream, put_session, settled]

/-- What a poll that reports the end leaves, where the stream had the lock. -/
def Finished (system next : System) (id : Nat) : Prop :=
  next.session.operationLock = none ∧
    ∃ (last : ReceiveStream) (doubt : Bool), last.guard = true ∧
      system.inFlight = some last.transactionId ∧
      next.tasks id = some (.stream (last.finish doubt) .idle) ∧
      next.session.recovery = (last.finish doubt).recovery

theorem Finished.ended (finished : Finished system next id) (owned : Owned next) :
    Over next id := by
  obtain ⟨_, last, doubt, _, _, found, _⟩ := finished
  exact owned.ended found rfl

/-- A poll of `next_chunk` that reports the end finishes the stream. -/
theorem finished_putStream {stream : ReceiveStream} {fed : List Read}
    {polled : List WireEvent × Poll} {events : List PipeEvent}
    (inFlight : system.inFlight = some stream.transactionId)
    (running : stream.holding = (system.session.recovery, true, stream.transactionId, false))
    (after : ReceiveStream.Rule.After
      (ReceiveStream.Running system.session.recovery stream.transactionId)
      (ReceiveStream.Running system.session.recovery stream.transactionId)
      (ReceiveStream.Stopped system.session.recovery stream.transactionId) fed [] polled)
    (ends : polled.2.ends = true)
    (done : ∀ item ended, polled.2 = .ready item ended → item.ends = true → ended.done = true) :
    Finished system (system.putStream id stream events polled) id := by
  cases ready : polled.2 with
  | pending waiting =>
      rw [ready] at ends
      cases ends
  | ready item ended =>
      rw [ready] at ends
      obtain ⟨last, doubt, guard, same, found, free, recovery⟩ :=
        @putStream_finish system id _ _ _ events _ _ running after ready
          (done item ended ready ends)
      exact ⟨free, last, doubt, guard, by rw [same]; exact inFlight, found, recovery⟩

/-- A step in which a stream reports its end finishes it, or it was over before. -/
theorem finished_of_reportsEnd (owned : Owned system) (taken : Steps system action next)
    (reports : system.reportsEnd id action = true) (expected : ReadExpected system action) :
    Finished system next id ∨
      system.session.operationLock ≠ some id ∧ Over next id := by
  have owned' := (owned.step taken).1
  have rule := fun txId => ReceiveStream.running_rule system.session.recovery txId
  cases action with
  | setSplitHeaderData split => cases reports
  | spawn other request => cases reports
  | acquire other => cases reports
  | drop other => cases reports
  | nextChunk other =>
      simp only [reportsEnd, Bool.and_eq_true, beq_iff_eq] at reports
      obtain ⟨mine, ends⟩ := reports
      subst mine
      split at ends
      · rename_i stream found
        rcases Bool.eq_false_or_eq_true stream.done with done | going
        · refine Or.inr ⟨(owned.finished found done).1, ?_⟩
          have stepped := owned.nextChunk_done found done
          rw [show system.step (.nextChunk other) = some next from taken] at stepped
          cases stepped
          exact owned'.ended (put_self _ _ _ _ _) done
        · obtain ⟨_, inFlight, running⟩ := owned.running found (Or.inl going)
          have looped : ({ stream with recovery := system.session.recovery } :
              ReceiveStream).nextChunk =
                ({ stream with recovery := system.session.recovery } : ReceiveStream).loop := by
            simp only [ReceiveStream.nextChunk, going, Bool.false_eq_true, ↓reduceIte]
          simp only [Steps, System.step, found] at taken
          cases taken
          rw [looped] at ends ⊢
          exact Or.inl (finished_putStream inFlight running
            ((rule _).loop [] _ [] ⟨running, fun e => List.not_mem_nil⟩) ends
            fun item ended ready => ReceiveStream.loop_ends _ ready)
      · cases ends
  | cancel other =>
      simp only [reportsEnd, Bool.and_eq_true, beq_iff_eq] at reports
      obtain ⟨mine, ends⟩ := reports
      subst mine
      split at ends
      · rename_i stream found
        refine Or.inr ⟨(owned.finished found ends).1, ?_⟩
        simp only [Steps, System.step, found, ends, ↓reduceIte] at taken
        cases taken
        exact owned'.ended (put_self _ _ _ _ _) ends
      · cases ends
  | answer other answer =>
      simp only [reportsEnd, Bool.and_eq_true, beq_iff_eq] at reports
      obtain ⟨mine, ends⟩ := reports
      subst mine
      split at ends
      · rename_i stream bytes found
        obtain ⟨_, inFlight, running⟩ := owned.running found (Or.inr (by decide))
        simp only [Steps, System.step, found] at taken
        cases taken
        refine Or.inl (finished_putStream inFlight running
          ((rule _).resume [] [] (.ok bytes) ⟨running, fun e => List.not_mem_nil⟩) ends
          fun item ended ready => ReceiveStream.resume_ends ?_ ready)
        intro empty
        cases empty
        simp only [ReadExpected, found] at expected
        exact expected
      · rename_i stream e found
        obtain ⟨_, inFlight, running⟩ := owned.running found (Or.inr (by decide))
        simp only [Steps, System.step, found] at taken
        cases taken
        unfold answerChunk
        exact Or.inl (finished_putStream inFlight running
          ((rule _).resume [] [] (.error e) ⟨running, fun e => List.not_mem_nil⟩) rfl
          fun item ended ready => ReceiveStream.resume_ends (fun empty => by cases empty) ready)
      · rename_i stream found
        obtain ⟨_, inFlight, running⟩ := owned.running found (Or.inr (by decide))
        have guarded : ({ stream with recovery := system.session.recovery } :
          ReceiveStream).guard = true := congrArg (fun holding => holding.2.1) running
        simp only [Steps, System.step, found] at taken
        cases taken
        refine Or.inl ⟨?_, _, false, guarded, inFlight, put_self _ _ _ _ _, rfl⟩
        unfold answerCancel
        rw [put_session, settle_finish guarded running]
      · rename_i stream e found
        obtain ⟨_, inFlight, running⟩ := owned.running found (Or.inr (by decide))
        have guarded : ({ stream with recovery := system.session.recovery } :
          ReceiveStream).guard = true := congrArg (fun holding => holding.2.1) running
        simp only [Steps, System.step, found] at taken
        cases taken
        refine Or.inl ⟨?_, _, e != .deviceReset, guarded, inFlight, put_self _ _ _ _ _, rfl⟩
        unfold answerCancel
        rw [put_session, settle_finish guarded running]
      · cases ends

/-- A stream that is reported to be over without having been finished. -/
theorem not_over_of_unexpected (owned : Owned system) (taken : Steps system action next)
    (reports : system.reportsEnd id action = true) (unexpected : ¬ ReadExpected system action) :
    ¬ Over next id := by
  rintro ⟨_, ended, found', done, _⟩
  unfold ReadExpected at unexpected
  split at unexpected
  · rename_i other
    split at unexpected
    · rename_i stream found
      simp only [reportsEnd, Bool.and_eq_true, beq_iff_eq] at reports
      rw [reports.1] at found taken
      obtain ⟨locked, inFlight, running⟩ := owned.running found (Or.inr (by decide))
      have going : stream.done = false := congrArg (fun holding => holding.2.2.2) running
      have out_of_place : stream.emptyReadExpected = false := by
        simpa only [Bool.not_eq_true] using unexpected
      have same : ({ stream with recovery := system.session.recovery } :
          ReceiveStream).emptyReadExpected = false := out_of_place
      simp only [Steps, System.step, found, answerStream, answerChunk,
        ReceiveStream.resume_unexpected same] at taken
      cases taken
      rw [putStream, put_self] at found'
      cases found'
      rw [show stream.done = true from done] at going
      cases going
    · exact unexpected trivial
  · exact unexpected trivial

/-- A transaction that is still outstanding once its stream is over is flagged. -/
theorem Finished.flagged (finished : Finished system next id) (owned : Owned system)
    (taken : Steps system action next) (undropped : ¬ system.AbandonsDrain action)
    {txId : UInt32} (inFlight : system.inFlight = some txId)
    (left : txId ∈ outstanding next.history) : next.session.recovery = ⟨true, txId⟩ := by
  obtain ⟨_, events, grown, move⟩ := owned.step taken
  rw [inFlight, inFlight_of_free finished.1] at move
  generalize recovery : next.session.recovery = cell at move ⊢
  cases move with
  | settles passes settled =>
      rw [grown, outstanding_append] at left
      exact absurd left (not_outstanding_of_settled passes settled)
  | flags passes call => rfl
  | undrained abandoned => exact absurd abandoned undropped

end Steps

/-- In every run, a stream that reports its end gives the session back, unless the
report is that of an empty read `next_chunk` does not expect. -/
theorem gives_back_iff {before : List Action} {system next : System} {id : Nat} {action : Action}
    (run : Runs.Run Steps initial before system) (taken : Steps system action next)
    (reports : system.reportsEnd id action = true) :
    GivesBack system next id ↔ ReadExpected system action := by
  have owned := owned_of_run run
  have owned' := (owned.step taken).1
  have undropped : ¬ system.AbandonsDrain action := by
    intro abandoned
    cases action with
    | drop other => cases reports
    | setSplitHeaderData _ | spawn _ _ | acquire _ | answer _ _ | nextChunk _ | cancel _ =>
        exact abandoned
  constructor
  · intro gives
    by_contra unexpected
    exact not_over_of_unexpected owned taken reports unexpected gives.ended
  · intro expected
    have finished := finished_of_reportsEnd owned taken reports expected
    have ended : Over next id := finished.elim
      (fun finished => finished.ended owned') (fun before => before.2)
    refine ⟨ended, fun later last run => ?_, fun locked => ?_⟩
    · have held : Owned last ∧ Over last id := run.invariant
        (fun last => Owned last ∧ Over last id)
        (fun _ _ _ before taken =>
          ⟨(before.1.step taken.2).1, before.2.step before.1 taken.1 taken.2⟩)
        ⟨owned', ended⟩
      obtain ⟨_, stream, found, done, _⟩ := held.2
      exact ⟨held.2, _, held.1.nextChunk_done found done, rfl⟩
    · rcases finished with finished | before
      · obtain ⟨free, final, doubt, guard, inFlight, found, recovery⟩ := finished
        refine ⟨free, final, doubt, found, fun state inside released => ?_, fun left => ?_⟩
        · rw [recovery]
          exact ReceiveStream.finishing_released guard inside released
        · have flagged := Finished.flagged ⟨free, final, doubt, guard, inFlight, found, recovery⟩
            owned taken undropped inFlight left
          exact ⟨flagged, drainsFirst owned' free flagged⟩
      · exact absurd locked before.1

private theorem first_read : ∃ system : System,
    Runs.Run Steps initial [.spawn 0 ⟨.startReceiveStream none, .getObject, [7]⟩, .acquire 0,
      .answer 0 .done, .nextChunk 0] system ∧
    system.tasks 0 = some (.stream (.start .initial 1 .getObject none) .nextChunk) := by
  have opened : Runs.Run Steps initial
      [.spawn 0 ⟨.startReceiveStream none, .getObject, [7]⟩, .acquire 0, .answer 0 .done] _ :=
    Runs.Run.of_foldlM (fun _ _ _ taken => taken) _ rfl
  have passed : (ReceiveStream.start .initial 1 .getObject none).pass =
      ([], .awaits (.start .initial 1 .getObject none)) := rfl
  have called : (ReceiveStream.start .initial 1 .getObject none).nextChunk =
      ([], .pending (.start .initial 1 .getObject none)) := by
    rw [ReceiveStream.nextChunk, ReceiveStream.loop, passed]
    rfl
  exact ⟨_, opened.snoc (congrArg (fun polled => some (putStream _ 0 _ [] polled)) called),
    put_self _ _ _ _ _⟩

private theorem read_step {system : System} {id : Nat} {stream : ReceiveStream}
    (found : system.tasks id = some (.stream stream .nextChunk)) (bytes : Bytes) :
    Steps system (.answer id (.read bytes)) (system.answerChunk id
      { stream with recovery := system.session.recovery } (.ok bytes)) := by
  simp only [Steps, step, found, answerStream]

private theorem failed_step {system : System} {id : Nat} {stream : ReceiveStream}
    (found : system.tasks id = some (.stream stream .nextChunk)) (e : PtpError) :
    Steps system (.answer id (.failed e)) (system.answerChunk id
      { stream with recovery := system.session.recovery } (.error e)) := by
  simp only [Steps, step, found, answerStream]

/-- The transport fails: the session is given back. -/
theorem gives_back_disconnected : ∃ system next : System,
    Steps system (.answer 0 (.failed .disconnected)) next ∧ GivesBack system next 0 := by
  obtain ⟨system, run, found⟩ := first_read
  have taken := failed_step found .disconnected
  have reports : system.reportsEnd 0 (.answer 0 (.failed .disconnected)) = true := by
    simp only [reportsEnd, found, BEq.rfl, Bool.and_self]
  exact ⟨system, _, taken, (gives_back_iff run taken reports).mpr trivial⟩

/-- The first read is empty: the stream reports an error and keeps the session. -/
theorem kept_after_empty_read : ¬ ∀ (before : List Action) (system next : System) (id : Nat)
    (action : Action), Runs.Run Steps initial before system → Steps system action next →
      system.reportsEnd id action = true → GivesBack system next id := by
  intro gives
  obtain ⟨system, run, found⟩ := first_read
  have unexpected : ({ ReceiveStream.start .initial 1 .getObject none with
      recovery := system.session.recovery } : ReceiveStream).emptyReadExpected = false := rfl
  have taken := read_step found []
  have reports : system.reportsEnd 0 (.answer 0 (.read [])) = true := by
    simp only [reportsEnd, found, BEq.rfl, ReceiveStream.resume_unexpected unexpected]
    rfl
  obtain ⟨_, stream, found', done, _⟩ := (gives _ _ _ _ _ run taken reports).ended
  rw [answerChunk, ReceiveStream.resume_unexpected unexpected, putStream, put_self] at found'
  cases found'
  cases done

end System

end Ptp
