import MtpRs.Ptp.Session.Custody

set_option autoImplicit false

/- After a device reset: for which transactions a session still drains. -/
namespace Ptp

namespace PipeEvent

/-- How an event changes the transactions that were reset. -/
def lose (gone : List UInt32) : PipeEvent → List UInt32
  | .reset txId => txId :: gone
  | .sent command => gone.filter (· ≠ command.transactionId)
  | .reply _ | .drained _ | .drains _ | .returned _ _ => gone

end PipeEvent

open PipeEvent (lose)

/-- The transactions that were reset and whose number was not sent again. -/
def lost (history : List PipeEvent) : List UInt32 :=
  history.foldl lose []

/-- The device was reset under transaction `txId`, and its number was not sent again. -/
def WasReset (history : List PipeEvent) (txId : UInt32) : Prop :=
  ∃ front back, history = front ++ .reset txId :: back ∧
    ∀ command, .sent command ∈ back → command.transactionId ≠ txId

theorem lost_append (history events : List PipeEvent) :
    lost (history ++ events) = events.foldl lose (lost history) := by
  rw [lost, lost, List.foldl_append]

theorem mem_foldl_lose {txId : UInt32} (events : List PipeEvent)
    (unsent : ∀ command, .sent command ∈ events → command.transactionId ≠ txId) :
    ∀ {gone : List UInt32}, txId ∈ gone → txId ∈ events.foldl lose gone := by
  induction events with
  | nil => exact fun inside => inside
  | cons event rest ih =>
      intro gone inside
      apply ih fun command sent => unsent command (List.mem_cons_of_mem _ sent)
      cases event with
      | reset other => exact List.mem_cons_of_mem _ inside
      | sent command =>
          apply List.mem_filter.mpr
          exact ⟨inside, decide_eq_true fun same => unsent command List.mem_cons_self same.symm⟩
      | reply other => exact inside
      | drained other => exact inside
      | drains other => exact inside
      | returned task failure => exact inside

theorem WasReset.mem_lost {history : List PipeEvent} {txId : UInt32}
    (reset : WasReset history txId) : txId ∈ lost history := by
  obtain ⟨front, back, same, unsent⟩ := reset
  rw [same, lost_append, List.foldl_cons]
  exact mem_foldl_lose back unsent List.mem_cons_self

section Events

variable {gone : List UInt32} {events : List PipeEvent}

theorem foldl_lose_of_silent (silent : ∀ event ∈ events, event.Silent) :
    events.foldl lose gone = gone := by
  induction events with
  | nil => rfl
  | cons event rest ih =>
      obtain ⟨task, failure, same⟩ := silent event List.mem_cons_self
      rw [List.foldl_cons, same]
      exact ih fun event inside => silent event (List.mem_cons_of_mem _ inside)

theorem foldl_lose_of_passes {txId : UInt32} (passes : ∀ event ∈ events, event.Passes txId)
    (unreset : ∀ other, .reset other ∉ events) : events.foldl lose gone = gone := by
  induction events with
  | nil => rfl
  | cons event rest ih =>
      have later := ih (fun event inside => passes event (List.mem_cons_of_mem _ inside))
        fun other inside => unreset other (List.mem_cons_of_mem _ inside)
      have first := passes event List.mem_cons_self
      rw [List.foldl_cons]
      cases event with
      | reset other => exact absurd List.mem_cons_self (unreset other)
      | sent command => cases first
      | reply other => exact later
      | drained other => exact later
      | drains other => cases first
      | returned task failure => exact later

theorem drains_not_mem_of_passes {txId other : UInt32}
    (passes : ∀ event ∈ events, event.Passes txId) : .drains other ∉ events :=
  fun inside => passes _ inside

theorem drains_not_mem_of_silent {other : UInt32} (silent : ∀ event ∈ events, event.Silent) :
    .drains other ∉ events := by
  intro inside
  obtain ⟨task, failure, same⟩ := silent _ inside
  cases same

/-- No drain was started for a transaction that was reset. -/
def Unbothered (history : List PipeEvent) : Prop :=
  ∀ front txId back, history = front ++ .drains txId :: back → txId ∉ lost front

theorem Unbothered.append {history : List PipeEvent} (unbothered : Unbothered history)
    (undrained : ∀ other, .drains other ∉ events) : Unbothered (history ++ events) := by
  intro front txId back same
  rcases List.append_eq_append_iff.mp same with ⟨middle, earlier, later⟩ | ⟨middle, earlier, later⟩
  · exact absurd (by rw [later]; simp) (undrained txId)
  · cases middle with
    | nil => exact absurd (by rw [← List.nil_append events, ← later]; simp) (undrained txId)
    | cons event rest =>
        cases later
        exact unbothered front txId rest earlier

theorem Unbothered.drain {history : List PipeEvent} (unbothered : Unbothered history)
    {txId : UInt32} (kept : txId ∉ lost history) : Unbothered (history ++ [.drains txId]) := by
  intro front other back same
  rcases List.append_eq_append_iff.mp same with ⟨middle, earlier, later⟩ | ⟨middle, earlier, later⟩
  · cases middle with
    | nil =>
        cases later
        rw [earlier, List.append_nil]
        exact kept
    | cons event rest =>
        have length := congrArg List.length later
        simp at length
  · cases middle with
    | nil =>
        cases later
        rw [← List.append_nil front, ← earlier]
        exact kept
    | cons event rest =>
        cases later
        exact unbothered front other rest earlier

end Events

namespace System

/-- What holds while no call, as opposed to a stream, is told of a reset. -/
structure Spared (system : System) : Prop where
  unflagged : system.inFlight ≠ none → system.session.recovery.needed = false
  flagged : system.session.recovery.needed = true →
    system.session.recovery.poisonedTxId ∉ lost system.history
  running : ∀ txId, system.inFlight = some txId → txId ∉ lost system.history
  unbothered : Unbothered system.history

theorem spared_initial : Spared initial where
  unflagged := fun busy => absurd rfl busy
  flagged := fun needed => by cases needed
  running := fun txId same => by cases same
  unbothered := fun front txId back same => by
    cases front <;> cases same

/-- A transaction in flight that has not been reset, with no recovery flagged. -/
theorem spared_inFlight {system : System} {txId : UInt32} (mine : system.inFlight = some txId)
    (calm : system.session.recovery.needed = false) (kept : txId ∉ lost system.history)
    (unbothered : Unbothered system.history) : Spared system where
  unflagged := fun _ => calm
  flagged := fun needed => by
    rw [calm] at needed
    cases needed
  running := fun other same => by
    rw [mine] at same
    cases same
    exact kept
  unbothered := unbothered

/-- A pipe at rest, with no recovery flagged. -/
theorem spared_settled {system : System} (idle : system.inFlight = none)
    (calm : system.session.recovery.needed = false) (unbothered : Unbothered system.history) :
    Spared system where
  unflagged := fun busy => absurd idle busy
  flagged := fun needed => by
    rw [calm] at needed
    cases needed
  running := fun other same => by
    rw [idle] at same
    cases same
  unbothered := unbothered

/-- Events that neither lose a transaction nor start a drain. -/
theorem Spared.rests {system next : System} (spared : Spared system) {events : List PipeEvent}
    (silent : ∀ event ∈ events, event.Silent) (holder : next.inFlight = system.inFlight)
    (cell : next.session.recovery = system.session.recovery)
    (history : next.history = system.history ++ events) : Spared next := by
  have same : lost next.history = lost system.history := by
    rw [history, lost_append, foldl_lose_of_silent silent]
  exact {
    unflagged := by
      rw [holder, cell]
      exact spared.unflagged
    flagged := by
      rw [cell, same]
      exact spared.flagged
    running := by
      rw [holder, same]
      exact spared.running
    unbothered := by
      rw [history]
      exact spared.unbothered.append fun other => drains_not_mem_of_silent silent }

/-- A call that gives up flags a transaction that has not been reset. -/
theorem Spared.flags {system next : System} (spared : Spared system) {txId : UInt32}
    {events : List PipeEvent} (mine : system.inFlight = some txId)
    (passes : ∀ event ∈ events, event.Passes txId) (calm : ∀ other, .reset other ∉ events)
    (idle : next.inFlight = none)
    (cell : next.session.recovery = system.session.recovery.flag txId)
    (history : next.history = system.history ++ events) : Spared next where
  unflagged := fun busy => absurd idle busy
  flagged := fun _ => by
    rw [cell, history, lost_append, foldl_lose_of_passes passes calm]
    exact spared.running txId mine
  running := fun other same => by
    rw [idle] at same
    cases same
  unbothered := by
    rw [history]
    exact spared.unbothered.append fun other => drains_not_mem_of_passes passes

theorem Spared.step {system next : System} {action : Action} (spared : Spared system)
    (owned : Owned system) (unreset : ¬ system.ResetsCall action)
    (taken : Steps system action next) : Spared next := by
  obtain ⟨_, events, history, move⟩ := owned.step taken
  -- a transaction is in flight before every move but the first three
  have quiet : ∀ txId, system.inFlight = some txId → system.session.recovery.needed = false :=
    fun txId same => spared.unflagged (by rw [same]; exact Option.some_ne_none txId)
  -- a command starts its transaction anew
  have begun : ∀ (front : List PipeEvent) (command : CommandContainer),
      command.transactionId ∉ lost (front ++ [.sent command]) := by
    intro front command inside
    rw [lost_append] at inside
    exact of_decide_eq_true (List.mem_filter.mp inside).2 rfl
  generalize before : system.inFlight = holder at move
  generalize after : next.inFlight = holder' at move
  generalize recovery : next.session.recovery = cell at move
  cases move with
  | rests silent => exact spared.rests silent (after.trans before.symm) recovery history
  | @sends command unflagged =>
      apply spared_inFlight after
      · rw [recovery]
        rfl
      · rw [history]
        exact begun _ _
      · rw [history]
        exact spared.unbothered.append fun other inside => by cases List.mem_singleton.mp inside
  | drains flagged =>
      have kept := spared.flagged flagged
      apply spared_inFlight after
      · rw [recovery]
        rfl
      · rw [history, lost_append]
        exact kept
      · rw [history]
        exact spared.unbothered.drain kept
  | @drained txId command =>
      apply spared_inFlight after
      · rw [recovery, quiet txId before]
      · rw [history, List.append_cons]
        exact begun _ _
      · rw [history]
        exact spared.unbothered.append fun other inside => by simp at inside
  | @cancels txId =>
      have kept := spared.running txId before
      apply spared_inFlight after
      · rw [recovery, quiet txId before]
      · rw [history, lost_append]
        exact kept
      · rw [history]
        exact spared.unbothered.drain kept
  | @reads txId _ passes calm =>
      apply spared_inFlight after
      · rw [recovery, quiet txId before]
      · rw [history, lost_append, foldl_lose_of_passes passes calm]
        exact spared.running txId before
      · rw [history]
        exact spared.unbothered.append fun other => drains_not_mem_of_passes passes
  | @settles txId _ passes settled =>
      apply spared_settled after
      · rw [recovery, quiet txId before]
      · rw [history]
        exact spared.unbothered.append fun other => drains_not_mem_of_passes passes
  | @flags txId _ passes call =>
      exact spared.flags before passes (fun other inside => unreset (call other inside)) after
        recovery history
  | @undrained txId abandoned =>
      apply spared_settled after
      · rw [recovery, quiet txId before]
      · rw [history]
        exact spared.unbothered.append fun other => List.not_mem_nil

/-- A call that is told of a reset flags the transaction that is gone. -/
theorem resetsCall_flags {system next : System} {action : Action} (owned : Owned system)
    (reset : system.ResetsCall action) (taken : Steps system action next) :
    next.session.recovery.needed = true ∧
      .reset next.session.recovery.poisonedTxId ∈ next.history := by
  cases action with
  | answer id answer =>
      obtain ⟨same, call⟩ := reset
      subst same
      simp only [Steps, System.step] at taken
      split at taken
      · rename_i request await found
        obtain ⟨after, resumed, same⟩ := Option.map_eq_some_iff.mp taken
        subst same
        have busy : ¬ Bystander (.call request await) := by
          intro idle
          have waits : await = .lock := idle
          subst waits
          cases resumed
        obtain ⟨_, armed, _⟩ := owned.holder found busy
        rw [putCall_eq, put_history]
        -- every await that can fail drops an armed scope, or flags by hand
        cases await with
        | lock => cases resumed
        | source scope => cases resumed
        | recover txId =>
            cases resumed
            exact ⟨rfl, by simp [After.trail, resetEvents]⟩
        | command scope | header scope | payload scope | chunk scope | combined scope =>
            cases resumed
            have armed : scope.armed = true := armed
            simp [PtpSession.fail, PtpSession.leave, TransactionScope.drop, armed, After.trail,
              resetEvents]
        | response scope skipped =>
            cases resumed
            have armed : scope.armed = true := armed
            simp [PtpSession.responseRead, receiveResponse, PtpSession.receiveOver,
              PtpSession.leave, TransactionScope.drop, armed, After.trail, resetEvents]
        | receive scope state =>
            cases resumed
            have armed : scope.armed = true := armed
            have failed : executeWithReceive scope.txId request.operation state
                (.error .deviceReset) = .done (.error .deviceReset) [] := by
              unfold executeWithReceive
              split <;> rfl
            simp [PtpSession.dataRead, failed, PtpSession.receiveOver, PtpSession.leave,
              TransactionScope.drop, armed, After.trail, resetEvents]
      · rename_i stream activity found
        rw [found] at call
        cases call
      · cases taken
  | setSplitHeaderData split => exact reset.elim
  | spawn id request => exact reset.elim
  | acquire id => exact reset.elim
  | nextChunk id => exact reset.elim
  | cancel id => exact reset.elim
  | drop id => exact reset.elim

/-- While only streams are told of a reset, the session is left alone: it is not
flagged for a transaction that was reset, and no drain names one. A step that
tells a call of a reset flags it. -/
theorem left_alone {actions : List Action} {system : System}
    (run : Runs.Run (Runs.Restricted (fun system action => ¬ ResetsCall system action) Steps)
      initial actions system) :
    (∀ txId, WasReset system.history txId →
      ¬ (system.session.recovery.needed = true ∧ system.session.recovery.poisonedTxId = txId)) ∧
    (∀ front txId back, system.history = front ++ .drains txId :: back → ¬ WasReset front txId) ∧
    ∀ action next, Steps system action next → system.ResetsCall action →
      next.session.recovery.needed = true ∧
        .reset next.session.recovery.poisonedTxId ∈ next.history := by
  have held : Owned system ∧ Spared system := run.invariant
    (fun system => Owned system ∧ Spared system)
    (fun _ _ _ before taken =>
      ⟨(before.1.step taken.2).1, before.2.step before.1 taken.1 taken.2⟩)
    ⟨owned_initial, spared_initial⟩
  obtain ⟨owned, spared⟩ := held
  refine ⟨?_, ?_, fun action next taken reset => resetsCall_flags owned reset taken⟩
  · rintro txId reset ⟨needed, same⟩
    rw [← same] at reset
    exact spared.flagged needed reset.mem_lost
  · intro front txId back same reset
    exact spared.unbothered front txId back same reset.mem_lost

/-- A stream's cancel is told of the reset; the next call sends at once. -/
theorem left_alone_stream : ∃ system : System,
    WasReset system.history 1 ∧ system.session.recovery.needed = false ∧
      ¬ (system.session.recovery.needed = true ∧ system.session.recovery.poisonedTxId = 1) := by
  have run : Runs.Run (Runs.Restricted (fun system action => ¬ ResetsCall system action) Steps)
      initial [.spawn 0 ⟨.startReceiveStream none, .getObject, [7]⟩, .acquire 0, .answer 0 .done,
        .cancel 0, .answer 0 (.failed .deviceReset), .drop 0,
        .spawn 1 ⟨.execute, .getDeviceInfo, []⟩, .acquire 1] _ :=
    Runs.Run.restricted_of_foldlM step _ rfl
  have reset : WasReset [.sent ⟨.getObject, 1, [7]⟩, .returned 0 none, .drains 1, .reset 1,
      .returned 0 (some .deviceReset), .sent ⟨.getDeviceInfo, 2, []⟩] 1 := by
    refine ⟨[.sent ⟨.getObject, 1, [7]⟩, .returned 0 none, .drains 1], _, rfl, ?_⟩
    intro command sent
    simp at sent
    rw [sent]
    decide
  exact ⟨_, reset, rfl, (left_alone run).1 1 reset⟩

/-- A call told of a reset is drained for by the next one. -/
theorem reset_drained : ¬ ∀ (actions : List Action) (system : System),
    Runs.Run Steps initial actions system → ∀ txId, WasReset system.history txId →
      ¬ (system.session.recovery.needed = true ∧ system.session.recovery.poisonedTxId = txId) := by
  intro alone
  have run : Runs.Run Steps initial
      [.spawn 0 ⟨.execute, .getDeviceInfo, []⟩, .acquire 0, .answer 0 .done,
        .answer 0 (.failed .deviceReset)] _ :=
    Runs.Run.of_foldlM (fun _ _ _ taken => taken) _ rfl
  refine alone _ _ run 1 ⟨[.sent ⟨.getDeviceInfo, 1, []⟩], [.returned 0 (some .deviceReset)], rfl,
    ?_⟩ (by decide)
  intro command sent
  simp at sent

end System

end Ptp
