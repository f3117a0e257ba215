import MtpRs.Ptp.Session.Custody

set_option autoImplicit false

/- Which commands may still have a response in the bulk pipe, and that the
session knows when there are any. -/
namespace Ptp

namespace PipeEvent

/-- How an event changes the transactions whose response may still come. -/
def account (pending : List UInt32) : PipeEvent → List UInt32
  | .sent command => pending ++ [command.transactionId]
  | .reply txId => pending.filter (· ≠ txId)
  | .drained txId => pending.filter (· ≠ txId)
  | .reset txId => pending.filter (· ≠ txId)
  | .drains _ => pending
  | .returned _ _ => pending

end PipeEvent

open PipeEvent (account Settles)

/-- The transactions sent whose own response was not read, nor drained by a
cancel, nor lost in a device reset. -/
def outstanding (history : List PipeEvent) : List UInt32 :=
  history.foldl account []

/-- No transaction but `txId` is outstanding. -/
def Only (txId : UInt32) (pending : List UInt32) : Prop :=
  ∀ other ∈ pending, other = txId

theorem outstanding_append (history events : List PipeEvent) :
    outstanding (history ++ events) = events.foldl account (outstanding history) := by
  rw [outstanding, outstanding, List.foldl_append]

section Accounts

variable {txId : UInt32} {pending : List UInt32} {events : List PipeEvent}

theorem Only.nil (txId : UInt32) : Only txId [] := fun _ inside => absurd inside List.not_mem_nil

theorem Only.eq_nil (only : Only txId pending) (none : txId ∉ pending) : pending = [] := by
  apply List.eq_nil_iff_forall_not_mem.mpr
  intro other inside
  rw [only other inside] at inside
  exact none inside

theorem account_subset {event : PipeEvent} (passes : event.Passes txId) :
    account pending event ⊆ pending := by
  cases event with
  | sent command => cases passes
  | reply other => exact List.filter_subset_self _
  | drained other => exact List.filter_subset_self _
  | reset other => exact List.filter_subset_self _
  | drains other => cases passes
  | returned task failure => exact fun _ inside => inside

/-- Without a new command nothing more becomes outstanding. -/
theorem accounts_subset (passes : ∀ event ∈ events, event.Passes txId) :
    events.foldl account pending ⊆ pending := by
  induction events generalizing pending with
  | nil => exact fun _ inside => inside
  | cons event rest ih =>
      intro other inside
      apply account_subset (passes event List.mem_cons_self)
      exact ih (fun event inside => passes event (List.mem_cons_of_mem _ inside)) inside

theorem Only.passes (only : Only txId pending) (passes : ∀ event ∈ events, event.Passes txId) :
    Only txId (events.foldl account pending) :=
  fun other inside => only other (accounts_subset passes inside)

theorem not_outstanding_of_settled (passes : ∀ event ∈ events, event.Passes txId)
    (settled : ∃ event ∈ events, Settles txId event) : txId ∉ events.foldl account pending := by
  induction events generalizing pending with
  | nil =>
      obtain ⟨event, inside, _⟩ := settled
      cases inside
  | cons event rest ih =>
      have later : ∀ event ∈ rest, event.Passes txId := fun event inside =>
        passes event (List.mem_cons_of_mem _ inside)
      obtain ⟨settling, inside, settles⟩ := settled
      rcases List.mem_cons.mp inside with here | there
      · rw [← here, List.foldl_cons]
        have gone : txId ∉ account pending settling := by
          rcases settles with same | same | same <;> rw [same] <;> simp [account]
        exact fun inside => gone (accounts_subset later inside)
      · exact ih later ⟨settling, there, settles⟩

/-- Once the only outstanding transaction is settled, none is. -/
theorem Only.settled (only : Only txId pending) (passes : ∀ event ∈ events, event.Passes txId)
    (settled : ∃ event ∈ events, Settles txId event) : events.foldl account pending = [] :=
  (only.passes passes).eq_nil (not_outstanding_of_settled passes settled)

theorem foldl_account_of_silent (silent : ∀ event ∈ events, event.Silent) :
    events.foldl account pending = pending := by
  induction events with
  | nil => rfl
  | cons event rest ih =>
      obtain ⟨task, failure, same⟩ := silent event List.mem_cons_self
      rw [List.foldl_cons, same]
      exact ih fun event inside => silent event (List.mem_cons_of_mem _ inside)

end Accounts

namespace System

/-- What holds in every reachable state: a free session is flagged for what is
outstanding, and a transaction in flight is the only one that is. -/
structure Accounted (system : System) : Prop where
  free : system.inFlight = none →
    Only system.session.recovery.poisonedTxId (outstanding system.history) ∧
      (outstanding system.history ≠ [] → system.session.recovery.needed = true)
  held : ∀ txId, system.inFlight = some txId → Only txId (outstanding system.history)

theorem accounted_initial : Accounted initial where
  free := fun _ => ⟨Only.nil _, fun some => absurd rfl some⟩
  held := fun txId same => by cases same

def KeepsDrain (system : System) : Action → Prop
  | .drop id => draining (system.tasks id) = false
  | .setSplitHeaderData _ | .spawn _ _ | .acquire _ | .answer _ _ | .nextChunk _
  | .cancel _ => True

instance (system : System) : DecidablePred (KeepsDrain system)
  | .drop id => inferInstanceAs (Decidable (draining (system.tasks id) = false))
  | .setSplitHeaderData _ | .spawn _ _ | .acquire _ | .answer _ _ | .nextChunk _
  | .cancel _ => isTrue trivial

theorem not_abandonsDrain {system : System} {action : Action} (safe : KeepsDrain system action) :
    ¬ system.AbandonsDrain action := by
  intro abandoned
  cases action with
  | drop id =>
      have draining : draining (system.tasks id) = true := abandoned
      rw [show System.draining (system.tasks id) = false from safe] at draining
      cases draining
  | setSplitHeaderData split => exact abandoned
  | spawn id request => exact abandoned
  | acquire id => exact abandoned
  | answer id answer => exact abandoned
  | nextChunk id => exact abandoned
  | cancel id => exact abandoned

/-- Every step but dropping a call while it drains keeps the account. -/
theorem Accounted.step {system next : System} {action : Action} (accounted : Accounted system)
    (owned : Owned system) (safe : KeepsDrain system action) (taken : Steps system action next) :
    Accounted next := by
  obtain ⟨_, events, history, move⟩ := owned.step taken
  have free := accounted.free
  have held := accounted.held
  generalize system.inFlight = before at move free held
  generalize after : next.inFlight = holder at move
  generalize recovery : next.session.recovery = cell at move
  have grown : outstanding next.history = events.foldl account (outstanding system.history) := by
    rw [history, outstanding_append]
  -- a transaction that goes on, or starts where nothing is outstanding
  have goes_on : ∀ txId, holder = some txId → Only txId (outstanding next.history) →
      Accounted next := by
    intro txId same only
    refine ⟨fun nothing => ?_, fun other mine => ?_⟩
    · rw [after, same] at nothing
      cases nothing
    · rw [after, same] at mine
      cases mine
      exact only
  -- the lock given back
  have gives_back : holder = none → Only cell.poisonedTxId (outstanding next.history) →
      (outstanding next.history ≠ [] → cell.needed = true) → Accounted next := by
    intro same only needed
    refine ⟨fun _ => by rw [recovery]; exact ⟨only, needed⟩, fun other mine => ?_⟩
    rw [after, same] at mine
    cases mine
  cases move with
  | rests silent =>
      rw [foldl_account_of_silent silent] at grown
      cases before with
      | none =>
          obtain ⟨only, needed⟩ := free rfl
          exact gives_back rfl (by rw [grown]; exact only) (by rw [grown]; exact needed)
      | some txId => exact goes_on txId rfl (by rw [grown]; exact held txId rfl)
  | @sends command unflagged =>
      have nothing : outstanding system.history = [] := by
        by_contra some
        rw [(free rfl).2 some] at unflagged
        cases unflagged
      apply goes_on _ rfl
      rw [grown, nothing]
      exact fun other inside => List.mem_singleton.mp inside
  | drains flagged => exact goes_on _ rfl (by rw [grown]; exact (free rfl).1)
  | @drained txId command =>
      have nothing : account (outstanding system.history) (.drained txId) = [] :=
        Only.settled (held txId rfl)
          (fun event inside => by rw [List.mem_singleton.mp inside]; exact rfl)
          ⟨_, List.mem_singleton.mpr rfl, Or.inr (Or.inl rfl)⟩
      apply goes_on _ rfl
      rw [grown, List.foldl_cons, nothing]
      exact fun other inside => List.mem_singleton.mp inside
  | @cancels txId => exact goes_on txId rfl (by rw [grown]; exact held txId rfl)
  | @reads txId _ passes calm =>
      exact goes_on txId rfl (by rw [grown]; exact (held txId rfl).passes passes)
  | @settles txId _ passes settled =>
      have nothing : outstanding next.history = [] := by
        rw [grown, (held txId rfl).settled passes settled]
      exact gives_back rfl (by rw [nothing]; exact Only.nil _) fun some => absurd nothing some
  | @flags txId _ passes call =>
      exact gives_back rfl (by rw [grown]; exact (held txId rfl).passes passes) fun _ => rfl
  | undrained abandoned => exact absurd abandoned (not_abandonsDrain safe)

/-- While no call is dropped in its drain, a free session that may still be sent
a response is flagged, and the next call drains before it sends. -/
theorem recovery_flagged {actions : List Action} {system : System}
    (run : Runs.Run (Runs.Restricted KeepsDrain Steps) initial actions system)
    (free : system.session.operationLock = none) (left : outstanding system.history ≠ []) :
    system.session.recovery.needed = true ∧
      ∀ id next, Steps system (.acquire id) next →
        next.history = system.history ++ [.drains system.session.recovery.poisonedTxId] := by
  have held : Owned system ∧ Accounted system := run.invariant
    (fun system => Owned system ∧ Accounted system)
    (fun _ _ _ before taken =>
      ⟨(before.1.step taken.2).1, before.2.step before.1 taken.1 taken.2⟩)
    ⟨owned_initial, accounted_initial⟩
  have needed := (held.2.free (inFlight_of_free free)).2 left
  refine ⟨needed, fun id next taken => ?_⟩
  simp only [Steps, step] at taken
  split at taken
  · cases taken
    simp only [PtpSession.recoverIfNeeded, RecoveryState.take, needed, ↓reduceIte, putCall,
      put_history]
  · cases taken

/-- A call is dropped while its command is sent. -/
theorem recovery_flagged_dropped_command : ∃ system : System,
    system.session.operationLock = none ∧ outstanding system.history = [1] ∧
      system.session.recovery.needed = true := by
  have run : Runs.Run (Runs.Restricted KeepsDrain Steps) initial
      [.spawn 0 ⟨.execute, .getDeviceInfo, []⟩, .acquire 0, .drop 0] _ :=
    Runs.Run.restricted_of_foldlM step _ rfl
  exact ⟨_, rfl, rfl, (recovery_flagged run rfl (by decide)).1⟩

/-- The second call is dropped while it drains what the first left. -/
theorem recovery_lost : ¬ ∀ (actions : List Action) (system : System),
    Runs.Run Steps initial actions system → system.session.operationLock = none →
      outstanding system.history ≠ [] → system.session.recovery.needed = true := by
  intro flagged
  have run : Runs.Run Steps initial
      [.spawn 0 ⟨.execute, .getDeviceInfo, []⟩, .spawn 1 ⟨.execute, .getDeviceInfo, []⟩,
        .acquire 0, .answer 0 .done, .drop 0, .acquire 1, .drop 1] _ :=
    Runs.Run.of_foldlM (fun _ _ _ taken => taken) _ rfl
  exact absurd (flagged _ _ run rfl (by decide)) (by decide)

end System

end Ptp
