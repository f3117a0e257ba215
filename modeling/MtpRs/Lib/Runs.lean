import Mathlib.Algebra.Order.Ring.Nat
import Mathlib.Data.List.Infix

set_option autoImplicit false

/- Finite runs of a system that takes one action after the other. -/
namespace Runs

variable {σ α : Type}

/-- `Run step s actions t`: the actions, in order, lead from `s` to `t`. -/
inductive Run (step : σ → α → σ → Prop) : σ → List α → σ → Prop where
  | nil (state : σ) : Run step state [] state
  | snoc {first middle last : σ} {actions : List α} {action : α}
      (before : Run step first actions middle) (taken : step middle action last) :
      Run step first (actions ++ [action]) last

/-- The system restricted to the steps whose state and action meet `allowed`. -/
def Restricted (allowed : σ → α → Prop) (step : σ → α → σ → Prop) : σ → α → σ → Prop :=
  fun state action next => allowed state action ∧ step state action next

namespace Run

variable {step : σ → α → σ → Prop} {first middle last : σ} {front back : List α}

/-- What one step preserves holds at the end of every run. -/
theorem invariant (holds : σ → Prop) (preserved : ∀ state action next,
      holds state → step state action next → holds next)
    (run : Run step first front last) (initially : holds first) : holds last := by
  induction run with
  | nil => exact initially
  | snoc before taken ih => exact preserved _ _ _ ih taken

/-- A run that is not over is no longer than the potential its steps raise. -/
theorem over_or_length_le {holds : σ → Prop} (atEnd : σ → Prop) {potential : σ → Nat}
    (preserved : ∀ state action next, holds state → step state action next → holds next)
    (stays : ∀ state action next, holds state → atEnd state → step state action next → atEnd next)
    (rises : ∀ state action next, holds state → step state action next →
      atEnd next ∨ potential state < potential next)
    (run : Run step first front last) (initially : holds first) :
    atEnd last ∨ front.length + potential first ≤ potential last := by
  induction run with
  | nil => exact Or.inr (by simp)
  | @snoc middle last actions action before taken ih =>
      rcases ih with ended | length
      · exact Or.inl (stays _ _ _ (before.invariant holds preserved initially) ended taken)
      · refine (rises _ _ _ (before.invariant holds preserved initially) taken).imp_right
          fun higher => ?_
        rw [List.length_append, List.length_singleton]
        omega

theorem cons {action : α} (taken : step first action middle) (run : Run step middle back last) :
    Run step first (action :: back) last := by
  induction run with
  | nil => exact .snoc (.nil first) taken
  | snoc before next ih => exact .snoc ih next

theorem append (earlier : Run step first front middle) (later : Run step middle back last) :
    Run step first (front ++ back) last := by
  induction later with
  | nil => simpa only [List.append_nil] using earlier
  | snoc before taken ih => simpa only [List.append_assoc] using Run.snoc ih taken

theorem relax {wider : σ → α → σ → Prop}
    (included : ∀ state action next, step state action next → wider state action next)
    (run : Run step first front last) : Run wider first front last := by
  induction run with
  | nil => exact .nil _
  | snoc before taken ih => exact .snoc ih (included _ _ _ taken)

/-- A run whose states allow more than it was restricted to. -/
theorem allow {allowed wider : σ → α → Prop} (holds : σ → Prop)
    (allows : ∀ state action, holds state → allowed state action → wider state action)
    (preserved : ∀ state action next, holds state → allowed state action →
      step state action next → holds next)
    (run : Run (Restricted allowed step) first front last) (initially : holds first) :
    Run (Restricted wider step) first front last := by
  induction run with
  | nil => exact .nil _
  | snoc before taken ih =>
      have held := before.invariant holds
        (fun state action next before taken => preserved state action next before taken.1 taken.2)
        initially
      exact .snoc ih ⟨allows _ _ held taken.1, taken.2⟩

/-- Steps that raise a bounded potential lead to where the system is over. -/
theorem exists_over (holds atEnd : σ → Prop) (potential : σ → Nat) (bound : Nat)
    (bounded : ∀ state, holds state → potential state ≤ bound)
    (rises : ∀ state, holds state → ¬ atEnd state → ∃ action next, step state action next ∧
      holds next ∧ (atEnd next ∨ potential state < potential next)) (initially : holds first) :
    ∃ actions last, Run step first actions last ∧ holds last ∧ atEnd last := by
  -- induction on what the potential is still below its bound
  induction left : bound - potential first using Nat.strongRecOn generalizing first with
  | ind left ih =>
      by_cases ended : atEnd first
      · exact ⟨[], first, .nil first, initially, ended⟩
      · obtain ⟨action, next, taken, held, higher⟩ := rises first initially ended
        rcases higher with ended | higher
        · exact ⟨_, next, .snoc (.nil first) taken, held, ended⟩
        · have below := bounded next held
          obtain ⟨actions, last, run, rest⟩ := ih (bound - potential next) (by omega) held rfl
          exact ⟨action :: actions, last, cons taken run, rest⟩

/-- What an executable step computes is a run. -/
theorem of_foldlM {next : σ → α → Option σ}
    (sound : ∀ state action after, next state action = some after → step state action after)
    (actions : List α) : ∀ {first last : σ}, actions.foldlM next first = some last →
      Run step first actions last := by
  induction actions with
  | nil =>
      intro first last ran
      cases ran
      exact .nil first
  | cons action rest ih =>
      intro first last ran
      rw [List.foldlM_cons] at ran
      obtain ⟨middle, taken, later⟩ := Option.bind_eq_some_iff.mp ran
      exact cons (sound _ _ _ taken) (ih later)

/-- So is what it computes while each step is an allowed one. -/
theorem restricted_of_foldlM {allowed : σ → α → Prop} [∀ state, DecidablePred (allowed state)]
    (next : σ → α → Option σ) (actions : List α) {first last : σ}
    (ran : actions.foldlM (fun state action =>
      if allowed state action then next state action else none) first = some last) :
    Run (Restricted allowed fun state action after => next state action = some after)
      first actions last := by
  refine of_foldlM (fun state action after taken => ?_) actions ran
  split at taken
  · rename_i permitted
    exact ⟨permitted, taken⟩
  · cases taken

end Run

end Runs
