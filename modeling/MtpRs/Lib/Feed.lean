import Mathlib.Algebra.Order.Ring.Nat
import Mathlib.Data.List.Infix

set_option autoImplicit false

/- Loops that wait for inputs. A loop is its turn function: what one input does
to the state it waits in. Nothing here knows what the inputs are. -/
namespace Feed

variable {σ ι ε α : Type}

/-- What one input does: the loop waits again, or it is over. Either way it
reports events. -/
inductive Turn (σ ε α : Type) where
  | again (state : σ) (events : List ε)
  | done (result : α) (events : List ε)

/-- Where a loop stands after some inputs: what it reported, the state it waits
in or its result, and the inputs it never took. -/
structure Progress (σ ι ε α : Type) where
  events : List ε
  outcome : σ ⊕ α
  unread : List ι

/-- What was reported before comes first. -/
def Progress.after (events : List ε) (progress : Progress σ ι ε α) : Progress σ ι ε α :=
  { progress with events := events ++ progress.events }

@[simp] theorem Progress.after_after (front back : List ε) (progress : Progress σ ι ε α) :
    (progress.after back).after front = progress.after (front ++ back) := by
  simp only [Progress.after, List.append_assoc]

/-- Feed a loop until it is over or the inputs run out. -/
def run (turn : σ → ι → Turn σ ε α) : σ → List ι → Progress σ ι ε α
  | state, [] => ⟨[], .inl state, []⟩
  | state, input :: rest =>
      match turn state input with
      | .again next events =>
          let later := run turn next rest
          ⟨events ++ later.events, later.outcome, later.unread⟩
      | .done result events => ⟨events, .inr result, rest⟩

section Equations

variable (turn : σ → ι → Turn σ ε α)

@[simp] theorem run_nil (state : σ) : run turn state [] = ⟨[], .inl state, []⟩ := rfl

theorem run_again {state next : σ} {input : ι} {events : List ε}
    (taken : turn state input = .again next events) (rest : List ι) :
    run turn state (input :: rest) =
      ⟨events ++ (run turn next rest).events, (run turn next rest).outcome,
        (run turn next rest).unread⟩ := by
  simp only [run, taken]

theorem run_done {state : σ} {input : ι} {result : α} {events : List ε}
    (taken : turn state input = .done result events) (rest : List ι) :
    run turn state (input :: rest) = ⟨events, .inr result, rest⟩ := by
  simp only [run, taken]

/-- Two states that do the same with the first input run alike. -/
theorem run_congr {state other : σ} {input : ι} (same : turn state input = turn other input)
    (rest : List ι) : run turn state (input :: rest) = run turn other (input :: rest) := by
  simp only [run, same]

/-- A loop that still waits has taken every input. -/
theorem unread_of_waiting (inputs : List ι) : ∀ {state last : σ},
    (run turn state inputs).outcome = .inl last → (run turn state inputs).unread = [] := by
  induction inputs with
  | nil => intro state last _; rfl
  | cons input rest ih =>
      intro state last waiting
      cases taken : turn state input with
      | again next events =>
          rw [run_again turn taken] at waiting ⊢
          exact ih waiting
      | done result events =>
          rw [run_done turn taken] at waiting
          cases waiting

end Equations

/-- What a run of `inputs`, after `fed` and `events`, has reached: `waits` of the
state it waits in, or `ends` of its result and the inputs it took. -/
def Reached (waits : List ι → List ε → σ → Prop) (ends : List ι → List ε → α → Prop)
    (fed : List ι) (events : List ε) (inputs : List ι) (progress : Progress σ ι ε α) : Prop :=
  match progress.outcome with
  | .inl last => waits (fed ++ inputs) (events ++ progress.events) last
  | .inr result => ∃ used, inputs = used ++ progress.unread ∧
      ends (fed ++ used) (events ++ progress.events) result

section Reached

variable {waits : List ι → List ε → σ → Prop} {ends : List ι → List ε → α → Prop}
  {fed inputs : List ι} {events : List ε} {progress : Progress σ ι ε α}

theorem Reached.waiting (reached : Reached waits ends fed events inputs progress) {last : σ}
    (outcome : progress.outcome = .inl last) :
    waits (fed ++ inputs) (events ++ progress.events) last := by
  simpa only [Reached, outcome] using reached

theorem Reached.atEnd (reached : Reached waits ends fed events inputs progress) {result : α}
    (outcome : progress.outcome = .inr result) :
    ∃ used, inputs = used ++ progress.unread ∧
      ends (fed ++ used) (events ++ progress.events) result := by
  simpa only [Reached, outcome] using reached

end Reached

/-- The run rule. `waits fed events state` is what holds whenever the loop waits
after taking `fed`; `ends` is what holds when it is over. -/
theorem run_rule (turn : σ → ι → Turn σ ε α)
    (waits : List ι → List ε → σ → Prop) (ends : List ι → List ε → α → Prop)
    (again : ∀ fed events state input next more, waits fed events state →
      turn state input = .again next more → waits (fed ++ [input]) (events ++ more) next)
    (done : ∀ fed events state input result more, waits fed events state →
      turn state input = .done result more → ends (fed ++ [input]) (events ++ more) result)
    (inputs : List ι) : ∀ fed events state, waits fed events state →
      Reached waits ends fed events inputs (run turn state inputs) := by
  induction inputs with
  | nil =>
      intro fed events state holds
      simpa only [Reached, run_nil, List.append_nil] using holds
  | cons input rest ih =>
      intro fed events state holds
      cases taken : turn state input with
      | again next more =>
          have later := ih (fed ++ [input]) (events ++ more) next
            (again fed events state input next more holds taken)
          rw [run_again turn taken]
          cases outcome : (run turn next rest).outcome with
          | inl last =>
              have holds := later.waiting outcome
              simpa only [Reached, outcome, List.append_assoc, List.singleton_append] using holds
          | inr result =>
              obtain ⟨used, split, holds⟩ := later.atEnd outcome
              simp only [Reached]
              refine ⟨input :: used, by rw [List.cons_append, ← split], ?_⟩
              simpa only [List.append_assoc, List.singleton_append] using holds
      | done result more =>
          rw [run_done turn taken]
          exact ⟨[input], rfl, done fed events state input result more holds taken⟩

end Feed
