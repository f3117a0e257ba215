set_option autoImplicit false

/- Computations that read and change a state and may fail. What one has changed before it fails
stays changed. -/
namespace Attempts

/-- From a state, a value or an error, and the state it leaves. -/
def Attempt (σ ε α : Type) : Type := σ → Except ε α × σ

variable {σ ε ε' α β : Type}

namespace Attempt

def done (value : α) : Attempt σ ε α := fun state => (.ok value, state)

def fail (error : ε) : Attempt σ ε α := fun state => (.error error, state)

/-- One after the other, up to the first that fails. -/
def andThen (first : Attempt σ ε α) (next : α → Attempt σ ε β) : Attempt σ ε β := fun state =>
  match first state with
  | (.ok value, state) => next value state
  | (.error error, state) => (.error error, state)

instance : Monad (Attempt σ ε) where
  pure := done
  bind := andThen

/-- What neither reads nor changes the state. -/
def lift (result : Except ε α) : Attempt σ ε α := fun state => (result, state)

def mapError (attempt : Attempt σ ε α) (change : ε → ε') : Attempt σ ε' α := fun state =>
  match attempt state with
  | (.ok value, state) => (.ok value, state)
  | (.error error, state) => (.error (change error), state)

/-- An attempt, and however it ends a second one that cleans up after it. What is reported where
only the second fails is for the caller to say. -/
def cleanedUp (attempt : Attempt σ ε α) (cleanup : Attempt σ ε' Unit) (lost : ε' → ε) :
    Attempt σ ε α := fun state =>
  match attempt state with
  | (.ok value, state) =>
      match cleanup state with
      | (.ok _, state) => (.ok value, state)
      | (.error error, state) => (.error (lost error), state)
  | (.error error, state) => (.error error, (cleanup state).2)

/-- Where it ends with a value the one condition holds, where it fails the other. -/
def Ends (attempt : Attempt σ ε α) (state : σ) (finished : α → σ → Prop)
    (failed : ε → σ → Prop) : Prop :=
  match attempt state with
  | (.ok value, after) => finished value after
  | (.error error, after) => failed error after

section

variable {attempt : Attempt σ ε α} {state : σ} {finished : α → σ → Prop} {failed : ε → σ → Prop}

theorem Ends.mono {finished' : α → σ → Prop} {failed' : ε → σ → Prop}
    (ends : attempt.Ends state finished failed)
    (value : ∀ a after, finished a after → finished' a after)
    (error : ∀ e after, failed e after → failed' e after) :
      attempt.Ends state finished' failed' := by
  unfold Ends at *
  split at ends
  · exact value _ _ ends
  · exact error _ _ ends

theorem Ends.and {finished' : α → σ → Prop} {failed' : ε → σ → Prop}
    (ends : attempt.Ends state finished failed) (also : attempt.Ends state finished' failed') :
    attempt.Ends state (fun a after => finished a after ∧ finished' a after)
      fun e after => failed e after ∧ failed' e after := by
  unfold Ends at *
  rcases ran : attempt state with ⟨error | value, after⟩
  · rw [ran] at ends also
    exact ⟨ends, also⟩
  · rw [ran] at ends also
    exact ⟨ends, also⟩

theorem ends_of_ok (value : ∀ a after, attempt state = (.ok a, after) → finished a after) :
    attempt.Ends state finished fun _ _ => True := by
  unfold Ends
  split
  · next ran => exact value _ _ ran
  · exact trivial

theorem ends_done {value : α} (holds : finished value state) :
    (done value : Attempt σ ε α).Ends state finished failed := holds

theorem ends_pure {value : α} (holds : finished value state) :
    (pure value : Attempt σ ε α).Ends state finished failed := holds

theorem ends_fail {error : ε} (holds : failed error state) :
    (fail error : Attempt σ ε α).Ends state finished failed := holds

theorem ends_bind {next : α → Attempt σ ε β} {finished : β → σ → Prop} (between : α → σ → Prop)
    (first : attempt.Ends state between failed)
    (rest : ∀ value after, between value after → (next value).Ends after finished failed) :
    (attempt >>= next).Ends state finished failed := by
  unfold Ends at first
  show (attempt.andThen next).Ends state finished failed
  unfold Ends andThen
  rcases ran : attempt state with ⟨error | value, after⟩
  · rw [ran] at first
    exact first
  · rw [ran] at first
    exact rest value after first

theorem ends_lift {result : Except ε α} (value : ∀ a, result = .ok a → finished a state)
    (error : ∀ e, result = .error e → failed e state) :
    (lift result : Attempt σ ε α).Ends state finished failed := by
  cases result with
  | ok a => exact value a rfl
  | error e => exact error e rfl

theorem ends_mapError {change : ε → ε'} {failed : ε' → σ → Prop}
    (ends : attempt.Ends state finished fun error after => failed (change error) after) :
    (attempt.mapError change).Ends state finished failed := by
  unfold Ends at ends
  unfold Ends mapError
  rcases ran : attempt state with ⟨error | value, after⟩
  · rw [ran] at ends
    exact ends
  · rw [ran] at ends
    exact ends

theorem ends_cleanedUp {cleanup : Attempt σ ε' Unit} {lost : ε' → ε} (between : α → σ → Prop)
    (first : attempt.Ends state between fun _ _ => True)
    (rest : ∀ value after, between value after →
      cleanup.Ends after (fun _ last => finished value last) fun _ _ => True) :
    (attempt.cleanedUp cleanup lost).Ends state finished fun _ _ => True := by
  unfold Ends at first
  unfold Ends cleanedUp
  rcases ran : attempt state with ⟨error | value, after⟩
  · exact trivial
  · rw [ran] at first
    have cleaned := rest value after first
    unfold Ends at cleaned
    rcases done : cleanup after with ⟨error | _, last⟩
    · simp only [done]
    · rw [done] at cleaned
      simp only [done]
      exact cleaned

/-- What the rules say of a run that ended with a value. -/
theorem Ends.value {value : α} {after : σ} (ends : attempt.Ends state finished failed)
    (ran : attempt state = (.ok value, after)) : finished value after := by
  rw [Ends, ran] at ends
  exact ends

/-- What they say of any run. -/
theorem Ends.always {holds : σ → Prop}
    (ends : attempt.Ends state (fun _ after => holds after) fun _ after => holds after) :
    holds (attempt state).2 := by
  unfold Ends at ends
  split at ends
  · next ran => rw [ran]; exact ends
  · next ran => rw [ran]; exact ends

end

end Attempt

end Attempts
