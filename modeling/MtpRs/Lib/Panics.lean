import Mathlib.Algebra.Group.Int.Defs
import Mathlib.Algebra.Group.Nat.Defs
import Mathlib.Data.List.Basic

set_option autoImplicit false

/- Code that can panic: where it does, nothing comes of it. -/
namespace Panics

section

variable {α β : Type}

def index (list : List α) (i : Nat) : Option α := list[i]?

def slice (list : List α) (low high : Nat) : Option (List α) :=
  if low ≤ high ∧ high ≤ list.length then some ((list.drop low).take (high - low)) else none

def sliceFrom (list : List α) (low : Nat) : Option (List α) :=
  if low ≤ list.length then some (list.drop low) else none

/-- Arithmetic in so many bits. -/
def add (bits a b : Nat) : Option Nat := if a + b < 2 ^ bits then some (a + b) else none

def multiply (bits a b : Nat) : Option Nat := if a * b < 2 ^ bits then some (a * b) else none

def subtract (a b : Nat) : Option Nat := if b ≤ a then some (a - b) else none

/-- A signed result in so many bits. -/
def signed (bits : Nat) (result : Int) : Option Int :=
  if -2 ^ (bits - 1) ≤ result ∧ result < 2 ^ (bits - 1) then some result else none

/-- A cast to an unsigned number of so many bits, where nothing of the value is lost. -/
def castUnsigned (bits : Nat) (value : Int) : Option Nat :=
  if 0 ≤ value ∧ value < 2 ^ bits then some value.toNat else none

/-- A vector is preallocated for no more elements than there are bytes left. -/
def reserve (left count : Nat) : Option Unit := if count ≤ left then some () else none

/-- The rest of a function behind `step?`, which may end it with an error. -/
def orReturn {ε : Type} (step : Option (Except ε α)) (next : α → Option (Except ε β)) :
    Option (Except ε β) :=
  match step with
  | none => none
  | some (.error e) => some (.error e)
  | some (.ok x) => next x

/-- The rest of a function whose step may end it without a value. -/
def attempt (step : Option (Option α)) (next : α → Option (Option β)) : Option (Option β) :=
  match step with
  | none => none
  | some none => some none
  | some (some x) => next x

theorem reserve_eq {left count : Nat} (fits : count ≤ left) : reserve left count = some () :=
  if_pos fits

/-- So many elements from the front, each by its index. -/
theorem mapM_index {list : List α} {count : Nat} (enough : count ≤ list.length) :
    (List.range count).mapM (index list) = some (list.take count) := by
  induction count with
  | zero => rfl
  | succ count ih =>
      have one : [count].mapM (index list) = some [list[count]] := by
        rw [List.mapM_cons, index, List.getElem?_eq_getElem enough]
        rfl
      rw [List.range_succ, List.mapM_append, ih (by omega), one, ← List.take_append_getElem enough]
      rfl

theorem slice_eq {list : List α} {low high : Nat} (ordered : low ≤ high)
    (within : high ≤ list.length) :
      slice list low high = some ((list.drop low).take (high - low)) :=
  if_pos ⟨ordered, within⟩

theorem sliceFrom_eq {list : List α} {low : Nat} (within : low ≤ list.length) :
    sliceFrom list low = some (list.drop low) :=
  if_pos within

theorem add_eq {bits a b : Nat} (fits : a + b < 2 ^ bits) : add bits a b = some (a + b) :=
  if_pos fits

theorem multiply_eq {bits a b : Nat} (fits : a * b < 2 ^ bits) :
    multiply bits a b = some (a * b) :=
  if_pos fits

theorem subtract_eq {a b : Nat} (enough : b ≤ a) : subtract a b = some (a - b) := if_pos enough

theorem signed_eq {bits : Nat} {result : Int} (low : -2 ^ (bits - 1) ≤ result)
    (high : result < 2 ^ (bits - 1)) : signed bits result = some result :=
  if_pos ⟨low, high⟩

theorem castUnsigned_eq {bits : Nat} {value : Int} (low : 0 ≤ value) (high : value < 2 ^ bits) :
    castUnsigned bits value = some value.toNat :=
  if_pos ⟨low, high⟩

/-- What follows a step that does not panic. -/
theorem orReturn_eq {ε : Type} {result : Except ε α} {next : α → Option (Except ε β)}
    {later : α → Except ε β} (rest : ∀ x, result = .ok x → next x = some (later x)) :
    orReturn (some result) next = some (result >>= later) := by
  cases result with
  | error e => rfl
  | ok x => exact rest x rfl

/-- Steps that do not panic are the same without panics. -/
theorem attempt_eq {step : Option (Option α)} {next : α → Option (Option β)} {first : Option α}
    {later : α → Option β} (stepped : step = some first)
    (rest : ∀ x, first = some x → next x = some (later x)) :
    attempt step next = some (first.bind later) := by
  subst stepped
  cases first with
  | none => rfl
  | some x => exact rest x rfl

end

end Panics
