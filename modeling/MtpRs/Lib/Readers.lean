import Mathlib.Data.List.Basic

set_option autoImplicit false

/- Readers that take what they need from the front of an input and count it, field after field. -/
namespace Readers

/-- The value read and how much of the input it took, or why nothing could be read. -/
def Reader (β ε α : Type) : Type := List β → Except ε (α × Nat)

section

variable {β ε α γ δ : Type}

instance : Monad (Reader β ε) where
  pure x _ := .ok (x, 0)
  bind read next input :=
    match read input with
    | .error e => .error e
    | .ok (x, taken) =>
        match next x (input.drop taken) with
        | .error e => .error e
        | .ok (y, more) => .ok (y, taken + more)

/-- A field of a fixed size. -/
def field (size : Nat) (unpack : List β → Except ε α) : Reader β ε α :=
  fun input => (unpack input).map fun x => (x, size)

/-- The same field a number of times over. -/
def many (read : Reader β ε α) : Nat → Reader β ε (List α)
  | 0 => pure []
  | count + 1 => do
      let x ← read
      let others ← many read count
      return x :: others

/-- Nothing is read, and the input refused. -/
def refuse (e : ε) : Reader β ε α := fun _ => .error e

/-- The value is read from these bytes, whatever follows them. -/
def Writes (read : Reader β ε α) (bytes : List β) (x : α) : Prop :=
  ∀ rest, read (bytes ++ rest) = .ok (x, bytes.length)

/-- The input is refused at these bytes, whatever follows them. -/
def Refuses (read : Reader β ε α) (bytes : List β) : Prop :=
  ∀ rest, ∃ e, read (bytes ++ rest) = .error e

/-- What is read lies within the input, and what follows it there does not matter. -/
structure Delimited (read : Reader β ε α) : Prop where
  within : ∀ {input x taken}, read input = .ok (x, taken) → taken ≤ input.length
  stable : ∀ {input x taken}, read input = .ok (x, taken) →
    ∀ more, read (input.take taken ++ more) = .ok (x, taken)

variable {read : Reader β ε α} {next : α → Reader β ε γ} {bytes others : List β} {x : α} {y : γ}
  {unpack : List β → Except ε α} {size : Nat}

theorem map_eq_ok {result : Except ε α} {f : α → γ} {y : γ} :
    result.map f = .ok y ↔ ∃ x, result = .ok x ∧ f x = y := by
  cases result with
  | error e => simp [Except.map]
  | ok x => simp [Except.map]

theorem bind_ok {input : List β} {taken : Nat} (first : read input = .ok (x, taken)) :
    (read >>= next) input =
      (next x (input.drop taken)).map fun result => (result.1, taken + result.2) := by
  change (match read input with
    | .error e => Except.error e
    | .ok (x, taken) =>
        match next x (input.drop taken) with
        | .error e => .error e
        | .ok (y, more) => .ok (y, taken + more)) = _
  rw [first]
  dsimp only
  cases next x (input.drop taken) <;> rfl

theorem bind_error {input : List β} {e : ε} (failed : read input = .error e) :
    (read >>= next) input = .error e := by
  change (match read input with
    | .error e => Except.error e
    | .ok (x, taken) =>
        match next x (input.drop taken) with
        | .error e => .error e
        | .ok (y, more) => .ok (y, taken + more)) = _
  rw [failed]

/-- What a chain of readers makes of an input, one of them at a time. -/
theorem map_bind (read : Reader β ε α) (next : α → Reader β ε γ) (g : γ → δ) (input : List β) :
    ((read >>= next) input).map (fun result => g result.1) =
      read input >>= fun front =>
        (next front.1 (input.drop front.2)).map fun result => g result.1 := by
  cases front : read input with
  | error e =>
      rw [bind_error front]
      rfl
  | ok value =>
      rw [bind_ok front]
      change _ = (next value.1 (input.drop value.2)).map fun result => g result.1
      cases next value.1 (input.drop value.2) <;> rfl

theorem field_bind (next : α × Nat → Except ε γ) (input : List β) :
    (field size unpack input >>= next) = unpack input >>= fun x => next (x, size) := by
  rw [field]
  cases unpack input <;> rfl

/-- A field of a fixed size, and what is read behind it. -/
theorem field_then (next : α → Reader β ε γ) (input : List β) :
    (field size unpack >>= next) input = unpack input >>= fun x =>
      (next x (input.drop size)).map fun result => (result.1, size + result.2) := by
  cases read : unpack input with
  | error e => exact bind_error (by rw [field, read]; rfl)
  | ok x => exact bind_ok (by rw [field, read]; rfl)

theorem return_eq (f : α → γ) (input : List β) :
    (read >>= fun x => pure (f x)) input = (read input).map fun result =>
      (f result.1, result.2) := by
  cases front : read input with
  | error e => exact bind_error front
  | ok value => exact bind_ok front

/-- Both fields of a pair were read. -/
theorem bind_eq_ok {input : List β} {taken : Nat}
    (result : (read >>= next) input = .ok (y, taken)) :
    ∃ x first second, read input = .ok (x, first) ∧ next x (input.drop first) = .ok (y, second) ∧
      taken = first + second := by
  cases front : read input with
  | error e =>
      rw [bind_error front] at result
      cases result
  | ok value =>
      rw [bind_ok front] at result
      cases later : next value.1 (input.drop value.2) with
      | error e =>
          rw [later] at result
          cases result
      | ok last =>
          rw [later] at result
          cases result
          exact ⟨value.1, value.2, last.2, rfl, later, rfl⟩

theorem Writes.pure (x : α) : Writes (pure x : Reader β ε α) [] x := fun _ => rfl

theorem Writes.bind (first : Writes read bytes x) (second : Writes (next x) others y) :
    Writes (read >>= next) (bytes ++ others) y := by
  intro rest
  rw [List.append_assoc, bind_ok (first (others ++ rest)), List.drop_left, second rest,
    List.length_append]
  rfl

theorem Writes.return {f : α → γ} (writes : Writes read bytes x) :
    Writes (read >>= fun x => Pure.pure (f x)) bytes (f x) := by
  have whole : Writes (read >>= fun x => Pure.pure (f x)) (bytes ++ []) (f x) :=
    writes.bind (.pure (f x))
  rw [List.append_nil] at whole
  exact whole

theorem Writes.refuses (first : Writes read bytes x) (second : Refuses (next x) others) :
    Refuses (read >>= next) (bytes ++ others) := by
  intro rest
  obtain ⟨e, refused⟩ := second rest
  refine ⟨e, ?_⟩
  rw [List.append_assoc, bind_ok (first (others ++ rest)), List.drop_left, refused]
  rfl

theorem Refuses.front (refuses : Refuses read bytes) : Refuses (read >>= next) bytes := by
  intro rest
  obtain ⟨e, refused⟩ := refuses rest
  exact ⟨e, bind_error refused⟩

theorem Writes.field (unpacked : ∀ rest, unpack (bytes ++ rest) = .ok x)
    (length : bytes.length = size) : Writes (field size unpack) bytes x := by
  intro rest
  rw [Readers.field, unpacked, length]
  rfl

theorem Writes.many {write : γ → List β} {value : γ → α} {items : List γ}
    (each : ∀ item ∈ items, Writes read (write item) (value item)) :
    Writes (many read items.length) (items.flatMap write) (items.map value) := by
  induction items with
  | nil => exact .pure []
  | cons item items ih =>
      have others := ih fun other mem => each other (List.mem_cons_of_mem _ mem)
      rw [List.flatMap_cons, ← List.append_nil (items.flatMap write)]
      exact (each item (List.mem_cons_self ..)).bind (others.bind (.pure _))

/-- A number of fields is refused at the first that is. -/
theorem Refuses.many {write : γ → List β} {value : γ → α} {items : List γ} {count : Nat}
    (each : ∀ item ∈ items, Writes read (write item) (value item)) (refuses : Refuses read bytes)
    (more : items.length < count) : Refuses (many read count) (items.flatMap write ++ bytes) := by
  induction items generalizing count with
  | nil =>
      cases count with
      | zero => cases more
      | succ count => exact refuses.front
  | cons item items ih =>
      cases count with
      | zero => cases more
      | succ count =>
          have others := ih (fun other mem => each other (List.mem_cons_of_mem _ mem))
            (Nat.lt_of_succ_lt_succ more)
          rw [List.flatMap_cons, List.append_assoc]
          exact (each item (List.mem_cons_self ..)).refuses others.front

theorem Writes.result (writes : Writes read bytes x) : read bytes = .ok (x, bytes.length) := by
  have whole := writes []
  rw [List.append_nil] at whole
  exact whole

namespace Delimited

theorem pure (x : α) : Delimited (pure x : Reader β ε α) where
  within result := by
    cases result
    exact Nat.zero_le _
  stable result _ := by
    cases result
    rfl

theorem refuse (e : ε) : Delimited (refuse e : Reader β ε α) where
  within result := by cases result
  stable result := by cases result

theorem bind (first : Delimited read) (second : ∀ x, Delimited (next x)) :
    Delimited (read >>= next) where
  within {input y taken} result := by
    obtain ⟨x, front, back, reads, later, total⟩ := bind_eq_ok result
    have early := first.within reads
    have late := (second x).within later
    rw [List.length_drop] at late
    omega
  stable {input y taken} result more := by
    obtain ⟨x, front, back, reads, later, total⟩ := bind_eq_ok result
    have length : (input.take front).length = front :=
      List.length_take_of_le (first.within reads)
    have again := first.stable reads ((input.drop front).take back ++ more)
    rw [total, List.take_add, List.append_assoc, bind_ok again, List.drop_left' length,
      (second x).stable later]
    rfl

theorem field (enough : ∀ {input x}, unpack input = .ok x → size ≤ input.length)
    (front : ∀ {input x}, unpack input = .ok x → ∀ more, unpack (input.take size ++ more) = .ok x) :
    Delimited (Readers.field size unpack) where
  within {input x taken} result := by
    obtain ⟨value, read, same⟩ := map_eq_ok.mp result
    cases same
    exact enough read
  stable {input x taken} result more := by
    obtain ⟨value, read, same⟩ := map_eq_ok.mp result
    cases same
    exact map_eq_ok.mpr ⟨_, front read more, rfl⟩

theorem many (each : Delimited read) (count : Nat) : Delimited (many read count) := by
  induction count with
  | zero => exact .pure []
  | succ count ih => exact each.bind fun _ => ih.bind fun _ => .pure _

/-- An input cut short anywhere is refused. -/
theorem refuses_front (delimited : Delimited read) (writes : Writes read bytes x)
    {front : List β} (short : front <+: bytes) (cut : front ≠ bytes) :
    ∃ e, read front = .error e := by
  obtain ⟨missing, rfl⟩ := short
  cases result : read front with
  | error e => exact ⟨e, rfl⟩
  | ok value =>
      have within := delimited.within result
      have whole := delimited.stable result (front.drop value.2 ++ missing)
      rw [← List.append_assoc, List.take_append_drop, writes.result] at whole
      have taken : (front ++ missing).length = value.2 := (Prod.mk.inj (Except.ok.inj whole)).2
      rw [List.length_append] at taken
      have none : missing = [] := List.eq_nil_of_length_eq_zero (by omega)
      rw [none, List.append_nil] at cut
      exact absurd rfl cut

end Delimited

end

end Readers
