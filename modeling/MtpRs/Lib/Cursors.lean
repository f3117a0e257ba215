import MtpRs.Lib.Panics
import MtpRs.Lib.Readers

set_option autoImplicit false

/- Parsers that go through a buffer by an offset and can panic, beside the readers they are like. -/
namespace Cursors

open Panics (add reserve sliceFrom)
open Readers (Delimited Reader map_eq_ok)

/-- The value of a parser and its offset behind it, or the error; nothing where it panics. -/
def Cursor (β ε α : Type) : Type := List β → Nat → Option (Except ε (α × Nat))

/-- A result that comes of a computation where a condition holds. Elsewhere it panics. -/
structure SafeWhen {α : Type} (condition : Prop) (panicking : Option α) (plain : α) : Prop where
  same : condition → panicking = some plain
  panics : ¬ condition → panicking = none

section

variable {β ε α γ : Type}

instance : Monad (Cursor β ε) where
  pure x _ offset := some (.ok (x, offset))
  bind cursor next buf offset :=
    match cursor buf offset with
    | none => none
    | some (.error e) => some (.error e)
    | some (.ok (x, moved)) => next x buf moved

def peek (parse : List β → Option (Except ε α)) : Cursor β ε α := fun buf offset => do
  let rest ← sliceFrom buf offset
  let result ← parse rest
  some (result.map fun x => (x, offset))

/-- `offset += size`. -/
def advance (bits size : Nat) : Cursor β ε Unit := fun _ offset => do
  let moved ← add bits offset size
  some (.ok ((), moved))

def field (bits size : Nat) (parse : List β → Option (Except ε α)) : Cursor β ε α := do
  let x ← peek parse
  advance bits size
  return x

/-- A field that says how much it took. -/
def part (bits : Nat) (parse : List β → Option (Except ε (α × Nat))) : Cursor β ε α := do
  let result ← peek parse
  advance bits result.2
  return result.1

/-- The last field, behind which nothing is parsed. -/
def last (parse : List β → Option (Except ε (α × Nat))) : Cursor β ε α := do
  let result ← peek parse
  return result.1

/-- The same part a number of times over. -/
def many (cursor : Cursor β ε α) : Nat → Cursor β ε (List α)
  | 0 => pure []
  | count + 1 => do
      let x ← cursor
      let others ← many cursor count
      return x :: others

/-- A vector is preallocated before what follows. -/
def preallocate (count : Nat) : Cursor β ε Unit := fun buf offset => do
  reserve (buf.length - offset) count
  some (.ok ((), offset))

/-- The value that a cursor parses from the start of a buffer. -/
def run (cursor : Cursor β ε α) (buf : List β) : Option (Except ε α) :=
  (cursor buf 0).map fun result => result.map Prod.fst

/-- What holds of an input behind what a reader takes of it. -/
def After (reader : Reader β ε α) (holds : α → List β → Prop) (input : List β) : Prop :=
  ∀ x taken, reader input = .ok (x, taken) → holds x (input.drop taken)

/-- A parser of buffers below a size that is like a plain one on those that are safe, and panics on
all others. -/
def Parses (limit : Nat) (parse : List β → Option (Except ε α)) (plain : List β → Except ε α)
    (safe : List β → Prop) : Prop :=
  ∀ buf, buf.length < limit → SafeWhen (safe buf) (parse buf) (plain buf)

/-- A cursor that is like a reader of the rest of the buffer. -/
def Follows (limit : Nat) (cursor : Cursor β ε α) (reader : Reader β ε α)
    (safe : List β → Prop) : Prop :=
  ∀ buf offset, buf.length < limit → offset ≤ buf.length →
    SafeWhen (safe (buf.drop offset)) (cursor buf offset)
      ((reader (buf.drop offset)).map fun result => (result.1, offset + result.2))

/-- One that is like it in its value, wherever it ends. -/
def Ends (limit : Nat) (cursor : Cursor β ε α) (reader : Reader β ε α)
    (safe : List β → Prop) : Prop :=
  ∀ buf offset, buf.length < limit → offset ≤ buf.length →
    SafeWhen (safe (buf.drop offset))
      ((cursor buf offset).map fun result => result.map Prod.fst)
      ((reader (buf.drop offset)).map Prod.fst)

variable {limit bits size : Nat} {parse : List β → Option (Except ε α)}
  {plain : List β → Except ε α} {safe safe' : List β → Prop} {later : α → List β → Prop}
  {cursor : Cursor β ε α} {reader : Reader β ε α} {next : α → Cursor β ε γ}
  {after : α → Reader β ε γ}

theorem SafeWhen.congr {condition condition' : Prop} {panicking : Option α} {x : α}
    (safeWhen : SafeWhen condition panicking x) (same : condition ↔ condition') :
    SafeWhen condition' panicking x :=
  ⟨fun holds => safeWhen.same (same.mpr holds), fun fails => safeWhen.panics (mt same.mp fails)⟩

theorem SafeWhen.some (x : α) : SafeWhen True (Option.some x) x :=
  ⟨fun _ => rfl, fun never => absurd trivial never⟩

theorem Parses.total (same : ∀ buf, buf.length < limit → parse buf = some (plain buf)) :
    Parses limit parse plain fun _ => True := by
  intro buf small
  rw [same buf small]
  exact .some _

theorem bind_eq (cursor : Cursor β ε α) (next : α → Cursor β ε γ) (buf : List β) (offset : Nat) :
    (cursor >>= next) buf offset =
      match cursor buf offset with
      | none => none
      | some (.error e) => some (.error e)
      | some (.ok (x, moved)) => next x buf moved := rfl

theorem Follows.pure (x : α) :
    Follows limit (pure x : Cursor β ε α) (pure x) fun _ => True := by
  intro buf offset _ _
  exact .some _

section

variable {buf : List β} {offset : Nat}

theorem bind_reads {x : α} {taken : Nat} (first : Follows limit cursor reader safe)
    (small : buf.length < limit) (inside : offset ≤ buf.length) (holds : safe (buf.drop offset))
    (read : reader (buf.drop offset) = .ok (x, taken)) :
    (cursor >>= next) buf offset = next x buf (offset + taken) := by
  rw [bind_eq, (first buf offset small inside).same holds, read]
  rfl

theorem bind_fails {e : ε} (first : Follows limit cursor reader safe) (small : buf.length < limit)
    (inside : offset ≤ buf.length) (holds : safe (buf.drop offset))
    (read : reader (buf.drop offset) = .error e) :
    (cursor >>= next) buf offset = some (.error e) := by
  rw [bind_eq, (first buf offset small inside).same holds, read]
  rfl

theorem bind_panics (first : Follows limit cursor reader safe) (small : buf.length < limit)
    (inside : offset ≤ buf.length) (fails : ¬ safe (buf.drop offset)) :
    (cursor >>= next) buf offset = none := by
  rw [bind_eq, (first buf offset small inside).panics fails]

/-- What is read lies in the rest of the buffer. -/
theorem moved_le (delimited : Delimited reader) {x : α} {taken : Nat} (inside : offset ≤ buf.length)
    (read : reader (buf.drop offset) = .ok (x, taken)) : offset + taken ≤ buf.length := by
  have within := delimited.within read
  rw [List.length_drop] at within
  omega

/-- What is not safe behind a reader is so at some value. -/
theorem not_after {input : List β} (stops : ¬ After reader later input) :
    ∃ x taken, reader input = .ok (x, taken) ∧ ¬ later x (input.drop taken) := by
  unfold After at stops
  push Not at stops
  exact stops

end

theorem Follows.bind (first : Follows limit cursor reader safe) (delimited : Delimited reader)
    (second : ∀ x, Follows limit (next x) (after x) (later x)) :
    Follows limit (cursor >>= next) (reader >>= after)
      fun input => safe input ∧ After reader later input := by
  intro buf offset small inside
  constructor
  · intro ⟨holds, behind⟩
    cases read : reader (buf.drop offset) with
    | error e =>
        rw [bind_fails first small inside holds read, Readers.bind_error read]
        rfl
    | ok value =>
        have rest := second value.1 buf _ small (moved_le delimited inside read)
        have safeRest := behind value.1 value.2 read
        rw [List.drop_drop] at safeRest
        rw [bind_reads first small inside holds read, rest.same safeRest, Readers.bind_ok read,
          List.drop_drop]
        cases after value.1 (buf.drop (offset + value.2)) with
        | error e => rfl
        | ok result =>
            dsimp only [Except.map]
            rw [Nat.add_assoc]
  · intro fails
    by_cases holds : safe (buf.drop offset)
    · obtain ⟨x, taken, read, unsafeRest⟩ := not_after fun behind => fails ⟨holds, behind⟩
      rw [List.drop_drop] at unsafeRest
      rw [bind_reads first small inside holds read]
      exact (second x buf _ small (moved_le delimited inside read)).panics unsafeRest
    · exact bind_panics first small inside holds

theorem Ends.bind (first : Follows limit cursor reader safe) (delimited : Delimited reader)
    (second : ∀ x, Ends limit (next x) (after x) (later x)) :
    Ends limit (cursor >>= next) (reader >>= after)
      fun input => safe input ∧ After reader later input := by
  intro buf offset small inside
  constructor
  · intro ⟨holds, behind⟩
    cases read : reader (buf.drop offset) with
    | error e =>
        rw [bind_fails first small inside holds read, Readers.bind_error read]
        rfl
    | ok value =>
        have rest := second value.1 buf _ small (moved_le delimited inside read)
        have safeRest := behind value.1 value.2 read
        rw [List.drop_drop] at safeRest
        rw [bind_reads first small inside holds read, rest.same safeRest, Readers.bind_ok read,
          List.drop_drop]
        cases after value.1 (buf.drop (offset + value.2)) <;> rfl
  · intro fails
    by_cases holds : safe (buf.drop offset)
    · obtain ⟨x, taken, read, unsafeRest⟩ := not_after fun behind => fails ⟨holds, behind⟩
      rw [List.drop_drop] at unsafeRest
      rw [bind_reads first small inside holds read]
      exact (second x buf _ small (moved_le delimited inside read)).panics unsafeRest
    · rw [bind_panics first small inside holds]
      rfl

theorem Follows.ends (follows : Follows limit cursor reader safe) :
    Ends limit cursor reader safe := by
  intro buf offset small inside
  have whole := follows buf offset small inside
  constructor
  · intro holds
    rw [whole.same holds, Option.map_some]
    cases reader (buf.drop offset) <;> rfl
  · intro fails
    rw [whole.panics fails]
    rfl

theorem Ends.return {f : α → γ} (ends : Ends limit cursor reader safe) :
    Ends limit (cursor >>= fun x => pure (f x)) (reader >>= fun x => pure (f x)) safe := by
  intro buf offset small inside
  have whole := ends buf offset small inside
  rw [Readers.return_eq, bind_eq]
  constructor
  · intro holds
    have same := whole.same holds
    cases parsed : cursor buf offset with
    | none =>
        rw [parsed] at same
        cases same
    | some result =>
        cases read : reader (buf.drop offset) with
        | error e =>
            rw [parsed, read] at same
            cases result with
            | error e' =>
                cases same
                rfl
            | ok value => cases same
        | ok value =>
            rw [parsed, read] at same
            cases result with
            | error e => cases same
            | ok value' =>
                simp only [Option.map_some, Except.map, Option.some.injEq, Except.ok.injEq] at same
                simp only [Option.map_some, Except.map, pure, same]
  · intro fails
    have none := whole.panics fails
    rw [Option.map_eq_none_iff] at none
    rw [none]
    rfl

theorem Follows.congr (follows : Follows limit cursor reader safe)
    (same : ∀ input, safe input ↔ safe' input) : Follows limit cursor reader safe' :=
  fun buf offset small inside => (follows buf offset small inside).congr (same _)

theorem Ends.congr (ends : Ends limit cursor reader safe)
    (same : ∀ input, safe input ↔ safe' input) : Ends limit cursor reader safe' :=
  fun buf offset small inside => (ends buf offset small inside).congr (same _)

/-- One safe part after another is safe. -/
theorem Follows.then (first : Follows limit cursor reader fun _ => True)
    (delimited : Delimited reader) (second : ∀ x, Follows limit (next x) (after x) fun _ => True) :
    Follows limit (cursor >>= next) (reader >>= after) fun _ => True :=
  (first.bind delimited second).congr fun _ =>
    ⟨fun _ => trivial, fun _ => ⟨trivial, fun _ _ _ => trivial⟩⟩

theorem Ends.then (first : Follows limit cursor reader fun _ => True) (delimited : Delimited reader)
    (second : ∀ x, Ends limit (next x) (after x) fun _ => True) :
    Ends limit (cursor >>= next) (reader >>= after) fun _ => True :=
  (Ends.bind first delimited second).congr fun _ =>
    ⟨fun _ => trivial, fun _ => ⟨trivial, fun _ _ _ => trivial⟩⟩

theorem Ends.run (ends : Ends limit cursor reader safe) :
    Parses limit (run cursor) (fun buf => (reader buf).map Prod.fst) safe :=
  fun buf small => ends buf 0 small (Nat.zero_le _)

theorem Follows.run (follows : Follows limit cursor reader safe) :
    Parses limit (fun buf => cursor buf 0) reader safe := by
  intro buf small
  have whole := follows buf 0 small (Nat.zero_le _)
  rw [List.drop_zero] at whole
  have same : ((reader buf).map fun result => (result.1, 0 + result.2)) = reader buf := by
    cases reader buf with
    | error e => rfl
    | ok result =>
        dsimp only [Except.map]
        rw [Nat.zero_add]
  rw [same] at whole
  exact whole

section

variable {buf : List β} {offset : Nat}

theorem peek_bind (inside : offset ≤ buf.length) : (peek parse >>= next) buf offset =
    match parse (buf.drop offset) with
    | none => none
    | some (.error e) => some (.error e)
    | some (.ok x) => next x buf offset := by
  simp only [bind_eq, peek, Panics.sliceFrom_eq inside, Option.bind_eq_bind, Option.bind_some]
  cases parse (buf.drop offset) with
  | none => rfl
  | some result => cases result <;> rfl

theorem advance_bind {next : Unit → Cursor β ε γ} (fits : offset + size < 2 ^ bits) :
    (advance bits size >>= next) buf offset = next () buf (offset + size) := by
  rw [bind_eq, advance, Panics.add_eq fits]
  rfl

theorem drop_length_lt (offset : Nat) (small : buf.length < limit) :
    (buf.drop offset).length < limit := by
  rw [List.length_drop]
  omega

end

theorem Follows.field (parses : Parses limit parse plain safe)
    (delimited : Delimited (Readers.field size plain)) (fits : limit ≤ 2 ^ bits) :
    Follows limit (field bits size parse) (Readers.field size plain) safe := by
  intro buf offset small inside
  have whole := parses _ (drop_length_lt offset small)
  rw [Cursors.field, peek_bind inside]
  constructor
  · intro holds
    rw [whole.same holds, Readers.field]
    cases read : plain (buf.drop offset) with
    | error e => rfl
    | ok x =>
        have behind := moved_le delimited inside (map_eq_ok.mpr ⟨x, read, rfl⟩)
        dsimp only
        rw [advance_bind (by omega)]
        rfl
  · intro fails
    rw [whole.panics fails]

theorem Follows.part {parse : List β → Option (Except ε (α × Nat))}
    (parses : Parses limit parse reader safe) (delimited : Delimited reader)
    (fits : limit ≤ 2 ^ bits) : Follows limit (part bits parse) reader safe := by
  intro buf offset small inside
  have whole := parses _ (drop_length_lt offset small)
  rw [Cursors.part, peek_bind inside]
  constructor
  · intro holds
    rw [whole.same holds]
    cases read : reader (buf.drop offset) with
    | error e => rfl
    | ok value =>
        have behind := moved_le delimited inside read
        dsimp only
        rw [advance_bind (by omega)]
        rfl
  · intro fails
    rw [whole.panics fails]

theorem Ends.last {parse : List β → Option (Except ε (α × Nat))}
    (parses : Parses limit parse reader safe) : Ends limit (last parse) reader safe := by
  intro buf offset small inside
  have whole := parses _ (drop_length_lt offset small)
  rw [Cursors.last, peek_bind inside]
  constructor
  · intro holds
    rw [whole.same holds]
    cases reader (buf.drop offset) <;> rfl
  · intro fails
    rw [whole.panics fails]
    rfl

theorem Follows.many (each : Follows limit cursor reader fun _ => True)
    (delimited : Delimited reader) (count : Nat) :
    Follows limit (many cursor count) (Readers.many reader count) fun _ => True := by
  induction count with
  | zero => exact .pure []
  | succ count ih =>
      exact each.then delimited fun _ => ih.then (delimited.many count) fun _ => .pure _

/-- What is preallocated has to fit the rest of the buffer. -/
theorem Follows.preallocate (follows : Follows limit cursor reader fun _ => True) (count : Nat) :
    Follows limit (preallocate count >>= fun _ => cursor) reader
      fun input => count ≤ input.length := by
  intro buf offset small inside
  rw [bind_eq, Cursors.preallocate]
  beta_reduce
  rw [List.length_drop]
  by_cases fits : count ≤ buf.length - offset
  · rw [Panics.reserve_eq fits]
    exact (follows buf offset small inside).congr ⟨fun _ => fits, fun _ => trivial⟩
  · rw [reserve, if_neg fits]
    exact ⟨fun holds => absurd holds fits, fun _ => rfl⟩

end

end Cursors
