import MtpRs.Wpd.Com

set_option autoImplicit false

/- A read stream on an object: `IStream` as the worker uses it. -/
namespace Wpd

open Mtp (Error)
open Ptp (Bytes)

/-- How the device serves a stream: the offsets it can seek to, and what each read comes to, which
is a failure or a number of bytes it stops short at. -/
structure Traits where
  seeks : UInt64 → Bool
  reads : Nat → Except WinError Nat

/-- An open stream: the object's bytes, its position, and how many reads there were. -/
structure IStream where
  object : Bytes
  traits : Traits
  position : Nat
  count : Nat

namespace IStream

/-- `stream_read`: bytes at the position, at least one while there is one and the call asks for
one. -/
def read (self : IStream) (want : Nat) : Except Error Bytes × IStream :=
  match self.traits.reads self.count with
  | .error e => (.error (mapHresult e), { self with count := self.count + 1 })
  | .ok short =>
      let bytes := (self.object.drop self.position).take (min want (short + 1))
      (.ok bytes, { self with position := self.position + bytes.length, count := self.count + 1 })

/-- What is left of the object at the stream's position. -/
def rest (self : IStream) : Bytes := self.object.drop self.position

/-- From one state of a stream to a later one these bytes went by. -/
structure Passed (stream : IStream) (bytes : Bytes) (next : IStream) : Prop where
  object : next.object = stream.object
  traits : next.traits = stream.traits
  position : next.position = stream.position + bytes.length
  taken : stream.rest = bytes ++ next.rest

theorem Passed.nothing (stream : IStream) : stream.Passed [] stream :=
  ⟨rfl, rfl, rfl, rfl⟩

theorem Passed.append {stream middle last : IStream} {front back : Bytes}
    (first : stream.Passed front middle) (second : middle.Passed back last) :
    stream.Passed (front ++ back) last where
  object := second.object.trans first.object
  traits := second.traits.trans first.traits
  position := by
    rw [second.position, first.position, List.length_append, Nat.add_assoc]
  taken := by
    rw [first.taken, second.taken, List.append_assoc]

structure Took (stream : IStream) (want : Nat) (bytes : Bytes) (next : IStream) : Prop extends
    Passed stream bytes next where
  atMost : bytes.length ≤ want
  atEnd : bytes.length = 0 → want = 0 ∨ stream.rest = []

theorem took_of_read {self next : IStream} {want : Nat} {bytes : Bytes}
    (read : self.read want = (.ok bytes, next)) : self.Took want bytes next := by
  unfold IStream.read at read
  cases outcome : self.traits.reads self.count with
  | error e =>
      rw [outcome] at read
      cases read
  | ok short =>
      rw [outcome] at read
      cases read
      constructor
      case toPassed =>
        refine ⟨rfl, rfl, rfl, ?_⟩
        have split := List.take_append_drop (min want (short + 1)) (self.object.drop self.position)
        rw [List.drop_drop] at split
        simp only [rest]
        conv_lhs => rw [← split]
        congr 1
        rw [List.length_take, List.length_drop]
        by_cases whole : min want (short + 1) ≤ self.object.length - self.position
        · rw [Nat.min_eq_left whole]
        · rw [List.drop_of_length_le (by omega), List.drop_of_length_le (by omega)]
      case atMost =>
        rw [List.length_take]
        omega
      case atEnd =>
        intro none
        rw [List.length_take, List.length_drop] at none
        simp only [rest, List.drop_eq_nil_iff]
        omega

theorem Took.shorter {stream next : IStream} {want : Nat} {bytes : Bytes}
    (took : stream.Took want bytes next) (some : bytes.length ≠ 0) :
    next.rest.length < stream.rest.length := by
  have length := congrArg List.length took.taken
  rw [List.length_append] at length
  omega

/-- No read of the stream fails. -/
def Steady (self : IStream) : Prop := ∀ n, ∃ short, self.traits.reads n = .ok short

theorem Steady.read {self : IStream} (steady : self.Steady) (want : Nat) :
    ∃ bytes next, self.read want = (.ok bytes, next) := by
  obtain ⟨short, outcome⟩ := steady self.count
  simp only [IStream.read, outcome]
  exact ⟨_, _, rfl⟩

theorem Passed.steady {stream next : IStream} {bytes : Bytes} (passed : stream.Passed bytes next)
    (steady : stream.Steady) : next.Steady := by
  intro n
  rw [passed.traits]
  exact steady n

end IStream

/-- Bytes read per `IStream::Read`, and read and discarded in place of a seek. -/
def chunk : Nat := 256 * 1024

/-- The fallback of `stream_seek`: reads and discards so many bytes. -/
def discard (remaining : Nat) (stream : IStream) : Except Error Unit × IStream :=
  if remaining = 0 then (.ok (), stream)
  else
    match stream.read (min remaining chunk) with
    | (.error e, stream) => (.error e, stream)
    | (.ok bytes, stream) =>
        if bytes.length = 0 then
          (.error (.invalidData "WPD stream ended before reaching the seek offset"), stream)
        else discard (remaining - bytes.length) stream
termination_by remaining

def streamSeek (stream : IStream) (offset : UInt64) : Except Error Unit × IStream :=
  if offset = 0 then (.ok (), stream)
  else if stream.traits.seeks offset then (.ok (), { stream with position := offset.toNat })
  else discard offset.toNat stream

def upTo (limit : Option Nat) (bytes : Bytes) : Bytes :=
  match limit with
  | some most => bytes.take most
  | none => bytes

/-- How many bytes the next read asks for, with so many still to come. -/
def wanted (remaining : Option Nat) : Nat :=
  match remaining with
  | some remaining => min remaining chunk
  | none => chunk

/-- The loop of `handle_read_range`: what it read, and whether it came to the end. -/
def readRangeLoop (cap : Option Nat) (out : Bytes) (stream : IStream) :
    Except Error (Bytes × Bool) × IStream :=
  if wanted (cap.map (· - out.length)) = 0 then (.ok (out, false), stream)
  else
    match _read : stream.read (wanted (cap.map (· - out.length))) with
    | (.error e, stream) => (.error e, stream)
    | (.ok bytes, next) =>
        if _some : bytes.length = 0 then (.ok (out, true), next)
        else readRangeLoop cap (out ++ bytes) next
termination_by stream.rest.length
decreasing_by exact (IStream.took_of_read _read).shorter _some

inductive PumpOutcome where
  | complete
  | eof
  | stopped
deriving DecidableEq, Repr

/-- The loop of `pump_chunks`. The consumer takes the chunk of send number `sent`, or has stopped
reading before it; the chunks are the ones it took. -/
def pumpLoop (takes : Nat → Bool) (remaining : Option Nat) (sent : Nat) (stream : IStream) :
    PumpOutcome × List (Except Error Bytes) × IStream :=
  if wanted remaining = 0 then (.complete, [], stream)
  else
    match _read : stream.read (wanted remaining) with
    | (.error e, stream) => (.stopped, if takes sent then [.error e] else [], stream)
    | (.ok bytes, next) =>
        if _some : bytes.length = 0 then (.eof, [], next)
        else if takes sent then
          let later := pumpLoop takes (remaining.map (· - bytes.length)) (sent + 1) next
          (later.1, .ok bytes :: later.2.1, later.2.2)
        else (.stopped, [], next)
termination_by stream.rest.length
decreasing_by exact (IStream.took_of_read _read).shorter _some

section Loops

variable {stream next : IStream}

/-- A discard that ends well leaves the stream so many bytes on. -/
theorem discard_ok {remaining : Nat} (discarded : discard remaining stream = (.ok (), next)) :
    ∃ bytes, stream.Passed bytes next ∧ bytes.length = remaining := by
  fun_induction discard remaining stream with
  | case1 stream =>
      cases discarded
      exact ⟨[], .nothing _, rfl⟩
  | case2 remaining stream some e after read => cases discarded
  | case3 remaining stream some bytes after read none => cases discarded
  | case4 remaining stream some bytes after read more ih =>
      obtain ⟨later, passed, length⟩ := ih discarded
      have took := IStream.took_of_read read
      refine ⟨bytes ++ later, took.toPassed.append passed, ?_⟩
      have least := took.atMost
      rw [List.length_append, length]
      omega

/-- It ends well when no read fails and the object is long enough. -/
theorem discard_steady {remaining : Nat} (steady : stream.Steady)
    (enough : remaining ≤ stream.rest.length) :
      ∃ next, discard remaining stream = (.ok (), next) := by
  fun_induction discard remaining stream with
  | case1 stream => exact ⟨stream, rfl⟩
  | case2 remaining stream some e after read =>
      obtain ⟨bytes, next, reads⟩ := steady.read (min remaining chunk)
      rw [reads] at read
      cases read
  | case3 remaining stream some bytes after read none =>
      have took := IStream.took_of_read read
      rcases took.atEnd none with nothing | ended
      · have positive : 0 < chunk := by decide
        omega
      · rw [ended, List.length_nil] at enough
        omega
  | case4 remaining stream some bytes after read more ih =>
      have took := IStream.took_of_read read
      apply ih (took.steady steady)
      have length := congrArg List.length took.taken
      rw [List.length_append] at length
      omega

theorem wanted_eq_zero {remaining : Option Nat} : wanted remaining = 0 ↔ remaining = some 0 := by
  have positive : 0 < chunk := by decide
  cases remaining with
  | none => simp [wanted, Nat.ne_of_gt positive]
  | some remaining =>
      simp only [wanted, Option.some.injEq]
      omega

theorem wanted_le {remaining : Option Nat} {most : Nat} (limit : remaining = some most) :
    wanted remaining ≤ most := by
  rw [limit]
  exact Nat.min_le_left most chunk

theorem upTo_append {bytes rest : Bytes} {limit : Option Nat}
    (within : ∀ most, limit = some most → bytes.length ≤ most) :
    bytes ++ upTo (limit.map (· - bytes.length)) rest = upTo limit (bytes ++ rest) := by
  cases limit with
  | none => rfl
  | some most =>
      have fits := within most rfl
      simp only [upTo, Option.map_some]
      rw [List.take_append, List.take_of_length_le fits]

@[simp] theorem upTo_nil (limit : Option Nat) : upTo limit [] = [] := by
  cases limit <;> simp [upTo]

@[simp] theorem upTo_zero (bytes : Bytes) : upTo (some 0) bytes = [] := rfl

/-- A read that brings nothing, asked for something, is at the end. -/
theorem IStream.Took.ended {limit : Option Nat} {bytes : Bytes}
    (took : stream.Took (wanted limit) bytes next) (more : ¬ wanted limit = 0)
    (none : bytes.length = 0) : stream.Passed [] next ∧ stream.rest = [] := by
  have nothing := List.length_eq_zero_iff.mp none
  have passed := took.toPassed
  rw [nothing] at passed
  exact ⟨passed, (took.atEnd none).resolve_left more⟩

/-- `handle_read_range` reads what is left, up to its cap, and stops before the end only at the
cap. -/
theorem readRangeLoop_ok {cap : Option Nat} {out all : Bytes} {eof : Bool}
    (read : readRangeLoop cap out stream = (.ok (all, eof), next)) :
    ∃ bytes, all = out ++ bytes ∧ stream.Passed bytes next ∧
      bytes = upTo (cap.map (· - out.length)) stream.rest := by
  fun_induction readRangeLoop cap out stream with
  | case1 out stream full =>
      cases read
      refine ⟨[], (List.append_nil _).symm, .nothing _, ?_⟩
      rw [wanted_eq_zero.mp full, upTo_zero]
  | case2 out stream some e after took => cases read
  | case3 out stream more bytes after took none =>
      cases read
      obtain ⟨passed, ended⟩ := (IStream.took_of_read took).ended more none
      exact ⟨[], (List.append_nil _).symm, passed, by rw [ended, upTo_nil]⟩
  | case4 out stream more bytes after read' some ih =>
      obtain ⟨later, same, passed, rest⟩ := ih read
      have took := IStream.took_of_read read'
      refine ⟨bytes ++ later, by rw [same, List.append_assoc], took.toPassed.append passed, ?_⟩
      rw [took.taken, ← upTo_append fun most limit => took.atMost.trans (wanted_le limit), rest]
      congr 2
      rw [Option.map_map]
      congr 1
      funext most
      simp only [Function.comp_apply, List.length_append]
      omega

/-- It fails only where a read does. -/
theorem readRangeLoop_steady (cap : Option Nat) (out : Bytes) (steady : stream.Steady) :
    ∃ all eof next, readRangeLoop cap out stream = (.ok (all, eof), next) := by
  fun_induction readRangeLoop cap out stream with
  | case1 out stream full => exact ⟨out, false, stream, rfl⟩
  | case2 out stream more e after read =>
      obtain ⟨bytes, next, reads⟩ := steady.read (wanted (cap.map (· - out.length)))
      rw [reads] at read
      cases read
  | case3 out stream more bytes after read none => exact ⟨out, true, after, rfl⟩
  | case4 out stream more bytes after read some ih =>
      exact ih ((IStream.took_of_read read).steady steady)

/-- The bytes of the chunks a consumer took. -/
def chunkBytes : List (Except Error Bytes) → Bytes
  | [] => []
  | .ok bytes :: rest => bytes ++ chunkBytes rest
  | .error _ :: rest => chunkBytes rest

/-- What `pump_chunks` sends is the front of what is left, up to its limit, and all of it unless a
read failed or the consumer stopped reading. -/
structure Pumped (stream : IStream) (remaining : Option Nat)
    (pumped : PumpOutcome × List (Except Error Bytes) × IStream) : Prop where
  front : chunkBytes pumped.2.1 <+: upTo remaining stream.rest
  whole : pumped.1 ≠ .stopped → stream.Passed (chunkBytes pumped.2.1) pumped.2.2 ∧
    chunkBytes pumped.2.1 = upTo remaining stream.rest
  complete : pumped.1 = .complete →
    remaining = some (chunkBytes pumped.2.1).length

theorem pumpLoop_pumped (takes : Nat → Bool) (remaining : Option Nat) (sent : Nat)
    (stream : IStream) : Pumped stream remaining (pumpLoop takes remaining sent stream) := by
  fun_induction pumpLoop takes remaining sent stream with
  | case1 remaining sent stream full =>
      rw [wanted_eq_zero.mp full]
      exact ⟨List.nil_prefix, fun _ => ⟨.nothing stream, rfl⟩, fun _ => rfl⟩
  | case2 remaining sent stream more e after read =>
      refine ⟨?_, fun other => absurd rfl other, fun other => by cases other⟩
      split <;> exact List.nil_prefix
  | case3 remaining sent stream more bytes after read none =>
      obtain ⟨passed, ended⟩ := (IStream.took_of_read read).ended more none
      exact ⟨List.nil_prefix, fun _ =>
        ⟨passed, by rw [ended, upTo_nil]; rfl⟩, fun other => by cases other⟩
  | case4 remaining sent stream more bytes after read some takes' later ih =>
      have took := IStream.took_of_read read
      have split : upTo remaining stream.rest =
          bytes ++ upTo (remaining.map (· - bytes.length)) after.rest := by
        rw [took.taken, upTo_append fun most limit => took.atMost.trans (wanted_le limit)]
      constructor
      case front =>
        rw [split]
        exact List.prefix_append_right_inj bytes |>.mpr ih.front
      case whole =>
        intro unstopped
        obtain ⟨passed, whole⟩ := ih.whole unstopped
        refine ⟨took.toPassed.append passed, ?_⟩
        rw [split, ← whole]
        rfl
      case complete =>
        intro complete
        have left := ih.complete complete
        obtain ⟨most, limit, same⟩ := Option.map_eq_some_iff.mp left
        have least := took.atMost.trans (wanted_le limit)
        have rest : most - bytes.length = (chunkBytes later.2.1).length := same
        rw [limit]
        simp only [chunkBytes, List.length_append, Option.some.injEq]
        omega
  | case5 remaining sent stream more bytes after read some gone =>
      exact ⟨List.nil_prefix, fun other => absurd rfl other, fun other => by cases other⟩

/-- It stops early only where a read fails or the consumer stops reading. -/
theorem pumpLoop_steady {takes : Nat → Bool} (listening : ∀ n, takes n = true)
    (remaining : Option Nat) (sent : Nat) (steady : stream.Steady) :
    (pumpLoop takes remaining sent stream).1 ≠ .stopped := by
  fun_induction pumpLoop takes remaining sent stream with
  | case1 remaining sent stream full => exact PumpOutcome.noConfusion
  | case2 remaining sent stream more e after read =>
      obtain ⟨bytes, next, reads⟩ := steady.read (wanted remaining)
      rw [reads] at read
      cases read
  | case3 remaining sent stream more bytes after read none => exact PumpOutcome.noConfusion
  | case4 remaining sent stream more bytes after read some takes' later ih =>
      exact ih ((IStream.took_of_read read).steady steady)
  | case5 remaining sent stream more bytes after read some gone =>
      exact absurd (listening sent) gone

end Loops

end Wpd
