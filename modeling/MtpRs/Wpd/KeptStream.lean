import MtpRs.Wpd.Actor

set_option autoImplicit false

/- The kept stream cannot be told from a new one. -/
namespace Wpd

open Mtp (Error ObjectHandle)
open Ptp (Bytes)

namespace Worker

/-- The stream is on the object a handle names, at this offset. -/
def Located (worker : Worker) (obj : ObjectHandle) (offset : UInt64) (stream : IStream) : Prop :=
  ∃ id, worker.ids.objectId obj = some id ∧ stream.object = (worker.contents id).bytes ∧
    stream.position = offset.toNat

/-- A kept stream is where it is recorded to be. -/
def KeepsPlace (worker : Worker) : Prop :=
  ∀ kept, worker.lastRead = some kept → worker.Located kept.obj kept.stoppedAt kept.stream

/-- The object's bytes from an offset, up to a limit. -/
def bytesOf (worker : Worker) (obj : ObjectHandle) (offset : UInt64) (limit : Option Nat) :
    Option Bytes :=
  (worker.ids.objectId obj).map fun id => upTo limit ((worker.contents id).bytes.drop offset.toNat)

/-- The device lets the read begin, and no read of the stream fails. -/
def Opens (worker : Worker) (obj : ObjectHandle) (offset : UInt64)
    (getStream : Except WinError (Option Traits)) : Prop :=
  (∀ kept, worker.lastRead = some kept → kept.stream.Steady) ∧
    ∃ id traits, worker.ids.objectId obj = some id ∧ getStream = .ok (some traits) ∧
      (∀ n, ∃ short, traits.reads n = .ok short) ∧
      (traits.seeks offset = true ∨ offset.toNat ≤ (worker.contents id).bytes.length)

section

variable {worker : Worker} {obj : ObjectHandle} {offset : UInt64}
  {getStream : Except WinError (Option Traits)} {stream : IStream}

theorem Located.rest (located : worker.Located obj offset stream) (limit : Option Nat) :
    worker.bytesOf obj offset limit = some (upTo limit stream.rest) := by
  obtain ⟨id, named, object, position⟩ := located
  rw [bytesOf, named, IStream.rest, object, position, Option.map_some]

/-- A stream moved by what passed is where the offset moved by as much is. -/
theorem Located.passed (located : worker.Located obj offset stream) {bytes : Bytes}
    {after : IStream} (passed : stream.Passed bytes after) :
    worker.Located obj (offset + UInt64.ofNat bytes.length) after := by
  obtain ⟨id, named, object, position⟩ := located
  refine ⟨id, named, passed.object.trans object, ?_⟩
  have fits := (worker.contents id).fits
  have small := offset.toNat_lt
  have length := congrArg List.length passed.taken
  rw [List.length_append, IStream.rest, List.length_drop, object, position] at length
  have within : offset.toNat + bytes.length < 2 ^ 64 := by
    by_cases none : bytes.length = 0
    · omega
    · omega
  rw [passed.position, position, UInt64.toNat_add, UInt64.toNat_ofNat',
    Nat.mod_eq_of_lt (show bytes.length < 2 ^ 64 by omega), Nat.mod_eq_of_lt within]

theorem streamSeek_position {start after : IStream} (fresh : start.position = 0)
    (sought : streamSeek start offset = (.ok (), after)) :
    after.object = start.object ∧ after.position = offset.toNat := by
  unfold streamSeek at sought
  split at sought
  · next zero =>
      cases sought
      rw [fresh, zero]
      exact ⟨rfl, rfl⟩
  · split at sought
    · cases sought
      exact ⟨rfl, rfl⟩
    · obtain ⟨bytes, passed, length⟩ := discard_ok sought
      rw [passed.position, fresh, length, Nat.zero_add]
      exact ⟨passed.object, rfl⟩

theorem located_of_openAt (opened : worker.openAt obj offset getStream = .ok stream) :
    worker.Located obj offset stream := by
  unfold openAt openStream at opened
  cases named : worker.ids.objectId obj with
  | none =>
      rw [named] at opened
      cases opened
  | some id =>
      rw [named] at opened
      match getStream with
      | .error e => cases opened
      | .ok none => cases opened
      | .ok (some traits) =>
          simp only at opened
          split at opened
          · cases opened
          · next sought =>
              cases opened
              obtain ⟨object, position⟩ := streamSeek_position rfl sought
              exact ⟨id, named, object, position⟩

/-- Kept or new, the stream a read continues on is at its offset. -/
theorem KeepsPlace.streamAt (keeps : worker.KeepsPlace)
    (found : worker.streamAt obj offset getStream = .ok stream) :
    worker.Located obj offset stream := by
  unfold Worker.streamAt at found
  split at found
  · next kept matched =>
      cases found
      obtain ⟨last, same⟩ := Option.filter_eq_some_iff.mp matched
      rw [Bool.and_eq_true, beq_iff_eq, beq_iff_eq] at same
      rw [← same.1, ← same.2]
      exact keeps kept last
  · exact located_of_openAt found

/-- A new stream whose reads succeed can be positioned where it can seek or has bytes. -/
theorem streamSeek_steady (start : IStream) (fresh : start.position = 0) (steady : start.Steady)
    (reach : start.traits.seeks offset = true ∨ offset.toNat ≤ start.object.length) :
    ∃ after, streamSeek start offset = (.ok (), after) ∧ after.Steady := by
  unfold streamSeek
  split
  · exact ⟨start, rfl, steady⟩
  · split
    · exact ⟨_, rfl, steady⟩
    · next unsought =>
        have enough : offset.toNat ≤ start.rest.length := by
          rw [IStream.rest, fresh, List.drop_zero]
          exact reach.resolve_left unsought
        obtain ⟨after, discarded⟩ := discard_steady steady enough
        obtain ⟨bytes, passed, _⟩ := discard_ok discarded
        exact ⟨after, discarded, passed.steady steady⟩

/-- A device that lets the read begin gives it a stream whose reads succeed. -/
theorem Opens.streamAt (opens : worker.Opens obj offset getStream) :
    ∃ stream, worker.streamAt obj offset getStream = .ok stream ∧ stream.Steady := by
  obtain ⟨kept_steady, id, traits, named, answered, steady, reach⟩ := opens
  unfold Worker.streamAt
  split
  · next kept matched =>
      exact ⟨kept.stream, rfl, kept_steady kept (Option.filter_eq_some_iff.mp matched).1⟩
  · obtain ⟨after, sought, after_steady⟩ :=
      streamSeek_steady ⟨(worker.contents id).bytes, traits, 0, 0⟩ rfl steady reach
    refine ⟨after, ?_, after_steady⟩
    simp only [openAt, openStream, named, answered, sought]

/-- What `ReadRange` answers, and that it keeps a stream only in its place. -/
theorem KeepsPlace.handleReadRange (keeps : worker.KeepsPlace) {len : Option UInt32} :
    (∀ bytes, (worker.handleReadRange obj offset len getStream).1 = .ok bytes →
      worker.bytesOf obj offset (len.map UInt32.toNat) = some bytes) ∧
    (∀ kept, (worker.handleReadRange obj offset len getStream).2 = some kept →
      worker.Located kept.obj kept.stoppedAt kept.stream) := by
  unfold Worker.handleReadRange
  cases found : worker.streamAt obj offset getStream with
  | error e =>
      constructor <;> intro _ same <;> cases same
  | ok stream =>
      have located := keeps.streamAt found
      match read : readRangeLoop (len.map UInt32.toNat) [] stream with
      | (.error e, after) =>
          simp only [read]
          constructor <;> intro _ same <;> cases same
      | (.ok (out, eof), after) =>
          simp only [read]
          obtain ⟨bytes, same, passed, taken⟩ := readRangeLoop_ok read
          rw [List.nil_append] at same
          cases same
          constructor
          · intro bytes same
            cases same
            rw [located.rest]
            conv_rhs => rw [taken]
            simp only [List.length_nil, Nat.sub_zero, Option.map_id']
          · intro kept same
            cases eof with
            | true => cases same
            | false =>
                cases same
                exact located.passed passed

/-- What `DownloadWindow` sends, and that it keeps a stream only in its place. -/
theorem KeepsPlace.handleDownloadWindow (keeps : worker.KeepsPlace) {len : UInt32}
    {consumer : Consumer} :
    (∀ outcome delivered,
      (worker.handleDownloadWindow obj offset len getStream consumer).1 = .ok (outcome, delivered) →
      ∃ part, worker.bytesOf obj offset (some len.toNat) = some part ∧
        chunkBytes delivered <+: part ∧ (outcome ≠ .stopped → chunkBytes delivered = part)) ∧
    (∀ kept, (worker.handleDownloadWindow obj offset len getStream consumer).2 = some kept →
      worker.Located kept.obj kept.stoppedAt kept.stream) := by
  unfold Worker.handleDownloadWindow
  cases found : worker.streamAt obj offset getStream with
  | error e =>
      constructor
      · intro outcome delivered same
        cases same
      · intro kept same
        cases same
  | ok stream =>
      have located := keeps.streamAt found
      by_cases waits : consumer.waits = true
      · have pumped := pumpLoop_pumped consumer.takes (some len.toNat) 0 stream
        simp only [waits, ↓reduceIte]
        constructor
        · intro outcome delivered same
          cases same
          exact ⟨_, located.rest (some len.toNat), pumped.front,
            fun unstopped => (pumped.whole unstopped).2⟩
        · intro kept same
          split at same
          · next complete =>
              cases same
              have passed := (pumped.whole (by rw [complete]; exact PumpOutcome.noConfusion)).1
              have length := Option.some.inj (pumped.complete complete)
              have moved := located.passed passed
              rw [← length] at moved
              have whole : UInt64.ofNat len.toNat = len.toUInt64 := by
                apply UInt64.toNat_inj.mp
                rw [UInt64.toNat_ofNat', UInt32.toNat_toUInt64]
                have small := len.toNat_lt
                omega
              rw [whole] at moved
              exact moved
          · cases same
      · simp only [waits, Bool.false_eq_true, ↓reduceIte]
        constructor
        · intro outcome delivered same
          cases same
          exact ⟨_, located.rest (some len.toNat), List.nil_prefix, fun other => absurd rfl other⟩
        · intro kept same
          cases same

end

/-- Every turn of the worker keeps a kept stream in its place. -/
theorem KeepsPlace.next {worker : Worker} (keeps : worker.KeepsPlace) {event : Event}
    (allowed : worker.Allowed event) : (worker.next event).KeepsPlace := by
  cases event with
  | readRange obj offset len getStream =>
      intro kept same
      exact keeps.handleReadRange.2 kept same
  | downloadWindow obj offset len getStream consumer =>
      intro kept same
      exact keeps.handleDownloadWindow.2 kept same
  | otherRequest =>
      intro kept same
      cases same
  | idle =>
      intro kept same
      cases same
  | change ids contents =>
      intro kept same
      obtain ⟨id, named, object, position⟩ := keeps kept same
      refine ⟨id, allowed.1 _ _ named, ?_, position⟩
      show kept.stream.object = (contents id).bytes
      rw [allowed.2 kept id same named, object]

theorem KeepsPlace.run {first last : Worker} {events : List Event} (keeps : first.KeepsPlace)
    (ran : Runs first events last) : last.KeepsPlace := by
  refine ran.invariant KeepsPlace ?_ keeps
  rintro worker event after before ⟨allowed, rfl⟩
  exact before.next allowed

/-- `ReadRange` answers the object's bytes from the offset, up to the length, and does answer where
the device serves it. -/
def RangeServed (worker : Worker) (obj : ObjectHandle) (offset : UInt64) (len : Option UInt32)
    (getStream : Except WinError (Option Traits)) : Prop :=
  (∀ bytes, (worker.handleReadRange obj offset len getStream).1 = .ok bytes →
      worker.bytesOf obj offset (len.map UInt32.toNat) = some bytes) ∧
    (worker.Opens obj offset getStream →
      ∃ bytes, (worker.handleReadRange obj offset len getStream).1 = .ok bytes)

/-- `DownloadWindow` sends the same bytes, or the front of them when a read fails or the consumer
stops reading, and all of them where the device serves it and the consumer does not stop. -/
def WindowServed (worker : Worker) (obj : ObjectHandle) (offset : UInt64) (len : UInt32)
    (getStream : Except WinError (Option Traits)) (consumer : Consumer) : Prop :=
  (∀ outcome delivered,
      (worker.handleDownloadWindow obj offset len getStream consumer).1 = .ok (outcome, delivered) →
      ∃ part, worker.bytesOf obj offset (some len.toNat) = some part ∧
        chunkBytes delivered <+: part ∧ (outcome ≠ .stopped → chunkBytes delivered = part)) ∧
    (worker.Opens obj offset getStream → consumer.waits = true → (∀ n, consumer.takes n = true) →
      ∃ outcome delivered,
        (worker.handleDownloadWindow obj offset len getStream consumer).1 =
          .ok (outcome, delivered) ∧ outcome ≠ .stopped)

theorem KeepsPlace.rangeServed {worker : Worker} (keeps : worker.KeepsPlace) (obj : ObjectHandle)
    (offset : UInt64) (len : Option UInt32) (getStream : Except WinError (Option Traits)) :
    worker.RangeServed obj offset len getStream := by
  refine ⟨keeps.handleReadRange.1, fun opens => ?_⟩
  obtain ⟨stream, found, steady⟩ := opens.streamAt
  obtain ⟨all, eof, after, read⟩ := readRangeLoop_steady (len.map UInt32.toNat) [] steady
  refine ⟨all, ?_⟩
  simp only [Worker.handleReadRange, found, read]

theorem KeepsPlace.windowServed {worker : Worker} (keeps : worker.KeepsPlace) (obj : ObjectHandle)
    (offset : UInt64) (len : UInt32) (getStream : Except WinError (Option Traits))
    (consumer : Consumer) : worker.WindowServed obj offset len getStream consumer := by
  refine ⟨keeps.handleDownloadWindow.1, fun opens waits listening => ?_⟩
  obtain ⟨stream, found, steady⟩ := opens.streamAt
  have unstopped := pumpLoop_steady listening (some len.toNat) 0 steady
  refine ⟨_, (pumpLoop consumer.takes (some len.toNat) 0 stream).2.1, ?_, unstopped⟩
  simp only [Worker.handleDownloadWindow, found, waits, ↓reduceIte]

end Worker

/-- In every state a run of the worker reaches, a kept stream stands where it is recorded to, and
every read is served as a newly opened stream would serve it. -/
theorem kept_stream_transparent {ids : IdMap} {contents : String → ObjectData}
    {events : List Worker.Event} {worker : Worker}
    (ran : Worker.Runs ⟨ids, contents, none⟩ events worker) :
    (∀ kept, worker.lastRead = some kept → kept.stoppedAt.toNat = kept.stream.position) ∧
      (∀ obj offset len getStream, worker.RangeServed obj offset len getStream) ∧
      (∀ obj offset len getStream consumer,
        worker.WindowServed obj offset len getStream consumer) := by
  have nothing : Worker.KeepsPlace ⟨ids, contents, none⟩ := fun kept same => by cases same
  have keeps := nothing.run ran
  refine ⟨fun kept same => ?_, keeps.rangeServed, keeps.windowServed⟩
  obtain ⟨_, _, _, position⟩ := keeps kept same
  exact position.symm

/-- A device whose only object has three bytes, and a stream that seeks nowhere and is read two
bytes at a time. -/
def threeBytes : Worker := ⟨(IdMap.new.object "o1").2, fun _ => ⟨[1, 2, 3], by decide⟩, none⟩

def slowStream : Except WinError (Option Traits) := .ok (some ⟨fun _ => false, fun _ => .ok 1⟩)

/-- After a read of one byte the next is served as from a new stream. -/
theorem kept_stream_after_one_byte :
    (threeBytes.next (.readRange (token "o1") 0 (some 1) slowStream)).RangeServed (token "o1") 1
      none slowStream := by
  have ran : Worker.Runs threeBytes [.readRange (token "o1") 0 (some 1) slowStream]
      (threeBytes.next (.readRange (token "o1") 0 (some 1) slowStream)) :=
    .snoc (.nil threeBytes) ⟨trivial, rfl⟩
  exact (kept_stream_transparent ran).2.1 _ _ _ _

end Wpd
