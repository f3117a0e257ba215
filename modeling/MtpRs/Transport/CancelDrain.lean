import MtpRs.Transport.Nusb

set_option autoImplicit false

/- How far the drain of a cancel reads: up to the first read that looks like a response, whichever
transaction it belongs to. -/
namespace Nusb

open Ptp (Bytes PtpError ResponseContainer unpackU16 unpackU32)

/-- A read that the drain takes for the response: a short one of at least twelve bytes, whose length
field is its own length and whose type code is 3. -/
structure LooksLikeResponse (requested : Nat) (read : Bytes) : Prop where
  header : 12 ≤ read.length
  short : read.length < requested
  length : ∃ length, unpackU32 (read.take 4) = .ok length ∧ length.toNat = read.length
  typeCode : unpackU16 ((read.take 6).drop 4) = .ok 3

theorem isResponseContainer_iff (read : Bytes) (requested : Nat) :
    isResponseContainer read requested = true ↔ LooksLikeResponse requested read := by
  unfold isResponseContainer
  constructor
  · intro recognised
    split at recognised
    · cases recognised
    · next size =>
        split at recognised
        · next length typeCode readLength readType =>
            simp only [Bool.and_eq_true, beq_iff_eq] at recognised
            exact ⟨by omega, by omega, ⟨length, readLength, recognised.1⟩,
              by rw [readType, recognised.2]⟩
        · cases recognised
  · rintro ⟨header, short, ⟨length, readLength, same⟩, readType⟩
    have size : ¬ (read.length < 12 ∨ requested ≤ read.length) := by omega
    rw [if_neg size, readLength, readType]
    simp [same]

/-- The reads of a cancelled transaction: what comes before its response, that response, and what
the device sends later. -/
structure InFlight (transactionId : UInt32) where
  before : List Bytes
  response : Bytes
  later : List Completion
  answer : ResponseContainer
  parsed : ResponseContainer.fromBytes response = .ok answer
  own : answer.transactionId = transactionId

def InFlight.reads {transactionId : UInt32} (self : InFlight transactionId) : List Completion :=
  self.before.map .read ++ .read self.response :: self.later

section

variable {host : Host} {readSize : Nat}

/-- A drain takes reads off the front of the pipe. -/
theorem drainBulkIn_suffix (reads : List Completion) :
    (drainBulkIn host readSize reads).2 <:+ reads := by
  induction reads with
  | nil => exact List.suffix_refl []
  | cons completion rest ih =>
      cases completion with
      | read bytes =>
          by_cases recognised : isResponseContainer bytes readSize = true
          · simp only [drainBulkIn, recognised, ↓reduceIte]
            exact List.suffix_cons _ rest
          · simp only [drainBulkIn, recognised, Bool.false_eq_true, ↓reduceIte]
            exact ih.trans (List.suffix_cons _ rest)
      | failed e =>
          by_cases gone : isDisconnect host e = true
          · simp only [drainBulkIn, gone, ↓reduceIte]
            exact List.suffix_cons _ rest
          · simp only [drainBulkIn, gone, Bool.false_eq_true, ↓reduceIte]
            exact List.suffix_cons _ rest
      | idle => exact List.suffix_cons _ rest

/-- Reads that do not look like a response are passed. -/
theorem drainBulkIn_passes {before : List Bytes}
    (plain : ∀ read ∈ before, ¬ LooksLikeResponse readSize read) (rest : List Completion) :
    drainBulkIn host readSize (before.map .read ++ rest) = drainBulkIn host readSize rest := by
  induction before with
  | nil => rfl
  | cons read before ih =>
      have first := plain read List.mem_cons_self
      rw [← isResponseContainer_iff, Bool.not_eq_true] at first
      simp only [List.map_cons, List.cons_append, drainBulkIn, first, Bool.false_eq_true,
        ↓reduceIte]
      exact ih fun other mem => plain other (List.mem_cons_of_mem read mem)

/-- The drain stops behind the first read that looks like a response. -/
theorem drainBulkIn_stops (host : Host) {before : List Bytes} {read : Bytes} (mem : read ∈ before)
    (looks : LooksLikeResponse readSize read) (rest : List Completion) :
    rest.length ≤ (drainBulkIn host readSize (before.map .read ++ rest)).2.length := by
  induction before with
  | nil => cases mem
  | cons first before ih =>
      by_cases recognised : isResponseContainer first readSize = true
      · simp only [List.map_cons, List.cons_append, drainBulkIn, recognised, ↓reduceIte,
          List.length_append, List.length_map]
        omega
      · have later : read ∈ before := by
          cases List.mem_cons.mp mem with
          | inl same =>
              exact absurd ((isResponseContainer_iff first readSize).mpr (same ▸ looks)) recognised
          | inr later => exact later
        simp only [List.map_cons, List.cons_append, drainBulkIn, recognised, Bool.false_eq_true,
          ↓reduceIte]
        exact ih later

/-- The drain goes past the response of the cancelled transaction exactly when no read in front of
it looks like a response. -/
theorem drainBulkIn_through_iff (host : Host) {transactionId : UInt32}
    (flight : InFlight transactionId) :
    (drainBulkIn host readSize flight.reads).2 <:+ flight.later ↔
      ∀ read ∈ flight.before, ¬ LooksLikeResponse readSize read := by
  constructor
  · intro through read mem looks
    have least := drainBulkIn_stops host mem looks (.read flight.response :: flight.later)
    have most := through.length_le
    rw [InFlight.reads] at most
    rw [List.length_cons] at least
    omega
  · intro plain
    rw [InFlight.reads, drainBulkIn_passes plain]
    by_cases recognised : isResponseContainer flight.response readSize = true
    · simp only [drainBulkIn, recognised, ↓reduceIte]
      exact List.suffix_refl _
    · simp only [drainBulkIn, recognised, Bool.false_eq_true, ↓reduceIte]
      exact drainBulkIn_suffix flight.later

end

/-- A cancel that succeeds leaves in the pipe what its drain left. -/
theorem cancelTransfer_bulkIn {host : Host} {transactionId : UInt32} {wire : Wire} {refused : Bool}
    (requested : requestCancel host transactionId wire = .ok refused)
    (success : (cancelTransfer host transactionId wire).1 = .ok ()) :
    (cancelTransfer host transactionId wire).2.bulkIn =
      (drainBulkIn host (drainReadSize host refused) wire.bulkIn).2 := by
  simp only [cancelTransfer, requested] at success ⊢
  split at success
  · cases success
  · next drained =>
      split at success
      · cases success
      · next alive => simp only [alive, Bool.false_eq_true, ↓reduceIte]

/-- The drain of a cancel consumes the cancelled transaction's response with everything in front of
it, and a cancel that succeeds leaves nothing of it, exactly when none of the reads in front of that
response looks like one. -/
theorem cancel_drains_iff (host : Host) {transactionId : UInt32} (flight : InFlight transactionId)
    {wire : Wire} {refused : Bool} (sent : wire.bulkIn = flight.reads)
    (requested : requestCancel host transactionId wire = .ok refused) :
    ((drainBulkIn host (drainReadSize host refused) wire.bulkIn).2 <:+ flight.later ∧
        ((cancelTransfer host transactionId wire).1 = .ok () →
          (cancelTransfer host transactionId wire).2.bulkIn <:+ flight.later)) ↔
      ∀ read ∈ flight.before, ¬ LooksLikeResponse (drainReadSize host refused) read := by
  rw [← drainBulkIn_through_iff host flight, ← sent]
  constructor
  · exact And.left
  · intro through
    refine ⟨through, fun success => ?_⟩
    rw [cancelTransfer_bulkIn requested success]
    exact through

def cancelledReply (transactionId : UInt8) :
    Bytes := [12, 0, 0, 0, 3, 0, 0x1f, 0x20, transactionId, 0, 0, 0]

/-- The response of transaction 5, behind the given reads. -/
def flightOfFive (before : List Bytes) : InFlight 5 where
  before
  response := cancelledReply 5
  later := []
  answer := ⟨.transactionCancelled, 5, []⟩
  parsed := rfl
  own := rfl

def plainHost : Host := ⟨false, fun _ => "", false, 512⟩

/-- A device that acts on the cancel and declines the status request. -/
def plainWire (bulkIn : List Completion) : Wire :=
  ⟨fun _ => .ok (), bulkIn, [], fun _ => .error .stall, .ok ()⟩

theorem cancel_drains_data : (drainBulkIn plainHost 512 (flightOfFive [[1, 2, 3]]).reads).2 <:+ [] ∧
    ((cancelTransfer plainHost 5 (plainWire (flightOfFive [[1, 2, 3]]).reads)).1 = .ok () →
      (cancelTransfer plainHost 5 (plainWire (flightOfFive [[1, 2, 3]]).reads)).2.bulkIn <:+
        []) := by
  apply (@cancel_drains_iff plainHost 5 (flightOfFive [[1, 2, 3]])
    (plainWire (flightOfFive [[1, 2, 3]]).reads) false rfl rfl).mpr
  intro read mem looks
  cases List.mem_singleton.mp mem
  exact absurd looks.header (by decide)

/-- Behind a late reply to transaction 4, the response of transaction 5 stays in the pipe. -/
theorem cancel_stops_at_late_reply :
    (cancelTransfer plainHost 5 (plainWire (flightOfFive [cancelledReply 4]).reads)).1 = .ok () ∧
      ¬ (cancelTransfer plainHost 5
        (plainWire (flightOfFive [cancelledReply 4]).reads)).2.bulkIn <:+
        (flightOfFive [cancelledReply 4]).later := by
  constructor
  · rfl
  · intro through
    exact absurd through.length_le (by decide)

end Nusb
