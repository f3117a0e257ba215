import MtpRs.Ptp.Container

set_option autoImplicit false

/- What every operation of a session shares: transaction identifiers, the rule
for late replies, and the state that makes the next operation drain. -/
namespace Ptp

/-- How many late replies to earlier transactions one operation skips before it gives up. -/
def maxStaleReplies : Nat := 4

def isStaleReply (got expected : UInt32) : Bool :=
  let behind := expected - got
  behind != 0 && behind < 0x80000000

def maySkipStaleReply (operation : OperationCode) (skipped : Nat) : Bool :=
  operation != .closeSession && skipped < maxStaleReplies

def transactionMismatch (expected got : UInt32) : PtpError :=
  .invalidData ("Transaction ID mismatch: expected " ++ toString expected ++ ", got " ++
    toString got)

/-- Stale means strictly earlier, by wrapping distance, by less than half the ring. -/
theorem isStaleReply_iff (got expected : UInt32) :
    isStaleReply got expected = true ↔
      1 ≤ (expected - got).toNat ∧ (expected - got).toNat ≤ 2 ^ 31 - 1 := by
  simp only [isStaleReply, Bool.and_eq_true, bne_iff_ne, ne_eq, decide_eq_true_eq]
  rw [← UInt32.toNat_inj, UInt32.lt_iff_toNat_lt]
  change ¬ (expected - got).toNat = 0 ∧ (expected - got).toNat < 2147483648 ↔ _
  omega

theorem maySkipStaleReply_iff (operation : OperationCode) (skipped : Nat) :
    maySkipStaleReply operation skipped = true ↔
      operation ≠ .closeSession ∧ skipped < maxStaleReplies := by
  simp only [maySkipStaleReply, Bool.and_eq_true, bne_iff_ne, ne_eq, decide_eq_true_eq]

namespace TransactionId

/-- The first valid transaction ID in a session. -/
def first : UInt32 := 1

def sessionLess : UInt32 := 0

/-- Wraps from 0xFFFFFFFE to 1, skipping both 0 and 0xFFFFFFFF. -/
def next (current : UInt32) : UInt32 :=
  let next := current + 1
  if next = 0 ∨ next = 0xFFFFFFFF then 1 else next

end TransactionId

/-- Whether the bulk IN pipe may hold an undrained response of an abandoned
transaction, and which transaction that was. -/
structure RecoveryState where
  needed : Bool
  poisonedTxId : UInt32
deriving DecidableEq, Repr

namespace RecoveryState

/-- `RecoveryState::default()`. -/
def initial : RecoveryState := ⟨false, 0⟩

def flag (_ : RecoveryState) (txId : UInt32) : RecoveryState := ⟨true, txId⟩

/-- If recovery is pending, clear the flag and return the poisoned transaction ID. -/
def take (self : RecoveryState) : Option UInt32 × RecoveryState :=
  (if self.needed then some self.poisonedTxId else none, { self with needed := false })

@[simp] theorem flag_needed (self : RecoveryState) (txId : UInt32) :
    (self.flag txId).needed = true := rfl

@[simp] theorem flag_poisonedTxId (self : RecoveryState) (txId : UInt32) :
    (self.flag txId).poisonedTxId = txId := rfl

end RecoveryState

/-- The guard armed around an operation's command and response. -/
structure TransactionScope where
  txId : UInt32
  armed : Bool
deriving DecidableEq, Repr

namespace TransactionScope

def arm (txId : UInt32) : TransactionScope := ⟨txId, true⟩

def disarm (self : TransactionScope) : TransactionScope := { self with armed := false }

def drop (self : TransactionScope) (recovery : RecoveryState) : RecoveryState :=
  if self.armed then recovery.flag self.txId else recovery

@[simp] theorem drop_arm (txId : UInt32) (recovery : RecoveryState) :
    (arm txId).drop recovery = recovery.flag txId := rfl

@[simp] theorem drop_disarm (self : TransactionScope) (recovery : RecoveryState) :
    self.disarm.drop recovery = recovery := rfl

end TransactionScope

end Ptp
