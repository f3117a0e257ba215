import MtpRs.Ptp.Session.Recovery

set_option autoImplicit false

/- The transaction IDs a session hands out to callers that run concurrently, and which of two is
taken for the earlier one. -/
namespace Ptp

/-- Where a call of `next_transaction_id` stands: before its load, or before its exchange. -/
inductive Caller where
  | loads
  | exchanges (current : UInt32)
deriving DecidableEq, Repr

/-- The session's counter, where each caller stands, and the IDs handed out, in order. -/
structure IdCounter where
  cell : UInt32
  callers : Nat → Option Caller
  handedOut : List UInt32

namespace IdCounter

def new : IdCounter := ⟨TransactionId.first, fun _ => none, []⟩

def place (self : IdCounter) (caller : Nat) (stands : Option Caller) : IdCounter :=
  { self with callers := fun other => if other = caller then stands else self.callers other }

/-- A caller's next atomic step. One that is in no call makes another. -/
def step (self : IdCounter) (caller : Nat) : IdCounter :=
  match self.callers caller with
  | none => self.place caller (some .loads)
  | some .loads => self.place caller (some (.exchanges self.cell))
  | some (.exchanges current) =>
      if self.cell = current then
        { self.place caller none with
          cell := TransactionId.next current
          handedOut := self.handedOut ++ [current] }
      else self.place caller (some .loads)

/-- The steps of a schedule, one caller's after the other's. -/
def run (schedule : List Nat) : IdCounter := schedule.foldl step new

end IdCounter

/-- The numbers from 1 to 0xFFFFFFFE. -/
def idCount : Nat := 2 ^ 32 - 2

/-- The ID that is handed out after so many others. -/
def nthId (n : Nat) : UInt32 := UInt32.ofNat (n % idCount + 1)

section

variable {n m : Nat}

theorem nthId_toNat (n : Nat) : (nthId n).toNat = n % idCount + 1 := by
  unfold nthId idCount
  rw [UInt32.toNat_ofNat']
  omega

theorem next_nthId (n : Nat) : TransactionId.next (nthId n) = nthId (n + 1) := by
  have here := nthId_toNat n
  have there := nthId_toNat (n + 1)
  have sum : (nthId n + 1).toNat = n % idCount + 2 := by
    rw [UInt32.toNat_add, here]
    unfold idCount
    change (_ + 1) % 2 ^ 32 = _
    omega
  unfold TransactionId.next
  dsimp only
  by_cases last : nthId n + 1 = 0 ∨ nthId n + 1 = 0xFFFFFFFF
  · rw [if_pos last]
    rw [← UInt32.toNat_inj, ← UInt32.toNat_inj, sum] at last
    apply UInt32.toNat_inj.mp
    rw [there]
    unfold idCount at last ⊢
    change _ = 0 ∨ _ = 4294967295 at last
    change 1 = _
    omega
  · rw [if_neg last]
    rw [← UInt32.toNat_inj, ← UInt32.toNat_inj, sum] at last
    apply UInt32.toNat_inj.mp
    rw [sum, there]
    unfold idCount at last ⊢
    change ¬ (_ = 0 ∨ _ = 4294967295) at last
    omega

theorem nthId_ne_zero (n : Nat) : nthId n ≠ 0 := by
  intro zero
  have value := nthId_toNat n
  rw [zero] at value
  change 0 = _ at value
  omega

theorem nthId_ne_last (n : Nat) : nthId n ≠ 0xFFFFFFFF := by
  intro last
  have value := nthId_toNat n
  rw [last] at value
  unfold idCount at value
  change 4294967295 = _ at value
  omega

/-- IDs come again after all others only. -/
theorem nthId_ne (before : n < m) (near : m - n < idCount) : nthId n ≠ nthId m := by
  intro same
  have value := congrArg UInt32.toNat same
  rw [nthId_toNat, nthId_toNat] at value
  unfold idCount at near value
  omega

/-- A later number lies as far ahead, or has wrapped once. -/
theorem mod_idCount (before : n < m) (near : m - n < 2 ^ 31 - 2) :
    n % idCount < 2 ^ 32 - 2 ∧ m % idCount < 2 ^ 32 - 2 ∧
      (m % idCount = n % idCount + (m - n) ∨
        m % idCount + (2 ^ 32 - 2) = n % idCount + (m - n)) := by
  unfold idCount
  omega

/-- The wrapping distance counts the two values that are left out. -/
theorem nthId_behind (before : n < m) (near : m - n < 2 ^ 31 - 2) :
    m - n ≤ (nthId m - nthId n).toNat ∧ (nthId m - nthId n).toNat ≤ m - n + 2 := by
  have around := mod_idCount before near
  rw [UInt32.toNat_sub, nthId_toNat, nthId_toNat]
  omega

theorem nthId_ahead (before : n < m) (near : m - n < 2 ^ 31 - 2) :
    2 ^ 31 ≤ (nthId n - nthId m).toNat := by
  have around := mod_idCount before near
  rw [UInt32.toNat_sub, nthId_toNat, nthId_toNat]
  omega

theorem isStaleReply_earlier (before : n < m) (near : m - n < 2 ^ 31 - 2) :
    isStaleReply (nthId n) (nthId m) = true := by
  have behind := nthId_behind before near
  rw [isStaleReply_iff]
  omega

theorem isStaleReply_later (before : n < m) (near : m - n < 2 ^ 31 - 2) :
    isStaleReply (nthId m) (nthId n) = false := by
  have ahead := nthId_ahead before near
  rw [← Bool.not_eq_true, isStaleReply_iff]
  omega

theorem isStaleReply_self (id : UInt32) : isStaleReply id id = false := by
  rw [← Bool.not_eq_true, isStaleReply_iff, UInt32.sub_self]
  change ¬ (1 ≤ 0 ∧ _)
  omega

end

namespace IdCounter

/-- The counter has counted the IDs that were handed out. -/
structure Counts (state : IdCounter) : Prop where
  cell : state.cell = nthId state.handedOut.length
  ids : ∀ i, i < state.handedOut.length → state.handedOut[i]? = some (nthId i)

variable {self : IdCounter} {schedule : List Nat} {caller : Nat}

theorem counts_new : new.Counts where
  cell := rfl
  ids i before := absurd before (Nat.not_lt_zero i)

theorem Counts.place (counts : self.Counts) (caller : Nat) (stands : Option Caller) :
    (self.place caller stands).Counts :=
  ⟨counts.cell, counts.ids⟩

/-- Only the exchange of the value in the cell hands an ID out, whatever was loaded before. -/
theorem Counts.step (counts : self.Counts) (caller : Nat) : (self.step caller).Counts := by
  unfold IdCounter.step
  cases self.callers caller with
  | none => exact counts.place caller _
  | some stands =>
      cases stands with
      | loads => exact counts.place caller _
      | exchanges current =>
          dsimp only
          by_cases same : self.cell = current
          · rw [if_pos same]
            subst same
            constructor
            · dsimp only
              rw [counts.cell, next_nthId, List.length_append, List.length_singleton]
            · intro i before
              dsimp only at before ⊢
              rw [List.length_append, List.length_singleton] at before
              by_cases earlier : i < self.handedOut.length
              · rw [List.getElem?_append_left earlier]
                exact counts.ids i earlier
              · have last : i = self.handedOut.length := by omega
                rw [last, List.getElem?_concat_length, counts.cell]
          · rw [if_neg same]
            exact counts.place caller _

theorem counts_run (schedule : List Nat) : (run schedule).Counts := by
  induction schedule using List.reverseRecOn with
  | nil => exact counts_new
  | append_singleton schedule caller ih =>
      rw [run, List.foldl_append]
      exact ih.step caller

end IdCounter

/-- The IDs handed out under any schedule: none is reserved, each comes again after all others only,
and of two near each other the earlier one is stale. -/
theorem transaction_ids (schedule : List Nat) :
    (∀ id ∈ (IdCounter.run schedule).handedOut, id ≠ 0 ∧ id ≠ 0xFFFFFFFF) ∧
    (∀ i j earlier later, (IdCounter.run schedule).handedOut[i]? = some earlier →
      (IdCounter.run schedule).handedOut[j]? = some later → i < j →
      (j - i < 2 ^ 32 - 2 → earlier ≠ later) ∧
      (j - i < 2 ^ 31 - 2 →
        isStaleReply earlier later = true ∧ isStaleReply later earlier = false)) ∧
    ∀ id, isStaleReply id id = false := by
  have counts := IdCounter.counts_run schedule
  have isNth : ∀ {i id}, (IdCounter.run schedule).handedOut[i]? = some id → id = nthId i := by
    intro i id found
    have before := (List.getElem?_eq_some_iff.mp found).1
    rw [counts.ids i before] at found
    exact (Option.some.inj found).symm
  refine ⟨?_, ?_, isStaleReply_self⟩
  · intro id mem
    obtain ⟨i, found⟩ := List.getElem?_of_mem mem
    rw [isNth found]
    exact ⟨nthId_ne_zero i, nthId_ne_last i⟩
  · intro i j earlier later first second before
    rw [isNth first, isNth second]
    exact ⟨nthId_ne before, fun near =>
      ⟨isStaleReply_earlier before near, isStaleReply_later before near⟩⟩

end Ptp
