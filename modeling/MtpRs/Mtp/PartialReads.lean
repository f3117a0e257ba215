import MtpRs.Mtp.Usb

set_option autoImplicit false

/- What the commands of a partial read ask a device for. -/
namespace Mtp

open Ptp (OperationCode)

structure ReadCommand where
  operation : OperationCode
  params : List UInt32
deriving DecidableEq, Repr

def getObject (handle : UInt32) : ReadCommand := ⟨.getObject, [handle]⟩

def getPartialObject (handle : UInt32) (offset : Nat) (maxBytes : UInt32) : ReadCommand :=
  ⟨.getPartialObject, [handle, UInt32.ofNat offset, maxBytes]⟩

def getPartialObject64 (handle : UInt32) (offset : Nat) (maxBytes : UInt32) : ReadCommand :=
  ⟨.getPartialObject64, [handle, UInt32.ofNat offset, UInt32.ofNat (offset / 2 ^ 32), maxBytes]⟩

namespace UsbBackend

def readRange (self : UsbBackend) (obj : UInt32) (offset : Nat) (len : Option UInt32) :
    Except Error ReadCommand :=
  let partially (maxBytes : UInt32) : Except Error ReadCommand :=
    match self.partialRead offset with
    | .error e => .error e
    | .ok .wide => .ok (getPartialObject64 obj offset maxBytes)
    | .ok .narrow => .ok (getPartialObject obj offset maxBytes)
  match len with
  | none => if offset = 0 then .ok (getObject obj) else partially (UInt32.ofNat u32Max)
  | some len => partially len

/-- The device says that it has the operation. -/
def Advertises (self : UsbBackend) : OperationCode → Prop
  | .getPartialObject64 => self.hasPartialObject64 = true
  | .getPartialObject => self.hasPartialObject = true
  | _ => False

end UsbBackend

/-- What a device reads out of a partial read: the object, the offset and the length. -/
def decodePartialRead : OperationCode → List UInt32 → Option (UInt32 × Nat × UInt32)
  | .getPartialObject64, [handle, offsetLo, offsetHi, maxBytes] =>
      some (handle, offsetLo.toNat + 2 ^ 32 * offsetHi.toNat, maxBytes)
  | .getPartialObject, [handle, offset, maxBytes] => some (handle, offset.toNat, maxBytes)
  | _, _ => none

/-- The command is one the device has, and asks for these bytes of the object. -/
structure Addresses (usb : UsbBackend) (operation : OperationCode) (params : List UInt32)
    (obj : UInt32) (offset : Nat) (len : UInt32) : Prop where
  advertised : usb.Advertises operation
  asks : decodePartialRead operation params = some (obj, offset, len)
  reaches : operation = .getPartialObject → offset ≤ u32Max

section

variable {usb : UsbBackend} {obj : UInt32} {len : UInt32} {offset : Nat}

theorem offset_words (fits : offset ≤ u64Max) :
    (UInt32.ofNat offset).toNat + 2 ^ 32 * (UInt32.ofNat (offset / 2 ^ 32)).toNat = offset := by
  unfold u64Max at fits
  rw [UInt32.toNat_ofNat', UInt32.toNat_ofNat']
  omega

theorem offset_word (small : offset ≤ u32Max) : (UInt32.ofNat offset).toNat = offset := by
  unfold u32Max at small
  rw [UInt32.toNat_ofNat']
  omega

/-- The operation of a partial read is one the device has, and its offset reaches. -/
theorem partialRead_cases (usb : UsbBackend) (offset : Nat) :
    usb.partialRead offset = .ok .wide ∧ usb.hasPartialObject64 = true ∨
      usb.partialRead offset = .ok .narrow ∧ usb.hasPartialObject = true ∧ offset ≤ u32Max ∨
      (∃ e, usb.partialRead offset = .error e) ∧ usb.hasPartialObject64 = false ∧
        (usb.hasPartialObject = true → u32Max < offset) := by
  unfold UsbBackend.partialRead planPartialRead
  cases wide : usb.hasPartialObject64 with
  | true => exact Or.inl ⟨rfl, rfl⟩
  | false =>
      apply Or.inr
      cases narrow : usb.hasPartialObject with
      | false => exact Or.inr ⟨⟨_, rfl⟩, rfl, fun has => by cases has⟩
      | true =>
          by_cases behind : u32Max < offset
          · simp only [behind]
            exact Or.inr ⟨⟨_, rfl⟩, trivial, fun _ => trivial⟩
          · simp only [behind]
            exact Or.inl ⟨rfl, trivial, Nat.le_of_not_lt behind⟩

/-- The 64-bit command, where the device has it. -/
theorem addresses_wide (fits : offset ≤ u64Max) (has : usb.hasPartialObject64 = true) :
    Addresses usb .getPartialObject64
      [obj, UInt32.ofNat offset, UInt32.ofNat (offset / 2 ^ 32), len] obj offset len where
  advertised := has
  asks := by rw [decodePartialRead, offset_words fits]
  reaches := fun other => by cases other

/-- The 32-bit command, where its offset reaches. -/
theorem addresses_narrow (small : offset ≤ u32Max) (has : usb.hasPartialObject = true) :
    Addresses usb .getPartialObject [obj, UInt32.ofNat offset, len] obj offset len where
  advertised := has
  asks := by rw [decodePartialRead, offset_word small]
  reaches := fun _ => small

theorem partialReadStream_addresses (fits : offset ≤ u64Max) {command : StreamCommand}
    (sent : usb.partialReadStream obj offset len = .ok command) :
    Addresses usb command.operation command.params obj offset len := by
  unfold UsbBackend.partialReadStream at sent
  rcases partialRead_cases usb offset with
    ⟨planned, has⟩ | ⟨planned, has, small⟩ | ⟨⟨e, planned⟩, -, -⟩
  · rw [planned] at sent
    cases sent
    exact addresses_wide fits has
  · rw [planned] at sent
    cases sent
    exact addresses_narrow small has
  · rw [planned] at sent
    cases sent

theorem readRange_addresses (fits : offset ≤ u64Max) {asked : Option UInt32}
    (partially : asked = none → offset ≠ 0) {command : ReadCommand}
    (sent : usb.readRange obj offset asked = .ok command) :
    Addresses usb command.operation command.params obj offset
      (asked.getD (UInt32.ofNat u32Max)) := by
  have reads : ∀ maxBytes : UInt32, (match usb.partialRead offset with
      | .error e => .error e
      | .ok .wide => .ok (getPartialObject64 obj offset maxBytes)
      | .ok .narrow => .ok (getPartialObject obj offset maxBytes)) = Except.ok command →
      Addresses usb command.operation command.params obj offset maxBytes := by
    intro maxBytes ran
    rcases partialRead_cases usb offset with
      ⟨planned, has⟩ | ⟨planned, has, small⟩ | ⟨⟨e, planned⟩, -, -⟩
    · rw [planned] at ran
      cases ran
      exact addresses_wide fits has
    · rw [planned] at ran
      cases ran
      exact addresses_narrow small has
    · rw [planned] at ran
      cases ran
  unfold UsbBackend.readRange at sent
  cases asked with
  | none =>
      dsimp only at sent
      rw [if_neg (partially rfl)] at sent
      exact reads _ sent
  | some len => exact reads len sent

/-- Some command the device has asks for a byte at the offset. -/
def UsbBackend.Carries (self : UsbBackend) (offset : Nat) : Prop :=
  ∃ operation params obj len, Addresses self operation params obj offset len

theorem UsbBackend.carries_iff (usb : UsbBackend) (fits : offset ≤ u64Max) :
    usb.Carries offset ↔
      usb.hasPartialObject64 = true ∨ usb.hasPartialObject = true ∧ offset ≤ u32Max := by
  constructor
  · intro carries
    obtain ⟨operation, params, obj, len, advertised, asks, reaches⟩ := carries
    unfold Advertises at advertised
    split at advertised
    · exact Or.inl advertised
    · exact Or.inr ⟨advertised, reaches rfl⟩
    · exact absurd advertised id
  · intro has
    rcases has with wide | ⟨narrow, small⟩
    · exact ⟨_, _, 0, 0, addresses_wide fits wide⟩
    · exact ⟨_, _, 0, 0, addresses_narrow small narrow⟩

/-- Where no command carries the offset there is no operation for it, and only there. -/
theorem partialRead_error_iff (usb : UsbBackend) (fits : offset ≤ u64Max) :
    (∃ e, usb.partialRead offset = .error e) ↔ ¬ usb.Carries offset := by
  rw [usb.carries_iff fits]
  rcases partialRead_cases usb offset with
    ⟨planned, has⟩ | ⟨planned, has, small⟩ | ⟨⟨e, planned⟩, lacks, far⟩
  · rw [planned]
    simp [has]
  · rw [planned]
    simp [has, small]
  · rw [planned]
    simp only [Except.error.injEq, exists_eq', lacks, Bool.false_eq_true, false_or, true_iff,
      not_and, Nat.not_le]
    exact far

theorem canReadPartiallyAt_iff (usb : UsbBackend) (fits : offset ≤ u64Max) :
    usb.canReadPartiallyAt offset = true ↔ usb.Carries offset := by
  have errs := partialRead_error_iff usb fits
  unfold UsbBackend.canReadPartiallyAt
  cases planned : usb.partialRead offset with
  | ok op =>
      rw [planned] at errs
      refine iff_of_true rfl ?_
      simpa using errs
  | error e =>
      rw [planned] at errs
      have none : ¬ usb.Carries offset := errs.mp ⟨e, rfl⟩
      exact iff_of_false (fun ok => by cases ok) none

/-- A call behind what the device's operations reach sends nothing. -/
theorem fails_of_not_carries (obj len : UInt32) (fits : offset ≤ u64Max)
    (unreachable : ¬ usb.Carries offset) :
    (∃ e, usb.partialReadStream obj offset len = .error e) ∧
      ∀ asked : Option UInt32, (asked = none → offset ≠ 0) →
        ∃ e, usb.readRange obj offset asked = .error e := by
  obtain ⟨e, planned⟩ := (partialRead_error_iff usb fits).mpr unreachable
  constructor
  · rw [UsbBackend.partialReadStream, planned]
    exact ⟨e, rfl⟩
  · intro asked partially
    unfold UsbBackend.readRange
    rw [planned]
    cases asked with
    | none => exact ⟨e, if_neg (partially rfl)⟩
    | some len => exact ⟨e, rfl⟩

/-- What is asked of one partial read: no more than a `u32` counts. -/
def capped (want : Nat) : UInt32 :=
  UInt32.ofNat (min want u32Max)

theorem capped_eq (want : Nat) :
    (if want ≤ u32Max then UInt32.ofNat want else UInt32.ofNat u32Max) = capped want := by
  unfold capped
  by_cases small : want ≤ u32Max
  · rw [if_pos small, Nat.min_eq_left small]
  · rw [if_neg small, Nat.min_eq_right (by omega)]

/-- A transfer of a part of the object is one partial read from its offset. -/
theorem download_from_eq (usb : UsbBackend) (obj : UInt32) {size : Nat} (inside : offset ≤ size) :
    usb.download obj (.from_ offset) size =
      usb.partialReadStream obj offset (capped (size - offset)) := by
  rw [← capped_eq]
  exact if_neg (Nat.not_lt.mpr inside)

theorem download_range_eq (usb : UsbBackend) (obj : UInt32) {size : Nat} (rangeLen : Nat)
    (inside : offset ≤ size) :
    usb.download obj (.range offset rangeLen) size =
      usb.partialReadStream obj offset (capped (min (size - offset) rangeLen)) := by
  rw [← capped_eq]
  exact if_neg (Nat.not_lt.mpr inside)

theorem download_past_end (usb : UsbBackend) (obj : UInt32) (range : ByteRange) {size : Nat}
    (outside : size < range.offset) : ∃ e, usb.download obj range size = .error e :=
  ⟨_, if_pos outside⟩

end

/-- Partial reads address what was asked, for every pair of capabilities, 64-bit offset and 32-bit
length. Each command of `partial_read_stream`, `download_window`, `download` and `read_range` is
one the device has, and asks for the object, the offset and the length of the call; the 32-bit one
stays below 4 GiB. A call whose offset no command carries sends nothing, and
`can_read_partially_at` says which offsets those are. -/
theorem partial_reads_addressed (usb : UsbBackend) (obj : UInt32) (offset size rangeLen : UInt64)
    (len : UInt32) :
    (∀ command, usb.partialReadStream obj offset.toNat len = .ok command →
      Addresses usb command.operation command.params obj offset.toNat len) ∧
    (∀ command, usb.downloadWindow obj offset.toNat len = .ok command →
      Addresses usb command.operation command.params obj offset.toNat len) ∧
    (∀ command, usb.download obj (.from_ offset.toNat) size.toNat = .ok command →
      Addresses usb command.operation command.params obj offset.toNat
        (UInt32.ofNat (min (size.toNat - offset.toNat) u32Max))) ∧
    (∀ command, usb.download obj (.range offset.toNat rangeLen.toNat) size.toNat = .ok command →
      Addresses usb command.operation command.params obj offset.toNat
        (UInt32.ofNat (min (min (size.toNat - offset.toNat) rangeLen.toNat) u32Max))) ∧
    (∀ asked command, (asked = none → offset.toNat ≠ 0) →
      usb.readRange obj offset.toNat asked = .ok command →
      Addresses usb command.operation command.params obj offset.toNat
        (asked.getD (UInt32.ofNat u32Max))) ∧
    (¬ usb.Carries offset.toNat →
      (∃ e, usb.partialReadStream obj offset.toNat len = .error e) ∧
      (∃ e, usb.downloadWindow obj offset.toNat len = .error e) ∧
      (∃ e, usb.download obj (.from_ offset.toNat) size.toNat = .error e) ∧
      (∃ e, usb.download obj (.range offset.toNat rangeLen.toNat) size.toNat = .error e) ∧
      ∀ asked : Option UInt32, (asked = none → offset.toNat ≠ 0) →
        ∃ e, usb.readRange obj offset.toNat asked = .error e) ∧
    (usb.canReadPartiallyAt offset.toNat = true ↔ usb.Carries offset.toNat) := by
  have fits : offset.toNat ≤ u64Max := Nat.le_sub_one_of_lt offset.toNat_lt
  have streamed : ∀ len command, usb.partialReadStream obj offset.toNat len = .ok command →
      Addresses usb command.operation command.params obj offset.toNat len :=
    fun _ _ sent => partialReadStream_addresses fits sent
  refine ⟨streamed len, streamed len, ?_, ?_, ?_, ?_, canReadPartiallyAt_iff usb fits⟩
  · intro command sent
    by_cases inside : offset.toNat ≤ size.toNat
    · rw [download_from_eq usb obj inside] at sent
      exact streamed _ command sent
    · obtain ⟨e, failed⟩ := download_past_end usb obj (.from_ offset.toNat)
        (Nat.lt_of_not_le inside)
      rw [failed] at sent
      cases sent
  · intro command sent
    by_cases inside : offset.toNat ≤ size.toNat
    · rw [download_range_eq usb obj rangeLen.toNat inside] at sent
      exact streamed _ command sent
    · obtain ⟨e, failed⟩ := download_past_end usb obj
        (.range offset.toNat rangeLen.toNat) (Nat.lt_of_not_le inside)
      rw [failed] at sent
      cases sent
  · intro asked command partially sent
    exact readRange_addresses fits partially sent
  · intro unreachable
    have none := fun len => (fails_of_not_carries obj len fits unreachable).1
    refine ⟨none len, none len, ?_, ?_, (fails_of_not_carries obj len fits unreachable).2⟩
    · by_cases inside : offset.toNat ≤ size.toNat
      · rw [download_from_eq usb obj inside]
        exact none _
      · exact download_past_end usb obj _ (Nat.lt_of_not_le inside)
    · by_cases inside : offset.toNat ≤ size.toNat
      · rw [download_range_eq usb obj rangeLen.toNat inside]
        exact none _
      · exact download_past_end usb obj _ (Nat.lt_of_not_le inside)

end Mtp
