import MtpRs.Ptp.Fields

set_option autoImplicit false

/- Arrays of integers behind their count. -/
namespace Ptp

open Readers (Delimited Reader field)

section

variable {α : Type}

/-- An array of elements of one size, behind their count, and the number of bytes it takes. -/
def unpackArray (size : Nat) (type : String) (unpack : Bytes → Except PtpError α) :
    Reader UInt8 PtpError (List α) := fun buf =>
  if buf.length < 4 then
    .error (.invalidData
      ("insufficient bytes for array count: need 4, have " ++ toString buf.length))
  else do
    let count ← unpackU32 buf
    let required := 4 + count.toNat * size
    if buf.length < required then
      .error (.invalidData ("insufficient bytes for " ++ type ++ " array: need " ++
        toString required ++ ", have " ++ toString buf.length))
    else do
      let elements ← (List.range count.toNat).mapM fun i => unpack (buf.drop (4 + i * size))
      return (elements, required)

variable {size : Nat} {type : String} {unpack : Bytes → Except PtpError α} {buf : Bytes}

theorem unpackArray_iff {elements : List α} {taken : Nat} :
    unpackArray size type unpack buf = .ok (elements, taken) ↔
      ∃ count, unpackU32 buf = .ok count ∧ taken = 4 + count.toNat * size ∧ taken ≤ buf.length ∧
        (List.range count.toNat).mapM (fun i => unpack (buf.drop (4 + i * size))) =
          .ok elements := by
  unfold unpackArray
  by_cases short : buf.length < 4
  · rw [if_pos short]
    refine iff_of_false nofun ?_
    intro ⟨count, _, same, inside, _⟩
    omega
  · obtain ⟨count, counted⟩ := unpackU32_of_length (Nat.le_of_not_lt short)
    rw [if_neg short, counted]
    simp only [bind, Except.bind]
    by_cases missing : buf.length < 4 + count.toNat * size
    · rw [if_pos missing]
      refine iff_of_false nofun ?_
      intro ⟨count', same, taken, inside, _⟩
      cases same
      omega
    · rw [if_neg missing]
      cases parsed : (List.range count.toNat).mapM fun i => unpack (buf.drop (4 + i * size)) with
      | error e =>
          refine iff_of_false nofun ?_
          intro ⟨count', same, _, _, parsed'⟩
          cases same
          rw [parsed] at parsed'
          cases parsed'
      | ok elements' =>
          constructor
          · intro same
            cases same
            exact ⟨count, rfl, rfl, Nat.le_of_not_lt missing, parsed⟩
          · intro ⟨count', same, taken, _, parsed'⟩
            cases same
            rw [parsed] at parsed'
            cases parsed'
            rw [taken]
            rfl

/-- What one function gives of every item, another that agrees with it there does too. -/
theorem mapM_congr {β γ ε : Type} {f g : β → Except ε γ} {items : List β} {values : List γ}
    (same : ∀ item ∈ items, ∀ value, f item = .ok value → g item = .ok value)
    (mapped : items.mapM f = .ok values) : items.mapM g = .ok values := by
  induction items generalizing values with
  | nil => exact mapped
  | cons item items ih =>
      rw [List.mapM_cons] at mapped ⊢
      cases first : f item with
      | error e =>
          rw [first] at mapped
          cases mapped
      | ok value =>
          cases later : items.mapM f with
          | error e =>
              rw [first, later] at mapped
              cases mapped
          | ok others =>
              rw [first, later] at mapped
              rw [same item (List.mem_cons_self ..) value first,
                ih (fun other mem => same other (List.mem_cons_of_mem _ mem)) later]
              exact mapped

/-- An element inside the bytes that are kept is the same. -/
theorem unpack_take (each : Delimited (field size unpack)) {offset taken : Nat} {value : α}
    (inside : offset + size ≤ taken) (within : taken ≤ buf.length)
    (read : unpack (buf.drop offset) = .ok value) (more : Bytes) :
    unpack ((buf.take taken ++ more).drop offset) = .ok value := by
  have fits : field size unpack (buf.drop offset) = .ok (value, size) := by
    rw [field, read]
    rfl
  have length : (buf.take taken).length = taken := List.length_take_of_le within
  have kept : (buf.take taken ++ more).drop offset =
      (buf.drop offset).take size ++ ((buf.drop (offset + size)).take (taken - (offset + size)) ++
        more) := by
    rw [List.drop_append_of_le_length (by omega), List.drop_take,
      show taken - offset = size + (taken - (offset + size)) by omega, List.take_add,
      List.drop_drop, List.append_assoc]
  have again := each.stable fits
    ((buf.drop (offset + size)).take (taken - (offset + size)) ++ more)
  rw [← kept] at again
  obtain ⟨value', read', same⟩ := Readers.map_eq_ok.mp again
  cases same
  exact read'

theorem delimited_array (each : Delimited (field size unpack)) :
    Delimited (unpackArray size type unpack) where
  within read := by
    obtain ⟨count, _, _, inside, _⟩ := unpackArray_iff.mp read
    exact inside
  stable {input elements taken} read more := by
    obtain ⟨count, counted, same, inside, mapped⟩ := unpackArray_iff.mp read
    have length : (input.take taken).length = taken := List.length_take_of_le inside
    refine unpackArray_iff.mpr ⟨count, ?_, same, ?_, mapM_congr (fun i mem value parsed => ?_)
      mapped⟩
    · exact unpack_take delimited_u32 (show 0 + 4 ≤ taken by omega) inside counted more
    · rw [List.length_append, length]
      omega
    · have before := Nat.mul_le_mul_right size (Nat.succ_le_of_lt (List.mem_range.mp mem))
      rw [Nat.succ_mul] at before
      exact unpack_take each (by omega) inside parsed more

end

def unpackU16Array : Reader UInt8 PtpError (List UInt16) := unpackArray 2 "u16" unpackU16

def unpackU32Array : Reader UInt8 PtpError (List UInt32) := unpackArray 4 "u32" unpackU32

theorem delimited_u16Array : Delimited unpackU16Array := delimited_array delimited_u16

theorem delimited_u32Array : Delimited unpackU32Array := delimited_array delimited_u32

end Ptp
