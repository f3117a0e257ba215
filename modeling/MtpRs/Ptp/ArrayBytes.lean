import MtpRs.Ptp.Arrays

set_option autoImplicit false

/- Arrays of integers are read back as they were packed. -/
namespace Ptp

open Readers (Writes)

variable {α : Type} {size : Nat} {type : String} {unpack : Bytes → Except PtpError α}

/-- Elements of one size are read back one after the other. -/
theorem mapM_flatMap {pack : α → Bytes} (sized : ∀ element, (pack element).length = size)
    (reads : ∀ element rest, unpack (pack element ++ rest) = .ok element) (elements : List α)
    (rest : Bytes) : (List.range elements.length).mapM (fun i =>
      unpack ((elements.flatMap pack ++ rest).drop (i * size))) = .ok elements := by
  induction elements with
  | nil => rfl
  | cons element others ih =>
      have first := reads element (others.flatMap pack ++ rest)
      rw [List.length_cons, List.range_succ_eq_map, List.mapM_cons, List.mapM_map,
        List.flatMap_cons, List.append_assoc, Nat.zero_mul, List.drop_zero, first]
      have later : ((fun i =>
          unpack ((pack element ++ (others.flatMap pack ++ rest)).drop (i * size))) ∘
            Nat.succ) = fun i => unpack ((others.flatMap pack ++ rest).drop (i * size)) := by
        funext i
        rw [Function.comp_apply, Nat.succ_mul, Nat.add_comm, ← List.drop_drop,
          List.drop_left' (sized element)]
      rw [later, ih]
      rfl

/-- An array is read back while a count of 32 bits holds its length. -/
theorem writes_array {pack : α → Bytes} (sized : ∀ element, (pack element).length = size)
    (reads : ∀ element rest, unpack (pack element ++ rest) = .ok element) {elements : List α}
    (fits : elements.length < 2 ^ 32) :
    Writes (unpackArray size type unpack)
      (packU32 (UInt32.ofNat elements.length) ++ elements.flatMap pack) elements := by
  intro rest
  have length : (elements.flatMap pack).length = elements.length * size := by
    induction elements with
    | nil => rw [List.flatMap_nil, List.length_nil, List.length_nil, Nat.zero_mul]
    | cons element others ih =>
        rw [List.flatMap_cons, List.length_append, sized, ih (by simp at fits; omega),
          List.length_cons, Nat.succ_mul, Nat.add_comm]
  have count : (UInt32.ofNat elements.length).toNat = elements.length := by
    rw [UInt32.toNat_ofNat', Nat.mod_eq_of_lt fits]
  rw [List.append_assoc]
  refine unpackArray_iff.mpr ⟨UInt32.ofNat elements.length, unpackU32_packU32 _ _, ?_, ?_, ?_⟩
  · rw [List.length_append, packU32_length, length, count]
  · simp only [List.length_append]
    omega
  · rw [count]
    have body : ∀ i, (packU32 (UInt32.ofNat elements.length) ++
        (elements.flatMap pack ++ rest)).drop (4 + i * size) =
          (elements.flatMap pack ++ rest).drop (i * size) := by
      intro i
      rw [← List.drop_drop, List.drop_left' (packU32_length _)]
    simp only [body]
    exact mapM_flatMap sized reads elements rest

theorem writes_u16Array {array : List UInt16} (fits : array.length < 2 ^ 32) :
    Writes unpackU16Array (packU16Array array) array :=
  writes_array packU16_length unpackU16_packU16 fits

theorem writes_u32Array {array : List UInt32} (fits : array.length < 2 ^ 32) :
    Writes unpackU32Array (packU32Array array) array :=
  writes_array packU32_length unpackU32_packU32 fits

end Ptp
