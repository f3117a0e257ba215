import MtpRs.Mtp.Storage

set_option autoImplicit false

/- Object names, from a caller of the high-level API to the other end of the wire. -/
namespace Mtp

open Ptp (Bytes encodeUtf16 maxStringUnits packString packString_error_iff packString_ok
  receivedText receivedText_eq_iff unpackString unpackString_packString)

/-- A string packed and read back with anything after it is the string itself. -/
def ReadBack (s : String) : Prop :=
  ∀ bytes, packString s = .ok bytes →
    ∀ rest, unpackString (bytes ++ rest) = .ok (s, bytes.length)

/-- What packing promises of a string, and what a name that passes the check is promised. -/
structure Survives (s : String) : Prop where
  refused : (∃ e, packString s = .error e) ↔ maxStringUnits < (encodeUtf16 s).length
  readBack : ReadBack s
  named : checkNameLength s = .ok () → ∃ bytes, packString s = .ok bytes ∧
    ∀ rest, unpackString (bytes ++ rest) = .ok (s, bytes.length)

section

variable {s : String}

theorem checkNameLength_ok :
    checkNameLength s = .ok () ↔ (encodeUtf16 s).length ≤ maxStringUnits := by
  rw [checkNameLength]
  by_cases long : maxNameUnits < (encodeUtf16 s).length
  · simp only [if_pos long, reduceCtorEq, false_iff]
    exact Nat.not_le_of_lt long
  · simp only [if_neg long, true_iff]
    exact Nat.le_of_not_lt long

/-- A packed string is read back whole unless it has a NUL. -/
theorem readBack_iff (fits : (encodeUtf16 s).length ≤ maxStringUnits) :
    ReadBack s ↔ '\x00' ∉ s.toList := by
  obtain ⟨bytes, packed⟩ := packString_ok fits
  rw [← receivedText_eq_iff]
  constructor
  · intro readBack
    have whole := readBack bytes packed []
    rw [unpackString_packString packed] at whole
    exact (Prod.mk.inj (Except.ok.inj whole)).1
  · intro same other again rest
    rw [unpackString_packString again, same]

end

/-- A string survives the wire exactly when it has no NUL or is too long to be sent. -/
theorem survives_iff (s : String) :
    Survives s ↔ '\x00' ∉ s.toList ∨ maxStringUnits < (encodeUtf16 s).length := by
  by_cases long : maxStringUnits < (encodeUtf16 s).length
  · obtain ⟨e, failed⟩ := packString_error_iff.mpr long
    simp only [long, or_true, iff_true]
    refine ⟨packString_error_iff, ?_, ?_⟩
    · intro bytes packed
      rw [failed] at packed
      cases packed
    · intro accepted
      exact absurd long (Nat.not_lt.mpr (checkNameLength_ok.mp accepted))
  · have fits : (encodeUtf16 s).length ≤ maxStringUnits := Nat.le_of_not_lt long
    simp only [long, or_false]
    constructor
    · intro survives
      exact (readBack_iff fits).mp survives.readBack
    · intro free
      have readBack := (readBack_iff fits).mpr free
      obtain ⟨bytes, packed⟩ := packString_ok fits
      exact ⟨packString_error_iff, readBack, fun _ => ⟨bytes, packed, readBack bytes packed⟩⟩

/-- A name with a NUL passes the check and arrives cut. -/
theorem cut_at_nul : ¬ ∀ s, Survives s := by
  intro all
  have arrived := (all "a\x00b").readBack [4, 97, 0, 0, 0, 98, 0, 0, 0] (by decide) []
  exact absurd arrived (by decide)

end Mtp
