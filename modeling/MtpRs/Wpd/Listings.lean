import MtpRs.Wpd.Com

set_option autoImplicit false

/- When a WPD listing that says it is one has every object: the loops stop on a failed `Next`, and
on an `S_OK` without IDs, as they do at the end. -/
namespace Wpd

open Mtp (Error ObjectHandle ObjectEntry StorageId)

/-- An answer that ends the loop and is not the end of the enumeration. -/
def NextResult.Misleads (self : NextResult) : Prop :=
  self.hr.Failed ∨ self.hr = sOk ∧ self.ids = []

/-- Every misleading answer comes after a look at the cancel token that found it set. -/
def HeldBack (cancelled : Nat → Bool) (look : Nat) (results : List NextResult) : Prop :=
  ∀ k next, results[k]? = some next → next.Misleads → ∃ j ≤ k, cancelled (look + j) = true

/-- What both loops read: the IDs and the answers left, or nothing when a look at the cancel token
found it set. -/
def readBatches (cancelled : Nat → Bool) (look : Nat) :
    List NextResult → Option (List String × List NextResult)
  | [] => if cancelled look then none else some ([], [])
  | next :: rest =>
      if cancelled look then none
      else if next.Stops then some (next.ids, rest)
      else (readBatches cancelled (look + 1) rest).map fun read => (next.ids ++ read.1, read.2)

section

variable {cancelled : Nat → Bool} {look : Nat}

theorem heldBack_of_cancelled (set : cancelled look = true) (results : List NextResult) :
    HeldBack cancelled look results := by
  intro k next _ _
  exact ⟨0, Nat.zero_le k, set⟩

theorem heldBack_cons {next : NextResult} {rest : List NextResult}
    (unset : cancelled look = false) :
    HeldBack cancelled look (next :: rest) ↔
      ¬ next.Misleads ∧ HeldBack cancelled (look + 1) rest := by
  constructor
  · intro held
    constructor
    · intro misleads
      obtain ⟨j, least, set⟩ := held 0 next rfl misleads
      rw [Nat.le_zero.mp least, Nat.add_zero, unset] at set
      cases set
    · intro k other found misleads
      obtain ⟨j, least, set⟩ := held (k + 1) other found misleads
      cases j with
      | zero =>
          rw [Nat.add_zero, unset] at set
          cases set
      | succ j =>
          rw [← Nat.add_assoc, Nat.add_right_comm] at set
          exact ⟨j, Nat.le_of_succ_le_succ least, set⟩
  · rintro ⟨honest, held⟩ k other found misleads
    cases k with
    | zero =>
        cases Option.some.inj found
        exact absurd misleads honest
    | succ k =>
        obtain ⟨j, least, set⟩ := held k other found misleads
        rw [Nat.add_right_comm] at set
        exact ⟨j + 1, Nat.succ_le_succ least, set⟩

/-- What is read when no answer is left is every ID, in order. -/
theorem readBatches_ids (batches : List (List String)) {last : NextResult} {ids : List String}
    (read : readBatches cancelled look (batches.map (NextResult.mk sOk) ++ [last]) = some
      (ids, [])) :
    ids = batches.flatten ++ last.ids := by
  induction batches generalizing look ids with
  | nil =>
      cases set : cancelled look <;> by_cases stops : last.Stops <;>
        simp_all [readBatches]
  | cons batch batches ih =>
      cases set : cancelled look with
      | true => simp [readBatches, set] at read
      | false =>
          by_cases stops : (NextResult.mk sOk batch).Stops
          · simp [readBatches, set, stops] at read
          · simp only [List.map_cons, List.cons_append, readBatches, set, stops, ↓reduceIte,
              Bool.false_eq_true, Option.map_eq_some_iff] at read
            obtain ⟨later, found, same⟩ := read
            cases later
            cases same
            rw [ih found, List.flatten_cons, List.append_assoc]

/-- An enumeration is read to an end that is no failure, unless cancelled, exactly when no answer
misleads before. -/
theorem readBatches_end_iff (cancelled : Nat → Bool) (batches : List (List String))
    {last : NextResult}
    (ended : last.hr ≠ sOk) (look : Nat) :
    (∀ read, readBatches cancelled look (batches.map (NextResult.mk sOk) ++ [last]) = some read →
        read.2 = [] ∧ ¬ last.hr.Failed) ↔
      HeldBack cancelled look (batches.map (NextResult.mk sOk) ++ [last]) := by
  induction batches generalizing look with
  | nil =>
      cases set : cancelled look with
      | true =>
          apply iff_of_true _ (heldBack_of_cancelled set _)
          intro read found
          simp [readBatches, set] at found
      | false =>
          have nothing : HeldBack cancelled (look + 1) [] := by
            intro k next found
            simp at found
          have stops : last.Stops := Or.inr ended
          simp [readBatches, set, ended, stops, heldBack_cons set, nothing, NextResult.Misleads]
  | cons batch batches ih =>
      cases set : cancelled look with
      | true =>
          apply iff_of_true _ (heldBack_of_cancelled set _)
          intro read found
          simp [readBatches, set] at found
      | false =>
          rw [List.map_cons, List.cons_append, heldBack_cons set]
          by_cases empty : batch = []
          · -- an `S_OK` without IDs: the rest is not asked for
            have stops : (NextResult.mk sOk batch).Stops :=
              Or.inl (List.length_eq_zero_iff.mpr empty)
            apply iff_of_false
            · intro whole
              have left := (whole (batch, batches.map (NextResult.mk sOk) ++ [last])
                (by simp only [readBatches, set, stops, ↓reduceIte, Bool.false_eq_true])).1
              simp at left
            · intro held
              exact held.1 (Or.inr ⟨rfl, empty⟩)
          · have honest : ¬ (NextResult.mk sOk batch).Misleads := by
              rintro (failed | ⟨_, none⟩)
              · exact absurd (show sOk.Failed from failed) (by decide)
              · exact empty none
            have goes_on : ¬ (NextResult.mk sOk batch).Stops := by
              rintro (none | other)
              · exact empty (List.length_eq_zero_iff.mp none)
              · exact other rfl
            rw [← ih (look + 1)]
            simp only [readBatches, set, goes_on, ↓reduceIte, Bool.false_eq_true,
              Option.map_eq_some_iff, honest, not_false_eq_true, true_and, forall_exists_index,
              and_imp, forall_apply_eq_imp_iff₂]

theorem enumChildrenLoop_eq (look : Nat) (results : List NextResult) (out : List String) :
    readBatches (fun _ => false) look results =
      some ((enumChildrenLoop [] results).1, (enumChildrenLoop [] results).2) ∧
      enumChildrenLoop out results =
        (out ++ (enumChildrenLoop [] results).1, (enumChildrenLoop [] results).2) := by
  induction results generalizing out look with
  | nil => simp [readBatches, enumChildrenLoop]
  | cons next rest ih =>
      by_cases stops : next.Stops
      · simp [readBatches, enumChildrenLoop, stops]
      · have from_next := (ih look next.ids).2
        have from_out := (ih look (out ++ next.ids)).2
        simp only [readBatches, enumChildrenLoop, stops, ↓reduceIte, Bool.false_eq_true,
          (ih (look + 1) out).1, Option.map_some, List.nil_append, from_next, from_out,
          List.append_assoc, and_self]

end

section

variable (content : Content) (childParent : ObjectHandle) (storage : StorageId)

def listedInfo (id : String) : ObjectEntry :=
  readObjectInfo (content.getValues id) (token id) childParent storage

theorem listBatch_out (batch : List String) (ids : IdMap) (out : List ObjectEntry) :
    (WpdDevice.listBatch content childParent storage ids out batch).2 =
      out ++ batch.map (listedInfo content childParent storage) := by
  induction batch generalizing ids out with
  | nil => simp [WpdDevice.listBatch]
  | cons id batch ih =>
      simp only [WpdDevice.listBatch, ih, IdMap.object, IdMap.intern_fst, List.append_assoc,
        List.singleton_append, List.map_cons, listedInfo]

/-- The loop of `list` describes each ID that is read, in order. -/
theorem listLoop_eq (cancelled : Nat → Bool) (results : List NextResult) (look : Nat) (ids : IdMap)
    (out : List ObjectEntry) :
    (∀ read, readBatches cancelled look results = some read →
      (WpdDevice.listLoop content childParent storage cancelled look ids out results).1 =
        (.ok (out ++ read.1.map (listedInfo content childParent storage)), read.2)) ∧
    (readBatches cancelled look results = none →
      (WpdDevice.listLoop content childParent storage cancelled look ids out results).1.1 =
        .error .cancelled) := by
  induction results generalizing look ids out with
  | nil =>
      cases set : cancelled look <;> simp [readBatches, WpdDevice.listLoop, set]
  | cons next rest ih =>
      cases set : cancelled look with
      | true => simp [readBatches, WpdDevice.listLoop, set]
      | false =>
          have described := listBatch_out content childParent storage next.ids ids out
          by_cases stops : next.Stops
          · simp [readBatches, WpdDevice.listLoop, set, stops, described]
          · have later := ih (look + 1)
              (WpdDevice.listBatch content childParent storage ids out next.ids).1
              (WpdDevice.listBatch content childParent storage ids out next.ids).2
            simp only [readBatches, WpdDevice.listLoop, set, stops, ↓reduceIte, Bool.false_eq_true,
              Option.map_eq_some_iff, Option.map_eq_none_iff, forall_exists_index, and_imp]
            constructor
            · intro read inner found same
              rw [later.1 inner found, described, ← same, List.append_assoc, List.map_append]
            · exact later.2

end

namespace WpdDevice

/-- A listing that is returned has every object of the folder once and in order, from an
enumeration read to an end that is no failure. -/
def ListsWhole (self : WpdDevice) (content : Content) (storage : StorageId)
    (parent : Option ObjectHandle) (cancelled : Nat → Bool) : Prop :=
  ∀ objects, (self.list content storage parent cancelled).1.1 = .ok objects →
    ∃ parentWpd childParent enumerator, self.listed storage parent = .ok (parentWpd, childParent) ∧
      content.enumObjects parentWpd = .ok enumerator ∧
      (self.list content storage parent cancelled).1.2 = [] ∧ ¬ enumerator.last.hr.Failed ∧
      objects = enumerator.ids.map (listedInfo content childParent storage)

/-- The enumeration `list` reads misleads, if at all, after the caller has cancelled. -/
def ListSteady (self : WpdDevice) (content : Content) (storage : StorageId)
    (parent : Option ObjectHandle) (cancelled : Nat → Bool) : Prop :=
  ∀ parentWpd childParent enumerator, self.listed storage parent = .ok (parentWpd, childParent) →
    content.enumObjects parentWpd = .ok enumerator → HeldBack cancelled 0 enumerator.results

theorem listsWhole_iff (self : WpdDevice) (content : Content) (storage : StorageId)
    (parent : Option ObjectHandle) (cancelled : Nat → Bool) :
    self.ListsWhole content storage parent cancelled ↔
      self.ListSteady content storage parent cancelled := by
  unfold ListsWhole ListSteady
  cases found : self.listed storage parent with
  | error e => simp [list, found]
  | ok folder =>
      obtain ⟨parentWpd, childParent⟩ := folder
      cases opened : content.enumObjects parentWpd with
      | error e =>
          apply iff_of_true
          · intro objects listed
            simp [list, found, opened] at listed
          · intro otherWpd otherParent enumerator same answered
            cases same
            rw [opened] at answered
            cases answered
      | ok enumerator =>
          have loop := listLoop_eq content childParent storage cancelled enumerator.results 0
            self.ids []
          have whole := readBatches_end_iff cancelled enumerator.batches enumerator.ended 0
          have listed : (self.list content storage parent cancelled).1 =
              (listLoop content childParent storage cancelled 0 self.ids
                [] enumerator.results).1 := by
            simp only [list, found, opened]
          constructor
          · intro lists otherWpd otherParent other same answered
            cases same
            cases opened.symm.trans answered
            apply whole.mp
            intro read readable
            obtain ⟨_, _, _, same, answered, left, succeeded, _⟩ :=
              lists _ (by rw [listed, loop.1 read readable])
            cases same
            cases opened.symm.trans answered
            rw [listed, loop.1 read readable] at left
            exact ⟨left, succeeded⟩
          · intro steady objects answered
            have held := steady parentWpd childParent enumerator rfl opened
            cases readable : readBatches cancelled 0 enumerator.results with
            | none =>
                rw [listed, loop.2 readable] at answered
                cases answered
            | some read =>
                obtain ⟨left, succeeded⟩ := whole.mpr held read readable
                rw [listed, loop.1 read readable] at answered
                refine ⟨parentWpd, childParent, enumerator, rfl, opened, ?_, succeeded, ?_⟩
                · rw [listed, loop.1 read readable, left]
                · obtain ⟨ids, rest⟩ := read
                  cases left
                  rw [← Except.ok.inj answered, readBatches_ids _ readable, List.nil_append,
                    Enumeration.ids]

end WpdDevice

/-- The same of `enum_children`. -/
def ChildrenWhole (content : Content) (parentWpdId : String) : Prop :=
  ∀ ids left, enumChildren content parentWpdId = .ok (ids, left) →
    ∃ enumerator, content.enumObjects parentWpdId = .ok enumerator ∧
      left = [] ∧ ¬ enumerator.last.hr.Failed ∧ ids = enumerator.ids

/-- No answer of the enumeration misleads. -/
def ChildrenSteady (content : Content) (parentWpdId : String) : Prop :=
  ∀ enumerator, content.enumObjects parentWpdId = .ok enumerator →
    ∀ next ∈ enumerator.results, ¬ next.Misleads

theorem heldBack_never {results : List NextResult} :
    HeldBack (fun _ => false) 0 results ↔ ∀ next ∈ results, ¬ next.Misleads := by
  constructor
  · intro held next mem misleads
    obtain ⟨k, found⟩ := List.mem_iff_getElem?.mp mem
    obtain ⟨_, _, set⟩ := held k next found misleads
    cases set
  · intro steady k next found misleads
    exact absurd misleads (steady next (List.mem_of_getElem? found))

theorem childrenWhole_iff (content : Content) (parentWpdId : String) :
    ChildrenWhole content parentWpdId ↔ ChildrenSteady content parentWpdId := by
  unfold ChildrenWhole ChildrenSteady
  cases opened : content.enumObjects parentWpdId with
  | error e => simp [enumChildren, opened]
  | ok enumerator =>
      have loop := (enumChildrenLoop_eq 0 enumerator.results []).1
      have whole := readBatches_end_iff (fun _ => false) enumerator.batches
        enumerator.ended 0
      constructor
      · intro lists other same
        cases same
        apply heldBack_never.mp
        apply whole.mp
        intro read readable
        obtain ⟨other, same, left, succeeded, _⟩ :=
          lists _ _ (by simp only [enumChildren, opened]; rfl)
        cases same
        cases Option.some.inj (loop.symm.trans readable)
        exact ⟨left, succeeded⟩
      · intro steady ids left answered
        obtain ⟨left, succeeded⟩ := whole.mpr (heldBack_never.mpr (steady enumerator rfl)) _ loop
        simp only [enumChildren, opened, Except.ok.injEq] at answered
        rw [answered] at loop left
        cases left
        exact ⟨enumerator, rfl, rfl, succeeded, readBatches_ids _ loop⟩

/-- A listing, or an enumeration of children, that is returned is complete exactly when no answer
of `Next` fails, or brings nothing with `S_OK`, before the caller cancels. -/
theorem listing_complete_iff (device : WpdDevice) (content : Content) (storage : StorageId)
    (parent : Option ObjectHandle) (cancelled : Nat → Bool) (parentWpdId : String) :
    (device.ListsWhole content storage parent cancelled ↔
        device.ListSteady content storage parent cancelled) ∧
      (ChildrenWhole content parentWpdId ↔ ChildrenSteady content parentWpdId) :=
  ⟨device.listsWhole_iff content storage parent cancelled, childrenWhole_iff content parentWpdId⟩

/-- One object fetched, then a call of `Next` that fails. -/
def cutEnumeration : Enumeration where
  batches := [["o1"]]
  last := ⟨0x80070079, []⟩
  batched := by decide
  ended := by decide
  lastBatched := by decide

/-- A device that fails while it enumerates the children of anything. -/
def cutContent : Content where
  getValues := fun _ => .error ⟨0x80070079, ""⟩
  enumObjects := fun _ => .ok cutEnumeration

/-- The folder is returned as one with a single object. -/
theorem listing_cut :
    ¬ WpdDevice.ListsWhole ⟨(IdMap.new.storage "s10001").2, ["s10001"]⟩ cutContent (token "s10001")
        none (fun _ => false) ∧
      ¬ ChildrenWhole cutContent deviceObjectId := by
  constructor
  · intro whole
    have opened : WpdDevice.listed ⟨(IdMap.new.storage "s10001").2, ["s10001"]⟩ (token "s10001")
        none = .ok ("s10001", ObjectHandle.root) := by
      simp only [WpdDevice.listed, IdMap.storageId, IdMap.storage, IdMap.lookup_intern]
      rfl
    obtain ⟨j, _, set⟩ := (WpdDevice.listsWhole_iff _ _ _ _ _).mp whole _ _ cutEnumeration opened
      rfl
      1 ⟨0x80070079, []⟩ rfl (Or.inl (by decide))
    cases set
  · intro whole
    obtain ⟨other, same, _, succeeded, _⟩ := whole _ _ rfl
    cases same
    exact succeeded (by decide)

end Wpd
