import Mathlib.Data.List.Flatten
import Mathlib.Algebra.Order.Ring.Nat

set_option autoImplicit false

/- A pipe that carries packets of a bounded size, and how the receiver of one sees where a message
ends: at the first packet that is not full. -/
namespace Packets

variable {α : Type} {size : Nat}

/-- The packets one transfer goes out in: full ones, and what is left, which is a zero-length
packet where the transfer is empty. A transfer of full packets only is not followed by one. -/
def packets (size : Nat) (transfer : List α) : List (List α) :=
  if _ : size = 0 ∨ transfer.length ≤ size then [transfer]
  else transfer.take size :: packets size (transfer.drop size)
termination_by transfer.length
decreasing_by
  rw [List.length_drop]
  omega

theorem packets_of_le {transfer : List α} (short : transfer.length ≤ size) :
    packets size transfer = [transfer] := by
  rw [packets, dif_pos (Or.inr short)]

/-- Full packets and then one of `low` to `low + size - 1` elements. -/
def Cut (size low : Nat) (list : List (List α)) : Prop :=
  ∃ front last, list = front ++ [last] ∧ (∀ packet ∈ front, packet.length = size) ∧
    low ≤ last.length ∧ last.length < low + size

/-- The receiver sees the end of the message at its end, and not before. -/
def Framed (size : Nat) (list : List (List α)) : Prop :=
  Cut size 0 list

theorem Cut.cons {low : Nat} {list : List (List α)} {packet : List α}
    (cut : Cut size low list) (full : packet.length = size) : Cut size low (packet :: list) := by
  obtain ⟨front, last, same, fulls, least, most⟩ := cut
  refine ⟨packet :: front, last, by rw [same, List.cons_append], ?_, least, most⟩
  intro other mem
  rcases List.mem_cons.mp mem with rfl | inside
  · exact full
  · exact fulls other inside

theorem length_flatten_of_full {list : List (List α)}
    (full : ∀ packet ∈ list, packet.length = size) :
    list.flatten.length = size * list.length := by
  induction list with
  | nil => rfl
  | cons packet rest ih =>
      rw [List.flatten_cons, List.length_append, full packet List.mem_cons_self,
        ih fun other mem => full other (List.mem_cons_of_mem _ mem), List.length_cons,
        Nat.mul_succ, Nat.add_comm]

theorem dvd_length_flatten {list : List (List α)}
    (whole : ∀ packet ∈ list, size ∣ packet.length) : size ∣ list.flatten.length := by
  induction list with
  | nil => exact Nat.dvd_zero _
  | cons packet rest ih =>
      rw [List.flatten_cons, List.length_append]
      exact Nat.dvd_add (whole packet List.mem_cons_self)
        (ih fun other mem => whole other (List.mem_cons_of_mem _ mem))

/-- Two runs of full pieces with the same elements up to their rests are the same. -/
theorem full_eq {first second : List (List α)} {rest other : List α}
    (firstFull : ∀ packet ∈ first, packet.length = size)
    (secondFull : ∀ packet ∈ second, packet.length = size)
    (count : first.length = second.length)
    (same : first.flatten ++ rest = second.flatten ++ other) : first = second ∧ rest = other := by
  induction first generalizing second with
  | nil =>
      have empty := List.length_eq_zero_iff.mp count.symm
      rw [empty] at same ⊢
      exact ⟨rfl, same⟩
  | cons packet later ih =>
      cases second with
      | nil => cases count
      | cons packet' later' =>
          have lengths : packet.length = packet'.length :=
            (firstFull packet List.mem_cons_self).trans
              (secondFull packet' List.mem_cons_self).symm
          rw [List.flatten_cons, List.flatten_cons, List.append_assoc, List.append_assoc] at same
          obtain ⟨heads, tails⟩ := List.append_inj same lengths
          obtain ⟨laters, rests⟩ := ih
            (fun p mem => firstFull p (List.mem_cons_of_mem _ mem))
            (fun p mem => secondFull p (List.mem_cons_of_mem _ mem))
            (Nat.succ.inj count) tails
          exact ⟨by rw [heads, laters], rests⟩

/-- There is one way to cut a list. -/
theorem Cut.unique {low : Nat} {first second : List (List α)} (cut : Cut size low first)
    (other : Cut size low second) (same : first.flatten = second.flatten) : first = second := by
  obtain ⟨front, last, rfl, full, least, most⟩ := cut
  obtain ⟨front', last', rfl, full', least', most'⟩ := other
  rw [List.flatten_append, List.flatten_append, List.flatten_singleton,
    List.flatten_singleton] at same
  have lengths := congrArg List.length same
  rw [List.length_append, List.length_append, length_flatten_of_full full,
    length_flatten_of_full full'] at lengths
  have count : front.length = front'.length := by
    rcases Nat.lt_trichotomy front.length front'.length with fewer | equal | more
    · have bound : size * (front.length + 1) ≤ size * front'.length := Nat.mul_le_mul_left _ fewer
      rw [Nat.mul_succ] at bound
      omega
    · exact equal
    · have bound : size * (front'.length + 1) ≤ size * front.length := Nat.mul_le_mul_left _ more
      rw [Nat.mul_succ] at bound
      omega
  obtain ⟨fronts, lasts⟩ := full_eq full full' count same
  rw [fronts, lasts]

@[simp] theorem packets_flatten (size : Nat) (transfer : List α) :
    (packets size transfer).flatten = transfer := by
  induction transfer using packets.induct size with
  | case1 transfer short =>
      rw [packets, dif_pos short]
      exact List.flatten_singleton
  | case2 transfer long ih =>
      rw [packets, dif_neg long, List.flatten_cons, ih, List.take_append_drop]

theorem packets_cut (positive : 0 < size) {transfer : List α} (nonempty : transfer ≠ []) :
    Cut size 1 (packets size transfer) := by
  induction transfer using packets.induct size with
  | case1 transfer short =>
      rw [packets, dif_pos short]
      have some := List.length_pos_iff.mpr nonempty
      exact ⟨[], transfer, rfl, fun p mem => absurd mem List.not_mem_nil, some, by omega⟩
  | case2 transfer long ih =>
      rw [packets, dif_neg long]
      apply Cut.cons
      · apply ih
        intro empty
        have none := List.drop_eq_nil_iff.mp empty
        omega
      · rw [List.length_take]
        omega

theorem packets_nil (size : Nat) : packets size ([] : List α) = [[]] :=
  packets_of_le (Nat.zero_le _)

theorem packets_ne_nil (size : Nat) (transfer : List α) : packets size transfer ≠ [] := by
  rw [packets]
  split
  · exact List.cons_ne_nil _ _
  · exact List.cons_ne_nil _ _

/-- What comes before the last packets of a message is full. -/
theorem cut_append {low : Nat} {front back : List (List α)} (nonempty : back ≠ []) :
    Cut size low (front ++ back) ↔
      (∀ packet ∈ front, packet.length = size) ∧ Cut size low back := by
  constructor
  · intro cut
    obtain ⟨fulls, last, same, full, least, most⟩ := cut
    have backs : back = back.dropLast ++ [back.getLast nonempty] :=
      (List.dropLast_concat_getLast nonempty).symm
    rw [backs, ← List.append_assoc] at same
    obtain ⟨fronts, lasts⟩ := List.append_inj' same rfl
    have ends : back.getLast nonempty = last := List.singleton_inj.mp lasts
    constructor
    · intro packet mem
      exact full packet (fronts ▸ List.mem_append_left _ mem)
    · refine ⟨back.dropLast, last, ends ▸ backs, ?_, least, most⟩
      intro packet mem
      exact full packet (fronts ▸ List.mem_append_right _ mem)
  · intro both
    obtain ⟨full, fulls, last, same, full', least, most⟩ := both
    refine ⟨front ++ fulls, last, by rw [same, List.append_assoc], ?_, least, most⟩
    exact List.forall_mem_append.mpr ⟨full, full'⟩

/-- The packets of a transfer are all full where it is some packets long. -/
theorem packets_full_iff (positive : 0 < size) (transfer : List α) :
    (∀ packet ∈ packets size transfer, packet.length = size) ↔
      transfer ≠ [] ∧ size ∣ transfer.length := by
  constructor
  · intro full
    have lengths := length_flatten_of_full full
    rw [packets_flatten] at lengths
    refine ⟨?_, lengths ▸ Nat.dvd_mul_right ..⟩
    intro empty
    rw [empty, packets_nil] at full
    have none := full [] List.mem_cons_self
    rw [List.length_nil] at none
    omega
  · intro both packet mem
    obtain ⟨front, last, same, full, least, most⟩ := packets_cut positive both.1
    have lengths := congrArg List.length (packets_flatten size transfer)
    rw [same, List.flatten_append, List.length_append, length_flatten_of_full full,
      List.flatten_singleton] at lengths
    have divides : size ∣ last.length :=
      (Nat.dvd_add_right (Nat.dvd_mul_right size front.length)).mp (lengths ▸ both.2)
    have lastFull : last.length = size := by
      have atLeast := Nat.le_of_dvd least divides
      omega
    rw [same, List.mem_append, List.mem_singleton] at mem
    rcases mem with inFront | isLast
    · exact full packet inFront
    · rw [isLast]
      exact lastFull

/-- One transfer frames itself where it is no full packets long, or empty. -/
theorem framed_packets (positive : 0 < size) (transfer : List α) :
    Framed size (packets size transfer) ↔ transfer = [] ∨ ¬ size ∣ transfer.length := by
  by_cases empty : transfer = []
  · subst empty
    rw [packets_nil]
    exact iff_of_true ⟨[], [], rfl, fun p mem => absurd mem List.not_mem_nil, Nat.le_refl 0,
      by rw [List.length_nil]; omega⟩ (Or.inl rfl)
  · obtain ⟨front, last, same, full, least, most⟩ := packets_cut positive empty
    have lengths := congrArg List.length (packets_flatten size transfer)
    rw [same, List.flatten_append, List.length_append, length_flatten_of_full full,
      List.flatten_singleton] at lengths
    have divides : size ∣ transfer.length ↔ size ∣ last.length := by
      rw [← lengths]
      exact Nat.dvd_add_right (Nat.dvd_mul_right size front.length)
    rw [or_iff_right empty, divides, same]
    unfold Framed
    rw [cut_append (List.cons_ne_nil _ _)]
    constructor
    · intro framed ends
      obtain ⟨fulls, short, single, -, -, less⟩ := framed.2
      have isLast : short = last := by
        have lasts := congrArg List.getLast? single
        rw [List.getLast?_concat] at lasts
        simpa using lasts.symm
      have atLeast := Nat.le_of_dvd least ends
      rw [isLast] at less
      omega
    · intro partly
      have short : last.length ≠ size := fun same => partly (same ▸ Nat.dvd_refl _)
      exact ⟨full, [], last, rfl, fun p mem => absurd mem List.not_mem_nil, Nat.zero_le _,
        by omega⟩

theorem flatMap_concat (init : List (List α)) (last : List α) :
    (init ++ [last]).flatMap (packets size) =
      init.flatMap (packets size) ++ packets size last := by
  rw [List.flatMap_append, List.flatMap_singleton]

theorem flatMap_full_iff (positive : 0 < size) (transfers : List (List α)) :
    (∀ packet ∈ transfers.flatMap (packets size), packet.length = size) ↔
      ∀ transfer ∈ transfers, transfer ≠ [] ∧ size ∣ transfer.length := by
  constructor
  · intro full transfer mem
    exact (packets_full_iff positive transfer).mp fun packet inside =>
      full packet (List.mem_flatMap.mpr ⟨transfer, mem, inside⟩)
  · intro full packet mem
    obtain ⟨transfer, listed, inside⟩ := List.mem_flatMap.mp mem
    exact (packets_full_iff positive transfer).mpr (full transfer listed) packet inside

/-- Several transfers frame what they carry together where the last frames itself and those before
it are some full packets each. -/
theorem framed_flatMap (positive : 0 < size) (init : List (List α)) (last : List α) :
    Framed size ((init ++ [last]).flatMap (packets size)) ↔
      (∀ transfer ∈ init, transfer ≠ [] ∧ size ∣ transfer.length) ∧
        (last = [] ∨ ¬ size ∣ last.length) := by
  rw [flatMap_concat, Framed, cut_append (packets_ne_nil size last), ← Framed,
    framed_packets positive, flatMap_full_iff positive]

/-- Several transfers go out in the packets of one where all but the last are full packets. -/
theorem packets_flatten_eq (positive : 0 < size) (init : List (List α)) (last : List α)
    (nonempty : ∀ transfer ∈ init ++ [last], transfer ≠ []) :
    packets size (init ++ [last]).flatten = (init ++ [last]).flatMap (packets size) ↔
      ∀ transfer ∈ init, size ∣ transfer.length := by
  have lastSome : last ≠ [] := nonempty last (List.mem_append_right _ List.mem_cons_self)
  have someAll : (init ++ [last]).flatten ≠ [] := by
    rw [List.flatten_append, List.flatten_singleton]
    exact List.append_ne_nil_of_right_ne_nil _ lastSome
  have one := packets_cut positive someAll
  constructor
  · intro same transfer mem
    rw [same, flatMap_concat, cut_append (packets_ne_nil size last)] at one
    exact ((flatMap_full_iff positive init).mp one.1 transfer mem).2
  · intro whole
    apply one.unique
    · rw [flatMap_concat, cut_append (packets_ne_nil size last), flatMap_full_iff positive]
      refine ⟨fun transfer mem => ⟨nonempty transfer (List.mem_append_left _ mem),
        whole transfer mem⟩, packets_cut positive lastSome⟩
    · rw [packets_flatten, List.flatMap_def, List.flatten_flatten, List.map_map]
      congr 1
      conv => lhs; rw [← List.map_id (init ++ [last])]
      exact List.map_congr_left fun transfer _ => (packets_flatten size transfer).symm

end Packets
