import Mathlib.Data.List.Induction

set_option autoImplicit false

/- Values written to the fields of a record one after another: only the last one of each field
counts. -/
namespace LastWrites

def last {κ ν : Type} [DecidableEq κ] (writes : List (κ × ν)) (key : κ) : Option ν :=
  ((writes.filter fun write => write.1 = key).map Prod.snd).getLast?

section

variable {κ ν σ : Type}

/-- Writes to different keys do not get in each other's way, and a valid write undoes those before
it to the same key. -/
structure Independent (valid : κ → ν → Prop) (put : κ → ν → σ → σ) : Prop where
  commute : ∀ {key other : κ}, key ≠ other → ∀ (v w : ν) (s : σ),
    put other w (put key v s) = put key v (put other w s)
  absorb : ∀ {key : κ} {w : ν}, valid key w → ∀ (v : ν) (s : σ),
    put key w (put key v s) = put key w s

def settle (put : κ → ν → σ → σ) (values : κ → Option ν) : List κ → σ → σ
  | [], s => s
  | key :: rest, s => settle put values rest ((values key).elim s fun v => put key v s)

variable {valid : κ → ν → Prop} {put : κ → ν → σ → σ} {values : κ → Option ν} {keys : List κ}
    {key : κ} {v : ν} {s : σ}

theorem settle_cons_none (unset : values key = none) :
    settle put values (key :: keys) s = settle put values keys s := by
  rw [settle, unset, Option.elim_none]

theorem settle_cons_some (set : values key = some v) :
    settle put values (key :: keys) s = settle put values keys (put key v s) := by
  rw [settle, set, Option.elim_some]

/-- A write to another key can as well be made before. -/
theorem Independent.put_settle (independent : Independent valid put) (other : key ∉ keys) :
    put key v (settle put values keys s) = settle put values keys (put key v s) := by
  induction keys generalizing s with
  | nil => rfl
  | cons first rest ih =>
      rw [List.mem_cons, not_or] at other
      rw [settle, settle, ih other.2]
      congr 1
      cases values first with
      | none => rfl
      | some w => exact (independent.commute other.1 v w s).symm

theorem settle_congr {others : κ → Option ν} (same : ∀ key ∈ keys, values key = others key) :
    settle put values keys s = settle put others keys s := by
  induction keys generalizing s with
  | nil => rfl
  | cons first rest ih =>
      rw [settle, settle, same first List.mem_cons_self]
      exact ih fun key mem => same key (List.mem_cons_of_mem _ mem)

theorem settle_none (unset : ∀ key ∈ keys, values key = none) : settle put values keys s = s := by
  induction keys generalizing s with
  | nil => rfl
  | cons first rest ih =>
      rw [settle_cons_none (unset first List.mem_cons_self)]
      exact ih fun key mem => unset key (List.mem_cons_of_mem _ mem)

variable [DecidableEq κ]

theorem last_concat (writes : List (κ × ν)) (write : κ × ν) (key : κ) :
    last (writes ++ [write]) key = if write.1 = key then some write.2 else last writes key := by
  unfold last
  by_cases own : write.1 = key
  · simp [own]
  · simp [own]

theorem mem_of_last {writes : List (κ × ν)} (found : last writes key = some v) :
    (key, v) ∈ writes := by
  have mem := List.mem_of_getLast? found
  rw [List.mem_map] at mem
  obtain ⟨write, mem, same⟩ := mem
  rw [List.mem_filter, decide_eq_true_eq] at mem
  rw [← same, ← mem.2]
  exact mem.1

theorem isSome_last {writes : List (κ × ν)} (mem : (key, v) ∈ writes) :
    (last writes key).isSome = true := by
  have own : v ∈ (writes.filter fun write => write.1 = key).map Prod.snd :=
    List.mem_map.mpr ⟨(key, v), List.mem_filter.mpr ⟨mem, decide_eq_true rfl⟩, rfl⟩
  rw [last, List.getLast?_isSome]
  exact List.ne_nil_of_mem own

/-- A write after all others is the one that counts. -/
theorem Independent.put_last (independent : Independent valid put) (nodup : keys.Nodup)
    (own : key ∈ keys) (accepted : valid key v) :
    put key v (settle put values keys s) =
      settle put (fun other => if key = other then some v else values other) keys s := by
  induction keys generalizing s with
  | nil => cases own
  | cons first rest ih =>
      rw [List.nodup_cons] at nodup
      rw [settle, settle]
      by_cases same : key = first
      · rw [independent.put_settle (by rw [same]; exact nodup.1)]
        have unchanged : settle put values rest (put key v s) =
            settle put (fun other => if key = other then some v else values other) rest
              (put key v s) := by
          apply settle_congr
          intro other mem
          rw [if_neg]
          intro equal
          exact nodup.1 (by rw [← same, equal]; exact mem)
        rw [if_pos same, Option.elim_some, ← same, ← unchanged]
        congr 1
        cases values key with
        | none => rfl
        | some w => exact independent.absorb accepted w s
      · rw [if_neg same]
        exact ih nodup.2 ((List.mem_cons.mp own).resolve_left same)

/-- The writes of a list leave what one write of the last value to each key does. -/
theorem Independent.foldl_eq (independent : Independent valid put) (nodup : keys.Nodup)
    {writes : List (κ × ν)} (covered : ∀ write ∈ writes, write.1 ∈ keys)
    (accepted : ∀ write ∈ writes, valid write.1 write.2) :
    writes.foldl (fun s write => put write.1 write.2 s) s = settle put (last writes) keys s := by
  induction writes using List.reverseRecOn with
  | nil =>
      exact (settle_none fun _ _ => rfl).symm
  | append_singleton writes write ih =>
      have earlier := ih (fun other mem => covered other (List.mem_append_left _ mem))
        fun other mem => accepted other (List.mem_append_left _ mem)
      have mem : write ∈ writes ++ [write] := List.mem_append_right _ (List.mem_singleton_self _)
      rw [List.foldl_append, List.foldl_cons, List.foldl_nil, earlier, independent.put_last nodup
        (covered write mem) (accepted write mem)]
      apply settle_congr
      intro key _
      rw [last_concat]

end

section

/- The keys in first-seen order. -/

variable {α : Type} [DecidableEq α]

theorem eraseDups_concat (l : List α) (x : α) :
    (l ++ [x]).eraseDups = if x ∈ l then l.eraseDups else l.eraseDups ++ [x] := by
  rw [List.eraseDups_append]
  by_cases seen : x ∈ l
  · simp [List.removeAll, seen]
  · simp [List.removeAll, seen, List.eraseDups_cons]

theorem nodup_eraseDups (l : List α) : l.eraseDups.Nodup := by
  induction l using List.reverseRecOn with
  | nil => simp
  | append_singleton l x ih =>
      rw [eraseDups_concat]
      by_cases seen : x ∈ l
      · rwa [if_pos seen]
      · rw [if_neg seen, List.nodup_append]
        refine ⟨ih, List.pairwise_singleton .., ?_⟩
        intro y mem z last same
        rw [List.mem_eraseDups] at mem
        rw [same, List.mem_singleton.mp last] at mem
        exact seen mem

end

end LastWrites
