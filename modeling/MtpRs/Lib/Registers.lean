import Mathlib.Logic.Relation

set_option autoImplicit false

/- Registers: numbers are given out in order, each to one name at a time. A number can be taken
back, or its name changed, but it is given out only once. -/
namespace Registers

open Relation (ReflTransGen)

/-- The next number, and what name each number stands for. -/
structure Register (ν : Type) where
  next : Nat
  holder : Nat → Option ν

variable {ν : Type} {register before after : Register ν} {number : Nat} {name : ν}

/-- A name that no number but one stands for. -/
def Register.Free (register : Register ν) (except : Option Nat) (name : ν) : Prop :=
  ∀ number, register.holder number = some name → some number = except

/-- What can be done to a register. -/
inductive Step (before after : Register ν) : Prop where
  /-- The next number is given to a name that has none. -/
  | give (name : ν) (free : before.Free none name) (next : after.next = before.next + 1)
      (given : after.holder before.next = some name)
      (others : ∀ number, number ≠ before.next → after.holder number = before.holder number)
  /-- Numbers are passed over, or taken back. -/
  | forget (next : before.next ≤ after.next)
      (kept : ∀ number name, after.holder number = some name → before.holder number = some name)
  /-- A number that stands for a name stands for another one. -/
  | retitle (number : Nat) (name : ν) (held : before.holder number ≠ none)
      (free : before.Free (some number) name) (next : after.next = before.next)
      (given : after.holder number = some name)
      (others : ∀ other, other ≠ number → after.holder other = before.holder other)

abbrev Steps : Register ν → Register ν → Prop := ReflTransGen Step

/-- Only numbers that were given out stand for something, and no two for the same. -/
structure Sound (register : Register ν) : Prop where
  given : ∀ number, register.holder number ≠ none → number < register.next
  once : ∀ first second name, register.holder first = some name →
    register.holder second = some name → first = second

theorem Step.next_le (step : Step before after) : before.next ≤ after.next := by
  cases step with
  | give _ _ next _ _ => omega
  | forget next _ => exact next
  | retitle _ _ _ _ next _ _ => omega

/-- Where numbers stand for names they may no longer stand for them. -/
theorem Sound.step (sound : Sound before) (step : Step before after) : Sound after := by
  cases step with
  | give name free next given others =>
      constructor
      · intro number held
        by_cases new : number = before.next
        · omega
        · rw [others number new] at held
          have less := sound.given number held
          omega
      · intro first second other one two
        by_cases new : first = before.next
        · by_cases same : second = before.next
          · rw [new, same]
          · rw [new, given] at one
            cases one
            rw [others second same] at two
            cases free second two
        · rw [others first new] at one
          by_cases same : second = before.next
          · rw [same, given] at two
            cases two
            cases free first one
          · rw [others second same] at two
            exact sound.once first second other one two
  | forget next kept =>
      constructor
      · intro number held
        obtain ⟨name, stands⟩ := Option.ne_none_iff_exists'.mp held
        refine Nat.lt_of_lt_of_le (sound.given number ?_) next
        rw [kept number name stands]
        exact Option.some_ne_none name
      · intro first second name one two
        exact sound.once first second name (kept first name one) (kept second name two)
  | retitle number name held free next given others =>
      constructor
      · intro other stands
        rw [next]
        by_cases same : other = number
        · rw [same]
          exact sound.given number held
        · rw [others other same] at stands
          exact sound.given other stands
      · intro first second title one two
        by_cases isFirst : first = number
        · by_cases isSecond : second = number
          · rw [isFirst, isSecond]
          · rw [isFirst, given] at one
            cases one
            rw [others second isSecond] at two
            exact absurd (Option.some.inj (free second two)) isSecond
        · rw [others first isFirst] at one
          by_cases isSecond : second = number
          · rw [isSecond, given] at two
            cases two
            exact absurd (Option.some.inj (free first one)) isFirst
          · rw [others second isSecond] at two
            exact sound.once first second title one two

theorem Sound.steps (sound : Sound before) (steps : Steps before after) : Sound after := by
  induction steps with
  | refl => exact sound
  | tail _ step ih => exact ih.step step

/-- A number that has been given out and stands for nothing never stands for anything again. -/
theorem Steps.spent (steps : Steps before after) (given : number < before.next)
    (nothing : before.holder number = none) :
    number < after.next ∧ after.holder number = none := by
  induction steps with
  | refl => exact ⟨given, nothing⟩
  | tail _ step ih =>
      obtain ⟨less, spent⟩ := ih
      refine ⟨Nat.lt_of_lt_of_le less step.next_le, ?_⟩
      cases step with
      | give _ _ _ _ others => rw [others number (Nat.ne_of_lt less), spent]
      | forget _ kept =>
          refine Option.eq_none_iff_forall_ne_some.mpr fun name stands => ?_
          rw [kept number name stands] at spent
          cases spent
      | retitle other _ held _ _ _ others =>
          have different : number ≠ other := by
            rintro rfl
            exact held spent
          rw [others number different, spent]

end Registers
