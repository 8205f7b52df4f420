import Mathlib.Algebra.GroupWithZero.Nat
import Mathlib.Data.List.Basic

/-! # Deadlines that count down

A deadline is armed with a limit of at least one and lowered by the time that passes.
What remains stays between one and the limit, and is the limit less the sum of the times,
until a time uses it up. -/

set_option autoImplicit false

namespace Foundation

/-! ## Limits and what remains -/

section Limits
variable {limit remaining : Option UInt32}

/-- A limit, where there is one, is not zero. -/
def Positive (limit : Option UInt32) : Prop := ∀ value, limit = some value → 1 ≤ value.toNat

theorem positive_clamped (configured : Option UInt32) : Positive (configured.map (max · 1)) := by
  intro limit known
  obtain ⟨value, _, rfl⟩ := Option.map_eq_some_iff.mp known
  have choice : max value 1 = if value ≤ 1 then 1 else value := rfl
  rw [choice]
  by_cases small : value ≤ 1
  · rw [if_pos small]
    decide
  · rw [if_neg small]
    rw [UInt32.le_iff_toNat_le] at small
    have one : (1 : UInt32).toNat = 1 := rfl
    omega

/-- Something remains exactly where there is a limit, and no more than the limit. -/
structure Within (limit remaining : Option UInt32) : Prop where
  armed : remaining.isSome = limit.isSome
  bounded : ∀ left, remaining = some left →
    ∃ most, limit = some most ∧ 1 ≤ left.toNat ∧ left.toNat ≤ most.toNat

theorem within_armed (positive : Positive limit) : Within limit limit :=
  ⟨rfl, fun left known => ⟨left, known, positive left known, Nat.le_refl _⟩⟩

/-- A deadline that is armed again with no more than what remained was not lowered. -/
theorem Within.unchanged (within : Within limit remaining)
    (longest : ¬ ∃ before later, remaining = some before ∧ limit = some later ∧ before < later) :
    limit = remaining := by
  cases known : remaining with
  | none =>
      have armed := within.armed
      rw [known] at armed
      exact Option.isNone_iff_eq_none.mp (Option.isSome_eq_false_iff.mp armed.symm)
  | some left =>
      obtain ⟨most, configured, _, bound⟩ := within.bounded left known
      have equal : most = left := by
        by_contra apart
        apply longest
        refine ⟨left, most, known, configured, ?_⟩
        rw [UInt32.lt_iff_toNat_lt]
        have differs : most.toNat ≠ left.toNat := fun same => apart (UInt32.toNat_inj.mp same)
        omega
      rw [configured, equal]

end Limits

/-! ## Time -/

section Time
variable {limit : Option UInt32} {elapsed : List UInt32} {left elapsedMs armed : UInt32}

theorem toNat_left (early : elapsedMs < left) :
    (left - elapsedMs).toNat + elapsedMs.toNat = left.toNat ∧ 1 ≤ (left - elapsedMs).toNat := by
  have less := UInt32.lt_iff_toNat_lt.mp early
  have later := UInt32.toNat_sub_of_le left elapsedMs (UInt32.le_of_lt early)
  omega

/-- Time that leaves something keeps the bounds. -/
theorem Within.tick (within : Within limit (some left)) (early : elapsedMs < left) :
    Within limit (some (left - elapsedMs)) := by
  refine ⟨within.armed, ?_⟩
  intro later known
  obtain rfl := Option.some.inj known
  obtain ⟨most, configured, _, bound⟩ := within.bounded left rfl
  have sum := toNat_left early
  exact ⟨most, configured, by omega, by omega⟩

def totalMs (elapsed : List UInt32) : Nat := (elapsed.map UInt32.toNat).sum

theorem totalMs_concat (elapsed : List UInt32) (elapsedMs : UInt32) :
    totalMs (elapsed ++ [elapsedMs]) = totalMs elapsed + elapsedMs.toNat := by
  simp [totalMs]

/-- What remains of `armed` after some times. -/
def Leaves (armed : UInt32) (elapsed : List UInt32) (left : UInt32) : Prop :=
  left.toNat + totalMs elapsed = armed.toNat

theorem leaves_nothing (armed : UInt32) : Leaves armed [] armed := rfl

theorem Leaves.tick (leaves : Leaves armed elapsed left) (early : elapsedMs < left) :
    Leaves armed (elapsed ++ [elapsedMs]) (left - elapsedMs) := by
  have sum := toNat_left early
  rw [Leaves] at leaves ⊢
  rw [totalMs_concat]
  omega

/-- The next time leaves something exactly if the sum of all stays below the deadline. -/
theorem Leaves.early_iff (leaves : Leaves armed elapsed left) :
    elapsedMs < left ↔ totalMs elapsed + elapsedMs.toNat < armed.toNat := by
  rw [Leaves] at leaves
  rw [UInt32.lt_iff_toNat_lt]
  omega

end Time

end Foundation
