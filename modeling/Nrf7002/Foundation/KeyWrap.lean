import Mathlib.Data.List.Basic

/-! # Key wrapping

The wrapping of a list of registers under a block cipher, as a sequence of
reversible steps.  One step runs the cipher over the integrity register and one key
register, and mixes the number of the step into the integrity register.  Unwrapping
takes the inverse steps in the opposite order. -/

set_option autoImplicit false

namespace Foundation

section Reversible
variable {σ ι : Type}

/-- Steps that are undone one by one are undone together, in the opposite order. -/
theorem foldl_reverse_undo (forward backward : σ → ι → σ)
    (undo : ∀ state index, backward (forward state index) index = state) :
    ∀ (steps : List ι) (state : σ),
      steps.reverse.foldl backward (steps.foldl forward state) = state := by
  intro steps
  induction steps with
  | nil => intro state; rfl
  | cons step rest hypothesis =>
      intro state
      rw [List.foldl_cons, List.reverse_cons, List.foldl_append, hypothesis]
      exact undo state step

/-- A fold over a view of the state follows the fold over the state, as long as an
invariant holds of it. -/
theorem foldl_simulates {τ : Type} (Invariant : σ → Prop) {view : σ → τ}
    {concrete : τ → ι → τ} {abstract : σ → ι → σ} :
    ∀ (steps : List ι) (state : σ), Invariant state →
      (∀ state, Invariant state → ∀ step ∈ steps,
        concrete (view state) step = view (abstract state step) ∧
          Invariant (abstract state step)) →
      steps.foldl concrete (view state) = view (steps.foldl abstract state) ∧
        Invariant (steps.foldl abstract state) := by
  intro steps
  induction steps with
  | nil => exact fun state holds _ => ⟨rfl, holds⟩
  | cons step rest hypothesis =>
      intro state holds simulates
      obtain ⟨same, kept⟩ := simulates state holds step List.mem_cons_self
      rw [List.foldl_cons, List.foldl_cons, same]
      exact hypothesis _ kept fun state holds step member =>
        simulates state holds step (List.mem_cons_of_mem _ member)

end Reversible

section KeyWrap
variable {H : Type}

/-- The integrity register and the key registers. -/
structure WrapState (H : Type) where
  integrity : H
  registers : List H

/-- A block cipher on two halves, and the mixing of a step number into a half. -/
structure WrapCipher (H : Type) where
  encrypt : H × H → H × H
  decrypt : H × H → H × H
  mix : Nat → H → H

/-- The cipher is decrypted by its own inverse, and mixing twice changes nothing. -/
structure WrapCipher.Lawful (cipher : WrapCipher H) : Prop where
  decrypt_encrypt : ∀ block, cipher.decrypt (cipher.encrypt block) = block
  mix_mix : ∀ number half, cipher.mix number (cipher.mix number half) = half

/-- The steps of one wrapping: their number, and the register they work on. -/
def wrapSchedule (count : Nat) : List (Nat × Nat) :=
  (List.range 6).flatMap fun round =>
    (List.range count).map fun index => (count * round + (index + 1), index)

variable (cipher : WrapCipher H)

def wrapStep (state : WrapState H) (step : Nat × Nat) : WrapState H :=
  match state.registers[step.2]? with
  | none => state
  | some register =>
      let block := cipher.encrypt (state.integrity, register)
      { integrity := cipher.mix step.1 block.1, registers := state.registers.set step.2 block.2 }

def unwrapStep (state : WrapState H) (step : Nat × Nat) : WrapState H :=
  match state.registers[step.2]? with
  | none => state
  | some register =>
      let block := cipher.decrypt (cipher.mix step.1 state.integrity, register)
      { integrity := block.1, registers := state.registers.set step.2 block.2 }

def wrap (initial : H) (registers : List H) : WrapState H :=
  (wrapSchedule registers.length).foldl (wrapStep cipher) ⟨initial, registers⟩

def unwrap (wrapped : WrapState H) : WrapState H :=
  (wrapSchedule wrapped.registers.length).reverse.foldl (unwrapStep cipher) wrapped

theorem length_wrapStep (state : WrapState H) (step : Nat × Nat) :
    (wrapStep cipher state step).registers.length = state.registers.length := by
  unfold wrapStep
  cases state.registers[step.2]? with
  | none => rfl
  | some register => exact List.length_set

theorem length_unwrapStep (state : WrapState H) (step : Nat × Nat) :
    (unwrapStep cipher state step).registers.length = state.registers.length := by
  unfold unwrapStep
  cases state.registers[step.2]? with
  | none => rfl
  | some register => exact List.length_set

theorem length_wrapSteps (steps : List (Nat × Nat)) (state : WrapState H) :
    (steps.foldl (wrapStep cipher) state).registers.length = state.registers.length := by
  induction steps generalizing state with
  | nil => rfl
  | cons step rest hypothesis => rw [List.foldl_cons, hypothesis, length_wrapStep]

theorem length_wrap (initial : H) (registers : List H) :
    (wrap cipher initial registers).registers.length = registers.length :=
  length_wrapSteps cipher _ _

theorem length_unwrap (state : WrapState H) :
    (unwrap cipher state).registers.length = state.registers.length := by
  rw [unwrap]
  induction (wrapSchedule state.registers.length).reverse generalizing state with
  | nil => rfl
  | cons step rest hypothesis => rw [List.foldl_cons, hypothesis, length_unwrapStep]

variable {cipher}

theorem unwrapStep_wrapStep (lawful : cipher.Lawful) (state : WrapState H) (step : Nat × Nat) :
    unwrapStep cipher (wrapStep cipher state step) step = state := by
  obtain ⟨integrity, registers⟩ := state
  obtain ⟨number, index⟩ := step
  by_cases inside : index < registers.length
  · simp [wrapStep, unwrapStep, inside, lawful.mix_mix, lawful.decrypt_encrypt]
  · have absent : registers[index]? = none := List.getElem?_eq_none (by omega)
    simp [wrapStep, unwrapStep, absent]

/-- What was wrapped is unwrapped again, integrity register included. -/
theorem unwrap_wrap (lawful : cipher.Lawful) (initial : H) (registers : List H) :
    unwrap cipher (wrap cipher initial registers) = ⟨initial, registers⟩ := by
  rw [unwrap, length_wrap, wrap]
  exact foldl_reverse_undo _ _ (unwrapStep_wrapStep lawful) _ _

/-- The converse: the cipher is encrypted by the inverse of its decryption. -/
theorem wrapStep_unwrapStep (lawful : cipher.Lawful)
    (inverse : ∀ block, cipher.encrypt (cipher.decrypt block) = block) (state : WrapState H)
    (step : Nat × Nat) : wrapStep cipher (unwrapStep cipher state step) step = state := by
  obtain ⟨integrity, registers⟩ := state
  obtain ⟨number, index⟩ := step
  by_cases inside : index < registers.length
  · simp [wrapStep, unwrapStep, inside, lawful.mix_mix, inverse]
  · have absent : registers[index]? = none := List.getElem?_eq_none (by omega)
    simp [wrapStep, unwrapStep, absent]

/-- What was unwrapped is wrapped again. -/
theorem wrap_unwrap (lawful : cipher.Lawful)
    (inverse : ∀ block, cipher.encrypt (cipher.decrypt block) = block) (wrapped : WrapState H) :
    wrap cipher (unwrap cipher wrapped).integrity (unwrap cipher wrapped).registers = wrapped := by
  have undone := foldl_reverse_undo (unwrapStep cipher) (wrapStep cipher)
    (wrapStep_unwrapStep lawful inverse) (wrapSchedule wrapped.registers.length).reverse wrapped
  rw [List.reverse_reverse, ← unwrap] at undone
  rw [wrap, length_unwrap]
  exact undone

end KeyWrap

end Foundation
