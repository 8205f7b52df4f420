import Mathlib.Data.List.Basic

/-! # Runs of a machine

A machine takes one step for each move it is given.  The rules below carry an
invariant along every run, and reduce "the property holds in every state of the
run" to "no step of the run is a bad one". -/

set_option autoImplicit false

namespace Foundation

section Runs
variable {State Move : Type}

/-- The state after a list of moves. -/
def runMoves (step : State → Move → State) : State → List Move → State
  | state, [] => state
  | state, move :: rest => runMoves step (step state move) rest

/-- Every state of the run, the first and the last one included. -/
def visited (step : State → Move → State) : State → List Move → List State
  | state, [] => [state]
  | state, move :: rest => state :: visited step (step state move) rest

/-- Every step of the run, as the state before it and its move. -/
def stepsOf (step : State → Move → State) : State → List Move → List (State × Move)
  | _, [] => []
  | state, move :: rest => (state, move) :: stepsOf step (step state move) rest

def Reachable (step : State → Move → State) (first state : State) : Prop :=
  ∃ moves, runMoves step first moves = state

theorem runMoves_append (step : State → Move → State) (state : State) (left right : List Move) :
    runMoves step state (left ++ right) = runMoves step (runMoves step state left) right := by
  induction left generalizing state with
  | nil => rfl
  | cons move rest hypothesis => exact hypothesis (step state move)

theorem Reachable.refl (step : State → Move → State) (first : State) :
    Reachable step first first := ⟨[], rfl⟩

theorem Reachable.step {step : State → Move → State} {first state : State}
    (reachable : Reachable step first state) (move : Move) :
    Reachable step first (step state move) := by
  obtain ⟨moves, ends⟩ := reachable
  refine ⟨moves ++ [move], ?_⟩
  rw [runMoves_append, ends]
  rfl

theorem runMoves_preserves {step : State → Move → State} {Invariant : State → Prop}
    (preserved : ∀ state move, Invariant state → Invariant (step state move))
    {state : State} (holds : Invariant state) (moves : List Move) :
    Invariant (runMoves step state moves) := by
  induction moves generalizing state with
  | nil => exact holds
  | cons move rest hypothesis => exact hypothesis (preserved state move holds)

/-- The same for moves of one kind. -/
theorem runMoves_preserves_of_allowed {step : State → Move → State} {Invariant : State → Prop}
    {Allowed : Move → Prop}
    (preserved : ∀ state move, Allowed move → Invariant state → Invariant (step state move))
    {state : State} (holds : Invariant state) (moves : List Move)
    (allowed : ∀ move ∈ moves, Allowed move) : Invariant (runMoves step state moves) := by
  induction moves generalizing state with
  | nil => exact holds
  | cons move rest hypothesis =>
      exact hypothesis (preserved state move (allowed move List.mem_cons_self) holds)
        fun other member => allowed other (List.mem_cons_of_mem _ member)

/-- An invariant that the steps of the run preserve. -/
theorem runMoves_preserves_of_steps (Invariant : State → Prop) {step : State → Move → State}
    {state : State} (holds : Invariant state) (moves : List Move)
    (preserved : ∀ taken ∈ stepsOf step state moves,
      Invariant taken.1 → Invariant (step taken.1 taken.2)) :
    Invariant (runMoves step state moves) := by
  induction moves generalizing state with
  | nil => exact holds
  | cons move rest hypothesis =>
      have first := preserved (state, move) List.mem_cons_self holds
      exact hypothesis first fun taken member => preserved taken (List.mem_cons_of_mem _ member)

theorem Reachable.invariant {step : State → Move → State} {Invariant : State → Prop}
    {first state : State} (reachable : Reachable step first state) (holds : Invariant first)
    (preserved : ∀ state move, Invariant state → Invariant (step state move)) :
    Invariant state := by
  obtain ⟨moves, ends⟩ := reachable
  rw [← ends]
  exact runMoves_preserves preserved holds moves

theorem mem_visited_first (step : State → Move → State) (state : State) (moves : List Move) :
    state ∈ visited step state moves := by
  cases moves <;> simp [visited]

theorem runMoves_mem_visited (step : State → Move → State) (state : State) (moves : List Move) :
    runMoves step state moves ∈ visited step state moves := by
  induction moves generalizing state with
  | nil => exact List.mem_singleton_self state
  | cons move rest hypothesis => exact List.mem_cons_of_mem state (hypothesis (step state move))

theorem move_mem_of_stepsOf {step : State → Move → State} {state : State} {moves : List Move}
    {taken : State × Move} (member : taken ∈ stepsOf step state moves) : taken.2 ∈ moves := by
  induction moves generalizing state with
  | nil => simp [stepsOf] at member
  | cons move rest hypothesis =>
      rcases List.mem_cons.mp member with rfl | later
      · exact List.mem_cons_self
      · exact List.mem_cons_of_mem move (hypothesis later)

theorem last_mem_stepsOf (step : State → Move → State) (state : State) (moves : List Move)
    (last : Move) :
    (runMoves step state moves, last) ∈ stepsOf step state (moves ++ [last]) := by
  induction moves generalizing state with
  | nil => exact List.mem_singleton_self (state, last)
  | cons move rest hypothesis =>
      exact List.mem_cons_of_mem (state, move) (hypothesis (step state move))

/-- An invariant holds before every step of a run. -/
theorem invariant_of_stepsOf {step : State → Move → State} {Invariant : State → Prop}
    (preserved : ∀ state move, Invariant state → Invariant (step state move))
    {state : State} {moves : List Move} (holds : Invariant state) {taken : State × Move}
    (member : taken ∈ stepsOf step state moves) : Invariant taken.1 := by
  induction moves generalizing state with
  | nil => simp [stepsOf] at member
  | cons move rest hypothesis =>
      rcases List.mem_cons.mp member with rfl | later
      · exact holds
      · exact hypothesis (preserved state move holds) later

/-- Suppose an invariant gives the property, survives every allowed step that is not
bad, and every bad step breaks the property at once.  Then the property holds along
a run of allowed steps exactly when the run takes no bad step. -/
theorem always_iff_no_bad_step_of_allowed (Invariant Property : State → Prop)
    (Allowed Bad : State → Move → Prop) {step : State → Move → State}
    (property : ∀ state, Invariant state → Property state)
    (preserved : ∀ state move, Invariant state → Allowed state move → ¬ Bad state move →
      Invariant (step state move))
    (broken : ∀ state move, Invariant state → Bad state move → ¬ Property (step state move))
    {state : State} (holds : Invariant state) (moves : List Move)
    (allowed : ∀ taken ∈ stepsOf step state moves, Allowed taken.1 taken.2) :
    (∀ visit ∈ visited step state moves, Property visit) ↔
      ∀ taken ∈ stepsOf step state moves, ¬ Bad taken.1 taken.2 := by
  induction moves generalizing state with
  | nil =>
      simp only [visited, stepsOf, List.mem_singleton, forall_eq, List.not_mem_nil,
        false_implies, implies_true, iff_true]
      exact property state holds
  | cons move rest hypothesis =>
      simp only [visited, stepsOf, List.forall_mem_cons] at allowed ⊢
      by_cases bad : Bad state move
      · constructor
        · intro always
          exact absurd (always.2 _ (mem_visited_first step _ rest)) (broken state move holds bad)
        · intro clean
          exact absurd bad clean.1
      · have next := hypothesis (preserved state move holds allowed.1 bad) allowed.2
        constructor
        · intro always
          exact ⟨bad, next.mp always.2⟩
        · intro clean
          exact ⟨property state holds, next.mpr clean.2⟩

theorem always_iff_no_bad_step (Invariant Property : State → Prop) (Bad : State → Move → Prop)
    {step : State → Move → State} (property : ∀ state, Invariant state → Property state)
    (preserved : ∀ state move, Invariant state → ¬ Bad state move → Invariant (step state move))
    (broken : ∀ state move, Invariant state → Bad state move → ¬ Property (step state move))
    {state : State} (holds : Invariant state) (moves : List Move) :
    (∀ visit ∈ visited step state moves, Property visit) ↔
      ∀ taken ∈ stepsOf step state moves, ¬ Bad taken.1 taken.2 :=
  always_iff_no_bad_step_of_allowed Invariant Property (fun _ _ => True) Bad property
    (fun state move holds _ => preserved state move holds) broken holds moves
    fun _ _ => trivial

/-- The same for a property of steps: under the invariant an allowed step has it exactly
when it is not bad. -/
theorem steps_iff_no_bad_step_of_allowed (Invariant : State → Prop)
    (Allowed Holds Bad : State → Move → Prop) {step : State → Move → State}
    (preserved : ∀ state move, Invariant state → Allowed state move → ¬ Bad state move →
      Invariant (step state move))
    (exact_ : ∀ state move, Invariant state → Allowed state move →
      (Holds state move ↔ ¬ Bad state move))
    {state : State} (holds : Invariant state) (moves : List Move)
    (allowed : ∀ taken ∈ stepsOf step state moves, Allowed taken.1 taken.2) :
    (∀ taken ∈ stepsOf step state moves, Holds taken.1 taken.2) ↔
      ∀ taken ∈ stepsOf step state moves, ¬ Bad taken.1 taken.2 := by
  induction moves generalizing state with
  | nil => simp [stepsOf]
  | cons move rest hypothesis =>
      simp only [stepsOf, List.forall_mem_cons] at allowed ⊢
      rw [exact_ state move holds allowed.1]
      constructor
      · intro good
        have next := preserved state move holds allowed.1 good.1
        exact ⟨good.1, (hypothesis next allowed.2).mp good.2⟩
      · intro clean
        have next := preserved state move holds allowed.1 clean.1
        exact ⟨clean.1, (hypothesis next allowed.2).mpr clean.2⟩

theorem steps_iff_no_bad_step (Invariant : State → Prop) (Holds Bad : State → Move → Prop)
    {step : State → Move → State}
    (preserved : ∀ state move, Invariant state → ¬ Bad state move → Invariant (step state move))
    (exact_ : ∀ state move, Invariant state → (Holds state move ↔ ¬ Bad state move))
    {state : State} (holds : Invariant state) (moves : List Move) :
    (∀ taken ∈ stepsOf step state moves, Holds taken.1 taken.2) ↔
      ∀ taken ∈ stepsOf step state moves, ¬ Bad taken.1 taken.2 :=
  steps_iff_no_bad_step_of_allowed Invariant (fun _ _ => True) Holds Bad
    (fun state move holds _ => preserved state move holds)
    (fun state move holds _ => exact_ state move holds) holds moves fun _ _ => trivial

end Runs

end Foundation
