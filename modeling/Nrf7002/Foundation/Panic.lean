import Nrf7002.Foundation.Program

/-! # Programs that may panic

A failed assertion or a slice outside its buffer stops a program in a way its caller
never sees.  `Stop` adds that ending to the errors; `Follows` compares a program that
checks itself with the same program without its checks. -/

set_option autoImplicit false

namespace Foundation

/-- A run fails with an error of the program, or panics. -/
inductive Stop (π ε : Type) where
  | failed (failure : ε)
  | panic (reason : π)
  deriving DecidableEq, Repr

section Follows
variable {σ τ π ε α β : Type} {may : π → Prop}

/-- The run of `x` panics for a reason that `may` allows, or is the run of `y`. -/
structure Follows (may : π → Prop) (x : Program σ (Stop π ε) α) (y : Program σ ε α) (s : σ) :
    Prop where
  ends : Post x s fun r t =>
    (∃ reason, r = .error (.panic reason) ∧ may reason) ∨
      r = (resultOf y s).mapError .failed ∧ t = stateAfter y s

/-- The assertion of a reason. -/
def demand (holds : Prop) [Decidable holds] (reason : π) : Program σ (Stop π ε) Unit :=
  if holds then pure () else throw (.panic reason)

theorem follows_mapError (y : Program σ ε α) (s : σ) :
    Follows may (mapError .failed y) y s := by
  constructor
  rw [post_mapError, post_iff]
  exact .inr ⟨rfl, rfl⟩

theorem follows_pure (a : α) (s : σ) :
    Follows may (pure a : Program σ (Stop π ε) α) (pure a) s := by
  constructor
  rw [post_pure]
  exact .inr ⟨rfl, rfl⟩

theorem Follows.bind {x : Program σ (Stop π ε) α} {y : Program σ ε α}
    {f : α → Program σ (Stop π ε) β} {g : α → Program σ ε β} {s : σ}
    (first : Follows may x y s)
    (rest : ∀ a, resultOf y s = .ok a → Follows may (f a) (g a) (stateAfter y s)) :
    Follows may (x >>= f) (y >>= g) s := by
  constructor
  rw [post_bind]
  refine first.ends.mono ?_
  intro r t ended
  obtain ⟨reason, panicked, allowed⟩ | ⟨same, after⟩ := ended
  · rw [panicked]
    exact .inl ⟨reason, rfl, allowed⟩
  · subst after
    simp only [resultOf, stateAfter] at same rest
    simp only [resultOf, stateAfter, Bind.bind, EStateM.bind]
    cases run : y s with
    | error failure after =>
        rw [run] at same
        rw [same]
        exact .inr ⟨rfl, rfl⟩
    | ok a after =>
        rw [run] at same rest
        rw [same]
        exact (rest a rfl).ends

theorem follows_get_bind {f : σ → Program σ (Stop π ε) α} {g : σ → Program σ ε α} {s : σ}
    (rest : Follows may (f s) (g s) s) : Follows may (get >>= f) (get >>= g) s := by
  constructor
  rw [post_bind, post_get]
  exact rest.ends

/-- What is asserted either holds, or stops the run for an allowed reason. -/
theorem follows_demand_bind {holds : Prop} [Decidable holds] {reason : π}
    {f : Unit → Program σ (Stop π ε) α} {y : Program σ ε α} {s : σ}
    (allowed : ¬ holds → may reason) (rest : holds → Follows may (f ()) y s) :
    Follows may (demand holds reason >>= f) y s := by
  constructor
  rw [demand, post_bind, post_ite]
  split
  · rename_i fine
    rw [post_pure]
    exact (rest fine).ends
  · rename_i fails
    rw [post_throw]
    exact .inl ⟨reason, rfl, allowed fails⟩

theorem follows_ite {p : Prop} [Decidable p] {x x' : Program σ (Stop π ε) α}
    {y y' : Program σ ε α} {s : σ} (left : p → Follows may x y s)
    (right : ¬ p → Follows may x' y' s) :
    Follows may (if p then x else x') (if p then y else y') s := by
  by_cases holds : p
  · rw [if_pos holds, if_pos holds]
    exact left holds
  · rw [if_neg holds, if_neg holds]
    exact right holds

theorem Follows.onField {get : σ → τ} {set : τ → σ → σ} {x : Program τ (Stop π ε) α}
    {y : Program τ ε α} {s : σ} (follows : Follows may x y (get s)) :
    Follows may (onField get set x) (onField get set y) s := by
  obtain ⟨ends⟩ := follows
  constructor
  rw [post_onField]
  refine ends.mono ?_
  intro r t ended
  obtain ⟨reason, panicked, allowed⟩ | ⟨same, after⟩ := ended
  · exact .inl ⟨reason, panicked, allowed⟩
  · subst after
    refine .inr ?_
    rw [same]
    simp only [resultOf, stateAfter, Foundation.onField]
    cases y (get s) with
    | error failure after => exact ⟨rfl, rfl⟩
    | ok a after => exact ⟨rfl, rfl⟩

/-- A reason that is not allowed never stops the run. -/
theorem Follows.allowed {x : Program σ (Stop π ε) α} {y : Program σ ε α} {s : σ} {reason : π}
    (follows : Follows may x y s) (panicked : resultOf x s = .error (.panic reason)) :
    may reason := by
  obtain ⟨ended⟩ := follows.ends
  rw [panicked] at ended
  obtain ⟨found, same, allowed⟩ | ⟨same, _⟩ := ended
  · cases same
    exact allowed
  · cases ran : resultOf y s with
    | error failure =>
        rw [ran] at same
        cases same
    | ok a =>
        rw [ran] at same
        cases same

end Follows

end Foundation
