import Nrf7002.Foundation.Program

/-! # Two runs side by side

`Coupled R x s y t` compares the run of `x` from `s` with the run of `y` from `t`: they
end in the same result, and in states that `R` relates.  The states may have different
types, so one program over two machines is compared as well.  The lemmas carry a
coupling through every constructor of a program. -/

set_option autoImplicit false

namespace Foundation

section Coupled
variable {σ τ υ φ ε δ α β : Type}

structure Coupled (R : σ → τ → Prop) (x : Program σ ε α) (s : σ) (y : Program τ ε α) (t : τ) :
    Prop where
  result : resultOf x s = resultOf y t
  states : R (stateAfter x s) (stateAfter y t)

variable {R : σ → τ → Prop} {s : σ} {t : τ}

theorem coupled_pure (a : α) (related : R s t) :
    Coupled R (pure a : Program σ ε α) s (pure a : Program τ ε α) t := ⟨rfl, related⟩

theorem coupled_throw (e : ε) (related : R s t) :
    Coupled R (throw e : Program σ ε α) s (throw e : Program τ ε α) t := ⟨rfl, related⟩

theorem coupled_liftResult (r : Except ε α) (related : R s t) :
    Coupled R (liftResult r : Program σ ε α) s (liftResult r : Program τ ε α) t := by
  cases r with
  | ok a => exact coupled_pure a related
  | error e => exact coupled_throw e related

theorem coupled_modify {f : σ → σ} {g : τ → τ} (related : R (f s) (g t)) :
    Coupled R (modify f : Program σ ε PUnit) s (modify g : Program τ ε PUnit) t :=
  ⟨rfl, related⟩

theorem Coupled.bind {x : Program σ ε α} {y : Program τ ε α} {f : α → Program σ ε β}
    {g : α → Program τ ε β} (first : Coupled R x s y t)
    (second : ∀ a u v, R u v → Coupled R (f a) u (g a) v) :
    Coupled R (x >>= f) s (y >>= g) t := by
  obtain ⟨result, states⟩ := first
  simp only [resultOf, stateAfter] at result states
  constructor
  all_goals
    simp only [resultOf, stateAfter, Bind.bind, EStateM.bind]
    cases left : x s <;> cases right : y t <;> simp only [left, right] at result states ⊢
  · cases result
    exact (second _ _ _ states).result
  · cases result
  · cases result
  · cases result
    rfl
  · cases result
    exact (second _ _ _ states).states
  · cases result
  · cases result
  · exact states

theorem coupled_get_bind {f : σ → Program σ ε α} {g : τ → Program τ ε α}
    (rest : Coupled R (f s) s (g t) t) : Coupled R (get >>= f) s (get >>= g) t :=
  ⟨rest.result, rest.states⟩

theorem Coupled.mapError {x : Program σ ε α} {y : Program τ ε α} (coupled : Coupled R x s y t)
    (f : ε → δ) : Coupled R (mapError f x) s (mapError f y) t := by
  obtain ⟨result, states⟩ := coupled
  simp only [resultOf, stateAfter] at result states
  constructor
  all_goals
    simp only [resultOf, stateAfter, Foundation.mapError]
    cases left : x s <;> cases right : y t <;> simp_all

theorem Coupled.attempt {x : Program σ ε α} {y : Program τ ε α} (coupled : Coupled R x s y t) :
    Coupled R (attempt x : Program σ δ (Except ε α)) s (attempt y) t := by
  obtain ⟨result, states⟩ := coupled
  simp only [resultOf, stateAfter] at result states
  constructor
  all_goals
    simp only [resultOf, stateAfter, Foundation.attempt]
    cases left : x s <;> cases right : y t <;> simp_all

/-- A program on one field: the relation of the fields is set back into the states. -/
theorem Coupled.onField {S : υ → φ → Prop} {x : Program υ ε α} {y : Program φ ε α}
    {get : σ → υ} {set : υ → σ → σ} {get' : τ → φ} {set' : φ → τ → τ}
    (coupled : Coupled S x (get s) y (get' t))
    (back : ∀ u v, S u v → R (set u s) (set' v t)) :
    Coupled R (onField get set x) s (onField get' set' y) t := by
  obtain ⟨result, states⟩ := coupled
  have related := back _ _ states
  simp only [resultOf, stateAfter] at result related
  constructor
  all_goals
    simp only [resultOf, stateAfter, Foundation.onField]
    cases left : x (get s) <;> cases right : y (get' t) <;> simp_all

theorem coupled_ite {p : Prop} [Decidable p] {x x' : Program σ ε α} {y y' : Program τ ε α}
    (left : p → Coupled R x s y t) (right : ¬ p → Coupled R x' s y' t) :
    Coupled R (if p then x else x') s (if p then y else y') t := by
  by_cases holds : p
  · rw [if_pos holds, if_pos holds]
    exact left holds
  · rw [if_neg holds, if_neg holds]
    exact right holds

/-- A run next to itself. -/
theorem coupled_self (x : Program σ ε α) (s : σ) : Coupled Eq x s x s := ⟨rfl, rfl⟩

end Coupled

/-! ## Programs that respect a relation -/

section Respects
variable {σ τ ε δ α β : Type} {R : σ → σ → Prop}

/-- Runs of `x` from related states are coupled. -/
def Respects (R : σ → σ → Prop) (x : Program σ ε α) : Prop :=
  ∀ s t, R s t → Coupled R x s x t

theorem respects_pure (a : α) : Respects R (pure a : Program σ ε α) :=
  fun _ _ related => coupled_pure a related

theorem respects_throw (e : ε) : Respects R (throw e : Program σ ε α) :=
  fun _ _ related => coupled_throw e related

theorem respects_liftResult (r : Except ε α) : Respects R (liftResult r : Program σ ε α) :=
  fun _ _ related => coupled_liftResult r related

theorem respects_modify {f : σ → σ} (carried : ∀ s t, R s t → R (f s) (f t)) :
    Respects R (modify f : Program σ ε PUnit) :=
  fun s t related => coupled_modify (carried s t related)

theorem Respects.bind {x : Program σ ε α} {f : α → Program σ ε β} (first : Respects R x)
    (second : ∀ a, Respects R (f a)) : Respects R (x >>= f) :=
  fun s t related => (first s t related).bind fun a u v => second a u v

theorem Respects.mapError {x : Program σ ε α} (respects : Respects R x) (f : ε → δ) :
    Respects R (mapError f x) := fun s t related => (respects s t related).mapError f

theorem Respects.attempt {x : Program σ ε α} (respects : Respects R x) :
    Respects R (attempt x : Program σ δ (Except ε α)) :=
  fun s t related => (respects s t related).attempt

theorem respects_ite {p : Prop} [Decidable p] {x y : Program σ ε α}
    (left : p → Respects R x) (right : ¬ p → Respects R y) :
    Respects R (if p then x else y) :=
  fun s t related =>
    coupled_ite (fun holds => left holds s t related) fun fails => right fails s t related

/-- A program on one field respects a relation that determines the field. -/
theorem respects_onField {S : τ → τ → Prop} {x : Program τ ε α} {get : σ → τ} {set : τ → σ → σ}
    (respects : Respects S x) (field : ∀ s t, R s t → S (get s) (get t))
    (back : ∀ s t u v, R s t → S u v → R (set u s) (set v t)) :
    Respects R (onField get set x) :=
  fun s t related => (respects _ _ (field s t related)).onField fun u v => back s t u v related

/-- Equal states: every program respects them. -/
theorem respects_eq (x : Program σ ε α) : Respects Eq x := by
  intro s t same
  cases same
  exact coupled_self x s

end Respects

end Foundation
