import Nrf7002.Foundation.Program
import Mathlib.Order.Defs.Unbundled

/-! # How a run changes a view of its state

`Keeps` says that a run leaves a view of the state alone.  Where the view may change, but
only along a preorder (a log that grows, a counter that rises), a program `Evolves` it; the
rules follow the constructors of a program. -/

set_option autoImplicit false

namespace Foundation

section Evolves
variable {σ τ ε δ α β γ : Type} {R : γ → γ → Prop} {view : σ → γ}

/-- Every run of `x`, failed or not, takes the view along the relation. -/
def Evolves (R : γ → γ → Prop) (view : σ → γ) (x : Program σ ε α) : Prop :=
  ∀ s, Post x s (fun _ t => R (view s) (view t))

theorem Evolves.mono {S : γ → γ → Prop} {x : Program σ ε α} (evolves : Evolves R view x)
    (weaker : ∀ before after, R before after → S before after) : Evolves S view x :=
  fun s => (evolves s).mono fun _ t => weaker (view s) (view t)

theorem Evolves.mapError {x : Program σ ε α} (evolves : Evolves R view x) (f : ε → δ) :
    Evolves R view (mapError f x) := by
  intro s
  rw [post_mapError]
  exact evolves s

theorem Evolves.attempt {x : Program σ ε α} (evolves : Evolves R view x) :
    Evolves R view (attempt x : Program σ δ (Except ε α)) := by
  intro s
  rw [post_attempt]
  exact evolves s

/-- A program on one field evolves what the field shows of the view. -/
theorem Evolves.onField {inner : τ → γ} {get : σ → τ} {set : τ → σ → σ} {x : Program τ ε α}
    (evolves : Evolves R inner x) (inside : ∀ s, inner (get s) = view s)
    (outside : ∀ t s, view (set t s) = inner t) : Evolves R view (onField get set x) := by
  intro s
  rw [post_onField]
  refine (evolves (get s)).mono ?_
  intro r t related
  rw [outside, ← inside]
  exact related

theorem evolves_ite {p : Prop} [Decidable p] {x y : Program σ ε α} (left : p → Evolves R view x)
    (right : ¬ p → Evolves R view y) : Evolves R view (if p then x else y) := by
  by_cases holds : p
  · rw [if_pos holds]
    exact left holds
  · rw [if_neg holds]
    exact right holds

section Preorder
variable [IsPreorder γ R]

theorem Keeps.evolves {x : Program σ ε α} (keeps : Keeps view x) : Evolves R view x := by
  intro s
  refine (keeps.post s).mono ?_
  intro r t same
  rw [same]
  exact Std.Refl.refl _

theorem evolves_pure (a : α) : Evolves R view (pure a : Program σ ε α) := (keeps_pure _ _).evolves

theorem evolves_throw (e : ε) : Evolves R view (throw e : Program σ ε α) :=
  (keeps_throw _ _).evolves

theorem evolves_get : Evolves R view (get : Program σ ε σ) := (keeps_get _).evolves

theorem evolves_liftResult (r : Except ε α) : Evolves R view (liftResult r : Program σ ε α) :=
  (keeps_liftResult _ _).evolves

theorem Evolves.bind {x : Program σ ε α} {f : α → Program σ ε β} (first : Evolves R view x)
    (second : ∀ a, Evolves R view (f a)) : Evolves R view (x >>= f) := by
  intro s
  rw [post_bind]
  refine (first s).mono ?_
  intro r t related
  cases r with
  | error e => exact related
  | ok a => exact (second a t).mono fun _ u later => IsTrans.trans _ _ _ related later

end Preorder

end Evolves

end Foundation
