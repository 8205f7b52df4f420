import Mathlib.Data.List.Basic

/-! # Programs whose state survives a failure

A method on a mutable receiver that returns early with an error keeps every write
it made before the error.  `Program σ ε α` is that effect: it ends in a result and
a state, or in an error and a state.  `Post x s Q` says that the run of `x` from `s`
ends in a result and a state related by `Q`; the lemmas below push `Post` through
every constructor of a program, so a run is followed by rewriting. -/

set_option autoImplicit false

namespace Foundation

abbrev Program (σ ε α : Type) := EStateM ε σ α

section Combinators
variable {σ τ ε δ α β : Type}

/-- A computation without state, used where a state is at hand. -/
def liftResult : Except ε α → Program σ ε α
  | .ok a => pure a
  | .error e => throw e

def mapError (f : ε → δ) (x : Program σ ε α) : Program σ δ α := fun s =>
  match x s with
  | .ok a t => .ok a t
  | .error e t => .error (f e) t

/-- Runs a program on one field of a larger state. -/
def onField (get : σ → τ) (set : τ → σ → σ) (x : Program τ ε α) : Program σ ε α := fun s =>
  match x (get s) with
  | .ok a t => .ok a (set t s)
  | .error e t => .error e (set t s)

/-- Runs a program with a local variable, whose last value is returned. -/
def withLocal (initial : τ) (x : Program (σ × τ) ε α) : Program σ ε (α × τ) := fun s =>
  match x (s, initial) with
  | .ok a t => .ok (a, t.2) t.1
  | .error e t => .error e t.1

/-- The result of a run as a value: the caller inspects it and goes on. -/
def attempt (x : Program σ ε α) : Program σ δ (Except ε α) := fun s =>
  match x s with
  | .ok a t => .ok (.ok a) t
  | .error e t => .ok (.error e) t

end Combinators

section Results
variable {ε α β : Type}

theorem ok_bind (a : α) (f : α → Except ε β) : ((.ok a : Except ε α) >>= f) = f a := rfl

/-- Takes one step off a computation without state. -/
theorem bind_eq_ok {x : Except ε α} {f : α → Except ε β} {b : β} :
    (x >>= f) = .ok b ↔ ∃ a, x = .ok a ∧ f a = .ok b := by
  cases x with
  | error e => simp [bind, Except.bind]
  | ok a => simp [bind, Except.bind]

theorem map_eq_ok {f : α → β} {x : Except ε α} {b : β} :
    f <$> x = .ok b ↔ ∃ a, x = .ok a ∧ f a = b := by
  cases x with
  | error failure => exact iff_of_false (fun same => by cases same) fun ⟨_, same, _⟩ => by cases same
  | ok a =>
      constructor
      · intro same
        exact ⟨a, rfl, Except.ok.inj same⟩
      · intro ⟨c, same, mapped⟩
        cases same
        exact congrArg _ mapped

theorem mapError_eq_ok {δ : Type} {f : ε → δ} {x : Except ε α} {a : α} :
    x.mapError f = .ok a ↔ x = .ok a := by
  cases x with
  | error e => exact iff_of_false (fun same => by cases same) fun same => by cases same
  | ok b => rw [Except.mapError, Except.ok.injEq, Except.ok.injEq]

theorem check_bind_eq_ok {x : Except ε Unit} {f : Unit → Except ε β} {b : β} :
    (x >>= f) = .ok b ↔ x = .ok () ∧ f () = .ok b := by
  cases x with
  | error e => simp [bind, Except.bind]
  | ok a => simp [bind, Except.bind]

theorem refused_eq_ok {p : Prop} [Decidable p] {e : ε} {x : Except ε α} {a : α} :
    (if p then .error e else x) = .ok a ↔ ¬ p ∧ x = .ok a := by
  by_cases holds : p
  · simp [holds]
  · simp [holds]

theorem accepted_eq_ok {p : Prop} [Decidable p] {e : ε} {x : Except ε α} {a : α} :
    (if p then x else .error e) = .ok a ↔ p ∧ x = .ok a := by
  by_cases holds : p
  · simp [holds]
  · simp [holds]

end Results

section Post
variable {σ τ ε δ α β : Type}

/-- The result of a run, without its state. -/
def resultOf (x : Program σ ε α) (s : σ) : Except ε α :=
  match x s with
  | .ok a _ => .ok a
  | .error e _ => .error e

/-- The state a run leaves behind, whether or not it failed. -/
def stateAfter (x : Program σ ε α) (s : σ) : σ :=
  match x s with
  | .ok _ t => t
  | .error _ t => t

/-- A structure, so that no unification evaluates the program. -/
structure Post (x : Program σ ε α) (s : σ) (Q : Except ε α → σ → Prop) : Prop where
  intro ::
  ends : Q (resultOf x s) (stateAfter x s)

theorem post_iff (x : Program σ ε α) (s : σ) (Q : Except ε α → σ → Prop) :
    Post x s Q ↔ Q (resultOf x s) (stateAfter x s) := ⟨Post.ends, Post.intro⟩

/-- The run of `x` from `s` succeeds with `a` and ends in `t`. -/
def Returns (x : Program σ ε α) (s : σ) (a : α) (t : σ) : Prop :=
  resultOf x s = .ok a ∧ stateAfter x s = t

theorem returns_iff_post {x : Program σ ε α} {s t : σ} {a : α} :
    Returns x s a t ↔ Post x s (fun r u => r = .ok a ∧ u = t) := by
  rw [post_iff, Returns]

@[simp] theorem post_pure (a : α) (s : σ) (Q : Except ε α → σ → Prop) :
    Post (pure a : Program σ ε α) s Q ↔ Q (.ok a) s := post_iff _ _ _

@[simp] theorem post_throw (e : ε) (s : σ) (Q : Except ε α → σ → Prop) :
    Post (throw e : Program σ ε α) s Q ↔ Q (.error e) s := post_iff _ _ _

@[simp] theorem post_get (s : σ) (Q : Except ε σ → σ → Prop) :
    Post (get : Program σ ε σ) s Q ↔ Q (.ok s) s := post_iff _ _ _

@[simp] theorem post_set (s t : σ) (Q : Except ε PUnit → σ → Prop) :
    Post (set t : Program σ ε PUnit) s Q ↔ Q (.ok ⟨⟩) t := post_iff _ _ _

@[simp] theorem post_modify (f : σ → σ) (s : σ) (Q : Except ε PUnit → σ → Prop) :
    Post (modify f : Program σ ε PUnit) s Q ↔ Q (.ok ⟨⟩) (f s) := post_iff _ _ _

@[simp] theorem post_bind (x : Program σ ε α) (f : α → Program σ ε β) (s : σ)
    (Q : Except ε β → σ → Prop) :
    Post (x >>= f) s Q ↔
      Post x s (fun r t => match r with
        | .ok a => Post (f a) t Q
        | .error e => Q (.error e) t) := by
  simp only [post_iff, resultOf, stateAfter, bind, EStateM.bind]
  cases x s <;> rfl

@[simp] theorem post_map (g : α → β) (x : Program σ ε α) (s : σ)
    (Q : Except ε β → σ → Prop) :
    Post (g <$> x) s Q ↔ Post x s (fun r t => Q (r.map g) t) := by
  simp only [post_iff, resultOf, stateAfter, Functor.map, EStateM.map]
  cases x s <;> rfl

@[simp] theorem post_mapError (f : ε → δ) (x : Program σ ε α) (s : σ)
    (Q : Except δ α → σ → Prop) :
    Post (mapError f x) s Q ↔ Post x s (fun r t => Q (r.mapError f) t) := by
  simp only [post_iff, resultOf, stateAfter, mapError]
  cases x s <;> rfl

@[simp] theorem post_liftResult_ok (a : α) (s : σ) (Q : Except ε α → σ → Prop) :
    Post (liftResult (.ok a) : Program σ ε α) s Q ↔ Q (.ok a) s := post_iff _ _ _

theorem post_liftResult (r : Except ε α) (s : σ) (Q : Except ε α → σ → Prop) :
    Post (liftResult r : Program σ ε α) s Q ↔ Q r s := by
  cases r <;> exact post_iff _ _ _

@[simp] theorem post_onField (get : σ → τ) (set : τ → σ → σ) (x : Program τ ε α) (s : σ)
    (Q : Except ε α → σ → Prop) :
    Post (onField get set x) s Q ↔ Post x (get s) (fun r t => Q r (set t s)) := by
  simp only [post_iff, resultOf, stateAfter, onField]
  cases x (get s) <;> rfl

@[simp] theorem post_withLocal (initial : τ) (x : Program (σ × τ) ε α) (s : σ)
    (Q : Except ε (α × τ) → σ → Prop) :
    Post (withLocal initial x) s Q ↔
      Post x (s, initial) (fun r t => Q (r.map fun a => (a, t.2)) t.1) := by
  simp only [post_iff, resultOf, stateAfter, withLocal]
  cases x (s, initial) <;> rfl

@[simp] theorem post_attempt (x : Program σ ε α) (s : σ)
    (Q : Except δ (Except ε α) → σ → Prop) :
    Post (attempt x : Program σ δ (Except ε α)) s Q ↔ Post x s (fun r t => Q (.ok r) t) := by
  simp only [post_iff, resultOf, stateAfter, attempt]
  cases x s <;> rfl

@[simp] theorem post_ite (p : Prop) [Decidable p] (x y : Program σ ε α) (s : σ)
    (Q : Except ε α → σ → Prop) :
    Post (if p then x else y) s Q ↔ if p then Post x s Q else Post y s Q := by
  by_cases holds : p
  · rw [if_pos holds, if_pos holds]
  · rw [if_neg holds, if_neg holds]

theorem Post.mono {x : Program σ ε α} {s : σ} {Q R : Except ε α → σ → Prop}
    (post : Post x s Q) (weaker : ∀ r t, Q r t → R r t) : Post x s R :=
  ⟨weaker _ _ post.ends⟩

theorem Post.and {x : Program σ ε α} {s : σ} {Q R : Except ε α → σ → Prop}
    (left : Post x s Q) (right : Post x s R) : Post x s (fun r t => Q r t ∧ R r t) :=
  ⟨left.ends, right.ends⟩

/-- What is known about the end of a run may be used to rewrite its postcondition. -/
theorem Post.congr {x : Program σ ε α} {s : σ} {P Q R : Except ε α → σ → Prop}
    (known : Post x s P) (same : ∀ r t, P r t → (Q r t ↔ R r t)) : Post x s Q ↔ Post x s R := by
  rw [post_iff, post_iff]
  exact same _ _ known.ends

/-- A run ends in its own result and state. -/
theorem post_self (x : Program σ ε α) (s : σ) :
    Post x s (fun r t => r = resultOf x s ∧ t = stateAfter x s) := ⟨rfl, rfl⟩

theorem post_true (x : Program σ ε α) (s : σ) : Post x s (fun _ _ => True) := ⟨trivial⟩

/-- What an error satisfies anyway has to be shown of the rest of a program only. -/
theorem post_bind_of_rest {x : Program σ ε α} {f : α → Program σ ε β} {s : σ}
    {Q : Except ε β → σ → Prop} (failed : ∀ e t, Q (.error e) t)
    (rest : ∀ a t, Post (f a) t Q) : Post (x >>= f) s Q := by
  rw [post_bind]
  refine (post_true x s).mono ?_
  intro r t _
  cases r with
  | ok a => exact rest a t
  | error e => exact failed e t

end Post

/-! ## Successful runs -/

section Returns
variable {σ τ ε δ α β : Type}

theorem returns_pure {a b : α} {s t : σ} :
    Returns (pure a : Program σ ε α) s b t ↔ a = b ∧ s = t := by
  rw [returns_iff_post, post_pure, Except.ok.injEq]

theorem not_returns_throw {e : ε} {a : α} {s t : σ} :
    ¬ Returns (throw e : Program σ ε α) s a t := by
  rw [returns_iff_post, post_throw]
  intro ends
  cases ends.1

theorem returns_bind {x : Program σ ε α} {f : α → Program σ ε β} {s t : σ} {b : β} :
    Returns (x >>= f) s b t ↔ ∃ a u, Returns x s a u ∧ Returns (f a) u b t := by
  rw [returns_iff_post, post_bind, post_iff]
  cases ends : resultOf x s with
  | error e =>
      constructor
      · intro failed
        cases failed.1
      · intro ⟨a, u, first, _⟩
        cases ends.symm.trans first.1
  | ok a =>
      dsimp only
      rw [← returns_iff_post]
      constructor
      · intro rest
        exact ⟨a, _, ⟨ends, rfl⟩, rest⟩
      · intro ⟨b, u, first, rest⟩
        cases ends.symm.trans first.1
        cases first.2
        exact rest

theorem returns_get_bind {f : σ → Program σ ε α} {s t : σ} {a : α} :
    Returns (get >>= f) s a t ↔ Returns (f s) s a t := by
  rw [returns_iff_post, returns_iff_post, post_bind, post_get]

theorem returns_modify {f : σ → σ} {s t : σ} {a : PUnit} :
    Returns (modify f : Program σ ε PUnit) s a t ↔ f s = t := by
  rw [returns_iff_post, post_modify]
  exact and_iff_right rfl

theorem returns_liftResult {r : Except ε α} {s t : σ} {a : α} :
    Returns (liftResult r : Program σ ε α) s a t ↔ r = .ok a ∧ s = t := by
  rw [returns_iff_post, post_liftResult]

theorem returns_map {x : Program σ ε α} {g : α → β} {s t : σ} {b : β} :
    Returns (g <$> x) s b t ↔ ∃ a, Returns x s a t ∧ g a = b := by
  rw [returns_iff_post, post_map, post_iff]
  cases ends : resultOf x s with
  | error e => simp [Returns, ends, Except.map]
  | ok a => simp [Returns, ends, Except.map, and_comm]

theorem returns_mapError {f : ε → δ} {x : Program σ ε α} {s t : σ} {a : α} :
    Returns (mapError f x) s a t ↔ Returns x s a t := by
  rw [returns_iff_post, post_mapError, post_iff, Returns]
  cases resultOf x s <;> simp [Except.mapError]

theorem returns_onField {get : σ → τ} {set : τ → σ → σ} {x : Program τ ε α} {s t : σ} {a : α} :
    Returns (onField get set x) s a t ↔ ∃ u, Returns x (get s) a u ∧ set u s = t := by
  rw [returns_iff_post, post_onField, post_iff]
  simp [Returns]

theorem returns_attempt {x : Program σ ε α} {s t : σ} {r : Except ε α} :
    Returns (attempt x : Program σ δ (Except ε α)) s r t ↔
      resultOf x s = r ∧ stateAfter x s = t := by
  rw [returns_iff_post, post_attempt, post_iff, Except.ok.injEq]

end Returns

/-! ## Frames -/

section Keeps
variable {σ τ ε δ α β γ : Type}

/-- Every run of `x`, failed or not, leaves `view` of the state as it was. -/
def Keeps (view : σ → γ) (x : Program σ ε α) : Prop :=
  ∀ s, view (stateAfter x s) = view s

theorem keeps_iff_post (view : σ → γ) (x : Program σ ε α) :
    Keeps view x ↔ ∀ s, Post x s (fun _ t => view t = view s) := by
  simp only [Keeps, post_iff]

theorem Keeps.post {view : σ → γ} {x : Program σ ε α} (keeps : Keeps view x) (s : σ) :
    Post x s (fun _ t => view t = view s) :=
  (keeps_iff_post view x).mp keeps s

theorem keeps_pure (view : σ → γ) (a : α) : Keeps view (pure a : Program σ ε α) :=
  fun _ => rfl

theorem keeps_throw (view : σ → γ) (e : ε) : Keeps view (throw e : Program σ ε α) :=
  fun _ => rfl

theorem keeps_get (view : σ → γ) : Keeps view (get : Program σ ε σ) := fun _ => rfl

theorem keeps_modify (view : σ → γ) (f : σ → σ) (same : ∀ s, view (f s) = view s) :
    Keeps view (modify f : Program σ ε PUnit) := fun s => same s

theorem keeps_liftResult (view : σ → γ) (r : Except ε α) :
    Keeps view (liftResult r : Program σ ε α) := by
  intro s
  cases r <;> rfl

theorem Keeps.bind {view : σ → γ} {x : Program σ ε α} {f : α → Program σ ε β}
    (first : Keeps view x) (second : ∀ a, Keeps view (f a)) : Keeps view (x >>= f) := by
  rw [keeps_iff_post]
  intro s
  rw [post_bind]
  refine (first.post s).mono ?_
  intro r t same
  cases r with
  | ok a => exact ((second a).post t).mono fun _ u later => later.trans same
  | error e => exact same

/-- What relates the views before and after a run needs to be shown from the first step on
that changes the view. -/
theorem Keeps.bind_post {view : σ → γ} {x : Program σ ε α} {f : α → Program σ ε β}
    (first : Keeps view x) (Q : Except ε β → γ → γ → Prop)
    (failed : ∀ e shown, Q (.error e) shown shown)
    (rest : ∀ a t, Post (f a) t (fun r u => Q r (view t) (view u))) (s : σ) :
    Post (x >>= f) s (fun r u => Q r (view s) (view u)) := by
  rw [post_bind]
  refine (first.post s).mono ?_
  intro r t same
  rw [← same]
  cases r with
  | ok a => exact rest a t
  | error e => exact failed e (view t)

theorem Keeps.mapError {view : σ → γ} {x : Program σ ε α} (keeps : Keeps view x)
    (f : ε → δ) : Keeps view (mapError f x) := by
  rw [keeps_iff_post]
  intro s
  rw [post_mapError]
  exact keeps.post s

theorem Keeps.attempt {view : σ → γ} {x : Program σ ε α} (keeps : Keeps view x) :
    Keeps view (attempt x : Program σ δ (Except ε α)) := by
  rw [keeps_iff_post]
  intro s
  rw [post_attempt]
  exact keeps.post s

theorem keeps_ite {view : σ → γ} {p : Prop} [Decidable p] {x y : Program σ ε α}
    (left : p → Keeps view x) (right : ¬ p → Keeps view y) :
    Keeps view (if p then x else y) := by
  by_cases holds : p
  · rw [if_pos holds]; exact left holds
  · rw [if_neg holds]; exact right holds

/-- A program on one field keeps every view that the field's setter keeps. -/
theorem keeps_onField {view : σ → γ} {get : σ → τ} {set : τ → σ → σ}
    (x : Program τ ε α) (same : ∀ t s, view (set t s) = view s) :
    Keeps view (onField get set x) := by
  rw [keeps_iff_post]
  intro s
  rw [post_onField, post_iff]
  exact same _ s

/-- Every run of `x`, failed or not, carries the property of the state to its end. -/
def Preserves (P : σ → Prop) (x : Program σ ε α) : Prop :=
  ∀ s, P s → Post x s (fun _ t => P t)

theorem Preserves.bind {P : σ → Prop} {x : Program σ ε α} {f : α → Program σ ε β}
    (first : Preserves P x) (second : ∀ a, Preserves P (f a)) : Preserves P (x >>= f) := by
  intro s holds
  rw [post_bind]
  refine (first s holds).mono ?_
  intro r t carried
  cases r with
  | ok a => exact second a t carried
  | error e => exact carried

theorem preserves_get_bind {P : σ → Prop} {f : σ → Program σ ε β}
    (rest : ∀ s, P s → Post (f s) s (fun _ t => P t)) : Preserves P (get >>= f) := by
  intro s holds
  rw [post_bind, post_get]
  exact rest s holds

theorem Keeps.preserves {view : σ → γ} {x : Program σ ε α} (keeps : Keeps view x)
    {P : σ → Prop} (determined : ∀ s t, view t = view s → P s → P t) : Preserves P x := by
  intro s holds
  exact (keeps.post s).mono fun _ t same => determined s t same holds

theorem Preserves.attempt {P : σ → Prop} {x : Program σ ε α} (preserves : Preserves P x) :
    Preserves P (attempt x : Program σ δ (Except ε α)) := by
  intro s holds
  rw [post_attempt]
  exact preserves s holds

theorem Preserves.mapError {P : σ → Prop} {x : Program σ ε α} (preserves : Preserves P x)
    (f : ε → δ) : Preserves P (mapError f x) := by
  intro s holds
  rw [post_mapError]
  exact preserves s holds

/-- A program on one field preserves a property that the field alone decides. -/
theorem Preserves.onField {P : σ → Prop} {R : τ → Prop} {get : σ → τ} {set : τ → σ → σ}
    {x : Program τ ε α} (preserves : Preserves R x) (inside : ∀ s, P s → R (get s))
    (outside : ∀ t s, R t → P (set t s)) : Preserves P (onField get set x) := by
  intro s holds
  rw [post_onField]
  exact (preserves (get s) (inside s holds)).mono fun _ t carried => outside t s carried

theorem preserves_ite {P : σ → Prop} {p : Prop} [Decidable p] {x y : Program σ ε α}
    (left : p → Preserves P x) (right : ¬ p → Preserves P y) :
    Preserves P (if p then x else y) := by
  by_cases holds : p
  · rw [if_pos holds]
    exact left holds
  · rw [if_neg holds]
    exact right holds

end Keeps

/-! ## Returned values -/

section Yields
variable {σ τ ε δ α β : Type}

/-- Every value that a run of `x` returns has the property. -/
def Yields (P : α → Prop) (x : Program σ ε α) : Prop :=
  ∀ s, Post x s (fun r _ => ∀ a, r = .ok a → P a)

theorem yields_pure {P : α → Prop} {a : α} (holds : P a) : Yields P (pure a : Program σ ε α) := by
  intro s
  rw [post_pure]
  intro b same
  rwa [← Except.ok.inj same]

theorem yields_throw (P : α → Prop) (e : ε) : Yields P (throw e : Program σ ε α) := by
  intro s
  rw [post_throw]
  intro a same
  cases same

theorem yields_liftResult {P : α → Prop} {r : Except ε α} (holds : ∀ a, r = .ok a → P a) :
    Yields P (liftResult r : Program σ ε α) := by
  intro s
  rw [post_liftResult]
  exact holds

theorem Yields.bind {P : β → Prop} {Q : α → Prop} {x : Program σ ε α} {f : α → Program σ ε β}
    (first : Yields Q x) (second : ∀ a, Q a → Yields P (f a)) : Yields P (x >>= f) := by
  intro s
  rw [post_bind]
  refine (first s).mono ?_
  intro r t holds
  cases r with
  | ok a => exact second a (holds a rfl) t
  | error e =>
      intro b same
      cases same

/-- The last step of a program returns its value. -/
theorem yields_bind {P : β → Prop} {x : Program σ ε α} {f : α → Program σ ε β}
    (rest : ∀ a, Yields P (f a)) : Yields P (x >>= f) :=
  Yields.bind (Q := fun _ => True) (fun _ => ⟨fun _ _ => trivial⟩) fun a _ => rest a

theorem yields_ite {P : α → Prop} {p : Prop} [Decidable p] {x y : Program σ ε α}
    (left : p → Yields P x) (right : ¬ p → Yields P y) : Yields P (if p then x else y) := by
  by_cases holds : p
  · rw [if_pos holds]
    exact left holds
  · rw [if_neg holds]
    exact right holds

end Yields

end Foundation
