import Mathlib.Algebra.BigOperators.Group.Multiset.Basic
import Mathlib.Data.Nat.Basic

/-! # Threads over a shared state

A thread is a program of atomic accesses to a state that other threads use as well.
Between two accesses of one thread any other may run.  Every thread owns a share of some
resource, and an invariant ties the state to the sum of all shares.  A thread `Obeys` its
share when each of its accesses keeps the invariant, whatever the others hold; then the
invariant holds in every interleaving. -/

set_option autoImplicit false

namespace Foundation

section Programs
variable {A : Type} {Answer : A → Type} {α β γ : Type}

inductive Thread {A : Type} (Answer : A → Type) (α : Type) where
  | done (value : α)
  | act (access : A) (next : Answer access → Thread Answer α)

namespace Thread

def bind : Thread Answer α → (α → Thread Answer β) → Thread Answer β
  | .done value, f => f value
  | .act access next, f => .act access fun answer => (next answer).bind f

instance instMonadThread : Monad (Thread Answer) where
  pure := .done
  bind := bind

/-- The thread of one access. -/
def perform (access : A) : Thread Answer (Answer access) := .act access .done

/-- The next access of a thread. -/
def next : Thread Answer α → Option A
  | .done _ => none
  | .act access _ => some access

section Semantics
variable {σ : Type} (apply : (access : A) → σ → Answer access × σ)

/-- A thread takes its next access; one that is done does nothing. -/
def advance : Thread Answer α → σ → Thread Answer α × σ
  | .done value, state => (.done value, state)
  | .act access next, state => (next (apply access state).1, (apply access state).2)

/-- The run of a thread that nobody disturbs. -/
def alone : Thread Answer α → σ → α × σ
  | .done value, state => (value, state)
  | .act access next, state => (next (apply access state).1).alone (apply access state).2

@[simp] theorem alone_pure (value : α) (state : σ) :
    alone apply (pure value : Thread Answer α) state = (value, state) := rfl

@[simp] theorem alone_perform (access : A) (state : σ) :
    alone apply (perform access : Thread Answer (Answer access)) state = apply access state := rfl

@[simp] theorem alone_bind (thread : Thread Answer α) (f : α → Thread Answer β) (state : σ) :
    alone apply (thread >>= f) state =
      alone apply (f (thread.alone apply state).1) (thread.alone apply state).2 := by
  induction thread generalizing state with
  | done value => rfl
  | act access next hypothesis => exact hypothesis (apply access state).1 (apply access state).2

@[simp] theorem alone_ite (p : Prop) [Decidable p] (left right : Thread Answer α) (state : σ) :
    alone apply (if p then left else right) state =
      if p then left.alone apply state else right.alone apply state := by
  split <;> rfl

end Semantics

end Thread

end Programs

/-! ## Shares -/

/-- What threads may rely on: how an access acts on the state, the invariant of the state and
the sum of all shares, and the share that an access needs. -/
structure Sharing (σ : Type) {A : Type} (Answer : A → Type) (H : Type) [AddCommMonoid H] where
  apply : (access : A) → σ → Answer access × σ
  Invariant : σ → H → Prop
  Needs : A → H → Prop
  needs_add : ∀ access share frame, Needs access share → Needs access (share + frame)

namespace Sharing
variable {σ A H : Type} {Answer : A → Type} [AddCommMonoid H] (sharing : Sharing σ Answer H)
  {α β : Type}

/-- One access turns the share into one of the shares that its answer allows. -/
def Turns (access : A) (share : H) (Left : Answer access → H → Prop) : Prop :=
  sharing.Needs access share ∧ ∀ state others, sharing.Invariant state (share + others) →
    ∃ left, Left (sharing.apply access state).1 left ∧
      sharing.Invariant (sharing.apply access state).2 (left + others)

/-- Every access of the thread keeps the invariant, and the thread ends with a share that
the condition allows. -/
def Obeys : Thread Answer α → H → (α → H → Prop) → Prop
  | .done value, share, Ends => Ends value share
  | .act access next, share, Ends => sharing.Needs access share ∧
      ∀ state others, sharing.Invariant state (share + others) →
        ∃ left, sharing.Invariant (sharing.apply access state).2 (left + others) ∧
          Obeys (next (sharing.apply access state).1) left Ends

variable {sharing} {thread : Thread Answer α} {share : H} {Ends Later : α → H → Prop}

theorem Turns.obeys {access : A} {Left : Answer access → H → Prop}
    (turns : sharing.Turns access share Left) :
    sharing.Obeys (Thread.perform access) share Left := by
  refine ⟨turns.1, fun state others holds => ?_⟩
  obtain ⟨left, allowed, kept⟩ := turns.2 state others holds
  exact ⟨left, kept, allowed⟩

theorem Obeys.mono (obeys : sharing.Obeys thread share Ends)
    (weaker : ∀ value left, Ends value left → Later value left) :
    sharing.Obeys thread share Later := by
  induction thread generalizing share with
  | done value => exact weaker value share obeys
  | act access next hypothesis =>
      refine ⟨obeys.1, fun state others holds => ?_⟩
      obtain ⟨left, kept, rest⟩ := obeys.2 state others holds
      exact ⟨left, kept, hypothesis _ rest⟩

theorem Obeys.bind {f : α → Thread Answer β} {Last : β → H → Prop}
    (obeys : sharing.Obeys thread share Ends)
    (rest : ∀ value left, Ends value left → sharing.Obeys (f value) left Last) :
    sharing.Obeys (thread >>= f) share Last := by
  induction thread generalizing share with
  | done value => exact rest value share obeys
  | act access next hypothesis =>
      refine ⟨obeys.1, fun state others holds => ?_⟩
      obtain ⟨left, kept, later⟩ := obeys.2 state others holds
      exact ⟨left, kept, hypothesis _ later⟩

/-- A thread leaves alone what it is not told of. -/
theorem Obeys.frame (obeys : sharing.Obeys thread share Ends) (frame : H) :
    sharing.Obeys thread (share + frame) (fun value left =>
      ∃ own, left = own + frame ∧ Ends value own) := by
  induction thread generalizing share with
  | done value => exact ⟨share, rfl, obeys⟩
  | act access next hypothesis =>
      refine ⟨sharing.needs_add access share frame obeys.1, fun state others holds => ?_⟩
      rw [add_assoc] at holds
      obtain ⟨left, kept, rest⟩ := obeys.2 state (frame + others) holds
      refine ⟨left + frame, ?_, hypothesis _ rest⟩
      rw [add_assoc]
      exact kept

theorem obeys_ite {p : Prop} [Decidable p] {left right : Thread Answer α}
    (first : p → sharing.Obeys left share Ends) (second : ¬ p → sharing.Obeys right share Ends) :
    sharing.Obeys (if p then left else right) share Ends := by
  split
  · rename_i holds
    exact first holds
  · rename_i fails
    exact second fails

/-! ## Pools of threads -/

/-- The shares of the threads of a pool sum up to `total`. -/
inductive Holds (sharing : Sharing σ Answer H) (Ends : α → H → Prop) :
    List (Thread Answer α) → H → Prop
  | nil : Holds sharing Ends [] 0
  | cons (thread : Thread Answer α) (share : H) (threads : List (Thread Answer α)) (total : H)
      (obeys : sharing.Obeys thread share Ends) (rest : Holds sharing Ends threads total) :
      Holds sharing Ends (thread :: threads) (share + total)

variable {threads : List (Thread Answer α)} {total others : H} {index : Nat}

theorem Holds.append (holds : Holds sharing Ends threads total)
    (obeys : sharing.Obeys thread share Ends) :
    Holds sharing Ends (threads ++ [thread]) (total + share) := by
  induction holds with
  | nil =>
      rw [add_comm]
      exact .cons thread share [] 0 obeys .nil
  | cons first own threads total obeyed rest hypothesis =>
      rw [add_assoc]
      exact .cons first own _ _ obeyed hypothesis

/-- The share of one thread, taken out of the sum. -/
theorem Holds.split (holds : Holds sharing Ends threads total)
    (found : threads[index]? = some thread) :
    ∃ own rest, total = own + rest ∧ sharing.Obeys thread own Ends ∧
      Holds sharing Ends (threads.eraseIdx index) rest ∧
      ∀ next left, sharing.Obeys next left Ends →
        Holds sharing Ends (threads.set index next) (left + rest) := by
  induction holds generalizing index with
  | nil => cases found
  | cons first own threads total obeyed rest hypothesis =>
      cases index with
      | zero =>
          cases found
          exact ⟨own, total, rfl, obeyed, rest, fun next left obeys =>
            .cons next left threads total obeys rest⟩
      | succ index =>
          obtain ⟨mine, others, rfl, obeys, erased, replaced⟩ := hypothesis found
          refine ⟨mine, own + others, ?_, obeys, .cons first own _ others obeyed erased, ?_⟩
          · rw [← add_assoc, ← add_assoc, add_comm own mine]
          · intro next left turned
            rw [← add_assoc, add_comm left own, add_assoc]
            exact .cons first own _ _ obeyed (replaced next left turned)

/-- Any thread may go on. -/
theorem Holds.advance {state : σ} (holds : Holds sharing Ends threads total)
    (kept : sharing.Invariant state (total + others)) (found : threads[index]? = some thread) :
    ∃ next, Holds sharing Ends
        (threads.set index (thread.advance sharing.apply state).1) next ∧
      sharing.Invariant (thread.advance sharing.apply state).2 (next + others) := by
  obtain ⟨own, rest, rfl, obeys, _, replaced⟩ := holds.split found
  cases thread with
  | done value => exact ⟨own + rest, replaced _ own obeys, kept⟩
  | act access next =>
      rw [add_assoc] at kept
      obtain ⟨left, still, later⟩ := obeys.2 state (rest + others) kept
      refine ⟨left + rest, replaced _ left later, ?_⟩
      rw [add_assoc]
      exact still

/-- A measure of shares bounds the number of threads that are about to take an access of
some kind. -/
theorem Holds.countP_le (measure : H → Nat) {kind : A → Bool}
    (additive : ∀ left right, measure (left + right) = measure left + measure right)
    (counted : ∀ access share, kind access → sharing.Needs access share → 0 < measure share)
    (holds : Holds sharing Ends threads total) :
    threads.countP (fun thread => thread.next.any kind) ≤ measure total := by
  induction holds with
  | nil => simp
  | cons thread share threads total obeys rest hypothesis =>
      rw [List.countP_cons, additive]
      split
      · rename_i about
        cases thread with
        | done value => cases about
        | act access next =>
            have positive := counted access share about obeys.1
            omega
      · omega

end Sharing

/-! ## Lengths of threads -/

namespace Thread
variable {A : Type} {Answer : A → Type} {α β : Type}

/-- The thread takes at most so many accesses, whatever they answer. -/
def Within : Thread Answer α → Nat → Prop
  | .done _, _ => True
  | .act _ _, 0 => False
  | .act _ next, limit + 1 => ∀ answer, Within (next answer) limit

section Rules
variable {program left right : Thread Answer α} {limit more : Nat}

theorem within_pure (value : α) (limit : Nat) :
    Within (pure value : Thread Answer α) limit := by
  cases limit <;> exact trivial

theorem within_perform (access : A) :
    Within (perform access : Thread Answer (Answer access)) 1 :=
  fun answer => within_pure answer 0

theorem Within.mono (within : Within program limit) (most : limit ≤ more) :
    Within program more := by
  induction program generalizing limit more with
  | done value => exact within_pure value more
  | act access next hypothesis =>
      cases limit with
      | zero => exact within.elim
      | succ limit =>
          cases more with
          | zero => omega
          | succ more => exact fun answer => hypothesis answer (within answer) (by omega)

theorem Within.bind {f : α → Thread Answer β} (within : Within program limit)
    (rest : ∀ value, Within (f value) more) : Within (program >>= f) (more + limit) := by
  induction program generalizing limit with
  | done value => exact (rest value).mono (Nat.le_add_right more limit)
  | act access next hypothesis =>
      cases limit with
      | zero => exact within.elim
      | succ limit => exact fun answer => hypothesis answer (within answer)

theorem within_ite {p : Prop} [Decidable p] (first : Within left limit)
    (second : Within right limit) : Within (if p then left else right) limit := by
  split
  · exact first
  · exact second

end Rules

/-- The accesses that the threads may still take, and the end of each. -/
inductive Budget : List (Thread Answer α) → Nat → Prop
  | nil : Budget [] 0
  | cons (thread : Thread Answer α)
      (threads : List (Thread Answer α)) (limit total : Nat)
      (within : Within thread limit) (rest : Budget threads total) :
      Budget (thread :: threads) (limit + 1 + total)

section Budgets
variable {threads : List (Thread Answer α)}
  {thread : Thread Answer α} {limit total index : Nat}

theorem Budget.append (budget : Budget threads total) (within : Within thread limit) :
    Budget (threads ++ [thread]) (total + (limit + 1)) := by
  induction budget with
  | nil =>
      rw [Nat.add_comm]
      exact .cons thread [] limit 0 within .nil
  | cons first threads own total first_within rest hypothesis =>
      rw [Nat.add_assoc]
      exact .cons first _ own _ first_within hypothesis

/-- A thread that goes on uses up some of the budget. -/
theorem Budget.goes (budget : Budget threads total) (found : threads[index]? = some thread) :
    (∃ less, less < total ∧ Budget (threads.eraseIdx index) less) ∧
      ∀ access next, thread = .act access next → ∀ answer, ∃ less, less < total ∧
        Budget (threads.set index (next answer)) less := by
  induction budget generalizing index with
  | nil => cases found
  | cons first threads own total within rest hypothesis =>
      cases index with
      | zero =>
          cases found
          refine ⟨⟨total, by omega, rest⟩, ?_⟩
          rintro access next rfl answer
          cases own with
          | zero => exact within.elim
          | succ own => exact ⟨own + 1 + total, by omega, .cons _ _ own total (within answer) rest⟩
      | succ index =>
          obtain ⟨⟨less, fewer, erased⟩, goes⟩ := hypothesis found
          refine ⟨⟨own + 1 + less, by omega, .cons first _ own less within erased⟩, ?_⟩
          intro access next same answer
          obtain ⟨less, fewer, left⟩ := goes access next same answer
          exact ⟨own + 1 + less, by omega, .cons first _ own less within left⟩

end Budgets

end Thread

end Foundation
