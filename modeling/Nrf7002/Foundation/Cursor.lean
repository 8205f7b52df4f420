import Nrf7002.Foundation.Bytes
import Nrf7002.Foundation.Program

/-! # Parsers on an offset

The state of such a parser is its offset into an input that does not change.  Its grammar
is a relation between the input that is left before and after it, and the value in between;
the grammar of a program is put together from those of its steps. -/

set_option autoImplicit false

namespace Foundation

section Cursor
variable {γ ε α β : Type}

/-- On every offset inside the input the parser returns exactly what its grammar allows. -/
structure Recognizes (input : List γ) (x : Program Nat ε α)
    (grammar : List γ → α → List γ → Prop) : Prop where
  suffix : ∀ {before : List γ} {a : α} {after : List γ}, grammar before a after → after <:+ before
  exact : ∀ {offset : Nat}, offset ≤ input.length → ∀ (a : α) (stop : Nat),
    Returns x offset a stop ↔
      stop ≤ input.length ∧ grammar (input.drop offset) a (input.drop stop)

variable {input : List γ}

/-- What is left tells the offset. -/
theorem drop_inj {left right : Nat} (first : left ≤ input.length) (second : right ≤ input.length) :
    input.drop left = input.drop right ↔ left = right := by
  constructor
  · intro same
    have length := congrArg List.length same
    rw [List.length_drop, List.length_drop] at length
    omega
  · intro same
    rw [same]

/-- A suffix of what is left is what is left at a later offset. -/
theorem exists_drop {offset : Nat} {after : List γ} (behind : after <:+ input.drop offset) :
    ∃ stop, stop ≤ input.length ∧ after = input.drop stop := by
  obtain ⟨front, split⟩ := behind.trans (List.drop_suffix offset input)
  refine ⟨front.length, ?_, ?_⟩
  · rw [← split, List.length_append]
    omega
  · rw [← split, List.drop_left]

theorem recognizes_pure (a : α) :
    Recognizes input (pure a : Program Nat ε α) fun before value after =>
      value = a ∧ after = before where
  suffix := by
    intro before value after same
    obtain ⟨_, rfl⟩ := same
    exact List.suffix_refl _
  exact := by
    intro offset inside value stop
    rw [returns_pure]
    constructor
    · rintro ⟨rfl, rfl⟩
      exact ⟨inside, rfl, rfl⟩
    · rintro ⟨small, rfl, same⟩
      exact ⟨rfl, ((drop_inj small inside).mp same).symm⟩

theorem recognizes_throw (failure : ε) :
    Recognizes input (throw failure : Program Nat ε α) fun _ _ _ => False where
  suffix := False.elim
  exact := by
    intro offset inside value stop
    exact iff_of_false not_returns_throw fun allowed => allowed.2

theorem Recognizes.bind {x : Program Nat ε α} {f : α → Program Nat ε β}
    {first : List γ → α → List γ → Prop} {rest : α → List γ → β → List γ → Prop}
    (head : Recognizes input x first) (tail : ∀ a, Recognizes input (f a) (rest a)) :
    Recognizes input (x >>= f) fun before b after =>
      ∃ a middle, first before a middle ∧ rest a middle b after where
  suffix := by
    intro before b after ⟨a, middle, front, back⟩
    exact ((tail a).suffix back).trans (head.suffix front)
  exact := by
    intro offset inside b stop
    rw [returns_bind]
    constructor
    · intro ⟨a, middle, front, back⟩
      obtain ⟨within, allowed⟩ := (head.exact inside a middle).mp front
      obtain ⟨small, ends⟩ := ((tail a).exact within b stop).mp back
      exact ⟨small, a, _, allowed, ends⟩
    · intro ⟨small, a, middle, front, back⟩
      obtain ⟨reached, within, rfl⟩ := exists_drop (head.suffix front)
      exact ⟨a, reached, (head.exact inside a reached).mpr ⟨within, front⟩,
        ((tail a).exact within b stop).mpr ⟨small, back⟩⟩

theorem recognizes_ite {p : Prop} [Decidable p] {x y : Program Nat ε α}
    {left right : List γ → α → List γ → Prop} (yes : Recognizes input x left)
    (no : Recognizes input y right) :
    Recognizes input (if p then x else y) fun before a after =>
      p ∧ left before a after ∨ ¬ p ∧ right before a after := by
  by_cases holds : p
  · simpa [holds] using yes
  · simpa [holds] using no

/-- A check that refuses the input. -/
theorem recognizes_check {p : Prop} [Decidable p] {failure : ε} {f : α → Program Nat ε β}
    {y : Program Nat ε β} {grammar : List γ → β → List γ → Prop}
    (accepted : Recognizes input y grammar) :
    Recognizes input (if p then throw failure >>= f else y) fun before b after =>
      ¬ p ∧ grammar before b after := by
  have refused : (throw failure >>= f : Program Nat ε β) = throw failure := rfl
  rw [refused]
  by_cases holds : p
  · simpa [holds] using recognizes_throw failure
  · simpa [holds] using accepted

/-- The test whether the input is used up. -/
theorem recognizes_atEnd {x y : Program Nat ε α} {left right : List γ → α → List γ → Prop}
    (yes : Recognizes input x left) (no : Recognizes input y right) :
    Recognizes input (get >>= fun offset => if offset = input.length then x else y)
      fun before a after =>
        before = [] ∧ left before a after ∨ before ≠ [] ∧ right before a after where
  suffix := by
    intro before a after allowed
    rcases allowed with ⟨_, allowed⟩ | ⟨_, allowed⟩
    · exact yes.suffix allowed
    · exact no.suffix allowed
  exact := by
    intro offset inside a stop
    have used : input.drop offset = [] ↔ offset = input.length := by
      rw [List.drop_eq_nil_iff]
      omega
    rw [returns_get_bind, ne_eq, used]
    by_cases done : offset = input.length
    · simpa [done] using yes.exact (Nat.le_of_eq done) a stop
    · simpa [done] using no.exact inside a stop

theorem Recognizes.congr {x : Program Nat ε α} {grammar other : List γ → α → List γ → Prop}
    (recognizes : Recognizes input x grammar)
    (same : ∀ before a after, grammar before a after ↔ other before a after) :
    Recognizes input x other where
  suffix := by
    intro before a after allowed
    exact recognizes.suffix ((same before a after).mpr allowed)
  exact := by
    intro offset inside a stop
    rw [recognizes.exact inside, same]

/-- The whole input, from its first element on. -/
theorem Recognizes.result {x : Program Nat ε α} {grammar : List γ → α → List γ → Prop}
    (recognizes : Recognizes input x grammar) (a : α) :
    resultOf x 0 = .ok a ↔ ∃ after, grammar input a after := by
  have returned : resultOf x 0 = .ok a ↔ ∃ stop, Returns x 0 a stop := by
    constructor
    · intro result
      exact ⟨_, result, rfl⟩
    · intro ⟨_, result, _⟩
      exact result
  rw [returned]
  constructor
  · intro ⟨stop, returns⟩
    exact ⟨_, ((recognizes.exact (Nat.zero_le _) a stop).mp returns).2⟩
  · intro ⟨after, allowed⟩
    obtain ⟨stop, inside, rfl⟩ := exists_drop (show after <:+ input.drop 0 from recognizes.suffix allowed)
    exact ⟨stop, (recognizes.exact (Nat.zero_le _) a stop).mpr ⟨inside, allowed⟩⟩

end Cursor

end Foundation
