import Nrf7002.Foundation.Bytes

/-! # Computations that may panic

An index or a range outside its slice, and an addition or product beyond the word,
stop the program.  `Checked` is a computation with that third ending next to a value
and an error; `Safe x r` says that `x` does not stop and ends in `r`. -/

set_option autoImplicit false

namespace Foundation

/-- No ending at all is a panic. -/
abbrev Checked (ε α : Type) := ExceptT ε Option α

namespace Checked
variable {ε : Type}

def panicked {α : Type} : Checked ε α := (none : Option (Except ε α))

/-- A result that was computed without a panic. -/
def ofResult {α : Type} (result : Except ε α) : Checked ε α := some result

/-- `bytes[index]`. -/
def byte (bytes : Bytes) (index : Nat) : Checked ε UInt8 :=
  match bytes[index]? with
  | some value => pure value
  | none => panicked

/-- `&bytes[first..last]`. -/
def range (bytes : Bytes) (first last : Nat) : Checked ε Bytes :=
  if first ≤ last ∧ last ≤ bytes.length then pure (slice bytes first last) else panicked

/-- `left + right` on words below `limit`. -/
def add (limit left right : Nat) : Checked ε Nat :=
  if left + right < limit then pure (left + right) else panicked

/-- `left - right`. -/
def sub (left right : Nat) : Checked ε Nat :=
  if right ≤ left then pure (left - right) else panicked

/-- `left * right` on words below `limit`. -/
def mul (limit left right : Nat) : Checked ε Nat :=
  if left * right < limit then pure (left * right) else panicked

/-- `checked_add`, whose overflow is an error of the program. -/
def addOr (limit : Nat) (failure : ε) (left right : Nat) : Checked ε Nat :=
  if left + right < limit then pure (left + right) else throw failure

def mulOr (limit : Nat) (failure : ε) (left right : Nat) : Checked ε Nat :=
  if left * right < limit then pure (left * right) else throw failure

/-- The bytes at `offset`, `offset + 1` and so on, indexed one by one. -/
def bytesAt (limit : Nat) (bytes : Bytes) (offset : Nat) : Nat → Checked ε Bytes
  | 0 => pure []
  | count + 1 => do
      let front ← bytesAt limit bytes offset count
      let index ← add limit offset count
      let last ← byte bytes index
      return front ++ [last]

end Checked

section Safe
variable {ε α β : Type}

def Safe (x : Checked ε α) (result : Except ε α) : Prop := x.run = some result

theorem Safe.bind {x : Checked ε α} {f : α → Checked ε β} {result : Except ε α}
    {g : α → Except ε β} (first : Safe x result)
    (rest : ∀ a, result = .ok a → Safe (f a) (g a)) : Safe (x >>= f) (result >>= g) := by
  rw [Safe, ExceptT.run_bind, first]
  cases result with
  | error failure => rfl
  | ok a => exact rest a rfl

/-- A step that always has a value. -/
theorem Safe.then {x : Checked ε α} {f : α → Checked ε β} {a : α} {result : Except ε β}
    (first : Safe x (.ok a)) (rest : Safe (f a) result) : Safe (x >>= f) result := by
  rw [Safe, ExceptT.run_bind, first]
  exact rest

/-- A step that fails ends the computation. -/
theorem Safe.fails {x : Checked ε α} {f : α → Checked ε β} {failure : ε}
    (first : Safe x (.error failure)) : Safe (x >>= f) (.error failure) := by
  rw [Safe, ExceptT.run_bind, first]
  rfl

theorem safe_pure (a : α) : Safe (pure a : Checked ε α) (.ok a) := rfl

theorem safe_throw (failure : ε) : Safe (throw failure : Checked ε α) (.error failure) := rfl

theorem safe_ofResult (result : Except ε α) : Safe (Checked.ofResult result) result := rfl

theorem safe_ite {p : Prop} [Decidable p] {x y : Checked ε α} {left right : Except ε α}
    (yes : p → Safe x left) (no : ¬ p → Safe y right) :
    Safe (if p then x else y) (if p then left else right) := by
  by_cases holds : p
  · rw [if_pos holds, if_pos holds]
    exact yes holds
  · rw [if_neg holds, if_neg holds]
    exact no holds

theorem safe_byte {bytes : Bytes} {index : Nat} (inside : index < bytes.length) :
    Safe (Checked.byte bytes index : Checked ε UInt8) (.ok (bytes.getD index 0)) := by
  rw [Checked.byte, List.getD_eq_getElem?_getD, List.getElem?_eq_getElem inside]
  rfl

/-- The byte as the list gives it. -/
theorem safe_byte_get {bytes : Bytes} {index : Nat} (inside : index < bytes.length) :
    Safe (Checked.byte bytes index : Checked ε UInt8) (.ok bytes[index]) := by
  rw [Checked.byte, List.getElem?_eq_getElem inside]
  rfl

theorem safe_range {bytes : Bytes} {first last : Nat} (order : first ≤ last)
    (inside : last ≤ bytes.length) :
    Safe (Checked.range bytes first last : Checked ε Bytes) (.ok (slice bytes first last)) := by
  rw [Checked.range, if_pos ⟨order, inside⟩]
  rfl

theorem safe_add {limit left right : Nat} (small : left + right < limit) :
    Safe (Checked.add limit left right : Checked ε Nat) (.ok (left + right)) := by
  rw [Checked.add, if_pos small]
  rfl

theorem safe_sub {left right : Nat} (order : right ≤ left) :
    Safe (Checked.sub left right : Checked ε Nat) (.ok (left - right)) := by
  rw [Checked.sub, if_pos order]
  rfl

theorem safe_mul {limit left right : Nat} (small : left * right < limit) :
    Safe (Checked.mul limit left right : Checked ε Nat) (.ok (left * right)) := by
  rw [Checked.mul, if_pos small]
  rfl

/-- A value that is only wrapped up does not matter. -/
theorem safe_map_iff {x : Checked ε α} {f : α → β} {a : α} (injective : Function.Injective f) :
    Safe (x >>= fun value => pure (f value)) (.ok (f a)) ↔ Safe x (.ok a) := by
  rw [Safe, Safe, ExceptT.run_bind]
  cases x.run with
  | none => exact iff_of_false nofun nofun
  | some result =>
      cases result with
      | error failure => exact iff_of_false nofun nofun
      | ok value =>
          change some (Except.ok (f value)) = some (.ok (f a)) ↔ _
          rw [Option.some.injEq, Option.some.injEq, Except.ok.injEq, Except.ok.injEq,
            injective.eq_iff]

/-- A sum goes on exactly where it fits into the word. -/
theorem safe_add_bind_iff {limit left right : Nat} {f : Nat → Checked ε α}
    {result : Except ε α} : Safe (Checked.add limit left right >>= f) result ↔
      left + right < limit ∧ Safe (f (left + right)) result := by
  by_cases small : left + right < limit
  · rw [Checked.add, if_pos small, pure_bind, and_iff_right small]
  · rw [Checked.add, if_neg small]
    exact iff_of_false (fun safe => by cases safe) fun both => small both.1

theorem safe_mul_bind_iff {limit left right : Nat} {f : Nat → Checked ε α}
    {result : Except ε α} : Safe (Checked.mul limit left right >>= f) result ↔
      left * right < limit ∧ Safe (f (left * right)) result := by
  by_cases small : left * right < limit
  · rw [Checked.mul, if_pos small, pure_bind, and_iff_right small]
  · rw [Checked.mul, if_neg small]
    exact iff_of_false (fun safe => by cases safe) fun both => small both.1

/-- An overflow that is an error of the program has to be the error of the result. -/
theorem safe_addOr {limit left right : Nat} {failure : ε} {f : Nat → Checked ε α}
    {result : Except ε α} (rest : left + right < limit → Safe (f (left + right)) result)
    (excess : limit ≤ left + right → result = .error failure) :
    Safe (Checked.addOr limit failure left right >>= f) result := by
  by_cases small : left + right < limit
  · rw [Checked.addOr, if_pos small]
    exact Safe.then (safe_pure _) (rest small)
  · rw [Checked.addOr, if_neg small, excess (Nat.not_lt.mp small)]
    exact Safe.fails (safe_throw failure)

theorem safe_mulOr {limit left right : Nat} {failure : ε} {f : Nat → Checked ε α}
    {result : Except ε α} (rest : left * right < limit → Safe (f (left * right)) result)
    (excess : limit ≤ left * right → result = .error failure) :
    Safe (Checked.mulOr limit failure left right >>= f) result := by
  by_cases small : left * right < limit
  · rw [Checked.mulOr, if_pos small]
    exact Safe.then (safe_pure _) (rest small)
  · rw [Checked.mulOr, if_neg small, excess (Nat.not_lt.mp small)]
    exact Safe.fails (safe_throw failure)

theorem slice_succ {bytes : Bytes} {offset count : Nat} (inside : offset + count < bytes.length) :
    slice bytes offset (offset + (count + 1)) =
      slice bytes offset (offset + count) ++ [bytes.getD (offset + count) 0] := by
  rw [slice, slice, Nat.add_sub_cancel_left, Nat.add_sub_cancel_left, List.take_add_one,
    List.getElem?_drop, List.getD_eq_getElem?_getD, List.getElem?_eq_getElem inside]
  rfl

theorem safe_bytesAt {limit : Nat} {bytes : Bytes} {offset count : Nat}
    (inside : offset + count ≤ bytes.length) (small : offset + count ≤ limit) :
    Safe (Checked.bytesAt limit bytes offset count : Checked ε Bytes)
      (.ok (slice bytes offset (offset + count))) := by
  induction count with
  | zero =>
      rw [Nat.add_zero, slice, Nat.sub_self, List.take_zero]
      rfl
  | succ count hypothesis =>
      rw [Checked.bytesAt, slice_succ (by omega)]
      apply Safe.then (hypothesis (by omega) (by omega))
      apply Safe.then (safe_add (by omega))
      apply Safe.then (safe_byte (by omega))
      exact safe_pure _

end Safe

/-! ## Parts of a slice -/

/-- The part lies inside the whole. -/
def SubSlice (part whole : Bytes) : Prop :=
  ∃ first last, first ≤ last ∧ last ≤ whole.length ∧ part = slice whole first last

theorem subSlice_slice {whole : Bytes} {first last : Nat} (order : first ≤ last)
    (inside : last ≤ whole.length) : SubSlice (slice whole first last) whole :=
  ⟨first, last, order, inside, rfl⟩

theorem slice_slice {whole : Bytes} {first last inner outer : Nat} (inside : outer ≤ last - first) :
    slice (slice whole first last) inner outer = slice whole (first + inner) (first + outer) := by
  rw [slice, slice, slice, List.drop_take, List.drop_drop, List.take_take]
  congr 1
  omega

theorem SubSlice.trans {part middle whole : Bytes} (inner : SubSlice part middle)
    (outer : SubSlice middle whole) : SubSlice part whole := by
  obtain ⟨first, last, order, inside, rfl⟩ := inner
  obtain ⟨start, stop, ordered, within, rfl⟩ := outer
  rw [length_slice_of_le within] at inside
  exact ⟨start + first, start + last, by omega, by omega, slice_slice inside⟩

end Foundation
