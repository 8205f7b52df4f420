import Mathlib.Data.List.GetD
import Nrf7002.Foundation.Bytes

/-! # Byte-addressed memory

A memory gives a byte for every address.  A store changes a run of bytes and nothing
else; a fetch reads one. -/

set_option autoImplicit false

namespace Foundation

abbrev ByteMemory := Nat → UInt8

namespace ByteMemory

def store (memory : ByteMemory) (first : Nat) (bytes : Bytes) : ByteMemory := fun address =>
  if first ≤ address then bytes.getD (address - first) (memory address) else memory address

def fetch (memory : ByteMemory) (first count : Nat) : Bytes :=
  (List.range count).map fun index => memory (first + index)

section Memory
variable {memory other : ByteMemory} {first count : Nat} {bytes : Bytes}

theorem store_inside {address : Nat} (lower : first ≤ address)
    (upper : address - first < bytes.length) :
    memory.store first bytes address = bytes[address - first] := by
  rw [store, if_pos lower, List.getD_eq_getElem _ _ upper]

theorem store_outside {address : Nat}
    (outside : address < first ∨ first + bytes.length ≤ address) :
    memory.store first bytes address = memory address := by
  rw [store]
  split
  · rw [List.getD_eq_default _ _ (by omega)]
  · rfl

@[simp] theorem store_nil : memory.store first [] = memory := by
  funext address
  exact store_outside (by simp; omega)

/-- Two stores side by side are one store. -/
theorem store_store (left right : Bytes) :
    (memory.store first left).store (first + left.length) right =
      memory.store first (left ++ right) := by
  funext address
  by_cases inLeft : first ≤ address ∧ address < first + left.length
  · rw [store_outside (.inl inLeft.2), store_inside inLeft.1 (by omega),
      store_inside inLeft.1 (by simp; omega), List.getElem_append_left]
  · by_cases inRight : first + left.length ≤ address ∧
        address < first + left.length + right.length
    · rw [store_inside inRight.1 (by omega), store_inside (by omega) (by simp; omega),
        List.getElem_append_right (by omega)]
      congr 1
      omega
    · rw [store_outside (by omega), store_outside (by omega),
        store_outside (by rw [List.length_append]; omega)]

theorem store_take_drop (count : Nat) :
    (memory.store first (bytes.take count)).store (first + count) (bytes.drop count) =
      memory.store first bytes := by
  rcases Nat.le_total count bytes.length with shorter | covered
  · have same : count = (bytes.take count).length := (List.length_take_of_le shorter).symm
    calc
      (memory.store first (bytes.take count)).store (first + count) (bytes.drop count)
        = (memory.store first (bytes.take count)).store (first + (bytes.take count).length)
            (bytes.drop count) := by rw [← same]
      _ = memory.store first (bytes.take count ++ bytes.drop count) := store_store _ _
      _ = memory.store first bytes := by rw [List.take_append_drop]
  · rw [List.take_of_length_le covered, List.drop_of_length_le covered, store_nil]

@[simp] theorem length_fetch : (memory.fetch first count).length = count := by
  simp [fetch]

@[simp] theorem fetch_zero : memory.fetch first 0 = [] := rfl

theorem getElem_fetch {index : Nat} (inside : index < (memory.fetch first count).length) :
    (memory.fetch first count)[index] = memory (first + index) := by
  simp [fetch]

theorem fetch_add (left right : Nat) :
    memory.fetch first (left + right) =
      memory.fetch first left ++ memory.fetch (first + left) right := by
  simp [fetch, List.range_add, Nat.add_assoc, Function.comp_def]

theorem take_fetch (shorter : Nat) (fewer : shorter ≤ count) :
    (memory.fetch first count).take shorter = memory.fetch first shorter := by
  obtain ⟨rest, rfl⟩ := Nat.exists_eq_add_of_le fewer
  rw [fetch_add, List.take_left' length_fetch]

theorem fetch_congr (same : ∀ address, first ≤ address → address < first + count →
    memory address = other address) : memory.fetch first count = other.fetch first count := by
  rw [fetch, fetch, List.map_inj_left]
  intro index member
  rw [List.mem_range] at member
  exact same _ (by omega) (by omega)

/-- What a store left is what a fetch of the same bytes finds. -/
theorem fetch_store : (memory.store first bytes).fetch first bytes.length = bytes := by
  apply List.ext_getElem
  · exact length_fetch
  · intro index left right
    rw [getElem_fetch, store_inside (by omega) (by omega)]
    congr 1
    omega

theorem fetch_store_outside {start : Nat}
    (outside : start + count ≤ first ∨ first + bytes.length ≤ start) :
    (memory.store first bytes).fetch start count = memory.fetch start count := by
  apply fetch_congr
  intro address lower upper
  exact store_outside (by omega)

theorem fetch_store_take (few : count ≤ bytes.length) :
    (memory.store first bytes).fetch first count = bytes.take count := by
  rw [← take_fetch count few, fetch_store]

/-- A store of as many bytes covers the one before. -/
theorem store_over {others : Bytes} (sized : others.length = bytes.length) :
    (memory.store first bytes).store first others = memory.store first others := by
  funext address
  by_cases inside : first ≤ address ∧ address < first + others.length
  · rw [store_inside inside.1 (by omega), store_inside inside.1 (by omega)]
  · rw [store_outside (by omega), store_outside (by omega), store_outside (by omega)]

/-- What was fetched is stored without a change. -/
theorem store_fetch : memory.store first (memory.fetch first count) = memory := by
  funext address
  by_cases inside : first ≤ address ∧ address < first + count
  · rw [store_inside inside.1 (by rw [length_fetch]; omega), getElem_fetch]
    congr 1
    omega
  · rw [store_outside (by rw [length_fetch]; omega)]

theorem fetch_eq_iff (sized : bytes.length = count) : memory.fetch first count = bytes ↔
    ∀ index, index < count → bytes[index]? = some (memory (first + index)) := by
  constructor
  · intro same index below
    rw [← same, List.getElem?_eq_getElem (by rw [length_fetch]; exact below), getElem_fetch]
  · intro same
    apply List.ext_getElem?
    intro index
    by_cases below : index < count
    · rw [same index below, List.getElem?_eq_getElem (by rw [length_fetch]; exact below),
        getElem_fetch]
    · rw [List.getElem?_eq_none (by rw [length_fetch]; omega),
        List.getElem?_eq_none (by omega)]

theorem getElem?_of_store (memory : ByteMemory) (first : Nat) {index address : Nat}
    (place : address = first + index) (inside : index < bytes.length) :
    bytes[index]? = some (memory.store first bytes address) := by
  have same : address - first = index := by omega
  rw [store_inside (by omega) (by omega), List.getElem?_eq_getElem inside]
  simp only [same]

/-- A later store spares an earlier one exactly where it agrees with it. -/
theorem fetch_store_store_iff (memory : ByteMemory) {second gap : Nat} {left right : Bytes}
    (apart : first = second + gap) (few : count ≤ left.length) :
    ((memory.store first left).store second right).fetch first count = left.take count ↔
      ∀ index, index < count → gap + index < right.length →
        right[gap + index]? = left[index]? := by
  rw [fetch_eq_iff (List.length_take_of_le few)]
  apply forall_congr'
  intro index
  apply imp_congr_right
  intro below
  have earlier : left[index]? = some (memory.store first left (first + index)) :=
    getElem?_of_store memory first rfl (by omega)
  rw [List.getElem?_take_of_lt below]
  by_cases inside : gap + index < right.length
  · have place : first + index = second + (gap + index) := by omega
    rw [getElem?_of_store (memory.store first left) second place inside]
    constructor
    · intro same _
      exact same.symm
    · intro same
      exact (same inside).symm
  · rw [store_outside (by omega), earlier]
    constructor
    · intro _ reached
      exact absurd reached inside
    · intro _
      rfl

/-! ## Filling a buffer from its front -/

/-- The buffer once everything from `start` on is fetched. -/
def filled (memory : ByteMemory) (first : Nat) (data : Bytes) (start : Nat) : Bytes :=
  data.take start ++ memory.fetch (first + start) (data.length - start)

theorem filled_zero (data : Bytes) :
    memory.filled first data 0 = memory.fetch first data.length := by
  simp [filled]

theorem filled_end {data : Bytes} {start : Nat} (ended : data.length ≤ start) :
    memory.filled first data start = data := by
  rw [filled, Nat.sub_eq_zero_of_le ended, fetch_zero, List.append_nil,
    List.take_of_length_le ended]

/-- Fetching one part leaves the rest to do; the last part may be short. -/
theorem filled_splice (memory : ByteMemory) (first : Nat) {data : Bytes}
    {start stop next : Nat} (ordered : start ≤ stop) (inside : stop ≤ data.length)
    (reach : next = stop ∨ stop = data.length ∧ data.length ≤ next) :
    memory.filled first (splice data start (memory.fetch (first + start) (stop - start))) next =
      memory.filled first data start := by
  have ends : start + (memory.fetch (first + start) (stop - start)).length = stop := by
    rw [length_fetch]
    omega
  have length := length_splice (by rw [ends]; exact inside)
  have front := take_splice (by rw [ends]; exact inside)
  rw [ends] at front
  have split : data.length - start = (stop - start) + (data.length - stop) := by
    omega
  have whole : memory.filled first data start =
      (splice data start (memory.fetch (first + start) (stop - start))).take stop ++
        memory.fetch (first + stop) (data.length - stop) := by
    rw [front, filled, split, fetch_add, ← List.append_assoc]
    congr 2
    omega
  rw [whole]
  cases reach with
  | inl same => rw [filled, length, same]
  | inr last =>
      obtain ⟨same, ended⟩ := last
      have covered := Nat.le_of_eq (length.trans same.symm)
      rw [filled_end (by rw [length]; exact ended), List.take_of_length_le covered, ← same,
        Nat.sub_self, fetch_zero, List.append_nil]

end Memory

end ByteMemory

end Foundation
