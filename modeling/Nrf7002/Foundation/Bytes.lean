import Mathlib.Data.List.Basic
import Mathlib.Data.Nat.ModEq

/-! # Byte strings

Slices, in-place overwrites, fixed-width integers in both byte orders, and the
division of a byte string into chunks.  Every function is total: a slice that
leaves the byte string is cut short. -/

set_option autoImplicit false

namespace Foundation

abbrev Bytes := List UInt8

/-- A byte array whose length is part of its type. -/
abbrev Octets (n : Nat) := { bytes : Bytes // bytes.length = n }

def zeroOctets (n : Nat) : Octets n := ⟨List.replicate n 0, List.length_replicate⟩

/-! ## Slices -/

section Slices

def slice (bytes : Bytes) (first last : Nat) : Bytes := (bytes.drop first).take (last - first)

/-- Overwrites the bytes from `position` on. -/
def splice (bytes : Bytes) (position : Nat) (value : Bytes) : Bytes :=
  bytes.take position ++ value ++ bytes.drop (position + value.length)

theorem length_slice (bytes : Bytes) (first last : Nat) :
    (slice bytes first last).length = min (last - first) (bytes.length - first) := by
  simp [slice]

theorem length_slice_of_le {bytes : Bytes} {first last : Nat} (inside : last ≤ bytes.length) :
    (slice bytes first last).length = last - first := by
  rw [length_slice]
  omega

theorem length_splice {bytes value : Bytes} {position : Nat}
    (inside : position + value.length ≤ bytes.length) :
    (splice bytes position value).length = bytes.length := by
  simp [splice]
  omega

theorem take_splice {bytes value : Bytes} {position : Nat}
    (inside : position + value.length ≤ bytes.length) :
    (splice bytes position value).take (position + value.length) =
      bytes.take position ++ value := by
  have length : (bytes.take position ++ value).length = position + value.length := by
    simp
    omega
  rw [splice, ← length]
  exact List.take_left

theorem drop_splice {bytes value : Bytes} {position : Nat}
    (inside : position + value.length ≤ bytes.length) :
    (splice bytes position value).drop (position + value.length) =
      bytes.drop (position + value.length) := by
  have length : (bytes.take position ++ value).length = position + value.length := by
    simp
    omega
  have split : (splice bytes position value).drop (bytes.take position ++ value).length =
      bytes.drop (position + value.length) := by
    rw [splice]
    exact List.drop_left
  rwa [length] at split

theorem slice_append_left {front rest : Bytes} {first last : Nat}
    (inside : last ≤ front.length) : slice (front ++ rest) first last = slice front first last := by
  by_cases order : first ≤ last
  · rw [slice, slice, List.drop_append_of_le_length (by omega),
      List.take_append_of_le_length (by simp; omega)]
  · have empty : last - first = 0 := by omega
    simp [slice, empty]

theorem slice_append_right {front rest : Bytes} {first last : Nat}
    (outside : front.length ≤ first) :
    slice (front ++ rest) first last = slice rest (first - front.length) (last - front.length) := by
  rw [slice, slice, List.drop_append, List.drop_eq_nil_of_le outside, List.nil_append]
  congr 1
  omega

theorem slice_middle {front middle rest : Bytes} {first last : Nat}
    (starts : first = front.length) (ends : last = front.length + middle.length) :
    slice (front ++ (middle ++ rest)) first last = middle := by
  subst starts
  subst ends
  rw [slice_append_right (Nat.le_refl _), Nat.sub_self, Nat.add_sub_cancel_left]
  simp [slice]

theorem slice_append_slice {bytes : Bytes} {first middle last : Nat} (left : first ≤ middle)
    (right : middle ≤ last) :
    slice bytes first middle ++ slice bytes middle last = slice bytes first last := by
  have both : last - first = (middle - first) + (last - middle) := by omega
  have place : middle = first + (middle - first) := by omega
  rw [slice, slice, slice, both, List.take_add, List.drop_drop, ← place]

@[simp] theorem splice_nil (bytes : Bytes) (position : Nat) : splice bytes position [] = bytes := by
  simp [splice]

/-- Two overwrites side by side are one overwrite. -/
theorem splice_splice {bytes left : Bytes} {position next : Nat} (right : Bytes)
    (inside : position + left.length ≤ bytes.length) (beside : next = position + left.length) :
    splice (splice bytes position left) next right = splice bytes position (left ++ right) := by
  subst beside
  have front := take_splice inside
  have back : (splice bytes position left).drop (position + left.length + right.length) =
      bytes.drop (position + (left ++ right).length) := by
    rw [← List.drop_drop, drop_splice inside, List.drop_drop, List.length_append, Nat.add_assoc]
  rw [splice, front, back, splice]
  simp only [List.append_assoc]

/-- An overwrite of a slice is an overwrite of the whole. -/
theorem splice_slice {bytes value : Bytes} {first last position : Nat}
    (ordered : first + position + value.length ≤ last) (inside : last ≤ bytes.length) :
    splice bytes first (splice (slice bytes first last) position value) =
      splice bytes (first + position) value := by
  have length : (slice bytes first last).length = last - first := length_slice_of_le inside
  have size : (splice (slice bytes first last) position value).length = last - first := by
    rw [length_splice (by omega), length]
  have reach : first + (last - first) = last := by omega
  have front : bytes.take (first + position) =
      bytes.take first ++ (slice bytes first last).take position := by
    rw [slice, List.take_take, Nat.min_eq_left (by omega), List.take_add]
  have back : bytes.drop (first + position + value.length) =
      (slice bytes first last).drop (position + value.length) ++ bytes.drop last := by
    have split : (slice bytes first last).drop (position + value.length) =
        (bytes.drop (first + position + value.length)).take
          (last - (first + position + value.length)) := by
      have place : first + (position + value.length) = first + position + value.length := by omega
      have count : last - first - (position + value.length) =
          last - (first + position + value.length) := by omega
      rw [slice, List.drop_take, List.drop_drop, place, count]
    have rest : bytes.drop last = (bytes.drop (first + position + value.length)).drop
        (last - (first + position + value.length)) := by
      rw [List.drop_drop]
      congr 1
      omega
    rw [split, rest, List.take_append_drop]
  rw [splice, size, reach, splice, splice, front, back]
  simp only [List.append_assoc]

/-- A slice that is one part of a byte string written in parts. -/
theorem slice_part {parts : List Bytes} {part : Bytes} {index first last : Nat}
    (present : parts[index]? = some part)
    (starts : ((parts.map List.length).take index).sum = first)
    (ends : last = first + part.length) : slice parts.flatten first last = part := by
  rw [← List.map_take] at starts
  have inside : index < parts.length := by
    by_contra outside
    rw [List.getElem?_eq_none (by omega)] at present
    exact absurd present (by simp)
  have split : parts.flatten =
      (parts.take index).flatten ++ (part ++ (parts.drop (index + 1)).flatten) := by
    have found : parts[index] = part := by
      rw [List.getElem?_eq_getElem inside] at present
      exact Option.some.inj present
    rw [← List.flatten_cons, ← found, ← List.drop_eq_getElem_cons inside, ← List.flatten_append,
      List.take_append_drop]
  rw [split]
  refine slice_middle ?_ ?_
  · rw [List.length_flatten, starts]
  · rw [List.length_flatten, starts, ends]

/-- The `width` bytes from `offset` on, with zeros past the end. -/
def octetsAt (bytes : Bytes) (offset width : Nat) : Octets width :=
  ⟨slice (bytes ++ List.replicate (offset + width) 0) offset (offset + width), by
    rw [length_slice_of_le (by simp)]
    omega⟩

theorem octetsAt_eq_slice {bytes : Bytes} {offset width : Nat}
    (inside : offset + width ≤ bytes.length) :
    (octetsAt bytes offset width).1 = slice bytes offset (offset + width) :=
  slice_append_left inside

theorem slice_to_end (bytes : Bytes) (first : Nat) :
    slice bytes first bytes.length = bytes.drop first := by
  rw [slice, List.take_of_length_le (by rw [List.length_drop])]

theorem slice_all {bytes : Bytes} {last : Nat} (whole : bytes.length ≤ last) :
    slice bytes 0 last = bytes := by
  simp [slice, List.take_of_length_le whole]

end Slices

/-! ## Fixed-width integers -/

section Integers

/-- The low `width` bytes of a number, least significant byte first. -/
def leBytes : Nat → Nat → Bytes
  | 0, _ => []
  | width + 1, n => UInt8.ofNat n :: leBytes width (n / 256)

def leNat : Bytes → Nat
  | [] => 0
  | byte :: rest => byte.toNat + 256 * leNat rest

def beBytes (width n : Nat) : Bytes := (leBytes width n).reverse

def beNat (bytes : Bytes) : Nat := leNat bytes.reverse

@[simp] theorem length_leBytes (width n : Nat) : (leBytes width n).length = width := by
  induction width generalizing n with
  | zero => rfl
  | succ width hypothesis => rw [leBytes, List.length_cons, hypothesis]

@[simp] theorem length_beBytes (width n : Nat) : (beBytes width n).length = width := by
  rw [beBytes, List.length_reverse, length_leBytes]

theorem leNat_leBytes (width n : Nat) : leNat (leBytes width n) = n % 256 ^ width := by
  induction width generalizing n with
  | zero => simp [leBytes, leNat, Nat.mod_one]
  | succ width hypothesis =>
      have digits : n % 256 ^ (width + 1) = n % 256 + 256 * (n / 256 % 256 ^ width) := by
        rw [Nat.pow_succ, Nat.mul_comm (256 ^ width), Nat.mod_mul]
      rw [leBytes, leNat, hypothesis, UInt8.toNat_ofNat', digits]

theorem beNat_beBytes (width n : Nat) : beNat (beBytes width n) = n % 256 ^ width := by
  rw [beNat, beBytes, List.reverse_reverse, leNat_leBytes]

theorem leBytes_leNat (bytes : Bytes) : leBytes bytes.length (leNat bytes) = bytes := by
  induction bytes with
  | nil => rfl
  | cons byte rest hypothesis =>
      have small : byte.toNat < 256 := byte.toNat_lt
      have quotient : (byte.toNat + 256 * leNat rest) / 256 = leNat rest := by omega
      have head : UInt8.ofNat (byte.toNat + 256 * leNat rest) = byte := by
        apply UInt8.toNat_inj.mp
        rw [UInt8.toNat_ofNat']
        omega
      rw [List.length_cons, leNat, leBytes, quotient, hypothesis, head]

theorem beBytes_beNat (bytes : Bytes) : beBytes bytes.length (beNat bytes) = bytes := by
  have width := leBytes_leNat bytes.reverse
  rw [List.length_reverse] at width
  rw [beBytes, beNat, width, List.reverse_reverse]

theorem leBytes_mod (width n : Nat) : leBytes width (n % 256 ^ width) = leBytes width n := by
  have same := leBytes_leNat (leBytes width n)
  rwa [length_leBytes, leNat_leBytes] at same

def le16 (n : UInt16) : Bytes := leBytes 2 n.toNat
def le32 (n : UInt32) : Bytes := leBytes 4 n.toNat
def le64 (n : UInt64) : Bytes := leBytes 8 n.toNat
def be16 (n : UInt16) : Bytes := beBytes 2 n.toNat
def be64 (n : UInt64) : Bytes := beBytes 8 n.toNat

@[simp] theorem length_le16 (n : UInt16) : (le16 n).length = 2 := length_leBytes 2 _
@[simp] theorem length_le32 (n : UInt32) : (le32 n).length = 4 := length_leBytes 4 _
@[simp] theorem length_le64 (n : UInt64) : (le64 n).length = 8 := length_leBytes 8 _
@[simp] theorem length_be16 (n : UInt16) : (be16 n).length = 2 := length_beBytes 2 _
@[simp] theorem length_be64 (n : UInt64) : (be64 n).length = 8 := length_beBytes 8 _

theorem ofNat_leNat_le16 (n : UInt16) : UInt16.ofNat (leNat (le16 n)) = n := by
  apply UInt16.toNat_inj.mp
  rw [le16, leNat_leBytes, UInt16.toNat_ofNat']
  have small := n.toNat_lt
  omega

theorem ofNat_leNat_le32 (n : UInt32) : UInt32.ofNat (leNat (le32 n)) = n := by
  apply UInt32.toNat_inj.mp
  rw [le32, leNat_leBytes, UInt32.toNat_ofNat']
  have small := n.toNat_lt
  omega

theorem ofNat_beNat_be16 (n : UInt16) : UInt16.ofNat (beNat (be16 n)) = n := by
  apply UInt16.toNat_inj.mp
  rw [be16, beNat_beBytes, UInt16.toNat_ofNat']
  have small := n.toNat_lt
  omega

theorem ofNat_beNat_be64 (n : UInt64) : UInt64.ofNat (beNat (be64 n)) = n := by
  apply UInt64.toNat_inj.mp
  rw [be64, beNat_beBytes, UInt64.toNat_ofNat']
  have small := n.toNat_lt
  omega

end Integers

/-! ## Chunks -/

section Chunks

/-- The first `fuel` chunks of `size` bytes; the last one may be shorter. -/
def chunksUpTo (size : Nat) : Nat → Bytes → List Bytes
  | 0, _ => []
  | fuel + 1, bytes =>
      match bytes with
      | [] => []
      | byte :: rest =>
          (byte :: rest).take size :: chunksUpTo size fuel ((byte :: rest).drop size)

/-- A byte string holds at most as many chunks as bytes. -/
def chunks (size : Nat) (bytes : Bytes) : List Bytes := chunksUpTo size bytes.length bytes

theorem flatten_chunksUpTo {size : Nat} (positive : 0 < size) (fuel : Nat) (bytes : Bytes)
    (enough : bytes.length ≤ fuel) : (chunksUpTo size fuel bytes).flatten = bytes := by
  induction fuel generalizing bytes with
  | zero =>
      have empty : bytes = [] := List.length_eq_zero_iff.mp (by omega)
      rw [empty, chunksUpTo, List.flatten_nil]
  | succ fuel hypothesis =>
      cases bytes with
      | nil => rfl
      | cons byte rest =>
          rw [chunksUpTo, List.flatten_cons, hypothesis, List.take_append_drop]
          rw [List.length_drop, List.length_cons] at *
          omega

theorem flatten_chunks {size : Nat} (positive : 0 < size) (bytes : Bytes) :
    (chunks size bytes).flatten = bytes :=
  flatten_chunksUpTo positive bytes.length bytes (Nat.le_refl _)

/-- A byte string that was put together from parts of one size falls apart into them. -/
theorem chunksUpTo_flatten {size : Nat} (positive : 0 < size) (parts : List Bytes) {fuel : Nat}
    (enough : parts.length ≤ fuel) (widths : ∀ part ∈ parts, part.length = size) :
    chunksUpTo size fuel parts.flatten = parts := by
  induction parts generalizing fuel with
  | nil => cases fuel <;> rfl
  | cons part parts hypothesis =>
      rw [List.length_cons] at enough
      obtain ⟨less, rfl⟩ : ∃ less, fuel = less + 1 := ⟨fuel - 1, by omega⟩
      have width := widths part List.mem_cons_self
      cases part with
      | nil => exact absurd width (Nat.ne_of_lt positive)
      | cons byte tail =>
          have whole : ((byte :: tail) ++ parts.flatten).take size = byte :: tail :=
            List.take_left' width
          have rest : ((byte :: tail) ++ parts.flatten).drop size = parts.flatten :=
            List.drop_left' width
          rw [List.flatten_cons, List.cons_append, chunksUpTo, ← List.cons_append, whole, rest,
            hypothesis (by omega)]
          intro other member
          exact widths other (List.mem_cons_of_mem _ member)

theorem length_flatten_parts {size : Nat} {parts : List Bytes}
    (widths : ∀ part ∈ parts, part.length = size) :
    parts.flatten.length = parts.length * size := by
  induction parts with
  | nil => rw [List.flatten_nil, List.length_nil, List.length_nil, Nat.zero_mul]
  | cons part parts hypothesis =>
      have width := widths part List.mem_cons_self
      have rest := hypothesis fun other member => widths other (List.mem_cons_of_mem _ member)
      rw [List.flatten_cons, List.length_append, List.length_cons, width, rest, Nat.succ_mul,
        Nat.add_comm]

theorem chunks_flatten {size : Nat} (positive : 0 < size) {parts : List Bytes}
    (widths : ∀ part ∈ parts, part.length = size) : chunks size parts.flatten = parts := by
  apply chunksUpTo_flatten positive parts _ widths
  rw [length_flatten_parts widths]
  exact Nat.le_mul_of_pos_right _ positive

/-- Fuel beyond the length changes nothing. -/
theorem chunksUpTo_eq_chunks {size fuel : Nat} (positive : 0 < size) {bytes : Bytes}
    (enough : bytes.length ≤ fuel) : chunksUpTo size fuel bytes = chunks size bytes := by
  induction fuel using Nat.strong_induction_on generalizing bytes with
  | _ fuel hypothesis =>
      cases bytes with
      | nil => cases fuel <;> rfl
      | cons byte rest =>
          rw [List.length_cons] at enough
          obtain ⟨less, rfl⟩ : ∃ less, fuel = less + 1 := ⟨fuel - 1, by omega⟩
          have shorter : ((byte :: rest).drop size).length ≤ rest.length := by
            rw [List.length_drop, List.length_cons]
            omega
          rw [chunks, List.length_cons, chunksUpTo, chunksUpTo,
            hypothesis less (by omega) (by omega)]
          congr 1
          rcases Nat.lt_or_ge rest.length (less + 1) with small | large
          · exact (hypothesis rest.length small shorter).symm
          · omega

theorem chunks_cons {size : Nat} (positive : 0 < size) {bytes : Bytes} (some : bytes ≠ []) :
    chunks size bytes = bytes.take size :: chunks size (bytes.drop size) := by
  cases bytes with
  | nil => exact absurd rfl some
  | cons byte rest =>
      have shorter : ((byte :: rest).drop size).length ≤ rest.length := by
        rw [List.length_drop, List.length_cons]
        omega
      rw [chunks, List.length_cons, chunksUpTo, chunksUpTo_eq_chunks positive shorter]

theorem chunks_short {size : Nat} {bytes : Bytes} (some : bytes ≠ [])
    (short : bytes.length ≤ size) : chunks size bytes = [bytes] := by
  cases bytes with
  | nil => exact absurd rfl some
  | cons byte rest =>
      have nothing : chunksUpTo size rest.length [] = [] := by
        cases rest.length <;> rfl
      rw [chunks, List.length_cons, chunksUpTo, List.take_of_length_le short,
        List.drop_of_length_le short, nothing]

end Chunks

end Foundation
