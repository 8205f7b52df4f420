import Nrf7002.Foundation.Bytes
import Nrf7002.Foundation.Program

/-! # Bounded little-endian codec primitives

A writer fills caller storage from a position on and never leaves it.  `Writes`
says what an encoder appends, and composes along the sequence of its fields. -/

set_option autoImplicit false

namespace Nrf7002
open Foundation

inductive ProtocolError where
  | bufferTooSmall
  | invalidLength
  | invalidValue (value : UInt32)
  | limitExceeded
  | wrongMessageType
  deriving DecidableEq, Repr

structure Writer where
  bytes : Bytes
  position : Nat
  deriving DecidableEq

abbrev Encoder := Program Writer ProtocolError Unit

/-! ## Writing -/

def writeBytes (value : Bytes) : Encoder := do
  let writer ← get
  let last := writer.position + value.length
  if writer.bytes.length < last then throw .bufferTooSmall
  set ({ bytes := splice writer.bytes writer.position value, position := last } : Writer)

def writeU8 (value : UInt8) : Encoder := writeBytes [value]
def writeU16 (value : UInt16) : Encoder := writeBytes (le16 value)
def writeU32 (value : UInt32) : Encoder := writeBytes (le32 value)
def writeI32 (value : Int32) : Encoder := writeBytes (le32 value.toUInt32)
def writeU64 (value : UInt64) : Encoder := writeBytes (le64 value)

def zeros (count : Nat) : Encoder := writeBytes (List.replicate count 0)

def fixed (value : Bytes) (width : Nat) : Encoder := do
  if width < value.length then throw .limitExceeded
  writeBytes value
  zeros (width - value.length)

def writeWords : List UInt32 → Encoder
  | [] => pure ()
  | item :: rest => do
      writeU32 item
      writeWords rest

def fixedU32 (value : List UInt32) (count : Nat) : Encoder := do
  if count < value.length then throw .limitExceeded
  writeWords value
  zeros ((count - value.length) * 4)

/-- Runs an encoder on the whole of a byte array, from its first byte on; the
result is the number of bytes written. -/
def encodeInto (x : Encoder) : Program Bytes ProtocolError Nat := fun out =>
  match x { bytes := out, position := 0 } with
  | .ok _ writer => .ok writer.position writer.bytes
  | .error failure writer => .error failure writer.bytes

@[simp] theorem post_encodeInto (x : Encoder) (out : Bytes)
    (Q : Except ProtocolError Nat → Bytes → Prop) :
    Post (encodeInto x) out Q ↔
      Post x { bytes := out, position := 0 }
        (fun result writer => Q (result.map fun _ => writer.position) writer.bytes) := by
  simp only [post_iff, resultOf, stateAfter, encodeInto]
  cases x { bytes := out, position := 0 } <;> rfl

/-! ## Reading -/

def readU16 (bytes : Bytes) (offset : Nat) : UInt16 :=
  UInt16.ofNat (leNat (slice bytes offset (offset + 2)))

/-- `u16::from_be_bytes` of the two bytes at `offset`. -/
def readBeU16 (bytes : Bytes) (offset : Nat) : UInt16 :=
  UInt16.ofNat (beNat (slice bytes offset (offset + 2)))

def readU32 (bytes : Bytes) (offset : Nat) : UInt32 :=
  UInt32.ofNat (leNat (slice bytes offset (offset + 4)))

def readI32 (bytes : Bytes) (offset : Nat) : Int32 := (readU32 bytes offset).toInt32

def readU64 (bytes : Bytes) (offset : Nat) : UInt64 :=
  UInt64.ofNat (leNat (slice bytes offset (offset + 8)))

def byteAt (bytes : Bytes) (offset : Nat) : UInt8 := bytes.getD offset 0

theorem readU32_append_left {front rest : Bytes} {offset : Nat}
    (inside : offset + 4 ≤ front.length) :
    readU32 (front ++ rest) offset = readU32 front offset := by
  rw [readU32, readU32, slice_append_left inside]

theorem readU32_field {front rest : Bytes} {value : UInt32} {offset : Nat}
    (starts : offset = front.length) :
    readU32 (front ++ (le32 value ++ rest)) offset = value := by
  rw [readU32, slice_middle starts (by rw [length_le32]; omega), ofNat_leNat_le32]

/-- Four bytes are what their word is written as. -/
theorem le32_readU32 {bytes : Bytes} {offset : Nat} (inside : offset + 4 ≤ bytes.length) :
    le32 (readU32 bytes offset) = slice bytes offset (offset + 4) := by
  have width := leBytes_leNat (slice bytes offset (offset + 4))
  rw [length_slice_of_le inside, Nat.add_sub_cancel_left] at width
  rw [le32, readU32, UInt32.toNat_ofNat', show 2 ^ 32 = 256 ^ 4 from rfl, leBytes_mod, width]

/-! A field of a byte string that is written in parts. -/

theorem readU32_part {parts : List Bytes} {value : UInt32} {index offset : Nat}
    (present : parts[index]? = some (le32 value))
    (starts : ((parts.map List.length).take index).sum = offset) :
    readU32 parts.flatten offset = value := by
  rw [readU32, slice_part present starts (by rw [length_le32]), ofNat_leNat_le32]

theorem readI32_part {parts : List Bytes} {value : Int32} {index offset : Nat}
    (present : parts[index]? = some (le32 value.toUInt32))
    (starts : ((parts.map List.length).take index).sum = offset) :
    readI32 parts.flatten offset = value := by
  rw [readI32, readU32_part present starts]
  rfl

theorem readU64_part {parts : List Bytes} {value : UInt64} {index offset : Nat}
    (present : parts[index]? = some (le64 value))
    (starts : ((parts.map List.length).take index).sum = offset) :
    readU64 parts.flatten offset = value := by
  rw [readU64, slice_part present starts (by rw [length_le64]), le64, leNat_leBytes]
  apply UInt64.toNat_inj.mp
  have small := value.toNat_lt
  rw [UInt64.toNat_ofNat']
  omega

/-! ## What an encoder appends -/

section Writes

/-- The encoder appends exactly `value`, or fails because the storage is too
small for it.  It keeps the length of the storage in both cases. -/
def Writes (x : Encoder) (value : Bytes) : Prop :=
  ∀ writer : Writer, writer.position ≤ writer.bytes.length →
    Post x writer fun result after =>
      after.bytes.length = writer.bytes.length ∧
      match result with
      | .ok _ =>
          writer.position + value.length ≤ writer.bytes.length ∧
          after = { bytes := splice writer.bytes writer.position value
                    position := writer.position + value.length }
      | .error failure =>
          failure = .bufferTooSmall ∧
          writer.bytes.length < writer.position + value.length

theorem writes_bytes (value : Bytes) : Writes (writeBytes value) value := by
  intro writer _
  by_cases fits : writer.bytes.length < writer.position + value.length
  · simp [writeBytes, fits]
  · have inside : writer.position + value.length ≤ writer.bytes.length := by omega
    simp [writeBytes, fits, length_splice inside, inside]

theorem writes_nothing : Writes (pure ()) [] := by
  intro writer inside
  simp [splice, inside]

theorem Writes.then {x y : Encoder} {first second : Bytes}
    (left : Writes x first) (right : Writes y second) :
    Writes (do x; y) (first ++ second) := by
  intro writer inside
  rw [post_bind]
  refine (left writer inside).mono ?_
  rintro result after ⟨length, outcome⟩
  cases result with
  | error failure =>
      obtain ⟨same, short⟩ := outcome
      refine ⟨length, same, ?_⟩
      rw [List.length_append]
      omega
  | ok _ =>
      obtain ⟨fits, rfl⟩ := outcome
      have next : Writer.position ⟨splice writer.bytes writer.position first,
          writer.position + first.length⟩ ≤ (splice writer.bytes writer.position first).length := by
        rw [length]
        exact fits
      refine (right _ next).mono ?_
      rintro last final ⟨same, outcome⟩
      refine ⟨same.trans length, ?_⟩
      rw [List.length_append, ← Nat.add_assoc]
      cases last with
      | error failure => rwa [length] at outcome
      | ok _ =>
          obtain ⟨room, rfl⟩ := outcome
          rw [length] at room
          have beside := splice_splice second (Nat.le_of_add_right_le room) rfl
          exact ⟨room, by rw [beside]⟩

theorem writes_u8 (value : UInt8) : Writes (writeU8 value) [value] := writes_bytes _
theorem writes_u16 (value : UInt16) : Writes (writeU16 value) (le16 value) := writes_bytes _
theorem writes_u32 (value : UInt32) : Writes (writeU32 value) (le32 value) := writes_bytes _
theorem writes_i32 (value : Int32) : Writes (writeI32 value) (le32 value.toUInt32) :=
  writes_bytes _
theorem writes_u64 (value : UInt64) : Writes (writeU64 value) (le64 value) := writes_bytes _
theorem writes_zeros (count : Nat) : Writes (zeros count) (List.replicate count 0) :=
  writes_bytes _

theorem writes_fixed {value : Bytes} {width : Nat} (inside : value.length ≤ width) :
    Writes (fixed value width) (value ++ List.replicate (width - value.length) 0) := by
  have admitted : fixed value width =
      (do writeBytes value; zeros (width - value.length)) := by
    rw [fixed, if_neg (by omega)]
  rw [admitted]
  exact (writes_bytes value).then (writes_zeros _)

theorem writes_words (words : List UInt32) :
    Writes (writeWords words) (words.flatMap le32) := by
  induction words with
  | nil => exact writes_nothing
  | cons item rest hypothesis => exact (writes_u32 item).then hypothesis

theorem writes_fixedU32 {words : List UInt32} {count : Nat} (inside : words.length ≤ count) :
    Writes (fixedU32 words count)
      (words.flatMap le32 ++ List.replicate ((count - words.length) * 4) 0) := by
  have admitted : fixedU32 words count =
      (do writeWords words; zeros ((count - words.length) * 4)) := by
    rw [fixedU32, if_neg (by omega)]
  rw [admitted]
  exact (writes_words words).then (writes_zeros _)

/-- A successful encoding is the written value followed by the old bytes. -/
theorem Writes.encodeInto {x : Encoder} {value : Bytes} (writes : Writes x value) (out : Bytes) :
    Post (encodeInto x) out fun result after =>
      after.length = out.length ∧
      match result with
      | .ok count => count = value.length ∧ after = value ++ out.drop value.length
      | .error failure => failure = .bufferTooSmall ∧ out.length < value.length := by
  rw [post_encodeInto]
  refine (writes { bytes := out, position := 0 } (Nat.zero_le _)).mono ?_
  rintro result after ⟨length, outcome⟩
  refine ⟨length, ?_⟩
  cases result with
  | ok _ =>
      obtain ⟨_, rfl⟩ := outcome
      exact ⟨Nat.zero_add _, by simp [splice]⟩
  | error failure => exact ⟨outcome.1, Nat.zero_add value.length ▸ outcome.2⟩

end Writes

end Nrf7002
