import Nrf7002.Foundation.Bytes

/-! # Records of fixed width

A format writes a value to a fixed number of bytes and reads it back, whatever follows.
Formats are put together in the order of their fields. -/

set_option autoImplicit false

namespace Foundation

/-- A value in a fixed number of bytes. -/
structure Wire (α : Type) where
  width : Nat
  encode : α → Bytes
  decode : Bytes → α
  length_encode : ∀ value, (encode value).length = width
  decode_encode : ∀ value rest, decode (encode value ++ rest) = value

namespace Wire
variable {α β : Type}

theorem decode_whole (wire : Wire α) (value : α) : wire.decode (wire.encode value) = value := by
  have read := wire.decode_encode value []
  rwa [List.append_nil] at read

/-! ## Fields -/

def byte : Wire UInt8 where
  width := 1
  encode value := [value]
  decode bytes := bytes.getD 0 0
  length_encode _ := rfl
  decode_encode _ _ := rfl

theorem take_field {value rest : Bytes} {width : Nat} (length : value.length = width) :
    (value ++ rest).take width = value :=
  length ▸ List.take_left

def word16 : Wire UInt16 where
  width := 2
  encode := le16
  decode bytes := UInt16.ofNat (leNat (bytes.take 2))
  length_encode := length_le16
  decode_encode value rest := by rw [take_field (length_le16 value), ofNat_leNat_le16]

def word32 : Wire UInt32 where
  width := 4
  encode := le32
  decode bytes := UInt32.ofNat (leNat (bytes.take 4))
  length_encode := length_le32
  decode_encode value rest := by rw [take_field (length_le32 value), ofNat_leNat_le32]

def octets (width : Nat) : Wire (Octets width) where
  width
  encode value := value.1
  decode bytes := octetsAt bytes 0 width
  length_encode value := value.2
  decode_encode value rest := by
    apply Subtype.ext
    have inside : 0 + width ≤ (value.1 ++ rest).length := by
      rw [List.length_append, value.2]
      omega
    rw [octetsAt_eq_slice inside, slice, List.drop_zero, Nat.add_sub_cancel_left,
      take_field value.2]

/-! ## Composition -/

/-- A field that stands for another type. -/
def via (wire : Wire α) (write : β → α) (read : α → β) (inverse : ∀ value, read (write value) = value) :
    Wire β where
  width := wire.width
  encode value := wire.encode (write value)
  decode bytes := read (wire.decode bytes)
  length_encode value := wire.length_encode (write value)
  decode_encode value rest := by rw [wire.decode_encode, inverse]

/-- One field, then another. -/
def pair (first : Wire α) (second : Wire β) : Wire (α × β) where
  width := first.width + second.width
  encode value := first.encode value.1 ++ second.encode value.2
  decode bytes := (first.decode bytes, second.decode (bytes.drop first.width))
  length_encode value := by
    rw [List.length_append, first.length_encode, second.length_encode]
  decode_encode value rest := by
    have behind : ((first.encode value.1 ++ second.encode value.2) ++ rest).drop first.width =
        second.encode value.2 ++ rest := by
      rw [List.append_assoc, ← first.length_encode value.1, List.drop_left]
    rw [behind, second.decode_encode, List.append_assoc, first.decode_encode]

/-- Bytes that never change: they carry nothing. -/
def constant (bytes : Bytes) : Wire Unit where
  width := bytes.length
  encode _ := bytes
  decode _ := ()
  length_encode _ := rfl
  decode_encode _ _ := rfl

def signed32 : Wire Int32 :=
  word32.via Int32.toUInt32 UInt32.toInt32 fun _ => rfl

/-- A flag in a field of its own. -/
def flag (wire : Wire α) [DecidableEq α] (no yes : α) (apart : no ≠ yes) : Wire Bool :=
  wire.via (fun set => if set then yes else no) (fun value => value = yes) fun set => by
    cases set with
    | true => simp
    | false => simp [apart]

end Wire

end Foundation
