import Nrf7002.Foundation.Bytes

/-! # Codes of fixed width

A packed record is a sequence of fields.  `FixedCode` says that the code of every
valid value has one width and that equal codes have equal views of the value; fields
then compose by appending, and a field of variable length behind its own length is a
code of fixed width again. -/

set_option autoImplicit false

namespace Foundation

/-- Fills a value up to `width` bytes. -/
def padded (value : Bytes) (width : Nat) : Bytes :=
  value ++ List.replicate (width - value.length) 0

theorem length_padded {value : Bytes} {width : Nat} (inside : value.length ≤ width) :
    (padded value width).length = width := by
  rw [padded, List.length_append, List.length_replicate]
  omega

/-- The padding hides nothing but the length. -/
theorem padded_inj {first second : Bytes} {width : Nat} (length : first.length = second.length)
    (same : padded first width = padded second width) : first = second :=
  (List.append_inj same length).1

theorem le16_inj {first second : UInt16} (same : le16 first = le16 second) : first = second := by
  have numbers := congrArg leNat same
  rw [le16, le16, leNat_leBytes, leNat_leBytes] at numbers
  have small := first.toNat_lt
  have little := second.toNat_lt
  apply UInt16.toNat_inj.mp
  omega

theorem le32_inj {first second : UInt32} (same : le32 first = le32 second) : first = second := by
  rw [← ofNat_leNat_le32 first, same, ofNat_leNat_le32]

theorem le64_inj {first second : UInt64} (same : le64 first = le64 second) : first = second := by
  have numbers := congrArg leNat same
  rw [le64, le64, leNat_leBytes, leNat_leBytes] at numbers
  have small := first.toNat_lt
  have little := second.toNat_lt
  apply UInt64.toNat_inj.mp
  omega

theorem flatMap_le32_inj {first second : List UInt32} (length : first.length = second.length)
    (same : first.flatMap le32 = second.flatMap le32) : first = second := by
  induction first generalizing second with
  | nil => exact (List.length_eq_zero_iff.mp length.symm).symm
  | cons item rest hypothesis =>
      cases second with
      | nil => cases length
      | cons other others =>
          rw [List.flatMap_cons, List.flatMap_cons] at same
          obtain ⟨head, tail⟩ := List.append_inj same (by simp)
          rw [le32_inj head, hypothesis (by simpa using length) tail]

theorem length_flatMap_le32 (words : List UInt32) :
    (words.flatMap le32).length = words.length * 4 := by
  induction words with
  | nil => rfl
  | cons item rest hypothesis =>
      rw [List.flatMap_cons, List.length_append, hypothesis, length_le32, List.length_cons]
      omega

section FixedCode
variable {α γ δ : Type}

structure FixedCode (V : α → Prop) (width : Nat) (code : α → Bytes) (view : α → γ) :
    Prop where
  length : ∀ a, V a → (code a).length = width
  determines : ∀ a b, V a → V b → code a = code b → view a = view b

variable {V : α → Prop}

theorem FixedCode.weaken {width : Nat} {code : α → Bytes} {v : α → γ} {other : α → δ}
    (fixed : FixedCode V width code v)
    (weaker : ∀ a b, V a → V b → v a = v b → other a = other b) :
    FixedCode V width code other where
  length := fixed.length
  determines a b left right same := weaker a b left right (fixed.determines a b left right same)

/-- A code of one part of a value. -/
theorem FixedCode.part {β : Type} {Part : β → Prop} {width : Nat} {code : β → Bytes}
    {view : β → γ} (fixed : FixedCode Part width code view) (part : α → β)
    (weaker : ∀ a, V a → Part (part a)) :
    FixedCode V width (fun a => code (part a)) (fun a => view (part a)) where
  length a holds := fixed.length (part a) (weaker a holds)
  determines a b left right := fixed.determines _ _ (weaker a left) (weaker b right)

/-- The second code may rely on what the first one determines. -/
theorem FixedCode.thenDependent {w n : Nat} {code rest : α → Bytes} {view : α → γ}
    {later : α → δ} (first : FixedCode V w code view)
    (length : ∀ a, V a → (rest a).length = n)
    (determines : ∀ a b, V a → V b → view a = view b → rest a = rest b →
      later a = later b) :
    FixedCode V (w + n) (fun a => code a ++ rest a) (fun a => (view a, later a)) where
  length a holds := by rw [List.length_append, first.length a holds, length a holds]
  determines a b left right same := by
    obtain ⟨head, tail⟩ := List.append_inj same
      ((first.length a left).trans (first.length b right).symm)
    have seen := first.determines a b left right head
    rw [seen, determines a b left right seen tail]

theorem FixedCode.then {w n : Nat} {code rest : α → Bytes} {view : α → γ}
    {later : α → δ} (first : FixedCode V w code view)
    (second : FixedCode V n rest later) :
    FixedCode V (w + n) (fun a => code a ++ rest a) (fun a => (view a, later a)) :=
  first.thenDependent second.length fun a b left right _ => second.determines a b left right

/-! ## Fields -/

theorem fixedCode_zeros (width : Nat) :
    FixedCode V width (fun _ => List.replicate width 0) (fun _ => ()) where
  length _ _ := List.length_replicate
  determines _ _ _ _ _ := rfl

theorem fixedCode_u8 (f : α → UInt8) : FixedCode V 1 (fun a => [f a]) f where
  length _ _ := rfl
  determines _ _ _ _ same := List.head_eq_of_cons_eq same

theorem fixedCode_le16 (f : α → UInt16) : FixedCode V 2 (fun a => le16 (f a)) f where
  length a _ := length_le16 (f a)
  determines _ _ _ _ same := le16_inj same

theorem fixedCode_le32 (f : α → UInt32) : FixedCode V 4 (fun a => le32 (f a)) f where
  length a _ := length_le32 (f a)
  determines _ _ _ _ same := le32_inj same

theorem fixedCode_le64 (f : α → UInt64) : FixedCode V 8 (fun a => le64 (f a)) f where
  length a _ := length_le64 (f a)
  determines _ _ _ _ same := le64_inj same

theorem fixedCode_octets {n : Nat} (f : α → Octets n) : FixedCode V n (fun a => (f a).1) f where
  length a _ := (f a).2
  determines _ _ _ _ same := Subtype.ext same

/-- A value behind a code of its length. -/
theorem FixedCode.counted {w l : Nat} {code : α → Bytes} {f : α → Bytes}
    (count : FixedCode V w code (fun a => (f a).length))
    (inside : ∀ a, V a → (f a).length ≤ l) :
    FixedCode V (w + l) (fun a => code a ++ padded (f a) l) f :=
  (count.thenDependent (fun a holds => length_padded (inside a holds))
    fun _ _ _ _ => padded_inj).weaken fun _ _ _ _ same => congrArg Prod.snd same

/-- Words behind a code of their number. -/
theorem FixedCode.countedWords {width limit : Nat} {code : α → Bytes} {f : α → List UInt32}
    (count : FixedCode V width code (fun a => (f a).length))
    (inside : ∀ a, V a → (f a).length ≤ limit) :
    FixedCode V (width + limit * 4)
      (fun a => code a ++
        ((f a).flatMap le32 ++ List.replicate ((limit - (f a).length) * 4) 0)) f := by
  apply FixedCode.weaken (v := fun a => ((f a).length, f a)) _ fun _ _ _ _ same =>
    congrArg Prod.snd same
  apply count.thenDependent
  · intro a holds
    have fits := inside a holds
    rw [List.length_append, length_flatMap_le32, List.length_replicate, ← Nat.add_mul]
    congr 1
    omega
  · intro a b _ _ length same
    apply flatMap_le32_inj length
    apply (List.append_inj same _).1
    rw [length_flatMap_le32, length_flatMap_le32, length]

end FixedCode

end Foundation
