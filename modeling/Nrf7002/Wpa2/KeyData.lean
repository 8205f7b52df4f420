import Nrf7002.Foundation.KeyWrap
import Nrf7002.Wpa2.Frame

/-! # Encrypted key data

The key data of a frame is a wrapped list of elements.  The parser returns the first
group key element of the list; the unwrapping is shown to be the inverse of the key
wrapping of the standard. -/

set_option autoImplicit false

namespace Nrf7002
open Foundation

/-! ## Key data elements -/

section Elements

def gtkKdeOuiType : Bytes := [0x00, 0x0f, 0xac, 0x01]
def kdeElementId : UInt8 := 0xdd

structure GtkKde where
  keyIndex : UInt8
  key : Bytes
  deriving DecidableEq

/-- Takes one element off the input from the current offset on; the source keeps the
offset, the model the rest of the input. -/
def takeKde : Bytes → Except Wpa2Error (Option ((UInt8 × Bytes) × Bytes))
  | [] => .ok none
  | elementId :: rest =>
      if elementId = 0 then .ok none
      else
        match rest with
        | [] => .error .missingGroupKey
        | len :: rest =>
            if len = 0 then .ok none
            else if rest.length < len.toNat then .error .missingGroupKey
            else .ok (some ((elementId, rest.take len.toNat), rest.drop len.toNat))

def parseGtkBody (body : Bytes) : Except Wpa2Error GtkKde :=
  if body.length ≠ 22 then .error .invalidEncryptedKeyData
  else if byteAt body 4 &&& 0xf8 ≠ 0 ∨ byteAt body 5 ≠ 0 then .error .invalidEncryptedKeyData
  else .ok { keyIndex := byteAt body 4 &&& 0x03, key := body.drop 6 }

/-- The loop over the elements.  Every element has a byte, so the input holds at most
as many elements as bytes. -/
def parseGtkKdeUpTo : Nat → Bytes → Except Wpa2Error GtkKde
  | 0, _ => .error .missingGroupKey
  | fuel + 1, bytes => do
      match ← takeKde bytes with
      | none => .error .missingGroupKey
      | some ((elementId, body), rest) =>
          if elementId = kdeElementId ∧ gtkKdeOuiType.isPrefixOf body then parseGtkBody body
          else parseGtkKdeUpTo fuel rest

def parseGtkKde (bytes : Bytes) : Except Wpa2Error GtkKde :=
  parseGtkKdeUpTo (bytes.length + 1) bytes

/-! ### What the parser finds -/

/-- An element as the authenticator writes it. -/
structure Element where
  id : UInt8
  body : Bytes

namespace Element

def bytes (element : Element) : Bytes :=
  element.id :: UInt8.ofNat element.body.length :: element.body

def WellFormed (element : Element) : Prop :=
  element.id ≠ 0 ∧ 0 < element.body.length ∧ element.body.length < 256

def isGtk (element : Element) : Bool :=
  element.id = kdeElementId ∧ gtkKdeOuiType.isPrefixOf element.body

/-- The group key element with a flags byte and a key. -/
def gtk (flags : UInt8) (key : Bytes) : Element :=
  { id := kdeElementId, body := gtkKdeOuiType ++ [flags, 0] ++ key }

end Element

/-- A group key element with valid flags and a 16-byte key, and before it only
well-formed elements that are none. -/
structure FirstGtk (bytes : Bytes) (gtk : GtkKde) (before : List Element) (flags : UInt8)
    (rest : Bytes) : Prop where
  layout : bytes = before.flatMap Element.bytes ++ ((Element.gtk flags gtk.key).bytes ++ rest)
  others : ∀ element ∈ before, element.WellFormed ∧ element.isGtk = false
  reserved : flags &&& 0xf8 = 0
  index : gtk.keyIndex = flags &&& 0x03
  size : gtk.key.length = 16

def IsFirstGtk (bytes : Bytes) (gtk : GtkKde) : Prop :=
  ∃ before flags rest, FirstGtk bytes gtk before flags rest

theorem takeKde_element {element : Element} (wellFormed : element.WellFormed) (rest : Bytes) :
    takeKde (element.bytes ++ rest) = .ok (some ((element.id, element.body), rest)) := by
  obtain ⟨nonzero, positive, short⟩ := wellFormed
  have length : (UInt8.ofNat element.body.length).toNat = element.body.length := by
    rw [UInt8.toNat_ofNat']
    omega
  have some_length : UInt8.ofNat element.body.length ≠ 0 := by
    intro zero
    rw [zero] at length
    exact absurd length (Nat.ne_of_lt positive)
  have enough : ¬ (element.body ++ rest).length < element.body.length := by
    rw [List.length_append]
    omega
  simp only [Element.bytes, List.cons_append, takeKde, if_neg nonzero, if_neg some_length, length,
    if_neg enough, List.take_left, List.drop_left]

/-- An element that was taken is one that could have been written. -/
theorem takeKde_some {bytes rest : Bytes} {elementId : UInt8} {body : Bytes}
    (taken : takeKde bytes = .ok (some ((elementId, body), rest))) :
    ∃ element : Element, element.WellFormed ∧ element.id = elementId ∧ element.body = body ∧
      bytes = element.bytes ++ rest := by
  cases bytes with
  | nil => simp [takeKde] at taken
  | cons first tail =>
      by_cases zero : first = 0
      · simp [takeKde, zero] at taken
      · cases tail with
        | nil => simp [takeKde, zero] at taken
        | cons len tail =>
            by_cases empty : len = 0
            · simp [takeKde, zero, empty] at taken
            · by_cases short : tail.length < len.toNat
              · simp [takeKde, zero, empty, short] at taken
              · simp only [takeKde, if_neg zero, if_neg empty, if_neg short, Except.ok.injEq,
                  Option.some.injEq, Prod.mk.injEq] at taken
                obtain ⟨⟨rfl, rfl⟩, rfl⟩ := taken
                have length : (tail.take len.toNat).length = len.toNat := by
                  rw [List.length_take]
                  omega
                have positive : len.toNat ≠ 0 := by
                  intro none_left
                  exact empty (UInt8.toNat_inj.mp none_left)
                have small : len.toNat < 256 := len.toNat_lt
                refine ⟨⟨first, tail.take len.toNat⟩, ⟨zero, ?_, ?_⟩, rfl, rfl, ?_⟩
                · rw [length]
                  omega
                · rw [length]
                  omega
                · simp only [Element.bytes, length, UInt8.ofNat_toNat, List.cons_append,
                    List.take_append_drop]

theorem parseGtkBody_ok {body : Bytes} {gtk : GtkKde} (gtkElement : gtkKdeOuiType.isPrefixOf body)
    (parsed : parseGtkBody body = .ok gtk) :
    ∃ flags, body = (Element.gtk flags gtk.key).body ∧ flags &&& 0xf8 = 0 ∧
      gtk.keyIndex = flags &&& 0x03 ∧ gtk.key.length = 16 := by
  rw [parseGtkBody, refused_eq_ok, refused_eq_ok] at parsed
  obtain ⟨whole, flags, found⟩ := parsed
  have length : body.length = 22 := not_not.mp whole
  obtain ⟨tail, rfl⟩ := List.isPrefixOf_iff_prefix.mp gtkElement
  obtain rfl := Except.ok.inj found
  simp only [not_or, not_not] at flags
  have rest : tail.length = 18 := by
    simp only [gtkKdeOuiType, List.length_append, List.length_cons, List.length_nil] at length
    omega
  obtain ⟨flagsByte, reserved, key, rfl⟩ :
      ∃ flagsByte reserved key, tail = flagsByte :: reserved :: key := by
    cases tail with
    | nil => simp at rest
    | cons flagsByte tail =>
        cases tail with
        | nil => simp at rest
        | cons reserved key => exact ⟨flagsByte, reserved, key, rfl⟩
  have zero : reserved = 0 := flags.2
  subst zero
  refine ⟨flagsByte, by simp [Element.gtk, gtkKdeOuiType], flags.1, rfl, ?_⟩
  simp [gtkKdeOuiType] at rest ⊢
  exact rest

theorem parseGtkBody_gtk {flags : UInt8} {key : Bytes} (reserved : flags &&& 0xf8 = 0)
    (size : key.length = 16) :
    parseGtkBody (Element.gtk flags key).body = .ok ⟨flags &&& 0x03, key⟩ := by
  have length : (Element.gtk flags key).body.length = 22 := by
    simp [Element.gtk, gtkKdeOuiType, size]
  have byte4 : byteAt (Element.gtk flags key).body 4 = flags := rfl
  have byte5 : byteAt (Element.gtk flags key).body 5 = 0 := rfl
  rw [parseGtkBody, if_neg (not_not_intro length), byte4, byte5, reserved]
  simp [Element.gtk, gtkKdeOuiType]

theorem Element.gtk_wellFormed (flags : UInt8) {key : Bytes} (size : key.length = 16) :
    (Element.gtk flags key).WellFormed := by
  refine ⟨?_, ?_, ?_⟩
  · exact show kdeElementId ≠ 0 by decide
  · simp [Element.gtk, gtkKdeOuiType]
  · simp [Element.gtk, gtkKdeOuiType, size]

theorem Element.gtk_isGtk (flags : UInt8) (key : Bytes) : (Element.gtk flags key).isGtk = true := by
  simp [Element.isGtk, Element.gtk, gtkKdeOuiType, List.isPrefixOf]

theorem Element.length_bytes (element : Element) :
    element.bytes.length = element.body.length + 2 := by
  simp [Element.bytes]

/-- Whatever the parser returns is the first group key element.  Induction on the
number of elements left. -/
theorem parseGtkKdeUpTo_sound (fuel : Nat) (bytes : Bytes) {gtk : GtkKde}
    (parsed : parseGtkKdeUpTo fuel bytes = .ok gtk) : IsFirstGtk bytes gtk := by
  induction fuel generalizing bytes with
  | zero => simp [parseGtkKdeUpTo] at parsed
  | succ fuel hypothesis =>
      rw [parseGtkKdeUpTo, bind_eq_ok] at parsed
      obtain ⟨next, taken, parsed⟩ := parsed
      cases next with
      | none => simp at parsed
      | some next =>
          obtain ⟨⟨elementId, body⟩, rest⟩ := next
          obtain ⟨element, wellFormed, rfl, rfl, rfl⟩ := takeKde_some taken
          by_cases found : element.id = kdeElementId ∧ gtkKdeOuiType.isPrefixOf element.body
          · simp only [if_pos found] at parsed
            obtain ⟨flags, body, reserved, index, size⟩ := parseGtkBody_ok found.2 parsed
            have same : element = Element.gtk flags gtk.key := by
              obtain ⟨id, elementBody⟩ := element
              rw [show id = kdeElementId from found.1, show elementBody = _ from body]
              rfl
            refine ⟨[], flags, rest, ⟨?_, by simp, reserved, index, size⟩⟩
            rw [same, List.flatMap_nil, List.nil_append]
          · simp only [if_neg found] at parsed
            obtain ⟨before, flags, after, first⟩ := hypothesis rest parsed
            refine ⟨element :: before, flags, after, ⟨?_, ?_, first.reserved, first.index, first.size⟩⟩
            · rw [List.flatMap_cons, List.append_assoc, ← first.layout]
            · intro other member
              rcases List.mem_cons.mp member with rfl | later
              · exact ⟨wellFormed, by simpa [Element.isGtk] using found⟩
              · exact first.others other later

/-- The first group key element is found, whatever follows it. -/
theorem parseGtkKdeUpTo_complete (before : List Element) {fuel : Nat}
    (enough : before.length < fuel)
    (others : ∀ element ∈ before, element.WellFormed ∧ element.isGtk = false) {flags : UInt8}
    (reserved : flags &&& 0xf8 = 0) {key : Bytes} (size : key.length = 16) (rest : Bytes) :
    parseGtkKdeUpTo fuel (before.flatMap Element.bytes ++ ((Element.gtk flags key).bytes ++ rest)) =
      .ok ⟨flags &&& 0x03, key⟩ := by
  induction before generalizing fuel with
  | nil =>
      obtain ⟨fuel, rfl⟩ : ∃ less, fuel = less + 1 := ⟨fuel - 1, by simp at enough; omega⟩
      have found := Element.gtk_isGtk flags key
      rw [Element.isGtk, decide_eq_true_eq] at found
      rw [List.flatMap_nil, List.nil_append, parseGtkKdeUpTo, bind_eq_ok]
      refine ⟨_, takeKde_element (Element.gtk_wellFormed flags size) rest, ?_⟩
      simp only [if_pos found]
      exact parseGtkBody_gtk reserved size
  | cons element before hypothesis =>
      rw [List.length_cons] at enough
      obtain ⟨fuel, rfl⟩ : ∃ less, fuel = less + 1 := ⟨fuel - 1, by omega⟩
      obtain ⟨wellFormed, other⟩ := others element List.mem_cons_self
      have apart : ¬ (element.id = kdeElementId ∧ gtkKdeOuiType.isPrefixOf element.body) := by
        simpa [Element.isGtk] using other
      rw [List.flatMap_cons, List.append_assoc, parseGtkKdeUpTo, bind_eq_ok]
      refine ⟨_, takeKde_element wellFormed _, ?_⟩
      simp only [if_neg apart]
      exact hypothesis (by omega) fun other member => others other (List.mem_cons_of_mem _ member)

theorem length_le_flatMap (elements : List Element) :
    elements.length ≤ (elements.flatMap Element.bytes).length := by
  induction elements with
  | nil => exact Nat.zero_le 0
  | cons element rest hypothesis =>
      rw [List.flatMap_cons, List.length_cons, List.length_append, Element.length_bytes]
      omega

/-- The parser returns exactly the first group key element. -/
theorem parseGtkKde_iff {bytes : Bytes} {gtk : GtkKde} :
    parseGtkKde bytes = .ok gtk ↔ IsFirstGtk bytes gtk := by
  constructor
  · exact parseGtkKdeUpTo_sound _ bytes
  · rintro ⟨before, flags, rest, first⟩
    have enough : before.length < bytes.length + 1 := by
      have count := length_le_flatMap before
      rw [first.layout, List.length_append]
      omega
    have found := parseGtkKdeUpTo_complete before enough first.others first.reserved first.size rest
    rw [← first.layout, ← first.index] at found
    exact found

end Elements

/-! ## Unwrapping -/

section Unwrap

def aesKeyWrapIv : Octets 8 := ⟨List.replicate 8 0xa6, List.length_replicate⟩

def xorOctets {n : Nat} (left right : Octets n) : Octets n :=
  ⟨List.zipWith (· ^^^ ·) left.1 right.1, by simp [left.2, right.2]⟩

theorem xorOctets_xorOctets {n : Nat} (left right : Octets n) :
    xorOctets (xorOctets left right) right = left := by
  apply Subtype.ext
  apply List.ext_getElem
  · simp [xorOctets, left.2, right.2]
  · intro index inside outside
    have cancel (left right : UInt8) : left ^^^ right ^^^ right = left := by
      rw [UInt8.xor_assoc, UInt8.xor_self, UInt8.xor_zero]
    simp only [xorOctets, List.getElem_zipWith]
    exact cancel _ _

def joinOctets {n m : Nat} (left : Octets n) (right : Octets m) : Octets (n + m) :=
  ⟨left.1 ++ right.1, by rw [List.length_append, left.2, right.2]⟩

/-- The big-endian number of a step, as the cipher mixes it in. -/
def stepOctets (number : Nat) : Octets 8 := ⟨be64 (UInt64.ofNat number), length_be64 _⟩

variable (crypto : Wpa2Crypto) (kek : Octets 16)

def unwrapKeyBlock (n round : Nat) (state : Octets 8 × Bytes) (index : Nat) : Octets 8 × Bytes :=
  let start := (index - 1) * 8
  let block := joinOctets (xorOctets state.1 (stepOctets (n * round + index)))
    (octetsAt state.2 start 8)
  let decrypted := crypto.decryptBlock kek block
  (octetsAt decrypted.1 0 8, splice state.2 start (octetsAt decrypted.1 8 8).1)

def unwrapKeyBlocks (n : Nat) (state : Octets 8 × Bytes) : Octets 8 × Bytes :=
  (List.range 6).reverse.foldl
    (fun state round =>
      (List.range' 1 n).reverse.foldl (unwrapKeyBlock crypto kek n round) state) state

def validateWrappedKeyLengths (encrypted out : Bytes) : Except Wpa2Error Nat :=
  if encrypted.length < 24 ∨ encrypted.length % 8 ≠ 0 then .error .invalidEncryptedKeyData
  else if out.length < encrypted.length - 8 then .error .outputTooSmall
  else .ok (encrypted.length - 8)

/-- The state is the output buffer; the result is the length of the key data in it. -/
def aesKeyUnwrap (encrypted : Bytes) : Program Bytes Wpa2Error Nat := do
  let plainLen ← liftResult (validateWrappedKeyLengths encrypted (← get))
  let unwrapped := unwrapKeyBlocks crypto kek (plainLen / 8)
    (octetsAt encrypted 0 8, encrypted.drop 8)
  if unwrapped.1 ≠ aesKeyWrapIv then
    modify fun out => splice out 0 (List.replicate plainLen 0)
    throw .keyUnwrapIntegrity
  else
    modify fun out => splice out 0 unwrapped.2
    pure plainLen

/-! ### Key wrapping -/

def splitOctets (block : Octets 16) : Octets 8 × Octets 8 :=
  (octetsAt block.1 0 8, octetsAt block.1 8 8)

/-- The block cipher under one key, as key wrapping uses it. -/
def aesWrapCipher : WrapCipher (Octets 8) where
  encrypt halves := splitOctets (crypto.encryptBlock kek (joinOctets halves.1 halves.2))
  decrypt halves := splitOctets (crypto.decryptBlock kek (joinOctets halves.1 halves.2))
  mix number half := xorOctets half (stepOctets number)

def flat (registers : List (Octets 8)) : Bytes := (registers.map Subtype.val).flatten

def registersOf (count : Nat) (bytes : Bytes) : List (Octets 8) :=
  (List.range count).map fun index => octetsAt bytes (index * 8) 8

/-- The key wrapping of a plaintext of whole registers. -/
def aesKeyWrap (plain : Bytes) : Bytes :=
  let wrapped := wrap (aesWrapCipher crypto kek) aesKeyWrapIv (registersOf (plain.length / 8) plain)
  wrapped.integrity.1 ++ flat wrapped.registers

theorem joinOctets_splitOctets (block : Octets 16) :
    joinOctets (splitOctets block).1 (splitOctets block).2 = block := by
  have length : block.1.length = 16 := block.2
  have front : (octetsAt block.1 0 8).1 = block.1.take 8 := octetsAt_eq_slice (by omega)
  have back : (octetsAt block.1 8 8).1 = block.1.drop 8 := by
    rw [octetsAt_eq_slice (by omega), slice, List.take_of_length_le]
    rw [List.length_drop]
    omega
  apply Subtype.ext
  calc (octetsAt block.1 0 8).1 ++ (octetsAt block.1 8 8).1
      = block.1.take 8 ++ block.1.drop 8 := by rw [front, back]
    _ = block.1 := List.take_append_drop 8 block.1

theorem splitOctets_joinOctets (left right : Octets 8) :
    splitOctets (joinOctets left right) = (left, right) := by
  have leftLength : left.1.length = 8 := left.2
  have rightLength : right.1.length = 8 := right.2
  apply Prod.ext
  · apply Subtype.ext
    rw [splitOctets, octetsAt_eq_slice (by rw [(joinOctets left right).2]; omega)]
    exact List.take_left' leftLength
  · apply Subtype.ext
    rw [splitOctets, octetsAt_eq_slice (by rw [(joinOctets left right).2])]
    rw [joinOctets, slice_append_right (by omega), leftLength]
    exact slice_all (by omega)

variable {crypto} in
theorem aesWrapCipher_lawful (inverse : crypto.Inverse) :
    (aesWrapCipher crypto kek).Lawful where
  decrypt_encrypt block := by
    simp only [aesWrapCipher, joinOctets_splitOctets, inverse kek _, splitOctets_joinOctets]
  mix_mix _ half := xorOctets_xorOctets half _

theorem length_flat (registers : List (Octets 8)) :
    (flat registers).length = registers.length * 8 := by
  induction registers with
  | nil => rfl
  | cons register rest hypothesis =>
      rw [flat, List.map_cons, List.flatten_cons, List.length_append, ← flat, hypothesis,
        register.2, List.length_cons]
      omega

theorem octetsAt_flat {registers : List (Octets 8)} {index : Nat} {register : Octets 8}
    (present : registers[index]? = some register) :
    octetsAt (flat registers) (index * 8) 8 = register := by
  have inside : index < registers.length := (List.getElem?_eq_some_iff.mp present).1
  have lengths : (registers.map Subtype.val).map List.length =
      List.replicate registers.length 8 := by
    rw [List.map_map, List.eq_replicate_iff]
    refine ⟨List.length_map _, ?_⟩
    intro length member
    obtain ⟨octets, _, rfl⟩ := List.mem_map.mp member
    exact octets.2
  apply Subtype.ext
  rw [octetsAt_eq_slice (by rw [length_flat]; omega)]
  have part : (registers.map Subtype.val)[index]? = some register.1 := by
    rw [List.getElem?_map, present, Option.map_some]
  refine slice_part part ?_ (by rw [register.2])
  rw [lengths, List.take_replicate, List.sum_replicate_nat, Nat.min_eq_left (by omega)]

theorem splice_flat {registers : List (Octets 8)} {index : Nat} (inside : index < registers.length)
    (register : Octets 8) :
    splice (flat registers) (index * 8) register.1 = flat (registers.set index register) := by
  have split (count : Nat) : flat registers =
      flat (registers.take count) ++ flat (registers.drop count) := by
    rw [flat, flat, flat, ← List.flatten_append, ← List.map_append, List.take_append_drop]
  have front : (flat (registers.take index)).length = index * 8 := by
    rw [length_flat, List.length_take, Nat.min_eq_left (by omega)]
  have back : (flat (registers.take (index + 1))).length = index * 8 + register.1.length := by
    rw [length_flat, List.length_take, Nat.min_eq_left (by omega), register.2]
    omega
  have before : (flat registers).take (index * 8) = flat (registers.take index) := by
    rw [split index]
    exact List.take_left' front
  have after : (flat registers).drop (index * 8 + register.1.length) =
      flat (registers.drop (index + 1)) := by
    rw [split (index + 1)]
    exact List.drop_left' back
  rw [splice, before, after, List.set_eq_take_append_cons_drop, if_pos inside]
  simp [flat]

theorem flat_registersOf {bytes : Bytes} {count : Nat} (whole : bytes.length = count * 8) :
    flat (registersOf count bytes) = bytes := by
  induction count generalizing bytes with
  | zero =>
      rw [List.eq_nil_of_length_eq_zero (by omega : bytes.length = 0)]
      rfl
  | succ count hypothesis =>
      have rest : (bytes.take (count * 8)).length = count * 8 := by
        rw [List.length_take]
        omega
      have last : (octetsAt bytes (count * 8) 8).1 = bytes.drop (count * 8) := by
        rw [octetsAt_eq_slice (by omega), slice, List.take_of_length_le]
        rw [List.length_drop]
        omega
      have same : registersOf count bytes = registersOf count (bytes.take (count * 8)) := by
        refine List.map_congr_left ?_
        intro index member
        have inside : index < count := List.mem_range.mp member
        apply Subtype.ext
        rw [octetsAt_eq_slice (by omega), octetsAt_eq_slice (by omega)]
        nth_rewrite 1 [← List.take_append_drop (count * 8) bytes]
        exact slice_append_left (by omega)
      have front : flat (registersOf count bytes) = bytes.take (count * 8) := by
        rw [same, hypothesis rest]
      rw [registersOf, List.range_succ, List.map_append, ← registersOf]
      calc flat (registersOf count bytes ++ [octetsAt bytes (count * 8) 8])
          = flat (registersOf count bytes) ++ (octetsAt bytes (count * 8) 8).1 := by simp [flat]
        _ = bytes.take (count * 8) ++ bytes.drop (count * 8) := by rw [front, last]
        _ = bytes := List.take_append_drop _ _

theorem registersOf_flat (registers : List (Octets 8)) :
    registersOf registers.length (flat registers) = registers := by
  apply List.ext_getElem
  · simp [registersOf]
  · intro index inside outside
    have present : registers[index]? = some registers[index] := List.getElem?_eq_getElem outside
    simp only [registersOf, List.getElem_map, List.getElem_range]
    exact octetsAt_flat present

/-- The registers as the source keeps them: the integrity register and a buffer. -/
def buffered (state : WrapState (Octets 8)) : Octets 8 × Bytes :=
  (state.integrity, flat state.registers)

theorem unwrapKeyBlock_buffered (round : Nat) {index : Nat} (state : WrapState (Octets 8))
    (inside : index < state.registers.length) :
    unwrapKeyBlock crypto kek state.registers.length round (buffered state) (index + 1) =
      buffered (unwrapStep (aesWrapCipher crypto kek) state
        (state.registers.length * round + (index + 1), index)) := by
  have present : state.registers[index]? = some state.registers[index] :=
    List.getElem?_eq_getElem inside
  simp only [unwrapStep, present, unwrapKeyBlock, buffered, Nat.add_sub_cancel,
    octetsAt_flat present, splice_flat inside, aesWrapCipher, splitOctets]

/-- The loops of the source take the steps of the key wrapping backwards. -/
theorem unwrapKeyBlocks_buffered (state : WrapState (Octets 8)) :
    unwrapKeyBlocks crypto kek state.registers.length (buffered state) =
      buffered (unwrap (aesWrapCipher crypto kek) state) := by
  generalize count : state.registers.length = n
  have schedule : (wrapSchedule n).reverse = (List.range 6).reverse.flatMap fun round =>
      (List.range n).reverse.map fun index => (n * round + (index + 1), index) := by
    rw [wrapSchedule, List.reverse_flatMap]
    simp only [Function.comp_def, List.map_reverse]
  have indices : (List.range' 1 n).reverse = (List.range n).reverse.map (· + 1) := by
    rw [List.range'_eq_map_range, List.map_reverse]
    simp only [Nat.add_comm]
  rw [unwrap, count, schedule, List.foldl_flatMap, unwrapKeyBlocks, indices]
  refine (foldl_simulates (fun state => state.registers.length = n) _ state count ?_).1
  intro state count round _
  simp only [List.foldl_map]
  refine foldl_simulates (fun state => state.registers.length = n) _ state count ?_
  intro state count index member
  have inside : index < n := List.mem_range.mp (List.mem_reverse.mp member)
  have step := unwrapKeyBlock_buffered crypto kek round state (count ▸ inside)
  rw [count] at step
  exact ⟨step, (length_unwrapStep _ _ _).trans count⟩

/-- The registers of a wrapped key. -/
def wrappedState (encrypted : Bytes) : WrapState (Octets 8) :=
  { integrity := octetsAt encrypted 0 8
    registers := registersOf ((encrypted.length - 8) / 8) (encrypted.drop 8) }

/-- The lengths that can be a wrapped key of at least two registers. -/
def WrappedLength (encrypted : Bytes) : Prop := 24 ≤ encrypted.length ∧ encrypted.length % 8 = 0

theorem buffered_wrappedState {encrypted : Bytes} (whole : WrappedLength encrypted) :
    buffered (wrappedState encrypted) = (octetsAt encrypted 0 8, encrypted.drop 8) := by
  have registers : (encrypted.drop 8).length = (encrypted.length - 8) / 8 * 8 := by
    obtain ⟨long, even⟩ := whole
    rw [List.length_drop]
    omega
  rw [buffered, wrappedState, flat_registersOf registers]

/-- Key data of a wrapped length that fits is unwrapped, or its integrity check fails
and the output is zeroed. -/
theorem aesKeyUnwrap_spec {encrypted out : Bytes} (whole : WrappedLength encrypted)
    (fits : encrypted.length - 8 ≤ out.length) :
    Post (aesKeyUnwrap crypto kek encrypted) out fun result after =>
      let unwrapped := unwrap (aesWrapCipher crypto kek) (wrappedState encrypted)
      if unwrapped.integrity = aesKeyWrapIv then
        result = .ok (encrypted.length - 8) ∧ after = splice out 0 (flat unwrapped.registers)
      else
        result = .error .keyUnwrapIntegrity ∧
          after = splice out 0 (List.replicate (encrypted.length - 8) 0) := by
  have lengths : validateWrappedKeyLengths encrypted out = .ok (encrypted.length - 8) := by
    obtain ⟨long, even⟩ := whole
    rw [validateWrappedKeyLengths, if_neg (by omega), if_neg (by omega)]
  have count : (wrappedState encrypted).registers.length = (encrypted.length - 8) / 8 := by
    simp [wrappedState, registersOf]
  have blocks := unwrapKeyBlocks_buffered crypto kek (wrappedState encrypted)
  rw [count, buffered_wrappedState whole] at blocks
  simp only [aesKeyUnwrap, post_bind, post_get, lengths, post_liftResult_ok, blocks, buffered,
    post_ite, post_modify, post_throw, post_pure, ne_eq, ite_not]
  by_cases accepted : (unwrap (aesWrapCipher crypto kek) (wrappedState encrypted)).integrity =
      aesKeyWrapIv
  · simp only [if_pos accepted, and_self]
  · simp only [if_neg accepted, and_self]

theorem aesKeyUnwrap_refused {encrypted out : Bytes}
    (refused : ¬ (WrappedLength encrypted ∧ encrypted.length - 8 ≤ out.length)) :
    Post (aesKeyUnwrap crypto kek encrypted) out fun result after =>
      (∃ failure, result = .error failure) ∧ after = out := by
  have lengths : ∃ failure, validateWrappedKeyLengths encrypted out = .error failure := by
    rw [WrappedLength] at refused
    by_cases whole : encrypted.length < 24 ∨ encrypted.length % 8 ≠ 0
    · exact ⟨_, if_pos whole⟩
    · refine ⟨.outputTooSmall, ?_⟩
      rw [validateWrappedKeyLengths, if_neg whole, if_pos (by omega)]
  obtain ⟨failure, lengths⟩ := lengths
  simp only [aesKeyUnwrap, post_bind, post_get, lengths, post_liftResult]
  exact ⟨⟨failure, rfl⟩, trivial⟩

variable {crypto} in
/-- What was wrapped under the key is unwrapped again. -/
theorem aesKeyUnwrap_aesKeyWrap (inverse : crypto.Inverse) {plain out : Bytes}
    (long : 16 ≤ plain.length) (even : plain.length % 8 = 0) (fits : plain.length ≤ out.length) :
    Post (aesKeyUnwrap crypto kek (aesKeyWrap crypto kek plain)) out fun result after =>
      result = .ok plain.length ∧ after.take plain.length = plain := by
  have whole : plain.length = plain.length / 8 * 8 := by omega
  let cipher := aesWrapCipher crypto kek
  let wrapped := wrap cipher aesKeyWrapIv (registersOf (plain.length / 8) plain)
  have count : wrapped.registers.length = plain.length / 8 := by
    rw [length_wrap]
    simp [registersOf]
  have initial : wrapped.integrity.1.length = 8 := wrapped.integrity.2
  have length : (aesKeyWrap crypto kek plain).length = 8 + plain.length := by
    rw [show aesKeyWrap crypto kek plain = wrapped.integrity.1 ++ flat wrapped.registers from rfl,
      List.length_append, initial, length_flat, count, ← whole]
  have state : wrappedState (aesKeyWrap crypto kek plain) = wrapped := by
    rw [wrappedState, length, Nat.add_sub_cancel_left, ← count]
    have front : octetsAt (aesKeyWrap crypto kek plain) 0 8 = wrapped.integrity := by
      apply Subtype.ext
      rw [octetsAt_eq_slice (by omega)]
      exact List.take_left' initial
    have back : (aesKeyWrap crypto kek plain).drop 8 = flat wrapped.registers :=
      List.drop_left' initial
    rw [front, back, registersOf_flat]
  have unwrapped : unwrap cipher wrapped = ⟨aesKeyWrapIv, registersOf (plain.length / 8) plain⟩ :=
    unwrap_wrap (aesWrapCipher_lawful kek inverse) _ _
  refine (aesKeyUnwrap_spec crypto kek ⟨by omega, by omega⟩ (by omega)).mono ?_
  intro result after outcome
  rw [state, show unwrap (aesWrapCipher crypto kek) wrapped = _ from unwrapped, if_pos rfl, length,
    Nat.add_sub_cancel_left, flat_registersOf whole] at outcome
  obtain ⟨rfl, rfl⟩ := outcome
  refine ⟨rfl, ?_⟩
  have copied : (splice out 0 plain).take (0 + plain.length) = out.take 0 ++ plain :=
    take_splice (by omega)
  simpa using copied

end Unwrap

end Nrf7002
