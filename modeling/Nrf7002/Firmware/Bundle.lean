import Nrf7002.Memory

/-! # The firmware bundle

A header and four images in one byte string.  The parser borrows the images from it, and
bounds their lengths by the bundle alone. -/

set_option autoImplicit false

namespace Nrf7002
open Foundation

def patchSignature : UInt32 := 0xdead1eaf
def patchImageCount : Nat := 4
def pinnedPatchVersion : UInt32 := 0x01020e09
def featureSystemMode : UInt32 := (1 : UInt32) <<< 0
def patchHeaderLen : Nat := 52
def imageHeaderLen : Nat := 8

def rpuMemLmacPatchBin : UInt32 := 0x80043a80
def rpuMemLmacPatchBimg : UInt32 := 0x8004bbc0
def rpuMemUmacPatchBin : UInt32 := 0x8008c000
def rpuMemUmacPatchBimg : UInt32 := 0x8009b800

/-! ## What firmware loading reports -/

inductive ImageKind where
  | umacPrimary
  | umacSecondary
  | lmacPrimary
  | lmacSecondary
  deriving DecidableEq, Repr

inductive FirmwareError where
  | truncatedHeader
  | badSignature (value : UInt32)
  | badImageCount (value : UInt32)
  | incompatibleVersion (value : UInt32)
  | incompatibleFeatures (value : UInt32)
  | truncatedPayload
  | truncatedImage
  | invalidImageType (value : UInt32)
  | lengthMismatch
  | hashMismatch
  | untrustedImage
  deriving DecidableEq

inductive LoadStage where
  | reset (processor : Processor)
  | download (kind : ImageKind)
  | boot (processor : Processor)
  deriving DecidableEq

inductive LoadError (ε : Type) where
  | firmware (error : FirmwareError)
  | rpu (stage : LoadStage) (error : RpuError ε)
  | missingImage (kind : ImageKind)
  deriving DecidableEq

structure FirmwareReport where
  version : UInt32
  featureFlags : UInt32
  deriving DecidableEq

/-! ## Images -/

namespace ImageKind

def number : ImageKind → UInt32
  | umacPrimary => 0
  | umacSecondary => 1
  | lmacPrimary => 2
  | lmacSecondary => 3

def fromU32 (value : UInt32) : Except FirmwareError ImageKind :=
  if value = 0 then .ok umacPrimary
  else if value = 1 then .ok umacSecondary
  else if value = 2 then .ok lmacPrimary
  else if value = 3 then .ok lmacSecondary
  else .error (.invalidImageType value)

def destination : ImageKind → Processor × UInt32
  | umacPrimary => (.umac, rpuMemUmacPatchBimg)
  | umacSecondary => (.umac, rpuMemUmacPatchBin)
  | lmacPrimary => (.lmac, rpuMemLmacPatchBimg)
  | lmacSecondary => (.lmac, rpuMemLmacPatchBin)

theorem fromU32_number (kind : ImageKind) : fromU32 kind.number = .ok kind := by
  cases kind <;> rfl

end ImageKind

structure FirmwareHeader where
  version : UInt32
  featureFlags : UInt32
  payloadLen : UInt32
  hash : Octets 32
  deriving DecidableEq

structure FirmwareImage where
  kind : ImageKind
  data : Bytes
  deriving DecidableEq

structure FirmwareBundle where
  bytes : Bytes
  header : FirmwareHeader
  payloadEnd : Nat
  deriving DecidableEq

namespace FirmwareBundle

/-! ## Parsing -/

/-- A sum that leaves the address space fails as one that leaves the payload. -/
def imageExtent (bundle : FirmwareBundle) (offset : Nat) :
    Except FirmwareError (ImageKind × Nat × Nat) := do
  let headerEnd := offset + imageHeaderLen
  if bundle.payloadEnd < headerEnd then throw .truncatedImage
  let kind ← ImageKind.fromU32 (readU32 bundle.bytes offset)
  let len := (readU32 bundle.bytes (offset + 4)).toNat
  let last := headerEnd + len
  if bundle.payloadEnd < last then throw .truncatedImage
  return (kind, headerEnd, last)

def imageFrom (bundle : FirmwareBundle) (wanted : ImageKind) :
    Nat → Nat → Except FirmwareError FirmwareImage
  | 0, _ => .error (.invalidImageType wanted.number)
  | count + 1, offset => do
      let (kind, start, last) ← bundle.imageExtent offset
      if kind = wanted then return { kind, data := slice bundle.bytes start last }
      bundle.imageFrom wanted count last

def image (bundle : FirmwareBundle) (wanted : ImageKind) : Except FirmwareError FirmwareImage :=
  bundle.imageFrom wanted patchImageCount patchHeaderLen

/-- The kinds seen in the next images, and where those end. -/
def seenFrom (bundle : FirmwareBundle) : Nat → Nat → UInt8 → Except FirmwareError (UInt8 × Nat)
  | 0, offset, seen => .ok (seen, offset)
  | count + 1, offset, seen => do
      let (kind, _, last) ← bundle.imageExtent offset
      let mask := (1 : UInt8) <<< kind.number.toUInt8
      if seen &&& mask ≠ 0 then throw (.invalidImageType kind.number)
      bundle.seenFrom count last (seen ||| mask)

def validateImages (bundle : FirmwareBundle) : Except FirmwareError Unit := do
  let (seen, offset) ← bundle.seenFrom patchImageCount patchHeaderLen 0
  if seen ≠ 0b1111 ∨ offset ≠ bundle.payloadEnd then throw .lengthMismatch

def parseCompatibleHeader (bytes : Bytes) : Except FirmwareError FirmwareHeader := do
  let signature := readU32 bytes 0
  if signature ≠ patchSignature then throw (.badSignature signature)
  let imageCount := readU32 bytes 4
  if imageCount.toNat ≠ patchImageCount then throw (.badImageCount imageCount)
  let version := readU32 bytes 8
  if version ≠ pinnedPatchVersion then throw (.incompatibleVersion version)
  let featureFlags := readU32 bytes 12
  if featureFlags ≠ featureSystemMode then throw (.incompatibleFeatures featureFlags)
  return { version, featureFlags, payloadLen := readU32 bytes 16, hash := octetsAt bytes 20 32 }

def exactPayloadEnd (bytes : Bytes) (payloadLen : UInt32) : Except FirmwareError Nat := do
  let payloadEnd := patchHeaderLen + payloadLen.toNat
  if bytes.length < payloadEnd then throw .truncatedPayload
  if payloadEnd ≠ bytes.length then throw .lengthMismatch
  return payloadEnd

def parse (bytes : Bytes) : Except FirmwareError FirmwareBundle := do
  if bytes.length < patchHeaderLen then throw .truncatedHeader
  let header ← parseCompatibleHeader bytes
  let payloadEnd ← exactPayloadEnd bytes header.payloadLen
  let bundle : FirmwareBundle := { bytes, header, payloadEnd }
  bundle.validateImages
  return bundle

/-! ## Accepted bundles -/

section Accepted
variable {bundle : FirmwareBundle} {kind other : ImageKind} {seen total : UInt8}
  {count offset last : Nat}

def mask (kind : ImageKind) : UInt8 := (1 : UInt8) <<< kind.number.toUInt8

theorem mask_seen (found : (seen ||| mask other) &&& mask kind ≠ 0) :
    seen &&& mask kind ≠ 0 ∨ other = kind := by
  by_cases same : other = kind
  · exact .inr same
  · have apart : mask other &&& mask kind = 0 := by
      cases other <;> cases kind <;> first | rfl | exact absurd rfl same
    have split : (seen ||| mask other) &&& mask kind =
        (seen &&& mask kind) ||| (mask other &&& mask kind) :=
      UInt8.toBitVec_inj.mp BitVec.and_or_distrib_right
    rw [split, apart, UInt8.or_zero] at found
    exact .inl found

/-- A kind that is seen in the next images is found there. -/
theorem imageFrom_of_seenFrom (walked : bundle.seenFrom count offset seen = .ok (total, last))
    (found : total &&& mask kind ≠ 0) :
    seen &&& mask kind ≠ 0 ∨ ∃ image, bundle.imageFrom kind count offset = .ok image := by
  induction count generalizing offset seen with
  | zero =>
      cases walked
      exact .inl found
  | succ count hypothesis =>
      rw [seenFrom, bind_eq_ok] at walked
      obtain ⟨⟨first, start, stop⟩, extent, walked⟩ := walked
      dsimp only at walked
      by_cases repeated : seen &&& (1 : UInt8) <<< first.number.toUInt8 ≠ 0
      · rw [if_pos repeated] at walked
        cases walked
      · rw [if_neg repeated] at walked
        rw [imageFrom, extent]
        rcases hypothesis walked with before | later
        · rcases mask_seen before with earlier | same
          · exact .inl earlier
          · refine .inr ⟨_, if_pos same⟩
        · obtain ⟨image, later⟩ := later
          right
          by_cases same : first = kind
          · exact ⟨_, if_pos same⟩
          · exact ⟨image, (if_neg same).trans later⟩

/-- An accepted bundle has an image of every kind. -/
theorem image_of_parse {bytes : Bytes} (accepted : parse bytes = .ok bundle) (kind : ImageKind) :
    ∃ image, bundle.image kind = .ok image := by
  rw [parse] at accepted
  by_cases short : bytes.length < patchHeaderLen
  · rw [if_pos short] at accepted
    cases accepted
  · rw [if_neg short, bind_eq_ok] at accepted
    obtain ⟨header, _, accepted⟩ := accepted
    rw [bind_eq_ok] at accepted
    obtain ⟨payloadEnd, _, accepted⟩ := accepted
    rw [bind_eq_ok] at accepted
    obtain ⟨_, valid, same⟩ := accepted
    cases same
    rw [validateImages, bind_eq_ok] at valid
    obtain ⟨⟨total, stop⟩, walked, valid⟩ := valid
    have all : total = 0b1111 := by
      by_contra missing
      dsimp only at valid
      rw [if_pos (.inl missing)] at valid
      cases valid
    have bit : total &&& mask kind ≠ 0 := by
      rw [all]
      cases kind <;> decide
    rcases imageFrom_of_seenFrom walked bit with impossible | found
    · exact absurd (UInt8.zero_and) impossible
    · exact found

end Accepted

end FirmwareBundle

end Nrf7002
