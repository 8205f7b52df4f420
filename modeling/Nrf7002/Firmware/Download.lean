import Nrf7002.Firmware.Grammar
import Nrf7002.Transport.Flat

/-! # The firmware download

The four images are written one after another to fixed addresses.  A primary image lies
behind its processor's secondary image, which is written later and may reach it. -/

set_option autoImplicit false

namespace Nrf7002
open Foundation

namespace FirmwareBundle
section Download
variable {β ε : Type} [Bus β ε]

def downloadKinds (bundle : FirmwareBundle) :
    List ImageKind → Program (Rpu β) (LoadError ε) Unit
  | [] => pure ()
  | kind :: rest => do
      let image ← liftResult ((bundle.image kind).mapError .firmware)
      let (processor, destination) := kind.destination
      mapError (fun error => .rpu (.download kind) error)
        (Rpu.write processor destination image.data)
      bundle.downloadKinds rest

/-- The UMAC images come first. -/
def downloadImages (bundle : FirmwareBundle) : Program (Rpu β) (LoadError ε) Unit :=
  bundle.downloadKinds [.umacPrimary, .umacSecondary, .lmacPrimary, .lmacSecondary]

end Download

/-! ## What a download leaves -/

section Held
variable {bundle : FirmwareBundle} {kind : ImageKind} {rpu final : Rpu MemoryBus}

/-- The destination of the image holds exactly its bytes. -/
def Holds (bundle : FirmwareBundle) (memory : ByteMemory) (kind : ImageKind) : Prop :=
  ∃ image offset, bundle.image kind = .ok image ∧
    hostOffset kind.destination.1 kind.destination.2 = .ok offset ∧
    memory.fetch offset.toNat image.data.length = image.data

/-- Where the secondary image, padded to words, reaches the primary one behind it, both
have the same bytes. -/
def Spares (bundle : FirmwareBundle) (secondary primary : ImageKind) : Prop :=
  ∀ second first, bundle.image secondary = .ok second → bundle.image primary = .ok first →
    ∀ gap, secondary.destination.2.toNat + gap = primary.destination.2.toNat →
    ∀ index, index < first.data.length → gap + index < (padded second.data).length →
      (padded second.data)[gap + index]? = first.data[index]?

/-- No secondary image changes a byte of its processor's primary image. -/
def Spared (bundle : FirmwareBundle) : Prop :=
  bundle.Spares .umacSecondary .umacPrimary ∧ bundle.Spares .lmacSecondary .lmacPrimary

theorem returns_downloadKinds_cons {rest : List ImageKind}
    (done : Returns (bundle.downloadKinds (kind :: rest)) rpu () final) :
    ∃ image offset next, bundle.image kind = .ok image ∧
      Linear kind.destination.1 kind.destination.2 offset image.data.length ∧
      next.bus.memory = rpu.bus.memory.store offset.toNat (padded image.data) ∧
      Returns (bundle.downloadKinds rest) next () final := by
  rw [downloadKinds, returns_bind] at done
  obtain ⟨image, middle, found, done⟩ := done
  rw [returns_liftResult] at found
  obtain ⟨found, rfl⟩ := found
  rw [returns_bind] at done
  obtain ⟨_, next, written, done⟩ := done
  rw [returns_mapError] at written
  obtain ⟨offset, linear, memory⟩ := returns_write_memory written
  refine ⟨image, offset, next, ?_, linear, memory, done⟩
  cases present : bundle.image kind with
  | error failure =>
      rw [present] at found
      cases found
  | ok value =>
      rw [present] at found
      cases found
      rfl

/-- The host offset of an image. -/
def place : ImageKind → UInt32
  | .umacPrimary => 0x29b800
  | .umacSecondary => 0x28c000
  | .lmacPrimary => 0x14bbc0
  | .lmacSecondary => 0x143a80

theorem hostOffset_destination (kind : ImageKind) :
    hostOffset kind.destination.1 kind.destination.2 = .ok (place kind) := by
  cases kind <;> decide

theorem holds_iff {memory : ByteMemory} {image : FirmwareImage}
    (found : bundle.image kind = .ok image) :
    bundle.Holds memory kind ↔
      memory.fetch (place kind).toNat image.data.length = image.data := by
  constructor
  · intro held
    obtain ⟨other, offset, same, mapped, bytes⟩ := held
    cases found.symm.trans same
    cases (hostOffset_destination kind).symm.trans mapped
    exact bytes
  · intro bytes
    exact ⟨image, place kind, found, hostOffset_destination kind, bytes⟩

/-- The memories of the LMAC end before those of the UMAC. -/
theorem lmac_hostOffset_lt {address offset : UInt32} (top : address.toNat < 0x81000000)
    (mapped : hostOffset .lmac address = .ok offset) : offset.toNat < 0x190000 := by
  have outside (first last : UInt32) (above : 0x81000000 ≤ first.toNat) :
      inRegion address first last = false := by
    rw [← Bool.not_eq_true, inRegion_iff]
    omega
  have unshared : sharedRegionBase address = none := by
    rw [sharedRegionBase, outside _ _ (by decide), outside _ _ (by decide),
      outside _ _ (by decide), outside _ _ (by decide)]
    rfl
  have value := toNat_hostOffset mapped
  rw [hostOffset, unshared] at mapped
  dsimp only [processorRegionBase] at mapped
  cases found : lmacRegionBase address with
  | none =>
      rw [found] at mapped
      cases mapped
  | some base =>
      have inside : 0x80000000 ≤ address.toNat ∧ address.toNat ≤ 0x8008ffff := by
        simp only [lmacRegionBase, Option.ite_none_right_eq_some, Bool.or_eq_true,
          inRegion_iff] at found
        simp only [UInt32.reduceToNat] at found
        omega
      have number : address.toNat / 2 ^ 24 = 0x80 := by omega
      have window : hostWindow .lmac 0x80 = 0x100000 := rfl
      rw [number, window] at value
      omega

/-- An LMAC image that was accepted ends before the UMAC's memories. -/
theorem lmac_ends {address offset : UInt32} {len : Nat}
    (linear : Linear .lmac address offset len) (direct : address.toNat < 0x80400000)
    (below : offset.toNat < 0x190000) : offset.toNat + align4 len ≤ 0x190000 := by
  rcases Nat.eq_zero_or_pos (align4 len) with empty | some
  · omega
  · obtain ⟨last, found, distance, mapped⟩ := linear.last some
    have limit := linear.limit
    have value := linear.shifted last found (by omega) (by omega) mapped
    have bound := lmac_hostOffset_lt (by omega) mapped
    omega

theorem fetch_padded (memory : ByteMemory) (first : Nat) (data : Bytes) :
    (memory.store first (padded data)).fetch first data.length = data := by
  have longer : data.length ≤ (padded data).length := by
    rw [padded, List.length_append]
    exact Nat.le_add_right _ _
  rw [← ByteMemory.take_fetch _ longer, ByteMemory.fetch_store, padded, List.take_left]

theorem spares_iff {secondary primary : ImageKind} {second first : FirmwareImage} {gap : Nat}
    (found : bundle.image secondary = .ok second) (behind : bundle.image primary = .ok first)
    (apart : secondary.destination.2.toNat + gap = primary.destination.2.toNat) :
    bundle.Spares secondary primary ↔
      ∀ index, index < first.data.length → gap + index < (padded second.data).length →
        (padded second.data)[gap + index]? = (padded first.data)[index]? := by
  have front (index : Nat) (inside : index < first.data.length) :
      (padded first.data)[index]? = first.data[index]? :=
    List.getElem?_append_left inside
  constructor
  · intro spares index below reached
    rw [front index below]
    exact spares second first found behind gap apart index below reached
  · intro agree second' first' found' behind' gap' apart' index below reached
    cases found.symm.trans found'
    cases behind.symm.trans behind'
    have same : gap' = gap := by omega
    rw [same] at reached ⊢
    rw [← front index below]
    exact agree index below reached

theorem holds_pair_iff {memory : ByteMemory} {first : FirmwareImage} {second : Bytes}
    {start gap : Nat} {primary : ImageKind} (found : bundle.image primary = .ok first)
    (apart : (place primary).toNat = start + gap) :
    bundle.Holds ((memory.store (place primary).toNat (padded first.data)).store start second)
        primary ↔
      ∀ index, index < first.data.length → gap + index < second.length →
        second[gap + index]? = (padded first.data)[index]? := by
  have few : first.data.length ≤ (padded first.data).length := by
    rw [padded, List.length_append]
    exact Nat.le_add_right _ _
  have lead : (padded first.data).take first.data.length = first.data := List.take_left
  have agree : _ ↔ ∀ index, index < first.data.length → gap + index < second.length →
      second[gap + index]? = (padded first.data)[index]? :=
    ByteMemory.fetch_store_store_iff memory apart few
  rw [lead] at agree
  rw [holds_iff found]
  exact agree

/-- The stores of the LMAC images leave the memories of the UMAC alone. -/
theorem holds_of_lmac_stores {memory : ByteMemory} {image : FirmwareImage} {first second : Nat}
    {left right : Bytes} (found : bundle.image kind = .ok image)
    (above : 0x190000 ≤ (place kind).toNat) (leftEnds : first + left.length ≤ 0x190000)
    (rightEnds : second + right.length ≤ 0x190000) :
    bundle.Holds ((memory.store first left).store second right) kind ↔
      bundle.Holds memory kind := by
  rw [holds_iff found, holds_iff found, ByteMemory.fetch_store_outside (.inr (by omega)),
    ByteMemory.fetch_store_outside (.inr (by omega))]

/-- After a download, every destination holds its image exactly when no secondary image
changes its processor's primary one. -/
theorem held_iff_spared (bundle : FirmwareBundle) (rpu final : Rpu MemoryBus)
    (done : Returns bundle.downloadImages rpu () final) :
    (∀ kind, bundle.Holds final.bus.memory kind) ↔ bundle.Spared := by
  obtain ⟨first, _, _, foundFirst, linearFirst, memoryFirst, done⟩ :=
    returns_downloadKinds_cons done
  obtain ⟨second, _, _, foundSecond, linearSecond, memorySecond, done⟩ :=
    returns_downloadKinds_cons done
  obtain ⟨third, _, _, foundThird, linearThird, memoryThird, done⟩ :=
    returns_downloadKinds_cons done
  obtain ⟨fourth, _, _, foundFourth, linearFourth, memoryFourth, done⟩ :=
    returns_downloadKinds_cons done
  rw [downloadKinds, returns_pure] at done
  obtain ⟨_, rfl⟩ := done
  cases (hostOffset_destination .umacPrimary).symm.trans linearFirst.mapped
  cases (hostOffset_destination .umacSecondary).symm.trans linearSecond.mapped
  cases (hostOffset_destination .lmacPrimary).symm.trans linearThird.mapped
  cases (hostOffset_destination .lmacSecondary).symm.trans linearFourth.mapped
  have thirdEnds := lmac_ends linearThird (by decide) (by decide)
  have fourthEnds := lmac_ends linearFourth (by decide) (by decide)
  rw [← length_padded] at thirdEnds fourthEnds
  rw [memoryFourth, memoryThird, memorySecond, memoryFirst]
  have umacApart : (place .umacPrimary).toNat = (place .umacSecondary).toNat + 0xf800 := rfl
  have lmacApart : (place .lmacPrimary).toNat = (place .lmacSecondary).toNat + 0x8140 := rfl
  have umacSpares := spares_iff foundSecond foundFirst
    (show ImageKind.umacSecondary.destination.2.toNat + 0xf800 = _ from rfl)
  have lmacSpares := spares_iff foundFourth foundThird
    (show ImageKind.lmacSecondary.destination.2.toNat + 0x8140 = _ from rfl)
  constructor
  · intro held
    constructor
    · have kept := (holds_of_lmac_stores foundFirst (by decide) thirdEnds fourthEnds).mp
        (held .umacPrimary)
      exact umacSpares.mpr ((holds_pair_iff foundFirst umacApart).mp kept)
    · exact lmacSpares.mpr ((holds_pair_iff foundThird lmacApart).mp (held .lmacPrimary))
  · intro spared kind
    obtain ⟨umac, lmac⟩ := spared
    cases kind with
    | umacPrimary =>
        apply (holds_of_lmac_stores foundFirst (by decide) thirdEnds fourthEnds).mpr
        exact (holds_pair_iff foundFirst umacApart).mpr (umacSpares.mp umac)
    | umacSecondary =>
        apply (holds_of_lmac_stores foundSecond (by decide) thirdEnds fourthEnds).mpr
        exact (holds_iff foundSecond).mpr (fetch_padded _ _ _)
    | lmacPrimary => exact (holds_pair_iff foundThird lmacApart).mpr (lmacSpares.mp lmac)
    | lmacSecondary => exact (holds_iff foundFourth).mpr (fetch_padded _ _ _)

/-! ## Bundles that reach a primary image -/

/-- One image of each kind, in the order of the download. -/
def imagesOf (data : ImageKind → Bytes) : List FirmwareImage :=
  ImageKind.all.map fun kind => { kind, data := data kind }

theorem fourImages_imagesOf {data : ImageKind → Bytes}
    (fits : (encodeImages (imagesOf data)).length < 2 ^ 32) : FourImages (imagesOf data) := by
  refine ⟨?_, fits⟩
  rw [imagesOf, List.map_map]
  exact .refl _

theorem image_imagesOf {data : ImageKind → Bytes} (hash : Octets 32)
    (four : FourImages (imagesOf data)) (kind : ImageKind) :
    (bundleOf hash (imagesOf data)).image kind = .ok { kind, data := data kind } :=
  four.image (List.mem_map.mpr ⟨kind, by cases kind <;> decide, rfl⟩)

/-- A download of images that fit their regions ends well. -/
theorem downloadKinds_returns {data : ImageKind → Bytes} (hash : Octets 32)
    (four : FourImages (imagesOf data))
    (accepted : ∀ kind : ImageKind, (validateAccess kind.destination.1 kind.destination.2
      (data kind).length : Except (RpuError Empty) Unit) = .ok ())
    (within : ∀ kind : ImageKind,
      WithinRegion kind.destination.1 kind.destination.2 (data kind).length)
    (kinds : List ImageKind) (rpu : Rpu MemoryBus) :
    ∃ final, Returns ((bundleOf hash (imagesOf data)).downloadKinds kinds) rpu () final := by
  induction kinds generalizing rpu with
  | nil => exact ⟨rpu, returns_pure.mpr ⟨rfl, rfl⟩⟩
  | cons kind rest hypothesis =>
      obtain ⟨middle, written⟩ := write_returns (accepted kind) (within kind) rpu
      obtain ⟨final, later⟩ := hypothesis middle
      refine ⟨final, ?_⟩
      rw [downloadKinds, returns_bind]
      refine ⟨{ kind, data := data kind }, rpu, ?_, ?_⟩
      · rw [returns_liftResult, image_imagesOf hash four]
        exact ⟨rfl, rfl⟩
      · rw [returns_bind]
        exact ⟨(), middle, returns_mapError.mpr written, later⟩

/-- The images of a bundle whose UMAC secondary image is one byte too long. -/
def overlongData : ImageKind → Bytes
  | .umacPrimary => [2]
  | .umacSecondary => List.replicate 0xf801 1
  | .lmacPrimary => [3]
  | .lmacSecondary => [4]

def overlongBundle : FirmwareBundle := bundleOf (zeroOctets 32) (imagesOf overlongData)

/-- The images of a small bundle. -/
def smallData : ImageKind → Bytes
  | .umacPrimary => [1]
  | .umacSecondary => [2]
  | .lmacPrimary => [3]
  | .lmacSecondary => [4]

def smallBundle (hash : Octets 32) : FirmwareBundle := bundleOf hash (imagesOf smallData)

def clearedRpu : Rpu MemoryBus := { bus := { memory := fun _ => 0 } }

theorem fourImages_overlong : FourImages (imagesOf overlongData) := by
  apply fourImages_imagesOf
  simp only [imagesOf, ImageKind.all, List.map_cons, List.map_nil, encodeImages_cons,
    List.length_append, FirmwareImage.length_encode, overlongData, List.length_replicate]
  decide

theorem fourImages_small : FourImages (imagesOf smallData) := fourImages_imagesOf (by decide)

theorem overlong_returns : ∃ final,
    Returns overlongBundle.downloadImages clearedRpu () final := by
  have length : (overlongData .umacSecondary).length = 0xf801 := List.length_replicate
  apply downloadKinds_returns _ fourImages_overlong
  · intro kind
    cases kind with
    | umacSecondary =>
        rw [length]
        decide
    | _ => decide
  · intro kind
    cases kind with
    | umacPrimary => exact ⟨(0x80080000, 0x800a3fff), by decide, by decide, by decide⟩
    | umacSecondary =>
        refine ⟨(0x80080000, 0x800a3fff), by decide, by decide, ?_⟩
        rw [length]
        decide
    | lmacPrimary => exact ⟨(0x80040000, 0x8004bfff), by decide, by decide, by decide⟩
    | lmacSecondary => exact ⟨(0x80040000, 0x8004bfff), by decide, by decide, by decide⟩

theorem overlong_not_spared :
    ¬ overlongBundle.Spared := by
  intro spared
  have found := image_imagesOf (zeroOctets 32) fourImages_overlong
  have long : (padded (List.replicate 0xf801 (1 : UInt8))).length = 0xf804 := by
    rw [length_padded, List.length_replicate]
    rfl
  have agree := spared.1 _ _ (found .umacSecondary) (found .umacPrimary) 0xf800 rfl 0
    (Nat.zero_lt_one) (by change _ < (padded (List.replicate 0xf801 (1 : UInt8))).length; omega)
  change (padded (List.replicate 0xf801 (1 : UInt8)))[0xf800]? = some 2 at agree
  have inside : 0xf800 < (List.replicate 0xf801 (1 : UInt8)).length := by
    rw [List.length_replicate]
    decide
  rw [padded, List.getElem?_append_left inside, List.getElem?_replicate, if_pos (by decide)] at agree
  cases agree

end Held

/-- Every accepted bundle has its four images, and after its download every destination
holds exactly its image if and only if no secondary image, padded to words, changes a byte
of the primary image behind it. -/
theorem accepted_images_held_iff (bytes : Bytes) (bundle : FirmwareBundle)
    (accepted : parse bytes = .ok bundle) (rpu final : Rpu MemoryBus)
    (done : Returns bundle.downloadImages rpu () final) :
    (∀ kind, ∃ image, bundle.image kind = .ok image) ∧
      ((∀ kind, bundle.Holds final.bus.memory kind) ↔ bundle.Spared) :=
  ⟨image_of_parse accepted, held_iff_spared bundle rpu final done⟩

theorem smallData_held : ∃ final,
    Returns (smallBundle (zeroOctets 32)).downloadImages clearedRpu () final ∧
      (∀ kind, ∃ image, (smallBundle (zeroOctets 32)).image kind = .ok image) ∧
      ((∀ kind, (smallBundle (zeroOctets 32)).Holds final.bus.memory kind) ↔
        (smallBundle (zeroOctets 32)).Spared) := by
  obtain ⟨final, done⟩ : ∃ final,
      Returns (smallBundle (zeroOctets 32)).downloadImages clearedRpu () final := by
    apply downloadKinds_returns _ fourImages_small
    · intro kind
      cases kind <;> decide
    · intro kind
      cases kind with
      | umacPrimary => exact ⟨(0x80080000, 0x800a3fff), by decide, by decide, by decide⟩
      | umacSecondary => exact ⟨(0x80080000, 0x800a3fff), by decide, by decide, by decide⟩
      | lmacPrimary => exact ⟨(0x80040000, 0x8004bfff), by decide, by decide, by decide⟩
      | lmacSecondary => exact ⟨(0x80040000, 0x8004bfff), by decide, by decide, by decide⟩
  exact ⟨final, done, accepted_images_held_iff _ _ fourImages_small.parse _ _ done⟩

/-- A UMAC secondary image of 0xf801 bytes is accepted and overwrites the first byte of the
primary one. -/
theorem overlong_overwrites : ¬ ∀ (bytes : Bytes) (bundle : FirmwareBundle)
    (rpu final : Rpu MemoryBus), parse bytes = .ok bundle →
      Returns bundle.downloadImages rpu () final →
      ∀ kind, bundle.Holds final.bus.memory kind := by
  intro always
  obtain ⟨final, done⟩ := overlong_returns
  have held := always _ _ _ final fourImages_overlong.parse done
  exact overlong_not_spared ((held_iff_spared _ _ final done).mp held)

end FirmwareBundle

end Nrf7002
