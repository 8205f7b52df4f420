import Nrf7002.Transport.Device
import Nrf7002.Transport.Ranges

/-! # Host offsets tell addresses apart

The regions under one top byte have a host window of their own, and the windows of the two
processors overlap in the shared memories alone.  An offset therefore names its address,
and the processor where the memory is its own. -/

set_option autoImplicit false

namespace Nrf7002
open Foundation

/-! ## Host windows -/

section Windows
variable {processor other : Processor} {address offset : UInt32}

/-- The top bytes of the shared memories and of the processors' own ones. -/
def mappedTops : List Nat := [0xa4, 0xa5, 0xb7, 0xb0, 0x80]

/-- The bytes of the host window of a top byte. -/
def windowLen (processor : Processor) (top : Nat) : Nat :=
  if top = 0x80 then
    match processor with
    | .lmac => 2 ^ 20
    | .umac => 2 ^ 21
  else 2 ^ 18

theorem mappedRegions_fit (processor : Processor) :
    ∀ region ∈ mappedRegions processor, region.1.toNat / 2 ^ 24 ∈ mappedTops ∧
      region.2.toNat % 2 ^ 24 < windowLen processor (region.1.toNat / 2 ^ 24) := by
  cases processor with
  | lmac => simp [mappedRegions, mappedTops, windowLen]
  | umac => simp [mappedRegions, mappedTops, windowLen]

/-- Two windows are apart, or they are one window: that of a shared memory, or that of one
processor. -/
theorem hostWindow_disjoint (processor other : Processor) :
    ∀ top ∈ mappedTops, ∀ last ∈ mappedTops,
      hostWindow processor top + windowLen processor top ≤ hostWindow other last ∨
        hostWindow other last + windowLen other last ≤ hostWindow processor top ∨
          top = last ∧ (processor = other ∨ top ≠ 0x80) := by
  cases processor <;> cases other <;> decide

theorem hostWindow_shared (processor other : Processor) {top : Nat} (known : top ∈ mappedTops)
    (shared : top ≠ 0x80) : hostWindow processor top = hostWindow other top := by
  have all : ∀ top ∈ mappedTops, top ≠ 0x80 → hostWindow processor top = hostWindow other top := by
    cases processor <;> cases other <;> decide
  exact all top known shared

/-- Regions outside of the processors' own memories are regions of both. -/
theorem mappedRegions_shared (processor other : Processor) :
    ∀ region ∈ mappedRegions processor, region.1.toNat / 2 ^ 24 ≠ 0x80 →
      region ∈ mappedRegions other := by
  cases processor <;> cases other <;> simp [mappedRegions]

/-- Where a mapped address lies in its host window. -/
structure InWindow (processor : Processor) (address offset : UInt32) : Prop where
  known : address.toNat / 2 ^ 24 ∈ mappedTops
  inside : address.toNat % 2 ^ 24 < windowLen processor (address.toNat / 2 ^ 24)
  place : offset.toNat =
    hostWindow processor (address.toNat / 2 ^ 24) + address.toNat % 2 ^ 24

theorem inWindow_of_hostOffset (mapped : hostOffset processor address = .ok offset) :
    InWindow processor address offset := by
  obtain ⟨region, member, inside⟩ := inSomeRegion_of_hostOffset mapped
  have top := top_of_region member inside
  have one := mappedRegions_one_top processor region member
  obtain ⟨known, fits⟩ := mappedRegions_fit processor region member
  have bounds := inRegion_iff.mp inside
  refine ⟨by rwa [top], ?_, toNat_hostOffset mapped⟩
  rw [top]
  omega

/-- An address in a region that both processors map. -/
def InSharedRegion (address : UInt32) : Prop :=
  ∃ region, region ∈ mappedRegions .lmac ∧ region ∈ mappedRegions .umac ∧
    inRegion address region.1 region.2 = true

theorem inSharedRegion_of_top (mapped : hostOffset processor address = .ok offset)
    (shared : address.toNat / 2 ^ 24 ≠ 0x80) : InSharedRegion address := by
  obtain ⟨region, member, inside⟩ := inSomeRegion_of_hostOffset mapped
  rw [top_of_region member inside] at shared
  exact ⟨region, mappedRegions_shared processor .lmac region member shared,
    mappedRegions_shared processor .umac region member shared, inside⟩

end Windows

/-! ## Injectivity -/

section Injective

theorem hostOffset_inj {processor other : Processor} {address another offset : UInt32}
    (mapped : hostOffset processor address = .ok offset)
    (also : hostOffset other another = .ok offset) :
    address = another ∧ (processor = other ∨ InSharedRegion address) := by
  have first := inWindow_of_hostOffset mapped
  have second := inWindow_of_hostOffset also
  have inside := first.inside
  have within := second.inside
  have place := first.place.symm.trans second.place
  rcases hostWindow_disjoint processor other _ first.known _ second.known with
    below | above | ⟨top, whose⟩
  · omega
  · omega
  · have window : hostWindow processor (address.toNat / 2 ^ 24) =
        hostWindow other (another.toNat / 2 ^ 24) := by
      rw [← top]
      rcases whose with same | shared
      · rw [same]
      · exact hostWindow_shared processor other first.known shared
    have same : address.toNat = another.toNat := by omega
    refine ⟨UInt32.toNat_inj.mp same, ?_⟩
    rcases whose with same | shared
    · exact .inl same
    · exact .inr (inSharedRegion_of_top mapped shared)

/-- The address flag is taken off again. -/
theorem unflag_wireAddress {σ : Type} {transport : SpiTransport σ} {offset : UInt32}
    (mask : transport.config.addressMask = incrementingAddressMask)
    (small : offset.toNat < 2 ^ 23) :
    transport.wireAddress offset &&& 0x007fffff = offset := by
  have wire := toNat_wireAddress mask small
  have low : (transport.wireAddress offset &&& 0x007fffff).toNat =
      (transport.wireAddress offset).toNat % 2 ^ 23 := by
    rw [UInt32.toNat_and]
    exact Nat.and_two_pow_sub_one_eq_mod _ 23
  apply UInt32.toNat_inj.mp
  rw [low, wire]
  omega

/-- Mapped addresses with one host offset are one address, and the processors differ in a
shared region alone.  Every host offset leaves the address flag clear, so that it is read
back from the wire address. -/
theorem hostOffset_injective :
    (∀ (processor other : Processor) (address another offset : UInt32),
      hostOffset processor address = .ok offset → hostOffset other another = .ok offset →
        address = another ∧ (processor = other ∨ InSharedRegion address)) ∧
    ∀ (processor : Processor) (address offset : UInt32),
      hostOffset processor address = .ok offset →
        offset.toNat < 2 ^ 23 ∧
        ∀ (σ : Type) (transport : SpiTransport σ),
          transport.config.addressMask = incrementingAddressMask →
            (transport.wireAddress offset).toNat = offset.toNat + 2 ^ 23 ∧
            transport.wireAddress offset &&& 0x007fffff = offset := by
  constructor
  · intro processor other address another offset mapped also
    exact hostOffset_inj mapped also
  · intro processor address offset mapped
    have small := hostOffset_lt mapped
    refine ⟨small, ?_⟩
    intro σ transport mask
    exact ⟨toNat_wireAddress mask small, unflag_wireAddress mask small⟩

end Injective

end Nrf7002
