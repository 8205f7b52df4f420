import Nrf7002.Foundation.ByteMemory
import Nrf7002.Trace

/-! # The memory layer on a flat memory

Host offsets grow with the processor's addresses inside a region.  On a bus whose
transfers act on a byte-addressed memory, the chunks, the words and the padded tail of
one access are therefore one access of that memory. -/

set_option autoImplicit false

namespace Nrf7002
open Foundation

/-! ## Host offsets -/

section Offsets
variable {processor : Processor} {address offset : UInt32}

/-- The host window of a processor's own memories. -/
def directBase : Processor → UInt32
  | .lmac => hostLmacDirectBase
  | .umac => hostUmacDirectBase

/-- The host window of the addresses with one top byte. -/
def hostWindow (processor : Processor) (top : Nat) : Nat :=
  if top = 0xa4 then 0x000000
  else if top = 0xa5 then 0x040000
  else if top = 0xb7 then 0x080000
  else if top = 0xb0 then 0x0c0000
  else (directBase processor).toNat

theorem inRegion_iff {first last : UInt32} :
    inRegion address first last = true ↔
      first.toNat ≤ address.toNat ∧ address.toNat ≤ last.toNat := by
  simp [inRegion, UInt32.le_iff_toNat_le]

theorem toNat_maskOffset (address : UInt32) :
    (address &&& rpuAddrMaskOffset).toNat = address.toNat % 2 ^ 24 := by
  rw [UInt32.toNat_and]
  exact Nat.and_two_pow_sub_one_eq_mod address.toNat 24

/-- A region of the low bytes under one top byte. -/
theorem top_of_inRegion {first last : UInt32} (top : Nat) (inside : inRegion address first last = true)
    (lower : top * 2 ^ 24 ≤ first.toNat) (upper : last.toNat < top * 2 ^ 24 + 2 ^ 22) :
    address.toNat / 2 ^ 24 = top ∧ address.toNat % 2 ^ 24 < 2 ^ 22 := by
  rw [inRegion_iff] at inside
  omega

/-- The base and the address of a mapped region. -/
def Placed (processor : Processor) (address base : UInt32) : Prop :=
  base.toNat = hostWindow processor (address.toNat / 2 ^ 24) ∧ address.toNat % 2 ^ 24 < 2 ^ 22

theorem sharedRegionBase_placed {base : UInt32} (found : sharedRegionBase address = some base) :
    Placed processor address base := by
  rw [sharedRegionBase] at found
  split at found
  · rename_i inside
    obtain ⟨number, low⟩ := top_of_inRegion 0xa4 inside (by decide) (by decide)
    cases found
    exact ⟨by rw [number]; rfl, low⟩
  · split at found
    · rename_i inside
      obtain ⟨number, low⟩ := top_of_inRegion 0xa5 inside (by decide) (by decide)
      cases found
      exact ⟨by rw [number]; rfl, low⟩
    · split at found
      · rename_i inside
        obtain ⟨number, low⟩ := top_of_inRegion 0xb7 inside (by decide) (by decide)
        cases found
        exact ⟨by rw [number]; rfl, low⟩
      · split at found
        · rename_i inside
          obtain ⟨number, low⟩ := top_of_inRegion 0xb0 inside (by decide) (by decide)
          cases found
          exact ⟨by rw [number]; rfl, low⟩
        · cases found

theorem processorRegionBase_placed {base : UInt32}
    (found : processorRegionBase processor address = some base) :
    Placed processor address base := by
  have direct : (address.toNat / 2 ^ 24 = 0x80 ∧ address.toNat % 2 ^ 24 < 2 ^ 22) ∧
      base = directBase processor := by
    cases processor with
    | lmac =>
        simp only [processorRegionBase, lmacRegionBase, Option.ite_none_right_eq_some,
          Bool.or_eq_true, Option.some.injEq] at found
        obtain ⟨(inside | inside) | inside, rfl⟩ := found
        · exact ⟨top_of_inRegion 0x80 inside (by decide) (by decide), rfl⟩
        · exact ⟨top_of_inRegion 0x80 inside (by decide) (by decide), rfl⟩
        · exact ⟨top_of_inRegion 0x80 inside (by decide) (by decide), rfl⟩
    | umac =>
        simp only [processorRegionBase, umacRegionBase, Option.ite_none_right_eq_some,
          Bool.or_eq_true, Option.some.injEq] at found
        obtain ⟨(inside | inside) | inside, rfl⟩ := found
        · exact ⟨top_of_inRegion 0x80 inside (by decide) (by decide), rfl⟩
        · exact ⟨top_of_inRegion 0x80 inside (by decide) (by decide), rfl⟩
        · exact ⟨top_of_inRegion 0x80 inside (by decide) (by decide), rfl⟩
  obtain ⟨⟨number, low⟩, rfl⟩ := direct
  exact ⟨by rw [number]; rfl, low⟩

theorem hostWindow_lt (processor : Processor) (top : Nat) : hostWindow processor top < 2 ^ 22 := by
  have direct : (directBase processor).toNat < 2 ^ 22 := by
    cases processor <;> decide
  rw [hostWindow]
  split_ifs
  · decide
  · decide
  · decide
  · decide
  · exact direct

theorem hostOffset_placed (mapped : hostOffset processor address = .ok offset) :
    ∃ base, Placed processor address base ∧ offset = base + (address &&& rpuAddrMaskOffset) := by
  rw [hostOffset] at mapped
  split at mapped
  · rename_i base found
    cases mapped
    exact ⟨base, sharedRegionBase_placed found, rfl⟩
  · split at mapped
    · rename_i base found
      cases mapped
      exact ⟨base, processorRegionBase_placed found, rfl⟩
    · cases mapped

theorem toNat_hostOffset (mapped : hostOffset processor address = .ok offset) :
    offset.toNat = hostWindow processor (address.toNat / 2 ^ 24) + address.toNat % 2 ^ 24 := by
  obtain ⟨base, ⟨window, low⟩, rfl⟩ := hostOffset_placed mapped
  have small := hostWindow_lt processor (address.toNat / 2 ^ 24)
  rw [UInt32.toNat_add, toNat_maskOffset, window, Nat.mod_eq_of_lt (by omega)]

/-- Every host offset leaves the address flag of the wire clear. -/
theorem hostOffset_lt (mapped : hostOffset processor address = .ok offset) :
    offset.toNat < 2 ^ 23 := by
  have value := toNat_hostOffset mapped
  have small := hostWindow_lt processor (address.toNat / 2 ^ 24)
  obtain ⟨base, ⟨_, low⟩, _⟩ := hostOffset_placed mapped
  omega

/-- Two addresses lie as far apart as their host offsets only under one top byte: the
windows are smaller than the distance of two top bytes. -/
theorem one_top {final found : UInt32} (mapped : hostOffset processor address = .ok offset)
    (ends : hostOffset processor final = .ok found)
    (apart : found.toNat + address.toNat = offset.toNat + final.toNat) :
    final.toNat / 2 ^ 24 = address.toNat / 2 ^ 24 := by
  have firstValue := toNat_hostOffset mapped
  have lastValue := toNat_hostOffset ends
  have firstWindow := hostWindow_lt processor (address.toNat / 2 ^ 24)
  have lastWindow := hostWindow_lt processor (final.toNat / 2 ^ 24)
  have firstLimit := hostOffset_lt mapped
  have lastLimit := hostOffset_lt ends
  omega

/-- The addresses of an access lie at the host offset of the first one, in order. -/
structure Linear (processor : Processor) (address offset : UInt32) (len : Nat) : Prop where
  mapped : hostOffset processor address = .ok offset
  inside : address.toNat + align4 len ≤ 2 ^ 32
  limit : offset.toNat + align4 len ≤ 2 ^ 23
  last : 0 < align4 len → ∃ final found : UInt32,
    final.toNat = address.toNat + align4 len - 1 ∧ hostOffset processor final = .ok found
  shifted : ∀ first found : UInt32, address.toNat ≤ first.toNat →
    first.toNat < address.toNat + align4 len → hostOffset processor first = .ok found →
    found.toNat = offset.toNat + (first.toNat - address.toNat)

theorem validateAccess_linear {ε : Type} {len : Nat}
    (accepted : (validateAccess processor address len : Except (RpuError ε) Unit) = .ok ()) :
    ∃ offset, Linear processor address offset len := by
  have inside : 0 < len → address.toNat + align4 len ≤ 2 ^ 32 :=
    Rpu.validateAccess_eq_ok accepted
  have rounded : align4 len = (len + 3) / 4 * 4 := rfl
  rw [validateAccess] at accepted
  by_cases unaligned : address &&& 3 ≠ 0
  · rw [if_pos unaligned] at accepted
    cases accepted
  · rw [if_neg unaligned, checkedRange] at accepted
    by_cases empty : align4 len = 0
    · rw [if_pos empty, bind_eq_ok] at accepted
      obtain ⟨offset, first, _⟩ := accepted
      have mapped := Rpu.mappedOffset_eq_ok first
      have bound := address.toNat_lt
      have limit := hostOffset_lt mapped
      refine ⟨offset, mapped, by omega, by omega, fun some => absurd some (by omega), ?_⟩
      intro between found lower upper
      omega
    rw [if_neg empty, bind_eq_ok] at accepted
    obtain ⟨span, spanned, accepted⟩ := accepted
    rw [bind_eq_ok] at accepted
    obtain ⟨last, ends, accepted⟩ := accepted
    rw [bind_eq_ok] at accepted
    obtain ⟨firstOffset, first, accepted⟩ := accepted
    rw [bind_eq_ok] at accepted
    obtain ⟨lastOffset, final, accepted⟩ := accepted
    have firstMapped := Rpu.mappedOffset_eq_ok first
    have lastMapped := Rpu.mappedOffset_eq_ok final
    have lastNat := Rpu.checkedAdd_eq_ok ends
    rw [checkedSpan, accepted_eq_ok] at spanned
    obtain ⟨small, same⟩ := spanned
    have spanNat : span.toNat = align4 len - 1 := by
      rw [← Except.ok.inj same, UInt32.toNat_ofNat_of_lt' small]
    have ordered : ¬ (lastOffset < firstOffset ∨ lastOffset - firstOffset ≠ span) := by
      intro crossed
      rw [if_pos crossed] at accepted
      cases accepted
    rw [not_or, not_not, UInt32.not_lt, UInt32.le_iff_toNat_le] at ordered
    obtain ⟨order, distance⟩ := ordered
    have distanceNat : lastOffset.toNat - firstOffset.toNat = align4 len - 1 := by
      rw [← spanNat, ← distance, UInt32.toNat_sub_of_le _ _ order]
    have firstValue := toNat_hostOffset firstMapped
    have lastLimit := hostOffset_lt lastMapped
    have oneTop := one_top firstMapped lastMapped (by omega)
    refine ⟨firstOffset, firstMapped, by omega, by omega,
      fun _ => ⟨last, lastOffset, by omega, lastMapped⟩, ?_⟩
    intro between found lower upper mapped
    have value := toNat_hostOffset mapped
    have top : between.toNat / 2 ^ 24 = address.toNat / 2 ^ 24 := by
      omega
    rw [top] at value
    omega

theorem Linear.chunk {ε : Type} {len index : Nat} {found : UInt32}
    (linear : Linear processor address offset len) (inside : index * maxBusChunk < align4 len)
    (mapped : (chunkHostOffset processor address index : Except (RpuError ε) UInt32) = .ok found) :
    found.toNat = offset.toNat + index * maxBusChunk := by
  obtain ⟨first, distance, place⟩ := Rpu.chunkHostOffset_eq_ok mapped
  rw [linear.shifted first found (by omega) (by omega) place]
  omega

theorem Linear.tail {ε : Type} {len alignedLen : Nat} {found : UInt32}
    (linear : Linear processor address offset len) (inside : alignedLen < align4 len)
    (mapped : (mappedOffset processor (address + UInt32.ofNat alignedLen) :
      Except (RpuError ε) UInt32) = .ok found) :
    found.toNat = offset.toNat + alignedLen := by
  have fits := linear.inside
  have bound : alignedLen < 2 ^ 32 := by omega
  have first : (address + UInt32.ofNat alignedLen).toNat = address.toNat + alignedLen := by
    rw [UInt32.toNat_add, UInt32.toNat_ofNat_of_lt' bound, Nat.mod_eq_of_lt (by omega)]
  rw [linear.shifted _ found (by omega) (by omega) (Rpu.mappedOffset_eq_ok mapped)]
  omega

/-- Every address of the access is mapped, not only its first and its last. -/
def Mapped (processor : Processor) (address : UInt32) (len : Nat) : Prop :=
  ∀ first : UInt32, address.toNat ≤ first.toNat → first.toNat < address.toNat + align4 len →
    ∃ found, hostOffset processor first = .ok found

/-! ### Regions -/

/-- The regions that a processor reaches, by their first and last addresses. -/
def mappedRegions : Processor → List (UInt32 × UInt32)
  | .lmac => [(0xa4000000, 0xa4007fff), (0xa5000000, 0xa503ffff), (0xb7000000, 0xb70101ff),
      (0xb0000000, 0xb0030fff), (0x80000000, 0x80033fff), (0x80040000, 0x8004bfff),
      (0x80080000, 0x8008ffff)]
  | .umac => [(0xa4000000, 0xa4007fff), (0xa5000000, 0xa503ffff), (0xb7000000, 0xb70101ff),
      (0xb0000000, 0xb0030fff), (0x80000000, 0x800617ff), (0x80080000, 0x800a3fff),
      (0x80100000, 0x80137fff)]

/-- The words of the access lie in one region. -/
def WithinRegion (processor : Processor) (address : UInt32) (len : Nat) : Prop :=
  ∃ region ∈ mappedRegions processor,
    region.1 ≤ address ∧ address.toNat + align4 len ≤ region.2.toNat + 1

theorem hostOffset_ok (found : (sharedRegionBase address).isSome ∨
    (processorRegionBase processor address).isSome) :
    ∃ offset, hostOffset processor address = .ok offset := by
  rw [hostOffset]
  cases shared : sharedRegionBase address with
  | some base => exact ⟨_, rfl⟩
  | none =>
      cases own : processorRegionBase processor address with
      | some base => exact ⟨_, rfl⟩
      | none =>
          rw [shared, own] at found
          simp at found

theorem hostOffset_of_region {region : UInt32 × UInt32} (member : region ∈ mappedRegions processor)
    (inside : inRegion address region.1 region.2 = true) :
    ∃ offset, hostOffset processor address = .ok offset := by
  apply hostOffset_ok
  cases processor with
  | lmac =>
      simp only [mappedRegions, List.mem_cons, List.not_mem_nil, or_false] at member
      rcases member with rfl | rfl | rfl | rfl | rfl | rfl | rfl
      all_goals
        dsimp only at inside
        simp [sharedRegionBase, processorRegionBase, lmacRegionBase, inside]
      all_goals split_ifs <;> simp
  | umac =>
      simp only [mappedRegions, List.mem_cons, List.not_mem_nil, or_false] at member
      rcases member with rfl | rfl | rfl | rfl | rfl | rfl | rfl
      all_goals
        dsimp only at inside
        simp [sharedRegionBase, processorRegionBase, umacRegionBase, inside]
      all_goals split_ifs <;> simp

theorem WithinRegion.mapped {len : Nat} (within : WithinRegion processor address len) :
    Mapped processor address len := by
  obtain ⟨region, member, lower, upper⟩ := within
  intro first after before
  apply hostOffset_of_region member
  rw [UInt32.le_iff_toNat_le] at lower
  rw [inRegion_iff]
  omega

theorem mappedOffset_ok {ε : Type} (mapped : hostOffset processor address = .ok offset) :
    (mappedOffset processor address : Except (RpuError ε) UInt32) = .ok offset := by
  rw [mappedOffset, mapped]
  rfl

theorem Mapped.chunk {ε : Type} {len index : Nat} (mapped : Mapped processor address len)
    (fits : address.toNat + align4 len ≤ 2 ^ 32) (inside : index * maxBusChunk < align4 len) :
    ∃ found, (chunkHostOffset processor address index : Except (RpuError ε) UInt32) =
      .ok found := by
  have bound : index * maxBusChunk < 2 ^ 32 := by omega
  have number : (UInt32.ofNat (index * maxBusChunk)).toNat = index * maxBusChunk :=
    UInt32.toNat_ofNat_of_lt' bound
  have first : (address + UInt32.ofNat (index * maxBusChunk)).toNat =
      address.toNat + index * maxBusChunk := by
    rw [UInt32.toNat_add, number, Nat.mod_eq_of_lt (by omega)]
  obtain ⟨found, place⟩ := mapped (address + UInt32.ofNat (index * maxBusChunk)) (by omega) (by omega)
  refine ⟨found, ?_⟩
  rw [chunkHostOffset, if_neg (Nat.not_le.mpr bound), checkedAdd, if_pos (by omega)]
  exact mappedOffset_ok place

theorem Mapped.tail {ε : Type} {len alignedLen : Nat} (mapped : Mapped processor address len)
    (fits : address.toNat + align4 len ≤ 2 ^ 32) (inside : alignedLen < align4 len) :
    ∃ found, (mappedOffset processor (address + UInt32.ofNat alignedLen) :
      Except (RpuError ε) UInt32) = .ok found := by
  have bound : alignedLen < 2 ^ 32 := by omega
  have first : (address + UInt32.ofNat alignedLen).toNat = address.toNat + alignedLen := by
    rw [UInt32.toNat_add, UInt32.toNat_ofNat_of_lt' bound, Nat.mod_eq_of_lt (by omega)]
  obtain ⟨found, place⟩ := mapped (address + UInt32.ofNat alignedLen) (by omega) (by omega)
  exact ⟨found, mappedOffset_ok place⟩

end Offsets

/-! ## Buses that act as a memory -/

/-- On a ready bus, transfers of plain addresses succeed and act on the memory. -/
structure ActsAsMemory (β : Type) {ε : Type} [Bus β ε] (memory : β → ByteMemory)
    (Ready : β → Prop) (Plain : Nat → Prop) : Prop where
  read : ∀ (bus : β) (data : Bytes) (offset : UInt32), Ready bus →
    (∀ place, offset.toNat ≤ place → place < offset.toNat + data.length → Plain place) →
    Post (Bus.read offset) (bus, data) fun r t =>
      r = .ok () ∧ Ready t.1 ∧ memory t.1 = memory bus ∧
        t.2 = (memory bus).fetch offset.toNat data.length
  write : ∀ (bus : β) (bytes : Bytes) (offset : UInt32), Ready bus →
    (∀ place, offset.toNat ≤ place → place < offset.toNat + bytes.length → Plain place) →
    Post (Bus.write offset bytes) bus fun r t =>
      r = .ok () ∧ Ready t ∧ memory t = (memory bus).store offset.toNat bytes

/-- The data followed by zeros up to whole words. -/
def padded (data : Bytes) : Bytes := data ++ List.replicate (align4 data.length - data.length) 0

theorem length_padded (data : Bytes) : (padded data).length = align4 data.length := by
  have longer : data.length ≤ align4 data.length := by
    rw [align4]
    omega
  simp [padded]
  omega

theorem chunksUpTo_of_ne_nil {size fuel : Nat} {bytes : Bytes} (some : bytes ≠ []) :
    chunksUpTo size (fuel + 1) bytes =
      bytes.take size :: chunksUpTo size fuel (bytes.drop size) := by
  cases bytes with
  | nil => exact absurd rfl some
  | cons byte rest => rfl

namespace Rpu
section Flat
variable {β ε : Type} [Bus β ε] {memory : β → ByteMemory} {Ready : β → Prop}
  {Plain : Nat → Prop} (acts : ActsAsMemory β memory Ready Plain)
  {processor : Processor} {address offset : UInt32} {len : Nat}
  (linear : Linear processor address offset len)
  (plain : ∀ place, offset.toNat ≤ place → place < offset.toNat + align4 len → Plain place)

/-- A write that ends well has stored the bytes, and it ends well where every address is
mapped. -/
def Stores (memory : β → ByteMemory) (Ready : β → Prop) (whole : Prop) (first : Nat)
    (bytes : Bytes) (rpu : Rpu β) (r : Except (RpuError ε) Unit) (t : Rpu β) : Prop :=
  Ready t.bus ∧ (r = .ok () → memory t.bus = (memory rpu.bus).store first bytes) ∧
    (whole → r = .ok ())

include acts in
theorem post_busWrite_stores {bytes : Bytes} {rpu : Rpu β} (ready : Ready rpu.bus)
    (inside : ∀ place, offset.toNat ≤ place → place < offset.toNat + bytes.length → Plain place) :
    Post (busWrite offset bytes) rpu (fun r t => r = .ok () ∧ Ready t.bus ∧
      memory t.bus = (memory rpu.bus).store offset.toNat bytes) := by
  rw [busWrite, post_onField, post_mapError]
  refine (acts.write rpu.bus bytes offset ready inside).mono ?_
  intro r t stored
  obtain ⟨rfl, rest⟩ := stored
  exact ⟨rfl, rest⟩

include acts linear plain in
theorem post_writeChunks_stores (fuel : Nat) (bytes : Bytes) (index : Nat) (rpu : Rpu β)
    (enough : bytes.length ≤ fuel)
    (inside : 0 < bytes.length → index * maxBusChunk + bytes.length ≤ align4 len)
    (ready : Ready rpu.bus) :
    Post (writeChunks processor address (chunksUpTo maxBusChunk fuel bytes) index) rpu
      (Stores memory Ready (Mapped processor address len) (offset.toNat + index * maxBusChunk)
        bytes rpu) := by
  have size : maxBusChunk = 4096 := rfl
  induction fuel generalizing bytes index rpu with
  | zero =>
      have empty : bytes = [] := List.length_eq_zero_iff.mp (by omega)
      rw [empty, chunksUpTo, writeChunks, post_pure]
      exact ⟨ready, fun _ => ByteMemory.store_nil.symm, fun _ => rfl⟩
  | succ fuel hypothesis =>
      by_cases empty : bytes = []
      · rw [empty, chunksUpTo, writeChunks, post_pure]
        exact ⟨ready, fun _ => ByteMemory.store_nil.symm, fun _ => rfl⟩
      · have positive := List.length_pos_iff.mpr empty
        have fits := inside positive
        have start : index * maxBusChunk < align4 len := by omega
        have step : (index + 1) * maxBusChunk = index * maxBusChunk + maxBusChunk :=
          Nat.succ_mul index maxBusChunk
        rw [chunksUpTo_of_ne_nil empty, writeChunks, post_bind, post_liftResult]
        cases found : (chunkHostOffset processor address index : Except (RpuError ε) UInt32) with
        | error failure =>
            refine ⟨ready, fun done => ?_, fun mapped => ?_⟩
            · cases done
            · obtain ⟨place, same⟩ := mapped.chunk (ε := ε) linear.inside start
              rw [found] at same
              cases same
        | ok place =>
            have value := linear.chunk start found
            have count : (bytes.take maxBusChunk).length = min maxBusChunk bytes.length :=
              List.length_take
            dsimp only
            rw [post_bind]
            refine (post_busWrite_stores acts ready ?_).mono ?_
            · intro cell lower upper
              exact plain cell (by omega) (by omega)
            · intro r t stored
              obtain ⟨rfl, still, stored⟩ := stored
              refine (hypothesis (bytes.drop maxBusChunk) (index + 1) t ?_ ?_ still).mono ?_
              · rw [List.length_drop]
                omega
              · rw [List.length_drop]
                omega
              · intro r u later
                obtain ⟨last, after, whole⟩ := later
                refine ⟨last, fun done => ?_, whole⟩
                have next : offset.toNat + (index + 1) * maxBusChunk =
                    offset.toNat + index * maxBusChunk + maxBusChunk := by
                  rw [step, Nat.add_assoc]
                rw [after done, stored, value, next, ByteMemory.store_take_drop]

include acts linear plain in
theorem post_writeTail_stores (data : Bytes) (size : data.length = len) (rpu : Rpu β)
    (ready : Ready rpu.bus) :
    Post (writeTail processor address (data.length / 4 * 4) data) rpu
      (Stores memory Ready (Mapped processor address len) (offset.toNat + data.length / 4 * 4)
        ((padded data).drop (data.length / 4 * 4)) rpu) := by
  have rounded : align4 len = (data.length + 3) / 4 * 4 := by rw [align4, size]
  rw [writeTail]
  by_cases whole : data.length - data.length / 4 * 4 = 0
  · have nothing : (padded data).drop (data.length / 4 * 4) = [] := by
      apply List.drop_of_length_le
      rw [length_padded, size, rounded]
      omega
    rw [if_pos whole, post_pure, nothing]
    exact ⟨ready, fun _ => ByteMemory.store_nil.symm, fun _ => rfl⟩
  · have tail : (padded data).drop (data.length / 4 * 4) =
        data.drop (data.length / 4 * 4) ++
          List.replicate (4 - (data.length - data.length / 4 * 4)) 0 := by
      have zeros : align4 data.length - data.length = 4 - (data.length - data.length / 4 * 4) := by
        rw [align4]
        omega
      rw [padded, List.drop_append_of_le_length (by omega), zeros]
    have start : data.length / 4 * 4 < align4 len := by omega
    rw [if_neg whole, post_bind, post_liftResult]
    cases found : (mappedOffset processor (address + UInt32.ofNat (data.length / 4 * 4)) :
        Except (RpuError ε) UInt32) with
    | error failure =>
        refine ⟨ready, fun done => ?_, fun mapped => ?_⟩
        · cases done
        · obtain ⟨place, same⟩ := mapped.tail (ε := ε) linear.inside start
          rw [found] at same
          cases same
    | ok place =>
        have value := linear.tail start found
        refine (post_busWrite_stores acts ready ?_).mono ?_
        · intro cell lower upper
          rw [List.length_append, List.length_drop, List.length_replicate] at upper
          exact plain cell (by omega) (by omega)
        · intro r t stored
          obtain ⟨rfl, still, stored⟩ := stored
          refine ⟨still, fun _ => ?_, fun _ => rfl⟩
          rw [stored, value, tail]

include acts linear plain in
/-- A write is one store of the padded data. -/
theorem post_write_stores (data : Bytes) (size : data.length = len)
    (accepted : (validateAccess processor address len : Except (RpuError ε) Unit) = .ok ())
    (rpu : Rpu β) (ready : Ready rpu.bus) :
    Post (write processor address data) rpu
      (Stores memory Ready (Mapped processor address len) offset.toNat (padded data) rpu) := by
  subst size
  have aligned : (data.take (data.length / 4 * 4)).length = data.length / 4 * 4 :=
    List.length_take_of_le (by omega)
  rw [write, post_bind, post_liftResult, accepted]
  dsimp only
  rw [post_bind, writeAligned, chunks]
  refine (post_writeChunks_stores acts linear plain _ _ 0 rpu (Nat.le_refl _) ?_ ready).mono ?_
  · rw [aligned, align4]
    omega
  · intro r t front
    obtain ⟨still, stored, ended⟩ := front
    cases r with
    | error failure =>
        refine ⟨still, fun done => ?_, ended⟩
        cases done
    | ok done =>
        have first := stored rfl
        refine (post_writeTail_stores acts linear plain data rfl t still).mono ?_
        intro r u back
        obtain ⟨last, after, whole⟩ := back
        refine ⟨last, fun done => ?_, whole⟩
        have lead : data.take (data.length / 4 * 4) = (padded data).take (data.length / 4 * 4) := by
          rw [padded, List.take_append_of_le_length (by omega)]
        rw [after done, first, Nat.zero_mul, Nat.add_zero, lead, ByteMemory.store_take_drop]

/-- A read leaves the memory alone; one that ends well has filled the buffer, and it ends
well where every address is mapped. -/
def Reads (memory : β → ByteMemory) (Ready : β → Prop) (whole : Prop) (bytes : Bytes)
    (s : Rpu β × Bytes) (r : Except (RpuError ε) Unit) (t : Rpu β × Bytes) : Prop :=
  Ready t.1.bus ∧ memory t.1.bus = memory s.1.bus ∧ (r = .ok () → t.2 = bytes) ∧
    (whole → r = .ok ())

include acts in
theorem post_busRead_reads {s : Rpu β × Bytes} (ready : Ready s.1.bus)
    (inside : ∀ place, offset.toNat ≤ place → place < offset.toNat + s.2.length → Plain place) :
    Post (busRead offset) s (fun r t => r = .ok () ∧ Ready t.1.bus ∧
      memory t.1.bus = memory s.1.bus ∧
      t.2 = (memory s.1.bus).fetch offset.toNat s.2.length) := by
  rw [busRead, post_onField, post_mapError]
  refine (acts.read s.1.bus s.2 offset ready inside).mono ?_
  intro r t fetched
  obtain ⟨rfl, rest⟩ := fetched
  exact ⟨rfl, rest⟩

/-- The next chunk starts where one ended, or the buffer did. -/
theorem next_chunk (index size : Nat) :
    (index + 1) * maxBusChunk = min (index * maxBusChunk + maxBusChunk) size ∨
      min (index * maxBusChunk + maxBusChunk) size = size ∧ size ≤ (index + 1) * maxBusChunk := by
  rw [Nat.succ_mul]
  omega

include acts linear plain in
theorem post_readChunks_reads (fuel index : Nat) (s : Rpu β × Bytes)
    (enough : s.2.length ≤ index * maxBusChunk + fuel) (inside : s.2.length ≤ align4 len)
    (ready : Ready s.1.bus) :
    Post (readChunks processor address fuel index) s
      (Reads memory Ready (Mapped processor address len)
        ((memory s.1.bus).filled offset.toNat s.2 (index * maxBusChunk)) s) := by
  have size : maxBusChunk = 4096 := rfl
  induction fuel generalizing index s with
  | zero =>
      rw [readChunks, post_pure]
      exact ⟨ready, rfl, fun _ => (ByteMemory.filled_end (by omega)).symm, fun _ => rfl⟩
  | succ fuel hypothesis =>
      rw [readChunks, post_bind, post_get]
      dsimp only
      rw [post_ite]
      by_cases ended : s.2.length ≤ index * maxBusChunk
      · rw [if_pos ended, post_pure]
        exact ⟨ready, rfl, fun _ => (ByteMemory.filled_end ended).symm, fun _ => rfl⟩
      · have start : index * maxBusChunk < align4 len := by omega
        have step : (index + 1) * maxBusChunk = index * maxBusChunk + maxBusChunk :=
          Nat.succ_mul index maxBusChunk
        have part : (slice s.2 (index * maxBusChunk)
            (min (index * maxBusChunk + maxBusChunk) s.2.length)).length =
              min (index * maxBusChunk + maxBusChunk) s.2.length - index * maxBusChunk :=
          length_slice_of_le (Nat.min_le_right _ _)
        rw [if_neg ended, post_bind, post_liftResult]
        cases found : (chunkHostOffset processor address index : Except (RpuError ε) UInt32) with
        | error failure =>
            refine ⟨ready, rfl, fun done => ?_, fun mapped => ?_⟩
            · cases done
            · obtain ⟨place, same⟩ := mapped.chunk (ε := ε) linear.inside start
              rw [found] at same
              cases same
        | ok place =>
            have value := linear.chunk start found
            change Post (_ >>= _) _ _
            rw [post_bind, inSlice, post_onField]
            refine (post_busRead_reads acts (s := (s.1, slice s.2 (index * maxBusChunk)
              (min (index * maxBusChunk + maxBusChunk) s.2.length))) ready ?_).mono ?_
            · intro cell lower upper
              dsimp only at upper
              exact plain cell (by omega) (by omega)
            · intro r t fetched
              obtain ⟨rfl, still, same, bytes⟩ := fetched
              dsimp only at same bytes
              rw [part, value] at bytes
              have length : (splice s.2 (index * maxBusChunk) t.2).length = s.2.length := by
                apply length_splice
                rw [bytes, ByteMemory.length_fetch]
                omega
              have ordered : index * maxBusChunk ≤
                  min (index * maxBusChunk + maxBusChunk) s.2.length := by
                omega
              have joined := ByteMemory.filled_splice (memory s.1.bus) offset.toNat ordered
                (Nat.min_le_right _ _) (next_chunk index s.2.length)
              refine (hypothesis (index + 1) (t.1, splice s.2 (index * maxBusChunk) t.2)
                (by dsimp only; omega) (by dsimp only; omega) still).mono ?_
              intro r u later
              obtain ⟨last, kept, after, whole⟩ := later
              refine ⟨last, kept.trans same, fun done => ?_, whole⟩
              rw [after done]
              dsimp only
              rw [same, bytes, joined]

include acts linear plain in
theorem post_readTail_reads (s : Rpu β × Bytes) (size : s.2.length = len) (ready : Ready s.1.bus) :
    Post (readTail processor address (s.2.length / 4 * 4)) s
      (Reads memory Ready (Mapped processor address len)
        ((memory s.1.bus).filled offset.toNat s.2 (s.2.length / 4 * 4)) s) := by
  subst size
  rw [readTail, post_bind, post_get]
  dsimp only
  rw [post_ite]
  by_cases whole : s.2.length - s.2.length / 4 * 4 = 0
  · rw [if_pos whole, post_pure]
    exact ⟨ready, rfl, fun _ => (ByteMemory.filled_end (by omega)).symm, fun _ => rfl⟩
  · have start : s.2.length / 4 * 4 < align4 s.2.length := by
      rw [align4]
      omega
    have room : s.2.length / 4 * 4 + 4 ≤ align4 s.2.length := by
      rw [align4]
      omega
    rw [if_neg whole, post_bind, post_liftResult]
    cases found : (mappedOffset processor (address + UInt32.ofNat (s.2.length / 4 * 4)) :
        Except (RpuError ε) UInt32) with
    | error failure =>
        refine ⟨ready, rfl, fun done => ?_, fun mapped => ?_⟩
        · cases done
        · obtain ⟨place, same⟩ := mapped.tail (ε := ε) linear.inside start
          rw [found] at same
          cases same
    | ok place =>
        have value := linear.tail start found
        change Post (_ >>= _) _ _
        rw [post_bind, besideBuffer, post_onField, post_withLocal]
        refine (post_busRead_reads acts (s := (s.1, List.replicate 4 0)) ready ?_).mono ?_
        · intro cell lower upper
          rw [List.length_replicate] at upper
          exact plain cell (by omega) (by omega)
        · intro r t fetched
          obtain ⟨rfl, still, same, bytes⟩ := fetched
          dsimp only at same bytes ⊢
          refine (post_modify _ _ _).mpr ⟨still, same, fun _ => ?_, fun _ => rfl⟩
          have few : s.2.length - s.2.length / 4 * 4 ≤ 4 := by omega
          have below : s.2.length / 4 * 4 ≤ s.2.length := Nat.div_mul_le_self _ _
          have joined := ByteMemory.filled_splice (memory s.1.bus) offset.toNat below
            (Nat.le_refl _) (.inl rfl)
          have length : (splice s.2 (s.2.length / 4 * 4)
              ((memory s.1.bus).fetch (offset.toNat + s.2.length / 4 * 4)
                (s.2.length - s.2.length / 4 * 4))).length = s.2.length := by
            apply length_splice
            rw [ByteMemory.length_fetch]
            omega
          rw [← joined, bytes, List.length_replicate, ByteMemory.take_fetch _ few, value]
          exact (ByteMemory.filled_end (Nat.le_of_eq length)).symm

include acts linear plain in
/-- A read is one fetch. -/
theorem post_read_reads (s : Rpu β × Bytes) (size : s.2.length = len)
    (accepted : (validateAccess processor address len : Except (RpuError ε) Unit) = .ok ())
    (ready : Ready s.1.bus) :
    Post (read processor address) s
      (Reads memory Ready (Mapped processor address len)
        ((memory s.1.bus).fetch offset.toNat s.2.length) s) := by
  subst size
  have front : (slice s.2 0 (s.2.length / 4 * 4)).length = s.2.length / 4 * 4 :=
    length_slice_of_le (by omega)
  have longer : s.2.length ≤ align4 s.2.length := by
    rw [align4]
    omega
  rw [read, post_bind, post_get]
  dsimp only
  rw [post_bind, post_liftResult, accepted]
  change Post (_ >>= _) _ _
  rw [post_bind, inSlice, post_onField, readAligned, post_bind, post_get]
  dsimp only
  rw [front]
  refine (post_readChunks_reads acts linear plain (s.2.length / 4 * 4) 0
    (s.1, slice s.2 0 (s.2.length / 4 * 4)) (by dsimp only; omega) (by dsimp only; omega)
    ready).mono ?_
  intro r t fetched
  obtain ⟨still, same, filled, ended⟩ := fetched
  dsimp only at same filled ⊢
  cases r with
  | error failure =>
      refine ⟨still, same, fun done => ?_, ended⟩
      cases done
  | ok done =>
      have bytes := filled rfl
      rw [Nat.zero_mul, ByteMemory.filled_zero, front] at bytes
      have length : (splice s.2 0 t.2).length = s.2.length := by
        apply length_splice
        rw [bytes, ByteMemory.length_fetch]
        omega
      have below : s.2.length / 4 * 4 ≤ s.2.length := Nat.div_mul_le_self _ _
      have joined := ByteMemory.filled_splice (memory s.1.bus) offset.toNat (Nat.zero_le _) below
        (.inl rfl)
      rw [Nat.add_zero, Nat.sub_zero, ByteMemory.filled_zero] at joined
      have tail := post_readTail_reads acts linear plain (t.1, splice s.2 0 t.2) length still
      dsimp only at tail
      rw [length] at tail
      refine tail.mono ?_
      intro r u later
      obtain ⟨last, kept, after, whole⟩ := later
      refine ⟨last, kept.trans same, fun done => ?_, whole⟩
      rw [after done, same, bytes, joined]

end Flat
end Rpu

/-! ## An error-free bus -/

section MemoryBus

/-- A bus whose every transfer succeeds on a byte-addressed memory. -/
structure MemoryBus where
  memory : ByteMemory

instance : Bus MemoryBus Empty where
  readStatus _ := pure 0xff
  writeStatus _ _ := pure ()
  read offset := modify fun s => (s.1, s.1.memory.fetch offset.toNat s.2.length)
  write offset data := modify fun bus => { memory := bus.memory.store offset.toNat data }
  read_length _ := keeps_modify _ _ fun _ => ByteMemory.length_fetch

theorem memoryBus_actsAsMemory :
    ActsAsMemory MemoryBus (·.memory) (fun _ => True) (fun _ => True) := by
  constructor
  · intro bus data offset _ _
    exact ⟨rfl, trivial, rfl, rfl⟩
  · intro bus bytes offset _ _
    exact ⟨rfl, trivial, rfl⟩

/-- A write that ends well is a store of the padded data at the host offset. -/
theorem returns_write_memory {processor : Processor} {address : UInt32} {data : Bytes}
    {rpu final : Rpu MemoryBus} (done : Returns (Rpu.write processor address data) rpu () final) :
    ∃ offset, Linear processor address offset data.length ∧
      final.bus.memory = rpu.bus.memory.store offset.toNat (padded data) := by
  cases accepted : (validateAccess processor address data.length : Except (RpuError Empty) Unit) with
  | error failure =>
      rw [returns_iff_post, Rpu.write, post_bind, post_liftResult, accepted] at done
      cases done.1
  | ok _ =>
      obtain ⟨offset, linear⟩ := validateAccess_linear accepted
      have stores := Rpu.post_write_stores memoryBus_actsAsMemory linear (fun _ _ _ => trivial)
        data rfl accepted rpu trivial
      obtain ⟨ended, same⟩ := done
      have after := stores.ends.2.1 ended
      rw [same] at after
      exact ⟨offset, linear, after⟩

/-- Within one region, every accepted write ends well. -/
theorem write_returns {processor : Processor} {address : UInt32} {data : Bytes}
    (accepted : (validateAccess processor address data.length : Except (RpuError Empty) Unit) =
      .ok ())
    (within : WithinRegion processor address data.length) (rpu : Rpu MemoryBus) :
    ∃ final, Returns (Rpu.write processor address data) rpu () final := by
  obtain ⟨offset, linear⟩ := validateAccess_linear accepted
  have stores := Rpu.post_write_stores memoryBus_actsAsMemory linear (fun _ _ _ => trivial)
    data rfl accepted rpu trivial
  exact ⟨_, stores.ends.2.2 within.mapped, rfl⟩

end MemoryBus

end Nrf7002
