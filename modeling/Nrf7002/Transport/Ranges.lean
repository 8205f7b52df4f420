import Nrf7002.Transport.Flat

/-! # Accepted ranges

Validation maps the first and the last byte of an access and compares their distance.
Regions under one top byte share a host window, so the comparison separates the shared
memories but not a processor's own ones: a range from one of them to another is accepted
over the gap between them. -/

set_option autoImplicit false

namespace Nrf7002
open Foundation

/-! ## Regions -/

section Regions
variable {processor : Processor} {address offset : UInt32} {len : Nat}

/-- The regions of the processor's own memories. -/
def ownRegions (processor : Processor) : List (UInt32 × UInt32) :=
  (mappedRegions processor).drop 4

def InSomeRegion (processor : Processor) (address : UInt32) : Prop :=
  ∃ region ∈ mappedRegions processor, inRegion address region.1 region.2 = true

theorem mappedRegions_one_top (processor : Processor) :
    ∀ region ∈ mappedRegions processor,
      region.1.toNat / 2 ^ 24 = region.2.toNat / 2 ^ 24 := by
  cases processor with
  | lmac => simp [mappedRegions]
  | umac => simp [mappedRegions]

/-- Two regions with one top byte are one region or two of the processor's own. -/
theorem mappedRegions_same_top (processor : Processor) :
    ∀ region ∈ mappedRegions processor, ∀ other ∈ mappedRegions processor,
      region.1.toNat / 2 ^ 24 = other.1.toNat / 2 ^ 24 →
        region = other ∨ region ∈ ownRegions processor ∧ other ∈ ownRegions processor := by
  cases processor with
  | lmac => simp [mappedRegions, ownRegions]
  | umac => simp [mappedRegions, ownRegions]

/-- Unmapped addresses separate two regions. -/
theorem mappedRegions_disjoint (processor : Processor) :
    ∀ region ∈ mappedRegions processor, ∀ other ∈ mappedRegions processor,
      region = other ∨ region.2.toNat < other.1.toNat ∨ other.2.toNat < region.1.toNat := by
  cases processor with
  | lmac => simp [mappedRegions]
  | umac => simp [mappedRegions]

theorem ownRegions_top (processor : Processor) :
    ∀ region ∈ ownRegions processor,
      region.1.toNat / 2 ^ 24 = 0x80 ∧ region.2.toNat / 2 ^ 24 = 0x80 := by
  cases processor with
  | lmac => simp [mappedRegions, ownRegions]
  | umac => simp [mappedRegions, ownRegions]

theorem top_of_region {region : UInt32 × UInt32} (member : region ∈ mappedRegions processor)
    (inside : inRegion address region.1 region.2 = true) :
    address.toNat / 2 ^ 24 = region.1.toNat / 2 ^ 24 := by
  have one := mappedRegions_one_top processor region member
  rw [inRegion_iff] at inside
  omega

theorem InSomeRegion.mapped (known : InSomeRegion processor address) :
    ∃ offset, hostOffset processor address = .ok offset := by
  obtain ⟨region, member, inside⟩ := known
  exact hostOffset_of_region member inside

theorem inSomeRegion_of_hostOffset (mapped : hostOffset processor address = .ok offset) :
    InSomeRegion processor address := by
  rw [hostOffset] at mapped
  split at mapped
  · rename_i base found
    simp only [sharedRegionBase] at found
    split_ifs at found with sbus pbus gram pktram
    · exact ⟨(0xa4000000, 0xa4007fff), by cases processor <;> decide, sbus⟩
    · exact ⟨(0xa5000000, 0xa503ffff), by cases processor <;> decide, pbus⟩
    · exact ⟨(0xb7000000, 0xb70101ff), by cases processor <;> decide, gram⟩
    · exact ⟨(0xb0000000, 0xb0030fff), by cases processor <;> decide, pktram⟩
  · split at mapped
    · rename_i base found
      cases processor with
      | lmac =>
          simp only [processorRegionBase, lmacRegionBase, Option.ite_none_right_eq_some,
            Bool.or_eq_true] at found
          obtain ⟨(rom | ret) | scratch, -⟩ := found
          · exact ⟨(0x80000000, 0x80033fff), by decide, rom⟩
          · exact ⟨(0x80040000, 0x8004bfff), by decide, ret⟩
          · exact ⟨(0x80080000, 0x8008ffff), by decide, scratch⟩
      | umac =>
          simp only [processorRegionBase, umacRegionBase, Option.ite_none_right_eq_some,
            Bool.or_eq_true] at found
          obtain ⟨(rom | ret) | scratch, -⟩ := found
          · exact ⟨(0x80000000, 0x800617ff), by decide, rom⟩
          · exact ⟨(0x80080000, 0x800a3fff), by decide, ret⟩
          · exact ⟨(0x80100000, 0x80137fff), by decide, scratch⟩
    · cases mapped

/-- The words of the access start and end in regions of the processor, and one of their
addresses lies in none. -/
structure CrossesGap (processor : Processor) (address : UInt32) (len : Nat) : Prop where
  starts : InSomeRegion processor address
  ends : ∃ final : UInt32, final.toNat + 1 = address.toNat + align4 len ∧
    InSomeRegion processor final
  gap : ∃ between : UInt32, address.toNat ≤ between.toNat ∧
    between.toNat < address.toNat + align4 len ∧ ¬ InSomeRegion processor between

/-- The words of the access start in one of the processor's own memories and end in
another. -/
structure SpansMemories (processor : Processor) (address : UInt32) (len : Nat) : Prop where
  some : 0 < len
  aligned : address &&& 3 = 0
  apart : ∃ first ∈ ownRegions processor, ∃ last ∈ ownRegions processor, first ≠ last ∧
    inRegion address first.1 first.2 = true ∧
    ∃ final : UInt32, final.toNat + 1 = address.toNat + align4 len ∧
      inRegion final last.1 last.2 = true

theorem WithinRegion.closed (within : WithinRegion processor address len) :
    ¬ CrossesGap processor address len := by
  intro crosses
  obtain ⟨region, member, lower, upper⟩ := within
  obtain ⟨between, after, before, unknown⟩ := crosses.gap
  apply unknown
  refine ⟨region, member, ?_⟩
  rw [UInt32.le_iff_toNat_le] at lower
  rw [inRegion_iff]
  omega

theorem SpansMemories.not_within (spans : SpansMemories processor address len) :
    ¬ WithinRegion processor address len := by
  intro within
  obtain ⟨first, starts, last, ends, different, inside, final, distance, reached⟩ := spans.apart
  obtain ⟨region, member, lower, upper⟩ := within
  have some := spans.some
  have rounded : align4 len = (len + 3) / 4 * 4 := rfl
  have one := mappedRegions_disjoint processor region member first (List.mem_of_mem_drop starts)
  have other := mappedRegions_disjoint processor region member last (List.mem_of_mem_drop ends)
  rw [inRegion_iff] at inside reached
  rw [UInt32.le_iff_toNat_le] at lower
  apply different
  rcases one with same | below | above
  · rcases other with again | below | above
    · exact same.symm.trans again
    · omega
    · omega
  · omega
  · omega

/-! ## Validation -/

/-- Both ends of an accepted access lie under one top byte. -/
theorem Linear.one_top {final found : UInt32} (linear : Linear processor address offset len)
    (distance : final.toNat + 1 = address.toNat + align4 len) (some : 0 < align4 len)
    (mapped : hostOffset processor final = .ok found) :
    final.toNat / 2 ^ 24 = address.toNat / 2 ^ 24 := by
  have moved := linear.shifted final found (by omega) (by omega) mapped
  have order : address.toNat ≤ final.toNat := by omega
  exact Nrf7002.one_top linear.mapped mapped (by omega)

theorem aligned_of_validateAccess {ε : Type}
    (accepted : (validateAccess processor address len : Except (RpuError ε) Unit) = .ok ()) :
    address &&& 3 = 0 := by
  rw [validateAccess] at accepted
  by_contra unaligned
  rw [if_pos unaligned] at accepted
  cases accepted

/-- An accepted access lies in one region, or it spans two of the processor's own
memories. -/
theorem within_of_validateAccess {ε : Type}
    (accepted : (validateAccess processor address len : Except (RpuError ε) Unit) = .ok ())
    (apart : ¬ SpansMemories processor address len) : WithinRegion processor address len := by
  have rounded : align4 len = (len + 3) / 4 * 4 := rfl
  obtain ⟨offset, linear⟩ := validateAccess_linear accepted
  obtain ⟨first, firstMember, inside⟩ := inSomeRegion_of_hostOffset linear.mapped
  have bounds := inRegion_iff.mp inside
  by_cases empty : len = 0
  · refine ⟨first, firstMember, ?_, by omega⟩
    rw [UInt32.le_iff_toNat_le]
    exact bounds.1
  · have some : 0 < align4 len := by omega
    obtain ⟨final, found, distance, mapped⟩ := linear.last some
    obtain ⟨last, lastMember, reached⟩ := inSomeRegion_of_hostOffset mapped
    have sameTop := linear.one_top (by omega) some mapped
    rw [top_of_region firstMember inside, top_of_region lastMember reached] at sameTop
    have ends := inRegion_iff.mp reached
    have one : first = last := by
      rcases mappedRegions_same_top processor first firstMember last lastMember sameTop.symm with
        same | ⟨firstOwn, lastOwn⟩
      · exact same
      · by_contra different
        exact apart ⟨by omega, aligned_of_validateAccess accepted, first, firstOwn, last, lastOwn,
          different, inside, final, by omega, reached⟩
    subst one
    refine ⟨first, firstMember, ?_, by omega⟩
    rw [UInt32.le_iff_toNat_le]
    exact bounds.1

/-- The check accepts what starts and ends at mapped addresses under one top byte. -/
theorem accepted_of_one_top {ε : Type} {final firstOffset lastOffset : UInt32} (some : 0 < len)
    (aligned : address &&& 3 = 0) (distance : final.toNat + 1 = address.toNat + align4 len)
    (firstMapped : hostOffset processor address = .ok firstOffset)
    (lastMapped : hostOffset processor final = .ok lastOffset)
    (top : final.toNat / 2 ^ 24 = address.toNat / 2 ^ 24) :
    (validateAccess processor address len : Except (RpuError ε) Unit) = .ok () := by
  have rounded : align4 len = (len + 3) / 4 * 4 := rfl
  have bound := final.toNat_lt
  have firstValue := toNat_hostOffset firstMapped
  have lastValue := toNat_hostOffset lastMapped
  rw [top] at lastValue
  have small : align4 len - 1 < 2 ^ 32 := by omega
  have spanNat : (UInt32.ofNat (align4 len - 1)).toNat = align4 len - 1 :=
    UInt32.toNat_ofNat_of_lt' small
  have sum : address + UInt32.ofNat (align4 len - 1) = final := by
    apply UInt32.toNat.inj
    rw [UInt32.toNat_add, spanNat, Nat.mod_eq_of_lt (by omega)]
    omega
  have ordered : firstOffset ≤ lastOffset := by
    rw [UInt32.le_iff_toNat_le]
    omega
  have difference : lastOffset - firstOffset = UInt32.ofNat (align4 len - 1) := by
    apply UInt32.toNat.inj
    rw [UInt32.toNat_sub_of_le _ _ ordered, spanNat]
    omega
  have close : ¬ (lastOffset < firstOffset ∨
      lastOffset - firstOffset ≠ UInt32.ofNat (align4 len - 1)) := by
    rw [not_or, not_not, UInt32.not_lt]
    exact ⟨ordered, difference⟩
  have added : (checkedAdd address (UInt32.ofNat (align4 len - 1)) (.address .range) :
      Except (RpuError ε) UInt32) = .ok final := by
    rw [checkedAdd, if_pos (by omega), sum]
  rw [validateAccess, if_neg (not_not.mpr aligned), checkedRange, if_neg (by omega)]
  apply bind_eq_ok.mpr
  refine ⟨_, if_pos small, bind_eq_ok.mpr ⟨final, added, ?_⟩⟩
  apply bind_eq_ok.mpr
  refine ⟨firstOffset, mappedOffset_ok firstMapped, bind_eq_ok.mpr ⟨lastOffset,
    mappedOffset_ok lastMapped, ?_⟩⟩
  exact if_neg close

/-- The check accepts every aligned access within one region. -/
theorem WithinRegion.accepted {ε : Type} (within : WithinRegion processor address len)
    (aligned : address &&& 3 = 0) (some : 0 < len) :
    (validateAccess processor address len : Except (RpuError ε) Unit) = .ok () := by
  obtain ⟨region, member, lower, upper⟩ := within
  have rounded : align4 len = (len + 3) / 4 * 4 := rfl
  have bound := region.2.toNat_lt
  rw [UInt32.le_iff_toNat_le] at lower
  have small : address.toNat + align4 len - 1 < 2 ^ 32 := by omega
  have final : (UInt32.ofNat (address.toNat + align4 len - 1)).toNat =
      address.toNat + align4 len - 1 := UInt32.toNat_ofNat_of_lt' small
  have first : inRegion address region.1 region.2 = true := by
    rw [inRegion_iff]
    omega
  have last : inRegion (UInt32.ofNat (address.toNat + align4 len - 1)) region.1 region.2 =
      true := by
    rw [inRegion_iff, final]
    omega
  obtain ⟨firstOffset, firstMapped⟩ := hostOffset_of_region member first
  obtain ⟨lastOffset, lastMapped⟩ := hostOffset_of_region member last
  apply accepted_of_one_top some aligned (by omega) firstMapped lastMapped
  rw [top_of_region member last, top_of_region member first]

theorem WithinRegion.shorter {less : Nat} (within : WithinRegion processor address len)
    (fewer : less ≤ len) : WithinRegion processor address less := by
  obtain ⟨region, member, lower, upper⟩ := within
  refine ⟨region, member, lower, ?_⟩
  rw [align4] at upper ⊢
  omega

/-- The check accepts every access from one of the processor's own memories to another. -/
theorem SpansMemories.accepted {ε : Type} (spans : SpansMemories processor address len) :
    (validateAccess processor address len : Except (RpuError ε) Unit) = .ok () := by
  obtain ⟨first, starts, last, ends, -, inside, final, distance, reached⟩ := spans.apart
  obtain ⟨firstOffset, firstMapped⟩ := hostOffset_of_region (List.mem_of_mem_drop starts) inside
  obtain ⟨lastOffset, lastMapped⟩ := hostOffset_of_region (List.mem_of_mem_drop ends) reached
  have firstTop := top_of_region (List.mem_of_mem_drop starts) inside
  have lastTop := top_of_region (List.mem_of_mem_drop ends) reached
  rw [(ownRegions_top processor first starts).1] at firstTop
  rw [(ownRegions_top processor last ends).1] at lastTop
  exact accepted_of_one_top spans.some spans.aligned distance firstMapped lastMapped
    (lastTop.trans firstTop.symm)

end Regions

/-! ## Errors of an access -/

section Errors
variable {ε α : Type}

/-- The result is no address error. -/
def Translated (r : Except (RpuError ε) α) : Prop :=
  ∀ failure, r ≠ .error (.address failure)

theorem Translated.ok (value : α) : Translated (.ok value : Except (RpuError ε) α) := by
  intro failure same
  cases same

theorem Translated.bus (failure : ε) :
    Translated (.error (.bus failure) : Except (RpuError ε) α) := by
  intro other same
  cases same

end Errors

namespace Rpu
variable {β ε : Type} [Bus β ε] {processor : Processor} {address : UInt32} {len : Nat}

theorem post_busWrite_translated (offset : UInt32) (data : Bytes) (rpu : Rpu β) :
    Post (busWrite offset data) rpu (fun r _ => Translated r) := by
  rw [busWrite, post_onField, post_mapError]
  refine (post_true _ _).mono ?_
  intro r t _
  cases r with
  | error failure => exact Translated.bus failure
  | ok done => exact Translated.ok done

theorem post_busRead_translated (offset : UInt32) (s : Rpu β × Bytes) :
    Post (busRead offset) s (fun r _ => Translated r) := by
  rw [busRead, post_onField, post_mapError]
  refine (post_true _ _).mono ?_
  intro r t _
  cases r with
  | error failure => exact Translated.bus failure
  | ok done => exact Translated.ok done

section Whole
variable (mapped : Mapped processor address len) (fits : address.toNat + align4 len ≤ 2 ^ 32)

include mapped fits in
theorem post_writeChunks_translated (fuel : Nat) (bytes : Bytes) (index : Nat) (rpu : Rpu β)
    (inside : 0 < bytes.length → index * maxBusChunk + bytes.length ≤ align4 len) :
    Post (writeChunks processor address (chunksUpTo maxBusChunk fuel bytes) index) rpu
      (fun r _ => Translated r) := by
  induction fuel generalizing bytes index rpu with
  | zero =>
      rw [chunksUpTo, writeChunks, post_pure]
      exact Translated.ok ()
  | succ fuel hypothesis =>
      by_cases empty : bytes = []
      · rw [empty, chunksUpTo, writeChunks, post_pure]
        exact Translated.ok ()
      · have positive := List.length_pos_iff.mpr empty
        have room := inside positive
        have step : (index + 1) * maxBusChunk = index * maxBusChunk + maxBusChunk :=
          Nat.succ_mul index maxBusChunk
        have start : index * maxBusChunk < align4 len := by omega
        obtain ⟨place, found⟩ := mapped.chunk (ε := ε) fits start
        rw [chunksUpTo_of_ne_nil empty, writeChunks, post_bind, post_liftResult, found]
        dsimp only
        rw [post_bind]
        refine (post_busWrite_translated place _ rpu).mono ?_
        intro r t first
        cases r with
        | error failure => exact first
        | ok done =>
            apply hypothesis
            intro more
            rw [List.length_drop] at more ⊢
            omega

include mapped fits in
theorem post_writeTail_translated (data : Bytes) (size : data.length = len) (rpu : Rpu β) :
    Post (writeTail processor address (data.length / 4 * 4) data) rpu
      (fun r _ => Translated r) := by
  subst size
  rw [writeTail]
  by_cases whole : data.length - data.length / 4 * 4 = 0
  · rw [if_pos whole, post_pure]
    exact Translated.ok ()
  · have inside : data.length / 4 * 4 < align4 data.length := by
      rw [align4]
      omega
    obtain ⟨place, found⟩ := mapped.tail (ε := ε) fits inside
    rw [if_neg whole, post_bind, post_liftResult, found]
    exact post_busWrite_translated place _ rpu

include mapped fits in
theorem post_write_translated (data : Bytes) (size : data.length = len)
    (accepted : (validateAccess processor address len : Except (RpuError ε) Unit) = .ok ())
    (rpu : Rpu β) : Post (write processor address data) rpu (fun r _ => Translated r) := by
  subst size
  have front : (data.take (data.length / 4 * 4)).length = data.length / 4 * 4 :=
    List.length_take_of_le (by omega)
  rw [write, post_bind, post_liftResult, accepted]
  dsimp only
  rw [post_bind, writeAligned, chunks]
  have inside : 0 < (data.take (data.length / 4 * 4)).length →
      0 * maxBusChunk + (data.take (data.length / 4 * 4)).length ≤ align4 data.length := by
    intro _
    rw [front, align4]
    omega
  refine (post_writeChunks_translated mapped fits _ _ 0 rpu inside).mono ?_
  intro r t first
  cases r with
  | error failure => exact first
  | ok done => exact post_writeTail_translated mapped fits data rfl t

include mapped fits in
theorem post_readChunks_translated (fuel index : Nat) (s : Rpu β × Bytes)
    (inside : s.2.length ≤ align4 len) :
    Post (readChunks processor address fuel index) s
      (fun r t => t.2.length = s.2.length ∧ Translated r) := by
  induction fuel generalizing index s with
  | zero =>
      rw [readChunks, post_pure]
      exact ⟨rfl, Translated.ok ()⟩
  | succ fuel hypothesis =>
      rw [readChunks, post_bind, post_get]
      dsimp only
      rw [post_ite]
      by_cases ended : s.2.length ≤ index * maxBusChunk
      · rw [if_pos ended, post_pure]
        exact ⟨rfl, Translated.ok ()⟩
      · have start : index * maxBusChunk < align4 len := by omega
        obtain ⟨place, found⟩ := mapped.chunk (ε := ε) fits start
        rw [if_neg ended, post_bind, post_liftResult, found]
        change Post (_ >>= _) _ _
        rw [post_bind]
        have length := (keeps_length_inSlice (index * maxBusChunk)
          (min (index * maxBusChunk + maxBusChunk) s.2.length)
          (keeps_length_busRead (β := β) place)).post s
        have first : Post (inSlice (index * maxBusChunk)
            (min (index * maxBusChunk + maxBusChunk) s.2.length) (busRead place)) s
            (fun r _ => Translated r) := by
          rw [inSlice, post_onField]
          exact post_busRead_translated place _
        refine (length.and first).mono ?_
        intro r t ended
        cases r with
        | error failure => exact ended
        | ok done =>
            refine (hypothesis (index + 1) t (ended.1.trans_le inside)).mono ?_
            intro r u later
            exact ⟨later.1.trans ended.1, later.2⟩

include mapped fits in
theorem post_readTail_translated (s : Rpu β × Bytes) (size : s.2.length = len) :
    Post (readTail processor address (s.2.length / 4 * 4)) s (fun r _ => Translated r) := by
  subst size
  rw [readTail, post_bind, post_get]
  dsimp only
  rw [post_ite]
  by_cases whole : s.2.length - s.2.length / 4 * 4 = 0
  · rw [if_pos whole, post_pure]
    exact Translated.ok ()
  · have inside : s.2.length / 4 * 4 < align4 s.2.length := by
      rw [align4]
      omega
    obtain ⟨place, found⟩ := mapped.tail (ε := ε) fits inside
    rw [if_neg whole, post_bind, post_liftResult, found]
    change Post (_ >>= _) _ _
    rw [post_bind, besideBuffer, post_onField, post_withLocal]
    refine (post_busRead_translated place _).mono ?_
    intro r t first
    cases r with
    | error failure =>
        intro other same
        exact first other (congrArg Except.error (Except.error.inj same))
    | ok done => exact (post_modify _ _ _).mpr (Translated.ok ())

include mapped fits in
theorem post_read_translated (s : Rpu β × Bytes) (size : s.2.length = len)
    (accepted : (validateAccess processor address len : Except (RpuError ε) Unit) = .ok ()) :
    Post (read processor address) s (fun r _ => Translated r) := by
  subst size
  have front : (slice s.2 0 (s.2.length / 4 * 4)).length = s.2.length / 4 * 4 :=
    length_slice_of_le (by omega)
  have inside : (slice s.2 0 (s.2.length / 4 * 4)).length ≤ align4 s.2.length := by
    rw [front, align4]
    omega
  rw [read, post_bind, post_get]
  dsimp only
  rw [post_bind, post_liftResult, accepted]
  change Post (_ >>= _) _ _
  rw [post_bind, inSlice, post_onField, readAligned, post_bind, post_get]
  dsimp only
  refine (post_readChunks_translated mapped fits _ 0 (s.1, slice s.2 0 (s.2.length / 4 * 4))
    inside).mono ?_
  intro r t first
  obtain ⟨length, translated⟩ := first
  cases r with
  | error failure => exact translated
  | ok done =>
      have kept : (splice s.2 0 t.2).length = s.2.length := by
        apply length_splice
        dsimp only at length
        omega
      have tail := post_readTail_translated mapped fits (t.1, splice s.2 0 t.2) kept
      dsimp only at tail
      rwa [kept] at tail

end Whole

/-! ### Refused accesses -/

theorem post_write_refused (data : Bytes) {failure : RpuError ε}
    (refused : validateAccess processor address data.length = .error failure) (rpu : Rpu β) :
    Post (write processor address data) rpu (fun r t => r = .error failure ∧ t = rpu) := by
  rw [write, post_bind, post_liftResult, refused]
  exact ⟨rfl, rfl⟩

theorem post_read_refused (s : Rpu β × Bytes) {failure : RpuError ε}
    (refused : validateAccess processor address s.2.length = .error failure) :
    Post (read processor address) s (fun r t => r = .error failure ∧ t = s) := by
  rw [read, post_bind, post_get]
  dsimp only
  rw [post_bind, post_liftResult, refused]
  exact ⟨rfl, rfl⟩

end Rpu

/-! ## Exact validation -/

/-- No transfer came before an address error. -/
def AddressErrorFirst {ε : Type} (earlier later : List Transfer)
    (r : Except (RpuError ε) Unit) : Prop :=
  ∀ failure, r = .error (.address failure) → later = earlier

/-- The access was refused, and no transfer was started for it. -/
def RefusedFirst {ε : Type} (earlier later : List Transfer) (r : Except (RpuError ε) Unit) : Prop :=
  r ≠ .ok () ∧ later = earlier

/-- What the check promises of one access: an accepted range lies in one region, address
errors come before the first transfer, and a range over a gap is refused. -/
structure ExactAccess (processor : Processor) (address : UInt32) (len : Nat) : Prop where
  contained : ∀ ε : Type,
    (validateAccess processor address len : Except (RpuError ε) Unit) = .ok () →
      WithinRegion processor address len
  reads : ∀ (β ε : Type) [Bus β ε] (s : Rpu (Traced β) × Bytes), s.2.length = len →
    Post (Rpu.read processor address) s (fun r t =>
      AddressErrorFirst s.1.transfers t.1.transfers r ∧
      (CrossesGap processor address len → RefusedFirst s.1.transfers t.1.transfers r))
  writes : ∀ (β ε : Type) [Bus β ε] (data : Bytes) (rpu : Rpu (Traced β)), data.length = len →
    Post (Rpu.write processor address data) rpu (fun r t =>
      AddressErrorFirst rpu.transfers t.transfers r ∧
      (CrossesGap processor address len → RefusedFirst rpu.transfers t.transfers r))

section Exact
variable {processor : Processor} {address : UInt32} {len : Nat}

theorem refusedFirst_of_error {ε : Type} {transfers : List Transfer} (failure : RpuError ε) :
    AddressErrorFirst transfers transfers (.error failure) ∧
      (CrossesGap processor address len → RefusedFirst transfers transfers (.error failure)) := by
  constructor
  · intro _ _
    rfl
  · intro _
    refine ⟨fun same => ?_, rfl⟩
    cases same

theorem Translated.settled {ε : Type} {r : Except (RpuError ε) Unit} (translated : Translated r)
    (within : WithinRegion processor address len) (earlier later : List Transfer) :
    AddressErrorFirst earlier later r ∧
      (CrossesGap processor address len → RefusedFirst earlier later r) :=
  ⟨fun failure same => absurd same (translated failure),
    fun crosses => absurd crosses within.closed⟩

theorem read_exact {β ε : Type} [Bus β ε] (apart : ¬ SpansMemories processor address len)
    (s : Rpu (Traced β) × Bytes) (size : s.2.length = len) :
    Post (Rpu.read processor address) s (fun r t =>
      AddressErrorFirst s.1.transfers t.1.transfers r ∧
      (CrossesGap processor address len → RefusedFirst s.1.transfers t.1.transfers r)) := by
  cases accepted : (validateAccess processor address len : Except (RpuError ε) Unit) with
  | error failure =>
      rw [← size] at accepted
      refine (Rpu.post_read_refused s accepted).mono ?_
      intro r t refused
      obtain ⟨rfl, rfl⟩ := refused
      exact refusedFirst_of_error failure
  | ok _ =>
      have within := within_of_validateAccess accepted apart
      obtain ⟨offset, linear⟩ := validateAccess_linear accepted
      refine (Rpu.post_read_translated within.mapped linear.inside s size accepted).mono ?_
      intro r t translated
      exact translated.settled within _ _

theorem write_exact {β ε : Type} [Bus β ε] (apart : ¬ SpansMemories processor address len)
    (data : Bytes) (rpu : Rpu (Traced β)) (size : data.length = len) :
    Post (Rpu.write processor address data) rpu (fun r t =>
      AddressErrorFirst rpu.transfers t.transfers r ∧
      (CrossesGap processor address len → RefusedFirst rpu.transfers t.transfers r)) := by
  cases accepted : (validateAccess processor address len : Except (RpuError ε) Unit) with
  | error failure =>
      rw [← size] at accepted
      refine (Rpu.post_write_refused data accepted rpu).mono ?_
      intro r t refused
      obtain ⟨rfl, rfl⟩ := refused
      exact refusedFirst_of_error failure
  | ok _ =>
      have within := within_of_validateAccess accepted apart
      obtain ⟨offset, linear⟩ := validateAccess_linear accepted
      refine (Rpu.post_write_translated within.mapped linear.inside data size accepted rpu).mono ?_
      intro r t translated
      exact translated.settled within _ _

/-- Validation is exact but for the accesses from one of the processor's own memories to
another. -/
theorem exactAccess_iff (processor : Processor) (address : UInt32) (len : Nat) :
    ExactAccess processor address len ↔ ¬ SpansMemories processor address len := by
  constructor
  · intro exact spans
    exact spans.not_within (exact.contained Empty spans.accepted)
  · intro apart
    constructor
    · intro ε accepted
      exact within_of_validateAccess accepted apart
    · intro β ε _ s size
      exact read_exact apart s size
    · intro β ε _ data rpu size
      exact write_exact apart data rpu size

end Exact

/-! ### A write over the gap -/

/-- The last ROM word up to the first retention word, on an error-free bus: the first
chunk is written before the second one finds no mapping. -/
theorem post_write_over_gap (data : Bytes) (size : data.length = 49160)
    (rpu : Rpu (Traced MemoryBus)) :
    Post (Rpu.write .lmac 0x80033ffc data) rpu (fun r t =>
      r = .error (.address (.unsupported 0x80034ffc)) ∧
      t.transfers = rpu.transfers ++ [⟨.write, 0x133ffc, data.take maxBusChunk, true⟩]) := by
  have accepted : (validateAccess .lmac 0x80033ffc data.length : Except (RpuError Empty) Unit) =
      .ok () := by
    rw [size]
    decide
  have firstPlace : (chunkHostOffset .lmac 0x80033ffc 0 : Except (RpuError Empty) UInt32) =
      .ok 0x133ffc := by
    decide
  have secondPlace : (chunkHostOffset .lmac 0x80033ffc 1 : Except (RpuError Empty) UInt32) =
      .error (.address (.unsupported 0x80034ffc)) := by
    decide
  have some : data ≠ [] := by
    apply List.length_pos_iff.mp
    omega
  have more : data.drop maxBusChunk ≠ [] := by
    apply List.length_pos_iff.mp
    rw [List.length_drop, maxBusChunk]
    omega
  have whole : data.take (data.length / 4 * 4) = data := by
    apply List.take_of_length_le
    omega
  rw [Rpu.write, post_bind, post_liftResult, accepted]
  dsimp only
  rw [whole, post_bind, Rpu.writeAligned, chunks, size, chunksUpTo_of_ne_nil some,
    chunksUpTo_of_ne_nil more, Rpu.writeChunks, post_bind, post_liftResult, firstPlace]
  dsimp only
  rw [post_bind, Rpu.busWrite, post_onField, post_mapError]
  refine (Traced.post_write _ _ _).mono ?_
  intro r t written
  cases r with
  | error failure => cases failure
  | ok done =>
      change Post (Rpu.writeChunks _ _ (_ :: _) _) _ _
      rw [Rpu.writeChunks, post_bind, post_liftResult, secondPlace]
      exact ⟨rfl, written⟩

/-- The accepted write over the gap leaves its first chunk behind and reports an address
error. -/
theorem gap_write_not_exact : ¬ ExactAccess .lmac 0x80033ffc 49160 := by
  intro exact
  have size : (List.replicate 49160 (0xff : UInt8)).length = 49160 := List.length_replicate
  have settled := exact.writes MemoryBus Empty _
    { bus := { bus := { memory := fun _ => 0 }, transfers := [] } } size
  obtain ⟨failed, moved⟩ := (post_write_over_gap _ size
    { bus := { bus := { memory := fun _ => 0 }, transfers := [] } }).ends
  have first := settled.ends.1 _ failed
  rw [moved] at first
  exact List.append_ne_nil_of_right_ne_nil _ (List.cons_ne_nil _ _) first

end Nrf7002
