import Nrf7002.Data.Bounds
import Nrf7002.Data.Indexing

/-! # Addresses in checked arithmetic

The addresses of slots and commands once more, with every 32-bit sum and product as the
operation that may stop the program.  A slot address is computed before its index is
compared with the count of slots, so an index far beyond the count stops the program; and a
command base near the end of the address space has no room for its command slots. -/

set_option autoImplicit false

namespace Nrf7002
open Foundation

namespace Checked
open Foundation.Checked
variable {ε : Type} {rx tx : Nat}

/-- `usize as u32`. -/
def truncated (value : Nat) : Nat := value % 2 ^ 32

/-- The start of the receive slots, as `DataPath::new` computes it. -/
def rxBase (layout : Layout rx tx) : Checked ε UInt32 := do
  let past ← add (2 ^ 32) rpuMemPacketEnd.toNat 1
  let base ← sub past (truncated (layout.rxStride * rx))
  return UInt32.ofNat base

/-- `then_some` has its argument computed in any case. -/
def slotAddress (base : UInt32) (stride count index : Nat) : Checked ε (Option UInt32) := do
  let distance ← mul (2 ^ 32) (truncated index) (truncated stride)
  let address ← add (2 ^ 32) base.toNat distance
  return if index < count then some (UInt32.ofNat address) else none

def rxSlotAddress (layout : Layout rx tx) (descriptor : Nat) : Checked ε (Option UInt32) :=
  slotAddress layout.rxBase layout.rxStride rx descriptor

def txSlotAddress (layout : Layout rx tx) (token : Nat) : Checked ε (Option UInt32) :=
  slotAddress rpuMemPacketBase layout.txStride tx token

def commandAddress (commandBase slotSize index : UInt32) : Checked ε UInt32 := do
  let distance ← mul (2 ^ 32) slotSize.toNat index.toNat
  let address ← add (2 ^ 32) commandBase.toNat distance
  return UInt32.ofNat address

/-- The DMA pointer and the command address of a receive descriptor. -/
def prepareRxDescriptor (slot commandBase : UInt32) (descriptor : UInt16) :
    Checked ε (UInt32 × UInt32) := do
  let pointer ← add (2 ^ 32) slot.toNat rxBufferHeadroom
  let address ← commandAddress commandBase rxCommandSlotSize descriptor.toUInt32
  return (UInt32.ofNat pointer &&& rpuAddrMaskOffset, address)

def txCommandAddress (commandBase : UInt32) (token : UInt8) : Checked ε UInt32 :=
  commandAddress commandBase txCommandSlotSize token.toUInt32

/-! ## Slots -/

section Slots
variable (layout : Layout rx tx)

theorem safe_rxBase : Safe (rxBase layout : Checked ε UInt32) (.ok layout.rxBase) := by
  have fits := layout.strides_fit
  have whole : truncated (layout.rxStride * rx) = layout.rxStride * rx :=
    Nat.mod_eq_of_lt (by omega)
  have past : rpuMemPacketEnd.toNat + 1 = 0xb0031000 := rfl
  have base : UInt32.ofNat (0xb0031000 - layout.rxStride * rx) = layout.rxBase := by
    apply UInt32.toNat.inj
    rw [layout.toNat_rxBase, UInt32.toNat_ofNat_of_lt' (by
      rw [UInt32.size]
      omega)]
  rw [← base, rxBase, whole]
  apply Safe.then (safe_add (by decide))
  rw [past]
  apply Safe.then (safe_sub (by omega))
  exact safe_pure _

/-- Without an overflow, the address is the one of the layout. -/
theorem safe_slotAddress_iff (base : UInt32) (stride count index : Nat) :
    Safe (slotAddress base stride count index : Checked ε (Option UInt32))
        (.ok (if index < count then some (base + UInt32.ofNat index * UInt32.ofNat stride)
          else none)) ↔
      base.toNat + index % 2 ^ 32 * (stride % 2 ^ 32) < 2 ^ 32 := by
  have address : UInt32.ofNat (base.toNat + truncated index * truncated stride) =
      base + UInt32.ofNat index * UInt32.ofNat stride := by
    apply UInt32.toNat.inj
    rw [UInt32.toNat_add, UInt32.toNat_mul, UInt32.toNat_ofNat', UInt32.toNat_ofNat',
      UInt32.toNat_ofNat', Nat.add_mod_mod]
    rfl
  have returned : Safe (pure (if index < count then
      some (UInt32.ofNat (base.toNat + truncated index * truncated stride)) else none) :
        Checked ε (Option UInt32))
      (.ok (if index < count then some (base + UInt32.ofNat index * UInt32.ofNat stride)
        else none)) := by
    rw [address]
    exact safe_pure _
  rw [slotAddress, safe_mul_bind_iff, safe_add_bind_iff, and_iff_left returned]
  exact ⟨fun both => both.2, fun small => ⟨Nat.lt_of_le_of_lt (Nat.le_add_left _ _) small, small⟩⟩

/-- The words behind a pool that ends at `past` hold so many of its strides. -/
theorem room_iff {base stride past index : Nat} (positive : 0 < stride) (count : Nat)
    (ends : base + stride * count = past) (small : past ≤ 0xffffffff) :
    base + index * stride < 2 ^ 32 ↔ index ≤ count + (0xffffffff - past) / stride := by
  rw [Nat.add_comm count, ← Nat.add_mul_div_left _ _ positive, Nat.le_div_iff_mul_le positive]
  omega

theorem safe_rxSlotAddress_iff (index : Nat) :
    Safe (rxSlotAddress layout index : Checked ε (Option UInt32))
        (.ok (layout.rxSlotAddress index)) ↔
      index % 2 ^ 32 ≤ rx + 0x4ffcefff / layout.rxStride := by
  have fits := layout.strides_fit
  have base := layout.toNat_rxBase
  have positive : 0 < layout.rxStride := by
    rw [layout.rxStride_eq]
    omega
  have one : layout.rxStride ≤ layout.rxStride * rx := Nat.le_mul_of_pos_right _ layout.counts.1
  have whole : layout.rxStride % 2 ^ 32 = layout.rxStride := Nat.mod_eq_of_lt (by omega)
  have room : layout.rxBase.toNat + index % 2 ^ 32 * layout.rxStride < 2 ^ 32 ↔ _ :=
    room_iff positive rx
      (show layout.rxBase.toNat + layout.rxStride * rx = 0xb0031000 by omega) (by decide)
  rw [rxSlotAddress, Layout.rxSlotAddress, safe_slotAddress_iff, whole, room]

theorem safe_txSlotAddress_iff (index : Nat) :
    Safe (txSlotAddress layout index : Checked ε (Option UInt32))
        (.ok (layout.txSlotAddress index)) ↔
      index % 2 ^ 32 ≤ 0x4fffafff / layout.txStride := by
  have fits := layout.strides_fit
  have positive : 0 < layout.txStride := by
    rw [layout.txStride_eq]
    omega
  have one : layout.txStride ≤ layout.txStride * tx :=
    Nat.le_mul_of_pos_right _ layout.counts.2.1
  have whole : layout.txStride % 2 ^ 32 = layout.txStride := Nat.mod_eq_of_lt (by omega)
  have room : rpuMemPacketBase.toNat + index % 2 ^ 32 * layout.txStride < 2 ^ 32 ↔ _ :=
    room_iff positive 0 (show rpuMemPacketBase.toNat + layout.txStride * 0 = 0xb0005000 from rfl)
      (by decide)
  rw [Nat.zero_add] at room
  rw [txSlotAddress, Layout.txSlotAddress, safe_slotAddress_iff, whole, room]

end Slots

/-! ## Commands -/

theorem safe_commandAddress_iff {slotSize index : UInt32} (commandBase : UInt32)
    (small : slotSize.toNat * index.toNat < 2 ^ 32) :
    Safe (commandAddress commandBase slotSize index : Checked ε UInt32)
        (.ok (commandBase + slotSize * index)) ↔
      commandBase.toNat ≤ 0xffffffff - slotSize.toNat * index.toNat := by
  have address : UInt32.ofNat (commandBase.toNat + slotSize.toNat * index.toNat) =
      commandBase + slotSize * index := by
    apply UInt32.toNat.inj
    rw [UInt32.toNat_add, UInt32.toNat_mul, UInt32.toNat_ofNat', Nat.add_mod_mod]
  rw [commandAddress, safe_mul_bind_iff, safe_add_bind_iff, address, and_iff_right small,
    and_iff_left (safe_pure _)]
  omega

/-- The command base has room for the slots up to this descriptor's. -/
theorem safe_prepareRxDescriptor_iff {slot : UInt32} (commandBase : UInt32) (descriptor : UInt16)
    (inside : slot.toNat + rxBufferHeadroom < 2 ^ 32) :
    Safe (prepareRxDescriptor slot commandBase descriptor : Checked ε (UInt32 × UInt32))
        (.ok ((slot + UInt32.ofNat rxBufferHeadroom) &&& rpuAddrMaskOffset,
          DataPath.rxCommandAddress commandBase descriptor)) ↔
      commandBase.toNat ≤ 0xffffffff - 8 * descriptor.toNat := by
  have pointer : UInt32.ofNat (slot.toNat + rxBufferHeadroom) =
      slot + UInt32.ofNat rxBufferHeadroom := by
    rw [UInt32.ofNat_add, UInt32.ofNat_toNat]
  have bound := descriptor.toNat_lt
  have size : rxCommandSlotSize.toNat = 8 := rfl
  have index : descriptor.toUInt32.toNat = descriptor.toNat := UInt16.toNat_toUInt32 descriptor
  have command := safe_commandAddress_iff (ε := ε) commandBase
    (show rxCommandSlotSize.toNat * descriptor.toUInt32.toNat < 2 ^ 32 by
      rw [size, index]
      omega)
  rw [size, index] at command
  rw [prepareRxDescriptor, safe_add_bind_iff, and_iff_right inside, pointer, ← command]
  exact safe_map_iff (Prod.mk_right_injective _)

theorem safe_txCommandAddress (token : UInt8) :
    Safe (txCommandAddress rpuMemTxCmdBase token : Checked ε UInt32)
      (.ok (DataPath.txCommandAddress rpuMemTxCmdBase token)) := by
  have bound := token.toNat_lt
  have size : txCommandSlotSize.toNat = 148 := rfl
  have base : rpuMemTxCmdBase.toNat = 0xb00000b8 := rfl
  have index : token.toUInt32.toNat = token.toNat := UInt8.toNat_toUInt32 token
  rw [txCommandAddress, DataPath.txCommandAddress, safe_commandAddress_iff _ (by
    rw [size, index]
    omega), size, index, base]
  omega

end Checked

/-! ## Every address -/

namespace DataPath
variable {β ε : Type} {rx tx : Nat}

/-- An address in range leaves room for the headroom behind it. -/
theorem headroom_inside (layout : Layout rx tx) {descriptor : Nat} {slot : UInt32}
    (found : layout.rxSlotAddress descriptor = some slot) :
    slot.toNat + rxBufferHeadroom < 2 ^ 32 := by
  obtain ⟨inRange, place⟩ := layout.rxSlotAddress_eq_some found
  have inside : descriptor * layout.rxStride + layout.rxStride ≤ _ := Layout.slot_inside inRange
  have fits := layout.strides_fit
  have headroom : rxBufferHeadroom = 4 := rfl
  omega

/-- The sums and products behind the addresses fit into 32 bits exactly while the indices are
at most so far behind the slots, and the command base leaves room for the command slots. -/
theorem addresses_checked [Bus β ε] (path : DataPath rx tx) (device : Device β) :
    Post (Device.initializeQueues : Program (Device β) (DeviceError ε) HpqmInfo) device
      fun r next => ∀ queues, r = .ok queues →
        Safe (Checked.rxBase path.layout : Checked ε UInt32) (.ok path.layout.rxBase) ∧
        (∀ index,
          Safe (Checked.rxSlotAddress path.layout index : Checked ε (Option UInt32))
                (.ok (path.layout.rxSlotAddress index)) ∧
              (rx ≤ index → path.layout.rxSlotAddress index = none) ↔
            index % 2 ^ 32 ≤ rx + 0x4ffcefff / path.layout.rxStride) ∧
        (∀ index,
          Safe (Checked.txSlotAddress path.layout index : Checked ε (Option UInt32))
                (.ok (path.layout.txSlotAddress index)) ∧
              (tx ≤ index → path.layout.txSlotAddress index = none) ↔
            index % 2 ^ 32 ≤ 0x4fffafff / path.layout.txStride) ∧
        (∀ (descriptor : UInt16) slot, path.layout.rxSlotAddress descriptor.toNat = some slot →
          (Safe (Checked.prepareRxDescriptor slot next.rxCommandBase descriptor :
                Checked ε (UInt32 × UInt32))
              (.ok ((slot + UInt32.ofNat rxBufferHeadroom) &&& rpuAddrMaskOffset,
                rxCommandAddress next.rxCommandBase descriptor)) ↔
            next.rxCommandBase.toNat ≤ 0xffffffff - 8 * descriptor.toNat)) ∧
        ∀ token : UInt8,
          Safe (Checked.txCommandAddress next.txCommandBase token : Checked ε UInt32)
            (.ok (txCommandAddress next.txCommandBase token)) := by
  refine (DataLink.post_initializeQueues device).mono ?_
  rintro r next configured queues rfl
  obtain ⟨-, base, -⟩ := configured
  refine ⟨Checked.safe_rxBase path.layout, ?_, ?_, ?_, ?_⟩
  · intro index
    have outside : rx ≤ index → path.layout.rxSlotAddress index = none :=
      fun beyond => if_neg (Nat.not_lt.mpr beyond)
    rw [← Checked.safe_rxSlotAddress_iff path.layout index, and_iff_left outside]
  · intro index
    have outside : tx ≤ index → path.layout.txSlotAddress index = none :=
      fun beyond => if_neg (Nat.not_lt.mpr beyond)
    rw [← Checked.safe_txSlotAddress_iff path.layout index, and_iff_left outside]
  · intro descriptor slot found
    exact Checked.safe_prepareRxDescriptor_iff next.rxCommandBase descriptor
      (headroom_inside path.layout found)
  · intro token
    rw [base]
    exact Checked.safe_txCommandAddress token

def pairLayout : Layout 2 1 where
  rxBufferSize := 1600
  txBufferSize := 1600
  counts := by decide
  sizes := sampleSizes_valid
  fits := by decide

def pairPath : DataPath 2 1 :=
  { layout := pairLayout
    txInFlight := fun _ => false
    rxPosted := fun _ => false
    nextTx := 0 }

/-- Every word that this firmware publishes is the last one of the address space. -/
def edgeDevice : Device WordBus := Device.new { word := 0xfffffffc }

/-- Indices out of range stop the program, and so does the second descriptor of a device that
was initialised with a command base at the end of the address space. -/
theorem extreme_addresses_overflow :
    new 1600 1600 = .ok pairPath ∧
      (Checked.rxSlotAddress pairPath.layout 0xffffffff : Checked Empty _) =
        Foundation.Checked.panicked ∧
      (Checked.txSlotAddress pairPath.layout 0xffffffff : Checked Empty _) =
        Foundation.Checked.panicked ∧
      (∃ queues, resultOf Device.initializeQueues edgeDevice = .ok queues) ∧
      ∃ slot, pairPath.layout.rxSlotAddress 1 = some slot ∧
        (Checked.prepareRxDescriptor slot
            (stateAfter Device.initializeQueues edgeDevice).rxCommandBase 1 : Checked Empty _) =
          Foundation.Checked.panicked := by
  have base : (stateAfter Device.initializeQueues edgeDevice).rxCommandBase = 0xfffffffc := by
    decide +kernel
  have started : (resultOf Device.initializeQueues edgeDevice).toBool = true := by decide +kernel
  refine ⟨rfl, rfl, rfl, ?_, _, rfl, ?_⟩
  · cases result : resultOf Device.initializeQueues edgeDevice with
    | error failure =>
        rw [result] at started
        cases started
    | ok queues => exact ⟨queues, rfl⟩
  · rw [base]
    rfl

end DataPath

end Nrf7002
