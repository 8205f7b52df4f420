import Nrf7002.Data.Descriptors
import Nrf7002.Data.Run
import Nrf7002.Trace

/-! # The packet-RAM partition

The receive and the transmit slots of an accepted layout are disjoint parts of the
packet RAM, and the transfers of the data path stay inside the slot they are for. -/

set_option autoImplicit false

namespace Nrf7002
open Foundation

/-! ## Addresses -/

namespace Layout
variable {rx tx : Nat} (layout : Layout rx tx)

theorem rxStride_eq : layout.rxStride = align4 layout.rxBufferSize + 4 := by
  rw [rxStride, rxStrideOf, align4, align4, rxBufferHeadroom]
  omega

theorem txStride_eq : layout.txStride = align4 layout.txBufferSize + 52 := by
  rw [txStride, txStrideOf, align4, align4, txBufferHeadroom]
  omega

theorem strides_fit : layout.rxStride * rx + layout.txStride * tx ≤ 180224 := layout.fits

/-- One slot of a pool lies inside the pool. -/
theorem slot_inside {index count stride : Nat} (inRange : index < count) :
    index * stride + stride ≤ stride * count := by
  have whole : (index + 1) * stride ≤ count * stride := Nat.mul_le_mul_right stride inRange
  rw [Nat.add_mul, Nat.one_mul, Nat.mul_comm count] at whole
  exact whole

theorem toNat_rxBase : layout.rxBase.toNat = 0xb0031000 - layout.rxStride * rx := by
  have fits := layout.strides_fit
  have bound : layout.rxStride * rx < 2 ^ 32 := by omega
  have top : (rpuMemPacketEnd + 1).toNat = 0xb0031000 := rfl
  have below : UInt32.ofNat (layout.rxStride * rx) ≤ rpuMemPacketEnd + 1 := by
    rw [UInt32.le_iff_toNat_le, UInt32.toNat_ofNat_of_lt' bound, top]
    omega
  rw [rxBase, UInt32.toNat_sub_of_le _ _ below, UInt32.toNat_ofNat_of_lt' bound, top]

/-- A slot address computed in 32 bits does not wrap. -/
theorem toNat_slot {base : UInt32} {index stride : Nat}
    (small : base.toNat + index * stride < 2 ^ 32) (indexSmall : index < 2 ^ 32)
    (strideSmall : stride < 2 ^ 32) :
    (base + UInt32.ofNat index * UInt32.ofNat stride).toNat = base.toNat + index * stride := by
  rw [UInt32.toNat_add, UInt32.toNat_mul, UInt32.toNat_ofNat_of_lt' indexSmall,
    UInt32.toNat_ofNat_of_lt' strideSmall, Nat.mod_eq_of_lt (by omega : index * stride < 2 ^ 32),
    Nat.mod_eq_of_lt small]

theorem rxSlotAddress_eq_some {descriptor : Nat} {slot : UInt32}
    (found : layout.rxSlotAddress descriptor = some slot) :
    descriptor < rx ∧
      slot.toNat = 0xb0031000 - layout.rxStride * rx + descriptor * layout.rxStride := by
  rw [rxSlotAddress] at found
  by_cases inRange : descriptor < rx
  · rw [if_pos inRange] at found
    have fits := layout.strides_fit
    have inside : descriptor * layout.rxStride + layout.rxStride ≤ layout.rxStride * rx :=
      slot_inside inRange
    have base := layout.toNat_rxBase
    have most : rx ≤ 0xffff := layout.counts.2.2.1
    rw [← Option.some.inj found, toNat_slot (by omega) (by omega) (by omega), base]
    exact ⟨inRange, rfl⟩
  · rw [if_neg inRange] at found
    cases found

theorem txSlotAddress_eq_some {token : Nat} {slot : UInt32}
    (found : layout.txSlotAddress token = some slot) :
    token < tx ∧ slot.toNat = 0xb0005000 + token * layout.txStride := by
  rw [txSlotAddress] at found
  by_cases inRange : token < tx
  · rw [if_pos inRange] at found
    have fits := layout.strides_fit
    have inside : token * layout.txStride + layout.txStride ≤ layout.txStride * tx :=
      slot_inside inRange
    have most : tx ≤ 137 := layout.counts.2.2.2
    have base : rpuMemPacketBase.toNat = 0xb0005000 := rfl
    rw [← Option.some.inj found, toNat_slot (by omega) (by omega) (by omega), base]
    exact ⟨inRange, rfl⟩
  · rw [if_neg inRange] at found
    cases found

/-- Every slot of a layout: one for each receive descriptor, one for each token. -/
inductive Slot (rx tx : Nat) where
  | rx (descriptor : Fin rx)
  | tx (token : Fin tx)

def slotAddress : Slot rx tx → Option UInt32
  | .rx descriptor => layout.rxSlotAddress descriptor
  | .tx token => layout.txSlotAddress token

def slotStride : Slot rx tx → Nat
  | .rx _ => layout.rxStride
  | .tx _ => layout.txStride

/-- The slots partition a part of the packet RAM, and the command slots lie below it. -/
structure Separated : Prop where
  defined : ∀ slot, ∃ address, layout.slotAddress slot = some address
  aligned : ∀ slot address, layout.slotAddress slot = some address →
    address.toNat % 4 = 0 ∧ layout.slotStride slot % 4 = 0
  inside : ∀ slot address, layout.slotAddress slot = some address →
    rpuMemPacketBase.toNat ≤ address.toNat ∧
      address.toNat + layout.slotStride slot ≤ rpuMemPacketEnd.toNat + 1
  disjoint : ∀ left right, left ≠ right → ∀ first second,
    layout.slotAddress left = some first → layout.slotAddress right = some second →
      first.toNat + layout.slotStride left ≤ second.toNat ∨
        second.toNat + layout.slotStride right ≤ first.toNat

theorem slot_disjoint {left right : Nat} (stride : Nat) (different : left ≠ right) :
    left * stride + stride ≤ right * stride ∨ right * stride + stride ≤ left * stride := by
  rcases Nat.lt_or_gt_of_ne different with before | after
  · have step : (left + 1) * stride ≤ right * stride := Nat.mul_le_mul_right stride before
    rw [Nat.add_mul, Nat.one_mul] at step
    exact .inl step
  · have step : (right + 1) * stride ≤ left * stride := Nat.mul_le_mul_right stride after
    rw [Nat.add_mul, Nat.one_mul] at step
    exact .inr step

theorem rxStride_dvd : 4 ∣ layout.rxStride := by
  rw [rxStride, rxStrideOf, align4]
  exact Nat.dvd_mul_left _ _

theorem txStride_dvd : 4 ∣ layout.txStride := by
  rw [txStride, txStrideOf, align4]
  exact Nat.dvd_mul_left _ _

/-- What is known of a slot's address: it is whole words inside the slot's pool. -/
theorem slotAddress_eq_some {slot : Slot rx tx} {address : UInt32}
    (found : layout.slotAddress slot = some address) :
    address.toNat % 4 = 0 ∧ layout.slotStride slot % 4 = 0 ∧
      match slot with
      | .rx descriptor =>
          address.toNat = 0xb0031000 - layout.rxStride * rx + descriptor * layout.rxStride ∧
            descriptor * layout.rxStride + layout.rxStride ≤ layout.rxStride * rx
      | .tx token => address.toNat = 0xb0005000 + token * layout.txStride ∧
            token * layout.txStride + layout.txStride ≤ layout.txStride * tx := by
  have fits := layout.strides_fit
  cases slot with
  | rx descriptor =>
      obtain ⟨_, value⟩ := layout.rxSlotAddress_eq_some found
      have pool : 4 ∣ layout.rxStride * rx := Dvd.dvd.mul_right layout.rxStride_dvd rx
      have before : 4 ∣ descriptor * layout.rxStride :=
        Dvd.dvd.mul_left layout.rxStride_dvd descriptor
      have stride : layout.slotStride (.rx descriptor : Slot rx tx) % 4 = 0 :=
        Nat.mod_eq_zero_of_dvd layout.rxStride_dvd
      exact ⟨by omega, stride, value, slot_inside descriptor.isLt⟩
  | tx token =>
      obtain ⟨_, value⟩ := layout.txSlotAddress_eq_some found
      have before : 4 ∣ token * layout.txStride := Dvd.dvd.mul_left layout.txStride_dvd token
      have stride : layout.slotStride (.tx token : Slot rx tx) % 4 = 0 :=
        Nat.mod_eq_zero_of_dvd layout.txStride_dvd
      exact ⟨by omega, stride, value, slot_inside token.isLt⟩

theorem separated : layout.Separated where
  defined := by
    intro slot
    cases slot with
    | rx descriptor => exact ⟨_, if_pos descriptor.isLt⟩
    | tx token => exact ⟨_, if_pos token.isLt⟩
  aligned := by
    intro slot address found
    obtain ⟨address, stride, _⟩ := layout.slotAddress_eq_some found
    exact ⟨address, stride⟩
  inside := by
    intro slot address found
    have fits := layout.strides_fit
    have first : rpuMemPacketBase.toNat = 0xb0005000 := rfl
    have last : rpuMemPacketEnd.toNat = 0xb0030fff := rfl
    obtain ⟨_, _, place⟩ := layout.slotAddress_eq_some found
    cases slot with
    | rx descriptor =>
        obtain ⟨value, inside⟩ := place
        rw [slotStride]
        omega
    | tx token =>
        obtain ⟨value, inside⟩ := place
        rw [slotStride]
        omega
  disjoint := by
    intro left right different first second foundLeft foundRight
    have fits := layout.strides_fit
    obtain ⟨_, _, placeLeft⟩ := layout.slotAddress_eq_some foundLeft
    obtain ⟨_, _, placeRight⟩ := layout.slotAddress_eq_some foundRight
    cases left with
    | rx one =>
        cases right with
        | rx other =>
            have indices : one.val ≠ other.val := fun same => different (congrArg _ (Fin.ext same))
            have apart := slot_disjoint layout.rxStride indices
            obtain ⟨valueLeft, _⟩ := placeLeft
            obtain ⟨valueRight, _⟩ := placeRight
            rw [slotStride, slotStride]
            omega
        | tx other =>
            obtain ⟨valueLeft, _⟩ := placeLeft
            obtain ⟨valueRight, inside⟩ := placeRight
            rw [slotStride, slotStride]
            omega
    | tx one =>
        cases right with
        | rx other =>
            obtain ⟨valueLeft, inside⟩ := placeLeft
            obtain ⟨valueRight, _⟩ := placeRight
            rw [slotStride, slotStride]
            omega
        | tx other =>
            have indices : one.val ≠ other.val := fun same => different (congrArg _ (Fin.ext same))
            have apart := slot_disjoint layout.txStride indices
            obtain ⟨valueLeft, _⟩ := placeLeft
            obtain ⟨valueRight, _⟩ := placeRight
            rw [slotStride, slotStride]
            omega

end Layout

/-! ## Transfers -/

namespace DataLink
variable {β ε α : Type} {rx tx : Nat}

def transfers (link : DataLink (Traced β) rx tx) : List Transfer := link.device.rpu.transfers

theorem post_onRpu_extends {P : Transfer → Prop}
    {x : Program (Rpu (Traced β)) (RpuError ε) α} (link : DataLink (Traced β) rx tx)
    (extended : Post x link.device.rpu (fun _ t => Extends P link.device.rpu.transfers t.transfers)) :
    Post (DataPath.onRpu x : Program (DataLink (Traced β) rx tx) (DataError ε) α) link
      (fun _ next => Extends P link.transfers next.transfers) := by
  rw [DataPath.onRpu, post_onField, post_mapError]
  exact extended

theorem post_onDevice_extends {P : Transfer → Prop}
    {x : Program (Device (Traced β)) ε α} (link : DataLink (Traced β) rx tx)
    (extended : Post x link.device (fun _ t =>
      Extends P link.device.rpu.transfers t.rpu.transfers)) :
    Post (DataPath.onDevice x : Program (DataLink (Traced β) rx tx) ε α) link
      (fun _ next => Extends P link.transfers next.transfers) := by
  rw [DataPath.onDevice, post_onField]
  exact extended

/-- Two steps that both extend the trace. -/
theorem post_bind_extends {γ : Type} {P : Transfer → Prop}
    {x : Program (DataLink (Traced β) rx tx) ε α} {f : α → Program (DataLink (Traced β) rx tx) ε γ}
    {link : DataLink (Traced β) rx tx}
    (first : Post x link (fun _ next => Extends P link.transfers next.transfers))
    (second : ∀ a next, Post (f a) next (fun _ last => Extends P next.transfers last.transfers)) :
    Post (x >>= f) link (fun _ next => Extends P link.transfers next.transfers) := by
  rw [post_bind]
  refine first.mono ?_
  intro r next one
  cases r with
  | error failure => exact one
  | ok a => exact (second a next).mono fun _ _ two => one.trans two

theorem post_orRelease_extends {P : Transfer → Prop} (token : UInt8)
    {x : Program (DataLink (Traced β) rx tx) (DataError ε) α} (link : DataLink (Traced β) rx tx)
    (extended : Post x link (fun _ next => Extends P link.transfers next.transfers)) :
    Post (DataPath.orRelease token x) link (fun _ next =>
      Extends P link.transfers next.transfers) := by
  rw [DataPath.orRelease, post_bind, post_attempt]
  refine extended.mono ?_
  intro r next one
  cases r with
  | ok value => exact (post_pure _ _ _).mpr one
  | error failure =>
      simp only [post_bind, DataPath.onPath, post_onField, post_modify, post_throw]
      exact one

variable [Bus β ε]

/-! ### Transmitting -/

/-- Register writes that hand a command to firmware. -/
def Delivers (queue : Hpq) (transfer : Transfer) : Prop :=
  transfer.WritesTo .lmac queue.enqueueAddress.toNat 4 ∨
    transfer.WritesTo .lmac rpuRegIntToMcuCtrl.toNat 4

theorem post_enqueue_extends (queue : Hpq) (value : UInt32) (device : Device (Traced β)) :
    Post (Device.enqueue queue value : Program (Device (Traced β)) (DeviceError ε) Unit) device
      (fun _ next => Extends (Transfer.WritesTo .lmac queue.enqueueAddress.toNat 4)
        device.rpu.transfers next.rpu.transfers) := by
  rw [Device.enqueue, post_bind, Device.perform, post_modify, Device.onRpu, post_onField,
    post_mapError]
  exact Rpu.post_writeU32_within .lmac queue.enqueueAddress value device.rpu

theorem post_triggerCommand_extends (device : Device (Traced β)) :
    Post (Device.triggerCommand : Program (Device (Traced β)) (DeviceError ε) Unit) device
      (fun _ next => Extends (Transfer.WritesTo .lmac rpuRegIntToMcuCtrl.toNat 4)
        device.rpu.transfers next.rpu.transfers) := by
  rw [Device.triggerCommand, post_bind, Device.perform, post_modify]
  simp only [post_bind, post_get, Device.onRpu, post_onField, post_mapError]
  refine (Rpu.post_writeU32_within .lmac rpuRegIntToMcuCtrl _ device.rpu).mono ?_
  intro r t extended
  cases r with
  | error failure => exact extended
  | ok done => exact (post_modify _ _ _).mpr extended

theorem post_writePacket_within (slot : UInt32) (frame : Bytes) (link : DataLink (Traced β) rx tx)
    (fits : slot.toNat + align4 frame.length < 2 ^ 32) :
    Post (DataPath.writePacket slot frame) link (fun _ next =>
      Extends (Transfer.WritesTo .umac slot.toNat (align4 frame.length))
        link.transfers next.transfers) := by
  have bound : frame.length / 4 * 4 ≤ align4 frame.length := by
    rw [align4]
    omega
  have tail (first : DataLink (Traced β) rx tx) :
      Post (if frame.length / 4 * 4 ≠ frame.length then
          DataPath.onRpu (Rpu.write .umac (slot + UInt32.ofNat (frame.length / 4 * 4))
            (frame.drop (frame.length / 4 * 4) ++
              List.replicate (4 - (frame.length - frame.length / 4 * 4)) 0))
        else pure () : Program (DataLink (Traced β) rx tx) (DataError ε) Unit) first
        (fun _ next => Extends (Transfer.WritesTo .umac slot.toNat (align4 frame.length))
          first.transfers next.transfers) := by
    rw [post_ite]
    split
    · refine (post_onRpu_extends first (Rpu.post_write_within _ _ _ first.device.rpu)).mono ?_
      intro r next extended
      have small : frame.length / 4 * 4 < 2 ^ 32 := by omega
      have start : (slot + UInt32.ofNat (frame.length / 4 * 4)).toNat =
          slot.toNat + frame.length / 4 * 4 := by
        rw [UInt32.toNat_add, UInt32.toNat_ofNat_of_lt' small, Nat.mod_eq_of_lt (by omega)]
      refine extended.mono fun transfer writes => ⟨writes.1, writes.2.mono (by omega) ?_⟩
      rw [start, List.length_append, List.length_drop, List.length_replicate, align4, align4]
      omega
    · exact (post_pure _ _ _).mpr (Extends.refl _ _)
  rw [DataPath.writePacket]
  dsimp only
  by_cases aligned : frame.length / 4 * 4 ≠ 0
  · rw [if_pos aligned]
    refine post_bind_extends ?_ fun _ => tail
    refine (post_onRpu_extends link (Rpu.post_write_within _ _ _ link.device.rpu)).mono ?_
    intro r next extended
    refine extended.mono fun transfer writes => ⟨writes.1, writes.2.mono (Nat.le_refl _) ?_⟩
    rw [List.length_take, align4, align4]
    omega
  · rw [if_neg aligned]
    exact tail link

theorem length_encodeTxCommand (wdevId token : UInt8) (frame : Bytes) (dscpTos : UInt16)
    (dmaPointer : UInt32) :
    (DataPath.encodeTxCommand wdevId token frame dscpTos dmaPointer).length = txCommandTotalLen := by
  simp only [DataPath.encodeTxCommand, List.length_append, length_le32, length_le16,
    (octetsAt frame 0 6).2, (octetsAt frame 6 6).2]
  rfl

/-- The command slot of a token lies below the packet RAM. -/
theorem toNat_txCommandAddress {token : UInt8} (inRange : token.toNat < maxTxTokens) :
    (DataPath.txCommandAddress rpuMemTxCmdBase token).toNat =
        rpuMemTxCmdBase.toNat + txCommandSlotSize.toNat * token.toNat ∧
      rpuMemTxCmdBase.toNat + txCommandSlotSize.toNat * token.toNat + txCommandSlotSize.toNat ≤
        rpuMemPacketBase.toNat := by
  have most : maxTxTokens = 137 := rfl
  have base : rpuMemTxCmdBase.toNat = 0xb00000b8 := rfl
  have size : txCommandSlotSize.toNat = 148 := rfl
  have packets : rpuMemPacketBase.toNat = 0xb0005000 := rfl
  have token32 : token.toUInt32.toNat = token.toNat := rfl
  rw [DataPath.txCommandAddress, UInt32.toNat_add, UInt32.toNat_mul, token32, base, size]
  omega

theorem post_deliverTransmitCommand_extends (queue : Hpq) (address : UInt32)
    (link : DataLink (Traced β) rx tx) :
    Post (DataPath.deliverTransmitCommand queue address) link (fun _ next =>
      Extends (Delivers queue) link.transfers next.transfers) := by
  rw [DataPath.deliverTransmitCommand, post_mapError]
  refine post_bind_extends ?_ fun _ next => ?_
  · refine (post_onDevice_extends link (post_enqueue_extends queue address link.device)).mono ?_
    exact fun _ _ extended => extended.mono fun _ writes => .inl writes
  · refine (post_onDevice_extends next (post_triggerCommand_extends next.device)).mono ?_
    exact fun _ _ extended => extended.mono fun _ writes => .inr writes

/-- The transfers of a transmit: the packet into the token's slot, the command into the
token's command slot, and the register writes that deliver it. -/
inductive TransmitTransfers (link : DataLink (Traced β) rx tx) :
    Except (DataError ε) UInt8 → DataLink (Traced β) rx tx → Prop
  | silent (failure : DataError ε) (next : DataLink (Traced β) rx tx)
      (same : next.transfers = link.transfers) : TransmitTransfers link (.error failure) next
  | moved (result : Except (DataError ε) UInt8) (next : DataLink (Traced β) rx tx) (token : Nat)
      (slot : UInt32) (packet command delivery : List Transfer)
      (found : link.path.layout.txSlotAddress token = some slot)
      (split : next.transfers = link.transfers ++ packet ++ command ++ delivery)
      (packetInside : ∀ transfer ∈ packet,
        transfer.WritesTo .umac slot.toNat link.path.layout.txStride)
      (commandInside : ∀ transfer ∈ command, transfer.WritesTo .umac
        (rpuMemTxCmdBase.toNat + txCommandSlotSize.toNat * token) txCommandSlotSize.toNat)
      (commandBelow : rpuMemTxCmdBase.toNat + txCommandSlotSize.toNat * token +
        txCommandSlotSize.toNat ≤ rpuMemPacketBase.toNat)
      (delivered : ∀ transfer ∈ delivery, ∃ queues, link.device.queues = some queues ∧
        Delivers queues.commandBusy transfer)
      (returned : ∀ value, result = .ok value → value.toNat = token) :
      TransmitTransfers link result next

/-- The transfers of a submission: the command, then the register writes. -/
def SubmitTransfers (link : DataLink (Traced β) rx tx) (token : UInt8) (later : List Transfer) :
    Prop :=
  ∃ command delivery, later = link.transfers ++ command ++ delivery ∧
    (∀ transfer ∈ command, transfer.WritesTo .umac
      (rpuMemTxCmdBase.toNat + txCommandSlotSize.toNat * token.toNat) txCommandSlotSize.toNat) ∧
    ∀ transfer ∈ delivery, ∃ queues, link.device.queues = some queues ∧
      Delivers queues.commandBusy transfer

theorem post_submitTransmit_transfers (token : UInt8) (packetAddress : UInt32) (wdevId : UInt8)
    (frame : Bytes) (dscpTos : UInt16) (link : DataLink (Traced β) rx tx)
    (inRange : token.toNat < maxTxTokens)
    (base : link.device.txCommandBase = 0 ∨ link.device.txCommandBase = rpuMemTxCmdBase) :
    Post (DataPath.submitTransmit token packetAddress wdevId frame dscpTos) link (fun _ next =>
      SubmitTransfers link token next.transfers) := by
  have idle : SubmitTransfers link token link.transfers := ⟨[], [], by simp, by simp, by simp⟩
  rw [DataPath.submitTransmit, post_bind, post_get]
  dsimp only
  rw [post_bind, post_liftResult, DataPath.transmitQueueContext]
  by_cases unset : link.device.txCommandBase = 0
  · rw [if_pos unset]
    exact idle
  · rw [if_neg unset]
    cases known : link.device.queues with
    | none => exact idle
    | some queues =>
        have address : link.device.txCommandBase = rpuMemTxCmdBase := base.resolve_left unset
        obtain ⟨start, below⟩ := toNat_txCommandAddress inRange
        dsimp only [pure, Except.pure]
        rw [post_bind, address]
        refine (post_orRelease_extends token link (post_onRpu_extends link
          (Rpu.post_write_within _ _ _ link.device.rpu))).mono ?_
        rintro r written ⟨command, more, inside⟩
        have commands : ∀ transfer ∈ command, transfer.WritesTo .umac
            (rpuMemTxCmdBase.toNat + txCommandSlotSize.toNat * token.toNat)
            txCommandSlotSize.toNat := by
          intro transfer member
          obtain ⟨direction, within⟩ := inside transfer member
          refine ⟨direction, within.mono (by omega) ?_⟩
          rw [start, length_encodeTxCommand]
          have padded : align4 txCommandTotalLen = 60 := rfl
          have size : txCommandSlotSize.toNat = 148 := rfl
          omega
        cases r with
        | error failure => exact ⟨command, [], by rw [more, List.append_nil], commands, by simp⟩
        | ok done =>
            refine (post_deliverTransmitCommand_extends _ _ written).mono ?_
            rintro r next ⟨delivery, last, delivers⟩
            refine ⟨command, delivery, by rw [last, more], commands, fun transfer member => ?_⟩
            exact ⟨queues, known, delivers transfer member⟩

/-- Before a token is reserved nothing is transferred; afterwards the packet is written
into the token's slot. -/
theorem post_prepareTransmit_transfers (frame : Bytes) (link : DataLink (Traced β) rx tx) :
    Post (DataPath.prepareTransmit frame) link (fun r next =>
      (next.transfers = link.transfers ∧ ∃ failure, r = .error failure) ∨
      ∃ (token : UInt8) (slot : UInt32), link.path.layout.txSlotAddress token.toNat = some slot ∧
        Extends (Transfer.WritesTo .umac slot.toNat link.path.layout.txStride)
          link.transfers next.transfers ∧
        ∀ prepared, r = .ok prepared → prepared = (token, slot)) := by
  rw [DataPath.prepareTransmit, post_bind, post_get]
  dsimp only
  rw [post_bind, post_liftResult]
  cases valid : (DataPath.validateTransmitFrame frame link.path.layout.txBufferSize :
      Except (DataError ε) Unit) with
  | error failure => exact .inl ⟨rfl, failure, rfl⟩
  | ok done =>
      obtain ⟨_, short⟩ := DataPath.validateTransmitFrame_eq_ok valid
      dsimp only
      rw [post_bind, DataPath.reserveToken, post_bind, post_get]
      dsimp only
      cases free : link.path.reserveTx with
      | none => exact (post_throw _ _ _).mpr (.inl ⟨rfl, _, rfl⟩)
      | some reservation =>
          obtain ⟨index, reserved⟩ := reservation
          obtain ⟨inRange, _, layout, _⟩ := DataPath.reserveTx_eq_some link.path free
          have value := DataPath.toNat_token link.path.layout inRange
          obtain ⟨slot, found⟩ := link.path.layout.separated.defined (.tx ⟨index, inRange⟩)
          have found : link.path.layout.txSlotAddress (UInt8.ofNat index).toNat = some slot := by
            rw [value]
            exact found
          obtain ⟨_, place⟩ := link.path.layout.txSlotAddress_eq_some found
          have fits := link.path.layout.strides_fit
          have stride := link.path.layout.txStride_eq
          have inside : (UInt8.ofNat index).toNat * link.path.layout.txStride +
              link.path.layout.txStride ≤ link.path.layout.txStride * tx :=
            Layout.slot_inside (by omega)
          have padded : align4 frame.length ≤ link.path.layout.txStride := by
            rw [stride, align4, align4]
            omega
          simp only [post_bind, post_set, post_pure, post_liftResult, DataPath.txSlot, found]
          refine (post_orRelease_extends _ { link with path := reserved }
            (post_writePacket_within slot frame { link with path := reserved } (by omega))).mono ?_
          intro r next extended
          have stays : Extends (Transfer.WritesTo .umac slot.toNat link.path.layout.txStride)
              link.transfers next.transfers :=
            extended.mono fun transfer writes =>
              ⟨writes.1, writes.2.mono (Nat.le_refl _) (by omega)⟩
          cases r with
          | error failure =>
              exact .inr ⟨_, slot, found, stays, fun _ impossible => absurd impossible (by simp)⟩
          | ok done =>
              exact .inr ⟨_, slot, found, stays, fun _ same => (Except.ok.inj same).symm⟩

theorem post_transmit_transfers (wdevId : UInt8) (frame : Bytes) (dscpTos : UInt16)
    (link : DataLink (Traced β) rx tx)
    (base : link.device.txCommandBase = 0 ∨ link.device.txCommandBase = rpuMemTxCmdBase) :
    Post (DataPath.transmit wdevId frame dscpTos) link (TransmitTransfers link) := by
  rw [DataPath.transmit, post_bind]
  refine ((post_prepareTransmit_transfers frame link).and
    ((calm_prepareTransmit frame).post link)).mono ?_
  rintro r prepared ⟨outcome, calm⟩
  obtain ⟨configuration, _, layout⟩ := by simpa only [Prod.mk.injEq] using calm
  have queues : prepared.device.queues = link.device.queues :=
    congrArg Configuration.queues configuration
  have commandBase : prepared.device.txCommandBase = link.device.txCommandBase :=
    congrArg Configuration.txCommandBase configuration
  rcases outcome with ⟨same, failure, rfl⟩ | ⟨token, slot, found, ⟨packet, more, inside⟩, returned⟩
  · exact .silent failure prepared same
  · have inRange : token.toNat < maxTxTokens :=
      Nat.lt_of_lt_of_le (link.path.layout.txSlotAddress_eq_some found).1 link.path.layout.counts.2.2.2
    have below := (toNat_txCommandAddress inRange).2
    cases r with
    | error failure =>
        exact .moved _ prepared token.toNat slot packet [] [] found (by simp [more]) inside (by simp)
          below (by simp) fun _ impossible => absurd impossible (by simp)
    | ok value =>
        obtain rfl := returned value rfl
        dsimp only
        rw [post_bind]
        refine (post_submitTransmit_transfers token slot wdevId frame dscpTos prepared inRange
          (commandBase ▸ base)).mono ?_
        rintro r next ⟨command, delivery, last, commands, delivers⟩
        rw [queues] at delivers
        rw [more] at last
        cases r with
        | error failure =>
            exact .moved _ next token.toNat slot packet command delivery found last inside commands
              below delivers fun _ impossible => absurd impossible (by simp)
        | ok done =>
            simp only [post_bind, DataPath.onDevice, post_onField, Device.record, post_modify,
              post_pure]
            exact .moved _ _ token.toNat slot packet command delivery found last inside commands
              below delivers fun _ same => congrArg UInt8.toNat (Except.ok.inj same).symm

/-! ### Receiving -/

/-- A post writes only. -/
theorem post_postRx_writes (descriptor : UInt16) (poolId : Nat)
    (link : DataLink (Traced β) rx tx) :
    Post (DataPath.postRx descriptor poolId) link (fun _ next =>
      Extends (fun transfer => transfer.direction = .write) link.transfers next.transfers) := by
  rw [DataPath.post_postRx]
  cases (DataPath.rxTarget link descriptor poolId :
      Except (DataError ε) (Hpq × UInt32 × UInt32)) with
  | error failure => exact Extends.refl _ _
  | ok target =>
      obtain ⟨queue, commandBase, slot⟩ := target
      dsimp only
      have prepare : Post (DataPath.prepareRxDescriptor slot commandBase descriptor) link
          (fun _ next => Extends (fun transfer => transfer.direction = .write)
            link.transfers next.transfers) := by
        refine post_bind_extends ?_ fun _ next => post_bind_extends ?_ fun _ last => ?_
        · refine (post_onRpu_extends link
            (Rpu.post_writeU32_within _ slot _ link.device.rpu)).mono ?_
          exact fun _ _ extended => extended.mono fun _ writes => writes.1
        · exact post_onRpu_extends next (Rpu.post_writeIndirect_writes _ _ _ next.device.rpu)
        · exact (post_pure _ _ _).mpr (Extends.refl _ _)
      refine prepare.mono ?_
      intro r next extended
      cases r with
      | error failure => exact extended
      | ok address =>
          dsimp only
          rw [DataPath.deliverRxDescriptor, post_mapError]
          refine (post_onDevice_extends _ (post_enqueue_extends queue address _)).mono ?_
          exact fun _ _ later => extended.trans (later.mono fun _ writes => writes.1)

/-- A read of the packet's own slot, if it is a read at all. -/
def ReadsOwnSlot (layout : Layout rx tx) (event : RxEvent) (index : Nat) (transfer : Transfer) :
    Prop :=
  transfer.direction = .read → ∃ info slot, event.packet index = .ok info ∧
    layout.rxSlotAddress info.descriptorId.toNat = some slot ∧
      transfer.Within .lmac slot.toNat layout.rxStride

omit [Bus β ε] in
theorem readsOwnSlot_of_write {layout : Layout rx tx} {event : RxEvent} {index : Nat}
    {transfer : Transfer} (write : transfer.direction = .write) :
    ReadsOwnSlot layout event index transfer := by
  intro read
  rw [write] at read
  cases read

omit [Bus β ε] in
theorem post_takeRxDescriptor_packet (event : RxEvent) (index : Nat)
    (link : DataLink (Traced β) rx tx) :
    Post (DataPath.takeRxDescriptor event index :
        Program (DataLink (Traced β) rx tx) (DataError ε) RxPacketInfo) link (fun r next =>
      next.device = link.device ∧ next.path.layout = link.path.layout ∧
        ∀ info, r = .ok info → event.packet index = .ok info ∧ info.descriptorId.toNat < rx) := by
  rw [DataPath.takeRxDescriptor, post_bind, post_liftResult]
  cases known : event.packet index with
  | error failure => exact ⟨rfl, rfl, fun _ impossible => absurd impossible (by simp)⟩
  | ok info =>
      simp only [Except.mapError, post_bind, post_get]
      rw [post_ite]
      by_cases refused : rx ≤ info.descriptorId.toNat ∨
          ¬ link.path.posted info.descriptorId.toNat = true
      · rw [if_pos refused, post_bind, post_throw]
        exact ⟨rfl, rfl, fun _ impossible => absurd impossible (by simp)⟩
      · rw [if_neg refused]
        simp only [post_bind, DataPath.onPath, post_onField, post_modify, post_pure]
        have inRange : info.descriptorId.toNat < rx := by omega
        exact ⟨trivial, rfl, fun other same => by rw [← Except.ok.inj same]; exact ⟨rfl, inRange⟩⟩

theorem post_postRx_throw_writes (descriptor : UInt16) (failure : DataError ε)
    (link : DataLink (Traced β) rx tx) :
    Post (do DataPath.postRx descriptor 0; throw failure :
        Program (DataLink (Traced β) rx tx) (DataError ε) α) link (fun r next =>
      (∃ failure, r = .error failure) ∧
        Extends (fun transfer => transfer.direction = .write) link.transfers next.transfers) := by
  rw [post_bind]
  refine (post_postRx_writes descriptor 0 link).mono ?_
  intro r next extended
  cases r with
  | error failure => exact ⟨⟨failure, rfl⟩, extended⟩
  | ok done => exact (post_throw _ _ _).mpr ⟨⟨failure, rfl⟩, extended⟩

theorem post_ensureReceiveCapacity_writes (info : RxPacketInfo) (outputLen : Nat)
    (link : DataLink (Traced β) rx tx) :
    Post (DataPath.ensureReceiveCapacity info outputLen) link (fun r next =>
      Extends (fun transfer => transfer.direction = .write) link.transfers next.transfers ∧
        ∀ done, r = .ok done → next = link ∧
          info.packetLen.toNat ≤ link.path.layout.rxBufferSize ∧
          info.packetLen.toNat ≤ outputLen) := by
  rw [DataPath.ensureReceiveCapacity, post_bind, post_get]
  dsimp only
  rw [post_ite]
  by_cases large : link.path.layout.rxBufferSize < info.packetLen.toNat
  · rw [if_pos large]
    refine (post_postRx_throw_writes info.descriptorId _ link).mono ?_
    rintro r next ⟨⟨failure, rfl⟩, extended⟩
    exact ⟨extended, fun _ impossible => absurd impossible (by simp)⟩
  · rw [if_neg large, post_ite]
    by_cases small : outputLen < info.packetLen.toNat
    · rw [if_pos small]
      refine (post_postRx_throw_writes info.descriptorId _ link).mono ?_
      rintro r next ⟨⟨failure, rfl⟩, extended⟩
      exact ⟨extended, fun _ impossible => absurd impossible (by simp)⟩
    · rw [if_neg small, post_pure]
      exact ⟨Extends.refl _ _, fun _ _ => ⟨rfl, by omega, by omega⟩⟩

/-- The one read of a reception starts behind the headroom of the slot and stays in it. -/
theorem post_readRxOrRepost_reads (event : RxEvent) (index : Nat) (info : RxPacketInfo)
    (slot : UInt32) (link : DataLink (Traced β) rx tx) (buffer : Bytes)
    (known : event.packet index = .ok info)
    (found : link.path.layout.rxSlotAddress info.descriptorId.toNat = some slot)
    (fits : buffer.length ≤ link.path.layout.rxBufferSize) :
    Post (DataPath.readRxOrRepost info slot) (link, buffer) (fun _ next =>
      Extends (ReadsOwnSlot link.path.layout event index) link.transfers next.1.transfers) := by
  rw [DataPath.readRxOrRepost, post_bind, post_attempt, post_onField]
  refine (Rpu.post_read .lmac (slot + UInt32.ofNat rxBufferHeadroom)
    (link.device.rpu, buffer)).mono ?_
  rintro r ⟨rpu, bytes⟩ ⟨fetched, _⟩
  obtain ⟨inRange, place⟩ := link.path.layout.rxSlotAddress_eq_some found
  have pools := link.path.layout.strides_fit
  have stride := link.path.layout.rxStride_eq
  have slotInside : info.descriptorId.toNat * link.path.layout.rxStride +
      link.path.layout.rxStride ≤ link.path.layout.rxStride * rx := Layout.slot_inside inRange
  have behind : (slot + UInt32.ofNat rxBufferHeadroom).toNat = slot.toNat + 4 := by
    have headroom : (UInt32.ofNat rxBufferHeadroom).toNat = 4 := rfl
    rw [UInt32.toNat_add, headroom, Nat.mod_eq_of_lt (by omega)]
  have padded : align4 buffer.length ≤ align4 link.path.layout.rxBufferSize := by
    rw [align4, align4]
    omega
  have inside : Extends (ReadsOwnSlot link.path.layout event index)
      link.device.rpu.transfers rpu.transfers :=
    fetched.mono fun transfer reads _ =>
      ⟨info, slot, known, found, reads.2.mono (by omega) (by dsimp only; omega)⟩
  cases r with
  | ok done => exact (post_pure _ _ _).mpr inside
  | error failure =>
      dsimp only
      rw [post_bind, besideBuffer, post_onField]
      refine (post_postRx_writes info.descriptorId 0
        { link with device := { link.device with rpu } }).mono ?_
      intro r next extended
      have whole := inside.trans (extended.mono fun _ write => readsOwnSlot_of_write write)
      cases r with
      | error failure => exact whole
      | ok done => exact (post_throw _ _ _).mpr whole

theorem post_receivePacket_reads (event : RxEvent) (index : Nat)
    (link : DataLink (Traced β) rx tx) (output : Bytes) :
    Post (DataPath.receivePacket event index) (link, output) (fun _ after =>
      Extends (ReadsOwnSlot link.path.layout event index) link.transfers after.1.transfers) := by
  have written {first last : DataLink (Traced β) rx tx}
      (extended : Extends (fun transfer => transfer.direction = .write)
        first.transfers last.transfers) :
      Extends (ReadsOwnSlot link.path.layout event index) first.transfers last.transfers :=
    extended.mono fun _ write => readsOwnSlot_of_write write
  rw [DataPath.receivePacket, post_bind, besideBuffer, post_onField]
  refine (post_takeRxDescriptor_packet event index link).mono ?_
  rintro r taken ⟨device, layout, accepted⟩
  have start : Extends (ReadsOwnSlot link.path.layout event index)
      link.transfers taken.transfers := by
    rw [transfers, transfers, device]
    exact Extends.refl _ _
  cases r with
  | error failure => exact start
  | ok info =>
      obtain ⟨known, inRange⟩ := accepted info rfl
      simp only [post_bind, post_get]
      rw [besideBuffer, post_onField]
      refine (post_ensureReceiveCapacity_writes info output.length taken).mono ?_
      rintro r ensured ⟨extended, capacity⟩
      cases r with
      | error failure => exact start.trans (written extended)
      | ok done =>
          obtain ⟨rfl, fits, short⟩ := capacity done rfl
          dsimp only
          rw [post_liftResult, DataPath.rxSlot]
          obtain ⟨slot, found⟩ := link.path.layout.separated.defined (.rx ⟨_, inRange⟩)
          have found : ensured.path.layout.rxSlotAddress info.descriptorId.toNat = some slot := by
            rw [layout]
            exact found
          rw [found]
          dsimp only
          rw [inSlice, post_onField]
          have size : (slice output 0 info.packetLen.toNat).length ≤
              ensured.path.layout.rxBufferSize := by
            rw [length_slice_of_le short]
            omega
          refine (post_readRxOrRepost_reads event index info slot ensured _ known found size).mono ?_
          rw [layout]
          intro r read fetched
          cases r with
          | error failure => exact start.trans fetched
          | ok done =>
              dsimp only
              rw [inSlice, post_onField]
              refine (DataPath.post_convertReceived info event.macHeaderLen.toNat _).mono ?_
              intro r converted kept
              dsimp only at kept
              cases r with
              | error failure =>
                  have same : converted.1.transfers = read.1.transfers := congrArg transfers kept
                  exact same ▸ start.trans fetched
              | ok conversion =>
                  dsimp only
                  rw [besideBuffer, post_onField]
                  refine (post_postRx_writes info.descriptorId 0 converted.1).mono ?_
                  intro r next reposted
                  rw [kept] at reposted
                  have whole := (start.trans fetched).trans (written reposted)
                  cases r with
                  | error failure => exact whole
                  | ok done => exact (post_liftResult _ _ _).mpr whole

/-! ### The partition is respected -/

/-- The slots of a data path are separated, and in every state of every run the
transfers of a transmit and the reads of a reception stay in the slots they are for. -/
theorem packet_ram_partitioned (path : DataPath rx tx) (bus : Traced β) :
    path.layout.Separated ∧
      ∀ link, Reachable step (start bus path) link →
        (∀ wdevId frame dscpTos,
          Post (DataPath.transmit wdevId frame dscpTos) link (TransmitTransfers link)) ∧
        ∀ event index output,
          Post (DataPath.receivePacket event index) (link, output) (fun _ after =>
            Extends (ReadsOwnSlot path.layout event index) link.transfers after.1.transfers) := by
  refine ⟨path.layout.separated, fun link reachable => ?_⟩
  have grounded := Reachable.grounded reachable
  refine ⟨fun wdevId frame dscpTos => ?_, fun event index output => ?_⟩
  · exact post_transmit_transfers wdevId frame dscpTos link grounded.base
  · rw [← grounded.layout]
    exact post_receivePacket_reads event index link output

end DataLink

end Nrf7002
