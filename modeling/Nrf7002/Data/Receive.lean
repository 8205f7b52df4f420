import Nrf7002.Data.Ethernet
import Nrf7002.Data.Path
import Nrf7002.Transport.Backed

/-! # What a receive leaves in the caller's buffer

Over a bus in front of a memory, a receive reads its packet and nothing else, so it ends
alike for every packet up to the conversion.  The buffer keeps the caller's bytes, holds
the bytes that arrived before the read failed, or holds the packet as the conversion left
it. -/

set_option autoImplicit false

namespace Nrf7002
open Foundation

/-! ## Links that differ in their memories -/

namespace Device
variable {β ε α : Type}

/-- The devices differ in nothing but what their memories hold. -/
def AlikeBehind (device other : Device (BackedBus β)) : Prop :=
  ∃ memory, other = { device with rpu := { bus := device.rpu.bus.holding memory } }

theorem respectsBehind_onRpu {x : Program (Rpu (BackedBus β)) (RpuError ε) α}
    (respects : Respects Rpu.Alike x) :
    Respects AlikeBehind (onRpu x : Program (Device (BackedBus β)) (DeviceError ε) α) := by
  apply respects_onField (respects.mapError _)
  · intro device other alike
    obtain ⟨memory, rfl⟩ := alike
    exact ⟨memory, rfl⟩
  · intro device other rpu rpu' alike same
    obtain ⟨memory, rfl⟩ := alike
    obtain ⟨last, found⟩ := same
    cases rpu'
    cases found
    exact ⟨last, rfl⟩

theorem respectsBehind_enqueue [Bus β ε] (queue : Hpq) (value : UInt32) :
    Respects AlikeBehind (enqueue queue value :
      Program (Device (BackedBus β)) (DeviceError ε) Unit) := by
  have noted : Respects AlikeBehind (perform (.enqueue queue value) :
      Program (Device (BackedBus β)) (DeviceError ε) Unit) := by
    apply respects_modify
    intro device other alike
    obtain ⟨memory, rfl⟩ := alike
    exact ⟨memory, rfl⟩
  apply noted.bind
  intro _
  exact respectsBehind_onRpu (Rpu.respects_writeU32 .lmac _ _)

end Device

namespace DataLink
variable {β ε α : Type} {rx tx : Nat}

/-- The link with another memory behind its bus. -/
def holding (link : DataLink (BackedBus β) rx tx) (memory : ByteMemory) :
    DataLink (BackedBus β) rx tx :=
  { link with device := { link.device with rpu := { bus := link.device.rpu.bus.holding memory } } }

/-- The links differ in nothing but what their memories hold. -/
def AlikeBehind (link other : DataLink (BackedBus β) rx tx) : Prop :=
  ∃ memory, other = link.holding memory

section Respects

theorem respectsBehind_onRpu {x : Program (Rpu (BackedBus β)) (RpuError ε) α}
    (respects : Respects Rpu.Alike x) :
    Respects AlikeBehind (DataPath.onRpu x :
      Program (DataLink (BackedBus β) rx tx) (DataError ε) α) := by
  apply respects_onField (respects.mapError _)
  · intro link other alike
    obtain ⟨memory, rfl⟩ := alike
    exact ⟨memory, rfl⟩
  · intro link other rpu rpu' alike same
    obtain ⟨memory, rfl⟩ := alike
    obtain ⟨last, found⟩ := same
    cases rpu'
    cases found
    exact ⟨last, rfl⟩

theorem respectsBehind_onDevice {x : Program (Device (BackedBus β)) ε α}
    (respects : Respects Device.AlikeBehind x) :
    Respects AlikeBehind (DataPath.onDevice x :
      Program (DataLink (BackedBus β) rx tx) ε α) := by
  apply respects_onField respects
  · intro link other alike
    obtain ⟨memory, rfl⟩ := alike
    exact ⟨memory, rfl⟩
  · intro link other device device' alike same
    obtain ⟨memory, rfl⟩ := alike
    obtain ⟨last, rfl⟩ := same
    exact ⟨last, rfl⟩

theorem respectsBehind_modifyPath (f : DataPath rx tx → DataPath rx tx) :
    Respects AlikeBehind (DataPath.onPath (modify f) :
      Program (DataLink (BackedBus β) rx tx) ε PUnit) := by
  intro link other alike
  obtain ⟨memory, rfl⟩ := alike
  exact ⟨rfl, memory, rfl⟩

variable [Bus β ε]

/-- Posting a descriptor only writes. -/
theorem respectsBehind_postRx (descriptor : UInt16) (poolId : Nat) :
    Respects AlikeBehind (DataPath.postRx descriptor poolId :
      Program (DataLink (BackedBus β) rx tx) (DataError ε) Unit) := by
  have rest (index : Nat) (context : Hpq × UInt32) (slot : UInt32) :
      Respects AlikeBehind (do
        let address ← DataPath.prepareRxDescriptor slot context.2 descriptor
        DataPath.onPath (modify (·.setPosted index true))
        DataPath.deliverRxDescriptor context.1 address :
          Program (DataLink (BackedBus β) rx tx) (DataError ε) Unit) := by
    have prepare : Respects AlikeBehind (DataPath.prepareRxDescriptor slot context.2 descriptor :
        Program (DataLink (BackedBus β) rx tx) (DataError ε) UInt32) := by
      apply (respectsBehind_onRpu (Rpu.respects_writeU32 .lmac _ _)).bind
      intro _
      apply (respectsBehind_onRpu (Rpu.respects_writeIndirect .lmac _ _)).bind
      intro _
      exact respects_pure _
    apply prepare.bind
    intro address
    apply (respectsBehind_modifyPath _).bind
    intro _
    exact (respectsBehind_onDevice (Device.respectsBehind_enqueue _ _)).mapError _
  intro link other alike
  obtain ⟨memory, rfl⟩ := alike
  have alike : AlikeBehind link (link.holding memory) := ⟨memory, rfl⟩
  apply coupled_get_bind
  apply (coupled_liftResult _ alike).bind
  intro index link other alike
  apply (coupled_liftResult _ alike).bind
  intro context link other alike
  apply (coupled_liftResult _ alike).bind
  intro slot link other alike
  exact rest index context slot link other alike

end Respects

end DataLink

/-! ## The stages of a receive -/

namespace DataPath
variable {β ε : Type} {rx tx : Nat}

/-- A receive gets to the read of its packet. -/
structure Fetchable (link : DataLink β rx tx) (event : RxEvent) (packetIndex outputLen : Nat)
    (info : RxPacketInfo) (slot : UInt32) : Prop where
  listed : event.packet packetIndex = .ok info
  posted : link.path.posted info.descriptorId.toNat = true
  fits : info.packetLen.toNat ≤ link.path.layout.rxBufferSize
  room : info.packetLen.toNat ≤ outputLen
  placed : link.path.layout.rxSlotAddress info.descriptorId.toNat = some slot

/-- The link once the descriptor of the packet was taken back. -/
def takenBack (link : DataLink β rx tx) (info : RxPacketInfo) : DataLink β rx tx :=
  { link with path := link.path.setPosted info.descriptorId.toNat false }

section Stages
variable [Bus β ε]

/-- A receive from its read on. -/
def fetchPacket (event : RxEvent) (info : RxPacketInfo) (slot : UInt32) :
    Program (DataLink β rx tx × Bytes) (DataError ε) ReceivedFrame := do
  let rawLen := info.packetLen.toNat
  inSlice 0 rawLen (readRxOrRepost info slot)
  let conversion ← inSlice 0 rawLen (convertReceived info event.macHeaderLen.toNat)
  besideBuffer (postRx info.descriptorId 0)
  let (_, output) ← get
  liftResult (receivedFrame conversion output info event)

variable {event : RxEvent} {packetIndex : Nat} {info : RxPacketInfo} {slot : UInt32}
  {link : DataLink β rx tx} {output : Bytes}

theorem post_receiveCapacity (outputLen : Nat) :
    Post (ensureReceiveCapacity info outputLen) link (fun r next =>
      (r = .ok () ∧ next = link ∧ info.packetLen.toNat ≤ link.path.layout.rxBufferSize ∧
        info.packetLen.toNat ≤ outputLen) ∨
      ((∃ failure, r = .error failure) ∧
        ¬ (info.packetLen.toNat ≤ link.path.layout.rxBufferSize ∧
          info.packetLen.toNat ≤ outputLen))) := by
  rw [ensureReceiveCapacity, post_bind, post_get]
  dsimp only
  rw [post_ite]
  by_cases large : link.path.layout.rxBufferSize < info.packetLen.toNat
  · rw [if_pos large, post_bind]
    refine (post_true _ _).mono ?_
    intro r t _
    cases r with
    | error failure => exact .inr ⟨⟨failure, rfl⟩, by omega⟩
    | ok done =>
        rw [post_bind, post_throw]
        exact .inr ⟨⟨_, rfl⟩, by omega⟩
  · rw [if_neg large, post_ite]
    by_cases small : outputLen < info.packetLen.toNat
    · rw [if_pos small, post_bind]
      refine (post_true _ _).mono ?_
      intro r t _
      cases r with
      | error failure => exact .inr ⟨⟨failure, rfl⟩, by omega⟩
      | ok done =>
          rw [post_throw]
          exact .inr ⟨⟨_, rfl⟩, by omega⟩
    · rw [if_neg small, post_pure]
      exact .inl ⟨rfl, rfl, by omega, by omega⟩

omit [Bus β ε] in
theorem post_takenBack :
    Post (takeRxDescriptor event packetIndex : Program (DataLink β rx tx) (DataError ε) RxPacketInfo)
      link (fun r next =>
        (∃ info, r = .ok info ∧ next = takenBack link info ∧
          event.packet packetIndex = .ok info ∧
            link.path.posted info.descriptorId.toNat = true) ∨
        ((∃ failure, r = .error failure) ∧ ∀ info, event.packet packetIndex = .ok info →
          link.path.posted info.descriptorId.toNat ≠ true)) := by
  rw [takeRxDescriptor, post_bind, post_liftResult]
  cases listed : event.packet packetIndex with
  | error failure =>
      refine .inr ⟨⟨_, rfl⟩, ?_⟩
      intro info same
      cases same
  | ok info =>
      simp only [Except.mapError]
      rw [post_bind, post_get]
      dsimp only
      by_cases refused : rx ≤ info.descriptorId.toNat ∨
          ¬ link.path.posted info.descriptorId.toNat = true
      · rw [if_pos refused, post_bind, post_throw]
        refine .inr ⟨⟨_, rfl⟩, ?_⟩
        intro other same posted
        cases same
        rcases refused with outside | unposted
        · rw [DataPath.posted, dif_neg (by omega)] at posted
          cases posted
        · exact unposted posted
      · rw [not_or, not_not] at refused
        rw [if_neg (by rw [not_or, not_not]; exact refused), post_bind, onPath, post_onField,
          post_modify]
        dsimp only
        rw [post_pure]
        exact .inl ⟨info, rfl, rfl, rfl, refused.2⟩

/-- Without a packet to fetch the receive fails, and the caller's buffer stays as it was. -/
theorem post_receivePacket_unfetchable
    (none : ∀ info slot, ¬ Fetchable link event packetIndex output.length info slot) :
    Post (receivePacket event packetIndex) (link, output)
      (fun r t => (∃ failure, r = .error failure) ∧ t.2 = output) := by
  rw [receivePacket, post_bind, besideBuffer, post_onField]
  refine post_takenBack.mono ?_
  intro r next taken
  rcases taken with ⟨info, rfl, rfl, listed, posted⟩ | ⟨⟨failure, rfl⟩, _⟩
  · dsimp only
    rw [post_bind, post_get]
    dsimp only
    rw [post_bind, besideBuffer, post_onField]
    refine (post_receiveCapacity output.length).mono ?_
    intro r next capacity
    rcases capacity with ⟨rfl, rfl, fits, room⟩ | ⟨⟨failure, rfl⟩, _⟩
    · dsimp only
      rw [post_bind, post_liftResult, rxSlot]
      cases placed : (takenBack link info).path.layout.rxSlotAddress info.descriptorId.toNat with
      | none => exact ⟨⟨_, rfl⟩, rfl⟩
      | some slot => exact absurd ⟨listed, posted, fits, room, placed⟩ (none info slot)
    · exact ⟨⟨failure, rfl⟩, rfl⟩
  · exact ⟨⟨failure, rfl⟩, rfl⟩

/-- A packet that can be fetched is. -/
theorem post_receivePacket_fetchable
    (fetchable : Fetchable link event packetIndex output.length info slot)
    {Q : Except (DataError ε) ReceivedFrame → DataLink β rx tx × Bytes → Prop}
    (fetched : Post (fetchPacket event info slot) (takenBack link info, output) Q) :
    Post (receivePacket event packetIndex) (link, output) Q := by
  rw [receivePacket, post_bind, besideBuffer, post_onField]
  refine post_takenBack.mono ?_
  intro r next taken
  rcases taken with ⟨other, rfl, rfl, listed, posted⟩ | ⟨_, unposted⟩
  · obtain rfl : info = other := Except.ok.inj (fetchable.listed.symm.trans listed)
    dsimp only
    rw [post_bind, post_get]
    dsimp only
    rw [post_bind, besideBuffer, post_onField]
    refine (post_receiveCapacity output.length).mono ?_
    intro r next capacity
    rcases capacity with ⟨rfl, rfl, fits, room⟩ | ⟨_, full⟩
    · have placed : (rxSlot (takenBack link info).path.layout info.descriptorId.toNat
          info.descriptorId : Except (DataError ε) UInt32) = .ok slot := by
        have known : (takenBack link info).path.layout.rxSlotAddress info.descriptorId.toNat =
            some slot := fetchable.placed
        rw [rxSlot, known]
      dsimp only
      rw [post_bind, post_liftResult, placed]
      exact fetched
    · exact absurd ⟨fetchable.fits, fetchable.room⟩ full
  · exact absurd fetchable.posted (unposted info fetchable.listed)

/-! ### Errors of a repost -/

omit [Bus β ε] in
theorem rxContext_not_stopped (path : DataPath rx tx) (device : Device β) (descriptor : UInt16)
    (poolId index : Nat) :
    (availableRxIndex path descriptor : Except (DataError ε) Nat) ≠ .error .stopped ∧
      (rxQueueContext device poolId descriptor : Except (DataError ε) (Hpq × UInt32)) ≠
        .error .stopped ∧
      (rxSlot path.layout index descriptor : Except (DataError ε) UInt32) ≠ .error .stopped := by
  refine ⟨?_, ?_, ?_⟩
  · rw [availableRxIndex]
    split_ifs
    · simp
    · simp
    · simp
  · rw [rxQueueContext]
    cases device.queues with
    | none => simp [throw, throwThe, MonadExceptOf.throw]
    | some queues =>
        dsimp only
        cases rxBufferBusyQueue queues poolId with
        | none => simp [throw, throwThe, MonadExceptOf.throw]
        | some queue =>
            dsimp only
            split_ifs
            · simp [throw, throwThe, MonadExceptOf.throw, bind, Except.bind]
            · simp [pure, Except.pure]
  · rw [rxSlot]
    split
    · simp
    · simp

/-- No error of a repost stops the program. -/
theorem postRx_not_stopped (descriptor : UInt16) (poolId : Nat) (link : DataLink β rx tx) :
    Post (postRx descriptor poolId : Program (DataLink β rx tx) (DataError ε) Unit) link
      (fun r _ => r ≠ .error .stopped) := by
  have written (x : Program (Rpu β) (RpuError ε) Unit) (link : DataLink β rx tx) :
      Post (onRpu x) link (fun r _ => r ≠ .error .stopped) := by
    rw [onRpu, post_onField, post_mapError]
    refine (post_true _ _).mono ?_
    intro r t _
    cases r with
    | error failure => simp [Except.mapError]
    | ok done => simp [Except.mapError]
  have context := rxContext_not_stopped (ε := ε) link.path link.device descriptor poolId
  rw [postRx, post_bind, post_get]
  dsimp only
  rw [post_bind, post_liftResult]
  cases available : (availableRxIndex link.path descriptor : Except (DataError ε) Nat) with
  | error failure => exact fun same => (context 0).1 (available.trans (congrArg _ (Except.error.inj same)))
  | ok index =>
      dsimp only
      rw [post_bind, post_liftResult]
      cases found : (rxQueueContext link.device poolId descriptor :
          Except (DataError ε) (Hpq × UInt32)) with
      | error failure =>
          exact fun same => (context 0).2.1 (found.trans (congrArg _ (Except.error.inj same)))
      | ok queue =>
          dsimp only
          rw [post_bind, post_liftResult]
          cases placed : (rxSlot link.path.layout index descriptor : Except (DataError ε) UInt32) with
          | error failure =>
              exact fun same =>
                (context index).2.2 (placed.trans (congrArg _ (Except.error.inj same)))
          | ok slot =>
              dsimp only
              rw [post_bind, prepareRxDescriptor, post_bind]
              refine (written _ link).mono ?_
              intro r first calm
              cases r with
              | error failure => exact fun same => calm (congrArg _ (Except.error.inj same))
              | ok done =>
                  dsimp only
                  rw [post_bind]
                  refine (written _ first).mono ?_
                  intro r second calm
                  cases r with
                  | error failure => exact fun same => calm (congrArg _ (Except.error.inj same))
                  | ok done =>
                      dsimp only
                      rw [post_pure]
                      dsimp only
                      rw [post_bind, onPath, post_onField, post_modify]
                      dsimp only
                      rw [deliverRxDescriptor, post_mapError]
                      refine (post_true _ _).mono ?_
                      intro r last _
                      cases r with
                      | error failure => simp [Except.mapError]
                      | ok done => simp [Except.mapError]

end Stages

/-! ## The read of a packet -/

section Backed
variable {link : DataLink (BackedBus β) rx tx} {info : RxPacketInfo} {slot : UInt32}

/-- Where the memory holds the packet of a slot. -/
def packetPlace (slot : UInt32) : Nat :=
  match hostOffset .lmac (slot + UInt32.ofNat rxBufferHeadroom) with
  | .ok offset => offset.toNat
  | .error _ => 0

/-- The link on another state of its bus. -/
def onBus (link : DataLink (BackedBus β) rx tx) (next : β) : DataLink (BackedBus β) rx tx :=
  { link with device := { link.device with rpu := { bus := { link.device.rpu.bus with bus := next } } } }

variable [Bus β ε]

/-- Whatever the memory holds, the read of the packet ends in `r` and leaves the bus in
`next`, and the first `count` bytes of the packet have arrived. -/
structure ReadEnds (link : DataLink (BackedBus β) rx tx) (info : RxPacketInfo) (slot : UInt32)
    (r : Except (RpuError ε) Unit) (next : β) (count : Nat) : Prop where
  few : count ≤ info.packetLen.toNat
  whole : r = .ok () → count = info.packetLen.toNat
  runs : ∀ (memory : ByteMemory) (data : Bytes), data.length = info.packetLen.toNat →
    Post (Rpu.read .lmac (slot + UInt32.ofNat rxBufferHeadroom))
      ((link.holding memory).device.rpu, data) (fun r' t => r' = r ∧
        t = (((onBus link next).holding memory).device.rpu,
          splice data 0 (memory.fetch (packetPlace slot) count)))

theorem readEnds_exists (link : DataLink (BackedBus β) rx tx) (info : RxPacketInfo)
    (slot : UInt32) : ∃ r next count, ReadEnds (ε := ε) link info slot r next count := by
  have placed : ∀ offset, hostOffset .lmac (slot + UInt32.ofNat rxBufferHeadroom) = .ok offset →
      offset.toNat = packetPlace slot := by
    intro offset mapped
    rw [packetPlace, mapped]
  obtain ⟨r, next, count, _, few, whole, runs⟩ := Rpu.moves_read (β := β) (ε := ε) .lmac _ placed
    link.device.rpu.bus.bus
  refine ⟨r, next, count, few, whole, ?_⟩
  intro memory data size
  have ended := runs memory data size
  rw [Nat.add_zero, Nat.sub_zero] at ended
  exact ended

/-! ## What the buffer holds afterwards -/

variable {r : Except (RpuError ε) Unit} {next : β} {count : Nat}

/-- The bytes that have arrived stay in the buffer, also when the read fails. -/
theorem post_readRxOrRepost_fills (ends : ReadEnds link info slot r next count) (memory : ByteMemory)
    {data : Bytes} (size : data.length = info.packetLen.toNat) :
    Post (readRxOrRepost info slot) (link.holding memory, data) (fun r' t =>
      t.2 = splice data 0 (memory.fetch (packetPlace slot) count) ∧
        (r = .ok () ∧ r' = .ok () ∧ t.1 = (onBus link next).holding memory ∨
          r ≠ .ok () ∧ ∃ failure, r' = .error failure ∧ failure ≠ .stopped)) := by
  rw [readRxOrRepost]
  dsimp only
  rw [post_bind, post_attempt, post_onField]
  refine (ends.runs memory data size).mono ?_
  intro r' t ended
  obtain ⟨rfl, rfl⟩ := ended
  cases r' with
  | ok done =>
      dsimp only
      rw [post_pure]
      exact ⟨rfl, .inl ⟨rfl, rfl, rfl⟩⟩
  | error failure =>
      dsimp only
      rw [post_bind, besideBuffer, post_onField]
      refine (postRx_not_stopped info.descriptorId 0 _).mono ?_
      intro posted t calm
      cases posted with
      | error failure =>
          refine ⟨rfl, .inr ⟨by simp, failure, rfl, ?_⟩⟩
          intro same
          exact calm (congrArg _ same)
      | ok done =>
          dsimp only
          rw [post_throw]
          exact ⟨rfl, .inr ⟨by simp, _, rfl, by simp⟩⟩

omit [Bus β ε] in
/-- The conversion works on the buffer alone. -/
theorem post_convertReceived_packet (macHeaderLen : Nat) (link : DataLink β rx tx) (packet : Bytes) :
    Post (convertReceived info macHeaderLen : Program (DataLink β rx tx × Bytes) (DataError ε) _)
      (link, packet) (fun r t =>
        t = (link, stateAfter (convertToEthernet info.payloadType macHeaderLen) packet) ∧
          r = if resultOf (convertToEthernet info.payloadType macHeaderLen) packet =
              .error .outOfBounds then .error .stopped
            else .ok (resultOf (convertToEthernet info.payloadType macHeaderLen) packet)) := by
  rw [convertReceived, post_bind, post_attempt, post_onField, post_iff]
  dsimp only
  by_cases outside : resultOf (convertToEthernet info.payloadType macHeaderLen) packet =
      .error .outOfBounds
  · rw [if_pos outside, if_pos outside, post_bind, post_throw]
    exact ⟨rfl, rfl⟩
  · rw [if_neg outside, if_neg outside, post_pure]
    exact ⟨rfl, rfl⟩

/-- A failed read leaves what has arrived. -/
theorem post_fetchPacket_failed {event : RxEvent} {output : Bytes}
    (ends : ReadEnds link info slot r next count) (failed : r ≠ .ok ())
    (room : info.packetLen.toNat ≤ output.length) (memory : ByteMemory) :
    Post (fetchPacket event info slot) (link.holding memory, output) (fun r' t =>
      (∃ failure, r' = .error failure ∧ failure ≠ .stopped) ∧
        t.2 = splice output 0 (memory.fetch (packetPlace slot) count)) := by
  have size : (slice output 0 info.packetLen.toNat).length = info.packetLen.toNat :=
    length_slice_of_le room
  have few := ends.few
  rw [fetchPacket]
  dsimp only
  rw [post_bind, inSlice, post_onField]
  refine (post_readRxOrRepost_fills ends memory size).mono ?_
  intro r' t ended
  obtain ⟨left, ⟨read, _⟩ | ⟨_, failure, rfl, calm⟩⟩ := ended
  · exact absurd read failed
  · refine ⟨⟨failure, rfl, calm⟩, ?_⟩
    dsimp only
    rw [left, splice_slice (by rw [ByteMemory.length_fetch]; omega) room]

/-- Whether a repost of the descriptor fails once the packet was read. -/
def reposted (link : DataLink (BackedBus β) rx tx) (info : RxPacketInfo) (next : β) :
    Except (DataError ε) Unit :=
  resultOf (postRx info.descriptorId 0) (onBus link next)

theorem reposted_not_stopped (link : DataLink (BackedBus β) rx tx) (next : β) :
    reposted (ε := ε) link info next ≠ .error .stopped :=
  (postRx_not_stopped info.descriptorId 0 (onBus link next)).ends

theorem resultOf_postRx_holding (link : DataLink (BackedBus β) rx tx) (memory : ByteMemory) :
    resultOf (postRx info.descriptorId 0 : Program _ (DataError ε) Unit)
        ((onBus link next).holding memory) = reposted link info next :=
  (DataLink.respectsBehind_postRx info.descriptorId 0 (onBus link next) _ ⟨memory, rfl⟩).result.symm

/-- A packet that was read stays as the conversion left it. -/
theorem post_fetchPacket_read {event : RxEvent} {output : Bytes}
    (ends : ReadEnds (ε := ε) link info slot (.ok ()) next count)
    (room : info.packetLen.toNat ≤ output.length) (memory : ByteMemory) :
    let packet := memory.fetch (packetPlace slot) info.packetLen.toNat
    let convert := convertToEthernet info.payloadType event.macHeaderLen.toNat
    let left := splice output 0 (stateAfter convert packet)
    Post (fetchPacket event info slot) (link.holding memory, output) (fun r' t =>
      resultOf convert packet = .error .outOfBounds ∧ r' = .error .stopped ∨
      resultOf convert packet ≠ .error .outOfBounds ∧ t.2 = left ∧
        r' = (reposted link info next).bind fun _ =>
          receivedFrame (resultOf convert packet) left info event) := by
  intro packet convert left
  have size : (slice output 0 info.packetLen.toNat).length = info.packetLen.toNat :=
    length_slice_of_le room
  have count_eq := ends.whole rfl
  have length : packet.length = info.packetLen.toNat := ByteMemory.length_fetch
  have kept : (stateAfter convert packet).length = packet.length := by
    have ended := (post_convertToEthernet info.payloadType event.macHeaderLen.toNat packet).ends
    cases found : resultOf convert packet with
    | ok len =>
        rw [found] at ended
        exact ended.2.inPlace
    | error failure =>
        rw [found] at ended
        exact congrArg List.length ended
  rw [fetchPacket]
  dsimp only
  rw [post_bind, inSlice, post_onField]
  refine (post_readRxOrRepost_fills ends memory size).mono ?_
  intro r' t ended
  obtain ⟨data, ⟨_, rfl, same⟩ | ⟨failed, _⟩⟩ := ended
  · obtain ⟨device, rest⟩ := t
    obtain rfl : device = (onBus link next).holding memory := same
    have filled : splice output 0 rest = splice output 0 packet := by
      dsimp only at data
      rw [data, count_eq, splice_slice (by rw [length]; omega) room]
    have part : slice (splice output 0 packet) 0 info.packetLen.toNat = packet := by
      rw [splice, List.take_zero, List.nil_append, slice_append_left (by omega),
        slice_all (by omega)]
    dsimp only
    rw [filled, post_bind, inSlice, post_onField]
    dsimp only
    rw [part]
    refine (post_convertReceived_packet _ _ packet).mono ?_
    intro r' t ended
    obtain ⟨rfl, rfl⟩ := ended
    by_cases outside : resultOf convert packet = .error .outOfBounds
    · rw [if_pos outside]
      exact .inl ⟨outside, rfl⟩
    · have replaced : splice (splice output 0 packet) 0 (stateAfter convert packet) = left := by
        simp only [left, splice, List.take_zero, List.nil_append, Nat.zero_add, kept,
          List.drop_left]
      rw [if_neg outside]
      dsimp only
      rw [replaced, post_bind, besideBuffer, post_onField, post_iff]
      dsimp only
      rw [resultOf_postRx_holding]
      cases reposted (ε := ε) link info next with
      | error failure => exact .inr ⟨outside, rfl, rfl⟩
      | ok done =>
          dsimp only
          rw [post_bind, post_get]
          dsimp only
          rw [post_liftResult]
          exact .inr ⟨outside, rfl, rfl⟩
  · exact absurd rfl failed

end Backed

end DataPath

end Nrf7002
