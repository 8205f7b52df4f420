import Nrf7002.Data.Path

/-! # Receive descriptors

A descriptor that firmware returned is either posted again, or left unposted so
that it is posted later.  The one exit of `receive_packet` that does neither is the
payload type byte, which is checked before the descriptor is taken. -/

set_option autoImplicit false

namespace Nrf7002
open Foundation

namespace DataPath
variable {β ε α : Type} {rx tx : Nat}

@[simp] theorem posted_setPosted (path : DataPath rx tx) {descriptor : Nat} (value : Bool)
    (inRange : descriptor < rx) : (path.setPosted descriptor value).posted descriptor = value := by
  simp [posted, setPosted, inRange]

section Receive

/-! ## Posting -/

/-- What `post_rx` looks up before its first transfer: queue, command base and slot. -/
def rxTarget (link : DataLink β rx tx) (descriptor : UInt16) (poolId : Nat) :
    Except (DataError ε) (Hpq × UInt32 × UInt32) := do
  let index ← availableRxIndex link.path descriptor
  let (queue, commandBase) ← rxQueueContext link.device poolId descriptor
  let slot ← rxSlot link.path.layout index descriptor
  return (queue, commandBase, slot)

theorem availableRxIndex_eq_ok {path : DataPath rx tx} {descriptor : UInt16} {index : Nat} :
    (availableRxIndex path descriptor : Except (DataError ε) Nat) = .ok index ↔
      index = descriptor.toNat ∧ index < rx ∧ path.posted index = false := by
  simp only [availableRxIndex, refused_eq_ok, Nat.not_le, Bool.not_eq_true, Except.ok.injEq]
  constructor
  · rintro ⟨inRange, free, rfl⟩
    exact ⟨rfl, inRange, free⟩
  · rintro ⟨rfl, inRange, free⟩
    exact ⟨inRange, free, rfl⟩

/-- A target exists only for a free descriptor in range. -/
theorem rxTarget_eq_ok {link : DataLink β rx tx} {descriptor : UInt16} {poolId : Nat}
    {target : Hpq × UInt32 × UInt32}
    (found : (rxTarget link descriptor poolId : Except (DataError ε) (Hpq × UInt32 × UInt32)) =
      .ok target) :
    descriptor.toNat < rx ∧
      ∃ queues, link.device.queues = some queues ∧
        rxBufferBusyQueue queues poolId = some target.1 ∧
        target.2.1 = link.device.rxCommandBase := by
  rw [rxTarget, bind_eq_ok] at found
  obtain ⟨index, available, found⟩ := found
  obtain ⟨rfl, inRange, _⟩ := availableRxIndex_eq_ok.mp available
  rw [bind_eq_ok] at found
  obtain ⟨context, looked, found⟩ := found
  rw [bind_eq_ok] at found
  obtain ⟨slot, _, same⟩ := found
  obtain rfl := Except.ok.inj same
  refine ⟨inRange, ?_⟩
  rw [rxQueueContext] at looked
  cases known : link.device.queues with
  | none => rw [known] at looked; cases looked
  | some queues =>
      rw [known] at looked
      dsimp only at looked
      cases pool : rxBufferBusyQueue queues poolId with
      | none => rw [pool] at looked; cases looked
      | some queue =>
          rw [pool] at looked
          dsimp only at looked
          by_cases unset : link.device.rxCommandBase = 0
          · rw [if_pos unset] at looked
            cases looked
          · rw [if_neg unset] at looked
            obtain rfl := Except.ok.inj looked
            exact ⟨queues, rfl, pool, rfl⟩

section Transfers
variable [Bus β ε]

theorem post_postRx (link : DataLink β rx tx) (descriptor : UInt16) (poolId : Nat)
    (Q : Except (DataError ε) Unit → DataLink β rx tx → Prop) :
    Post (postRx descriptor poolId) link Q ↔
      match (rxTarget link descriptor poolId : Except (DataError ε) (Hpq × UInt32 × UInt32)) with
      | .error failure => Q (.error failure) link
      | .ok (queue, commandBase, slot) =>
          Post (prepareRxDescriptor slot commandBase descriptor) link fun r next =>
            match r with
            | .error failure => Q (.error failure) next
            | .ok commandAddress =>
                Post (deliverRxDescriptor queue commandAddress)
                  { next with path := next.path.setPosted descriptor.toNat true } Q := by
  rw [postRx, rxTarget, post_bind, post_get]
  dsimp only
  rw [post_bind, post_liftResult]
  cases found : (availableRxIndex link.path descriptor : Except (DataError ε) Nat) with
  | error failure => rfl
  | ok index =>
      obtain ⟨rfl, _, _⟩ := availableRxIndex_eq_ok.mp found
      rw [ok_bind]
      dsimp only
      rw [post_bind, post_liftResult]
      cases (rxQueueContext link.device poolId descriptor : Except (DataError ε) (Hpq × UInt32)) with
      | error failure => rfl
      | ok context =>
          rw [ok_bind]
          dsimp only
          rw [post_bind, post_liftResult]
          cases (rxSlot link.path.layout descriptor.toNat descriptor : Except (DataError ε) UInt32) with
          | error failure => rfl
          | ok slot =>
              dsimp only
              rw [post_bind]
              refine Post.congr (post_true _ _) ?_
              rintro r next -
              cases r with
              | error failure => rfl
              | ok commandAddress => simp only [post_bind, onPath, post_onField, post_modify]

/-- Preparing a descriptor touches nothing but the bus. -/
theorem post_prepareRxDescriptor (slot commandBase : UInt32) (descriptor : UInt16)
    (link : DataLink β rx tx) :
    Post (prepareRxDescriptor slot commandBase descriptor) link (fun r next =>
      SameButBus link next ∧ ∀ address, r = .ok address →
        address = rxCommandAddress commandBase descriptor) := by
  rw [prepareRxDescriptor, post_bind]
  refine (post_onRpu _ link).mono ?_
  intro r first same
  cases r with
  | error failure => exact ⟨same, fun _ impossible => absurd impossible (by simp)⟩
  | ok done =>
      dsimp only
      rw [post_bind]
      refine (post_onRpu _ first).mono ?_
      intro r next later
      have kept : SameButBus link next := ⟨later.1.trans same.1, later.2.trans same.2⟩
      cases r with
      | error failure => exact ⟨kept, fun _ impossible => absurd impossible (by simp)⟩
      | ok done => exact (post_pure _ _ _).mpr ⟨kept, fun _ found => (Except.ok.inj found).symm⟩

/-- Delivering is one enqueue, and fails as an uncertain owner only. -/
theorem post_deliverRxDescriptor (queue : Hpq) (address : UInt32) (link : DataLink β rx tx) :
    Post (deliverRxDescriptor queue address) link (fun r next =>
      next.path = link.path ∧ Device.Performed link.device [.enqueue queue address] next.device ∧
        ∀ failure, r = .error failure → ∃ cause, failure = .queueOwnershipUncertain cause) := by
  rw [deliverRxDescriptor, post_mapError, onDevice, post_onField]
  refine (Device.post_enqueue queue address link.device).mono ?_
  intro r next performed
  refine ⟨rfl, performed, fun failure failed => ?_⟩
  cases r with
  | ok done => exact absurd failed (by simp [Except.mapError])
  | error cause => exact ⟨cause, (Except.error.inj failed).symm⟩

end Transfers

/-! ## Conservation -/

/-- What became of a descriptor that firmware returned: it was enqueued once and is
marked posted, it is unposted, or its owner is unknown. -/
inductive Settled (link : DataLink β rx tx) (descriptor : UInt16) :
    Except (DataError ε) α → DataLink β rx tx → Prop
  | reposted (result : Except (DataError ε) α) (next : DataLink β rx tx) (queues : HpqmInfo)
      (known : link.device.queues = some queues)
      (posted : next.path.posted descriptor.toNat = true)
      (once : next.device.operations = link.device.operations ++
        [.enqueue queues.rxBufferBusy.1 (rxCommandAddress link.device.rxCommandBase descriptor)]) :
      Settled link descriptor result next
  | unposted (result : Except (DataError ε) α) (next : DataLink β rx tx)
      (free : next.path.posted descriptor.toNat = false) : Settled link descriptor result next
  | uncertain (failure : DeviceError ε) (next : DataLink β rx tx) :
      Settled link descriptor (.error (.queueOwnershipUncertain failure)) next

theorem Settled.of_ok {γ : Type} {link next : DataLink β rx tx} {descriptor : UInt16} {value : α}
    (settled : Settled link descriptor (.ok value : Except (DataError ε) α) next)
    (result : Except (DataError ε) γ) : Settled link descriptor result next := by
  cases settled with
  | reposted _ _ queues known posted once =>
      exact .reposted result next queues known posted once
  | unposted _ _ free => exact .unposted result next free

theorem Settled.of_error {γ : Type} {link next : DataLink β rx tx} {descriptor : UInt16}
    {failure : DataError ε}
    (settled : Settled link descriptor (.error failure : Except (DataError ε) α) next) :
    Settled link descriptor (.error failure : Except (DataError ε) γ) next := by
  cases settled with
  | reposted _ _ queues known posted once =>
      exact .reposted _ next queues known posted once
  | unposted _ _ free => exact .unposted _ next free
  | uncertain failure _ => exact .uncertain failure next

/-- A refused packet leaves a posted descriptor unsettled. -/
theorem Settled.not_of_unchanged {link : DataLink β rx tx} {descriptor : UInt16}
    {failure : DataProtocolError} (posted : link.path.posted descriptor.toNat = true) :
    ¬ Settled link descriptor (.error (.protocol failure) : Except (DataError ε) α) link := by
  intro settled
  cases settled with
  | reposted _ _ queues known again once =>
      have length := congrArg List.length once
      simp at length
  | unposted _ _ free => exact absurd posted (by rw [free]; simp)

section Transfers
variable [Bus β ε]

/-- Posting a taken descriptor settles it. -/
theorem post_postRx_settles (before link : DataLink β rx tx) (descriptor : UInt16)
    (same : link.device.withoutBus = before.device.withoutBus)
    (free : link.path.posted descriptor.toNat = false) :
    Post (postRx descriptor 0) link (fun r next => Settled before descriptor r next) := by
  rw [post_postRx]
  cases found : (rxTarget link descriptor 0 : Except (DataError ε) (Hpq × UInt32 × UInt32)) with
  | error failure => exact .unposted _ link free
  | ok target =>
      obtain ⟨queue, commandBase, slot⟩ := target
      obtain ⟨inRange, queues, known, pool, base⟩ := rxTarget_eq_ok found
      dsimp only at base ⊢
      refine (post_prepareRxDescriptor slot commandBase descriptor link).mono ?_
      rintro r prepared ⟨kept, address⟩
      cases r with
      | error failure => exact .unposted _ prepared (kept.1 ▸ free)
      | ok commandAddress =>
          refine (post_deliverRxDescriptor queue commandAddress _).mono ?_
          rintro r next ⟨path, performed, failed⟩
          cases r with
          | error failure =>
              obtain ⟨cause, rfl⟩ := failed failure rfl
              exact .uncertain cause next
          | ok done =>
              have device : prepared.device.withoutBus = before.device.withoutBus :=
                kept.2.trans same
              have queuesKept : before.device.queues = some queues :=
                (Device.queues_eq same).symm.trans known
              have baseKept : commandBase = before.device.rxCommandBase :=
                base.trans (Device.rxCommandBase_eq same)
              have operations : prepared.device.operations = before.device.operations :=
                Device.operations_eq device
              refine .reposted _ next queues queuesKept ?_ ?_
              · rw [path]
                exact posted_setPosted prepared.path true inRange
              · have target : queues.rxBufferBusy.1 = queue := Option.some.inj pool
                rw [Device.performed_operations performed, operations, address _ rfl, baseKept, target]

end Transfers

/-! ## Receiving -/

theorem fromU8_eq_ok_iff (value : UInt8) :
    (∃ payloadType, RxPayloadType.fromU8 value = .ok payloadType) ↔ value ≤ 2 := by
  constructor
  · rintro ⟨payloadType, found⟩
    by_contra large
    have zero : value ≠ 0 := by rintro rfl; exact large (by decide)
    have one : value ≠ 1 := by rintro rfl; exact large (by decide)
    have two : value ≠ 2 := by rintro rfl; exact large (by decide)
    rw [RxPayloadType.fromU8, if_neg zero, if_neg one, if_neg two] at found
    cases found
  · intro small
    have bound : value.toNat ≤ 2 := small
    have cases : value = 0 ∨ value = 1 ∨ value = 2 := by
      simp only [← UInt8.toNat_inj]
      have zero : (0 : UInt8).toNat = 0 := rfl
      have one : (1 : UInt8).toNat = 1 := rfl
      have two : (2 : UInt8).toNat = 2 := rfl
      omega
    rcases cases with rfl | rfl | rfl
    · exact ⟨.mpdu, rfl⟩
    · exact ⟨.msduWithMac, rfl⟩
    · exact ⟨.msdu, rfl⟩

theorem packet_eq (event : RxEvent) (index : Nat) (inEvent : index < event.packetCount.toNat) :
    event.packet index =
      (RxPayloadType.fromU8 (event.payloadTypeAt index)).map fun payloadType =>
        { descriptorId := event.descriptorAt index
          packetLen := readU16 event.payload (rxEventFixedLen + index * rxInfoLen + 2)
          payloadType } := by
  rw [RxEvent.packet, if_neg (Nat.not_le.mpr inEvent)]
  change (RxPayloadType.fromU8 (event.payloadTypeAt index) >>= _) = _
  cases RxPayloadType.fromU8 (event.payloadTypeAt index) <;> rfl

theorem lt_of_posted {path : DataPath rx tx} {descriptor : Nat}
    (posted : path.posted descriptor = true) : descriptor < rx := by
  by_contra outside
  rw [DataPath.posted, dif_neg outside] at posted
  exact absurd posted (by simp)

/-- Taking clears the mark of a posted descriptor, unless the packet's payload type is
unknown: then nothing happens. -/
theorem post_takeRxDescriptor (event : RxEvent) (index : Nat)
    (inEvent : index < event.packetCount.toNat) (link : DataLink β rx tx)
    (posted : link.path.posted (event.descriptorAt index).toNat = true) :
    Post (takeRxDescriptor event index : Program (DataLink β rx tx) (DataError ε) RxPacketInfo) link
      (fun r next =>
        match r with
        | .ok info => event.payloadTypeAt index ≤ 2 ∧ info.descriptorId = event.descriptorAt index ∧
            next = { link with path := link.path.setPosted (event.descriptorAt index).toNat false }
        | .error _ => ¬ event.payloadTypeAt index ≤ 2 ∧ next = link ∧
            ∃ failure, r = .error (.protocol failure)) := by
  have known := fromU8_eq_ok_iff (event.payloadTypeAt index)
  rw [takeRxDescriptor, post_bind, post_liftResult, packet_eq event index inEvent]
  cases found : RxPayloadType.fromU8 (event.payloadTypeAt index) with
  | error failure =>
      rw [found] at known
      exact ⟨fun small => absurd (known.mpr small) (by simp), rfl, failure, rfl⟩
  | ok payloadType =>
      rw [found] at known
      have small := known.mp ⟨payloadType, rfl⟩
      have inRange := lt_of_posted posted
      simp only [Except.map, Except.mapError, post_bind, post_get]
      have taken : ¬ (rx ≤ (event.descriptorAt index).toNat ∨
          ¬ link.path.posted (event.descriptorAt index).toNat = true) := by
        simp [posted, inRange]
      rw [post_ite, if_neg taken]
      simp only [post_bind, onPath, post_onField, post_modify, post_pure]
      exact ⟨small, trivial, trivial⟩

/-- The conversion works on the buffer alone. -/
theorem post_convertReceived (info : RxPacketInfo) (macHeaderLen : Nat)
    (s : DataLink β rx tx × Bytes) :
    Post (convertReceived info macHeaderLen : Program (DataLink β rx tx × Bytes) (DataError ε) _) s
      (fun _ t => t.1 = s.1) := by
  rw [convertReceived, post_bind, post_attempt, post_onField, post_iff]
  dsimp only
  rw [post_ite]
  split
  · exact (post_throw _ _ _).mpr rfl
  · exact (post_pure _ _ _).mpr rfl

section Transfers
variable [Bus β ε]

/-- A repost that precedes an error. -/
theorem post_postRx_then_throw (before link : DataLink β rx tx) (descriptor : UInt16)
    (failure : DataError ε) (same : link.device.withoutBus = before.device.withoutBus)
    (free : link.path.posted descriptor.toNat = false) :
    Post (do postRx descriptor 0; throw failure : Program (DataLink β rx tx) (DataError ε) α) link
      (fun r next => (∃ failure, r = .error failure) ∧ Settled before descriptor r next) := by
  rw [post_bind]
  refine (post_postRx_settles before link descriptor same free).mono ?_
  intro r next settled
  cases r with
  | error failure => exact ⟨⟨failure, rfl⟩, settled.of_error⟩
  | ok done => exact (post_throw _ _ _).mpr ⟨⟨failure, rfl⟩, settled.of_ok _⟩

theorem post_ensureReceiveCapacity (before link : DataLink β rx tx) (info : RxPacketInfo)
    (outputLen : Nat) (same : link.device.withoutBus = before.device.withoutBus)
    (free : link.path.posted info.descriptorId.toNat = false) :
    Post (ensureReceiveCapacity info outputLen) link (fun r next =>
      match r with
      | .ok _ => next = link
      | .error _ => Settled before info.descriptorId r next) := by
  rw [ensureReceiveCapacity, post_bind, post_get]
  dsimp only
  rw [post_ite]
  by_cases large : link.path.layout.rxBufferSize < info.packetLen.toNat
  · rw [if_pos large]
    refine (post_postRx_then_throw before link _ _ same free).mono ?_
    rintro r next ⟨⟨failure, rfl⟩, settled⟩
    exact settled
  · rw [if_neg large, post_ite]
    by_cases small : outputLen < info.packetLen.toNat
    · rw [if_pos small]
      refine (post_postRx_then_throw before link _ _ same free).mono ?_
      rintro r next ⟨⟨failure, rfl⟩, settled⟩
      exact settled
    · rw [if_neg small, post_pure]

theorem post_readRxOrRepost (before link : DataLink β rx tx) (info : RxPacketInfo) (slot : UInt32)
    (output : Bytes) (same : link.device.withoutBus = before.device.withoutBus)
    (free : link.path.posted info.descriptorId.toNat = false) :
    Post (readRxOrRepost info slot) (link, output) (fun r next =>
      match r with
      | .ok _ => SameButBus link next.1
      | .error _ => Settled before info.descriptorId r next.1) := by
  rw [readRxOrRepost, post_bind, post_attempt, post_onField, post_iff]
  generalize resultOf (Rpu.read .lmac (slot + UInt32.ofNat rxBufferHeadroom)) (link.device.rpu, output) = r
  generalize stateAfter (Rpu.read .lmac (slot + UInt32.ofNat rxBufferHeadroom)) (link.device.rpu, output) = t
  cases r with
  | ok done => exact (post_pure _ _ _).mpr ⟨rfl, rfl⟩
  | error failure =>
      dsimp only
      rw [post_bind, besideBuffer, post_onField]
      refine (post_postRx_settles before { link with device := { link.device with rpu := t.1 } }
        info.descriptorId same free).mono ?_
      intro r next settled
      cases r with
      | error failure => exact settled
      | ok done => exact (post_throw _ _ _).mpr (settled.of_ok _)

/-- `receive_packet` from the moment the descriptor is taken. -/
def receiveTaken (event : RxEvent) (info : RxPacketInfo) :
    Program (DataLink β rx tx × Bytes) (DataError ε) ReceivedFrame := do
  let (link, output) ← get
  besideBuffer (ensureReceiveCapacity info output.length)
  let slot ← liftResult (rxSlot link.path.layout info.descriptorId.toNat info.descriptorId)
  inSlice 0 info.packetLen.toNat (readRxOrRepost info slot)
  let conversion ← inSlice 0 info.packetLen.toNat
    (convertReceived info event.macHeaderLen.toNat)
  besideBuffer (postRx info.descriptorId 0)
  let (_, output) ← get
  liftResult (receivedFrame conversion output info event)

theorem receivePacket_eq (event : RxEvent) (index : Nat) :
    (receivePacket event index : Program (DataLink β rx tx × Bytes) (DataError ε) ReceivedFrame) =
      besideBuffer (takeRxDescriptor event index) >>= receiveTaken event := rfl

/-- After the descriptor is taken, every exit settles it. -/
theorem post_receivePacket (event : RxEvent) (index : Nat)
    (inEvent : index < event.packetCount.toNat) (link : DataLink β rx tx) (output : Bytes)
    (posted : link.path.posted (event.descriptorAt index).toNat = true) :
    Post (receivePacket event index) (link, output) (fun r after =>
      if event.payloadTypeAt index ≤ 2 then Settled link (event.descriptorAt index) r after.1
      else after.1 = link ∧ ∃ failure, r = .error (.protocol failure)) := by
  rw [receivePacket, post_bind, besideBuffer, post_onField]
  refine (post_takeRxDescriptor event index inEvent link posted).mono ?_
  intro r taken outcome
  cases r with
  | error failure =>
      obtain ⟨unknown, rfl, cause, same⟩ := outcome
      dsimp only
      rw [if_neg unknown]
      exact ⟨rfl, cause, congrArg Except.error (Except.error.inj same)⟩
  | ok info =>
      obtain ⟨known, names, rfl⟩ := outcome
      simp only [if_pos known]
      rw [← names] at posted ⊢
      have inRange := lt_of_posted posted
      have free := posted_setPosted link.path false inRange
      simp only [post_bind, post_get]
      rw [besideBuffer, post_onField]
      refine (post_ensureReceiveCapacity link
        { link with path := link.path.setPosted info.descriptorId.toNat false } info output.length
        rfl free).mono ?_
      intro r ensured capacity
      cases r with
      | error failure => exact capacity.of_error
      | ok done =>
          obtain rfl := capacity
          dsimp only
          rw [post_liftResult]
          cases (rxSlot (link.path.setPosted info.descriptorId.toNat false).layout
            info.descriptorId.toNat info.descriptorId : Except (DataError ε) UInt32) with
          | error failure => exact .unposted _ _ free
          | ok slot =>
              dsimp only
              rw [inSlice, post_onField]
              refine (post_readRxOrRepost link
                { link with path := link.path.setPosted info.descriptorId.toNat false } info slot _
                rfl free).mono ?_
              intro r read fetched
              cases r with
              | error failure => exact fetched.of_error
              | ok done =>
                  dsimp only
                  rw [inSlice, post_onField]
                  refine (post_convertReceived info event.macHeaderLen.toNat _).mono ?_
                  intro r converted kept
                  dsimp only at kept
                  have unposted : converted.1.path.posted info.descriptorId.toNat = false := by
                    rw [kept, fetched.1]
                    exact free
                  have device : converted.1.device.withoutBus = link.device.withoutBus := by
                    rw [kept]
                    exact fetched.2
                  cases r with
                  | error failure => exact .unposted _ _ unposted
                  | ok conversion =>
                      dsimp only
                      rw [besideBuffer, post_onField]
                      refine (post_postRx_settles link converted.1 info.descriptorId device
                        unposted).mono ?_
                      intro r next settled
                      cases r with
                      | error failure => exact settled.of_error
                      | ok done => exact (post_liftResult _ _ _).mpr (settled.of_ok _)

/-- A packet that names a posted descriptor leaves it settled exactly when its payload
type byte is a known one. -/
theorem returned_descriptor_settled_iff (event : RxEvent) (index : Nat)
    (inEvent : index < event.packetCount.toNat) (link : DataLink β rx tx) (output : Bytes)
    (posted : link.path.posted (event.descriptorAt index).toNat = true) :
    Post (receivePacket event index) (link, output)
        (fun r after => Settled link (event.descriptorAt index) r after.1) ↔
      event.payloadTypeAt index ≤ 2 := by
  have outcome := post_receivePacket event index inEvent link output posted
  constructor
  · intro settled
    by_contra unknown
    have both := (settled.and outcome).ends
    rw [if_neg unknown] at both
    obtain ⟨settled, same, failure, failed⟩ := both
    rw [same, failed] at settled
    exact settled.not_of_unchanged posted
  · intro known
    refine outcome.mono ?_
    intro r after settled
    rwa [if_pos known] at settled

end Transfers

end Receive

/-! ## An event with an unknown payload type -/

section Sample

/-- A receive event of one packet: descriptor 0, 60 bytes, and the given payload type. -/
def sampleRxMessage (payloadType : UInt8) : HostMessage :=
  { resubmit := false
    messageType := .data
    payload := le32 3 ++ le32 37 ++ [0, 0, 0, 0, 0, 1, 0, 0] ++ [0, 0, 0, 0] ++
      (le16 0 ++ le16 60 ++ [payloadType]) ++ List.replicate 12 0 }

def sampleRxEvent (payloadType : UInt8) : RxEvent :=
  { payload := (sampleRxMessage payloadType).payload
    rxPacketType := 0
    rateFlags := 0
    rate := 0
    wdevId := 0
    packetCount := 1
    macHeaderLen := 0
    frequencyMhz := 0
    signalDbm := 0 }

/-- A ready device whose one receive descriptor is posted. -/
def sampleLink : DataLink ReadyBus 1 1 :=
  { device := Device.ready
    path :=
      { layout := sampleLayout
        txInFlight := fun _ => false
        rxPosted := fun _ => true
        nextTx := 0 } }

theorem unknown_payload_type_leaks :
    RxEvent.parse (sampleRxMessage 3) = .ok (sampleRxEvent 3) ∧
      sampleLink.path.posted ((sampleRxEvent 3).descriptorAt 0).toNat = true ∧
      ¬ Post (receivePacket (sampleRxEvent 3) 0) (sampleLink, List.replicate 1600 0)
        (fun r after => Settled sampleLink ((sampleRxEvent 3).descriptorAt 0) r after.1) := by
  have posted : sampleLink.path.posted ((sampleRxEvent 3).descriptorAt 0).toNat = true := by decide
  refine ⟨by decide, posted, fun settled => ?_⟩
  have outcome := post_receivePacket (sampleRxEvent 3) 0 (by decide) sampleLink
    (List.replicate 1600 0) posted
  have both := (settled.and outcome).ends
  rw [if_neg (by decide)] at both
  obtain ⟨settled, same, failure, failed⟩ := both
  rw [same, failed] at settled
  exact settled.not_of_unchanged posted

theorem returned_descriptor_settled_sample :
    Post (receivePacket (sampleRxEvent 2) 0) (sampleLink, List.replicate 1600 0)
      (fun r after => Settled sampleLink ((sampleRxEvent 2).descriptorAt 0) r after.1) :=
  (returned_descriptor_settled_iff (sampleRxEvent 2) 0 (by decide) sampleLink
    (List.replicate 1600 0) (by decide)).mpr (by decide)

end Sample

end DataPath

end Nrf7002
