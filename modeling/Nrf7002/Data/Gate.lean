import Nrf7002.Data.Bounds

/-! # The recovery gate

Once a delivery is uncertain, the device refuses commands and event reads until its
queues are reset or discovered again.  The data path does not ask: its operations
reach the queues whenever their own checks and packet-RAM transfers succeed. -/

set_option autoImplicit false

namespace Nrf7002
open Foundation

namespace Device
variable {β ε : Type}

section Closed
variable {device : Device β} (required : device.recoveryRequired = true)
include required

theorem post_ensureOperational_closed :
    Post (ensureOperational : Program (Device β) (DeviceError ε) Unit) device
      (fun r next => r = .error .recoveryRequired ∧ next = device) := by
  rw [ensureOperational, post_bind, post_get]
  dsimp only
  rw [post_ite, if_pos required, post_throw]
  exact ⟨rfl, rfl⟩

variable [Bus β ε]

/-- A device that requires recovery sends nothing: a message that is well formed meets the
closed device. -/
theorem post_sendControl_closed (message : Bytes) :
    Post (sendControl message : Program (Device β) (DeviceError ε) Unit) device
      (fun r next => next = device ∧ r = do
        validateCompleteMessage message
        throw .recoveryRequired) := by
  rw [sendControl, post_bind, post_liftResult]
  cases (validateCompleteMessage message : Except (DeviceError ε) Unit) with
  | error failure => exact ⟨rfl, rfl⟩
  | ok done =>
      dsimp only
      rw [post_bind]
      refine (post_ensureOperational_closed required).mono ?_
      rintro r next ⟨rfl, rfl⟩
      exact ⟨rfl, rfl⟩

theorem post_sendControlWithWait_closed (message : Bytes) (attempts : Nat) :
    Post (sendControlWithWait message attempts : Program (Device β) (DeviceError ε) Unit) device
      (fun r next => next = device ∧ r = do
        validateCompleteMessage message
        throw .recoveryRequired) := by
  rw [sendControlWithWait, post_bind, prepareReliableSend, post_bind, post_liftResult]
  cases (validateCompleteMessage message : Except (DeviceError ε) Unit) with
  | error failure => exact ⟨rfl, rfl⟩
  | ok done =>
      dsimp only
      rw [post_bind]
      refine (post_ensureOperational_closed required).mono ?_
      rintro r next ⟨rfl, rfl⟩
      exact ⟨rfl, rfl⟩

theorem post_tryReadEvent_closed (scratchAddress : Nat) (scratch : Bytes) :
    Post (tryReadEvent scratchAddress :
        Program (Device β × Bytes) (DeviceError ε) (Option HostMessage)) (device, scratch)
      (fun r after => after.1 = device ∧ r = .error .recoveryRequired) := by
  rw [tryReadEvent, post_bind, besideBuffer, post_onField]
  refine (post_ensureOperational_closed required).mono ?_
  rintro r next ⟨rfl, rfl⟩
  exact ⟨rfl, rfl⟩

end Closed

end Device

namespace DataLink
variable {β ε : Type} {rx tx : Nat} [Bus β ε]

def operations (link : DataLink β rx tx) : List QueueOperation := link.device.operations

/-! ## Which data operations reach the queues -/

/-- The descriptor is free, the queue map is known, and the bus takes the descriptor. -/
def ReachesPost (link : DataLink β rx tx) (descriptor : UInt16) (poolId : Nat) : Prop :=
  ∃ queue commandBase slot,
    (DataPath.rxTarget link descriptor poolId : Except (DataError ε) (Hpq × UInt32 × UInt32)) =
      .ok (queue, commandBase, slot) ∧
    ∃ address, resultOf (DataPath.prepareRxDescriptor slot commandBase descriptor :
      Program (DataLink β rx tx) (DataError ε) UInt32) link = .ok address

/-- A post that reaches the queue adds one operation, and one that does not fails. -/
theorem post_postRx_operations (descriptor : UInt16) (poolId : Nat) (link : DataLink β rx tx) :
    Post (DataPath.postRx descriptor poolId) link (fun r next =>
      (ReachesPost link descriptor poolId ∧
        ∃ operation, next.operations = link.operations ++ [operation]) ∨
      (¬ ReachesPost link descriptor poolId ∧ next.operations = link.operations ∧
        ∃ failure, r = .error failure)) := by
  rw [DataPath.post_postRx]
  cases found : (DataPath.rxTarget link descriptor poolId :
      Except (DataError ε) (Hpq × UInt32 × UInt32)) with
  | error failure =>
      refine .inr ⟨?_, rfl, failure, rfl⟩
      rintro ⟨_, _, _, target, _⟩
      rw [found] at target
      cases target
  | ok target =>
      obtain ⟨queue, commandBase, slot⟩ := target
      dsimp only
      have prepared := (DataPath.post_prepareRxDescriptor (ε := ε) slot commandBase descriptor link).ends
      have before := Device.operations_eq prepared.1.2
      rw [post_iff]
      cases result : resultOf (DataPath.prepareRxDescriptor slot commandBase descriptor :
          Program (DataLink β rx tx) (DataError ε) UInt32) link with
      | error failure =>
          refine .inr ⟨?_, before, failure, rfl⟩
          rintro ⟨_, _, _, target, address, accepted⟩
          rw [found] at target
          obtain ⟨rfl, same⟩ := Prod.mk.inj (Except.ok.inj target)
          obtain ⟨rfl, rfl⟩ := Prod.mk.inj same
          rw [result] at accepted
          cases accepted
      | ok address =>
          refine (DataPath.post_deliverRxDescriptor queue address _).mono ?_
          rintro r next ⟨_, performed, _⟩
          have grown := Device.performed_operations performed
          rw [before] at grown
          exact .inl ⟨⟨queue, commandBase, slot, found, address, result⟩, _, grown⟩

/-- The first unposted descriptor from `first` on is posted. -/
def ReachesPostFrom (link : DataLink β rx tx) (first last : Nat) : Prop :=
  ∃ descriptor, first ≤ descriptor ∧ descriptor < last ∧
    (∀ earlier, first ≤ earlier → earlier < descriptor → link.path.posted earlier = true) ∧
    link.path.posted descriptor = false ∧ ReachesPost link (UInt16.ofNat descriptor) 0

theorem post_postAllRxFrom_grows (rest descriptor : Nat) (link : DataLink β rx tx) :
    Post (DataPath.postAllRxFrom rest descriptor) link (fun _ next =>
      ∃ added, next.operations = link.operations ++ added) := by
  induction rest generalizing descriptor link with
  | zero => exact (post_pure _ _ _).mpr ⟨[], (List.append_nil _).symm⟩
  | succ rest hypothesis =>
      rw [DataPath.postAllRxFrom, post_bind, post_get]
      dsimp only
      rw [post_ite]
      by_cases posted : link.path.posted descriptor = true
      · rw [if_neg (not_not_intro posted)]
        exact hypothesis (descriptor + 1) link
      · rw [if_pos posted, post_bind]
        refine (post_postRx_operations _ 0 link).mono ?_
        intro r next outcome
        have grown : ∃ added, next.operations = link.operations ++ added := by
          rcases outcome with ⟨_, operation, more⟩ | ⟨_, same, _⟩
          · exact ⟨[operation], more⟩
          · exact ⟨[], by rw [same, List.append_nil]⟩
        obtain ⟨added, more⟩ := grown
        cases r with
        | error failure => exact ⟨added, more⟩
        | ok done =>
            refine (hypothesis (descriptor + 1) next).mono ?_
            rintro r last ⟨later, after⟩
            exact ⟨added ++ later, by rw [after, more, List.append_assoc]⟩

theorem post_postAllRxFrom_operations (rest descriptor : Nat) (link : DataLink β rx tx) :
    Post (DataPath.postAllRxFrom rest descriptor) link (fun _ next =>
      next.operations = link.operations ↔
        ¬ ReachesPostFrom link descriptor (descriptor + rest)) := by
  induction rest generalizing descriptor with
  | zero =>
      refine (post_pure _ _ _).mpr ⟨fun _ => ?_, fun _ => rfl⟩
      rintro ⟨_, lower, upper, _⟩
      omega
  | succ rest hypothesis =>
      rw [DataPath.postAllRxFrom, post_bind, post_get]
      dsimp only
      rw [post_ite]
      by_cases posted : link.path.posted descriptor = true
      · rw [if_neg (not_not_intro posted)]
        refine (hypothesis (descriptor + 1)).mono ?_
        intro r next same
        have shift : ReachesPostFrom link descriptor (descriptor + (rest + 1)) ↔
            ReachesPostFrom link (descriptor + 1) (descriptor + 1 + rest) := by
          constructor
          · rintro ⟨index, lower, upper, before, free, reaches⟩
            have later : descriptor ≠ index := by
              rintro rfl
              rw [posted] at free
              cases free
            exact ⟨index, by omega, by omega, fun earlier low high => before earlier (by omega) high,
              free, reaches⟩
          · rintro ⟨index, lower, upper, before, free, reaches⟩
            refine ⟨index, by omega, by omega, fun earlier low high => ?_, free, reaches⟩
            rcases Nat.eq_or_lt_of_le low with rfl | after
            · exact posted
            · exact before earlier after high
        rw [shift]
        exact same
      · have free : link.path.posted descriptor = false := by simpa using posted
        rw [if_pos posted, post_bind]
        refine (post_postRx_operations _ 0 link).mono ?_
        intro r next outcome
        rcases outcome with ⟨reaches, operation, more⟩ | ⟨closed, same, failure, rfl⟩
        · have first : ReachesPostFrom link descriptor (descriptor + (rest + 1)) :=
            ⟨descriptor, Nat.le_refl _, by omega, fun _ low high => by omega, free, reaches⟩
          cases r with
          | error failure => exact ⟨fun same => by simp [more] at same, fun closed => absurd first closed⟩
          | ok done =>
              refine (post_postAllRxFrom_grows rest (descriptor + 1) next).mono ?_
              rintro r last ⟨later, after⟩
              refine ⟨fun same => ?_, fun closed => absurd first closed⟩
              rw [after, more] at same
              simp at same
        · refine ⟨fun _ => ?_, fun _ => same⟩
          rintro ⟨index, lower, upper, before, open_, reaches⟩
          rcases Nat.eq_or_lt_of_le lower with rfl | later
          · exact closed reaches
          · exact posted (before descriptor (Nat.le_refl _) later)

/-! ### Receiving -/

/-- The state of a link whose bus took the read of one packet. -/
def afterRead (link : DataLink β rx tx) (slot : UInt32) (buffer : Bytes) : DataLink β rx tx :=
  { link with
    device := { link.device with
      rpu := (stateAfter (Rpu.read .lmac (slot + UInt32.ofNat rxBufferHeadroom))
        (link.device.rpu, buffer)).1 } }

theorem operations_afterRead (link : DataLink β rx tx) (slot : UInt32) (buffer : Bytes) :
    (afterRead link slot buffer).operations = link.operations := rfl

/-- After the read the descriptor is posted again, unless the conversion of a packet that
was read stops the program. -/
def ReachesRead (taken : DataLink β rx tx) (event : RxEvent) (info : RxPacketInfo)
    (buffer : Bytes) (slot : UInt32) : Prop :=
  ReachesPost (afterRead taken slot buffer) info.descriptorId 0 ∧
    (resultOf (Rpu.read .lmac (slot + UInt32.ofNat rxBufferHeadroom))
        (taken.device.rpu, buffer) = .ok () →
      ¬ (info.payloadType = .mpdu ∧ 24 ≤ event.macHeaderLen.toNat ∧ info.packetLen.toNat < 2))

/-- Posting the taken descriptor again reaches the queue: at once when the packet does
not fit, else after the read. -/
def ReachesTaken (taken : DataLink β rx tx) (event : RxEvent) (info : RxPacketInfo)
    (output : Bytes) : Prop :=
  if taken.path.layout.rxBufferSize < info.packetLen.toNat ∨
      output.length < info.packetLen.toNat then
    ReachesPost taken info.descriptorId 0
  else
    ∃ slot, taken.path.layout.rxSlotAddress info.descriptorId.toNat = some slot ∧
      ReachesRead taken event info (slice output 0 info.packetLen.toNat) slot

/-- The packet names a posted descriptor, and posting that again reaches the queue. -/
def ReachesReceive (link : DataLink β rx tx) (event : RxEvent) (index : Nat) (output : Bytes) :
    Prop :=
  ∃ info, event.packet index = .ok info ∧ link.path.posted info.descriptorId.toNat = true ∧
    ReachesTaken { link with path := link.path.setPosted info.descriptorId.toNat false } event info
      output

/-- Whether a run that ends in `next` performed a queue operation. -/
def PerformsIff (link : DataLink β rx tx) (reaches : Prop) (next : DataLink β rx tx) : Prop :=
  next.operations = link.operations ↔ ¬ reaches

omit [Bus β ε] in
theorem performsIff_of_not {link next : DataLink β rx tx} {reaches : Prop}
    (same : next.operations = link.operations) (closed : ¬ reaches) :
    PerformsIff link reaches next :=
  ⟨fun _ => closed, fun _ => same⟩

theorem performsIff_of_postRx {link taken next : DataLink β rx tx} {descriptor : UInt16}
    {poolId : Nat} {r : Except (DataError ε) Unit} {reaches : Prop}
    (start : taken.operations = link.operations)
    (same : reaches ↔ ReachesPost taken descriptor poolId)
    (outcome : (ReachesPost taken descriptor poolId ∧
        ∃ operation, next.operations = taken.operations ++ [operation]) ∨
      (¬ ReachesPost taken descriptor poolId ∧ next.operations = taken.operations ∧
        ∃ failure, r = .error failure)) :
    PerformsIff link reaches next := by
  rcases outcome with ⟨open_, operation, more⟩ | ⟨closed, kept, _⟩
  · refine ⟨fun impossible => ?_, fun closed => absurd (same.mpr open_) closed⟩
    rw [more, start] at impossible
    simp at impossible
  · exact performsIff_of_not (kept.trans start) fun open_ => closed (same.mp open_)

/-- From the moment the packet is read. -/
theorem post_receiveRead_operations (event : RxEvent) (info : RxPacketInfo)
    (taken : DataLink β rx tx) (output : Bytes) (slot : UInt32)
    (short : info.packetLen.toNat ≤ output.length) :
    Post (do
        inSlice 0 info.packetLen.toNat (DataPath.readRxOrRepost info slot)
        let conversion ← inSlice 0 info.packetLen.toNat
          (DataPath.convertReceived info event.macHeaderLen.toNat)
        besideBuffer (DataPath.postRx info.descriptorId 0)
        let (_, output) ← get
        liftResult (DataPath.receivedFrame conversion output info event)) (taken, output)
      (fun _ after => PerformsIff taken (ReachesRead taken event info
        (slice output 0 info.packetLen.toNat) slot) after.1) := by
  have length : (slice output 0 info.packetLen.toNat).length = info.packetLen.toNat := by
    rw [length_slice_of_le short, Nat.sub_zero]
  have kept : (stateAfter (Rpu.read .lmac (slot + UInt32.ofNat rxBufferHeadroom))
      (taken.device.rpu, slice output 0 info.packetLen.toNat)).2.length =
        (slice output 0 info.packetLen.toNat).length :=
    Rpu.keeps_length_read .lmac (slot + UInt32.ofNat rxBufferHeadroom) _
  rw [post_bind, inSlice, post_onField, DataPath.readRxOrRepost, post_bind, post_attempt,
    post_onField, post_iff]
  dsimp only
  cases fetched : resultOf (Rpu.read .lmac (slot + UInt32.ofNat rxBufferHeadroom))
      (taken.device.rpu, slice output 0 info.packetLen.toNat) with
  | error failure =>
      have same : ReachesRead taken event info (slice output 0 info.packetLen.toNat) slot ↔
          ReachesPost (afterRead taken slot (slice output 0 info.packetLen.toNat))
            info.descriptorId 0 := by
        rw [ReachesRead, fetched]
        exact ⟨fun reaches => reaches.1, fun reaches => ⟨reaches, fun impossible => by cases impossible⟩⟩
      dsimp only
      rw [post_bind, besideBuffer, post_onField]
      refine (post_postRx_operations info.descriptorId 0
        (afterRead taken slot (slice output 0 info.packetLen.toNat))).mono ?_
      intro r next outcome
      have performs : PerformsIff taken _ next := performsIff_of_postRx
        (operations_afterRead taken slot _) same outcome
      cases r with
      | error failure => exact performs
      | ok done => exact (post_throw _ _ _).mpr performs
  | ok done =>
      rw [post_pure]
      dsimp only
      generalize (stateAfter (Rpu.read .lmac (slot + UInt32.ofNat rxBufferHeadroom))
        (taken.device.rpu, slice output 0 info.packetLen.toNat)).2 = part at kept
      have whole : (splice output 0 part).length = output.length :=
        length_splice (by rw [kept, length]; omega)
      have packet : (slice (splice output 0 part) 0 info.packetLen.toNat).length =
          info.packetLen.toNat := by
        rw [length_slice_of_le (whole ▸ short), Nat.sub_zero]
      have stops := convertToEthernet_outOfBounds_iff info.payloadType event.macHeaderLen.toNat
        (slice (splice output 0 part) 0 info.packetLen.toNat)
      rw [packet] at stops
      have same : ReachesRead taken event info (slice output 0 info.packetLen.toNat) slot ↔
          ReachesPost (afterRead taken slot (slice output 0 info.packetLen.toNat))
              info.descriptorId 0 ∧
            resultOf (convertToEthernet info.payloadType event.macHeaderLen.toNat)
              (slice (splice output 0 part) 0 info.packetLen.toNat) ≠ .error .outOfBounds := by
        rw [ReachesRead, fetched, Ne, stops]
        exact ⟨fun reaches => ⟨reaches.1, reaches.2 rfl⟩, fun reaches => ⟨reaches.1, fun _ => reaches.2⟩⟩
      rw [post_bind, inSlice, post_onField, DataPath.convertReceived, post_bind, post_attempt,
        post_onField, post_iff]
      dsimp only
      generalize resultOf (convertToEthernet info.payloadType event.macHeaderLen.toNat)
        (slice (splice output 0 part) 0 info.packetLen.toNat) = conversion at same ⊢
      rw [post_ite]
      by_cases stopped : conversion = .error .outOfBounds
      · rw [if_pos stopped, post_bind, post_throw]
        exact performsIff_of_not rfl fun reaches => (same.mp reaches).2 stopped
      · rw [if_neg stopped, post_pure]
        dsimp only
        rw [post_bind, besideBuffer, post_onField]
        refine (post_postRx_operations info.descriptorId 0
          (afterRead taken slot (slice output 0 info.packetLen.toNat))).mono ?_
        intro r next outcome
        have performs : PerformsIff taken _ next := performsIff_of_postRx
          (operations_afterRead taken slot _) (same.trans (and_iff_left stopped)) outcome
        cases r with
        | error failure => exact performs
        | ok done =>
            dsimp only
            rw [post_bind, post_get]
            exact (post_liftResult _ _ _).mpr performs

/-- From the moment the descriptor is taken. -/
theorem post_receiveTaken_operations (event : RxEvent) (info : RxPacketInfo)
    (taken : DataLink β rx tx) (output : Bytes) (inRange : info.descriptorId.toNat < rx) :
    Post (DataPath.receiveTaken event info) (taken, output)
      (fun _ after => PerformsIff taken (ReachesTaken taken event info output) after.1) := by
  rw [DataPath.receiveTaken, post_bind, post_get]
  dsimp only
  rw [post_bind, besideBuffer, post_onField, DataPath.ensureReceiveCapacity, post_bind, post_get,
    ReachesTaken]
  dsimp only
  rw [post_ite]
  by_cases large : taken.path.layout.rxBufferSize < info.packetLen.toNat
  · rw [if_pos large, if_pos (Or.inl large), post_bind]
    refine (post_postRx_operations info.descriptorId 0 taken).mono ?_
    intro r next outcome
    have performs := performsIff_of_postRx rfl Iff.rfl outcome
    cases r with
    | error failure => exact performs
    | ok done =>
        simp only [post_bind, post_throw]
        exact performs
  · rw [if_neg large, post_ite]
    by_cases small : output.length < info.packetLen.toNat
    · rw [if_pos small, if_pos (Or.inr small), post_bind]
      refine (post_postRx_operations info.descriptorId 0 taken).mono ?_
      intro r next outcome
      have performs := performsIff_of_postRx rfl Iff.rfl outcome
      cases r with
      | error failure => exact performs
      | ok done =>
          simp only [post_throw]
          exact performs
    · rw [if_neg small, if_neg (by rintro (one | two); exacts [large one, small two])]
      obtain ⟨slot, found⟩ := taken.path.layout.separated.defined (.rx ⟨_, inRange⟩)
      change taken.path.layout.rxSlotAddress info.descriptorId.toNat = some slot at found
      rw [post_pure]
      dsimp only
      rw [post_bind, post_liftResult, DataPath.rxSlot, found]
      refine (post_receiveRead_operations event info taken output slot (by omega)).mono ?_
      intro r after performs
      have same : (∃ other, some slot = some other ∧ ReachesRead taken event info
          (slice output 0 info.packetLen.toNat) other) ↔
          ReachesRead taken event info (slice output 0 info.packetLen.toNat) slot := by
        simp
      rw [PerformsIff, same]
      exact performs

theorem post_receivePacket_operations (event : RxEvent) (index : Nat) (link : DataLink β rx tx)
    (output : Bytes) :
    Post (DataPath.receivePacket event index) (link, output) (fun _ after =>
      PerformsIff link (ReachesReceive link event index output) after.1) := by
  rw [DataPath.receivePacket_eq, post_bind, besideBuffer, post_onField, DataPath.takeRxDescriptor,
    post_bind, post_liftResult]
  cases known : event.packet index with
  | error failure =>
      refine performsIff_of_not rfl ?_
      rintro ⟨info, found, _⟩
      rw [known] at found
      cases found
  | ok info =>
      simp only [Except.mapError, post_bind, post_get]
      rw [post_ite]
      by_cases refused : rx ≤ info.descriptorId.toNat ∨
          ¬ link.path.posted info.descriptorId.toNat = true
      · rw [if_pos refused, post_bind, post_throw]
        refine performsIff_of_not rfl ?_
        rintro ⟨other, found, posted, _⟩
        rw [known] at found
        obtain rfl := Except.ok.inj found
        have inRange := DataPath.lt_of_posted posted
        rcases refused with outside | free
        · omega
        · exact free posted
      · rw [if_neg refused]
        simp only [post_bind, DataPath.onPath, post_onField, post_modify, post_pure]
        have posted : link.path.posted info.descriptorId.toNat = true := by
          by_contra free
          exact refused (.inr free)
        have inRange := DataPath.lt_of_posted posted
        refine (post_receiveTaken_operations event info _ output inRange).mono ?_
        intro r after performs
        have same : ReachesReceive link event index output ↔ ReachesTaken
            { link with path := link.path.setPosted info.descriptorId.toNat false } event info
            output := by
          constructor
          · rintro ⟨other, found, _, reaches⟩
            rw [known] at found
            obtain rfl := Except.ok.inj found
            exact reaches
          · exact fun reaches => ⟨info, known, posted, reaches⟩
        rw [PerformsIff, same]
        exact performs

/-! ### Transmitting -/

/-- The device knows its command queue, and the bus takes the command. -/
def ReachesCommand (link : DataLink β rx tx) (token : UInt8) (packetAddress : UInt32)
    (wdevId : UInt8) (frame : Bytes) (dscpTos : UInt16) : Prop :=
  ∃ commandBase queue,
    (DataPath.transmitQueueContext link.device : Except (DataError ε) (UInt32 × Hpq)) =
      .ok (commandBase, queue) ∧
    resultOf (DataPath.onRpu (Rpu.write .umac (DataPath.txCommandAddress commandBase token)
      (DataPath.encodeTxCommand wdevId token frame dscpTos (packetAddress &&& rpuAddrMaskOffset))) :
        Program (DataLink β rx tx) (DataError ε) Unit) link = .ok ()

/-- The frame fits, a token is free, and the bus takes the packet and then the command. -/
def ReachesTransmit (link : DataLink β rx tx) (wdevId : UInt8) (frame : Bytes)
    (dscpTos : UInt16) : Prop :=
  ethernetHeaderLen ≤ frame.length ∧ frame.length ≤ link.path.layout.txBufferSize ∧
    ∃ token reserved slot, link.path.reserveTx = some (token, reserved) ∧
      link.path.layout.txSlotAddress token = some slot ∧
      resultOf (DataPath.writePacket slot frame : Program (DataLink β rx tx) (DataError ε) Unit)
        { link with path := reserved } = .ok () ∧
      ReachesCommand (stateAfter (DataPath.writePacket slot frame) { link with path := reserved })
        (UInt8.ofNat token) slot wdevId frame dscpTos

theorem post_triggerCommand_grows (device : Device β) :
    Post (Device.triggerCommand : Program (Device β) (DeviceError ε) Unit) device
      (fun _ next => next.operations = device.operations ++ [.trigger]) := by
  rw [Device.triggerCommand, post_bind, Device.perform, post_modify]
  dsimp only
  rw [post_bind, post_get]
  dsimp only
  rw [post_bind]
  refine ((Device.keeps_onRpu _).post _).mono ?_
  intro r next same
  have operations := Device.operations_eq same
  cases r with
  | error failure => exact operations
  | ok done => exact (post_modify _ _ _).mpr operations

theorem post_deliverTransmitCommand_grows (queue : Hpq) (address : UInt32)
    (link : DataLink β rx tx) :
    Post (DataPath.deliverTransmitCommand queue address) link (fun _ next =>
      ∃ more, next.operations = link.operations ++ .enqueue queue address :: more) := by
  rw [DataPath.deliverTransmitCommand, post_mapError, post_bind, DataPath.onDevice, post_onField]
  refine (Device.post_enqueue queue address link.device).mono ?_
  intro r first performed
  have enqueued := Device.performed_operations performed
  cases r with
  | error failure => exact ⟨[], enqueued⟩
  | ok done =>
      dsimp only
      rw [DataPath.onDevice, post_onField]
      refine (post_triggerCommand_grows first).mono ?_
      intro r next triggered
      refine ⟨[.trigger], ?_⟩
      dsimp only [operations]
      rw [triggered, enqueued, List.append_assoc]
      rfl

theorem post_submitTransmit_operations (token : UInt8) (packetAddress : UInt32) (wdevId : UInt8)
    (frame : Bytes) (dscpTos : UInt16) (link : DataLink β rx tx) :
    Post (DataPath.submitTransmit token packetAddress wdevId frame dscpTos) link (fun _ next =>
      PerformsIff link (ReachesCommand link token packetAddress wdevId frame dscpTos) next) := by
  rw [DataPath.submitTransmit, post_bind, post_get]
  dsimp only
  rw [post_bind, post_liftResult]
  cases found : (DataPath.transmitQueueContext link.device :
      Except (DataError ε) (UInt32 × Hpq)) with
  | error failure =>
      refine performsIff_of_not rfl ?_
      rintro ⟨commandBase, queue, context, _⟩
      rw [found] at context
      cases context
  | ok context =>
      obtain ⟨commandBase, queue⟩ := context
      dsimp only
      rw [post_bind, DataPath.orRelease, post_bind, post_attempt]
      have kept := (DataPath.post_onRpu (ε := ε) (Rpu.write .umac
        (DataPath.txCommandAddress commandBase token) (DataPath.encodeTxCommand wdevId token frame
          dscpTos (packetAddress &&& rpuAddrMaskOffset))) link).ends
      have before := Device.operations_eq kept.2
      rw [post_iff]
      cases result : resultOf (DataPath.onRpu (Rpu.write .umac
          (DataPath.txCommandAddress commandBase token) (DataPath.encodeTxCommand wdevId token frame
            dscpTos (packetAddress &&& rpuAddrMaskOffset))) :
              Program (DataLink β rx tx) (DataError ε) Unit) link with
      | error failure =>
          dsimp only
          simp only [post_bind, DataPath.onPath, post_onField, post_modify, post_throw]
          refine performsIff_of_not before ?_
          rintro ⟨base, other, context, accepted⟩
          rw [found] at context
          obtain ⟨rfl, rfl⟩ := Prod.mk.inj (Except.ok.inj context)
          rw [result] at accepted
          cases accepted
      | ok done =>
          dsimp only
          rw [post_pure]
          refine (post_deliverTransmitCommand_grows queue _ _).mono ?_
          rintro r next ⟨more, grown⟩
          refine ⟨fun same => ?_, fun closed => absurd ⟨commandBase, queue, found, result⟩ closed⟩
          rw [grown, operations, before] at same
          simp [operations] at same

theorem post_transmit_operations (wdevId : UInt8) (frame : Bytes) (dscpTos : UInt16)
    (link : DataLink β rx tx) :
    Post (DataPath.transmit wdevId frame dscpTos) link (fun _ next =>
      PerformsIff link (ReachesTransmit link wdevId frame dscpTos) next) := by
  rw [DataPath.transmit, post_bind, DataPath.prepareTransmit, post_bind, post_get]
  dsimp only
  rw [post_bind, post_liftResult]
  cases valid : (DataPath.validateTransmitFrame frame link.path.layout.txBufferSize :
      Except (DataError ε) Unit) with
  | error failure =>
      refine performsIff_of_not rfl ?_
      rintro ⟨long, short, _⟩
      rw [DataPath.validateTransmitFrame_of_le long short] at valid
      cases valid
  | ok done =>
      obtain ⟨long, short⟩ := DataPath.validateTransmitFrame_eq_ok valid
      dsimp only
      rw [post_bind, DataPath.reserveToken, post_bind, post_get]
      dsimp only
      cases free : link.path.reserveTx with
      | none =>
          rw [post_throw]
          refine performsIff_of_not rfl ?_
          rintro ⟨_, _, token, reserved, slot, found, _⟩
          rw [free] at found
          cases found
      | some reservation =>
          obtain ⟨token, reserved⟩ := reservation
          obtain ⟨inRange, _, _, _⟩ := DataPath.reserveTx_eq_some link.path free
          have value := DataPath.toNat_token link.path.layout inRange
          obtain ⟨slot, address⟩ : ∃ slot, link.path.layout.txSlotAddress token = some slot :=
            ⟨_, if_pos inRange⟩
          have known : (DataPath.txSlot link.path.layout (UInt8.ofNat token) :
              Except (DataError ε) UInt32) = .ok slot := by
            rw [DataPath.txSlot, value, address]
          have same : ReachesTransmit link wdevId frame dscpTos ↔
              resultOf (DataPath.writePacket slot frame : Program (DataLink β rx tx) (DataError ε) Unit)
                { link with path := reserved } = .ok () ∧
              ReachesCommand (stateAfter (DataPath.writePacket slot frame)
                { link with path := reserved }) (UInt8.ofNat token) slot wdevId frame dscpTos := by
            constructor
            · rintro ⟨_, _, other, path, base, taken, found, written, reaches⟩
              rw [free] at taken
              obtain ⟨rfl, rfl⟩ := Prod.mk.inj (Option.some.inj taken)
              rw [address] at found
              obtain rfl := Option.some.inj found
              exact ⟨written, reaches⟩
            · rintro ⟨written, reaches⟩
              exact ⟨long, short, token, reserved, slot, free, address, written, reaches⟩
          simp only [post_bind, post_set, post_pure, post_liftResult, known]
          rw [DataPath.orRelease, post_bind, post_attempt]
          have kept := (DataPath.post_writePacket (ε := ε) slot frame
            { link with path := reserved }).ends.1
          have before := Device.operations_eq kept.2
          rw [post_iff]
          cases written : resultOf (DataPath.writePacket slot frame :
              Program (DataLink β rx tx) (DataError ε) Unit) { link with path := reserved } with
          | error failure =>
              dsimp only
              simp only [post_bind, DataPath.onPath, post_onField, post_modify, post_throw]
              refine performsIff_of_not before fun reaches => ?_
              have accepted := (same.mp reaches).1
              rw [written] at accepted
              cases accepted
          | ok done =>
              dsimp only
              rw [post_pure]
              refine (post_submitTransmit_operations (UInt8.ofNat token) slot wdevId frame dscpTos
                _).mono ?_
              intro r next performs
              have moved : PerformsIff link (ReachesTransmit link wdevId frame dscpTos) next := by
                rw [PerformsIff, same, written]
                rw [PerformsIff, operations, operations, before] at performs
                exact performs.trans (not_congr (by simp))
              cases r with
              | error failure => exact moved
              | ok done =>
                  simp only [DataPath.onDevice, post_onField, Device.record, post_modify]
                  exact moved

/-! ## Runs -/

/-- A data operation that gets through to the queues, although nobody asked the device
whether it requires recovery. -/
def Reaches (link : DataLink β rx tx) : LinkMove β → Prop
  | .postRx descriptor poolId => ReachesPost link descriptor poolId
  | .postAllRx => ReachesPostFrom link 0 rx
  | .receivePacket event index output => ReachesReceive link event index output
  | .transmit wdevId frame dscpTos => ReachesTransmit link wdevId frame dscpTos
  | _ => False

/-- The moves that end a required recovery. -/
def Recovers (link : DataLink β rx tx) : LinkMove β → Prop
  | .resetQueueState => True
  | .initializeQueues => ∃ queues, resultOf Device.initializeQueues link.device = .ok queues
  | _ => False

/-- A link with its history: whether the device required recovery and has not been reset or
initialised since. -/
structure GateState (β : Type) (rx tx : Nat) where
  link : DataLink β rx tx
  gated : Prop

def gateStep (state : GateState β rx tx) (move : LinkMove β) : GateState β rx tx :=
  { link := step state.link move
    gated := (state.gated ∧ ¬ Recovers state.link move) ∨
      (step state.link move).device.recoveryRequired = true }

def gateStart (bus : β) (path : DataPath rx tx) : GateState β rx tx :=
  { link := start bus path, gated := False }

omit [Bus β ε] in
theorem flag_of_calm {link next : DataLink β rx tx}
    (same : (next.device.configuration, next.device.recoveryRequired, next.path.layout) =
      (link.device.configuration, link.device.recoveryRequired, link.path.layout)) :
    next.device.recoveryRequired = link.device.recoveryRequired :=
  congrArg (fun view : Configuration × Bool × Layout rx tx => view.2.1) same

/-- Nothing but a recovery clears the flag. -/
theorem flag_kept (link : DataLink β rx tx) (move : LinkMove β)
    (required : link.device.recoveryRequired = true) (stays : ¬ Recovers link move) :
    (step link move).device.recoveryRequired = true := by
  cases move with
  | hardware bus => exact required
  | initializeQueues =>
      have ends := (post_initializeQueues link.device).ends
      simp only [step]
      cases result : resultOf Device.initializeQueues link.device with
      | ok queues => exact absurd ⟨queues, result⟩ stays
      | error failure =>
          rw [result] at ends
          exact (Device.recoveryRequired_eq ends).trans required
  | resetQueueState => exact absurd trivial stays
  | setFragmentLimits commandLen eventLen =>
      simp only [step, Device.setFragmentLimits]
      split
      · split
        · exact required
        · exact required
      · exact required
  | discardPendingEvent =>
      simp only [step, Device.discardPendingEvent]
      cases link.device.pendingEvent <;> exact required
  | sendControl message =>
      have same := (Device.post_sendControl_closed (ε := ε) required message).ends.1
      rw [step, same]
      exact required
  | sendControlWithWait message attempts =>
      have same := (Device.post_sendControlWithWait_closed (ε := ε) required message attempts).ends.1
      rw [step, same]
      exact required
  | tryReadEvent scratchAddress scratch =>
      have same := (Device.post_tryReadEvent_closed (ε := ε) required scratchAddress scratch).ends.1
      rw [step, same]
      exact required
  | postRx descriptor poolId =>
      exact (flag_of_calm (calm_postRx (ε := ε) descriptor poolId link)).trans required
  | postAllRx => exact (flag_of_calm (calm_postAllRx (ε := ε) link)).trans required
  | receivePacket event index output =>
      have kept := flag_of_calm (calm_receivePacket (ε := ε) event index (link, output))
      exact kept.trans required
  | transmit wdevId frame dscpTos =>
      exact (flag_of_calm (calm_transmit (ε := ε) wdevId frame dscpTos link)).trans required
  | completeTx token => exact required
  | resetAfterRpuReset => exact required

/-- A device that requires recovery performs a queue operation exactly when a data operation
gets through. -/
theorem step_performs_iff (link : DataLink β rx tx) (move : LinkMove β)
    (required : link.device.recoveryRequired = true) :
    (step link move).operations = link.operations ↔ ¬ Reaches link move := by
  cases move with
  | hardware bus => exact performsIff_of_not rfl id
  | initializeQueues =>
      refine performsIff_of_not ?_ id
      have ends := (post_initializeQueues link.device).ends
      simp only [step, operations]
      generalize resultOf Device.initializeQueues link.device = r at ends
      cases r with
      | ok queues => exact ends.2.2.1
      | error failure => exact Device.operations_eq ends
  | resetQueueState => exact performsIff_of_not rfl id
  | setFragmentLimits commandLen eventLen =>
      refine performsIff_of_not ?_ id
      simp only [step, Device.setFragmentLimits, operations]
      split
      · split
        · rfl
        · rfl
      · rfl
  | discardPendingEvent =>
      refine performsIff_of_not ?_ id
      simp only [step, Device.discardPendingEvent, operations]
      cases link.device.pendingEvent <;> rfl
  | sendControl message =>
      have same := (Device.post_sendControl_closed (ε := ε) required message).ends.1
      exact performsIff_of_not (congrArg Device.operations same) id
  | sendControlWithWait message attempts =>
      have same := (Device.post_sendControlWithWait_closed (ε := ε) required message attempts).ends.1
      exact performsIff_of_not (congrArg Device.operations same) id
  | tryReadEvent scratchAddress scratch =>
      have same := (Device.post_tryReadEvent_closed (ε := ε) required scratchAddress scratch).ends.1
      exact performsIff_of_not (congrArg Device.operations same) id
  | postRx descriptor poolId =>
      exact performsIff_of_postRx rfl Iff.rfl (post_postRx_operations descriptor poolId link).ends
  | postAllRx =>
      have performs := (post_postAllRxFrom_operations rx 0 link).ends
      rw [Nat.zero_add] at performs
      exact performs
  | receivePacket event index output => exact (post_receivePacket_operations event index link output).ends
  | transmit wdevId frame dscpTos => exact (post_transmit_operations wdevId frame dscpTos link).ends
  | completeTx token => exact performsIff_of_not rfl id
  | resetAfterRpuReset => exact performsIff_of_not rfl id

/-- The history says exactly what the flag says. -/
def Gated (state : GateState β rx tx) : Prop :=
  state.gated ↔ state.link.device.recoveryRequired = true

omit [Bus β ε] in
theorem gated_start (bus : β) (path : DataPath rx tx) : Gated (gateStart bus path) :=
  ⟨fun closed => absurd closed id, fun impossible => by cases impossible⟩

theorem gated_step (state : GateState β rx tx) (move : LinkMove β) (gated : Gated state) :
    Gated (gateStep state move) := by
  refine ⟨fun closed => ?_, fun required => .inr required⟩
  rcases closed with ⟨before, stays⟩ | required
  · exact flag_kept state.link move (gated.mp before) stays
  · exact required

theorem link_runMoves (state : GateState β rx tx) (moves : List (LinkMove β)) :
    (runMoves gateStep state moves).link = runMoves step state.link moves := by
  induction moves generalizing state with
  | nil => rfl
  | cons move rest hypothesis => exact hypothesis (gateStep state move)

/-- In every run, the steps taken while the device requires recovery perform no queue
operation exactly when none of them is a data operation that gets through. -/
theorem recovery_gates_queues_iff (bus : β) (path : DataPath rx tx) (moves : List (LinkMove β)) :
    (∀ taken ∈ stepsOf gateStep (gateStart bus path) moves, taken.1.gated →
      (gateStep taken.1 taken.2).link.operations = taken.1.link.operations) ↔
    ∀ taken ∈ stepsOf gateStep (gateStart bus path) moves,
      taken.1.link.device.recoveryRequired = true → ¬ Reaches taken.1.link taken.2 := by
  refine forall_congr' fun taken => forall_congr' fun member => ?_
  have gated : taken.1.gated ↔ taken.1.link.device.recoveryRequired = true :=
    invariant_of_stepsOf gated_step (gated_start bus path) member
  rw [gated]
  exact forall_congr' fun required => step_performs_iff taken.1.link taken.2 required

section Sample

/-- Queue discovery, then a send that the bus breaks. -/
def uncertainRun : List (LinkMove FaultyBus) :=
  [.initializeQueues, .hardware ⟨true⟩, .sendControl (le32 12 ++ List.replicate 8 0),
    .hardware ⟨false⟩]

/-- Once the bus works again, `post_rx` enqueues although recovery is required. -/
theorem post_rx_ignores_required_recovery :
    ∃ taken ∈ stepsOf gateStep (gateStart ⟨false⟩ DataPath.samplePath)
        (uncertainRun ++ [.postRx 0 0]),
      taken.1.gated ∧ taken.2 = .postRx 0 0 ∧
        (gateStep taken.1 taken.2).link.operations ≠ taken.1.link.operations := by
  have link := link_runMoves (gateStart (⟨false⟩ : FaultyBus) DataPath.samplePath) uncertainRun
  have gated : Gated (runMoves gateStep (gateStart ⟨false⟩ DataPath.samplePath) uncertainRun) :=
    runMoves_preserves gated_step (gated_start _ _) uncertainRun
  refine ⟨(runMoves gateStep (gateStart ⟨false⟩ DataPath.samplePath) uncertainRun, .postRx 0 0),
    by simp [stepsOf, uncertainRun, runMoves], ?_, rfl, ?_⟩
  · refine gated.mpr ?_
    rw [link]
    decide +kernel
  · rw [gateStep, link]
    decide +kernel

end Sample

end DataLink

end Nrf7002
