import Nrf7002.Data.Receive
import Nrf7002.Production.Driver

/-! # What a closed port leaves of a packet

A receive that fails while the controlled port does not permit its frame has to leave
nothing of the packet in the caller's buffer.  Two runs that differ in the bytes of the
packet alone say so: they leave the same buffer.  Of the ways a receive can fail, only the
refusal by the port itself wipes the buffer. -/

set_option autoImplicit false

namespace Nrf7002
open Foundation

/-! ## Packets of one byte value -/

section Constant
variable {value : UInt8} {count first last : Nat}

theorem slice_replicate : slice (List.replicate count value) first last =
    List.replicate (min (last - first) (count - first)) value := by
  rw [slice, List.drop_replicate, List.take_replicate]

theorem packetAddresses_replicate {payloadType : RxPayloadType} {macHeaderLen : Nat}
    (holds : HoldsHeaders payloadType macHeaderLen (List.replicate count value)) :
    packetAddresses payloadType macHeaderLen (List.replicate count value) =
      List.replicate 12 value := by
  obtain ⟨header, long⟩ := holds
  rw [List.length_replicate] at long
  cases payloadType with
  | mpdu =>
      have far := header rfl
      have long : macHeaderLen + 8 ≤ count := long
      have six {first : Nat} (inside : first + 6 ≤ count) :
          slice (List.replicate count value) first (first + 6) = List.replicate 6 value := by
        rw [slice_replicate]
        congr 1
        omega
      rw [packetAddresses, dataAddresses, address1, address2, address3, address4, six (by omega),
        six (by omega), six (by omega), six (by omega)]
      split <;> rfl
  | msduWithMac =>
      have long : macHeaderLen + 14 + 8 ≤ count := long
      rw [packetAddresses, slice_replicate]
      congr 1
      omega
  | msdu =>
      have long : 14 + 8 ≤ count := long
      rw [packetAddresses, slice_replicate]
      congr 1
      omega

theorem head_convert_replicate (payloadType : RxPayloadType) (macHeaderLen : Nat)
    (some : 0 < count) :
    (stateAfter (convertToEthernet payloadType macHeaderLen) (List.replicate count value))[0]? =
      .some value := by
  have ended := (post_convertToEthernet payloadType macHeaderLen
    (List.replicate count value)).ends
  cases found : resultOf (convertToEthernet payloadType macHeaderLen)
      (List.replicate count value) with
  | ok len =>
      rw [found] at ended
      obtain ⟨holds, converted⟩ := ended
      have front := converted.addresses
      rw [packetAddresses_replicate holds] at front
      have first := congrArg (fun bytes => bytes[0]?) front
      simpa [slice] using first
  | error failure =>
      rw [found] at ended
      have same : stateAfter (convertToEthernet payloadType macHeaderLen)
          (List.replicate count value) = List.replicate count value := ended
      rw [same]
      simp [some]

theorem etherType_convert_replicate {payloadType : RxPayloadType} {macHeaderLen len : Nat}
    (converts : resultOf (convertToEthernet payloadType macHeaderLen)
      (List.replicate count value) = .ok len) :
    readBeU16 (stateAfter (convertToEthernet payloadType macHeaderLen)
      (List.replicate count value)) 12 = UInt16.ofNat (beNat [value, value]) := by
  have ended := (post_convertToEthernet payloadType macHeaderLen
    (List.replicate count value)).ends
  rw [converts] at ended
  obtain ⟨⟨_, long⟩, converted⟩ := ended
  have field := converted.etherType
  rw [List.length_replicate] at long
  have two : min (llcStart payloadType macHeaderLen + 8 - (llcStart payloadType macHeaderLen + 6))
      (count - (llcStart payloadType macHeaderLen + 6)) = 2 := by omega
  rw [slice_replicate, two] at field
  rw [readBeU16, field]
  rfl

end Constant

/-! ## The packet and the frame that the port judges -/

namespace MissionCriticalDriver
variable {β ε : Type} {rx tx : Nat}

def holding (driver : MissionCriticalDriver (BackedBus β) rx tx) (memory : ByteMemory) :
    MissionCriticalDriver (BackedBus β) rx tx :=
  { inner := NativeDriver.setLink (driver.inner.link.holding memory) driver.inner }

def packetIn (memory : ByteMemory) (info : RxPacketInfo) (slot : UInt32) : Bytes :=
  memory.fetch (DataPath.packetPlace slot) info.packetLen.toNat

def conversion (event : RxEvent) (info : RxPacketInfo) : Program Bytes ConversionFailure Nat :=
  convertToEthernet info.payloadType event.macHeaderLen.toNat

/-- The controlled port permits the frame of a packet: the port is open, or the packet
converts to a frame of the EAPOL exchange that is required now. -/
def Permits (station : StationController) (event : RxEvent) (info : RxPacketInfo)
    (packet : Bytes) : Prop :=
  station.controlledPortOpen = true ∨
    station.eapolRequired = true ∧ ∃ len, resultOf (conversion event info) packet = .ok len ∧
      readBeU16 (stateAfter (conversion event info) packet) 12 = eapolEthertype

/-- The memories differ in nothing but the bytes of the packet. -/
def DifferInPacket (info : RxPacketInfo) (slot : UInt32) (memory other : ByteMemory) : Prop :=
  ∀ address, (address < DataPath.packetPlace slot ∨
    DataPath.packetPlace slot + info.packetLen.toNat ≤ address) → memory address = other address

section Receive
variable [Bus β ε]

/-- The receive returns an error, and the port does not permit the frame. -/
def Refused (driver : MissionCriticalDriver (BackedBus β) rx tx) (event : RxEvent)
    (packetIndex : Nat) (output : Bytes) (info : RxPacketInfo) (slot : UInt32)
    (memory : ByteMemory) : Prop :=
  (∃ error, resultOf (receivePacket (ε := ε) event packetIndex) (driver.holding memory, output) =
      .error error ∧ error ≠ .driver (.data .stopped)) ∧
    ¬ Permits driver.inner.station event info (packetIn memory info slot)

def leftBy (ε : Type) [Bus β ε] (driver : MissionCriticalDriver (BackedBus β) rx tx)
    (event : RxEvent) (packetIndex : Nat) (output : Bytes) (memory : ByteMemory) : Bytes :=
  (stateAfter (receivePacket (ε := ε) event packetIndex) (driver.holding memory, output)).2

/-- Two refused receives that differ in the bytes of the packet alone leave the same. -/
def LeavesNothing (ε : Type) [Bus β ε] (driver : MissionCriticalDriver (BackedBus β) rx tx)
    (event : RxEvent) (packetIndex : Nat) (output : Bytes) : Prop :=
  ∀ info slot, event.packet packetIndex = .ok info →
    driver.inner.data.layout.rxSlotAddress info.descriptorId.toNat = some slot →
    ∀ memory other, DifferInPacket info slot memory other →
      Refused (ε := ε) driver event packetIndex output info slot memory →
      Refused (ε := ε) driver event packetIndex output info slot other →
        leftBy ε driver event packetIndex output memory =
          leftBy ε driver event packetIndex output other

/-- A receive behind a closed port fails with bytes of the packet in the buffer: the read
broke off after some had arrived, or the whole packet was read and is then not posted
again, not converted, or found to belong to another interface. -/
def Leaks (ε : Type) [Bus β ε] (driver : MissionCriticalDriver (BackedBus β) rx tx)
    (event : RxEvent) (packetIndex outputLen : Nat) : Prop :=
  driver.inner.state = .ready ∧ driver.inner.station.controlledPortOpen = false ∧
    ∃ info slot, DataPath.Fetchable driver.inner.link event packetIndex outputLen info slot ∧
      ∃ (r : Except (RpuError ε) Unit) (next : β) (count : Nat),
        DataPath.ReadEnds (DataPath.takenBack driver.inner.link info) info slot r next count ∧
          (r ≠ .ok () ∧ 0 < count ∨
            r = .ok () ∧ 0 < info.packetLen.toNat ∧
              ¬ (info.payloadType = .mpdu ∧ 24 ≤ event.macHeaderLen.toNat ∧
                info.packetLen.toNat < 2) ∧
              (DataPath.reposted (ε := ε) (DataPath.takenBack driver.inner.link info) info next ≠
                  .ok () ∨
                ¬ HoldsHeaders info.payloadType event.macHeaderLen.toNat
                  (List.replicate info.packetLen.toNat 0) ∨
                event.wdevId ≠ driver.inner.wdevId))

end Receive

/-! ## From the data path to the caller -/

theorem post_finishReceive_other {error : DriverError ε}
    (other : ∀ state etherType, error ≠ .controlledPortClosed state etherType)
    (s : MissionCriticalDriver β rx tx × Bytes) :
    Post (finishReceive (.error error)) s (fun r t => r = .error (.driver error) ∧ t.2 = s.2) := by
  rw [finishReceive, post_ite]
  · by_cases recovers : receiveErrorRequiresRecovery error = true
    · rw [if_pos recovers, post_bind, besideBuffer, post_onField, enterRecovery, onInner,
        post_onField, post_modify]
      dsimp only
      rw [post_throw]
      exact ⟨rfl, rfl⟩
    · rw [if_neg recovers, post_throw]
      exact ⟨rfl, rfl⟩
  · exact other

section Layers
variable [Bus β ε] {driver : MissionCriticalDriver β rx tx} {event : RxEvent}
  {packetIndex : Nat} {output left : Bytes}

theorem post_receivePacket_failed (ready : driver.inner.state = .ready)
    {P : DataError ε → Prop}
    (failed : Post (DataPath.receivePacket event packetIndex) (driver.inner.link, output)
      (fun r t => (∃ failure, r = .error failure ∧ P failure) ∧ t.2 = left)) :
    Post (receivePacket event packetIndex) (driver, output) (fun r t =>
      (∃ failure, r = .error (.driver (.data failure)) ∧ P failure) ∧ t.2 = left) := by
  rw [receivePacket, post_bind, besideBuffer, post_onField, ensureReady, post_bind, post_get]
  dsimp only
  rw [if_pos ready, post_pure]
  dsimp only
  rw [post_bind, post_attempt, onInnerBuffer, post_onField, NativeDriver.receivePacket, post_bind,
    post_onField, post_mapError]
  refine failed.mono ?_
  intro r t ended
  obtain ⟨⟨failure, rfl, holds⟩, rfl⟩ := ended
  simp only [Except.mapError]
  rw [post_bind]
  refine (post_finishReceive_other (by simp) _).mono ?_
  intro r t ended
  obtain ⟨rfl, same⟩ := ended
  exact ⟨⟨failure, rfl, holds⟩, same⟩

/-- A frame of another interface is refused, and the buffer keeps it; a frame that the
closed port does not permit is wiped. -/
theorem post_receivePacket_delivered (ready : driver.inner.state = .ready)
    (closed : driver.inner.station.controlledPortOpen = false) {frame : ReceivedFrame}
    (delivered : Post (DataPath.receivePacket event packetIndex : Program _ (DataError ε) _)
      (driver.inner.link, output) (fun r t => r = .ok frame ∧ t.2 = left)) :
    Post (receivePacket event packetIndex) (driver, output) (fun r t =>
      event.wdevId ≠ driver.inner.wdevId ∧
          r = .error (.driver (.wrongInterface driver.inner.wdevId event.wdevId)) ∧ t.2 = left ∨
        event.wdevId = driver.inner.wdevId ∧
          ((frame.etherType = eapolEthertype ∧ driver.inner.station.eapolRequired = true) ∧
              r = .ok frame ∨
            ¬ (frame.etherType = eapolEthertype ∧ driver.inner.station.eapolRequired = true) ∧
              t.2 = List.replicate left.length 0)) := by
  rw [receivePacket, post_bind, besideBuffer, post_onField, ensureReady, post_bind, post_get]
  dsimp only
  rw [if_pos ready, post_pure]
  dsimp only
  rw [post_bind, post_attempt, onInnerBuffer, post_onField, NativeDriver.receivePacket, post_bind,
    post_onField, post_mapError]
  refine delivered.mono ?_
  intro r t ended
  obtain ⟨rfl, rfl⟩ := ended
  simp only [Except.mapError]
  rw [besideBuffer, post_onField, NativeDriver.validateReceivedFrame, post_bind, post_get]
  dsimp only
  rw [post_ite]
  by_cases other : event.wdevId ≠ driver.inner.wdevId
  · have found : event.wdevId ≠ (NativeDriver.setLink t.1 driver.inner).wdevId := other
    rw [if_pos found, NativeDriver.recoverWith, post_bind, post_modify]
    dsimp only
    rw [post_throw, post_bind]
    refine (post_finishReceive_other (by simp) _).mono ?_
    intro r t ended
    obtain ⟨rfl, same⟩ := ended
    exact .inl ⟨other, rfl, same⟩
  · have found : ¬ event.wdevId ≠ (NativeDriver.setLink t.1 driver.inner).wdevId := other
    have same : event.wdevId = driver.inner.wdevId := not_not.mp other
    rw [if_neg found, post_bind, NativeDriver.requireControlledPort, post_bind, post_get]
    dsimp only
    have allowed : NativeDriver.portAllows (NativeDriver.setLink t.1 driver.inner).station
        frame.etherType = true ↔
          frame.etherType = eapolEthertype ∧ driver.inner.station.eapolRequired = true := by
      have station : (NativeDriver.setLink t.1 driver.inner).station = driver.inner.station := rfl
      rw [NativeDriver.portAllows, station, closed]
      split
      · simp [*]
      · simp [*]
    by_cases required :
        frame.etherType = eapolEthertype ∧ driver.inner.station.eapolRequired = true
    · have permitted : frameAllowed driver.inner.station frame.etherType = true := by
        rw [frameAllowed, closed]
        simp [required]
      rw [if_pos (allowed.mpr required), post_pure]
      dsimp only
      rw [post_pure, post_bind, finishReceive, post_pure]
      dsimp only
      rw [enforceReceivedFrame, post_bind, post_get]
      dsimp only
      have station : (NativeDriver.setLink t.1 driver.inner).station = driver.inner.station := rfl
      rw [station, if_pos permitted, post_pure]
      exact .inr ⟨same, .inl ⟨required, rfl⟩⟩
    · rw [if_neg (fun open' => required (allowed.mp open')), post_throw]
      dsimp only
      rw [post_bind, finishReceive, post_bind, post_modify]
      dsimp only
      rw [post_throw]
      exact .inr ⟨same, .inr ⟨required, rfl⟩⟩

theorem post_receivePacket_unready (unready : driver.inner.state ≠ .ready) :
    Post (receivePacket event packetIndex : Program _ (ProductionError ε) _) (driver, output)
      (fun _ t => t.2 = output) := by
  rw [receivePacket, post_bind, besideBuffer, post_onField, ensureReady, post_bind, post_get]
  dsimp only
  rw [if_neg unready, post_throw]

end Layers

/-! ## The ways a receive ends -/

section Ends
variable [Bus β ε] {driver : MissionCriticalDriver (BackedBus β) rx tx} {event : RxEvent}
  {packetIndex : Nat} {output : Bytes} {info : RxPacketInfo} {slot : UInt32}
  {r : Except (RpuError ε) Unit} {next : β} {count : Nat}

theorem post_receivePacket_unread (ready : driver.inner.state = .ready)
    (fetchable : DataPath.Fetchable driver.inner.link event packetIndex output.length info slot)
    (ends : DataPath.ReadEnds (DataPath.takenBack driver.inner.link info) info slot r next count)
    (failed : r ≠ .ok ()) (memory : ByteMemory) :
    Post (receivePacket event packetIndex) (driver.holding memory, output) (fun r' t =>
      (∃ failure, r' = .error (.driver (.data failure)) ∧ failure ≠ .stopped) ∧
        t.2 = splice output 0 (memory.fetch (DataPath.packetPlace slot) count)) := by
  have same : DataPath.Fetchable (driver.holding memory).inner.link event packetIndex output.length
      info slot :=
    ⟨fetchable.listed, fetchable.posted, fetchable.fits, fetchable.room, fetchable.placed⟩
  have unready : (driver.holding memory).inner.state = .ready := ready
  apply post_receivePacket_failed unready
  apply DataPath.post_receivePacket_fetchable same
  exact DataPath.post_fetchPacket_failed ends failed fetchable.room memory

theorem post_receivePacket_read (ready : driver.inner.state = .ready)
    (closed : driver.inner.station.controlledPortOpen = false)
    (fetchable : DataPath.Fetchable driver.inner.link event packetIndex output.length info slot)
    (ends : DataPath.ReadEnds (ε := ε) (DataPath.takenBack driver.inner.link info) info slot
      (.ok ()) next count) (memory : ByteMemory) :
    let packet := packetIn memory info slot
    let convert := conversion event info
    let reposted : Except (DataError ε) Unit :=
      DataPath.reposted (DataPath.takenBack driver.inner.link info) info next
    Post (receivePacket event packetIndex : Program _ (ProductionError ε) _)
      (driver.holding memory, output) (fun r' t =>
        resultOf convert packet = .error .outOfBounds ∧ r' = .error (.driver (.data .stopped)) ∨
        resultOf convert packet ≠ .error .outOfBounds ∧
          (reposted ≠ .ok () ∨ (∃ failure, resultOf convert packet = .error failure) ∨
            event.wdevId ≠ driver.inner.wdevId) ∧
          (∃ error, r' = .error error ∧ error ≠ .driver (.data .stopped)) ∧
          t.2 = splice output 0 (stateAfter convert packet) ∨
        (reposted = .ok () ∧ (∃ len, resultOf convert packet = .ok len) ∧
          event.wdevId = driver.inner.wdevId) ∧
          (Permits driver.inner.station event info packet ∧ (∃ frame, r' = .ok frame) ∨
            ¬ Permits driver.inner.station event info packet ∧
              t.2 = List.replicate output.length 0)) := by
  intro packet convert reposted
  have same : DataPath.Fetchable (driver.holding memory).inner.link event packetIndex output.length
      info slot :=
    ⟨fetchable.listed, fetchable.posted, fetchable.fits, fetchable.room, fetchable.placed⟩
  have started : (driver.holding memory).inner.state = .ready := ready
  have shut : (driver.holding memory).inner.station.controlledPortOpen = false := closed
  have read : Post (DataPath.fetchPacket event info slot) _ _ :=
    DataPath.post_fetchPacket_read ends fetchable.room memory
  have fetched := DataPath.post_receivePacket_fetchable same read
  have converted := (post_convertToEthernet info.payloadType event.macHeaderLen.toNat packet).ends
  by_cases outside : resultOf convert packet = .error .outOfBounds
  · have stopped : Post (DataPath.receivePacket event packetIndex : Program _ (DataError ε) _)
        ((driver.holding memory).inner.link, output) (fun r t =>
          (∃ failure, r = .error failure ∧ failure = .stopped) ∧
            t.2 = (stateAfter (DataPath.receivePacket (ε := ε) event packetIndex)
              ((driver.holding memory).inner.link, output)).2) := by
      rw [post_iff]
      rcases fetched.ends with ⟨_, ended⟩ | ⟨inside, _⟩
      · exact ⟨⟨_, ended, rfl⟩, rfl⟩
      · exact absurd outside inside
    refine (post_receivePacket_failed started stopped).mono ?_
    intro r' t ended
    obtain ⟨⟨failure, rfl, rfl⟩, _⟩ := ended
    exact .inl ⟨outside, rfl⟩
  · have delivered : Post (DataPath.receivePacket event packetIndex : Program _ (DataError ε) _)
        ((driver.holding memory).inner.link, output) (fun r' t =>
          t.2 = splice output 0 (stateAfter convert packet) ∧ r' = reposted.bind fun _ =>
            DataPath.receivedFrame (resultOf convert packet)
              (splice output 0 (stateAfter convert packet)) info event) := by
      refine fetched.mono ?_
      intro r' t ended
      rcases ended with ⟨stopped, _⟩ | ⟨_, ended⟩
      · exact absurd stopped outside
      · exact ended
    have refused (failure : DataError ε) (calm : failure ≠ .stopped)
        (fails : (reposted.bind fun _ => DataPath.receivedFrame (resultOf convert packet)
          (splice output 0 (stateAfter convert packet)) info event) = .error failure) :
        Post (receivePacket event packetIndex : Program _ (ProductionError ε) _)
          (driver.holding memory, output) (fun r' t =>
            (∃ error, r' = .error error ∧ error ≠ .driver (.data .stopped)) ∧
              t.2 = splice output 0 (stateAfter convert packet)) := by
      have failed := post_receivePacket_failed (P := fun failure => failure ≠ .stopped) started
        (delivered.mono fun r' t ended => ⟨⟨failure, ended.2.trans fails, calm⟩, ended.1⟩)
      refine failed.mono ?_
      intro r' t ended
      obtain ⟨⟨failure, rfl, calm⟩, kept⟩ := ended
      exact ⟨⟨_, rfl, by simpa using calm⟩, kept⟩
    cases posted : reposted with
    | error failure =>
        have calm : failure ≠ .stopped := by
          intro stopped
          subst stopped
          exact DataPath.reposted_not_stopped _ _ posted
        refine (refused failure calm (by rw [posted]; rfl)).mono ?_
        intro r' t ended
        exact .inr (.inl ⟨outside, .inl (by simp), ended⟩)
    | ok done =>
        cases found : resultOf convert packet with
        | error failure =>
            cases failure with
            | outOfBounds => exact absurd found outside
            | protocol error =>
                refine (refused (.protocol error) (by simp) (by rw [posted, found]; rfl)).mono ?_
                intro r' t ended
                exact .inr (.inl ⟨by simp, .inr (.inl ⟨_, rfl⟩), ended⟩)
        | ok len =>
            have after : HoldsHeaders info.payloadType event.macHeaderLen.toNat packet ∧
                Converted info.payloadType event.macHeaderLen.toNat packet len
                  (stateAfter convert packet) := by
              have known : resultOf (convertToEthernet info.payloadType event.macHeaderLen.toNat)
                  packet = .ok len := found
              rw [known] at converted
              exact converted
            have size : packet.length = info.packetLen.toNat := ByteMemory.length_fetch
            have least := after.2.least
            have most := after.2.most
            have inPlace := after.2.inPlace
            have room := fetchable.room
            have field : readBeU16 (splice output 0 (stateAfter convert packet)) 12 =
                readBeU16 (stateAfter convert packet) 12 := by
              rw [readBeU16, splice, List.take_zero, List.nil_append,
                slice_append_left (by omega)]
              rfl
            have frame := post_receivePacket_delivered started shut
              (delivered.mono fun r' t ended => ⟨ended.2.trans (by rw [posted, found]; rfl), ended.1⟩)
            have whole : (splice output 0 (stateAfter convert packet)).length = output.length :=
              length_splice (by omega)
            have permits : Permits driver.inner.station event info packet ↔
                readBeU16 (stateAfter convert packet) 12 = eapolEthertype ∧
                  driver.inner.station.eapolRequired = true := by
              constructor
              · intro permits
                rcases permits with opened | ⟨required, _, _, eapol⟩
                · rw [closed] at opened
                  cases opened
                · exact ⟨eapol, required⟩
              · intro eapol
                exact .inr ⟨eapol.2, len, found, eapol.1⟩
            refine frame.mono ?_
            intro r' t ended
            rcases ended with ⟨other, rfl, kept⟩ | ⟨mine, verdict⟩
            · exact .inr (.inl ⟨by simp, .inr (.inr other), ⟨_, rfl, by simp⟩, kept⟩)
            · refine .inr (.inr ⟨⟨rfl, ⟨len, rfl⟩, mine⟩, ?_⟩)
              rw [permits, ← field]
              rcases verdict with ⟨eapol, rfl⟩ | ⟨refusal, wiped⟩
              · exact .inl ⟨eapol, _, rfl⟩
              · exact .inr ⟨refusal, by rw [wiped, whole]⟩

theorem left_of_read (ready : driver.inner.state = .ready)
    (closed : driver.inner.station.controlledPortOpen = false)
    (fetchable : DataPath.Fetchable driver.inner.link event packetIndex output.length info slot)
    (ends : DataPath.ReadEnds (ε := ε) (DataPath.takenBack driver.inner.link info) info slot
      (.ok ()) next count)
    (tight : ¬ (0 < info.packetLen.toNat ∧
      ¬ (info.payloadType = .mpdu ∧ 24 ≤ event.macHeaderLen.toNat ∧ info.packetLen.toNat < 2) ∧
      (DataPath.reposted (ε := ε) (DataPath.takenBack driver.inner.link info) info next ≠ .ok () ∨
        ¬ HoldsHeaders info.payloadType event.macHeaderLen.toNat
          (List.replicate info.packetLen.toNat 0) ∨
        event.wdevId ≠ driver.inner.wdevId)))
    {memory : ByteMemory}
    (refused : Refused (ε := ε) driver event packetIndex output info slot memory) :
    leftBy ε driver event packetIndex output memory =
      if info.packetLen.toNat = 0 then splice output 0 (stateAfter (conversion event info) [])
      else List.replicate output.length 0 := by
  have size : (packetIn memory info slot).length = info.packetLen.toNat := ByteMemory.length_fetch
  have long := info.packetLen.toNat_lt
  have limit : usizeLimit = 2 ^ 32 := rfl
  have outside := convertToEthernet_outOfBounds_iff info.payloadType event.macHeaderLen.toNat
    (packetIn memory info slot)
  rw [size] at outside
  obtain ⟨⟨error, failed, calm⟩, unpermitted⟩ := refused
  rcases (post_receivePacket_read ready closed fetchable ends memory).ends with
    ⟨_, stopped⟩ | ⟨inside, bad, _, left⟩ | ⟨⟨_, ⟨len, converts⟩, _⟩, verdict⟩
  · rw [failed] at stopped
    exact absurd (Except.error.inj stopped) calm
  · by_cases empty : info.packetLen.toNat = 0
    · have nothing : packetIn memory info slot = [] := List.length_eq_zero_iff.mp (by omega)
      rw [if_pos empty, ← nothing]
      exact left
    · refine absurd ⟨by omega, fun panics => inside (outside.mpr panics), ?_⟩ tight
      rcases bad with unposted | ⟨failure, unconverted⟩ | other
      · exact .inl unposted
      · refine .inr (.inl ?_)
        intro holds
        have held : HoldsHeaders info.payloadType event.macHeaderLen.toNat
            (packetIn memory info slot) := by
          rw [HoldsHeaders, List.length_replicate] at holds
          rw [HoldsHeaders, size]
          exact holds
        obtain ⟨len, converts⟩ := converts_of_holdsHeaders (by omega) held
        cases unconverted.symm.trans converts
      · exact .inr (.inr other)
  · have held := (post_convertToEthernet info.payloadType event.macHeaderLen.toNat
      (packetIn memory info slot)).ends
    have known : resultOf (convertToEthernet info.payloadType event.macHeaderLen.toNat)
      (packetIn memory info slot) = .ok len := converts
    rw [known] at held
    have least := held.2.least
    have most := held.2.most
    rcases verdict with ⟨_, frame, delivered⟩ | ⟨_, wiped⟩
    · cases failed.symm.trans delivered
    · rw [if_neg (by omega)]
      exact wiped

/-- Without a leak all refused receives leave one buffer. -/
theorem left_of_not_leaks (tight : ¬ Leaks ε driver event packetIndex output.length)
    (listed : event.packet packetIndex = .ok info)
    (placed : driver.inner.data.layout.rxSlotAddress info.descriptorId.toNat = some slot) :
    ∃ left, ∀ memory, Refused (ε := ε) driver event packetIndex output info slot memory →
      leftBy ε driver event packetIndex output memory = left := by
  by_cases ready : driver.inner.state = .ready
  · cases closed : driver.inner.station.controlledPortOpen with
    | true =>
        refine ⟨output, ?_⟩
        intro memory refused
        exact absurd (.inl closed) refused.2
    | false =>
        by_cases fetchable : DataPath.Fetchable driver.inner.link event packetIndex output.length
            info slot
        · obtain ⟨r, next, count, ends⟩ := DataPath.readEnds_exists (ε := ε)
            (DataPath.takenBack driver.inner.link info) info slot
          have harmless := fun bad => tight ⟨ready, closed, info, slot, fetchable, r, next, count,
            ends, bad⟩
          cases r with
          | error failure =>
              have none : count = 0 := by
                by_contra some
                exact harmless (.inl ⟨by simp, by omega⟩)
              refine ⟨output, ?_⟩
              intro memory refused
              have left := (post_receivePacket_unread ready fetchable ends (by simp) memory).ends.2
              rw [none, ByteMemory.fetch_zero, splice_nil] at left
              exact left
          | ok done =>
              exact ⟨_, fun memory refused => left_of_read ready closed fetchable ends
                (fun bad => harmless (.inr ⟨rfl, bad⟩)) refused⟩
        · have none : ∀ other place,
              ¬ DataPath.Fetchable driver.inner.link event packetIndex output.length other place := by
            intro other place found
            obtain rfl : info = other := Except.ok.inj (listed.symm.trans found.listed)
            obtain rfl : slot = place := Option.some.inj (placed.symm.trans found.placed)
            exact fetchable found
          refine ⟨output, ?_⟩
          intro memory _
          have started : (driver.holding memory).inner.state = .ready := ready
          have nowhere : ∀ other place, ¬ DataPath.Fetchable (driver.holding memory).inner.link event
              packetIndex output.length other place := by
            intro other place found
            exact none other place ⟨found.listed, found.posted, found.fits, found.room, found.placed⟩
          have unfetched := DataPath.post_receivePacket_unfetchable (ε := ε) nowhere
          have failed := post_receivePacket_failed (P := fun _ => True) started
            (unfetched.mono fun r t ended => ⟨by
              obtain ⟨⟨failure, rfl⟩, _⟩ := ended
              exact ⟨failure, rfl, trivial⟩, ended.2⟩)
          exact failed.ends.2
  · refine ⟨output, ?_⟩
    intro memory _
    have unready : (driver.holding memory).inner.state ≠ .ready := ready
    exact (post_receivePacket_unready unready).ends

/-! ## Two packets that a leak tells apart -/

/-- A memory whose packet holds one byte value. -/
def filledPacket (info : RxPacketInfo) (slot : UInt32) (value : UInt8) : ByteMemory :=
  ByteMemory.store (fun _ => 0) (DataPath.packetPlace slot)
    (List.replicate info.packetLen.toNat value)

theorem fetch_filledPacket (value : UInt8) (few : count ≤ info.packetLen.toNat) :
    (filledPacket info slot value).fetch (DataPath.packetPlace slot) count =
      List.replicate count value := by
  have whole : (filledPacket info slot value).fetch (DataPath.packetPlace slot)
      (List.replicate info.packetLen.toNat value).length =
        List.replicate info.packetLen.toNat value := ByteMemory.fetch_store
  rw [List.length_replicate] at whole
  rw [← ByteMemory.take_fetch count few, whole, List.take_replicate, Nat.min_eq_left few]

theorem packetIn_filledPacket (value : UInt8) :
    packetIn (filledPacket info slot value) info slot =
      List.replicate info.packetLen.toNat value :=
  fetch_filledPacket value (Nat.le_refl _)

theorem differInPacket_filledPacket (value other : UInt8) :
    DifferInPacket info slot (filledPacket info slot value) (filledPacket info slot other) := by
  intro address outside
  have length (value : UInt8) : (List.replicate info.packetLen.toNat value).length =
      info.packetLen.toNat := List.length_replicate
  rw [filledPacket, filledPacket, ByteMemory.store_outside (by rw [length]; exact outside),
    ByteMemory.store_outside (by rw [length]; exact outside)]

theorem not_permits_filledPacket (closed : driver.inner.station.controlledPortOpen = false)
    {value : UInt8} (small : value = 0 ∨ value = 1) :
    ¬ Permits driver.inner.station event info
      (packetIn (filledPacket info slot value) info slot) := by
  rw [packetIn_filledPacket]
  intro permits
  rcases permits with opened | ⟨_, len, converts, eapol⟩
  · rw [closed] at opened
    cases opened
  · have found := etherType_convert_replicate converts
    rw [conversion, found] at eapol
    rcases small with rfl | rfl
    · exact absurd eapol (by decide)
    · exact absurd eapol (by decide)

theorem head_splice {bytes value : Bytes} {first : UInt8} (starts : value[0]? = some first) :
    (splice bytes 0 value)[0]? = some first := by
  cases value with
  | nil => cases starts
  | cons head rest => exact starts

theorem leaked_filledPacket (ready : driver.inner.state = .ready)
    (closed : driver.inner.station.controlledPortOpen = false)
    (fetchable : DataPath.Fetchable driver.inner.link event packetIndex output.length info slot)
    (ends : DataPath.ReadEnds (ε := ε) (DataPath.takenBack driver.inner.link info) info slot
      r next count)
    (leak : r ≠ .ok () ∧ 0 < count ∨
      r = .ok () ∧ 0 < info.packetLen.toNat ∧
        ¬ (info.payloadType = .mpdu ∧ 24 ≤ event.macHeaderLen.toNat ∧
          info.packetLen.toNat < 2) ∧
        (DataPath.reposted (ε := ε) (DataPath.takenBack driver.inner.link info) info next ≠ .ok () ∨
          ¬ HoldsHeaders info.payloadType event.macHeaderLen.toNat
            (List.replicate info.packetLen.toNat 0) ∨
          event.wdevId ≠ driver.inner.wdevId))
    {value : UInt8} (small : value = 0 ∨ value = 1) :
    Refused (ε := ε) driver event packetIndex output info slot (filledPacket info slot value) ∧
      (leftBy ε driver event packetIndex output (filledPacket info slot value))[0]? =
        some value := by
  have unpermitted : ¬ Permits driver.inner.station event info
      (packetIn (filledPacket info slot value) info slot) := not_permits_filledPacket closed small
  rcases leak with ⟨failed, some⟩ | ⟨rfl, some, returns, bad⟩
  · obtain ⟨⟨failure, ended, calm⟩, left⟩ := (post_receivePacket_unread ready fetchable ends failed
      (filledPacket info slot value)).ends
    refine ⟨⟨⟨_, ended, by simpa using calm⟩, unpermitted⟩, ?_⟩
    have arrived : (List.replicate count value)[0]? = .some value := by simp [some]
    rw [leftBy, left, fetch_filledPacket value ends.few]
    exact head_splice arrived
  · have outside := convertToEthernet_outOfBounds_iff info.payloadType event.macHeaderLen.toNat
      (List.replicate info.packetLen.toNat value)
    rw [List.length_replicate] at outside
    have verdict := (post_receivePacket_read ready closed fetchable ends
      (filledPacket info slot value)).ends
    rw [packetIn_filledPacket] at verdict
    rcases verdict with ⟨stopped, _⟩ | ⟨_, _, failed, left⟩ | ⟨⟨posted, ⟨len, converts⟩, mine⟩, _⟩
    · exact absurd (outside.mp stopped) returns
    · refine ⟨⟨failed, unpermitted⟩, ?_⟩
      rw [leftBy, left]
      exact head_splice (head_convert_replicate _ _ some)
    · have held := (post_convertToEthernet info.payloadType event.macHeaderLen.toNat
        (List.replicate info.packetLen.toNat value)).ends
      have known : resultOf (convertToEthernet info.payloadType event.macHeaderLen.toNat)
        (List.replicate info.packetLen.toNat value) = .ok len := converts
      rw [known] at held
      have headers := held.1
      rw [HoldsHeaders, List.length_replicate] at headers
      rw [HoldsHeaders, List.length_replicate] at bad
      rcases bad with unposted | short | other
      · exact absurd posted unposted
      · exact absurd headers short
      · exact absurd mine other

end Ends

/-- Refused receives leave nothing of the packet unless one of them leaks. -/
theorem leavesNothing_iff [Bus β ε] (driver : MissionCriticalDriver (BackedBus β) rx tx)
    (event : RxEvent) (packetIndex : Nat) (output : Bytes) :
    LeavesNothing ε driver event packetIndex output ↔
      ¬ Leaks ε driver event packetIndex output.length := by
  constructor
  · intro nothing leaks
    obtain ⟨ready, closed, info, slot, fetchable, r, next, count, ends, leak⟩ := leaks
    obtain ⟨refused, zero⟩ := leaked_filledPacket ready closed fetchable ends leak (.inl rfl)
    obtain ⟨refused', one⟩ := leaked_filledPacket ready closed fetchable ends leak (.inr rfl)
    have same := nothing info slot fetchable.listed fetchable.placed _ _
      (differInPacket_filledPacket 0 1) refused refused'
    rw [same, one] at zero
    cases zero
  · intro tight info slot listed placed memory other _ refused refused'
    obtain ⟨left, all⟩ := left_of_not_leaks tight listed placed
    rw [all memory refused, all other refused']

section Sample

/-- One A-MSDU subframe of eight bytes, too short for its headers. -/
def shortSubframeEvent : RxEvent where
  payload := List.replicate 20 0 ++ ([0, 0, 8, 0] ++ ([2] ++ List.replicate 12 0))
  rxPacketType := 0
  rateFlags := 0
  rate := 0
  wdevId := 0
  packetCount := 1
  macHeaderLen := 0
  frequencyMhz := 0
  signalDbm := 0

def shortSubframeInfo : RxPacketInfo where
  descriptorId := 0
  packetLen := 8
  payloadType := .msdu

/-- A driver after its boot: the only receive descriptor is posted, and the station down. -/
def bootedDriver : MissionCriticalDriver (BackedBus ReadyBus) 1 1 where
  inner :=
    { device :=
        { Device.new { bus := ReadyBus.mk, memory := fun _ => 0, arrived := fun _ _ _ => 0 } with
          queues := some Device.readyQueues
          rxCommandBase := readyAddress
          txCommandBase := rpuMemTxCmdBase }
      data := DataPath.samplePath.setPosted 0 true
      station := StationController.new 0 0 0
      state := .ready
      ifaceindex := 0
      wdevId := 0
      configuredMac := none }

theorem short_subframe_stays :
    ¬ LeavesNothing Empty bootedDriver shortSubframeEvent 0 (List.replicate 16 0) := by
  intro nothing
  have refused (value : UInt8) (small : value = 0 ∨ value = 1) :
      Refused (ε := Empty) bootedDriver shortSubframeEvent 0 (List.replicate 16 0)
        shortSubframeInfo 0xb00309bc (filledPacket shortSubframeInfo 0xb00309bc value) := by
    refine ⟨⟨.driver (.data (.protocol .frameTooShort)), ?_, by simp⟩,
      not_permits_filledPacket rfl small⟩
    rcases small with rfl | rfl
    · decide +kernel
    · decide +kernel
  have same := nothing shortSubframeInfo 0xb00309bc (by decide +kernel) (by decide +kernel) _ _
    (differInPacket_filledPacket 0 1) (refused 0 (.inl rfl)) (refused 1 (.inr rfl))
  have differ : leftBy Empty bootedDriver shortSubframeEvent 0 (List.replicate 16 0)
      (filledPacket shortSubframeInfo 0xb00309bc 0) ≠
        leftBy Empty bootedDriver shortSubframeEvent 0 (List.replicate 16 0)
          (filledPacket shortSubframeInfo 0xb00309bc 1) := by
    decide +kernel
  exact differ same

end Sample

end MissionCriticalDriver

end Nrf7002
