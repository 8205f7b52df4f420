import Nrf7002.Foundation.Run
import Nrf7002.Runtime.Driver
import Nrf7002.Station.Port

/-! # Runs of the top-level driver

Every public operation in any order, on a bus and a board that may do anything.  The
results below follow the driver's own state and the station, its `lifecycle`, through
each operation. -/

set_option autoImplicit false

namespace Nrf7002
open Foundation

namespace StationController

/-- No frame may pass: neither data nor EAPOL. -/
structure Sealed (station : StationController) : Prop where
  closed : station.controlledPortOpen = false
  silent : station.eapolRequired = false

theorem sealed_beginRecovery (station : StationController) : station.beginRecovery.Sealed :=
  ⟨rfl, by simp [eapolRequired, beginRecovery, clearConnection]⟩

/-- While time passes without a timeout, only the deadline changes. -/
theorem post_advanceTime (elapsedMs : UInt32) (station : StationController) :
    Post (advanceTime elapsedMs) station (fun r next => match r with
      | .ok _ => ∃ remaining, next = { station with remainingMs := remaining }
      | .error fault => next = station.faulted fault) := by
  rw [advanceTime, post_bind, post_get]
  dsimp only
  cases armed : station.remainingMs with
  | none =>
      rw [post_pure]
      exact ⟨none, by rw [← armed]⟩
  | some remaining =>
      dsimp only
      rw [post_ite]
      by_cases early : elapsedMs < remaining
      · rw [if_pos early, post_set]
        exact ⟨_, rfl⟩
      · rw [if_neg early, post_bind, post_modify]
        exact (post_throw _ _ _).mpr rfl

theorem Sealed.tick {station : StationController} (closed : station.Sealed)
    (remaining : Option UInt32) : Sealed { station with remainingMs := remaining } :=
  ⟨closed.closed, closed.silent⟩

end StationController

namespace NativeDriver
variable {β ε π ρ α : Type} {rx tx : Nat}

/-! ## The lifecycle of a driver -/

/-- The driver's own state and its station. -/
def lifecycle (driver : NativeDriver β rx tx) : DriverState × StationController :=
  (driver.state, driver.station)

theorem lifecycle_new {bus : β} {rxBufferSize txBufferSize : Nat} {ifaceindex : Int32}
    {firmwareIndex : Int8} {wdevId : UInt32} {driver : NativeDriver β rx tx}
    (created : new bus rxBufferSize txBufferSize ifaceindex firmwareIndex wdevId = .ok driver) :
    driver.lifecycle = (.cold, StationController.new ifaceindex firmwareIndex wdevId) := by
  rw [new] at created
  split at created
  · cases created
  · obtain ⟨data, _, made⟩ := bind_eq_ok.mp created
    have same := Except.ok.inj made
    rw [← same]
    rfl

theorem keeps_lifecycle_onDevice (x : Program (Device β) (DeviceError ε) α) :
    Keeps lifecycle (onDevice x : Program (NativeDriver β rx tx) (DriverError ε) α) :=
  keeps_onField _ fun _ _ => rfl

theorem keeps_lifecycle_onLink (x : Program (DataLink β rx tx) (DataError ε) α) :
    Keeps lifecycle (onLink x : Program (NativeDriver β rx tx) (DriverError ε) α) :=
  keeps_onField _ fun _ _ => rfl

theorem post_recoverWith (failure : DriverError ε) (driver : NativeDriver β rx tx)
    (Q : Except (DriverError ε) α → NativeDriver β rx tx → Prop) :
    Post (recoverWith failure) driver Q ↔ Q (.error failure) driver.enterRecovery := by
  rw [recoverWith, post_bind, post_modify]
  exact post_throw _ _ _

theorem post_requireState (required : DriverState) (driver : NativeDriver β rx tx)
    (Q : Except (DriverError ε) Unit → NativeDriver β rx tx → Prop) :
    Post (requireState required) driver Q ↔
      if driver.state = required then Q (.ok ()) driver
      else Q (.error (.invalidState driver.state required)) driver := by
  rw [requireState, post_bind, post_get]
  dsimp only
  rw [post_ite, post_pure, post_throw]

theorem post_requireControlledPort (etherType : UInt16) (driver : NativeDriver β rx tx)
    (Q : Except (DriverError ε) Unit → NativeDriver β rx tx → Prop) :
    Post (requireControlledPort etherType) driver Q ↔
      if portAllows driver.station etherType then Q (.ok ()) driver
      else Q (.error (.controlledPortClosed driver.station.state etherType)) driver := by
  rw [requireControlledPort, post_bind, post_get]
  dsimp only
  rw [post_ite, post_pure, post_throw]

theorem post_orRecover (x : Program StationController (StationError ε) α)
    (driver : NativeDriver β rx tx)
    (Q : Except (DriverError ε) α → NativeDriver β rx tx → Prop) :
    Post (orRecover x) driver Q ↔
      Post x driver.station (fun r station => match r with
        | .ok value => Q (.ok value) { driver with station }
        | .error failure =>
            Q (.error (.station failure)) { driver with station }.enterRecovery) := by
  rw [orRecover, post_bind, post_attempt, post_onField]
  refine Post.congr (post_true _ _) ?_
  intro r station _
  cases r with
  | ok value => exact post_pure _ _ _
  | error failure => exact post_recoverWith _ _ _

theorem sealed_enterRecovery (driver : NativeDriver β rx tx) :
    driver.enterRecovery.station.Sealed :=
  StationController.sealed_beginRecovery driver.station

/-! ## Events -/

/-- An event that no state machine of the driver takes.  Outside `ready` the driver
reports system events only. -/
def Reports (state : DriverState) : DriverEvent → Prop
  | .system _ => True
  | .control _ | .data _ => False
  | _ => state = .ready

/-- Everything that dispatching a message can do to the lifecycle. -/
inductive Dispatched (state : DriverState) (station : StationController) :
    Except (DriverError ε) DriverEvent → DriverState × StationController → Prop where
  | refused (failure : DriverError ε) (plain : ∀ error, failure ≠ .station error) :
      Dispatched state station (.error failure) (state, station)
  | reported (event : DriverEvent) (report : Reports state event) :
      Dispatched state station (.ok event) (state, station)
  | initialized (waiting : state = .waitingForSystemInit) :
      Dispatched state station (.ok (.system .initDone)) (.ready, station.recoveryComplete)
  | controlled {event next} (ready : state = .ready)
      (handled : Returns (StationController.handleControlEvent event :
        StationController.Handler ε Unit) station () next) :
      Dispatched state station (.ok (.control event)) (.ready, next)
  | informed {event next} (ready : state = .ready)
      (handled : Returns (StationController.handleDataEvent event :
        StationController.Handler ε Unit) station () next) :
      Dispatched state station (.ok (.data event)) (.ready, next)
  | unexpected :
      Dispatched state station (.error (.unexpectedEventForState state))
        (.recovering, station.beginRecovery)
  | failed {next : StationController} (failure : StationError ε) (ready : state = .ready) :
      Dispatched state station (.error (.station failure)) (.recovering, next.beginRecovery)

section Events
variable (driver : NativeDriver β rx tx)

theorem dispatchSystemMessage_dispatched (message : HostMessage) :
    Post (dispatchSystemMessage message :
      Program (NativeDriver β rx tx) (DriverError ε) DriverEvent) driver
      (fun r next => Dispatched driver.state driver.station r next.lifecycle) := by
  rw [dispatchSystemMessage, post_bind, post_liftResult]
  cases parseSystemEvent message with
  | error failure => exact .refused (.protocol failure) (by simp)
  | ok event =>
      dsimp only [Except.mapError]
      cases event with
      | initDone =>
          simp only [applySystemEvent, post_bind, post_get, post_ite]
          by_cases waiting : driver.state = .waitingForSystemInit
          · rw [if_pos waiting, post_set, post_pure]
            exact .initialized waiting
          · rw [if_neg waiting, post_recoverWith]
            exact .unexpected
      | deinitDone =>
          simp only [applySystemEvent, post_bind, post_get, post_recoverWith]
          exact .unexpected
      | powerData body =>
          simp only [applySystemEvent, post_bind, post_pure]
          exact .reported _ trivial
      | statistics body =>
          simp only [applySystemEvent, post_bind, post_pure]
          exact .reported _ trivial
      | other id body =>
          simp only [applySystemEvent, post_bind, post_pure]
          exact .reported _ trivial

theorem dispatchControlMessage_dispatched (message : HostMessage) :
    Post (dispatchControlMessage message :
      Program (NativeDriver β rx tx) (DriverError ε) DriverEvent) driver
      (fun r next => Dispatched driver.state driver.station r next.lifecycle) := by
  rw [dispatchControlMessage, post_bind, post_requireState]
  by_cases ready : driver.state = .ready
  · rw [if_pos ready]
    dsimp only
    rw [post_bind, post_liftResult]
    cases parseControlEvent message with
    | error failure => exact .refused (.protocol failure) (by simp)
    | ok event =>
        dsimp only [Except.mapError]
        rw [post_bind, post_orRecover, post_iff]
        cases handled : resultOf (StationController.handleControlEvent event :
            StationController.Handler ε Unit) driver.station with
        | ok done =>
            dsimp only
            rw [post_pure, lifecycle, ready]
            exact .controlled rfl ⟨handled, rfl⟩
        | error failure => exact .failed failure ready
  · rw [if_neg ready]
    exact .refused _ (by simp)

theorem dispatchStationData_dispatched (event : DataEvent) (ready : driver.state = .ready) :
    Post (dispatchStationData event :
      Program (NativeDriver β rx tx) (DriverError ε) DriverEvent) driver
      (fun r next => Dispatched driver.state driver.station r next.lifecycle) := by
  rw [dispatchStationData, post_bind, post_orRecover, post_iff]
  cases handled : resultOf (StationController.handleDataEvent event :
      StationController.Handler ε Unit) driver.station with
  | ok done =>
      dsimp only
      rw [post_pure, lifecycle, ready]
      exact .informed rfl ⟨handled, rfl⟩
  | error failure => exact .failed failure ready

theorem dispatchTransmitDone_dispatched (message : HostMessage) (ready : driver.state = .ready) :
    Post (dispatchTransmitDone message :
      Program (NativeDriver β rx tx) (DriverError ε) DriverEvent) driver
      (fun r next => Dispatched driver.state driver.station r next.lifecycle) := by
  rw [dispatchTransmitDone, post_bind, post_liftResult]
  cases TxDoneEvent.parse message with
  | error failure => exact .refused (.dataProtocol failure) (by simp)
  | ok event =>
      dsimp only [Except.mapError]
      rw [post_bind, post_onField, post_mapError]
      refine (post_true _ _).mono ?_
      intro r data _
      cases r with
      | error failure => exact .refused (.dataProtocol failure) (by simp)
      | ok done => exact (post_pure _ _ _).mpr (.reported _ ready)

theorem dispatchReceive_dispatched (message : HostMessage) (ready : driver.state = .ready) :
    Post (dispatchReceive message :
      Program (NativeDriver β rx tx) (DriverError ε) DriverEvent) driver
      (fun r next => Dispatched driver.state driver.station r next.lifecycle) := by
  rw [dispatchReceive, post_bind, post_liftResult]
  cases RxEvent.parse message with
  | error failure => exact .refused (.dataProtocol failure) (by simp)
  | ok event => exact (post_pure _ _ _).mpr (.reported _ ready)

theorem dispatchDataMessage_dispatched (message : HostMessage) :
    Post (dispatchDataMessage message :
      Program (NativeDriver β rx tx) (DriverError ε) DriverEvent) driver
      (fun r next => Dispatched driver.state driver.station r next.lifecycle) := by
  rw [dispatchDataMessage, post_bind, post_requireState]
  by_cases ready : driver.state = .ready
  · rw [if_pos ready]
    dsimp only
    rw [post_bind, post_liftResult]
    cases classifyDataEvent message with
    | error failure => exact .refused (.dataProtocol failure) (by simp)
    | ok event =>
        cases event with
        | transmitDone token statusCount => exact dispatchTransmitDone_dispatched driver message ready
        | receive => exact dispatchReceive_dispatched driver message ready
        | carrierOn wdevId => exact dispatchStationData_dispatched driver _ ready
        | carrierOff wdevId => exact dispatchStationData_dispatched driver _ ready
        | other command => exact dispatchStationData_dispatched driver _ ready
  · rw [if_neg ready]
    exact .refused _ (by simp)

theorem dispatchMessage_dispatched (message : HostMessage) :
    Post (dispatchMessage message :
      Program (NativeDriver β rx tx) (DriverError ε) DriverEvent) driver
      (fun r next => Dispatched driver.state driver.station r next.lifecycle) := by
  rw [dispatchMessage]
  cases message.messageType with
  | system => exact dispatchSystemMessage_dispatched driver message
  | umac => exact dispatchControlMessage_dispatched driver message
  | data => exact dispatchDataMessage_dispatched driver message
  | supplicant =>
      dsimp only
      rw [dispatchSupplicantMessage, post_bind, post_requireState]
      by_cases ready : driver.state = .ready
      · rw [if_pos ready]
        exact (post_pure _ _ _).mpr (.reported _ ready)
      · rw [if_neg ready]
        exact .refused _ (by simp)

end Events

/-- Everything that polling an event can do to the lifecycle. -/
inductive Polled (state : DriverState) (station : StationController) :
    Except (DriverError ε) (Option DriverEvent) → DriverState × StationController → Prop where
  | idle : Polled state station (.ok none) (state, station)
  | unread (failure : DeviceError ε) : Polled state station (.error (.device failure)) (state, station)
  | lost :
      Polled state station (.error (.device .recoveryRequired))
        (.recovering, station.beginRecovery)
  | dispatched {r : Except (DriverError ε) DriverEvent} {next}
      (effect : Dispatched state station r next) : Polled state station (r.map some) next

theorem pollEvent_polled [Bus β ε] (scratchAddress : Nat) (driver : NativeDriver β rx tx)
    (scratch : Bytes) :
    Post (pollEvent scratchAddress) (driver, scratch)
      (fun r s => Polled driver.state driver.station r s.1.lifecycle) := by
  rw [pollEvent, post_bind, post_get]
  dsimp only
  rw [post_ite]
  by_cases required : driver.device.recoveryRequired = true
  · rw [if_pos required, besideBuffer, post_onField, post_recoverWith]
    exact .lost
  · rw [if_neg required, post_bind, post_onField, post_mapError]
    refine (post_true _ _).mono ?_
    intro r part _
    cases r with
    | error failure => exact .unread failure
    | ok message =>
        cases message with
        | none => exact (post_pure _ _ _).mpr .idle
        | some message =>
            change Post (some <$> _) _ _
            rw [post_map, besideBuffer, post_onField]
            refine (dispatchMessage_dispatched { driver with device := part.1 } message).mono ?_
            intro r next effect
            exact .dispatched effect

/-! ## Frames -/

section Frames
variable [Bus β ε] (driver : NativeDriver β rx tx)

/-- A packet for another interface moves the driver into recovery. -/
theorem receivePacket_lifecycle (event : RxEvent) (packetIndex : Nat) (output : Bytes) :
    Post (receivePacket event packetIndex) (driver, output) (fun r s =>
      s.1.lifecycle = driver.lifecycle ∨
        r = .error (.wrongInterface driver.wdevId event.wdevId) ∧
          s.1.lifecycle = (.recovering, driver.station.beginRecovery)) := by
  rw [receivePacket, post_bind, post_onField, post_mapError]
  refine (post_true _ _).mono ?_
  intro r part _
  cases r with
  | error failure => exact .inl rfl
  | ok frame =>
      change Post (besideBuffer (validateReceivedFrame event frame)) _ _
      rw [besideBuffer, post_onField, validateReceivedFrame, post_bind, post_get]
      dsimp only
      rw [post_ite]
      by_cases foreign : event.wdevId ≠ (setLink part.1 driver).wdevId
      · rw [if_pos foreign, post_recoverWith]
        exact .inr ⟨rfl, rfl⟩
      · rw [if_neg foreign, post_bind, post_requireControlledPort]
        by_cases allowed : portAllows (setLink part.1 driver).station frame.etherType = true
        · rw [if_pos allowed]
          exact (post_pure _ _ _).mpr (.inl rfl)
        · rw [if_neg allowed]
          exact .inl rfl

theorem keeps_lifecycle_transmit (wdevId : UInt8) (frame : Bytes) (dscpTos : UInt16) :
    Keeps lifecycle (transmit wdevId frame dscpTos :
      Program (NativeDriver β rx tx) (DriverError ε) UInt8) := by
  refine (keeps_get _).bind fun driver => keeps_ite (fun _ => keeps_throw _ _) fun _ => ?_
  cases ethernetType frame with
  | none => exact keeps_throw _ _
  | some etherType =>
      have port : Keeps lifecycle (requireControlledPort etherType :
          Program (NativeDriver β rx tx) (DriverError ε) Unit) :=
        (keeps_get _).bind fun _ => keeps_ite (fun _ => keeps_pure _ _) fun _ => keeps_throw _ _
      exact port.bind fun _ => keeps_lifecycle_onLink _

/-- Behind a sealed station nothing is sent. -/
theorem transmit_rejected (sealed_ : driver.station.Sealed) (wdevId : UInt8) (frame : Bytes)
    (dscpTos : UInt16) :
    Post (transmit wdevId frame dscpTos) driver
      (fun r next => r.isOk = false ∧ next = driver) := by
  rw [transmit, post_bind, post_get]
  dsimp only
  rw [post_ite]
  by_cases foreign : wdevId ≠ driver.wdevId
  · rw [if_pos foreign, post_throw]
    exact ⟨rfl, rfl⟩
  · rw [if_neg foreign]
    cases ethernetType frame with
    | none => exact (post_throw _ _ _).mpr ⟨rfl, rfl⟩
    | some etherType =>
        dsimp only
        have rejected : portAllows driver.station etherType = false := by
          simp [portAllows, sealed_.closed, sealed_.silent]
        rw [post_bind, post_requireControlledPort, rejected]
        exact ⟨rfl, rfl⟩

end Frames

/-! ## Deadlines and commands -/

/-- Time passes for the station, or its deadline moves the driver into recovery. -/
theorem advanceTime_lifecycle (elapsedMs : UInt32) (driver : NativeDriver β rx tx) :
    Post (advanceTime elapsedMs : Program (NativeDriver β rx tx) (DriverError ε) Unit) driver
      (fun r next => match r with
        | .ok _ => ∃ remaining, next = { driver with
            station := { driver.station with remainingMs := remaining } }
        | .error _ => ∃ fault,
            next = { driver with station := driver.station.faulted fault }.enterRecovery) := by
  rw [advanceTime, post_orRecover, post_mapError]
  refine (StationController.post_advanceTime elapsedMs driver.station).mono ?_
  intro r station outcome
  cases r with
  | ok done =>
      obtain ⟨remaining, rfl⟩ := outcome
      exact ⟨remaining, rfl⟩
  | error fault => exact ⟨fault, by rw [outcome]⟩

/-- A command is rejected unless the driver is ready, and never changes its state. -/
theorem runStationCommand_lifecycle (command : StationController.Command β ε Unit)
    (driver : NativeDriver β rx tx) :
    Post (runStationCommand command) driver (fun _ next =>
      next.state = driver.state ∧ (driver.state ≠ .ready → next = driver)) := by
  rw [runStationCommand, post_bind, post_requireState]
  by_cases ready : driver.state = .ready
  · rw [if_pos ready]
    dsimp only
    rw [post_mapError, onSecurityParts, post_onField]
    exact (post_true _ _).mono fun _ _ _ => ⟨rfl, fun apart => absurd ready apart⟩
  · rw [if_neg ready]
    exact ⟨rfl, fun _ => rfl⟩

theorem createStationInterface_lifecycle [Bus β ε] (ifaceindex : Int32) (macAddress : Octets 6)
    (interfaceName : Bytes) (driver : NativeDriver β rx tx) :
    Post (createStationInterface ifaceindex macAddress interfaceName) driver (fun _ next =>
      next.state = driver.state ∧ (driver.state ≠ .ready → next = driver)) := by
  rw [createStationInterface, post_bind, post_requireState]
  by_cases ready : driver.state = .ready
  · rw [if_pos ready]
    dsimp only
    rw [post_bind, post_get]
    dsimp only
    rw [post_ite]
    by_cases mismatch : ifaceindex ≠ driver.ifaceindex ∨ driver.configuredMac ≠ some macAddress
    · rw [if_pos mismatch, post_throw]
      exact ⟨rfl, fun _ => rfl⟩
    · rw [if_neg mismatch]
      exact runStationCommand_lifecycle _ driver
  · rw [if_neg ready]
    exact ⟨rfl, fun _ => rfl⟩

/-! ## Recovery and the watchdog -/

section Recovery
variable [Bus β ε]

section BringUp
variable {γ : Type} {view : NativeDriver β rx tx → γ}
  (unseen : ∀ (driver : NativeDriver β rx tx) (device : Device β),
    view { driver with device } = view driver)
include unseen

omit [Bus β ε] in
theorem keeps_view_onDevice (x : Program (Device β) (DeviceError ε) α) :
    Keeps view (onDevice x : Program (NativeDriver β rx tx) (DriverError ε) α) :=
  keeps_onField _ fun device driver => unseen driver device

omit [Bus β ε] in
theorem keeps_view_onPlatform (x : Program (π × β) ρ α) :
    Keeps (fun s : NativeDriver β rx tx × π => view s.1)
      (onPlatform x : Program (NativeDriver β rx tx × π) (RecoveryError ε ρ) α) :=
  keeps_onField _ fun _ s => unseen s.1 _

omit [Bus β ε] unseen in
theorem keeps_view_besidePlatform {x : Program (NativeDriver β rx tx) (DriverError ε) α}
    (keeps : Keeps view x) :
    Keeps (fun s : NativeDriver β rx tx × π => view s.1)
      (besidePlatform x : Program (NativeDriver β rx tx × π) (RecoveryError ε ρ) α) := by
  rw [keeps_iff_post]
  intro s
  rw [besidePlatform, post_onField, post_mapError]
  exact keeps.post s.1

omit [Bus β ε] in
theorem keeps_view_systemInitMessage (config : SystemInitConfig) :
    Keeps view
      (systemInitMessage config : Program (NativeDriver β rx tx) (DriverError ε) Bytes) := by
  refine Keeps.bind ?_ fun encoded => keeps_pure _ _
  rw [keeps_iff_post]
  intro driver
  rw [post_withLocal, post_onField]
  exact (post_true _ _).mono fun _ _ _ => unseen driver _

/-- The bring-up keeps what neither the device nor the queues of the data path show. -/
theorem keeps_bringUpHardware [Platform π β ρ]
    (load : Program (Rpu β) (LoadError ε) FirmwareReport) (config : SystemInitConfig)
    (queues : Keeps view (resetQueues : Program (NativeDriver β rx tx) (DriverError ε) Unit))
    (posted : Keeps view
      (onLink DataPath.postAllRx : Program (NativeDriver β rx tx) (DriverError ε) Unit)) :
    Keeps (fun s : NativeDriver β rx tx × π => view s.1) (bringUpHardware load config :
      Program (NativeDriver β rx tx × π) (RecoveryError ε ρ) FirmwareReport) := by
  have device {α : Type} (x : Program (Device β) (DeviceError ε) α) :
      Keeps (fun s : NativeDriver β rx tx × π => view s.1)
        (besidePlatform (onDevice x) :
          Program (NativeDriver β rx tx × π) (RecoveryError ε ρ) α) :=
    keeps_view_besidePlatform (keeps_view_onDevice unseen x)
  have firmware : Keeps view (loadFirmware load :
      Program (NativeDriver β rx tx) (DriverError ε) FirmwareReport) :=
    keeps_onField _ fun _ driver => unseen driver _
  apply (keeps_get _).bind
  intro s
  apply (keeps_view_besidePlatform (keeps_liftResult _ _)).bind
  intro _
  apply (keeps_view_besidePlatform (keeps_view_onDevice unseen _).attempt).bind
  intro _
  apply (keeps_view_onPlatform unseen _).bind
  intro _
  apply (keeps_view_besidePlatform queues).bind
  intro _
  apply (keeps_view_onPlatform unseen _).bind
  intro _
  apply (device _).bind
  intro _
  apply (keeps_view_onPlatform unseen _).bind
  intro _
  apply (device _).bind
  intro _
  apply (keeps_view_besidePlatform firmware).bind
  intro report
  apply (device _).bind
  intro _
  apply (keeps_view_besidePlatform posted).bind
  intro _
  apply (device _).bind
  intro _
  apply (keeps_view_besidePlatform (keeps_view_systemInitMessage unseen config)).bind
  intro message
  exact (device _).bind fun _ => keeps_pure _ _

end BringUp

theorem keeps_station_bringUpHardware [Platform π β ρ]
    (load : Program (Rpu β) (LoadError ε) FirmwareReport) (config : SystemInitConfig) :
    Keeps (fun s : NativeDriver β rx tx × π => s.1.station) (bringUpHardware load config :
      Program (NativeDriver β rx tx × π) (RecoveryError ε ρ) FirmwareReport) :=
  keeps_bringUpHardware (fun _ _ => rfl) load config (keeps_modify _ _ (by intro driver; rfl))
    (keeps_onField _ fun _ _ => rfl)

/-- However recovery ends, it ends outside `ready` with a station in recovery. -/
theorem recover_lifecycle [Platform π β ρ] (load : Program (Rpu β) (LoadError ε) FirmwareReport)
    (config : SystemInitConfig) (s : NativeDriver β rx tx × π) :
    Post (recover load config) s (fun r next =>
      next.1.lifecycle = (if r.isOk then .waitingForSystemInit else .fault,
        s.1.station.beginRecovery)) := by
  rw [recover, post_bind, beginRecovery, post_modify]
  dsimp only
  rw [post_bind, post_attempt]
  refine ((keeps_station_bringUpHardware load config).post _).mono ?_
  intro r next kept
  cases r with
  | ok report =>
      simp only [post_bind, post_modify, post_pure]
      exact congrArg (Prod.mk DriverState.waitingForSystemInit) kept
  | error failure =>
      simp only [post_bind, post_modify, post_throw]
      exact congrArg (Prod.mk DriverState.fault) kept

/-- The next `reads` reads of the watchdog status all return the sentinel. -/
def AllSentinel : Nat → Rpu β → Prop
  | 0, _ => True
  | reads + 1, rpu =>
      resultOf (Rpu.readRegister rpuRegWatchdogStatus : Program (Rpu β) (RpuError ε) UInt32) rpu =
          .ok watchdogSentinel ∧
        AllSentinel reads (stateAfter (Rpu.readRegister rpuRegWatchdogStatus) rpu)

/-- The watchdog check leaves the station alone; it ends in `fault` exactly when every
read returned the sentinel. -/
theorem pollWatchdog_lifecycle (reads : Nat) (driver : NativeDriver β rx tx) :
    Post (pollWatchdog reads) driver (fun _ next =>
      (AllSentinel reads driver.device.rpu ∧ next.lifecycle = (.fault, driver.station)) ∨
        (¬ AllSentinel reads driver.device.rpu ∧ next.lifecycle = driver.lifecycle)) := by
  induction reads generalizing driver with
  | zero =>
      rw [pollWatchdog, post_bind, post_modify]
      exact (post_throw _ _ _).mpr (.inl ⟨trivial, rfl⟩)
  | succ reads hypothesis =>
      rw [pollWatchdog, post_bind, onRpu, onDevice, post_onField, post_mapError, Device.onRpu,
        post_onField, post_mapError, post_iff]
      cases answer : resultOf (Rpu.readRegister rpuRegWatchdogStatus :
          Program (Rpu β) (RpuError ε) UInt32) driver.device.rpu with
      | error failure =>
          refine .inr ⟨fun all => ?_, rfl⟩
          rw [AllSentinel, answer] at all
          exact absurd all.1 (by simp)
      | ok value =>
          dsimp only [Except.mapError]
          rw [post_ite]
          by_cases apart : value ≠ watchdogSentinel
          · rw [if_pos apart, post_pure]
            refine .inr ⟨fun all => ?_, rfl⟩
            rw [AllSentinel, answer] at all
            exact apart (Except.ok.inj all.1)
          · have sentinel := not_not.mp apart
            rw [if_neg apart]
            refine (hypothesis _).mono ?_
            intro r next outcome
            have same : AllSentinel (reads + 1) driver.device.rpu ↔
                AllSentinel reads (stateAfter (Rpu.readRegister rpuRegWatchdogStatus)
                  driver.device.rpu) := by
              rw [AllSentinel, answer, sentinel]
              exact and_iff_right rfl
            rw [same]
            exact outcome

end Recovery

end NativeDriver

end Nrf7002
