import Nrf7002.Runtime.Run

/-! # The controlled port outside `ready`

Whenever the driver is not ready its station lets no frame pass, with one exception:
the watchdog check that finds ten sentinels moves to `fault` and leaves the station
as it is. -/

set_option autoImplicit false

namespace Nrf7002
open Foundation

inductive DriverMove (π β ε : Type) where
  | hardware (bus : β)
  | recover (platform : π) (load : Program (Rpu β) (LoadError ε) FirmwareReport)
      (config : SystemInitConfig)
  | createStationInterface (ifaceindex : Int32) (macAddress : Octets 6) (interfaceName : Bytes)
  | setRegulatory (country : UInt8 × UInt8) (userHintType : UInt32) (force : Bool)
  | bringUp
  | bringDown
  | startScan (request : ScanRequest)
  | requestScanResults (reason : ScanReason)
  | authenticate (request : AuthenticationRequest)
  | associate (request : AssociationRequest)
  | setPowerSave (state : PowerSaveState)
  | setPowerSaveTimeout (timeoutMs : Int32)
  | disconnect (reasonCode : UInt16)
  | waitForInterrupt (platform : π)
  | advanceTime (elapsedMs : UInt32)
  | pollEvent (scratchAddress : Nat) (scratch : Bytes)
  | dispatchMessage (message : HostMessage)
  | receivePacket (event : RxEvent) (packetIndex : Nat) (output : Bytes)
  | transmit (wdevId : UInt8) (frame : Bytes) (dscpTos : UInt16)
  | transmitFrame (frame : Bytes) (dscpTos : UInt16)
  | watchdogPending
  | acknowledgeWatchdog

namespace NativeDriver
variable {β ε π ρ : Type} {rx tx : Nat}

section Step
variable [Bus β ε] [Platform π β ρ]

/-- The driver after one operation, whatever its result. -/
def after {δ α : Type} (driver : NativeDriver β rx tx)
    (x : Program (NativeDriver β rx tx) δ α) : NativeDriver β rx tx :=
  stateAfter x driver

def step (driver : NativeDriver β rx tx) : DriverMove π β ε → NativeDriver β rx tx
  | .hardware bus => { driver with device := { driver.device with rpu := { bus } } }
  | .recover platform load config => (stateAfter (recover load config) (driver, platform)).1
  | .createStationInterface ifaceindex macAddress interfaceName =>
      driver.after (createStationInterface ifaceindex macAddress interfaceName)
  | .setRegulatory country userHintType force =>
      driver.after (setRegulatory country userHintType force)
  | .bringUp => driver.after bringUp
  | .bringDown => driver.after bringDown
  | .startScan request => driver.after (startScan request)
  | .requestScanResults reason => driver.after (requestScanResults reason)
  | .authenticate request => driver.after (authenticate request)
  | .associate request => driver.after (associate request)
  | .setPowerSave state => driver.after (setPowerSave state)
  | .setPowerSaveTimeout timeoutMs => driver.after (setPowerSaveTimeout timeoutMs)
  | .disconnect reasonCode => driver.after (disconnect reasonCode)
  | .waitForInterrupt platform =>
      (stateAfter (waitForInterrupt : Program _ (RecoveryError ε ρ) Unit) (driver, platform)).1
  | .advanceTime elapsedMs =>
      driver.after (advanceTime elapsedMs : Program _ (DriverError ε) Unit)
  | .pollEvent scratchAddress scratch => (stateAfter (pollEvent scratchAddress) (driver, scratch)).1
  | .dispatchMessage message =>
      driver.after (dispatchMessage message : Program _ (DriverError ε) DriverEvent)
  | .receivePacket event packetIndex output =>
      (stateAfter (receivePacket event packetIndex) (driver, output)).1
  | .transmit wdevId frame dscpTos => driver.after (transmit wdevId frame dscpTos)
  | .transmitFrame frame dscpTos => driver.after (transmitFrame frame dscpTos)
  | .watchdogPending => driver.after watchdogPending
  | .acknowledgeWatchdog => driver.after acknowledgeWatchdog

end Step

/-! ## The station outside `ready` -/

def SealedOutsideReady (driver : NativeDriver β rx tx) : Prop :=
  driver.state ≠ .ready → driver.station.Sealed

theorem SealedOutsideReady.of_lifecycle {driver next : NativeDriver β rx tx}
    (holds : driver.SealedOutsideReady) (same : next.lifecycle = driver.lifecycle) :
    next.SealedOutsideReady := by
  have state : next.state = driver.state := congrArg Prod.fst same
  have station : next.station = driver.station := congrArg Prod.snd same
  intro apart
  rw [station]
  exact holds (state ▸ apart)

theorem sealed_of_recovery {next : NativeDriver β rx tx} {state : DriverState}
    {station : StationController} (began : next.lifecycle = (state, station.beginRecovery)) :
    next.SealedOutsideReady := by
  intro _
  have ends : next.station = station.beginRecovery := congrArg Prod.snd began
  rw [ends]
  exact StationController.sealed_beginRecovery station

theorem sealed_of_ready {next : NativeDriver β rx tx} (ready : next.state = .ready) :
    next.SealedOutsideReady := fun apart => absurd ready apart

section Sealing
variable {driver : NativeDriver β rx tx}

theorem sealed_command {x : Program (NativeDriver β rx tx) (DriverError ε) Unit}
    (holds : driver.SealedOutsideReady)
    (command : Post x driver (fun _ next =>
      next.state = driver.state ∧ (driver.state ≠ .ready → next = driver))) :
    (driver.after x).SealedOutsideReady := by
  obtain ⟨state, unchanged⟩ := command.ends
  intro apart
  have before : driver.state ≠ .ready := fun ready => apart (state.trans ready)
  have same : driver.after x = driver := unchanged before
  rw [same]
  exact holds before

theorem sealed_dispatched {r : Except (DriverError ε) DriverEvent} {next : NativeDriver β rx tx}
    (holds : driver.SealedOutsideReady)
    (effect : Dispatched driver.state driver.station r next.lifecycle) :
    next.SealedOutsideReady := by
  generalize ends : next.lifecycle = lifecycle at effect
  cases effect with
  | refused failure plain => exact holds.of_lifecycle ends
  | reported event report => exact holds.of_lifecycle ends
  | initialized waiting => exact sealed_of_ready (congrArg Prod.fst ends)
  | controlled ready handled => exact sealed_of_ready (congrArg Prod.fst ends)
  | informed ready handled => exact sealed_of_ready (congrArg Prod.fst ends)
  | unexpected => exact sealed_of_recovery ends
  | failed failure ready => exact sealed_of_recovery ends

theorem sealed_polled {r : Except (DriverError ε) (Option DriverEvent)}
    {next : NativeDriver β rx tx} (holds : driver.SealedOutsideReady)
    (effect : Polled driver.state driver.station r next.lifecycle) :
    next.SealedOutsideReady := by
  generalize ends : next.lifecycle = lifecycle at effect
  cases effect with
  | idle => exact holds.of_lifecycle ends
  | unread failure => exact holds.of_lifecycle ends
  | lost => exact sealed_of_recovery ends
  | dispatched effect => exact sealed_dispatched holds (ends ▸ effect)

theorem sealed_advanceTime (holds : driver.SealedOutsideReady) (elapsedMs : UInt32) :
    (driver.after (advanceTime elapsedMs :
      Program _ (DriverError ε) Unit)).SealedOutsideReady := by
  have ends := (advanceTime_lifecycle (ε := ε) elapsedMs driver).ends
  rw [after]
  generalize resultOf (advanceTime elapsedMs : Program _ (DriverError ε) Unit) driver = r at ends
  cases r with
  | ok done =>
      obtain ⟨remaining, ticked⟩ := ends
      rw [ticked]
      intro apart
      exact (holds apart).tick remaining
  | error failure =>
      obtain ⟨fault, recovered⟩ := ends
      rw [recovered]
      exact sealed_of_recovery rfl

variable [Bus β ε]

/-- The watchdog check finds ten sentinels while the station lets frames pass. -/
def faultsUnsealed (driver : NativeDriver β rx tx) : DriverMove π β ε → Prop
  | .watchdogPending =>
      AllSentinel 10 driver.device.rpu ∧
        (driver.station.controlledPortOpen = true ∨ driver.station.eapolRequired = true)
  | _ => False

theorem sealed_watchdogPending (holds : driver.SealedOutsideReady)
    (harmless : ¬ (AllSentinel 10 driver.device.rpu ∧
      (driver.station.controlledPortOpen = true ∨ driver.station.eapolRequired = true))) :
    (driver.after watchdogPending).SealedOutsideReady := by
  rcases (pollWatchdog_lifecycle 10 driver).ends with ⟨all, ends⟩ | ⟨_, ends⟩
  · have shut : ¬ (driver.station.controlledPortOpen = true ∨
        driver.station.eapolRequired = true) := fun passes => harmless ⟨all, passes⟩
    rw [not_or, Bool.not_eq_true, Bool.not_eq_true] at shut
    have station : (driver.after watchdogPending).station = driver.station :=
      congrArg Prod.snd ends
    intro _
    rw [station]
    exact ⟨shut.1, shut.2⟩
  · exact holds.of_lifecycle ends

theorem sealed_acknowledgeWatchdog (holds : driver.SealedOutsideReady) :
    (driver.after acknowledgeWatchdog).SealedOutsideReady := by
  have run : Post acknowledgeWatchdog driver (fun _ next => next.SealedOutsideReady) := by
    rw [acknowledgeWatchdog, post_bind]
    refine ((keeps_lifecycle_onDevice _).post driver).mono ?_
    intro r first kept
    cases r with
    | error failure => exact holds.of_lifecycle kept
    | ok done =>
        dsimp only
        rw [post_bind]
        refine ((keeps_lifecycle_onDevice _).post first).mono ?_
        intro r second later
        cases r with
        | error failure => exact holds.of_lifecycle (later.trans kept)
        | ok done => exact (post_modify _ _ _).mpr (sealed_of_recovery rfl)
  exact run.ends

variable [Platform π β ρ]

theorem sealed_step (move : DriverMove π β ε) (holds : driver.SealedOutsideReady)
    (harmless : ¬ faultsUnsealed driver move) : (step driver move).SealedOutsideReady := by
  cases move with
  | hardware bus => exact holds.of_lifecycle rfl
  | recover platform load config =>
      exact sealed_of_recovery (recover_lifecycle load config (driver, platform)).ends
  | createStationInterface ifaceindex macAddress interfaceName =>
      exact sealed_command holds (createStationInterface_lifecycle _ _ _ driver)
  | setRegulatory country userHintType force =>
      exact sealed_command holds (runStationCommand_lifecycle _ driver)
  | bringUp => exact sealed_command holds (runStationCommand_lifecycle _ driver)
  | bringDown => exact sealed_command holds (runStationCommand_lifecycle _ driver)
  | startScan request => exact sealed_command holds (runStationCommand_lifecycle _ driver)
  | requestScanResults reason => exact sealed_command holds (runStationCommand_lifecycle _ driver)
  | authenticate request => exact sealed_command holds (runStationCommand_lifecycle _ driver)
  | associate request => exact sealed_command holds (runStationCommand_lifecycle _ driver)
  | setPowerSave state => exact sealed_command holds (runStationCommand_lifecycle _ driver)
  | setPowerSaveTimeout timeoutMs =>
      exact sealed_command holds (runStationCommand_lifecycle _ driver)
  | disconnect reasonCode => exact sealed_command holds (runStationCommand_lifecycle _ driver)
  | waitForInterrupt platform =>
      have kept : Keeps (fun s : NativeDriver β rx tx × π => s.1.lifecycle)
          (waitForInterrupt : Program _ (RecoveryError ε ρ) Unit) :=
        keeps_onField _ fun _ _ => rfl
      exact holds.of_lifecycle (kept (driver, platform))
  | advanceTime elapsedMs => exact sealed_advanceTime holds elapsedMs
  | pollEvent scratchAddress scratch =>
      exact sealed_polled holds (pollEvent_polled scratchAddress driver scratch).ends
  | dispatchMessage message =>
      exact sealed_dispatched holds (dispatchMessage_dispatched (ε := ε) driver message).ends
  | receivePacket event packetIndex output =>
      rcases (receivePacket_lifecycle driver event packetIndex output).ends with kept | ⟨_, began⟩
      · exact holds.of_lifecycle kept
      · exact sealed_of_recovery began
  | transmit wdevId frame dscpTos =>
      exact holds.of_lifecycle (keeps_lifecycle_transmit wdevId frame dscpTos driver)
  | transmitFrame frame dscpTos =>
      have kept : Keeps lifecycle (transmitFrame frame dscpTos :
          Program (NativeDriver β rx tx) (DriverError ε) UInt8) :=
        (keeps_get _).bind fun _ => keeps_lifecycle_transmit _ _ _
      exact holds.of_lifecycle (kept driver)
  | watchdogPending => exact sealed_watchdogPending holds harmless
  | acknowledgeWatchdog => exact sealed_acknowledgeWatchdog holds

end Sealing

/-! ## Runs -/

section Runs
variable [Bus β ε] [Platform π β ρ]

/-- Outside `ready` the port is closed, EAPOL is not required, and every frame is
rejected. -/
def ClosedOutsideReady (driver : NativeDriver β rx tx) : Prop :=
  driver.state ≠ .ready →
    driver.station.controlledPortOpen = false ∧ driver.station.eapolRequired = false ∧
      ∀ wdevId frame dscpTos,
        (resultOf (transmit wdevId frame dscpTos : Program _ (DriverError ε) UInt8)
          driver).isOk = false

omit [Platform π β ρ] in
theorem SealedOutsideReady.closed {driver : NativeDriver β rx tx}
    (holds : driver.SealedOutsideReady) : driver.ClosedOutsideReady := by
  intro apart
  have shut := holds apart
  exact ⟨shut.closed, shut.silent, fun wdevId frame dscpTos =>
    (transmit_rejected driver shut wdevId frame dscpTos).ends.1⟩

theorem faultsUnsealed_breaks {driver : NativeDriver β rx tx} {move : DriverMove π β ε}
    (bad : faultsUnsealed driver move) : ¬ (step driver move).ClosedOutsideReady := by
  cases move with
  | watchdogPending =>
      obtain ⟨all, passes⟩ := bad
      rcases (pollWatchdog_lifecycle 10 driver).ends with ⟨_, ends⟩ | ⟨other, _⟩
      · have state : (step driver (.watchdogPending : DriverMove π β ε)).state = .fault :=
          congrArg Prod.fst ends
        have station : (step driver (.watchdogPending : DriverMove π β ε)).station =
            driver.station := congrArg Prod.snd ends
        intro closed
        obtain ⟨shut, silent, _⟩ := closed (by rw [state]; decide)
        rw [station] at shut silent
        rcases passes with opened | required
        · exact absurd (opened.symm.trans shut) (by decide)
        · exact absurd (required.symm.trans silent) (by decide)
      · exact absurd all other
  | _ => exact absurd bad id

theorem closed_outside_ready_iff (bus : β) (rxBufferSize txBufferSize : Nat)
    (ifaceindex : Int32) (firmwareIndex : Int8) (wdevId : UInt32) {driver : NativeDriver β rx tx}
    (created : new bus rxBufferSize txBufferSize ifaceindex firmwareIndex wdevId = .ok driver)
    (moves : List (DriverMove π β ε)) :
    (∀ visit ∈ visited step driver moves, visit.ClosedOutsideReady) ↔
      ∀ taken ∈ stepsOf step driver moves, ¬ faultsUnsealed taken.1 taken.2 := by
  have fresh : driver.SealedOutsideReady := by
    have cold : driver.station = StationController.new ifaceindex firmwareIndex wdevId :=
      congrArg Prod.snd (lifecycle_new created)
    intro _
    rw [cold]
    exact ⟨rfl, rfl⟩
  exact always_iff_no_bad_step SealedOutsideReady ClosedOutsideReady faultsUnsealed
    (fun _ holds => holds.closed) (fun _ move holds clean => sealed_step move holds clean)
    (fun _ _ _ bad => faultsUnsealed_breaks bad) fresh moves

end Runs

/-! ## A concrete run into an open port -/

section OpenPort

instance : Platform Unit WordBus Empty where
  hardReset := pure ()
  prepareWakeBus := pure ()
  prepareDataBus := pure ()
  waitForInterrupt := pure ()

def sampleMac : Octets 6 := ⟨[2, 0, 0, 0, 0, 2], rfl⟩

def sampleConfig : SystemInitConfig := .new sampleMac (zeroOctets rfParamsLen)

def sampleLoad : Program (Rpu WordBus) (LoadError Empty) FirmwareReport :=
  pure { version := 0, featureFlags := 0 }

def coldDriver : NativeDriver WordBus 8 1 :=
  { device := Device.new { word := readyAddress }
    data :=
      { layout :=
          { rxBufferSize := 1600
            txBufferSize := 1600
            counts := by decide
            sizes := DataPath.sampleSizes_valid
            fits := by decide }
        txInFlight := fun _ => false
        rxPosted := fun _ => false
        nextTx := 0 }
    station := StationController.new 1 0 0
    state := .cold
    ifaceindex := 1
    wdevId := 0
    configuredMac := none }

theorem coldDriver_new : new { word := readyAddress } 1600 1600 1 0 0 = .ok coldDriver := rfl

def initDoneMessage : HostMessage :=
  { resubmit := true, messageType := .system, payload := le32 1 ++ le32 8 }

def carrierOnMessage : HostMessage :=
  { resubmit := true, messageType := .data, payload := le32 4 ++ (le32 12 ++ le32 0) }

def controlMessage (event : UmacEvent) (body : Bytes) : HostMessage :=
  { resubmit := true
    messageType := .umac
    payload := le32 0 ++ (le32 0 ++ (le32 event.number ++ (List.replicate 24 0 ++ body))) }

/-- An answer whose frame carries the access point's address at `addressOffset`. -/
def answerBody (addressOffset : Nat) : Bytes :=
  le32 mlmeFrameValid ++ (List.replicate 20 0 ++ (le32 30 ++
    (List.replicate addressOffset 0 ++
      (StationController.accessPoint.1 ++ List.replicate (405 - addressOffset) 0))))

/-- Recovery, bring-up and an open association whose carrier is on. -/
def openPort : List (DriverMove Unit WordBus Empty) :=
  [.recover () sampleLoad sampleConfig,
    .dispatchMessage initDoneMessage,
    .createStationInterface 1 sampleMac [],
    .bringUp,
    .dispatchMessage (controlMessage .interfaceFlagsStatus (le32 0)),
    .authenticate StationController.openAuthentication,
    .dispatchMessage (controlMessage .authenticate (answerBody 10)),
    .associate StationController.openAssociation,
    .dispatchMessage carrierOnMessage]

theorem openPort_opens : (runMoves step coldDriver openPort).station.controlledPortOpen = true := by
  decide +kernel

/-- On a bus that reads as the sentinel every check of the watchdog reads it. -/
theorem allSentinel_wordBus (reads : Nat) :
    AllSentinel reads ({ bus := { word := watchdogSentinel } } : Rpu WordBus) := by
  induction reads with
  | zero => trivial
  | succ reads hypothesis => exact ⟨by decide +kernel, hypothesis⟩

/-- The moves by which the bus is lost and the watchdog check notices. -/
def lostWatchdog : List (DriverMove Unit WordBus Empty) :=
  [.hardware { word := watchdogSentinel }, .watchdogPending]

theorem lostWatchdog_breaks {driver : NativeDriver WordBus 8 1}
    (opened : driver.station.controlledPortOpen = true) :
    ¬ (runMoves step driver lostWatchdog).ClosedOutsideReady := by
  have bad (lost : NativeDriver WordBus 8 1)
      (rpu : lost.device.rpu = { bus := { word := watchdogSentinel } })
      (station : lost.station = driver.station) :
      faultsUnsealed lost (.watchdogPending : DriverMove Unit WordBus Empty) := by
    rw [faultsUnsealed, rpu, station]
    exact ⟨allSentinel_wordBus 10, .inl opened⟩
  rw [lostWatchdog, runMoves, runMoves, runMoves]
  exact faultsUnsealed_breaks (bad _ rfl rfl)

/-- The watchdog check moves to `fault` behind an open port. -/
theorem watchdog_fault_keeps_port_open :
    ¬ ∀ visit ∈ visited step coldDriver (openPort ++ lostWatchdog), visit.ClosedOutsideReady := by
  intro always
  have last := always _ (runMoves_mem_visited step coldDriver (openPort ++ lostWatchdog))
  rw [runMoves_append] at last
  exact lostWatchdog_breaks openPort_opens last

/-- A cold driver may find ten sentinels: its station is sealed. -/
theorem cold_watchdog_fault_is_closed :
    (∀ visit ∈ visited step coldDriver lostWatchdog, visit.ClosedOutsideReady) ↔
      ∀ taken ∈ stepsOf step coldDriver lostWatchdog, ¬ faultsUnsealed taken.1 taken.2 :=
  closed_outside_ready_iff { word := readyAddress } 1600 1600 1 0 0 coldDriver_new lostWatchdog

end OpenPort

end NativeDriver

end Nrf7002
