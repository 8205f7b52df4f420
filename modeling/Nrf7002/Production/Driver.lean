import Nrf7002.Runtime.Security

/-! # The fail-closed production driver

`MissionCriticalDriver` classifies the errors of the portable driver and moves it into
recovery where an error leaves the ownership of a queue or the state of firmware open.
`Wpa2StationDriver` joins it with the WPA2 coordinator. -/

set_option autoImplicit false

namespace Nrf7002
open Foundation

inductive ProductionError (ε : Type) where
  | driver (error : DriverError ε)
  | station (error : StationError ε)
  | invalidEthernetFrame
  | controlledPortClosed (etherType : UInt16)
  deriving DecidableEq

inductive DriverOperation where
  | control
  | event
  | receive
  | transmit
  | watchdog
  deriving DecidableEq

/-- The driver that keeps the low-level state private. -/
structure MissionCriticalDriver (β : Type) (rx tx : Nat) where
  inner : NativeDriver β rx tx

/-! ## Errors that require recovery -/

section Classification
variable {ε : Type}

def deviceErrorRequiresRecovery : DeviceError ε → Bool
  | .rpu _ | .notInitialized | .invalidQueueMap | .commandDeliveryUncertain | .recoveryRequired
  | .eventTooLarge _ _ => true
  | _ => false

def stationErrorRequiresRecovery : StationError ε → Bool
  | .device error => deviceErrorRequiresRecovery error
  | .fault _ => true
  | .protocol _ | .invalidState _ _ | .interfaceAlreadyCreated | .interfaceNotCreated => false

def inputProtocolErrorRequiresRecovery : DriverOperation → Bool
  | .receive | .event => true
  | _ => false

def dataErrorRequiresRecovery (operation : DriverOperation) : DataError ε → Bool
  | .device error => deviceErrorRequiresRecovery error
  | .rpu _ | .queueOwnershipUncertain _ => true
  | .receiveDescriptorBusy _ => true
  | .protocol _ => inputProtocolErrorRequiresRecovery operation
  | .noTransmitToken | .outputTooSmall _ _ => false
  | .stopped => false

def simpleDriverErrorRequiresRecovery (operation : DriverOperation) : DriverError ε → Bool
  | .dataProtocol _ | .firmware _ | .protocol _ | .unexpectedEventForState _
  | .invalidWatchdogStatus => true
  | .wrongInterface _ _ => inputProtocolErrorRequiresRecovery operation
  | .invalidState _ _ | .invalidStationState _ _ | .configurationMismatch | .frameTooShort
  | .controlledPortClosed _ _ => false
  -- nested driver errors are handled first
  | .device _ | .data _ | .station _ => false

def driverErrorRequiresRecovery (operation : DriverOperation) : DriverError ε → Bool
  | .device error => deviceErrorRequiresRecovery error
  | .data error => dataErrorRequiresRecovery operation error
  | .station error => stationErrorRequiresRecovery error
  | other => simpleDriverErrorRequiresRecovery operation other

def receiveErrorRequiresRecovery (error : DriverError ε) : Bool :=
  driverErrorRequiresRecovery .receive error

end Classification

namespace MissionCriticalDriver
variable {β ε π ρ α δ : Type} {rx tx : Nat}

def new (bus : β) (rxBufferSize txBufferSize : Nat) (ifaceindex : Int32) (firmwareIndex : Int8)
    (wdevId : UInt32) : Except DataLayoutError (MissionCriticalDriver β rx tx) := do
  let inner ← NativeDriver.new bus rxBufferSize txBufferSize ifaceindex firmwareIndex wdevId
  return { inner }

def onInner (x : Program (NativeDriver β rx tx) δ α) :
    Program (MissionCriticalDriver β rx tx) δ α :=
  onField (·.inner) (fun inner driver => { driver with inner }) x

def onInnerBuffer (x : Program (NativeDriver β rx tx × Bytes) δ α) :
    Program (MissionCriticalDriver β rx tx × Bytes) δ α :=
  onField (fun s => (s.1.inner, s.2)) (fun part s => ({ s.1 with inner := part.1 }, part.2)) x

def onInnerPlatform (x : Program (NativeDriver β rx tx × π) δ α) :
    Program (MissionCriticalDriver β rx tx × π) δ α :=
  onField (fun s => (s.1.inner, s.2)) (fun part s => ({ s.1 with inner := part.1 }, part.2)) x

/-- A method of the production driver. -/
abbrev Method (β : Type) (rx tx : Nat) (ε α : Type) :=
  Program (MissionCriticalDriver β rx tx) (ProductionError ε) α

def setStationTimeouts (timeouts : StationTimeouts) (driver : MissionCriticalDriver β rx tx) :
    MissionCriticalDriver β rx tx :=
  { driver with inner :=
      { driver.inner with station := driver.inner.station.setTimeouts timeouts } }

/-- Limits outside the bounds change nothing. -/
def setFragmentLimits (commandLen eventLen : Nat) (driver : MissionCriticalDriver β rx tx) :
    MissionCriticalDriver β rx tx :=
  match driver.inner.device.setFragmentLimits commandLen eventLen with
  | some device => { driver with inner := { driver.inner with device } }
  | none => driver

def enterRecovery : Method β rx tx ε Unit :=
  onInner (modify NativeDriver.enterRecovery)

/-! ## The end of an operation -/

def ensureReady : Method β rx tx ε Unit := do
  let driver ← get
  if driver.inner.state = .ready then pure ()
  else throw (.driver (.invalidState driver.inner.state .ready))

def finishStation : Except (StationError ε) α → Method β rx tx ε α
  | .ok value => return value
  | .error error =>
      if stationErrorRequiresRecovery error then do
        enterRecovery
        throw (.station error)
      else throw (.station error)

def finishDriver (operation : DriverOperation) : Except (DriverError ε) α → Method β rx tx ε α
  | .ok value => return value
  | .error error =>
      if driverErrorRequiresRecovery operation error then do
        enterRecovery
        throw (.driver error)
      else throw (.driver error)

def frameAllowed (station : StationController) (etherType : UInt16) : Bool :=
  if station.controlledPortOpen then true
  else etherType = eapolEthertype && station.eapolRequired

def ethernetType (frame : Bytes) : Except (ProductionError ε) UInt16 :=
  if frame.length < 14 then .error .invalidEthernetFrame else .ok (readBeU16 frame 12)

/-- A frame that the port rejects is wiped from the caller's buffer. -/
def finishReceive : Except (DriverError ε) ReceivedFrame →
    Program (MissionCriticalDriver β rx tx × Bytes) (ProductionError ε) ReceivedFrame
  | .ok frame => return frame
  | .error (.controlledPortClosed _ etherType) => do
      modify fun s => (s.1, List.replicate s.2.length 0)
      throw (.controlledPortClosed etherType)
  | .error error =>
      if receiveErrorRequiresRecovery error then do
        besideBuffer enterRecovery
        throw (.driver error)
      else throw (.driver error)

def enforceReceivedFrame (frame : ReceivedFrame) :
    Program (MissionCriticalDriver β rx tx × Bytes) (ProductionError ε) ReceivedFrame := do
  let (driver, _) ← get
  if frameAllowed driver.inner.station frame.etherType then return frame
  else do
    modify fun s => (s.1, List.replicate frame.len 0 ++ s.2.drop frame.len)
    throw (.controlledPortClosed frame.etherType)

/-! ## Operations -/

/-- The macro `run_station_command`. -/
def runStationCommand (command : StationController.Command β ε Unit) : Method β rx tx ε Unit := do
  ensureReady
  let result ← attempt (onInner (NativeDriver.onSecurityParts command))
  finishStation result

def advanceTime (elapsedMs : UInt32) : Method β rx tx ε Unit := do
  let result ← attempt (onInner (NativeDriver.advanceTime elapsedMs))
  finishDriver .control result

section Hardware
variable [Bus β ε]

def recover [Platform π β ρ] (load : Program (Rpu β) (LoadError ε) FirmwareReport)
    (config : SystemInitConfig) :
    Program (MissionCriticalDriver β rx tx × π) (RecoveryError ε ρ) FirmwareReport :=
  onInnerPlatform (NativeDriver.recover load config)

omit [Bus β ε] in
def waitForInterrupt [Platform π β ρ] :
    Program (MissionCriticalDriver β rx tx × π) (RecoveryError ε ρ) Unit :=
  onInnerPlatform NativeDriver.waitForInterrupt

def createStationInterface (macAddress : Octets 6) (interfaceName : Bytes) :
    Method β rx tx ε Unit :=
  runStationCommand (StationController.createInterface macAddress interfaceName)

def setRegulatory (country : UInt8 × UInt8) (userHintType : UInt32) (force : Bool) :
    Method β rx tx ε Unit :=
  runStationCommand (StationController.setRegulatory country userHintType force)

def bringUp : Method β rx tx ε Unit := runStationCommand StationController.bringUp

def bringDown : Method β rx tx ε Unit := runStationCommand StationController.bringDown

def startScan (request : ScanRequest) : Method β rx tx ε Unit :=
  runStationCommand (StationController.startScan request)

def requestScanResults (reason : ScanReason) : Method β rx tx ε Unit :=
  runStationCommand (StationController.requestScanResults reason)

def authenticate (request : AuthenticationRequest) : Method β rx tx ε Unit :=
  runStationCommand (StationController.authenticate request)

def associate (request : AssociationRequest) : Method β rx tx ε Unit :=
  runStationCommand (StationController.associate request)

def setPowerSave (state : PowerSaveState) : Method β rx tx ε Unit :=
  runStationCommand (StationController.setPowerSave state)

def setPowerSaveTimeout (timeoutMs : Int32) : Method β rx tx ε Unit :=
  runStationCommand (StationController.setPowerSaveTimeout timeoutMs)

def disconnect (reasonCode : UInt16) : Method β rx tx ε Unit :=
  runStationCommand (StationController.disconnect reasonCode)

/-- Polls and dispatches one complete firmware event. -/
def pollEvent (scratchAddress : Nat) :
    Program (MissionCriticalDriver β rx tx × Bytes) (ProductionError ε) (Option DriverEvent) := do
  let result ← attempt (onInnerBuffer (NativeDriver.pollEvent scratchAddress))
  besideBuffer (finishDriver .event result)

/-- Reads one packet and drops it when the controlled port rejects it. -/
def receivePacket (event : RxEvent) (packetIndex : Nat) :
    Program (MissionCriticalDriver β rx tx × Bytes) (ProductionError ε) ReceivedFrame := do
  besideBuffer ensureReady
  let result ← attempt (onInnerBuffer (NativeDriver.receivePacket event packetIndex))
  let frame ← finishReceive result
  enforceReceivedFrame frame

/-- Sends one Ethernet frame only when the controlled port permits it. -/
def transmit (wdevId : UInt8) (frame : Bytes) (dscpTos : UInt16) : Method β rx tx ε UInt8 := do
  ensureReady
  let etherType ← liftResult (ethernetType frame)
  let driver ← get
  if ¬ frameAllowed driver.inner.station etherType then throw (.controlledPortClosed etherType)
  else do
    let result ← attempt (onInner (NativeDriver.transmit wdevId frame dscpTos))
    finishDriver .transmit result

def watchdogPending : Method β rx tx ε Bool := do
  let result ← attempt (onInner NativeDriver.watchdogPending)
  finishDriver .watchdog result

def acknowledgeWatchdog : Method β rx tx ε Unit := do
  let result ← attempt (onInner NativeDriver.acknowledgeWatchdog)
  finishDriver .watchdog result

end Hardware

end MissionCriticalDriver

/-! ## The WPA2 station -/

inductive SecureProductionError (ε : Type) where
  | production (error : ProductionError ε)
  | wpa2 (error : Wpa2RuntimeError ε)
  | supplicant (error : Wpa2Error)
  deriving DecidableEq

/-- One driver event and its WPA2 progress. -/
structure SecureDriverEvent where
  event : DriverEvent
  security : Wpa2Progress
  deriving DecidableEq

inductive SecureReceive where
  | data (frame : ReceivedFrame)
  | eapol (progress : Wpa2Progress)
  deriving DecidableEq

structure Wpa2StationDriver (β : Type) (rx tx : Nat) where
  driver : MissionCriticalDriver β rx tx
  security : Wpa2Runtime

def expectedSecurityCommand : Wpa2RuntimeState → Option UInt32
  | .awaitingPairwiseKeyStatus | .awaitingGroupKeyStatus | .awaitingGroupRekeyStatus =>
      some UmacCommand.newKey.number
  | .awaitingDefaultGroupKeyStatus | .awaitingDefaultGroupRekeyStatus =>
      some UmacCommand.setKey.number
  | .awaitingAuthorizationStatus => some UmacCommand.setStation.number
  | _ => none

def controlEventIsExpected (state : Wpa2RuntimeState) : ControlEvent → Bool
  | .commandStatus _ command _ => expectedSecurityCommand state = some command
  | _ => false

def transmitDoneIsExpected (state : Wpa2RuntimeState) (event : TxDoneEvent) : Bool :=
  match state with
  | .awaitingEapolTransmit token _ => token = event.token
  | _ => false

namespace Wpa2StationDriver
variable {β ε α : Type} {rx tx : Nat}

/-- A method of the WPA2 station. -/
abbrev Method (β : Type) (rx tx : Nat) (ε α : Type) :=
  Program (Wpa2StationDriver β rx tx) (SecureProductionError ε) α

def new (driver : MissionCriticalDriver β rx tx) (supplicant : Wpa2Supplicant) (wdevId : UInt8) :
    Wpa2StationDriver β rx tx :=
  { driver, security := Wpa2Runtime.new supplicant wdevId }

def setWpa2Timeouts (timeouts : Wpa2Timeouts) (station : Wpa2StationDriver β rx tx) :
    Wpa2StationDriver β rx tx :=
  { station with security := station.security.setTimeouts timeouts }

/-- The coordinator next to the driver that its calls borrow. -/
def system (station : Wpa2StationDriver β rx tx) : Wpa2System β rx tx :=
  { runtime := station.security, driver := station.driver.inner }

def setSystem (system : Wpa2System β rx tx) (station : Wpa2StationDriver β rx tx) :
    Wpa2StationDriver β rx tx :=
  { station with security := system.runtime, driver := { inner := system.driver } }

def onSecurity (x : Wpa2Runtime.Method β rx tx ε α) : Method β rx tx ε α :=
  onField system setSystem (mapError .wpa2 x)

def onDriver (x : MissionCriticalDriver.Method β rx tx ε α) : Method β rx tx ε α :=
  onField (·.driver) (fun driver station => { station with driver }) (mapError .production x)

def onDriverBuffer (x : Program (MissionCriticalDriver β rx tx × Bytes) (ProductionError ε) α) :
    Program (Wpa2StationDriver β rx tx × Bytes) (SecureProductionError ε) α :=
  onField (fun s => (s.1.driver, s.2)) (fun part s => ({ s.1 with driver := part.1 }, part.2))
    (mapError .production x)

/-- Starts a new pairwise exchange with a fresh nonce. -/
def restartPairwise (supplicantNonce : Octets 32) : Method β rx tx ε Unit :=
  onField (·.security) (fun security station => { station with security })
    (mapError .supplicant (Wpa2Runtime.restartPairwise supplicantNonce))

/-- Advances both station and WPA2 deadlines. -/
def advanceTime (elapsedMs : UInt32) : Method β rx tx ε Unit := do
  onDriver (MissionCriticalDriver.advanceTime elapsedMs)
  onSecurity (Wpa2Runtime.advanceTime elapsedMs)

section Hardware
variable [Bus β ε]

def applyControlEvent (control : ControlEvent) : Method β rx tx ε Wpa2Progress := do
  let station ← get
  if ¬ controlEventIsExpected station.security.state control then return .noChange
  else onSecurity (Wpa2Runtime.onControlEvent control)

def applyTransmitDone (done : TxDoneEvent) : Method β rx tx ε Wpa2Progress := do
  let station ← get
  if ¬ transmitDoneIsExpected station.security.state done then return .noChange
  else onSecurity (Wpa2Runtime.onTransmitDone done)

def applySecurityEvent : DriverEvent → Method β rx tx ε Wpa2Progress
  | .control control => applyControlEvent control
  | .transmitDone done => applyTransmitDone done
  | .data _ => onSecurity Wpa2Runtime.refreshCarrier
  | _ => return .noChange

/-- Polls one firmware event and applies all relevant WPA2 transitions. -/
def pollEvent (scratchAddress : Nat) :
    Program (Wpa2StationDriver β rx tx × Bytes) (SecureProductionError ε)
      (Option SecureDriverEvent) := do
  match ← onDriverBuffer (MissionCriticalDriver.pollEvent scratchAddress) with
  | none => return none
  | some event => do
      let security ← besideBuffer (applySecurityEvent event)
      return some { event, security }

/-- EAPOL packets are consumed by the WPA2 state machine and wiped. -/
def finishReceivedPacket (crypto : Wpa2Crypto) (frame : ReceivedFrame) :
    Program (Wpa2StationDriver β rx tx × Bytes) (SecureProductionError ε) SecureReceive := do
  if frame.etherType ≠ eapolEthertype then return .data frame
  else do
    let (_, output) ← get
    let result ← attempt (besideBuffer
      (onSecurity (Wpa2Runtime.onEthernetFrame crypto (output.take frame.len))))
    modify fun s => (s.1, List.replicate frame.len 0 ++ s.2.drop frame.len)
    let progress ← liftResult result
    return .eapol progress

def receivePacket (crypto : Wpa2Crypto) (event : RxEvent) (packetIndex : Nat) :
    Program (Wpa2StationDriver β rx tx × Bytes) (SecureProductionError ε) SecureReceive := do
  let frame ← onDriverBuffer (MissionCriticalDriver.receivePacket event packetIndex)
  finishReceivedPacket crypto frame

/-- Sends one normal Ethernet frame through the authorized port. -/
def transmit (wdevId : UInt8) (frame : Bytes) (dscpTos : UInt16) : Method β rx tx ε UInt8 :=
  onDriver (MissionCriticalDriver.transmit wdevId frame dscpTos)

end Hardware

end Wpa2StationDriver

end Nrf7002
