import Nrf7002.Data.Path
import Nrf7002.Firmware.Bundle
import Nrf7002.Station.Controller
import Nrf7002.System

/-! # The top-level driver

Boot and recovery, event dispatch, the watchdog and the controlled port.  The driver
owns the device, the packet RAM and the station; its own state says whether firmware
has reported that it is up. -/

set_option autoImplicit false

namespace Nrf7002
open Foundation

def defaultWakeAttempts : Nat := 1000
def rpuRegWatchdogStatus : UInt32 := 0xa4000004
def rpuRegWatchdogClear : UInt32 := 0xa400000c
def rpuRegWatchdogTimer : UInt32 := 0xa400004c
def rpuWatchdogBit : UInt32 := (1 : UInt32) <<< 1
def rpuWatchdogReload : UInt32 := 0x00ffffff

inductive DriverState where
  | cold
  | recovering
  | waitingForSystemInit
  | ready
  | fault
  deriving DecidableEq, Repr

inductive DriverEvent where
  | system (event : SystemEvent)
  | control (event : ControlEvent)
  | data (event : DataEvent)
  | transmitDone (event : TxDoneEvent)
  | receive (event : RxEvent)
  | supplicant (payload : Bytes)
  deriving DecidableEq

/-! ## Errors -/

inductive DriverError (ε : Type) where
  | device (error : DeviceError ε)
  | data (error : DataError ε)
  | dataProtocol (error : DataProtocolError)
  | firmware (error : LoadError ε)
  | protocol (error : ProtocolError)
  | station (error : StationError ε)
  | invalidState (current required : DriverState)
  | invalidStationState (current required : StationState)
  | configurationMismatch
  | wrongInterface (expected received : UInt8)
  | frameTooShort
  | controlledPortClosed (state : StationState) (etherType : UInt16)
  | unexpectedEventForState (state : DriverState)
  | invalidWatchdogStatus
  deriving DecidableEq

inductive RecoveryError (ε ρ : Type) where
  | platform (error : ρ)
  | driver (error : DriverError ε)
  deriving DecidableEq

/-- The board services.  They act on the board and on the hardware behind the bus. -/
class Platform (π β : Type) (ρ : outParam Type) where
  hardReset : Program (π × β) ρ Unit
  prepareWakeBus : Program (π × β) ρ Unit
  prepareDataBus : Program (π × β) ρ Unit
  waitForInterrupt : Program (π × β) ρ Unit

structure NativeDriver (β : Type) (rx tx : Nat) where
  device : Device β
  data : DataPath rx tx
  station : StationController
  state : DriverState
  ifaceindex : Int32
  wdevId : UInt8
  configuredMac : Option (Octets 6)

def ethernetType (frame : Bytes) : Option UInt16 :=
  if frame.length < ethernetHeaderLen then none else some (readBeU16 frame 12)

namespace NativeDriver
variable {β ε π ρ α : Type} {rx tx : Nat}

def new (bus : β) (rxBufferSize txBufferSize : Nat) (ifaceindex : Int32) (firmwareIndex : Int8)
    (wdevId : UInt32) : Except DataLayoutError (NativeDriver β rx tx) := do
  if 0xff < wdevId then throw .invalidCapacity
  let data ← DataPath.new rxBufferSize txBufferSize
  return {
    device := Device.new bus
    data
    station := StationController.new ifaceindex firmwareIndex wdevId
    state := .cold
    ifaceindex
    wdevId := wdevId.toUInt8
    configuredMac := none }

def onDevice (x : Program (Device β) (DeviceError ε) α) :
    Program (NativeDriver β rx tx) (DriverError ε) α :=
  onField (·.device) (fun device driver => { driver with device }) (mapError .device x)

def onRpu (x : Program (Rpu β) (RpuError ε) α) :
    Program (NativeDriver β rx tx) (DriverError ε) α :=
  onDevice (Device.onRpu x)

/-- The packet RAM next to the device whose queues it uses. -/
def link (driver : NativeDriver β rx tx) : DataLink β rx tx :=
  { device := driver.device, path := driver.data }

def setLink (link : DataLink β rx tx) (driver : NativeDriver β rx tx) : NativeDriver β rx tx :=
  { driver with device := link.device, data := link.path }

def onLink (x : Program (DataLink β rx tx) (DataError ε) α) :
    Program (NativeDriver β rx tx) (DriverError ε) α :=
  onField link setLink (mapError .data x)

/-- The device and the station, for coordinated control operations. -/
def onSecurityParts (x : Program (StationController × Device β) (StationError ε) α) :
    Program (NativeDriver β rx tx) (StationError ε) α :=
  onField (fun driver => (driver.station, driver.device))
    (fun parts driver => { driver with station := parts.1, device := parts.2 }) x

/-- Moves the complete runtime into recovery. -/
def enterRecovery (driver : NativeDriver β rx tx) : NativeDriver β rx tx :=
  { driver with
    station := driver.station.beginRecovery
    configuredMac := none
    state := .recovering }

/-- A failure that moves the runtime into recovery. -/
def recoverWith (failure : DriverError ε) : Program (NativeDriver β rx tx) (DriverError ε) α := do
  modify enterRecovery
  throw failure

def requireState (required : DriverState) : Program (NativeDriver β rx tx) (DriverError ε) Unit := do
  let driver ← get
  if driver.state = required then pure () else throw (.invalidState driver.state required)

def portAllows (station : StationController) (etherType : UInt16) : Bool :=
  if etherType = eapolEthertype then station.eapolRequired else station.controlledPortOpen

def requireControlledPort (etherType : UInt16) :
    Program (NativeDriver β rx tx) (DriverError ε) Unit := do
  let driver ← get
  if portAllows driver.station etherType then pure ()
  else throw (.controlledPortClosed driver.station.state etherType)

/-! ## Boot and recovery -/

section Recovery

def macIsValid (mac : Octets 6) : Bool :=
  mac.1 ≠ List.replicate 6 0 && mac.1 ≠ List.replicate 6 0xff && byteAt mac.1 0 &&& 1 = 0

def extraPoolsAreEmpty (config : SystemInitConfig) : Bool :=
  [config.rxPools.2.1, config.rxPools.2.2].all fun pool =>
    pool.bufferSize ||| pool.bufferCount = 0

def validateSystemConfig (driver : NativeDriver β rx tx) (config : SystemInitConfig) :
    Except (DriverError ε) Unit :=
  if config.wdevId = driver.wdevId.toUInt32 ∧ macIsValid config.macAddress
      ∧ config.rxPools.1.bufferSize.toNat = driver.data.layout.rxBufferSize
      ∧ config.rxPools.1.bufferCount.toNat = rx ∧ extraPoolsAreEmpty config then .ok ()
  else .error .configurationMismatch

/-- Runs a driver step next to the board. -/
def besidePlatform (x : Program (NativeDriver β rx tx) (DriverError ε) α) :
    Program (NativeDriver β rx tx × π) (RecoveryError ε ρ) α :=
  onField Prod.fst (fun driver s => (driver, s.2)) (mapError .driver x)

/-- A board service acts on the board and on the hardware behind the bus. -/
def onPlatform (x : Program (π × β) ρ α) :
    Program (NativeDriver β rx tx × π) (RecoveryError ε ρ) α :=
  onField (fun s => (s.2, s.1.device.rpu.bus))
    (fun parts s =>
      ({ s.1 with device := { s.1.device with rpu := { bus := parts.2 } } }, parts.1))
    (mapError .platform x)

def resetQueues : Program (NativeDriver β rx tx) (DriverError ε) Unit :=
  modify fun driver =>
    { driver with
      device := driver.device.resetQueueState
      data := driver.data.resetAfterRpuReset }

def loadFirmware (load : Program (Rpu β) (LoadError ε) FirmwareReport) :
    Program (NativeDriver β rx tx) (DriverError ε) FirmwareReport :=
  onField (·.device.rpu) (fun rpu driver => { driver with device := { driver.device with rpu } })
    (mapError .firmware load)

/-- The initialization message, encoded in a local buffer. -/
def systemInitMessage (config : SystemInitConfig) :
    Program (NativeDriver β rx tx) (DriverError ε) Bytes := do
  let (len, message) ← withLocal (List.replicate systemInitMessageLen 0)
    (onField Prod.snd (fun message s => (s.1, message))
      (mapError .protocol (encodeSystemInit config)))
  return message.take len

variable [Bus β ε] [Platform π β ρ]

/-- The bring-up sequence.  A failure to disable the interrupts is ignored. -/
def bringUpHardware (load : Program (Rpu β) (LoadError ε) FirmwareReport)
    (config : SystemInitConfig) :
    Program (NativeDriver β rx tx × π) (RecoveryError ε ρ) FirmwareReport := do
  let (driver, _) ← get
  besidePlatform (liftResult (driver.validateSystemConfig config))
  let _ ← besidePlatform (attempt (onDevice Device.disableInterrupts))
  onPlatform Platform.hardReset
  besidePlatform resetQueues
  onPlatform Platform.prepareWakeBus
  besidePlatform (onRpu (Rpu.wake defaultWakeAttempts))
  onPlatform Platform.prepareDataBus
  besidePlatform (onRpu Rpu.enableClocks)
  let report ← besidePlatform (loadFirmware load)
  let _ ← besidePlatform (onDevice Device.initializeQueues)
  besidePlatform (onLink DataPath.postAllRx)
  besidePlatform (onDevice Device.enableInterrupts)
  let message ← besidePlatform (systemInitMessage config)
  besidePlatform (onDevice (Device.sendControlReliable message))
  return report

def beginRecovery : Program (NativeDriver β rx tx × π) (RecoveryError ε ρ) Unit :=
  modify fun s =>
    ({ s.1 with
       state := .recovering, station := s.1.station.beginRecovery, configuredMac := none }, s.2)

/-- Performs a hard reset, loads firmware with `load`, initializes the queues and
sends the system initialization.  The driver becomes ready only when firmware
reports that the initialization is done. -/
def recover (load : Program (Rpu β) (LoadError ε) FirmwareReport) (config : SystemInitConfig) :
    Program (NativeDriver β rx tx × π) (RecoveryError ε ρ) FirmwareReport := do
  beginRecovery
  match ← attempt (bringUpHardware load config) with
  | .ok report =>
      modify fun s =>
        ({ s.1 with
           configuredMac := some config.macAddress, state := .waitingForSystemInit }, s.2)
      return report
  | .error failure =>
      modify fun s => ({ s.1 with state := .fault }, s.2)
      throw failure

omit [Bus β ε] in
def waitForInterrupt : Program (NativeDriver β rx tx × π) (RecoveryError ε ρ) Unit :=
  onPlatform Platform.waitForInterrupt

end Recovery

/-! ## Station commands -/

section StationCommands
variable [Bus β ε]

/-- The macro `run_native_station_command`. -/
def runStationCommand (command : StationController.Command β ε Unit) :
    Program (NativeDriver β rx tx) (DriverError ε) Unit := do
  requireState .ready
  mapError .station (onSecurityParts command)

def createStationInterface (ifaceindex : Int32) (macAddress : Octets 6) (interfaceName : Bytes) :
    Program (NativeDriver β rx tx) (DriverError ε) Unit := do
  requireState .ready
  let driver ← get
  if ifaceindex ≠ driver.ifaceindex ∨ driver.configuredMac ≠ some macAddress then
    throw .configurationMismatch
  else runStationCommand (StationController.createInterface macAddress interfaceName)

def setRegulatory (country : UInt8 × UInt8) (userHintType : UInt32) (force : Bool) :
    Program (NativeDriver β rx tx) (DriverError ε) Unit :=
  runStationCommand (StationController.setRegulatory country userHintType force)

def bringUp : Program (NativeDriver β rx tx) (DriverError ε) Unit :=
  runStationCommand StationController.bringUp

def bringDown : Program (NativeDriver β rx tx) (DriverError ε) Unit :=
  runStationCommand StationController.bringDown

def startScan (request : ScanRequest) : Program (NativeDriver β rx tx) (DriverError ε) Unit :=
  runStationCommand (StationController.startScan request)

def requestScanResults (reason : ScanReason) :
    Program (NativeDriver β rx tx) (DriverError ε) Unit :=
  runStationCommand (StationController.requestScanResults reason)

def authenticate (request : AuthenticationRequest) :
    Program (NativeDriver β rx tx) (DriverError ε) Unit :=
  runStationCommand (StationController.authenticate request)

def associate (request : AssociationRequest) :
    Program (NativeDriver β rx tx) (DriverError ε) Unit :=
  runStationCommand (StationController.associate request)

def setPowerSave (state : PowerSaveState) :
    Program (NativeDriver β rx tx) (DriverError ε) Unit :=
  runStationCommand (StationController.setPowerSave state)

def setPowerSaveTimeout (timeoutMs : Int32) :
    Program (NativeDriver β rx tx) (DriverError ε) Unit :=
  runStationCommand (StationController.setPowerSaveTimeout timeoutMs)

def disconnect (reasonCode : UInt16) : Program (NativeDriver β rx tx) (DriverError ε) Unit :=
  runStationCommand (StationController.disconnect reasonCode)

end StationCommands

/-! ## Deadlines and events -/

section Events

/-- Runs a handler of the station; its failure moves the runtime into recovery. -/
def orRecover (x : Program StationController (StationError ε) α) :
    Program (NativeDriver β rx tx) (DriverError ε) α := do
  match ← attempt (onField (·.station) (fun station driver => { driver with station }) x) with
  | .ok value => return value
  | .error failure => recoverWith (.station failure)

def advanceTime (elapsedMs : UInt32) : Program (NativeDriver β rx tx) (DriverError ε) Unit :=
  orRecover (mapError .fault (StationController.advanceTime elapsedMs))

def applySystemEvent : SystemEvent → Program (NativeDriver β rx tx) (DriverError ε) Unit
  | .initDone => do
      let driver ← get
      if driver.state = .waitingForSystemInit then
        set { driver with station := driver.station.recoveryComplete, state := .ready }
      else recoverWith (.unexpectedEventForState driver.state)
  | .deinitDone => do
      let driver ← get
      recoverWith (.unexpectedEventForState driver.state)
  | _ => pure ()

def dispatchSystemMessage (message : HostMessage) :
    Program (NativeDriver β rx tx) (DriverError ε) DriverEvent := do
  let event ← liftResult ((parseSystemEvent message).mapError .protocol)
  applySystemEvent event
  return .system event

def dispatchControlMessage (message : HostMessage) :
    Program (NativeDriver β rx tx) (DriverError ε) DriverEvent := do
  requireState .ready
  let event ← liftResult ((parseControlEvent message).mapError .protocol)
  orRecover (StationController.handleControlEvent event)
  return .control event

def dispatchTransmitDone (message : HostMessage) :
    Program (NativeDriver β rx tx) (DriverError ε) DriverEvent := do
  let event ← liftResult ((TxDoneEvent.parse message).mapError .dataProtocol)
  onField (·.data) (fun data driver => { driver with data })
    (mapError .dataProtocol (DataPath.completeTx event.token))
  return .transmitDone event

def dispatchReceive (message : HostMessage) :
    Program (NativeDriver β rx tx) (DriverError ε) DriverEvent := do
  let event ← liftResult ((RxEvent.parse message).mapError .dataProtocol)
  return .receive event

def dispatchStationData (event : DataEvent) :
    Program (NativeDriver β rx tx) (DriverError ε) DriverEvent := do
  orRecover (StationController.handleDataEvent event)
  return .data event

def dispatchDataMessage (message : HostMessage) :
    Program (NativeDriver β rx tx) (DriverError ε) DriverEvent := do
  requireState .ready
  let event ← liftResult ((classifyDataEvent message).mapError .dataProtocol)
  match event with
  | .transmitDone _ _ => dispatchTransmitDone message
  | .receive => dispatchReceive message
  | event => dispatchStationData event

def dispatchSupplicantMessage (message : HostMessage) :
    Program (NativeDriver β rx tx) (DriverError ε) DriverEvent := do
  requireState .ready
  return .supplicant message.payload

/-- Dispatches one parsed host message. -/
def dispatchMessage (message : HostMessage) :
    Program (NativeDriver β rx tx) (DriverError ε) DriverEvent :=
  match message.messageType with
  | .system => dispatchSystemMessage message
  | .umac => dispatchControlMessage message
  | .data => dispatchDataMessage message
  | .supplicant => dispatchSupplicantMessage message

/-- Polls, parses and applies one firmware event. -/
def pollEvent [Bus β ε] (scratchAddress : Nat) :
    Program (NativeDriver β rx tx × Bytes) (DriverError ε) (Option DriverEvent) := do
  let (driver, _) ← get
  if driver.device.recoveryRequired then besideBuffer (recoverWith (.device .recoveryRequired))
  else
    match ← onField (fun s => (s.1.device, s.2))
        (fun part s => ({ s.1 with device := part.1 }, part.2))
        (mapError .device (Device.tryReadEvent scratchAddress)) with
    | none => return none
    | some message => some <$> besideBuffer (dispatchMessage message)

end Events

/-! ## Data frames -/

section Data

def validateReceivedFrame (event : RxEvent) (frame : ReceivedFrame) :
    Program (NativeDriver β rx tx) (DriverError ε) ReceivedFrame := do
  let driver ← get
  if event.wdevId ≠ driver.wdevId then
    recoverWith (.wrongInterface driver.wdevId event.wdevId)
  else do
    requireControlledPort frame.etherType
    return frame

variable [Bus β ε]

/-- Copies one packet into the caller's buffer and enforces the controlled port. -/
def receivePacket (event : RxEvent) (packetIndex : Nat) :
    Program (NativeDriver β rx tx × Bytes) (DriverError ε) ReceivedFrame := do
  let frame ← onField (fun s => (s.1.link, s.2)) (fun part s => (setLink part.1 s.1, part.2))
    (mapError .data (DataPath.receivePacket event packetIndex))
  besideBuffer (validateReceivedFrame event frame)

/-- Sends one Ethernet frame and enforces the controlled port. -/
def transmit (wdevId : UInt8) (frame : Bytes) (dscpTos : UInt16) :
    Program (NativeDriver β rx tx) (DriverError ε) UInt8 := do
  let driver ← get
  if wdevId ≠ driver.wdevId then throw (.wrongInterface driver.wdevId wdevId)
  else
    match ethernetType frame with
    | none => throw .frameTooShort
    | some etherType => do
        requireControlledPort etherType
        onLink (DataPath.transmit wdevId frame dscpTos)

def transmitFrame (frame : Bytes) (dscpTos : UInt16) :
    Program (NativeDriver β rx tx) (DriverError ε) UInt8 := do
  let driver ← get
  transmit driver.wdevId frame dscpTos

end Data

/-! ## The watchdog -/

section Watchdog
variable [Bus β ε]

def watchdogSentinel : UInt32 := 0xaaaaaaaa

def pollWatchdog : Nat → Program (NativeDriver β rx tx) (DriverError ε) Bool
  | 0 => do
      modify fun driver => { driver with state := .fault }
      throw .invalidWatchdogStatus
  | reads + 1 => do
      let value ← onRpu (Rpu.readRegister rpuRegWatchdogStatus)
      if value ≠ watchdogSentinel then return (value &&& rpuWatchdogBit ≠ 0 : Bool)
      else pollWatchdog reads

/-- Checks the watchdog status; a register that reads as the sentinel ten times is
a fault. -/
def watchdogPending : Program (NativeDriver β rx tx) (DriverError ε) Bool := pollWatchdog 10

/-- Acknowledges and rearms a watchdog interrupt, then requires recovery. -/
def acknowledgeWatchdog : Program (NativeDriver β rx tx) (DriverError ε) Unit := do
  onRpu (Rpu.writeRegister rpuRegWatchdogClear rpuWatchdogBit)
  onRpu (Rpu.writeRegister rpuRegWatchdogTimer rpuWatchdogReload)
  modify enterRecovery

end Watchdog

end NativeDriver

end Nrf7002
