import Mathlib.Tactic.Simps.Basic
import Nrf7002.Data.Events
import Nrf7002.Device

/-! # The station connection controller

The state, its deadlines, the commands that wait for an answer, and the handlers
that apply control and data events.  A handler that finds an event out of place
moves to `fault`. -/

set_option autoImplicit false

namespace Nrf7002
open Foundation

def mlmeFrameValid : UInt32 := (1 : UInt32) <<< 0
def mlmeTimedOut : UInt32 := (1 : UInt32) <<< 0
def idWdevValid : UInt32 := (1 : UInt32) <<< 0
def idIfaceValid : UInt32 := (1 : UInt32) <<< 1

inductive StationState where
  | down | interfaceCreatePending | idle | regulatoryPending | interfaceUpPending | scanning
  | scanComplete | readingScanResults | authenticating | authenticated | associating | securing
  | authorizing | awaitingCarrier | connected | powerSavePending | disconnecting
  | interfaceDownPending | recovering | fault
  deriving DecidableEq, Repr

structure StationTimeouts where
  regulatoryMs : UInt32
  interfaceMs : UInt32
  scanMs : UInt32
  scanCompleteMs : UInt32
  scanResultsMs : UInt32
  authenticationMs : UInt32
  authenticatedMs : UInt32
  associationMs : UInt32
  keyExchangeMs : UInt32
  authorizationMs : UInt32
  carrierMs : UInt32
  powerSaveMs : UInt32
  disconnectMs : UInt32
  deriving DecidableEq

def StationTimeouts.default : StationTimeouts :=
  { regulatoryMs := 5000
    interfaceMs := 5000
    scanMs := 30000
    scanCompleteMs := 10000
    scanResultsMs := 10000
    authenticationMs := 5000
    authenticatedMs := 10000
    associationMs := 20000
    keyExchangeMs := 10000
    authorizationMs := 5000
    carrierMs := 5000
    powerSaveMs := 5000
    disconnectMs := 5000 }

inductive StationFault where
  | commandRejected (command status : UInt32)
  | authenticationFailed (status : UInt16)
  | associationFailed (status : UInt16)
  | mlmeTimeout
  | peerMismatch
  | interfaceMismatch (validIds : UInt32) (expectedIfaceindex actualIfaceindex : Int32)
      (expectedWdevId actualWdevId : UInt64)
  | unexpectedEvent
  | carrierLost
  | timeout (state : StationState)
  deriving DecidableEq

inductive StationError (ε : Type) where
  | device (error : DeviceError ε)
  | protocol (error : ProtocolError)
  | invalidState (current required : StationState)
  | interfaceAlreadyCreated
  | interfaceNotCreated
  | fault (fault : StationFault)
  deriving DecidableEq

structure StationController where
  ifaceindex : Int32
  firmwareIndex : Int8
  wdevId : UInt32
  state : StationState
  lastFault : Option StationFault
  interfaceCreated : Bool
  peer : Option (Octets 6)
  secureConnection : Bool
  controlledPortAuthorized : Bool
  carrierOn : Bool
  pendingCommand : Option UmacCommand
  pendingReturnState : Option StationState
  timeouts : StationTimeouts
  remainingMs : Option UInt32
  command : Bytes
  deriving DecidableEq

namespace StationController

def new (ifaceindex : Int32) (firmwareIndex : Int8) (wdevId : UInt32) : StationController :=
  { ifaceindex
    firmwareIndex
    wdevId
    state := .down
    lastFault := none
    interfaceCreated := false
    peer := none
    secureConnection := false
    controlledPortAuthorized := false
    carrierOn := false
    pendingCommand := none
    pendingReturnState := none
    timeouts := .default
    remainingMs := none
    command := List.replicate maxStationMessageLen 0 }

def controlledPortOpen (station : StationController) : Bool :=
  station.state = .connected && station.controlledPortAuthorized && station.carrierOn

def eapolRequired (station : StationController) : Bool :=
  station.secureConnection
    && (station.state = .securing || station.state = .authorizing
      || station.state = .awaitingCarrier || station.state = .connected)

/-! ## State changes -/

/-- The deadline of a state: at least one millisecond where the state has one. -/
def timeoutFor (station : StationController) (state : StationState) : Option UInt32 :=
  let timeouts := station.timeouts
  let configured : Option UInt32 := match state with
    | .down => none
    | .interfaceCreatePending => some timeouts.interfaceMs
    | .idle => none
    | .regulatoryPending => some timeouts.regulatoryMs
    | .interfaceUpPending => some timeouts.interfaceMs
    | .scanning => some timeouts.scanMs
    | .scanComplete => some timeouts.scanCompleteMs
    | .readingScanResults => some timeouts.scanResultsMs
    | .authenticating => some timeouts.authenticationMs
    | .authenticated => some timeouts.authenticatedMs
    | .associating => some timeouts.associationMs
    | .securing => some timeouts.keyExchangeMs
    | .authorizing => some timeouts.authorizationMs
    | .awaitingCarrier => some timeouts.carrierMs
    | .connected => none
    | .powerSavePending => some timeouts.powerSaveMs
    | .disconnecting => some timeouts.disconnectMs
    | .interfaceDownPending => some timeouts.interfaceMs
    | .recovering => none
    | .fault => none
  configured.map (max · 1)

@[simps] def transition (state : StationState) (station : StationController) : StationController :=
  { station with state, remainingMs := station.timeoutFor state }

def refreshConnected (station : StationController) : StationController :=
  if station.carrierOn && station.controlledPortAuthorized then station.transition .connected
  else station

@[simps] def clearConnection (station : StationController) : StationController :=
  { station with
    peer := none
    secureConnection := false
    controlledPortAuthorized := false
    carrierOn := false }

/-- The station after a fault: nothing stays pending, the connection data stays. -/
@[simps!] def faulted (fault : StationFault) (station : StationController) : StationController :=
  transition .fault
    { station with lastFault := some fault, pendingCommand := none, pendingReturnState := none }

def setTimeouts (timeouts : StationTimeouts) (station : StationController) : StationController :=
  let station := { station with timeouts }
  { station with remainingMs := station.timeoutFor station.state }

def completeGroupRekey (station : StationController) : StationController :=
  if station.secureConnection && station.controlledPortAuthorized then
    if station.carrierOn then station.transition .connected
    else station.transition .awaitingCarrier
  else transition .fault { station with lastFault := some .unexpectedEvent }

def beginRecovery (station : StationController) : StationController :=
  let station := clearConnection { station with interfaceCreated := false }
  transition .recovering { station with pendingCommand := none, pendingReturnState := none }

def recoveryComplete (station : StationController) : StationController :=
  let station := clearConnection { station with interfaceCreated := false }
  transition .down
    { station with pendingCommand := none, pendingReturnState := none, lastFault := none }

variable {β ε α : Type}

def fail (fault : StationFault) : Program StationController (StationError ε) α := do
  modify (faulted fault)
  throw (.fault fault)

def advanceTime (elapsedMs : UInt32) : Program StationController StationFault Unit := do
  let station ← get
  match station.remainingMs with
  | none => return ()
  | some remaining =>
      if elapsedMs < remaining then
        set { station with remainingMs := some (remaining - elapsedMs) }
      else
        let fault := StationFault.timeout station.state
        modify (faulted fault)
        throw fault

/-! ## Commands -/

section Commands
variable [Bus β ε]

/-- A command acts on the controller and on the device it is sent through. -/
abbrev Command (β ε α : Type) := Program (StationController × Device β) (StationError ε) α

def onStation (x : Program StationController (StationError ε) α) : Command β ε α :=
  onField Prod.fst (fun station s => (station, s.2)) x

def update (f : StationController → StationController) : Command β ε Unit :=
  modify fun s => (f s.1, s.2)

def require (required : StationState) : Program StationController (StationError ε) Unit := do
  let station ← get
  if station.state ≠ required then throw (.invalidState station.state required)

/-- One of the states of a non-empty list; an error names the first of them. -/
def requireOneOf (first : StationState) (others : List StationState) :
    Program StationController (StationError ε) Unit := do
  let station ← get
  if station.state ∉ first :: others then throw (.invalidState station.state first)

def requirePeer : Program StationController (StationError ε) (Octets 6) := do
  match (← get).peer with
  | some peer => return peer
  | none => throw (.fault .peerMismatch)

/-- Encodes into the station's own command buffer and posts the message. -/
def submit (encode : Program Bytes ProtocolError Nat) : Command β ε Unit := do
  let len ← onStation (onField (·.command) (fun command station => { station with command })
    (mapError .protocol encode))
  let (station, _) ← get
  onField Prod.snd (fun device s => (s.1, device))
    (mapError .device (Device.sendControlReliable (station.command.take len)))

def claimFirmwareDefaultInterface (station : StationController) : Option StationController :=
  if station.wdevId ≠ 0 then none
  else some (transition .down
    { station with interfaceCreated := true, pendingCommand := none, pendingReturnState := none })

def createInterface (macAddress : Octets 6) (interfaceName : Bytes) : Command β ε Unit := do
  onStation (require .down)
  let (station, _) ← get
  if station.interfaceCreated then throw .interfaceAlreadyCreated
  match station.claimFirmwareDefaultInterface with
  | some claimed => update fun _ => claimed
  | none =>
      submit (encodeNewInterface station.wdevId .station macAddress interfaceName)
      update fun station =>
        transition .interfaceCreatePending { station with pendingCommand := some .newInterface }

def setRegulatory (country : UInt8 × UInt8) (userHintType : UInt32) (force : Bool) :
    Command β ε Unit := do
  onStation (requireOneOf .down [.idle])
  let (station, _) ← get
  submit (encodeSetRegulatory station.wdevId country userHintType force)
  update fun now => transition .regulatoryPending
    { now with
      pendingCommand := some .requestSetRegulatory
      pendingReturnState := some station.state }

def bringUp : Command β ε Unit := do
  onStation (require .down)
  let (station, _) ← get
  if ¬ station.interfaceCreated then throw .interfaceNotCreated
  submit (encodeInterfaceState station.wdevId true station.firmwareIndex)
  update fun station =>
    transition .interfaceUpPending { station with pendingCommand := some .setInterfaceFlags }

def bringDown : Command β ε Unit := do
  onStation (requireOneOf .idle [.connected, .fault])
  let (station, _) ← get
  if ¬ station.interfaceCreated then throw .interfaceNotCreated
  submit (encodeInterfaceState station.wdevId false station.firmwareIndex)
  update fun station => transition .interfaceDownPending
    { station with pendingCommand := some .setInterfaceFlags, pendingReturnState := none }

def startScan (request : ScanRequest) : Command β ε Unit := do
  onStation (require .idle)
  let (station, _) ← get
  submit (encodeScan station.wdevId request)
  update fun station =>
    transition .scanning { station with pendingCommand := some .triggerScan }

def requestScanResults (reason : ScanReason) : Command β ε Unit := do
  onStation (require .scanComplete)
  let (station, _) ← get
  submit (encodeGetScanResults station.wdevId reason)
  update fun station =>
    transition .readingScanResults { station with pendingCommand := some .getScanResults }

def authenticate (request : AuthenticationRequest) : Command β ε Unit := do
  onStation (require .idle)
  let (station, _) ← get
  submit (encodeAuthenticate station.wdevId request)
  update fun station => transition .authenticating
    { station with peer := some request.bssid, pendingCommand := some .authenticate }

def associate (request : AssociationRequest) : Command β ε Unit := do
  onStation (require .authenticated)
  let (station, _) ← get
  if station.peer ≠ some request.bssid then onStation (fail .peerMismatch)
  submit (encodeAssociate station.wdevId request)
  update fun station => transition .associating
    { station with
      secureConnection := request.security.isSome
      controlledPortAuthorized := !request.security.isSome
      pendingCommand := some .associate }

/-- The address a key command carries: none for a group key. -/
def keyPeer (key : KeyConfig) : Program StationController (StationError ε) (Option (Octets 6)) :=
  match key.keyType with
  | .group => pure none
  | .pairwise | .peer => some <$> requirePeer

def keyCommand (command : UmacCommand) (key : KeyConfig) : Command β ε Unit := do
  onStation (requireOneOf .securing [.authorizing, .connected])
  let peer ← onStation (keyPeer key)
  let (station, _) ← get
  submit (encodeKeyCommand station.wdevId command peer key)
  update fun station => transition .securing { station with pendingCommand := some command }

def setKey (key : KeyConfig) : Command β ε Unit := do
  onStation (require .securing)
  let (station, _) ← get
  submit (encodeSetKey station.wdevId key)
  update fun station => transition .securing { station with pendingCommand := some .setKey }

def authorize : Command β ε Unit := do
  onStation (require .securing)
  let peer ← onStation requirePeer
  let (station, _) ← get
  submit (encodeStationAuthorized station.wdevId peer true)
  update fun station =>
    transition .authorizing { station with pendingCommand := some .setStation }

def setPowerSave (state : PowerSaveState) : Command β ε Unit := do
  onStation (requireOneOf .idle [.connected])
  let (station, _) ← get
  submit (encodePowerSave station.wdevId state)
  update fun now => transition .powerSavePending
    { now with pendingCommand := some .setPowerSave, pendingReturnState := some station.state }

def setPowerSaveTimeout (timeoutMs : Int32) : Command β ε Unit := do
  onStation (requireOneOf .idle [.connected])
  if timeoutMs < 0 then throw (.protocol (.invalidValue timeoutMs.toUInt32))
  let (station, _) ← get
  submit (encodePowerSaveTimeout station.wdevId timeoutMs)
  update fun now => transition .powerSavePending
    { now with
      pendingCommand := some .setPowerSaveTimeout
      pendingReturnState := some station.state }

def disconnect (reasonCode : UInt16) : Command β ε Unit := do
  onStation (requireOneOf .authenticated
    [.associating, .securing, .authorizing, .awaitingCarrier, .connected])
  let peer ← onStation requirePeer
  let (station, _) ← get
  submit (encodeDeauthenticate station.wdevId peer reasonCode false)
  update fun station => transition .disconnecting
    { station with pendingCommand := some .deauthenticate, pendingReturnState := none }

end Commands

/-! ## Control events -/

section ControlEvents

abbrev Handler (ε α : Type) := Program StationController (StationError ε) α

def controlEventHeader : ControlEvent → UmacHeader
  | .scanDone header _ _ => header
  | .scanResult event => event.header
  | .authentication event => event.header
  | .association event => event.header
  | .deauthentication event => event.header
  | .disassociation event => event.header
  | .commandStatus header _ _ => header
  | .interfaceState header _ => header
  | .regulatoryChange header _ => header
  | .other header _ => header

def headerMismatch (station : StationController) (header : UmacHeader) : StationFault :=
  .interfaceMismatch header.validIds station.ifaceindex header.ifaceindex
    station.wdevId.toUInt64 header.wdevId

/-- A header names this interface, or leaves the identifier out. -/
def headerMatches (station : StationController) (header : UmacHeader) : Bool :=
  !(header.validIds &&& idIfaceValid ≠ 0 && header.ifaceindex ≠ station.ifaceindex)
    && !(header.validIds &&& idWdevValid ≠ 0 && header.wdevId ≠ station.wdevId.toUInt64)

def checkHeader (header : UmacHeader) : Handler ε Unit := do
  let station ← get
  if ¬ station.headerMatches header then fail (station.headerMismatch header)

def checkPeer (peer : Octets 6) : Handler ε Unit := do
  let station ← get
  if station.peer ≠ some peer then fail .peerMismatch

/-- The status of an MLME event whose frame carries it at `statusOffset`. -/
def mlmeStatus (event : MlmeEvent) (statusOffset : Nat) : Except (StationError ε) UInt16 :=
  if event.flags &&& mlmeTimedOut ≠ 0 then .error (.fault .mlmeTimeout)
  else if event.header.result ≠ 0 then .ok event.header.result.toUInt32.toUInt16
  else if event.validFields &&& mlmeFrameValid = 0 then .ok 0
  else if event.frame.length < statusOffset + 2 then .error (.fault .unexpectedEvent)
  else .ok (readU16 event.frame statusOffset)

def mlmeFrameAddress (event : MlmeEvent) (offset : Nat) : Option (Octets 6) :=
  if event.validFields &&& mlmeFrameValid = 0 then none
  else if event.frame.length < offset + 6 then none
  else some (octetsAt event.frame offset 6)

def handleInterfaceState (status : Int32) : Handler ε Unit := do
  if status ≠ 0 then
    fail (.commandRejected UmacCommand.setInterfaceFlags.number status.toUInt32)
  match (← get).state with
  | .interfaceUpPending =>
      modify fun station => transition .idle { station with pendingCommand := none }
  | .interfaceDownPending =>
      modify fun station =>
        transition .down { station.clearConnection with pendingCommand := none }
  | _ => fail .unexpectedEvent

def handleScanDone (status : Int32) : Handler ε Unit := do
  if (← get).state ≠ .scanning then fail .unexpectedEvent
  modify fun station => { station with pendingCommand := none }
  if status = 0 then modify (transition .scanComplete)
  else fail (.commandRejected UmacCommand.triggerScan.number status.toUInt32)

def handleScanResult (sequence : UInt32) : Handler ε Unit := do
  if (← get).state ≠ .readingScanResults then fail .unexpectedEvent
  if sequence = 0 then
    modify fun station => transition .idle { station with pendingCommand := none }
  else
    modify (transition .readingScanResults)

def handleAuthentication (event : MlmeEvent) : Handler ε Unit := do
  if (← get).state ≠ .authenticating then fail .unexpectedEvent
  match mlmeFrameAddress event 10 with
  | none => fail .unexpectedEvent
  | some peer =>
      checkPeer peer
      let status ← liftResult (mlmeStatus event 28)
      if status ≠ 0 then fail (.authenticationFailed status)
      modify fun station => transition .authenticated { station with pendingCommand := none }

def handleAssociation (event : MlmeEvent) : Handler ε Unit := do
  if (← get).state ≠ .associating then fail .unexpectedEvent
  match mlmeFrameAddress event 16 with
  | none => fail .unexpectedEvent
  | some peer =>
      checkPeer peer
      let status ← liftResult (mlmeStatus event 26)
      if status ≠ 0 then fail (.associationFailed status)
      modify fun station =>
        refreshConnected (transition
          (if station.secureConnection then .securing else .awaitingCarrier)
          { station with pendingCommand := none })

def handleDisconnectEvent (event : MlmeEvent) : Handler ε Unit := do
  if (← get).peer.isNone then return ()
  match mlmeFrameAddress event 10 with
  | none => fail .unexpectedEvent
  | some peer =>
      checkPeer peer
      modify fun station => transition .idle
        { station.clearConnection with pendingCommand := none, pendingReturnState := none }

def handleRegulatoryChange : Handler ε Unit := do
  let station ← get
  if station.state = .regulatoryPending then
    set (transition (station.pendingReturnState.getD .down)
      { station with pendingCommand := none, pendingReturnState := none })

def handleInterfaceCreated (header : UmacHeader) : Handler ε Unit := do
  if header.result ≠ 0 then
    fail (.commandRejected UmacCommand.newInterface.number header.result.toUInt32)
  let station ← get
  if station.state = .interfaceCreatePending ∧ station.pendingCommand = some .newInterface then
    set (transition .down { station with interfaceCreated := true, pendingCommand := none })
  else if station.interfaceCreated ∧ station.state = .down then return ()
  else fail .unexpectedEvent

def isDefaultInterfaceStatus (station : StationController) (command : UInt32) : Bool :=
  command = UmacCommand.newInterface.number && station.interfaceCreated
    && station.pendingCommand.isNone

def validatePendingCommand (command status : UInt32) : Handler ε Unit := do
  if (← get).pendingCommand.map UmacCommand.number ≠ some command then fail .unexpectedEvent
  if status ≠ 0 then fail (.commandRejected command status)

def isKeyCommand (command : UInt32) : Bool :=
  [UmacCommand.newKey.number, UmacCommand.deleteKey.number,
    UmacCommand.setKey.number].contains command

def isPowerSaveCommand (command : UInt32) : Bool :=
  [UmacCommand.setPowerSave.number, UmacCommand.setPowerSaveTimeout.number].contains command

def applySuccessfulCommand (command : UInt32) (station : StationController) :
    StationController :=
  if isKeyCommand command then station.transition .securing
  else if command = UmacCommand.setStation.number ∧ station.state = .authorizing then
    refreshConnected
      (transition .awaitingCarrier { station with controlledPortAuthorized := true })
  else if isPowerSaveCommand command ∧ station.state = .powerSavePending then
    transition (station.pendingReturnState.getD .fault)
      { station with pendingReturnState := none }
  else station

def handleCommandStatus (command status : UInt32) : Handler ε Unit := do
  let station ← get
  if station.isDefaultInterfaceStatus command then
    if status = 0 then return () else fail (.commandRejected command status)
  else
    validatePendingCommand command status
    if command = UmacCommand.newInterface.number then return ()
    modify fun station => applySuccessfulCommand command { station with pendingCommand := none }

def handleOther (header : UmacHeader) : Handler ε Unit :=
  if header.commandEvent = UmacEvent.newInterface.number then handleInterfaceCreated header
  else pure ()

def isStatusControlEvent : ControlEvent → Bool
  | .commandStatus _ _ _ | .interfaceState _ _ | .regulatoryChange _ _ | .other _ _ => true
  | _ => false

def isScanControlEvent : ControlEvent → Bool
  | .scanDone _ _ _ | .scanResult _ => true
  | _ => false

def handleStatusControlEvent : ControlEvent → Handler ε Unit
  | .other header _ => handleOther header
  | .commandStatus _ command status => handleCommandStatus command status
  | .interfaceState _ status => handleInterfaceState status
  | .regulatoryChange _ _ => handleRegulatoryChange
  | _ => fail .unexpectedEvent

def handleScanControlEvent : ControlEvent → Handler ε Unit
  | .scanDone _ status _ => handleScanDone status
  | .scanResult result => handleScanResult result.header.sequence
  | _ => fail .unexpectedEvent

def handleMlmeControlEvent : ControlEvent → Handler ε Unit
  | .authentication event => handleAuthentication event
  | .association event => handleAssociation event
  | .deauthentication event => handleDisconnectEvent event
  | .disassociation event => handleDisconnectEvent event
  | _ => fail .unexpectedEvent

def handleProgressControlEvent (event : ControlEvent) : Handler ε Unit :=
  if isScanControlEvent event then handleScanControlEvent event
  else handleMlmeControlEvent event

def handleControlEvent (event : ControlEvent) : Handler ε Unit := do
  checkHeader (controlEventHeader event)
  if isStatusControlEvent event then handleStatusControlEvent event
  else handleProgressControlEvent event

end ControlEvents

/-! ## Data events -/

section DataEvents

def requireDataInterface (wdevId : UInt32) : Handler ε Unit := do
  let station ← get
  if wdevId ≠ station.wdevId then
    fail (.interfaceMismatch idWdevValid station.ifaceindex station.ifaceindex
      station.wdevId.toUInt64 wdevId.toUInt64)

def handleCarrierOn (wdevId : UInt32) : Handler ε Unit := do
  requireDataInterface wdevId
  modify fun station => refreshConnected { station with carrierOn := true }

def handleCarrierOff (wdevId : UInt32) : Handler ε Unit := do
  requireDataInterface wdevId
  modify fun station => { station with carrierOn := false }
  if (← get).state = .connected then
    modify fun station => transition .idle station.clearConnection
    fail .carrierLost

def handleDataEvent : DataEvent → Handler ε Unit
  | .carrierOn wdevId => handleCarrierOn wdevId
  | .carrierOff wdevId => handleCarrierOff wdevId
  | _ => pure ()

end DataEvents

end StationController

end Nrf7002
