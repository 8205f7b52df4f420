import Nrf7002.Runtime.Driver
import Nrf7002.Wpa2.Supplicant

/-! # The WPA2 coordinator

It feeds EAPOL frames to the supplicant, installs the keys that the supplicant asks
for one command at a time, and authorizes the port after Message 4 was transmitted.
Every error goes through `fail`. -/

set_option autoImplicit false

namespace Nrf7002
open Foundation

def eapolEthernetHeaderLen : Nat := 14
def maxEapolEthernetFrameLen : Nat := eapolEthernetHeaderLen + maxEapolFrameLen
def paeGroupAddress : Octets 6 := ⟨[0x01, 0x80, 0xc2, 0x00, 0x00, 0x03], rfl⟩

inductive EapolTransmitPurpose where
  | message2
  | message4
  | groupMessage2
  | retransmission
  deriving DecidableEq, Repr

inductive Wpa2RuntimeState where
  | awaitingAuthenticator
  | awaitingEapolTransmit (token : UInt8) (purpose : EapolTransmitPurpose)
  | awaitingPairwiseKeyStatus
  | awaitingGroupKeyStatus
  | awaitingDefaultGroupKeyStatus
  | awaitingAuthorizationStatus
  | awaitingCarrier
  | awaitingGroupRekeyStatus
  | awaitingDefaultGroupRekeyStatus
  | complete
  | failed
  deriving DecidableEq

structure Wpa2Timeouts where
  authenticatorMs : UInt32
  eapolTransmitMs : UInt32
  firmwareCommandMs : UInt32
  carrierMs : UInt32
  deriving DecidableEq

def Wpa2Timeouts.default : Wpa2Timeouts :=
  { authenticatorMs := 5000
    eapolTransmitMs := 2000
    firmwareCommandMs := 5000
    carrierMs := 5000 }

inductive Wpa2Progress where
  | noChange
  | eapolSubmitted (token : UInt8) (purpose : EapolTransmitPurpose)
  | pairwiseKeySubmitted
  | groupKeySubmitted
  | defaultGroupKeySubmitted
  | authorizationSubmitted
  | awaitingCarrier
  | complete
  deriving DecidableEq

inductive Wpa2RuntimeError (ε : Type) where
  | wpa2 (error : Wpa2Error)
  | driver (error : DriverError ε)
  | station (error : StationError ε)
  | frameTooShort
  | frameTooLarge
  | wrongDestination
  | wrongSource
  | wrongEtherType
  | unexpectedState (state : Wpa2RuntimeState)
  | unexpectedCommandStatus (expected : UmacCommand) (received : UInt32)
  | commandRejected (command status : UInt32)
  | missingInstallRequest
  | transmitCompletionMismatch (expected received : UInt8)
  | transmitFailed
  | timeout (state : Wpa2RuntimeState)
  deriving DecidableEq

structure Wpa2Runtime where
  supplicant : Wpa2Supplicant
  localAddress : Octets 6
  wdevId : UInt8
  state : Wpa2RuntimeState
  pairwiseInstall : Option Wpa2KeyInstallRequest
  groupInstall : Option Wpa2GroupKeyInstallRequest
  timeouts : Wpa2Timeouts
  remainingMs : Option UInt32
  lastInputDigest : Option (Octets 32)
  frame : Bytes

/-- The coordinator next to the driver that it is given. -/
structure Wpa2System (β : Type) (rx tx : Nat) where
  runtime : Wpa2Runtime
  driver : NativeDriver β rx tx

inductive KeySubmission where
  | pairwise
  | initialGroup
  | initialDefaultGroup
  | rekeyGroup
  | rekeyDefaultGroup
  deriving DecidableEq

inductive KeyInstallCompletion where
  | initial
  | rekey
  deriving DecidableEq

def KeyInstallCompletion.transmitPurpose : KeyInstallCompletion → EapolTransmitPurpose
  | .initial => .message4
  | .rekey => .groupMessage2

namespace KeySubmission

def isDefault : KeySubmission → Bool
  | .initialDefaultGroup | .rekeyDefaultGroup => true
  | _ => false

def nextState : KeySubmission → Wpa2RuntimeState
  | .pairwise => .awaitingPairwiseKeyStatus
  | .initialGroup => .awaitingGroupKeyStatus
  | .initialDefaultGroup => .awaitingDefaultGroupKeyStatus
  | .rekeyGroup => .awaitingGroupRekeyStatus
  | .rekeyDefaultGroup => .awaitingDefaultGroupRekeyStatus

def progress : KeySubmission → Wpa2Progress
  | .pairwise => .pairwiseKeySubmitted
  | .initialGroup | .rekeyGroup => .groupKeySubmitted
  | .initialDefaultGroup | .rekeyDefaultGroup => .defaultGroupKeySubmitted

end KeySubmission

def commandStatus : ControlEvent → Option (UInt32 × UInt32)
  | .commandStatus _ command status => some (command, status)
  | _ => none

def eapolResponsePurpose (wasComplete : Bool) : EapolTransmitPurpose :=
  if wasComplete then .retransmission else .message2

def validateEthernetSize {ε : Type} (frame : Bytes) : Except (Wpa2RuntimeError ε) Unit :=
  if frame.length < eapolEthernetHeaderLen then .error .frameTooShort
  else if maxEapolEthernetFrameLen < frame.length then .error .frameTooLarge
  else .ok ()

namespace Wpa2Runtime
variable {β ε α : Type} {rx tx : Nat}

/-! ## The coordinator alone -/

def timeoutFor (runtime : Wpa2Runtime) (state : Wpa2RuntimeState) : Option UInt32 :=
  let timeouts := runtime.timeouts
  let configured : Option UInt32 := match state with
    | .awaitingAuthenticator => some timeouts.authenticatorMs
    | .awaitingEapolTransmit _ _ => some timeouts.eapolTransmitMs
    | .awaitingPairwiseKeyStatus => some timeouts.firmwareCommandMs
    | .awaitingGroupKeyStatus => some timeouts.firmwareCommandMs
    | .awaitingDefaultGroupKeyStatus => some timeouts.firmwareCommandMs
    | .awaitingAuthorizationStatus => some timeouts.firmwareCommandMs
    | .awaitingGroupRekeyStatus => some timeouts.firmwareCommandMs
    | .awaitingDefaultGroupRekeyStatus => some timeouts.firmwareCommandMs
    | .awaitingCarrier => some timeouts.carrierMs
    | .complete => none
    | .failed => none
  configured.map (max · 1)

@[simps] def transition (state : Wpa2RuntimeState) (runtime : Wpa2Runtime) : Wpa2Runtime :=
  { runtime with state, remainingMs := runtime.timeoutFor state }

def new (supplicant : Wpa2Supplicant) (wdevId : UInt8) : Wpa2Runtime :=
  transition .awaitingAuthenticator
    { supplicant
      localAddress := supplicant.localAddress
      wdevId
      state := .awaitingAuthenticator
      pairwiseInstall := none
      groupInstall := none
      timeouts := .default
      remainingMs := none
      lastInputDigest := none
      frame := List.replicate maxEapolEthernetFrameLen 0 }

def setTimeouts (timeouts : Wpa2Timeouts) (runtime : Wpa2Runtime) : Wpa2Runtime :=
  let runtime := { runtime with timeouts }
  { runtime with remainingMs := runtime.timeoutFor runtime.state }

def onSupplicant (x : Supplicant α) : Program Wpa2Runtime Wpa2Error α :=
  onField (·.supplicant) (fun supplicant runtime => { runtime with supplicant }) x

/-- Starts a new pairwise handshake with a fresh nonce. -/
def restartPairwise (supplicantNonce : Octets 32) : Program Wpa2Runtime Wpa2Error Unit := do
  onSupplicant (Wpa2Supplicant.restartPairwise supplicantNonce)
  modify fun runtime => transition .awaitingAuthenticator
    { runtime with pairwiseInstall := none, groupInstall := none, lastInputDigest := none }

def hasPendingRadioOperation (runtime : Wpa2Runtime) : Bool :=
  match runtime.state with
  | .awaitingEapolTransmit _ _ | .awaitingPairwiseKeyStatus | .awaitingGroupKeyStatus
  | .awaitingDefaultGroupKeyStatus | .awaitingAuthorizationStatus | .awaitingGroupRekeyStatus
  | .awaitingDefaultGroupRekeyStatus => true
  | _ => false

/-- A retransmission of the frame in progress changes nothing, not even the deadline. -/
def pendingInput (runtime : Wpa2Runtime) (digest : Octets 32) :
    Except (Wpa2RuntimeError ε) (Option Wpa2Progress) :=
  if ¬ runtime.hasPendingRadioOperation then .ok none
  else if runtime.lastInputDigest = some digest then .ok (some .noChange)
  else .error (.unexpectedState runtime.state)

def validateEthernetHeader (runtime : Wpa2Runtime) (frame : Bytes) :
    Except (Wpa2RuntimeError ε) Unit :=
  if octetsAt frame 0 6 ≠ runtime.localAddress ∧ octetsAt frame 0 6 ≠ paeGroupAddress then
    .error .wrongDestination
  else if octetsAt frame 6 6 ≠ runtime.supplicant.peer then .error .wrongSource
  else if readBeU16 frame 12 ≠ eapolEthertype then .error .wrongEtherType
  else .ok ()

def validateEthernetFrame (runtime : Wpa2Runtime) (frame : Bytes) :
    Except (Wpa2RuntimeError ε) Bytes := do
  validateEthernetSize frame
  runtime.validateEthernetHeader frame
  return frame.drop eapolEthernetHeaderLen

def requireCommand (expected : UmacCommand) (received : UInt32) :
    Except (Wpa2RuntimeError ε) Unit :=
  if received = expected.number then .ok ()
  else .error (.unexpectedCommandStatus expected received)

def submissionKey (runtime : Wpa2Runtime) (submission : KeySubmission) :
    Except (Wpa2RuntimeError ε) KeyConfig :=
  let key : Option KeyConfig := match submission with
    | .pairwise => runtime.pairwiseInstall.map fun request => request.pairwise.keyConfig
    | .initialGroup => runtime.pairwiseInstall.map fun request => request.group.keyConfig
    | .initialDefaultGroup =>
        runtime.pairwiseInstall.map fun request => request.group.defaultKeyConfig
    | .rekeyGroup => runtime.groupInstall.map fun request => request.group.keyConfig
    | .rekeyDefaultGroup => runtime.groupInstall.map fun request => request.group.defaultKeyConfig
  match key with
  | some key => .ok key
  | none => .error .missingInstallRequest

/-- Takes the stored request and completes it with the supplicant. -/
def finishKeyInstall : KeyInstallCompletion →
    Program Wpa2Runtime (Wpa2RuntimeError ε) EapolTxFrame
  | .initial => do
      match (← get).pairwiseInstall with
      | none => throw .missingInstallRequest
      | some request =>
          modify fun runtime => { runtime with pairwiseInstall := none }
          mapError .wpa2 (onSupplicant (Wpa2Supplicant.completeKeyInstall request true))
  | .rekey => do
      match (← get).groupInstall with
      | none => throw .missingInstallRequest
      | some request =>
          modify fun runtime => { runtime with groupInstall := none }
          mapError .wpa2 (onSupplicant (Wpa2Supplicant.completeGroupKeyInstall request true))

def completedTransmit (runtime : Wpa2Runtime) (event : TxDoneEvent) :
    Except (Wpa2RuntimeError ε) (Option EapolTransmitPurpose) :=
  match runtime.state with
  | .awaitingEapolTransmit token purpose =>
      if token ≠ event.token then .error (.transmitCompletionMismatch token event.token)
      else if event.statuses.length ≠ 1 ∨ ¬ event.allSucceeded then .error .transmitFailed
      else .ok (some purpose)
  | _ => .ok none

def rejectPairwiseInstall (runtime : Wpa2Runtime) : Wpa2Runtime :=
  match runtime.pairwiseInstall with
  | none => runtime
  | some request =>
      { runtime with
        pairwiseInstall := none
        supplicant :=
          stateAfter (Wpa2Supplicant.completeKeyInstall request false) runtime.supplicant }

def rejectGroupInstall (runtime : Wpa2Runtime) : Wpa2Runtime :=
  match runtime.groupInstall with
  | none => runtime
  | some request =>
      { runtime with
        groupInstall := none
        supplicant :=
          stateAfter (Wpa2Supplicant.completeGroupKeyInstall request false) runtime.supplicant }

/-- The coordinator after `fail`: stored requests are rejected with the supplicant. -/
def failed (runtime : Wpa2Runtime) : Wpa2Runtime :=
  transition .failed
    { runtime.rejectPairwiseInstall.rejectGroupInstall with lastInputDigest := none }

/-! ## The coordinator with its driver -/

/-- A method of the coordinator that is given the driver. -/
abbrev Method (β : Type) (rx tx : Nat) (ε α : Type) :=
  Program (Wpa2System β rx tx) (Wpa2RuntimeError ε) α

def onRuntime (x : Program Wpa2Runtime (Wpa2RuntimeError ε) α) : Method β rx tx ε α :=
  onField (·.runtime) (fun runtime system => { system with runtime }) x

def onDriver (x : Program (NativeDriver β rx tx) (DriverError ε) α) : Method β rx tx ε α :=
  onField (·.driver) (fun driver system => { system with driver }) (mapError .driver x)

/-- The device and the station of the driver. -/
def onSecurityParts (x : StationController.Command β ε α) : Method β rx tx ε α :=
  onField (·.driver) (fun driver system => { system with driver })
    (mapError .station (NativeDriver.onSecurityParts x))

def enter (state : Wpa2RuntimeState) : Method β rx tx ε Unit :=
  onRuntime (modify (transition state))

def fail (failure : Wpa2RuntimeError ε) : Method β rx tx ε α := do
  modify fun system =>
    { runtime := system.runtime.failed, driver := system.driver.enterRecovery }
  throw failure

/-- The macro `runtime_fail_on_error`. -/
def orFail (x : Method β rx tx ε α) : Method β rx tx ε α := do
  match ← attempt x with
  | .ok value => return value
  | .error failure => fail failure

def advanceTime (elapsedMs : UInt32) : Method β rx tx ε Unit := do
  let system ← get
  match system.runtime.remainingMs with
  | none => return ()
  | some remaining =>
      if elapsedMs < remaining then
        set { system with
          runtime := { system.runtime with remainingMs := some (remaining - elapsedMs) } }
      else fail (.timeout system.runtime.state)

/-- Carrier and other events may have connected the station. -/
def refreshCarrier : Method β rx tx ε Wpa2Progress := do
  let system ← get
  if system.driver.station.state = .connected then do
    enter .complete
    return .complete
  else return .noChange

def handleNonCommandEvent : Method β rx tx ε Wpa2Progress := refreshCarrier

section Commands
variable [Bus β ε]

def submitFirmwareKey (key : KeyConfig) (isDefault : Bool) : Method β rx tx ε Unit :=
  onSecurityParts
    (if isDefault then StationController.setKey key
    else StationController.keyCommand .newKey key)

def submitKey (submission : KeySubmission) : Method β rx tx ε Wpa2Progress := do
  let system ← get
  let key ← liftResult (system.runtime.submissionKey submission)
  submitFirmwareKey key submission.isDefault
  enter submission.nextState
  return submission.progress

/-- The Ethernet frame that carries a response. -/
def ethernetFrame (runtime : Wpa2Runtime) (response : EapolTxFrame) : Bytes :=
  response.peer.1 ++ (runtime.localAddress.1 ++ (be16 eapolEthertype ++ response.bytes))

def submitEapol (response : EapolTxFrame) (purpose : EapolTransmitPurpose) :
    Method β rx tx ε Wpa2Progress := do
  let system ← get
  let len := eapolEthernetHeaderLen + response.bytes.length
  if system.runtime.frame.length < len then throw .frameTooLarge
  else do
    let frame := splice system.runtime.frame 0 (system.runtime.ethernetFrame response)
    onRuntime (modify fun runtime => { runtime with frame })
    let token ← onDriver (NativeDriver.transmit system.runtime.wdevId (frame.take len) 0)
    enter (.awaitingEapolTransmit token purpose)
    return .eapolSubmitted token purpose

def beginPairwiseInstall (request : Wpa2KeyInstallRequest) : Method β rx tx ε Wpa2Progress := do
  let system ← get
  if system.runtime.state ≠ .awaitingAuthenticator then
    throw (.unexpectedState system.runtime.state)
  else do
    onRuntime (modify fun runtime => { runtime with pairwiseInstall := some request })
    submitKey .pairwise

def beginGroupInstall (request : Wpa2GroupKeyInstallRequest) :
    Method β rx tx ε Wpa2Progress := do
  let system ← get
  if system.runtime.state ≠ .complete then throw (.unexpectedState system.runtime.state)
  else do
    onRuntime (modify fun runtime => { runtime with groupInstall := some request })
    submitKey .rekeyGroup

def dispatchWpa2Action (action : Wpa2Action) (wasComplete : Bool) :
    Method β rx tx ε Wpa2Progress :=
  match action with
  | .none => return .noChange
  | .transmit response => submitEapol response (eapolResponsePurpose wasComplete)
  | .installKeys request => beginPairwiseInstall request
  | .installGroupKey request => beginGroupInstall request

/-- Processes one Ethernet EAPOL frame from the radio. -/
def onEthernetFrame (crypto : Wpa2Crypto) (frame : Bytes) : Method β rx tx ε Wpa2Progress := do
  let runtime := (← get).runtime
  let payload ← orFail (liftResult (runtime.validateEthernetFrame frame))
  let digest := crypto.sha256 payload
  match ← orFail (liftResult (runtime.pendingInput digest)) with
  | some progress => return progress
  | none =>
      let wasComplete : Bool := runtime.supplicant.phase = .complete
      let action ← orFail (onRuntime (mapError .wpa2
        (onSupplicant (Wpa2Supplicant.onEapol crypto runtime.supplicant.peer payload))))
      onRuntime (modify fun runtime => { runtime with lastInputDigest := some digest })
      orFail (dispatchWpa2Action action wasComplete)

/-! ### Command statuses -/

/-- The next key of a sequence, once the firmware accepted the one before. -/
def advanceKey (command : UInt32) (submission : KeySubmission) :
    Method β rx tx ε Wpa2Progress := do
  liftResult (requireCommand .newKey command)
  submitKey submission

def advanceInitialKey (command : UInt32) (submission : KeySubmission) :
    Method β rx tx ε Wpa2Progress := advanceKey command submission

def advanceGroupRekey (command : UInt32) : Method β rx tx ε Wpa2Progress :=
  advanceKey command .rekeyDefaultGroup

def completeKeyInstall (command : UInt32) (completion : KeyInstallCompletion) :
    Method β rx tx ε Wpa2Progress := do
  liftResult (requireCommand .setKey command)
  let response ← onRuntime (finishKeyInstall completion)
  submitEapol response completion.transmitPurpose

def handleInitialKeyStatus (command : UInt32) : Method β rx tx ε Wpa2Progress := do
  match (← get).runtime.state with
  | .awaitingPairwiseKeyStatus => advanceInitialKey command .initialGroup
  | .awaitingGroupKeyStatus => advanceInitialKey command .initialDefaultGroup
  | .awaitingDefaultGroupKeyStatus => completeKeyInstall command .initial
  | state => throw (.unexpectedState state)

def handleAuthorizationStatus (command : UInt32) : Method β rx tx ε Wpa2Progress := do
  liftResult (requireCommand .setStation command)
  let system ← get
  if system.driver.station.state = .connected then do
    enter .complete
    return .complete
  else do
    enter .awaitingCarrier
    return .awaitingCarrier

def handleRekeyStatus (command : UInt32) : Method β rx tx ε Wpa2Progress := do
  match (← get).runtime.state with
  | .awaitingGroupRekeyStatus => advanceGroupRekey command
  | .awaitingDefaultGroupRekeyStatus => completeKeyInstall command .rekey
  | state => throw (.unexpectedState state)

def dispatchCommandStatus (command : UInt32) : Method β rx tx ε Wpa2Progress := do
  match (← get).runtime.state with
  | .awaitingPairwiseKeyStatus | .awaitingGroupKeyStatus | .awaitingDefaultGroupKeyStatus =>
      handleInitialKeyStatus command
  | .awaitingAuthorizationStatus => handleAuthorizationStatus command
  | .awaitingGroupRekeyStatus | .awaitingDefaultGroupRekeyStatus => handleRekeyStatus command
  | state => throw (.unexpectedState state)

/-- Applies one control event after the driver dispatched it. -/
def onControlEvent (event : ControlEvent) : Method β rx tx ε Wpa2Progress :=
  match commandStatus event with
  | none => handleNonCommandEvent
  | some (command, status) =>
      if status ≠ 0 then fail (.commandRejected command status)
      else orFail (dispatchCommandStatus command)

/-! ### Transmissions -/

def authorizeAfterMessage4 : Method β rx tx ε Wpa2Progress := do
  onSecurityParts StationController.authorize
  enter .awaitingAuthorizationStatus
  return .authorizationSubmitted

omit [Bus β ε] in
def completeGroupRekey : Method β rx tx ε Wpa2Progress := do
  onField (·.driver) (fun driver system => { system with driver })
    (modify fun driver => { driver with station := driver.station.completeGroupRekey })
  let system ← get
  if system.driver.station.state = .fault then throw (.unexpectedState system.runtime.state)
  else do
    enter .complete
    return .complete

def dispatchTransmitPurpose : EapolTransmitPurpose → Method β rx tx ε Wpa2Progress
  | .message2 => do
      enter .awaitingAuthenticator
      return .noChange
  | .message4 => authorizeAfterMessage4
  | .groupMessage2 => completeGroupRekey
  | .retransmission => do
      enter .complete
      return .complete

/-- Applies one transmit-done event that the driver returned. -/
def onTransmitDone (event : TxDoneEvent) : Method β rx tx ε Wpa2Progress := do
  match ← orFail (liftResult ((← get).runtime.completedTransmit event)) with
  | none => return .noChange
  | some purpose => orFail (dispatchTransmitPurpose purpose)

end Commands

end Wpa2Runtime

end Nrf7002
