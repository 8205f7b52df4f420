import Nrf7002.Foundation.Run
import Nrf7002.Station.Controller

/-! # Runs of the station controller

An operation is any public method that changes the controller.  A command brings
the device it is sent through, in any state, so its outcome is arbitrary.
`Effect` lists everything one operation can do; the invariants are derived from it. -/

set_option autoImplicit false

namespace Nrf7002
open Foundation

inductive StationOperation (β : Type) where
  | createInterface (device : Device β) (macAddress : Octets 6) (interfaceName : Bytes)
  | setRegulatory (device : Device β) (country : UInt8 × UInt8) (userHintType : UInt32)
      (force : Bool)
  | bringUp (device : Device β)
  | bringDown (device : Device β)
  | startScan (device : Device β) (request : ScanRequest)
  | requestScanResults (device : Device β) (reason : ScanReason)
  | authenticate (device : Device β) (request : AuthenticationRequest)
  | associate (device : Device β) (request : AssociationRequest)
  | keyCommand (device : Device β) (command : UmacCommand) (key : KeyConfig)
  | setKey (device : Device β) (key : KeyConfig)
  | authorize (device : Device β)
  | setPowerSave (device : Device β) (state : PowerSaveState)
  | setPowerSaveTimeout (device : Device β) (timeoutMs : Int32)
  | disconnect (device : Device β) (reasonCode : UInt16)
  | controlEvent (event : ControlEvent)
  | dataEvent (event : DataEvent)
  | advanceTime (elapsedMs : UInt32)
  | setTimeouts (timeouts : StationTimeouts)
  | completeGroupRekey
  | beginRecovery
  | recoveryComplete

namespace StationController
variable {β ε : Type}

/-- Runs a command through a device that the run does not look at again. -/
def through (device : Device β) (command : Command β ε Unit) : Handler ε Unit :=
  fun station =>
    match command (station, device) with
    | .ok _ after => .ok () after.1
    | .error failure after => .error failure after.1

section Perform
variable [Bus β ε]

def perform : StationOperation β → Handler ε Unit
  | .createInterface device macAddress interfaceName =>
      through device (StationController.createInterface macAddress interfaceName)
  | .setRegulatory device country userHintType force =>
      through device (StationController.setRegulatory country userHintType force)
  | .bringUp device => through device StationController.bringUp
  | .bringDown device => through device StationController.bringDown
  | .startScan device request => through device (StationController.startScan request)
  | .requestScanResults device reason =>
      through device (StationController.requestScanResults reason)
  | .authenticate device request => through device (StationController.authenticate request)
  | .associate device request => through device (StationController.associate request)
  | .keyCommand device command key => through device (StationController.keyCommand command key)
  | .setKey device key => through device (StationController.setKey key)
  | .authorize device => through device StationController.authorize
  | .setPowerSave device state => through device (StationController.setPowerSave state)
  | .setPowerSaveTimeout device timeoutMs =>
      through device (StationController.setPowerSaveTimeout timeoutMs)
  | .disconnect device reasonCode => through device (StationController.disconnect reasonCode)
  | .controlEvent event => handleControlEvent event
  | .dataEvent event => handleDataEvent event
  | .advanceTime elapsedMs => mapError .fault (StationController.advanceTime elapsedMs)
  | .setTimeouts timeouts => modify (StationController.setTimeouts timeouts)
  | .completeGroupRekey => modify StationController.completeGroupRekey
  | .beginRecovery => modify StationController.beginRecovery
  | .recoveryComplete => modify StationController.recoveryComplete

def step (station : StationController) (operation : StationOperation β) : StationController :=
  stateAfter (perform operation : Handler ε Unit) station

def succeeds (station : StationController) (operation : StationOperation β) : Bool :=
  (resultOf (perform operation : Handler ε Unit) station).isOk

end Perform

/-! ## What one operation can do -/

/-- The state in which a command is submitted. -/
def submittable (station : StationController) : StationOperation β → Prop
  | .createInterface _ _ _ | .bringUp _ => station.state = .down
  | .setRegulatory _ _ _ _ => station.state = .down ∨ station.state = .idle
  | .bringDown _ => station.state = .idle ∨ station.state = .connected ∨ station.state = .fault
  | .startScan _ _ | .authenticate _ _ => station.state = .idle
  | .requestScanResults _ _ => station.state = .scanComplete
  | .associate _ request =>
      station.state = .authenticated ∧ station.peer = some request.bssid
  | .keyCommand _ _ _ =>
      station.state = .securing ∨ station.state = .authorizing ∨ station.state = .connected
  | .setKey _ _ | .authorize _ => station.state = .securing
  | .setPowerSave _ _ | .setPowerSaveTimeout _ _ =>
      station.state = .idle ∨ station.state = .connected
  | .disconnect _ _ =>
      station.state = .authenticated ∨ station.state = .associating ∨ station.state = .securing
        ∨ station.state = .authorizing ∨ station.state = .awaitingCarrier
        ∨ station.state = .connected
  | _ => False

/-- The station after a command was posted. -/
def submitted (station : StationController) : StationOperation β → StationController
  | .createInterface _ _ _ =>
      transition .interfaceCreatePending { station with pendingCommand := some .newInterface }
  | .setRegulatory _ _ _ _ => transition .regulatoryPending
      { station with
        pendingCommand := some .requestSetRegulatory
        pendingReturnState := some station.state }
  | .bringUp _ =>
      transition .interfaceUpPending { station with pendingCommand := some .setInterfaceFlags }
  | .bringDown _ => transition .interfaceDownPending
      { station with pendingCommand := some .setInterfaceFlags, pendingReturnState := none }
  | .startScan _ _ => transition .scanning { station with pendingCommand := some .triggerScan }
  | .requestScanResults _ _ =>
      transition .readingScanResults { station with pendingCommand := some .getScanResults }
  | .authenticate _ request => transition .authenticating
      { station with peer := some request.bssid, pendingCommand := some .authenticate }
  | .associate _ request => transition .associating
      { station with
        secureConnection := request.security.isSome
        controlledPortAuthorized := !request.security.isSome
        pendingCommand := some .associate }
  | .keyCommand _ command _ => transition .securing { station with pendingCommand := some command }
  | .setKey _ _ => transition .securing { station with pendingCommand := some .setKey }
  | .authorize _ => transition .authorizing { station with pendingCommand := some .setStation }
  | .setPowerSave _ _ => transition .powerSavePending
      { station with
        pendingCommand := some .setPowerSave
        pendingReturnState := some station.state }
  | .setPowerSaveTimeout _ _ => transition .powerSavePending
      { station with
        pendingCommand := some .setPowerSaveTimeout
        pendingReturnState := some station.state }
  | .disconnect _ _ => transition .disconnecting
      { station with pendingCommand := some .deauthenticate, pendingReturnState := none }
  | _ => station

/-- An MLME event whose frame names the peer and carries status zero. -/
def confirms (station : StationController) (event : MlmeEvent)
    (addressOffset statusOffset : Nat) : Prop :=
  (∃ peer, mlmeFrameAddress event addressOffset = some peer ∧ station.peer = some peer) ∧
    (mlmeStatus event statusOffset : Except (StationError Empty) UInt16) = .ok 0

instance (station : StationController) (event : MlmeEvent) (addressOffset statusOffset : Nat) :
    Decidable (confirms station event addressOffset statusOffset) := by
  unfold confirms
  cases mlmeFrameAddress event addressOffset with
  | none => exact decidable_of_iff False (by simp)
  | some peer =>
      exact decidable_of_iff
        (station.peer = some peer ∧
          (mlmeStatus event statusOffset : Except (StationError Empty) UInt16) = .ok 0)
        (by simp)

theorem mlmeStatus_ok {event : MlmeEvent} {statusOffset : Nat} {status : UInt16}
    (known : mlmeStatus event statusOffset = (.ok status : Except (StationError ε) UInt16)) :
    (mlmeStatus event statusOffset : Except (StationError Empty) UInt16) = .ok status := by
  unfold mlmeStatus at known ⊢
  split_ifs at known ⊢ <;> exact congrArg _ (Except.ok.inj known)

def associated (station : StationController) : StationController :=
  refreshConnected (transition (if station.secureConnection then .securing else .awaitingCarrier)
    { station with pendingCommand := none })

/-- An event that a handler accepts without a change, or the passing of time in a
state without a deadline. -/
def mayIgnore : StationOperation β → Prop
  | .controlEvent _ | .dataEvent _ | .advanceTime _ => True
  | _ => False

/-- Everything one operation can do: the operation, whether it succeeded, and the
station it leaves. -/
inductive Effect (station : StationController) :
    StationOperation β → Bool → StationController → Prop where
  | refused {operation} (command : Bytes) :
      Effect station operation false { station with command }
  | failed {operation} (fault : StationFault) (command : Bytes) :
      Effect station operation false (faulted fault { station with command })
  | ignored {operation} (event : mayIgnore operation) : Effect station operation true station
  | claimed {device macAddress interfaceName} (down : station.state = .down) :
      Effect station (.createInterface device macAddress interfaceName) true
        (transition .down { station with
          interfaceCreated := true, pendingCommand := none, pendingReturnState := none })
  | posted {operation} (command : Bytes) (ready : station.submittable operation) :
      Effect station operation true (submitted { station with command } operation)
  | interfaceUp {header} (pending : station.state = .interfaceUpPending) :
      Effect station (.controlEvent (.interfaceState header 0)) true
        (transition .idle { station with pendingCommand := none })
  | interfaceDown {header} (pending : station.state = .interfaceDownPending) :
      Effect station (.controlEvent (.interfaceState header 0)) true
        (transition .down { station.clearConnection with pendingCommand := none })
  | scanDone {header scanType} (scanning : station.state = .scanning) :
      Effect station (.controlEvent (.scanDone header 0 scanType)) true
        (transition .scanComplete { station with pendingCommand := none })
  | scanResult {result} (reading : station.state = .readingScanResults) :
      Effect station (.controlEvent (.scanResult result)) true
        (transition .readingScanResults station)
  | scanEnded {result} (reading : station.state = .readingScanResults) :
      Effect station (.controlEvent (.scanResult result)) true
        (transition .idle { station with pendingCommand := none })
  | authenticated {event} (pending : station.state = .authenticating)
      (confirmed : station.confirms event 10 28) :
      Effect station (.controlEvent (.authentication event)) true
        (transition .authenticated { station with pendingCommand := none })
  | associated {event} (pending : station.state = .associating)
      (confirmed : station.confirms event 16 26) :
      Effect station (.controlEvent (.association event)) true station.associated
  | disconnected {control event peer}
      (kind : control = .deauthentication event ∨ control = .disassociation event)
      (names : station.headerMatches (controlEventHeader control))
      (address : mlmeFrameAddress event 10 = some peer) (same : station.peer = some peer) :
      Effect station (.controlEvent control) true
        (transition .idle { station.clearConnection with
          pendingCommand := none, pendingReturnState := none })
  | regulatory {header country} (pending : station.state = .regulatoryPending) :
      Effect station (.controlEvent (.regulatoryChange header country)) true
        (transition (station.pendingReturnState.getD .down)
          { station with pendingCommand := none, pendingReturnState := none })
  | interfaceCreated {header body} (pending : station.state = .interfaceCreatePending) :
      Effect station (.controlEvent (.other header body)) true
        (transition .down { station with interfaceCreated := true, pendingCommand := none })
  | answered {header command}
      (names : station.headerMatches header)
      (pending : station.pendingCommand.map UmacCommand.number = some command) :
      Effect station (.controlEvent (.commandStatus header command 0)) true
        (applySuccessfulCommand command { station with pendingCommand := none })
  | carrierOn {wdevId} (own : wdevId = station.wdevId) :
      Effect station (.dataEvent (.carrierOn wdevId)) true
        (refreshConnected { station with carrierOn := true })
  | carrierOff {wdevId} (apart : station.state ≠ .connected) :
      Effect station (.dataEvent (.carrierOff wdevId)) true { station with carrierOn := false }
  | carrierLost {wdevId} (connected : station.state = .connected) :
      Effect station (.dataEvent (.carrierOff wdevId)) false
        (faulted .carrierLost
          (transition .idle (clearConnection { station with carrierOn := false })))
  | ticked {elapsedMs} (remaining : UInt32) :
      Effect station (.advanceTime elapsedMs) true { station with remainingMs := some remaining }
  | timeoutsSet {timeouts} :
      Effect station (.setTimeouts timeouts) true (station.setTimeouts timeouts)
  | rekeyed : Effect station .completeGroupRekey true station.completeGroupRekey
  | recoveryBegan : Effect station .beginRecovery true station.beginRecovery
  | recoveryCompleted : Effect station .recoveryComplete true station.recoveryComplete

end StationController

end Nrf7002
