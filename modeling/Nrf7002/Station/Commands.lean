import Nrf7002.Station.Effects
import Nrf7002.Device.Delivery

/-! # Commands are all or nothing

A command that succeeds has posted one complete message and waits for its answer; one
that fails has changed nothing of the station but the command buffer.  Two commands
differ: the default interface is claimed without a message, and an association with
another peer is a fault. -/

set_option autoImplicit false

namespace Nrf7002
open Foundation

/-- A message that was sent had the length that its header declares. -/
theorem Device.complete_of_sent {β ε : Type} [Bus β ε] {message : Bytes} {attempts : Nat}
    {device next : Device β} (ends : Returns (sendControlWithWait message attempts) device () next) :
    (validateCompleteMessage message : Except (DeviceError ε) Unit) = .ok () := by
  obtain ⟨queues, ready, prepared, _⟩ := returns_bind.mp ends
  obtain ⟨_, valid, checked, _⟩ := returns_bind.mp prepared
  exact (returns_liftResult.mp checked).1

namespace StationController
variable {β ε : Type}

/-! ## The commands -/

section Methods
variable [Bus β ε]

/-- The command that an operation is, and the device that it is sent through. -/
def commandOf : StationOperation β → Option (Device β × Command β ε Unit)
  | .createInterface device macAddress interfaceName =>
      some (device, StationController.createInterface macAddress interfaceName)
  | .setRegulatory device country userHintType force =>
      some (device, StationController.setRegulatory country userHintType force)
  | .bringUp device => some (device, StationController.bringUp)
  | .bringDown device => some (device, StationController.bringDown)
  | .startScan device request => some (device, StationController.startScan request)
  | .requestScanResults device reason =>
      some (device, StationController.requestScanResults reason)
  | .authenticate device request => some (device, StationController.authenticate request)
  | .associate device request => some (device, StationController.associate request)
  | .keyCommand device command key => some (device, StationController.keyCommand command key)
  | .setKey device key => some (device, StationController.setKey key)
  | .authorize device => some (device, StationController.authorize)
  | .setPowerSave device state => some (device, StationController.setPowerSave state)
  | .setPowerSaveTimeout device timeoutMs =>
      some (device, StationController.setPowerSaveTimeout timeoutMs)
  | .disconnect device reasonCode => some (device, StationController.disconnect reasonCode)
  | _ => none

theorem perform_commandOf {operation : StationOperation β} {device : Device β}
    {command : Command β ε Unit} (is : commandOf operation = some (device, command)) :
    perform operation = through device command := by
  cases operation with
  | controlEvent event => cases is
  | dataEvent event => cases is
  | advanceTime elapsedMs => cases is
  | setTimeouts timeouts => cases is
  | completeGroupRekey => cases is
  | beginRecovery => cases is
  | recoveryComplete => cases is
  | _ =>
      obtain ⟨rfl, rfl⟩ := Prod.mk.inj (Option.some.inj is)
      rfl

end Methods

/-- The message that a command posts, by its encoder.  The default interface needs none. -/
def messageOf (station : StationController) :
    StationOperation β → Option (Program Bytes ProtocolError Nat)
  | .createInterface _ macAddress interfaceName =>
      if station.wdevId = 0 then none
      else some (encodeNewInterface station.wdevId .station macAddress interfaceName)
  | .setRegulatory _ country userHintType force =>
      some (encodeSetRegulatory station.wdevId country userHintType force)
  | .bringUp _ => some (encodeInterfaceState station.wdevId true station.firmwareIndex)
  | .bringDown _ => some (encodeInterfaceState station.wdevId false station.firmwareIndex)
  | .startScan _ request => some (encodeScan station.wdevId request)
  | .requestScanResults _ reason => some (encodeGetScanResults station.wdevId reason)
  | .authenticate _ request => some (encodeAuthenticate station.wdevId request)
  | .associate _ request => some (encodeAssociate station.wdevId request)
  | .keyCommand _ command key =>
      some (encodeKeyCommand station.wdevId command (station.namedPeer key) key)
  | .setKey _ key => some (encodeSetKey station.wdevId key)
  | .authorize _ =>
      station.peer.map fun peer => encodeStationAuthorized station.wdevId peer true
  | .setPowerSave _ state => some (encodePowerSave station.wdevId state)
  | .setPowerSaveTimeout _ timeoutMs => some (encodePowerSaveTimeout station.wdevId timeoutMs)
  | .disconnect _ reasonCode =>
      station.peer.map fun peer => encodeDeauthenticate station.wdevId peer reasonCode false
  | _ => none

/-- The state in which the answer of a command is awaited, and the command it answers. -/
def pendingOf : StationOperation β → Option (StationState × UmacCommand)
  | .createInterface _ _ _ => some (.interfaceCreatePending, .newInterface)
  | .setRegulatory _ _ _ _ => some (.regulatoryPending, .requestSetRegulatory)
  | .bringUp _ => some (.interfaceUpPending, .setInterfaceFlags)
  | .bringDown _ => some (.interfaceDownPending, .setInterfaceFlags)
  | .startScan _ _ => some (.scanning, .triggerScan)
  | .requestScanResults _ _ => some (.readingScanResults, .getScanResults)
  | .authenticate _ _ => some (.authenticating, .authenticate)
  | .associate _ _ => some (.associating, .associate)
  | .keyCommand _ command _ => some (.securing, command)
  | .setKey _ _ => some (.securing, .setKey)
  | .authorize _ => some (.authorizing, .setStation)
  | .setPowerSave _ _ => some (.powerSavePending, .setPowerSave)
  | .setPowerSaveTimeout _ _ => some (.powerSavePending, .setPowerSaveTimeout)
  | .disconnect _ _ => some (.disconnecting, .deauthenticate)
  | _ => none

/-! ## What a command does -/

section Endings
variable [Bus β ε]

/-- One message is on the wire: what the encoder wrote, of the length that its header
declares, and all the transfers since then delivered it. -/
structure PostedOnce (ε : Type) [Bus β ε] (encode : Program Bytes ProtocolError Nat)
    (command : Bytes) (device next : Device (Traced β)) : Prop where
  intro ::
  message : ∃ len after, Returns encode command len after ∧
    (Device.validateCompleteMessage (after.take len) : Except (DeviceError ε) Unit) = .ok () ∧
    Device.Delivery (ε := ε) device (after.take len) (.ok ()) next

/-- How a command ends. -/
inductive CommandEnds (station : StationController) (device : Device (Traced β))
    (operation : StationOperation (Traced β)) :
    Except (StationError ε) Unit → StationController × Device (Traced β) → Prop
  | refused (failure : StationError ε) (command : Bytes) (next : Device (Traced β)) :
      CommandEnds station device operation (.error failure) ({ station with command }, next)
  | mismatched {request : AssociationRequest} (is : operation = .associate device request)
      (apart : station.peer ≠ some request.bssid) :
      CommandEnds station device operation (.error (.fault .peerMismatch))
        (faulted .peerMismatch station, device)
  | claimed {macAddress : Octets 6} {interfaceName : Bytes}
      (is : operation = .createInterface device macAddress interfaceName)
      (default : station.wdevId = 0) {after : StationController} (down : after.state = .down)
      (created : after.interfaceCreated = true) (free : after.pendingCommand = none) :
      CommandEnds station device operation (.ok ()) (after, device)
  | posted {encode : Program Bytes ProtocolError Nat} {state : StationState}
      {command : UmacCommand} {after : StationController} {next : Device (Traced β)}
      (message : station.messageOf operation = some encode)
      (once : PostedOnce ε encode station.command device next)
      (pending : pendingOf operation = some (state, command)) (entered : after.state = state)
      (waits : after.pendingCommand = some command) :
      CommandEnds station device operation (.ok ()) (after, next)

/-- A message is posted once, or the station keeps all but its buffer. -/
theorem post_submit (encode : Program Bytes ProtocolError Nat) (station : StationController)
    (device : Device (Traced β)) :
    Post (submit encode : Command (Traced β) ε Unit) (station, device) (fun r after =>
      (∃ command, after.1 = { station with command }) ∧
        (r = .ok () → PostedOnce ε encode station.command device after.2)) := by
  simp only [submit, onStation, post_bind, post_onField, post_mapError]
  apply (post_self encode station.command).mono
  intro r after ends
  cases r with
  | error failure => exact ⟨⟨after, rfl⟩, fun posted => by cases posted⟩
  | ok len =>
      simp only [Except.mapError, post_get]
      apply (post_self _ device).mono
      intro last next sent
      cases last with
      | error failure => exact ⟨⟨after, rfl⟩, fun posted => by cases posted⟩
      | ok done =>
          have delivery := (Device.post_sendControlWithWait (ε := ε) (after.take len)
            defaultCommandWaitAttempts device).ends
          have returned : Returns (Device.sendControlWithWait (after.take len)
              defaultCommandWaitAttempts : Program (Device (Traced β)) (DeviceError ε) Unit) device
              done next := ⟨sent.1.symm, sent.2.symm⟩
          refine ⟨⟨after, rfl⟩, fun _ => ⟨len, after, ⟨ends.1.symm, ends.2.symm⟩, ?_, ?_⟩⟩
          · exact Device.complete_of_sent returned
          · rwa [returned.1, returned.2] at delivery

variable {station : StationController} {device : Device (Traced β)}
  {operation : StationOperation (Traced β)}

theorem ends_refused (failure : StationError ε) :
    CommandEnds station device operation (.error failure) (station, device) :=
  .refused failure station.command device

/-- A command that posts its message and then enters its state. -/
theorem ends_submit {encode : Program Bytes ProtocolError Nat}
    {f : StationController → StationController} {state : StationState} {waiting : UmacCommand}
    (message : station.messageOf operation = some encode)
    (pending : pendingOf operation = some (state, waiting))
    (entered : ∀ command, (f { station with command }).state = state)
    (waits : ∀ command, (f { station with command }).pendingCommand = some waiting) :
    Post (do submit encode; update f : Command (Traced β) ε Unit) (station, device)
      (CommandEnds station device operation) := by
  rw [post_bind]
  apply (post_submit encode station device).mono
  intro r after outcome
  obtain ⟨after, next⟩ := after
  obtain ⟨⟨command, rfl⟩, posted⟩ := outcome
  cases r with
  | error failure => exact .refused failure command next
  | ok done =>
      rw [update, post_modify]
      exact .posted message (posted rfl) pending (entered command) (waits command)

theorem ends_createInterface (macAddress : Octets 6) (interfaceName : Bytes) :
    Post (createInterface macAddress interfaceName : Command (Traced β) ε Unit) (station, device)
      (CommandEnds station device (.createInterface device macAddress interfaceName)) := by
  unfold createInterface
  apply post_require ends_refused
  intro down
  rw [post_bind, post_get]
  apply post_unless ends_refused
  intro _
  by_cases named : station.wdevId ≠ 0
  · rw [claimFirmwareDefaultInterface, if_pos named]
    exact ends_submit (if_neg named) rfl (fun _ => rfl) fun _ => rfl
  · rw [claimFirmwareDefaultInterface, if_neg named]
    exact ⟨.claimed rfl (not_not.mp named) rfl rfl rfl⟩

theorem ends_setRegulatory (country : UInt8 × UInt8) (userHintType : UInt32) (force : Bool) :
    Post (setRegulatory country userHintType force : Command (Traced β) ε Unit) (station, device)
      (CommandEnds station device (.setRegulatory device country userHintType force)) := by
  unfold setRegulatory
  apply post_requireOneOf ends_refused
  intro _
  rw [post_bind, post_get]
  exact ends_submit rfl rfl (fun _ => rfl) fun _ => rfl

theorem ends_bringUp :
    Post (bringUp : Command (Traced β) ε Unit) (station, device)
      (CommandEnds station device (.bringUp device)) := by
  unfold bringUp
  apply post_require ends_refused
  intro _
  rw [post_bind, post_get]
  apply post_unless ends_refused
  intro _
  exact ends_submit rfl rfl (fun _ => rfl) fun _ => rfl

theorem ends_bringDown :
    Post (bringDown : Command (Traced β) ε Unit) (station, device)
      (CommandEnds station device (.bringDown device)) := by
  unfold bringDown
  apply post_requireOneOf ends_refused
  intro _
  rw [post_bind, post_get]
  apply post_unless ends_refused
  intro _
  exact ends_submit rfl rfl (fun _ => rfl) fun _ => rfl

theorem ends_startScan (request : ScanRequest) :
    Post (startScan request : Command (Traced β) ε Unit) (station, device)
      (CommandEnds station device (.startScan device request)) := by
  unfold startScan
  apply post_require ends_refused
  intro _
  rw [post_bind, post_get]
  exact ends_submit rfl rfl (fun _ => rfl) fun _ => rfl

theorem ends_requestScanResults (reason : ScanReason) :
    Post (requestScanResults reason : Command (Traced β) ε Unit) (station, device)
      (CommandEnds station device (.requestScanResults device reason)) := by
  unfold requestScanResults
  apply post_require ends_refused
  intro _
  rw [post_bind, post_get]
  exact ends_submit rfl rfl (fun _ => rfl) fun _ => rfl

theorem ends_authenticate (request : AuthenticationRequest) :
    Post (authenticate request : Command (Traced β) ε Unit) (station, device)
      (CommandEnds station device (.authenticate device request)) := by
  unfold authenticate
  apply post_require ends_refused
  intro _
  rw [post_bind, post_get]
  exact ends_submit rfl rfl (fun _ => rfl) fun _ => rfl

theorem ends_associate (request : AssociationRequest) :
    Post (associate request : Command (Traced β) ε Unit) (station, device)
      (CommandEnds station device (.associate device request)) := by
  unfold associate
  apply post_require ends_refused
  intro _
  rw [post_bind, post_get]
  dsimp only
  by_cases apart : station.peer ≠ some request.bssid
  · simp only [if_pos apart]
    exact ⟨.mismatched rfl apart⟩
  · simp only [if_neg apart]
    exact ends_submit rfl rfl (fun _ => rfl) fun _ => rfl

theorem ends_keyCommand (command : UmacCommand) (key : KeyConfig) :
    Post (keyCommand command key : Command (Traced β) ε Unit) (station, device)
      (CommandEnds station device (.keyCommand device command key)) := by
  unfold keyCommand
  apply post_requireOneOf ends_refused
  intro _
  apply post_keyPeer ends_refused
  intro peer named
  subst named
  rw [post_bind, post_get]
  exact ends_submit rfl rfl (fun _ => rfl) fun _ => rfl

theorem ends_setKey (key : KeyConfig) :
    Post (setKey key : Command (Traced β) ε Unit) (station, device)
      (CommandEnds station device (.setKey device key)) := by
  unfold setKey
  apply post_require ends_refused
  intro _
  rw [post_bind, post_get]
  exact ends_submit rfl rfl (fun _ => rfl) fun _ => rfl

theorem ends_authorize :
    Post (authorize : Command (Traced β) ε Unit) (station, device)
      (CommandEnds station device (.authorize device)) := by
  unfold authorize
  apply post_require ends_refused
  intro _
  apply post_requirePeer ends_refused
  intro peer known
  rw [post_bind, post_get]
  apply ends_submit _ rfl (fun _ => rfl) fun _ => rfl
  rw [messageOf, known]
  rfl

theorem ends_setPowerSave (state : PowerSaveState) :
    Post (setPowerSave state : Command (Traced β) ε Unit) (station, device)
      (CommandEnds station device (.setPowerSave device state)) := by
  unfold setPowerSave
  apply post_requireOneOf ends_refused
  intro _
  rw [post_bind, post_get]
  exact ends_submit rfl rfl (fun _ => rfl) fun _ => rfl

theorem ends_setPowerSaveTimeout (timeoutMs : Int32) :
    Post (setPowerSaveTimeout timeoutMs : Command (Traced β) ε Unit) (station, device)
      (CommandEnds station device (.setPowerSaveTimeout device timeoutMs)) := by
  unfold setPowerSaveTimeout
  apply post_requireOneOf ends_refused
  intro _
  apply post_unless ends_refused
  intro _
  rw [post_bind, post_get]
  exact ends_submit rfl rfl (fun _ => rfl) fun _ => rfl

theorem ends_disconnect (reasonCode : UInt16) :
    Post (disconnect reasonCode : Command (Traced β) ε Unit) (station, device)
      (CommandEnds station device (.disconnect device reasonCode)) := by
  unfold disconnect
  apply post_requireOneOf ends_refused
  intro _
  apply post_requirePeer ends_refused
  intro peer known
  rw [post_bind, post_get]
  apply ends_submit _ rfl (fun _ => rfl) fun _ => rfl
  rw [messageOf, known]
  rfl

/-- A command that is sent through any device, over any bus, is all or nothing; its step in a
run is the same command. -/
def AllOrNothing (ε : Type) [Bus β ε] (station : StationController)
    (operation : StationOperation (Traced β)) : Prop :=
  ∀ device (command : Command (Traced β) ε Unit), commandOf operation = some (device, command) →
    perform operation = through device command ∧
      Post command (station, device) (CommandEnds station device operation)

theorem command_all_or_nothing (station : StationController)
    (operation : StationOperation (Traced β)) : AllOrNothing ε station operation := by
  intro device command is
  refine ⟨perform_commandOf is, ?_⟩
  have sent {sender : Device (Traced β)} {method : Command (Traced β) ε Unit}
      (is : some (sender, method) = some (device, command)) : sender = device ∧ method = command :=
    Prod.mk.inj (Option.some.inj is)
  cases operation with
  | createInterface sender macAddress interfaceName =>
      obtain ⟨rfl, rfl⟩ := sent is
      exact ends_createInterface macAddress interfaceName
  | setRegulatory sender country userHintType force =>
      obtain ⟨rfl, rfl⟩ := sent is
      exact ends_setRegulatory country userHintType force
  | bringUp sender =>
      obtain ⟨rfl, rfl⟩ := sent is
      exact ends_bringUp
  | bringDown sender =>
      obtain ⟨rfl, rfl⟩ := sent is
      exact ends_bringDown
  | startScan sender request =>
      obtain ⟨rfl, rfl⟩ := sent is
      exact ends_startScan request
  | requestScanResults sender reason =>
      obtain ⟨rfl, rfl⟩ := sent is
      exact ends_requestScanResults reason
  | authenticate sender request =>
      obtain ⟨rfl, rfl⟩ := sent is
      exact ends_authenticate request
  | associate sender request =>
      obtain ⟨rfl, rfl⟩ := sent is
      exact ends_associate request
  | keyCommand sender command key =>
      obtain ⟨rfl, rfl⟩ := sent is
      exact ends_keyCommand command key
  | setKey sender key =>
      obtain ⟨rfl, rfl⟩ := sent is
      exact ends_setKey key
  | authorize sender =>
      obtain ⟨rfl, rfl⟩ := sent is
      exact ends_authorize
  | setPowerSave sender state =>
      obtain ⟨rfl, rfl⟩ := sent is
      exact ends_setPowerSave state
  | setPowerSaveTimeout sender timeoutMs =>
      obtain ⟨rfl, rfl⟩ := sent is
      exact ends_setPowerSaveTimeout timeoutMs
  | disconnect sender reasonCode =>
      obtain ⟨rfl, rfl⟩ := sent is
      exact ends_disconnect reasonCode
  | controlEvent event => cases is
  | dataEvent event => cases is
  | advanceTime elapsedMs => cases is
  | setTimeouts timeouts => cases is
  | completeGroupRekey => cases is
  | beginRecovery => cases is
  | recoveryComplete => cases is

end Endings

end StationController

end Nrf7002
