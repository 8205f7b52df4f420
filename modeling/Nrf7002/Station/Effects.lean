import Nrf7002.Station.Run

/-! # Every operation has one of its listed effects

A command is refused, or it posts its message and moves on; a handler fails closed,
ignores its event, or applies it.  `step_effect` is the only fact about the methods
that the invariants use. -/

set_option autoImplicit false

namespace Nrf7002
open Foundation

namespace StationController
variable {β ε : Type}

/-! ## What a success keeps -/

section Success

theorem pendingCommand_refreshConnected (station : StationController) :
    station.refreshConnected.pendingCommand = station.pendingCommand := by
  rw [refreshConnected]
  split_ifs
  · rfl
  · rfl

theorem authorized_refreshConnected (station : StationController) :
    station.refreshConnected.controlledPortAuthorized = station.controlledPortAuthorized := by
  rw [refreshConnected]
  split_ifs
  · rfl
  · rfl

theorem pendingCommand_applySuccessfulCommand (command : UInt32) (station : StationController) :
    (applySuccessfulCommand command station).pendingCommand = station.pendingCommand := by
  rw [applySuccessfulCommand]
  split_ifs
  · rfl
  · exact pendingCommand_refreshConnected _
  · rfl
  · rfl

/-- A success other than that of SET_STATION leaves the authorization as it is. -/
theorem authorized_applySuccessfulCommand {command : UInt32}
    (other : command ≠ UmacCommand.setStation.number) (station : StationController) :
    (applySuccessfulCommand command station).controlledPortAuthorized =
      station.controlledPortAuthorized := by
  rw [applySuccessfulCommand]
  split_ifs with first named
  · rfl
  · exact absurd named.1 other
  · rfl
  · rfl

end Success

/-! ## Commands -/

section CommandEffects

theorem post_through (device : Device β) (command : Command β ε Unit)
    (station : StationController) (Q : Except (StationError ε) Unit → StationController → Prop) :
    Post (through device command) station Q ↔
      Post command (station, device) (fun result after => Q result after.1) := by
  simp only [post_iff, resultOf, stateAfter, through]
  cases command (station, device) <;> rfl

section Submission
variable [Bus β ε]

/-- Posting a message changes nothing of the station but its command buffer. -/
theorem submit_keeps (encode : Program Bytes ProtocolError Nat)
    (s : StationController × Device β) :
    Post (submit encode) s (fun _ after => ∃ command, after.1 = { s.1 with command }) := by
  simp only [submit, onStation, post_bind, post_onField, post_mapError]
  rw [post_iff]
  cases resultOf encode s.1.command with
  | error failure => exact ⟨_, rfl⟩
  | ok len =>
      simp only [Except.mapError, post_get]
      rw [post_iff]
      exact ⟨_, rfl⟩

/-- A command whose message is encoded and delivered is posted. -/
theorem submit_ok {encode : Program Bytes ProtocolError Nat} {message : Bytes}
    {station : StationController} {device : Device β}
    (encoded : Post encode station.command fun result after =>
      ∃ len, result = .ok len ∧ after.take len = message)
    (sent : (resultOf (Device.sendControlReliable message : Program (Device β) (DeviceError ε) Unit)
      device).isOk = true) :
    Post (submit encode) (station, device) fun result after =>
      result = .ok () ∧ ∃ command, after.1 = { station with command } := by
  simp only [submit, onStation, post_bind, post_onField, post_mapError]
  refine encoded.mono ?_
  rintro _ after ⟨len, rfl, taken⟩
  simp only [Except.mapError, post_get, taken]
  rw [post_iff]
  cases delivered : resultOf (Device.sendControlReliable message) device with
  | error failure =>
      rw [delivered] at sent
      exact absurd sent (by simp [Except.isOk, Except.toBool])
  | ok _ => exact ⟨rfl, _, rfl⟩

end Submission

/-! A command ends as asked for if every failure that changes nothing does and the rest of
it does. -/

section Guards
variable {Q : Except (StationError ε) Unit → StationController × Device β → Prop}
  {station : StationController} {device : Device β}

theorem post_require {required : StationState} {next : Unit → Command β ε Unit}
    (refused : ∀ failure, Q (.error failure) (station, device))
    (admitted : station.state = required → Post (next ()) (station, device) Q) :
    Post (onStation (require required) >>= next) (station, device) Q := by
  simp only [onStation, require, post_bind, post_onField, post_get, post_ite]
  by_cases state : station.state = required
  · rw [if_neg (not_not_intro state), post_pure]
    exact admitted state
  · rw [if_pos state, post_throw]
    exact refused _

theorem post_requireOneOf {first : StationState} {others : List StationState}
    {next : Unit → Command β ε Unit}
    (refused : ∀ failure, Q (.error failure) (station, device))
    (admitted : station.state ∈ first :: others → Post (next ()) (station, device) Q) :
    Post (onStation (requireOneOf first others) >>= next) (station, device) Q := by
  simp only [onStation, requireOneOf, post_bind, post_onField, post_get, post_ite]
  by_cases state : station.state ∈ first :: others
  · rw [if_neg (not_not_intro state), post_pure]
    exact admitted state
  · rw [if_pos state, post_throw]
    exact refused _

theorem post_requirePeer {next : Octets 6 → Command β ε Unit}
    (refused : ∀ failure, Q (.error failure) (station, device))
    (admitted : ∀ peer, station.peer = some peer → Post (next peer) (station, device) Q) :
    Post (onStation requirePeer >>= next) (station, device) Q := by
  simp only [onStation, requirePeer, post_bind, post_onField, post_get]
  cases known : station.peer with
  | none =>
      rw [post_throw]
      exact refused _
  | some peer =>
      rw [post_pure]
      exact admitted peer known

/-- The peer that a key command names. -/
def namedPeer (station : StationController) (key : KeyConfig) : Option (Octets 6) :=
  match key.keyType with
  | .group => none
  | .pairwise | .peer => station.peer

theorem post_keyPeer {key : KeyConfig} {next : Option (Octets 6) → Command β ε Unit}
    (refused : ∀ failure, Q (.error failure) (station, device))
    (admitted : ∀ peer, station.namedPeer key = peer → Post (next peer) (station, device) Q) :
    Post (onStation (keyPeer key) >>= next) (station, device) Q := by
  have addressed (named : station.namedPeer key = station.peer) :
      Post (onStation (some <$> requirePeer) >>= next) (station, device) Q := by
    simp only [onStation, requirePeer, post_bind, post_onField, post_map, post_get]
    cases known : station.peer with
    | none =>
        rw [post_throw]
        exact refused _
    | some peer =>
        rw [post_pure]
        exact admitted (some peer) (named.trans known)
  rw [namedPeer] at admitted addressed
  rw [keyPeer]
  cases kind : key.keyType with
  | group =>
      rw [kind] at admitted
      exact admitted none rfl
  | pairwise =>
      rw [kind] at addressed
      exact addressed rfl
  | peer =>
      rw [kind] at addressed
      exact addressed rfl

theorem post_unless {failing : Prop} [Decidable failing] {failure : StationError ε}
    {next : PUnit → Command β ε Unit}
    (refused : ∀ failure, Q (.error failure) (station, device))
    (admitted : ¬ failing → Post (next ⟨⟩) (station, device) Q) :
    Post (if failing then throw failure >>= next else next ⟨⟩) (station, device) Q := by
  by_cases fails : failing
  · rw [if_pos fails]
    exact ⟨refused failure⟩
  · rw [if_neg fails]
    exact admitted fails

end Guards

/-- Every run of a command from this station and device has one of its effects. -/
def Effective (station : StationController) (device : Device β) (operation : StationOperation β)
    (command : Command β ε Unit) : Prop :=
  Post command (station, device) fun result after =>
    Effect station operation result.isOk after.1

variable {station : StationController} {device : Device β} {operation : StationOperation β}

theorem Effect.unchanged : Effect station operation false station := .refused station.command

theorem effective_require {required : StationState} {next : Unit → Command β ε Unit}
    (admitted : station.state = required → Effective station device operation (next ())) :
    Effective station device operation (onStation (require required) >>= next) :=
  post_require (fun _ => Effect.unchanged) admitted

theorem effective_requireOneOf {first : StationState} {others : List StationState}
    {next : Unit → Command β ε Unit}
    (admitted : station.state ∈ first :: others → Effective station device operation (next ())) :
    Effective station device operation (onStation (requireOneOf first others) >>= next) :=
  post_requireOneOf (fun _ => Effect.unchanged) admitted

theorem effective_requirePeer {next : Octets 6 → Command β ε Unit}
    (admitted : ∀ peer, Effective station device operation (next peer)) :
    Effective station device operation (onStation requirePeer >>= next) :=
  post_requirePeer (fun _ => Effect.unchanged) fun peer _ => admitted peer

theorem effective_keyPeer {key : KeyConfig} {next : Option (Octets 6) → Command β ε Unit}
    (admitted : ∀ peer, Effective station device operation (next peer)) :
    Effective station device operation (onStation (keyPeer key) >>= next) :=
  post_keyPeer (fun _ => Effect.unchanged) fun peer _ => admitted peer

theorem effective_unless {failing : Prop} [Decidable failing] {failure : StationError ε}
    {next : PUnit → Command β ε Unit}
    (admitted : ¬ failing → Effective station device operation (next ⟨⟩)) :
    Effective station device operation
      (if failing then throw failure >>= next else next ⟨⟩) :=
  post_unless (fun _ => Effect.unchanged) admitted

theorem effective_get {next : StationController × Device β → Command β ε Unit}
    (admitted : Effective station device operation (next (station, device))) :
    Effective station device operation (get >>= next) := by
  rwa [Effective, post_bind, post_get]

section Commands
variable [Bus β ε]

/-- A command that posts its message in a permitted state takes its effect there;
when the message is not posted the station stays as it was. -/
theorem effective_submit {encode : Program Bytes ProtocolError Nat}
    {f : StationController → StationController}
    (ready : station.submittable operation)
    (same : ∀ command, f { station with command } =
      submitted { station with command } operation) :
    Effective station device operation (do submit encode; update f) := by
  rw [Effective, post_bind]
  refine (submit_keeps encode (station, device)).mono ?_
  rintro result ⟨after, rest⟩ ⟨command, rfl⟩
  cases result with
  | error failure => exact .refused command
  | ok _ =>
      simp only [update, post_modify, same]
      exact .posted command ready

theorem createInterface_effect (macAddress : Octets 6) (interfaceName : Bytes) :
    Effective station device (.createInterface device macAddress interfaceName)
      (createInterface macAddress interfaceName) := by
  unfold createInterface
  refine effective_require fun down => effective_get (effective_unless fun _ => ?_)
  by_cases default : station.wdevId ≠ 0
  · rw [claimFirmwareDefaultInterface, if_pos default]
    exact effective_submit down fun _ => rfl
  · rw [claimFirmwareDefaultInterface, if_neg default]
    exact ⟨Effect.claimed down⟩

theorem setRegulatory_effect (country : UInt8 × UInt8) (userHintType : UInt32) (force : Bool) :
    Effective station device (.setRegulatory device country userHintType force)
      (setRegulatory country userHintType force) := by
  unfold setRegulatory
  refine effective_requireOneOf fun state => effective_get ?_
  have ready : station.state = .down ∨ station.state = .idle := by
    simpa using state
  exact effective_submit ready fun _ => rfl

theorem bringUp_effect : Effective station device (.bringUp device) bringUp := by
  unfold bringUp
  refine effective_require fun down => effective_get (effective_unless fun _ => ?_)
  exact effective_submit down fun _ => rfl

theorem bringDown_effect : Effective station device (.bringDown device) bringDown := by
  unfold bringDown
  refine effective_requireOneOf fun state => effective_get (effective_unless fun _ => ?_)
  have ready : station.state = .idle ∨ station.state = .connected ∨ station.state = .fault := by
    simpa using state
  exact effective_submit ready fun _ => rfl

theorem startScan_effect (request : ScanRequest) :
    Effective station device (.startScan device request) (startScan request) := by
  unfold startScan
  refine effective_require fun idle => effective_get ?_
  exact effective_submit idle fun _ => rfl

theorem requestScanResults_effect (reason : ScanReason) :
    Effective station device (.requestScanResults device reason) (requestScanResults reason) := by
  unfold requestScanResults
  refine effective_require fun complete => effective_get ?_
  exact effective_submit complete fun _ => rfl

theorem authenticate_effect (request : AuthenticationRequest) :
    Effective station device (.authenticate device request) (authenticate request) := by
  unfold authenticate
  refine effective_require fun idle => effective_get ?_
  exact effective_submit idle fun _ => rfl

theorem associate_effect (request : AssociationRequest) :
    Effective station device (.associate device request) (associate request) := by
  unfold associate
  refine effective_require fun authenticated => effective_get ?_
  by_cases mismatch : station.peer ≠ some request.bssid
  · simp only [if_pos mismatch]
    exact ⟨Effect.failed .peerMismatch station.command⟩
  · simp only [if_neg mismatch]
    exact effective_submit ⟨authenticated, not_not.mp mismatch⟩ fun _ => rfl

theorem keyCommand_effect (command : UmacCommand) (key : KeyConfig) :
    Effective station device (.keyCommand device command key) (keyCommand command key) := by
  unfold keyCommand
  refine effective_requireOneOf fun state => ?_
  have ready : station.state = .securing ∨ station.state = .authorizing
      ∨ station.state = .connected := by
    simpa using state
  refine effective_keyPeer fun peer => effective_get ?_
  exact effective_submit ready fun _ => rfl

theorem setKey_effect (key : KeyConfig) :
    Effective station device (.setKey device key) (setKey key) := by
  unfold setKey
  refine effective_require fun securing => effective_get ?_
  exact effective_submit securing fun _ => rfl

theorem authorize_effect : Effective station device (.authorize device) authorize := by
  unfold authorize
  refine effective_require fun securing => effective_requirePeer fun _ => effective_get ?_
  exact effective_submit securing fun _ => rfl

theorem setPowerSave_effect (state : PowerSaveState) :
    Effective station device (.setPowerSave device state) (setPowerSave state) := by
  unfold setPowerSave
  refine effective_requireOneOf fun state => effective_get ?_
  have ready : station.state = .idle ∨ station.state = .connected := by
    simpa using state
  exact effective_submit ready fun _ => rfl

theorem setPowerSaveTimeout_effect (timeoutMs : Int32) :
    Effective station device (.setPowerSaveTimeout device timeoutMs)
      (setPowerSaveTimeout timeoutMs) := by
  unfold setPowerSaveTimeout
  refine effective_requireOneOf fun state => effective_unless fun _ => effective_get ?_
  have ready : station.state = .idle ∨ station.state = .connected := by
    simpa using state
  exact effective_submit ready fun _ => rfl

theorem disconnect_effect (reasonCode : UInt16) :
    Effective station device (.disconnect device reasonCode) (disconnect reasonCode) := by
  unfold disconnect
  refine effective_requireOneOf fun state => effective_requirePeer fun _ => effective_get ?_
  have ready : station.state = .authenticated ∨ station.state = .associating
      ∨ station.state = .securing ∨ station.state = .authorizing
      ∨ station.state = .awaitingCarrier ∨ station.state = .connected := by
    simpa using state
  exact effective_submit ready fun _ => rfl

end Commands

end CommandEffects

/-! ## Events -/

section EventEffects
variable {station : StationController}

@[simp] theorem post_fail {α : Type} (fault : StationFault) (station : StationController)
    (Q : Except (StationError ε) α → StationController → Prop) :
    Post (fail fault) station Q ↔ Q (.error (.fault fault)) (faulted fault station) :=
  post_iff _ _ _

/-! A handler ends as asked for if each fault it may raise does and the rest of it does. -/

section Guards
variable {Q : Except (StationError ε) Unit → StationController → Prop}

theorem post_failIf {failing : Prop} [Decidable failing] {fault : StationFault}
    {next : PUnit → Handler ε Unit} (failed : Q (.error (.fault fault)) (faulted fault station))
    (admitted : ¬ failing → Post (next ⟨⟩) station Q) :
    Post (if failing then fail fault >>= next else next ⟨⟩) station Q := by
  by_cases fails : failing
  · rw [if_pos fails]
    exact ⟨failed⟩
  · rw [if_neg fails]
    exact admitted fails

theorem post_checkPeer {peer : Octets 6} {next : Unit → Handler ε Unit}
    (failed : Q (.error (.fault .peerMismatch)) (faulted .peerMismatch station))
    (admitted : station.peer = some peer → Post (next ()) station Q) :
    Post (checkPeer peer >>= next) station Q := by
  simp only [checkPeer, post_bind, post_get, post_ite, post_fail, post_pure]
  by_cases same : station.peer = some peer
  · rw [if_neg (not_not_intro same)]
    exact admitted same
  · rw [if_pos same]
    exact failed

theorem post_validatePendingCommand {command status : UInt32} {next : Unit → Handler ε Unit}
    (failed : ∀ fault, Q (.error (.fault fault)) (faulted fault station))
    (admitted : station.pendingCommand.map UmacCommand.number = some command → status = 0 →
      Post (next ()) station Q) :
    Post (validatePendingCommand command status >>= next) station Q := by
  simp only [validatePendingCommand, post_bind, post_get, post_ite, post_fail, post_pure]
  by_cases pending : station.pendingCommand.map UmacCommand.number = some command
  · rw [if_neg (not_not_intro pending)]
    by_cases zero : status = 0
    · rw [if_neg (not_not_intro zero)]
      exact admitted pending zero
    · rw [if_pos zero]
      exact failed _
  · rw [if_pos pending]
    exact failed _

theorem post_checkHeader {header : UmacHeader} {next : Unit → Handler ε Unit}
    (failed : ∀ fault, Q (.error (.fault fault)) (faulted fault station))
    (admitted : station.headerMatches header = true → Post (next ()) station Q) :
    Post (checkHeader header >>= next) station Q := by
  simp only [checkHeader, post_bind, post_get]
  by_cases names : station.headerMatches header = true
  · rw [if_neg (not_not_intro names), post_pure]
    exact admitted names
  · rw [if_pos names, post_fail]
    exact failed _

theorem post_requireDataInterface {wdevId : UInt32} {next : Unit → Handler ε Unit}
    (failed : ∀ fault, Q (.error (.fault fault)) (faulted fault station))
    (admitted : wdevId = station.wdevId → Post (next ()) station Q) :
    Post (requireDataInterface wdevId >>= next) station Q := by
  simp only [requireDataInterface, post_bind, post_get, post_ite, post_fail, post_pure]
  by_cases own : wdevId = station.wdevId
  · rw [if_neg (not_not_intro own)]
    exact admitted own
  · rw [if_pos own]
    exact failed _

end Guards

theorem Effect.failedHere {operation : StationOperation β} (fault : StationFault) :
    Effect station operation false (faulted fault station) := .failed fault station.command

/-- Every run of an event handler has one of the effects of its event. -/
def Handles (station : StationController) (operation : StationOperation β)
    (handler : Handler ε Unit) : Prop :=
  Post handler station fun result after => Effect station operation result.isOk after

variable {operation : StationOperation β}

theorem handles_fail (fault : StationFault) :
    Handles station operation (fail fault : Handler ε Unit) := ⟨Effect.failedHere fault⟩

theorem handles_failIf {failing : Prop} [Decidable failing] {fault : StationFault}
    {next : PUnit → Handler ε Unit}
    (admitted : ¬ failing → Handles station operation (next ⟨⟩)) :
    Handles station operation (if failing then fail fault >>= next else next ⟨⟩) :=
  post_failIf (Effect.failedHere fault) admitted

theorem handles_get {next : StationController → Handler ε Unit}
    (admitted : Handles station operation (next station)) :
    Handles station operation (get >>= next) := by
  rwa [Handles, post_bind, post_get]

theorem handles_modify {f : StationController → StationController}
    (effect : Effect station operation true (f station)) :
    Handles station operation (modify f : Handler ε Unit) := ⟨effect⟩

theorem handles_checkPeer {peer : Octets 6} {next : Unit → Handler ε Unit}
    (admitted : station.peer = some peer → Handles station operation (next ())) :
    Handles station operation (checkPeer peer >>= next) :=
  post_checkPeer (Effect.failedHere _) admitted

theorem handles_liftResult {α : Type} {result : Except (StationError ε) α}
    {next : α → Handler ε Unit}
    (admitted : ∀ value, result = .ok value → Handles station operation (next value)) :
    Handles station operation (liftResult result >>= next) := by
  rw [Handles, post_bind, post_liftResult]
  cases result with
  | error failure => exact Effect.unchanged
  | ok value => exact admitted value rfl

/-- The common part of the two MLME responses: the frame names the peer, and its
status is zero. -/
theorem handles_response {event : MlmeEvent} {addressOffset statusOffset : Nat}
    {rejected : UInt16 → StationFault} {accept : StationController → StationController}
    (effect : station.confirms event addressOffset statusOffset →
      Effect station operation true (accept station)) :
    Handles station operation (match mlmeFrameAddress event addressOffset with
      | none => fail .unexpectedEvent
      | some peer => do
          checkPeer peer
          let status ← liftResult (mlmeStatus event statusOffset)
          if status ≠ 0 then fail (rejected status)
          modify accept : Handler ε Unit) := by
  cases address : mlmeFrameAddress event addressOffset with
  | none => exact handles_fail _
  | some peer =>
      refine handles_checkPeer fun same => ?_
      refine handles_liftResult fun status known => handles_failIf fun zero => ?_
      refine handles_modify (effect ⟨⟨peer, address, same⟩, ?_⟩)
      rw [mlmeStatus_ok known, not_not.mp zero]

/-- The effects of one control event, whatever bus the run uses. -/
def HandlesControl (β : Type) (station : StationController) (event : ControlEvent)
    (handler : Handler ε Unit) : Prop :=
  Handles station (.controlEvent event : StationOperation β) handler

theorem handleAuthentication_effect (event : MlmeEvent) :
    HandlesControl β station (.authentication event)
      (handleAuthentication event : Handler ε Unit) := by
  unfold handleAuthentication
  refine handles_get (handles_failIf fun authenticating => ?_)
  exact handles_response fun confirmed =>
    .authenticated (not_not.mp authenticating) confirmed

theorem handleAssociation_effect (event : MlmeEvent) :
    HandlesControl β station (.association event)
      (handleAssociation event : Handler ε Unit) := by
  unfold handleAssociation
  refine handles_get (handles_failIf fun associating => ?_)
  exact handles_response fun confirmed => .associated (not_not.mp associating) confirmed

theorem handleDisconnectEvent_effect {event : MlmeEvent} {control : ControlEvent}
    (kind : control = .deauthentication event ∨ control = .disassociation event)
    (names : station.headerMatches (controlEventHeader control)) :
    HandlesControl β station control (handleDisconnectEvent event : Handler ε Unit) := by
  unfold handleDisconnectEvent
  refine handles_get ?_
  by_cases absent : station.peer.isNone
  · simp only [absent, if_true]
    exact ⟨.ignored trivial⟩
  · simp only [absent]
    cases address : mlmeFrameAddress event 10 with
    | none => exact handles_fail _
    | some peer =>
        exact handles_checkPeer fun same =>
          handles_modify (.disconnected kind names address same)

theorem handleInterfaceState_effect (header : UmacHeader) (status : Int32) :
    HandlesControl β station (.interfaceState header status)
      (handleInterfaceState status : Handler ε Unit) := by
  unfold handleInterfaceState
  refine handles_failIf fun zero => handles_get ?_
  obtain rfl : status = 0 := not_not.mp zero
  split
  · rename_i pending
    exact handles_modify (.interfaceUp pending)
  · rename_i pending
    exact handles_modify (.interfaceDown pending)
  · exact handles_fail _

theorem handleScanDone_effect (header : UmacHeader) (status : Int32) (scanType : UInt32) :
    HandlesControl β station (.scanDone header status scanType)
      (handleScanDone status : Handler ε Unit) := by
  unfold handleScanDone
  refine handles_get (handles_failIf fun scanning => ?_)
  rw [Handles, post_bind, post_modify, post_ite]
  by_cases zero : status = 0
  · rw [if_pos zero, post_modify, zero]
    exact .scanDone (not_not.mp scanning)
  · rw [if_neg zero, post_fail]
    exact Effect.failedHere _

theorem handleScanResult_effect (result : ScanResultEvent) :
    HandlesControl β station (.scanResult result)
      (handleScanResult result.header.sequence : Handler ε Unit) := by
  unfold handleScanResult
  refine handles_get (handles_failIf fun reading => ?_)
  split
  · exact handles_modify (.scanEnded (not_not.mp reading))
  · exact handles_modify (.scanResult (not_not.mp reading))

theorem handleRegulatoryChange_effect (header : UmacHeader) (country : UInt8 × UInt8) :
    HandlesControl β station (.regulatoryChange header country)
      (handleRegulatoryChange : Handler ε Unit) := by
  unfold handleRegulatoryChange
  refine handles_get ?_
  split
  · rename_i pending
    exact ⟨.regulatory pending⟩
  · exact ⟨.ignored trivial⟩

theorem handleOther_effect (header : UmacHeader) (body : Bytes) :
    HandlesControl β station (.other header body)
      (handleOther header : Handler ε Unit) := by
  unfold handleOther handleInterfaceCreated
  split
  · refine handles_failIf fun _ => handles_get ?_
    split
    · rename_i pending
      exact ⟨.interfaceCreated pending.1⟩
    · split
      · exact ⟨.ignored trivial⟩
      · exact handles_fail _
  · exact ⟨.ignored trivial⟩

theorem handleCommandStatus_effect {header : UmacHeader} (command status : UInt32)
    (names : station.headerMatches header) :
    HandlesControl β station (.commandStatus header command status)
      (handleCommandStatus command status : Handler ε Unit) := by
  unfold handleCommandStatus
  refine handles_get ?_
  split
  · split
    · exact ⟨.ignored trivial⟩
    · exact handles_fail _
  · refine post_validatePendingCommand Effect.failedHere fun pending zero => ?_
    subst zero
    split
    · exact ⟨.ignored trivial⟩
    · exact handles_modify (.answered names pending)

theorem handleControlEvent_effect (event : ControlEvent) :
    HandlesControl β station event (handleControlEvent event : Handler ε Unit) := by
  have dispatched (names : station.headerMatches (controlEventHeader event)) :
      HandlesControl β station event
        (if isStatusControlEvent event then handleStatusControlEvent event
          else handleProgressControlEvent event : Handler ε Unit) := by
    cases event with
    | scanDone header status scanType => exact handleScanDone_effect header status scanType
    | scanResult result => exact handleScanResult_effect result
    | authentication event => exact handleAuthentication_effect event
    | association event => exact handleAssociation_effect event
    | deauthentication event => exact handleDisconnectEvent_effect (.inl rfl) names
    | disassociation event => exact handleDisconnectEvent_effect (.inr rfl) names
    | commandStatus header command status =>
        exact handleCommandStatus_effect command status names
    | interfaceState header status => exact handleInterfaceState_effect header status
    | regulatoryChange header country => exact handleRegulatoryChange_effect header country
    | other header body => exact handleOther_effect header body
  unfold handleControlEvent
  exact post_checkHeader Effect.failedHere dispatched

theorem handleDataEvent_effect (event : DataEvent) :
    Handles station (.dataEvent event : StationOperation β)
      (handleDataEvent event : Handler ε Unit) := by
  cases event with
  | carrierOn wdevId =>
      exact post_requireDataInterface Effect.failedHere fun own => handles_modify (.carrierOn own)
  | carrierOff wdevId =>
      refine post_requireDataInterface Effect.failedHere fun _ => ?_
      simp only [post_bind, post_modify, post_get, post_ite, post_fail, post_pure]
      by_cases connected : station.state = .connected
      · rw [if_pos connected]
        exact .carrierLost connected
      · rw [if_neg connected]
        exact .carrierOff connected
  | transmitDone token statusCount => exact ⟨.ignored trivial⟩
  | receive => exact ⟨.ignored trivial⟩
  | other command => exact ⟨.ignored trivial⟩

theorem advanceTime_effect (elapsedMs : UInt32) :
    Handles station (.advanceTime elapsedMs : StationOperation β)
      (mapError .fault (advanceTime elapsedMs) : Handler ε Unit) := by
  unfold advanceTime
  simp only [Handles, post_mapError, post_bind, post_get]
  cases station.remainingMs with
  | none =>
      rw [post_pure]
      exact .ignored trivial
  | some remaining =>
      simp only [post_ite, post_set, post_bind, post_modify, post_throw]
      split
      · exact .ticked _
      · exact Effect.failedHere _

end EventEffects

/-! ## Steps -/

section Steps
variable [Bus β ε]

theorem perform_effect (station : StationController) (operation : StationOperation β) :
    Handles station operation (perform operation : Handler ε Unit) := by
  have through_effect : ∀ (device : Device β) (command : Command β ε Unit),
      Effective station device operation command →
        Handles station operation (through device command) :=
    fun device command effective => (post_through device command station _).mpr effective
  cases operation with
  | createInterface device macAddress interfaceName =>
      exact through_effect device _ (createInterface_effect macAddress interfaceName)
  | setRegulatory device country userHintType force =>
      exact through_effect device _ (setRegulatory_effect country userHintType force)
  | bringUp device => exact through_effect device _ bringUp_effect
  | bringDown device => exact through_effect device _ bringDown_effect
  | startScan device request => exact through_effect device _ (startScan_effect request)
  | requestScanResults device reason =>
      exact through_effect device _ (requestScanResults_effect reason)
  | authenticate device request => exact through_effect device _ (authenticate_effect request)
  | associate device request => exact through_effect device _ (associate_effect request)
  | keyCommand device command key => exact through_effect device _ (keyCommand_effect command key)
  | setKey device key => exact through_effect device _ (setKey_effect key)
  | authorize device => exact through_effect device _ authorize_effect
  | setPowerSave device state => exact through_effect device _ (setPowerSave_effect state)
  | setPowerSaveTimeout device timeoutMs =>
      exact through_effect device _ (setPowerSaveTimeout_effect timeoutMs)
  | disconnect device reasonCode => exact through_effect device _ (disconnect_effect reasonCode)
  | controlEvent event => exact handleControlEvent_effect event
  | dataEvent event => exact handleDataEvent_effect event
  | advanceTime elapsedMs => exact advanceTime_effect elapsedMs
  | setTimeouts timeouts => exact handles_modify .timeoutsSet
  | completeGroupRekey => exact handles_modify .rekeyed
  | beginRecovery => exact handles_modify .recoveryBegan
  | recoveryComplete => exact handles_modify .recoveryCompleted

theorem step_effect (station : StationController) (operation : StationOperation β) :
    Effect station operation (succeeds station operation) (step station operation) :=
  (perform_effect station operation).ends

end Steps

end StationController

end Nrf7002
