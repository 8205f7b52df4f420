import Nrf7002.Station.FailClosed

/-! # Responses and the faults of event handlers

An authentication or association response is a success only where its whole result is
zero, and an event that is answered with a fault leaves the station faulted.  Both hold
but for one kind of response: the first is read in 16 bits, and the second is refused
before the station is told. -/

set_option autoImplicit false

namespace Nrf7002
open Foundation

namespace StationController
variable {ε : Type}

/-- The header names this interface, and the frame the peer. -/
def AddressedTo (station : StationController) (event : MlmeEvent) (addressOffset : Nat) : Prop :=
  station.headerMatches event.header ∧
    ∃ peer, mlmeFrameAddress event addressOffset = some peer ∧ station.peer = some peer

/-! ## The status of a response -/

section Status
variable {event : MlmeEvent} {statusOffset : Nat}

/-- The response is a success: in time, a zero result, and a zero status in its frame. -/
structure Successful (event : MlmeEvent) (statusOffset : Nat) : Prop where
  inTime : event.flags &&& mlmeTimedOut = 0
  result : event.header.result = 0
  present : statusOffset + 2 ≤ event.frame.length
  status : readU16 event.frame statusOffset = 0

/-- The result is not zero, and its low half is. -/
structure Truncated (event : MlmeEvent) : Prop where
  inTime : event.flags &&& mlmeTimedOut = 0
  result : event.header.result ≠ 0
  low : event.header.result.toUInt32.toUInt16 = 0

/-- The response is late, or its frame ends before the status. -/
def Unread (event : MlmeEvent) (statusOffset : Nat) : Prop :=
  event.flags &&& mlmeTimedOut ≠ 0 ∨
    event.header.result = 0 ∧ event.frame.length < statusOffset + 2

/-- A frame with an address is flagged as valid. -/
theorem frame_valid {addressOffset : Nat} {peer : Octets 6}
    (address : mlmeFrameAddress event addressOffset = some peer) :
    event.validFields &&& mlmeFrameValid ≠ 0 := by
  intro invalid
  rw [mlmeFrameAddress, if_pos invalid] at address
  cases address

theorem mlmeStatus_zero_iff (valid : event.validFields &&& mlmeFrameValid ≠ 0) :
    (mlmeStatus event statusOffset : Except (StationError ε) UInt16) = .ok 0 ↔
      Successful event statusOffset ∨ Truncated event := by
  rw [mlmeStatus]
  by_cases late : event.flags &&& mlmeTimedOut ≠ 0
  · rw [if_pos late]
    constructor
    · intro failed
      cases failed
    · intro read
      rcases read with success | truncated
      · exact absurd success.inTime late
      · exact absurd truncated.inTime late
  · rw [if_neg late]
    by_cases rejected : event.header.result ≠ 0
    · rw [if_pos rejected, Except.ok.injEq]
      constructor
      · intro low
        exact .inr ⟨not_not.mp late, rejected, low⟩
      · intro read
        rcases read with success | truncated
        · exact absurd success.result rejected
        · exact truncated.low
    · rw [if_neg rejected, if_neg valid, refused_eq_ok, Except.ok.injEq]
      constructor
      · intro read
        exact .inl ⟨not_not.mp late, not_not.mp rejected, by omega, read.2⟩
      · intro read
        rcases read with success | truncated
        · exact ⟨by have := success.present; omega, success.status⟩
        · exact absurd truncated.result rejected

theorem mlmeStatus_error_iff (valid : event.validFields &&& mlmeFrameValid ≠ 0) :
    (∃ failure, (mlmeStatus event statusOffset : Except (StationError ε) UInt16) = .error failure) ↔
      Unread event statusOffset := by
  rw [mlmeStatus, Unread]
  by_cases late : event.flags &&& mlmeTimedOut ≠ 0
  · rw [if_pos late]
    exact ⟨fun _ => .inl late, fun _ => ⟨_, rfl⟩⟩
  · rw [if_neg late]
    by_cases rejected : event.header.result ≠ 0
    · rw [if_pos rejected]
      simp [rejected, not_not.mp late]
    · rw [if_neg rejected, if_neg valid]
      by_cases short : event.frame.length < statusOffset + 2
      · rw [if_pos short]
        exact ⟨fun _ => .inr ⟨not_not.mp rejected, short⟩, fun _ => ⟨_, rfl⟩⟩
      · rw [if_neg short]
        simp [short, not_not.mp late]

end Status

/-! ## Faults -/

section Faults
variable {station : StationController}

/-- A fault that is returned is the fault of the station, which waits for nothing and lets
nothing through. -/
def FaultClosed (r : Except (StationError ε) Unit) (after : StationController) : Prop :=
  ∀ fault, r = .error (.fault fault) →
    after.state = .fault ∧ after.lastFault = some fault ∧ after.pendingCommand = none ∧
      after.pendingReturnState = none ∧ after.controlledPortOpen = false

theorem faultClosed_faulted (fault : StationFault) (station : StationController) :
    FaultClosed (.error (.fault fault) : Except (StationError ε) Unit) (faulted fault station) := by
  intro returned same
  obtain rfl := StationError.fault.inj (Except.error.inj same)
  exact ⟨rfl, rfl, rfl, rfl, controlledPortOpen_of_ne StationState.noConfusion⟩

theorem faultClosed_ok (after : StationController) :
    FaultClosed (.ok () : Except (StationError ε) Unit) after := by
  intro fault returned
  cases returned

theorem closes_fail (fault : StationFault) :
    Post (fail fault : Handler ε Unit) station FaultClosed :=
  ⟨faultClosed_faulted fault station⟩

theorem closes_modify (f : StationController → StationController) :
    Post (modify f : Handler ε Unit) station FaultClosed := ⟨faultClosed_ok (f station)⟩

/-- A response whose status can be read ends in an answer or in a closed fault. -/
theorem closes_response {event : MlmeEvent} {addressOffset statusOffset : Nat}
    {rejected : UInt16 → StationFault} {accept : StationController → StationController}
    (readable : (∃ peer, mlmeFrameAddress event addressOffset = some peer ∧
      station.peer = some peer) → ¬ Unread event statusOffset) :
    Post (match mlmeFrameAddress event addressOffset with
      | none => fail .unexpectedEvent
      | some peer => do
          checkPeer peer
          let status ← liftResult (mlmeStatus event statusOffset)
          if status ≠ 0 then fail (rejected status)
          modify accept : Handler ε Unit) station FaultClosed := by
  cases address : mlmeFrameAddress event addressOffset with
  | none => exact closes_fail _
  | some peer =>
      apply post_checkPeer (faultClosed_faulted _ _)
      intro same
      have read := readable ⟨peer, address, same⟩
      rw [post_bind, post_liftResult]
      cases known : (mlmeStatus event statusOffset : Except (StationError ε) UInt16) with
      | error failure =>
          have unread := (mlmeStatus_error_iff (frame_valid address)).mp ⟨failure, known⟩
          exact absurd unread read
      | ok status =>
          apply post_failIf (faultClosed_faulted _ _)
          intro _
          exact closes_modify accept

/-- A response whose status cannot be read is answered with a fault, and changes nothing. -/
theorem unread_response {event : MlmeEvent} {addressOffset statusOffset : Nat} {peer : Octets 6}
    {rejected : UInt16 → StationFault} {accept : StationController → StationController}
    (address : mlmeFrameAddress event addressOffset = some peer)
    (same : station.peer = some peer) (unread : Unread event statusOffset) :
    Post (match mlmeFrameAddress event addressOffset with
      | none => fail .unexpectedEvent
      | some peer => do
          checkPeer peer
          let status ← liftResult (mlmeStatus event statusOffset)
          if status ≠ 0 then fail (rejected status)
          modify accept : Handler ε Unit) station
      (fun r after => (∃ fault, r = .error (.fault fault)) ∧ after = station) := by
  have refused : ∃ failure,
      (mlmeStatus event statusOffset : Except (StationError ε) UInt16) = .error failure :=
    (mlmeStatus_error_iff (frame_valid address)).mpr unread
  obtain ⟨failure, failed⟩ := refused
  have fault : ∃ fault, failure = .fault fault := by
    rw [mlmeStatus] at failed
    split_ifs at failed
    · exact ⟨_, (Except.error.inj failed).symm⟩
    · exact ⟨_, (Except.error.inj failed).symm⟩
  obtain ⟨fault, rfl⟩ := fault
  simp only [address, checkPeer, post_bind, post_get]
  rw [if_neg (not_not_intro same), post_pure, post_liftResult, failed]
  exact ⟨⟨fault, rfl⟩, rfl⟩

/-- The response that is awaited, and its status cannot be read. -/
def RefusesUntold (station : StationController) : ControlEvent → Prop
  | .authentication event => station.state = .authenticating ∧ AddressedTo station event 10 ∧
      Unread event 28
  | .association event => station.state = .associating ∧ AddressedTo station event 16 ∧
      Unread event 26
  | _ => False

theorem closes_handleAuthentication {event : MlmeEvent}
    (names : station.headerMatches event.header = true)
    (clean : ¬ RefusesUntold station (.authentication event)) :
    Post (handleAuthentication event : Handler ε Unit) station FaultClosed := by
  rw [handleAuthentication, post_bind, post_get]
  apply post_failIf (faultClosed_faulted _ _)
  intro authenticating
  apply closes_response
  intro addressed unread
  exact clean ⟨not_not.mp authenticating, ⟨names, addressed⟩, unread⟩

theorem closes_handleAssociation {event : MlmeEvent}
    (names : station.headerMatches event.header = true)
    (clean : ¬ RefusesUntold station (.association event)) :
    Post (handleAssociation event : Handler ε Unit) station FaultClosed := by
  rw [handleAssociation, post_bind, post_get]
  apply post_failIf (faultClosed_faulted _ _)
  intro associating
  apply closes_response
  intro addressed unread
  exact clean ⟨not_not.mp associating, ⟨names, addressed⟩, unread⟩

theorem closes_handleDisconnectEvent (event : MlmeEvent) :
    Post (handleDisconnectEvent event : Handler ε Unit) station FaultClosed := by
  rw [handleDisconnectEvent, post_bind, post_get]
  by_cases absent : station.peer.isNone
  · simp only [absent, if_true]
    exact ⟨faultClosed_ok station⟩
  · simp only [absent]
    cases mlmeFrameAddress event 10 with
    | none => exact closes_fail _
    | some peer =>
        apply post_checkPeer (faultClosed_faulted _ _)
        intro _
        exact closes_modify _

theorem closes_handleInterfaceState (status : Int32) :
    Post (handleInterfaceState status : Handler ε Unit) station FaultClosed := by
  rw [handleInterfaceState]
  apply post_failIf (faultClosed_faulted _ _)
  intro _
  rw [post_bind, post_get]
  dsimp only
  split
  · exact closes_modify _
  · exact closes_modify _
  · exact closes_fail _

theorem closes_handleScanDone (status : Int32) :
    Post (handleScanDone status : Handler ε Unit) station FaultClosed := by
  rw [handleScanDone, post_bind, post_get]
  dsimp only
  apply post_failIf (faultClosed_faulted _ _)
  intro _
  rw [post_bind, post_modify]
  dsimp only
  split
  · exact closes_modify _
  · exact closes_fail _

theorem closes_handleScanResult (sequence : UInt32) :
    Post (handleScanResult sequence : Handler ε Unit) station FaultClosed := by
  rw [handleScanResult, post_bind, post_get]
  dsimp only
  apply post_failIf (faultClosed_faulted _ _)
  intro _
  split
  · exact closes_modify _
  · exact closes_modify _

theorem closes_handleRegulatoryChange :
    Post (handleRegulatoryChange : Handler ε Unit) station FaultClosed := by
  rw [handleRegulatoryChange, post_bind, post_get]
  dsimp only
  split
  · exact ⟨faultClosed_ok _⟩
  · exact ⟨faultClosed_ok _⟩

theorem closes_handleOther (header : UmacHeader) :
    Post (handleOther header : Handler ε Unit) station FaultClosed := by
  rw [handleOther, handleInterfaceCreated]
  split
  · apply post_failIf (faultClosed_faulted _ _)
    intro _
    rw [post_bind, post_get]
    dsimp only
    split
    · exact ⟨faultClosed_ok _⟩
    · split
      · exact ⟨faultClosed_ok _⟩
      · exact closes_fail _
  · exact ⟨faultClosed_ok _⟩

theorem closes_handleCommandStatus (command status : UInt32) :
    Post (handleCommandStatus command status : Handler ε Unit) station FaultClosed := by
  rw [handleCommandStatus, post_bind, post_get]
  dsimp only
  split
  · split
    · exact ⟨faultClosed_ok _⟩
    · exact closes_fail _
  · apply post_validatePendingCommand fun fault => faultClosed_faulted fault station
    intro _ _
    split
    · exact ⟨faultClosed_ok _⟩
    · exact closes_modify _

/-- Every fault of a control event closes the station, unless the event is a response whose
status cannot be read. -/
theorem closes_handleControlEvent {event : ControlEvent} (clean : ¬ RefusesUntold station event) :
    Post (handleControlEvent event : Handler ε Unit) station FaultClosed := by
  rw [handleControlEvent]
  apply post_checkHeader fun fault => faultClosed_faulted fault station
  intro names
  cases event with
  | scanDone header status scanType => exact closes_handleScanDone status
  | scanResult result => exact closes_handleScanResult result.header.sequence
  | authentication event => exact closes_handleAuthentication names clean
  | association event => exact closes_handleAssociation names clean
  | deauthentication event => exact closes_handleDisconnectEvent event
  | disassociation event => exact closes_handleDisconnectEvent event
  | commandStatus header command status => exact closes_handleCommandStatus command status
  | interfaceState header status => exact closes_handleInterfaceState status
  | regulatoryChange header country => exact closes_handleRegulatoryChange
  | other header body => exact closes_handleOther header

theorem closes_handleDataEvent (event : DataEvent) :
    Post (handleDataEvent event : Handler ε Unit) station FaultClosed := by
  cases event with
  | carrierOn wdevId =>
      apply post_requireDataInterface fun fault => faultClosed_faulted fault station
      intro _
      exact closes_modify _
  | carrierOff wdevId =>
      apply post_requireDataInterface fun fault => faultClosed_faulted fault station
      intro _
      rw [post_bind, post_modify, post_bind, post_get]
      dsimp only
      rw [post_ite]
      by_cases connected : station.state = .connected
      · rw [if_pos connected, post_bind, post_modify]
        exact closes_fail _
      · rw [if_neg connected]
        exact ⟨faultClosed_ok _⟩
  | transmitDone token statusCount => exact ⟨faultClosed_ok station⟩
  | receive => exact ⟨faultClosed_ok station⟩
  | other command => exact ⟨faultClosed_ok station⟩

/-- An event of this interface goes to its handler. -/
theorem post_named (event : ControlEvent)
    {Q : Except (StationError ε) Unit → StationController → Prop}
    (names : station.headerMatches (controlEventHeader event) = true)
    (handled : Post (if isStatusControlEvent event then handleStatusControlEvent event
      else handleProgressControlEvent event) station Q) :
    Post (handleControlEvent event : Handler ε Unit) station Q := by
  rw [handleControlEvent, checkHeader, post_bind, post_bind, post_get]
  dsimp only
  rw [if_neg (not_not_intro names), post_pure]
  exact handled

/-- Such a response is answered with a fault that the station does not hold. -/
theorem refusesUntold_opens {event : ControlEvent} (untold : RefusesUntold station event) :
    ¬ Post (handleControlEvent event : Handler ε Unit) station FaultClosed := by
  have ends : Post (handleControlEvent event : Handler ε Unit) station
      (fun r after => (∃ fault, r = .error (.fault fault)) ∧ after = station) := by
    cases event with
    | authentication event =>
        obtain ⟨authenticating, ⟨names, peer, address, same⟩, unread⟩ := untold
        apply post_named (.authentication event) names
        change Post (handleAuthentication event) station _
        rw [handleAuthentication, post_bind, post_get]
        dsimp only
        rw [if_neg (not_not_intro authenticating)]
        exact unread_response address same unread
    | association event =>
        obtain ⟨associating, ⟨names, peer, address, same⟩, unread⟩ := untold
        apply post_named (.association event) names
        change Post (handleAssociation event) station _
        rw [handleAssociation, post_bind, post_get]
        dsimp only
        rw [if_neg (not_not_intro associating)]
        exact unread_response address same unread
    | _ => exact absurd untold id
  have apart : station.state ≠ .fault := by
    intro faulty
    cases event with
    | authentication event => exact absurd (faulty.symm.trans untold.1) StationState.noConfusion
    | association event => exact absurd (faulty.symm.trans untold.1) StationState.noConfusion
    | _ => exact absurd untold id
  intro closed
  obtain ⟨⟨fault, returned⟩, unchanged⟩ := ends.ends
  have faulty := (closed.ends fault returned).1
  rw [unchanged] at faulty
  exact apart faulty

def handleEvent : ControlEvent ⊕ DataEvent → Handler ε Unit
  | .inl control => handleControlEvent control
  | .inr data => handleDataEvent data

/-- An event that is answered with a fault leaves the station faulted, waiting for nothing,
with a closed port. -/
def FaultsClosed (ε : Type) (station : StationController) (event : ControlEvent ⊕ DataEvent) :
    Prop :=
  Post (handleEvent event : Handler ε Unit) station FaultClosed

/-- The events whose fault the station does not hold. -/
def RefusedUntold (station : StationController) : ControlEvent ⊕ DataEvent → Prop
  | .inl control => RefusesUntold station control
  | .inr _ => False

theorem not_faultsClosed_of_untold {event : ControlEvent} (untold : RefusesUntold station event) :
    ¬ FaultsClosed ε station (.inl event) := by
  rw [FaultsClosed, handleEvent]
  exact refusesUntold_opens untold

theorem faults_closed_iff (station : StationController) (event : ControlEvent ⊕ DataEvent) :
    FaultsClosed ε station event ↔ ¬ RefusedUntold station event := by
  cases event with
  | inl control =>
      constructor
      · intro closed untold
        exact not_faultsClosed_of_untold untold closed
      · intro clean
        exact closes_handleControlEvent clean
  | inr data => exact ⟨fun _ => id, fun _ => closes_handleDataEvent data⟩

/-- The association response of the access point, marked as timed out. -/
def lateResponse : MlmeEvent := { plainResponse .associate 16 with flags := mlmeTimedOut }

theorem lateResponse_unread : Unread lateResponse 26 := .inl (by decide)

theorem plainResponse_address :
    mlmeFrameAddress (plainResponse .associate 16) 16 = some accessPoint := by
  decide

/-- It leaves the station associating. -/
theorem late_response_keeps_waiting :
    ¬ ∀ station, Reachable readyStep (new 1 0 0) station →
      ∀ event, FaultsClosed Empty station event := by
  intro always
  obtain ⟨station, reachable, state, _, peer, _, _, _⟩ := openJoin_station
  have addressed : AddressedTo station lateResponse 16 :=
    ⟨rfl, accessPoint, plainResponse_address, peer⟩
  have untold : RefusesUntold station (.association lateResponse) :=
    ⟨state, addressed, lateResponse_unread⟩
  exact not_faultsClosed_of_untold untold (always station reachable _)

end Faults

/-! ## Successes -/

section Successes
variable {station after : StationController}

def isMlmeEvent : ControlEvent → Bool
  | .authentication _ | .association _ | .deauthentication _ | .disassociation _ => true
  | _ => false

/-- From authenticating to authenticated, or from associating on towards the connection. -/
def MovesOnward (before after : StationController) : Prop :=
  before.state = .authenticating ∧ after.state = .authenticated ∨
    before.state = .associating ∧ after.state ∈ [.securing, .awaitingCarrier, .connected]

/-- The event is the successful response of the peer. -/
def Acknowledged (station : StationController) : ControlEvent → Prop
  | .authentication event => AddressedTo station event 10 ∧ Successful event 28
  | .association event => AddressedTo station event 16 ∧ Successful event 26
  | _ => False

/-- The event is the response of the peer, whose result loses its high half. -/
def Misread (station : StationController) : ControlEvent → Prop
  | .authentication event =>
      station.state = .authenticating ∧ AddressedTo station event 10 ∧ Truncated event
  | .association event =>
      station.state = .associating ∧ AddressedTo station event 16 ∧ Truncated event
  | _ => False

theorem confirms_iff {event : MlmeEvent} {addressOffset statusOffset : Nat}
    (names : station.headerMatches event.header = true) :
    station.confirms event addressOffset statusOffset ↔
      AddressedTo station event addressOffset ∧
        (Successful event statusOffset ∨ Truncated event) := by
  constructor
  · intro confirmed
    obtain ⟨⟨peer, address, same⟩, zero⟩ := confirmed
    exact ⟨⟨names, peer, address, same⟩, (mlmeStatus_zero_iff (frame_valid address)).mp zero⟩
  · intro read
    obtain ⟨⟨_, peer, address, same⟩, zero⟩ := read
    exact ⟨⟨peer, address, same⟩, (mlmeStatus_zero_iff (frame_valid address)).mpr zero⟩

/-- A response that is read as zero is applied. -/
theorem confirmed_response {event : MlmeEvent} {addressOffset statusOffset : Nat}
    {rejected : UInt16 → StationFault} {accept : StationController → StationController}
    (confirmed : station.confirms event addressOffset statusOffset) :
    Post (match mlmeFrameAddress event addressOffset with
      | none => fail .unexpectedEvent
      | some peer => do
          checkPeer peer
          let status ← liftResult (mlmeStatus event statusOffset)
          if status ≠ 0 then fail (rejected status)
          modify accept : Handler ε Unit) station (fun _ after => after = accept station) := by
  obtain ⟨⟨peer, address, same⟩, zero⟩ := confirmed
  have valid := frame_valid address
  have read : (mlmeStatus event statusOffset : Except (StationError ε) UInt16) = .ok 0 :=
    (mlmeStatus_zero_iff valid).mpr ((mlmeStatus_zero_iff valid).mp zero)
  simp only [address, checkPeer, post_bind, post_get]
  rw [if_neg (not_not_intro same), post_pure, post_liftResult, read]
  exact ⟨rfl⟩

theorem refreshConnected_state (station : StationController) :
    station.refreshConnected.state = .connected ∨
      station.refreshConnected.state = station.state := by
  rw [refreshConnected]
  by_cases connects : station.carrierOn && station.controlledPortAuthorized
  · rw [if_pos connects]
    exact .inl rfl
  · rw [if_neg connects]
    exact .inr rfl

/-- An accepted association goes on. -/
theorem onward_associated (station : StationController) :
    station.associated.state ∈ [StationState.securing, .awaitingCarrier, .connected] := by
  rw [associated]
  rcases refreshConnected_state (transition (if station.secureConnection then .securing
    else .awaitingCarrier) { station with pendingCommand := none }) with connected | entered
  · rw [connected]
    decide
  · rw [entered, transition_state]
    by_cases secure : station.secureConnection = true
    · rw [if_pos secure]
      decide
    · rw [if_neg secure]
      decide

/-- A response whose result is cut to zero is applied like a success. -/
theorem misread_moves {event : ControlEvent} (misread : Misread station event) :
    MovesOnward station (stateAfter (handleControlEvent event : Handler ε Unit) station) := by
  cases event with
  | authentication event =>
      obtain ⟨authenticating, addressed, truncated⟩ := misread
      have confirmed : station.confirms event 10 28 :=
        (confirms_iff addressed.1).mpr ⟨addressed, .inr truncated⟩
      have applied : Post (handleControlEvent (.authentication event) : Handler ε Unit) station
          (fun _ after =>
            after = transition .authenticated { station with pendingCommand := none }) := by
        apply post_named (.authentication event) addressed.1
        change Post (handleAuthentication event) station _
        rw [handleAuthentication, post_bind, post_get]
        dsimp only
        rw [if_neg (not_not_intro authenticating)]
        exact confirmed_response confirmed
      rw [applied.ends]
      exact .inl ⟨authenticating, rfl⟩
  | association event =>
      obtain ⟨associating, addressed, truncated⟩ := misread
      have confirmed : station.confirms event 16 26 :=
        (confirms_iff addressed.1).mpr ⟨addressed, .inr truncated⟩
      have applied : Post (handleControlEvent (.association event) : Handler ε Unit) station
          (fun _ after => after = station.associated) := by
        apply post_named (.association event) addressed.1
        change Post (handleAssociation event) station _
        rw [handleAssociation, post_bind, post_get]
        dsimp only
        rw [if_neg (not_not_intro associating)]
        exact confirmed_response confirmed
      rw [applied.ends]
      exact .inr ⟨associating, onward_associated station⟩
  | _ => exact absurd misread id

theorem misread_not_acknowledged {event : ControlEvent} (misread : Misread station event) :
    ¬ Acknowledged station event := by
  intro acknowledged
  cases event with
  | authentication event => exact misread.2.2.result acknowledged.2.result
  | association event => exact misread.2.2.result acknowledged.2.result
  | _ => exact misread

/-- A step that keeps the state does not move on. -/
theorem not_movesOnward_kept (same : after.state = station.state) : ¬ MovesOnward station after := by
  intro moves
  rcases moves with ⟨before, later⟩ | ⟨before, later⟩
  · rw [same, before] at later
    cases later
  · rw [same, before] at later
    revert later
    decide

/-- A step that ends in a state without a connection does not move on. -/
theorem not_movesOnward_ended (ended : after.state = .fault ∨ after.state = .idle) :
    ¬ MovesOnward station after := by
  intro moves
  rcases moves with ⟨_, later⟩ | ⟨_, later⟩
  · rcases ended with fault | idle
    · exact absurd (fault.symm.trans later) StationState.noConfusion
    · exact absurd (idle.symm.trans later) StationState.noConfusion
  · rcases ended with fault | idle
    · rw [fault] at later
      revert later
      decide
    · rw [idle] at later
      revert later
      decide

/-- What moves a station on under an MLME event is the response that it awaits, read as a
success. -/
theorem confirmed_of_moves {event : ControlEvent} {succeeded : Bool}
    (effect : Effect station (.controlEvent event : StationOperation Unit) succeeded after)
    (mlme : isMlmeEvent event = true) (moves : MovesOnward station after) :
    (∃ response, event = .authentication response ∧ station.state = .authenticating ∧
      station.confirms response 10 28) ∨
    ∃ response, event = .association response ∧ station.state = .associating ∧
      station.confirms response 16 26 := by
  cases effect with
  | refused command => exact absurd moves (not_movesOnward_kept rfl)
  | failed fault command => exact absurd moves (not_movesOnward_ended (.inl rfl))
  | ignored passive => exact absurd moves (not_movesOnward_kept rfl)
  | posted command ready => exact absurd ready id
  | authenticated pending confirmed => exact .inl ⟨_, rfl, pending, confirmed⟩
  | associated pending confirmed => exact .inr ⟨_, rfl, pending, confirmed⟩
  | disconnected kind names address same =>
      exact absurd moves (not_movesOnward_ended (.inr rfl))
  | _ => exact absurd mlme Bool.false_ne_true

/-- Only an event of this interface moves the station on. -/
theorem named_of_moves {event : ControlEvent}
    (moves : MovesOnward station
      (stateAfter (handleControlEvent event : Handler ε Unit) station)) :
    station.headerMatches (controlEventHeader event) = true := by
  by_contra foreign
  have ends : Post (handleControlEvent event : Handler ε Unit) station
      (fun _ after => after.state = .fault) := by
    rw [handleControlEvent, checkHeader, post_bind, post_bind, post_get]
    dsimp only
    rw [if_pos foreign, post_fail]
    rfl
  exact not_movesOnward_ended (.inl ends.ends) moves

/-- The event is answered by moving on only if it is the successful response of the peer. -/
def SuccessExact (ε : Type) (station : StationController) (event : ControlEvent) : Prop :=
  isMlmeEvent event = true →
    MovesOnward station (stateAfter (handleControlEvent event : Handler ε Unit) station) →
      Acknowledged station event

theorem success_exact_iff (station : StationController) (event : ControlEvent) :
    SuccessExact ε station event ↔ ¬ Misread station event := by
  constructor
  · intro success misread
    have mlme : isMlmeEvent event = true := by
      cases event with
      | authentication event => rfl
      | association event => rfl
      | _ => exact absurd misread id
    exact misread_not_acknowledged misread (success mlme (misread_moves misread))
  · intro clean mlme moves
    have names := named_of_moves moves
    have effect : HandlesControl Unit station event (handleControlEvent event : Handler ε Unit) :=
      handleControlEvent_effect event
    rcases confirmed_of_moves effect.ends mlme moves with
      ⟨response, rfl, state, confirmed⟩ | ⟨response, rfl, state, confirmed⟩
    · obtain ⟨addressed, read⟩ := (confirms_iff names).mp confirmed
      rcases read with successful | truncated
      · exact ⟨addressed, successful⟩
      · exact absurd ⟨state, addressed, truncated⟩ clean
    · obtain ⟨addressed, read⟩ := (confirms_iff names).mp confirmed
      rcases read with successful | truncated
      · exact ⟨addressed, successful⟩
      · exact absurd ⟨state, addressed, truncated⟩ clean

/-- The association response of the access point, with a result that is a multiple of
`2 ^ 16`. -/
def refusedResponse : MlmeEvent :=
  { plainResponse .associate 16 with
    header := { plainHeader UmacEvent.associate.number with result := 0x10000 } }

theorem refusedResponse_truncated : Truncated refusedResponse := by
  constructor <;> decide

/-- The station takes it for a success. -/
theorem refused_response_is_taken_for_success :
    ¬ ∀ station, Reachable readyStep (new 1 0 0) station →
      ∀ event, SuccessExact Empty station event := by
  intro always
  obtain ⟨station, reachable, state, _, peer, _, _, _⟩ := openJoin_station
  have addressed : AddressedTo station refusedResponse 16 :=
    ⟨rfl, accessPoint, plainResponse_address, peer⟩
  have misread : Misread station (.association refusedResponse) :=
    ⟨state, addressed, refusedResponse_truncated⟩
  exact misread_not_acknowledged misread
    (always station reachable (.association refusedResponse) rfl (misread_moves misread))

end Successes

end StationController

end Nrf7002
