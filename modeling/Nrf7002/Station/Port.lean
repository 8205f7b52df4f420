import Nrf7002.Station.Effects

/-! # When the controlled port is open

The port opens with the state `connected`, which `refreshConnected` enters from any
state.  What protects the port is therefore a relation between the state, the two
link flags and the history of the association, carried over every operation. -/

set_option autoImplicit false

namespace Nrf7002
open Foundation

namespace StationController
variable {β ε : Type}

/-! ## The history of the most recent association -/

/-- What happened since the most recent successful `associate`: whether it asked
for security, whether a successful association event was handled, and whether
the authorization was confirmed after that event. -/
structure AssociationHistory where
  secure : Bool
  answered : Bool
  granted : Bool
  deriving DecidableEq

def AssociationHistory.initial : AssociationHistory :=
  { secure := false, answered := false, granted := false }

/-- Extends the history by one operation and its outcome. -/
def AssociationHistory.observe (history : AssociationHistory) (station : StationController)
    (operation : StationOperation β) (succeeded : Bool) : AssociationHistory :=
  match operation with
  | .associate _ request =>
      if succeeded then
        { secure := request.security.isSome, answered := false, granted := false }
      else history
  | .controlEvent (.association event) =>
      if succeeded ∧ station.confirms event 16 26 then { history with answered := true }
      else history
  | .controlEvent (.commandStatus _ command status) =>
      if succeeded ∧ command = UmacCommand.setStation.number ∧ status = 0
          ∧ station.state = .authorizing ∧ history.answered then
        { history with granted := true }
      else history
  | _ => history

/-- Before the association command the port has not been authorized. -/
def beforeAssociation : StationState → Bool
  | .down | .interfaceCreatePending | .idle | .regulatoryPending | .interfaceUpPending
  | .scanning | .scanComplete | .readingScanResults | .authenticating | .authenticated
  | .recovering => true
  | _ => false

/-- The states that follow a successful association event. -/
def afterAssociation : StationState → Bool
  | .securing | .authorizing | .awaitingCarrier | .connected => true
  | _ => false

/-- The states an open association can be in without an answer. -/
def unanswered : StationState → Bool
  | .associating | .disconnecting | .interfaceDownPending | .fault => true
  | _ => false

/-- A key command waits for its status. -/
def awaitsKey (station : StationController) : Bool :=
  (station.pendingCommand.map UmacCommand.number).any isKeyCommand

/-- The invariant behind the port: an authorized port belongs to an answered
association, or to an open one whose answer is still awaited. -/
structure PortInvariant (station : StationController) (history : AssociationHistory) : Prop where
  closedBefore : beforeAssociation station.state → station.controlledPortAuthorized = false
  answeredAfter : afterAssociation station.state → history.answered = true
  keyPending : station.awaitsKey → history.answered = true
  authorized : station.controlledPortAuthorized = true →
    (history.answered = true ∧ (history.secure = true → history.granted = true)) ∨
      (history.answered = false ∧ history.secure = false ∧ station.secureConnection = false ∧
        unanswered station.state)
  regulatoryReturn : station.state = .regulatoryPending →
    station.pendingReturnState = some .down ∨ station.pendingReturnState = some .idle
  powerSaveReturn : station.state = .powerSavePending →
    (station.pendingReturnState = some .idle ∧ station.controlledPortAuthorized = false) ∨
      (station.pendingReturnState = some .connected ∧ history.answered = true)

section Preservation
variable {station after : StationController} {history : AssociationHistory}

/-- An operation that keeps the two flags of the connection only has to answer for
the state it enters. -/
theorem PortInvariant.enter (holds : PortInvariant station history) (entered : StationState)
    (state : after.state = entered)
    (authorized : after.controlledPortAuthorized = station.controlledPortAuthorized)
    (connection : after.secureConnection = station.secureConnection)
    (key : after.awaitsKey → history.answered = true)
    (closed : beforeAssociation entered → station.controlledPortAuthorized = false)
    (answered : afterAssociation entered → history.answered = true)
    (waiting : history.answered = true ∨ station.controlledPortAuthorized = false ∨
      unanswered entered)
    (regulatoryReturn : entered = .regulatoryPending →
      after.pendingReturnState = some .down ∨ after.pendingReturnState = some .idle)
    (powerSaveReturn : entered = .powerSavePending →
      (after.pendingReturnState = some .idle ∧ station.controlledPortAuthorized = false) ∨
        (after.pendingReturnState = some .connected ∧ history.answered = true)) :
    PortInvariant after history where
  closedBefore before := authorized.trans (closed (state ▸ before))
  answeredAfter later := answered (state ▸ later)
  keyPending := key
  authorized set := by
    rcases holds.authorized (authorized ▸ set) with granted | ⟨open_, secure, apart, _⟩
    · exact .inl granted
    · rcases waiting with known | unset | wait
      · exact absurd (open_.symm.trans known) (by decide)
      · exact absurd ((authorized ▸ set).symm.trans unset) (by decide)
      · exact .inr ⟨open_, secure, connection.trans apart, state ▸ wait⟩
  regulatoryReturn pending := regulatoryReturn (state ▸ pending)
  powerSaveReturn pending := by
    rw [authorized]
    exact powerSaveReturn (state ▸ pending)

end Preservation

/-! ## Runs with their history -/

section Runs
variable [Bus β ε]

/-- One operation of a run that also keeps the association history. -/
def historyStep (state : StationController × AssociationHistory)
    (operation : StationOperation β) : StationController × AssociationHistory :=
  (step state.1 operation, state.2.observe state.1 operation (succeeds state.1 operation))

theorem runMoves_historyStep (state : StationController × AssociationHistory)
    (operations : List (StationOperation β)) :
    (runMoves historyStep state operations).1 = runMoves step state.1 operations := by
  induction operations generalizing state with
  | nil => rfl
  | cons operation rest hypothesis => exact hypothesis (historyStep state operation)

theorem step_carrierOn (β : Type) [Bus β ε] {station : StationController} {wdevId : UInt32}
    (own : wdevId = station.wdevId) :
    step station (.dataEvent (.carrierOn wdevId) : StationOperation β) =
      refreshConnected { station with carrierOn := true } := by
  have run : Post (perform (.dataEvent (.carrierOn wdevId) : StationOperation β) : Handler ε Unit)
      station (fun _ after => after = refreshConnected { station with carrierOn := true }) := by
    simp [perform, handleDataEvent, handleCarrierOn, requireDataInterface, own]
  exact run.ends

end Runs

/-! ## A concrete run into an open association -/

section OpenJoin

def accessPoint : Octets 6 := ⟨[2, 0, 0, 0, 0, 1], rfl⟩

def plainHeader (commandEvent : UInt32) : UmacHeader :=
  { portId := 0
    sequence := 0
    commandEvent
    result := 0
    validIds := 0
    ifaceindex := 0
    wiphyIndex := 0
    wdevId := 0 }

/-- A response whose frame carries the access point's address at `addressOffset` and
zeros elsewhere. -/
def plainResponse (event : UmacEvent) (addressOffset : Nat) : MlmeEvent :=
  { header := plainHeader event.number
    validFields := mlmeFrameValid
    frequencyMhz := 2412
    signalDbm := 0
    flags := 0
    cookie := 0
    bssid := accessPoint
    frame := List.replicate addressOffset 0 ++ accessPoint.1 ++ List.replicate 14 0
    requestInformationElements := [] }

def openAuthentication : AuthenticationRequest :=
  { frequencyMhz := 2412
    bssid := accessPoint
    ssid := [0x61]
    authType := .openSystem
    localStateChange := false
    informationElements := []
    saeData := []
    key := none
    bss :=
      { scanWidth := 0
        signalDbm := 0
        fromBeacon := true
        informationElements := []
        capability := 0
        beaconInterval := 100
        tsf := 0 } }

def openAssociation : AssociationRequest :=
  { frequencyMhz := 2412
    bssid := accessPoint
    ssid := [0x61]
    security := none
    backgroundScanPeriodS := 0
    previousBssid := none
    bssMaxIdleS := 0 }

/-- From a new controller to an open association whose response is awaited. -/
def openJoin : List (StationOperation ReadyBus) :=
  [.createInterface .ready (zeroOctets 6) [],
    .bringUp .ready,
    .controlEvent (.interfaceState (plainHeader UmacEvent.interfaceFlagsStatus.number) 0),
    .authenticate .ready openAuthentication,
    .controlEvent (.authentication (plainResponse .authenticate 10)),
    .associate .ready openAssociation]

/-- The station that waits for the response: authorized, and not answered. -/
def awaitsOpenAnswer (state : StationController × AssociationHistory) : Bool :=
  state.1.state = .associating && state.1.wdevId = 0 && state.1.peer = some accessPoint
    && state.1.controlledPortAuthorized && !state.1.carrierOn
    && state.1.command.length = maxStationMessageLen && !state.2.answered

theorem openJoin_awaitsOpenAnswer :
    awaitsOpenAnswer (runMoves historyStep (new 1 0 0, .initial) openJoin) = true := by
  decide +kernel

end OpenJoin

end StationController

end Nrf7002
