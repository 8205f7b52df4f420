import Nrf7002.Runtime.Run
import Nrf7002.Runtime.Security
import Nrf7002.Station.Effects
import Nrf7002.Wpa2.Outcomes

/-! # What one call of the coordinator can do

A call fails closed, or it makes one of the listed advances.  What is proved about
the coordinator is derived from this list. -/

set_option autoImplicit false

namespace Nrf7002
open Foundation

/-- The public methods that are given a driver. -/
inductive Wpa2Call where
  | ethernetFrame (frame : Bytes)
  | controlEvent (event : ControlEvent)
  | transmitDone (event : TxDoneEvent)
  | refreshCarrier
  | advanceTime (elapsedMs : UInt32)

/-- The payload of a received frame is one of these. -/
def Wpa2Call.Within (Hears : Bytes → Prop) : Wpa2Call → Prop
  | .ethernetFrame frame => Hears (frame.drop eapolEthernetHeaderLen)
  | _ => True

namespace KeySubmission

/-- The firmware command that installs the key. -/
def command (submission : KeySubmission) : UmacCommand :=
  if submission.isDefault then .setKey else .newKey

end KeySubmission

namespace Wpa2Runtime
variable {β ε α : Type} {rx tx : Nat}

def perform [Bus β ε] (crypto : Wpa2Crypto) : Wpa2Call → Method β rx tx ε Wpa2Progress
  | .ethernetFrame frame => onEthernetFrame crypto frame
  | .controlEvent event => onControlEvent event
  | .transmitDone event => onTransmitDone event
  | .refreshCarrier => Wpa2Runtime.refreshCarrier
  | .advanceTime elapsedMs => do
      Wpa2Runtime.advanceTime elapsedMs
      return .noChange

/-! ## The parts of a call -/

section Parts

theorem post_fail (failure : Wpa2RuntimeError ε) (s : Wpa2System β rx tx)
    (Q : Except (Wpa2RuntimeError ε) α → Wpa2System β rx tx → Prop) :
    Post (fail failure) s Q ↔
      Q (.error failure) { runtime := s.runtime.failed, driver := s.driver.enterRecovery } := by
  rw [fail, post_bind, post_modify]
  exact post_throw _ _ _

theorem post_orFail (x : Method β rx tx ε α) (s : Wpa2System β rx tx)
    (Q : Except (Wpa2RuntimeError ε) α → Wpa2System β rx tx → Prop) :
    Post (orFail x) s Q ↔
      Post x s (fun r t => match r with
        | .ok value => Q (.ok value) t
        | .error failure =>
            Q (.error failure)
              { runtime := t.runtime.failed, driver := t.driver.enterRecovery }) := by
  rw [orFail, post_bind, post_attempt]
  refine Post.congr (post_true _ _) ?_
  intro r t _
  cases r with
  | ok value => exact post_pure _ _ _
  | error failure => exact post_fail _ _ _

theorem post_enter (state : Wpa2RuntimeState) (s : Wpa2System β rx tx)
    (Q : Except (Wpa2RuntimeError ε) Unit → Wpa2System β rx tx → Prop) :
    Post (enter state) s Q ↔ Q (.ok ()) { s with runtime := s.runtime.transition state } := by
  rw [enter, onRuntime, post_onField, post_modify]

/-- A failure drops both requests. -/
theorem failed_requests (runtime : Wpa2Runtime) :
    runtime.failed.pairwiseInstall = none ∧ runtime.failed.groupInstall = none := by
  cases pairwise : runtime.pairwiseInstall <;> cases group : runtime.groupInstall <;>
    simp [failed, rejectPairwiseInstall, rejectGroupInstall, pairwise, group]

/-- The postcondition of a part of a call: nothing is said about its errors. -/
def WhenOk (Q : α → Wpa2System β rx tx → Prop) :
    Except (Wpa2RuntimeError ε) α → Wpa2System β rx tx → Prop
  | .ok value, t => Q value t
  | .error _, _ => True

/-- The commands of the coordinator, with the station state that waits for the answer. -/
def securityCommand : StationOperation β → Option (StationState × UmacCommand)
  | .keyCommand _ command _ => some (.securing, command)
  | .setKey _ _ => some (.securing, .setKey)
  | .authorize _ => some (.authorizing, .setStation)
  | _ => none

theorem effect_of_securityCommand {operation : StationOperation β} {state : StationState}
    {command : UmacCommand} {station next : StationController}
    (kind : securityCommand operation = some (state, command))
    (effect : StationController.Effect station operation true next) :
    ∃ buffer, next = StationController.transition state
      { station with command := buffer, pendingCommand := some command } := by
  cases effect with
  | ignored event =>
      cases operation with
      | controlEvent event => cases kind
      | dataEvent event => cases kind
      | advanceTime elapsedMs => cases kind
      | _ => exact event.elim
  | posted buffer ready =>
      cases operation with
      | keyCommand device command key =>
          cases kind
          exact ⟨buffer, rfl⟩
      | setKey device key =>
          cases kind
          exact ⟨buffer, rfl⟩
      | authorize device =>
          cases kind
          exact ⟨buffer, rfl⟩
      | _ => cases kind
  | _ => cases kind

/-- A driver that posted a firmware command: its station waits for the answer. -/
structure CommandPosted (driver next : NativeDriver β rx tx) (state : StationState)
    (command : UmacCommand) : Prop where
  kept : next.state = driver.state
  station : ∃ buffer, next.station = StationController.transition state
    { driver.station with command := buffer, pendingCommand := some command }

theorem post_onSecurityParts {operation : StationOperation β} {state : StationState}
    {command : UmacCommand} {x : StationController.Command β ε Unit} {s : Wpa2System β rx tx}
    (kind : securityCommand operation = some (state, command))
    (effect : StationController.Effective s.driver.station s.driver.device operation x) :
    Post (onSecurityParts x) s (WhenOk fun _ t =>
      t.runtime = s.runtime ∧ CommandPosted s.driver t.driver state command) := by
  rw [onSecurityParts, post_onField, post_mapError, NativeDriver.onSecurityParts, post_onField]
  refine effect.mono ?_
  intro r parts outcome
  cases r with
  | error failure => trivial
  | ok done => exact ⟨rfl, rfl, effect_of_securityCommand kind outcome⟩

variable [Bus β ε]

theorem post_submitFirmwareKey (key : KeyConfig) (submission : KeySubmission)
    (s : Wpa2System β rx tx) :
    Post (submitFirmwareKey key submission.isDefault) s (WhenOk fun _ t =>
      t.runtime = s.runtime ∧ CommandPosted s.driver t.driver .securing submission.command) := by
  rw [submitFirmwareKey, KeySubmission.command]
  cases submission.isDefault with
  | true => exact post_onSecurityParts rfl (StationController.setKey_effect key)
  | false => exact post_onSecurityParts rfl (StationController.keyCommand_effect .newKey key)

theorem post_submitKey (submission : KeySubmission) (s : Wpa2System β rx tx) :
    Post (submitKey submission) s (WhenOk fun progress t =>
      progress = submission.progress ∧ t.runtime = s.runtime.transition submission.nextState ∧
        CommandPosted s.driver t.driver .securing submission.command) := by
  rw [submitKey, post_bind, post_get]
  dsimp only
  rw [post_bind, post_liftResult]
  cases (s.runtime.submissionKey submission : Except (Wpa2RuntimeError ε) KeyConfig) with
  | error failure => trivial
  | ok key =>
      dsimp only
      rw [post_bind]
      refine (post_submitFirmwareKey key submission s).mono ?_
      intro r t outcome
      cases r with
      | error failure => trivial
      | ok done =>
          obtain ⟨runtime, posted⟩ := outcome
          dsimp only
          rw [post_bind, post_enter, post_pure, ← runtime]
          exact ⟨rfl, rfl, posted⟩

/-- A response on the air: the coordinator waits for its transmission. -/
structure ResponseSent (runtime : Wpa2Runtime) (driver : NativeDriver β rx tx)
    (purpose : EapolTransmitPurpose) (token : UInt8) (t : Wpa2System β rx tx) : Prop where
  waits : ∃ frame, t.runtime =
    transition (.awaitingEapolTransmit token purpose) { runtime with frame }
  lifecycle : t.driver.lifecycle = driver.lifecycle

theorem post_submitEapol (response : EapolTxFrame) (purpose : EapolTransmitPurpose)
    (s : Wpa2System β rx tx) :
    Post (submitEapol response purpose) s (WhenOk fun progress t =>
      ∃ token, progress = .eapolSubmitted token purpose ∧
        ResponseSent s.runtime s.driver purpose token t) := by
  rw [submitEapol, post_bind, post_get]
  dsimp only
  rw [post_ite]
  split
  · exact (post_throw _ _ _).mpr trivial
  · rw [post_bind, onRuntime, post_onField, post_modify]
    dsimp only
    rw [post_bind, onDriver, post_onField, post_mapError]
    refine ((NativeDriver.keeps_lifecycle_transmit _ _ _).post s.driver).mono ?_
    intro r driver kept
    cases r with
    | error failure => trivial
    | ok token =>
        dsimp only [Except.mapError]
        rw [post_bind, post_enter, post_pure]
        exact ⟨token, rfl, ⟨_, rfl⟩, kept⟩

end Parts

/-! ## Advances -/

/-- The state in which the status of the previous key is awaited. -/
def awaitedBefore : KeySubmission → Option Wpa2RuntimeState
  | .initialGroup => some .awaitingPairwiseKeyStatus
  | .initialDefaultGroup => some .awaitingGroupKeyStatus
  | .rekeyDefaultGroup => some .awaitingGroupRekeyStatus
  | _ => none

/-- The state in which the status of the last key is awaited. -/
def awaitedLast : KeyInstallCompletion → Wpa2RuntimeState
  | .initial => .awaitingDefaultGroupKeyStatus
  | .rekey => .awaitingDefaultGroupRekeyStatus

/-- The stored request is taken, and the supplicant completes its pending ticket. -/
def Finishes (runtime : Wpa2Runtime) :
    KeyInstallCompletion → EapolTxFrame → Wpa2Runtime → Prop
  | .initial, response, next =>
      ∃ request digest, runtime.pairwiseInstall = some request ∧
        runtime.supplicant.pendingTicket = some (request.ticket, request.replayCounter, false) ∧
        response = request.response ∧
        next = { runtime with
          pairwiseInstall := none
          supplicant := runtime.supplicant.installed request.replayCounter false digest }
  | .rekey, response, next =>
      ∃ request digest, runtime.groupInstall = some request ∧
        runtime.supplicant.pendingTicket = some (request.ticket, request.replayCounter, true) ∧
        response = request.response ∧
        next = { runtime with
          groupInstall := none
          supplicant := runtime.supplicant.installed request.replayCounter true digest }

/-- The event reports that the awaited frame was transmitted: one status, zero. -/
def Transmitted (runtime : Wpa2Runtime) (purpose : EapolTransmitPurpose) (event : TxDoneEvent) :
    Prop :=
  runtime.state = .awaitingEapolTransmit event.token purpose ∧ event.statuses = [0]

/-- The coordinator whose supplicant took a frame. -/
def heard (runtime : Wpa2Runtime) (supplicant : Wpa2Supplicant) (digest : Octets 32) :
    Wpa2Runtime :=
  { runtime with supplicant, lastInputDigest := some digest }

/-- The supplicant takes the payload of a frame with this action. -/
def Takes (crypto : Wpa2Crypto) (runtime : Wpa2Runtime) (frame : Bytes) (action : Wpa2Action)
    (supplicant : Wpa2Supplicant) : Prop :=
  runtime.hasPendingRadioOperation = false ∧
    Wpa2Supplicant.EapolEffect crypto runtime.supplicant runtime.supplicant.peer
      (frame.drop eapolEthernetHeaderLen) action supplicant

/-- Everything a call that succeeds can do. -/
inductive Advance (crypto : Wpa2Crypto) (s : Wpa2System β rx tx) :
    Wpa2Call → Wpa2Progress → Wpa2System β rx tx → Prop where
  | idle {call} (remainingMs : Option UInt32) :
      Advance crypto s call .noChange { s with runtime := { s.runtime with remainingMs } }
  | ignored {frame supplicant digest} (takes : Takes crypto s.runtime frame .none supplicant) :
      Advance crypto s (.ethernetFrame frame) .noChange
        { s with runtime := s.runtime.heard supplicant digest }
  | answered {frame response supplicant digest purpose token t}
      (takes : Takes crypto s.runtime frame (.transmit response) supplicant)
      (kind : purpose = eapolResponsePurpose (s.runtime.supplicant.phase = .complete))
      (sent : ResponseSent (s.runtime.heard supplicant digest) s.driver purpose token t) :
      Advance crypto s (.ethernetFrame frame) (.eapolSubmitted token purpose) t
  | pairwiseRequested {frame request supplicant digest t}
      (waiting : s.runtime.state = .awaitingAuthenticator)
      (takes : Takes crypto s.runtime frame (.installKeys request) supplicant)
      (runtime : t.runtime = transition .awaitingPairwiseKeyStatus
        { s.runtime.heard supplicant digest with pairwiseInstall := some request })
      (posted : CommandPosted s.driver t.driver .securing .newKey) :
      Advance crypto s (.ethernetFrame frame) .pairwiseKeySubmitted t
  | groupRequested {frame request supplicant digest t} (complete : s.runtime.state = .complete)
      (takes : Takes crypto s.runtime frame (.installGroupKey request) supplicant)
      (runtime : t.runtime = transition .awaitingGroupRekeyStatus
        { s.runtime.heard supplicant digest with groupInstall := some request })
      (posted : CommandPosted s.driver t.driver .securing .newKey) :
      Advance crypto s (.ethernetFrame frame) .groupKeySubmitted t
  | keyAdvanced {header submission t} (state : awaitedBefore submission = some s.runtime.state)
      (runtime : t.runtime = s.runtime.transition submission.nextState)
      (posted : CommandPosted s.driver t.driver .securing submission.command) :
      Advance crypto s (.controlEvent (.commandStatus header UmacCommand.newKey.number 0))
        submission.progress t
  | keysInstalled {header completion response runtime token t}
      (state : s.runtime.state = awaitedLast completion)
      (finishes : Finishes s.runtime completion response runtime)
      (sent : ResponseSent runtime s.driver completion.transmitPurpose token t) :
      Advance crypto s (.controlEvent (.commandStatus header UmacCommand.setKey.number 0))
        (.eapolSubmitted token completion.transmitPurpose) t
  | authorized {header} (state : s.runtime.state = .awaitingAuthorizationStatus) :
      Advance crypto s (.controlEvent (.commandStatus header UmacCommand.setStation.number 0))
        .awaitingCarrier { s with runtime := s.runtime.transition .awaitingCarrier }
  | connected {call} (station : s.driver.station.state = .connected) :
      Advance crypto s call .complete { s with runtime := s.runtime.transition .complete }
  | message2Done {event} (done : Transmitted s.runtime .message2 event) :
      Advance crypto s (.transmitDone event) .noChange
        { s with runtime := s.runtime.transition .awaitingAuthenticator }
  | authorizationSent {event t} (done : Transmitted s.runtime .message4 event)
      (runtime : t.runtime = s.runtime.transition .awaitingAuthorizationStatus)
      (posted : CommandPosted s.driver t.driver .authorizing .setStation) :
      Advance crypto s (.transmitDone event) .authorizationSubmitted t
  | rekeyed {event} (done : Transmitted s.runtime .groupMessage2 event)
      (accepted : s.driver.station.completeGroupRekey.state ≠ .fault) :
      Advance crypto s (.transmitDone event) .complete
        { runtime := s.runtime.transition .complete
          driver := { s.driver with station := s.driver.station.completeGroupRekey } }
  | retransmitted {event} (done : Transmitted s.runtime .retransmission event) :
      Advance crypto s (.transmitDone event) .complete
        { s with runtime := s.runtime.transition .complete }

/-- A call that fails rejects the stored requests and moves the driver into recovery. -/
inductive CallOutcome (crypto : Wpa2Crypto) (s : Wpa2System β rx tx) (call : Wpa2Call) :
    Except (Wpa2RuntimeError ε) Wpa2Progress → Wpa2System β rx tx → Prop where
  | failed (u : Wpa2System β rx tx) (failure : Wpa2RuntimeError ε) :
      CallOutcome crypto s call (.error failure)
        { runtime := u.runtime.failed, driver := u.driver.enterRecovery }
  | advanced {progress t} (advance : Advance crypto s call progress t) :
      CallOutcome crypto s call (.ok progress) t

section Outcomes
variable [Bus β ε] {crypto : Wpa2Crypto} {s : Wpa2System β rx tx} {call : Wpa2Call}

omit [Bus β ε] in
theorem outcome_orFail {x : Method β rx tx ε Wpa2Progress} {u : Wpa2System β rx tx}
    (good : Post x u (WhenOk (Advance crypto s call))) :
    Post (orFail x) u (CallOutcome crypto s call) := by
  rw [post_orFail]
  refine good.mono ?_
  intro r t outcome
  cases r with
  | ok progress => exact .advanced outcome
  | error failure => exact .failed t failure

omit [Bus β ε] in
theorem post_finishKeyInstall (completion : KeyInstallCompletion) (runtime : Wpa2Runtime) :
    Post (finishKeyInstall completion : Program Wpa2Runtime (Wpa2RuntimeError ε) EapolTxFrame)
      runtime (fun r next => match r with
        | .ok response => Finishes runtime completion response next
        | .error _ => True) := by
  cases completion with
  | initial =>
      rw [finishKeyInstall, post_bind, post_get]
      dsimp only
      cases stored : runtime.pairwiseInstall with
      | none => exact (post_throw _ _ _).mpr trivial
      | some request =>
          dsimp only
          rw [post_bind, post_modify]
          dsimp only
          rw [post_mapError, onSupplicant, post_onField]
          refine (Wpa2Supplicant.completeKeyInstall_outcome _ request true).mono ?_
          rintro _ _ (failure | ⟨pending, frame⟩)
          · trivial
          · exact ⟨request, _, stored, pending, rfl, rfl⟩
  | rekey =>
      rw [finishKeyInstall, post_bind, post_get]
      dsimp only
      cases stored : runtime.groupInstall with
      | none => exact (post_throw _ _ _).mpr trivial
      | some request =>
          dsimp only
          rw [post_bind, post_modify]
          dsimp only
          rw [post_mapError, onSupplicant, post_onField]
          refine (Wpa2Supplicant.completeGroupKeyInstall_outcome _ request true).mono ?_
          rintro _ _ (failure | ⟨pending, frame⟩)
          · trivial
          · exact ⟨request, _, stored, pending, rfl, rfl⟩

/-! ### Deadlines and the carrier -/

theorem advanceTime_outcome (elapsedMs : UInt32) (s : Wpa2System β rx tx) :
    Post (perform crypto (.advanceTime elapsedMs)) s
      (CallOutcome crypto s (.advanceTime elapsedMs)) := by
  rw [perform, post_bind, advanceTime, post_bind, post_get]
  dsimp only
  cases armed : s.runtime.remainingMs with
  | none =>
      rw [post_pure]
      refine (post_pure _ _ _).mpr (.advanced ?_)
      have unchanged : s = { s with runtime := { s.runtime with remainingMs := none } } := by
        rw [← armed]
      rw [unchanged]
      exact .idle none
  | some remaining =>
      dsimp only
      rw [post_ite]
      split
      · rw [post_set]
        exact (post_pure _ _ _).mpr (.advanced (.idle _))
      · rw [post_fail]
        exact .failed s _

omit [Bus β ε] in
theorem idle_self (crypto : Wpa2Crypto) (s : Wpa2System β rx tx) (call : Wpa2Call) :
    Advance crypto s call .noChange s := .idle s.runtime.remainingMs

omit [Bus β ε] in
theorem refreshCarrier_outcome (s : Wpa2System β rx tx) (call : Wpa2Call) :
    Post (refreshCarrier : Method β rx tx ε Wpa2Progress) s (CallOutcome crypto s call) := by
  rw [refreshCarrier, post_bind, post_get]
  dsimp only
  rw [post_ite]
  split
  · rename_i station
    rw [post_bind, post_enter, post_pure]
    exact .advanced (.connected station)
  · rw [post_pure]
    exact .advanced (idle_self crypto s call)

/-! ### Frames -/

theorem submitEapol_answered {frame : Bytes} {response : EapolTxFrame}
    {supplicant : Wpa2Supplicant} (digest : Octets 32) (s : Wpa2System β rx tx)
    (takes : Takes crypto s.runtime frame (.transmit response) supplicant) :
    Post (submitEapol response (eapolResponsePurpose (s.runtime.supplicant.phase = .complete)))
      { s with runtime := s.runtime.heard supplicant digest }
      (WhenOk (Advance crypto s (.ethernetFrame frame))) := by
  refine (post_submitEapol response _ _).mono ?_
  intro r t outcome
  cases r with
  | error failure => trivial
  | ok progress =>
      obtain ⟨token, rfl, sent⟩ := outcome
      exact .answered takes rfl sent

theorem beginPairwiseInstall_requested {frame : Bytes} {request : Wpa2KeyInstallRequest}
    {supplicant : Wpa2Supplicant} (digest : Octets 32) (s : Wpa2System β rx tx)
    (takes : Takes crypto s.runtime frame (.installKeys request) supplicant) :
    Post (beginPairwiseInstall request)
      { s with runtime := s.runtime.heard supplicant digest }
      (WhenOk (Advance crypto s (.ethernetFrame frame))) := by
  rw [beginPairwiseInstall, post_bind, post_get]
  dsimp only
  rw [post_ite]
  split
  · exact (post_throw _ _ _).mpr trivial
  · rename_i waiting
    rw [post_bind, onRuntime, post_onField, post_modify]
    refine (post_submitKey .pairwise _).mono ?_
    intro r t outcome
    cases r with
    | error failure => trivial
    | ok progress =>
        obtain ⟨rfl, runtime, posted⟩ := outcome
        exact .pairwiseRequested (not_not.mp waiting) takes runtime posted

theorem beginGroupInstall_requested {frame : Bytes} {request : Wpa2GroupKeyInstallRequest}
    {supplicant : Wpa2Supplicant} (digest : Octets 32) (s : Wpa2System β rx tx)
    (takes : Takes crypto s.runtime frame (.installGroupKey request) supplicant) :
    Post (beginGroupInstall request)
      { s with runtime := s.runtime.heard supplicant digest }
      (WhenOk (Advance crypto s (.ethernetFrame frame))) := by
  rw [beginGroupInstall, post_bind, post_get]
  dsimp only
  rw [post_ite]
  split
  · exact (post_throw _ _ _).mpr trivial
  · rename_i complete
    rw [post_bind, onRuntime, post_onField, post_modify]
    refine (post_submitKey .rekeyGroup _).mono ?_
    intro r t outcome
    cases r with
    | error failure => trivial
    | ok progress =>
        obtain ⟨rfl, runtime, posted⟩ := outcome
        exact .groupRequested (not_not.mp complete) takes runtime posted

theorem dispatchWpa2Action_advance {frame : Bytes} {action : Wpa2Action}
    {supplicant : Wpa2Supplicant} (digest : Octets 32) (s : Wpa2System β rx tx)
    (takes : Takes crypto s.runtime frame action supplicant) :
    Post (dispatchWpa2Action action (s.runtime.supplicant.phase = .complete))
      { s with runtime := s.runtime.heard supplicant digest }
      (WhenOk (Advance crypto s (.ethernetFrame frame))) := by
  cases action with
  | none => exact (post_pure _ _ _).mpr (.ignored takes)
  | transmit response => exact submitEapol_answered digest s takes
  | installKeys request => exact beginPairwiseInstall_requested digest s takes
  | installGroupKey request => exact beginGroupInstall_requested digest s takes

/-- A frame that passes the checks goes to the supplicant, and its action is dispatched. -/
theorem post_onEthernetFrame {crypto : Wpa2Crypto} {frame payload : Bytes}
    {s : Wpa2System β rx tx}
    (valid : (s.runtime.validateEthernetFrame frame : Except (Wpa2RuntimeError ε) Bytes) =
      .ok payload)
    (quiet : s.runtime.hasPendingRadioOperation = false)
    (Q : Except (Wpa2RuntimeError ε) Wpa2Progress → Wpa2System β rx tx → Prop) :
    Post (onEthernetFrame crypto frame) s Q ↔
      Post (Wpa2Supplicant.onEapol crypto s.runtime.supplicant.peer payload) s.runtime.supplicant
        (fun r supplicant => match r with
          | .error failure =>
              Q (.error (.wpa2 failure))
                { runtime := { s.runtime with supplicant }.failed
                  driver := s.driver.enterRecovery }
          | .ok action =>
              Post (orFail (dispatchWpa2Action action (s.runtime.supplicant.phase = .complete)))
                { s with runtime := s.runtime.heard supplicant (crypto.sha256 payload) } Q) := by
  rw [onEthernetFrame, post_bind, post_get]
  dsimp only
  rw [post_bind, post_orFail, post_liftResult, valid]
  dsimp only
  rw [post_bind, post_orFail, post_liftResult, pendingInput, if_pos (by simp [quiet])]
  dsimp only
  rw [post_bind, post_orFail, onRuntime, post_onField, post_mapError, onSupplicant, post_onField]
  refine Post.congr (post_true _ _) ?_
  intro r supplicant _
  cases r with
  | error failure => rfl
  | ok action =>
      dsimp only [Except.mapError]
      rw [post_bind, onRuntime, post_onField, post_modify]
      rfl

theorem onEthernetFrame_outcome (frame : Bytes) (s : Wpa2System β rx tx) :
    Post (onEthernetFrame crypto frame) s (CallOutcome crypto s (.ethernetFrame frame)) := by
  cases valid : (s.runtime.validateEthernetFrame frame : Except (Wpa2RuntimeError ε) Bytes) with
  | error failure =>
      rw [onEthernetFrame, post_bind, post_get]
      dsimp only
      rw [post_bind, post_orFail, post_liftResult, valid]
      exact .failed s failure
  | ok payload =>
      have body : payload = frame.drop eapolEthernetHeaderLen := by
        rw [validateEthernetFrame, check_bind_eq_ok, check_bind_eq_ok] at valid
        exact (Except.ok.inj valid.2.2).symm
      by_cases quiet : s.runtime.hasPendingRadioOperation = true
      · rw [onEthernetFrame, post_bind, post_get]
        dsimp only
        rw [post_bind, post_orFail, post_liftResult, valid]
        dsimp only
        rw [post_bind, post_orFail, post_liftResult, pendingInput, if_neg (not_not_intro quiet)]
        by_cases again : s.runtime.lastInputDigest = some (crypto.sha256 payload)
        · rw [if_pos again]
          exact (post_pure _ _ _).mpr (.advanced (idle_self crypto s _))
        · rw [if_neg again]
          exact .failed s _
      · have idle := Bool.not_eq_true _ ▸ quiet
        rw [post_onEthernetFrame valid idle]
        refine (Wpa2Supplicant.onEapol_handled crypto _ _ payload).mono ?_
        rintro _ supplicant (failure | failure | effect)
        · exact .failed s _
        · exact .failed
            { s with runtime := { s.runtime with supplicant := s.runtime.supplicant.failed } } _
        · rw [body] at effect ⊢
          exact outcome_orFail (dispatchWpa2Action_advance _ s ⟨idle, effect⟩)

/-! ### Command statuses -/

theorem advanceKey_advance (header : UmacHeader) {submission : KeySubmission} (command : UInt32)
    (s : Wpa2System β rx tx) (state : awaitedBefore submission = some s.runtime.state) :
    Post (advanceKey command submission) s
      (WhenOk (Advance crypto s (.controlEvent (.commandStatus header command 0)))) := by
  rw [advanceKey, post_bind, post_liftResult, requireCommand]
  by_cases expected : command = UmacCommand.newKey.number
  · rw [if_pos expected, expected]
    refine (post_submitKey submission s).mono ?_
    intro r t outcome
    cases r with
    | error failure => trivial
    | ok progress =>
        obtain ⟨rfl, runtime, posted⟩ := outcome
        exact .keyAdvanced state runtime posted
  · rw [if_neg expected]
    trivial

theorem completeKeyInstall_advance (header : UmacHeader) {completion : KeyInstallCompletion}
    (command : UInt32) (s : Wpa2System β rx tx)
    (state : s.runtime.state = awaitedLast completion) :
    Post (completeKeyInstall command completion) s
      (WhenOk (Advance crypto s (.controlEvent (.commandStatus header command 0)))) := by
  rw [completeKeyInstall, post_bind, post_liftResult, requireCommand]
  by_cases expected : command = UmacCommand.setKey.number
  · rw [if_pos expected, expected]
    dsimp only
    rw [post_bind, onRuntime, post_onField]
    refine (post_finishKeyInstall completion s.runtime).mono ?_
    intro r runtime finishes
    cases r with
    | error failure => trivial
    | ok response =>
        refine (post_submitEapol response completion.transmitPurpose _).mono ?_
        intro r t outcome
        cases r with
        | error failure => trivial
        | ok progress =>
            obtain ⟨token, rfl, sent⟩ := outcome
            exact .keysInstalled state finishes sent
  · rw [if_neg expected]
    trivial

omit [Bus β ε] in
theorem handleAuthorizationStatus_advance (header : UmacHeader) (command : UInt32)
    (s : Wpa2System β rx tx) (state : s.runtime.state = .awaitingAuthorizationStatus) :
    Post (handleAuthorizationStatus command : Method β rx tx ε Wpa2Progress) s
      (WhenOk (Advance crypto s (.controlEvent (.commandStatus header command 0)))) := by
  rw [handleAuthorizationStatus, post_bind, post_liftResult, requireCommand]
  by_cases expected : command = UmacCommand.setStation.number
  · rw [if_pos expected, expected]
    dsimp only
    rw [post_bind, post_get]
    dsimp only
    rw [post_ite]
    by_cases station : s.driver.station.state = .connected
    · rw [if_pos station, post_bind, post_enter, post_pure]
      exact .connected station
    · rw [if_neg station, post_bind, post_enter, post_pure]
      exact .authorized state
  · rw [if_neg expected]
    trivial

theorem handleInitialKeyStatus_advance (header : UmacHeader) (command : UInt32)
    (s : Wpa2System β rx tx) :
    Post (handleInitialKeyStatus command) s
      (WhenOk (Advance crypto s (.controlEvent (.commandStatus header command 0)))) := by
  rw [handleInitialKeyStatus, post_bind, post_get]
  cases state : s.runtime.state with
  | awaitingPairwiseKeyStatus =>
      simp only [state]
      exact advanceKey_advance header command s (congrArg some state.symm)
  | awaitingGroupKeyStatus =>
      simp only [state]
      exact advanceKey_advance header command s (congrArg some state.symm)
  | awaitingDefaultGroupKeyStatus =>
      simp only [state]
      exact completeKeyInstall_advance header command s state
  | _ =>
      simp only [state]
      exact (post_throw _ _ _).mpr trivial

theorem handleRekeyStatus_advance (header : UmacHeader) (command : UInt32)
    (s : Wpa2System β rx tx) :
    Post (handleRekeyStatus command) s
      (WhenOk (Advance crypto s (.controlEvent (.commandStatus header command 0)))) := by
  rw [handleRekeyStatus, post_bind, post_get]
  cases state : s.runtime.state with
  | awaitingGroupRekeyStatus =>
      simp only [state]
      exact advanceKey_advance header command s (congrArg some state.symm)
  | awaitingDefaultGroupRekeyStatus =>
      simp only [state]
      exact completeKeyInstall_advance header command s state
  | _ =>
      simp only [state]
      exact (post_throw _ _ _).mpr trivial

theorem dispatchCommandStatus_advance (header : UmacHeader) (command : UInt32)
    (s : Wpa2System β rx tx) :
    Post (dispatchCommandStatus command) s
      (WhenOk (Advance crypto s (.controlEvent (.commandStatus header command 0)))) := by
  rw [dispatchCommandStatus, post_bind, post_get]
  cases state : s.runtime.state with
  | awaitingPairwiseKeyStatus =>
      simp only [state]
      exact handleInitialKeyStatus_advance header command s
  | awaitingGroupKeyStatus =>
      simp only [state]
      exact handleInitialKeyStatus_advance header command s
  | awaitingDefaultGroupKeyStatus =>
      simp only [state]
      exact handleInitialKeyStatus_advance header command s
  | awaitingAuthorizationStatus =>
      simp only [state]
      exact handleAuthorizationStatus_advance header command s state
  | awaitingGroupRekeyStatus =>
      simp only [state]
      exact handleRekeyStatus_advance header command s
  | awaitingDefaultGroupRekeyStatus =>
      simp only [state]
      exact handleRekeyStatus_advance header command s
  | _ =>
      simp only [state]
      exact (post_throw _ _ _).mpr trivial

theorem onControlEvent_outcome (event : ControlEvent) (s : Wpa2System β rx tx) :
    Post (onControlEvent event) s (CallOutcome crypto s (.controlEvent event)) := by
  cases event with
  | commandStatus header command status =>
      rw [onControlEvent, commandStatus]
      dsimp only
      rw [post_ite]
      by_cases rejected : status ≠ 0
      · rw [if_pos rejected, post_fail]
        exact .failed s _
      · rw [if_neg rejected, not_not.mp rejected]
        exact outcome_orFail (dispatchCommandStatus_advance header command s)
  | _ => exact refreshCarrier_outcome s _

/-! ### Transmissions -/

omit [Bus β ε] in
theorem completeGroupRekey_advance {event : TxDoneEvent} (s : Wpa2System β rx tx)
    (done : Transmitted s.runtime .groupMessage2 event) :
    Post (completeGroupRekey : Method β rx tx ε Wpa2Progress) s
      (WhenOk (Advance crypto s (.transmitDone event))) := by
  rw [completeGroupRekey, post_bind, post_onField, post_modify]
  dsimp only
  rw [post_bind, post_get]
  dsimp only
  rw [post_ite]
  split
  · exact (post_throw _ _ _).mpr trivial
  · rename_i accepted
    rw [post_bind, post_enter, post_pure]
    exact .rekeyed done accepted

theorem dispatchTransmitPurpose_advance {event : TxDoneEvent} (purpose : EapolTransmitPurpose)
    (s : Wpa2System β rx tx) (done : Transmitted s.runtime purpose event) :
    Post (dispatchTransmitPurpose purpose) s
      (WhenOk (Advance crypto s (.transmitDone event))) := by
  cases purpose with
  | message2 =>
      rw [dispatchTransmitPurpose, post_bind, post_enter, post_pure]
      exact .message2Done done
  | message4 =>
      rw [dispatchTransmitPurpose, authorizeAfterMessage4, post_bind]
      refine (post_onSecurityParts rfl StationController.authorize_effect).mono ?_
      intro r t outcome
      cases r with
      | error failure => trivial
      | ok posted =>
          obtain ⟨runtime, posted⟩ := outcome
          dsimp only
          rw [post_bind, post_enter, post_pure]
          exact .authorizationSent done (congrArg (transition .awaitingAuthorizationStatus) runtime) posted
  | groupMessage2 => exact completeGroupRekey_advance s done
  | retransmission =>
      rw [dispatchTransmitPurpose, post_bind, post_enter, post_pure]
      exact .retransmitted done

theorem onTransmitDone_outcome (event : TxDoneEvent) (s : Wpa2System β rx tx) :
    Post (onTransmitDone event) s (CallOutcome crypto s (.transmitDone event)) := by
  rw [onTransmitDone, post_bind, post_get]
  dsimp only
  rw [post_bind, post_orFail, post_liftResult, completedTransmit]
  cases state : s.runtime.state with
  | awaitingEapolTransmit token purpose =>
      dsimp only
      by_cases foreign : token ≠ event.token
      · rw [if_pos foreign]
        exact .failed s _
      · rw [if_neg foreign]
        by_cases lost : event.statuses.length ≠ 1 ∨ ¬ event.allSucceeded = true
        · rw [if_pos lost]
          exact .failed s _
        · rw [if_neg lost]
          rw [not_or, not_not, not_not] at lost
          obtain ⟨status, single⟩ := List.length_eq_one_iff.mp lost.1
          have zero : status = 0 := by
            simpa [TxDoneEvent.allSucceeded, single] using lost.2
          rw [zero] at single
          rw [not_not.mp foreign] at state
          exact outcome_orFail (dispatchTransmitPurpose_advance purpose s ⟨state, single⟩)
  | _ => exact (post_pure _ _ _).mpr (.advanced (idle_self crypto s _))

/-- Everything a call of the coordinator can do. -/
theorem perform_outcome (crypto : Wpa2Crypto) (call : Wpa2Call) (s : Wpa2System β rx tx) :
    Post (perform crypto call) s (CallOutcome crypto s call) := by
  cases call with
  | ethernetFrame frame => exact onEthernetFrame_outcome frame s
  | controlEvent event => exact onControlEvent_outcome event s
  | transmitDone event => exact onTransmitDone_outcome event s
  | refreshCarrier => exact refreshCarrier_outcome s _
  | advanceTime elapsedMs => exact advanceTime_outcome elapsedMs s

end Outcomes

end Wpa2Runtime

end Nrf7002
