import Nrf7002.Runtime.Advance
import Nrf7002.Runtime.Port
import Nrf7002.Wpa2.Handshake

/-! # When the coordinator is complete

A call reports `complete`, or enters it, only when the station is connected, with two
exceptions: both confirm a transmission without looking at the carrier. -/

set_option autoImplicit false

namespace Nrf7002
open Foundation

/-- The coordinator's calls between any operations of the driver. -/
inductive SystemMove (π β ε : Type) where
  | driver (move : DriverMove π β ε)
  | call (call : Wpa2Call)
  | setTimeouts (timeouts : Wpa2Timeouts)
  | restartPairwise (supplicantNonce : Octets 32)

namespace Wpa2System
variable {β ε π ρ : Type} {rx tx : Nat}

def start (driver : NativeDriver β rx tx) (supplicant : Wpa2Supplicant) (wdevId : UInt8) :
    Wpa2System β rx tx :=
  { runtime := Wpa2Runtime.new supplicant wdevId, driver }

section Step
variable [Bus β ε] [Platform π β ρ] (crypto : Wpa2Crypto)

omit [Platform π β ρ] in
def afterCall (call : Wpa2Call) (system : Wpa2System β rx tx) : Wpa2System β rx tx :=
  stateAfter (Wpa2Runtime.perform crypto call) system

def step (system : Wpa2System β rx tx) : SystemMove π β ε → Wpa2System β rx tx
  | .driver move => { system with driver := system.driver.step move }
  | .call call => afterCall crypto call system
  | .setTimeouts timeouts => { system with runtime := system.runtime.setTimeouts timeouts }
  | .restartPairwise supplicantNonce =>
      { system with
        runtime := stateAfter (Wpa2Runtime.restartPairwise supplicantNonce) system.runtime }

end Step

/-! ## Calls that complete -/

section Completion
variable [Bus β ε] (crypto : Wpa2Crypto)

/-- A call that returns `complete` leaves the station connected. -/
def ReportsConnected (system : Wpa2System β rx tx) : SystemMove π β ε → Prop
  | .call call =>
      resultOf (Wpa2Runtime.perform crypto call) system = .ok .complete →
        (afterCall crypto call system).driver.station.state = .connected
  | _ => True

/-- A call leaves the coordinator complete only next to a connected station. -/
def CompletesConnected (system : Wpa2System β rx tx) : SystemMove π β ε → Prop
  | .call call =>
      (afterCall crypto call system).runtime.state = .complete →
        (afterCall crypto call system).driver.station.state = .connected
  | _ => True

omit [Bus β ε] in
/-- A transmission is confirmed while the station is not connected: that of a repeated
response, or that of Group Message 2 when the carrier is off. -/
def confirmsUnconnected (system : Wpa2System β rx tx) : Wpa2Call → Prop
  | .transmitDone event =>
      (system.runtime.Transmitted .retransmission event ∧
        system.driver.station.state ≠ .connected) ∨
      (system.runtime.Transmitted .groupMessage2 event ∧
        system.driver.station.secureConnection = true ∧
        system.driver.station.controlledPortAuthorized = true ∧
        system.driver.station.carrierOn = false)
  | _ => False

variable (ε) in
omit [Bus β ε] in
/-- The calls that a complete coordinator takes without an answer. -/
def staysComplete (system : Wpa2System β rx tx) : Wpa2Call → Prop
  | .ethernetFrame frame =>
      ∃ payload,
        (system.runtime.validateEthernetFrame frame : Except (Wpa2RuntimeError ε) Bytes) =
          .ok payload ∧
        resultOf (Wpa2Supplicant.onEapol crypto system.runtime.supplicant.peer payload)
          system.runtime.supplicant = .ok .none
  | .controlEvent event => commandStatus event = none
  | .advanceTime elapsedMs =>
      ∀ remaining, system.runtime.remainingMs = some remaining → elapsedMs < remaining
  | .transmitDone _ | .refreshCarrier => True

variable (ε) in
omit [Bus β ε] in
/-- The station lost its connection under a complete coordinator. -/
def staysUnconnected (system : Wpa2System β rx tx) (call : Wpa2Call) : Prop :=
  system.runtime.state = .complete ∧ system.driver.station.state ≠ .connected ∧
    staysComplete ε crypto system call

omit [Bus β ε] in
def reportsUnconnected (system : Wpa2System β rx tx) : SystemMove π β ε → Prop
  | .call call => confirmsUnconnected system call
  | _ => False

def completesUnconnected (system : Wpa2System β rx tx) : SystemMove π β ε → Prop
  | .call call => confirmsUnconnected system call ∨ staysUnconnected ε crypto system call
  | _ => False

variable {crypto} {system : Wpa2System β rx tx}

omit [Bus β ε] in
theorem completeGroupRekey_connected {station : StationController}
    (accepted : station.completeGroupRekey.state ≠ .fault)
    (carrier : ¬ (station.secureConnection = true ∧ station.controlledPortAuthorized = true ∧
      station.carrierOn = false)) : station.completeGroupRekey.state = .connected := by
  rw [StationController.completeGroupRekey] at accepted ⊢
  by_cases open_ : (station.secureConnection && station.controlledPortAuthorized) = true
  · rw [if_pos open_]
    rw [Bool.and_eq_true] at open_
    have on : station.carrierOn = true := by
      by_contra off
      exact carrier ⟨open_.1, open_.2, Bool.not_eq_true _ ▸ off⟩
    rw [if_pos on]
    rfl
  · rw [if_neg open_] at accepted
    exact absurd rfl accepted

omit [Bus β ε] in
theorem completeGroupRekey_unconnected {station : StationController}
    (secure : station.secureConnection = true) (authorized : station.controlledPortAuthorized = true)
    (off : station.carrierOn = false) : station.completeGroupRekey.state = .awaitingCarrier := by
  simp [StationController.completeGroupRekey, secure, authorized, off,
    StationController.transition]

omit [Bus β ε] in
/-- What an advance reports, with the two exceptions left out. -/
theorem advance_reports {call : Wpa2Call} {next : Wpa2System β rx tx}
    (advance : Wpa2Runtime.Advance crypto system call .complete next)
    (clean : ¬ confirmsUnconnected system call) : next.driver.station.state = .connected := by
  generalize reported : Wpa2Progress.complete = progress at advance
  cases advance with
  | connected station => exact station
  | rekeyed done accepted =>
      exact completeGroupRekey_connected accepted fun off => clean (.inr ⟨done, off⟩)
  | retransmitted done =>
      by_contra apart
      exact clean (.inl ⟨done, apart⟩)
  | @keyAdvanced header submission next state runtime posted =>
      cases submission <;> cases reported
  | _ => cases reported

omit [Bus β ε] in
/-- A coordinator that ends complete reports it, or was complete and left the station
alone. -/
theorem advance_enters {call : Wpa2Call} {progress : Wpa2Progress} {next : Wpa2System β rx tx}
    (advance : Wpa2Runtime.Advance crypto system call progress next)
    (after : next.runtime.state = .complete) :
    progress = .complete ∨
      (system.runtime.state = .complete ∧ next.driver.station = system.driver.station) := by
  cases advance with
  | idle remaining => exact .inr ⟨after, rfl⟩
  | ignored takes => exact .inr ⟨after, rfl⟩
  | answered takes kind sent =>
      obtain ⟨frame, waits⟩ := sent.waits
      rw [waits] at after
      cases after
  | pairwiseRequested waiting takes runtime posted =>
      rw [runtime] at after
      cases after
  | groupRequested complete takes runtime posted =>
      rw [runtime] at after
      cases after
  | @keyAdvanced header submission next state runtime posted =>
      rw [runtime] at after
      cases submission <;> cases after
  | keysInstalled state finishes sent =>
      obtain ⟨frame, waits⟩ := sent.waits
      rw [waits] at after
      cases after
  | authorized state => cases after
  | connected station => exact .inl rfl
  | message2Done done => cases after
  | authorizationSent done runtime posted =>
      rw [runtime] at after
      cases after
  | rekeyed done accepted => exact .inl rfl
  | retransmitted done => exact .inl rfl

/-- A confirmed transmission goes to the step that its purpose asks for. -/
theorem post_onTransmitDone {event : TxDoneEvent} {purpose : EapolTransmitPurpose}
    (done : system.runtime.Transmitted purpose event)
    (Q : Except (Wpa2RuntimeError ε) Wpa2Progress → Wpa2System β rx tx → Prop) :
    Post (Wpa2Runtime.onTransmitDone event) system Q ↔
      Post (Wpa2Runtime.orFail (Wpa2Runtime.dispatchTransmitPurpose purpose)) system Q := by
  obtain ⟨state, single⟩ := done
  have succeeded : event.allSucceeded = true := by
    simp [TxDoneEvent.allSucceeded, single]
  rw [Wpa2Runtime.onTransmitDone, post_bind, post_get]
  dsimp only
  rw [post_bind, Wpa2Runtime.post_orFail, post_liftResult, Wpa2Runtime.completedTransmit, state]
  simp [single, succeeded]

variable (crypto) in
theorem confirmsUnconnected_completes {call : Wpa2Call}
    (bad : confirmsUnconnected system call) :
    Post (Wpa2Runtime.perform crypto call) system (fun r next =>
      r = .ok .complete ∧ next.runtime.state = .complete ∧
        next.driver.station.state ≠ .connected) := by
  cases call with
  | transmitDone event =>
      rw [Wpa2Runtime.perform]
      rcases bad with ⟨done, apart⟩ | ⟨done, secure, authorized, off⟩
      · rw [post_onTransmitDone done, Wpa2Runtime.post_orFail,
          Wpa2Runtime.dispatchTransmitPurpose, post_bind, Wpa2Runtime.post_enter, post_pure]
        exact ⟨rfl, rfl, apart⟩
      · have waits := completeGroupRekey_unconnected secure authorized off
        rw [post_onTransmitDone done, Wpa2Runtime.post_orFail,
          Wpa2Runtime.dispatchTransmitPurpose, Wpa2Runtime.completeGroupRekey, post_bind,
          post_onField, post_modify]
        dsimp only
        rw [post_bind, post_get]
        dsimp only
        rw [post_ite, if_neg (by simp [waits]), post_bind, Wpa2Runtime.post_enter, post_pure]
        exact ⟨rfl, rfl, by simp [waits]⟩
  | _ => exact bad.elim

/-! ### A complete coordinator next to a lost connection -/

/-- It stays complete in the calls that need no answer, and leaves in all others. -/
def Stays (crypto : Wpa2Crypto) (system : Wpa2System β rx tx) (call : Wpa2Call) :
    Except (Wpa2RuntimeError ε) Wpa2Progress → Wpa2System β rx tx → Prop :=
  fun _ next =>
    (next.runtime.state = .complete ↔ staysComplete ε crypto system call) ∧
      (next.runtime.state = .complete → next.driver.station = system.driver.station)

omit [Bus β ε] in
theorem stays_of_left {call : Wpa2Call} {r : Except (Wpa2RuntimeError ε) Wpa2Progress}
    {next : Wpa2System β rx tx} (left : next.runtime.state ≠ .complete)
    (answers : ¬ staysComplete ε crypto system call) : Stays crypto system call r next :=
  ⟨iff_of_false left answers, fun state => absurd state left⟩

omit [Bus β ε] in
theorem stays_orFail {call : Wpa2Call} {x : Wpa2Runtime.Method β rx tx ε Wpa2Progress}
    {u : Wpa2System β rx tx} (answers : ¬ staysComplete ε crypto system call)
    (left : Post x u (Wpa2Runtime.WhenOk fun _ next => next.runtime.state ≠ .complete)) :
    Post (Wpa2Runtime.orFail x) u (Stays crypto system call) := by
  rw [Wpa2Runtime.post_orFail]
  refine left.mono ?_
  intro r t outcome
  cases r with
  | ok progress => exact stays_of_left outcome answers
  | error failure =>
      exact stays_of_left (fun state => by cases state) answers

/-- Every action of the supplicant leads out of the complete state. -/
theorem dispatchWpa2Action_leaves {action : Wpa2Action} {wasComplete : Bool}
    (complete : system.runtime.state = .complete) (acts : action ≠ .none) :
    Post (Wpa2Runtime.dispatchWpa2Action action wasComplete) system
      (Wpa2Runtime.WhenOk fun _ next => next.runtime.state ≠ .complete) := by
  cases action with
  | none => exact absurd rfl acts
  | transmit response =>
      rw [Wpa2Runtime.dispatchWpa2Action]
      refine (Wpa2Runtime.post_submitEapol response _ system).mono ?_
      intro r t outcome
      cases r with
      | error failure => trivial
      | ok progress =>
          obtain ⟨token, _, sent⟩ := outcome
          obtain ⟨frame, waits⟩ := sent.waits
          rw [Wpa2Runtime.WhenOk, waits]
          exact fun state => by cases state
  | installKeys request =>
      rw [Wpa2Runtime.dispatchWpa2Action, Wpa2Runtime.beginPairwiseInstall, post_bind, post_get]
      dsimp only
      rw [post_ite, if_pos (by simp [complete]), post_throw]
      trivial
  | installGroupKey request =>
      rw [Wpa2Runtime.dispatchWpa2Action, Wpa2Runtime.beginGroupInstall, post_bind, post_get]
      dsimp only
      rw [post_ite, if_neg (not_not_intro complete), post_bind, Wpa2Runtime.onRuntime,
        post_onField, post_modify]
      refine (Wpa2Runtime.post_submitKey .rekeyGroup _).mono ?_
      intro r t outcome
      cases r with
      | error failure => trivial
      | ok progress =>
          obtain ⟨_, runtime, _⟩ := outcome
          rw [Wpa2Runtime.WhenOk, runtime]
          exact fun state => by cases state

theorem onEthernetFrame_stays (frame : Bytes) (complete : system.runtime.state = .complete) :
    Post (Wpa2Runtime.onEthernetFrame crypto frame) system
      (Stays crypto system (.ethernetFrame frame)) := by
  have quiet : ¬ system.runtime.hasPendingRadioOperation = true := by
    simp [Wpa2Runtime.hasPendingRadioOperation, complete]
  rw [Wpa2Runtime.onEthernetFrame, post_bind, post_get]
  dsimp only
  rw [post_bind, Wpa2Runtime.post_orFail, post_liftResult]
  cases valid : (system.runtime.validateEthernetFrame frame :
      Except (Wpa2RuntimeError ε) Bytes) with
  | error failure =>
      refine stays_of_left (fun state => by cases state) ?_
      rintro ⟨payload, accepted, _⟩
      rw [valid] at accepted
      cases accepted
  | ok payload =>
      dsimp only
      rw [post_bind, Wpa2Runtime.post_orFail, post_liftResult, Wpa2Runtime.pendingInput,
        if_pos quiet]
      dsimp only
      rw [post_bind, Wpa2Runtime.post_orFail, Wpa2Runtime.onRuntime, post_onField, post_mapError,
        Wpa2Runtime.onSupplicant, post_onField, post_iff]
      have answers : ∀ {action}, resultOf (Wpa2Supplicant.onEapol crypto
          system.runtime.supplicant.peer payload) system.runtime.supplicant = action →
          action ≠ .ok .none → ¬ staysComplete ε crypto system (.ethernetFrame frame) := by
        rintro action taken acts ⟨again, accepted, silent⟩
        rw [valid] at accepted
        cases accepted
        exact acts (taken.symm.trans silent)
      cases taken : resultOf (Wpa2Supplicant.onEapol crypto system.runtime.supplicant.peer payload)
          system.runtime.supplicant with
      | error failure =>
          exact stays_of_left (fun state => by cases state) (answers taken (by simp))
      | ok action =>
          dsimp only [Except.mapError]
          rw [post_bind, Wpa2Runtime.onRuntime, post_onField, post_modify]
          by_cases silent : action = .none
          · rw [silent] at taken ⊢
            rw [Wpa2Runtime.post_orFail, Wpa2Runtime.dispatchWpa2Action, post_pure]
            exact ⟨iff_of_true complete ⟨payload, valid, taken⟩, fun _ => rfl⟩
          · exact stays_orFail (answers taken (by simp [silent]))
              (dispatchWpa2Action_leaves complete silent)

variable (crypto) in
theorem perform_stays (call : Wpa2Call) (complete : system.runtime.state = .complete)
    (apart : system.driver.station.state ≠ .connected) :
    Post (Wpa2Runtime.perform crypto call) system (Stays crypto system call) := by
  have refreshed {call} (stays : staysComplete ε crypto system call) :
      Post (Wpa2Runtime.refreshCarrier : Wpa2Runtime.Method β rx tx ε Wpa2Progress) system
        (Stays crypto system call) := by
    rw [Wpa2Runtime.refreshCarrier, post_bind, post_get]
    dsimp only
    rw [post_ite, if_neg apart, post_pure]
    exact ⟨iff_of_true complete stays, fun _ => rfl⟩
  cases call with
  | ethernetFrame frame => exact onEthernetFrame_stays frame complete
  | controlEvent event =>
      rw [Wpa2Runtime.perform, Wpa2Runtime.onControlEvent]
      cases answered : commandStatus event with
      | none => exact refreshed answered
      | some status =>
          have answers : ¬ staysComplete ε crypto system (.controlEvent event) := by
            simp [staysComplete, answered]
          obtain ⟨command, status⟩ := status
          dsimp only
          rw [post_ite]
          split
          · rw [Wpa2Runtime.post_fail]
            exact stays_of_left (fun state => by cases state) answers
          · apply stays_orFail answers
            rw [Wpa2Runtime.dispatchCommandStatus, post_bind, post_get]
            simp only [complete]
            rw [post_throw]
            trivial
  | transmitDone event =>
      rw [Wpa2Runtime.perform, Wpa2Runtime.onTransmitDone, post_bind, post_get]
      dsimp only
      rw [post_bind, Wpa2Runtime.post_orFail, post_liftResult, Wpa2Runtime.completedTransmit,
        complete]
      exact (post_pure _ _ _).mpr ⟨iff_of_true complete trivial, fun _ => rfl⟩
  | refreshCarrier => exact refreshed trivial
  | advanceTime elapsedMs =>
      rw [Wpa2Runtime.perform, post_bind, Wpa2Runtime.advanceTime, post_bind, post_get]
      dsimp only
      cases armed : system.runtime.remainingMs with
      | none =>
          dsimp only
          rw [post_pure, post_pure]
          refine ⟨iff_of_true complete ?_, fun _ => rfl⟩
          intro remaining some_
          rw [armed] at some_
          cases some_
      | some remaining =>
          have stays_iff : staysComplete ε crypto system (.advanceTime elapsedMs) ↔
              elapsedMs < remaining := by
            simp [staysComplete, armed]
          dsimp only
          rw [post_ite]
          split
          · rename_i early
            rw [post_set, post_pure]
            exact ⟨iff_of_true complete (stays_iff.mpr early), fun _ => rfl⟩
          · rename_i late
            rw [Wpa2Runtime.post_fail]
            exact stays_of_left (fun state => by cases state) fun stays => late (stays_iff.mp stays)

/-! ### Each call -/

theorem reportsConnected_iff (system : Wpa2System β rx tx) (move : SystemMove π β ε) :
    ReportsConnected crypto system move ↔ ¬ reportsUnconnected system move := by
  cases move with
  | call call =>
      constructor
      · intro connected bad
        obtain ⟨reported, _, apart⟩ := (confirmsUnconnected_completes crypto bad).ends
        exact apart (connected reported)
      · intro clean reported
        have outcome := (Wpa2Runtime.perform_outcome crypto call system).ends
        rw [reported] at outcome
        rw [afterCall]
        generalize stateAfter (Wpa2Runtime.perform crypto call) system = next at outcome ⊢
        cases outcome with
        | advanced advance => exact advance_reports advance clean
  | _ => exact ⟨fun _ bad => bad, fun _ => trivial⟩

theorem completesConnected_iff (system : Wpa2System β rx tx) (move : SystemMove π β ε) :
    CompletesConnected crypto system move ↔ ¬ completesUnconnected crypto system move := by
  cases move with
  | call call =>
      constructor
      · rintro connected (bad | ⟨complete, apart, stays⟩)
        · obtain ⟨_, state, apart⟩ := (confirmsUnconnected_completes crypto bad).ends
          exact apart (connected state)
        · obtain ⟨kept, station⟩ := (perform_stays crypto call complete apart).ends
          have state := kept.mpr stays
          have lost := connected state
          rw [afterCall, station state] at lost
          exact apart lost
      · intro clean state
        have outcome := (Wpa2Runtime.perform_outcome crypto call system).ends
        rw [afterCall] at state ⊢
        generalize resultOf (Wpa2Runtime.perform crypto call) system = r at outcome
        generalize ends : stateAfter (Wpa2Runtime.perform crypto call) system = next
          at outcome state ⊢
        cases outcome with
        | failed u failure => cases state
        | advanced advance =>
            rcases advance_enters advance state with rfl | ⟨complete, station⟩
            · exact advance_reports advance fun bad => clean (.inl bad)
            · rw [station]
              by_contra apart
              rw [← ends] at state
              exact clean (.inr ⟨complete, apart, (perform_stays crypto call complete apart).ends.1.mp state⟩)
  | _ => exact ⟨fun _ bad => bad, fun _ => trivial⟩

end Completion

/-! ## Runs -/

section Runs
variable [Bus β ε] [Platform π β ρ]

/-- Along every run, `complete` is reported next to a connected station exactly when no
transmission is confirmed without one; the coordinator is complete next to a connected
station exactly when, besides, no call leaves it complete after a loss of the connection. -/
theorem complete_is_connected_iff (crypto : Wpa2Crypto) (driver : NativeDriver β rx tx)
    (supplicant : Wpa2Supplicant) (wdevId : UInt8) (moves : List (SystemMove π β ε)) :
    ((∀ taken ∈ stepsOf (step crypto) (start driver supplicant wdevId) moves,
        ReportsConnected crypto taken.1 taken.2) ↔
      ∀ taken ∈ stepsOf (step crypto) (start driver supplicant wdevId) moves,
        ¬ reportsUnconnected taken.1 taken.2) ∧
    ((∀ taken ∈ stepsOf (step crypto) (start driver supplicant wdevId) moves,
        CompletesConnected crypto taken.1 taken.2) ↔
      ∀ taken ∈ stepsOf (step crypto) (start driver supplicant wdevId) moves,
        ¬ completesUnconnected crypto taken.1 taken.2) :=
  ⟨forall₂_congr fun taken _ => reportsConnected_iff taken.1 taken.2,
    forall₂_congr fun taken _ => completesConnected_iff taken.1 taken.2⟩

end Runs

/-! ## A repeated Message 3 while the carrier is off -/

def securingStation : StationController :=
  { StationController.new 1 0 0 with
    state := .securing
    interfaceCreated := true
    peer := some samplePeer
    secureConnection := true }

def wordQueue : Hpq := { enqueueAddress := readyAddress, dequeueAddress := readyAddress }

/-- A secure association that waits for the keys, on a bus whose words are all ones. -/
def securingDriver : NativeDriver WordBus 8 1 :=
  { NativeDriver.coldDriver with
    device :=
      { Device.new { word := readyAddress } with
        queues := some
          { eventBusy := wordQueue
            eventAvailable := wordQueue
            commandBusy := wordQueue
            commandAvailable := wordQueue
            rxBufferBusy := (wordQueue, wordQueue, wordQueue) }
        rxCommandBase := readyAddress
        txCommandBase := rpuMemTxCmdBase }
    station := securingStation
    state := .ready }

def eapolFrame (payload : Bytes) : Bytes :=
  sampleLocal.1 ++ (samplePeer.1 ++ (be16 eapolEthertype ++ payload))

def txDoneMessage (token : UInt8) : HostMessage :=
  { resubmit := true
    messageType := .data
    payload := le32 2 ++ (le32 23 ++ ([token, 1] ++ (List.replicate 12 0 ++ [0]))) }

/-- The driver dispatches a status, and the coordinator takes the same event. -/
def statusMoves (command : UmacCommand) : List (SystemMove Unit WordBus Empty) :=
  [.driver (.dispatchMessage (NativeDriver.controlMessage .commandStatus
      (le32 command.number ++ le32 0))),
    .call (.controlEvent (.commandStatus
      (StationController.plainHeader UmacEvent.commandStatus.number) command.number 0))]

def doneMoves (token : UInt8) : List (SystemMove Unit WordBus Empty) :=
  [.driver (.dispatchMessage (txDoneMessage token)),
    .call (.transmitDone { token, statuses := [0] })]

/-- From Message 1 to the transmission of the second Message 4; the carrier stays off. -/
def handshakeMoves : List (SystemMove Unit WordBus Empty) :=
  [.call (.ethernetFrame (eapolFrame sampleMessage1))] ++ doneMoves 0 ++
    [.call (.ethernetFrame (eapolFrame sampleMessage3))] ++
    statusMoves .newKey ++ statusMoves .newKey ++ statusMoves .setKey ++ doneMoves 0 ++
    statusMoves .setStation ++ [.call (.ethernetFrame (eapolFrame sampleMessage3))]

theorem handshakeMoves_wait :
    let system := runMoves (step sampleCrypto) (start securingDriver sampleSupplicant 0)
      handshakeMoves
    system.runtime.state = .awaitingEapolTransmit 0 .retransmission ∧
      system.driver.station.state = .awaitingCarrier := by
  decide +kernel

theorem retransmission_reportsUnconnected {system : Wpa2System WordBus 8 1}
    (waits : system.runtime.state = .awaitingEapolTransmit 0 .retransmission)
    (station : system.driver.station.state = .awaitingCarrier) :
    reportsUnconnected system
      (.call (.transmitDone { token := 0, statuses := [0] }) : SystemMove Unit WordBus Empty) :=
  .inl ⟨⟨waits, rfl⟩, by simp [station]⟩

/-- The repeated Message 4 is confirmed before the carrier comes up. -/
theorem repeated_message4_completes_early :
    ¬ ∀ taken ∈ stepsOf (step sampleCrypto) (start securingDriver sampleSupplicant 0)
        (handshakeMoves ++ [.call (.transmitDone { token := 0, statuses := [0] })]),
      ReportsConnected sampleCrypto taken.1 taken.2 := by
  intro reports
  have last := last_mem_stepsOf (step sampleCrypto) (start securingDriver sampleSupplicant 0)
    handshakeMoves (.call (.transmitDone { token := 0, statuses := [0] }))
  have connected := reports _ last
  have waits := handshakeMoves_wait
  dsimp only at waits connected
  rw [reportsConnected_iff] at connected
  generalize runMoves (step sampleCrypto) (start securingDriver sampleSupplicant 0)
    handshakeMoves = system at waits connected
  obtain ⟨waits, station⟩ := waits
  exact connected (retransmission_reportsUnconnected waits station)

end Wpa2System

end Nrf7002
