import Nrf7002.Production.Run

/-! # The driver and the coordinator agree on a failure

A failure that the coordinator detects stops the driver too.  A failure that the driver
or its station detects is returned before the coordinator is told. -/

set_option autoImplicit false

namespace Nrf7002
open Foundation

/-- The driver waits for a recovery. -/
def DriverState.Stopped (state : DriverState) : Prop := state = .recovering ∨ state = .fault

/-- The coordinator failed and retains no request. -/
structure Wpa2Runtime.Closed (runtime : Wpa2Runtime) : Prop where
  failed : runtime.state = .failed
  pairwise : runtime.pairwiseInstall = none
  group : runtime.groupInstall = none

/-- The deadline of the station is over after so many milliseconds. -/
def StationController.Expires (station : StationController) (elapsedMs : UInt32) : Prop :=
  ∃ remaining, station.remainingMs = some remaining ∧ remaining ≤ elapsedMs

def Wpa2Runtime.Expires (runtime : Wpa2Runtime) (elapsedMs : UInt32) : Prop :=
  ∃ remaining, runtime.remainingMs = some remaining ∧ remaining ≤ elapsedMs

/-! ## Deadlines -/

namespace StationController

theorem post_advanceTime_expires (elapsedMs : UInt32) (station : StationController) :
    Post (advanceTime elapsedMs) station (fun r _ => r.isOk = false ↔ station.Expires elapsedMs) := by
  rw [advanceTime, post_bind, post_get]
  dsimp only
  cases armed : station.remainingMs with
  | none =>
      rw [post_pure]
      simp [Except.isOk, Except.toBool, Expires, armed]
  | some remaining =>
      dsimp only
      rw [post_ite]
      split
      · rename_i early
        rw [post_set]
        simpa [Except.isOk, Except.toBool, Expires, armed] using early
      · rename_i late
        rw [post_bind, post_modify]
        simpa [Except.isOk, Except.toBool, Expires, armed] using late

end StationController

/-! ## The driver layer -/

namespace MissionCriticalDriver
variable {β ε α : Type} {rx tx : Nat}

/-- The state of the driver once an operation's result was classified. -/
def finished (operation : DriverOperation) (result : Except (DriverError ε) α)
    (state : DriverState) : DriverState :=
  match result with
  | .ok _ => state
  | .error error => if driverErrorRequiresRecovery operation error then .recovering else state

theorem finished_stopped (operation : DriverOperation) (result : Except (DriverError ε) α)
    (state : DriverState) :
    (finished operation result state).Stopped ↔
      state.Stopped ∨
        ∃ error, result = .error error ∧ driverErrorRequiresRecovery operation error = true := by
  cases result with
  | ok value => simp [finished]
  | error error =>
      cases required : driverErrorRequiresRecovery operation error with
      | true =>
          simp only [finished, required]
          exact iff_of_true (.inl rfl) (.inr ⟨error, rfl, required⟩)
      | false => simp [finished, required]

/-- The portable driver once an operation's result was classified. -/
def leaves (operation : DriverOperation) (result : Except (DriverError ε) α)
    (inner : NativeDriver β rx tx) : NativeDriver β rx tx :=
  match result with
  | .ok _ => inner
  | .error error =>
      if driverErrorRequiresRecovery operation error then inner.enterRecovery else inner

theorem leaves_state (operation : DriverOperation) (result : Except (DriverError ε) α)
    (inner : NativeDriver β rx tx) :
    (leaves operation result inner).state = finished operation result inner.state := by
  cases result with
  | ok value => rfl
  | error error =>
      rw [leaves, finished]
      split
      · rfl
      · rfl

theorem leaves_cases (operation : DriverOperation) (result : Except (DriverError ε) α)
    (inner : NativeDriver β rx tx) :
    leaves operation result inner = inner ∨
      leaves operation result inner = inner.enterRecovery := by
  cases result with
  | ok value => exact .inl rfl
  | error error =>
      rw [leaves]
      split
      · exact .inr rfl
      · exact .inl rfl

theorem post_finishDriver (operation : DriverOperation) (result : Except (DriverError ε) α)
    (driver : MissionCriticalDriver β rx tx) :
    Post (finishDriver operation result) driver (fun r next =>
      r = result.mapError .driver ∧ next.inner = leaves operation result driver.inner) := by
  cases result with
  | ok value => exact (post_pure _ _ _).mpr ⟨rfl, rfl⟩
  | error error =>
      rw [finishDriver, post_ite, leaves]
      split
      · rw [post_bind, enterRecovery, onInner, post_onField, post_modify]
        exact (post_throw _ _ _).mpr ⟨rfl, rfl⟩
      · exact (post_throw _ _ _).mpr ⟨rfl, rfl⟩

/-- Time stops the driver when the deadline of its station is over. -/
theorem advanceTime_stops (elapsedMs : UInt32) (driver : MissionCriticalDriver β rx tx) :
    Post (advanceTime elapsedMs : Method β rx tx ε Unit) driver (fun r next =>
      (r.isOk = false ↔ driver.inner.station.Expires elapsedMs) ∧
        (next.inner.state.Stopped ↔
          driver.inner.state.Stopped ∨ driver.inner.station.Expires elapsedMs)) := by
  have native : Post (NativeDriver.advanceTime elapsedMs :
      Program (NativeDriver β rx tx) (DriverError ε) Unit) driver.inner (fun r next =>
        (r.isOk = false ↔ driver.inner.station.Expires elapsedMs) ∧
          next.state = if r.isOk then driver.inner.state else .recovering) := by
    rw [NativeDriver.advanceTime, NativeDriver.post_orRecover, post_mapError]
    refine (StationController.post_advanceTime_expires elapsedMs driver.inner.station).mono ?_
    intro r station expires
    cases r with
    | ok done => exact ⟨expires, rfl⟩
    | error fault => exact ⟨expires, rfl⟩
  rw [advanceTime, post_bind, post_attempt, onInner, post_onField]
  refine native.mono ?_
  rintro r inner ⟨expires, state⟩
  dsimp only
  refine (post_finishDriver .control r _).mono ?_
  rintro r' next ⟨rfl, ends⟩
  rw [ends, leaves_state, finished_stopped, state]
  cases r with
  | ok done =>
      have early : ¬ driver.inner.station.Expires elapsedMs := fun late => by
        simpa [Except.isOk, Except.toBool] using expires.mpr late
      refine ⟨expires, ?_⟩
      simp [early, Except.isOk, Except.toBool]
  | error failure =>
      have late := expires.mp rfl
      exact ⟨expires, iff_of_true (.inl (.inl rfl)) (.inr late)⟩

/-- The poll met an error that requires recovery; a failure of the station always does. -/
def pollFails (result : Except (DriverError ε) α) : Prop :=
  ∃ error, result = .error error ∧
    (driverErrorRequiresRecovery .event error = true ∨ ∃ failure, error = .station failure)

theorem pollFails_map {γ : Type} (f : α → γ) (result : Except (DriverError ε) α) :
    pollFails (result.map f) ↔ pollFails result := by
  cases result with
  | ok value => simp [pollFails, Except.map]
  | error error => simp [pollFails, Except.map]

theorem not_stopped_ready : ¬ DriverState.ready.Stopped := by
  rintro (same | same) <;> cases same

theorem pollFails_ok (value : α) : ¬ pollFails (.ok value : Except (DriverError ε) α) := by
  rintro ⟨error, same, _⟩
  cases same

/-- An error without a change of the state stops the driver when it requires so. -/
theorem refused_stops {failure : DriverError ε} {state : DriverState}
    (plain : ∀ error, failure ≠ .station error) :
    (finished .event (.error failure : Except (DriverError ε) α) state).Stopped ↔
      state.Stopped ∨ pollFails (.error failure : Except (DriverError ε) α) := by
  rw [finished_stopped]
  apply or_congr_right
  constructor
  · rintro ⟨error, same, required⟩
    exact ⟨error, same, .inl required⟩
  · rintro ⟨error, same, required | ⟨fault, named⟩⟩
    · exact ⟨error, same, required⟩
    · exact absurd ((Except.error.inj same).trans named) (plain fault)

theorem ok_stops {value : α} {state next : DriverState} (same : next.Stopped ↔ state.Stopped) :
    (finished .event (.ok value : Except (DriverError ε) α) next).Stopped ↔
      state.Stopped ∨ pollFails (.ok value : Except (DriverError ε) α) := by
  rw [finished, same]
  exact (or_iff_left (pollFails_ok value)).symm

theorem dispatched_stops {state : DriverState} {station : StationController}
    {r : Except (DriverError ε) DriverEvent} {next : DriverState × StationController}
    (effect : NativeDriver.Dispatched state station r next) :
    ((finished .event r next.1).Stopped ↔ state.Stopped ∨ pollFails r) ∧
      ∀ event, r = .ok event → next.1.Stopped → ∃ report, event = .system report := by
  cases effect with
  | refused failure plain =>
      refine ⟨refused_stops plain, ?_⟩
      intro event same
      cases same
  | reported event report =>
      refine ⟨ok_stops Iff.rfl, ?_⟩
      intro event' same stopped
      cases same
      cases event with
      | system inner => exact ⟨inner, rfl⟩
      | control control => exact report.elim
      | data data => exact report.elim
      | transmitDone done =>
          have ready : state = .ready := report
          exact absurd (ready ▸ stopped) not_stopped_ready
      | receive received =>
          have ready : state = .ready := report
          exact absurd (ready ▸ stopped) not_stopped_ready
      | supplicant payload =>
          have ready : state = .ready := report
          exact absurd (ready ▸ stopped) not_stopped_ready
  | initialized waiting =>
      refine ⟨ok_stops ?_, fun event _ stopped => absurd stopped not_stopped_ready⟩
      rw [waiting]
      exact iff_of_false not_stopped_ready (by rintro (same | same) <;> cases same)
  | controlled ready handled =>
      rw [ready]
      exact ⟨ok_stops Iff.rfl, fun event _ stopped => absurd stopped not_stopped_ready⟩
  | informed ready handled =>
      rw [ready]
      exact ⟨ok_stops Iff.rfl, fun event _ stopped => absurd stopped not_stopped_ready⟩
  | unexpected =>
      refine ⟨iff_of_true (.inl rfl) (.inr ⟨_, rfl, .inl rfl⟩), ?_⟩
      intro event same
      cases same
  | failed failure ready =>
      constructor
      · rw [finished_stopped]
        exact iff_of_true (.inl (.inl rfl)) (.inr ⟨_, rfl, .inr ⟨failure, rfl⟩⟩)
      · intro event same
        cases same

theorem polled_stops {state : DriverState} {station : StationController}
    {r : Except (DriverError ε) (Option DriverEvent)} {next : DriverState × StationController}
    (effect : NativeDriver.Polled state station r next) :
    ((finished .event r next.1).Stopped ↔ state.Stopped ∨ pollFails r) ∧
      ∀ event, r = .ok (some event) → next.1.Stopped → ∃ report, event = .system report := by
  cases effect with
  | idle =>
      refine ⟨ok_stops Iff.rfl, ?_⟩
      intro event same
      cases same
  | unread failure =>
      refine ⟨refused_stops (by simp), ?_⟩
      intro event same
      cases same
  | lost =>
      refine ⟨iff_of_true (.inl rfl) (.inr ⟨_, rfl, .inl rfl⟩), ?_⟩
      intro event same
      cases same
  | @dispatched r next effect =>
      obtain ⟨stops, reports⟩ := dispatched_stops effect
      have same : finished .event (r.map some) next.1 = finished .event r next.1 := by
        cases r <;> rfl
      rw [same, pollFails_map]
      refine ⟨stops, ?_⟩
      intro event taken stopped
      cases r with
      | error failure => cases taken
      | ok first =>
          cases taken
          exact reports event rfl stopped

variable [Bus β ε]

/-- A poll stops the driver when it fails with an error that requires recovery. -/
theorem pollEvent_stops (scratchAddress : Nat) (driver : MissionCriticalDriver β rx tx)
    (scratch : Bytes) :
    Post (pollEvent scratchAddress) (driver, scratch) (fun r s =>
      (s.1.inner.state.Stopped ↔ driver.inner.state.Stopped ∨
        pollFails (resultOf (NativeDriver.pollEvent scratchAddress) (driver.inner, scratch))) ∧
      ∀ event, r = .ok (some event) → s.1.inner.state.Stopped →
        ∃ report, event = .system report) := by
  rw [pollEvent, post_bind, post_attempt, onInnerBuffer, post_onField]
  refine ((NativeDriver.pollEvent_polled scratchAddress driver.inner scratch).and
    (post_self _ _)).mono ?_
  rintro r part ⟨polled, result, _⟩
  obtain ⟨stops, reports⟩ := polled_stops polled
  dsimp only
  rw [besideBuffer, post_onField]
  refine (post_finishDriver .event r _).mono ?_
  rintro r' next ⟨rfl, ends⟩
  rw [← result]
  dsimp only
  rw [ends, leaves_state]
  refine ⟨stops, ?_⟩
  intro event taken stopped
  cases r with
  | error failure => cases taken
  | ok first =>
      cases taken
      exact reports event rfl stopped

omit [Bus β ε] in
theorem post_ensureReady (driver : MissionCriticalDriver β rx tx)
    (Q : Except (ProductionError ε) Unit → MissionCriticalDriver β rx tx → Prop) :
    Post ensureReady driver Q ↔
      if driver.inner.state = .ready then Q (.ok ()) driver
      else Q (.error (.driver (.invalidState driver.inner.state .ready))) driver := by
  rw [ensureReady, post_bind, post_get]
  dsimp only
  rw [post_ite, post_pure, post_throw]

/-- The driver layer got as far as the portable driver, whose result requires recovery. -/
def nativeFails (driver : MissionCriticalDriver β rx tx) (operation : DriverOperation)
    (result : Except (DriverError ε) α) : Prop :=
  driver.inner.state = .ready ∧
    ∃ error, result = .error error ∧ driverErrorRequiresRecovery operation error = true

omit [Bus β ε] in
theorem nativeFails_stops {driver : MissionCriticalDriver β rx tx} {operation : DriverOperation}
    {result : Except (DriverError ε) α} (ready : driver.inner.state = .ready) :
    (finished operation result driver.inner.state).Stopped ↔
      driver.inner.state.Stopped ∨ nativeFails driver operation result := by
  rw [finished_stopped, nativeFails, and_iff_right ready]

omit [Bus β ε] in
theorem post_finishReceive (result : Except (DriverError ε) ReceivedFrame)
    (s : MissionCriticalDriver β rx tx × Bytes) :
    Post (finishReceive result) s (fun r t =>
      r.isOk = result.isOk ∧ t.1.inner = leaves .receive result s.1.inner) := by
  cases result with
  | ok frame => exact (post_pure _ _ _).mpr ⟨rfl, rfl⟩
  | error error =>
      have general : Post (if receiveErrorRequiresRecovery error then do
            besideBuffer enterRecovery
            throw (.driver error)
          else throw (.driver error) :
            Program (MissionCriticalDriver β rx tx × Bytes) (ProductionError ε) ReceivedFrame)
          s (fun r t => r.isOk = false ∧
            t.1.inner = leaves .receive (.error error : Except _ ReceivedFrame) s.1.inner) := by
        rw [post_ite, leaves, receiveErrorRequiresRecovery]
        split
        · rw [post_bind, besideBuffer, post_onField, enterRecovery, onInner, post_onField,
            post_modify]
          exact (post_throw _ _ _).mpr ⟨rfl, rfl⟩
        · exact (post_throw _ _ _).mpr ⟨rfl, rfl⟩
      cases error with
      | controlledPortClosed state etherType =>
          rw [finishReceive, post_bind, post_modify]
          exact (post_throw _ _ _).mpr ⟨rfl, rfl⟩
      | _ => exact general

omit [Bus β ε] in
theorem keeps_inner_enforceReceivedFrame (frame : ReceivedFrame) :
    Keeps (fun s : MissionCriticalDriver β rx tx × Bytes => s.1.inner)
      (enforceReceivedFrame frame : Program (MissionCriticalDriver β rx tx × Bytes)
        (ProductionError ε) ReceivedFrame) := by
  apply (keeps_get _).bind
  intro s
  apply keeps_ite
  · intro allowed
    exact keeps_pure _ _
  · intro rejected
    apply (keeps_modify _ _ (by intro t; rfl)).bind
    intro wiped
    exact keeps_throw _ _

theorem receivePacket_stops (event : RxEvent) (packetIndex : Nat)
    (driver : MissionCriticalDriver β rx tx) (output : Bytes) :
    Post (receivePacket event packetIndex) (driver, output) (fun r s =>
      (s.1.inner.state.Stopped ↔ driver.inner.state.Stopped ∨
        nativeFails driver .receive (resultOf (NativeDriver.receivePacket event packetIndex)
          (driver.inner, output))) ∧
      (r.isOk = true → ¬ s.1.inner.state.Stopped)) := by
  rw [receivePacket, post_bind, besideBuffer, post_onField, post_ensureReady]
  by_cases ready : driver.inner.state = .ready
  · rw [if_pos ready]
    dsimp only
    rw [post_bind, post_attempt, onInnerBuffer, post_onField]
    refine ((NativeDriver.receivePacket_lifecycle driver.inner event packetIndex output).and
      (post_self _ _)).mono ?_
    rintro r part ⟨ends, result, _⟩
    dsimp only
    rw [post_bind, ← result]
    -- the portable driver changes its state only for an error that requires recovery
    have state : finished .receive r part.1.state = finished .receive r driver.inner.state := by
      rcases ends with kept | ⟨rfl, began⟩
      · rw [show part.1.state = driver.inner.state from congrArg Prod.fst kept]
      · rfl
    refine (post_finishReceive r _).mono ?_
    rintro r' s ⟨isOk, left⟩
    have finishes : s.1.inner.state = finished .receive r driver.inner.state := by
      rw [left, leaves_state]
      exact state
    cases r' with
    | error failure =>
        dsimp only
        rw [finishes, nativeFails_stops ready]
        exact ⟨Iff.rfl, fun ok => by cases ok⟩
    | ok frame =>
        refine ((keeps_inner_enforceReceivedFrame frame).post s).mono ?_
        intro r'' t kept
        rw [kept, finishes, nativeFails_stops ready]
        refine ⟨Iff.rfl, ?_⟩
        rintro _ (stopped | ⟨_, error, failed, _⟩)
        · exact not_stopped_ready (ready ▸ stopped)
        · rw [failed] at isOk
          cases isOk
  · rw [if_neg ready]
    refine ⟨(or_iff_left ?_).symm, fun ok => by cases ok⟩
    intro fails
    exact ready fails.1

/-- The frame passes the checks of the driver layer. -/
def admits (driver : MissionCriticalDriver β rx tx) (frame : Bytes) : Prop :=
  14 ≤ frame.length ∧ frameAllowed driver.inner.station (readBeU16 frame 12) = true

theorem transmit_stops (wdevId : UInt8) (frame : Bytes) (dscpTos : UInt16)
    (driver : MissionCriticalDriver β rx tx) :
    Post (transmit wdevId frame dscpTos) driver (fun _ next =>
      (next.inner.state.Stopped ↔ driver.inner.state.Stopped ∨
        (driver.admits frame ∧ nativeFails driver .transmit
          (resultOf (NativeDriver.transmit wdevId frame dscpTos) driver.inner)))) := by
  rw [transmit, post_bind, post_ensureReady]
  by_cases ready : driver.inner.state = .ready
  · rw [if_pos ready]
    dsimp only
    rw [post_bind, post_liftResult, ethernetType]
    by_cases short : frame.length < 14
    · rw [if_pos short]
      refine (or_iff_left ?_).symm
      rintro ⟨⟨long, _⟩, _⟩
      omega
    · rw [if_neg short]
      dsimp only
      rw [post_bind, post_get]
      dsimp only
      rw [post_ite]
      by_cases rejected : ¬ frameAllowed driver.inner.station (readBeU16 frame 12) = true
      · rw [if_pos rejected, post_throw]
        refine (or_iff_left ?_).symm
        rintro ⟨⟨_, allowed⟩, _⟩
        exact rejected allowed
      · rw [if_neg rejected, post_bind, post_attempt, onInner, post_onField]
        have admitted : driver.admits frame := ⟨by omega, not_not.mp rejected⟩
        rw [and_iff_right admitted]
        refine (((NativeDriver.keeps_lifecycle_transmit wdevId frame dscpTos).post
          driver.inner).and (post_self _ _)).mono ?_
        rintro r inner ⟨kept, result, _⟩
        dsimp only
        refine (post_finishDriver .transmit r _).mono ?_
        rintro r' next ⟨_, finishes⟩
        rw [finishes, leaves_state, ← result]
        dsimp only
        rw [show inner.state = driver.inner.state from congrArg Prod.fst kept]
        exact nativeFails_stops ready
  · rw [if_neg ready]
    refine (or_iff_left ?_).symm
    rintro ⟨_, reached, _⟩
    exact ready reached

end MissionCriticalDriver

/-! ## The security layer -/

namespace Wpa2Runtime
variable {β ε : Type} {rx tx : Nat} {crypto : Wpa2Crypto} {call : Wpa2Call}

theorem advance_state {progress : Wpa2Progress} {s t : Wpa2System β rx tx}
    (advance : Advance crypto s call progress t) : t.driver.state = s.driver.state := by
  cases advance with
  | answered takes kind sent => exact congrArg Prod.fst sent.lifecycle
  | pairwiseRequested waiting takes runtime posted => exact posted.kept
  | groupRequested complete takes runtime posted => exact posted.kept
  | keyAdvanced state runtime posted => exact posted.kept
  | keysInstalled state finishes sent => exact congrArg Prod.fst sent.lifecycle
  | authorizationSent done runtime posted => exact posted.kept
  | _ => rfl

theorem closed_failed (runtime : Wpa2Runtime) : runtime.failed.Closed :=
  ⟨rfl, runtime.failed_requests.1, runtime.failed_requests.2⟩

/-- A call next to a driver that is not stopped stops it only together with the
coordinator. -/
theorem outcome_closed {r : Except (Wpa2RuntimeError ε) Wpa2Progress} {s t : Wpa2System β rx tx}
    (outcome : CallOutcome crypto s call r t) (live : ¬ s.driver.state.Stopped)
    (stopped : t.driver.state.Stopped) : t.runtime.Closed := by
  cases outcome with
  | failed u failure => exact closed_failed u.runtime
  | advanced advance =>
      rw [advance_state advance] at stopped
      exact absurd stopped live

theorem advanceTime_closes (elapsedMs : UInt32) (s : Wpa2System β rx tx) :
    Post (advanceTime elapsedMs : Method β rx tx ε Unit) s (fun _ t =>
      (s.runtime.Expires elapsedMs → t.runtime.Closed) ∧
      (¬ s.runtime.Expires elapsedMs →
        (t.runtime.Closed ↔ s.runtime.Closed) ∧ t.driver = s.driver)) := by
  have ticked (remainingMs : Option UInt32) :
      Closed { s.runtime with remainingMs } ↔ s.runtime.Closed :=
    ⟨fun closed => ⟨closed.failed, closed.pairwise, closed.group⟩,
      fun closed => ⟨closed.failed, closed.pairwise, closed.group⟩⟩
  rw [advanceTime, post_bind, post_get]
  dsimp only
  cases armed : s.runtime.remainingMs with
  | none =>
      rw [post_pure]
      refine ⟨?_, fun _ => ⟨Iff.rfl, rfl⟩⟩
      rintro ⟨remaining, same, _⟩
      rw [armed] at same
      cases same
  | some remaining =>
      dsimp only
      rw [post_ite]
      split
      · rename_i early
        rw [post_set]
        refine ⟨?_, fun _ => ⟨ticked _, rfl⟩⟩
        rintro ⟨deadline, same, late⟩
        rw [armed] at same
        cases same
        exact absurd early (UInt32.not_lt.mpr late)
      · rename_i late
        rw [post_fail]
        refine ⟨fun _ => closed_failed s.runtime, ?_⟩
        intro early
        exact absurd ⟨remaining, armed, UInt32.not_lt.mp late⟩ early

end Wpa2Runtime

/-! ## Each operation -/

namespace Wpa2StationDriver
variable {β ε π ρ : Type} {rx tx : Nat}

def Agrees (station : Wpa2StationDriver β rx tx) : Prop :=
  station.driver.inner.state.Stopped → station.security.Closed

section Operations
variable [Bus β ε]

omit [Bus β ε] in
theorem onSecurity_agrees {crypto : Wpa2Crypto} {call : Wpa2Call}
    {x : Wpa2Runtime.Method β rx tx ε Wpa2Progress} {station : Wpa2StationDriver β rx tx}
    (live : ¬ station.driver.inner.state.Stopped)
    (outcome : Post x station.system (Wpa2Runtime.CallOutcome crypto station.system call)) :
    Post (onSecurity x) station (fun _ next => next.Agrees) := by
  rw [onSecurity, post_onField, post_mapError]
  exact outcome.mono fun r t outcome stopped => Wpa2Runtime.outcome_closed outcome live stopped

theorem applySecurityEvent_agrees (crypto : Wpa2Crypto) (event : DriverEvent)
    (station : Wpa2StationDriver β rx tx) (live : ¬ station.driver.inner.state.Stopped) :
    Post (applySecurityEvent event) station (fun _ next => next.Agrees) := by
  have untouched : station.Agrees := fun stopped => absurd stopped live
  cases event with
  | control control =>
      rw [applySecurityEvent, applyControlEvent, post_bind, post_get]
      dsimp only
      rw [post_ite]
      split
      · exact (post_pure _ _ _).mpr untouched
      · exact onSecurity_agrees live
          (Wpa2Runtime.perform_outcome crypto (.controlEvent control) station.system)
  | transmitDone done =>
      rw [applySecurityEvent, applyTransmitDone, post_bind, post_get]
      dsimp only
      rw [post_ite]
      split
      · exact (post_pure _ _ _).mpr untouched
      · exact onSecurity_agrees live
          (Wpa2Runtime.perform_outcome crypto (.transmitDone done) station.system)
  | data data =>
      exact onSecurity_agrees live
        (Wpa2Runtime.perform_outcome crypto .refreshCarrier station.system)
  | _ => exact (post_pure _ _ _).mpr untouched

variable (crypto : Wpa2Crypto)

/-- After an operation of the station, a stopped driver has a closed coordinator. -/
def AgreesAfter [Platform π β ρ] (station : Wpa2StationDriver β rx tx) (move : SecureMove π β ε) :
    Prop :=
  match move with
  | .advanceTime _ | .pollEvent _ _ | .receivePacket _ _ _ | .transmit _ _ _ =>
      (station.step crypto move).Agrees
  | _ => True

/-- The driver layer meets an error that requires recovery. -/
def driverFails (driver : MissionCriticalDriver β rx tx) : SecureMove π β ε → Prop
  | .advanceTime elapsedMs => driver.inner.station.Expires elapsedMs
  | .pollEvent scratchAddress scratch =>
      MissionCriticalDriver.pollFails
        (resultOf (NativeDriver.pollEvent scratchAddress) (driver.inner, scratch))
  | .receivePacket event packetIndex output =>
      driver.nativeFails .receive
        (resultOf (NativeDriver.receivePacket event packetIndex) (driver.inner, output))
  | .transmit wdevId frame dscpTos =>
      driver.admits frame ∧ driver.nativeFails .transmit
        (resultOf (NativeDriver.transmit wdevId frame dscpTos) driver.inner)
  | _ => False

/-- The driver was stopped before, and no deadline of the coordinator closes it now. -/
def staysStopped (station : Wpa2StationDriver β rx tx) : SecureMove π β ε → Prop
  | .advanceTime elapsedMs =>
      station.driver.inner.state.Stopped ∧ ¬ station.security.Expires elapsedMs
  | .pollEvent _ _ | .receivePacket _ _ _ | .transmit _ _ _ =>
      station.driver.inner.state.Stopped
  | _ => False

/-- The coordinator is not told that its driver stopped. -/
def strands (station : Wpa2StationDriver β rx tx) (move : SecureMove π β ε) : Prop :=
  ¬ station.security.Closed ∧
    (driverFails station.driver move ∨ staysStopped station move)

omit [Bus β ε] in
theorem agrees_of_driver (station : Wpa2StationDriver β rx tx)
    {driver : MissionCriticalDriver β rx tx} {fails : Prop}
    (stops : driver.inner.state.Stopped ↔ station.driver.inner.state.Stopped ∨ fails) :
    Agrees { station with driver } ↔ ¬ (¬ station.security.Closed ∧
      (fails ∨ station.driver.inner.state.Stopped)) := by
  rw [Agrees, stops]
  tauto

omit [Bus β ε] in
theorem agrees_of_live {next : Wpa2StationDriver β rx tx} {closed fails stopped : Prop}
    (agrees : next.Agrees) (live : ¬ (fails ∨ stopped)) :
    next.Agrees ↔ ¬ (¬ closed ∧ (fails ∨ stopped)) :=
  iff_of_true agrees fun bad => live bad.2

theorem advanceTime_agrees (elapsedMs : UInt32) (station : Wpa2StationDriver β rx tx) :
    Post (advanceTime elapsedMs : Method β rx tx ε Unit) station (fun _ next =>
      next.Agrees ↔ ¬ strands station (.advanceTime elapsedMs : SecureMove π β ε)) := by
  rw [advanceTime, post_bind, onDriver, post_onField, post_mapError]
  refine (MissionCriticalDriver.advanceTime_stops elapsedMs station.driver).mono ?_
  rintro r driver ⟨expires, stops⟩
  rw [strands, driverFails, staysStopped]
  cases r with
  | error failure =>
      have late := expires.mp rfl
      have agrees := agrees_of_driver station stops
      rw [show (Except.error failure : Except (ProductionError ε) Unit).mapError
        SecureProductionError.production = .error (.production failure) from rfl]
      dsimp only
      rw [agrees]
      tauto
  | ok done =>
      have early : ¬ station.driver.inner.station.Expires elapsedMs := fun late => by
        cases expires.mpr late
      rw [or_iff_left early] at stops
      dsimp only [Except.mapError]
      rw [onSecurity, post_onField, post_mapError]
      refine (Wpa2Runtime.advanceTime_closes elapsedMs _).mono ?_
      rintro r t ⟨closes, open_⟩
      by_cases late : station.security.Expires elapsedMs
      · have closed := closes late
        exact iff_of_true (fun _ => closed) (by tauto)
      · obtain ⟨closed, same⟩ := open_ late
        have state : t.driver.state.Stopped ↔ station.driver.inner.state.Stopped := by
          rw [same]
          exact stops
        have security : t.runtime.Closed ↔ station.security.Closed := closed
        simp only [Agrees, setSystem, state, security]
        tauto

theorem pollEvent_agrees (crypto : Wpa2Crypto) (scratchAddress : Nat) (scratch : Bytes)
    (station : Wpa2StationDriver β rx tx) :
    Post (pollEvent scratchAddress) (station, scratch) (fun _ s =>
      s.1.Agrees ↔ ¬ strands station (.pollEvent scratchAddress scratch : SecureMove π β ε)) := by
  rw [pollEvent, post_bind, onDriverBuffer, post_onField, post_mapError]
  refine (MissionCriticalDriver.pollEvent_stops scratchAddress station.driver scratch).mono ?_
  rintro r part ⟨stops, reports⟩
  have agrees := agrees_of_driver station stops
  rw [strands, driverFails, staysStopped]
  cases r with
  | error failure => exact agrees
  | ok polled =>
      cases polled with
      | none => exact (post_pure _ _ _).mpr agrees
      | some event =>
          dsimp only [Except.mapError]
          by_cases stopped : part.1.inner.state.Stopped
          · obtain ⟨report, rfl⟩ := reports event rfl stopped
            have silent : (applySecurityEvent (.system report) : Method β rx tx ε Wpa2Progress) =
                pure .noChange := rfl
            rw [post_bind, besideBuffer, post_onField, silent, post_pure]
            exact (post_pure _ _ _).mpr agrees
          · rw [post_bind, besideBuffer, post_onField]
            refine (applySecurityEvent_agrees crypto event
              { station with driver := part.1 } stopped).mono ?_
            intro r next agrees
            have live : ¬ (MissionCriticalDriver.pollFails
                (resultOf (NativeDriver.pollEvent scratchAddress)
                  (station.driver.inner, scratch)) ∨ station.driver.inner.state.Stopped) :=
              fun bad => stopped (stops.mpr bad.symm)
            cases r with
            | error failure => exact agrees_of_live agrees live
            | ok progress => exact (post_pure _ _ _).mpr (agrees_of_live agrees live)

theorem finishReceivedPacket_agrees (frame : ReceivedFrame)
    (s : Wpa2StationDriver β rx tx × Bytes) (live : ¬ s.1.driver.inner.state.Stopped) :
    Post (finishReceivedPacket crypto frame) s (fun _ t => t.1.Agrees) := by
  rw [finishReceivedPacket, post_ite]
  split
  · exact (post_pure _ _ _).mpr fun stopped => absurd stopped live
  · rw [post_bind, post_get]
    dsimp only
    rw [post_bind, post_attempt, besideBuffer, post_onField]
    refine (onSecurity_agrees live (Wpa2Runtime.perform_outcome crypto
      (.ethernetFrame (s.2.take frame.len)) s.1.system)).mono ?_
    intro r next agrees
    dsimp only
    rw [post_bind, post_modify]
    dsimp only
    rw [post_bind, post_liftResult]
    cases r with
    | error failure => exact agrees
    | ok progress => exact (post_pure _ _ _).mpr agrees

theorem receivePacket_agrees (event : RxEvent) (packetIndex : Nat) (output : Bytes)
    (station : Wpa2StationDriver β rx tx) :
    Post (receivePacket crypto event packetIndex) (station, output) (fun _ s =>
      s.1.Agrees ↔
        ¬ strands station (.receivePacket event packetIndex output : SecureMove π β ε)) := by
  rw [receivePacket, post_bind, onDriverBuffer, post_onField, post_mapError]
  refine (MissionCriticalDriver.receivePacket_stops event packetIndex station.driver output).mono ?_
  rintro r part ⟨stops, runs⟩
  rw [strands, driverFails, staysStopped]
  cases r with
  | error failure => exact agrees_of_driver station stops
  | ok frame =>
      have live := runs rfl
      refine (finishReceivedPacket_agrees crypto frame
        ({ station with driver := part.1 }, part.2) live).mono ?_
      intro r s agrees
      exact agrees_of_live agrees fun bad => live (stops.mpr bad.symm)

theorem transmit_agrees (wdevId : UInt8) (frame : Bytes) (dscpTos : UInt16)
    (station : Wpa2StationDriver β rx tx) :
    Post (transmit wdevId frame dscpTos) station (fun _ next =>
      next.Agrees ↔ ¬ strands station (.transmit wdevId frame dscpTos : SecureMove π β ε)) := by
  rw [transmit, onDriver, post_onField, post_mapError]
  refine (MissionCriticalDriver.transmit_stops wdevId frame dscpTos station.driver).mono ?_
  intro r driver stops
  exact agrees_of_driver station stops

theorem agreesAfter_iff [Platform π β ρ] (station : Wpa2StationDriver β rx tx)
    (move : SecureMove π β ε) :
    AgreesAfter crypto station move ↔ ¬ strands station move := by
  cases move with
  | advanceTime elapsedMs => exact (advanceTime_agrees elapsedMs station).ends
  | pollEvent scratchAddress scratch =>
      exact (pollEvent_agrees crypto scratchAddress scratch station).ends
  | receivePacket event packetIndex output =>
      exact (receivePacket_agrees crypto event packetIndex output station).ends
  | transmit wdevId frame dscpTos =>
      exact (transmit_agrees wdevId frame dscpTos station).ends
  | _ => exact iff_of_true trivial fun bad => bad.2.elim id id

/-! ## Runs -/

/-- Along every run the coordinator agrees with a stopped driver after each operation
exactly when no operation strands it. -/
theorem failure_agreement_iff [Platform π β ρ] (driver : MissionCriticalDriver β rx tx)
    (supplicant : Wpa2Supplicant) (wdevId : UInt8) (moves : List (SecureMove π β ε)) :
    (∀ taken ∈ stepsOf (step crypto) (new driver supplicant wdevId) moves,
        AgreesAfter crypto taken.1 taken.2) ↔
      ∀ taken ∈ stepsOf (step crypto) (new driver supplicant wdevId) moves,
        ¬ strands taken.1 taken.2 :=
  forall₂_congr fun taken _ => agreesAfter_iff crypto taken.1 taken.2

end Operations

/-! ## A deadline of the station -/

/-- A driver whose secure association has one second left for its keys. -/
def hurriedDriver : MissionCriticalDriver WordBus 8 1 :=
  { inner :=
      { Wpa2System.securingDriver with
        station := { Wpa2System.securingStation with remainingMs := some 1000 } } }

/-- The station times out; the coordinator goes on waiting for the authenticator. -/
theorem station_timeout_strands :
    ¬ ∀ taken ∈ stepsOf (step sampleCrypto) (new hurriedDriver sampleSupplicant 0)
        [(.advanceTime 1000 : SecureMove Unit WordBus Empty)],
      AgreesAfter sampleCrypto taken.1 taken.2 := by
  intro agrees
  have first := agrees _ List.mem_cons_self
  rw [agreesAfter_iff] at first
  apply first
  constructor
  · intro closed
    cases closed.failed
  · exact .inl ⟨1000, rfl, by decide⟩

end Wpa2StationDriver

end Nrf7002
