import Nrf7002.Foundation.Deadline
import Nrf7002.Runtime.Completion

/-! # Stalled radio operations

While the coordinator waits for the radio, no frame reaches the supplicant and none
arms the deadline again: a retransmission is ignored and every other frame fails the
coordinator.  So the operation ends, or the clock ends it. -/

set_option autoImplicit false

namespace Nrf7002
open Foundation

namespace Wpa2Runtime
variable {β ε α : Type} {rx tx : Nat}

/-! ## The deadline of the coordinator -/

theorem timeoutFor_positive (runtime : Wpa2Runtime) (state : Wpa2RuntimeState) :
    Positive (runtime.timeoutFor state) :=
  positive_clamped _

/-- The deadline of the current state runs, and is not used up. -/
def Timed (runtime : Wpa2Runtime) : Prop :=
  Within (runtime.timeoutFor runtime.state) runtime.remainingMs

theorem timed_transition (state : Wpa2RuntimeState) (runtime : Wpa2Runtime) :
    Timed (transition state runtime) :=
  within_armed (timeoutFor_positive _ state)

theorem timed_setTimeouts (timeouts : Wpa2Timeouts) (runtime : Wpa2Runtime) :
    Timed (runtime.setTimeouts timeouts) :=
  within_armed (timeoutFor_positive _ _)

/-- All that the deadline depends on. -/
def clock (runtime : Wpa2Runtime) : Wpa2RuntimeState × Option UInt32 × Wpa2Timeouts :=
  (runtime.state, runtime.remainingMs, runtime.timeouts)

theorem Timed.of_clock {runtime next : Wpa2Runtime} (timed : Timed runtime)
    (same : next.clock = runtime.clock) : Timed next := by
  simp only [clock, Prod.mk.injEq] at same
  obtain ⟨state, remaining, timeouts⟩ := same
  have limits : next.timeoutFor next.state = runtime.timeoutFor runtime.state := by
    unfold timeoutFor
    rw [state, timeouts]
  rw [Timed, limits, remaining]
  exact timed

theorem keeps_clock_onSupplicant (x : Supplicant α) : Keeps clock (onSupplicant x) :=
  keeps_onField _ fun _ _ => rfl

/-- The method leaves a deadline that runs, whether or not it fails. -/
def KeepsTimed (x : Method β rx tx ε α) : Prop :=
  Preserves (fun system => Timed system.runtime) x

section Methods

theorem keepsTimed_of_clock {x : Method β rx tx ε α}
    (keeps : Keeps (fun system : Wpa2System β rx tx => system.runtime.clock) x) : KeepsTimed x :=
  keeps.preserves fun _ _ same timed => timed.of_clock same

theorem keepsTimed_pure (value : α) : KeepsTimed (pure value : Method β rx tx ε α) :=
  keepsTimed_of_clock (keeps_pure _ value)

theorem keepsTimed_throw (failure : Wpa2RuntimeError ε) :
    KeepsTimed (throw failure : Method β rx tx ε α) :=
  keepsTimed_of_clock (keeps_throw _ failure)

theorem keepsTimed_liftResult (r : Except (Wpa2RuntimeError ε) α) :
    KeepsTimed (liftResult r : Method β rx tx ε α) :=
  keepsTimed_of_clock (keeps_liftResult _ r)

theorem keepsTimed_onRuntime {x : Program Wpa2Runtime (Wpa2RuntimeError ε) α}
    (keeps : Keeps clock x) : KeepsTimed (onRuntime x : Method β rx tx ε α) := by
  apply keepsTimed_of_clock
  rw [keeps_iff_post]
  intro system
  rw [onRuntime, post_onField]
  exact keeps.post system.runtime

theorem keepsTimed_onDriver (x : Program (NativeDriver β rx tx) (DriverError ε) α) :
    KeepsTimed (onDriver x) :=
  keepsTimed_of_clock (keeps_onField _ fun _ _ => rfl)

theorem keepsTimed_onSecurityParts (x : StationController.Command β ε α) :
    KeepsTimed (onSecurityParts x : Method β rx tx ε α) :=
  keepsTimed_of_clock (keeps_onField _ fun _ _ => rfl)

/-- A state that is entered is entered with its deadline. -/
theorem keepsTimed_enter {next : Unit → Method β rx tx ε α} (state : Wpa2RuntimeState)
    (rest : ∀ done, KeepsTimed (next done)) : KeepsTimed (enter state >>= next) := by
  apply Preserves.bind
  · intro system _
    rw [post_enter]
    exact timed_transition state system.runtime
  · exact rest

theorem keepsTimed_fail (failure : Wpa2RuntimeError ε) :
    KeepsTimed (fail failure : Method β rx tx ε α) := by
  intro system _
  rw [post_fail]
  exact timed_transition .failed _

theorem KeepsTimed.orFail {x : Method β rx tx ε α} (keeps : KeepsTimed x) :
    KeepsTimed (orFail x) := by
  intro system timed
  rw [post_orFail]
  apply (keeps system timed).mono
  intro r t carried
  cases r with
  | ok value => exact carried
  | error failure => exact timed_transition .failed _

theorem keepsTimed_refreshCarrier :
    KeepsTimed (refreshCarrier : Method β rx tx ε Wpa2Progress) := by
  apply preserves_get_bind
  intro system timed
  rw [post_ite]
  split
  · exact keepsTimed_enter .complete (fun _ => keepsTimed_pure _) system timed
  · exact keepsTimed_pure _ system timed

theorem keepsTimed_advanceTime (elapsedMs : UInt32) :
    KeepsTimed (advanceTime elapsedMs : Method β rx tx ε Unit) := by
  apply preserves_get_bind
  intro system timed
  cases armed : system.runtime.remainingMs with
  | none => exact keepsTimed_pure _ system timed
  | some remaining =>
      dsimp only
      rw [post_ite]
      by_cases early : elapsedMs < remaining
      · rw [if_pos early, post_set]
        rw [Timed, armed] at timed
        exact Within.tick timed early
      · rw [if_neg early]
        exact keepsTimed_fail _ system timed

theorem keepsTimed_finishKeyInstall (completion : KeyInstallCompletion) :
    KeepsTimed (onRuntime (finishKeyInstall completion) : Method β rx tx ε EapolTxFrame) := by
  apply keepsTimed_onRuntime
  cases completion with
  | initial =>
      apply (keeps_get _).bind
      intro runtime
      split
      · exact keeps_throw _ _
      · apply Keeps.bind
        · exact keeps_modify _ _ fun _ => rfl
        · intro taken
          exact (keeps_clock_onSupplicant _).mapError _
  | rekey =>
      apply (keeps_get _).bind
      intro runtime
      split
      · exact keeps_throw _ _
      · apply Keeps.bind
        · exact keeps_modify _ _ fun _ => rfl
        · intro taken
          exact (keeps_clock_onSupplicant _).mapError _

variable [Bus β ε]

theorem keepsTimed_submitKey (submission : KeySubmission) :
    KeepsTimed (submitKey submission : Method β rx tx ε Wpa2Progress) := by
  apply preserves_get_bind
  intro system timed
  refine Preserves.bind (keepsTimed_liftResult _) ?_ system timed
  intro key
  apply Preserves.bind (keepsTimed_onSecurityParts _)
  intro submitted
  exact keepsTimed_enter _ fun _ => keepsTimed_pure _

theorem keepsTimed_submitEapol (response : EapolTxFrame) (purpose : EapolTransmitPurpose) :
    KeepsTimed (submitEapol response purpose : Method β rx tx ε Wpa2Progress) := by
  apply preserves_get_bind
  intro system
  refine preserves_ite (fun _ => keepsTimed_throw _) (fun _ => ?_) system
  apply Preserves.bind
  · exact keepsTimed_onRuntime (keeps_modify _ _ fun _ => rfl)
  · intro copied
    apply Preserves.bind (keepsTimed_onDriver _)
    intro token
    exact keepsTimed_enter _ fun _ => keepsTimed_pure _

theorem keepsTimed_beginPairwiseInstall (request : Wpa2KeyInstallRequest) :
    KeepsTimed (beginPairwiseInstall request : Method β rx tx ε Wpa2Progress) := by
  apply preserves_get_bind
  intro system
  refine preserves_ite (fun _ => keepsTimed_throw _) (fun _ => ?_) system
  apply Preserves.bind
  · exact keepsTimed_onRuntime (keeps_modify _ _ fun _ => rfl)
  · intro stored
    exact keepsTimed_submitKey .pairwise

theorem keepsTimed_beginGroupInstall (request : Wpa2GroupKeyInstallRequest) :
    KeepsTimed (beginGroupInstall request : Method β rx tx ε Wpa2Progress) := by
  apply preserves_get_bind
  intro system
  refine preserves_ite (fun _ => keepsTimed_throw _) (fun _ => ?_) system
  apply Preserves.bind
  · exact keepsTimed_onRuntime (keeps_modify _ _ fun _ => rfl)
  · intro stored
    exact keepsTimed_submitKey .rekeyGroup

theorem keepsTimed_dispatchWpa2Action (action : Wpa2Action) (wasComplete : Bool) :
    KeepsTimed (dispatchWpa2Action action wasComplete : Method β rx tx ε Wpa2Progress) := by
  cases action with
  | none => exact keepsTimed_pure _
  | transmit response => exact keepsTimed_submitEapol response _
  | installKeys request => exact keepsTimed_beginPairwiseInstall request
  | installGroupKey request => exact keepsTimed_beginGroupInstall request

theorem keepsTimed_onEthernetFrame (crypto : Wpa2Crypto) (frame : Bytes) :
    KeepsTimed (onEthernetFrame crypto frame : Method β rx tx ε Wpa2Progress) := by
  apply preserves_get_bind
  intro system
  refine Preserves.bind (keepsTimed_liftResult _).orFail ?_ system
  intro payload
  apply Preserves.bind (keepsTimed_liftResult _).orFail
  intro progress
  cases progress with
  | some progress => exact keepsTimed_pure progress
  | none =>
      apply Preserves.bind
      · apply KeepsTimed.orFail
        apply keepsTimed_onRuntime
        exact (keeps_clock_onSupplicant _).mapError _
      · intro action
        apply Preserves.bind
        · exact keepsTimed_onRuntime (keeps_modify _ _ fun _ => rfl)
        · intro heard
          exact (keepsTimed_dispatchWpa2Action action _).orFail

theorem keepsTimed_advanceKey (command : UInt32) (submission : KeySubmission) :
    KeepsTimed (advanceKey command submission : Method β rx tx ε Wpa2Progress) := by
  apply Preserves.bind (keepsTimed_liftResult _)
  intro required
  exact keepsTimed_submitKey submission

theorem keepsTimed_completeKeyInstall (command : UInt32) (completion : KeyInstallCompletion) :
    KeepsTimed (completeKeyInstall command completion : Method β rx tx ε Wpa2Progress) := by
  apply Preserves.bind (keepsTimed_liftResult _)
  intro required
  apply Preserves.bind (keepsTimed_finishKeyInstall completion)
  intro response
  exact keepsTimed_submitEapol response _

omit [Bus β ε] in
theorem keepsTimed_handleAuthorizationStatus (command : UInt32) :
    KeepsTimed (handleAuthorizationStatus command : Method β rx tx ε Wpa2Progress) := by
  apply Preserves.bind (keepsTimed_liftResult _)
  intro required
  apply preserves_get_bind
  intro system timed
  rw [post_ite]
  split
  · exact keepsTimed_enter .complete (fun _ => keepsTimed_pure _) system timed
  · exact keepsTimed_enter .awaitingCarrier (fun _ => keepsTimed_pure _) system timed

theorem keepsTimed_dispatchCommandStatus (command : UInt32) :
    KeepsTimed (dispatchCommandStatus command : Method β rx tx ε Wpa2Progress) := by
  have initial : KeepsTimed (handleInitialKeyStatus command : Method β rx tx ε Wpa2Progress) := by
    apply preserves_get_bind
    intro system timed
    split
    · exact keepsTimed_advanceKey command _ system timed
    · exact keepsTimed_advanceKey command _ system timed
    · exact keepsTimed_completeKeyInstall command _ system timed
    · exact keepsTimed_throw _ system timed
  have rekey : KeepsTimed (handleRekeyStatus command : Method β rx tx ε Wpa2Progress) := by
    apply preserves_get_bind
    intro system timed
    split
    · exact keepsTimed_advanceKey command _ system timed
    · exact keepsTimed_completeKeyInstall command _ system timed
    · exact keepsTimed_throw _ system timed
  apply preserves_get_bind
  intro system timed
  split
  · exact initial system timed
  · exact initial system timed
  · exact initial system timed
  · exact keepsTimed_handleAuthorizationStatus command system timed
  · exact rekey system timed
  · exact rekey system timed
  · exact keepsTimed_throw _ system timed

theorem keepsTimed_onControlEvent (event : ControlEvent) :
    KeepsTimed (onControlEvent event : Method β rx tx ε Wpa2Progress) := by
  rw [onControlEvent]
  split
  · exact keepsTimed_refreshCarrier
  · apply preserves_ite
    · intro rejected
      exact keepsTimed_fail _
    · intro accepted
      exact (keepsTimed_dispatchCommandStatus _).orFail

theorem keepsTimed_dispatchTransmitPurpose (purpose : EapolTransmitPurpose) :
    KeepsTimed (dispatchTransmitPurpose purpose : Method β rx tx ε Wpa2Progress) := by
  cases purpose with
  | message2 => exact keepsTimed_enter _ fun _ => keepsTimed_pure _
  | message4 =>
      apply Preserves.bind (keepsTimed_onSecurityParts _)
      intro submitted
      exact keepsTimed_enter _ fun _ => keepsTimed_pure _
  | groupMessage2 =>
      apply Preserves.bind
      · exact keepsTimed_of_clock (keeps_onField _ fun _ _ => rfl)
      · intro completed
        apply preserves_get_bind
        intro system timed
        rw [post_ite]
        split
        · exact keepsTimed_throw _ system timed
        · exact keepsTimed_enter .complete (fun _ => keepsTimed_pure _) system timed
  | retransmission => exact keepsTimed_enter _ fun _ => keepsTimed_pure _

theorem keepsTimed_onTransmitDone (event : TxDoneEvent) :
    KeepsTimed (onTransmitDone event : Method β rx tx ε Wpa2Progress) := by
  apply preserves_get_bind
  intro system
  refine Preserves.bind (keepsTimed_liftResult _).orFail ?_ system
  intro completed
  cases completed with
  | none => exact keepsTimed_pure _
  | some purpose => exact (keepsTimed_dispatchTransmitPurpose purpose).orFail

theorem keepsTimed_perform (crypto : Wpa2Crypto) (call : Wpa2Call) :
    KeepsTimed (perform crypto call : Method β rx tx ε Wpa2Progress) := by
  cases call with
  | ethernetFrame frame => exact keepsTimed_onEthernetFrame crypto frame
  | controlEvent event => exact keepsTimed_onControlEvent event
  | transmitDone event => exact keepsTimed_onTransmitDone event
  | refreshCarrier => exact keepsTimed_refreshCarrier
  | advanceTime elapsedMs =>
      apply Preserves.bind (keepsTimed_advanceTime elapsedMs)
      intro waited
      exact keepsTimed_pure _

end Methods

/-- A restart that is refused changes nothing, and any other arms the deadline. -/
theorem preserves_timed_restartPairwise (supplicantNonce : Octets 32) :
    Preserves Timed (restartPairwise supplicantNonce) := by
  apply Preserves.bind
  · exact (keeps_clock_onSupplicant _).preserves fun _ _ same timed => timed.of_clock same
  · intro restarted runtime _
    rw [post_modify]
    exact timed_transition .awaitingAuthenticator _

/-! ## A pending operation -/

section Pending
variable [Bus β ε] {crypto : Wpa2Crypto} {s : Wpa2System β rx tx}

/-- The payload of the frame that the pending operation answers. -/
def Repeats (ε : Type) (crypto : Wpa2Crypto) (runtime : Wpa2Runtime) (frame : Bytes) : Prop :=
  ∃ payload, (runtime.validateEthernetFrame frame : Except (Wpa2RuntimeError ε) Bytes) =
      .ok payload ∧
    runtime.lastInputDigest = some (crypto.sha256 payload)

/-- A call that ended the operation: it failed, and so did the coordinator. -/
def Ended (r : Except (Wpa2RuntimeError ε) α) (next : Wpa2System β rx tx) : Prop :=
  (∃ failure, r = .error failure) ∧ next.runtime.state = .failed

/-- Next to a pending operation a frame changes nothing or ends it. -/
theorem post_onEthernetFrame_pending (frame : Bytes)
    (pending : s.runtime.hasPendingRadioOperation = true) :
    Post (onEthernetFrame crypto frame) s (fun r next =>
      Repeats ε crypto s.runtime frame ∧ r = .ok .noChange ∧ next = s ∨
        ¬ Repeats ε crypto s.runtime frame ∧ Ended r next) := by
  rw [onEthernetFrame, post_bind, post_get]
  dsimp only
  rw [post_bind, post_orFail, post_liftResult]
  cases valid : (s.runtime.validateEthernetFrame frame : Except (Wpa2RuntimeError ε) Bytes) with
  | error failure =>
      refine .inr ⟨?_, ⟨failure, rfl⟩, rfl⟩
      intro repeats
      obtain ⟨payload, accepted, _⟩ := repeats
      rw [valid] at accepted
      cases accepted
  | ok payload =>
      dsimp only
      rw [post_bind, post_orFail, post_liftResult, pendingInput, if_neg (not_not_intro pending)]
      by_cases again : s.runtime.lastInputDigest = some (crypto.sha256 payload)
      · rw [if_pos again]
        exact (post_pure _ _ _).mpr (.inl ⟨⟨payload, valid, again⟩, rfl, rfl⟩)
      · rw [if_neg again]
        refine .inr ⟨?_, ⟨_, rfl⟩, rfl⟩
        intro repeats
        obtain ⟨other, accepted, same⟩ := repeats
        rw [valid] at accepted
        obtain rfl := Except.ok.inj accepted
        exact again same

omit [Bus β ε] in
theorem post_advanceTime_early {elapsedMs left : UInt32} (armed : s.runtime.remainingMs = some left)
    (early : elapsedMs < left) :
    Post (advanceTime elapsedMs : Method β rx tx ε Unit) s (fun r next => r = .ok () ∧
      next = { s with runtime := { s.runtime with remainingMs := some (left - elapsedMs) } }) := by
  rw [advanceTime, post_bind, post_get]
  dsimp only
  rw [armed]
  dsimp only
  rw [post_ite, if_pos early, post_set]
  exact ⟨rfl, rfl⟩

omit [Bus β ε] in
theorem post_advanceTime_due {elapsedMs left : UInt32} (armed : s.runtime.remainingMs = some left)
    (due : ¬ elapsedMs < left) :
    Post (advanceTime elapsedMs : Method β rx tx ε Unit) s (fun r next =>
      r = .error (.timeout s.runtime.state) ∧ next.runtime.state = .failed) := by
  rw [advanceTime, post_bind, post_get]
  dsimp only
  rw [armed]
  dsimp only
  rw [post_ite, if_neg due, post_fail]
  exact ⟨rfl, rfl⟩

variable (ε) in
/-- Frames and times that a system took without an error: the times, and the system that they
led to. -/
inductive Stalled (crypto : Wpa2Crypto) (system : Wpa2System β rx tx) :
    List UInt32 → Wpa2System β rx tx → Prop where
  | submitted : Stalled crypto system [] system
  | heard {elapsed : List UInt32} {s : Wpa2System β rx tx} (frame : Bytes)
      (before : Stalled crypto system elapsed s)
      (accepted : (resultOf (onEthernetFrame crypto frame : Method β rx tx ε Wpa2Progress) s).isOk =
        true) :
      Stalled crypto system elapsed
        (stateAfter (onEthernetFrame crypto frame : Method β rx tx ε Wpa2Progress) s)
  | waited {elapsed : List UInt32} {s : Wpa2System β rx tx} (elapsedMs : UInt32)
      (before : Stalled crypto system elapsed s)
      (accepted : (resultOf (advanceTime elapsedMs : Method β rx tx ε Unit) s).isOk = true) :
      Stalled crypto system (elapsed ++ [elapsedMs])
        (stateAfter (advanceTime elapsedMs : Method β rx tx ε Unit) s)

omit [Bus β ε] in
/-- The system with another rest of its deadline. -/
def withRemaining (system : Wpa2System β rx tx) (left : UInt32) : Wpa2System β rx tx :=
  { system with runtime := { system.runtime with remainingMs := some left } }

/-- A stall changes nothing but what remains, which is what the times leave of the deadline. -/
theorem Stalled.unchanged {system : Wpa2System β rx tx} {elapsed : List UInt32} {armed : UInt32}
    (stalled : Stalled ε crypto system elapsed s)
    (pending : system.runtime.hasPendingRadioOperation = true)
    (armedAt : system.runtime.remainingMs = some armed) (positive : 1 ≤ armed.toNat) :
    ∃ left, s = withRemaining system left ∧ Leaves armed elapsed left ∧ 1 ≤ left.toNat := by
  induction stalled with
  | submitted =>
      refine ⟨armed, ?_, leaves_nothing armed, positive⟩
      rw [withRemaining, ← armedAt]
  | heard frame before accepted hypothesis =>
      obtain ⟨left, rfl, leaves, positive⟩ := hypothesis
      have waits : (withRemaining system left).runtime.hasPendingRadioOperation = true := pending
      have heard : Post (onEthernetFrame crypto frame : Method β rx tx ε Wpa2Progress)
          (withRemaining system left) (fun r next =>
            r = .ok .noChange ∧ next = withRemaining system left ∨ Ended r next) := by
        refine (post_onEthernetFrame_pending frame waits).mono ?_
        intro r next outcome
        exact outcome.imp And.right And.right
      rcases heard.ends with ⟨_, same⟩ | ⟨⟨failure, failed⟩, _⟩
      · rw [same]
        exact ⟨left, rfl, leaves, positive⟩
      · rw [failed] at accepted
        cases accepted
  | waited elapsedMs before accepted hypothesis =>
      obtain ⟨left, rfl, leaves, _⟩ := hypothesis
      have remaining : (withRemaining system left).runtime.remainingMs = some left := rfl
      by_cases early : elapsedMs < left
      · have ticked := (post_advanceTime_early (ε := ε) remaining early).ends.2
        rw [ticked]
        exact ⟨left - elapsedMs, rfl, leaves.tick early, (toNat_left early).2⟩
      · have failed := (post_advanceTime_due (ε := ε) remaining early).ends.1
        rw [failed] at accepted
        cases accepted

variable (ε) in
/-- A stall so far, and what the next call does to it. -/
structure StaysBounded (crypto : Wpa2Crypto) (system : Wpa2System β rx tx) (armed : UInt32)
    (elapsed : List UInt32) (s : Wpa2System β rx tx) : Prop where
  unchanged : ∃ left, s = withRemaining system left ∧
    left.toNat + totalMs elapsed = armed.toNat ∧ 1 ≤ left.toNat
  frame : ∀ frame, Post (onEthernetFrame crypto frame : Method β rx tx ε Wpa2Progress) s
    (fun r next => Repeats ε crypto s.runtime frame ∧ r = .ok .noChange ∧ next = s ∨
      ¬ Repeats ε crypto s.runtime frame ∧ Ended r next)
  time : ∀ elapsedMs, Post (advanceTime elapsedMs : Method β rx tx ε Unit) s (fun r next =>
    if totalMs elapsed + elapsedMs.toNat < armed.toNat then r = .ok ()
    else r = .error (.timeout system.runtime.state) ∧ next.runtime.state = .failed)

variable (ε) in
/-- A pending operation has a deadline, and no frames and times that the coordinator takes
without an error outlast it. -/
def BoundedStall (crypto : Wpa2Crypto) (system : Wpa2System β rx tx) : Prop :=
  system.runtime.hasPendingRadioOperation = true →
    ∃ armed limit, system.runtime.remainingMs = some armed ∧
      system.runtime.timeoutFor system.runtime.state = some limit ∧
      1 ≤ armed.toNat ∧ armed.toNat ≤ limit.toNat ∧
      ∀ elapsed s, Stalled ε crypto system elapsed s →
        StaysBounded ε crypto system armed elapsed s

omit [Bus β ε] in
theorem isSome_timeoutFor_pending {runtime : Wpa2Runtime}
    (pending : runtime.hasPendingRadioOperation = true) :
    (runtime.timeoutFor runtime.state).isSome = true := by
  rw [hasPendingRadioOperation] at pending
  unfold timeoutFor
  cases state : runtime.state with
  | complete =>
      rw [state] at pending
      cases pending
  | failed =>
      rw [state] at pending
      cases pending
  | _ => rfl

theorem boundedStall_of_timed {system : Wpa2System β rx tx} (timed : Timed system.runtime) :
    BoundedStall ε crypto system := by
  intro pending
  have runs := timed.armed.trans (isSome_timeoutFor_pending pending)
  obtain ⟨armed, armedAt⟩ := Option.isSome_iff_exists.mp runs
  obtain ⟨limit, configured, positive, most⟩ := timed.bounded armed armedAt
  refine ⟨armed, limit, armedAt, configured, positive, most, ?_⟩
  intro elapsed s stalled
  obtain ⟨left, rfl, leaves, some_⟩ := stalled.unchanged pending armedAt positive
  have remaining : (withRemaining system left).runtime.remainingMs = some left := rfl
  refine ⟨⟨left, rfl, leaves, some_⟩, ?_, ?_⟩
  · intro frame
    exact post_onEthernetFrame_pending frame pending
  · intro elapsedMs
    by_cases early : elapsedMs < left
    · apply (post_advanceTime_early remaining early).mono
      intro r next outcome
      rw [if_pos (leaves.early_iff.mp early)]
      exact outcome.1
    · apply (post_advanceTime_due remaining early).mono
      intro r next outcome
      rw [if_neg (fun below => early (leaves.early_iff.mpr below))]
      exact outcome

end Pending

end Wpa2Runtime

/-! ## Runs -/

namespace Wpa2System
variable {β ε π ρ : Type} {rx tx : Nat} [Bus β ε] [Platform π β ρ] {crypto : Wpa2Crypto}

/-- The deadline runs after every move, and so bounds every stall. -/
theorem stalled_operation_bounded (driver : NativeDriver β rx tx) (supplicant : Wpa2Supplicant)
    (wdevId : UInt8) (moves : List (SystemMove π β ε)) :
    Wpa2Runtime.BoundedStall ε crypto
      (runMoves (step crypto) (start driver supplicant wdevId) moves) := by
  apply Wpa2Runtime.boundedStall_of_timed
  have first : Wpa2Runtime.Timed (start driver supplicant wdevId).runtime :=
    Wpa2Runtime.timed_transition .awaitingAuthenticator _
  have preserved : ∀ (system : Wpa2System β rx tx) (move : SystemMove π β ε),
      Wpa2Runtime.Timed system.runtime →
        Wpa2Runtime.Timed (step (ρ := ρ) crypto system move).runtime := by
    intro system move timed
    cases move with
    | driver move => exact timed
    | call call => exact (Wpa2Runtime.keepsTimed_perform crypto call system timed).ends
    | setTimeouts timeouts => exact Wpa2Runtime.timed_setTimeouts timeouts system.runtime
    | restartPairwise supplicantNonce =>
        exact (Wpa2Runtime.preserves_timed_restartPairwise supplicantNonce system.runtime timed).ends
  exact runMoves_preserves preserved first moves

end Wpa2System

end Nrf7002
