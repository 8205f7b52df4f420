import Nrf7002.Runtime.Completion

/-! # A failed coordinator can be restarted

A pending ticket of the supplicant makes it busy until its request is completed.  The
coordinator fails closed and can be restarted as long as it stores the request of every
pending ticket; two of its checks come after the ticket and before the request. -/

set_option autoImplicit false

namespace Nrf7002
open Foundation

namespace Wpa2Runtime
variable {β ε α : Type} {rx tx : Nat}

/-! ## Tickets and requests -/

/-- What decides whether the supplicant is busy. -/
def installs (runtime : Wpa2Runtime) :
    Wpa2Supplicant × Option Wpa2KeyInstallRequest × Option Wpa2GroupKeyInstallRequest :=
  (runtime.supplicant, runtime.pairwiseInstall, runtime.groupInstall)

/-- A pending ticket has a stored request. -/
def Covered (runtime : Wpa2Runtime) : Prop :=
  runtime.supplicant.pendingTicket ≠ none →
    runtime.pairwiseInstall ≠ none ∨ runtime.groupInstall ≠ none

/-- Between two calls: no ticket and no request, or a ticket with one request. -/
inductive Accounted (runtime : Wpa2Runtime) : Prop where
  | idle (ticket : runtime.supplicant.pendingTicket = none)
      (pairwise : runtime.pairwiseInstall = none) (group : runtime.groupInstall = none)
  | pairwise {request} (ticket : runtime.supplicant.pendingTicket ≠ none)
      (pairwise : runtime.pairwiseInstall = some request) (group : runtime.groupInstall = none)
  | group {request} (ticket : runtime.supplicant.pendingTicket ≠ none)
      (pairwise : runtime.pairwiseInstall = none) (group : runtime.groupInstall = some request)

theorem Accounted.covered {runtime : Wpa2Runtime} (accounted : Accounted runtime) :
    Covered runtime := by
  intro busy
  cases accounted with
  | idle ticket pairwise group => exact absurd ticket busy
  | pairwise ticket pairwise group =>
      left
      simp [pairwise]
  | group ticket pairwise group =>
      right
      simp [group]

theorem Accounted.of_installs {runtime next : Wpa2Runtime} (accounted : Accounted runtime)
    (same : next.installs = runtime.installs) : Accounted next := by
  simp only [installs, Prod.mk.injEq] at same
  obtain ⟨supplicant, pairwise, group⟩ := same
  cases accounted with
  | idle ticket none_ none' =>
      exact .idle (supplicant ▸ ticket) (pairwise.trans none_) (group.trans none')
  | pairwise ticket stored none_ =>
      exact .pairwise (supplicant ▸ ticket) (pairwise.trans stored) (group.trans none_)
  | group ticket none_ stored =>
      exact .group (supplicant ▸ ticket) (pairwise.trans none_) (group.trans stored)

theorem Accounted.idle_of_ticket {runtime : Wpa2Runtime} (accounted : Accounted runtime)
    (ticket : runtime.supplicant.pendingTicket = none) :
    runtime.pairwiseInstall = none ∧ runtime.groupInstall = none := by
  cases accounted with
  | idle _ pairwise group => exact ⟨pairwise, group⟩
  | pairwise busy _ _ => exact absurd ticket busy
  | group busy _ _ => exact absurd ticket busy

theorem Covered.of_installs {runtime next : Wpa2Runtime} (covered : Covered runtime)
    (same : next.installs = runtime.installs) : Covered next := by
  simp only [installs, Prod.mk.injEq] at same
  obtain ⟨supplicant, pairwise, group⟩ := same
  rwa [Covered, supplicant, pairwise, group]

theorem covered_of_ticket {runtime : Wpa2Runtime}
    (ticket : runtime.supplicant.pendingTicket = none) : Covered runtime :=
  fun busy => absurd ticket busy

/-! ## Failures -/

theorem completion_ticket {before after : Wpa2Supplicant} {ticket : UInt32} {replay : UInt64}
    {group : Bool} {value : α} {r : Except Wpa2Error α}
    (outcome : Wpa2Supplicant.CompletionOutcome before ticket replay group value r after) :
    after.pendingTicket = none := by
  cases outcome with
  | failed failure => rfl
  | installed pending frame => rfl

theorem rejected_ticket (supplicant : Wpa2Supplicant) (request : Wpa2KeyInstallRequest) :
    (stateAfter (Wpa2Supplicant.completeKeyInstall request false) supplicant).pendingTicket =
      none :=
  completion_ticket (Wpa2Supplicant.completeKeyInstall_outcome supplicant request false).ends

theorem rejected_groupTicket (supplicant : Wpa2Supplicant)
    (request : Wpa2GroupKeyInstallRequest) :
    (stateAfter (Wpa2Supplicant.completeGroupKeyInstall request false)
      supplicant).pendingTicket = none :=
  completion_ticket (Wpa2Supplicant.completeGroupKeyInstall_outcome supplicant request false).ends

/-- A failure cancels the ticket with the request. -/
theorem Covered.failed_ticket {runtime : Wpa2Runtime} (covered : Covered runtime) :
    runtime.failed.supplicant.pendingTicket = none := by
  by_cases ticket : runtime.supplicant.pendingTicket = none
  · cases pairwise : runtime.pairwiseInstall <;> cases group : runtime.groupInstall <;>
      simp [failed, rejectPairwiseInstall, rejectGroupInstall, pairwise, group, ticket,
        rejected_ticket, rejected_groupTicket]
  · have stored := covered ticket
    cases pairwise : runtime.pairwiseInstall <;> cases group : runtime.groupInstall <;>
      simp_all [failed, rejectPairwiseInstall, rejectGroupInstall, rejected_ticket,
        rejected_groupTicket]

/-- Without a stored request a failure leaves the supplicant alone. -/
theorem failed_supplicant {runtime : Wpa2Runtime} (pairwise : runtime.pairwiseInstall = none)
    (group : runtime.groupInstall = none) : runtime.failed.supplicant = runtime.supplicant := by
  simp [failed, rejectPairwiseInstall, rejectGroupInstall, pairwise, group]

/-! ## What a restart needs -/

theorem restartPairwise_iff (runtime : Wpa2Runtime) (supplicantNonce : Octets 32)
    (nonzero : isZeroNonce supplicantNonce = false) :
    (resultOf (restartPairwise supplicantNonce) runtime = .ok () ∧
        (stateAfter (restartPairwise supplicantNonce) runtime).state = .awaitingAuthenticator) ↔
      runtime.supplicant.pendingTicket = none := by
  have run : Post (restartPairwise supplicantNonce) runtime (fun r next =>
      (r = .ok () ∧ next.state = .awaitingAuthenticator) ↔
        runtime.supplicant.pendingTicket = none) := by
    rw [restartPairwise, post_bind, onSupplicant, post_onField, Wpa2Supplicant.restartPairwise,
      post_bind, post_liftResult, validateSupplicantNonce]
    simp only [nonzero]
    cases ticket : runtime.supplicant.pendingTicket with
    | none => simp [ticket]
    | some pending => simp [ticket]
  exact run.ends

/-! ## Calls -/

section Calls

theorem keeps_installs_onRuntime {x : Program Wpa2Runtime (Wpa2RuntimeError ε) α}
    (keeps : Keeps installs x) :
    Keeps (fun system : Wpa2System β rx tx => system.runtime.installs) (onRuntime x) := by
  rw [keeps_iff_post]
  intro system
  rw [onRuntime, post_onField]
  exact keeps.post system.runtime

theorem keeps_installs_enter (state : Wpa2RuntimeState) :
    Keeps (fun system : Wpa2System β rx tx => system.runtime.installs)
      (enter state : Method β rx tx ε Unit) :=
  keeps_installs_onRuntime (keeps_modify _ _ fun _ => rfl)

theorem keeps_installs_onSecurityParts (x : StationController.Command β ε α) :
    Keeps (fun system : Wpa2System β rx tx => system.runtime.installs) (onSecurityParts x) :=
  keeps_onField _ fun _ _ => rfl

/-- The method never leaves a ticket without a request, whether or not it fails. -/
def KeepsCovered (x : Method β rx tx ε α) : Prop :=
  Preserves (fun system => Covered system.runtime) x

theorem keepsCovered_of_installs {x : Method β rx tx ε α}
    (keeps : Keeps (fun system : Wpa2System β rx tx => system.runtime.installs) x) :
    KeepsCovered x :=
  keeps.preserves fun _ _ same covered => covered.of_installs same

theorem covered_failed {runtime : Wpa2Runtime} (covered : Covered runtime) :
    Covered runtime.failed :=
  covered_of_ticket covered.failed_ticket

theorem keepsCovered_fail (failure : Wpa2RuntimeError ε) :
    KeepsCovered (fail failure : Method β rx tx ε α) := by
  intro system covered
  rw [post_fail]
  exact covered_failed covered

theorem KeepsCovered.orFail {x : Method β rx tx ε α} (keeps : KeepsCovered x) :
    KeepsCovered (orFail x) := by
  intro system covered
  rw [post_orFail]
  refine (keeps system covered).mono ?_
  intro r t carried
  cases r with
  | ok value => exact carried
  | error failure => exact covered_failed carried

theorem keepsCovered_liftResult (r : Except (Wpa2RuntimeError ε) α) :
    KeepsCovered (liftResult r : Method β rx tx ε α) :=
  keepsCovered_of_installs (keeps_liftResult _ r)

variable [Bus β ε]

theorem keeps_installs_submitKey (submission : KeySubmission) :
    Keeps (fun system : Wpa2System β rx tx => system.runtime.installs) (submitKey submission) := by
  apply (keeps_get _).bind
  intro system
  apply (keeps_liftResult _ _).bind
  intro key
  apply (keeps_installs_onSecurityParts _).bind
  intro done
  apply (keeps_installs_enter _).bind
  intro entered
  exact keeps_pure _ _

theorem keeps_installs_submitEapol (response : EapolTxFrame) (purpose : EapolTransmitPurpose) :
    Keeps (fun system : Wpa2System β rx tx => system.runtime.installs)
      (submitEapol response purpose) := by
  apply (keeps_get _).bind
  intro system
  apply keeps_ite
  · intro long
    exact keeps_throw _ _
  · intro fits
    apply Keeps.bind
    · exact keeps_installs_onRuntime (keeps_modify _ _ fun _ => rfl)
    · intro copied
      apply Keeps.bind
      · exact keeps_onField _ fun _ _ => rfl
      · intro token
        exact (keeps_installs_enter _).bind fun _ => keeps_pure _ _

/-! ### Statuses and transmissions -/

theorem keepsCovered_advanceKey (command : UInt32) (submission : KeySubmission) :
    KeepsCovered (advanceKey command submission : Method β rx tx ε Wpa2Progress) := by
  apply (keepsCovered_liftResult _).bind
  intro required
  exact keepsCovered_of_installs (keeps_installs_submitKey submission)

omit [Bus β ε] in
/-- The request that is completed takes the only ticket with it. -/
theorem preserves_finishKeyInstall (completion : KeyInstallCompletion) :
    Preserves Covered
      (finishKeyInstall completion : Program Wpa2Runtime (Wpa2RuntimeError ε) EapolTxFrame) := by
  cases completion with
  | initial =>
      apply preserves_get_bind
      intro runtime covered
      cases stored : runtime.pairwiseInstall with
      | none => exact (post_throw _ _ _).mpr covered
      | some request =>
          dsimp only
          rw [post_bind, post_modify]
          dsimp only
          rw [post_mapError, onSupplicant, post_onField]
          exact (Wpa2Supplicant.completeKeyInstall_outcome _ request true).mono
            fun _ _ outcome => covered_of_ticket (completion_ticket outcome)
  | rekey =>
      apply preserves_get_bind
      intro runtime covered
      cases stored : runtime.groupInstall with
      | none => exact (post_throw _ _ _).mpr covered
      | some request =>
          dsimp only
          rw [post_bind, post_modify]
          dsimp only
          rw [post_mapError, onSupplicant, post_onField]
          exact (Wpa2Supplicant.completeGroupKeyInstall_outcome _ request true).mono
            fun _ _ outcome => covered_of_ticket (completion_ticket outcome)

theorem keepsCovered_completeKeyInstall (command : UInt32) (completion : KeyInstallCompletion) :
    KeepsCovered (completeKeyInstall command completion : Method β rx tx ε Wpa2Progress) := by
  apply (keepsCovered_liftResult _).bind
  intro required
  apply Preserves.bind
  · intro system covered
    rw [onRuntime, post_onField]
    exact preserves_finishKeyInstall completion system.runtime covered
  · intro response
    exact keepsCovered_of_installs (keeps_installs_submitEapol response completion.transmitPurpose)

omit [Bus β ε] in
theorem keepsCovered_handleAuthorizationStatus (command : UInt32) :
    KeepsCovered (handleAuthorizationStatus command : Method β rx tx ε Wpa2Progress) := by
  apply keepsCovered_of_installs
  apply (keeps_liftResult _ _).bind
  intro required
  apply (keeps_get _).bind
  intro system
  apply keeps_ite
  · intro connected
    exact (keeps_installs_enter _).bind fun _ => keeps_pure _ _
  · intro apart
    exact (keeps_installs_enter _).bind fun _ => keeps_pure _ _

theorem keepsCovered_dispatchCommandStatus (command : UInt32) :
    KeepsCovered (dispatchCommandStatus command : Method β rx tx ε Wpa2Progress) := by
  apply preserves_get_bind
  intro system covered
  have initial : KeepsCovered (handleInitialKeyStatus command : Method β rx tx ε Wpa2Progress) := by
    apply preserves_get_bind
    intro system covered
    split
    · exact keepsCovered_advanceKey command _ system covered
    · exact keepsCovered_advanceKey command _ system covered
    · exact keepsCovered_completeKeyInstall command _ system covered
    · exact (post_throw _ _ _).mpr covered
  have rekey : KeepsCovered (handleRekeyStatus command : Method β rx tx ε Wpa2Progress) := by
    apply preserves_get_bind
    intro system covered
    split
    · exact keepsCovered_advanceKey command _ system covered
    · exact keepsCovered_completeKeyInstall command _ system covered
    · exact (post_throw _ _ _).mpr covered
  split
  · exact initial system covered
  · exact initial system covered
  · exact initial system covered
  · exact keepsCovered_handleAuthorizationStatus command system covered
  · exact rekey system covered
  · exact rekey system covered
  · exact (post_throw _ _ _).mpr covered

omit [Bus β ε] in
theorem keepsCovered_refreshCarrier :
    KeepsCovered (refreshCarrier : Method β rx tx ε Wpa2Progress) := by
  apply keepsCovered_of_installs
  apply (keeps_get _).bind
  intro system
  apply keeps_ite
  · intro connected
    exact (keeps_installs_enter _).bind fun _ => keeps_pure _ _
  · intro apart
    exact keeps_pure _ _

theorem keepsCovered_onControlEvent (event : ControlEvent) :
    KeepsCovered (onControlEvent event : Method β rx tx ε Wpa2Progress) := by
  rw [onControlEvent]
  split
  · exact keepsCovered_refreshCarrier
  · apply preserves_ite
    · intro rejected
      exact keepsCovered_fail _
    · intro accepted
      exact (keepsCovered_dispatchCommandStatus _).orFail

theorem keepsCovered_dispatchTransmitPurpose (purpose : EapolTransmitPurpose) :
    KeepsCovered (dispatchTransmitPurpose purpose : Method β rx tx ε Wpa2Progress) := by
  apply keepsCovered_of_installs
  cases purpose with
  | message2 => exact (keeps_installs_enter _).bind fun _ => keeps_pure _ _
  | message4 =>
      apply (keeps_installs_onSecurityParts _).bind
      intro submitted
      exact (keeps_installs_enter _).bind fun _ => keeps_pure _ _
  | groupMessage2 =>
      apply Keeps.bind
      · exact keeps_onField _ fun _ _ => rfl
      · intro completed
        apply (keeps_get _).bind
        intro system
        apply keeps_ite
        · intro fault
          exact keeps_throw _ _
        · intro accepted
          exact (keeps_installs_enter _).bind fun _ => keeps_pure _ _
  | retransmission => exact (keeps_installs_enter _).bind fun _ => keeps_pure _ _

theorem keepsCovered_onTransmitDone (event : TxDoneEvent) :
    KeepsCovered (onTransmitDone event : Method β rx tx ε Wpa2Progress) := by
  apply preserves_get_bind
  intro system covered
  refine Preserves.bind (keepsCovered_liftResult _).orFail ?_ system covered
  intro completed
  split
  · exact keepsCovered_of_installs (keeps_pure _ _)
  · exact (keepsCovered_dispatchTransmitPurpose _).orFail

omit [Bus β ε] in
theorem keepsCovered_advanceTime (elapsedMs : UInt32) :
    KeepsCovered (advanceTime elapsedMs : Method β rx tx ε Unit) := by
  apply preserves_get_bind
  intro system covered
  split
  · exact (post_pure _ _ _).mpr covered
  · rw [post_ite]
    split
    · exact (post_set _ _ _).mpr (covered.of_installs rfl)
    · exact keepsCovered_fail _ system covered

/-! ### Frames -/

/-- The state of the coordinator does not expect the keys of the action. -/
def misplaced (state : Wpa2RuntimeState) : Wpa2Action → Prop
  | .installKeys _ => state ≠ .awaitingAuthenticator
  | .installGroupKey _ => state ≠ .complete
  | _ => False

theorem post_dispatch_misplaced {action : Wpa2Action} {wasComplete : Bool}
    {s : Wpa2System β rx tx} (wrong : misplaced s.runtime.state action)
    (Q : Except (Wpa2RuntimeError ε) Wpa2Progress → Wpa2System β rx tx → Prop) :
    Post (dispatchWpa2Action action wasComplete) s Q ↔
      Q (.error (.unexpectedState s.runtime.state)) s := by
  cases action with
  | none => exact wrong.elim
  | transmit response => exact wrong.elim
  | installKeys request =>
      have apart : s.runtime.state ≠ .awaitingAuthenticator := wrong
      rw [dispatchWpa2Action, beginPairwiseInstall, post_bind, post_get]
      dsimp only
      rw [post_ite, if_pos apart, post_throw]
  | installGroupKey request =>
      have apart : s.runtime.state ≠ .complete := wrong
      rw [dispatchWpa2Action, beginGroupInstall, post_bind, post_get]
      dsimp only
      rw [post_ite, if_pos apart, post_throw]

variable (ε) in
omit [Bus β ε] in
/-- A frame for which the supplicant opens a ticket that the coordinator does not expect. -/
def abandonsTicket (crypto : Wpa2Crypto) (runtime : Wpa2Runtime) (frame : Bytes) : Prop :=
  runtime.hasPendingRadioOperation = false ∧
    ∃ payload action,
      (runtime.validateEthernetFrame frame : Except (Wpa2RuntimeError ε) Bytes) = .ok payload ∧
      resultOf (Wpa2Supplicant.onEapol crypto runtime.supplicant.peer payload)
        runtime.supplicant = .ok action ∧
      misplaced runtime.state action

/-- The tickets before and after a frame: an installation opens one, every other answer
leaves the supplicant without. -/
def TicketOf (before after : Wpa2Supplicant) : Wpa2Action → Prop
  | .none => after = before
  | .transmit _ => before.pendingTicket = none ∧ after.pendingTicket = none
  | .installKeys _ | .installGroupKey _ =>
      before.pendingTicket = none ∧ after.pendingTicket ≠ none

omit [Bus β ε] in
theorem eapolEffect_ticket {crypto : Wpa2Crypto} {before after : Wpa2Supplicant}
    {peer : Octets 6} {bytes : Bytes} {action : Wpa2Action}
    (effect : Wpa2Supplicant.EapolEffect crypto before peer bytes action after) :
    TicketOf before after action := by
  obtain ⟨_, frame, _, effect⟩ := effect
  cases effect with
  | waiting pending kind => rfl
  | message2 idle kind nonzero phase first => exact ⟨idle, idle⟩
  | message2Again idle kind phase same nonce => exact ⟨idle, idle⟩
  | message3 idle => exact ⟨idle, Option.some_ne_none _⟩
  | message4Again idle kind phase same => exact ⟨idle, idle⟩
  | groupMessage1 idle => exact ⟨idle, Option.some_ne_none _⟩
  | groupMessage2Again idle kind phase same => exact ⟨idle, idle⟩

omit [Bus β ε] in
theorem ticketOf_misplaced {state : Wpa2RuntimeState} {action : Wpa2Action}
    {before after : Wpa2Supplicant} (wrong : misplaced state action)
    (ticket : TicketOf before after action) :
    before.pendingTicket = none ∧ after.pendingTicket ≠ none := by
  cases action with
  | none => exact wrong.elim
  | transmit response => exact wrong.elim
  | installKeys request => exact ticket
  | installGroupKey request => exact ticket

theorem covered_dispatchWpa2Action {runtime : Wpa2Runtime} {action : Wpa2Action}
    {supplicant : Wpa2Supplicant} (accounted : Accounted runtime)
    (expected : ¬ misplaced runtime.state action)
    (ticket : TicketOf runtime.supplicant supplicant action) (digest : Octets 32)
    (wasComplete : Bool) (driver : NativeDriver β rx tx) :
    Post (dispatchWpa2Action action wasComplete)
      { runtime := runtime.heard supplicant digest, driver }
      (fun _ t => Covered t.runtime) := by
  cases action with
  | none =>
      rw [dispatchWpa2Action, post_pure]
      have same : supplicant = runtime.supplicant := ticket
      exact accounted.covered.of_installs (by simp [installs, heard, same])
  | transmit response =>
      exact keepsCovered_of_installs (keeps_installs_submitEapol _ _) _
        (covered_of_ticket ticket.2)
  | installKeys request =>
      have waiting : ¬ (runtime.heard supplicant digest).state ≠ .awaitingAuthenticator := expected
      rw [dispatchWpa2Action, beginPairwiseInstall, post_bind, post_get]
      dsimp only
      rw [post_ite, if_neg waiting, post_bind, onRuntime, post_onField, post_modify]
      apply keepsCovered_of_installs (keeps_installs_submitKey .pairwise)
      intro busy
      left
      exact Option.some_ne_none request
  | installGroupKey request =>
      have complete : ¬ (runtime.heard supplicant digest).state ≠ .complete := expected
      rw [dispatchWpa2Action, beginGroupInstall, post_bind, post_get]
      dsimp only
      rw [post_ite, if_neg complete, post_bind, onRuntime, post_onField, post_modify]
      apply keepsCovered_of_installs (keeps_installs_submitKey .rekeyGroup)
      intro busy
      right
      exact Option.some_ne_none request

theorem covered_onEthernetFrame {crypto : Wpa2Crypto} {frame : Bytes} {s : Wpa2System β rx tx}
    (accounted : Accounted s.runtime) (expected : ¬ abandonsTicket ε crypto s.runtime frame) :
    Post (onEthernetFrame crypto frame) s (fun _ t => Covered t.runtime) := by
  have closed : Covered s.runtime.failed := covered_failed accounted.covered
  cases valid : (s.runtime.validateEthernetFrame frame : Except (Wpa2RuntimeError ε) Bytes) with
  | error failure =>
      rw [onEthernetFrame, post_bind, post_get]
      dsimp only
      rw [post_bind, post_orFail, post_liftResult, valid]
      exact closed
  | ok payload =>
      cases busy : s.runtime.hasPendingRadioOperation with
      | true =>
          rw [onEthernetFrame, post_bind, post_get]
          dsimp only
          rw [post_bind, post_orFail, post_liftResult, valid]
          dsimp only
          rw [post_bind, post_orFail, post_liftResult, pendingInput, if_neg (by simp [busy])]
          by_cases again : s.runtime.lastInputDigest = some (crypto.sha256 payload)
          · rw [if_pos again]
            exact (post_pure _ _ _).mpr accounted.covered
          · rw [if_neg again]
            exact closed
      | false =>
          rw [post_onEthernetFrame valid busy]
          have handled := Wpa2Supplicant.onEapol_handled crypto s.runtime.supplicant
            s.runtime.supplicant.peer payload
          refine (handled.and (post_self _ _)).mono ?_
          rintro r supplicant ⟨outcome, result, _⟩
          cases outcome with
          | refused failure => exact closed
          | failed failure => exact covered_failed (covered_of_ticket rfl)
          | accepted effect =>
              rename_i action
              have placed : ¬ misplaced s.runtime.state action := fun wrong =>
                expected ⟨busy, payload, action, valid, result.symm, wrong⟩
              dsimp only
              rw [post_orFail]
              refine (covered_dispatchWpa2Action accounted placed (eapolEffect_ticket effect) _ _
                _).mono ?_
              intro r t covered
              cases r with
              | ok progress => exact covered
              | error failure => exact covered_failed covered

/-- The ticket of an unexpected action survives the failure. -/
theorem abandoned_ticket {crypto : Wpa2Crypto} {frame : Bytes} {s : Wpa2System β rx tx}
    (accounted : Accounted s.runtime) (bad : abandonsTicket ε crypto s.runtime frame) :
    Post (onEthernetFrame crypto frame) s (fun r t =>
      (∃ failure, r = .error failure) ∧ t.runtime.supplicant.pendingTicket ≠ none) := by
  obtain ⟨quiet, payload, action, valid, result, wrong⟩ := bad
  rw [post_onEthernetFrame valid quiet]
  have handled := Wpa2Supplicant.onEapol_handled crypto s.runtime.supplicant
    s.runtime.supplicant.peer payload
  refine (handled.and (post_self _ _)).mono ?_
  rintro r supplicant ⟨outcome, same, _⟩
  rw [result] at same
  cases outcome with
  | refused failure => cases same
  | failed failure => cases same
  | accepted effect =>
      cases same
      have opened := ticketOf_misplaced wrong (eapolEffect_ticket effect)
      obtain ⟨pairwise, group⟩ := accounted.idle_of_ticket opened.1
      dsimp only
      rw [post_orFail]
      refine (post_dispatch_misplaced (s := { s with
        runtime := s.runtime.heard supplicant (crypto.sha256 payload) }) wrong _).mpr ⟨⟨_, rfl⟩, ?_⟩
      have untouched : (s.runtime.heard supplicant (crypto.sha256 payload)).failed.supplicant =
          supplicant := failed_supplicant pairwise group
      dsimp only
      rw [untouched]
      exact opened.2

/-! ### Every call -/

variable (ε) in
omit [Bus β ε] in
def abandonsCall (crypto : Wpa2Crypto) (runtime : Wpa2Runtime) : Wpa2Call → Prop
  | .ethernetFrame frame => abandonsTicket ε crypto runtime frame
  | _ => False

theorem covered_perform {crypto : Wpa2Crypto} {call : Wpa2Call} {s : Wpa2System β rx tx}
    (accounted : Accounted s.runtime) (expected : ¬ abandonsCall ε crypto s.runtime call) :
    Post (perform crypto call) s (fun _ t => Covered t.runtime) := by
  cases call with
  | ethernetFrame frame => exact covered_onEthernetFrame accounted expected
  | controlEvent event => exact keepsCovered_onControlEvent event s accounted.covered
  | transmitDone event => exact keepsCovered_onTransmitDone event s accounted.covered
  | refreshCarrier => exact keepsCovered_refreshCarrier s accounted.covered
  | advanceTime elapsedMs =>
      have timed : KeepsCovered (perform crypto (.advanceTime elapsedMs) :
          Method β rx tx ε Wpa2Progress) :=
        (keepsCovered_advanceTime elapsedMs).bind fun _ =>
          keepsCovered_of_installs (keeps_pure _ _)
      exact timed s accounted.covered

omit [Bus β ε] in
theorem accounted_finishes {runtime next : Wpa2Runtime} {completion : KeyInstallCompletion}
    {response : EapolTxFrame} (accounted : Accounted runtime)
    (finishes : Finishes runtime completion response next) : Accounted next := by
  cases completion with
  | initial =>
      obtain ⟨request, digest, stored, pending, _, rfl⟩ := finishes
      cases accounted with
      | idle ticket pairwise group => exact .idle rfl rfl group
      | pairwise ticket pairwise group => exact .idle rfl rfl group
      | group ticket pairwise group =>
          rw [pairwise] at stored
          cases stored
  | rekey =>
      obtain ⟨request, digest, stored, pending, _, rfl⟩ := finishes
      cases accounted with
      | idle ticket pairwise group => exact .idle rfl pairwise rfl
      | pairwise ticket pairwise group =>
          rw [group] at stored
          cases stored
      | group ticket pairwise group => exact .idle rfl pairwise rfl

omit [Bus β ε] in
theorem ResponseSent.installs {runtime : Wpa2Runtime} {driver : NativeDriver β rx tx}
    {purpose : EapolTransmitPurpose} {token : UInt8} {t : Wpa2System β rx tx}
    (sent : ResponseSent runtime driver purpose token t) :
    t.runtime.installs = runtime.installs := by
  obtain ⟨frame, waits⟩ := sent.waits
  rw [waits]
  rfl

omit [Bus β ε] in
theorem accounted_advance {crypto : Wpa2Crypto} {call : Wpa2Call} {progress : Wpa2Progress}
    {s t : Wpa2System β rx tx} (accounted : Accounted s.runtime)
    (advance : Advance crypto s call progress t) : Accounted t.runtime := by
  cases advance with
  | idle remaining => exact accounted.of_installs rfl
  | ignored takes =>
      have same : _ = s.runtime.supplicant := eapolEffect_ticket takes.2
      exact accounted.of_installs (by simp [installs, heard, same])
  | @answered frame response supplicant digest purpose token t takes kind sent =>
      obtain ⟨before, after⟩ := eapolEffect_ticket takes.2
      obtain ⟨pairwise, group⟩ := accounted.idle_of_ticket before
      have idle : Accounted (s.runtime.heard supplicant digest) := .idle after pairwise group
      exact idle.of_installs sent.installs
  | pairwiseRequested waiting takes runtime posted =>
      obtain ⟨before, after⟩ := eapolEffect_ticket takes.2
      rw [runtime]
      exact .pairwise after rfl (accounted.idle_of_ticket before).2
  | groupRequested complete takes runtime posted =>
      obtain ⟨before, after⟩ := eapolEffect_ticket takes.2
      rw [runtime]
      exact .group after (accounted.idle_of_ticket before).1 rfl
  | keyAdvanced state runtime posted =>
      rw [runtime]
      exact accounted.of_installs rfl
  | keysInstalled state finishes sent =>
      exact (accounted_finishes accounted finishes).of_installs sent.installs
  | authorized state => exact accounted.of_installs rfl
  | connected station => exact accounted.of_installs rfl
  | message2Done done => exact accounted.of_installs rfl
  | authorizationSent done runtime posted =>
      rw [runtime]
      exact accounted.of_installs rfl
  | rekeyed done accepted => exact accounted.of_installs rfl
  | retransmitted done => exact accounted.of_installs rfl

theorem accounted_perform {crypto : Wpa2Crypto} {call : Wpa2Call} {s : Wpa2System β rx tx}
    (accounted : Accounted s.runtime) (expected : ¬ abandonsCall ε crypto s.runtime call) :
    Post (perform crypto call) s (fun _ t => Accounted t.runtime) := by
  refine ((perform_outcome crypto call s).and (covered_perform accounted expected)).mono ?_
  rintro r t ⟨outcome, covered⟩
  cases outcome with
  | advanced advance => exact accounted_advance accounted advance
  | failed u failure =>
      obtain ⟨pairwise, group⟩ := failed_requests u.runtime
      apply Accounted.idle _ pairwise group
      by_contra busy
      rcases covered busy with stored | stored
      · exact stored pairwise
      · exact stored group

end Calls

theorem accounted_restartPairwise (supplicantNonce : Octets 32) :
    Preserves Accounted (restartPairwise supplicantNonce) := by
  intro runtime accounted
  rw [restartPairwise, post_bind, onSupplicant, post_onField]
  refine (Wpa2Supplicant.restartPairwise_spec runtime.supplicant supplicantNonce).mono ?_
  intro r supplicant outcome
  cases r with
  | error failure =>
      rw [outcome]
      exact accounted
  | ok done =>
      obtain ⟨_, _, rfl⟩ := outcome
      exact (post_modify _ _ _).mpr (.idle rfl rfl rfl)

end Wpa2Runtime

/-! ## Runs -/

namespace Wpa2System
variable {β ε π ρ : Type} {rx tx : Nat}

/-- The coordinator failed closed, and a restart with a fresh nonce succeeds. -/
structure Restartable (system : Wpa2System β rx tx) : Prop where
  failed : system.runtime.state = .failed
  recovering : system.driver.state = .recovering
  closed : system.driver.station.controlledPortOpen = false
  pairwise : system.runtime.pairwiseInstall = none
  group : system.runtime.groupInstall = none
  restarts : ∀ supplicantNonce, isZeroNonce supplicantNonce = false →
    resultOf (Wpa2Runtime.restartPairwise supplicantNonce) system.runtime = .ok () ∧
      (stateAfter (Wpa2Runtime.restartPairwise supplicantNonce) system.runtime).state =
        .awaitingAuthenticator

section Restart
variable [Bus β ε] (crypto : Wpa2Crypto)

def RestartsAfterFailure (system : Wpa2System β rx tx) : SystemMove π β ε → Prop
  | .call call =>
      ∀ failure, resultOf (Wpa2Runtime.perform crypto call) system = .error failure →
        Restartable (afterCall crypto call system)
  | _ => True

/-- A frame opens a ticket whose keys the coordinator does not expect: those of Message 3
outside `awaitingAuthenticator`, or those of Group Message 1 outside `complete`. -/
def opensUnexpected (system : Wpa2System β rx tx) : SystemMove π β ε → Prop
  | .call call => Wpa2Runtime.abandonsCall ε crypto system.runtime call
  | _ => False

variable {crypto}

omit [Bus β ε] in
theorem restartable_of_failed {runtime : Wpa2Runtime} (covered : runtime.failed.Covered)
    (driver : NativeDriver β rx tx) :
    Restartable { runtime := runtime.failed, driver := driver.enterRecovery } := by
  obtain ⟨pairwise, group⟩ := runtime.failed_requests
  have ticket : runtime.failed.supplicant.pendingTicket = none := by
    by_contra busy
    rcases covered busy with stored | stored
    · exact stored pairwise
    · exact stored group
  have closed := NativeDriver.sealed_enterRecovery driver
  exact
    { failed := rfl
      recovering := rfl
      closed := closed.closed
      pairwise
      group
      restarts := fun nonce nonzero =>
        (Wpa2Runtime.restartPairwise_iff _ nonce nonzero).mpr ticket }

/-- Some nonce, to show that a busy supplicant refuses it. -/
def someNonce : Octets 32 := ⟨List.replicate 32 1, rfl⟩

theorem restartsAfterFailure_iff (system : Wpa2System β rx tx) (move : SystemMove π β ε)
    (accounted : system.runtime.Accounted) :
    RestartsAfterFailure crypto system move ↔ ¬ opensUnexpected crypto system move := by
  cases move with
  | call call =>
      constructor
      · intro restarts bad
        cases call with
        | ethernetFrame frame =>
            obtain ⟨⟨failure, result⟩, busy⟩ := (Wpa2Runtime.abandoned_ticket accounted bad).ends
            have restartable := (restarts failure result).restarts someNonce (by decide)
            exact busy ((Wpa2Runtime.restartPairwise_iff _ someNonce (by decide)).mp restartable)
        | _ => exact bad
      · intro clean failure result
        have outcome := ((Wpa2Runtime.perform_outcome crypto call system).and
          (Wpa2Runtime.covered_perform accounted clean)).ends
        rw [result] at outcome
        rw [afterCall]
        generalize stateAfter (Wpa2Runtime.perform crypto call) system = next at outcome ⊢
        obtain ⟨outcome, covered⟩ := outcome
        cases outcome with
        | failed u failure => exact restartable_of_failed covered u.driver
  | _ => exact ⟨fun _ bad => bad, fun _ => trivial⟩

theorem accounted_step [Platform π β ρ] (system : Wpa2System β rx tx) (move : SystemMove π β ε)
    (accounted : system.runtime.Accounted) (expected : ¬ opensUnexpected crypto system move) :
    (step crypto system move).runtime.Accounted := by
  cases move with
  | driver move => exact accounted
  | call call => exact (Wpa2Runtime.accounted_perform accounted expected).ends
  | setTimeouts timeouts => exact accounted.of_installs rfl
  | restartPairwise supplicantNonce =>
      exact (Wpa2Runtime.accounted_restartPairwise supplicantNonce system.runtime accounted).ends

variable (crypto) in
/-- Along every run of a coordinator that starts without a ticket, every failed call can
be followed by a restart exactly when no frame opens an unexpected ticket. -/
theorem failure_restartable_iff [Platform π β ρ] (driver : NativeDriver β rx tx)
    (supplicant : Wpa2Supplicant) (idle : supplicant.pendingTicket = none) (wdevId : UInt8)
    (moves : List (SystemMove π β ε)) :
    (∀ taken ∈ stepsOf (step crypto) (start driver supplicant wdevId) moves,
        RestartsAfterFailure crypto taken.1 taken.2) ↔
      ∀ taken ∈ stepsOf (step crypto) (start driver supplicant wdevId) moves,
        ¬ opensUnexpected crypto taken.1 taken.2 :=
  steps_iff_no_bad_step (fun system => system.runtime.Accounted) (RestartsAfterFailure crypto)
    (opensUnexpected crypto) accounted_step restartsAfterFailure_iff (.idle idle rfl rfl) moves

end Restart

/-! ## Message 3 after a timeout -/

theorem timeout_restartable :
    sampleSupplicant.pendingTicket = none ∧
    ∀ taken ∈ stepsOf (step sampleCrypto) (start securingDriver sampleSupplicant 0)
        [(.call (.advanceTime 5000) : SystemMove Unit WordBus Empty)],
      RestartsAfterFailure sampleCrypto taken.1 taken.2 := by
  refine ⟨rfl, (failure_restartable_iff sampleCrypto securingDriver sampleSupplicant rfl 0 _).mpr ?_⟩
  intro taken member
  rw [List.mem_singleton.mp member]
  exact id

/-- Message 1 is answered, and then the authenticator is silent for too long. -/
def timeoutMoves : List (SystemMove Unit WordBus Empty) :=
  [.call (.ethernetFrame (eapolFrame sampleMessage1))] ++ doneMoves 0 ++
    [.call (.advanceTime 5000)]

theorem timeoutMoves_late :
    let system := runMoves (step sampleCrypto) (start securingDriver sampleSupplicant 0)
      timeoutMoves
    resultOf (Wpa2Runtime.perform sampleCrypto (.ethernetFrame (eapolFrame sampleMessage3)))
        system = .error (.unexpectedState .failed) ∧
      (afterCall sampleCrypto (.ethernetFrame (eapolFrame sampleMessage3))
        system).runtime.supplicant.pendingTicket ≠ none := by
  decide +kernel

/-- Message 3 arrives after the timeout: its ticket is never cancelled. -/
theorem late_message3_keeps_busy :
    ¬ ∀ taken ∈ stepsOf (step sampleCrypto) (start securingDriver sampleSupplicant 0)
        (timeoutMoves ++ [.call (.ethernetFrame (eapolFrame sampleMessage3))]),
      RestartsAfterFailure sampleCrypto taken.1 taken.2 := by
  intro restarts
  have last := last_mem_stepsOf (step sampleCrypto) (start securingDriver sampleSupplicant 0)
    timeoutMoves (.call (.ethernetFrame (eapolFrame sampleMessage3)))
  have late := restarts _ last
  have kept := timeoutMoves_late
  dsimp only at kept late
  generalize runMoves (step sampleCrypto) (start securingDriver sampleSupplicant 0)
    timeoutMoves = system at kept late
  obtain ⟨failure, busy⟩ := kept
  have restarted := (late _ failure).restarts someNonce (by decide)
  exact busy ((Wpa2Runtime.restartPairwise_iff _ someNonce (by decide)).mp restarted)

end Wpa2System

end Nrf7002
