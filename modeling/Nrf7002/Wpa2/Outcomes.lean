import Nrf7002.Wpa2.Supplicant

/-! # What one frame can do

Every received payload is refused without a change, fails the supplicant, or is
accepted with one of seven effects.  The invariants of the handshake are derived
from this list. -/

set_option autoImplicit false

namespace Nrf7002
open Foundation

namespace Wpa2Supplicant

section Effects
variable (crypto : Wpa2Crypto)

/-- The phases that accept Message 1. -/
def awaitsMessage (supplicant : Wpa2Supplicant) : Prop :=
  supplicant.phase = .awaitingMessage1 ∨ supplicant.phase = .awaitingMessage3

/-- The supplicant that waits for the keys of Message 3. -/
def installingKeys (supplicant : Wpa2Supplicant) (frame : EapolKeyFrame) : Wpa2Supplicant :=
  { supplicant.installing frame.replayCounter false (frame.digest crypto) with
    phase := .installingKeys }

/-- What every frame that delivers a group key has passed: its MIC and the integrity
check of its key data, both under the current transient key. -/
structure Delivers (frame : EapolKeyFrame) (ptk : Ptk) (group : GroupKeyInstall) : Prop where
  verified : frame.verifyMic crypto ptk = true
  encrypted : frame.keyInfo.encryptedKeyData = true
  unwrapped : groupKeyInstall crypto frame ptk = .ok group

/-- The accepted frames: the supplicant before, the action and the supplicant after. -/
inductive FrameEffect (before : Wpa2Supplicant) (frame : EapolKeyFrame) :
    Wpa2Action → Wpa2Supplicant → Prop where
  | waiting {ticket group}
      (pending : before.pendingTicket = some (ticket, frame.replayCounter, group))
      (kind : frame.message = pendingMessage group) : FrameEffect before frame .none before
  | message2 {response} (idle : before.pendingTicket = none)
      (kind : frame.message = .pairwiseMessage1) (nonzero : isZeroNonce frame.nonce = false)
      (phase : before.awaitsMessage) (first : before.message1Replay = none) :
      FrameEffect before frame (.transmit response) (before.learned crypto frame)
  | message2Again {response} (idle : before.pendingTicket = none)
      (kind : frame.message = .pairwiseMessage1) (phase : before.awaitsMessage)
      (same : before.message1Replay = some frame.replayCounter)
      (nonce : before.authenticatorNonce = frame.nonce) :
      FrameEffect before frame (.transmit response) before
  | message3 {request : Wpa2KeyInstallRequest} {ptk first} (idle : before.pendingTicket = none)
      (kind : frame.message = .pairwiseMessage3) (phase : before.phase = .awaitingMessage3)
      (keys : before.ptk = some ptk) (nonce : frame.nonce = before.authenticatorNonce)
      (previous : before.message1Replay = some first) (newer : first < frame.replayCounter)
      (delivers : Delivers crypto frame ptk request.group)
      (pairwise : request.pairwise = ⟨before.peer, ptk.temporalKey⟩)
      (counter : request.replayCounter = frame.replayCounter) :
      FrameEffect before frame (.installKeys request) (before.installingKeys crypto frame)
  | message4Again {response} (idle : before.pendingTicket = none)
      (kind : frame.message = .pairwiseMessage3) (phase : before.phase = .complete)
      (same : before.completedReplay = some frame.replayCounter) :
      FrameEffect before frame (.transmit response) before
  | groupMessage1 {request : Wpa2GroupKeyInstallRequest} {ptk}
      (idle : before.pendingTicket = none) (kind : frame.message = .groupMessage1)
      (phase : before.phase = .complete) (keys : before.ptk = some ptk)
      (newer : before.completedReplay.getD 0 < frame.replayCounter)
      (delivers : Delivers crypto frame ptk request.group)
      (counter : request.replayCounter = frame.replayCounter) :
      FrameEffect before frame (.installGroupKey request)
        (before.installing frame.replayCounter true (frame.digest crypto))
  | groupMessage2Again {response} (idle : before.pendingTicket = none)
      (kind : frame.message = .groupMessage1) (phase : before.phase = .complete)
      (same : before.lastGroupReplay = some frame.replayCounter) :
      FrameEffect before frame (.transmit response) before

/-- An error leaves the supplicant alone or fails it. -/
inductive Outcome (before : Wpa2Supplicant) (Effect : Wpa2Action → Wpa2Supplicant → Prop) :
    Except Wpa2Error Wpa2Action → Wpa2Supplicant → Prop where
  | refused (failure : Wpa2Error) : Outcome before Effect (.error failure) before
  | failed (failure : Wpa2Error) : Outcome before Effect (.error failure) before.failed
  | accepted {action after} (effect : Effect action after) :
      Outcome before Effect (.ok action) after

end Effects

/-! ## The handlers -/

section Handlers
variable {crypto : Wpa2Crypto} {before : Wpa2Supplicant} {frame : EapolKeyFrame}
variable {Effect : Wpa2Action → Wpa2Supplicant → Prop}

/-- Every run of a handler from `before` has one of the outcomes. -/
def Handles (before : Wpa2Supplicant) (Effect : Wpa2Action → Wpa2Supplicant → Prop)
    (handler : Supplicant Wpa2Action) : Prop :=
  Post handler before (Outcome before Effect)

@[simp] theorem post_fail {α : Type} (failure : Wpa2Error) (supplicant : Wpa2Supplicant)
    (Q : Except Wpa2Error α → Wpa2Supplicant → Prop) :
    Post (fail failure : Supplicant α) supplicant Q ↔ Q (.error failure) supplicant.failed :=
  post_iff _ _ _

theorem handles_fail (failure : Wpa2Error) : Handles before Effect (fail failure) :=
  ⟨Outcome.failed failure⟩

theorem handles_throw (failure : Wpa2Error) : Handles before Effect (throw failure) :=
  ⟨Outcome.refused failure⟩

theorem handles_get {next : Wpa2Supplicant → Supplicant Wpa2Action}
    (handled : Handles before Effect (next before)) : Handles before Effect (get >>= next) := by
  rwa [Handles, post_bind, post_get]

theorem handles_ite {condition : Prop} [Decidable condition] {left right : Supplicant Wpa2Action}
    (yes : condition → Handles before Effect left) (no : ¬ condition → Handles before Effect right) :
    Handles before Effect (if condition then left else right) := by
  by_cases holds : condition
  · rw [if_pos holds]
    exact yes holds
  · rw [if_neg holds]
    exact no holds

theorem handles_requirePtk {next : Ptk → Supplicant Wpa2Action}
    (handled : ∀ ptk, before.ptk = some ptk → Handles before Effect (next ptk)) :
    Handles before Effect (requirePtk >>= next) := by
  simp only [Handles, requirePtk, post_bind, post_get]
  cases keys : before.ptk with
  | none =>
      rw [post_throw]
      exact Outcome.refused _
  | some ptk =>
      rw [post_pure]
      exact handled ptk keys

theorem handles_failOnError {α : Type} {result : Except Wpa2Error α}
    {next : α → Supplicant Wpa2Action}
    (handled : ∀ value, result = .ok value → Handles before Effect (next value)) :
    Handles before Effect (failOnError result >>= next) := by
  cases result with
  | error failure =>
      rw [Handles, post_bind, failOnError, post_fail]
      exact Outcome.failed failure
  | ok value =>
      rw [Handles, post_bind, failOnError, post_pure]
      exact handled value rfl

theorem handles_liftResult {α : Type} {result : Except Wpa2Error α}
    {next : α → Supplicant Wpa2Action}
    (handled : ∀ value, result = .ok value → Handles before Effect (next value)) :
    Handles before Effect (liftResult result >>= next) := by
  rw [Handles, post_bind, post_liftResult]
  cases result with
  | error failure => exact Outcome.refused failure
  | ok value => exact handled value rfl

theorem handles_pure {action : Wpa2Action} (effect : Effect action before) :
    Handles before Effect (pure action) :=
  ⟨Outcome.accepted effect⟩

/-- Message 2 fits into a frame, because the information element does. -/
theorem message2Action_handled {ptk : Ptk} (keys : before.ptk = some ptk) :
    Post (message2Action crypto frame) before fun result after =>
      ∃ response, result = .ok (.transmit response) ∧ after = before := by
  have fits : before.rsnIe.bytes.length ≤ maxKeyDataLen :=
    (validateRsnIe_length before.rsnIe.accepted).trans (by decide)
  have built := buildResponse_fits crypto before.peer frame.protocolVersion
    (keyDescriptorVersionHmacSha1Aes ||| keyInfoPairwise ||| keyInfoMic) frame.keyLength
    frame.replayCounter before.supplicantNonce fits ptk
  simp only [message2Action, requirePtk, post_bind, post_get, keys, post_pure, buildMessage2, built,
    post_liftResult_ok, Except.ok.injEq, Wpa2Action.transmit.injEq, and_true, exists_eq']

theorem handles_message2Again (idle : before.pendingTicket = none)
    (kind : frame.message = .pairwiseMessage1) (phase : before.awaitsMessage)
    (same : before.message1Replay = some frame.replayCounter)
    (nonce : before.authenticatorNonce = frame.nonce) :
    Handles before (FrameEffect crypto before frame) (message2Action crypto frame) := by
  refine handles_requirePtk fun ptk _ => handles_get (handles_liftResult fun response _ => ?_)
  exact handles_pure (.message2Again idle kind phase same nonce)

theorem onMessage1_handled (idle : before.pendingTicket = none)
    (kind : frame.message = .pairwiseMessage1) :
    Handles before (FrameEffect crypto before frame) (onMessage1 crypto frame) := by
  refine handles_get (handles_ite (fun _ => handles_fail _) fun _ => ?_)
  refine handles_ite (fun _ => handles_fail _) fun nonzero => ?_
  refine handles_ite (fun _ => ?_) fun _ => ?_
  · refine handles_get (handles_ite (fun _ => handles_fail _) fun _ => handles_throw _)
  · refine handles_ite (fun _ => handles_fail _) fun phase => ?_
    have awaits : before.awaitsMessage := not_not.mp phase
    cases first : before.message1Replay with
    | some previous =>
        refine handles_get (handles_ite (fun _ => handles_fail _) fun notOlder => ?_)
        refine handles_ite (fun _ => handles_throw _) fun notNewer => ?_
        refine handles_ite (fun _ => handles_fail _) fun same => ?_
        have counter : previous = frame.replayCounter :=
          UInt64.le_antisymm (UInt64.not_lt.mp notOlder) (UInt64.not_lt.mp notNewer)
        rw [not_or, not_not] at same
        exact handles_message2Again idle kind awaits (counter ▸ first) same.1
    | none =>
        simp only [Handles, beginMessage1, post_bind, post_modify]
        have keys : (before.learned crypto frame).ptk = some _ := rfl
        refine (message2Action_handled keys).mono ?_
        rintro _ _ ⟨response, rfl, rfl⟩
        exact .accepted (.message2 idle kind (Bool.not_eq_true _ ▸ nonzero) awaits first)

theorem onMessage3_handled (idle : before.pendingTicket = none)
    (kind : frame.message = .pairwiseMessage3) :
    Handles before (FrameEffect crypto before frame) (onMessage3 crypto frame) := by
  refine handles_requirePtk fun ptk keys => handles_get (handles_failOnError fun _ valid => ?_)
  rw [validateMessage3Authenticator, refused_eq_ok, refused_eq_ok, not_not] at valid
  obtain ⟨nonce, verified, _⟩ := valid
  refine handles_ite (fun complete => ?_) fun _ => ?_
  · refine handles_get (handles_ite (fun _ => handles_fail _) fun same => ?_)
    refine handles_ite (fun _ => handles_fail _) fun _ => ?_
    refine handles_requirePtk fun ptk _ => handles_liftResult fun response _ => ?_
    exact handles_pure (.message4Again idle kind complete (not_not.mp same))
  · refine handles_failOnError fun _ admitted => ?_
    rw [validateNewMessage3, refused_eq_ok, not_not] at admitted
    obtain ⟨phase, admitted⟩ := admitted
    cases previous : before.message1Replay with
    | none =>
        rw [previous] at admitted
        exact absurd admitted (by simp)
    | some first =>
        simp only [previous, refused_eq_ok] at admitted
        obtain ⟨newer, encrypted⟩ := admitted
        rw [requireEncryptedKeyData, accepted_eq_ok] at encrypted
        refine handles_liftResult fun group unwrapped => handles_liftResult fun response _ => ?_
        simp only [Handles, startKeyInstall, post_bind, post_get, post_set, post_pure, post_modify]
        refine .accepted (.message3 idle kind phase keys nonce previous (UInt64.not_le.mp newer)
          ⟨Bool.not_eq_false _ ▸ verified, encrypted.1.1, unwrapped⟩ rfl rfl)

theorem onGroupMessage1_handled (idle : before.pendingTicket = none)
    (kind : frame.message = .groupMessage1) :
    Handles before (FrameEffect crypto before frame) (onGroupMessage1 crypto frame) := by
  refine handles_get (handles_ite (fun _ => handles_fail _) fun incomplete => ?_)
  have complete : before.phase = .complete := not_not.mp incomplete
  refine handles_ite (fun same => ?_) fun _ => ?_
  · refine handles_requirePtk fun ptk _ => handles_get ?_
    refine handles_ite (fun _ => handles_fail _) fun _ => ?_
    refine handles_ite (fun _ => handles_fail _) fun _ => ?_
    refine handles_liftResult fun response _ => ?_
    exact handles_pure (.groupMessage2Again idle kind complete same)
  · refine handles_failOnError fun _ admitted => handles_requirePtk fun ptk keys => ?_
    simp only [validateNewGroupMessage1, refused_eq_ok, keys] at admitted
    obtain ⟨newer, verified, encrypted⟩ := admitted
    rw [requireEncryptedKeyData, accepted_eq_ok] at encrypted
    refine handles_liftResult fun group unwrapped => handles_liftResult fun response _ => ?_
    simp only [Handles, startKeyInstall, post_bind, post_get, post_set, post_pure]
    exact .accepted (.groupMessage1 idle kind complete keys (UInt64.not_le.mp newer)
      ⟨Bool.not_eq_false _ ▸ verified, encrypted.1.1, unwrapped⟩ rfl)

theorem dispatchMessage_handled (idle : before.pendingTicket = none) :
    Handles before (FrameEffect crypto before frame)
      (dispatchMessage crypto frame frame.message) := by
  cases kind : frame.message with
  | pairwiseMessage1 => exact onMessage1_handled idle kind
  | pairwiseMessage3 => exact onMessage3_handled idle kind
  | groupMessage1 => exact onGroupMessage1_handled idle kind
  | pairwiseMessage2 => exact handles_fail _
  | pairwiseMessage4 => exact handles_fail _
  | groupMessage2 => exact handles_fail _
  | other => exact handles_fail _

/-- The effects of a payload are those of the frame it parses to. -/
def EapolEffect (crypto : Wpa2Crypto) (before : Wpa2Supplicant) (peer : Octets 6) (bytes : Bytes)
    (action : Wpa2Action) (after : Wpa2Supplicant) : Prop :=
  peer = before.peer ∧ ∃ frame, EapolKeyFrame.parse bytes = .ok frame ∧
    FrameEffect crypto before frame action after

theorem onEapol_handled (crypto : Wpa2Crypto) (before : Wpa2Supplicant) (peer : Octets 6)
    (bytes : Bytes) :
    Handles before (EapolEffect crypto before peer bytes) (onEapol crypto peer bytes) := by
  refine handles_get (handles_ite (fun _ => handles_fail _) fun own => ?_)
  refine handles_liftResult fun frame parsed => ?_
  have lifted : ∀ handler, Handles before (FrameEffect crypto before frame) handler →
      Handles before (EapolEffect crypto before peer bytes) handler := by
    intro handler handled
    refine handled.mono ?_
    rintro _ _ (failure | failure | effect)
    · exact .refused failure
    · exact .failed failure
    · exact .accepted ⟨not_not.mp own, frame, parsed, effect⟩
  apply lifted
  simp only [Handles, validateFrame, handlePendingFrame, post_bind, post_ite, post_fail, post_get,
    post_pure]
  split
  · exact .failed _
  · split
    · exact .failed _
    · cases pending : before.pendingTicket with
      | none =>
          rw [post_pure]
          exact dispatchMessage_handled pending
      | some ticket =>
          obtain ⟨number, replay, group⟩ := ticket
          simp only [post_ite, post_throw, post_pure, post_fail]
          split
          · exact .refused _
          · rename_i same
            split
            · rename_i repeated
              exact .accepted (.waiting (not_not.mp same ▸ pending) repeated.1)
            · exact .failed _

end Handlers

/-! ## The other operations -/

section Others

/-- The supplicant whose installation is complete. -/
def installed (supplicant : Wpa2Supplicant) (replay : UInt64) (group : Bool)
    (digest : Octets 32) : Wpa2Supplicant :=
  { supplicant with
    phase := .complete
    pendingTicket := none
    pendingFrameDigest := none
    completedReplay := some replay
    completedMessage3Digest := if group then supplicant.completedMessage3Digest else some digest
    lastGroupReplay := if group then some replay else supplicant.lastGroupReplay
    lastGroupMessage1Digest :=
      if group then some digest else supplicant.lastGroupMessage1Digest }

/-- A completion fails the supplicant, or it is for the pending ticket and ends it. -/
inductive CompletionOutcome (before : Wpa2Supplicant) (ticket : UInt32) (replay : UInt64)
    (group : Bool) {α : Type} (value : α) : Except Wpa2Error α → Wpa2Supplicant → Prop where
  | failed (failure : Wpa2Error) :
      CompletionOutcome before ticket replay group value (.error failure) before.failed
  | installed {digest} (pending : before.pendingTicket = some (ticket, replay, group))
      (frame : before.pendingFrameDigest = some digest) :
      CompletionOutcome before ticket replay group value (.ok value)
        (before.installed replay group digest)

theorem acceptKeyCompletion_spec (before : Wpa2Supplicant) (ticket : UInt32) (replay : UInt64)
    (group installed : Bool) :
    Post (acceptKeyCompletion ticket replay group installed) before fun result after =>
      match result with
      | .error _ => after = before.failed
      | .ok digest =>
          before.pendingTicket = some (ticket, replay, group) ∧
            before.pendingFrameDigest = some digest ∧ installed = true ∧
            after = { before with pendingFrameDigest := none, pendingTicket := none } := by
  simp only [acceptKeyCompletion, post_bind, post_get, post_ite, post_fail, post_set]
  split
  · trivial
  · rename_i pending
    cases frame : before.pendingFrameDigest with
    | none => exact ⟨rfl⟩
    | some digest =>
        simp only [post_bind, post_modify, post_ite, post_fail, post_pure]
        split
        · trivial
        · rename_i done
          exact ⟨not_not.mp pending, trivial, Bool.not_eq_false _ ▸ done, trivial⟩

theorem completeKeyInstall_outcome (before : Wpa2Supplicant) (request : Wpa2KeyInstallRequest)
    (installed : Bool) :
    Post (completeKeyInstall request installed) before
      (CompletionOutcome before request.ticket request.replayCounter false request.response) := by
  simp only [completeKeyInstall, post_bind]
  refine (acceptKeyCompletion_spec before _ _ _ _).mono ?_
  intro result after outcome
  cases result with
  | error failure =>
      rw [outcome]
      exact .failed failure
  | ok digest =>
      obtain ⟨pending, frame, _, rfl⟩ := outcome
      simp only [post_modify, post_pure]
      exact .installed pending frame

theorem completeGroupKeyInstall_outcome (before : Wpa2Supplicant)
    (request : Wpa2GroupKeyInstallRequest) (installed : Bool) :
    Post (completeGroupKeyInstall request installed) before
      (CompletionOutcome before request.ticket request.replayCounter true request.response) := by
  simp only [completeGroupKeyInstall, post_bind]
  refine (acceptKeyCompletion_spec before _ _ _ _).mono ?_
  intro result after outcome
  cases result with
  | error failure =>
      rw [outcome]
      exact .failed failure
  | ok digest =>
      obtain ⟨pending, frame, _, rfl⟩ := outcome
      simp only [post_modify, post_pure]
      exact .installed pending frame

/-- The supplicant that starts over with a nonce. -/
def restarted (supplicant : Wpa2Supplicant) (supplicantNonce : Octets 32) : Wpa2Supplicant :=
  { supplicant.clearTransientState with supplicantNonce, phase := .awaitingMessage1 }

theorem restartPairwise_spec (before : Wpa2Supplicant) (supplicantNonce : Octets 32) :
    Post (restartPairwise supplicantNonce) before fun result after =>
      match result with
      | .error _ => after = before
      | .ok _ =>
          isZeroNonce supplicantNonce = false ∧ before.pendingTicket = none ∧
            after = before.restarted supplicantNonce := by
  simp only [restartPairwise, validateSupplicantNonce, post_bind, post_get, post_liftResult]
  by_cases zero : isZeroNonce supplicantNonce = true
  · rw [if_pos zero]
    trivial
  · rw [if_neg zero]
    simp only [post_ite, post_throw, post_modify]
    by_cases busy : before.pendingTicket.isSome = true
    · rw [if_pos busy]
      trivial
    · rw [if_neg busy]
      exact ⟨Bool.not_eq_true _ ▸ zero, Option.not_isSome_iff_eq_none.mp busy, rfl⟩

end Others

end Wpa2Supplicant

end Nrf7002
