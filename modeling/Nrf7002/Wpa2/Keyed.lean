import Nrf7002.Wpa2.Session

/-! # One transient key for a session

Every key that a session asks for comes out of one transient key: that of the nonce of its
Message 1.  It authenticates the frames that carry group keys, and its temporal part is the
pairwise key. -/

set_option autoImplicit false

namespace Nrf7002
open Foundation

/-- The keys that one frame asked for. -/
inductive KeyRequest where
  | pairwise (request : Wpa2KeyInstallRequest)
  | group (request : Wpa2GroupKeyInstallRequest)
  deriving DecidableEq

namespace KeyRequest

def replayCounter : KeyRequest → UInt64
  | .pairwise request => request.replayCounter
  | .group request => request.replayCounter

/-- The group key of the request. -/
def groupKey : KeyRequest → GroupKeyInstall
  | .pairwise request => request.group
  | .group request => request.group

def isPairwise : KeyRequest → Bool
  | .pairwise _ => true
  | .group _ => false

end KeyRequest

def Wpa2Action.keyRequest : Wpa2Action → Option KeyRequest
  | .installKeys request => some (.pairwise request)
  | .installGroupKey request => some (.group request)
  | .none => Option.none
  | .transmit _ => Option.none

theorem Wpa2Action.installCounter_eq (action : Wpa2Action) :
    action.installCounter = action.keyRequest.map KeyRequest.replayCounter := by
  cases action <;> rfl

/-- The phases after the request for the pairwise keys. -/
def Wpa2Supplicant.installsKeys (supplicant : Wpa2Supplicant) : Prop :=
  supplicant.phase = .installingKeys ∨ supplicant.phase = .complete

namespace Session
open Wpa2Supplicant
variable {crypto : Wpa2Crypto} {session : Session}

/-- The requests of a session, in the order in which they were accepted. -/
def keyRequests (session : Session) : List KeyRequest :=
  session.accepted.filterMap fun exchange => exchange.action.keyRequest

/-- The request is what the frame delivers under the transient key. -/
structure Carries (crypto : Wpa2Crypto) (peer : Octets 6) (ptk : Ptk) (frame : EapolKeyFrame)
    (request : KeyRequest) : Prop where
  delivers : Delivers crypto frame ptk request.groupKey
  pairwise : ∀ install, request = .pairwise install → install.pairwise = ⟨peer, ptk.temporalKey⟩
  kind : frame.message = if request.isPairwise then .pairwiseMessage3 else .groupMessage1

/-- The transient key of the session for a nonce of the authenticator. -/
def ptkOf (crypto : Wpa2Crypto) (session : Session) (authenticatorNonce : Octets 32) : Ptk :=
  session.supplicant.pmk.derivePtk crypto session.supplicant.peer session.supplicant.localAddress
    authenticatorNonce session.supplicantNonce

/-- The pairwise keys were requested. -/
def PairwiseRequested (session : Session) : Prop :=
  ∃ exchange ∈ session.accepted, exchange.action.installsPairwise = true

/-- All keys of the session come from the nonce: that of its Message 1, and of the
Message 3 that delivers the first of them. -/
structure KeyedBy (crypto : Wpa2Crypto) (session : Session) (authenticatorNonce : Octets 32) :
    Prop where
  message1 : ∀ exchange ∈ session.accepted, exchange.frame.message = .pairwiseMessage1 →
    exchange.frame.nonce = authenticatorNonce
  active : session.supplicant.phase ≠ .failed → session.supplicant.phase ≠ .awaitingMessage1 →
    session.supplicant.authenticatorNonce = authenticatorNonce
  carries : ∀ exchange ∈ session.accepted, ∀ request,
    exchange.action.keyRequest = some request →
      Carries crypto session.supplicant.peer (session.ptkOf crypto authenticatorNonce)
        exchange.frame request
  message3 : ∀ exchange ∈ session.accepted, exchange.action.installsPairwise = true →
    exchange.frame.message = .pairwiseMessage3 ∧ exchange.frame.nonce = authenticatorNonce
  started : session.accepted ≠ [] →
    ∃ exchange ∈ session.accepted, exchange.frame.message = .pairwiseMessage1
  keyed : session.supplicant.installsKeys → session.PairwiseRequested
  requested : session.keyRequests ≠ [] → session.PairwiseRequested

section Frames
variable {before after : Wpa2Supplicant} {frame : EapolKeyFrame} {action : Wpa2Action}

/-- What a handshake never changes. -/
def identity (supplicant : Wpa2Supplicant) : Pmk × Octets 6 × Octets 6 :=
  (supplicant.pmk, supplicant.peer, supplicant.localAddress)

theorem frame_identity (effect : FrameEffect crypto before frame action after) :
    identity after = identity before := by
  cases effect <;> rfl

theorem ptkOf_eq {other : Session} (same : identity other.supplicant = identity session.supplicant)
    (nonce : other.supplicantNonce = session.supplicantNonce) (authenticatorNonce : Octets 32) :
    other.ptkOf crypto authenticatorNonce = session.ptkOf crypto authenticatorNonce := by
  simp only [identity, Prod.mk.injEq] at same
  obtain ⟨pmk, peer, address⟩ := same
  rw [ptkOf, ptkOf, pmk, peer, address, nonce]

/-- A frame that asks for keys carries them under the key of the stored nonce. -/
theorem frame_carries (recorded : session.Recorded crypto)
    (effect : FrameEffect crypto session.supplicant frame action after) {request : KeyRequest}
    (asks : action.keyRequest = some request) :
    session.supplicant.phase ≠ .failed ∧ session.supplicant.phase ≠ .awaitingMessage1 ∧
      Carries crypto session.supplicant.peer
        (session.ptkOf crypto session.supplicant.authenticatorNonce) frame request := by
  have handshake := recorded.handshake
  cases effect with
  | waiting => cases asks
  | message2 => cases asks
  | message2Again => cases asks
  | message4Again => cases asks
  | groupMessage2Again => cases asks
  | message3 idle kind phase keys nonce previous newer delivers pairwise counter =>
      obtain ⟨keyed, _⟩ := handshake.learned phase
      have active : session.supplicant.phase ≠ .failed := by simp [phase]
      obtain rfl := Option.some.inj (keys.symm.trans (recorded.ptk_eq keyed active))
      obtain rfl := Option.some.inj asks
      refine ⟨active, by simp [phase], delivers, ?_, kind⟩
      intro install same
      obtain rfl := KeyRequest.pairwise.inj same
      exact pairwise
  | groupMessage1 idle kind phase keys newer delivers counter =>
      obtain ⟨keyed, _⟩ := handshake.completed phase
      have active : session.supplicant.phase ≠ .failed := by simp [phase]
      obtain rfl := Option.some.inj (keys.symm.trans (recorded.ptk_eq keyed active))
      obtain rfl := Option.some.inj asks
      refine ⟨active, by simp [phase], delivers, ?_, kind⟩
      intro install same
      cases same

/-- The pairwise keys are requested by a Message 3 with the stored nonce, before any other
key. -/
theorem frame_installs (effect : FrameEffect crypto before frame action after) :
    (action.installsPairwise = true →
        frame.message = .pairwiseMessage3 ∧ frame.nonce = before.authenticatorNonce) ∧
      (after.installsKeys → action.installsPairwise = true ∨ before.installsKeys) ∧
      (action.keyRequest ≠ none → action.installsPairwise = true ∨ before.installsKeys) := by
  cases effect with
  | waiting => exact ⟨fun installs => (by cases installs), .inr, fun asks => absurd rfl asks⟩
  | message2 =>
      refine ⟨fun installs => (by cases installs), ?_, fun asks => absurd rfl asks⟩
      intro installs
      exact absurd installs (by simp [installsKeys, learned])
  | message2Again => exact ⟨fun installs => (by cases installs), .inr, fun asks => absurd rfl asks⟩
  | message3 idle kind phase keys nonce =>
      exact ⟨fun _ => ⟨kind, nonce⟩, fun _ => .inl rfl, fun _ => .inl rfl⟩
  | message4Again => exact ⟨fun installs => (by cases installs), .inr, fun asks => absurd rfl asks⟩
  | groupMessage1 idle kind phase =>
      exact ⟨fun installs => (by cases installs), fun _ => .inr (.inr phase),
        fun _ => .inr (.inr phase)⟩
  | groupMessage2Again =>
      exact ⟨fun installs => (by cases installs), .inr, fun asks => absurd rfl asks⟩

theorem keyRequests_accept (session : Session) (after : Wpa2Supplicant) (bytes : Bytes)
    (action : Wpa2Action) :
    keyRequests { session with
        supplicant := after
        accepted := session.accepted ++ [⟨bytes, action⟩] } =
      session.keyRequests ++ action.keyRequest.toList := by
  rw [keyRequests, List.filterMap_append]
  cases requested : action.keyRequest <;> simp [keyRequests, requested]

/-- An installation is pending in these phases only. -/
theorem installsKeys_of_pending {ticket : UInt32} {replay : UInt64} {group : Bool}
    (holds : Handshake crypto before) (pending : before.pendingTicket = some (ticket, replay, group)) :
    before.installsKeys := by
  cases holds with
  | awaitingMessage1 _ _ _ _ _ _ idle => cases idle.symm.trans pending
  | awaitingMessage3 _ _ _ _ _ idle => cases idle.symm.trans pending
  | installingKeys phase => exact .inl phase
  | complete phase => exact .inr phase
  | failed _ cleared => cases cleared.pendingTicket.symm.trans pending

/-- Once the keys were requested, they stay so; a frame that asks for them asks first. -/
theorem keyedBy_installs {authenticatorNonce : Octets 32}
    (keyed : session.KeyedBy crypto authenticatorNonce) (bytes : Bytes)
    (effect : FrameEffect crypto session.supplicant frame action after) :
    let next : Session := { session with
      supplicant := after
      accepted := session.accepted ++ [⟨bytes, action⟩] }
    (after.installsKeys → next.PairwiseRequested) ∧
      (next.keyRequests ≠ [] → next.PairwiseRequested) := by
  intro next
  obtain ⟨-, installs, asks⟩ := frame_installs effect
  have requested (found : action.installsPairwise = true ∨ session.supplicant.installsKeys) :
      next.PairwiseRequested := by
    rcases found with now | before
    · exact ⟨_, List.mem_append_right _ (List.mem_singleton_self _), now⟩
    · obtain ⟨exchange, member, pairwise⟩ := keyed.keyed before
      exact ⟨exchange, List.mem_append_left _ member, pairwise⟩
  refine ⟨fun installed => requested (installs installed), ?_⟩
  intro some_request
  rw [keyRequests_accept] at some_request
  by_cases asked : action.keyRequest = none
  · rw [asked, Option.toList_none, List.append_nil] at some_request
    obtain ⟨exchange, member, pairwise⟩ := keyed.requested some_request
    exact ⟨exchange, List.mem_append_left _ member, pairwise⟩
  · exact requested (asks asked)

end Frames

end Session

/-! ## Runs -/

/-- The operations of one session: no restart, and payloads that were heard. -/
def SupplicantOperation.Continues (Hears : Bytes → Prop) : SupplicantOperation → Prop
  | .onEapol _ bytes => Hears bytes
  | .restartPairwise _ => False
  | _ => True

namespace Session
open Wpa2Supplicant
variable {crypto : Wpa2Crypto} {Hears : Bytes → Prop} {first session : Session}

/-- The session that began as `first`, after some operations. -/
def Later (crypto : Wpa2Crypto) (Hears : Bytes → Prop) (first session : Session) : Prop :=
  ∃ operations : List SupplicantOperation, (∀ operation ∈ operations, operation.Continues Hears) ∧
    runMoves (step crypto) first operations = session

theorem later_refl (first : Session) : Later crypto Hears first first := ⟨[], by simp, rfl⟩

theorem Later.step (later : Later crypto Hears first session) {operation : SupplicantOperation}
    (continues : operation.Continues Hears) :
    Later crypto Hears first (session.step crypto operation) := by
  obtain ⟨operations, all, rfl⟩ := later
  refine ⟨operations ++ [operation], ?_, ?_⟩
  · intro other member
    rcases List.mem_append.mp member with earlier | new
    · exact all other earlier
    · rw [List.mem_singleton.mp new]
      exact continues
  · rw [runMoves_append]
    rfl

/-! ### The key of a run -/

/-- A session and the nonce that its keys come from. -/
structure Derived (crypto : Wpa2Crypto) (session : Session) : Prop where
  recorded : session.Recorded crypto
  keyed : ∃ authenticatorNonce, session.KeyedBy crypto authenticatorNonce

theorem derived_start {supplicant : Wpa2Supplicant} {supplicantNonce : Octets 32}
    (holds : Handshake crypto supplicant) (phase : supplicant.phase = .awaitingMessage1)
    (nonce : supplicant.supplicantNonce = supplicantNonce) :
    (start supplicant supplicantNonce).Derived crypto where
  recorded := recorded_start holds phase nonce
  keyed := by
    refine ⟨zeroOctets 32, by simp [start], ?_, by simp [start], by simp [start],
      by simp [start], ?_, by simp [start, keyRequests]⟩
    · intro _ started
      exact absurd phase started
    · rintro (installs | complete)
      · cases phase.symm.trans installs
      · cases phase.symm.trans complete

/-- The nonce of the first message keys the session; later frames keep it. -/
theorem keyedBy_frame (recorded : session.Recorded crypto) {authenticatorNonce : Octets 32}
    (keyed : session.KeyedBy crypto authenticatorNonce) {bytes : Bytes} {action : Wpa2Action}
    {frame : EapolKeyFrame} {after : Wpa2Supplicant}
    (parsed : EapolKeyFrame.parse bytes = .ok frame)
    (effect : FrameEffect crypto session.supplicant frame action after) :
    ∃ keyNonce, KeyedBy crypto
      { session with supplicant := after, accepted := session.accepted ++ [⟨bytes, action⟩] }
      keyNonce := by
  have same : (Exchange.mk bytes action).frame = frame := (parse_iff.mp parsed).2.symm
  have identical := frame_identity effect
  obtain ⟨active, _⟩ := frame_active recorded.handshake effect
  obtain ⟨firstNonce, firstKind, keptNonce⟩ := frame_nonce recorded.handshake effect
  obtain ⟨message3, _, _⟩ := frame_installs effect
  have started : ∃ exchange ∈ session.accepted ++ [⟨bytes, action⟩],
      exchange.frame.message = .pairwiseMessage1 := by
    by_cases first : session.supplicant.phase = .awaitingMessage1
    · exact ⟨_, List.mem_append_right _ (List.mem_singleton_self _), same ▸ firstKind first⟩
    · obtain ⟨exchange, member, kind⟩ := recorded.learned active first
      exact ⟨exchange, List.mem_append_left _ member, kind⟩
  obtain ⟨installed, requested⟩ := keyedBy_installs keyed bytes effect
  by_cases first : session.supplicant.phase = .awaitingMessage1
  · -- nothing was accepted before this message
    refine ⟨frame.nonce, ?_, ?_, ?_, ?_, fun _ => started, installed, requested⟩
    · intro exchange member _
      rw [recorded.untouched first, List.nil_append, List.mem_singleton] at member
      rw [member, same]
    · intro _ _
      exact (firstNonce (firstKind first)).symm
    · intro exchange member request asks
      rw [recorded.untouched first, List.nil_append, List.mem_singleton] at member
      rw [member] at asks
      exact absurd first (frame_carries recorded effect asks).2.1
    · intro exchange member installs
      rw [recorded.untouched first, List.nil_append, List.mem_singleton] at member
      rw [member, same]
      rw [member] at installs
      exact ⟨(message3 installs).1, rfl⟩
  · have stored := keyed.active active first
    refine ⟨authenticatorNonce, ?_, ?_, ?_, ?_, fun _ => started, installed, requested⟩
    · intro exchange member kind
      rcases List.mem_append.mp member with earlier | new
      · exact keyed.message1 exchange earlier kind
      · obtain rfl := List.mem_singleton.mp new
        rw [same] at kind ⊢
        rw [firstNonce kind, keptNonce first, stored]
    · intro _ _
      rw [keptNonce first, stored]
    · intro exchange member request asks
      have peer : after.peer = session.supplicant.peer :=
        congrArg (fun identity => identity.2.1) identical
      have key : ptkOf crypto { session with supplicant := after } authenticatorNonce =
          session.ptkOf crypto authenticatorNonce :=
        @ptkOf_eq crypto session { session with supplicant := after } identical rfl _
      change Carries crypto after.peer
        (ptkOf crypto { session with supplicant := after } authenticatorNonce) _ _
      rw [key, peer]
      rcases List.mem_append.mp member with earlier | new
      · exact keyed.carries exchange earlier request asks
      · obtain rfl := List.mem_singleton.mp new
        rw [same, ← stored]
        exact (frame_carries recorded effect asks).2.2
    · intro exchange member installs
      rcases List.mem_append.mp member with earlier | new
      · exact keyed.message3 exchange earlier installs
      · obtain rfl := List.mem_singleton.mp new
        rw [same, ← stored]
        exact message3 installs

theorem derived_failed (derived : session.Derived crypto) :
    Derived crypto { session with supplicant := session.supplicant.failed } where
  recorded := recorded_failed derived.recorded
  keyed := by
    obtain ⟨authenticatorNonce, keyed⟩ := derived.keyed
    refine ⟨authenticatorNonce, keyed.message1, fun active => absurd rfl active, keyed.carries,
      keyed.message3, keyed.started, ?_, keyed.requested⟩
    rintro (installs | complete)
    · cases installs
    · cases complete

theorem derived_completion {α : Type} {value : α} {result : Except Wpa2Error α}
    {ticket : UInt32} {replay : UInt64} {group : Bool} {after : Wpa2Supplicant}
    (derived : session.Derived crypto)
    (outcome : CompletionOutcome session.supplicant ticket replay group value result after) :
    Derived crypto { session with supplicant := after } := by
  have recorded := recorded_completion derived.recorded outcome
  cases outcome with
  | failed failure => exact derived_failed derived
  | installed pending frame =>
      -- a pending installation: the exchange has started, and it has not failed
      obtain ⟨authenticatorNonce, keyed⟩ := derived.keyed
      have active : session.supplicant.phase ≠ .failed := by
        intro failed
        rw [(derived.recorded.handshake.of_failed failed).pendingTicket] at pending
        cases pending
      have learned : session.supplicant.phase ≠ .awaitingMessage1 := by
        intro first
        rw [derived.recorded.handshake.idle (.inl first)] at pending
        cases pending
      refine ⟨recorded, authenticatorNonce, keyed.message1, fun _ _ => keyed.active active learned,
        keyed.carries, keyed.message3, keyed.started, fun _ => keyed.keyed ?_, keyed.requested⟩
      exact installsKeys_of_pending derived.recorded.handshake pending

theorem derived_step (derived : session.Derived crypto) (operation : SupplicantOperation) :
    (session.step crypto operation).Derived crypto := by
  cases operation with
  | onEapol peer bytes =>
      have outcome := (onEapol_handled crypto session.supplicant peer bytes).ends
      simp only [step, Wpa2Supplicant.step]
      generalize stateAfter (onEapol crypto peer bytes) session.supplicant = after at outcome ⊢
      generalize resultOf (onEapol crypto peer bytes) session.supplicant = result at outcome ⊢
      cases outcome with
      | refused => simpa only [acceptedBy, List.append_nil] using derived
      | failed => simpa only [acceptedBy, List.append_nil] using derived_failed derived
      | accepted effect =>
          obtain ⟨_, frame, parsed, effect⟩ := effect
          obtain ⟨authenticatorNonce, keyed⟩ := derived.keyed
          exact ⟨recorded_frame derived.recorded parsed effect,
            keyedBy_frame derived.recorded keyed parsed effect⟩
  | completeKeyInstall request installed =>
      exact derived_completion derived
        (completeKeyInstall_outcome session.supplicant request installed).ends
  | completeGroupKeyInstall request installed =>
      exact derived_completion derived
        (completeGroupKeyInstall_outcome session.supplicant request installed).ends
  | restartPairwise supplicantNonce =>
      have spec := (restartPairwise_spec session.supplicant supplicantNonce).ends
      simp only [step, Wpa2Supplicant.step]
      cases result : resultOf (restartPairwise supplicantNonce) session.supplicant with
      | error failure =>
          rw [result] at spec
          rw [spec]
          exact derived
      | ok value =>
          rw [result] at spec
          rw [spec.2.2]
          exact derived_start (handshake_restarted session.supplicant spec.1) rfl rfl

/-- Every payload that was accepted was heard. -/
theorem Later.hears (later : Later crypto Hears first session) (fresh : first.accepted = []) :
    ∀ exchange ∈ session.accepted, Hears exchange.bytes := by
  obtain ⟨operations, continues, rfl⟩ := later
  have preserved : ∀ (session : Session) operation,
      SupplicantOperation.Continues Hears operation →
      (∀ exchange ∈ session.accepted, Hears exchange.bytes) →
        ∀ exchange ∈ (session.step crypto operation).accepted, Hears exchange.bytes := by
    intro session operation continues heard
    cases operation with
    | onEapol peer bytes =>
        refine List.forall_mem_append.mpr ⟨heard, ?_⟩
        cases resultOf (Wpa2Supplicant.onEapol crypto peer bytes) session.supplicant with
        | error failure => simp [acceptedBy]
        | ok action => exact List.forall_mem_singleton.mpr continues
    | completeKeyInstall request installed => exact heard
    | completeGroupKeyInstall request installed => exact heard
    | restartPairwise supplicantNonce => exact continues.elim
  exact runMoves_preserves_of_allowed preserved (by simp [fresh]) operations continues

theorem Later.derived (later : Later crypto Hears first session) (derived : first.Derived crypto) :
    session.Derived crypto := by
  obtain ⟨operations, _, rfl⟩ := later
  have preserved : ∀ (session : Session) operation, session.Derived crypto →
      (session.step crypto operation).Derived crypto :=
    fun _ operation derived => derived_step derived operation
  exact runMoves_preserves preserved derived operations

/-- The requests of a session: one pairwise key at most, and counters that increase. -/
theorem Recorded.requests (recorded : session.Recorded crypto) :
    session.keyRequests.countP KeyRequest.isPairwise ≤ 1 ∧
      (session.keyRequests.map KeyRequest.replayCounter).Pairwise (· < ·) := by
  constructor
  · refine Nat.le_trans (Nat.le_of_eq ?_) recorded.once
    rw [keyRequests, List.countP_filterMap, pairwiseInstalls]
    apply List.countP_congr
    intro exchange _
    cases exchange.action <;> simp [Wpa2Action.keyRequest, KeyRequest.isPairwise,
      Wpa2Action.installsPairwise]
  · rw [keyRequests, List.map_filterMap, List.pairwise_filterMap]
    refine recorded.newer.imp_of_mem ?_
    intro earlier later member _ newer counter request next again
    rw [← Wpa2Action.installCounter_eq] at request again
    rw [recorded.counters earlier member counter request]
    exact newer next again

end Session

end Nrf7002
