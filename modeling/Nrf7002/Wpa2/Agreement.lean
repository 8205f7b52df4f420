import Nrf7002.Foundation.Orders
import Nrf7002.Wpa2.Authenticator
import Nrf7002.Wpa2.Keyed

/-! # Agreement with the authenticator

An authenticator sends key messages with rising replay counters, and the network may lose,
repeat, reorder and invent frames.  It cannot invent one thing: a frame that is signed with
the transient key of the session.  Then both sides hold the same transient key, and the keys
that the session asks for are some of those sent, in their order and none twice. -/

set_option autoImplicit false

namespace Nrf7002
open Foundation

/-- A message that delivers keys. -/
inductive KeyMessage where
  | message3 (replay : UInt64) (delivery : GroupKeyDelivery)
  | groupMessage1 (replay : UInt64) (keyLength : UInt16) (nonce : Octets 32)
      (delivery : GroupKeyDelivery)

namespace KeyMessage

def replay : KeyMessage → UInt64
  | .message3 replay _ => replay
  | .groupMessage1 replay _ _ _ => replay

def delivery : KeyMessage → GroupKeyDelivery
  | .message3 _ delivery => delivery
  | .groupMessage1 _ _ _ delivery => delivery

def fields (crypto : Wpa2Crypto) (authenticator : Wpa2Authenticator) (ptk : Ptk) :
    KeyMessage → EapolKeyFields
  | .message3 replay delivery => authenticator.message3Fields crypto ptk replay delivery
  | .groupMessage1 replay keyLength nonce delivery =>
      authenticator.groupMessage1Fields crypto ptk replay keyLength nonce delivery

/-- The message under the transient key, as the authenticator sends it. -/
def bytes (crypto : Wpa2Crypto) (authenticator : Wpa2Authenticator) (ptk : Ptk)
    (message : KeyMessage) : Bytes := (message.fields crypto authenticator ptk).signed crypto ptk

end KeyMessage

/-- The request asks for the keys of the message. -/
def KeyRequest.AsksFor (peer : Octets 6) (ptk : Ptk) : KeyRequest → KeyMessage → Prop
  | .pairwise request, .message3 replay delivery =>
      request.replayCounter = replay ∧ request.pairwise = ⟨peer, ptk.temporalKey⟩ ∧
        request.group = delivery.install
  | .group request, .groupMessage1 replay _ _ delivery =>
      request.replayCounter = replay ∧ request.group = delivery.install
  | _, _ => False

theorem KeyRequest.AsksFor.replay {peer : Octets 6} {ptk : Ptk} {request : KeyRequest}
    {message : KeyMessage} (asks : request.AsksFor peer ptk message) :
    request.replayCounter = message.replay := by
  cases request <;> cases message <;> first | exact asks.1 | exact asks.elim

/-- What an authenticator may send in one exchange. -/
structure Wpa2Authenticator.Sends (authenticator : Wpa2Authenticator)
    (messages : List KeyMessage) : Prop where
  version : authenticator.protocolVersion = 1 ∨ authenticator.protocolVersion = 2
  increasing : (messages.map KeyMessage.replay).Pairwise (· < ·)
  wellFormed : ∀ message ∈ messages, message.delivery.WellFormed

/-- The frame in a payload, as far as it is one. -/
def EapolKeyFrame.ofPayload (bytes : Bytes) : EapolKeyFrame :=
  ⟨bytes, ⟨readBe16 bytes 5⟩, bytes.drop keyDataOffset⟩

/-- Nobody else signs: a payload under a transient key of the authenticator's master key, with
a nonce that was heard, is one of the messages. -/
def Wpa2Authenticator.Unforged (crypto : Wpa2Crypto) (authenticator : Wpa2Authenticator)
    (supplicantNonce : Octets 32) (messages : List KeyMessage) (Hears : Bytes → Prop) : Prop :=
  ∀ opening payload, Hears opening → Hears payload →
    (EapolKeyFrame.ofPayload payload).verifyMic crypto
        (Wpa2Authenticator.ptk crypto
          { authenticator with nonce := (EapolKeyFrame.ofPayload opening).nonce }
          supplicantNonce) = true →
      ∃ message ∈ messages,
        payload = message.bytes crypto authenticator (authenticator.ptk crypto supplicantNonce)

theorem EapolKeyInfo.classify_message3 : classify ⟨0x13ca⟩ = .pairwiseMessage3 := by decide

theorem EapolKeyInfo.classify_groupMessage1 : classify ⟨0x1382⟩ = .groupMessage1 := by decide

section Messages
variable {crypto : Wpa2Crypto} {authenticator : Wpa2Authenticator} {ptk : Ptk}

variable (crypto ptk) in
theorem KeyMessage.parse_bytes (message : KeyMessage)
    (version : authenticator.protocolVersion = 1 ∨ authenticator.protocolVersion = 2)
    (wellFormed : message.delivery.WellFormed) :
    EapolKeyFrame.parse (message.bytes crypto authenticator ptk) =
      .ok ((message.fields crypto authenticator ptk).frame crypto ptk) := by
  have fits := (Wpa2Authenticator.wrapped_fits crypto ptk.kek wellFormed).2
  cases message with
  | message3 replay delivery => exact EapolKeyFields.parse_signed crypto _ ptk version fits
  | groupMessage1 replay keyLength nonce delivery =>
      exact EapolKeyFields.parse_signed crypto _ ptk version fits

variable (crypto) in
/-- The fields of the frame that the supplicant reads from a message. -/
theorem KeyMessage.frame_fields (message : KeyMessage) :
    ((message.fields crypto authenticator ptk).frame crypto ptk).replayCounter = message.replay ∧
      ((message.fields crypto authenticator ptk).frame crypto ptk).keyReceiveSequence =
        message.delivery.receiveSequence ∧
      ((message.fields crypto authenticator ptk).frame crypto ptk).keyData =
        aesKeyWrap crypto ptk.kek message.delivery.keyData := by
  have counter := (message.fields crypto authenticator ptk).replayCounter_written
    ((message.fields crypto authenticator ptk).signature crypto ptk)
  have sequence := (message.fields crypto authenticator ptk).keyReceiveSequence_written
    ((message.fields crypto authenticator ptk).signature crypto ptk)
  cases message with
  | message3 replay delivery => exact ⟨counter, sequence, rfl⟩
  | groupMessage1 replay keyLength nonce delivery => exact ⟨counter, sequence, rfl⟩

/-- A Message 3 carries the nonce of its authenticator. -/
theorem KeyMessage.nonce_of_message3 (message : KeyMessage)
    (kind : ((message.fields crypto authenticator ptk).frame crypto ptk).message =
      .pairwiseMessage3) :
    ((message.fields crypto authenticator ptk).frame crypto ptk).nonce = authenticator.nonce := by
  cases message with
  | message3 replay delivery =>
      exact (authenticator.message3Fields crypto ptk replay delivery).nonce_written _
  | groupMessage1 replay keyLength nonce delivery =>
      cases EapolKeyInfo.classify_groupMessage1.symm.trans kind

end Messages

namespace Session
open Wpa2Supplicant
variable {crypto : Wpa2Crypto} {authenticator : Wpa2Authenticator} {first session : Session}
  {messages : List KeyMessage} {Hears : Bytes → Prop}

/-- What the session accepted under its transient key was sent by the authenticator, under its
own. -/
def Unforged (crypto : Wpa2Crypto) (authenticator : Wpa2Authenticator)
    (messages : List KeyMessage) (session : Session) : Prop :=
  ∀ opening ∈ session.accepted, opening.frame.message = .pairwiseMessage1 →
    ∀ exchange ∈ session.accepted,
      exchange.frame.verifyMic crypto (session.ptkOf crypto opening.frame.nonce) = true →
        ∃ message ∈ messages, exchange.bytes =
          message.bytes crypto authenticator (authenticator.ptk crypto session.supplicantNonce)

/-- The session asked for the keys of some of the messages, in the order of the messages and
for none twice. -/
def Agrees (crypto : Wpa2Crypto) (authenticator : Wpa2Authenticator)
    (messages : List KeyMessage) (session : Session) : Prop :=
  ∃ applied, applied.Sublist messages ∧
    List.Forall₂ (KeyRequest.AsksFor authenticator.address
      (authenticator.ptk crypto session.supplicantNonce)) session.keyRequests applied

variable (crypto) in
theorem identity_step (session : Session) {operation : SupplicantOperation}
    (continues : operation.Continues Hears) :
    identity (session.step crypto operation).supplicant = identity session.supplicant ∧
      (session.step crypto operation).supplicantNonce = session.supplicantNonce := by
  have completes {α : Type} {value : α} {result : Except Wpa2Error α} {ticket : UInt32}
      {replay : UInt64} {group : Bool} {after : Wpa2Supplicant}
      (outcome : CompletionOutcome session.supplicant ticket replay group value result after) :
      identity after = identity session.supplicant := by
    cases outcome <;> rfl
  cases operation with
  | onEapol peer bytes =>
      refine ⟨?_, rfl⟩
      have outcome := (onEapol_handled crypto session.supplicant peer bytes).ends
      simp only [step, Wpa2Supplicant.step]
      generalize stateAfter (onEapol crypto peer bytes) session.supplicant = after at outcome ⊢
      generalize resultOf (onEapol crypto peer bytes) session.supplicant = result at outcome
      cases outcome with
      | refused => rfl
      | failed => rfl
      | accepted effect =>
          obtain ⟨_, frame, _, effect⟩ := effect
          exact frame_identity effect
  | completeKeyInstall request installed =>
      exact ⟨completes (completeKeyInstall_outcome session.supplicant request installed).ends, rfl⟩
  | completeGroupKeyInstall request installed =>
      exact ⟨completes (completeGroupKeyInstall_outcome session.supplicant request installed).ends,
        rfl⟩
  | restartPairwise supplicantNonce => exact continues.elim

/-- A session keeps its addresses, its master key and its own nonce. -/
theorem Later.identity (later : Later crypto Hears first session) :
    Session.identity session.supplicant = Session.identity first.supplicant ∧
      session.supplicantNonce = first.supplicantNonce := by
  obtain ⟨operations, continues, rfl⟩ := later
  have preserved : ∀ (visit : Session) operation,
      SupplicantOperation.Continues Hears operation →
      Session.identity visit.supplicant = Session.identity first.supplicant ∧
          visit.supplicantNonce = first.supplicantNonce →
        Session.identity (visit.step crypto operation).supplicant =
            Session.identity first.supplicant ∧
          (visit.step crypto operation).supplicantNonce = first.supplicantNonce := by
    intro visit operation continues same
    obtain ⟨kept, nonce⟩ := identity_step crypto visit continues
    exact ⟨kept.trans same.1, nonce.trans same.2⟩
  exact runMoves_preserves_of_allowed preserved ⟨rfl, rfl⟩ operations continues

/-- A session hears what the network carries. -/
theorem Later.unforged (paired : authenticator.Paired first.supplicantNonce first.supplicant)
    (fresh : first.accepted = []) (later : Later crypto Hears first session)
    (network : authenticator.Unforged crypto first.supplicantNonce messages Hears) :
    session.Unforged crypto authenticator messages := by
  intro opening opened kind exchange accepted verified
  obtain ⟨identical, nonce⟩ := later.identity
  have heard := later.hears fresh
  rw [nonce]
  refine network opening.bytes exchange.bytes (heard opening opened) (heard exchange accepted) ?_
  rw [ptkOf_eq identical nonce, ptkOf, paired.pmk, paired.peer, paired.localAddress,
    Pmk.derivePtk_comm] at verified
  exact verified

/-! ### The keys of one exchange -/

section Exchanges
variable {keyNonce : Octets 32} {exchange : Exchange} {request : KeyRequest}

/-- The frame of a request is that of a message of the authenticator. -/
theorem Unforged.sent (unforged : session.Unforged crypto authenticator messages)
    (sends : authenticator.Sends messages) (keyed : session.KeyedBy crypto keyNonce)
    (accepted : exchange ∈ session.accepted) (asks : exchange.action.keyRequest = some request) :
    ∃ message ∈ messages, exchange.frame =
      (message.fields crypto authenticator (authenticator.ptk crypto session.supplicantNonce)).frame
        crypto (authenticator.ptk crypto session.supplicantNonce) := by
  obtain ⟨opening, opened, kind⟩ := keyed.started (List.ne_nil_of_mem accepted)
  have verified := (keyed.carries exchange accepted request asks).delivers.verified
  rw [← keyed.message1 opening opened kind] at verified
  obtain ⟨message, sent, bytes⟩ := unforged opening opened kind exchange accepted verified
  refine ⟨message, sent, ?_⟩
  have parsed := message.parse_bytes crypto (authenticator.ptk crypto session.supplicantNonce)
    sends.version (sends.wellFormed message sent)
  rw [(parse_iff.mp parsed).2, Exchange.frame, bytes]

/-- The session that asks for keys has the nonce of its authenticator. -/
theorem Unforged.nonce (unforged : session.Unforged crypto authenticator messages)
    (sends : authenticator.Sends messages) (keyed : session.KeyedBy crypto keyNonce)
    (asked : session.keyRequests ≠ []) : keyNonce = authenticator.nonce := by
  obtain ⟨exchange, accepted, installs⟩ := keyed.requested asked
  obtain ⟨kind, nonce⟩ := keyed.message3 exchange accepted installs
  obtain ⟨request, asks⟩ : ∃ request, exchange.action.keyRequest = some request := by
    cases action : exchange.action with
    | installKeys request => exact ⟨_, rfl⟩
    | installGroupKey request => exact ⟨_, rfl⟩
    | none =>
        rw [action] at installs
        cases installs
    | transmit frame =>
        rw [action] at installs
        cases installs
  obtain ⟨message, -, frame⟩ := unforged.sent sends keyed accepted asks
  rw [frame] at kind nonce
  rw [← nonce, message.nonce_of_message3 kind]

variable (inverse : crypto.Inverse) (unforged : session.Unforged crypto authenticator messages)
  (sends : authenticator.Sends messages)

include inverse unforged sends

/-- A request asks for the keys of a message. -/
theorem Unforged.asksFor (recorded : session.Recorded crypto)
    (keyed : session.KeyedBy crypto authenticator.nonce)
    (same : session.ptkOf crypto authenticator.nonce =
      authenticator.ptk crypto session.supplicantNonce)
    (peer : session.supplicant.peer = authenticator.address)
    (accepted : exchange ∈ session.accepted) (asks : exchange.action.keyRequest = some request) :
    ∃ message ∈ messages, request.AsksFor authenticator.address
      (authenticator.ptk crypto session.supplicantNonce) message := by
  obtain ⟨message, sent, frame⟩ := unforged.sent sends keyed accepted asks
  obtain ⟨counter, sequence, data⟩ := message.frame_fields crypto
  obtain ⟨delivers, pairwise, kind⟩ := keyed.carries exchange accepted request asks
  have group := delivers.unwrapped
  rw [same, frame, groupKeyInstall_delivery inverse (sends.wellFormed message sent) data sequence]
    at group
  have replay : request.replayCounter = exchange.counter :=
    recorded.counters exchange accepted request.replayCounter (by
      rw [Wpa2Action.installCounter_eq, asks]
      rfl)
  rw [Exchange.counter, frame, counter] at replay
  rw [frame] at kind
  refine ⟨message, sent, ?_⟩
  cases request with
  | pairwise install =>
      cases message with
      | message3 counter delivery =>
          refine ⟨replay, ?_, (Except.ok.inj group).symm⟩
          rw [pairwise install rfl, same, peer]
      | groupMessage1 counter keyLength nonce delivery =>
          cases (EapolKeyInfo.classify_groupMessage1).symm.trans kind
  | group install =>
      cases message with
      | message3 counter delivery => cases (EapolKeyInfo.classify_message3).symm.trans kind
      | groupMessage1 counter keyLength nonce delivery =>
          exact ⟨replay, (Except.ok.inj group).symm⟩

end Exchanges

/-! ### The keys of a session -/

section Pairs
variable (paired : authenticator.Paired first.supplicantNonce first.supplicant)
  (derived : first.Derived crypto) (fresh : first.accepted = [])
  (later : Later crypto Hears first session) (sends : authenticator.Sends messages)
  (network : authenticator.Unforged crypto first.supplicantNonce messages Hears)

include paired later

theorem Later.ptkOf_eq : session.ptkOf crypto authenticator.nonce =
    authenticator.ptk crypto session.supplicantNonce := by
  obtain ⟨identical, nonce⟩ := later.identity
  have own : first.supplicant.pmk.derivePtk crypto first.supplicant.peer
      first.supplicant.localAddress authenticator.nonce first.supplicant.supplicantNonce =
        authenticator.ptk crypto first.supplicantNonce := paired.derivePtk
  rw [paired.supplicantNonce] at own
  rw [Session.ptkOf_eq identical nonce, nonce]
  exact own

include derived fresh sends network

/-- A session that began with a supplicant of the authenticator asks for its keys. -/
theorem Later.agrees (inverse : crypto.Inverse) :
    session.Agrees crypto authenticator messages := by
  have unforged := later.unforged paired fresh network
  have same := later.ptkOf_eq paired
  have peer : session.supplicant.peer = authenticator.address :=
    (congrArg (fun identity => identity.2.1) later.identity.1).trans paired.peer
  obtain ⟨recorded, keyNonce, keyed⟩ := later.derived derived
  -- without a request there is nothing to show; with one, the nonce is known
  by_cases silent : session.keyRequests = []
  · exact ⟨[], List.nil_sublist messages, silent ▸ .nil⟩
  obtain rfl := unforged.nonce sends keyed silent
  refine exists_sublist_of_rising KeyRequest.replayCounter KeyMessage.replay
    (fun _ _ asks => asks.replay) recorded.requests.2 sends.increasing ?_
  intro request asked
  obtain ⟨exchange, accepted, asks⟩ := List.mem_filterMap.mp asked
  exact unforged.asksFor inverse sends recorded keyed same peer accepted asks

/-- A supplicant that completed the exchange has the transient key of its authenticator, and
asked for the pairwise key. -/
theorem Later.complete (complete : session.supplicant.phase = .complete) :
    session.supplicant.ptk = some (authenticator.ptk crypto session.supplicantNonce) ∧
      ∃ request ∈ session.keyRequests, request.isPairwise = true := by
  have unforged := later.unforged paired fresh network
  obtain ⟨recorded, keyNonce, keyed⟩ := later.derived derived
  obtain ⟨exchange, accepted, installs⟩ := keyed.keyed (.inr complete)
  have requested : ∃ request ∈ session.keyRequests, request.isPairwise = true := by
    cases action : exchange.action with
    | installKeys request =>
        exact ⟨_, List.mem_filterMap.mpr ⟨exchange, accepted, congrArg _ action⟩, rfl⟩
    | _ =>
        rw [action] at installs
        cases installs
  have asked : session.keyRequests ≠ [] := by
    obtain ⟨request, member, _⟩ := requested
    exact List.ne_nil_of_mem member
  obtain rfl := unforged.nonce sends keyed asked
  have active : session.supplicant.phase ≠ .failed := by simp [complete]
  refine ⟨?_, requested⟩
  rw [recorded.ptk_eq (recorded.handshake.completed complete).1 active, ← later.ptkOf_eq paired,
    Session.ptk, ptkOf, keyed.active active (by simp [complete])]

end Pairs

end Session

end Nrf7002
