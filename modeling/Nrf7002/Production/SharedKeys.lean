import Nrf7002.Production.Ledger
import Nrf7002.Production.Traffic
import Nrf7002.Wpa2.Agreement

/-! # The keys that both sides hold

An authenticator, a network that loses, repeats, reorders and invents frames but cannot sign,
and a station in any run of its operations: the keys that firmware is told to install are
those of some messages of the authenticator.  Where nobody signs, the port stays closed. -/

set_option autoImplicit false

namespace Nrf7002
open Foundation

/-- The commands that install the keys of a message. -/
def KeyMessage.commands (peer : Octets 6) (ptk : Ptk) : KeyMessage → List FirmwareKey
  | .message3 _ delivery =>
      [.new (PairwiseKeyInstall.keyConfig ⟨peer, ptk.temporalKey⟩),
        .new delivery.install.keyConfig, .default delivery.install.defaultKeyConfig]
  | .groupMessage1 _ _ _ delivery =>
      [.new delivery.install.keyConfig, .default delivery.install.defaultKeyConfig]

theorem KeyRequest.AsksFor.commands {peer : Octets 6} {ptk : Ptk} {request : KeyRequest}
    {message : KeyMessage} (asks : request.AsksFor peer ptk message) :
    request.commands = message.commands peer ptk := by
  cases request with
  | pairwise request =>
      cases message with
      | message3 replay delivery =>
          obtain ⟨-, pairwise, group⟩ := asks
          rw [KeyRequest.commands, KeyMessage.commands, pairwise, group]
      | groupMessage1 replay keyLength nonce delivery => exact asks.elim
  | group request =>
      cases message with
      | message3 replay delivery => exact asks.elim
      | groupMessage1 replay keyLength nonce delivery =>
          obtain ⟨-, group⟩ := asks
          rw [KeyRequest.commands, KeyMessage.commands, group]

theorem authorized_submits {log : List Crossing} (shows : Secured log ∨ Authorized log) :
    ∃ crossing ∈ log, crossing.Submits (StationMessage.NewKey .pairwise) := by
  rcases shows with ⟨token, ordered⟩ | ⟨token, ordered⟩
  · exact ordered.exists_first
  · exact ordered.exists_first

theorem setsKey_of_newKey {crossing : Crossing} {keyType : KeyType}
    (submits : crossing.Submits (StationMessage.NewKey keyType)) : crossing.setsKey = true := by
  obtain ⟨request, wdevId, is, limits, rfl⟩ := submits
  have found := StationMessage.commandIn_bytes limits wdevId
  simp [Crossing.setsKey, found, request.command_newKey is]

namespace Wpa2StationDriver
variable {β ε π ρ : Type} {rx tx : Nat} {crypto : Wpa2Crypto} {supplicantNonce : Octets 32}
  {start : Wpa2StationDriver β rx tx} {moves : List (SecureMove π β ε)}

theorem Begins.starts (begins : Begins ε supplicantNonce start) : Starts ε start := by
  cases begins with
  | new created driver wdevId => exact .new driver _ wdevId
  | restarted returns => exact .restarted returns

variable [Bus β ε] [Platform π β ρ]

/-! ## Signed messages -/

section Agreement
variable {authenticator : Wpa2Authenticator} {messages : List KeyMessage}

/-- The firmware was told to install the keys of these messages; and a supplicant that
completed the exchange holds the transient key of the authenticator, and installed its part. -/
structure Shares (crypto : Wpa2Crypto) (authenticator : Wpa2Authenticator)
    (supplicantNonce : Octets 32) (messages : List KeyMessage) (log : List Crossing)
    (supplicant : Wpa2Supplicant) (delivered : List FirmwareKey) (applied : List KeyMessage) :
    Prop where
  told : KeysTold delivered log
  sent : applied.Sublist messages
  inParts : InParts (KeyMessage.commands authenticator.address
    (authenticator.ptk crypto supplicantNonce)) applied delivered
  ptk : supplicant.phase = .complete →
    supplicant.ptk = some (authenticator.ptk crypto supplicantNonce)
  keyed : supplicant.phase = .complete → ∃ replay delivery, .message3 replay delivery ∈ applied

/-- An authenticator and a station that share a master key, and a network that cannot sign: in
any run up to the next restart, the key commands of the journal are those of some messages of
the authenticator, in their order and none twice. -/
theorem keys_agreed (inverse : crypto.Inverse) (begins : Begins ε supplicantNonce start)
    (paired : authenticator.Paired supplicantNonce start.security.supplicant)
    (sends : authenticator.Sends messages) (continues : ∀ move ∈ moves, move.Continues)
    (unforged : authenticator.Unforged crypto supplicantNonce messages
      (· ∈ heardIn crypto start moves)) :
    let station := runMoves (step crypto) start moves
    ∃ log delivered applied, station.journal = start.journal ++ log ∧
      Shares crypto authenticator supplicantNonce messages log station.security.supplicant
        delivered applied := by
  intro station
  obtain ⟨session, log, delivered, booked⟩ := books_run crypto begins moves continues
  have derived := (begins.derived crypto).1
  have nonce : session.supplicantNonce = supplicantNonce := booked.later.identity.2
  have same : station.security.supplicant = session.supplicant := booked.supplicant
  obtain ⟨applied, part, asks⟩ := booked.later.agrees paired derived rfl sends unforged inverse
  refine ⟨log, delivered, applied, booked.journal, booked.told, part, ?_, ?_, ?_⟩
  · refine booked.ledger.inParts.same (asks.imp fun request message asks => ?_)
    rw [asks.commands, nonce]
  · intro complete
    rw [same] at complete ⊢
    rw [(booked.later.complete paired derived rfl sends unforged complete).1, nonce]
  · intro complete
    rw [same] at complete
    obtain ⟨-, request, asked, pairwise⟩ :=
      booked.later.complete paired derived rfl sends unforged complete
    obtain ⟨message, sent, asks⟩ := exists_source asks asked
    cases message with
    | message3 replay delivery => exact ⟨replay, delivery, sent⟩
    | groupMessage1 replay keyLength groupNonce delivery =>
        cases request with
        | pairwise install => exact asks.elim
        | group install => cases pairwise

end Agreement

/-- What the authenticator of the handshake sends, and one more group key that is lost. -/
def sentMessages : List KeyMessage :=
  [.message3 2 (Wpa2Authenticator.sampleDelivery 1 0x44),
    .groupMessage1 3 16 (zeroOctets 32) (Wpa2Authenticator.sampleDelivery 2 0x55)]

theorem heard_handshake :
    heardIn sampleCrypto securingStart handshakeMoves = [sampleMessage1, sampleMessage3] := by
  decide +kernel

theorem unforged_handshake :
    Wpa2Authenticator.sampleAuthenticator.Unforged sampleCrypto sampleSupplicantNonce sentMessages
      (· ∈ heardIn sampleCrypto securingStart handshakeMoves) := by
  intro opening payload opened heard
  rw [heard_handshake] at opened heard
  have nonce : (EapolKeyFrame.ofPayload opening).nonce = sampleAuthenticatorNonce := by
    simp only [List.mem_cons, List.not_mem_nil, or_false] at opened
    rcases opened with rfl | rfl <;> decide +kernel
  rw [nonce]
  intro verified
  simp only [List.mem_cons, List.not_mem_nil, or_false] at heard
  rcases heard with rfl | rfl
  · exact absurd verified (by decide +kernel)
  · exact ⟨_, List.mem_cons_self, by decide +kernel⟩

/-- The handshake leaves both sides with the same transient key. -/
theorem keys_agreed_handshake :
    ∃ log delivered applied,
      (runMoves (step sampleCrypto) securingStart handshakeMoves).journal =
          securingStart.journal ++ log ∧
        Shares sampleCrypto Wpa2Authenticator.sampleAuthenticator sampleSupplicantNonce sentMessages
          log (runMoves (step sampleCrypto) securingStart handshakeMoves).security.supplicant
          delivered applied ∧
        applied ≠ [] := by
  have begins : Begins Empty sampleSupplicantNonce securingStart :=
    .new Wpa2Supplicant.sampleSupplicant_new securingDriver 0
  have continues : ∀ move ∈ handshakeMoves, move.Continues :=
    fun move member => continues_of_operates (operates_handshakeMoves move member)
  have wellFormed : ∀ message ∈ sentMessages, message.delivery.WellFormed := by
    intro message member
    simp only [sentMessages, List.mem_cons, List.not_mem_nil, or_false] at member
    rcases member with rfl | rfl <;> exact Wpa2Authenticator.sampleDelivery_wellFormed _ _
  have paired : Wpa2Authenticator.sampleAuthenticator.Paired sampleSupplicantNonce
      sampleSupplicant := ⟨rfl, rfl, rfl, rfl⟩
  obtain ⟨log, delivered, applied, journal, shares⟩ :=
    keys_agreed sampleCrypto_inverse begins paired ⟨.inr rfl, by decide, wellFormed⟩ continues
      unforged_handshake
  refine ⟨log, delivered, applied, journal, shares, ?_⟩
  obtain ⟨replay, delivery, member⟩ := shares.keyed (by decide +kernel)
  exact List.ne_nil_of_mem member

/-! ## No signed message -/

/-- No payload verifies under a transient key of the supplicant with a nonce that was heard. -/
def Unsigned (crypto : Wpa2Crypto) (supplicantNonce : Octets 32) (supplicant : Wpa2Supplicant)
    (Hears : Bytes → Prop) : Prop :=
  ∀ opening payload, Hears opening → Hears payload →
    (EapolKeyFrame.ofPayload payload).verifyMic crypto
      (supplicant.pmk.derivePtk crypto supplicant.peer supplicant.localAddress
        (EapolKeyFrame.ofPayload opening).nonce supplicantNonce) = false

/-- A session that heard no signed payload asks for no keys. -/
theorem silent_of_unsigned {Hears : Bytes → Prop} {first session : Session}
    (later : Session.Later crypto Hears first session) (derived : first.Derived crypto)
    (fresh : first.accepted = [])
    (unsigned : Unsigned crypto first.supplicantNonce first.supplicant Hears) :
    session.keyRequests = [] := by
  rw [List.eq_nil_iff_forall_not_mem]
  intro request asked
  obtain ⟨exchange, accepted, asks⟩ := List.mem_filterMap.mp asked
  obtain ⟨-, keyNonce, keyed⟩ := later.derived derived
  obtain ⟨identical, nonce⟩ := later.identity
  obtain ⟨opening, opened, kind⟩ := keyed.started (List.ne_nil_of_mem accepted)
  have verified := (keyed.carries exchange accepted request asks).delivers.verified
  rw [← keyed.message1 opening opened kind, Session.ptkOf_eq identical nonce] at verified
  have heard := later.hears fresh
  have refused := unsigned opening.bytes exchange.bytes (heard opening opened)
    (heard exchange accepted)
  exact absurd (verified.symm.trans refused) (by decide)

/-- Without a signed payload, a station that starts with a closed port installs no key, asks
for no authorization, transmits no data and hands none up, whatever else it hears. -/
theorem unsigned_opens_nothing (begins : Begins ε supplicantNonce start)
    (closed : start.controlledPortAuthorized = false) (settled : ¬ start.AwaitsAuthorization)
    (secured : ∀ move ∈ moves, move.Secured)
    (unsigned : Unsigned crypto supplicantNonce start.security.supplicant
      (· ∈ heardIn crypto start moves)) :
    let station := runMoves (step crypto) start moves
    station.controlledPortAuthorized = false ∧
      ∃ log, station.journal = start.journal ++ log ∧
        ∀ crossing ∈ log, crossing.setsKey = false ∧ ¬ crossing.Commands .setStation ∧
          ¬ crossing.CarriesData := by
  intro station
  have continues : ∀ move ∈ moves, move.Continues :=
    fun move member => SecureMove.continues_of_secured (secured move member)
  obtain ⟨session, log, delivered, booked⟩ := books_run crypto begins moves continues
  obtain ⟨other, holds⟩ := protected_run crypto begins.starts closed moves secured
  obtain rfl : other = log := List.append_cancel_left (holds.journal.symm.trans booked.journal)
  have silent := silent_of_unsigned booked.later (begins.derived crypto).1 rfl unsigned
  have none_delivered : delivered = [] := by
    have within := booked.ledger.inParts.within
    rw [silent] at within
    exact List.prefix_nil.mp within
  have keyless : ∀ crossing ∈ other, crossing.setsKey = false := by
    have told := booked.told
    rw [none_delivered, KeysTold, List.forall₂_nil_left_iff, List.filter_eq_nil_iff] at told
    exact fun crossing member => Bool.eq_false_iff.mpr (told crossing member)
  -- the first mark of an authorization is a key command
  have shows_none (before : List Crossing) (inside : before ⊆ other) :
      ¬ (Secured before ∨ Authorized before) := by
    intro shows
    obtain ⟨crossing, member, submits⟩ := authorized_submits shows
    have keyed := setsKey_of_newKey submits
    rw [keyless crossing (inside member)] at keyed
    cases keyed
  refine ⟨?_, other, booked.journal, ?_⟩
  · refine Bool.eq_false_iff.mpr fun opened => ?_
    exact shows_none other (List.Subset.refl other)
      (.inr (authorized_of_opened closed settled (holds.port opened)))
  · intro crossing member
    obtain ⟨before, after, split⟩ := List.append_of_mem member
    have inside : before ⊆ other := split ▸ List.subset_append_left before _
    refine ⟨keyless crossing member, fun commands => ?_, fun carries => ?_⟩
    · exact shows_none before inside
        (.inl (holds.justified.submitted before crossing after split commands))
    · exact shows_none before inside
        (.inr (authorized_of_opened closed settled
          (holds.data before crossing after split carries)))

/-- Message 3 with another MIC. -/
def forgedMessage3 : Bytes := splice sampleMessage3 keyMicStart [1, 2, 3, 4]

/-- The exchange up to the forged message, which the station refuses. -/
def forgedMoves : List (SecureMove Unit (BackedBus ReadyBus) Empty) :=
  eapolMoves sampleMessage1 ++ eventMoves (Wpa2System.txDoneMessage 0) ++ eapolMoves forgedMessage3

theorem unsigned_forged :
    heardIn sampleCrypto securingStart forgedMoves = [sampleMessage1, forgedMessage3] ∧
      Unsigned sampleCrypto sampleSupplicantNonce sampleSupplicant
        (· ∈ heardIn sampleCrypto securingStart forgedMoves) := by
  have heard : heardIn sampleCrypto securingStart forgedMoves = [sampleMessage1, forgedMessage3] :=
    by decide +kernel
  refine ⟨heard, ?_⟩
  intro opening payload opened received
  rw [heard] at opened received
  simp only [List.mem_cons, List.not_mem_nil, or_false] at opened received
  rcases opened with rfl | rfl <;> rcases received with rfl | rfl <;> decide +kernel

theorem unsigned_opens_nothing_forged :
    let station := runMoves (step sampleCrypto) securingStart forgedMoves
    station.controlledPortAuthorized = false ∧
      ∃ log, station.journal = securingStart.journal ++ log ∧
        ∀ crossing ∈ log, crossing.setsKey = false ∧ ¬ crossing.Commands .setStation ∧
          ¬ crossing.CarriesData := by
  have begins : Begins Empty sampleSupplicantNonce securingStart :=
    .new Wpa2Supplicant.sampleSupplicant_new securingDriver 0
  have operates : ∀ move ∈ forgedMoves, move.Operates := by
    simp only [forgedMoves, List.forall_mem_append, and_assoc]
    exact ⟨operates_eapolMoves _, operates_eventMoves _, operates_eapolMoves _⟩
  have settled : ¬ securingStart.AwaitsAuthorization := by
    intro waits
    cases waits
  exact unsigned_opens_nothing begins rfl settled
    (fun move member => secured_of_operates (operates move member)) unsigned_forged.2

end Wpa2StationDriver

end Nrf7002
