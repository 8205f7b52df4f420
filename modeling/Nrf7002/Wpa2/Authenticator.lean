import Nrf7002.Wpa2.Handshake

/-! # An authenticator for the supplicant

The other side of both handshakes, written from the standard's point of view: it
derives the transient key with the two roles exchanged, wraps and signs its messages,
and is always accepted by the supplicant. -/

set_option autoImplicit false

namespace Nrf7002
open Foundation

/-- A group key as it is delivered: the elements before its own, its index with the
transmit flag, and the receive sequence of the frame. -/
structure GroupKeyDelivery where
  before : List Element
  keyIndex : Fin 4
  transmit : Bool
  key : Octets 16
  receiveSequence : Octets 8

namespace GroupKeyDelivery

def flags (delivery : GroupKeyDelivery) : UInt8 :=
  UInt8.ofNat delivery.keyIndex.val ||| if delivery.transmit then 4 else 0

def elements (delivery : GroupKeyDelivery) : Bytes :=
  delivery.before.flatMap Element.bytes ++ (Element.gtk delivery.flags delivery.key.1).bytes

/-- The padding to whole registers: the element identifier 0xdd, then zeros. -/
def padding (len : Nat) : Bytes :=
  if len % 8 = 0 then [] else kdeElementId :: List.replicate (7 - len % 8) 0

/-- The key data before it is wrapped. -/
def keyData (delivery : GroupKeyDelivery) : Bytes :=
  delivery.elements ++ padding delivery.elements.length

/-- The group key as the supplicant should install it. -/
def install (delivery : GroupKeyDelivery) : GroupKeyInstall :=
  { keyIndex := UInt8.ofNat delivery.keyIndex.val
    key := delivery.key.1
    receiveSequence := delivery.receiveSequence }

/-- Only other well-formed elements come first, and the wrapped key data fits. -/
structure WellFormed (delivery : GroupKeyDelivery) : Prop where
  others : ∀ element ∈ delivery.before, element.WellFormed ∧ element.isGtk = false
  fits : delivery.keyData.length + 8 ≤ maxKeyDataLen

theorem flags_reserved (delivery : GroupKeyDelivery) : delivery.flags &&& 0xf8 = 0 := by
  have all : ∀ (index : Fin 4) (transmit : Bool),
      (UInt8.ofNat index.val ||| if transmit then 4 else 0) &&& 0xf8 = 0 := by decide
  exact all delivery.keyIndex delivery.transmit

theorem flags_index (delivery : GroupKeyDelivery) :
    delivery.flags &&& 0x03 = UInt8.ofNat delivery.keyIndex.val := by
  have all : ∀ (index : Fin 4) (transmit : Bool),
      (UInt8.ofNat index.val ||| if transmit then 4 else 0) &&& 0x03 = UInt8.ofNat index.val := by
    decide
  exact all delivery.keyIndex delivery.transmit

theorem length_keyData (delivery : GroupKeyDelivery) :
    16 ≤ delivery.keyData.length ∧ delivery.keyData.length % 8 = 0 := by
  have whole : (Element.gtk delivery.flags delivery.key.1).bytes.length = 24 := by
    simp [Element.length_bytes, Element.gtk, gtkKdeOuiType, delivery.key.2]
  have long : 24 ≤ delivery.elements.length := by
    rw [elements, List.length_append, whole]
    omega
  rw [keyData, List.length_append, padding]
  split
  · rw [List.length_nil]
    omega
  · rw [List.length_cons, List.length_replicate]
    omega

/-- The parser finds the delivered key. -/
theorem parseGtkKde_keyData {delivery : GroupKeyDelivery} (wellFormed : delivery.WellFormed) :
    parseGtkKde delivery.keyData = .ok ⟨UInt8.ofNat delivery.keyIndex.val, delivery.key.1⟩ := by
  rw [parseGtkKde_iff]
  refine ⟨delivery.before, delivery.flags, padding delivery.elements.length, ?_, wellFormed.others,
    delivery.flags_reserved, delivery.flags_index.symm, delivery.key.2⟩
  rw [keyData, elements, List.append_assoc]

end GroupKeyDelivery

/-- The authenticator: its address and the supplicant's, its nonce, and the protocol
version of its frames. -/
structure Wpa2Authenticator where
  pmk : Pmk
  address : Octets 6
  supplicant : Octets 6
  nonce : Octets 32
  protocolVersion : UInt8

namespace Wpa2Authenticator

section Messages
variable (crypto : Wpa2Crypto) (authenticator : Wpa2Authenticator)

/-- The authenticator names the supplicant first. -/
def ptk (supplicantNonce : Octets 32) : Ptk :=
  authenticator.pmk.derivePtk crypto authenticator.supplicant authenticator.address supplicantNonce
    authenticator.nonce

def message1Fields (replay : UInt64) : EapolKeyFields :=
  { protocolVersion := authenticator.protocolVersion
    keyInfo := 0x008a
    keyLength := 16
    replayCounter := replay
    nonce := authenticator.nonce
    receiveSequence := zeroOctets 8
    keyData := [] }

/-- Message 1 is not signed. -/
def message1 (replay : UInt64) : Bytes :=
  (authenticator.message1Fields replay).encode (zeroOctets 16)

def message3Fields (ptk : Ptk) (replay : UInt64) (delivery : GroupKeyDelivery) : EapolKeyFields :=
  { protocolVersion := authenticator.protocolVersion
    keyInfo := 0x13ca
    keyLength := 16
    replayCounter := replay
    nonce := authenticator.nonce
    receiveSequence := delivery.receiveSequence
    keyData := aesKeyWrap crypto ptk.kek delivery.keyData }

def message3 (ptk : Ptk) (replay : UInt64) (delivery : GroupKeyDelivery) : Bytes :=
  (authenticator.message3Fields crypto ptk replay delivery).signed crypto ptk

/-- The nonce and the key length of a group message are up to the authenticator. -/
def groupMessage1Fields (ptk : Ptk) (replay : UInt64) (keyLength : UInt16) (nonce : Octets 32)
    (delivery : GroupKeyDelivery) : EapolKeyFields :=
  { protocolVersion := authenticator.protocolVersion
    keyInfo := 0x1382
    keyLength
    replayCounter := replay
    nonce
    receiveSequence := delivery.receiveSequence
    keyData := aesKeyWrap crypto ptk.kek delivery.keyData }

def groupMessage1 (ptk : Ptk) (replay : UInt64) (keyLength : UInt16) (nonce : Octets 32)
    (delivery : GroupKeyDelivery) : Bytes :=
  (authenticator.groupMessage1Fields crypto ptk replay keyLength nonce delivery).signed crypto ptk

end Messages

end Wpa2Authenticator

/-! ## The supplicant's side -/

namespace Wpa2Supplicant

section Accepted
variable {crypto : Wpa2Crypto} {supplicant : Wpa2Supplicant} {frame : EapolKeyFrame}

/-- A supported frame from the peer goes to its handler when nothing is installed. -/
theorem onEapol_dispatches {bytes : Bytes} (idle : supplicant.pendingTicket = none)
    (parsed : EapolKeyFrame.parse bytes = .ok frame)
    (version : frame.keyInfo.descriptorVersion = keyDescriptorVersionHmacSha1Aes.toUInt8)
    (length : isPairwiseHandshakeMessage frame.message = true → frame.keyLength = 16)
    (Q : Except Wpa2Error Wpa2Action → Wpa2Supplicant → Prop) :
    Post (onEapol crypto supplicant.peer bytes) supplicant Q ↔
      Post (dispatchMessage crypto frame frame.message) supplicant Q := by
  have supported : ¬ (isPairwiseHandshakeMessage frame.message = true ∧ frame.keyLength ≠ 16) :=
    fun refused => refused.2 (length refused.1)
  simp only [onEapol, post_bind, post_get, post_ite, post_liftResult, parsed, validateFrame,
    handlePendingFrame, idle, post_pure, ne_eq, not_true_eq_false, if_false, version,
    if_neg supported]

theorem noKeyData_fits : ([] : Bytes).length ≤ maxKeyDataLen := Nat.zero_le _

theorem message1_accepted (phase : supplicant.phase = .awaitingMessage1) (first : supplicant.message1Replay = none)
    (noData : frame.keyData = []) (nonzero : isZeroNonce frame.nonce = false) :
    Post (onMessage1 crypto frame) supplicant fun result after =>
      after = supplicant.learned crypto frame ∧
        ∃ response, result = .ok (.transmit response) ∧
          buildMessage2 crypto supplicant.peer frame.protocolVersion frame.keyLength
            frame.replayCounter supplicant.supplicantNonce supplicant.rsnIe.bytes
            (supplicant.pmk.derivePtk crypto supplicant.peer supplicant.localAddress frame.nonce
              supplicant.supplicantNonce) = .ok response := by
  have fits : supplicant.rsnIe.bytes.length ≤ maxKeyDataLen :=
    (validateRsnIe_length supplicant.rsnIe.accepted).trans (by decide)
  have built := buildResponse_fits crypto supplicant.peer frame.protocolVersion
    (keyDescriptorVersionHmacSha1Aes ||| keyInfoPairwise ||| keyInfoMic) frame.keyLength
    frame.replayCounter supplicant.supplicantNonce fits
    (supplicant.pmk.derivePtk crypto supplicant.peer supplicant.localAddress frame.nonce
      supplicant.supplicantNonce)
  simp only [onMessage1, post_bind, post_get, post_ite, noData, nonzero, phase, first,
    beginMessage1, post_modify, message2Action, requirePtk, learned, post_pure, buildMessage2,
    built, post_liftResult_ok, ne_eq, not_true_eq_false, Bool.false_eq_true, reduceCtorEq, if_false,
    true_or]
  exact ⟨trivial, _, rfl, rfl⟩

theorem message3_accepted {ptk : Ptk} {previous : UInt64} {group : GroupKeyInstall}
    (phase : supplicant.phase = .awaitingMessage3) (keys : supplicant.ptk = some ptk)
    (nonce : frame.nonce = supplicant.authenticatorNonce)
    (verified : frame.verifyMic crypto ptk = true)
    (first : supplicant.message1Replay = some previous) (newer : previous < frame.replayCounter)
    (encrypted : frame.keyInfo.encryptedKeyData = true) (data : frame.keyData ≠ [])
    (delivered : groupKeyInstall crypto frame ptk = .ok group) :
    Post (onMessage3 crypto frame) supplicant fun result after =>
      after = supplicant.installingKeys crypto frame ∧
        ∃ response, result = .ok (.installKeys ⟨supplicant.nextTicket, frame.replayCounter,
            ⟨supplicant.peer, ptk.temporalKey⟩, group, response⟩) ∧
          buildMessage4 crypto supplicant.peer frame.protocolVersion frame.keyLength
            frame.replayCounter ptk = .ok response := by
  have built := buildResponse_fits crypto supplicant.peer frame.protocolVersion
    (keyDescriptorVersionHmacSha1Aes ||| keyInfoPairwise ||| keyInfoMic ||| keyInfoSecure)
    frame.keyLength frame.replayCounter (zeroOctets 32) noKeyData_fits ptk
  have fresh : ¬ frame.replayCounter ≤ previous := UInt64.not_le.mpr newer
  simp only [onMessage3, requirePtk, post_bind, post_get, keys, post_pure, failOnError,
    validateMessage3Authenticator, nonce, verified, phase, validateNewMessage3, first, fresh,
    requireEncryptedKeyData, encrypted, data, delivered, post_liftResult_ok, buildMessage4, built,
    startKeyInstall, post_set, post_modify, post_ite, ne_eq, not_true_eq_false, not_false_eq_true,
    Bool.true_eq_false, reduceCtorEq, if_false, and_self, if_true]
  exact ⟨rfl, _, rfl, rfl⟩

theorem groupMessage1_accepted {ptk : Ptk} {last : UInt64} {group : GroupKeyInstall}
    (phase : supplicant.phase = .complete) (keys : supplicant.ptk = some ptk)
    (completed : supplicant.completedReplay = some last)
    (noGroup : supplicant.lastGroupReplay = none) (newer : last < frame.replayCounter)
    (verified : frame.verifyMic crypto ptk = true)
    (encrypted : frame.keyInfo.encryptedKeyData = true) (data : frame.keyData ≠ [])
    (delivered : groupKeyInstall crypto frame ptk = .ok group) :
    Post (onGroupMessage1 crypto frame) supplicant fun result after =>
      after = supplicant.installing frame.replayCounter true (frame.digest crypto) ∧
        ∃ response, result = .ok (.installGroupKey ⟨supplicant.nextTicket, frame.replayCounter,
            group, response⟩) ∧
          buildGroupMessage2 crypto supplicant.peer frame.protocolVersion frame.keyLength
            frame.replayCounter ptk = .ok response := by
  have built := buildResponse_fits crypto supplicant.peer frame.protocolVersion
    (keyDescriptorVersionHmacSha1Aes ||| keyInfoMic ||| keyInfoSecure)
    frame.keyLength frame.replayCounter (zeroOctets 32) noKeyData_fits ptk
  have fresh : ¬ frame.replayCounter ≤ last := UInt64.not_le.mpr newer
  simp only [onGroupMessage1, requirePtk, post_bind, post_get, keys, post_pure, failOnError,
    validateNewGroupMessage1, verified, phase, completed, noGroup, Option.getD_some, fresh,
    requireEncryptedKeyData, encrypted, data, delivered, post_liftResult_ok, buildGroupMessage2,
    built, startKeyInstall, post_set, post_ite, ne_eq, not_true_eq_false, not_false_eq_true,
    Bool.true_eq_false, reduceCtorEq, if_false, and_self, if_true]
  exact ⟨trivial, _, rfl, rfl⟩

theorem completeKeyInstall_accepted {request : Wpa2KeyInstallRequest} {digest : Octets 32}
    (pending : supplicant.pendingTicket = some (request.ticket, request.replayCounter, false))
    (frame : supplicant.pendingFrameDigest = some digest) :
    Returns (completeKeyInstall request true) supplicant request.response
      (supplicant.installed request.replayCounter false digest) := by
  rw [returns_iff_post]
  simp only [completeKeyInstall, acceptKeyCompletion, post_bind, post_get, post_ite, post_set,
    post_modify, post_pure, pending, frame, ne_eq, not_true_eq_false, Bool.true_eq_false, if_false,
    installed, Bool.false_eq_true, and_self]

theorem completeGroupKeyInstall_accepted {request : Wpa2GroupKeyInstallRequest}
    {digest : Octets 32}
    (pending : supplicant.pendingTicket = some (request.ticket, request.replayCounter, true))
    (frame : supplicant.pendingFrameDigest = some digest) :
    Returns (completeGroupKeyInstall request true) supplicant request.response
      (supplicant.installed request.replayCounter true digest) := by
  rw [returns_iff_post]
  simp only [completeGroupKeyInstall, acceptKeyCompletion, post_bind, post_get, post_ite, post_set,
    post_modify, post_pure, pending, frame, ne_eq, not_true_eq_false, Bool.true_eq_false, if_false,
    installed, if_true, and_self]

/-- The key data of a well-formed delivery is unwrapped and its key found. -/
theorem groupKeyInstall_delivery (inverse : crypto.Inverse) {ptk : Ptk}
    {delivery : GroupKeyDelivery} (wellFormed : delivery.WellFormed)
    (data : frame.keyData = aesKeyWrap crypto ptk.kek delivery.keyData)
    (sequence : frame.keyReceiveSequence = delivery.receiveSequence) :
    groupKeyInstall crypto frame ptk = .ok delivery.install := by
  obtain ⟨long, even⟩ := delivery.length_keyData
  have fits := wellFormed.fits
  have unwrapping := (aesKeyUnwrap_aesKeyWrap ptk.kek inverse long even
    (show delivery.keyData.length ≤ (List.replicate maxKeyDataLen (0 : UInt8)).length by
      rw [List.length_replicate]; omega)).ends
  have plain : unwrapKeyData crypto frame ptk = .ok delivery.keyData := by
    simp only [unwrapKeyData, data, unwrapping.1, Except.map, unwrapping.2]
  rw [groupKeyInstall, plain, bind_eq_ok]
  refine ⟨_, rfl, ?_⟩
  rw [bind_eq_ok]
  refine ⟨_, GroupKeyDelivery.parseGtkKde_keyData wellFormed, ?_⟩
  rw [sequence]
  rfl

end Accepted

end Wpa2Supplicant

/-! ## The two parties -/

namespace Wpa2Authenticator
open Wpa2Supplicant

section Parties
variable (crypto : Wpa2Crypto) (authenticator : Wpa2Authenticator) (supplicantNonce : Octets 32)

/-- A supplicant that is set up for the authenticator. -/
structure Paired (supplicant : Wpa2Supplicant) : Prop where
  peer : supplicant.peer = authenticator.address
  localAddress : supplicant.localAddress = authenticator.supplicant
  pmk : supplicant.pmk = authenticator.pmk
  supplicantNonce : supplicant.supplicantNonce = supplicantNonce

/-- The frames that the supplicant parses from the three messages. -/
def frame1 (replay : UInt64) : EapolKeyFrame :=
  ⟨authenticator.message1 replay, ⟨0x008a⟩, []⟩

def frame3 (ptk : Ptk) (replay : UInt64) (delivery : GroupKeyDelivery) : EapolKeyFrame :=
  (authenticator.message3Fields crypto ptk replay delivery).frame crypto ptk

def groupFrame1 (ptk : Ptk) (replay : UInt64) (keyLength : UInt16) (nonce : Octets 32)
    (delivery : GroupKeyDelivery) : EapolKeyFrame :=
  (authenticator.groupMessage1Fields crypto ptk replay keyLength nonce delivery).frame crypto ptk

theorem length_aesKeyWrap (kek : Octets 16) {plain : Bytes} (even : plain.length % 8 = 0) :
    (aesKeyWrap crypto kek plain).length = plain.length + 8 := by
  have initial := (wrap (aesWrapCipher crypto kek) aesKeyWrapIv
    (registersOf (plain.length / 8) plain)).integrity.2
  rw [aesKeyWrap, List.length_append, length_flat, length_wrap, initial]
  simp only [registersOf, List.length_map, List.length_range]
  omega

/-- Wrapped key data of a well-formed delivery is not empty and fits into a frame. -/
theorem wrapped_fits (kek : Octets 16) {delivery : GroupKeyDelivery}
    (wellFormed : delivery.WellFormed) :
    aesKeyWrap crypto kek delivery.keyData ≠ [] ∧
      eapolKeyMinLen + (aesKeyWrap crypto kek delivery.keyData).length ≤ maxEapolFrameLen := by
  have length := length_aesKeyWrap crypto kek delivery.length_keyData.2
  have fits := wellFormed.fits
  constructor
  · intro empty
    rw [empty, List.length_nil] at length
    omega
  · simp only [maxKeyDataLen, maxEapolFrameLen] at fits
    simp only [maxEapolFrameLen, eapolKeyMinLen, eapolHeaderLen, eapolKeyFixedBodyLen]
    omega

variable {crypto} {authenticator} {supplicantNonce} {supplicant : Wpa2Supplicant}

/-- Both parties derive the same transient key. -/
theorem Paired.derivePtk (paired : authenticator.Paired supplicantNonce supplicant) :
    supplicant.pmk.derivePtk crypto supplicant.peer supplicant.localAddress authenticator.nonce
      supplicant.supplicantNonce = authenticator.ptk crypto supplicantNonce := by
  rw [paired.pmk, paired.peer, paired.localAddress, paired.supplicantNonce, Pmk.derivePtk_comm]
  rfl

variable (crypto) in
theorem message1_answered (paired : authenticator.Paired supplicantNonce supplicant)
    (version : authenticator.protocolVersion = 1 ∨ authenticator.protocolVersion = 2)
    (nonzero : isZeroNonce authenticator.nonce = false)
    (phase : supplicant.phase = .awaitingMessage1) (idle : supplicant.pendingTicket = none)
    (first : supplicant.message1Replay = none) (replay : UInt64) :
    ∃ response frame,
      Returns (onEapol crypto authenticator.address (authenticator.message1 replay)) supplicant
        (.transmit response) (supplicant.learned crypto (authenticator.frame1 replay)) ∧
      Answers crypto response .pairwiseMessage2 replay (authenticator.ptk crypto supplicantNonce)
        frame ∧
      frame.nonce = supplicantNonce ∧ frame.keyData = supplicant.rsnIe.bytes := by
  have parsed : EapolKeyFrame.parse (authenticator.message1 replay) =
      .ok (authenticator.frame1 replay) :=
    (authenticator.message1Fields replay).parse_encode _ version
      (show eapolKeyMinLen + 0 ≤ maxEapolFrameLen by decide)
  have nonce : (authenticator.frame1 replay).nonce = authenticator.nonce :=
    (authenticator.message1Fields replay).nonce_written _
  have counter : (authenticator.frame1 replay).replayCounter = replay :=
    (authenticator.message1Fields replay).replayCounter_written _
  have keyLength : (authenticator.frame1 replay).keyLength = 16 :=
    (authenticator.message1Fields replay).keyLength_written _
  have fits : supplicant.rsnIe.bytes.length ≤ maxKeyDataLen :=
    (validateRsnIe_length supplicant.rsnIe.accepted).trans (by decide)
  obtain ⟨response, frame, built, answers, _, own, data⟩ := buildResponse_answers crypto
    supplicant.peer version (keyDescriptorVersionHmacSha1Aes ||| keyInfoPairwise ||| keyInfoMic)
    (authenticator.frame1 replay).keyLength replay supplicant.supplicantNonce fits
    (authenticator.ptk crypto supplicantNonce)
  refine ⟨response, frame, ?_, answers, own.trans paired.supplicantNonce, data⟩
  have supported : EapolKeyInfo.descriptorVersion ⟨0x008a⟩ =
      keyDescriptorVersionHmacSha1Aes.toUInt8 := by decide
  have kind : (authenticator.frame1 replay).message = .pairwiseMessage1 :=
    show EapolKeyInfo.classify ⟨0x008a⟩ = .pairwiseMessage1 by decide
  rw [returns_iff_post, ← paired.peer, onEapol_dispatches idle parsed supported fun _ => keyLength,
    kind, dispatchMessage]
  refine (message1_accepted phase first rfl (nonce ▸ nonzero)).mono ?_
  rintro _ _ ⟨rfl, sent, rfl, message2⟩
  rw [nonce, paired.derivePtk, counter, buildMessage2] at message2
  obtain rfl := Except.ok.inj (message2.symm.trans built)
  exact ⟨rfl, rfl⟩

theorem message3_answered (inverse : crypto.Inverse)
    (paired : authenticator.Paired supplicantNonce supplicant)
    (version : authenticator.protocolVersion = 1 ∨ authenticator.protocolVersion = 2)
    (phase : supplicant.phase = .awaitingMessage3) (idle : supplicant.pendingTicket = none)
    {ptk : Ptk} (keys : supplicant.ptk = some ptk)
    (nonce : supplicant.authenticatorNonce = authenticator.nonce) {first replay : UInt64}
    (previous : supplicant.message1Replay = some first) (newer : first < replay)
    {delivery : GroupKeyDelivery} (wellFormed : delivery.WellFormed) :
    ∃ request frame,
      Returns (onEapol crypto authenticator.address
          (authenticator.message3 crypto ptk replay delivery)) supplicant
        (.installKeys request)
        (supplicant.installingKeys crypto (authenticator.frame3 crypto ptk replay delivery)) ∧
      request.ticket = supplicant.nextTicket ∧ request.replayCounter = replay ∧
      request.pairwise = ⟨authenticator.address, ptk.temporalKey⟩ ∧
      request.group = delivery.install ∧
      Answers crypto request.response .pairwiseMessage4 replay ptk frame := by
  let fields := authenticator.message3Fields crypto ptk replay delivery
  let received := authenticator.frame3 crypto ptk replay delivery
  obtain ⟨some_data, fits⟩ := wrapped_fits crypto ptk.kek wellFormed
  have parsed : EapolKeyFrame.parse (authenticator.message3 crypto ptk replay delivery) =
      .ok received :=
    fields.parse_signed crypto ptk version fits
  have written_nonce : received.nonce = authenticator.nonce := fields.nonce_written _
  have counter : received.replayCounter = replay := fields.replayCounter_written _
  have keyLength : received.keyLength = 16 := fields.keyLength_written _
  have sequence : received.keyReceiveSequence = delivery.receiveSequence :=
    fields.keyReceiveSequence_written _
  have verified : received.verifyMic crypto ptk = true := fields.verifyMic_frame crypto ptk
  have delivered : groupKeyInstall crypto received ptk = .ok delivery.install :=
    groupKeyInstall_delivery inverse wellFormed rfl sequence
  obtain ⟨response, frame, built, answers, _⟩ := buildResponse_answers crypto supplicant.peer version
    (keyDescriptorVersionHmacSha1Aes ||| keyInfoPairwise ||| keyInfoMic ||| keyInfoSecure)
    received.keyLength replay (zeroOctets 32) noKeyData_fits ptk
  refine ⟨⟨supplicant.nextTicket, replay, ⟨authenticator.address, ptk.temporalKey⟩,
    delivery.install, response⟩, frame, ?_, rfl, rfl, rfl, rfl, answers⟩
  have supported : EapolKeyInfo.descriptorVersion ⟨0x13ca⟩ =
      keyDescriptorVersionHmacSha1Aes.toUInt8 := by decide
  have kind : received.message = .pairwiseMessage3 :=
    show EapolKeyInfo.classify ⟨0x13ca⟩ = .pairwiseMessage3 by decide
  have encrypted : EapolKeyInfo.encryptedKeyData ⟨0x13ca⟩ = true := by decide
  rw [returns_iff_post, ← paired.peer, onEapol_dispatches idle parsed supported fun _ => keyLength,
    kind, dispatchMessage]
  refine (message3_accepted phase keys (written_nonce.trans nonce.symm) verified previous
    (counter ▸ newer) encrypted some_data delivered).mono ?_
  rintro _ _ ⟨rfl, sent, rfl, message4⟩
  rw [counter, buildMessage4] at message4
  obtain rfl := Except.ok.inj (message4.symm.trans built)
  rw [counter, paired.peer]
  exact ⟨rfl, rfl⟩

theorem groupMessage1_answered (inverse : crypto.Inverse)
    (paired : authenticator.Paired supplicantNonce supplicant)
    (version : authenticator.protocolVersion = 1 ∨ authenticator.protocolVersion = 2)
    (phase : supplicant.phase = .complete) (idle : supplicant.pendingTicket = none)
    {ptk : Ptk} (keys : supplicant.ptk = some ptk) {last replay : UInt64}
    (completed : supplicant.completedReplay = some last)
    (noGroup : supplicant.lastGroupReplay = none) (newer : last < replay)
    {delivery : GroupKeyDelivery} (wellFormed : delivery.WellFormed) (keyLength : UInt16)
    (nonce : Octets 32) :
    ∃ request frame,
      Returns (onEapol crypto authenticator.address
          (authenticator.groupMessage1 crypto ptk replay keyLength nonce delivery)) supplicant
        (.installGroupKey request)
        (supplicant.installing replay true
          ((authenticator.groupFrame1 crypto ptk replay keyLength nonce delivery).digest crypto)) ∧
      request.ticket = supplicant.nextTicket ∧ request.replayCounter = replay ∧
      request.group = delivery.install ∧
      Answers crypto request.response .groupMessage2 replay ptk frame := by
  let fields := authenticator.groupMessage1Fields crypto ptk replay keyLength nonce delivery
  let received := authenticator.groupFrame1 crypto ptk replay keyLength nonce delivery
  obtain ⟨some_data, fits⟩ := wrapped_fits crypto ptk.kek wellFormed
  have parsed : EapolKeyFrame.parse
      (authenticator.groupMessage1 crypto ptk replay keyLength nonce delivery) = .ok received :=
    fields.parse_signed crypto ptk version fits
  have counter : received.replayCounter = replay := fields.replayCounter_written _
  have sequence : received.keyReceiveSequence = delivery.receiveSequence :=
    fields.keyReceiveSequence_written _
  have verified : received.verifyMic crypto ptk = true := fields.verifyMic_frame crypto ptk
  have delivered : groupKeyInstall crypto received ptk = .ok delivery.install :=
    groupKeyInstall_delivery inverse wellFormed rfl sequence
  obtain ⟨response, frame, built, answers, _⟩ := buildResponse_answers crypto supplicant.peer version
    (keyDescriptorVersionHmacSha1Aes ||| keyInfoMic ||| keyInfoSecure)
    received.keyLength replay (zeroOctets 32) noKeyData_fits ptk
  refine ⟨⟨supplicant.nextTicket, replay, delivery.install, response⟩, frame, ?_, rfl, rfl, rfl,
    answers⟩
  have supported : EapolKeyInfo.descriptorVersion ⟨0x1382⟩ =
      keyDescriptorVersionHmacSha1Aes.toUInt8 := by decide
  have kind : received.message = .groupMessage1 :=
    show EapolKeyInfo.classify ⟨0x1382⟩ = .groupMessage1 by decide
  have encrypted : EapolKeyInfo.encryptedKeyData ⟨0x1382⟩ = true := by decide
  have unchecked : isPairwiseHandshakeMessage received.message = true →
      received.keyLength = 16 := by
    rw [kind]
    intro pairwise
    exact absurd pairwise (by decide)
  rw [returns_iff_post, ← paired.peer, onEapol_dispatches idle parsed supported unchecked, kind,
    dispatchMessage]
  refine (groupMessage1_accepted phase keys completed noGroup (counter ▸ newer) verified encrypted
    some_data delivered).mono ?_
  rintro _ _ ⟨rfl, sent, rfl, message2⟩
  rw [counter, buildGroupMessage2] at message2
  obtain rfl := Except.ok.inj (message2.symm.trans built)
  rw [counter]
  exact ⟨rfl, rfl⟩

/-- An authenticator with the same master key is always accepted: the supplicant answers
with Message 2, asks for exactly the delivered group key and the authenticator's own
temporal key, answers with Message 4, and does the same for a later group key. -/
theorem authenticator_accepted (inverse : crypto.Inverse) (authenticator : Wpa2Authenticator)
    (version : authenticator.protocolVersion = 1 ∨ authenticator.protocolVersion = 2)
    {supplicantNonce : Octets 32} (own : isZeroNonce supplicantNonce = false)
    (other : isZeroNonce authenticator.nonce = false) {rsnIe : Bytes}
    (rsn : validateRsnIe rsnIe = .ok ()) {replay1 replay3 replay4 : UInt64}
    (second : replay1 < replay3) (third : replay3 < replay4)
    {delivery rekey : GroupKeyDelivery} (wellFormed : delivery.WellFormed)
    (rekeyWellFormed : rekey.WellFormed) (keyLength : UInt16) (groupNonce : Octets 32) :
    let ptk := authenticator.ptk crypto supplicantNonce
    ∃ first learned asked complete rekeying last message2 frame2 request frame4 groupRequest
        groupFrame2,
      Wpa2Supplicant.new authenticator.supplicant authenticator.address supplicantNonce
          authenticator.pmk rsnIe = .ok first ∧
      Returns (onEapol crypto authenticator.address (authenticator.message1 replay1)) first
        (.transmit message2) learned ∧
      Answers crypto message2 .pairwiseMessage2 replay1 ptk frame2 ∧
      frame2.nonce = supplicantNonce ∧ frame2.keyData = rsnIe ∧
      Returns (onEapol crypto authenticator.address
          (authenticator.message3 crypto (authenticator.ptk crypto frame2.nonce) replay3 delivery))
        learned (.installKeys request) asked ∧
      request.pairwise = ⟨authenticator.address, ptk.temporalKey⟩ ∧
      request.group = delivery.install ∧
      Returns (completeKeyInstall request true) asked request.response complete ∧
      Answers crypto request.response .pairwiseMessage4 replay3 ptk frame4 ∧
      Returns (onEapol crypto authenticator.address
          (authenticator.groupMessage1 crypto ptk replay4 keyLength groupNonce rekey))
        complete (.installGroupKey groupRequest) rekeying ∧
      groupRequest.group = rekey.install ∧
      Returns (completeGroupKeyInstall groupRequest true) rekeying groupRequest.response last ∧
      Answers crypto groupRequest.response .groupMessage2 replay4 ptk groupFrame2 := by
  intro ptk
  obtain ⟨first, built⟩ := new_accepts authenticator.supplicant authenticator.address
    authenticator.pmk own rsn
  have created := new_created built
  have paired : authenticator.Paired supplicantNonce first :=
    ⟨created.peer, created.localAddress, created.pmk, created.supplicantNonce⟩
  obtain ⟨message2, frame2, sent2, answers2, nonce2, data2⟩ := message1_answered crypto paired
    version other created.phase created.pendingTicket created.message1Replay replay1
  let frame1 := authenticator.frame1 replay1
  let learned := first.learned crypto frame1
  have nonce1 : frame1.nonce = authenticator.nonce :=
    (authenticator.message1Fields replay1).nonce_written _
  have counter1 : frame1.replayCounter = replay1 :=
    (authenticator.message1Fields replay1).replayCounter_written _
  have keys : learned.ptk = some ptk := by
    show some _ = some ptk
    rw [nonce1, paired.derivePtk]
  have paired1 : authenticator.Paired supplicantNonce learned :=
    ⟨paired.peer, paired.localAddress, paired.pmk, paired.supplicantNonce⟩
  obtain ⟨request, frame4, asked3, ticket3, count3, pairwise, group3, answers4⟩ :=
    message3_answered inverse paired1 version rfl created.pendingTicket keys nonce1
      (congrArg some counter1) second wellFormed
  let frame3 := authenticator.frame3 crypto ptk replay3 delivery
  let asked := learned.installingKeys crypto frame3
  have counter3 : frame3.replayCounter = replay3 :=
    (authenticator.message3Fields crypto ptk replay3 delivery).replayCounter_written _
  have pending3 : asked.pendingTicket = some (request.ticket, request.replayCounter, false) := by
    rw [ticket3, count3, ← counter3]
    rfl
  have done3 := completeKeyInstall_accepted pending3 rfl
  let complete := asked.installed request.replayCounter false (frame3.digest crypto)
  have paired3 : authenticator.Paired supplicantNonce complete :=
    ⟨paired.peer, paired.localAddress, paired.pmk, paired.supplicantNonce⟩
  obtain ⟨groupRequest, groupFrame2, asked4, ticket4, count4, group4, answersGroup⟩ :=
    groupMessage1_answered inverse paired3 version rfl rfl keys rfl created.lastGroupReplay
      (count3 ▸ third) rekeyWellFormed keyLength groupNonce
  let groupFrame1 := authenticator.groupFrame1 crypto ptk replay4 keyLength groupNonce rekey
  let rekeying := complete.installing replay4 true (groupFrame1.digest crypto)
  have pending4 : rekeying.pendingTicket =
      some (groupRequest.ticket, groupRequest.replayCounter, true) := by
    rw [ticket4, count4]
    rfl
  have done4 := completeGroupKeyInstall_accepted pending4 rfl
  exact ⟨first, learned, asked, complete, rekeying, _, message2, frame2, request, frame4,
    groupRequest, groupFrame2, built, sent2, answers2, nonce2, data2.trans created.rsnIe,
    nonce2.symm ▸ asked3, pairwise, group3, done3, answers4, asked4, group4, done4, answersGroup⟩

def sampleAuthenticator : Wpa2Authenticator :=
  { pmk := samplePmk
    address := samplePeer
    supplicant := sampleLocal
    nonce := sampleAuthenticatorNonce
    protocolVersion := 2 }

/-- The group keys 0x44 with index 1 and 0x55 with index 2. -/
def sampleDelivery (keyIndex : Fin 4) (byte : UInt8) : GroupKeyDelivery :=
  { before := []
    keyIndex
    transmit := false
    key := ⟨List.replicate 16 byte, List.length_replicate⟩
    receiveSequence := zeroOctets 8 }

theorem sampleDelivery_wellFormed (keyIndex : Fin 4) (byte : UInt8) :
    (sampleDelivery keyIndex byte).WellFormed where
  others := by simp [sampleDelivery]
  fits := by
    simp [GroupKeyDelivery.keyData, GroupKeyDelivery.elements, sampleDelivery, Element.bytes,
      Element.gtk, gtkKdeOuiType, GroupKeyDelivery.padding, maxKeyDataLen, maxEapolFrameLen]

theorem authenticator_accepted_sample :
    ∃ first learned message2,
      Wpa2Supplicant.new sampleLocal samplePeer sampleSupplicantNonce samplePmk sampleRsnIe =
        .ok first ∧
      Returns (onEapol sampleCrypto samplePeer (sampleAuthenticator.message1 1)) first
        (.transmit message2) learned := by
  obtain ⟨first, learned, _, _, _, _, message2, _, _, _, _, _, created, sent, _⟩ :=
    authenticator_accepted sampleCrypto_inverse sampleAuthenticator (.inr rfl)
      (show isZeroNonce sampleSupplicantNonce = false by decide)
      (show isZeroNonce sampleAuthenticatorNonce = false by decide) sampleRsnIe_accepted
      (show (1 : UInt64) < 2 by decide) (show (2 : UInt64) < 3 by decide)
      (sampleDelivery_wellFormed 1 0x44) (sampleDelivery_wellFormed 2 0x55) 16 (zeroOctets 32)
  exact ⟨first, learned, message2, created, sent⟩

end Parties

end Wpa2Authenticator

end Nrf7002
