import Mathlib.Logic.Equiv.Basic
import Nrf7002.Foundation.Run
import Nrf7002.Wpa2.Outcomes

/-! # The phases of the handshake

What each phase of the supplicant means for its other fields, over every run of
received payloads, key completions and restarts. -/

set_option autoImplicit false

namespace Nrf7002
open Foundation

/-- Every public method that changes a supplicant.  A completion may bring any request. -/
inductive SupplicantOperation where
  | onEapol (peer : Octets 6) (bytes : Bytes)
  | completeKeyInstall (request : Wpa2KeyInstallRequest) (installed : Bool)
  | completeGroupKeyInstall (request : Wpa2GroupKeyInstallRequest) (installed : Bool)
  | restartPairwise (supplicantNonce : Octets 32)

/-! ## A handshake for concrete runs -/

section Sample

/-- A number as the bytes of an array. -/
def octets (n value : Nat) : Octets n := ⟨beBytes n value, length_beBytes n value⟩

/-- The blocks of AES under the key-encryption key, before and after encryption, for the
two wrapped group keys of the handshake. -/
def sampleBlocks : List (Nat × Nat) :=
  [(0xa6a6a6a6a6a6a6a6dd16000fac010100, 0x6da0ab1ee964e908a43746f1df925a0a),
    (0x6da0ab1ee964e9094444444444444444, 0xd253d27ceadc432acb73ae7d34ed8071),
    (0xd253d27ceadc43284444444444444444, 0x8356cfcd6245f167794800fbeef589f0),
    (0x8356cfcd6245f164a43746f1df925a0a, 0x35698e486a83acd75dff6657c2ab487c),
    (0x35698e486a83acd3cb73ae7d34ed8071, 0x5964334602e19fb2aa442bfc10a17d38),
    (0x5964334602e19fb7794800fbeef589f0, 0x21cd9a9df9924e3a2f137984f2b312b8),
    (0x21cd9a9df9924e3c5dff6657c2ab487c, 0xd4fbaace1f9de8f999c7886c24d13ba7),
    (0xd4fbaace1f9de8feaa442bfc10a17d38, 0xfe9bc5ccb03109a6d5de414161862e06),
    (0xfe9bc5ccb03109ae2f137984f2b312b8, 0xe59ec860ba6d29061a6efbd41bc09279),
    (0xe59ec860ba6d290f99c7886c24d13ba7, 0x3550f2dff1bc00de4b4577c2d974100d),
    (0x3550f2dff1bc00d4d5de414161862e06, 0x50cfcfa2be46b713344975616cbdf73a),
    (0x50cfcfa2be46b7181a6efbd41bc09279, 0x93eab98acb5d93641926d79adf0f0dcf),
    (0x93eab98acb5d93684b4577c2d974100d, 0xbeb6fbdcd0bf52d99f85a521916faa06),
    (0xbeb6fbdcd0bf52d4344975616cbdf73a, 0xc860ab4fff5f09f91049aa03db36c58c),
    (0xc860ab4fff5f09f71926d79adf0f0dcf, 0x152da9af6bba406a50b85a42c53e57cb),
    (0x152da9af6bba40659f85a521916faa06, 0xbbb39b51fa5bf01b9c1f87180b042bf7),
    (0xbbb39b51fa5bf00b1049aa03db36c58c, 0x3899861bbc8e2df519cd04eb207c781d),
    (0x3899861bbc8e2de450b85a42c53e57cb, 0x38d17513ddf21aca617cbd0827fe5dd3),
    (0xa6a6a6a6a6a6a6a6dd16000fac010200, 0x5650deb616acba2b3eb0907dd57b69b3),
    (0x5650deb616acba2a5555555555555555, 0xbbf996b9309dbe5040cbb18a1c759c0d),
    (0xbbf996b9309dbe525555555555555555, 0x49b671136135ebaf200543f898c0a95e),
    (0x49b671136135ebac3eb0907dd57b69b3, 0xabb3cb7371be5003443a5dd1aadd0ff7),
    (0xabb3cb7371be500740cbb18a1c759c0d, 0x043770c7e0e28a33cbe6097819d7b682),
    (0x043770c7e0e28a36200543f898c0a95e, 0x51c351c89f725189ee3cec94723177e2),
    (0x51c351c89f72518f443a5dd1aadd0ff7, 0xeb4ce9cb2d79d914a8209f1257463528),
    (0xeb4ce9cb2d79d913cbe6097819d7b682, 0x3408dd408f120a1459f6a89a2319a53c),
    (0x3408dd408f120a1cee3cec94723177e2, 0xad358c9284de3f50045cb74d451fa1ef),
    (0xad358c9284de3f59a8209f1257463528, 0x5e1db302df930bde1ca4c4cb0fbc9b8f),
    (0x5e1db302df930bd459f6a89a2319a53c, 0xed1db59f478fa2e323a5dace3465c791),
    (0xed1db59f478fa2e8045cb74d451fa1ef, 0xe624740ef1cfc401b11eec40c4ab5d27),
    (0xe624740ef1cfc40d1ca4c4cb0fbc9b8f, 0x3f5447faa93e042e2a6d8402736d72fb),
    (0x3f5447faa93e042323a5dace3465c791, 0xa6b95af2601b8fbbcb72c9fae96a24ed),
    (0xa6b95af2601b8fb5b11eec40c4ab5d27, 0x7433085f974b502aa299588683cbf52b),
    (0x7433085f974b50252a6d8402736d72fb, 0x74d908fcf8e9f2bcbf6cff0d122cc1f9),
    (0x74d908fcf8e9f2accb72c9fae96a24ed, 0x2ef213d2dd229ce2f51da9f52d74ef49),
    (0x2ef213d2dd229cf3a299588683cbf52b, 0xd540b03a5975d86dd3b53f2d0fbaf5f0)]

/-- Exchanges the two blocks of every pair. -/
def sampleCipher : Equiv.Perm (Octets 16) :=
  sampleBlocks.foldr
    (fun pair rest => (Equiv.swap (octets 16 pair.1) (octets 16 pair.2)).trans rest)
    (Equiv.refl _)

/-- The MACs of the handshake: three blocks of the key expansion, told apart by the last
byte, and five messages, told apart by length and key information. -/
def sampleHmac (message : Bytes) : Nat :=
  if message.length = 100 then
    if message.getLast? = some 0 then 0x199444a77f9c41f599b94454f87f4615e454e08d
    else if message.getLast? = some 1 then 0x68886bb693b77fa779a709b861285f146324a2fb
    else 0x4a410b8c96afacea1b859e2a64e491c412e33a59
  else if message.length = 121 then 0xa28c7a9e410922c45426c37523af0911bf5a4bc4
  else if readBe16 message 5 = 0x13ca then 0x6dc1e72441ae39e8ea5a913dfd5c3bdb8397abd8
  else if readBe16 message 5 = 0x1382 then 0x2f953e9f6a1a24589fcc37b6e2213591de987bd4
  else if readBe16 message 5 = 0x030a then 0xf9c4c49c3be22b65e8932ef47ea70216f195b846
  else 0xc36be87ff2c66022294311a72fff784d4e866b4d

/-- The digests of the three messages of the authenticator. -/
def sampleSha256 (message : Bytes) : Nat :=
  if readBe16 message 5 = 0x008a then
    0x17ac996dd69f77de05c20298c16853525cabc4043b1aef6c99e434b842c217ce
  else if readBe16 message 5 = 0x13ca then
    0x8c62a4610312783f08837ffdaf8eabfa2f0eb884d188fef53910850c63974f6e
  else 0x10a8674e55394c0edd7d622ce5ca4072c0ea82fe4d94a40897059e6d3b99ffff

/-- The cryptographic functions on the inputs of one handshake: master key 0x33, nonces
0x11 and 0x22, group keys 0x44 and 0x55, counters 1, 2 and 3. -/
def sampleCrypto : Wpa2Crypto where
  hmacSha1 _ message := octets 20 (sampleHmac message)
  sha256 message := octets 32 (sampleSha256 message)
  encryptBlock _ block := sampleCipher block
  decryptBlock _ block := sampleCipher.symm block
  pbkdf2HmacSha1 _ _ _ := zeroOctets 32

theorem sampleCrypto_inverse : sampleCrypto.Inverse := by
  intro key block
  simp only [sampleCrypto, Equiv.symm_apply_apply]

theorem length_sampleLocal : ([0x02, 0, 0, 0, 0, 1] : Bytes).length = 6 := rfl

theorem length_samplePeer : ([0x02, 0, 0, 0, 0, 2] : Bytes).length = 6 := rfl

def sampleLocal : Octets 6 := ⟨[0x02, 0, 0, 0, 0, 1], length_sampleLocal⟩
def samplePeer : Octets 6 := ⟨[0x02, 0, 0, 0, 0, 2], length_samplePeer⟩
def samplePmk : Pmk := ⟨⟨List.replicate 32 0x33, rfl⟩⟩
def sampleSupplicantNonce : Octets 32 := ⟨List.replicate 32 0x11, rfl⟩
def sampleAuthenticatorNonce : Octets 32 := ⟨List.replicate 32 0x22, rfl⟩

def sampleRsnIe : Bytes :=
  [0x30, 20, 1, 0, 0, 0x0f, 0xac, 4, 1, 0, 0, 0x0f, 0xac, 4, 1, 0, 0, 0x0f, 0xac, 2, 0, 0]

theorem sampleRsnIe_accepted : validateRsnIe sampleRsnIe = .ok () := by decide +kernel

def samplePtk : Ptk :=
  samplePmk.derivePtk sampleCrypto samplePeer sampleLocal sampleAuthenticatorNonce
    sampleSupplicantNonce

def sampleMessage1 : Bytes :=
  EapolKeyFields.encode ⟨2, 0x008a, 16, 1, sampleAuthenticatorNonce, zeroOctets 8, []⟩
    (zeroOctets 16)

def sampleGroup : GroupKeyInstall :=
  { keyIndex := 1, key := List.replicate 16 0x44, receiveSequence := zeroOctets 8 }

def sampleMessage3 : Bytes :=
  EapolKeyFields.signed sampleCrypto
    ⟨2, 0x13ca, 16, 2, sampleAuthenticatorNonce, zeroOctets 8,
      aesKeyWrap sampleCrypto samplePtk.kek (Element.gtk 1 sampleGroup.key).bytes⟩ samplePtk

def sampleMessage4 : Bytes :=
  EapolKeyFields.signed sampleCrypto ⟨2, 0x030a, 16, 2, zeroOctets 32, zeroOctets 8, []⟩ samplePtk

def sampleRequest : Wpa2KeyInstallRequest :=
  { ticket := 1
    replayCounter := 2
    pairwise := ⟨samplePeer, samplePtk.temporalKey⟩
    group := sampleGroup
    response := ⟨samplePeer, sampleMessage4⟩ }

def sampleSupplicant : Wpa2Supplicant :=
  { localAddress := sampleLocal
    peer := samplePeer
    phase := .awaitingMessage1
    pmk := samplePmk
    ptk := none
    supplicantNonce := sampleSupplicantNonce
    authenticatorNonce := zeroOctets 32
    rsnIe := ⟨sampleRsnIe, sampleRsnIe_accepted⟩
    message1Replay := none
    message1Digest := none
    completedReplay := none
    completedMessage3Digest := none
    lastGroupReplay := none
    lastGroupMessage1Digest := none
    pendingTicket := none
    pendingFrameDigest := none
    nextTicket := 1 }

end Sample


namespace Wpa2Supplicant

section Phases
variable (crypto : Wpa2Crypto)

def step (supplicant : Wpa2Supplicant) : SupplicantOperation → Wpa2Supplicant
  | .onEapol peer bytes => stateAfter (onEapol crypto peer bytes) supplicant
  | .completeKeyInstall request installed =>
      stateAfter (completeKeyInstall request installed) supplicant
  | .completeGroupKeyInstall request installed =>
      stateAfter (completeGroupKeyInstall request installed) supplicant
  | .restartPairwise supplicantNonce => stateAfter (restartPairwise supplicantNonce) supplicant

/-- The transient key of the stored master key, addresses and nonces. -/
def sessionPtk (supplicant : Wpa2Supplicant) : Ptk :=
  supplicant.pmk.derivePtk crypto supplicant.peer supplicant.localAddress
    supplicant.authenticatorNonce supplicant.supplicantNonce

/-- The transient key is that of the stored nonces, and neither nonce is zero. -/
structure Keyed (supplicant : Wpa2Supplicant) : Prop where
  derived : supplicant.ptk = some (supplicant.sessionPtk crypto)
  authenticator : isZeroNonce supplicant.authenticatorNonce = false
  own : isZeroNonce supplicant.supplicantNonce = false

/-- Everything that a failure clears. -/
structure Cleared (supplicant : Wpa2Supplicant) : Prop where
  ptk : supplicant.ptk = none
  supplicantNonce : supplicant.supplicantNonce = zeroOctets 32
  authenticatorNonce : supplicant.authenticatorNonce = zeroOctets 32
  message1Replay : supplicant.message1Replay = none
  completedReplay : supplicant.completedReplay = none
  lastGroupReplay : supplicant.lastGroupReplay = none
  message1Digest : supplicant.message1Digest = none
  completedMessage3Digest : supplicant.completedMessage3Digest = none
  lastGroupMessage1Digest : supplicant.lastGroupMessage1Digest = none
  pendingTicket : supplicant.pendingTicket = none
  pendingFrameDigest : supplicant.pendingFrameDigest = none

/-- The invariant of the handshake, one case for each phase. -/
inductive Handshake (supplicant : Wpa2Supplicant) : Prop where
  | awaitingMessage1 (phase : supplicant.phase = .awaitingMessage1)
      (own : isZeroNonce supplicant.supplicantNonce = false) (ptk : supplicant.ptk = none)
      (message1Replay : supplicant.message1Replay = none)
      (completedReplay : supplicant.completedReplay = none)
      (lastGroupReplay : supplicant.lastGroupReplay = none)
      (idle : supplicant.pendingTicket = none) (quiet : supplicant.pendingFrameDigest = none)
  | awaitingMessage3 {first} (phase : supplicant.phase = .awaitingMessage3)
      (keyed : Keyed crypto supplicant) (message1Replay : supplicant.message1Replay = some first)
      (completedReplay : supplicant.completedReplay = none)
      (lastGroupReplay : supplicant.lastGroupReplay = none)
      (idle : supplicant.pendingTicket = none) (quiet : supplicant.pendingFrameDigest = none)
  | installingKeys {first ticket replay digest} (phase : supplicant.phase = .installingKeys)
      (keyed : Keyed crypto supplicant) (message1Replay : supplicant.message1Replay = some first)
      (lastGroupReplay : supplicant.lastGroupReplay = none)
      (pending : supplicant.pendingTicket = some (ticket, replay, false)) (newer : first < replay)
      (frame : supplicant.pendingFrameDigest = some digest)
  | complete {first last} (phase : supplicant.phase = .complete)
      (keyed : Keyed crypto supplicant) (message1Replay : supplicant.message1Replay = some first)
      (completedReplay : supplicant.completedReplay = some last) (newer : first < last)
      (lastGroupReplay : ∀ replay, supplicant.lastGroupReplay = some replay → replay = last)
      (pending : supplicant.pendingTicket = none ∨
        ∃ ticket replay, supplicant.pendingTicket = some (ticket, replay, true) ∧ last < replay)
  | failed (phase : supplicant.phase = .failed) (cleared : Cleared supplicant)

variable {crypto} {supplicant after : Wpa2Supplicant} {frame : EapolKeyFrame}
  {action : Wpa2Action}

theorem cleared_failed (supplicant : Wpa2Supplicant) : Cleared supplicant.failed :=
  ⟨rfl, rfl, rfl, rfl, rfl, rfl, rfl, rfl, rfl, rfl, rfl⟩

theorem handshake_failed (supplicant : Wpa2Supplicant) : Handshake crypto supplicant.failed :=
  .failed rfl (cleared_failed supplicant)

/-- An error of any payload leaves the supplicant exactly as it was, or clears it. -/
theorem eapol_error_atomic (crypto : Wpa2Crypto) (before : Wpa2Supplicant) (peer : Octets 6)
    (bytes : Bytes) :
    Post (onEapol crypto peer bytes) before fun result after =>
      ∀ failure, result = .error failure →
        after = before ∨ after.phase = .failed ∧ Cleared after := by
  apply (onEapol_handled crypto before peer bytes).mono
  intro result after outcome failure failed
  cases outcome with
  | refused failure => exact .inl rfl
  | failed failure => exact .inr ⟨rfl, cleared_failed before⟩
  | accepted effect => cases failed

theorem handshake_restarted (supplicant : Wpa2Supplicant) {supplicantNonce : Octets 32}
    (nonzero : isZeroNonce supplicantNonce = false) :
    Handshake crypto (supplicant.restarted supplicantNonce) :=
  .awaitingMessage1 rfl nonzero rfl rfl rfl rfl rfl rfl

/-- The supplicant that `new` returns. -/
structure Created (localAddress peer : Octets 6) (supplicantNonce : Octets 32) (pmk : Pmk)
    (rsnIe : Bytes) (supplicant : Wpa2Supplicant) : Prop where
  localAddress : supplicant.localAddress = localAddress
  peer : supplicant.peer = peer
  pmk : supplicant.pmk = pmk
  rsnIe : supplicant.rsnIe.bytes = rsnIe
  supplicantNonce : supplicant.supplicantNonce = supplicantNonce
  nonzero : isZeroNonce supplicant.supplicantNonce = false
  phase : supplicant.phase = .awaitingMessage1
  ptk : supplicant.ptk = none
  message1Replay : supplicant.message1Replay = none
  completedReplay : supplicant.completedReplay = none
  lastGroupReplay : supplicant.lastGroupReplay = none
  pendingTicket : supplicant.pendingTicket = none
  pendingFrameDigest : supplicant.pendingFrameDigest = none

section New
variable {localAddress peer : Octets 6} {supplicantNonce : Octets 32} {pmk : Pmk} {rsnIe : Bytes}

theorem ofBytes_eq_ok {element : RsnIe} (built : RsnIe.ofBytes rsnIe = .ok element) :
    element.bytes = rsnIe := by
  unfold RsnIe.ofBytes at built
  split at built
  · rw [← Except.ok.inj built]
  · exact absurd built (by simp)

theorem ofBytes_accepted (accepted : validateRsnIe rsnIe = .ok ()) :
    RsnIe.ofBytes rsnIe = .ok ⟨rsnIe, accepted⟩ := by
  unfold RsnIe.ofBytes
  split
  · rfl
  · rename_i refused
    exact absurd (accepted.symm.trans refused) (by simp)

theorem new_created (created : new localAddress peer supplicantNonce pmk rsnIe = .ok supplicant) :
    Created localAddress peer supplicantNonce pmk rsnIe supplicant := by
  rw [new, check_bind_eq_ok, bind_eq_ok, validateSupplicantNonce, refused_eq_ok] at created
  obtain ⟨⟨nonzero, _⟩, element, element_built, built⟩ := created
  obtain rfl := Except.ok.inj built
  exact
    { localAddress := rfl
      peer := rfl
      pmk := rfl
      rsnIe := ofBytes_eq_ok element_built
      supplicantNonce := rfl
      nonzero := Bool.not_eq_true _ ▸ nonzero
      phase := rfl
      ptk := rfl
      message1Replay := rfl
      completedReplay := rfl
      lastGroupReplay := rfl
      pendingTicket := rfl
      pendingFrameDigest := rfl }

theorem new_accepts (localAddress peer : Octets 6) (pmk : Pmk)
    (nonzero : isZeroNonce supplicantNonce = false) (accepted : validateRsnIe rsnIe = .ok ()) :
    ∃ supplicant, new localAddress peer supplicantNonce pmk rsnIe = .ok supplicant := by
  rw [new, validateSupplicantNonce, nonzero, ofBytes_accepted accepted]
  exact ⟨_, rfl⟩

theorem sampleSupplicant_new :
    new sampleLocal samplePeer sampleSupplicantNonce samplePmk sampleRsnIe =
      .ok sampleSupplicant := by
  have nonzero : isZeroNonce sampleSupplicantNonce = false := by decide
  rw [new, validateSupplicantNonce, nonzero, ofBytes_accepted sampleRsnIe_accepted]
  rfl

theorem Created.handshake (created : Created localAddress peer supplicantNonce pmk rsnIe supplicant) :
    Handshake crypto supplicant :=
  .awaitingMessage1 created.phase created.nonzero created.ptk
    created.message1Replay created.completedReplay created.lastGroupReplay created.pendingTicket
    created.pendingFrameDigest

end New

/-- Message 1 is only learned in the first phase: later its counter is known. -/
theorem Handshake.unlearned (holds : Handshake crypto supplicant) (phase : supplicant.awaitsMessage)
    (first : supplicant.message1Replay = none) :
    supplicant.phase = .awaitingMessage1 ∧ isZeroNonce supplicant.supplicantNonce = false ∧
      supplicant.completedReplay = none ∧ supplicant.lastGroupReplay = none ∧
      supplicant.pendingTicket = none ∧ supplicant.pendingFrameDigest = none := by
  cases holds with
  | awaitingMessage1 current own _ _ completed group idle quiet =>
      exact ⟨current, own, completed, group, idle, quiet⟩
  | awaitingMessage3 _ _ known => exact absurd (first.symm.trans known) (by simp)
  | installingKeys _ _ known => exact absurd (first.symm.trans known) (by simp)
  | complete _ _ known => exact absurd (first.symm.trans known) (by simp)
  | failed current => rcases phase with same | same <;> simp [current] at same

/-- The facts of a completed handshake. -/
theorem Handshake.completed (holds : Handshake crypto supplicant)
    (phase : supplicant.phase = .complete) :
    Keyed crypto supplicant ∧ ∃ first last, supplicant.message1Replay = some first ∧
      supplicant.completedReplay = some last ∧ first < last ∧
      (∀ replay, supplicant.lastGroupReplay = some replay → replay = last) ∧
      (supplicant.pendingTicket = none ∨
        ∃ ticket replay, supplicant.pendingTicket = some (ticket, replay, true) ∧
          last < replay) := by
  cases holds with
  | complete _ keyed first last newer group pending =>
      exact ⟨keyed, _, _, first, last, newer, group, pending⟩
  | awaitingMessage1 current => exact absurd (current.symm.trans phase) (by decide)
  | awaitingMessage3 current => exact absurd (current.symm.trans phase) (by decide)
  | installingKeys current => exact absurd (current.symm.trans phase) (by decide)
  | failed current => exact absurd (current.symm.trans phase) (by decide)

/-- The facts of the phase that waits for Message 3. -/
theorem Handshake.learned (holds : Handshake crypto supplicant)
    (phase : supplicant.phase = .awaitingMessage3) :
    Keyed crypto supplicant ∧ supplicant.lastGroupReplay = none ∧
      supplicant.completedReplay = none := by
  cases holds with
  | awaitingMessage3 _ keyed _ completed group => exact ⟨keyed, group, completed⟩
  | awaitingMessage1 current => exact absurd (current.symm.trans phase) (by decide)
  | complete current => exact absurd (current.symm.trans phase) (by decide)
  | installingKeys current => exact absurd (current.symm.trans phase) (by decide)
  | failed current => exact absurd (current.symm.trans phase) (by decide)

/-- Nothing is installed while a message is awaited. -/
theorem Handshake.idle (holds : Handshake crypto supplicant) (phase : supplicant.awaitsMessage) :
    supplicant.pendingTicket = none := by
  cases holds with
  | awaitingMessage1 _ _ _ _ _ _ idle => exact idle
  | awaitingMessage3 _ _ _ _ _ idle => exact idle
  | installingKeys current => rcases phase with same | same <;> simp [current] at same
  | complete current => rcases phase with same | same <;> simp [current] at same
  | failed _ cleared => exact cleared.pendingTicket

theorem Handshake.of_failed (holds : Handshake crypto supplicant)
    (phase : supplicant.phase = .failed) : Cleared supplicant := by
  cases holds with
  | failed _ cleared => exact cleared
  | awaitingMessage1 current => exact absurd (current.symm.trans phase) (by decide)
  | awaitingMessage3 current => exact absurd (current.symm.trans phase) (by decide)
  | installingKeys current => exact absurd (current.symm.trans phase) (by decide)
  | complete current => exact absurd (current.symm.trans phase) (by decide)

theorem awaitsMessage_active (phase : supplicant.awaitsMessage) : supplicant.phase ≠ .failed := by
  rcases phase with same | same <;> simp [same]

/-- Before the first installation no counter is completed. -/
theorem Handshake.not_completed (holds : Handshake crypto supplicant)
    (phase : supplicant.awaitsMessage) : supplicant.completedReplay = none := by
  cases holds with
  | awaitingMessage1 _ _ _ _ completed => exact completed
  | awaitingMessage3 _ _ _ completed => exact completed
  | installingKeys current => rcases phase with same | same <;> simp [current] at same
  | complete current => rcases phase with same | same <;> simp [current] at same
  | failed _ cleared => exact cleared.completedReplay

theorem handshake_frame (holds : Handshake crypto supplicant)
    (effect : FrameEffect crypto supplicant frame action after) : Handshake crypto after := by
  cases effect with
  | waiting => exact holds
  | message2 idle kind nonzero phase first =>
      obtain ⟨_, own, completed, group, _, quiet⟩ := holds.unlearned phase first
      exact .awaitingMessage3 rfl ⟨rfl, nonzero, own⟩ rfl completed group idle quiet
  | message2Again => exact holds
  | message3 idle kind phase keys nonce previous newer =>
      obtain ⟨keyed, group, _⟩ := holds.learned phase
      exact .installingKeys rfl ⟨keyed.derived, keyed.authenticator, keyed.own⟩ previous group rfl
        newer rfl
  | message4Again => exact holds
  | groupMessage1 idle kind phase keys newer =>
      obtain ⟨keyed, first, last, message1, completed, order, group, _⟩ := holds.completed phase
      rw [completed, Option.getD_some] at newer
      exact .complete phase ⟨keyed.derived, keyed.authenticator, keyed.own⟩ message1 completed order
        group (.inr ⟨_, _, rfl, newer⟩)
  | groupMessage2Again => exact holds

/-- A completed pairwise installation ends the first handshake; a completed group
installation raises the last counter. -/
theorem handshake_installed (holds : Handshake crypto supplicant) {ticket : UInt32}
    {replay : UInt64} {group : Bool} (digest : Octets 32)
    (pending : supplicant.pendingTicket = some (ticket, replay, group)) :
    Handshake crypto (supplicant.installed replay group digest) := by
  cases holds with
  | awaitingMessage1 _ _ _ _ _ _ idle => exact absurd (idle.symm.trans pending) (by simp)
  | awaitingMessage3 _ _ _ _ _ idle => exact absurd (idle.symm.trans pending) (by simp)
  | failed _ cleared => exact absurd (cleared.pendingTicket.symm.trans pending) (by simp)
  | installingKeys _ keyed first noGroup waits newer =>
      rw [waits] at pending
      obtain ⟨_, rfl, rfl⟩ : _ ∧ _ ∧ _ := by simpa using pending
      refine .complete rfl ⟨keyed.derived, keyed.authenticator, keyed.own⟩ first rfl newer ?_ (.inl rfl)
      intro counter last
      exact absurd (noGroup.symm.trans last) (by simp)
  | complete _ keyed first last newer _ waits =>
      rcases waits with idle | ⟨_, next, waits, order⟩
      · exact absurd (idle.symm.trans pending) (by simp)
      · rw [waits] at pending
        obtain ⟨_, rfl, rfl⟩ : _ ∧ _ ∧ _ := by simpa using pending
        refine .complete rfl ⟨keyed.derived, keyed.authenticator, keyed.own⟩ first rfl
          (UInt64.lt_trans newer order) ?_ (.inl rfl)
        intro counter same
        exact (Option.some.inj same).symm

theorem handshake_completion {α : Type} {value : α} {result : Except Wpa2Error α} {ticket : UInt32}
    {replay : UInt64} {group : Bool} (holds : Handshake crypto supplicant)
    (outcome : CompletionOutcome supplicant ticket replay group value result after) :
    Handshake crypto after := by
  cases outcome with
  | failed failure => exact handshake_failed supplicant
  | installed pending frame => exact handshake_installed holds _ pending

theorem handshake_step (holds : Handshake crypto supplicant) (operation : SupplicantOperation) :
    Handshake crypto (step crypto supplicant operation) := by
  cases operation with
  | onEapol peer bytes =>
      have outcome := (onEapol_handled crypto supplicant peer bytes).ends
      rw [step]
      generalize stateAfter (onEapol crypto peer bytes) supplicant = after at outcome ⊢
      generalize resultOf (onEapol crypto peer bytes) supplicant = result at outcome
      cases outcome with
      | refused => exact holds
      | failed => exact handshake_failed supplicant
      | accepted effect =>
          obtain ⟨_, frame, _, effect⟩ := effect
          exact handshake_frame holds effect
  | completeKeyInstall request installed =>
      exact handshake_completion holds (completeKeyInstall_outcome supplicant request installed).ends
  | completeGroupKeyInstall request installed =>
      exact handshake_completion holds
        (completeGroupKeyInstall_outcome supplicant request installed).ends
  | restartPairwise supplicantNonce =>
      have spec := (restartPairwise_spec supplicant supplicantNonce).ends
      rw [step]
      cases result : resultOf (restartPairwise supplicantNonce) supplicant with
      | error failure =>
          rw [result] at spec
          rw [spec]
          exact holds
      | ok value =>
          rw [result] at spec
          rw [spec.2.2]
          exact handshake_restarted supplicant spec.1

theorem handshake_reachable {first : Wpa2Supplicant} (holds : Handshake crypto first)
    (reachable : Reachable (step crypto) first supplicant) : Handshake crypto supplicant :=
  reachable.invariant holds fun _ operation holds => handshake_step holds operation

/-- What each phase says about the other fields, in every reachable supplicant. -/
theorem phase_determines_fields {localAddress peer : Octets 6} {supplicantNonce : Octets 32}
    {pmk : Pmk} {rsnIe : Bytes} {first : Wpa2Supplicant}
    (created : new localAddress peer supplicantNonce pmk rsnIe = .ok first)
    (reachable : Reachable (step crypto) first supplicant) :
    (supplicant.phase = .awaitingMessage1 →
      supplicant.ptk = none ∧ supplicant.message1Replay = none ∧
        supplicant.completedReplay = none ∧ supplicant.lastGroupReplay = none ∧
        supplicant.pendingTicket = none ∧ isZeroNonce supplicant.supplicantNonce = false) ∧
    (supplicant.phase = .awaitingMessage3 →
      supplicant.ptk = some (supplicant.sessionPtk crypto) ∧
        isZeroNonce supplicant.authenticatorNonce = false ∧
        isZeroNonce supplicant.supplicantNonce = false ∧
        (∃ first, supplicant.message1Replay = some first) ∧
        supplicant.pendingTicket = none ∧ supplicant.pendingFrameDigest = none) ∧
    (supplicant.phase = .installingKeys →
      ∃ ticket replay first digest, supplicant.pendingTicket = some (ticket, replay, false) ∧
        supplicant.message1Replay = some first ∧ first < replay ∧
        supplicant.pendingFrameDigest = some digest) ∧
    (supplicant.phase = .complete →
      (∃ ptk, supplicant.ptk = some ptk) ∧
        ∃ first last, supplicant.message1Replay = some first ∧
          supplicant.completedReplay = some last ∧ first < last ∧
          ∀ ticket replay group, supplicant.pendingTicket = some (ticket, replay, group) →
            group = true ∧ last < replay) ∧
    (supplicant.phase = .failed → Cleared supplicant) := by
  have holds := handshake_reachable (new_created created).handshake reachable
  cases holds with
  | awaitingMessage1 phase own ptk first completed group idle _ =>
      simp only [phase, reduceCtorEq, false_implies, and_true, true_implies]
      exact ⟨ptk, first, completed, group, idle, own⟩
  | awaitingMessage3 phase keyed first _ _ idle quiet =>
      simp only [phase, reduceCtorEq, false_implies, and_true, true_and, true_implies]
      exact ⟨keyed.derived, keyed.authenticator, keyed.own, ⟨_, first⟩, idle, quiet⟩
  | installingKeys phase _ first _ pending newer frame =>
      simp only [phase, reduceCtorEq, false_implies, and_true, true_and, true_implies]
      exact ⟨_, _, _, _, pending, first, newer, frame⟩
  | complete phase keyed first last newer _ pending =>
      simp only [phase, reduceCtorEq, false_implies, and_true, true_and, true_implies]
      refine ⟨⟨_, keyed.derived⟩, _, _, first, last, newer, ?_⟩
      intro ticket replay group waits
      rcases pending with idle | ⟨_, next, pending, order⟩
      · exact absurd (idle.symm.trans waits) (by simp)
      · rw [pending] at waits
        obtain ⟨_, rfl, rfl⟩ : _ ∧ _ ∧ _ := by simpa using waits
        exact ⟨rfl, order⟩
  | failed phase cleared =>
      simp only [phase, reduceCtorEq, false_implies, true_and, true_implies]
      exact cleared

theorem phase_determines_fields_sample :
    let learned := step sampleCrypto sampleSupplicant (.onEapol samplePeer sampleMessage1)
    learned.phase = .awaitingMessage3 ∧
      learned.ptk = some (learned.sessionPtk sampleCrypto) ∧ learned.pendingTicket = none := by
  intro learned
  have phase : learned.phase = .awaitingMessage3 := by decide +kernel
  have reached : Reachable (step sampleCrypto) sampleSupplicant learned :=
    (Reachable.refl (step sampleCrypto) sampleSupplicant).step _
  have fields := phase_determines_fields sampleSupplicant_new reached
  obtain ⟨ptk, _, _, _, idle, _⟩ := fields.2.1 phase
  exact ⟨phase, ptk, idle⟩

end Phases

end Wpa2Supplicant

end Nrf7002
