import Nrf7002.Control

/-! # WPA2 keys

The pairwise master key, the pairwise transient key derived from it, and the two key
installation requests.  The hash, the MAC and the block cipher come from other crates
and are parameters. -/

set_option autoImplicit false

namespace Nrf7002
open Foundation

section Limits

def maxEapolFrameLen : Nat := 512
def maxRsnIeLen : Nat := 256
def maxKeyDataLen : Nat := maxEapolFrameLen - 99
def wpa2PassphraseMinLen : Nat := 8
def wpa2PassphraseMaxLen : Nat := 63
def wpa2Pbkdf2Iterations : Nat := 4096
def ccmpReceiveSequenceLen : Nat := 6
def wpa2PtkLen : Nat := 48

def nrfWifiKeyDefault : UInt16 := 1
def nrfWifiKeyDefaultTypeMulticast : UInt16 := 16

end Limits

inductive Wpa2Error where
  | invalidPassphraseLength
  | invalidSsidLength
  | invalidRsnInformationElement
  | unsupportedRsnCapabilities
  | invalidSupplicantNonce
  | frameTooShort
  | frameTooLarge
  | lengthMismatch
  | notEapolKey
  | unsupportedProtocolVersion (version : UInt8)
  | unsupportedDescriptor
  | unsupportedDescriptorVersion (version : UInt8)
  | invalidPairwiseKeyLength (length : UInt16)
  | unsupportedMessage
  | wrongPeer
  | invalidPhase
  | staleReplayCounter
  | conflictingRetransmission
  | newPairwiseHandshakeRequiresNonce
  | invalidAuthenticatorNonce
  | invalidMic
  | missingEncryptedKeyData
  | invalidEncryptedKeyData
  | keyUnwrapIntegrity
  | missingGroupKey
  | unsupportedGroupKeyLength
  | busy
  | staleCompletion
  | installFailed
  | outputTooSmall
  deriving DecidableEq, Repr

/-- The functions of the cryptographic crates: a key and a message for the MAC, a key
and a block for the cipher, and passphrase, SSID and iterations for the PSK. -/
structure Wpa2Crypto where
  hmacSha1 : Bytes → Bytes → Octets 20
  sha256 : Bytes → Octets 32
  encryptBlock : Octets 16 → Octets 16 → Octets 16
  decryptBlock : Octets 16 → Octets 16 → Octets 16
  pbkdf2HmacSha1 : Bytes → Bytes → Nat → Octets 32

/-- AES decryption under a key inverts encryption under it. -/
def Wpa2Crypto.Inverse (crypto : Wpa2Crypto) : Prop :=
  ∀ key block, crypto.decryptBlock key (crypto.encryptBlock key block) = block

structure Pmk where
  bytes : Octets 32
  deriving DecidableEq

structure Ptk where
  bytes : Octets wpa2PtkLen
  deriving DecidableEq

def Ptk.kck (ptk : Ptk) : Octets 16 := octetsAt ptk.bytes.1 0 16
def Ptk.kek (ptk : Ptk) : Octets 16 := octetsAt ptk.bytes.1 16 16
def Ptk.temporalKey (ptk : Ptk) : Octets 16 := octetsAt ptk.bytes.1 32 16

theorem Ptk.temporalKey_eq (ptk : Ptk) : ptk.temporalKey.1 = slice ptk.bytes.1 32 48 :=
  octetsAt_eq_slice (Nat.le_of_eq ptk.bytes.2.symm)

/-! ## Derivation -/

section Derivation

/-- The lexicographically smaller of two arrays first. -/
def ordered {n : Nat} (left right : Octets n) : Octets n × Octets n :=
  if left.1 ≤ right.1 then (left, right) else (right, left)

theorem ordered_comm {n : Nat} (left right : Octets n) : ordered left right = ordered right left := by
  unfold ordered
  by_cases before : left.1 ≤ right.1
  · by_cases after : right.1 ≤ left.1
    · have same : left = right := Subtype.ext (List.le_antisymm before after)
      rw [same]
    · rw [if_pos before, if_neg after]
  · have after : right.1 ≤ left.1 := (List.le_total left.1 right.1).resolve_left before
    rw [if_neg before, if_pos after]

def wpa2PrfLabel : Bytes :=
  [0x50, 0x61, 0x69, 0x72, 0x77, 0x69, 0x73, 0x65, 0x20, 0x6b, 0x65, 0x79, 0x20, 0x65, 0x78,
    0x70, 0x61, 0x6e, 0x73, 0x69, 0x6f, 0x6e]

variable (crypto : Wpa2Crypto)

namespace Pmk

/-- Derives a WPA2 PSK from a passphrase and SSID. -/
def derive (passphrase ssid : Bytes) : Except Wpa2Error Pmk :=
  if ¬ (wpa2PassphraseMinLen ≤ passphrase.length ∧ passphrase.length ≤ wpa2PassphraseMaxLen) then
    .error .invalidPassphraseLength
  else if ssid.isEmpty ∨ 32 < ssid.length then .error .invalidSsidLength
  else .ok { bytes := crypto.pbkdf2HmacSha1 passphrase ssid wpa2Pbkdf2Iterations }

/-- The blocks of the expansion, until `remaining` bytes are written.  Every block
writes at least one byte, so `remaining` blocks are enough. -/
def expand (pmk : Pmk) (context : Bytes) : Nat → UInt8 → Nat → Bytes
  | 0, _, _ => []
  | blocks + 1, counter, remaining =>
      if remaining = 0 then []
      else
        let block := crypto.hmacSha1 pmk.bytes.1 (wpa2PrfLabel ++ [0] ++ context ++ [counter])
        let count := min block.1.length remaining
        block.1.take count ++ expand pmk context blocks (counter + 1) (remaining - count)

theorem length_expand (pmk : Pmk) (context : Bytes) (blocks : Nat) (counter : UInt8)
    (remaining : Nat) (enough : remaining ≤ blocks) :
    (expand crypto pmk context blocks counter remaining).length = remaining := by
  induction blocks generalizing counter remaining with
  | zero =>
      have none_left : remaining = 0 := by omega
      rw [expand, none_left, List.length_nil]
  | succ blocks hypothesis =>
      rw [expand]
      by_cases none_left : remaining = 0
      · rw [if_pos none_left, none_left, List.length_nil]
      · rw [if_neg none_left]
        simp only [(crypto.hmacSha1 _ _).2]
        rw [List.length_append, hypothesis _ _ (by omega), List.length_take,
          (crypto.hmacSha1 _ _).2]
        omega

def fromContext (pmk : Pmk) (context : Bytes) : Ptk :=
  { bytes :=
      ⟨expand crypto pmk context wpa2PtkLen 0 wpa2PtkLen,
        length_expand crypto pmk context wpa2PtkLen 0 wpa2PtkLen (Nat.le_refl _)⟩ }

def derivePtk (pmk : Pmk) (authenticatorAddress supplicantAddress : Octets 6)
    (authenticatorNonce supplicantNonce : Octets 32) : Ptk :=
  let addresses := ordered authenticatorAddress supplicantAddress
  let nonces := ordered authenticatorNonce supplicantNonce
  fromContext crypto pmk (addresses.1.1 ++ addresses.2.1 ++ nonces.1.1 ++ nonces.2.1)

/-- Both sides derive the same key, each naming itself where it likes. -/
theorem derivePtk_comm (pmk : Pmk) (left right : Octets 6) (leftNonce rightNonce : Octets 32) :
    derivePtk crypto pmk left right leftNonce rightNonce =
      derivePtk crypto pmk right left rightNonce leftNonce := by
  unfold derivePtk
  rw [ordered_comm left right, ordered_comm leftNonce rightNonce]

end Pmk

end Derivation

/-! ## Key installation -/

section Install

/-- One complete EAPOL-Key response. -/
structure EapolTxFrame where
  peer : Octets 6
  bytes : Bytes
  deriving DecidableEq

/-- Pairwise CCMP key prepared for firmware installation. -/
structure PairwiseKeyInstall where
  peer : Octets 6
  key : Octets 16
  deriving DecidableEq

def PairwiseKeyInstall.keyConfig (install : PairwiseKeyInstall) : KeyConfig :=
  { cipherSuite := rsnCipherCcmp128
    keyType := .pairwise
    keyIndex := 0
    key := install.key.1
    sequence := []
    flags := 0 }

/-- Group CCMP key prepared for firmware installation. -/
structure GroupKeyInstall where
  keyIndex : UInt8
  key : Bytes
  receiveSequence : Octets 8
  deriving DecidableEq

namespace GroupKeyInstall

def keyConfig (install : GroupKeyInstall) : KeyConfig :=
  { cipherSuite := rsnCipherCcmp128
    keyType := .group
    keyIndex := install.keyIndex
    key := install.key
    sequence := install.receiveSequence.1.take ccmpReceiveSequenceLen
    flags := nrfWifiKeyDefaultTypeMulticast }

def defaultKeyConfig (install : GroupKeyInstall) : KeyConfig :=
  { cipherSuite := 0
    keyType := .group
    keyIndex := install.keyIndex
    key := []
    sequence := []
    flags := nrfWifiKeyDefault ||| nrfWifiKeyDefaultTypeMulticast }

end GroupKeyInstall

/-- Transaction produced by pairwise Message 3. -/
structure Wpa2KeyInstallRequest where
  ticket : UInt32
  replayCounter : UInt64
  pairwise : PairwiseKeyInstall
  group : GroupKeyInstall
  response : EapolTxFrame
  deriving DecidableEq

/-- Transaction produced by a connected-state group-key Message 1. -/
structure Wpa2GroupKeyInstallRequest where
  ticket : UInt32
  replayCounter : UInt64
  group : GroupKeyInstall
  response : EapolTxFrame
  deriving DecidableEq

inductive Wpa2Action where
  | none
  | transmit (frame : EapolTxFrame)
  | installKeys (request : Wpa2KeyInstallRequest)
  | installGroupKey (request : Wpa2GroupKeyInstallRequest)
  deriving DecidableEq

end Install

end Nrf7002
