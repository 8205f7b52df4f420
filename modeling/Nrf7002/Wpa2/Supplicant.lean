import Nrf7002.Wpa2.KeyData
import Nrf7002.Wpa2.Rsn

/-! # The WPA2-Personal supplicant

The four-way handshake and the group key handshake, one EAPOL-Key payload at a time.
An error either leaves the supplicant alone or goes through `fail`, which clears the
handshake. -/

set_option autoImplicit false

namespace Nrf7002
open Foundation

inductive Wpa2Phase where
  | awaitingMessage1
  | awaitingMessage3
  | installingKeys
  | complete
  | failed
  deriving DecidableEq, Repr

/-- An information element that the supplicant accepts. -/
structure RsnIe where
  bytes : Bytes
  accepted : validateRsnIe bytes = .ok ()

def RsnIe.ofBytes (bytes : Bytes) : Except Wpa2Error RsnIe :=
  match accepted : validateRsnIe bytes with
  | .ok () => .ok ⟨bytes, accepted⟩
  | .error failure => .error failure

structure Wpa2Supplicant where
  localAddress : Octets 6
  peer : Octets 6
  phase : Wpa2Phase
  pmk : Pmk
  ptk : Option Ptk
  supplicantNonce : Octets 32
  authenticatorNonce : Octets 32
  rsnIe : RsnIe
  message1Replay : Option UInt64
  message1Digest : Option (Octets 32)
  completedReplay : Option UInt64
  completedMessage3Digest : Option (Octets 32)
  lastGroupReplay : Option UInt64
  lastGroupMessage1Digest : Option (Octets 32)
  pendingTicket : Option (UInt32 × UInt64 × Bool)
  pendingFrameDigest : Option (Octets 32)
  nextTicket : UInt32

abbrev Supplicant (α : Type) := Program Wpa2Supplicant Wpa2Error α

def isZeroNonce (nonce : Octets 32) : Bool := nonce.1.all (· = 0)

def validateSupplicantNonce (nonce : Octets 32) : Except Wpa2Error Unit :=
  if isZeroNonce nonce then .error .invalidSupplicantNonce else .ok ()

def pendingMessage (group : Bool) : EapolKeyMessage :=
  if group then .groupMessage1 else .pairwiseMessage3

def isPairwiseHandshakeMessage : EapolKeyMessage → Bool
  | .pairwiseMessage1 | .pairwiseMessage3 => true
  | _ => false

namespace Wpa2Supplicant

/-- Creates one handshake. -/
def new (localAddress peer : Octets 6) (supplicantNonce : Octets 32) (pmk : Pmk) (rsnIe : Bytes) :
    Except Wpa2Error Wpa2Supplicant := do
  validateSupplicantNonce supplicantNonce
  let rsnIe ← RsnIe.ofBytes rsnIe
  return {
    localAddress, peer
    phase := .awaitingMessage1
    pmk
    ptk := none
    supplicantNonce
    authenticatorNonce := zeroOctets 32
    rsnIe
    message1Replay := none
    message1Digest := none
    completedReplay := none
    completedMessage3Digest := none
    lastGroupReplay := none
    lastGroupMessage1Digest := none
    pendingTicket := none
    pendingFrameDigest := none
    nextTicket := 1 }

@[simps] def clearTransientState (supplicant : Wpa2Supplicant) : Wpa2Supplicant :=
  { supplicant with
    ptk := none
    supplicantNonce := zeroOctets 32
    authenticatorNonce := zeroOctets 32
    message1Replay := none
    message1Digest := none
    completedReplay := none
    completedMessage3Digest := none
    lastGroupReplay := none
    lastGroupMessage1Digest := none
    pendingTicket := none
    pendingFrameDigest := none }

/-- The supplicant after `fail`. -/
def failed (supplicant : Wpa2Supplicant) : Wpa2Supplicant :=
  { supplicant.clearTransientState with phase := .failed }

def fail {α : Type} (error : Wpa2Error) : Supplicant α := do
  modify failed
  throw error

/-- The macro `fail_on_wpa2_error`. -/
def failOnError {α : Type} : Except Wpa2Error α → Supplicant α
  | .ok value => pure value
  | .error failure => fail failure

def requirePtk : Supplicant Ptk := do
  match (← get).ptk with
  | some ptk => pure ptk
  | none => throw .invalidPhase

/-- Starts a new pairwise handshake with a fresh nonce. -/
def restartPairwise (supplicantNonce : Octets 32) : Supplicant Unit := do
  liftResult (validateSupplicantNonce supplicantNonce)
  if (← get).pendingTicket.isSome then throw .busy
  else
    modify fun supplicant =>
      { supplicant.clearTransientState with supplicantNonce, phase := .awaitingMessage1 }

/-! ## Received frames -/

section Frames
variable (crypto : Wpa2Crypto)

def validateFrame (frame : EapolKeyFrame) : Supplicant EapolKeyMessage := do
  if frame.keyInfo.descriptorVersion ≠ keyDescriptorVersionHmacSha1Aes.toUInt8 then
    fail (.unsupportedDescriptorVersion frame.keyInfo.descriptorVersion)
  else if isPairwiseHandshakeMessage frame.message ∧ frame.keyLength ≠ 16 then
    fail (.invalidPairwiseKeyLength frame.keyLength)
  else pure frame.message

/-- An action ends the call; `none` goes on to the dispatch. -/
def handlePendingFrame (frame : EapolKeyFrame) (message : EapolKeyMessage) :
    Supplicant (Option Wpa2Action) := do
  let supplicant ← get
  match supplicant.pendingTicket with
  | none => pure none
  | some (_, replay, group) =>
      if frame.replayCounter ≠ replay then throw .busy
      else if message = pendingMessage group
          ∧ supplicant.pendingFrameDigest = some (frame.digest crypto) then
        pure (some .none)
      else fail .conflictingRetransmission

def message2Action (frame : EapolKeyFrame) : Supplicant Wpa2Action := do
  let ptk ← requirePtk
  let supplicant ← get
  let response ← liftResult (buildMessage2 crypto supplicant.peer frame.protocolVersion
    frame.keyLength frame.replayCounter supplicant.supplicantNonce supplicant.rsnIe.bytes ptk)
  pure (.transmit response)

def handleMessage1AfterCompletion (replay : UInt64) (nonce : Octets 32) :
    Supplicant Wpa2Action := do
  let supplicant ← get
  if supplicant.completedReplay = some replay ∧ supplicant.authenticatorNonce = nonce then
    fail .conflictingRetransmission
  else throw .newPairwiseHandshakeRequiresNonce

def handleRepeatedMessage1 (frame : EapolKeyFrame) (previous : UInt64) (nonce digest : Octets 32) :
    Supplicant Wpa2Action := do
  let supplicant ← get
  if frame.replayCounter < previous then fail .staleReplayCounter
  else if previous < frame.replayCounter then throw .newPairwiseHandshakeRequiresNonce
  else if supplicant.authenticatorNonce ≠ nonce ∨ supplicant.message1Digest ≠ some digest then
    fail .conflictingRetransmission
  else message2Action crypto frame

/-- The supplicant that took the nonce and the counter of a Message 1. -/
def learned (supplicant : Wpa2Supplicant) (frame : EapolKeyFrame) : Wpa2Supplicant :=
  { supplicant with
    authenticatorNonce := frame.nonce
    message1Replay := some frame.replayCounter
    message1Digest := some (frame.digest crypto)
    ptk := some (supplicant.pmk.derivePtk crypto supplicant.peer supplicant.localAddress
      frame.nonce supplicant.supplicantNonce)
    phase := .awaitingMessage3 }

def beginMessage1 (frame : EapolKeyFrame) : Supplicant Wpa2Action := do
  modify fun supplicant => supplicant.learned crypto frame
  message2Action crypto frame

def onMessage1 (frame : EapolKeyFrame) : Supplicant Wpa2Action := do
  let supplicant ← get
  if frame.keyData ≠ [] then fail .unsupportedMessage
  else if isZeroNonce frame.nonce then fail .invalidAuthenticatorNonce
  else if supplicant.phase = .complete then
    handleMessage1AfterCompletion frame.replayCounter frame.nonce
  else if ¬ (supplicant.phase = .awaitingMessage1 ∨ supplicant.phase = .awaitingMessage3) then
    fail .invalidPhase
  else
    match supplicant.message1Replay with
    | some previous =>
        handleRepeatedMessage1 crypto frame previous frame.nonce (frame.digest crypto)
    | none => beginMessage1 crypto frame

def validateMessage3Authenticator (frame : EapolKeyFrame) (ptk : Ptk)
    (authenticatorNonce : Octets 32) : Except Wpa2Error Unit :=
  if frame.nonce ≠ authenticatorNonce then .error .invalidAuthenticatorNonce
  else if frame.verifyMic crypto ptk = false then .error .invalidMic
  else .ok ()

def requireEncryptedKeyData (frame : EapolKeyFrame) : Except Wpa2Error Unit :=
  if frame.keyInfo.encryptedKeyData = true ∧ frame.keyData ≠ [] then .ok ()
  else .error .missingEncryptedKeyData

/-- The key data of a frame, unwrapped into a cleared buffer. -/
def unwrapKeyData (frame : EapolKeyFrame) (ptk : Ptk) : Except Wpa2Error Bytes :=
  let buffer := List.replicate maxKeyDataLen (0 : UInt8)
  let unwrapping := aesKeyUnwrap crypto ptk.kek frame.keyData
  (resultOf unwrapping buffer).map fun plainLen => (stateAfter unwrapping buffer).take plainLen

def groupKeyInstall (frame : EapolKeyFrame) (ptk : Ptk) : Except Wpa2Error GroupKeyInstall := do
  let plain ← unwrapKeyData crypto frame ptk
  let gtk ← parseGtkKde plain
  .ok
    { keyIndex := gtk.keyIndex
      key := gtk.key
      receiveSequence := frame.keyReceiveSequence }

def validateNewMessage3 (supplicant : Wpa2Supplicant) (frame : EapolKeyFrame) :
    Except Wpa2Error Unit :=
  if supplicant.phase ≠ .awaitingMessage3 then .error .invalidPhase
  else
    match supplicant.message1Replay with
    | none => .error .invalidPhase
    | some message1Replay =>
        if frame.replayCounter ≤ message1Replay then .error .staleReplayCounter
        else requireEncryptedKeyData frame

def handleCompletedMessage3 (frame : EapolKeyFrame) (digest : Octets 32) :
    Supplicant Wpa2Action := do
  let supplicant ← get
  if supplicant.completedReplay ≠ some frame.replayCounter then fail .staleReplayCounter
  else if supplicant.completedMessage3Digest ≠ some digest then fail .conflictingRetransmission
  else
    let ptk ← requirePtk
    let response ← liftResult (buildMessage4 crypto supplicant.peer frame.protocolVersion
      frame.keyLength frame.replayCounter ptk)
    pure (.transmit response)

/-- The supplicant that waits for the key installation of a frame. -/
def installing (supplicant : Wpa2Supplicant) (replay : UInt64) (group : Bool)
    (digest : Octets 32) : Wpa2Supplicant :=
  { supplicant with
    nextTicket := max (supplicant.nextTicket + 1) 1
    pendingTicket := some (supplicant.nextTicket, replay, group)
    pendingFrameDigest := some digest }

def startKeyInstall (replay : UInt64) (group : Bool) (digest : Octets 32) :
    Supplicant UInt32 := do
  let supplicant ← get
  set (supplicant.installing replay group digest)
  pure supplicant.nextTicket

def onMessage3 (frame : EapolKeyFrame) : Supplicant Wpa2Action := do
  let ptk ← requirePtk
  let supplicant ← get
  failOnError (validateMessage3Authenticator crypto frame ptk supplicant.authenticatorNonce)
  if supplicant.phase = .complete then handleCompletedMessage3 crypto frame (frame.digest crypto)
  else
    failOnError (supplicant.validateNewMessage3 frame)
    let group ← liftResult (groupKeyInstall crypto frame ptk)
    let pairwise : PairwiseKeyInstall := { peer := supplicant.peer, key := ptk.temporalKey }
    let response ← liftResult (buildMessage4 crypto supplicant.peer frame.protocolVersion
      frame.keyLength frame.replayCounter ptk)
    let ticket ← startKeyInstall frame.replayCounter false (frame.digest crypto)
    modify fun supplicant => { supplicant with phase := .installingKeys }
    pure (.installKeys
      { ticket, replayCounter := frame.replayCounter, pairwise, group, response })

def validateNewGroupMessage1 (supplicant : Wpa2Supplicant) (frame : EapolKeyFrame) :
    Except Wpa2Error Unit :=
  if frame.replayCounter ≤ supplicant.completedReplay.getD 0 then .error .staleReplayCounter
  else
    match supplicant.ptk with
    | none => .error .invalidPhase
    | some ptk =>
        if frame.verifyMic crypto ptk = false then .error .invalidMic
        else requireEncryptedKeyData frame

def handleRepeatedGroupMessage1 (frame : EapolKeyFrame) (digest : Octets 32) :
    Supplicant Wpa2Action := do
  let ptk ← requirePtk
  let supplicant ← get
  if frame.verifyMic crypto ptk = false then fail .invalidMic
  else if supplicant.lastGroupMessage1Digest ≠ some digest then fail .conflictingRetransmission
  else
    let response ← liftResult (buildGroupMessage2 crypto supplicant.peer frame.protocolVersion
      frame.keyLength frame.replayCounter ptk)
    pure (.transmit response)

def onGroupMessage1 (frame : EapolKeyFrame) : Supplicant Wpa2Action := do
  let supplicant ← get
  if supplicant.phase ≠ .complete then fail .invalidPhase
  else if supplicant.lastGroupReplay = some frame.replayCounter then
    handleRepeatedGroupMessage1 crypto frame (frame.digest crypto)
  else
    failOnError (supplicant.validateNewGroupMessage1 crypto frame)
    let ptk ← requirePtk
    let group ← liftResult (groupKeyInstall crypto frame ptk)
    let response ← liftResult (buildGroupMessage2 crypto supplicant.peer frame.protocolVersion
      frame.keyLength frame.replayCounter ptk)
    let ticket ← startKeyInstall frame.replayCounter true (frame.digest crypto)
    pure (.installGroupKey { ticket, replayCounter := frame.replayCounter, group, response })

def dispatchMessage (frame : EapolKeyFrame) : EapolKeyMessage → Supplicant Wpa2Action
  | .pairwiseMessage1 => onMessage1 crypto frame
  | .pairwiseMessage3 => onMessage3 crypto frame
  | .groupMessage1 => onGroupMessage1 crypto frame
  | _ => fail .unsupportedMessage

/-- Processes one complete EAPOL-Key payload from `peer`. -/
def onEapol (peer : Octets 6) (bytes : Bytes) : Supplicant Wpa2Action := do
  if peer ≠ (← get).peer then fail .wrongPeer
  else
    let frame ← liftResult (EapolKeyFrame.parse bytes)
    let message ← validateFrame frame
    match ← handlePendingFrame crypto frame message with
    | some action => pure action
    | none => dispatchMessage crypto frame message

end Frames

/-! ## Completed installations -/

section Completion

/-- The digest of the frame whose keys were installed. -/
def acceptKeyCompletion (ticket : UInt32) (replay : UInt64) (group installed : Bool) :
    Supplicant (Octets 32) := do
  let supplicant ← get
  if supplicant.pendingTicket ≠ some (ticket, replay, group) then fail .staleCompletion
  else
    set { supplicant with pendingFrameDigest := none }
    match supplicant.pendingFrameDigest with
    | none => fail .staleCompletion
    | some digest =>
        modify fun supplicant => { supplicant with pendingTicket := none }
        if installed = false then fail .installFailed else pure digest

/-- Completes the atomic pairwise and group key installation transaction. -/
def completeKeyInstall (request : Wpa2KeyInstallRequest) (installed : Bool) :
    Supplicant EapolTxFrame := do
  let digest ← acceptKeyCompletion request.ticket request.replayCounter false installed
  modify fun supplicant =>
    { supplicant with
      completedReplay := some request.replayCounter
      completedMessage3Digest := some digest
      phase := .complete }
  pure request.response

/-- Completes one connected-state GTK installation transaction. -/
def completeGroupKeyInstall (request : Wpa2GroupKeyInstallRequest) (installed : Bool) :
    Supplicant EapolTxFrame := do
  let digest ← acceptKeyCompletion request.ticket request.replayCounter true installed
  modify fun supplicant =>
    { supplicant with
      completedReplay := some request.replayCounter
      lastGroupReplay := some request.replayCounter
      lastGroupMessage1Digest := some digest
      phase := .complete }
  pure request.response

end Completion

end Wpa2Supplicant

end Nrf7002
