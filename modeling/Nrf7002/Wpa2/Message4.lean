import Nrf7002.Wpa2.Response
import Nrf7002.Wpa2.Supplicant

/-! # The answer that comes with the pairwise keys

A request for the pairwise keys holds the response that is sent once they are installed.
The supplicant builds it before it returns the request, and it parses as Message 4. -/

set_option autoImplicit false

namespace Nrf7002
open Foundation

/-- The bytes are one EAPOL-Key frame of the category. -/
def EapolKeyMessage.IsIn (message : EapolKeyMessage) (bytes : Bytes) : Prop :=
  ∃ frame, EapolKeyFrame.parse bytes = .ok frame ∧ frame.message = message

theorem buildMessage4_isIn (crypto : Wpa2Crypto) {peer : Octets 6} {protocolVersion : UInt8}
    (version : protocolVersion = 1 ∨ protocolVersion = 2) {keyLength : UInt16}
    {replayCounter : UInt64} {ptk : Ptk} {response : EapolTxFrame}
    (built : buildMessage4 crypto peer protocolVersion keyLength replayCounter ptk = .ok response) :
    EapolKeyMessage.pairwiseMessage4.IsIn response.bytes := by
  have empty : ([] : Bytes).length ≤ maxKeyDataLen := by decide
  obtain ⟨other, frame, same, _, parsed, _, kind, _⟩ := (buildResponse_readsBack crypto peer version
    (keyDescriptorVersionHmacSha1Aes ||| keyInfoPairwise ||| keyInfoMic ||| keyInfoSecure) keyLength
    replayCounter (zeroOctets 32) empty ptk).read
  obtain rfl : response = other := Except.ok.inj (built.symm.trans same)
  have classified : EapolKeyInfo.classify ⟨keyDescriptorVersionHmacSha1Aes ||| keyInfoPairwise |||
    keyInfoMic ||| keyInfoSecure⟩ = .pairwiseMessage4 := by decide
  exact ⟨frame, parsed, kind.trans classified⟩

namespace Wpa2Supplicant
variable (crypto : Wpa2Crypto)

/-- A request for the pairwise keys answers with a Message 4. -/
def AnswersKeys : Wpa2Action → Prop
  | .installKeys request => EapolKeyMessage.pairwiseMessage4.IsIn request.response.bytes
  | _ => True

theorem yields_fail {α : Type} (P : α → Prop) (failure : Wpa2Error) :
    Yields P (fail failure : Supplicant α) := by
  intro supplicant
  rw [post_iff]
  intro value same
  cases same

theorem message2Action_yields (frame : EapolKeyFrame) :
    Yields AnswersKeys (message2Action crypto frame) :=
  yields_bind fun _ => yields_bind fun _ => yields_bind fun _ => yields_pure trivial

theorem onMessage1_yields (frame : EapolKeyFrame) : Yields AnswersKeys (onMessage1 crypto frame) := by
  have repeated (previous : UInt64) (nonce digest : Octets 32) :
      Yields AnswersKeys (handleRepeatedMessage1 crypto frame previous nonce digest) :=
    yields_bind fun _ => yields_ite (fun _ => yields_fail _ _) fun _ =>
      yields_ite (fun _ => yields_throw _ _) fun _ =>
        yields_ite (fun _ => yields_fail _ _) fun _ => message2Action_yields crypto frame
  have completed (replay : UInt64) (nonce : Octets 32) :
      Yields AnswersKeys (handleMessage1AfterCompletion replay nonce) :=
    yields_bind fun _ => yields_ite (fun _ => yields_fail _ _) fun _ => yields_throw _ _
  apply yields_bind
  intro supplicant
  refine yields_ite (fun _ => yields_fail _ _) fun _ => ?_
  refine yields_ite (fun _ => yields_fail _ _) fun _ => ?_
  refine yields_ite (fun _ => completed _ _) fun _ => ?_
  refine yields_ite (fun _ => yields_fail _ _) fun _ => ?_
  cases supplicant.message1Replay with
  | some previous => exact repeated previous _ _
  | none => exact yields_bind fun _ => message2Action_yields crypto frame

/-- The response is built from the version of a frame that was parsed. -/
theorem onMessage3_yields {frame : EapolKeyFrame}
    (version : frame.protocolVersion = 1 ∨ frame.protocolVersion = 2) :
    Yields AnswersKeys (onMessage3 crypto frame) := by
  apply yields_bind
  intro ptk
  apply yields_bind
  intro supplicant
  apply yields_bind
  intro _
  apply yields_ite
  · intro _
    exact yields_bind fun _ => yields_ite (fun _ => yields_fail _ _) fun _ =>
      yields_ite (fun _ => yields_fail _ _) fun _ => yields_bind fun _ => yields_bind fun _ =>
        yields_pure trivial
  · intro _
    apply yields_bind
    intro _
    apply yields_bind
    intro group
    refine Yields.bind (yields_liftResult fun response built => built) fun response built => ?_
    apply yields_bind
    intro ticket
    apply yields_bind
    intro _
    exact yields_pure (buildMessage4_isIn crypto version built)

theorem onGroupMessage1_yields (frame : EapolKeyFrame) :
    Yields AnswersKeys (onGroupMessage1 crypto frame) := by
  have repeated (digest : Octets 32) :
      Yields AnswersKeys (handleRepeatedGroupMessage1 crypto frame digest) :=
    yields_bind fun _ => yields_bind fun _ => yields_ite (fun _ => yields_fail _ _) fun _ =>
      yields_ite (fun _ => yields_fail _ _) fun _ => yields_bind fun _ => yields_pure trivial
  apply yields_bind
  intro supplicant
  refine yields_ite (fun _ => yields_fail _ _) fun _ => ?_
  refine yields_ite (fun _ => repeated _) fun _ => ?_
  exact yields_bind fun _ => yields_bind fun _ => yields_bind fun _ => yields_bind fun _ =>
    yields_bind fun _ => yields_pure trivial

theorem dispatchMessage_yields {frame : EapolKeyFrame}
    (version : frame.protocolVersion = 1 ∨ frame.protocolVersion = 2) (message : EapolKeyMessage) :
    Yields AnswersKeys (dispatchMessage crypto frame message) := by
  cases message with
  | pairwiseMessage1 => exact onMessage1_yields crypto frame
  | pairwiseMessage3 => exact onMessage3_yields crypto version
  | groupMessage1 => exact onGroupMessage1_yields crypto frame
  | pairwiseMessage2 => exact yields_fail _ _
  | pairwiseMessage4 => exact yields_fail _ _
  | groupMessage2 => exact yields_fail _ _
  | other => exact yields_fail _ _

/-- Whatever payload asks for the pairwise keys, Message 4 answers it. -/
theorem onEapol_yields (peer : Octets 6) (bytes : Bytes) :
    Yields AnswersKeys (onEapol crypto peer bytes) := by
  have pending (frame : EapolKeyFrame) (message : EapolKeyMessage) :
      Yields (fun action => ∀ ended, action = some ended → AnswersKeys ended)
        (handlePendingFrame crypto frame message) := by
    apply yields_bind
    intro supplicant
    cases supplicant.pendingTicket with
    | none => exact yields_pure fun _ same => by cases same
    | some ticket =>
        refine yields_ite (fun _ => yields_throw _ _) fun _ => ?_
        refine yields_ite (fun _ => yields_pure ?_) fun _ => yields_fail _ _
        rintro _ ⟨⟩
        trivial
  apply yields_bind
  intro supplicant
  refine yields_ite (fun _ => yields_fail _ _) fun _ => ?_
  refine Yields.bind (yields_liftResult fun frame parsed => parsed) fun frame parsed => ?_
  apply yields_bind
  intro message
  refine (pending frame message).bind fun action answered => ?_
  cases action with
  | some ended => exact yields_pure (answered ended rfl)
  | none =>
      obtain ⟨accepted, same⟩ := parse_iff.mp parsed
      have version : frame.protocolVersion = 1 ∨ frame.protocolVersion = 2 := by
        rw [same]
        exact accepted.version
      exact dispatchMessage_yields crypto version message

end Wpa2Supplicant

end Nrf7002
