import Nrf7002.Control.Messages
import Nrf7002.Control.Umac

/-! # Lossless station requests

The authentication, association and key encoders accept a request exactly when its
fields are within their limits and the storage holds the whole message.  The message
parses back to its headers, and its body determines the request. -/

set_option autoImplicit false

namespace Nrf7002
open Foundation

/-- The command that the header of an encoded message names. -/
def commandIn (message : Bytes) : Option UmacCommand := do
  let host ← (parseHostMessage message).toOption
  let event ← (parseUmacEvent host).toOption
  UmacCommand.ofNumber event.1.commandEvent

theorem validMask_wdevId (wdevId : UInt64) :
    InterfaceIds.validMask { wdevId := some wdevId } = indexWdevValid := by
  simp [InterfaceIds.validMask, InterfaceIds.wdevValid, indexWdevValid]

namespace StationMessage

/-- The two headers are those of any host message and UMAC command. -/
theorem bytes_umac {message : StationMessage} (limits : message.InLimits) (wdevId : UInt32) :
    message.bytes wdevId =
      umacCommandBytes message.command
        { wdevId := (message.identifier wdevId).map UInt32.toUInt64 } message.body := by
  have total : message.length = hostMessageHeaderLen +
      (umacHeaderBytes message.command
        { wdevId := (message.identifier wdevId).map UInt32.toUInt64 } ++ message.body).length := by
    rw [List.length_append, length_umacHeaderBytes, length_body limits, length, Nat.add_assoc]
  rw [bytes, stationHeaderBytes, umacCommandBytes, hostMessageBytes, ← total]
  simp only [umacHeaderBytes, List.append_assoc]
  cases message.identifier wdevId with
  | none => rfl
  | some identifier =>
      rw [Option.map_some, validMask_wdevId]
      rfl

theorem commandIn_bytes {message : StationMessage} (limits : message.InLimits) (wdevId : UInt32) :
    commandIn (message.bytes wdevId) = some message.command := by
  have small : 48 + message.body.length ≤ 0xffffffff := by
    rw [length_body limits]
    exact Nat.le_trans message.length_le (by decide)
  obtain ⟨host, header, parsed, _, event, named, _⟩ := (readsCommand_bytes message.command
    { wdevId := (message.identifier wdevId).map UInt32.toUInt64 } message.body small []).read
  rw [List.append_nil, ← bytes_umac limits] at parsed
  simp only [commandIn, parsed, event, Except.toOption, Option.bind_eq_bind, Option.bind_some,
    named]

end StationMessage

/-- A request of one of the three encoders. -/
inductive StationRequest where
  | authenticate (request : AuthenticationRequest)
  | associate (request : AssociationRequest)
  | keyCommand (command : UmacCommand) (peer : Option (Octets 6)) (key : KeyConfig)

namespace StationRequest

def message : StationRequest → StationMessage
  | authenticate request => .authenticate request
  | associate request => .associate request
  | keyCommand command peer key => .keyCommand command peer key

def encode (wdevId : UInt32) (request : StationRequest) : Program Bytes ProtocolError Nat :=
  request.message.encode wdevId

/-- The part of a message behind its two headers. -/
def bodyOf (after : Bytes) (len : Nat) : Bytes :=
  slice after (hostMessageHeaderLen + umacHeaderLen) len

theorem identifier_message (request : StationRequest) (wdevId : UInt32) :
    request.message.identifier wdevId = some wdevId := by
  cases request <;> rfl

theorem bytes_message (request : StationRequest) (wdevId : UInt32)
    (limits : request.message.InLimits) :
    request.message.bytes wdevId =
      hostMessageBytes .umac false
        (umacHeaderBytes request.message.command { wdevId := some wdevId.toUInt64 } ++
          request.message.body) := by
  rw [StationMessage.bytes_umac limits, identifier_message]
  rfl

theorem parse_message (request : StationRequest) (wdevId : UInt32) (rest : Bytes)
    (limits : request.message.InLimits) :
    parseHostMessage (request.message.bytes wdevId ++ rest) = .ok
      { resubmit := false
        messageType := .umac
        payload := umacHeaderBytes request.message.command { wdevId := some wdevId.toUInt64 } ++
          request.message.body } := by
  rw [bytes_message request wdevId limits]
  apply parseHostMessage_bytes
  rw [List.length_append, length_umacHeaderBytes, StationMessage.length_body limits,
    ← Nat.add_assoc]
  exact Nat.le_trans (StationMessage.length_le request.message) (by decide)

theorem bodyOf_message (request : StationRequest) (wdevId : UInt32) (rest : Bytes)
    (limits : request.message.InLimits) :
    bodyOf (request.message.bytes wdevId ++ rest) request.message.length =
      request.message.body := by
  rw [bodyOf, StationMessage.bytes, List.append_assoc]
  apply slice_middle
  · rw [length_stationHeaderBytes]
  · rw [length_stationHeaderBytes, StationMessage.length_body limits]
    rfl

/-- Requests of one command with the same body are the same request. -/
theorem body_inj {first second : StationRequest} (left : first.message.InLimits)
    (right : second.message.InLimits) (command : first.message.command = second.message.command)
    (same : first.message.body = second.message.body) : first = second := by
  cases first with
  | authenticate request =>
      cases second with
      | authenticate other =>
          exact congrArg authenticate
            (fixedCode_authentication.determines request other left right same)
      | associate other => cases command
      | keyCommand other peer key => rcases right.1 with rfl | rfl <;> cases command
  | associate request =>
      cases second with
      | authenticate other => cases command
      | associate other =>
          exact congrArg associate
            (fixedCode_association.determines request other left right same)
      | keyCommand other peer key => rcases right.1 with rfl | rfl <;> cases command
  | keyCommand number peer key =>
      cases second with
      | authenticate other => rcases left.1 with rfl | rfl <;> cases command
      | associate other => rcases left.1 with rfl | rfl <;> cases command
      | keyCommand other station material =>
          have parts := fixedCode_keyCommand.determines (peer, key) (station, material)
            left.2 right.2 same
          cases command
          cases parts
          rfl

/-- The numbers of the commands that the three encoders send differ. -/
theorem command_inj {first second : StationRequest} (left : first.message.InLimits)
    (right : second.message.InLimits)
    (same : first.message.command.number = second.message.command.number) :
    first.message.command = second.message.command := by
  have few (request : StationRequest) (limits : request.message.InLimits) :
      request.message.command ∈
        [UmacCommand.authenticate, .associate, .newKey, .deleteKey] := by
    cases request with
    | authenticate request => simp [message, StationMessage.command]
    | associate request => simp [message, StationMessage.command]
    | keyCommand command peer key =>
        rcases limits.1 with rfl | rfl <;> simp [message, StationMessage.command]
  have apart : ∀ one ∈ [UmacCommand.authenticate, .associate, .newKey, .deleteKey],
      ∀ other ∈ [UmacCommand.authenticate, .associate, .newKey, .deleteKey],
        one.number = other.number → one = other := by decide
  exact apart _ (few first left) _ (few second right) same

theorem encode_returns {request : StationRequest} {wdevId : UInt32} {out after : Bytes} {len : Nat}
    (returns : Returns (request.encode wdevId) out len after) :
    request.message.InLimits ∧ request.message.length ≤ out.length ∧
      len = request.message.length ∧ after = request.message.bytes wdevId ++ out.drop len :=
  StationMessage.encode_returns returns

theorem encode_accepts_iff (request : StationRequest) (wdevId : UInt32) (out : Bytes) :
    (∃ len after, Returns (request.encode wdevId) out len after) ↔
      request.message.InLimits ∧ request.message.length ≤ out.length := by
  have known := (request.message.encodes wdevId out).ends.1
  constructor
  · intro ⟨len, after, returns⟩
    obtain ⟨limits, room, _⟩ := encode_returns returns
    exact ⟨limits, room⟩
  · intro ⟨limits, room⟩
    have accepted : request.message.outcome out.length = .ok request.message.length :=
      StationMessage.outcome_eq_ok.mpr ⟨limits, room, rfl⟩
    exact ⟨request.message.length, _, known.trans accepted, rfl⟩

/-- The check of a request never fails with the length error. -/
theorem check_ne_invalidLength (request : StationRequest) :
    request.message.check ≠ .error .invalidLength := by
  have limited {check : Except ProtocolError Unit} {limit : Prop} (bound : Limited check limit) :
      check ≠ .error .invalidLength := by
    rcases bound with ⟨passed, _⟩ | ⟨failed, _⟩
    · rw [passed]
      intro bad
      cases bad
    · rw [failed]
      intro bad
      cases bad
  cases request with
  | authenticate request => exact limited (validateAuthenticationRequest_limited request)
  | associate request => exact limited (validateAssociationRequest_limited request)
  | keyCommand command peer key =>
      rw [message, StationMessage.check, validateKeyCommand]
      split
      · intro bad
        cases bad
      · exact limited (validateKey_limited key)

theorem encode_ne_invalidLength (request : StationRequest) (wdevId : UInt32) (out : Bytes) :
    resultOf (request.encode wdevId) out ≠ .error .invalidLength := by
  have known : resultOf (request.encode wdevId) out = request.message.outcome out.length :=
    (request.message.encodes wdevId out).ends.1
  rw [known, StationMessage.outcome]
  have admitted := check_ne_invalidLength request
  cases passed : request.message.check with
  | error failure =>
      rw [passed] at admitted
      intro bad
      exact admitted (congrArg _ (Except.error.inj bad))
  | ok _ =>
      rw [ok_bind]
      split <;> · intro bad; cases bad

theorem encode_parses {request : StationRequest} {wdevId : UInt32} {out after : Bytes} {len : Nat}
    (returns : Returns (request.encode wdevId) out len after) :
    ∃ message header, parseHostMessage after = .ok message ∧
      hostMessageHeaderLen + message.payload.length = len ∧
      UmacHeader.parse message.payload = .ok header ∧
      message.messageType = .umac ∧ header.commandEvent = request.message.command.number ∧
      header.validIds = indexWdevValid ∧ header.wdevId = wdevId.toUInt64 := by
  obtain ⟨limits, _, rfl, rfl⟩ := encode_returns returns
  refine ⟨_, _, parse_message request wdevId _ limits, ?_, UmacHeader.parse_bytes _ _ _, rfl, rfl,
    validMask_wdevId _, rfl⟩
  rw [List.length_append, length_umacHeaderBytes, StationMessage.length_body limits,
    StationMessage.length, Nat.add_assoc]

/-- Acceptance is exact, the message parses back to its headers, and the body of a
command determines its request; so equal messages are messages of the same request. -/
theorem encode_lossless :
    (∀ (request : StationRequest) (wdevId : UInt32) (out : Bytes),
      (∃ len after, Returns (request.encode wdevId) out len after) ↔
        request.message.InLimits ∧ request.message.length ≤ out.length) ∧
    (∀ (request : StationRequest) (wdevId : UInt32) (out : Bytes),
      resultOf (request.encode wdevId) out ≠ .error .invalidLength) ∧
    (∀ (request : StationRequest) (wdevId : UInt32) (out after : Bytes) (len : Nat),
      Returns (request.encode wdevId) out len after →
      ∃ message header, parseHostMessage after = .ok message ∧
        hostMessageHeaderLen + message.payload.length = len ∧
        UmacHeader.parse message.payload = .ok header ∧
        message.messageType = .umac ∧ header.commandEvent = request.message.command.number ∧
        header.validIds = indexWdevValid ∧ header.wdevId = wdevId.toUInt64) ∧
    ∀ (first second : StationRequest) (wdevId other : UInt32) (out old after final : Bytes)
      (len last : Nat),
      Returns (first.encode wdevId) out len after → Returns (second.encode other) old last final →
      (first.message.command = second.message.command →
        bodyOf after len = bodyOf final last → first = second) ∧
      (after.take len = final.take last → first = second ∧ wdevId = other) := by
  refine ⟨encode_accepts_iff, encode_ne_invalidLength,
    fun _ _ _ _ _ returns => encode_parses returns, ?_⟩
  intro first second wdevId other out old after final len last one two
  obtain ⟨left, _, rfl, rfl⟩ := encode_returns one
  obtain ⟨right, _, rfl, rfl⟩ := encode_returns two
  constructor
  · intro command same
    rw [bodyOf_message first wdevId _ left, bodyOf_message second other _ right] at same
    exact body_inj left right command same
  · intro same
    rw [StationMessage.take_message left, StationMessage.take_message right] at same
    have parsed := parse_message first wdevId [] left
    rw [same, parse_message second other [] right] at parsed
    have payload := congrArg HostMessage.payload (Except.ok.inj parsed)
    dsimp only at payload
    have header := UmacHeader.parse_bytes first.message.command
      { wdevId := some wdevId.toUInt64 } first.message.body
    rw [← payload, UmacHeader.parse_bytes] at header
    have fields := Except.ok.inj header
    have number := congrArg UmacHeader.commandEvent fields
    have identifier := congrArg UmacHeader.wdevId fields
    dsimp only at number identifier
    have command := command_inj left right number.symm
    have own : wdevId = other := by
      have numbers := congrArg UInt64.toNat identifier
      apply UInt32.toNat_inj.mp
      simpa using numbers.symm
    refine ⟨body_inj left right command ?_, own⟩
    have headers : umacHeaderBytes first.message.command { wdevId := some wdevId.toUInt64 } =
        umacHeaderBytes second.message.command { wdevId := some other.toUInt64 } := by
      rw [command, own]
    rw [headers] at payload
    exact (List.append_cancel_left payload).symm

end StationRequest

end Nrf7002
