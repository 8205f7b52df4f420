import Nrf7002.Control.Codes

/-! # Station messages in a reused buffer

Every station command is encoded in place, into storage that earlier held other
commands and their keys.  The message is the header and the body of the request alone,
and the storage behind it stays as it was. -/

set_option autoImplicit false

namespace Nrf7002
open Foundation

/-- A command with the arguments of its encoder. -/
inductive StationMessage where
  | authenticate (request : AuthenticationRequest)
  | associate (request : AssociationRequest)
  | keyCommand (command : UmacCommand) (peer : Option (Octets 6)) (key : KeyConfig)
  | setKey (key : KeyConfig)
  | interfaceState (up : Bool) (firmwareIndex : Int8)
  | setRegulatory (country : UInt8 × UInt8) (userHintType : UInt32) (force : Bool)
  | powerSave (state : PowerSaveState)
  | powerSaveTimeout (timeoutMs : Int32)
  | stationAuthorized (peer : Octets 6) (authorized : Bool)

namespace StationMessage

def encode (wdevId : UInt32) : StationMessage → Program Bytes ProtocolError Nat
  | authenticate request => encodeAuthenticate wdevId request
  | associate request => encodeAssociate wdevId request
  | keyCommand command peer key => encodeKeyCommand wdevId command peer key
  | setKey key => encodeSetKey wdevId key
  | interfaceState up firmwareIndex => encodeInterfaceState wdevId up firmwareIndex
  | setRegulatory country hint force => encodeSetRegulatory wdevId country hint force
  | powerSave state => encodePowerSave wdevId state
  | powerSaveTimeout timeoutMs => encodePowerSaveTimeout wdevId timeoutMs
  | stationAuthorized peer authorized => encodeStationAuthorized wdevId peer authorized

def command : StationMessage → UmacCommand
  | authenticate _ => .authenticate
  | associate _ => .associate
  | keyCommand command _ _ => command
  | setKey _ => .setKey
  | interfaceState _ _ => .setInterfaceFlags
  | setRegulatory _ _ _ => .requestSetRegulatory
  | powerSave _ => .setPowerSave
  | powerSaveTimeout _ => .setPowerSaveTimeout
  | stationAuthorized _ _ => .setStation

/-- The regulatory command belongs to no interface. -/
def identifier (wdevId : UInt32) : StationMessage → Option UInt32
  | setRegulatory _ _ _ => none
  | _ => some wdevId

def body : StationMessage → Bytes
  | authenticate request => authenticationBytes request
  | associate request => associationBytes request
  | keyCommand _ peer key => keyCommandBytes peer key
  | setKey key => defaultKeyBytes key
  | interfaceState up firmwareIndex => interfaceStateBytes up firmwareIndex
  | setRegulatory country hint force => regulatoryBytes country hint force
  | powerSave state => le32 state.number.toUInt32
  | powerSaveTimeout timeoutMs => le32 timeoutMs.toUInt32
  | stationAuthorized peer authorized => stationAuthorizedBytes peer authorized

def bodyLen : StationMessage → Nat
  | authenticate _ => authBodyLen
  | associate _ => assocBodyLen
  | keyCommand _ _ _ => 4 + keyInfoLen + 6
  | setKey _ => keyInfoLen
  | interfaceState _ _ => 5
  | setRegulatory _ _ _ => 10
  | powerSave _ => 4
  | powerSaveTimeout _ => 4
  | stationAuthorized _ _ => 4 + changeStationInfoLen

/-- The length of the whole message. -/
def length (message : StationMessage) : Nat :=
  hostMessageHeaderLen + umacHeaderLen + message.bodyLen

/-- What the encoder checks before it writes. -/
def check : StationMessage → Except ProtocolError Unit
  | authenticate request => validateAuthenticationRequest request
  | associate request => validateAssociationRequest request
  | keyCommand command _ key => do
      validateKeyCommand command
      validateKey key
  | setKey key => validateKey key
  | setRegulatory country _ _ =>
      if isCountryCode country then .ok ()
      else .error (.invalidValue (UInt32.ofNat (beNat [country.1, country.2])))
  | _ => .ok ()

/-- Every field is within its limit. -/
def InLimits : StationMessage → Prop
  | authenticate request => request.InLimits
  | associate request => request.InLimits
  | keyCommand command _ key => (command = .newKey ∨ command = .deleteKey) ∧ key.InLimits
  | setKey key => key.InLimits
  | setRegulatory country _ _ => isCountryCode country = true
  | _ => True

/-- The message as a byte string of its own. -/
def bytes (wdevId : UInt32) (message : StationMessage) : Bytes :=
  stationHeaderBytes message.length message.command (message.identifier wdevId) ++ message.body

theorem validateKeyCommand_ok_iff (command : UmacCommand) :
    validateKeyCommand command = .ok () ↔ command = .newKey ∨ command = .deleteKey := by
  rw [validateKeyCommand, refused_eq_ok, not_and_or, not_not, not_not, and_iff_left rfl]

theorem check_ok_iff (message : StationMessage) : message.check = .ok () ↔ message.InLimits := by
  cases message with
  | authenticate request => exact (validateAuthenticationRequest_limited request).ok_iff
  | associate request => exact (validateAssociationRequest_limited request).ok_iff
  | keyCommand command peer key =>
      rw [check, check_bind_eq_ok, validateKeyCommand_ok_iff, (validateKey_limited key).ok_iff]
      rfl
  | setKey key => exact (validateKey_limited key).ok_iff
  | setRegulatory country hint force =>
      rw [check, accepted_eq_ok, and_iff_left rfl]
      rfl
  | _ => exact iff_of_true rfl trivial

theorem length_body {message : StationMessage} (limits : message.InLimits) :
    message.body.length = message.bodyLen := by
  cases message with
  | authenticate request => exact fixedCode_authentication.length request limits
  | associate request => exact fixedCode_association.length request limits
  | keyCommand command peer key => exact fixedCode_keyCommand.length (peer, key) limits.2
  | setKey key => exact fixedCode_defaultKey.length key trivial
  | interfaceState up firmwareIndex => exact length_interfaceStateBytes up firmwareIndex
  | setRegulatory country hint force => exact length_regulatoryBytes country hint force
  | powerSave state => exact length_le32 _
  | powerSaveTimeout timeoutMs => exact length_le32 _
  | stationAuthorized peer authorized => exact length_stationAuthorizedBytes peer authorized

theorem length_le (message : StationMessage) : message.length ≤ maxStationMessageLen := by
  cases message <;> exact Nat.le_of_ble_eq_true rfl

theorem length_bytes {message : StationMessage} (limits : message.InLimits) (wdevId : UInt32) :
    (message.bytes wdevId).length = message.length := by
  rw [bytes, List.length_append, length_stationHeaderBytes, length_body limits]
  rfl

/-! ## What an encoder leaves in the storage -/

/-- The result follows from the check and the length of the storage; a success leaves
the message in front of the old bytes. -/
def Encodes (x : Program Bytes ProtocolError Nat) (check : Except ProtocolError Unit)
    (total : Nat) (bytes : Bytes) : Prop :=
  ∀ out : Bytes, Post x out fun result after =>
    result = (check >>= fun _ =>
      if out.length < total then .error .bufferTooSmall else .ok total) ∧
    ∀ len, result = .ok len → after = bytes ++ out.drop total

theorem encodes_umac {command : UmacCommand} {wdevId : Option UInt32} {bodyLen : Nat}
    {body : Encoder} {value : Bytes} (writes : Writes body value)
    (length : value.length = bodyLen)
    (fits : hostMessageHeaderLen + umacHeaderLen + bodyLen ≤ maxStationMessageLen) :
    Encodes (encodeUmac command wdevId bodyLen body) (.ok ())
      (hostMessageHeaderLen + umacHeaderLen + bodyLen)
      (stationHeaderBytes (hostMessageHeaderLen + umacHeaderLen + bodyLen) command wdevId
        ++ value) := by
  intro out
  subst length
  refine (encodeUmac_spec command wdevId writes out).mono ?_
  intro result after outcome
  rw [ok_bind]
  cases result with
  | error failure =>
      have short := outcome.2.resolve_right (Nat.not_lt.mpr fits)
      rw [if_pos short, outcome.1]
      exact ⟨rfl, fun _ success => by cases success⟩
  | ok len =>
      obtain ⟨room, _, same, written⟩ := outcome
      rw [if_neg (Nat.not_lt.mpr room), same]
      exact ⟨rfl, fun _ _ => written⟩

theorem encodes_checked {x : Program Bytes ProtocolError Nat}
    {check rest : Except ProtocolError Unit} {total : Nat} {bytes : Bytes}
    (encodes : check = .ok () → Encodes x rest total bytes) :
    Encodes (liftResult check >>= fun _ => x) (check >>= fun _ => rest) total bytes := by
  intro out
  rw [post_bind, post_liftResult]
  cases passed : check with
  | error failure => exact ⟨rfl, fun _ success => by cases success⟩
  | ok _ => exact encodes passed out

/-- One check alone. -/
theorem encodes_checked_once {x : Program Bytes ProtocolError Nat}
    {check : Except ProtocolError Unit} {total : Nat} {bytes : Bytes}
    (encodes : check = .ok () → Encodes x (.ok ()) total bytes) :
    Encodes (liftResult check >>= fun _ => x) check total bytes := by
  have once : (check >>= fun _ => (.ok () : Except ProtocolError Unit)) = check := by
    cases check <;> rfl
  rw [← once]
  simpa only [once] using encodes_checked encodes

theorem encodes (wdevId : UInt32) (message : StationMessage) :
    Encodes (message.encode wdevId) message.check message.length (message.bytes wdevId) := by
  have inside := fun passed => length_body ((check_ok_iff message).mp passed)
  have fits := length_le message
  cases message with
  | authenticate request =>
      apply encodes_checked_once
      intro passed
      exact encodes_umac (writes_authenticationBody
        ((validateAuthenticationRequest_limited request).ok_iff.mp passed)) (inside passed) fits
  | associate request =>
      apply encodes_checked_once
      intro passed
      exact encodes_umac (writes_associationBody
        ((validateAssociationRequest_limited request).ok_iff.mp passed)) (inside passed) fits
  | keyCommand command peer key =>
      apply encodes_checked
      intro admitted
      apply encodes_checked_once
      intro passed
      have both : check (keyCommand command peer key) = .ok () :=
        check_bind_eq_ok.mpr ⟨admitted, passed⟩
      exact encodes_umac (writes_keyCommandBody peer ((validateKey_limited key).ok_iff.mp passed))
        (inside both) fits
  | setKey key =>
      apply encodes_checked_once
      intro passed
      exact encodes_umac (writes_defaultKeyInfo key) (inside passed) fits
  | interfaceState up firmwareIndex =>
      exact encodes_umac ((writes_i32 _).then (writes_u8 _)) (inside rfl) fits
  | setRegulatory country hint force =>
      rw [encode, encodeSetRegulatory, check]
      rw [check] at inside
      split
      · rename_i known
        exact encodes_umac ((writes_u32 _).then <| (writes_u32 _).then (writes_bytes _))
          (inside (if_pos known)) fits
      · intro out
        rw [post_throw]
        exact ⟨rfl, fun _ success => by cases success⟩
  | powerSave state => exact encodes_umac (writes_i32 _) (inside rfl) fits
  | powerSaveTimeout timeoutMs => exact encodes_umac (writes_i32 _) (inside rfl) fits
  | stationAuthorized peer authorized =>
      exact encodes_umac (writes_stationAuthorizedBody peer authorized) (inside rfl) fits

/-- The result for a storage of the given size. -/
def outcome (message : StationMessage) (room : Nat) : Except ProtocolError Nat := do
  message.check
  if room < message.length then .error .bufferTooSmall else .ok message.length

theorem outcome_eq_ok {message : StationMessage} {room len : Nat} :
    message.outcome room = .ok len ↔
      message.InLimits ∧ message.length ≤ room ∧ message.length = len := by
  rw [outcome, check_bind_eq_ok, check_ok_iff, refused_eq_ok, Nat.not_lt, Except.ok.injEq]

theorem encode_returns {wdevId : UInt32} {message : StationMessage} {out after : Bytes} {len : Nat}
    (returns : Returns (message.encode wdevId) out len after) :
    message.InLimits ∧ message.length ≤ out.length ∧ len = message.length ∧
      after = message.bytes wdevId ++ out.drop len := by
  have known := (encodes wdevId message out).ends
  rw [returns.1, returns.2] at known
  obtain ⟨limits, room, same⟩ := outcome_eq_ok.mp known.1.symm
  rw [← same]
  exact ⟨limits, room, rfl, known.2 len rfl⟩

theorem take_message {wdevId : UInt32} {message : StationMessage} {rest : Bytes}
    (limits : message.InLimits) :
    (message.bytes wdevId ++ rest).take message.length = message.bytes wdevId :=
  List.take_left' (length_bytes limits wdevId)

theorem drop_message {wdevId : UInt32} {message : StationMessage} {rest : Bytes}
    (limits : message.InLimits) :
    (message.bytes wdevId ++ rest).drop message.length = rest :=
  List.drop_left' (length_bytes limits wdevId)

end StationMessage

end Nrf7002
