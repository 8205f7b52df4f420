import Nrf7002.Control.Codes

/-! # UMAC commands there and back

The outcome of a UMAC command follows from the two lengths alone, and the parsers of the
events read a command back: its number, its interface identifiers and its body. -/

set_option autoImplicit false

namespace Nrf7002
open Foundation

/-! ## What a header tells -/

section Header

namespace UmacCommand

def all : List UmacCommand :=
  [triggerScan, getScanResults, authenticate, associate, deauthenticate, setWiphy, newKey,
    deleteKey, setKey, newInterface, setInterface, deleteInterface, setInterfaceFlags, newStation,
    deleteStation, setStation, getStation, registerFrame, frame, setPowerSave, getChannel,
    getTxPower, getInterface, getWiphy, getInterfaceHardwareAddress, setInterfaceHardwareAddress,
    getRegulatory, requestSetRegulatory, configureUapsd, configureTwt, teardownTwt, abortScan,
    multicastFilter, changeMacAddress, setPowerSaveTimeout, getConnectionInfo, getPowerSaveInfo,
    setListenInterval, configureExtendedPowerSave, configureQuietPeriod, powerSaveExitStrategy]

/-- The command of a number. -/
def ofNumber (number : UInt32) : Option UmacCommand := all.find? fun command => command.number = number

/-- No two commands share a number. -/
theorem ofNumber_number (command : UmacCommand) : ofNumber command.number = some command := by
  cases command <;> rfl

end UmacCommand

/-- The identifiers that the validity mask of a header names. -/
def UmacHeader.ids (header : UmacHeader) : InterfaceIds :=
  { ifaceindex := if header.validIds &&& InterfaceIds.ifindexValid ≠ 0 then some header.ifaceindex
      else none
    wiphyIndex := if header.validIds &&& InterfaceIds.wiphyValid ≠ 0 then some header.wiphyIndex
      else none
    wdevId := if header.validIds &&& InterfaceIds.wdevValid ≠ 0 then some header.wdevId else none }

/-- The header of a command as the event parser reads it. -/
def commandHeader (command : UmacCommand) (ids : InterfaceIds) : UmacHeader :=
  { portId := 0
    sequence := 0
    commandEvent := command.number
    result := 0
    validIds := ids.validMask
    ifaceindex := ids.ifaceindex.getD 0
    wiphyIndex := ids.wiphyIndex.getD 0
    wdevId := ids.wdevId.getD 0 }

/-- Each bit of the mask tells whether its identifier is there. -/
theorem validMask_bits (ids : InterfaceIds) :
    (ids.validMask &&& InterfaceIds.wdevValid ≠ 0 ↔ ids.wdevId.isSome = true) ∧
      (ids.validMask &&& InterfaceIds.ifindexValid ≠ 0 ↔ ids.ifaceindex.isSome = true) ∧
      (ids.validMask &&& InterfaceIds.wiphyValid ≠ 0 ↔ ids.wiphyIndex.isSome = true) := by
  rw [InterfaceIds.validMask]
  generalize ids.wdevId.isSome = wdev
  generalize ids.ifaceindex.isSome = iface
  generalize ids.wiphyIndex.isSome = wiphy
  revert wdev iface wiphy
  decide

theorem some_getD_of_isSome {α : Type} (value : Option α) (fallback : α) :
    (if value.isSome = true then some (value.getD fallback) else none) = value := by
  cases value <;> rfl

/-- The mask tells an absent identifier from one that is zero. -/
theorem ids_commandHeader (command : UmacCommand) (ids : InterfaceIds) :
    (commandHeader command ids).ids = ids := by
  obtain ⟨wdev, iface, wiphy⟩ := validMask_bits ids
  simp only [commandHeader, UmacHeader.ids, wdev, iface, wiphy, some_getD_of_isSome]

end Header

/-! ## The outcome of a command -/

section Outcome
variable (command : UmacCommand) (ids : InterfaceIds) (body : Bytes)

/-- A complete command. -/
def umacCommandBytes : Bytes := hostMessageBytes .umac false (umacHeaderBytes command ids ++ body)

theorem length_umacCommandBytes : (umacCommandBytes command ids body).length = 48 + body.length := by
  rw [umacCommandBytes, length_hostMessageBytes, List.length_append, length_umacHeaderBytes,
    ← Nat.add_assoc]
  rfl

theorem encodeHostMessage_short (messageType : HostMessageType) (resubmit : Bool)
    {payload out : Bytes} (short : out.length < hostMessageHeaderLen + payload.length) :
    Post (encodeHostMessage messageType resubmit payload) out fun result after =>
      result = .error .bufferTooSmall ∧ after = out := by
  simp only [encodeHostMessage, post_bind, post_get, post_liftResult, validatedHostMessageLen,
    if_pos short, and_self]

/-- The result follows from the lengths of the body and of the output. -/
theorem encodeUmacCommand_outcome (out : Bytes) :
    Post (encodeUmacCommand command ids body) out fun result after =>
      if 976 < body.length then result = .error .limitExceeded ∧ after = out
      else if out.length < 48 + body.length then result = .error .bufferTooSmall ∧ after = out
      else result = .ok (48 + body.length) ∧
        after = umacCommandBytes command ids body ++ out.drop (48 + body.length) := by
  have bound : maxUmacInnerLen = 1012 := rfl
  have header : umacHeaderLen = 36 := rfl
  have outer : hostMessageHeaderLen = 12 := rfl
  by_cases large : 976 < body.length
  · simp only [if_pos large]
    have refused : validatedUmacInnerLen body.length = .error .limitExceeded := if_pos (by omega)
    simp only [encodeUmacCommand, post_bind, post_liftResult, refused, and_self]
  · simp only [if_neg large]
    have payload : (umacHeaderBytes command ids ++ body).length = umacHeaderLen + body.length := by
      rw [List.length_append, length_umacHeaderBytes]
    have inner : validatedUmacInnerLen body.length = .ok (umacHeaderLen + body.length) :=
      if_neg (by omega)
    have fresh : encodeFresh (umacHeaderLen + body.length) (do
        writeUmacHeader command ids
        writeBytes body) =
        .ok (umacHeaderLen + body.length, umacHeaderBytes command ids ++ body) := by
      rw [← payload]
      exact encodeFresh_eq ((writes_umacHeader command ids).then (writes_bytes body))
    simp only [encodeUmacCommand, post_bind, post_liftResult, inner, fresh]
    by_cases short : out.length < 48 + body.length
    · simp only [if_pos short]
      apply encodeHostMessage_short
      omega
    · simp only [if_neg short]
      have small : hostMessageHeaderLen + (umacHeaderBytes command ids ++ body).length ≤
          0xffffffff := by omega
      refine (encodeHostMessage_spec .umac false _ out small).mono ?_
      intro result after outcome
      have total : hostMessageHeaderLen + (umacHeaderBytes command ids ++ body).length =
          48 + body.length := by omega
      cases result with
      | error failure =>
          simp only at outcome
          omega
      | ok len =>
          obtain ⟨_, rfl, written⟩ := outcome
          rw [total] at written
          rw [total]
          exact ⟨rfl, written⟩

theorem encodeUmacCommand_accepts_iff (out : Bytes) :
    (∃ len after, Returns (encodeUmacCommand command ids body) out len after) ↔
      body.length ≤ 976 ∧ 48 + body.length ≤ out.length := by
  have run := (encodeUmacCommand_outcome command ids body out).ends
  by_cases large : 976 < body.length
  · rw [if_pos large] at run
    apply iff_of_false
    · intro ⟨len, after, returns⟩
      cases run.1.symm.trans returns.1
    · omega
  · rw [if_neg large] at run
    by_cases short : out.length < 48 + body.length
    · rw [if_pos short] at run
      apply iff_of_false
      · intro ⟨len, after, returns⟩
        cases run.1.symm.trans returns.1
      · omega
    · rw [if_neg short] at run
      exact iff_of_true ⟨_, _, run.1, rfl⟩ ⟨by omega, by omega⟩

/-- A written command, whatever follows it, is read back with its header and its body. -/
structure ReadsCommand (bytes : Bytes) : Prop where
  read : ∃ message header, parseHostMessage bytes = .ok message ∧ message.resubmit = false ∧
    parseUmacEvent message = .ok (header, body) ∧
    UmacCommand.ofNumber header.commandEvent = some command ∧ header.validIds = ids.validMask ∧
    header.ids = ids ∧ header = commandHeader command ids

theorem readsCommand_bytes (small : 48 + body.length ≤ 0xffffffff) (rest : Bytes) :
    ReadsCommand command ids body (umacCommandBytes command ids body ++ rest) := by
  have length := length_umacCommandBytes command ids body
  rw [umacCommandBytes, length_hostMessageBytes] at length
  have parsed := parseHostMessage_bytes .umac false (umacHeaderBytes command ids ++ body) rest
    (by omega)
  have event : parseUmacEvent ⟨false, .umac, umacHeaderBytes command ids ++ body⟩ =
      .ok (commandHeader command ids, body) := by
    have behind : (umacHeaderBytes command ids ++ body).drop umacHeaderLen = body :=
      List.drop_left' (length_umacHeaderBytes command ids)
    rw [parseUmacEvent, if_neg (not_not_intro rfl), UmacHeader.parse_bytes]
    simp only [ok_bind, behind]
    rfl
  exact ⟨⟨_, _, parsed, rfl, event, UmacCommand.ofNumber_number command, rfl,
    ids_commandHeader command ids, rfl⟩⟩

/-- What a successful command left in the output. -/
theorem encodeUmacCommand_returns {out after : Bytes} {len : Nat}
    (returns : Returns (encodeUmacCommand command ids body) out len after) :
    body.length ≤ 976 ∧ len = 48 + body.length ∧ len ≤ out.length ∧
      after = umacCommandBytes command ids body ++ out.drop len := by
  obtain ⟨small, room⟩ := (encodeUmacCommand_accepts_iff command ids body out).mp ⟨len, after, returns⟩
  have run := (encodeUmacCommand_outcome command ids body out).ends
  rw [if_neg (by omega), if_neg (by omega)] at run
  have same : len = 48 + body.length := Except.ok.inj (returns.1.symm.trans run.1)
  rw [returns.2] at run
  exact ⟨small, same, by omega, by rw [same]; exact run.2⟩

theorem encodeUmacCommand_reads {out after : Bytes} {len : Nat}
    (returns : Returns (encodeUmacCommand command ids body) out len after) :
    ReadsCommand command ids body (after.take len) ∧ ReadsCommand command ids body after := by
  obtain ⟨small, rfl, _, rfl⟩ := encodeUmacCommand_returns command ids body returns
  constructor
  · have whole := readsCommand_bytes command ids body (by omega) []
    rw [List.append_nil] at whole
    rwa [List.take_left' (length_umacCommandBytes command ids body)]
  · exact readsCommand_bytes command ids body (by omega) _

end Outcome

end Nrf7002
