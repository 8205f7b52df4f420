import Nrf7002.Events.Checked

/-! # Decoding arbitrary bytes

No event parser stops on any byte string, and whatever a parsed event borrows lies
inside the payload that its message declares. -/

set_option autoImplicit false

namespace Nrf7002
open Foundation

/-! ## Borrowed slices -/

def ControlEvent.slices : ControlEvent → List Bytes
  | .scanResult event => [event.informationElements, event.beaconInformationElements]
  | .authentication event | .association event | .deauthentication event
  | .disassociation event => [event.frame, event.requestInformationElements]
  | .other _ body => [body]
  | _ => []

def SystemEvent.slices : SystemEvent → List Bytes
  | .powerData body | .statistics body | .other _ body => [body]
  | _ => []

/-- The part of a payload that its second word declares. -/
def declaredPayload (payload : Bytes) : Bytes := payload.take (readU32 payload 4).toNat

theorem subSlice_take {whole : Bytes} {first last count : Nat} (order : first ≤ last)
    (declared : last ≤ count) (inside : count ≤ whole.length) :
    SubSlice (slice whole first last) (whole.take count) := by
  have front : whole.take count = slice whole 0 count := rfl
  refine ⟨first, last, order, ?_, ?_⟩
  · rw [List.length_take]
    omega
  · rw [front, slice_slice (by omega), Nat.zero_add, Nat.zero_add]

section Control
variable {header : UmacHeader} {body : Bytes}

theorem parseMlme_slices {event : MlmeEvent} (parsed : parseMlme header body = .ok event) :
    ∀ part ∈ [event.frame, event.requestInformationElements], SubSlice part body := by
  obtain ⟨_, enough, rest⟩ := bind_eq_ok.mp parsed
  obtain ⟨⟨frameEnd, required⟩, variable_, same⟩ := bind_eq_ok.mp rest
  obtain ⟨first, last, after, inside⟩ := Checked.mlmeVariableExtents_ok variable_
  have long := Checked.requireLen_ok enough
  have framed : SubSlice (slice body 28 frameEnd) body := by
    unfold mlmeFixedBodyLen at long
    exact subSlice_slice first (by omega)
  have requested : SubSlice (slice body mlmeFixedBodyLen required) body :=
    subSlice_slice after inside
  -- the slices as variables, so that nothing evaluates their offsets
  dsimp only at same
  generalize slice body 28 frameEnd = frame at same framed
  generalize slice body mlmeFixedBodyLen required = elements at same requested
  cases same
  intro part member
  rcases List.mem_pair.mp member with rfl | rfl
  · exact framed
  · exact requested

theorem parseScanResult_slices {event : ScanResultEvent}
    (parsed : parseScanResult header body = .ok event) :
    ∀ part ∈ [event.informationElements, event.beaconInformationElements],
      SubSlice part body := by
  obtain ⟨_, _, rest⟩ := bind_eq_ok.mp parsed
  obtain ⟨extents, variable_, same⟩ := bind_eq_ok.mp rest
  obtain ⟨first, middle, last⟩ := Checked.scanResultVariableExtents_ok variable_
  cases same
  intro part member
  rcases List.mem_pair.mp member with rfl | rfl
  · exact subSlice_slice first (Nat.le_trans middle last)
  · exact subSlice_slice middle last

theorem subSlice_self (whole : Bytes) : SubSlice whole whole :=
  ⟨0, whole.length, Nat.zero_le _, Nat.le_refl _, (slice_all (Nat.le_refl _)).symm⟩

theorem other_slices {event : ControlEvent} (same : Except.ok (ε := ProtocolError)
    (ControlEvent.other header body) = .ok event) : ∀ part ∈ event.slices, SubSlice part body := by
  cases same
  intro part member
  rw [List.mem_singleton.mp member]
  exact subSlice_self body

/-- An event without a borrowed slice. -/
theorem no_slices {event : ControlEvent} (none : event.slices = []) :
    ∀ part ∈ event.slices, SubSlice part body := by
  rw [none]
  intro part member
  cases member

theorem parseScanOrConnectionEvent_slices {event : ControlEvent}
    (parsed : parseScanOrConnectionEvent header body = .ok event) :
    ∀ part ∈ event.slices, SubSlice part body := by
  rw [parseScanOrConnectionEvent] at parsed
  split at parsed
  · obtain ⟨_, _, same⟩ := bind_eq_ok.mp parsed
    cases same
    exact no_slices rfl
  · split at parsed
    · obtain ⟨record, result, rfl⟩ := map_eq_ok.mp parsed
      exact parseScanResult_slices result
    · split at parsed
      · obtain ⟨record, result, rfl⟩ := map_eq_ok.mp parsed
        exact parseMlme_slices result
      · split at parsed
        · obtain ⟨record, result, rfl⟩ := map_eq_ok.mp parsed
          exact parseMlme_slices result
        · exact other_slices parsed

theorem parseDisconnectEvent_slices {event : ControlEvent}
    (parsed : parseDisconnectEvent header body = .ok event) :
    ∀ part ∈ event.slices, SubSlice part body := by
  rw [parseDisconnectEvent] at parsed
  split at parsed
  · obtain ⟨record, result, rfl⟩ := map_eq_ok.mp parsed
    exact parseMlme_slices result
  · obtain ⟨record, result, rfl⟩ := map_eq_ok.mp parsed
    exact parseMlme_slices result

theorem parseStatusEvent_slices {event : ControlEvent}
    (parsed : parseStatusEvent header body = .ok event) :
    ∀ part ∈ event.slices, SubSlice part body := by
  rw [parseStatusEvent] at parsed
  split at parsed
  · obtain ⟨_, _, same⟩ := bind_eq_ok.mp parsed
    cases same
    exact no_slices rfl
  · split at parsed
    · obtain ⟨_, _, same⟩ := bind_eq_ok.mp parsed
      cases same
      exact no_slices rfl
    · split at parsed
      · obtain ⟨_, _, same⟩ := bind_eq_ok.mp parsed
        cases same
        exact no_slices rfl
      · exact other_slices parsed

theorem parseControlEvent_slices {message : HostMessage} {event : ControlEvent}
    (parsed : parseControlEvent message = .ok event) :
    ∀ part ∈ event.slices, SubSlice part message.payload := by
  obtain ⟨⟨header, body⟩, split_, rest⟩ := bind_eq_ok.mp parsed
  have inside : SubSlice body message.payload := by
    rw [parseUmacEvent] at split_
    split at split_
    · cases split_
    · obtain ⟨_, known, same⟩ := bind_eq_ok.mp split_
      cases same
      rw [← Checked.slice_to_end]
      exact subSlice_slice (Checked.parseUmacHeader_ok known) (Nat.le_refl _)
  have within : ∀ part ∈ event.slices, SubSlice part body := by
    dsimp only at rest
    split at rest
    · exact parseScanOrConnectionEvent_slices rest
    · split at rest
      · exact parseDisconnectEvent_slices rest
      · exact parseStatusEvent_slices rest
  intro part member
  exact (within part member).trans inside

end Control

section SystemAndData
variable {message : HostMessage}

theorem emptyBodyEvent_ok {body : Bytes} {given event : SystemEvent}
    (accepted : emptyBodyEvent body given = .ok event) : given = event := by
  rw [emptyBodyEvent, refused_eq_ok] at accepted
  exact Except.ok.inj accepted.2

theorem decodeSystemEvent_slices {id : UInt32} {body : Bytes} {event : SystemEvent}
    (decoded : decodeSystemEvent id body = .ok event) :
    event.slices = [] ∨ event.slices = [body] := by
  rw [decodeSystemEvent] at decoded
  split at decoded
  · cases decoded
    exact .inr rfl
  · split at decoded
    · cases emptyBodyEvent_ok decoded
      exact .inl rfl
    · split at decoded
      · cases decoded
        exact .inr rfl
      · split at decoded
        · cases emptyBodyEvent_ok decoded
          exact .inl rfl
        · cases decoded
          exact .inr rfl

theorem parseSystemEvent_slices {event : SystemEvent} (parsed : parseSystemEvent message = .ok event) :
    ∀ part ∈ event.slices, SubSlice part (declaredPayload message.payload) := by
  rw [parseSystemEvent] at parsed
  split at parsed
  · cases parsed
  · obtain ⟨⟨id, body⟩, validated, decoded⟩ := bind_eq_ok.mp parsed
    have inside : SubSlice body (declaredPayload message.payload) := by
      rw [validatedEventBody] at validated
      split at validated
      · cases validated
      · dsimp only at validated
        split at validated
        · cases validated
        · cases validated
          exact subSlice_take (by omega) (Nat.le_refl _) (by omega)
    have borrowed : event.slices = [] ∨ event.slices = [body] := by
      exact decodeSystemEvent_slices decoded
    intro part member
    rcases borrowed with none | one
    · rw [none] at member
      cases member
    · rw [one] at member
      rwa [List.mem_singleton.mp member]

theorem parseTxDone_ok {event : TxDoneEvent} (parsed : TxDoneEvent.parse message = .ok event) :
    message.messageType = .data ∧ readU32 message.payload 0 = DataCommand.transmitDone.number ∧
      (readU32 message.payload 4).toNat ≤ message.payload.length ∧
      (readU32 message.payload 4).toNat = txDoneFixedLen + (byteAt message.payload 9).toNat ∧
      event.statuses =
        slice message.payload txDoneFixedLen (readU32 message.payload 4).toNat := by
  obtain ⟨pair, validated, rest⟩ := bind_eq_ok.mp parsed
  obtain ⟨data, whole, number, declared, _, inside⟩ := Checked.validatedDataPayload_ok validated
  dsimp only at rest
  split at rest
  · cases rest
  · rename_i same
    have exact_ := not_not.mp same
    cases rest
    rw [← declared]
    dsimp only
    rw [← exact_]
    rw [whole] at exact_ ⊢
    exact ⟨data, number, inside, exact_, rfl⟩

theorem parseTxDone_slices {event : TxDoneEvent} (parsed : TxDoneEvent.parse message = .ok event) :
    SubSlice event.statuses (declaredPayload message.payload) := by
  obtain ⟨_, _, inside, long, same⟩ := parseTxDone_ok parsed
  rw [same]
  exact subSlice_take (by omega) (Nat.le_refl _) inside

/-- A transmit-done message passes the checks of the classification. -/
theorem classify_of_transmitDone {event : TxDoneEvent}
    (parsed : TxDoneEvent.parse message = .ok event) :
    classifyDataEvent message = classifyTransmitDone message := by
  obtain ⟨data, number, inside, long, _⟩ := parseTxDone_ok parsed
  have header : 22 ≤ (readU32 message.payload 4).toNat := by
    unfold txDoneFixedLen at long
    omega
  rw [classifyDataEvent, if_neg (not_not_intro data), if_neg (by omega), if_neg (by omega)]
  exact if_pos number

theorem classifyCarrier_ne {payload : Bytes} {declared : Nat} {on : Bool} {token count : UInt8} :
    classifyCarrier payload declared on ≠ .ok (.transmitDone token count) := by
  intro same
  rw [classifyCarrier] at same
  split at same
  · cases same
  · split at same <;> cases same

theorem classify_transmitDone {token count : UInt8}
    (classified : classifyDataEvent message = .ok (.transmitDone token count)) :
    classifyTransmitDone message = .ok (.transmitDone token count) := by
  rw [classifyDataEvent] at classified
  split at classified
  · cases classified
  · split at classified
    · cases classified
    · dsimp only at classified
      split at classified
      · cases classified
      · rw [classifyDataCommand] at classified
        split at classified
        · exact classified
        · split at classified
          · cases classified
          · split at classified
            · exact absurd classified classifyCarrier_ne
            · split at classified
              · exact absurd classified classifyCarrier_ne
              · cases classified

/-- The classification accepts a transmit-done event exactly when its parser does. -/
theorem classify_transmitDone_iff (token count : UInt8) :
    classifyDataEvent message = .ok (.transmitDone token count) ↔
      ∃ event, TxDoneEvent.parse message = .ok event ∧ event.token = token ∧
        event.statuses.length = count.toNat := by
  have counted {event : TxDoneEvent} (parsed : TxDoneEvent.parse message = .ok event) :
      event.statuses.length < 256 := by
    obtain ⟨_, _, inside, long, same⟩ := parseTxDone_ok parsed
    have small := UInt8.toNat_lt (byteAt message.payload 9)
    rw [same, length_slice_of_le inside]
    omega
  constructor
  · intro classified
    obtain ⟨event, parsed, same⟩ := bind_eq_ok.mp (classify_transmitDone classified)
    cases same
    refine ⟨event, parsed, rfl, ?_⟩
    rw [UInt8.toNat_ofNat', Nat.mod_eq_of_lt (counted parsed)]
  · intro ⟨event, parsed, token_, length⟩
    rw [classify_of_transmitDone parsed, classifyTransmitDone, parsed, ok_bind, length, token_]
    simp [pure, Except.pure]

end SystemAndData

theorem parseHostMessage_payload {bytes : Bytes} {message : HostMessage}
    (parsed : parseHostMessage bytes = .ok message) :
    SubSlice message.payload (bytes.take (readU32 bytes 0).toNat) := by
  rw [parseHostMessage] at parsed
  split at parsed
  · cases parsed
  · dsimp only at parsed
    split at parsed
    · cases parsed
    · obtain ⟨_, _, same⟩ := bind_eq_ok.mp parsed
      cases same
      exact subSlice_take (by omega) (Nat.le_refl _) (by omega)

/-- On every byte string no parser stops; what a parsed event borrows lies inside the
declared payload; and the classification agrees with the transmit-done parser. -/
theorem decoding_panic_free {limit : Nat} (wide : 2 ^ 32 ≤ limit) {bytes : Bytes}
    (small : bytes.length < limit) :
    Safe (Checked.parseHostMessage limit bytes) (parseHostMessage bytes) ∧
    ∀ message, parseHostMessage bytes = .ok message →
      SubSlice message.payload (bytes.take (readU32 bytes 0).toNat) ∧
      (Safe (Checked.parseControlEvent limit message) (parseControlEvent message) ∧
        ∀ event, parseControlEvent message = .ok event →
          ∀ part ∈ event.slices, SubSlice part message.payload) ∧
      (Safe (Checked.parseSystemEvent limit message) (parseSystemEvent message) ∧
        ∀ event, parseSystemEvent message = .ok event →
          ∀ part ∈ event.slices, SubSlice part (declaredPayload message.payload)) ∧
      (Safe (Checked.parseRxEvent limit message) (RxEvent.parse message) ∧
        ∀ event, RxEvent.parse message = .ok event →
          event.payload = declaredPayload message.payload ∧
          ∀ index, Safe (Checked.packet limit event index) (event.packet index)) ∧
      (Safe (Checked.parseTxDoneEvent limit message) (TxDoneEvent.parse message) ∧
        ∀ event, TxDoneEvent.parse message = .ok event →
          SubSlice event.statuses (declaredPayload message.payload)) ∧
      Safe (Checked.classifyDataEvent limit message) (classifyDataEvent message) ∧
      ∀ token count, classifyDataEvent message = .ok (.transmitDone token count) ↔
        ∃ event, TxDoneEvent.parse message = .ok event ∧ event.token = token ∧
          event.statuses.length = count.toNat := by
  refine ⟨Checked.safe_parseHostMessage small, ?_⟩
  intro message parsed
  have inside := parseHostMessage_payload parsed
  have shorter : message.payload.length < limit := by
    obtain ⟨first, last, order, within, same⟩ := inside
    rw [List.length_take] at within
    rw [same, length_slice]
    omega
  refine ⟨inside, ⟨Checked.safe_parseControlEvent shorter wide, fun _ => parseControlEvent_slices⟩,
    ⟨Checked.safe_parseSystemEvent shorter, fun _ => parseSystemEvent_slices⟩,
    ⟨Checked.safe_parseRxEvent shorter, ?_⟩,
    ⟨Checked.safe_parseTxDoneEvent shorter wide, fun _ => parseTxDone_slices⟩,
    Checked.safe_classifyDataEvent shorter wide, classify_transmitDone_iff⟩
  intro event received
  obtain ⟨same, _, packets⟩ := Checked.parseRxEvent_ok received
  refine ⟨same, Checked.safe_packet packets ?_⟩
  rw [same, List.length_take]
  omega

/-- A transmit-done event with one status, on a processor of 32 bits. -/
def transmitDoneBytes : Bytes :=
  le32 35 ++ (le32 1 ++ (le32 2 ++ (le32 2 ++ (le32 23 ++ ([7, 1] ++ List.replicate 13 0)))))

theorem transmitDoneBytes_panic_free :
    Safe (Checked.parseHostMessage (2 ^ 32) transmitDoneBytes)
      (parseHostMessage transmitDoneBytes) :=
  have short : transmitDoneBytes.length < 2 ^ 32 := by decide
  (decoding_panic_free (Nat.le_refl _) short).1

end Nrf7002
