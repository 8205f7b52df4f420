import Nrf7002.Foundation.Checked
import Nrf7002.Control
import Nrf7002.Data.Events
import Nrf7002.System

/-! # The event parsers with their panics

The parsers once more, with every index, range and addition as the operation that may
stop the program.  A word of the processor is below `limit`, which is at least `2 ^ 32`,
so that the cast of a `u32` keeps its value.  Each parser is shown to end as the total
one does. -/

set_option autoImplicit false

namespace Nrf7002
open Foundation

namespace Checked
open Foundation.Checked
variable {ε : Type} (limit : Nat)

/-! ## Fixed-width fields -/

def readU16 (bytes : Bytes) (offset : Nat) : Checked ε UInt16 := do
  let part ← bytesAt limit bytes offset 2
  return UInt16.ofNat (leNat part)

def readU32 (bytes : Bytes) (offset : Nat) : Checked ε UInt32 := do
  let part ← bytesAt limit bytes offset 4
  return UInt32.ofNat (leNat part)

def readI32 (bytes : Bytes) (offset : Nat) : Checked ε Int32 := do
  let part ← bytesAt limit bytes offset 4
  return (UInt32.ofNat (leNat part)).toInt32

def readU64 (bytes : Bytes) (offset : Nat) : Checked ε UInt64 := do
  let part ← bytesAt limit bytes offset 8
  return UInt64.ofNat (leNat part)

/-- `try_into` of a range. -/
def octets (failure : ε) (width : Nat) (part : Bytes) : Checked ε (Octets width) :=
  if length : part.length = width then pure ⟨part, length⟩ else throw failure

variable {limit} {bytes : Bytes} {offset : Nat}

theorem safe_readU16 (inside : offset + 2 ≤ bytes.length) (small : bytes.length < limit) :
    Safe (readU16 limit bytes offset : Checked ε UInt16) (.ok (Nrf7002.readU16 bytes offset)) :=
  (safe_bytesAt inside (by omega)).then (safe_pure _)

theorem safe_readU32 (inside : offset + 4 ≤ bytes.length) (small : bytes.length < limit) :
    Safe (readU32 limit bytes offset : Checked ε UInt32) (.ok (Nrf7002.readU32 bytes offset)) :=
  (safe_bytesAt inside (by omega)).then (safe_pure _)

theorem safe_readI32 (inside : offset + 4 ≤ bytes.length) (small : bytes.length < limit) :
    Safe (readI32 limit bytes offset : Checked ε Int32) (.ok (Nrf7002.readI32 bytes offset)) :=
  (safe_bytesAt inside (by omega)).then (safe_pure _)

theorem safe_readU64 (inside : offset + 8 ≤ bytes.length) (small : bytes.length < limit) :
    Safe (readU64 limit bytes offset : Checked ε UInt64) (.ok (Nrf7002.readU64 bytes offset)) :=
  (safe_bytesAt inside (by omega)).then (safe_pure _)

theorem safe_octets {failure : ε} {width : Nat} (inside : offset + width ≤ bytes.length) :
    Safe (octets failure width (slice bytes offset (offset + width)))
      (.ok (octetsAt bytes offset width)) := by
  have length : (slice bytes offset (offset + width)).length = width := by
    rw [length_slice_of_le inside]
    omega
  rw [octets, dif_pos length]
  have same : (⟨slice bytes offset (offset + width), length⟩ : Octets width) =
      octetsAt bytes offset width := Subtype.ext (octetsAt_eq_slice inside).symm
  rw [same]
  exact safe_pure _

/-! ## Host messages -/

section HostMessages
variable (limit)

def parseHostMessage (bytes : Bytes) : Checked ProtocolError HostMessage :=
  if bytes.length < hostMessageHeaderLen then throw .invalidLength
  else do
    let declared := (← readU32 limit bytes 0).toNat
    if declared < hostMessageHeaderLen ∨ bytes.length < declared then throw .invalidLength
    else do
      let resubmit ← readU32 limit bytes 4
      let number ← readI32 limit bytes 8
      let messageType ← ofResult (HostMessageType.fromI32 number)
      let payload ← range bytes hostMessageHeaderLen declared
      return { resubmit := resubmit ≠ 0, messageType, payload }

def parseUmacHeader (bytes : Bytes) : Checked ProtocolError UmacHeader :=
  if bytes.length < umacHeaderLen then throw .invalidLength
  else do
    let portId ← readU32 limit bytes 0
    let sequence ← readU32 limit bytes 4
    let commandEvent ← readU32 limit bytes 8
    let result ← readI32 limit bytes 12
    let validIds ← readU32 limit bytes 16
    let ifaceindex ← readI32 limit bytes 20
    let wiphyIndex ← readI32 limit bytes 24
    let wdevId ← readU64 limit bytes 28
    return { portId, sequence, commandEvent, result, validIds, ifaceindex, wiphyIndex, wdevId }

def parseUmacEvent (message : HostMessage) : Checked ProtocolError (UmacHeader × Bytes) :=
  if message.messageType ≠ .umac then throw .wrongMessageType
  else do
    let header ← parseUmacHeader limit message.payload
    let body ← range message.payload umacHeaderLen message.payload.length
    return (header, body)

variable {limit}

theorem safe_parseHostMessage (small : bytes.length < limit) :
    Safe (parseHostMessage limit bytes) (Nrf7002.parseHostMessage bytes) := by
  apply safe_ite
  · intro _
    exact safe_throw _
  · intro long
    unfold hostMessageHeaderLen at long
    apply Safe.then (safe_readU32 (by omega) small)
    apply safe_ite
    · intro _
      exact safe_throw _
    · intro inside
      apply Safe.then (safe_readU32 (by omega) small)
      apply Safe.then (safe_readI32 (by omega) small)
      apply Safe.bind (safe_ofResult _)
      intro messageType _
      apply Safe.then (safe_range (by omega) (by omega))
      exact safe_pure _

theorem safe_parseUmacHeader (small : bytes.length < limit) :
    Safe (parseUmacHeader limit bytes) (UmacHeader.parse bytes) := by
  apply safe_ite
  · intro _
    exact safe_throw _
  · intro long
    unfold umacHeaderLen at long
    apply Safe.then (safe_readU32 (by omega) small)
    apply Safe.then (safe_readU32 (by omega) small)
    apply Safe.then (safe_readU32 (by omega) small)
    apply Safe.then (safe_readI32 (by omega) small)
    apply Safe.then (safe_readU32 (by omega) small)
    apply Safe.then (safe_readI32 (by omega) small)
    apply Safe.then (safe_readI32 (by omega) small)
    apply Safe.then (safe_readU64 (by omega) small)
    exact safe_pure _

theorem parseUmacHeader_ok {header : UmacHeader} (parsed : UmacHeader.parse bytes = .ok header) :
    umacHeaderLen ≤ bytes.length := by
  rw [UmacHeader.parse, refused_eq_ok] at parsed
  exact Nat.not_lt.mp parsed.1

theorem slice_to_end (bytes : Bytes) (first : Nat) :
    slice bytes first bytes.length = bytes.drop first := by
  rw [slice, List.take_of_length_le (by simp)]

theorem safe_parseUmacEvent {message : HostMessage} (small : message.payload.length < limit) :
    Safe (parseUmacEvent limit message) (Nrf7002.parseUmacEvent message) := by
  apply safe_ite
  · intro _
    exact safe_throw _
  · intro _
    apply Safe.bind (safe_parseUmacHeader small)
    intro header parsed
    have long := parseUmacHeader_ok parsed
    rw [← slice_to_end]
    exact (safe_range long (Nat.le_refl _)).then (safe_pure _)

end HostMessages

/-! ## Control events -/

section ControlEvents
variable (limit)

def mlmeVariableExtents (body : Bytes) : Checked ProtocolError (Nat × Nat) := do
  let frameLen ← readI32 limit body 24
  if frameLen < 0 ∨ 400 < frameLen.toInt.toNat then throw .invalidLength
  else do
    let requestIeLen := (← readU32 limit body 435).toNat
    let required ← addOr limit .invalidLength mlmeFixedBodyLen requestIeLen
    ofResult (requireLen body required)
    let frameEnd ← add limit 28 frameLen.toInt.toNat
    return (frameEnd, required)

def parseMlme (header : UmacHeader) (body : Bytes) : Checked ProtocolError MlmeEvent := do
  ofResult (requireLen body mlmeFixedBodyLen)
  let (frameEnd, required) ← mlmeVariableExtents limit body
  let validFields ← readU32 limit body 0
  let frequencyMhz ← readU32 limit body 4
  let signalDbm ← readI32 limit body 8
  let flags ← readU32 limit body 12
  let cookie ← readU64 limit body 16
  let address ← range body 428 434
  let bssid ← octets .invalidLength 6 address
  let frame ← range body 28 frameEnd
  let requestInformationElements ← range body mlmeFixedBodyLen required
  return { header, validFields, frequencyMhz, signalDbm, flags, cookie, bssid, frame
           requestInformationElements }

def scanResultVariableExtents (body : Bytes) : Checked ProtocolError (Nat × Nat) := do
  let iesLen := (← readU32 limit body 62).toNat
  let beaconLen := (← readU32 limit body 66).toNat
  let iesEnd ← addOr limit .invalidLength scanResultFixedBodyLen iesLen
  let beaconEnd ← addOr limit .invalidLength iesEnd beaconLen
  ofResult (requireLen body beaconEnd)
  return (iesEnd, beaconEnd)

def parseScanResult (header : UmacHeader) (body : Bytes) :
    Checked ProtocolError ScanResultEvent := do
  ofResult (requireLen body scanResultFixedBodyLen)
  let (iesEnd, beaconEnd) ← scanResultVariableExtents limit body
  let signalType ← readU32 limit body 48
  let signal ← readI32 limit body 52
  let validFields ← readU32 limit body 0
  let frequencyMhz ← readU32 limit body 8
  let channelWidth ← readU32 limit body 12
  let seenMsAgo ← readU32 limit body 16
  let status ← readI32 limit body 24
  let address ← range body 56 62
  let bssid ← octets .invalidLength 6 address
  let beaconInterval ← readU16 limit body 44
  let capability ← readU16 limit body 46
  let informationElements ← range body scanResultFixedBodyLen iesEnd
  let beaconInformationElements ← range body iesEnd beaconEnd
  return { header, validFields, frequencyMhz, channelWidth, seenMsAgo, status
           signal := normalizedScanSignal signalType signal
           bssid, beaconInterval, capability, informationElements, beaconInformationElements }

def parseScanDoneEvent (header : UmacHeader) (body : Bytes) :
    Checked ProtocolError ControlEvent := do
  ofResult (requireLen body 8)
  let status ← readI32 limit body 0
  let scanType ← readU32 limit body 4
  return .scanDone header status scanType

def parseScanOrConnectionEvent (header : UmacHeader) (body : Bytes) :
    Checked ProtocolError ControlEvent :=
  if header.commandEvent = UmacEvent.scanDone.number then parseScanDoneEvent limit header body
  else if header.commandEvent = UmacEvent.scanResult.number then do
    let event ← parseScanResult limit header body
    return .scanResult event
  else if header.commandEvent = UmacEvent.authenticate.number then do
    let event ← parseMlme limit header body
    return .authentication event
  else if header.commandEvent = UmacEvent.associate.number then do
    let event ← parseMlme limit header body
    return .association event
  else pure (.other header body)

def parseDisconnectEvent (header : UmacHeader) (body : Bytes) :
    Checked ProtocolError ControlEvent :=
  if header.commandEvent = UmacEvent.deauthenticate.number then do
    let event ← parseMlme limit header body
    return .deauthentication event
  else do
    let event ← parseMlme limit header body
    return .disassociation event

def parseCommandStatusEvent (header : UmacHeader) (body : Bytes) :
    Checked ProtocolError ControlEvent := do
  ofResult (requireLen body 8)
  let command ← readU32 limit body 0
  let status ← readU32 limit body 4
  return .commandStatus header command status

def parseInterfaceStatusEvent (header : UmacHeader) (body : Bytes) :
    Checked ProtocolError ControlEvent := do
  ofResult (requireLen body 4)
  let status ← readI32 limit body 0
  return .interfaceState header status

def parseRegulatoryChangeEvent (header : UmacHeader) (body : Bytes) :
    Checked ProtocolError ControlEvent := do
  ofResult (requireLen body 9)
  let first ← byte body 7
  let second ← byte body 8
  return .regulatoryChange header (first, second)

def parseStatusEvent (header : UmacHeader) (body : Bytes) : Checked ProtocolError ControlEvent :=
  if header.commandEvent = UmacEvent.commandStatus.number then
    parseCommandStatusEvent limit header body
  else if header.commandEvent = UmacEvent.interfaceFlagsStatus.number then
    parseInterfaceStatusEvent limit header body
  else if header.commandEvent = eventRegulatoryChange then
    parseRegulatoryChangeEvent header body
  else pure (.other header body)

def parseControlEvent (message : HostMessage) : Checked ProtocolError ControlEvent := do
  let (header, body) ← parseUmacEvent limit message
  if isScanOrConnectionEvent header.commandEvent then
    parseScanOrConnectionEvent limit header body
  else if isDisconnectEvent header.commandEvent then parseDisconnectEvent limit header body
  else parseStatusEvent limit header body

variable {limit} {header : UmacHeader} {body : Bytes}

theorem requireLen_ok {len : Nat} (enough : requireLen body len = .ok ()) : len ≤ body.length := by
  rw [requireLen, refused_eq_ok] at enough
  exact Nat.not_lt.mp enough.1

/-- A length beyond every word is a length that the body does not have. -/
theorem requireLen_over {α : Type} {len : Nat} (small : body.length < limit) (large : limit ≤ len)
    (rest : Except ProtocolError α) :
    (requireLen body len >>= fun _ => rest) = .error .invalidLength := by
  rw [requireLen, if_pos (by omega)]
  rfl

theorem safe_mlmeVariableExtents (long : mlmeFixedBodyLen ≤ body.length)
    (small : body.length < limit) (wide : 2 ^ 32 ≤ limit) :
    Safe (mlmeVariableExtents limit body) (Nrf7002.mlmeVariableExtents body) := by
  unfold mlmeFixedBodyLen at long
  apply Safe.then (safe_readI32 (by omega) small)
  apply safe_ite
  · intro _
    exact safe_throw _
  · intro bounded
    apply Safe.then (safe_readU32 (by omega) small)
    apply safe_addOr
    · intro _
      apply Safe.bind (safe_ofResult _)
      intro _ _
      apply Safe.then (safe_add (by omega))
      exact safe_pure _
    · intro large
      exact requireLen_over small large _

theorem mlmeVariableExtents_ok {extents : Nat × Nat}
    (parsed : Nrf7002.mlmeVariableExtents body = .ok extents) :
    28 ≤ extents.1 ∧ extents.1 ≤ 428 ∧ mlmeFixedBodyLen ≤ extents.2 ∧
      extents.2 ≤ body.length := by
  rw [Nrf7002.mlmeVariableExtents] at parsed
  split at parsed
  · cases parsed
  · rename_i bounded
    obtain ⟨_, enough, same⟩ := bind_eq_ok.mp parsed
    cases same
    have inside := requireLen_ok enough
    refine ⟨?_, ?_, ?_, inside⟩
    · exact Nat.le_add_right 28 _
    · omega
    · exact Nat.le_add_right mlmeFixedBodyLen _

theorem safe_parseMlme (small : body.length < limit) (wide : 2 ^ 32 ≤ limit) :
    Safe (parseMlme limit header body) (Nrf7002.parseMlme header body) := by
  apply Safe.bind (safe_ofResult _)
  intro _ enough
  have long := requireLen_ok enough
  apply Safe.bind (safe_mlmeVariableExtents long small wide)
  intro extents parsed
  obtain ⟨first, last, after, inside⟩ := mlmeVariableExtents_ok parsed
  unfold mlmeFixedBodyLen at long after
  apply Safe.then (safe_readU32 (by omega) small)
  apply Safe.then (safe_readU32 (by omega) small)
  apply Safe.then (safe_readI32 (by omega) small)
  apply Safe.then (safe_readU32 (by omega) small)
  apply Safe.then (safe_readU64 (by omega) small)
  apply Safe.then (safe_range (by omega) (by omega))
  have sender : 428 + 6 ≤ body.length := by omega
  apply Safe.then (safe_octets sender)
  apply Safe.then (safe_range (by omega) (by omega))
  apply Safe.then (safe_range after inside)
  exact safe_pure _

theorem safe_scanResultVariableExtents (long : scanResultFixedBodyLen ≤ body.length)
    (small : body.length < limit) :
    Safe (scanResultVariableExtents limit body) (Nrf7002.scanResultVariableExtents body) := by
  unfold scanResultFixedBodyLen at long
  apply Safe.then (safe_readU32 (by omega) small)
  apply Safe.then (safe_readU32 (by omega) small)
  apply safe_addOr
  · intro _
    apply safe_addOr
    · intro _
      apply Safe.bind (safe_ofResult _)
      intro _ _
      exact safe_pure _
    · intro large
      exact requireLen_over small large _
  · intro large
    exact requireLen_over small (Nat.le_trans large (Nat.le_add_right _ _)) _

theorem scanResultVariableExtents_ok {extents : Nat × Nat}
    (parsed : Nrf7002.scanResultVariableExtents body = .ok extents) :
    scanResultFixedBodyLen ≤ extents.1 ∧ extents.1 ≤ extents.2 ∧ extents.2 ≤ body.length := by
  rw [Nrf7002.scanResultVariableExtents] at parsed
  obtain ⟨_, enough, same⟩ := bind_eq_ok.mp parsed
  cases same
  exact ⟨Nat.le_add_right _ _, Nat.le_add_right _ _, requireLen_ok enough⟩

theorem safe_parseScanResult (small : body.length < limit) :
    Safe (parseScanResult limit header body) (Nrf7002.parseScanResult header body) := by
  apply Safe.bind (safe_ofResult _)
  intro _ enough
  have long := requireLen_ok enough
  apply Safe.bind (safe_scanResultVariableExtents long small)
  intro extents parsed
  obtain ⟨first, middle, last⟩ := scanResultVariableExtents_ok parsed
  unfold scanResultFixedBodyLen at long
  apply Safe.then (safe_readU32 (by omega) small)
  apply Safe.then (safe_readI32 (by omega) small)
  apply Safe.then (safe_readU32 (by omega) small)
  apply Safe.then (safe_readU32 (by omega) small)
  apply Safe.then (safe_readU32 (by omega) small)
  apply Safe.then (safe_readU32 (by omega) small)
  apply Safe.then (safe_readI32 (by omega) small)
  apply Safe.then (safe_range (by omega) (by omega))
  have sender : 56 + 6 ≤ body.length := by omega
  apply Safe.then (safe_octets sender)
  apply Safe.then (safe_readU16 (by omega) small)
  apply Safe.then (safe_readU16 (by omega) small)
  apply Safe.then (safe_range first (Nat.le_trans middle last))
  apply Safe.then (safe_range middle last)
  exact safe_pure _

/-- An event that wraps a parsed record. -/
theorem safe_wrapped {α : Type} {x : Checked ProtocolError α} {result : Except ProtocolError α}
    (safe : Safe x result) (wrap : α → ControlEvent) :
    Safe (do return wrap (← x)) (wrap <$> result) := by
  have mapped : wrap <$> result = (result >>= fun a => .ok (wrap a)) := by
    cases result <;> rfl
  rw [mapped]
  exact Safe.bind safe fun a _ => safe_pure _

theorem safe_parseScanOrConnectionEvent (small : body.length < limit) (wide : 2 ^ 32 ≤ limit) :
    Safe (parseScanOrConnectionEvent limit header body)
      (Nrf7002.parseScanOrConnectionEvent header body) := by
  apply safe_ite
  · intro _
    apply Safe.bind (safe_ofResult _)
    intro _ enough
    have long := requireLen_ok enough
    apply Safe.then (safe_readI32 (by omega) small)
    apply Safe.then (safe_readU32 (by omega) small)
    exact safe_pure _
  · intro _
    apply safe_ite
    · intro _
      exact safe_wrapped (safe_parseScanResult small) _
    · intro _
      apply safe_ite
      · intro _
        exact safe_wrapped (safe_parseMlme small wide) _
      · intro _
        apply safe_ite
        · intro _
          exact safe_wrapped (safe_parseMlme small wide) _
        · intro _
          exact safe_pure _

theorem safe_parseDisconnectEvent (small : body.length < limit) (wide : 2 ^ 32 ≤ limit) :
    Safe (parseDisconnectEvent limit header body) (Nrf7002.parseDisconnectEvent header body) := by
  apply safe_ite
  · intro _
    exact safe_wrapped (safe_parseMlme small wide) _
  · intro _
    exact safe_wrapped (safe_parseMlme small wide) _

theorem safe_parseStatusEvent (small : body.length < limit) :
    Safe (parseStatusEvent limit header body) (Nrf7002.parseStatusEvent header body) := by
  apply safe_ite
  · intro _
    apply Safe.bind (safe_ofResult _)
    intro _ enough
    have long := requireLen_ok enough
    apply Safe.then (safe_readU32 (by omega) small)
    apply Safe.then (safe_readU32 (by omega) small)
    exact safe_pure _
  · intro _
    apply safe_ite
    · intro _
      apply Safe.bind (safe_ofResult _)
      intro _ enough
      have long := requireLen_ok enough
      apply Safe.then (safe_readI32 (by omega) small)
      exact safe_pure _
    · intro _
      apply safe_ite
      · intro _
        apply Safe.bind (safe_ofResult _)
        intro _ enough
        have long := requireLen_ok enough
        apply Safe.then (safe_byte (by omega))
        apply Safe.then (safe_byte (by omega))
        exact safe_pure _
      · intro _
        exact safe_pure _

theorem safe_parseControlEvent {message : HostMessage} (small : message.payload.length < limit)
    (wide : 2 ^ 32 ≤ limit) :
    Safe (parseControlEvent limit message) (Nrf7002.parseControlEvent message) := by
  apply Safe.bind (safe_parseUmacEvent small)
  intro pair parsed
  have shorter : pair.2.length < limit := by
    rw [Nrf7002.parseUmacEvent] at parsed
    split at parsed
    · cases parsed
    · obtain ⟨_, _, same⟩ := bind_eq_ok.mp parsed
      cases same
      exact Nat.lt_of_le_of_lt (by simp) small
  apply safe_ite
  · intro _
    exact safe_parseScanOrConnectionEvent shorter wide
  · intro _
    apply safe_ite
    · intro _
      exact safe_parseDisconnectEvent shorter wide
    · intro _
      exact safe_parseStatusEvent shorter

end ControlEvents

/-! ## System events -/

section SystemEvents
variable (limit)

def validatedEventBody (payload : Bytes) : Checked ProtocolError (UInt32 × Bytes) :=
  if payload.length < systemHeaderLen then throw .invalidLength
  else do
    let id ← readU32 limit payload 0
    let declared := (← readU32 limit payload 4).toNat
    if declared < systemHeaderLen ∨ payload.length < declared then throw .invalidLength
    else do
      let body ← range payload systemHeaderLen declared
      return (id, body)

def parseSystemEvent (message : HostMessage) : Checked ProtocolError SystemEvent :=
  if message.messageType ≠ .system then throw .wrongMessageType
  else do
    let (id, body) ← validatedEventBody limit message.payload
    ofResult (decodeSystemEvent id body)

variable {limit}

theorem safe_validatedEventBody (small : bytes.length < limit) :
    Safe (validatedEventBody limit bytes) (Nrf7002.validatedEventBody bytes) := by
  apply safe_ite
  · intro _
    exact safe_throw _
  · intro long
    unfold systemHeaderLen at long
    apply Safe.then (safe_readU32 (by omega) small)
    apply Safe.then (safe_readU32 (by omega) small)
    apply safe_ite
    · intro _
      exact safe_throw _
    · intro inside
      apply Safe.then (safe_range (by omega) (by omega))
      exact safe_pure _

theorem safe_parseSystemEvent {message : HostMessage} (small : message.payload.length < limit) :
    Safe (parseSystemEvent limit message) (Nrf7002.parseSystemEvent message) := by
  apply safe_ite
  · intro _
    exact safe_throw _
  · intro _
    apply Safe.bind (safe_validatedEventBody small)
    intro pair _
    exact safe_ofResult _

end SystemEvents

/-! ## Data events -/

section DataEvents
variable (limit)

def validatedDataPayload (message : HostMessage) (expected : DataCommand) (minimumLen : Nat) :
    Checked DataProtocolError (Bytes × Nat) :=
  if message.messageType ≠ .data then throw .wrongMessageType
  else if message.payload.length < minimumLen then throw .invalidLength
  else do
    let command ← readU32 limit message.payload 0
    if command ≠ expected.number then throw (.invalidCommand command)
    else do
      let declared := (← readU32 limit message.payload 4).toNat
      if declared < minimumLen ∨ message.payload.length < declared then throw .invalidLength
      else pure (message.payload, declared)

def validateRxPacketArray (declared : Nat) (packetCount : UInt8) :
    Checked DataProtocolError Unit := do
  let packetBytes ← mulOr limit .invalidLength packetCount.toNat rxInfoLen
  let required ← addOr limit .invalidLength rxEventFixedLen packetBytes
  if declared < required then throw .invalidLength else pure ()

def parseRxEvent (message : HostMessage) : Checked DataProtocolError RxEvent := do
  let (payload, declared) ← validatedDataPayload limit message .receiveBuffer rxEventFixedLen
  let packetCount ← byte payload 13
  validateRxPacketArray limit declared packetCount
  let front ← range payload 0 declared
  let rxPacketType ← readU16 limit payload 8
  let rateFlags ← byte payload 10
  let rate ← byte payload 11
  let wdevId ← byte payload 12
  let macHeaderLen ← byte payload 15
  let frequencyMhz ← readU16 limit payload 16
  let signalDbm ← readU16 limit payload 18
  return { payload := front
           rxPacketType := rxPacketType.toInt16
           rateFlags, rate, wdevId, packetCount, macHeaderLen, frequencyMhz
           signalDbm := signalDbm.toInt16 }

def packet (event : RxEvent) (index : Nat) : Checked DataProtocolError RxPacketInfo :=
  if event.packetCount.toNat ≤ index then throw .invalidPacketIndex
  else do
    let packets ← mul limit index rxInfoLen
    let offset ← add limit rxEventFixedLen packets
    let descriptorId ← readU16 limit event.payload offset
    let lenOffset ← add limit offset 2
    let packetLen ← readU16 limit event.payload lenOffset
    let typeOffset ← add limit offset 4
    let number ← byte event.payload typeOffset
    let payloadType ← ofResult (RxPayloadType.fromU8 number)
    return { descriptorId, packetLen, payloadType }

def parseTxDoneEvent (message : HostMessage) : Checked DataProtocolError TxDoneEvent := do
  let (payload, declared) ← validatedDataPayload limit message .transmitDone txDoneFixedLen
  let statusCount ← byte payload 9
  let required ← addOr limit .invalidLength txDoneFixedLen statusCount.toNat
  if declared ≠ required then throw .invalidLength
  else do
    let token ← byte payload 8
    let statuses ← range payload txDoneFixedLen required
    return { token, statuses }

def classifyTransmitDone (message : HostMessage) : Checked DataProtocolError DataEvent := do
  let event ← parseTxDoneEvent limit message
  return .transmitDone event.token (UInt8.ofNat event.statuses.length)

def classifyCarrier (payload : Bytes) (declared : Nat) (on : Bool) :
    Checked DataProtocolError DataEvent :=
  if declared < 12 then throw .invalidLength
  else do
    let wdevId ← readU32 limit payload 8
    if on then pure (.carrierOn wdevId) else pure (.carrierOff wdevId)

def classifyDataCommand (message : HostMessage) (command : UInt32) (declared : Nat) :
    Checked DataProtocolError DataEvent :=
  if command = 2 then classifyTransmitDone limit message
  else if command = 3 then pure .receive
  else if command = 4 then classifyCarrier limit message.payload declared true
  else if command = 5 then classifyCarrier limit message.payload declared false
  else pure (.other command)

def classifyDataEvent (message : HostMessage) : Checked DataProtocolError DataEvent :=
  if message.messageType ≠ .data then throw .wrongMessageType
  else if message.payload.length < 8 then throw .invalidLength
  else do
    let command ← readU32 limit message.payload 0
    let declared := (← readU32 limit message.payload 4).toNat
    if declared < 8 ∨ message.payload.length < declared then throw .invalidLength
    else classifyDataCommand limit message command declared

variable {limit} {message : HostMessage}

theorem safe_validatedDataPayload (expected : DataCommand) {minimumLen : Nat}
    (header : 8 ≤ minimumLen) (small : message.payload.length < limit) :
    Safe (validatedDataPayload limit message expected minimumLen)
      (Nrf7002.validatedDataPayload message expected minimumLen) := by
  apply safe_ite
  · intro _
    exact safe_throw _
  · intro _
    apply safe_ite
    · intro _
      exact safe_throw _
    · intro long
      apply Safe.then (safe_readU32 (by omega) small)
      apply safe_ite
      · intro _
        exact safe_throw _
      · intro _
        apply Safe.then (safe_readU32 (by omega) small)
        apply safe_ite
        · intro _
          exact safe_throw _
        · intro _
          exact safe_pure _

theorem validatedDataPayload_ok {expected : DataCommand} {minimumLen : Nat} {pair : Bytes × Nat}
    (parsed : Nrf7002.validatedDataPayload message expected minimumLen = .ok pair) :
    message.messageType = .data ∧ pair.1 = message.payload ∧
      Nrf7002.readU32 message.payload 0 = expected.number ∧
      pair.2 = (Nrf7002.readU32 message.payload 4).toNat ∧
      minimumLen ≤ pair.2 ∧ pair.2 ≤ message.payload.length := by
  rw [Nrf7002.validatedDataPayload] at parsed
  split at parsed
  · cases parsed
  · rename_i data
    dsimp only at parsed
    split at parsed
    · cases parsed
    · split at parsed
      · cases parsed
      · rename_i number
        split at parsed
        · cases parsed
        · cases parsed
          exact ⟨not_not.mp data, rfl, not_not.mp number, rfl, by omega, by omega⟩

theorem safe_validateRxPacketArray {declared : Nat} {packetCount : UInt8}
    (small : declared < limit) :
    Safe (validateRxPacketArray limit declared packetCount)
      (Nrf7002.validateRxPacketArray declared packetCount) := by
  have refused (large : limit ≤ rxEventFixedLen + packetCount.toNat * rxInfoLen) :
      Nrf7002.validateRxPacketArray declared packetCount = .error .invalidLength := by
    rw [Nrf7002.validateRxPacketArray, if_pos (by omega)]
  apply safe_mulOr
  · intro _
    apply safe_addOr
    · intro _
      apply safe_ite
      · intro _
        exact safe_throw _
      · intro _
        exact safe_pure _
    · exact refused
  · intro large
    exact refused (Nat.le_trans large (Nat.le_add_left _ _))

theorem validateRxPacketArray_ok {declared : Nat} {packetCount : UInt8}
    (fits : Nrf7002.validateRxPacketArray declared packetCount = .ok ()) :
    rxEventFixedLen + packetCount.toNat * rxInfoLen ≤ declared := by
  rw [Nrf7002.validateRxPacketArray, refused_eq_ok] at fits
  exact Nat.not_lt.mp fits.1

theorem safe_parseRxEvent (small : message.payload.length < limit) :
    Safe (parseRxEvent limit message) (RxEvent.parse message) := by
  apply Safe.bind (safe_validatedDataPayload .receiveBuffer (by decide) small)
  intro pair parsed
  obtain ⟨_, whole, _, _, long, inside⟩ := validatedDataPayload_ok parsed
  unfold rxEventFixedLen at long
  dsimp only
  rw [whole]
  apply Safe.then (safe_byte (by omega))
  apply Safe.bind (safe_validateRxPacketArray (by omega))
  intro _ _
  apply Safe.then (safe_range (Nat.zero_le _) inside)
  apply Safe.then (safe_readU16 (by omega) small)
  apply Safe.then (safe_byte (by omega))
  apply Safe.then (safe_byte (by omega))
  apply Safe.then (safe_byte (by omega))
  apply Safe.then (safe_byte (by omega))
  apply Safe.then (safe_readU16 (by omega) small)
  apply Safe.then (safe_readU16 (by omega) small)
  exact safe_pure _

/-- The packets of a parsed event lie inside its declared length. -/
theorem parseRxEvent_ok {event : RxEvent} (parsed : RxEvent.parse message = .ok event) :
    event.payload = message.payload.take (Nrf7002.readU32 message.payload 4).toNat ∧
      (Nrf7002.readU32 message.payload 4).toNat ≤ message.payload.length ∧
      rxEventFixedLen + event.packetCount.toNat * rxInfoLen ≤ event.payload.length := by
  obtain ⟨pair, validated, rest⟩ := bind_eq_ok.mp parsed
  obtain ⟨_, whole, _, declared, _, inside⟩ := validatedDataPayload_ok validated
  obtain ⟨_, fits, same⟩ := bind_eq_ok.mp rest
  have packets := validateRxPacketArray_ok fits
  cases same
  rw [← declared, ← whole]
  refine ⟨rfl, whole ▸ inside, ?_⟩
  dsimp only
  rw [List.length_take, whole]
  rw [whole] at packets
  omega

theorem safe_packet {event : RxEvent}
    (packets : rxEventFixedLen + event.packetCount.toNat * rxInfoLen ≤ event.payload.length)
    (small : event.payload.length < limit) (index : Nat) :
    Safe (packet limit event index) (event.packet index) := by
  apply safe_ite
  · intro _
    exact safe_throw _
  · intro inside
    have next : (index + 1) * rxInfoLen ≤ event.packetCount.toNat * rxInfoLen :=
      Nat.mul_le_mul_right _ (by omega)
    rw [Nat.add_mul] at next
    unfold rxEventFixedLen rxInfoLen at *
    apply Safe.then (safe_mul (by omega))
    apply Safe.then (safe_add (by omega))
    apply Safe.then (safe_readU16 (by omega) small)
    apply Safe.then (safe_add (by omega))
    apply Safe.then (safe_readU16 (by omega) small)
    apply Safe.then (safe_add (by omega))
    apply Safe.then (safe_byte (by omega))
    apply Safe.bind (safe_ofResult _)
    intro payloadType _
    exact safe_pure _

theorem safe_parseTxDoneEvent (small : message.payload.length < limit) (wide : 2 ^ 32 ≤ limit) :
    Safe (parseTxDoneEvent limit message) (TxDoneEvent.parse message) := by
  apply Safe.bind (safe_validatedDataPayload .transmitDone (by decide) small)
  intro pair parsed
  obtain ⟨_, whole, _, _, long, inside⟩ := validatedDataPayload_ok parsed
  unfold txDoneFixedLen at long
  dsimp only
  rw [whole]
  apply Safe.then (safe_byte (by omega))
  apply safe_addOr
  · intro _
    apply safe_ite
    · intro _
      exact safe_throw _
    · intro same
      apply Safe.then (safe_byte (by omega))
      apply Safe.then (safe_range (Nat.le_add_right _ _) (by omega))
      exact safe_pure _
  · intro large
    have count := UInt8.toNat_lt (message.payload.getD 9 0)
    unfold txDoneFixedLen at large
    omega

theorem safe_classifyCarrier {payload : Bytes} {declared : Nat} (inside : declared ≤ payload.length)
    (small : payload.length < limit) (on : Bool) :
    Safe (classifyCarrier limit payload declared on)
      (Nrf7002.classifyCarrier payload declared on) := by
  apply safe_ite
  · intro _
    exact safe_throw _
  · intro long
    apply Safe.then (safe_readU32 (by omega) small)
    apply safe_ite
    · intro _
      exact safe_pure _
    · intro _
      exact safe_pure _

theorem safe_classifyDataEvent (small : message.payload.length < limit) (wide : 2 ^ 32 ≤ limit) :
    Safe (classifyDataEvent limit message) (Nrf7002.classifyDataEvent message) := by
  apply safe_ite
  · intro _
    exact safe_throw _
  · intro _
    apply safe_ite
    · intro _
      exact safe_throw _
    · intro long
      apply Safe.then (safe_readU32 (by omega) small)
      apply Safe.then (safe_readU32 (by omega) small)
      apply safe_ite
      · intro _
        exact safe_throw _
      · intro inside
        apply safe_ite
        · intro _
          apply Safe.bind (safe_parseTxDoneEvent small wide)
          intro event _
          exact safe_pure _
        · intro _
          apply safe_ite
          · intro _
            exact safe_pure _
          · intro _
            apply safe_ite
            · intro _
              exact safe_classifyCarrier (by omega) small true
            · intro _
              apply safe_ite
              · intro _
                exact safe_classifyCarrier (by omega) small false
              · intro _
                exact safe_pure _

end DataEvents

end Checked

end Nrf7002
