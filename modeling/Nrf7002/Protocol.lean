import Nrf7002.Codec

/-! # Packed host/RPU protocol codecs

The common host message, the UMAC header behind it, the queue map that firmware
publishes, and the short control commands.  Fields are written one after another
in little-endian order. -/

set_option autoImplicit false

namespace Nrf7002
open Foundation

def hostMessageHeaderLen : Nat := 12
def umacHeaderLen : Nat := 36
def maxControlMessageLen : Nat := 1024
def hpqmInfoLen : Nat := 56
def maxSsidLen : Nat := 32
def maxScanIeLen : Nat := 400
def maxScanSsids : Nat := 2
def maxScanFrequencies : Nat := 64
def maxUmacInnerLen : Nat := maxControlMessageLen - hostMessageHeaderLen
def maxScanBodyLen : Nat := maxUmacInnerLen - umacHeaderLen

def boolU16 (value : Bool) : UInt16 := if value then 1 else 0
def boolU32 (value : Bool) : UInt32 := if value then 1 else 0
def boolU8 (value : Bool) : UInt8 := if value then 1 else 0

/-! ## Host messages -/

inductive HostMessageType where
  | system
  | supplicant
  | data
  | umac
  deriving DecidableEq, Repr

namespace HostMessageType

def number : HostMessageType → Int32
  | system => 0
  | supplicant => 1
  | data => 2
  | umac => 3

def fromI32 (value : Int32) : Except ProtocolError HostMessageType :=
  if value = 0 then .ok system
  else if value = 1 then .ok supplicant
  else if value = 2 then .ok data
  else if value = 3 then .ok umac
  else .error (.invalidValue value.toUInt32)

theorem fromI32_number (messageType : HostMessageType) :
    fromI32 messageType.number = .ok messageType := by
  cases messageType <;> rfl

end HostMessageType

structure HostMessage where
  resubmit : Bool
  messageType : HostMessageType
  payload : Bytes
  deriving DecidableEq

def validatedHostMessageLen (outLen payloadLen : Nat) : Except ProtocolError Nat :=
  let total := hostMessageHeaderLen + payloadLen
  if outLen < total then .error .bufferTooSmall
  else if 0xffffffff < total then .error .bufferTooSmall
  else .ok total

def encodeHostMessage (messageType : HostMessageType) (resubmit : Bool) (payload : Bytes) :
    Program Bytes ProtocolError Nat := do
  let out ← get
  let total ← liftResult (validatedHostMessageLen out.length payload.length)
  encodeInto do
    writeU32 (UInt32.ofNat total)
    writeU32 (boolU32 resubmit)
    writeI32 messageType.number
    writeBytes payload

/-- The bytes of a complete host message. -/
def hostMessageBytes (messageType : HostMessageType) (resubmit : Bool) (payload : Bytes) :
    Bytes :=
  le32 (UInt32.ofNat (hostMessageHeaderLen + payload.length)) ++
    (le32 (boolU32 resubmit) ++ (le32 messageType.number.toUInt32 ++ payload))

theorem length_hostMessageBytes (messageType : HostMessageType) (resubmit : Bool)
    (payload : Bytes) : (hostMessageBytes messageType resubmit payload).length =
      hostMessageHeaderLen + payload.length := by
  simp only [hostMessageBytes, List.length_append, length_le32, hostMessageHeaderLen]
  omega

theorem encodeHostMessage_spec (messageType : HostMessageType) (resubmit : Bool)
    (payload out : Bytes) (small : hostMessageHeaderLen + payload.length ≤ 0xffffffff) :
    Post (encodeHostMessage messageType resubmit payload) out fun result after =>
      match result with
      | .ok len => hostMessageHeaderLen + payload.length ≤ out.length ∧
          len = hostMessageHeaderLen + payload.length ∧
          after = hostMessageBytes messageType resubmit payload ++ out.drop len
      | .error _ => out.length < hostMessageHeaderLen + payload.length := by
  have writes : Writes (do
      writeU32 (UInt32.ofNat (hostMessageHeaderLen + payload.length))
      writeU32 (boolU32 resubmit)
      writeI32 messageType.number
      writeBytes payload) (hostMessageBytes messageType resubmit payload) :=
    (writes_u32 _).then ((writes_u32 _).then ((writes_i32 _).then (writes_bytes payload)))
  simp only [encodeHostMessage, post_bind, post_get, post_liftResult, validatedHostMessageLen]
  by_cases fits : out.length < hostMessageHeaderLen + payload.length
  · simp only [if_pos fits]
    exact fits
  · simp only [if_neg fits, if_neg (Nat.not_lt.mpr small)]
    refine (writes.encodeInto out).mono ?_
    rintro result after ⟨_, outcome⟩
    rw [length_hostMessageBytes] at outcome
    cases result with
    | ok len =>
        obtain ⟨rfl, rfl⟩ := outcome
        exact ⟨Nat.not_lt.mp fits, rfl, rfl⟩
    | error failure => exact outcome.2

def parseHostMessage (bytes : Bytes) : Except ProtocolError HostMessage := do
  if bytes.length < hostMessageHeaderLen then throw .invalidLength
  let declared := (readU32 bytes 0).toNat
  if declared < hostMessageHeaderLen ∨ bytes.length < declared then throw .invalidLength
  let resubmit := readU32 bytes 4 ≠ 0
  let messageType ← HostMessageType.fromI32 (readI32 bytes 8)
  return { resubmit, messageType, payload := slice bytes hostMessageHeaderLen declared }

/-- What was encoded is parsed back, whatever follows it. -/
theorem parseHostMessage_bytes (messageType : HostMessageType) (resubmit : Bool)
    (payload rest : Bytes) (small : hostMessageHeaderLen + payload.length ≤ 0xffffffff) :
    parseHostMessage (hostMessageBytes messageType resubmit payload ++ rest) =
      .ok { resubmit, messageType, payload } := by
  let parts := [le32 (UInt32.ofNat (hostMessageHeaderLen + payload.length)),
    le32 (boolU32 resubmit), le32 messageType.number.toUInt32, payload, rest]
  have whole : hostMessageBytes messageType resubmit payload ++ rest = parts.flatten := by
    simp [hostMessageBytes, parts]
  have length : parts.flatten.length = hostMessageHeaderLen + payload.length + rest.length := by
    rw [← whole, List.length_append, length_hostMessageBytes]
  have declared : (readU32 parts.flatten 0).toNat = hostMessageHeaderLen + payload.length := by
    have word : readU32 parts.flatten 0 =
        UInt32.ofNat (hostMessageHeaderLen + payload.length) :=
      readU32_part (show parts[0]? = _ from rfl) rfl
    rw [word, UInt32.toNat_ofNat', Nat.mod_eq_of_lt (by omega)]
  have flag : readU32 parts.flatten 4 = boolU32 resubmit :=
    readU32_part (show parts[1]? = _ from rfl) rfl
  have kind : readI32 parts.flatten 8 = messageType.number :=
    readI32_part (show parts[2]? = _ from rfl) rfl
  have body : slice parts.flatten hostMessageHeaderLen (hostMessageHeaderLen + payload.length) =
      payload := slice_part (show parts[3]? = _ from rfl) rfl rfl
  rw [whole, parseHostMessage, if_neg (by omega), declared, if_neg (by omega), flag, kind,
    HostMessageType.fromI32_number, body]
  cases resubmit <;> rfl

/-! ## The queue map -/

structure Hpq where
  enqueueAddress : UInt32
  dequeueAddress : UInt32
  deriving DecidableEq, Repr

structure HpqmInfo where
  eventBusy : Hpq
  eventAvailable : Hpq
  commandBusy : Hpq
  commandAvailable : Hpq
  rxBufferBusy : Hpq × Hpq × Hpq
  deriving DecidableEq, Repr

def readHpq (bytes : Bytes) (offset : Nat) : Hpq :=
  { enqueueAddress := readU32 bytes offset, dequeueAddress := readU32 bytes (offset + 4) }

def HpqmInfo.parse (bytes : Bytes) : Except ProtocolError HpqmInfo :=
  if bytes.length < hpqmInfoLen then .error .invalidLength
  else .ok
    { eventBusy := readHpq bytes 0
      eventAvailable := readHpq bytes 8
      commandBusy := readHpq bytes 16
      commandAvailable := readHpq bytes 24
      rxBufferBusy := (readHpq bytes 32, readHpq bytes 40, readHpq bytes 48) }

/-! ## The UMAC layer -/

structure InterfaceIds where
  ifaceindex : Option Int32 := none
  wiphyIndex : Option Int32 := none
  wdevId : Option UInt64 := none
  deriving DecidableEq

namespace InterfaceIds

def wdevValid : UInt32 := (1 : UInt32) <<< 0
def ifindexValid : UInt32 := (1 : UInt32) <<< 1
def wiphyValid : UInt32 := (1 : UInt32) <<< 2

def validMask (ids : InterfaceIds) : UInt32 :=
  (if ids.wdevId.isSome then wdevValid else 0)
    ||| (if ids.ifaceindex.isSome then ifindexValid else 0)
    ||| (if ids.wiphyIndex.isSome then wiphyValid else 0)

def encode (ids : InterfaceIds) : Encoder := do
  writeU32 ids.validMask
  writeI32 (ids.ifaceindex.getD 0)
  writeI32 (ids.wiphyIndex.getD 0)
  writeU64 (ids.wdevId.getD 0)

end InterfaceIds

structure UmacHeader where
  portId : UInt32
  sequence : UInt32
  commandEvent : UInt32
  result : Int32
  validIds : UInt32
  ifaceindex : Int32
  wiphyIndex : Int32
  wdevId : UInt64
  deriving DecidableEq

def UmacHeader.parse (bytes : Bytes) : Except ProtocolError UmacHeader :=
  if bytes.length < umacHeaderLen then .error .invalidLength
  else .ok
    { portId := readU32 bytes 0
      sequence := readU32 bytes 4
      commandEvent := readU32 bytes 8
      result := readI32 bytes 12
      validIds := readU32 bytes 16
      ifaceindex := readI32 bytes 20
      wiphyIndex := readI32 bytes 24
      wdevId := readU64 bytes 28 }

inductive UmacCommand where
  | triggerScan | getScanResults | authenticate | associate | deauthenticate | setWiphy
  | newKey | deleteKey | setKey | newInterface | setInterface | deleteInterface
  | setInterfaceFlags | newStation | deleteStation | setStation | getStation | registerFrame
  | frame | setPowerSave | getChannel | getTxPower | getInterface | getWiphy
  | getInterfaceHardwareAddress | setInterfaceHardwareAddress | getRegulatory
  | requestSetRegulatory | configureUapsd | configureTwt | teardownTwt | abortScan
  | multicastFilter | changeMacAddress | setPowerSaveTimeout | getConnectionInfo
  | getPowerSaveInfo | setListenInterval | configureExtendedPowerSave | configureQuietPeriod
  | powerSaveExitStrategy
  deriving DecidableEq, Repr

def UmacCommand.number : UmacCommand → UInt32
  | triggerScan => 0
  | getScanResults => 1
  | authenticate => 2
  | associate => 3
  | deauthenticate => 4
  | setWiphy => 5
  | newKey => 6
  | deleteKey => 7
  | setKey => 8
  | newInterface => 15
  | setInterface => 16
  | deleteInterface => 17
  | setInterfaceFlags => 18
  | newStation => 19
  | deleteStation => 20
  | setStation => 21
  | getStation => 22
  | registerFrame => 29
  | frame => 30
  | setPowerSave => 33
  | getChannel => 38
  | getTxPower => 39
  | getInterface => 40
  | getWiphy => 41
  | getInterfaceHardwareAddress => 42
  | setInterfaceHardwareAddress => 43
  | getRegulatory => 44
  | requestSetRegulatory => 46
  | configureUapsd => 47
  | configureTwt => 48
  | teardownTwt => 49
  | abortScan => 50
  | multicastFilter => 51
  | changeMacAddress => 52
  | setPowerSaveTimeout => 53
  | getConnectionInfo => 54
  | getPowerSaveInfo => 55
  | setListenInterval => 56
  | configureExtendedPowerSave => 57
  | configureQuietPeriod => 58
  | powerSaveExitStrategy => 59

inductive UmacEvent where
  | scanDone | scanResult | authenticate | associate | deauthenticate | disassociate
  | interfaceFlagsStatus | newInterface | commandStatus
  deriving DecidableEq, Repr

def UmacEvent.number : UmacEvent → UInt32
  | scanDone => 259
  | scanResult => 260
  | authenticate => 261
  | associate => 262
  | deauthenticate => 264
  | disassociate => 265
  | interfaceFlagsStatus => 275
  | newInterface => 281
  | commandStatus => 292

def writeUmacHeader (command : UmacCommand) (ids : InterfaceIds) : Encoder := do
  writeU32 0
  writeU32 0
  writeU32 command.number
  writeI32 0
  ids.encode

def validatedUmacInnerLen (bodyLen : Nat) : Except ProtocolError Nat :=
  let innerLen := umacHeaderLen + bodyLen
  if maxUmacInnerLen < innerLen then .error .limitExceeded else .ok innerLen

/-- Encodes into a fresh zeroed array of `size` bytes; returns the count written
and the array. -/
def encodeFresh (size : Nat) (x : Encoder) : Except ProtocolError (Nat × Bytes) :=
  match encodeInto x (List.replicate size 0) with
  | .ok written bytes => .ok (written, bytes)
  | .error failure _ => .error failure

def encodeUmacCommand (command : UmacCommand) (ids : InterfaceIds) (body : Bytes) :
    Program Bytes ProtocolError Nat := do
  let innerLen ← liftResult (validatedUmacInnerLen body.length)
  let (_, inner) ← liftResult (encodeFresh innerLen do
    writeUmacHeader command ids
    writeBytes body)
  encodeHostMessage .umac false inner

/-- An encoder that writes exactly the size of the array fills it. -/
theorem encodeFresh_eq {x : Encoder} {value : Bytes} (writes : Writes x value) :
    encodeFresh value.length x = .ok (value.length, value) := by
  have run := (writes.encodeInto (List.replicate value.length 0)).ends
  rw [encodeFresh]
  simp only [resultOf, stateAfter] at run
  cases outcome : encodeInto x (List.replicate value.length 0) with
  | ok written bytes =>
      rw [outcome] at run
      obtain ⟨_, rfl, rfl⟩ := run
      simp
  | error failure bytes =>
      rw [outcome] at run
      exact absurd run.2.2 (by simp)

def umacHeaderBytes (command : UmacCommand) (ids : InterfaceIds) : Bytes :=
  le32 0 ++ (le32 0 ++ (le32 command.number ++ (le32 0 ++
    (le32 ids.validMask ++ (le32 (ids.ifaceindex.getD 0).toUInt32 ++
      (le32 (ids.wiphyIndex.getD 0).toUInt32 ++ le64 (ids.wdevId.getD 0)))))))

theorem length_umacHeaderBytes (command : UmacCommand) (ids : InterfaceIds) :
    (umacHeaderBytes command ids).length = umacHeaderLen := by
  simp only [umacHeaderBytes, List.length_append, length_le32, length_le64]
  rfl

/-- The header of a command is parsed back in front of any body. -/
theorem UmacHeader.parse_bytes (command : UmacCommand) (ids : InterfaceIds) (body : Bytes) :
    UmacHeader.parse (umacHeaderBytes command ids ++ body) = .ok
      { portId := 0
        sequence := 0
        commandEvent := command.number
        result := 0
        validIds := ids.validMask
        ifaceindex := ids.ifaceindex.getD 0
        wiphyIndex := ids.wiphyIndex.getD 0
        wdevId := ids.wdevId.getD 0 } := by
  let parts := [le32 0, le32 0, le32 command.number, le32 (0 : Int32).toUInt32,
    le32 ids.validMask, le32 (ids.ifaceindex.getD 0).toUInt32,
    le32 (ids.wiphyIndex.getD 0).toUInt32, le64 (ids.wdevId.getD 0), body]
  have whole : umacHeaderBytes command ids ++ body = parts.flatten := by
    simp only [umacHeaderBytes, parts, List.flatten_cons, List.flatten_nil, List.append_assoc,
      List.append_nil]
    rfl
  have long : ¬ parts.flatten.length < umacHeaderLen := by
    rw [← whole, List.length_append, length_umacHeaderBytes]
    omega
  have port : readU32 parts.flatten 0 = 0 := readU32_part (show parts[0]? = _ from rfl) rfl
  have sequence : readU32 parts.flatten 4 = 0 := readU32_part (show parts[1]? = _ from rfl) rfl
  have number : readU32 parts.flatten 8 = command.number :=
    readU32_part (show parts[2]? = _ from rfl) rfl
  have result : readI32 parts.flatten 12 = 0 := readI32_part (show parts[3]? = _ from rfl) rfl
  have mask : readU32 parts.flatten 16 = ids.validMask :=
    readU32_part (show parts[4]? = _ from rfl) rfl
  have iface : readI32 parts.flatten 20 = ids.ifaceindex.getD 0 :=
    readI32_part (show parts[5]? = _ from rfl) rfl
  have wiphy : readI32 parts.flatten 24 = ids.wiphyIndex.getD 0 :=
    readI32_part (show parts[6]? = _ from rfl) rfl
  have wdev : readU64 parts.flatten 28 = ids.wdevId.getD 0 :=
    readU64_part (show parts[7]? = _ from rfl) rfl
  rw [whole, UmacHeader.parse, if_neg long, port, sequence, number, result, mask, iface, wiphy,
    wdev]

theorem writes_umacHeader (command : UmacCommand) (ids : InterfaceIds) :
    Writes (writeUmacHeader command ids) (umacHeaderBytes command ids) :=
  (writes_u32 _).then ((writes_u32 _).then ((writes_u32 _).then ((writes_i32 _).then
    ((writes_u32 _).then ((writes_i32 _).then ((writes_i32 _).then (writes_u64 _)))))))

theorem encodeUmacCommand_spec (command : UmacCommand) (ids : InterfaceIds) (body out : Bytes)
    (small : umacHeaderLen + body.length ≤ maxUmacInnerLen) :
    Post (encodeUmacCommand command ids body) out fun result after =>
      let payload := umacHeaderBytes command ids ++ body
      match result with
      | .ok len => hostMessageHeaderLen + payload.length ≤ out.length ∧
          len = hostMessageHeaderLen + payload.length ∧
          after = hostMessageBytes .umac false payload ++ out.drop len
      | .error _ => out.length < hostMessageHeaderLen + payload.length := by
  have length : (umacHeaderBytes command ids ++ body).length = umacHeaderLen + body.length := by
    rw [List.length_append, length_umacHeaderBytes]
  have fresh : encodeFresh (umacHeaderLen + body.length) (do
      writeUmacHeader command ids
      writeBytes body) =
      .ok (umacHeaderLen + body.length, umacHeaderBytes command ids ++ body) := by
    rw [← length]
    exact encodeFresh_eq ((writes_umacHeader command ids).then (writes_bytes body))
  simp only [encodeUmacCommand, validatedUmacInnerLen, if_neg (Nat.not_lt.mpr small), post_bind,
    post_liftResult, fresh]
  refine encodeHostMessage_spec .umac false _ out ?_
  rw [length]
  have bound : maxUmacInnerLen = 1012 := rfl
  have header : hostMessageHeaderLen = 12 := rfl
  omega

def parseUmacEvent (message : HostMessage) : Except ProtocolError (UmacHeader × Bytes) := do
  if message.messageType ≠ .umac then throw .wrongMessageType
  let header ← UmacHeader.parse message.payload
  return (header, message.payload.drop umacHeaderLen)

/-! ## Interface, scan and deauthentication commands -/

inductive InterfaceType where
  | unspecified | adHoc | station | accessPoint | apVlan | wds | monitor | mesh | p2pClient
  | p2pGroupOwner | p2pDevice
  deriving DecidableEq, Repr

def InterfaceType.number : InterfaceType → Int32
  | unspecified => 0
  | adHoc => 1
  | station => 2
  | accessPoint => 3
  | apVlan => 4
  | wds => 5
  | monitor => 6
  | mesh => 7
  | p2pClient => 8
  | p2pGroupOwner => 9
  | p2pDevice => 10

def writeNewInterfaceMetadata (interfaceType : InterfaceType) : Encoder := do
  writeU32 (((1 : UInt32) <<< 1) ||| ((1 : UInt32) <<< 2) ||| ((1 : UInt32) <<< 3))
  writeI32 interfaceType.number
  writeI32 0
  writeU32 0

def writeNewInterfaceIdentity (macAddress : Octets 6) (interfaceName : Bytes) : Encoder := do
  writeBytes macAddress.1
  fixed interfaceName 16

def encodeNewInterface (wdevId : UInt32) (interfaceType : InterfaceType)
    (macAddress : Octets 6) (interfaceName : Bytes) : Program Bytes ProtocolError Nat := do
  if 16 < interfaceName.length then throw .limitExceeded
  let (_, body) ← liftResult (encodeFresh 38 do
    writeNewInterfaceMetadata interfaceType
    writeNewInterfaceIdentity macAddress interfaceName)
  encodeUmacCommand .newInterface { wdevId := some wdevId.toUInt64 } body

inductive ScanReason where
  | display
  | connect
  deriving DecidableEq, Repr

def ScanReason.number : ScanReason → Int32
  | display => 0
  | connect => 1

structure ScanRequest where
  reason : ScanReason
  passive : Bool
  ssids : { ssids : List Bytes // ssids.length = maxScanSsids }
  ssidCount : UInt8
  bands : UInt8
  noCck : Bool
  informationElements : Bytes
  macAddress : Octets 6
  activeDwellMs : UInt16
  passiveDwellMs : UInt16
  skipLocalAdminMacs : Bool
  centerFrequenciesMhz : List UInt32
  deriving DecidableEq

def validateScanCapacities (request : ScanRequest) : Except ProtocolError Unit := do
  if maxScanSsids < request.ssidCount.toNat then throw .limitExceeded
  if maxScanFrequencies < request.centerFrequenciesMhz.length then throw .limitExceeded
  if maxScanIeLen < request.informationElements.length then throw .limitExceeded

def validateScanSsids (request : ScanRequest) : Except ProtocolError Unit :=
  if (request.ssids.1.take request.ssidCount.toNat).all (·.length ≤ maxSsidLen) then .ok ()
  else .error .limitExceeded

def validateScanRequest (request : ScanRequest) : Except ProtocolError Unit := do
  validateScanCapacities request
  validateScanSsids request

def scanBodyLen (frequencyCount : Nat) : Except ProtocolError Nat :=
  let bodyLen := 4 + 486 + frequencyCount * 4
  if maxScanBodyLen < bodyLen then .error .limitExceeded else .ok bodyLen

def writeScanHeader (request : ScanRequest) : Encoder := do
  writeI32 request.reason.number
  writeU16 (boolU16 request.passive)
  writeU8 request.ssidCount

def writeScanSsid (ssid : Bytes) : Encoder := do
  writeU8 (UInt8.ofNat ssid.length)
  fixed ssid maxSsidLen

/-- Writes the directed SSIDs from `index` on; a slot past the count is empty. -/
def writeScanSsidsFrom (request : ScanRequest) : List Bytes → Nat → Encoder
  | [], _ => pure ()
  | ssid :: rest, index => do
      writeScanSsid (if index < request.ssidCount.toNat then ssid else [])
      writeScanSsidsFrom request rest (index + 1)

def writeScanSsids (request : ScanRequest) : Encoder :=
  writeScanSsidsFrom request request.ssids.1 0

def writeScanTiming (request : ScanRequest) : Encoder := do
  writeU16 request.activeDwellMs
  writeU16 request.passiveDwellMs
  writeU16 (UInt16.ofNat request.centerFrequenciesMhz.length)
  writeU8 (boolU8 request.skipLocalAdminMacs)

def writeScanOptions (request : ScanRequest) : Encoder := do
  writeU8 (boolU8 request.noCck)
  writeU8 request.bands
  writeU16 (UInt16.ofNat request.informationElements.length)
  fixed request.informationElements maxScanIeLen
  writeBytes request.macAddress.1
  writeScanTiming request

def writeScanFrequencies (frequencies : List UInt32) : Encoder := writeWords frequencies

def writeScanBody (request : ScanRequest) : Encoder := do
  writeScanHeader request
  writeScanSsids request
  writeScanOptions request
  writeScanFrequencies request.centerFrequenciesMhz

def encodeScan (wdevId : UInt32) (request : ScanRequest) :
    Program Bytes ProtocolError Nat := do
  liftResult (validateScanRequest request)
  let bodyLen ← liftResult (scanBodyLen request.centerFrequenciesMhz.length)
  let (written, body) ← liftResult (encodeFresh bodyLen (writeScanBody request))
  if written ≠ bodyLen then throw .invalidLength
  encodeUmacCommand .triggerScan { wdevId := some wdevId.toUInt64 } body

def encodeGetScanResults (wdevId : UInt32) (reason : ScanReason) :
    Program Bytes ProtocolError Nat :=
  encodeUmacCommand .getScanResults { wdevId := some wdevId.toUInt64 }
    (le32 reason.number.toUInt32)

def writeDeauthenticateBody (bssid : Octets 6) (reasonCode : UInt16) (localStateChange : Bool) :
    Encoder := do
  writeU32 1
  writeU16 (boolU16 localStateChange)
  writeU16 reasonCode
  writeBytes bssid.1

def deauthenticateBytes (bssid : Octets 6) (reasonCode : UInt16) (localStateChange : Bool) :
    Bytes :=
  le32 1 ++ (le16 (boolU16 localStateChange) ++ (le16 reasonCode ++ bssid.1))

theorem length_deauthenticateBytes (bssid : Octets 6) (reasonCode : UInt16)
    (localStateChange : Bool) :
    (deauthenticateBytes bssid reasonCode localStateChange).length = 14 := by
  simp only [deauthenticateBytes, List.length_append, length_le32, length_le16, bssid.2]

theorem writes_deauthenticateBody (bssid : Octets 6) (reasonCode : UInt16)
    (localStateChange : Bool) :
    Writes (writeDeauthenticateBody bssid reasonCode localStateChange)
      (deauthenticateBytes bssid reasonCode localStateChange) :=
  (writes_u32 _).then ((writes_u16 _).then ((writes_u16 _).then (writes_bytes _)))

def encodeDeauthenticate (wdevId : UInt32) (bssid : Octets 6) (reasonCode : UInt16)
    (localStateChange : Bool) : Program Bytes ProtocolError Nat := do
  let (_, body) ← liftResult (encodeFresh 14
    (writeDeauthenticateBody bssid reasonCode localStateChange))
  encodeUmacCommand .deauthenticate { wdevId := some wdevId.toUInt64 } body

theorem encodeDeauthenticate_spec (wdevId : UInt32) (bssid : Octets 6) (reasonCode : UInt16)
    (localStateChange : Bool) (out : Bytes) :
    Post (encodeDeauthenticate wdevId bssid reasonCode localStateChange) out fun result after =>
      match result with
      | .ok len => 62 ≤ out.length ∧ len = 62 ∧
          after = hostMessageBytes .umac false
            (umacHeaderBytes .deauthenticate { wdevId := some wdevId.toUInt64 } ++
              deauthenticateBytes bssid reasonCode localStateChange) ++ out.drop len
      | .error _ => out.length < 62 := by
  have fresh : encodeFresh 14 (writeDeauthenticateBody bssid reasonCode localStateChange) =
      .ok (14, deauthenticateBytes bssid reasonCode localStateChange) := by
    rw [← length_deauthenticateBytes bssid reasonCode localStateChange]
    exact encodeFresh_eq (writes_deauthenticateBody bssid reasonCode localStateChange)
  simp only [encodeDeauthenticate, fresh, post_bind, post_liftResult]
  have spec := encodeUmacCommand_spec .deauthenticate { wdevId := some wdevId.toUInt64 }
    (deauthenticateBytes bssid reasonCode localStateChange) out
    (by rw [length_deauthenticateBytes]; decide)
  simpa only [List.length_append, length_umacHeaderBytes, length_deauthenticateBytes,
    hostMessageHeaderLen, umacHeaderLen] using spec

/-! ## Data headers -/

inductive DataCommand where
  | managementBufferConfig | transmitBuffer | transmitDone | receiveBuffer | carrierOn
  | carrierOff | powerManagementMode | powerSaveGetFrames
  deriving DecidableEq, Repr

def DataCommand.number : DataCommand → UInt32
  | managementBufferConfig => 0
  | transmitBuffer => 1
  | transmitDone => 2
  | receiveBuffer => 3
  | carrierOn => 4
  | carrierOff => 5
  | powerManagementMode => 6
  | powerSaveGetFrames => 7

structure DataHeader where
  command : UInt32
  length : UInt32
  deriving DecidableEq

def DataHeader.parse (bytes : Bytes) : Except ProtocolError DataHeader :=
  if bytes.length < 8 then .error .invalidLength
  else .ok { command := readU32 bytes 0, length := readU32 bytes 4 }

end Nrf7002
