import Nrf7002.Protocol

/-! # Station control codecs and event parsing

The station commands are written straight into caller storage behind one host and
UMAC header; the control events are parsed back from the same layout. -/

set_option autoImplicit false

namespace Nrf7002
open Foundation

def maxStationMessageLen : Nat := 2048
def maxKeyLen : Nat := 256
def maxKeySequenceLen : Nat := 256
def maxIeLen : Nat := 400
def maxSaeLen : Nat := 256
def maxPairwiseCiphers : Nat := 7
def maxAkmSuites : Nat := 2

def rsnCipherCcmp128 : UInt32 := 0x000fac04
def eapolEthertype : UInt16 := 0x888e

def keyInfoLen : Nat := 535
def authBodyLen : Nat := 4 + 1672
def assocBodyLen : Nat := 4 + 1563 + 6
def mlmeFixedBodyLen : Nat := 439
def scanResultFixedBodyLen : Nat := 70
def changeStationInfoLen : Nat := 789

def indexWdevValid : UInt32 := (1 : UInt32) <<< 0
def authKeyInfoValid : UInt32 := (1 : UInt32) <<< 0
def authFrequencyValid : UInt32 := (1 : UInt32) <<< 2
def authSsidValid : UInt32 := (1 : UInt32) <<< 3
def authSaeValid : UInt32 := (1 : UInt32) <<< 5
def authLocalStateChange : UInt16 := (1 : UInt16) <<< 0

def assocPreviousBssidValid : UInt32 := (1 : UInt32) <<< 0
def connectMacValid : UInt32 := (1 : UInt32) <<< 0
def connectFrequencyValid : UInt32 := (1 : UInt32) <<< 2
def connectBgScanValid : UInt32 := (1 : UInt32) <<< 4
def connectSsidValid : UInt32 := (1 : UInt32) <<< 5
def connectWpaIeValid : UInt32 := (1 : UInt32) <<< 6
def connectWpaVersionsValid : UInt32 := (1 : UInt32) <<< 7
def connectPairwiseValid : UInt32 := (1 : UInt32) <<< 8
def connectGroupValid : UInt32 := (1 : UInt32) <<< 9
def connectAkmValid : UInt32 := (1 : UInt32) <<< 10
def connectMfpValid : UInt32 := (1 : UInt32) <<< 11
def connectControlPortEthertypeValid : UInt32 := (1 : UInt32) <<< 12
def connectControlPortNoEncryptValid : UInt32 := (1 : UInt32) <<< 13
def connectPreviousBssidValid : UInt32 := (1 : UInt32) <<< 15
def connectSecurityValid : UInt32 := (1 : UInt32) <<< 16

def wpaVersion2 : UInt32 := (1 : UInt32) <<< 1
def keyDataValid : UInt32 := (1 : UInt32) <<< 0
def keyTypeValid : UInt32 := (1 : UInt32) <<< 1
def keyIndexValid : UInt32 := (1 : UInt32) <<< 2
def keySequenceValid : UInt32 := (1 : UInt32) <<< 3
def keyCipherValid : UInt32 := (1 : UInt32) <<< 4
def keyMacValid : UInt32 := (1 : UInt32) <<< 0
def setStationFlagsValid : UInt32 := (1 : UInt32) <<< 12
def stationFlagAuthorized : UInt32 := (1 : UInt32) <<< 1
def eventRegulatoryChange : UInt32 := 289

/-! ## Requests -/

inductive AuthenticationType where
  | openSystem | sharedKey | fastTransition | networkEap | sae | automatic
  deriving DecidableEq, Repr

def AuthenticationType.number : AuthenticationType → Int32
  | openSystem => 0
  | sharedKey => 1
  | fastTransition => 2
  | networkEap => 3
  | sae => 4
  | automatic => 6

inductive KeyType where
  | group
  | pairwise
  | peer
  deriving DecidableEq, Repr

def KeyType.number : KeyType → Int32
  | group => 0
  | pairwise => 1
  | peer => 2

inductive MfpMode where
  | disabled
  | required
  deriving DecidableEq, Repr

def MfpMode.number : MfpMode → Int32
  | disabled => 0
  | required => 1

inductive PowerSaveState where
  | disabled
  | enabled
  deriving DecidableEq, Repr

def PowerSaveState.number : PowerSaveState → Int32
  | disabled => 0
  | enabled => 1

structure KeyConfig where
  cipherSuite : UInt32
  keyType : KeyType
  keyIndex : UInt8
  key : Bytes
  sequence : Bytes
  flags : UInt16
  deriving DecidableEq

def KeyConfig.pairwise (cipherSuite : UInt32) (keyIndex : UInt8) (key : Bytes) : KeyConfig :=
  { cipherSuite, keyType := .pairwise, keyIndex, key, sequence := [], flags := 0 }

structure BssContext where
  scanWidth : Int32
  signalDbm : Int32
  fromBeacon : Bool
  informationElements : Bytes
  capability : UInt16
  beaconInterval : UInt16
  tsf : UInt64
  deriving DecidableEq

structure AuthenticationRequest where
  frequencyMhz : UInt32
  bssid : Octets 6
  ssid : Bytes
  authType : AuthenticationType
  localStateChange : Bool
  informationElements : Bytes
  saeData : Bytes
  key : Option KeyConfig
  bss : BssContext
  deriving DecidableEq

structure AssociationSecurity where
  pairwiseCiphers : List UInt32
  groupCipher : UInt32
  akmSuites : List UInt32
  mfp : MfpMode
  rsnInformationElement : Bytes
  deriving DecidableEq

structure AssociationRequest where
  frequencyMhz : UInt32
  bssid : Octets 6
  ssid : Bytes
  security : Option AssociationSecurity
  backgroundScanPeriodS : UInt16
  previousBssid : Option (Octets 6)
  bssMaxIdleS : UInt16
  deriving DecidableEq

/-! ## Events -/

structure MlmeEvent where
  header : UmacHeader
  validFields : UInt32
  frequencyMhz : UInt32
  signalDbm : Int32
  flags : UInt32
  cookie : UInt64
  bssid : Octets 6
  frame : Bytes
  requestInformationElements : Bytes
  deriving DecidableEq

structure ScanResultEvent where
  header : UmacHeader
  validFields : UInt32
  frequencyMhz : UInt32
  channelWidth : UInt32
  seenMsAgo : UInt32
  status : Int32
  signal : Int32
  bssid : Octets 6
  beaconInterval : UInt16
  capability : UInt16
  informationElements : Bytes
  beaconInformationElements : Bytes
  deriving DecidableEq

inductive ControlEvent where
  | scanDone (header : UmacHeader) (status : Int32) (scanType : UInt32)
  | scanResult (event : ScanResultEvent)
  | authentication (event : MlmeEvent)
  | association (event : MlmeEvent)
  | deauthentication (event : MlmeEvent)
  | disassociation (event : MlmeEvent)
  | commandStatus (header : UmacHeader) (command status : UInt32)
  | interfaceState (header : UmacHeader) (status : Int32)
  | regulatoryChange (header : UmacHeader) (country : UInt8 × UInt8)
  | other (header : UmacHeader) (body : Bytes)
  deriving DecidableEq

/-! ## Field limits -/

def validateSsid (ssid : Bytes) : Except ProtocolError Unit :=
  if 32 < ssid.length then .error .limitExceeded else .ok ()

def validateIe (ie : Bytes) : Except ProtocolError Unit :=
  if maxIeLen < ie.length then .error .limitExceeded else .ok ()

def validateKey (key : KeyConfig) : Except ProtocolError Unit := do
  if maxKeyLen < key.key.length then throw .limitExceeded
  if maxKeySequenceLen < key.sequence.length then throw .limitExceeded
  if 3 < key.keyIndex then throw .limitExceeded

def validateOptionalKey : Option KeyConfig → Except ProtocolError Unit
  | none => .ok ()
  | some key => validateKey key

def requireLen (bytes : Bytes) (len : Nat) : Except ProtocolError Unit :=
  if bytes.length < len then .error .invalidLength else .ok ()

/-! ## The common command frame -/

def validatedStationMessageLen (outLen bodyLen : Nat) : Except ProtocolError Nat :=
  let total := hostMessageHeaderLen + umacHeaderLen + bodyLen
  if outLen < total then .error .bufferTooSmall
  else if maxStationMessageLen < total then .error .bufferTooSmall
  else .ok total

def writeStationHostHeader (total : Nat) : Encoder := do
  writeU32 (UInt32.ofNat total)
  writeU32 0
  writeI32 HostMessageType.umac.number

def writeStationCommandHeader (command : UmacCommand) : Encoder := do
  writeU32 0
  writeU32 0
  writeU32 command.number
  writeI32 0

def writeStationIndexHeader (wdevId : Option UInt32) : Encoder := do
  writeU32 (if wdevId.isSome then indexWdevValid else 0)
  writeI32 0
  writeI32 0
  writeU64 (wdevId.getD 0).toUInt64

def writeStationHeaders (total : Nat) (command : UmacCommand) (wdevId : Option UInt32) :
    Encoder := do
  writeStationHostHeader total
  writeStationCommandHeader command
  writeStationIndexHeader wdevId

/-- Encodes into the first `total` bytes of the caller's storage. -/
def encodeUmac (command : UmacCommand) (wdevId : Option UInt32) (bodyLen : Nat)
    (encodeBody : Encoder) : Program Bytes ProtocolError Nat := do
  let out ← get
  let total ← liftResult (validatedStationMessageLen out.length bodyLen)
  let written ← onField (·.take total) (fun front out => front ++ out.drop total) <|
    encodeInto do
      writeStationHeaders total command wdevId
      encodeBody
  if written ≠ total then throw .invalidLength
  return total

/-- The two headers of a station command. -/
def stationHeaderBytes (total : Nat) (command : UmacCommand) (wdevId : Option UInt32) : Bytes :=
  (le32 (UInt32.ofNat total) ++ (le32 0 ++ le32 HostMessageType.umac.number.toUInt32)) ++
    ((le32 0 ++ (le32 0 ++ (le32 command.number ++ le32 0))) ++
      (le32 (if wdevId.isSome then indexWdevValid else 0) ++
        (le32 0 ++ (le32 0 ++ le64 (wdevId.getD 0).toUInt64))))

theorem length_stationHeaderBytes (total : Nat) (command : UmacCommand)
    (wdevId : Option UInt32) :
    (stationHeaderBytes total command wdevId).length = hostMessageHeaderLen + umacHeaderLen := by
  simp only [stationHeaderBytes, List.length_append, length_le32, length_le64]
  rfl

theorem writes_stationHeaders (total : Nat) (command : UmacCommand) (wdevId : Option UInt32) :
    Writes (writeStationHeaders total command wdevId)
      (stationHeaderBytes total command wdevId) :=
  ((writes_u32 _).then ((writes_u32 _).then (writes_i32 _))).then
    (((writes_u32 _).then ((writes_u32 _).then ((writes_u32 _).then (writes_i32 _)))).then
      ((writes_u32 _).then ((writes_i32 _).then ((writes_i32 _).then (writes_u64 _)))))

/-- A body encoder that writes the announced number of bytes makes the whole
command succeed exactly when it fits. -/
theorem encodeUmac_spec (command : UmacCommand) (wdevId : Option UInt32) {body : Encoder}
    {value : Bytes} (writes : Writes body value) (out : Bytes) :
    Post (encodeUmac command wdevId value.length body) out fun result after =>
      let total := hostMessageHeaderLen + umacHeaderLen + value.length
      match result with
      | .ok len => total ≤ out.length ∧ total ≤ maxStationMessageLen ∧ len = total ∧
          after = stationHeaderBytes total command wdevId ++ value ++ out.drop total
      | .error failure => failure = .bufferTooSmall ∧
          (out.length < total ∨ maxStationMessageLen < total) := by
  simp only [encodeUmac, post_bind, post_get, post_liftResult, validatedStationMessageLen]
  by_cases short : out.length < hostMessageHeaderLen + umacHeaderLen + value.length
  · simp only [if_pos short]
    exact ⟨trivial, .inl short⟩
  by_cases long : maxStationMessageLen < hostMessageHeaderLen + umacHeaderLen + value.length
  · simp only [if_neg short, if_pos long]
    exact ⟨trivial, .inr long⟩
  simp only [if_neg short, if_neg long, post_onField]
  have whole : (stationHeaderBytes (hostMessageHeaderLen + umacHeaderLen + value.length) command
      wdevId ++ value).length = hostMessageHeaderLen + umacHeaderLen + value.length := by
    rw [List.length_append, length_stationHeaderBytes]
  have front : (out.take (hostMessageHeaderLen + umacHeaderLen + value.length)).length =
      hostMessageHeaderLen + umacHeaderLen + value.length := by
    rw [List.length_take]
    omega
  refine (((writes_stationHeaders _ command wdevId).then writes).encodeInto _).mono ?_
  rintro result after ⟨_, outcome⟩
  rw [whole, front] at outcome
  cases result with
  | error failure => exact absurd outcome.2 (Nat.lt_irrefl _)
  | ok written =>
      obtain ⟨rfl, rfl⟩ := outcome
      simp only [ne_eq, not_true_eq_false, if_false, post_pure]
      refine ⟨Nat.not_lt.mp short, Nat.not_lt.mp long, trivial, ?_⟩
      rw [List.drop_eq_nil_of_le (Nat.le_of_eq front), List.append_nil]

/-! ## Keys -/

def writeKeyInfoHeader (key : KeyConfig) (valid : UInt32) : Encoder := do
  writeU32 valid
  writeU32 key.cipherSuite
  writeU16 key.flags
  writeI32 key.keyType.number

def writeKeyInfoMaterial (key : KeyConfig) : Encoder := do
  writeU32 (UInt32.ofNat key.key.length)
  fixed key.key maxKeyLen
  writeI32 (Int32.ofNat key.sequence.length)
  fixed key.sequence maxKeySequenceLen
  writeU8 key.keyIndex

def keyInfoValidFields (key : KeyConfig) : UInt32 :=
  keyTypeValid ||| keyIndexValid ||| keyCipherValid
    ||| (if key.key.isEmpty then 0 else keyDataValid)
    ||| (if key.sequence.isEmpty then 0 else keySequenceValid)

def writeKeyInfo : Option KeyConfig → Encoder
  | none => zeros keyInfoLen
  | some key => do
      writeKeyInfoHeader key (keyInfoValidFields key)
      writeKeyInfoMaterial key

/-- Only the index is a valid field of a default key; the selection flags travel
on their own. -/
def writeDefaultKeyHeader (key : KeyConfig) : Encoder := do
  writeU32 keyIndexValid
  writeU32 0
  writeU16 key.flags
  writeI32 0

def writeDefaultKeyMaterial (key : KeyConfig) : Encoder := do
  writeU32 0
  zeros maxKeyLen
  writeI32 0
  zeros maxKeySequenceLen
  writeU8 key.keyIndex

def writeDefaultKeyInfo (key : KeyConfig) : Encoder := do
  writeDefaultKeyHeader key
  writeDefaultKeyMaterial key

def validateKeyCommand (command : UmacCommand) : Except ProtocolError Unit :=
  if command ≠ .newKey ∧ command ≠ .deleteKey then .error (.invalidValue command.number)
  else .ok ()

def writeKeyCommandBody (peer : Option (Octets 6)) (key : KeyConfig) : Encoder := do
  writeU32 (if peer.isSome then keyMacValid else 0)
  writeKeyInfo (some key)
  writeBytes (peer.getD (zeroOctets 6)).1

def encodeKeyCommand (wdevId : UInt32) (command : UmacCommand) (peer : Option (Octets 6))
    (key : KeyConfig) : Program Bytes ProtocolError Nat := do
  liftResult (validateKeyCommand command)
  liftResult (validateKey key)
  encodeUmac command (some wdevId) (4 + keyInfoLen + 6) (writeKeyCommandBody peer key)

def encodeSetKey (wdevId : UInt32) (key : KeyConfig) : Program Bytes ProtocolError Nat := do
  liftResult (validateKey key)
  encodeUmac .setKey (some wdevId) keyInfoLen (writeDefaultKeyInfo key)

/-! ## Authentication -/

def writeSsid (value : Bytes) : Encoder := do
  liftResult (validateSsid value)
  writeU8 (UInt8.ofNat value.length)
  fixed value 32

def writeIe (value : Bytes) : Encoder := do
  liftResult (validateIe value)
  writeU16 (UInt16.ofNat value.length)
  fixed value maxIeLen

def validateAuthenticationRequest (request : AuthenticationRequest) :
    Except ProtocolError Unit := do
  validateSsid request.ssid
  validateIe request.informationElements
  validateIe request.bss.informationElements
  if maxSaeLen < request.saeData.length then throw .limitExceeded
  validateOptionalKey request.key

def authenticationValidFields (request : AuthenticationRequest) : UInt32 :=
  authFrequencyValid ||| authSsidValid
    ||| (if request.key.isSome then authKeyInfoValid else 0)
    ||| (if request.saeData.isEmpty then 0 else authSaeValid)

def writeAuthenticationHeader (request : AuthenticationRequest) : Encoder := do
  writeU32 (authenticationValidFields request)
  writeU32 request.frequencyMhz
  writeU16 (if request.localStateChange then authLocalStateChange else 0)
  writeI32 request.authType.number

def writeAuthenticationSecurity (request : AuthenticationRequest) : Encoder := do
  writeKeyInfo request.key
  writeSsid request.ssid
  writeIe request.informationElements

def writeAuthenticationSae (request : AuthenticationRequest) : Encoder := do
  writeI32 (Int32.ofNat request.saeData.length)
  fixed request.saeData maxSaeLen
  writeBytes request.bssid.1

def writeAuthenticationBssObservation (bss : BssContext) : Encoder := do
  writeI32 bss.scanWidth
  writeI32 bss.signalDbm
  writeI32 (if bss.fromBeacon then 1 else 0)
  writeIe bss.informationElements

def writeAuthenticationBssTiming (bss : BssContext) : Encoder := do
  writeU16 bss.capability
  writeU16 bss.beaconInterval
  writeU64 bss.tsf

def writeAuthenticationBss (request : AuthenticationRequest) : Encoder := do
  writeAuthenticationBssObservation request.bss
  writeAuthenticationBssTiming request.bss

def writeAuthenticationBody (request : AuthenticationRequest) : Encoder := do
  writeAuthenticationHeader request
  writeAuthenticationSecurity request
  writeAuthenticationSae request
  writeAuthenticationBss request

def encodeAuthenticate (wdevId : UInt32) (request : AuthenticationRequest) :
    Program Bytes ProtocolError Nat := do
  liftResult (validateAuthenticationRequest request)
  encodeUmac .authenticate (some wdevId) authBodyLen (writeAuthenticationBody request)

/-! ## Association -/

def validateAssociationSecurityCounts (security : AssociationSecurity) :
    Except ProtocolError Unit := do
  if security.pairwiseCiphers.isEmpty ∨ maxPairwiseCiphers < security.pairwiseCiphers.length then
    throw .limitExceeded
  if security.akmSuites.isEmpty ∨ maxAkmSuites < security.akmSuites.length then
    throw .limitExceeded

def validateAssociationRequest (request : AssociationRequest) : Except ProtocolError Unit := do
  validateSsid request.ssid
  match request.security with
  | none => return ()
  | some security =>
      validateIe security.rsnInformationElement
      validateAssociationSecurityCounts security

def associationSecurityFields : UInt32 :=
  connectWpaIeValid ||| connectWpaVersionsValid ||| connectPairwiseValid ||| connectGroupValid
    ||| connectAkmValid ||| connectMfpValid ||| connectSecurityValid

def associationValidFields (request : AssociationRequest) : UInt32 :=
  connectMacValid ||| connectFrequencyValid ||| connectSsidValid
    ||| connectControlPortEthertypeValid ||| connectControlPortNoEncryptValid
    ||| (if request.backgroundScanPeriodS ≠ 0 then connectBgScanValid else 0)
    ||| (if request.previousBssid.isSome then connectPreviousBssidValid else 0)
    ||| (if request.security.isSome then associationSecurityFields else 0)

def writeAssociationValidity (request : AssociationRequest) : Encoder := do
  writeU32 (if request.previousBssid.isSome then assocPreviousBssidValid else 0)
  writeU32 (associationValidFields request)

def writeAssociationFrequency (request : AssociationRequest) : Encoder := do
  writeU32 request.frequencyMhz
  writeU32 0
  writeU32 (if request.security.isSome then wpaVersion2 else 0)

def writeAssociationHeader (request : AssociationRequest) : Encoder := do
  writeAssociationValidity request
  writeAssociationFrequency request

def writeAssociationGroupAndAkm (security : Option AssociationSecurity) : Encoder := do
  writeU32 ((security.map (·.groupCipher)).getD 0)
  let akm := (security.map (·.akmSuites)).getD []
  writeU32 (UInt32.ofNat akm.length)
  fixedU32 akm maxAkmSuites
  writeI32 ((security.map (·.mfp.number)).getD MfpMode.disabled.number)

def writeAssociationCiphers (security : Option AssociationSecurity) : Encoder := do
  let pairwise := (security.map (·.pairwiseCiphers)).getD []
  writeI32 (Int32.ofNat pairwise.length)
  fixedU32 pairwise maxPairwiseCiphers
  writeAssociationGroupAndAkm security

def writeAssociationNetworkNames (request : AssociationRequest) : Encoder := do
  writeSsid request.ssid
  writeIe ((request.security.map (·.rsnInformationElement)).getD [])

def writeAssociationNetwork (request : AssociationRequest) : Encoder := do
  writeU32 0
  writeU16 request.backgroundScanPeriodS
  writeBytes request.bssid.1
  writeBytes (zeroOctets 6).1
  writeAssociationNetworkNames request

def writeAssociationControlPort : Encoder := do
  writeU32 0
  writeU16 0
  zeros (4 * 256)
  writeU16 eapolEthertype
  writeU8 1
  writeU8 1

def writeAssociationPreviousBssid (request : AssociationRequest) : Encoder := do
  let previous := request.previousBssid.getD (zeroOctets 6)
  writeBytes previous.1
  writeU16 request.bssMaxIdleS
  writeBytes previous.1

def writeAssociationBody (request : AssociationRequest) : Encoder := do
  writeAssociationHeader request
  writeAssociationCiphers request.security
  writeAssociationNetwork request
  writeAssociationControlPort
  writeAssociationPreviousBssid request

def encodeAssociate (wdevId : UInt32) (request : AssociationRequest) :
    Program Bytes ProtocolError Nat := do
  liftResult (validateAssociationRequest request)
  encodeUmac .associate (some wdevId) assocBodyLen (writeAssociationBody request)

/-! ## Interface, regulatory, power-save and station commands -/

def encodeInterfaceState (wdevId : UInt32) (up : Bool) (firmwareIndex : Int8) :
    Program Bytes ProtocolError Nat :=
  encodeUmac .setInterfaceFlags (some wdevId) 5 do
    writeI32 (if up then 1 else 0)
    writeU8 firmwareIndex.toUInt8

def isAsciiAlphabetic (value : UInt8) : Bool :=
  (0x41 ≤ value && value ≤ 0x5a) || (0x61 ≤ value && value ≤ 0x7a)

/-- The world domain "00" or two letters. -/
def isCountryCode (country : UInt8 × UInt8) : Bool :=
  country = (0x30, 0x30) || (isAsciiAlphabetic country.1 && isAsciiAlphabetic country.2)

def encodeSetRegulatory (_wdevId : UInt32) (country : UInt8 × UInt8) (userHintType : UInt32)
    (force : Bool) : Program Bytes ProtocolError Nat := do
  if isCountryCode country then
    encodeUmac .requestSetRegulatory none 10 do
      writeU32 ((1 : UInt32) ||| ((1 : UInt32) <<< 1)
        ||| (if force then (1 : UInt32) <<< 2 else 0))
      writeU32 userHintType
      writeBytes [country.1, country.2]
  else
    throw (.invalidValue (UInt32.ofNat (beNat [country.1, country.2])))

def encodePowerSave (wdevId : UInt32) (state : PowerSaveState) :
    Program Bytes ProtocolError Nat :=
  encodeUmac .setPowerSave (some wdevId) 4 (writeI32 state.number)

def encodePowerSaveTimeout (wdevId : UInt32) (timeoutMs : Int32) :
    Program Bytes ProtocolError Nat :=
  encodeUmac .setPowerSaveTimeout (some wdevId) 4 (writeI32 timeoutMs)

def writeStationAuthorizedFlags (authorized : Bool) : Encoder := do
  writeU32 setStationFlagsValid
  zeros 260
  writeU32 stationFlagAuthorized
  writeU32 (if authorized then stationFlagAuthorized else 0)

def writeStationAuthorizedBody (peer : Octets 6) (authorized : Bool) : Encoder := do
  writeStationAuthorizedFlags authorized
  zeros 512
  writeBytes peer.1
  zeros 3

def encodeStationAuthorized (wdevId : UInt32) (peer : Octets 6) (authorized : Bool) :
    Program Bytes ProtocolError Nat :=
  encodeUmac .setStation (some wdevId) (4 + changeStationInfoLen)
    (writeStationAuthorizedBody peer authorized)

/-! ## Parsing events -/

def mlmeVariableExtents (body : Bytes) : Except ProtocolError (Nat × Nat) := do
  let frameLen := readI32 body 24
  if frameLen < 0 ∨ 400 < frameLen.toInt.toNat then throw .invalidLength
  let requestIeLen := (readU32 body 435).toNat
  let required := mlmeFixedBodyLen + requestIeLen
  requireLen body required
  return (28 + frameLen.toInt.toNat, required)

def parseMlme (header : UmacHeader) (body : Bytes) : Except ProtocolError MlmeEvent := do
  requireLen body mlmeFixedBodyLen
  let (frameEnd, required) ← mlmeVariableExtents body
  return {
    header
    validFields := readU32 body 0
    frequencyMhz := readU32 body 4
    signalDbm := readI32 body 8
    flags := readU32 body 12
    cookie := readU64 body 16
    bssid := octetsAt body 428 6
    frame := slice body 28 frameEnd
    requestInformationElements := slice body mlmeFixedBodyLen required }

def scanResultVariableExtents (body : Bytes) : Except ProtocolError (Nat × Nat) := do
  let iesEnd := scanResultFixedBodyLen + (readU32 body 62).toNat
  let beaconEnd := iesEnd + (readU32 body 66).toNat
  requireLen body beaconEnd
  return (iesEnd, beaconEnd)

/-- Signal type 2 counts hundredths; the division drops towards zero. -/
def normalizedScanSignal (signalType : UInt32) (signal : Int32) : Int32 :=
  if signalType = 2 then Int32.ofInt (signal.toInt.tdiv 100) else signal

def parseScanResult (header : UmacHeader) (body : Bytes) :
    Except ProtocolError ScanResultEvent := do
  requireLen body scanResultFixedBodyLen
  let (iesEnd, beaconEnd) ← scanResultVariableExtents body
  return {
    header
    validFields := readU32 body 0
    frequencyMhz := readU32 body 8
    channelWidth := readU32 body 12
    seenMsAgo := readU32 body 16
    status := readI32 body 24
    signal := normalizedScanSignal (readU32 body 48) (readI32 body 52)
    bssid := octetsAt body 56 6
    beaconInterval := readU16 body 44
    capability := readU16 body 46
    informationElements := slice body scanResultFixedBodyLen iesEnd
    beaconInformationElements := slice body iesEnd beaconEnd }

def parseScanDoneEvent (header : UmacHeader) (body : Bytes) :
    Except ProtocolError ControlEvent := do
  requireLen body 8
  return .scanDone header (readI32 body 0) (readU32 body 4)

def parseScanOrConnectionEvent (header : UmacHeader) (body : Bytes) :
    Except ProtocolError ControlEvent :=
  if header.commandEvent = UmacEvent.scanDone.number then parseScanDoneEvent header body
  else if header.commandEvent = UmacEvent.scanResult.number then
    ControlEvent.scanResult <$> parseScanResult header body
  else if header.commandEvent = UmacEvent.authenticate.number then
    ControlEvent.authentication <$> parseMlme header body
  else if header.commandEvent = UmacEvent.associate.number then
    ControlEvent.association <$> parseMlme header body
  else .ok (.other header body)

def parseDisconnectEvent (header : UmacHeader) (body : Bytes) :
    Except ProtocolError ControlEvent :=
  if header.commandEvent = UmacEvent.deauthenticate.number then
    ControlEvent.deauthentication <$> parseMlme header body
  else
    ControlEvent.disassociation <$> parseMlme header body

def parseCommandStatusEvent (header : UmacHeader) (body : Bytes) :
    Except ProtocolError ControlEvent := do
  requireLen body 8
  return .commandStatus header (readU32 body 0) (readU32 body 4)

def parseInterfaceStatusEvent (header : UmacHeader) (body : Bytes) :
    Except ProtocolError ControlEvent := do
  requireLen body 4
  return .interfaceState header (readI32 body 0)

def parseRegulatoryChangeEvent (header : UmacHeader) (body : Bytes) :
    Except ProtocolError ControlEvent := do
  requireLen body 9
  return .regulatoryChange header (byteAt body 7, byteAt body 8)

def parseStatusEvent (header : UmacHeader) (body : Bytes) : Except ProtocolError ControlEvent :=
  if header.commandEvent = UmacEvent.commandStatus.number then
    parseCommandStatusEvent header body
  else if header.commandEvent = UmacEvent.interfaceFlagsStatus.number then
    parseInterfaceStatusEvent header body
  else if header.commandEvent = eventRegulatoryChange then
    parseRegulatoryChangeEvent header body
  else .ok (.other header body)

def isScanOrConnectionEvent (event : UInt32) : Bool := 259 ≤ event && event ≤ 263

def isDisconnectEvent (event : UInt32) : Bool :=
  event = UmacEvent.deauthenticate.number || event = UmacEvent.disassociate.number

def parseControlEvent (message : HostMessage) : Except ProtocolError ControlEvent := do
  let (header, body) ← parseUmacEvent message
  if isScanOrConnectionEvent header.commandEvent then parseScanOrConnectionEvent header body
  else if isDisconnectEvent header.commandEvent then parseDisconnectEvent header body
  else parseStatusEvent header body

end Nrf7002
