import Nrf7002.Wpa2.Keys

/-! # EAPOL-Key frames

The parser of a received frame, its message category, its MIC, and the responses of
the supplicant.  A frame is written as the list of its fields; the parser is shown to
read every field of such a frame back. -/

set_option autoImplicit false

namespace Nrf7002
open Foundation

section Offsets

def eapolHeaderLen : Nat := 4
def eapolKeyFixedBodyLen : Nat := 95
def eapolKeyMinLen : Nat := eapolHeaderLen + eapolKeyFixedBodyLen
def eapolPacketTypeKey : UInt8 := 3
def rsnKeyDescriptorType : UInt8 := 2
def keyMicStart : Nat := 81
def keyMicEnd : Nat := 97
def keyDataLengthOffset : Nat := 97
def keyDataOffset : Nat := 99

end Offsets

/-! ## Key information -/

section KeyInfo

def keyInfoVersionMask : UInt16 := 0x0007
def keyInfoPairwise : UInt16 := (1 : UInt16) <<< 3
def keyInfoInstall : UInt16 := (1 : UInt16) <<< 6
def keyInfoAck : UInt16 := (1 : UInt16) <<< 7
def keyInfoMic : UInt16 := (1 : UInt16) <<< 8
def keyInfoSecure : UInt16 := (1 : UInt16) <<< 9
def keyInfoError : UInt16 := (1 : UInt16) <<< 10
def keyInfoRequest : UInt16 := (1 : UInt16) <<< 11
def keyInfoEncrypted : UInt16 := (1 : UInt16) <<< 12
def keyInfoSmk : UInt16 := (1 : UInt16) <<< 13
def keyDescriptorVersionHmacSha1Aes : UInt16 := 2

/-- Parsed EAPOL-Key message category. -/
inductive EapolKeyMessage where
  | pairwiseMessage1
  | pairwiseMessage2
  | pairwiseMessage3
  | pairwiseMessage4
  | groupMessage1
  | groupMessage2
  | other
  deriving DecidableEq, Repr

structure EapolKeyInfo where
  value : UInt16
  deriving DecidableEq, Repr

namespace EapolKeyInfo

def descriptorVersion (info : EapolKeyInfo) : UInt8 := (info.value &&& keyInfoVersionMask).toUInt8

def isPairwise (info : EapolKeyInfo) : Bool := info.value &&& keyInfoPairwise ≠ 0
def install (info : EapolKeyInfo) : Bool := info.value &&& keyInfoInstall ≠ 0
def ack (info : EapolKeyInfo) : Bool := info.value &&& keyInfoAck ≠ 0
def mic (info : EapolKeyInfo) : Bool := info.value &&& keyInfoMic ≠ 0
def secure (info : EapolKeyInfo) : Bool := info.value &&& keyInfoSecure ≠ 0
def encryptedKeyData (info : EapolKeyInfo) : Bool := info.value &&& keyInfoEncrypted ≠ 0

def classifyPairwise (ack mic install secure : Bool) : EapolKeyMessage :=
  match ack, mic, install, secure with
  | true, false, false, false => .pairwiseMessage1
  | false, true, false, false => .pairwiseMessage2
  | true, true, true, true => .pairwiseMessage3
  | false, true, false, true => .pairwiseMessage4
  | _, _, _, _ => .other

def classifyGroup (ack mic install secure : Bool) : EapolKeyMessage :=
  match ack, mic, install, secure with
  | true, true, _, true => .groupMessage1
  | false, true, false, true => .groupMessage2
  | _, _, _, _ => .other

def classify (info : EapolKeyInfo) : EapolKeyMessage :=
  if info.value &&& (keyInfoError ||| keyInfoRequest ||| keyInfoSmk) ≠ 0 then .other
  else if info.isPairwise then classifyPairwise info.ack info.mic info.install info.secure
  else classifyGroup info.ack info.mic info.install info.secure

end EapolKeyInfo

end KeyInfo

/-! ## Parsing -/

section Parsing

def readBe16 (bytes : Bytes) (offset : Nat) : UInt16 :=
  UInt16.ofNat (beNat (slice bytes offset (offset + 2)))

def readBe64 (bytes : Bytes) (offset : Nat) : UInt64 :=
  UInt64.ofNat (beNat (slice bytes offset (offset + 8)))

structure EapolKeyFrame where
  bytes : Bytes
  keyInfo : EapolKeyInfo
  keyData : Bytes
  deriving DecidableEq

def validateEapolSize (bytes : Bytes) : Except Wpa2Error Unit :=
  if bytes.length < eapolKeyMinLen then .error .frameTooShort
  else if maxEapolFrameLen < bytes.length then .error .frameTooLarge
  else .ok ()

def validateEapolHeader (bytes : Bytes) : Except Wpa2Error Unit :=
  if ¬ (byteAt bytes 0 = 1 ∨ byteAt bytes 0 = 2) then
    .error (.unsupportedProtocolVersion (byteAt bytes 0))
  else if byteAt bytes 1 ≠ eapolPacketTypeKey then .error .notEapolKey
  else if byteAt bytes 4 ≠ rsnKeyDescriptorType then .error .unsupportedDescriptor
  else .ok ()

def eapolTotalLength (bytes : Bytes) : Except Wpa2Error Nat :=
  if eapolHeaderLen + (readBe16 bytes 2).toNat ≠ bytes.length
      ∨ (readBe16 bytes 2).toNat < eapolKeyFixedBodyLen then
    .error .lengthMismatch
  else .ok (eapolHeaderLen + (readBe16 bytes 2).toNat)

def eapolKeyDataEnd (bytes : Bytes) : Nat :=
  keyDataOffset + (readBe16 bytes keyDataLengthOffset).toNat

namespace EapolKeyFrame

def parse (bytes : Bytes) : Except Wpa2Error EapolKeyFrame := do
  validateEapolSize bytes
  validateEapolHeader bytes
  let total ← eapolTotalLength bytes
  if eapolKeyDataEnd bytes ≠ total then .error .lengthMismatch
  else
    .ok
      { bytes
        keyInfo := ⟨readBe16 bytes 5⟩
        keyData := slice bytes keyDataOffset (eapolKeyDataEnd bytes) }

def protocolVersion (frame : EapolKeyFrame) : UInt8 := byteAt frame.bytes 0
def message (frame : EapolKeyFrame) : EapolKeyMessage := frame.keyInfo.classify
def keyLength (frame : EapolKeyFrame) : UInt16 := readBe16 frame.bytes 7
def replayCounter (frame : EapolKeyFrame) : UInt64 := readBe64 frame.bytes 9
def nonce (frame : EapolKeyFrame) : Octets 32 := octetsAt frame.bytes 17 32
def keyReceiveSequence (frame : EapolKeyFrame) : Octets 8 := octetsAt frame.bytes 65 8
def mic (frame : EapolKeyFrame) : Octets 16 := octetsAt frame.bytes keyMicStart 16

variable (crypto : Wpa2Crypto)

def digest (frame : EapolKeyFrame) : Octets 32 := crypto.sha256 frame.bytes

/-- The frame with its MIC field zeroed, which is what the MIC covers. -/
def micMessage (frame : EapolKeyFrame) : Bytes :=
  frame.bytes.take keyMicStart ++ List.replicate (keyMicEnd - keyMicStart) 0
    ++ frame.bytes.drop keyMicEnd

def verifyMic (frame : EapolKeyFrame) (ptk : Ptk) : Bool :=
  (crypto.hmacSha1 ptk.kck.1 frame.micMessage).1.take 16 = frame.mic.1

end EapolKeyFrame

theorem validateEapolSize_ok {bytes : Bytes} :
    validateEapolSize bytes = .ok () ↔
      eapolKeyMinLen ≤ bytes.length ∧ bytes.length ≤ maxEapolFrameLen := by
  simp only [validateEapolSize, refused_eq_ok, not_lt, and_true]

theorem validateEapolHeader_ok {bytes : Bytes} :
    validateEapolHeader bytes = .ok () ↔
      (byteAt bytes 0 = 1 ∨ byteAt bytes 0 = 2) ∧ byteAt bytes 1 = eapolPacketTypeKey ∧
        byteAt bytes 4 = rsnKeyDescriptorType := by
  simp only [validateEapolHeader, refused_eq_ok, not_not, and_true]

theorem eapolTotalLength_ok {bytes : Bytes} {total : Nat} :
    eapolTotalLength bytes = .ok total ↔
      total = bytes.length ∧ eapolHeaderLen + (readBe16 bytes 2).toNat = total ∧
        eapolKeyMinLen ≤ bytes.length := by
  rw [eapolTotalLength, refused_eq_ok]
  simp only [Except.ok.injEq, eapolKeyMinLen, eapolHeaderLen, eapolKeyFixedBodyLen]
  omega

/-- The byte strings that are one complete EAPOL-Key frame. -/
structure EapolKeyFrame.Accepts (bytes : Bytes) : Prop where
  long : eapolKeyMinLen ≤ bytes.length
  short : bytes.length ≤ maxEapolFrameLen
  version : byteAt bytes 0 = 1 ∨ byteAt bytes 0 = 2
  packetType : byteAt bytes 1 = eapolPacketTypeKey
  descriptor : byteAt bytes 4 = rsnKeyDescriptorType
  body : eapolHeaderLen + (readBe16 bytes 2).toNat = bytes.length
  data : eapolKeyDataEnd bytes = bytes.length

theorem parse_iff {bytes : Bytes} {frame : EapolKeyFrame} :
    EapolKeyFrame.parse bytes = .ok frame ↔
      EapolKeyFrame.Accepts bytes ∧
        frame = ⟨bytes, ⟨readBe16 bytes 5⟩, bytes.drop keyDataOffset⟩ := by
  rw [EapolKeyFrame.parse, check_bind_eq_ok, validateEapolSize_ok, check_bind_eq_ok,
    validateEapolHeader_ok, bind_eq_ok]
  simp only [eapolTotalLength_ok, refused_eq_ok, not_not, Except.ok.injEq]
  have untruncated := slice_to_end bytes keyDataOffset
  constructor
  · rintro ⟨⟨long, short⟩, ⟨version, packetType, descriptor⟩, _, ⟨rfl, body, _⟩, data, rfl⟩
    refine ⟨⟨long, short, version, packetType, descriptor, body, data⟩, ?_⟩
    rw [data, untruncated]
  · rintro ⟨accepts, rfl⟩
    refine ⟨⟨accepts.long, accepts.short⟩,
      ⟨accepts.version, accepts.packetType, accepts.descriptor⟩, bytes.length,
      ⟨rfl, accepts.body, accepts.long⟩, accepts.data, ?_⟩
    rw [accepts.data, untruncated]

end Parsing

/-! ## Writing -/

section Writing

/-- The fields of a frame, but for its MIC. -/
structure EapolKeyFields where
  protocolVersion : UInt8
  keyInfo : UInt16
  keyLength : UInt16
  replayCounter : UInt64
  nonce : Octets 32
  receiveSequence : Octets 8
  keyData : Bytes

namespace EapolKeyFields

def parts (fields : EapolKeyFields) (mic : Octets 16) : List Bytes :=
  [[fields.protocolVersion, eapolPacketTypeKey],
    be16 (UInt16.ofNat (eapolKeyFixedBodyLen + fields.keyData.length)),
    [rsnKeyDescriptorType],
    be16 fields.keyInfo,
    be16 fields.keyLength,
    be64 fields.replayCounter,
    fields.nonce.1,
    List.replicate 16 0,
    fields.receiveSequence.1,
    List.replicate 8 0,
    mic.1,
    be16 (UInt16.ofNat fields.keyData.length),
    fields.keyData]

def encode (fields : EapolKeyFields) (mic : Octets 16) : Bytes := (fields.parts mic).flatten

variable (crypto : Wpa2Crypto)

/-- The MIC over the frame with a zero MIC field. -/
def signature (fields : EapolKeyFields) (ptk : Ptk) : Octets 16 :=
  octetsAt (crypto.hmacSha1 ptk.kck.1 (fields.encode (zeroOctets 16))).1 0 16

def signed (fields : EapolKeyFields) (ptk : Ptk) : Bytes :=
  fields.encode (fields.signature crypto ptk)

variable (fields : EapolKeyFields) (mic : Octets 16)

theorem map_length_parts :
    (fields.parts mic).map List.length =
      [2, 2, 1, 2, 2, 8, 32, 16, 8, 8, 16, 2, fields.keyData.length] := by
  simp [parts, fields.nonce.2, fields.receiveSequence.2, mic.2]

theorem length_encode :
    (fields.encode mic).length = eapolKeyMinLen + fields.keyData.length := by
  rw [encode, List.length_flatten, map_length_parts]
  simp [eapolKeyMinLen, eapolHeaderLen, eapolKeyFixedBodyLen]
  omega

/-- The part at `index` starts at `first`, which is the length of the parts before it. -/
theorem slice_encode (index first : Nat) {part : Bytes}
    (present : (fields.parts mic)[index]? = some part)
    (starts : (([2, 2, 1, 2, 2, 8, 32, 16, 8, 8, 16, 2, fields.keyData.length] : List Nat).take
      index).sum = first) :
    slice (fields.encode mic) first (first + part.length) = part :=
  slice_part present (by rw [map_length_parts, starts]) rfl

theorem readBe16_encode (index first : Nat) {value : UInt16}
    (present : (fields.parts mic)[index]? = some (be16 value))
    (starts : (([2, 2, 1, 2, 2, 8, 32, 16, 8, 8, 16, 2, fields.keyData.length] : List Nat).take
      index).sum = first) :
    readBe16 (fields.encode mic) first = value := by
  have whole := fields.slice_encode mic index first present starts
  rw [length_be16] at whole
  rw [readBe16, whole, ofNat_beNat_be16]

theorem octetsAt_encode (index first : Nat) {width : Nat} {value : Octets width}
    (present : (fields.parts mic)[index]? = some value.1)
    (starts : (([2, 2, 1, 2, 2, 8, 32, 16, 8, 8, 16, 2, fields.keyData.length] : List Nat).take
      index).sum = first)
    (inside : first + width ≤ eapolKeyMinLen) :
    octetsAt (fields.encode mic) first width = value := by
  have whole := fields.slice_encode mic index first present starts
  rw [value.2] at whole
  apply Subtype.ext
  rw [octetsAt_eq_slice (by rw [length_encode]; omega), whole]

/-- The bytes before and after the MIC are those of any other MIC. -/
theorem around_mic :
    (fields.encode mic).take keyMicStart ++ List.replicate (keyMicEnd - keyMicStart) 0
      ++ (fields.encode mic).drop keyMicEnd = fields.encode (zeroOctets 16) := by
  have front : ((fields.parts mic).take 10).flatten.length = keyMicStart := by
    rw [List.length_flatten, List.map_take, map_length_parts]
    rfl
  have back : ((fields.parts mic).take 11).flatten.length = keyMicEnd := by
    rw [List.length_flatten, List.map_take, map_length_parts]
    rfl
  have before : (fields.encode mic).take keyMicStart = ((fields.parts mic).take 10).flatten := by
    rw [encode, ← List.take_append_drop 10 (fields.parts mic), List.flatten_append]
    exact List.take_left' front
  have after : (fields.encode mic).drop keyMicEnd = ((fields.parts mic).drop 11).flatten := by
    rw [encode, ← List.take_append_drop 11 (fields.parts mic), List.flatten_append]
    exact List.drop_left' back
  rw [before, after]
  simp [encode, parts, zeroOctets, keyMicEnd, keyMicStart]

/-- The parser reads a written frame back. -/
theorem parse_encode (version : fields.protocolVersion = 1 ∨ fields.protocolVersion = 2)
    (fits : eapolKeyMinLen + fields.keyData.length ≤ maxEapolFrameLen) :
    EapolKeyFrame.parse (fields.encode mic) =
      .ok ⟨fields.encode mic, ⟨fields.keyInfo⟩, fields.keyData⟩ := by
  have bodyLength := fields.readBe16_encode mic 1 2 rfl rfl
  have info := fields.readBe16_encode mic 3 5 rfl rfl
  have dataLength := fields.readBe16_encode mic 11 97 rfl rfl
  have data : (fields.encode mic).drop keyDataOffset = fields.keyData := by
    have whole := fields.slice_encode mic 12 99 rfl rfl
    rwa [slice, Nat.add_sub_cancel_left, List.take_of_length_le] at whole
    rw [List.length_drop, length_encode]
    exact Nat.le_of_eq (Nat.add_sub_cancel_left _ _)
  have length := fields.length_encode mic
  simp only [eapolKeyMinLen, eapolHeaderLen, eapolKeyFixedBodyLen, maxEapolFrameLen] at fits length
  refine parse_iff.mpr ⟨⟨?_, ?_, version, rfl, rfl, ?_, ?_⟩, ?_⟩
  · simp only [eapolKeyMinLen, eapolHeaderLen, eapolKeyFixedBodyLen]
    omega
  · simp only [maxEapolFrameLen]
    omega
  · rw [bodyLength, UInt16.toNat_ofNat', length]
    simp only [eapolHeaderLen, eapolKeyFixedBodyLen]
    omega
  · rw [eapolKeyDataEnd, keyDataLengthOffset, dataLength, UInt16.toNat_ofNat', length]
    simp only [keyDataOffset]
    omega
  · rw [info, data]

/-! The fields of the frame that the parser returns. -/

theorem keyLength_written :
    EapolKeyFrame.keyLength ⟨fields.encode mic, ⟨fields.keyInfo⟩, fields.keyData⟩ =
      fields.keyLength :=
  fields.readBe16_encode mic 4 7 rfl rfl

theorem replayCounter_written :
    EapolKeyFrame.replayCounter ⟨fields.encode mic, ⟨fields.keyInfo⟩, fields.keyData⟩ =
      fields.replayCounter := by
  have counter := fields.slice_encode mic 5 9 rfl rfl
  rw [length_be64] at counter
  rw [EapolKeyFrame.replayCounter, readBe64, counter, ofNat_beNat_be64]

theorem nonce_written :
    EapolKeyFrame.nonce ⟨fields.encode mic, ⟨fields.keyInfo⟩, fields.keyData⟩ = fields.nonce :=
  fields.octetsAt_encode mic 6 17 rfl rfl (by decide)

theorem keyReceiveSequence_written :
    EapolKeyFrame.keyReceiveSequence ⟨fields.encode mic, ⟨fields.keyInfo⟩, fields.keyData⟩ =
      fields.receiveSequence :=
  fields.octetsAt_encode mic 8 65 rfl rfl (by decide)

/-- The frame that the parser returns for the fields and their signature. -/
def frame (ptk : Ptk) : EapolKeyFrame :=
  ⟨fields.signed crypto ptk, ⟨fields.keyInfo⟩, fields.keyData⟩

theorem parse_signed (ptk : Ptk)
    (version : fields.protocolVersion = 1 ∨ fields.protocolVersion = 2)
    (fits : eapolKeyMinLen + fields.keyData.length ≤ maxEapolFrameLen) :
    EapolKeyFrame.parse (fields.signed crypto ptk) = .ok (fields.frame crypto ptk) :=
  fields.parse_encode _ version fits

theorem verifyMic_frame (ptk : Ptk) : (fields.frame crypto ptk).verifyMic crypto ptk = true := by
  have message : (fields.frame crypto ptk).micMessage = fields.encode (zeroOctets 16) :=
    fields.around_mic _
  have carried : (fields.frame crypto ptk).mic = fields.signature crypto ptk :=
    fields.octetsAt_encode _ 10 81 rfl rfl (by decide)
  rw [EapolKeyFrame.verifyMic, message, carried, decide_eq_true_eq, signature, octetsAt_eq_slice]
  · rfl
  · rw [(crypto.hmacSha1 _ _).2]
    decide

end EapolKeyFields

/-! ### Responses -/

variable (crypto : Wpa2Crypto)

def buildResponse (peer : Octets 6) (protocolVersion : UInt8) (keyInfo keyLength : UInt16)
    (replayCounter : UInt64) (nonce : Octets 32) (keyData : Bytes) (ptk : Ptk) :
    Except Wpa2Error EapolTxFrame :=
  if maxEapolFrameLen < eapolHeaderLen + (eapolKeyFixedBodyLen + keyData.length)
      ∨ 0xffff < keyData.length then
    .error .frameTooLarge
  else
    let fields : EapolKeyFields :=
      { protocolVersion, keyInfo, keyLength, replayCounter, nonce
        receiveSequence := zeroOctets 8
        keyData }
    .ok { peer, bytes := fields.signed crypto ptk }

def buildMessage2 (peer : Octets 6) (protocolVersion : UInt8) (keyLength : UInt16)
    (replayCounter : UInt64) (supplicantNonce : Octets 32) (rsnIe : Bytes) (ptk : Ptk) :
    Except Wpa2Error EapolTxFrame :=
  buildResponse crypto peer protocolVersion
    (keyDescriptorVersionHmacSha1Aes ||| keyInfoPairwise ||| keyInfoMic)
    keyLength replayCounter supplicantNonce rsnIe ptk

def buildMessage4 (peer : Octets 6) (protocolVersion : UInt8) (keyLength : UInt16)
    (replayCounter : UInt64) (ptk : Ptk) : Except Wpa2Error EapolTxFrame :=
  buildResponse crypto peer protocolVersion
    (keyDescriptorVersionHmacSha1Aes ||| keyInfoPairwise ||| keyInfoMic ||| keyInfoSecure)
    keyLength replayCounter (zeroOctets 32) [] ptk

def buildGroupMessage2 (peer : Octets 6) (protocolVersion : UInt8) (keyLength : UInt16)
    (replayCounter : UInt64) (ptk : Ptk) : Except Wpa2Error EapolTxFrame :=
  buildResponse crypto peer protocolVersion
    (keyDescriptorVersionHmacSha1Aes ||| keyInfoMic ||| keyInfoSecure)
    keyLength replayCounter (zeroOctets 32) [] ptk

theorem buildResponse_fits (peer : Octets 6) (protocolVersion : UInt8) (keyInfo keyLength : UInt16)
    (replayCounter : UInt64) (nonce : Octets 32) {keyData : Bytes}
    (fits : keyData.length ≤ maxKeyDataLen) (ptk : Ptk) :
    buildResponse crypto peer protocolVersion keyInfo keyLength replayCounter nonce keyData ptk =
      .ok ⟨peer, EapolKeyFields.signed crypto
        ⟨protocolVersion, keyInfo, keyLength, replayCounter, nonce, zeroOctets 8, keyData⟩ ptk⟩ := by
  refine if_neg ?_
  simp only [maxKeyDataLen, maxEapolFrameLen] at fits
  simp only [maxEapolFrameLen, eapolHeaderLen, eapolKeyFixedBodyLen]
  omega

/-- A response whose bytes parse as a message of the given kind and counter, and
whose MIC verifies. -/
structure Answers (response : EapolTxFrame) (message : EapolKeyMessage) (replay : UInt64)
    (ptk : Ptk) (frame : EapolKeyFrame) : Prop where
  parsed : EapolKeyFrame.parse response.bytes = .ok frame
  kind : frame.message = message
  counter : frame.replayCounter = replay
  verified : frame.verifyMic crypto ptk = true

/-- Key data of at most 413 bytes fits into a response, which answers as it should. -/
theorem buildResponse_answers (peer : Octets 6) {protocolVersion : UInt8}
    (version : protocolVersion = 1 ∨ protocolVersion = 2) (keyInfo keyLength : UInt16)
    (replayCounter : UInt64) (nonce : Octets 32) {keyData : Bytes}
    (fits : keyData.length ≤ maxKeyDataLen) (ptk : Ptk) :
    ∃ response frame,
      buildResponse crypto peer protocolVersion keyInfo keyLength replayCounter nonce keyData ptk =
        .ok response ∧
      Answers crypto response (EapolKeyInfo.classify ⟨keyInfo⟩) replayCounter ptk frame ∧
      response.peer = peer ∧ frame.nonce = nonce ∧ frame.keyData = keyData := by
  let fields : EapolKeyFields :=
    { protocolVersion, keyInfo, keyLength, replayCounter, nonce
      receiveSequence := zeroOctets 8
      keyData }
  have built := buildResponse_fits crypto peer protocolVersion keyInfo keyLength replayCounter nonce
    fits ptk
  have whole : eapolKeyMinLen + keyData.length ≤ maxEapolFrameLen := by
    simp only [maxKeyDataLen, maxEapolFrameLen] at fits
    simp only [maxEapolFrameLen, eapolKeyMinLen, eapolHeaderLen, eapolKeyFixedBodyLen]
    omega
  exact ⟨⟨peer, fields.signed crypto ptk⟩, fields.frame crypto ptk, built,
    ⟨fields.parse_signed crypto ptk version whole, rfl, fields.replayCounter_written _,
      fields.verifyMic_frame crypto ptk⟩,
    rfl, fields.nonce_written _, rfl⟩

end Writing

end Nrf7002
