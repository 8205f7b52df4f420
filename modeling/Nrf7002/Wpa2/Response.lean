import Nrf7002.Wpa2.Frame

/-! # Building and parsing a response

The source writes a response into a fixed buffer, field by field at its own offset, and
the MIC last.  What is written is the encoding of the fields, which the parser reads
back, and which classifies as the message it was built as. -/

set_option autoImplicit false

namespace Nrf7002
open Foundation

/-! ## Writing into a buffer of zeros -/

section Zeros

theorem splice_zeros {front value : Bytes} {position free : Nat}
    (starts : position = front.length) :
    splice (front ++ List.replicate free 0) position value =
      (front ++ value) ++ List.replicate (free - value.length) 0 := by
  subst starts
  have behind : (front ++ List.replicate free (0 : UInt8)).drop (front.length + value.length) =
      List.replicate (free - value.length) 0 := by
    rw [List.drop_append, List.drop_of_length_le (Nat.le_add_right _ _), List.nil_append,
      Nat.add_sub_cancel_left, List.drop_replicate]
  rw [splice, List.take_left, behind]

theorem keep_zeros (front : Bytes) {count free : Nat} (fits : count ≤ free) :
    front ++ List.replicate free 0 =
      (front ++ List.replicate count 0) ++ List.replicate (free - count) (0 : UInt8) := by
  rw [List.append_assoc, List.replicate_append_replicate, Nat.add_sub_cancel' fits]

theorem splice_append_left {front rest value : Bytes} {position : Nat}
    (inside : position + value.length ≤ front.length) :
    splice (front ++ rest) position value = splice front position value ++ rest := by
  rw [splice, splice, List.take_append_of_le_length (by omega),
    List.drop_append_of_le_length inside]
  simp only [List.append_assoc]

end Zeros

/-! ## The buffer of a response -/

section Buffer
variable (crypto : Wpa2Crypto)

/-- The frame before its MIC is known. -/
def responseBuffer (protocolVersion : UInt8) (keyInfo keyLength : UInt16) (replayCounter : UInt64)
    (nonce : Octets 32) (keyData : Bytes) : Bytes :=
  let frame := List.replicate maxEapolFrameLen 0
  let frame := splice frame 0 [protocolVersion]
  let frame := splice frame 1 [eapolPacketTypeKey]
  let frame := splice frame 2 (be16 (UInt16.ofNat (eapolKeyFixedBodyLen + keyData.length)))
  let frame := splice frame 4 [rsnKeyDescriptorType]
  let frame := splice frame 5 (be16 keyInfo)
  let frame := splice frame 7 (be16 keyLength)
  let frame := splice frame 9 (be64 replayCounter)
  let frame := splice frame 17 nonce.1
  let frame := splice frame keyDataLengthOffset (be16 (UInt16.ofNat keyData.length))
  splice frame keyDataOffset keyData

/-- `buildResponse` as the source writes it: the MIC covers the buffer up to the length of
the frame and is copied over its own field. -/
def buildResponseInBuffer (peer : Octets 6) (protocolVersion : UInt8) (keyInfo keyLength : UInt16)
    (replayCounter : UInt64) (nonce : Octets 32) (keyData : Bytes) (ptk : Ptk) :
    Except Wpa2Error EapolTxFrame :=
  let total := eapolHeaderLen + (eapolKeyFixedBodyLen + keyData.length)
  if maxEapolFrameLen < total ∨ 0xffff < keyData.length then .error .frameTooLarge
  else
    let frame := responseBuffer protocolVersion keyInfo keyLength replayCounter nonce keyData
    let mic := crypto.hmacSha1 ptk.kck.1 (frame.take total)
    .ok { peer, bytes := (splice frame keyMicStart (mic.1.take 16)).take total }

variable (protocolVersion : UInt8) (keyInfo keyLength : UInt16) (replayCounter : UInt64)
  (nonce : Octets 32) (keyData : Bytes)

def responseFields : EapolKeyFields :=
  { protocolVersion, keyInfo, keyLength, replayCounter, nonce
    receiveSequence := zeroOctets 8
    keyData }

theorem responseBuffer_eq :
    responseBuffer protocolVersion keyInfo keyLength replayCounter nonce keyData =
      (responseFields protocolVersion keyInfo keyLength replayCounter nonce keyData).encode
          (zeroOctets 16) ++
        List.replicate (maxKeyDataLen - keyData.length) 0 := by
  have room : maxKeyDataLen = 413 := rfl
  have start : List.replicate maxEapolFrameLen (0 : UInt8) = [] ++ List.replicate 512 0 := rfl
  have width : nonce.1.length = 32 := nonce.2
  rw [responseBuffer, start, splice_zeros (by rfl), splice_zeros (by rfl), splice_zeros (by rfl),
    splice_zeros (by simp), splice_zeros (by simp), splice_zeros (by simp),
    splice_zeros (by simp), splice_zeros (by simp)]
  -- the bytes between the nonce and the length of the key data stay zero
  rw [keep_zeros _ (show 48 ≤ _ by simp [width]), splice_zeros (by simp [width, keyDataLengthOffset]),
    splice_zeros (by simp [width, keyDataOffset])]
  have free : 512 - 1 - 1 - 2 - 1 - 2 - 2 - 8 - 32 - 48 - 2 - keyData.length =
      maxKeyDataLen - keyData.length := by
    rw [room]
  simp only [List.length_singleton, length_be16, length_be64, width, free]
  have gap : List.replicate 48 (0 : UInt8) =
      List.replicate 16 0 ++ ((zeroOctets 8).1 ++ (List.replicate 8 0 ++ (zeroOctets 16).1)) := rfl
  rw [EapolKeyFields.encode, EapolKeyFields.parts, gap]
  simp only [responseFields, List.flatten_cons, List.flatten_nil, List.append_nil,
    List.nil_append, List.append_assoc, List.cons_append]

theorem splice_mic (fields : EapolKeyFields) (mic : Octets 16) :
    splice (fields.encode (zeroOctets 16)) keyMicStart mic.1 = fields.encode mic := by
  have front : ((fields.parts (zeroOctets 16)).take 10).flatten.length = keyMicStart := by
    rw [List.length_flatten, List.map_take, EapolKeyFields.map_length_parts]
    rfl
  have split : fields.encode (zeroOctets 16) =
      ((fields.parts (zeroOctets 16)).take 10).flatten ++
        ((zeroOctets 16).1 ++ ((fields.parts (zeroOctets 16)).drop 11).flatten) := by
    rw [EapolKeyFields.encode]
    nth_rewrite 1 [← List.take_append_drop 10 (fields.parts (zeroOctets 16))]
    rw [List.flatten_append]
    rfl
  have width : mic.1.length = (zeroOctets 16).1.length := by rw [mic.2, (zeroOctets 16).2]
  have written : fields.encode mic =
      ((fields.parts (zeroOctets 16)).take 10).flatten ++
        (mic.1 ++ ((fields.parts (zeroOctets 16)).drop 11).flatten) := by
    rw [EapolKeyFields.encode]
    nth_rewrite 1 [← List.take_append_drop 10 (fields.parts mic)]
    rw [List.flatten_append]
    rfl
  rw [written, split, ← front, splice, List.take_left, width, ← List.drop_drop, List.drop_left,
    List.drop_left, List.append_assoc]

/-- The buffer holds the signed encoding of the fields. -/
theorem buildResponseInBuffer_eq (peer : Octets 6) (ptk : Ptk) :
    buildResponseInBuffer crypto peer protocolVersion keyInfo keyLength replayCounter nonce keyData
        ptk =
      buildResponse crypto peer protocolVersion keyInfo keyLength replayCounter nonce keyData
        ptk := by
  rw [buildResponseInBuffer, buildResponse]
  dsimp only
  by_cases large : maxEapolFrameLen < eapolHeaderLen + (eapolKeyFixedBodyLen + keyData.length) ∨
      0xffff < keyData.length
  · rw [if_pos large, if_pos large]
  · have total : eapolHeaderLen + (eapolKeyFixedBodyLen + keyData.length) =
        ((responseFields protocolVersion keyInfo keyLength replayCounter nonce keyData).encode
          (zeroOctets 16)).length := by
      rw [EapolKeyFields.length_encode, eapolKeyMinLen]
      exact (Nat.add_assoc _ _ _).symm
    have signature : (crypto.hmacSha1 ptk.kck.1 ((responseFields protocolVersion keyInfo keyLength
        replayCounter nonce keyData).encode (zeroOctets 16))).1.take 16 =
          ((responseFields protocolVersion keyInfo keyLength replayCounter nonce keyData).signature
            crypto ptk).1 := by
      rw [EapolKeyFields.signature, octetsAt_eq_slice]
      · rfl
      · rw [(crypto.hmacSha1 _ _).2]
        decide
    have inside : keyMicStart + ((responseFields protocolVersion keyInfo keyLength replayCounter
        nonce keyData).signature crypto ptk).1.length ≤ ((responseFields protocolVersion keyInfo
          keyLength replayCounter nonce keyData).encode (zeroOctets 16)).length := by
      have width : ((responseFields protocolVersion keyInfo keyLength replayCounter nonce
          keyData).signature crypto ptk).1.length = 16 := EapolKeyFields.signature _ _ _ |>.2
      rw [EapolKeyFields.length_encode, width]
      simp only [keyMicStart, eapolKeyMinLen, eapolHeaderLen, eapolKeyFixedBodyLen]
      omega
    rw [if_neg large, if_neg large, responseBuffer_eq, total, List.take_left,
      signature, splice_append_left inside, splice_mic, EapolKeyFields.length_encode,
      ← EapolKeyFields.length_encode _ (EapolKeyFields.signature crypto _ ptk), List.take_left]
    rfl

end Buffer

/-! ## The round trip -/

section RoundTrip
variable (crypto : Wpa2Crypto)

structure HasFields (frame : EapolKeyFrame) (fields : EapolKeyFields) : Prop where
  protocolVersion : frame.protocolVersion = fields.protocolVersion
  keyInfo : frame.keyInfo = ⟨fields.keyInfo⟩
  keyLength : frame.keyLength = fields.keyLength
  replayCounter : frame.replayCounter = fields.replayCounter
  nonce : frame.nonce = fields.nonce
  receiveSequence : frame.keyReceiveSequence = fields.receiveSequence
  keyData : frame.keyData = fields.keyData

theorem hasFields_frame (fields : EapolKeyFields) (ptk : Ptk) :
    HasFields (fields.frame crypto ptk) fields where
  protocolVersion := rfl
  keyInfo := rfl
  keyLength := fields.keyLength_written _
  replayCounter := fields.replayCounter_written _
  nonce := fields.nonce_written _
  receiveSequence := fields.keyReceiveSequence_written _
  keyData := rfl

/-- A response parses to a frame that has its fields and verifies under its key. -/
structure ReadsBack (built : Except Wpa2Error EapolTxFrame) (peer : Octets 6)
    (fields : EapolKeyFields) (ptk : Ptk) : Prop where
  read : ∃ response frame, built = .ok response ∧ response.peer = peer ∧
    EapolKeyFrame.parse response.bytes = .ok frame ∧ HasFields frame fields ∧
    frame.message = EapolKeyInfo.classify ⟨fields.keyInfo⟩ ∧ frame.verifyMic crypto ptk = true

theorem buildResponse_readsBack (peer : Octets 6) {protocolVersion : UInt8}
    (version : protocolVersion = 1 ∨ protocolVersion = 2) (keyInfo keyLength : UInt16)
    (replayCounter : UInt64) (nonce : Octets 32) {keyData : Bytes}
    (fits : keyData.length ≤ maxKeyDataLen) (ptk : Ptk) :
    ReadsBack crypto (buildResponse crypto peer protocolVersion keyInfo keyLength replayCounter
        nonce keyData ptk) peer
      (responseFields protocolVersion keyInfo keyLength replayCounter nonce keyData) ptk := by
  have whole : eapolKeyMinLen + keyData.length ≤ maxEapolFrameLen := by
    simp only [maxKeyDataLen, maxEapolFrameLen] at fits
    simp only [maxEapolFrameLen, eapolKeyMinLen, eapolHeaderLen, eapolKeyFixedBodyLen]
    omega
  have built := buildResponse_fits crypto peer protocolVersion keyInfo keyLength replayCounter nonce
    fits ptk
  have parsed := EapolKeyFields.parse_signed crypto
    (responseFields protocolVersion keyInfo keyLength replayCounter nonce keyData) ptk version whole
  exact ⟨⟨_, _, built, rfl, parsed, hasFields_frame crypto _ ptk, rfl,
    EapolKeyFields.verifyMic_frame crypto _ ptk⟩⟩

theorem buildResponse_tooLarge (peer : Octets 6) (protocolVersion : UInt8)
    (keyInfo keyLength : UInt16) (replayCounter : UInt64) (nonce : Octets 32) {keyData : Bytes}
    (large : maxKeyDataLen < keyData.length) (ptk : Ptk) :
    buildResponse crypto peer protocolVersion keyInfo keyLength replayCounter nonce keyData ptk =
      .error .frameTooLarge := by
  apply if_pos
  left
  simp only [maxKeyDataLen, maxEapolFrameLen] at large
  simp only [maxEapolFrameLen, eapolHeaderLen, eapolKeyFixedBodyLen]
  omega

theorem parse_lengths {bytes : Bytes} {frame : EapolKeyFrame}
    (parsed : EapolKeyFrame.parse bytes = .ok frame) :
    eapolHeaderLen + (readBe16 bytes 2).toNat = bytes.length ∧
      keyDataOffset + (readBe16 bytes keyDataLengthOffset).toNat = bytes.length := by
  obtain ⟨accepted, _⟩ := parse_iff.mp parsed
  exact ⟨accepted.body, accepted.data⟩

/-- A response of at most 413 bytes of key data parses to the fields it was built from and
verifies under its key, and the three responses of the supplicant are the messages they are
named after.  More key data is rejected, and the parser accepts no byte string that is
shorter or longer than either of its declared lengths. -/
theorem buildResponse_roundTrip :
    (∀ peer protocolVersion keyInfo keyLength replayCounter nonce keyData ptk,
      (buildResponseInBuffer crypto peer protocolVersion keyInfo keyLength replayCounter nonce
          keyData ptk =
        buildResponse crypto peer protocolVersion keyInfo keyLength replayCounter nonce keyData
          ptk) ∧
      (protocolVersion = 1 ∨ protocolVersion = 2 → keyData.length ≤ 413 →
        ReadsBack crypto (buildResponseInBuffer crypto peer protocolVersion keyInfo keyLength
            replayCounter nonce keyData ptk) peer
          (responseFields protocolVersion keyInfo keyLength replayCounter nonce keyData) ptk) ∧
      (413 < keyData.length →
        buildResponseInBuffer crypto peer protocolVersion keyInfo keyLength replayCounter nonce
          keyData ptk = .error .frameTooLarge)) ∧
    (∀ peer protocolVersion keyLength replayCounter nonce rsnIe ptk,
      protocolVersion = 1 ∨ protocolVersion = 2 → rsnIe.length ≤ 413 →
        ∃ message2 message4 groupMessage2 frame2 frame4 groupFrame2,
          buildMessage2 crypto peer protocolVersion keyLength replayCounter nonce rsnIe ptk =
            .ok message2 ∧
          EapolKeyFrame.parse message2.bytes = .ok frame2 ∧
          frame2.message = .pairwiseMessage2 ∧
          buildMessage4 crypto peer protocolVersion keyLength replayCounter ptk = .ok message4 ∧
          EapolKeyFrame.parse message4.bytes = .ok frame4 ∧
          frame4.message = .pairwiseMessage4 ∧
          buildGroupMessage2 crypto peer protocolVersion keyLength replayCounter ptk =
            .ok groupMessage2 ∧
          EapolKeyFrame.parse groupMessage2.bytes = .ok groupFrame2 ∧
          groupFrame2.message = .groupMessage2) ∧
    ∀ bytes frame, EapolKeyFrame.parse bytes = .ok frame →
      4 + (readBe16 bytes 2).toNat = bytes.length ∧
        99 + (readBe16 bytes 97).toNat = bytes.length := by
  constructor
  · intro peer protocolVersion keyInfo keyLength replayCounter nonce keyData ptk
    rw [buildResponseInBuffer_eq]
    refine ⟨rfl, ?_, ?_⟩
    · intro version fits
      exact buildResponse_readsBack crypto peer version keyInfo keyLength replayCounter nonce fits ptk
    · intro large
      exact buildResponse_tooLarge crypto peer protocolVersion keyInfo keyLength replayCounter nonce
        large ptk
  constructor
  · intro peer protocolVersion keyLength replayCounter nonce rsnIe ptk version fits
    have empty : ([] : Bytes).length ≤ maxKeyDataLen := by decide
    obtain ⟨message2, frame2, built2, _, parsed2, _, kind2, _⟩ := (buildResponse_readsBack crypto
      peer version (keyDescriptorVersionHmacSha1Aes ||| keyInfoPairwise ||| keyInfoMic) keyLength
        replayCounter nonce fits ptk).read
    obtain ⟨message4, frame4, built4, _, parsed4, _, kind4, _⟩ := (buildResponse_readsBack crypto
      peer version (keyDescriptorVersionHmacSha1Aes ||| keyInfoPairwise ||| keyInfoMic |||
        keyInfoSecure) keyLength replayCounter (zeroOctets 32) empty ptk).read
    obtain ⟨group, groupFrame, builtGroup, _, parsedGroup, _, kindGroup, _⟩ :=
      (buildResponse_readsBack crypto peer version (keyDescriptorVersionHmacSha1Aes ||| keyInfoMic
        ||| keyInfoSecure) keyLength replayCounter (zeroOctets 32) empty ptk).read
    have classified2 : EapolKeyInfo.classify ⟨keyDescriptorVersionHmacSha1Aes ||| keyInfoPairwise
        ||| keyInfoMic⟩ = .pairwiseMessage2 := by decide
    have classified4 : EapolKeyInfo.classify ⟨keyDescriptorVersionHmacSha1Aes ||| keyInfoPairwise
        ||| keyInfoMic ||| keyInfoSecure⟩ = .pairwiseMessage4 := by decide
    have classifiedGroup : EapolKeyInfo.classify ⟨keyDescriptorVersionHmacSha1Aes ||| keyInfoMic
        ||| keyInfoSecure⟩ = .groupMessage2 := by decide
    exact ⟨message2, message4, group, frame2, frame4, groupFrame, built2, parsed2,
      kind2.trans classified2, built4, parsed4, kind4.trans classified4, builtGroup, parsedGroup,
      kindGroup.trans classifiedGroup⟩
  · intro bytes frame parsed
    exact parse_lengths parsed

end RoundTrip

end Nrf7002
