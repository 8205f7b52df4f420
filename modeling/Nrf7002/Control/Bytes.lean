import Nrf7002.Foundation.FixedCode
import Nrf7002.Control

/-! # The bytes of the station commands

What each body encoder writes, as a byte string of its request alone: no byte of it
comes from the storage that the encoder was given. -/

set_option autoImplicit false

namespace Nrf7002
open Foundation

/-! ## Field limits -/

structure KeyConfig.InLimits (key : KeyConfig) : Prop where
  material : key.key.length ≤ maxKeyLen
  sequence : key.sequence.length ≤ maxKeySequenceLen
  index : key.keyIndex ≤ 3

structure AuthenticationRequest.InLimits (request : AuthenticationRequest) : Prop where
  ssid : request.ssid.length ≤ 32
  elements : request.informationElements.length ≤ maxIeLen
  bssElements : request.bss.informationElements.length ≤ maxIeLen
  sae : request.saeData.length ≤ maxSaeLen
  key : ∀ key, request.key = some key → key.InLimits

structure AssociationSecurity.InLimits (security : AssociationSecurity) : Prop where
  elements : security.rsnInformationElement.length ≤ maxIeLen
  ciphers : 0 < security.pairwiseCiphers.length
  fewCiphers : security.pairwiseCiphers.length ≤ maxPairwiseCiphers
  suites : 0 < security.akmSuites.length
  fewSuites : security.akmSuites.length ≤ maxAkmSuites

structure AssociationRequest.InLimits (request : AssociationRequest) : Prop where
  ssid : request.ssid.length ≤ 32
  security : ∀ security, request.security = some security → security.InLimits

/-- A check of limits: it passes, or it fails with the one error of a limit. -/
def Limited (check : Except ProtocolError Unit) (limit : Prop) : Prop :=
  (check = .ok () ∧ limit) ∨ (check = .error .limitExceeded ∧ ¬ limit)

theorem limited_check (excess : Prop) [Decidable excess] :
    Limited (if excess then .error .limitExceeded else .ok ()) (¬ excess) := by
  by_cases outside : excess
  · exact .inr ⟨if_pos outside, not_not_intro outside⟩
  · exact .inl ⟨if_neg outside, outside⟩

theorem Limited.then {first second : Except ProtocolError Unit} {one other : Prop}
    (left : Limited first one) (right : Limited second other) :
    Limited (first >>= fun _ => second) (one ∧ other) := by
  rcases left with ⟨passed, holds⟩ | ⟨failed, outside⟩
  · rw [passed]
    rcases right with ⟨also, too⟩ | ⟨failed, outside⟩
    · exact .inl ⟨also, holds, too⟩
    · exact .inr ⟨failed, fun both => outside both.2⟩
  · rw [failed]
    exact .inr ⟨rfl, fun both => outside both.1⟩

/-- A check that returns early, in front of the rest. -/
theorem Limited.guarded {excess limit : Prop} [Decidable excess]
    {rest : PUnit → Except ProtocolError Unit} (limited : Limited (rest ⟨⟩) limit) :
    Limited (if excess then throw .limitExceeded >>= rest else rest ⟨⟩) (¬ excess ∧ limit) := by
  by_cases outside : excess
  · rw [if_pos outside]
    exact .inr ⟨rfl, fun both => both.1 outside⟩
  · rw [if_neg outside]
    rcases limited with ⟨passed, holds⟩ | ⟨failed, more⟩
    · exact .inl ⟨passed, outside, holds⟩
    · exact .inr ⟨failed, fun both => more both.2⟩

theorem Limited.congr {check : Except ProtocolError Unit} {limit other : Prop}
    (limited : Limited check limit) (same : limit ↔ other) : Limited check other := by
  rwa [Limited, ← same]

theorem Limited.ok_iff {check : Except ProtocolError Unit} {limit : Prop}
    (limited : Limited check limit) : check = .ok () ↔ limit := by
  rcases limited with ⟨passed, holds⟩ | ⟨failed, outside⟩
  · exact iff_of_true passed holds
  · apply iff_of_false
    · rw [failed]
      intro passed
      cases passed
    · exact outside

theorem validateSsid_limited (ssid : Bytes) : Limited (validateSsid ssid) (ssid.length ≤ 32) :=
  (limited_check _).congr Nat.not_lt

theorem validateIe_limited (ie : Bytes) : Limited (validateIe ie) (ie.length ≤ maxIeLen) :=
  (limited_check _).congr Nat.not_lt

theorem validateKey_limited (key : KeyConfig) : Limited (validateKey key) key.InLimits := by
  have checks : Limited (validateKey key) (¬ maxKeyLen < key.key.length ∧
      ¬ maxKeySequenceLen < key.sequence.length ∧ ¬ 3 < key.keyIndex) := by
    rw [validateKey]
    apply Limited.guarded
    apply Limited.guarded
    exact limited_check _
  apply checks.congr
  rw [Nat.not_lt, Nat.not_lt, UInt8.not_lt]
  constructor
  · intro ⟨material, sequence, index⟩
    exact { material, sequence, index }
  · intro limits
    exact ⟨limits.material, limits.sequence, limits.index⟩

theorem validateOptionalKey_limited (key : Option KeyConfig) :
    Limited (validateOptionalKey key) (∀ present, key = some present → present.InLimits) := by
  cases key with
  | none => exact .inl ⟨rfl, fun _ absent => by cases absent⟩
  | some present =>
      apply (validateKey_limited present).congr
      constructor
      · intro limits _ same
        rwa [← Option.some.inj same]
      · intro limits
        exact limits present rfl

theorem validateAuthenticationRequest_limited (request : AuthenticationRequest) :
    Limited (validateAuthenticationRequest request) request.InLimits := by
  have checks : Limited (validateAuthenticationRequest request)
      (request.ssid.length ≤ 32 ∧ request.informationElements.length ≤ maxIeLen ∧
        request.bss.informationElements.length ≤ maxIeLen ∧
        ¬ maxSaeLen < request.saeData.length ∧
        ∀ present, request.key = some present → present.InLimits) :=
    (validateSsid_limited _).then <| (validateIe_limited _).then <| (validateIe_limited _).then
      (validateOptionalKey_limited _).guarded
  apply checks.congr
  rw [Nat.not_lt]
  constructor
  · intro ⟨ssid, elements, bssElements, sae, key⟩
    exact { ssid, elements, bssElements, sae, key }
  · intro limits
    exact ⟨limits.ssid, limits.elements, limits.bssElements, limits.sae, limits.key⟩

theorem validateAssociationSecurityCounts_limited (security : AssociationSecurity) :
    Limited (validateAssociationSecurityCounts security)
      (0 < security.pairwiseCiphers.length ∧
        security.pairwiseCiphers.length ≤ maxPairwiseCiphers ∧
        0 < security.akmSuites.length ∧ security.akmSuites.length ≤ maxAkmSuites) := by
  have checks : Limited (validateAssociationSecurityCounts security)
      (¬ (security.pairwiseCiphers.isEmpty ∨
          maxPairwiseCiphers < security.pairwiseCiphers.length) ∧
        ¬ (security.akmSuites.isEmpty ∨ maxAkmSuites < security.akmSuites.length)) := by
    rw [validateAssociationSecurityCounts]
    apply Limited.guarded
    exact limited_check _
  apply checks.congr
  simp only [not_or, Nat.not_lt, List.isEmpty_iff, ← List.length_eq_zero_iff, Nat.pos_iff_ne_zero,
    and_assoc, ne_eq]

theorem validateAssociationRequest_limited (request : AssociationRequest) :
    Limited (validateAssociationRequest request) request.InLimits := by
  rw [validateAssociationRequest]
  cases known : request.security with
  | none =>
      apply ((validateSsid_limited request.ssid).then (.inl ⟨rfl, trivial⟩)).congr
      constructor
      · intro ⟨ssid, _⟩
        exact { ssid, security := fun _ same => by cases known.symm.trans same }
      · intro limits
        exact ⟨limits.ssid, trivial⟩
  | some security =>
      apply ((validateSsid_limited request.ssid).then ((validateIe_limited _).then
        (validateAssociationSecurityCounts_limited security))).congr
      constructor
      · intro ⟨ssid, elements, ciphers, fewCiphers, suites, fewSuites⟩
        refine { ssid, security := fun other same => ?_ }
        cases known.symm.trans same
        exact { elements, ciphers, fewCiphers, suites, fewSuites }
      · intro limits
        have inside := limits.security security known
        exact ⟨limits.ssid, inside.elements, inside.ciphers, inside.fewCiphers, inside.suites,
          inside.fewSuites⟩

/-! ## Keys -/

def keyInfoHeaderBytes (key : KeyConfig) : Bytes :=
  le32 (keyInfoValidFields key) ++
    (le32 key.cipherSuite ++ (le16 key.flags ++ le32 key.keyType.number.toUInt32))

def keyInfoMaterialBytes (key : KeyConfig) : Bytes :=
  (le32 (UInt32.ofNat key.key.length) ++ padded key.key maxKeyLen) ++
    ((le32 (Int32.ofNat key.sequence.length).toUInt32 ++ padded key.sequence maxKeySequenceLen) ++
      [key.keyIndex])

def keyInfoBytes : Option KeyConfig → Bytes
  | none => List.replicate keyInfoLen 0
  | some key => keyInfoHeaderBytes key ++ keyInfoMaterialBytes key

def keyCommandBytes (peer : Option (Octets 6)) (key : KeyConfig) : Bytes :=
  le32 (if peer.isSome then keyMacValid else 0) ++
    (keyInfoBytes (some key) ++ (peer.getD (zeroOctets 6)).1)

def defaultKeyBytes (key : KeyConfig) : Bytes :=
  (le32 keyIndexValid ++ (le32 0 ++ (le16 key.flags ++ le32 0))) ++
    (le32 0 ++ (List.replicate maxKeyLen 0 ++
      (le32 0 ++ (List.replicate maxKeySequenceLen 0 ++ [key.keyIndex]))))

theorem writes_keyInfo {key : Option KeyConfig}
    (limits : ∀ present, key = some present → present.InLimits) :
    Writes (writeKeyInfo key) (keyInfoBytes key) := by
  cases key with
  | none => exact writes_zeros keyInfoLen
  | some key =>
      have inside := limits key rfl
      have material : Writes (writeKeyInfoMaterial key) (keyInfoMaterialBytes key) := by
        rw [keyInfoMaterialBytes, List.append_assoc, List.append_assoc]
        exact (writes_u32 _).then <| (writes_fixed inside.material).then <|
          (writes_i32 _).then <| (writes_fixed inside.sequence).then (writes_u8 _)
      have header : Writes (writeKeyInfoHeader key (keyInfoValidFields key))
          (keyInfoHeaderBytes key) :=
        (writes_u32 _).then <| (writes_u32 _).then <| (writes_u16 _).then (writes_i32 _)
      exact header.then material

theorem writes_keyCommandBody (peer : Option (Octets 6)) {key : KeyConfig}
    (limits : key.InLimits) :
    Writes (writeKeyCommandBody peer key) (keyCommandBytes peer key) := by
  have info : Writes (writeKeyInfo (some key)) (keyInfoBytes (some key)) :=
    writes_keyInfo fun present same => Option.some.inj same ▸ limits
  exact (writes_u32 _).then <| info.then (writes_bytes _)

theorem writes_defaultKeyInfo (key : KeyConfig) :
    Writes (writeDefaultKeyInfo key) (defaultKeyBytes key) :=
  ((writes_u32 _).then <| (writes_u32 _).then <| (writes_u16 _).then (writes_i32 _)).then <|
    (writes_u32 _).then <| (writes_zeros _).then <| (writes_i32 _).then <|
      (writes_zeros _).then (writes_u8 _)

/-! ## Authentication -/

def ssidBytes (value : Bytes) : Bytes := [UInt8.ofNat value.length] ++ padded value 32

def ieBytes (value : Bytes) : Bytes := le16 (UInt16.ofNat value.length) ++ padded value maxIeLen

theorem writes_ssid {value : Bytes} (inside : value.length ≤ 32) :
    Writes (writeSsid value) (ssidBytes value) := by
  have admitted : writeSsid value = (do writeU8 (UInt8.ofNat value.length); fixed value 32) := by
    rw [writeSsid, validateSsid, if_neg (Nat.not_lt.mpr inside)]
    rfl
  rw [admitted]
  exact (writes_u8 _).then (writes_fixed inside)

theorem writes_ie {value : Bytes} (inside : value.length ≤ maxIeLen) :
    Writes (writeIe value) (ieBytes value) := by
  have admitted : writeIe value =
      (do writeU16 (UInt16.ofNat value.length); fixed value maxIeLen) := by
    rw [writeIe, validateIe, if_neg (Nat.not_lt.mpr inside)]
    rfl
  rw [admitted]
  exact (writes_u16 _).then (writes_fixed inside)

def authenticationHeaderBytes (request : AuthenticationRequest) : Bytes :=
  le32 (authenticationValidFields request) ++ (le32 request.frequencyMhz ++
    (le16 (if request.localStateChange then authLocalStateChange else 0) ++
      le32 request.authType.number.toUInt32))

def authenticationSaeBytes (request : AuthenticationRequest) : Bytes :=
  (le32 (Int32.ofNat request.saeData.length).toUInt32 ++ padded request.saeData maxSaeLen) ++
    request.bssid.1

def bssContextBytes (bss : BssContext) : Bytes :=
  (le32 bss.scanWidth.toUInt32 ++ (le32 bss.signalDbm.toUInt32 ++
      (le32 (if bss.fromBeacon then (1 : Int32) else 0).toUInt32 ++
        ieBytes bss.informationElements))) ++
    (le16 bss.capability ++ (le16 bss.beaconInterval ++ le64 bss.tsf))

def authenticationBytes (request : AuthenticationRequest) : Bytes :=
  authenticationHeaderBytes request ++
    ((keyInfoBytes request.key ++ (ssidBytes request.ssid ++ ieBytes request.informationElements))
      ++ (authenticationSaeBytes request ++ bssContextBytes request.bss))

theorem writes_authenticationBody {request : AuthenticationRequest} (limits : request.InLimits) :
    Writes (writeAuthenticationBody request) (authenticationBytes request) := by
  have header : Writes (writeAuthenticationHeader request) (authenticationHeaderBytes request) :=
    (writes_u32 _).then <| (writes_u32 _).then <| (writes_u16 _).then (writes_i32 _)
  have sae : Writes (writeAuthenticationSae request) (authenticationSaeBytes request) := by
    rw [authenticationSaeBytes, List.append_assoc]
    exact (writes_i32 _).then <| (writes_fixed limits.sae).then (writes_bytes _)
  have bss : Writes (writeAuthenticationBss request) (bssContextBytes request.bss) :=
    ((writes_i32 _).then <| (writes_i32 _).then <| (writes_i32 _).then
      (writes_ie limits.bssElements)).then <|
        (writes_u16 _).then <| (writes_u16 _).then (writes_u64 _)
  exact header.then <| ((writes_keyInfo limits.key).then <|
    (writes_ssid limits.ssid).then (writes_ie limits.elements)).then (sae.then bss)

/-! ## Association -/

def associationHeaderBytes (request : AssociationRequest) : Bytes :=
  (le32 (if request.previousBssid.isSome then assocPreviousBssidValid else 0) ++
      le32 (associationValidFields request)) ++
    (le32 request.frequencyMhz ++ (le32 0 ++
      le32 (if request.security.isSome then wpaVersion2 else 0)))

/-- Words behind their number, filled up to `limit` words. -/
def countedWordsBytes (count : UInt32) (words : List UInt32) (limit : Nat) : Bytes :=
  le32 count ++ (words.flatMap le32 ++ List.replicate ((limit - words.length) * 4) 0)

def associationCipherBytes (security : Option AssociationSecurity) : Bytes :=
  let pairwise := (security.map (·.pairwiseCiphers)).getD []
  let akm := (security.map (·.akmSuites)).getD []
  countedWordsBytes (Int32.ofNat pairwise.length).toUInt32 pairwise maxPairwiseCiphers ++
    (le32 ((security.map (·.groupCipher)).getD 0) ++
      (countedWordsBytes (UInt32.ofNat akm.length) akm maxAkmSuites ++
        le32 ((security.map (·.mfp.number)).getD MfpMode.disabled.number).toUInt32))

def associationNetworkBytes (request : AssociationRequest) : Bytes :=
  le32 0 ++ (le16 request.backgroundScanPeriodS ++ (request.bssid.1 ++ ((zeroOctets 6).1 ++
    (ssidBytes request.ssid ++
      ieBytes ((request.security.map (·.rsnInformationElement)).getD [])))))

def associationControlPortBytes : Bytes :=
  le32 0 ++ (le16 0 ++ (List.replicate (4 * 256) 0 ++ (le16 eapolEthertype ++ ([1] ++ [1]))))

def associationPreviousBssidBytes (request : AssociationRequest) : Bytes :=
  (request.previousBssid.getD (zeroOctets 6)).1 ++
    (le16 request.bssMaxIdleS ++ (request.previousBssid.getD (zeroOctets 6)).1)

def associationBytes (request : AssociationRequest) : Bytes :=
  associationHeaderBytes request ++ (associationCipherBytes request.security ++
    (associationNetworkBytes request ++ (associationControlPortBytes ++
      associationPreviousBssidBytes request)))

theorem writes_associationCiphers {security : Option AssociationSecurity}
    (limits : ∀ present, security = some present → present.InLimits) :
    Writes (writeAssociationCiphers security) (associationCipherBytes security) := by
  have fewCiphers : ((security.map (·.pairwiseCiphers)).getD []).length ≤ maxPairwiseCiphers := by
    cases security with
    | none => exact Nat.zero_le _
    | some present => exact (limits present rfl).fewCiphers
  have fewSuites : ((security.map (·.akmSuites)).getD []).length ≤ maxAkmSuites := by
    cases security with
    | none => exact Nat.zero_le _
    | some present => exact (limits present rfl).fewSuites
  have later : Writes (writeAssociationGroupAndAkm security) _ :=
    (writes_u32 _).then <| (writes_u32 _).then <| (writes_fixedU32 fewSuites).then (writes_i32 _)
  have whole : Writes (writeAssociationCiphers security) _ :=
    (writes_i32 _).then <| (writes_fixedU32 fewCiphers).then later
  simpa only [associationCipherBytes, countedWordsBytes, List.append_assoc] using whole

theorem writes_associationNetwork {request : AssociationRequest} (limits : request.InLimits) :
    Writes (writeAssociationNetwork request) (associationNetworkBytes request) := by
  have elements :
      ((request.security.map (·.rsnInformationElement)).getD []).length ≤ maxIeLen := by
    cases known : request.security with
    | none => exact Nat.zero_le _
    | some present => exact (limits.security present known).elements
  exact (writes_u32 _).then <| (writes_u16 _).then <| (writes_bytes _).then <|
    (writes_bytes _).then <| (writes_ssid limits.ssid).then (writes_ie elements)

theorem writes_associationBody {request : AssociationRequest} (limits : request.InLimits) :
    Writes (writeAssociationBody request) (associationBytes request) := by
  have header : Writes (writeAssociationHeader request) (associationHeaderBytes request) :=
    ((writes_u32 _).then (writes_u32 _)).then <|
      (writes_u32 _).then <| (writes_u32 _).then (writes_u32 _)
  have port : Writes writeAssociationControlPort associationControlPortBytes :=
    (writes_u32 _).then <| (writes_u16 _).then <| (writes_zeros _).then <|
      (writes_u16 _).then <| (writes_u8 _).then (writes_u8 _)
  have previous : Writes (writeAssociationPreviousBssid request)
      (associationPreviousBssidBytes request) :=
    (writes_bytes _).then <| (writes_u16 _).then (writes_bytes _)
  exact header.then <| (writes_associationCiphers limits.security).then <|
    (writes_associationNetwork limits).then <| port.then previous

/-! ## The short commands -/

def interfaceStateBytes (up : Bool) (firmwareIndex : Int8) : Bytes :=
  le32 (if up then (1 : Int32) else 0).toUInt32 ++ [firmwareIndex.toUInt8]

def regulatoryBytes (country : UInt8 × UInt8) (userHintType : UInt32) (force : Bool) : Bytes :=
  le32 ((1 : UInt32) ||| ((1 : UInt32) <<< 1) ||| (if force then (1 : UInt32) <<< 2 else 0)) ++
    (le32 userHintType ++ [country.1, country.2])

def stationAuthorizedBytes (peer : Octets 6) (authorized : Bool) : Bytes :=
  (le32 setStationFlagsValid ++ (List.replicate 260 0 ++ (le32 stationFlagAuthorized ++
      le32 (if authorized then stationFlagAuthorized else 0)))) ++
    (List.replicate 512 0 ++ (peer.1 ++ List.replicate 3 0))

theorem writes_stationAuthorizedBody (peer : Octets 6) (authorized : Bool) :
    Writes (writeStationAuthorizedBody peer authorized) (stationAuthorizedBytes peer authorized) :=
  ((writes_u32 _).then <| (writes_zeros _).then <| (writes_u32 _).then (writes_u32 _)).then <|
    (writes_zeros _).then <| (writes_bytes _).then (writes_zeros _)

end Nrf7002
