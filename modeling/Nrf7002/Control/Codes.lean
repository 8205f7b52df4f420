import Nrf7002.Control.Bytes

/-! # The bodies as codes of fixed width

Each body of a station command has one width, whatever its variable fields hold, and
determines the fields of its request.  An absent key, previous address or security
differs from a present one in the validity bits. -/

set_option autoImplicit false

namespace Nrf7002
open Foundation

theorem AuthenticationType.number_inj {first second : AuthenticationType}
    (same : first.number = second.number) : first = second := by
  cases first <;> cases second <;> first | rfl | exact absurd same (by decide)

theorem KeyType.number_inj {first second : KeyType} (same : first.number = second.number) :
    first = second := by
  cases first <;> cases second <;> first | rfl | exact absurd same (by decide)

theorem MfpMode.number_inj {first second : MfpMode} (same : first.number = second.number) :
    first = second := by
  cases first <;> cases second <;> first | rfl | exact absurd same (by decide)

theorem UmacCommand.number_inj {first second : UmacCommand}
    (same : first.number = second.number) : first = second := by
  have found (command : UmacCommand) : [triggerScan, getScanResults, authenticate, associate,
      deauthenticate, setWiphy, newKey, deleteKey, setKey, newInterface, setInterface,
      deleteInterface, setInterfaceFlags, newStation, deleteStation, setStation, getStation,
      registerFrame, frame, setPowerSave, getChannel, getTxPower, getInterface, getWiphy,
      getInterfaceHardwareAddress, setInterfaceHardwareAddress, getRegulatory,
      requestSetRegulatory, configureUapsd, configureTwt, teardownTwt, abortScan,
      multicastFilter, changeMacAddress, setPowerSaveTimeout, getConnectionInfo,
      getPowerSaveInfo, setListenInterval, configureExtendedPowerSave, configureQuietPeriod,
      powerSaveExitStrategy].find? (fun other => other.number == command.number) =
        some command := by
    cases command <;> rfl
  have one := found first
  rw [same, found second] at one
  exact (Option.some.inj one).symm

section Counts
variable {α : Type} {V : α → Prop}

theorem fixedCode_i32 (f : α → Int32) : FixedCode V 4 (fun a => le32 (f a).toUInt32) f where
  length a _ := length_le32 (f a).toUInt32
  determines _ _ _ _ same := congrArg UInt32.toInt32 (le32_inj same)

/-- A number that its word holds unchanged. -/
theorem fixedCode_u32Count (f : α → Nat) (small : ∀ a, V a → f a < 2 ^ 32) :
    FixedCode V 4 (fun a => le32 (UInt32.ofNat (f a))) f := by
  apply (fixedCode_le32 (V := V) fun a => UInt32.ofNat (f a)).weaken
  intro a b left right same
  have numbers := congrArg UInt32.toNat same
  rwa [UInt32.toNat_ofNat', UInt32.toNat_ofNat', Nat.mod_eq_of_lt (small a left),
    Nat.mod_eq_of_lt (small b right)] at numbers

theorem fixedCode_i32Count (f : α → Nat) (small : ∀ a, V a → f a < 2 ^ 32) :
    FixedCode V 4 (fun a => le32 (Int32.ofNat (f a)).toUInt32) f :=
  fixedCode_u32Count f small

theorem fixedCode_u16Count (f : α → Nat) (small : ∀ a, V a → f a < 2 ^ 16) :
    FixedCode V 2 (fun a => le16 (UInt16.ofNat (f a))) f := by
  apply (fixedCode_le16 (V := V) fun a => UInt16.ofNat (f a)).weaken
  intro a b left right same
  have numbers := congrArg UInt16.toNat same
  rwa [UInt16.toNat_ofNat', UInt16.toNat_ofNat', Nat.mod_eq_of_lt (small a left),
    Nat.mod_eq_of_lt (small b right)] at numbers

theorem fixedCode_u8Count (f : α → Nat) (small : ∀ a, V a → f a < 2 ^ 8) :
    FixedCode V 1 (fun a => [UInt8.ofNat (f a)]) f := by
  apply (fixedCode_u8 (V := V) fun a => UInt8.ofNat (f a)).weaken
  intro a b left right same
  have numbers := congrArg UInt8.toNat same
  rwa [UInt8.toNat_ofNat', UInt8.toNat_ofNat', Nat.mod_eq_of_lt (small a left),
    Nat.mod_eq_of_lt (small b right)] at numbers

/-- A choice between two words that differ. -/
theorem fixedCode_flag {yes no : UInt32} (apart : yes ≠ no) (f : α → Bool) :
    FixedCode V 4 (fun a => le32 (if f a then yes else no)) f := by
  apply (fixedCode_le32 (V := V) fun a => if f a then yes else no).weaken
  intro a b _ _ same
  cases one : f a <;> cases other : f b <;> simp only [one, other] at same ⊢
  · exact absurd same.symm apart
  · exact absurd same apart

theorem fixedCode_i32Flag (f : α → Bool) :
    FixedCode V 4 (fun a => le32 (if f a then (1 : Int32) else 0).toUInt32) f := by
  apply (fixedCode_i32 (V := V) fun a => if f a then 1 else 0).weaken
  intro a b _ _ same
  cases one : f a <;> cases other : f b <;> simp [one, other] at same ⊢

theorem fixedCode_ssid (f : α → Bytes) (inside : ∀ a, V a → (f a).length ≤ 32) :
    FixedCode V 33 (fun a => ssidBytes (f a)) f := by
  apply FixedCode.counted (w := 1) (l := 32)
  · apply fixedCode_u8Count
    intro a holds
    have fits := inside a holds
    omega
  · exact inside

theorem fixedCode_ie (f : α → Bytes) (inside : ∀ a, V a → (f a).length ≤ maxIeLen) :
    FixedCode V (2 + maxIeLen) (fun a => ieBytes (f a)) f := by
  apply FixedCode.counted (w := 2) (l := maxIeLen)
  · apply fixedCode_u16Count
    intro a holds
    have fits := inside a holds
    unfold maxIeLen at fits
    omega
  · exact inside

end Counts

/-! ## Keys -/

theorem fixedCode_keyInfoHeader :
    FixedCode KeyConfig.InLimits 14 keyInfoHeaderBytes fun key =>
      (keyInfoValidFields key, key.cipherSuite, key.flags, key.keyType.number) :=
  (fixedCode_le32 _).then <| (fixedCode_le32 _).then <| (fixedCode_le16 _).then (fixedCode_i32 _)

theorem fixedCode_keyInfoMaterial :
    FixedCode KeyConfig.InLimits 521 keyInfoMaterialBytes fun key =>
      (key.key, key.sequence, key.keyIndex) := by
  apply FixedCode.then (w := 260) (n := 261)
  · apply FixedCode.counted (w := 4) (l := maxKeyLen)
    · apply fixedCode_u32Count
      intro key limits
      have fits := limits.material
      unfold maxKeyLen at fits
      omega
    · exact fun key limits => limits.material
  · apply FixedCode.then (w := 260) (n := 1)
    · apply FixedCode.counted (w := 4) (l := maxKeySequenceLen)
      · apply fixedCode_i32Count
        intro key limits
        have fits := limits.sequence
        unfold maxKeySequenceLen at fits
        omega
      · exact fun key limits => limits.sequence
    · exact fixedCode_u8 _

theorem fixedCode_presentKey :
    FixedCode KeyConfig.InLimits keyInfoLen (fun key => keyInfoBytes (some key)) id := by
  apply (fixedCode_keyInfoHeader.then fixedCode_keyInfoMaterial).weaken
  intro first second _ _ same
  simp only [Prod.mk.injEq] at same
  obtain ⟨⟨_, cipher, flags, kind⟩, material, sequence, index⟩ := same
  have kinds := KeyType.number_inj kind
  cases first
  cases second
  simp_all

/-- Some validity bit of a present key is set. -/
theorem keyInfoValidFields_ne_zero (key : KeyConfig) : keyInfoValidFields key ≠ 0 := by
  rw [keyInfoValidFields]
  cases key.key.isEmpty <;> cases key.sequence.isEmpty <;> decide

theorem keyInfoBytes_none_ne (key : KeyConfig) : keyInfoBytes none ≠ keyInfoBytes (some key) := by
  intro same
  have first := congrArg (List.take 4) same
  have present : (keyInfoBytes (some key)).take 4 = le32 (keyInfoValidFields key) := by
    rw [keyInfoBytes, keyInfoHeaderBytes, List.append_assoc]
    exact List.take_left' (length_le32 _)
  have zero : le32 0 = le32 (keyInfoValidFields key) := first.trans present
  exact keyInfoValidFields_ne_zero key (le32_inj zero).symm

theorem fixedCode_keyInfo :
    FixedCode (fun key : Option KeyConfig => ∀ present, key = some present → present.InLimits)
      keyInfoLen keyInfoBytes id where
  length key limits := by
    cases key with
    | none => exact List.length_replicate
    | some key => exact fixedCode_presentKey.length key (limits key rfl)
  determines first second left right same := by
    cases first with
    | none =>
        cases second with
        | none => rfl
        | some key => exact absurd same (keyInfoBytes_none_ne key)
    | some key =>
        cases second with
        | none => exact absurd same.symm (keyInfoBytes_none_ne key)
        | some other =>
            exact congrArg some
              (fixedCode_presentKey.determines key other (left key rfl) (right other rfl) same)

/-- An optional address behind a word that tells whether it is present. -/
theorem optional_octets_inj {n : Nat} {first second : Option (Octets n)}
    (present : first.isSome = second.isSome)
    (same : first.getD (zeroOctets n) = second.getD (zeroOctets n)) : first = second := by
  cases first <;> cases second <;> simp_all

theorem fixedCode_keyCommand :
    FixedCode (fun pair : Option (Octets 6) × KeyConfig => pair.2.InLimits) (4 + keyInfoLen + 6)
      (fun pair => keyCommandBytes pair.1 pair.2) id := by
  have whole := (fixedCode_flag (show keyMacValid ≠ 0 by decide)
      fun pair : Option (Octets 6) × KeyConfig => pair.1.isSome).then
    ((fixedCode_presentKey.part (V := fun pair : Option (Octets 6) × KeyConfig =>
        pair.2.InLimits) Prod.snd fun _ limits => limits).then
      (fixedCode_octets fun pair => pair.1.getD (zeroOctets 6)))
  apply whole.weaken
  intro first second _ _ same
  simp only [Prod.mk.injEq] at same
  obtain ⟨present, key, peer⟩ := same
  exact Prod.ext (optional_octets_inj present peer) key

theorem fixedCode_defaultKey :
    FixedCode (fun _ : KeyConfig => True) keyInfoLen defaultKeyBytes fun key =>
      (key.flags, key.keyIndex) := by
  have header := (fixedCode_le32 fun _ : KeyConfig => keyIndexValid).then <|
    (fixedCode_le32 fun _ => 0).then <|
      (fixedCode_le16 KeyConfig.flags).then (fixedCode_le32 (V := fun _ => True) fun _ => 0)
  have material := (fixedCode_le32 fun _ : KeyConfig => 0).then <|
    (fixedCode_zeros maxKeyLen).then <| (fixedCode_le32 fun _ => 0).then <|
      (fixedCode_zeros maxKeySequenceLen).then
        (fixedCode_u8 (V := fun _ => True) KeyConfig.keyIndex)
  apply (header.then material).weaken
  intro first second _ _ same
  simp only [Prod.mk.injEq] at same ⊢
  simp_all

/-! ## Authentication -/

theorem fixedCode_authenticationHeader :
    FixedCode AuthenticationRequest.InLimits 14 authenticationHeaderBytes fun request =>
      (authenticationValidFields request, request.frequencyMhz, request.localStateChange,
        request.authType.number) := by
  apply FixedCode.then (w := 4) (n := 10)
  · exact fixedCode_le32 _
  · apply FixedCode.then (w := 4) (n := 6)
    · exact fixedCode_le32 _
    · apply FixedCode.then (w := 2) (n := 4)
      · apply (fixedCode_le16 fun request : AuthenticationRequest =>
          if request.localStateChange then authLocalStateChange else 0).weaken
        intro first second _ _ same
        cases one : first.localStateChange <;> cases other : second.localStateChange <;>
          simp [one, other, authLocalStateChange] at same ⊢
      · exact fixedCode_i32 _

theorem fixedCode_authenticationSae :
    FixedCode AuthenticationRequest.InLimits (4 + maxSaeLen + 6) authenticationSaeBytes
      fun request => (request.saeData, request.bssid) := by
  apply FixedCode.then
  · apply FixedCode.counted
    · apply fixedCode_i32Count
      intro request limits
      have fits := limits.sae
      unfold maxSaeLen at fits
      omega
    · exact fun request limits => limits.sae
  · exact fixedCode_octets _

theorem fixedCode_bssContext {Valid : BssContext → Prop}
    (inside : ∀ bss, Valid bss → bss.informationElements.length ≤ maxIeLen) :
    FixedCode Valid (14 + maxIeLen + 12) bssContextBytes id := by
  have observation := (fixedCode_i32 BssContext.scanWidth).then <|
    (fixedCode_i32 BssContext.signalDbm).then <|
      (fixedCode_i32Flag BssContext.fromBeacon).then <|
        fixedCode_ie BssContext.informationElements inside
  have timing := (fixedCode_le16 (V := Valid) BssContext.capability).then <|
    (fixedCode_le16 BssContext.beaconInterval).then (fixedCode_le64 BssContext.tsf)
  apply (observation.then timing).weaken
  intro first second _ _ same
  simp only [Prod.mk.injEq] at same
  cases first
  cases second
  simp_all

theorem fixedCode_authentication :
    FixedCode AuthenticationRequest.InLimits authBodyLen authenticationBytes id := by
  have security := (fixedCode_keyInfo.part AuthenticationRequest.key
      fun request (limits : request.InLimits) => limits.key).then <|
    (fixedCode_ssid AuthenticationRequest.ssid fun request limits => limits.ssid).then <|
      fixedCode_ie AuthenticationRequest.informationElements fun request limits => limits.elements
  have rest := fixedCode_authenticationSae.then
    ((fixedCode_bssContext fun bss holds => holds).part AuthenticationRequest.bss
      fun request (limits : request.InLimits) => limits.bssElements)
  apply (fixedCode_authenticationHeader.then (security.then rest)).weaken
  intro first second _ _ same
  simp only [Prod.mk.injEq] at same
  obtain ⟨⟨_, _, _, kind⟩, _⟩ := same
  have kinds := AuthenticationType.number_inj kind
  cases first
  cases second
  simp_all

/-! ## Association -/

theorem fixedCode_associationHeader :
    FixedCode AssociationRequest.InLimits 20 associationHeaderBytes fun request =>
      (request.previousBssid.isSome, request.frequencyMhz, request.security.isSome) := by
  have validity := (fixedCode_flag (show assocPreviousBssidValid ≠ 0 by decide)
    fun request : AssociationRequest => request.previousBssid.isSome).then <|
      fixedCode_le32 (V := AssociationRequest.InLimits) associationValidFields
  have frequency := (fixedCode_le32 AssociationRequest.frequencyMhz).then <|
    (fixedCode_le32 fun _ => 0).then <|
      fixedCode_flag (V := AssociationRequest.InLimits) (show wpaVersion2 ≠ 0 by decide)
        fun request => request.security.isSome
  apply (validity.then frequency).weaken
  intro first second _ _ same
  simp only [Prod.mk.injEq] at same ⊢
  simp_all

theorem fixedCode_countedWords {α : Type} {V : α → Prop} (f : α → List UInt32) {l : Nat}
    (inside : ∀ a, V a → (f a).length ≤ l) (small : l < 2 ^ 32) :
    FixedCode V (4 + l * 4)
      (fun a => countedWordsBytes (UInt32.ofNat (f a).length) (f a) l) f :=
  (fixedCode_u32Count (fun a => (f a).length) fun a holds =>
    Nat.lt_of_le_of_lt (inside a holds) small).countedWords inside

/-- The security of an association whose request is within its limits. -/
def SecurityInLimits (security : Option AssociationSecurity) : Prop :=
  ∀ present, security = some present → present.InLimits

theorem fixedCode_associationCiphers :
    FixedCode SecurityInLimits 52 associationCipherBytes fun security =>
      ((security.map (·.pairwiseCiphers)).getD [], (security.map (·.groupCipher)).getD 0,
        (security.map (·.akmSuites)).getD [],
        (security.map (·.mfp.number)).getD MfpMode.disabled.number) := by
  have ciphers := fixedCode_countedWords (V := SecurityInLimits) (l := maxPairwiseCiphers)
    (fun security : Option AssociationSecurity => (security.map (·.pairwiseCiphers)).getD [])
    (fun security limits => by
      cases security with
      | none => exact Nat.zero_le _
      | some present => exact (limits present rfl).fewCiphers) (by decide)
  have suites := fixedCode_countedWords (V := SecurityInLimits) (l := maxAkmSuites)
    (fun security : Option AssociationSecurity => (security.map (·.akmSuites)).getD [])
    (fun security limits => by
      cases security with
      | none => exact Nat.zero_le _
      | some present => exact (limits present rfl).fewSuites) (by decide)
  exact ciphers.then <| (fixedCode_le32 _).then <| suites.then (fixedCode_i32 _)

theorem fixedCode_associationNetwork :
    FixedCode AssociationRequest.InLimits (53 + maxIeLen) (fun request =>
        associationNetworkBytes request) fun request =>
      (request.backgroundScanPeriodS, request.bssid, request.ssid,
        (request.security.map (·.rsnInformationElement)).getD []) := by
  have elements := fixedCode_ie (V := AssociationRequest.InLimits)
    (fun request => (request.security.map (·.rsnInformationElement)).getD [])
    (fun request limits => by
      cases known : request.security with
      | none => exact Nat.zero_le _
      | some present => exact (limits.security present known).elements)
  have parts := (fixedCode_le32 fun _ => 0).then <|
    (fixedCode_le16 AssociationRequest.backgroundScanPeriodS).then <|
      (fixedCode_octets AssociationRequest.bssid).then <|
        (fixedCode_octets fun _ => zeroOctets 6).then <|
          (fixedCode_ssid AssociationRequest.ssid fun request limits => limits.ssid).then elements
  apply parts.weaken
  intro first second _ _ same
  simp only [Prod.mk.injEq] at same ⊢
  simp_all

theorem fixedCode_associationPreviousBssid :
    FixedCode AssociationRequest.InLimits 14 associationPreviousBssidBytes fun request =>
      (request.previousBssid.getD (zeroOctets 6), request.bssMaxIdleS) := by
  have parts := (fixedCode_octets fun request : AssociationRequest =>
      request.previousBssid.getD (zeroOctets 6)).then <|
    (fixedCode_le16 AssociationRequest.bssMaxIdleS).then <|
      fixedCode_octets (V := AssociationRequest.InLimits) fun request : AssociationRequest =>
        request.previousBssid.getD (zeroOctets 6)
  apply parts.weaken
  intro first second _ _ same
  simp only [Prod.mk.injEq] at same ⊢
  simp_all

/-- A security is absent exactly where its presence bit is clear. -/
theorem associationSecurity_inj {first second : Option AssociationSecurity}
    (present : first.isSome = second.isSome)
    (ciphers : (first.map (·.pairwiseCiphers)).getD [] = (second.map (·.pairwiseCiphers)).getD [])
    (group : (first.map (·.groupCipher)).getD 0 = (second.map (·.groupCipher)).getD 0)
    (suites : (first.map (·.akmSuites)).getD [] = (second.map (·.akmSuites)).getD [])
    (mfp : (first.map (·.mfp.number)).getD MfpMode.disabled.number =
      (second.map (·.mfp.number)).getD MfpMode.disabled.number)
    (elements : (first.map (·.rsnInformationElement)).getD [] =
      (second.map (·.rsnInformationElement)).getD []) : first = second := by
  cases first with
  | none =>
      cases second with
      | none => rfl
      | some other => cases present
  | some security =>
      cases second with
      | none => cases present
      | some other =>
          have modes := MfpMode.number_inj mfp
          cases security
          cases other
          simp_all

theorem fixedCode_association :
    FixedCode AssociationRequest.InLimits assocBodyLen associationBytes id := by
  have ciphers := fixedCode_associationCiphers.part AssociationRequest.security
    fun request (limits : request.InLimits) => limits.security
  have port : FixedCode AssociationRequest.InLimits 1034 (fun _ => associationControlPortBytes)
      (fun _ => ()) :=
    { length := fun _ _ => by
        simp only [associationControlPortBytes, List.length_append, length_le32, length_le16,
          List.length_replicate]
        rfl
      determines := fun _ _ _ _ _ => rfl }
  have parts := fixedCode_associationHeader.then <| ciphers.then <|
    fixedCode_associationNetwork.then <| port.then fixedCode_associationPreviousBssid
  apply parts.weaken
  intro first second _ _ same
  simp only [Prod.mk.injEq] at same
  obtain ⟨⟨previousPresent, _, securityPresent⟩, ⟨pairwise, group, suites, mfp⟩,
    ⟨_, _, _, elements⟩, _, previous, _⟩ := same
  have bssid := optional_octets_inj previousPresent previous
  have security := associationSecurity_inj securityPresent pairwise group suites mfp elements
  cases first
  cases second
  simp_all

/-! ## The short commands -/

theorem length_interfaceStateBytes (up : Bool) (firmwareIndex : Int8) :
    (interfaceStateBytes up firmwareIndex).length = 5 := by
  rw [interfaceStateBytes, List.length_append, length_le32]
  rfl

theorem length_regulatoryBytes (country : UInt8 × UInt8) (userHintType : UInt32) (force : Bool) :
    (regulatoryBytes country userHintType force).length = 10 := by
  rw [regulatoryBytes, List.length_append, List.length_append, length_le32, length_le32]
  rfl

theorem length_stationAuthorizedBytes (peer : Octets 6) (authorized : Bool) :
    (stationAuthorizedBytes peer authorized).length = 4 + changeStationInfoLen := by
  simp only [stationAuthorizedBytes, List.length_append, length_le32, List.length_replicate,
    peer.2]
  rfl

end Nrf7002
