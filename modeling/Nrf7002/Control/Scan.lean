import Nrf7002.Control.Umac

/-! # Scan requests

A request within the limits always fits: the body has one fixed part of 490 bytes and the
frequencies behind it.  The body determines every field that the encoder uses. -/

set_option autoImplicit false

namespace Nrf7002
open Foundation

namespace ScanRequest

/-- The limits that the encoder checks, on the SSIDs that are counted alone. -/
structure InLimits (request : ScanRequest) : Prop where
  count : request.ssidCount.toNat ≤ 2
  frequencies : request.centerFrequenciesMhz.length ≤ 64
  elements : request.informationElements.length ≤ 400
  ssids : ∀ ssid ∈ request.ssids.1.take request.ssidCount.toNat, ssid.length ≤ 32

/-- The SSID that is written into a slot. -/
def slot (request : ScanRequest) (index : Nat) : Bytes :=
  if index < request.ssidCount.toNat then request.ssids.1.getD index [] else []

/-- The request without the SSIDs that its count leaves out. -/
def used (request : ScanRequest) : ScanRequest :=
  { request with ssids := ⟨[request.slot 0, request.slot 1], rfl⟩ }

def headerBytes (request : ScanRequest) : Bytes :=
  le32 request.reason.number.toUInt32 ++ (le16 (boolU16 request.passive) ++ [request.ssidCount])

def timingBytes (request : ScanRequest) : Bytes :=
  le16 request.activeDwellMs ++ (le16 request.passiveDwellMs ++
    (le16 (UInt16.ofNat request.centerFrequenciesMhz.length) ++
      [boolU8 request.skipLocalAdminMacs]))

def optionsBytes (request : ScanRequest) : Bytes :=
  [boolU8 request.noCck] ++ ([request.bands] ++
    ((le16 (UInt16.ofNat request.informationElements.length) ++
      padded request.informationElements maxScanIeLen) ++
        (request.macAddress.1 ++ request.timingBytes)))

/-- The part of the body in front of the frequencies. -/
def fixedBytes (request : ScanRequest) : Bytes :=
  request.headerBytes ++ ((ssidBytes (request.slot 0) ++ ssidBytes (request.slot 1)) ++
    request.optionsBytes)

def bodyBytes (request : ScanRequest) : Bytes :=
  request.fixedBytes ++ request.centerFrequenciesMhz.flatMap le32

end ScanRequest

/-! ## The limits -/

section Limits

theorem validateScanRequest_limited (request : ScanRequest) :
    Limited (validateScanRequest request) request.InLimits := by
  have capacities : Limited (validateScanCapacities request)
      (¬ maxScanSsids < request.ssidCount.toNat ∧
        ¬ maxScanFrequencies < request.centerFrequenciesMhz.length ∧
        ¬ maxScanIeLen < request.informationElements.length) := by
    rw [validateScanCapacities]
    apply Limited.guarded
    apply Limited.guarded
    exact limited_check _
  have ssids : Limited (validateScanSsids request)
      (∀ ssid ∈ request.ssids.1.take request.ssidCount.toNat, ssid.length ≤ 32) := by
    have checked : (request.ssids.1.take request.ssidCount.toNat).all (·.length ≤ maxSsidLen) =
        true ↔ ∀ ssid ∈ request.ssids.1.take request.ssidCount.toNat, ssid.length ≤ 32 := by
      simp only [List.all_eq_true, decide_eq_true_eq]
      exact Iff.rfl
    rw [validateScanSsids]
    by_cases fits : (request.ssids.1.take request.ssidCount.toNat).all (·.length ≤ maxSsidLen) =
        true
    · exact .inl ⟨if_pos fits, checked.mp fits⟩
    · exact .inr ⟨if_neg fits, fun limits => fits (checked.mpr limits)⟩
  apply (capacities.then ssids).congr
  rw [Nat.not_lt, Nat.not_lt, Nat.not_lt]
  constructor
  · intro ⟨⟨count, frequencies, elements⟩, ssids⟩
    exact { count, frequencies, elements, ssids }
  · intro limits
    exact ⟨⟨limits.count, limits.frequencies, limits.elements⟩, limits.ssids⟩

variable {request : ScanRequest}

theorem ScanRequest.InLimits.slot (limits : request.InLimits) (index : Nat) :
    (request.slot index).length ≤ 32 := by
  rw [ScanRequest.slot]
  by_cases counted : index < request.ssidCount.toNat
  · rw [if_pos counted]
    by_cases inside : index < request.ssids.1.length
    · have place : index < (request.ssids.1.take request.ssidCount.toNat).length := by
        rw [List.length_take]
        omega
      have member := List.getElem_mem place
      rw [List.getElem_take] at member
      rw [List.getD_eq_getElem?_getD, List.getElem?_eq_getElem inside]
      exact limits.ssids _ member
    · rw [List.getD_eq_getElem?_getD, List.getElem?_eq_none (by omega)]
      exact Nat.zero_le _
  · rw [if_neg counted]
    exact Nat.zero_le _

end Limits

/-! ## What is written -/

section Writing
variable {request : ScanRequest}

theorem writes_scanSsid {ssid : Bytes} (inside : ssid.length ≤ 32) :
    Writes (writeScanSsid ssid) (ssidBytes ssid) :=
  (writes_u8 _).then (writes_fixed inside)

theorem writes_scanSsids (limits : request.InLimits) :
    Writes (writeScanSsids request)
      (ssidBytes (request.slot 0) ++ ssidBytes (request.slot 1)) := by
  have first := writes_scanSsid (limits.slot 0)
  have second := writes_scanSsid (limits.slot 1)
  obtain ⟨ssids, two⟩ : ∃ ssids, request.ssids = ssids := ⟨_, rfl⟩
  obtain ⟨ssids, length⟩ := ssids
  have slots (index : Nat) : request.slot index =
      if index < request.ssidCount.toNat then ssids.getD index [] else [] := by
    rw [ScanRequest.slot, two]
  cases ssids with
  | nil => cases length
  | cons one rest =>
      cases rest with
      | nil => cases length
      | cons other rest =>
          obtain rfl := List.length_eq_zero_iff.mp
            (Nat.succ.inj (Nat.succ.inj (show rest.length + 1 + 1 = 0 + 1 + 1 from length)))
          rw [slots 0] at first
          rw [slots 1] at second
          rw [writeScanSsids, two, slots 0, slots 1]
          have both := first.then (second.then writes_nothing)
          rwa [List.append_nil] at both

theorem writes_scanBody (limits : request.InLimits) :
    Writes (writeScanBody request) request.bodyBytes := by
  have header : Writes (writeScanHeader request) request.headerBytes :=
    (writes_i32 _).then ((writes_u16 _).then (writes_u8 _))
  have timing : Writes (writeScanTiming request) request.timingBytes :=
    (writes_u16 _).then ((writes_u16 _).then ((writes_u16 _).then (writes_u8 _)))
  have elements := writes_fixed
    (show request.informationElements.length ≤ maxScanIeLen from limits.elements)
  have options : Writes (writeScanOptions request) request.optionsBytes := by
    have parts := (writes_u8 (boolU8 request.noCck)).then ((writes_u8 request.bands).then
      ((writes_u16 (UInt16.ofNat request.informationElements.length)).then
        (elements.then ((writes_bytes request.macAddress.1).then timing))))
    rw [ScanRequest.optionsBytes, List.append_assoc (le16 _)]
    exact parts
  have whole := header.then ((writes_scanSsids limits).then
    (options.then (writes_words request.centerFrequenciesMhz)))
  rw [ScanRequest.bodyBytes, ScanRequest.fixedBytes, List.append_assoc request.headerBytes,
    List.append_assoc (ssidBytes _ ++ ssidBytes _)]
  exact whole

end Writing

/-! ## What the body determines -/

section Body

theorem ScanReason.number_inj {first second : ScanReason} (same : first.number = second.number) :
    first = second := by
  cases first <;> cases second <;> first | rfl | exact absurd same (by decide)

theorem boolU16_inj {first second : Bool} (same : boolU16 first = boolU16 second) :
    first = second := by
  revert first second
  decide

theorem boolU8_inj {first second : Bool} (same : boolU8 first = boolU8 second) : first = second := by
  revert first second
  decide

theorem fixedCode_scanHeader :
    FixedCode ScanRequest.InLimits 7 ScanRequest.headerBytes fun request =>
      (request.reason.number, boolU16 request.passive, request.ssidCount) :=
  (fixedCode_i32 _).then <| (fixedCode_le16 _).then (fixedCode_u8 _)

theorem fixedCode_scanTiming :
    FixedCode ScanRequest.InLimits 7 ScanRequest.timingBytes fun request =>
      (request.activeDwellMs, request.passiveDwellMs, request.centerFrequenciesMhz.length,
        boolU8 request.skipLocalAdminMacs) := by
  have number : FixedCode ScanRequest.InLimits 2
      (fun request => le16 (UInt16.ofNat request.centerFrequenciesMhz.length))
      fun request => request.centerFrequenciesMhz.length := by
    apply fixedCode_u16Count
    intro request limits
    have fits := limits.frequencies
    omega
  exact (fixedCode_le16 _).then <| (fixedCode_le16 _).then <| number.then (fixedCode_u8 _)

theorem fixedCode_scanOptions :
    FixedCode ScanRequest.InLimits 417 ScanRequest.optionsBytes fun request =>
      (boolU8 request.noCck, request.bands, request.informationElements, request.macAddress,
        request.activeDwellMs, request.passiveDwellMs, request.centerFrequenciesMhz.length,
        boolU8 request.skipLocalAdminMacs) := by
  have elements : FixedCode ScanRequest.InLimits 402
      (fun request => le16 (UInt16.ofNat request.informationElements.length) ++
        padded request.informationElements maxScanIeLen) ScanRequest.informationElements := by
    apply FixedCode.counted (w := 2) (l := 400)
    · apply fixedCode_u16Count
      intro request limits
      have fits := limits.elements
      omega
    · exact fun request limits => limits.elements
  exact (fixedCode_u8 fun request => boolU8 request.noCck).then <|
    (fixedCode_u8 ScanRequest.bands).then <| elements.then <|
      (fixedCode_octets ScanRequest.macAddress).then fixedCode_scanTiming

theorem fixedCode_scan :
    FixedCode ScanRequest.InLimits 490 ScanRequest.fixedBytes fun request =>
      ((request.reason.number, boolU16 request.passive, request.ssidCount),
        (request.slot 0, request.slot 1),
        (boolU8 request.noCck, request.bands, request.informationElements, request.macAddress,
          request.activeDwellMs, request.passiveDwellMs, request.centerFrequenciesMhz.length,
          boolU8 request.skipLocalAdminMacs)) := by
  have slots : FixedCode ScanRequest.InLimits 66
      (fun request => ssidBytes (request.slot 0) ++ ssidBytes (request.slot 1))
      fun request => (request.slot 0, request.slot 1) :=
    (fixedCode_ssid _ fun _ limits => limits.slot 0).then
      (fixedCode_ssid _ fun _ limits => limits.slot 1)
  exact fixedCode_scanHeader.then (slots.then fixedCode_scanOptions)

variable {first second : ScanRequest}

theorem length_scanBody {request : ScanRequest} (limits : request.InLimits) :
    request.bodyBytes.length = 490 + request.centerFrequenciesMhz.length * 4 := by
  rw [ScanRequest.bodyBytes, List.length_append, fixedCode_scan.length request limits,
    length_flatMap_le32]

/-- Requests with the same body differ in no field that the encoder uses. -/
theorem scanBody_inj (left : first.InLimits) (right : second.InLimits)
    (same : first.bodyBytes = second.bodyBytes) : first.used = second.used := by
  obtain ⟨fixed, words⟩ := List.append_inj same
    ((fixedCode_scan.length first left).trans (fixedCode_scan.length second right).symm)
  have fields := fixedCode_scan.determines first second left right fixed
  simp only [Prod.mk.injEq] at fields
  obtain ⟨⟨reason, passive, count⟩, ⟨slot0, slot1⟩, noCck, bands, elements, address, active, dwell,
    number, skip⟩ := fields
  rw [ScanRequest.used, ScanRequest.used, ScanReason.number_inj reason, boolU16_inj passive, count,
    boolU8_inj noCck, bands, elements, address, active, dwell, boolU8_inj skip,
    flatMap_le32_inj number words]
  simp only [slot0, slot1]

end Body

/-! ## The outcome of a scan command -/

section Outcome

/-- A request within the limits fails for want of room alone. -/
theorem encodeScan_outcome (wdevId : UInt32) {request : ScanRequest} (limits : request.InLimits)
    (out : Bytes) :
    Post (encodeScan wdevId request) out fun result after =>
      let total := 538 + request.centerFrequenciesMhz.length * 4
      if out.length < total then result = .error .bufferTooSmall ∧ after = out
      else result = .ok total ∧
        after = umacCommandBytes .triggerScan { wdevId := some wdevId.toUInt64 }
          request.bodyBytes ++ out.drop total := by
  have valid := (validateScanRequest_limited request).ok_iff.mpr limits
  have length := length_scanBody limits
  have frequencies := limits.frequencies
  have bodyLen : scanBodyLen request.centerFrequenciesMhz.length =
      .ok (490 + request.centerFrequenciesMhz.length * 4) := by
    apply if_neg
    have bound : maxScanBodyLen = 976 := rfl
    omega
  have fresh : encodeFresh (490 + request.centerFrequenciesMhz.length * 4)
      (writeScanBody request) =
        .ok (490 + request.centerFrequenciesMhz.length * 4, request.bodyBytes) := by
    rw [← length]
    exact encodeFresh_eq (writes_scanBody limits)
  simp only [encodeScan, post_bind, post_liftResult, valid, bodyLen, fresh, post_ite, ne_eq,
    not_true_eq_false, if_false]
  refine (encodeUmacCommand_outcome .triggerScan { wdevId := some wdevId.toUInt64 }
    request.bodyBytes out).mono ?_
  intro result after outcome
  rw [if_neg (by omega), length, ← Nat.add_assoc] at outcome
  exact outcome

/-- A UMAC command is encoded exactly when its body and the whole message fit, and read back
with its number, its identifiers and its body.  A scan request within the limits fails for
want of room alone, and its body determines all that is used of it. -/
theorem umacCommands_lossless :
    (∀ (command : UmacCommand) (ids : InterfaceIds) (body out : Bytes),
      ((∃ len after, Returns (encodeUmacCommand command ids body) out len after) ↔
        body.length ≤ 976 ∧ 48 + body.length ≤ out.length) ∧
      ∀ len after, Returns (encodeUmacCommand command ids body) out len after →
        len = 48 + body.length ∧ ReadsCommand command ids body (after.take len) ∧
          ReadsCommand command ids body after) ∧
    (∀ (wdevId : UInt32) (request : ScanRequest), request.InLimits → ∀ out,
      Post (encodeScan wdevId request) out fun result after =>
        let total := 538 + request.centerFrequenciesMhz.length * 4
        if out.length < total then result = .error .bufferTooSmall ∧ after = out
        else result = .ok total ∧
          ReadsCommand .triggerScan { wdevId := some wdevId.toUInt64 } request.bodyBytes
            (after.take total)) ∧
    ∀ first second : ScanRequest, first.InLimits → second.InLimits →
      first.bodyBytes = second.bodyBytes → first.used = second.used := by
  refine ⟨?_, ?_, fun first second => scanBody_inj⟩
  · intro command ids body out
    refine ⟨encodeUmacCommand_accepts_iff command ids body out, ?_⟩
    intro len after returns
    obtain ⟨whole, prefixed⟩ := encodeUmacCommand_reads command ids body returns
    exact ⟨(encodeUmacCommand_returns command ids body returns).2.1, whole, prefixed⟩
  · intro wdevId request limits out
    refine (encodeScan_outcome wdevId limits out).mono ?_
    intro result after outcome
    have length := length_scanBody limits
    have frequencies := limits.frequencies
    by_cases short : out.length < 538 + request.centerFrequenciesMhz.length * 4
    · simp only [if_pos short] at outcome ⊢
      exact outcome
    · simp only [if_neg short] at outcome ⊢
      obtain ⟨total, rfl⟩ := outcome
      refine ⟨total, ?_⟩
      have whole := length_umacCommandBytes .triggerScan { wdevId := some wdevId.toUInt64 }
        request.bodyBytes
      have read := readsCommand_bytes .triggerScan { wdevId := some wdevId.toUInt64 }
        request.bodyBytes (by omega) []
      rw [List.append_nil] at read
      rwa [List.take_left' (by omega)]

end Outcome

end Nrf7002
