import Nrf7002.Foundation.Wire
import Nrf7002.System.Capacity

/-! # The initialization command is lossless

The packed body as a record of fixed width, in the order of its writers.  It is read back
from the host message, so firmware is told the configuration and nothing else. -/

set_option autoImplicit false

namespace Nrf7002
open Foundation

namespace SystemInitConfig
open Wire

/-! ## The fields -/

def flag8 : Wire Bool := byte.flag 0 1 (by decide)
def flag32 : Wire Bool := word32.flag 0 1 (by decide)

def poolWire : Wire RxPoolConfig :=
  (word16.pair word16).via (fun pool => (pool.bufferSize, pool.bufferCount))
    (fun fields => ⟨fields.1, fields.2⟩) fun _ => rfl

/-- The number of the command and the length of the body come first. -/
def identityWire : Wire (Unit × Unit × UInt32 × UInt32) :=
  (constant (le32 0)).pair ((constant (le32 (UInt32.ofNat systemInitLen))).pair
    (word32.pair word32))

def timingWire : Wire (UInt32 × UInt32 × UInt32 × UInt32) :=
  word32.pair (word32.pair (word32.pair word32))

def radioWire : Wire (UInt32 × Octets 6 × Octets rfParamsLen × Bool) :=
  word32.pair ((octets 6).pair ((octets rfParamsLen).pair flag8))

def rxPoolsWire : Wire (RxPoolConfig × RxPoolConfig × RxPoolConfig) :=
  poolWire.pair (poolWire.pair poolWire)

def dataRatesWire : Wire (UInt8 × Bool × Bool × UInt8) :=
  byte.pair (flag8.pair (flag8.pair byte))

def dataLimitsWire : Wire (UInt8 × UInt8 × UInt8 × Int32) :=
  byte.pair (byte.pair (byte.pair signed32))

def temperatureCalibrationWire : Wire (UInt32 × UInt32 × UInt32 × UInt32) :=
  word32.pair (word32.pair (word32.pair word32))

def environmentThresholdsWire : Wire (Int32 × Int32 × Int32 × Int32 × Int32) :=
  signed32.pair (signed32.pair (signed32.pair (signed32.pair signed32)))

def networkWire : Wire (Bool × (UInt8 × UInt8) × UInt32 × Bool × UInt32) :=
  flag8.pair ((byte.pair byte).pair (word32.pair (flag8.pair word32)))

def powerWire : Wire (Bool × UInt32 × UInt8 × UInt32) :=
  flag32.pair (word32.pair (byte.pair word32))

def scanPolicyWire : Wire (Bool × UInt32 × UInt32 × UInt32 × Bool × UInt32) :=
  flag8.pair (word32.pair (word32.pair (word32.pair (flag8.pair word32))))

def coexistenceWire : Wire (UInt32 × UInt32 × UInt32 × UInt32 × UInt32 × Bool) :=
  word32.pair (word32.pair (word32.pair (word32.pair (word32.pair flag8))))

def frontWire := identityWire.pair (timingWire.pair (radioWire.pair rxPoolsWire))
def middleWire :=
  dataRatesWire.pair (dataLimitsWire.pair (temperatureCalibrationWire.pair environmentThresholdsWire))
def backWire := networkWire.pair (powerWire.pair (scanPolicyWire.pair coexistenceWire))

section Fields
variable (config : SystemInitConfig)

def frontFields := (((), (), config.wdevId, config.sleepEnable),
  (config.hardwareBringupTime, config.softwareBringupTime, config.beaconTimeout,
    config.calibrateSleepClock),
  (config.phyCalibrationBitmap, config.macAddress, config.rfParams, config.rfParamsValid),
  config.rxPools)

def middleFields :=
  let data := config.data
  let temp := config.temperatureBattery
  ((data.rateProtectionType, data.aggregation, data.wmm, data.maxTxAggregationSessions),
    (data.maxRxAggregationSessions, data.maxTxAggregation, data.reorderBufferSize,
      data.maxRxAmpduSize),
    (temp.temperatureCalibrationEnabled, temp.temperatureCalibrationBitmap,
      temp.batteryCalibrationBitmap, temp.monitorPeriodUs),
    (temp.veryLowVoltageThreshold, temp.lowVoltageThreshold, temp.highVoltageThreshold,
      temp.temperatureThreshold, temp.batteryThreshold))

def backFields :=
  ((config.tcpIpChecksumOffload, config.countryCode, config.operatingBand,
      config.managementBufferOffload, config.featureFlags),
    (config.disableBeamforming, config.disconnectTimeout, config.powerSaveExitStrategy,
      config.watchdogTimer),
    (config.keepAliveEnabled, config.keepAlivePeriodS, config.displayScanBssLimit,
      config.disableCoexistencePriorityWindowForScan, config.rawScanEnabled,
      config.maxPsPollFailCount),
    (config.stbcEnabledInHt, config.dynamicBandwidthSignalling, config.dynamicEnergyDetection,
      config.bluetoothSlotTimeMs, config.bluetoothCoexistenceDisabled, config.abortScanOnBssLimit))

end Fields

/-- The packed body of the command. -/
def bodyWire : Wire SystemInitConfig :=
  (frontWire.pair (middleWire.pair backWire)).via
    (fun config => (config.frontFields, config.middleFields, config.backFields))
    (fun ((((), (), wdevId, sleepEnable),
          (hardwareBringupTime, softwareBringupTime, beaconTimeout, calibrateSleepClock),
          (phyCalibrationBitmap, macAddress, rfParams, rfParamsValid), rxPools),
        ((rateProtectionType, aggregation, wmm, maxTxAggregationSessions),
          (maxRxAggregationSessions, maxTxAggregation, reorderBufferSize, maxRxAmpduSize),
          (temperatureCalibrationEnabled, temperatureCalibrationBitmap, batteryCalibrationBitmap,
            monitorPeriodUs),
          (veryLowVoltageThreshold, lowVoltageThreshold, highVoltageThreshold,
            temperatureThreshold, batteryThreshold)),
        ((tcpIpChecksumOffload, countryCode, operatingBand, managementBufferOffload,
            featureFlags),
          (disableBeamforming, disconnectTimeout, powerSaveExitStrategy, watchdogTimer),
          (keepAliveEnabled, keepAlivePeriodS, displayScanBssLimit,
            disableCoexistencePriorityWindowForScan, rawScanEnabled, maxPsPollFailCount),
          (stbcEnabledInHt, dynamicBandwidthSignalling, dynamicEnergyDetection,
            bluetoothSlotTimeMs, bluetoothCoexistenceDisabled, abortScanOnBssLimit))) =>
      { wdevId, sleepEnable, hardwareBringupTime, softwareBringupTime, beaconTimeout,
        calibrateSleepClock, phyCalibrationBitmap, macAddress, rfParams, rfParamsValid, rxPools
        data :=
          { rateProtectionType, aggregation, wmm, maxTxAggregationSessions,
            maxRxAggregationSessions, maxTxAggregation, reorderBufferSize, maxRxAmpduSize }
        temperatureBattery :=
          { temperatureCalibrationEnabled, temperatureCalibrationBitmap, batteryCalibrationBitmap,
            monitorPeriodUs, veryLowVoltageThreshold, lowVoltageThreshold, highVoltageThreshold,
            temperatureThreshold, batteryThreshold }
        tcpIpChecksumOffload, countryCode, operatingBand, managementBufferOffload, featureFlags,
        disableBeamforming, disconnectTimeout, powerSaveExitStrategy, watchdogTimer,
        keepAliveEnabled, keepAlivePeriodS, displayScanBssLimit,
        disableCoexistencePriorityWindowForScan, rawScanEnabled, maxPsPollFailCount,
        stbcEnabledInHt, dynamicBandwidthSignalling, dynamicEnergyDetection, bluetoothSlotTimeMs,
        bluetoothCoexistenceDisabled, abortScanOnBssLimit })
    fun _ => rfl

/-! ## The writers -/

theorem writes_rxPools (pools : List RxPoolConfig) :
    Writes (writeRxPools pools) (pools.flatMap poolWire.encode) := by
  induction pools with
  | nil => exact writes_nothing
  | cons pool rest ih =>
      have written := (writes_u16 pool.bufferSize).then ((writes_u16 pool.bufferCount).then ih)
      rw [← List.append_assoc] at written
      exact written

variable (config : SystemInitConfig)

theorem writes_front : Writes config.writeFront (frontWire.encode config.frontFields) := by
  have pools := writes_rxPools config.pools
  simp only [SystemInitConfig.pools, List.flatMap_cons, List.flatMap_nil, List.append_nil] at pools
  exact ((writes_u32 _).then ((writes_u32 _).then ((writes_u32 _).then (writes_u32 _)))).then
    (((writes_u32 _).then ((writes_u32 _).then ((writes_u32 _).then (writes_u32 _)))).then
      (((writes_u32 _).then ((writes_bytes _).then ((writes_bytes _).then (writes_u8 _)))).then
        pools))

theorem writes_middle : Writes config.writeMiddle (middleWire.encode config.middleFields) :=
  ((writes_u8 _).then ((writes_u8 _).then ((writes_u8 _).then (writes_u8 _)))).then
    (((writes_u8 _).then ((writes_u8 _).then ((writes_u8 _).then (writes_i32 _)))).then
      (((writes_u32 _).then ((writes_u32 _).then ((writes_u32 _).then (writes_u32 _)))).then
        ((writes_i32 _).then ((writes_i32 _).then ((writes_i32 _).then
          ((writes_i32 _).then (writes_i32 _)))))))

theorem writes_back : Writes config.writeBack (backWire.encode config.backFields) :=
  ((writes_u8 _).then ((writes_bytes _).then ((writes_u32 _).then
    ((writes_u8 _).then (writes_u32 _))))).then
    (((writes_u32 _).then ((writes_u32 _).then ((writes_u8 _).then (writes_u32 _)))).then
      (((writes_u8 _).then ((writes_u32 _).then ((writes_u32 _).then ((writes_u32 _).then
        ((writes_u8 _).then (writes_u32 _)))))).then
        ((writes_u32 _).then ((writes_u32 _).then ((writes_u32 _).then ((writes_u32 _).then
          ((writes_u32 _).then (writes_u8 _))))))))

theorem writes_body : Writes config.writeBody (bodyWire.encode config) :=
  (writes_front config).then ((writes_middle config).then (writes_back config))

/-! ## The message -/

theorem length_body : (bodyWire.encode config).length = systemInitLen := bodyWire.length_encode config

/-- The command and the length that firmware checks first. -/
theorem body_header : readU32 (bodyWire.encode config) 0 = 0 ∧
    readU32 (bodyWire.encode config) 4 = UInt32.ofNat systemInitLen := by
  have split : ∃ rest, bodyWire.encode config =
      le32 0 ++ (le32 (UInt32.ofNat systemInitLen) ++ rest) := by
    simp only [bodyWire, frontWire, identityWire, frontFields, via, pair, constant,
      List.append_assoc]
    exact ⟨_, rfl⟩
  obtain ⟨rest, split⟩ := split
  rw [split]
  have first : readU32 ([] ++ (le32 0 ++ (le32 (UInt32.ofNat systemInitLen) ++ rest))) 0 = 0 :=
    readU32_field rfl
  exact ⟨first, readU32_field rfl⟩

theorem encodes_body {config : SystemInitConfig} (accepted : config.validate = .ok ()) :
    Encodes config (bodyWire.encode config) := by
  have fresh : encodeFresh systemInitLen config.writeBody =
      .ok (systemInitLen, bodyWire.encode config) := by
    rw [← length_body config]
    exact encodeFresh_eq (writes_body config)
  refine ⟨length_body config, ?_⟩
  intro out
  have whole : hostMessageHeaderLen + (bodyWire.encode config).length = 378 := by
    rw [length_body]
    rfl
  have message := encodeHostMessage_spec .system false (bodyWire.encode config) out
    (by rw [whole]; decide)
  rw [whole] at message
  simp only [encodeSystemInit, accepted, fresh, post_bind, post_liftResult, post_ite, ne_eq,
    not_true_eq_false, if_false]
  exact message

/-- The output holds the message of the configuration, and behind it what was there. -/
structure Told (config : SystemInitConfig) (out : Bytes) (len : Nat) (after : Bytes) : Prop where
  message : ∃ body, parseHostMessage after = .ok ⟨false, .system, body⟩ ∧
    body.length = systemInitLen ∧ readU32 body 0 = 0 ∧
    readU32 body 4 = UInt32.ofNat systemInitLen ∧ bodyWire.decode body = config
  behind : after.drop len = out.drop len

/-- The command is written exactly for an accepted configuration and where there is room for
it, and firmware reads the configuration back from it. -/
theorem encodeSystemInit_lossless (config : SystemInitConfig) (out : Bytes) :
    ((∃ len after, Returns (encodeSystemInit config) out len after) ↔
        config.validate = .ok () ∧ 378 ≤ out.length) ∧
      ∀ len after, Returns (encodeSystemInit config) out len after → Told config out len after := by
  have told : ∀ len after, Returns (encodeSystemInit config) out len after →
      378 ≤ out.length ∧ Told config out len after := by
    intro len after encoded
    have ends := ((encodes_body (validate_of_encoded encoded)).ends out).ends
    rw [encoded.1, encoded.2] at ends
    obtain ⟨room, rfl, rfl⟩ := ends
    have length : (hostMessageBytes .system false (bodyWire.encode config)).length = 378 := by
      rw [length_hostMessageBytes, length_body]
      rfl
    refine ⟨room, ⟨_, ?_, length_body config, (body_header config).1, (body_header config).2,
      bodyWire.decode_whole config⟩, ?_⟩
    · exact parseHostMessage_bytes .system false _ _ (by rw [length_body]; decide)
    · exact List.drop_left' length
  refine ⟨⟨?_, ?_⟩, fun len after encoded => (told len after encoded).2⟩
  · rintro ⟨len, after, encoded⟩
    exact ⟨validate_of_encoded encoded, (told len after encoded).1⟩
  · rintro ⟨accepted, room⟩
    have ends := ((encodes_body accepted).ends out).ends
    cases result : resultOf (encodeSystemInit config) out with
    | ok len => exact ⟨len, _, result, rfl⟩
    | error failure =>
        rw [result] at ends
        exact absurd room (Nat.not_le.mpr ends)

/-- The baseline configuration is written and read back. -/
theorem encodeSystemInit_lossless_new :
    let config := new (zeroOctets 6) (zeroOctets rfParamsLen)
    ∃ len after, Returns (encodeSystemInit config) (List.replicate 378 0) len after ∧
      Told config (List.replicate 378 0) len after := by
  intro config
  obtain ⟨exact_, told⟩ := encodeSystemInit_lossless config (List.replicate 378 0)
  obtain ⟨len, after, encoded⟩ := exact_.mpr ⟨new_valid _ _, by rw [List.length_replicate]⟩
  exact ⟨len, after, encoded, told len after encoded⟩

end SystemInitConfig

end Nrf7002
