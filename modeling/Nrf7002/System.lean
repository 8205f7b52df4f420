import Nrf7002.Protocol

/-! # System commands and events

The packed initialization command, and the events by which firmware reports that it
is up or down. -/

set_option autoImplicit false

namespace Nrf7002
open Foundation

def systemInitLen : Nat := 366
def rfParamsLen : Nat := 200
def systemHeaderLen : Nat := 8
def systemInitMessageLen : Nat := systemInitLen + hostMessageHeaderLen

/-! ## The initialization command -/

structure RxPoolConfig where
  bufferSize : UInt16
  bufferCount : UInt16
  deriving DecidableEq

structure DataConfig where
  rateProtectionType : UInt8
  aggregation : Bool
  wmm : Bool
  maxTxAggregationSessions : UInt8
  maxRxAggregationSessions : UInt8
  maxTxAggregation : UInt8
  reorderBufferSize : UInt8
  maxRxAmpduSize : Int32
  deriving DecidableEq

structure TemperatureBatteryConfig where
  temperatureCalibrationEnabled : UInt32
  temperatureCalibrationBitmap : UInt32
  batteryCalibrationBitmap : UInt32
  monitorPeriodUs : UInt32
  veryLowVoltageThreshold : Int32
  lowVoltageThreshold : Int32
  highVoltageThreshold : Int32
  temperatureThreshold : Int32
  batteryThreshold : Int32
  deriving DecidableEq

structure SystemInitConfig where
  wdevId : UInt32
  sleepEnable : UInt32
  hardwareBringupTime : UInt32
  softwareBringupTime : UInt32
  beaconTimeout : UInt32
  calibrateSleepClock : UInt32
  phyCalibrationBitmap : UInt32
  macAddress : Octets 6
  rfParams : Octets rfParamsLen
  rfParamsValid : Bool
  rxPools : RxPoolConfig × RxPoolConfig × RxPoolConfig
  data : DataConfig
  temperatureBattery : TemperatureBatteryConfig
  tcpIpChecksumOffload : Bool
  countryCode : UInt8 × UInt8
  operatingBand : UInt32
  managementBufferOffload : Bool
  featureFlags : UInt32
  disableBeamforming : Bool
  disconnectTimeout : UInt32
  powerSaveExitStrategy : UInt8
  watchdogTimer : UInt32
  keepAliveEnabled : Bool
  keepAlivePeriodS : UInt32
  displayScanBssLimit : UInt32
  disableCoexistencePriorityWindowForScan : UInt32
  rawScanEnabled : Bool
  maxPsPollFailCount : UInt32
  stbcEnabledInHt : UInt32
  dynamicBandwidthSignalling : UInt32
  dynamicEnergyDetection : UInt32
  bluetoothSlotTimeMs : UInt32
  bluetoothCoexistenceDisabled : UInt32
  abortScanOnBssLimit : Bool
  deriving DecidableEq

namespace SystemInitConfig
variable (config : SystemInitConfig)

def new (macAddress : Octets 6) (rfParams : Octets rfParamsLen) : SystemInitConfig :=
  { wdevId := 0
    sleepEnable := 0
    hardwareBringupTime := 7300
    softwareBringupTime := 5000
    beaconTimeout := 20000
    calibrateSleepClock := 1
    phyCalibrationBitmap := 0x0003007b
    macAddress
    rfParams
    rfParamsValid := true
    rxPools := (⟨1600, 8⟩, ⟨0, 0⟩, ⟨0, 0⟩)
    data :=
      { rateProtectionType := 0
        aggregation := true
        wmm := true
        maxTxAggregationSessions := 4
        maxRxAggregationSessions := 4
        maxTxAggregation := 16
        reorderBufferSize := 16
        maxRxAmpduSize := 3 }
    temperatureBattery :=
      { temperatureCalibrationEnabled := 1
        temperatureCalibrationBitmap := 0x7b
        batteryCalibrationBitmap := (1 : UInt32) <<< 5
        monitorPeriodUs := 1024 * 1024
        veryLowVoltageThreshold := 8
        lowVoltageThreshold := 12
        highVoltageThreshold := 14
        temperatureThreshold := 40
        batteryThreshold := 0 }
    tcpIpChecksumOffload := false
    countryCode := (48, 48)
    operatingBand := 0
    managementBufferOffload := true
    featureFlags := 0
    disableBeamforming := false
    disconnectTimeout := 0
    powerSaveExitStrategy := 1
    watchdogTimer := 0x00ffffff
    keepAliveEnabled := false
    keepAlivePeriodS := 0
    displayScanBssLimit := 150
    disableCoexistencePriorityWindowForScan := 0
    rawScanEnabled := false
    maxPsPollFailCount := 10
    stbcEnabledInHt := 0
    dynamicBandwidthSignalling := 0
    dynamicEnergyDetection := 0
    bluetoothSlotTimeMs := 0
    bluetoothCoexistenceDisabled := 1
    abortScanOnBssLimit := false }

def pools : List RxPoolConfig := [config.rxPools.1, config.rxPools.2.1, config.rxPools.2.2]

/-- The sum of the pool sizes, which wraps. -/
def totalRx : UInt32 :=
  config.pools.foldl (fun total pool => total + pool.bufferSize.toUInt32 * pool.bufferCount.toUInt32) 0

def validate : Except ProtocolError Unit :=
  if 128 * 1024 < config.totalRx ∨ config.data.reorderBufferSize = 0
      ∨ 64 < config.data.reorderBufferSize ∨ config.data.maxRxAmpduSize < 0
      ∨ 3 < config.data.maxRxAmpduSize then .error .limitExceeded
  else .ok ()

/-- The baseline configuration passes its own check. -/
theorem new_valid (macAddress : Octets 6) (rfParams : Octets rfParamsLen) :
    (new macAddress rfParams).validate = .ok () := by
  have total : (new macAddress rfParams).totalRx = 1600 * 8 := by
    simp [totalRx, pools, new]
  have limits : ¬ ((128 * 1024 : UInt32) < 1600 * 8 ∨ (16 : UInt8) = 0 ∨ (64 : UInt8) < 16
      ∨ (3 : Int32) < 0 ∨ (3 : Int32) < 3) := by decide
  rw [validate, total]
  exact if_neg limits

def writeIdentity : Encoder := do
  writeU32 0
  writeU32 (UInt32.ofNat systemInitLen)
  writeU32 config.wdevId
  writeU32 config.sleepEnable

def writeTiming : Encoder := do
  writeU32 config.hardwareBringupTime
  writeU32 config.softwareBringupTime
  writeU32 config.beaconTimeout
  writeU32 config.calibrateSleepClock

def writeRadio : Encoder := do
  writeU32 config.phyCalibrationBitmap
  writeBytes config.macAddress.1
  writeBytes config.rfParams.1
  writeU8 (boolU8 config.rfParamsValid)

def writeRxPools : List RxPoolConfig → Encoder
  | [] => pure ()
  | pool :: rest => do
      writeU16 pool.bufferSize
      writeU16 pool.bufferCount
      writeRxPools rest

def writeDataRates (data : DataConfig) : Encoder := do
  writeU8 data.rateProtectionType
  writeU8 (boolU8 data.aggregation)
  writeU8 (boolU8 data.wmm)
  writeU8 data.maxTxAggregationSessions

def writeDataLimits (data : DataConfig) : Encoder := do
  writeU8 data.maxRxAggregationSessions
  writeU8 data.maxTxAggregation
  writeU8 data.reorderBufferSize
  writeI32 data.maxRxAmpduSize

def writeTemperatureCalibration (temp : TemperatureBatteryConfig) : Encoder := do
  writeU32 temp.temperatureCalibrationEnabled
  writeU32 temp.temperatureCalibrationBitmap
  writeU32 temp.batteryCalibrationBitmap
  writeU32 temp.monitorPeriodUs

def writeEnvironmentThresholds (temp : TemperatureBatteryConfig) : Encoder := do
  writeI32 temp.veryLowVoltageThreshold
  writeI32 temp.lowVoltageThreshold
  writeI32 temp.highVoltageThreshold
  writeI32 temp.temperatureThreshold
  writeI32 temp.batteryThreshold

def writeNetwork : Encoder := do
  writeU8 (boolU8 config.tcpIpChecksumOffload)
  writeBytes [config.countryCode.1, config.countryCode.2]
  writeU32 config.operatingBand
  writeU8 (boolU8 config.managementBufferOffload)
  writeU32 config.featureFlags

def writePower : Encoder := do
  writeU32 (boolU32 config.disableBeamforming)
  writeU32 config.disconnectTimeout
  writeU8 config.powerSaveExitStrategy
  writeU32 config.watchdogTimer

def writeScanPolicy : Encoder := do
  writeU8 (boolU8 config.keepAliveEnabled)
  writeU32 config.keepAlivePeriodS
  writeU32 config.displayScanBssLimit
  writeU32 config.disableCoexistencePriorityWindowForScan
  writeU8 (boolU8 config.rawScanEnabled)
  writeU32 config.maxPsPollFailCount

def writeCoexistence : Encoder := do
  writeU32 config.stbcEnabledInHt
  writeU32 config.dynamicBandwidthSignalling
  writeU32 config.dynamicEnergyDetection
  writeU32 config.bluetoothSlotTimeMs
  writeU32 config.bluetoothCoexistenceDisabled
  writeU8 (boolU8 config.abortScanOnBssLimit)

def writeFront : Encoder := do
  config.writeIdentity
  config.writeTiming
  config.writeRadio
  writeRxPools config.pools

def writeMiddle : Encoder := do
  writeDataRates config.data
  writeDataLimits config.data
  writeTemperatureCalibration config.temperatureBattery
  writeEnvironmentThresholds config.temperatureBattery

def writeBack : Encoder := do
  config.writeNetwork
  config.writePower
  config.writeScanPolicy
  config.writeCoexistence

def writeBody : Encoder := do
  config.writeFront
  config.writeMiddle
  config.writeBack

end SystemInitConfig

def encodeSystemInit (config : SystemInitConfig) : Program Bytes ProtocolError Nat := do
  liftResult config.validate
  let (written, body) ← liftResult (encodeFresh systemInitLen config.writeBody)
  if written ≠ systemInitLen then throw .invalidLength
  encodeHostMessage .system false body

/-! ## System events -/

inductive SystemEvent where
  | initDone
  | deinitDone
  | powerData (body : Bytes)
  | statistics (body : Bytes)
  | other (id : UInt32) (body : Bytes)
  deriving DecidableEq

def validatedEventBody (payload : Bytes) : Except ProtocolError (UInt32 × Bytes) := do
  if payload.length < systemHeaderLen then throw .invalidLength
  let declared := (readU32 payload 4).toNat
  if declared < systemHeaderLen ∨ payload.length < declared then throw .invalidLength
  return (readU32 payload 0, slice payload systemHeaderLen declared)

def emptyBodyEvent (body : Bytes) (event : SystemEvent) : Except ProtocolError SystemEvent :=
  if ¬ body.isEmpty then .error .invalidLength else .ok event

def decodeSystemEvent (id : UInt32) (body : Bytes) : Except ProtocolError SystemEvent :=
  if id = 0 then .ok (.powerData body)
  else if id = 1 then emptyBodyEvent body .initDone
  else if id = 2 then .ok (.statistics body)
  else if id = 3 then emptyBodyEvent body .deinitDone
  else .ok (.other id body)

def parseSystemEvent (message : HostMessage) : Except ProtocolError SystemEvent := do
  if message.messageType ≠ .system then throw .wrongMessageType
  let (id, body) ← validatedEventBody message.payload
  decodeSystemEvent id body

end Nrf7002
