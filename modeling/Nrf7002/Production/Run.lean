import Nrf7002.Production.Driver
import Nrf7002.Runtime.Restart

/-! # Runs of the WPA2 station

The operations of the station in any order, with the operations of its driver between
them. -/

set_option autoImplicit false

namespace Nrf7002
open Foundation

/-- The operations of the production driver, and changes of the hardware. -/
inductive MissionMove (π β ε : Type) where
  | hardware (bus : β)
  | setStationTimeouts (timeouts : StationTimeouts)
  | setFragmentLimits (commandLen eventLen : Nat)
  | recover (platform : π) (load : Program (Rpu β) (LoadError ε) FirmwareReport)
      (config : SystemInitConfig)
  | waitForInterrupt (platform : π)
  | createStationInterface (macAddress : Octets 6) (interfaceName : Bytes)
  | setRegulatory (country : UInt8 × UInt8) (userHintType : UInt32) (force : Bool)
  | bringUp
  | bringDown
  | startScan (request : ScanRequest)
  | requestScanResults (reason : ScanReason)
  | authenticate (request : AuthenticationRequest)
  | associate (request : AssociationRequest)
  | setPowerSave (state : PowerSaveState)
  | setPowerSaveTimeout (timeoutMs : Int32)
  | disconnect (reasonCode : UInt16)
  | advanceTime (elapsedMs : UInt32)
  | pollEvent (scratchAddress : Nat) (scratch : Bytes)
  | receivePacket (event : RxEvent) (packetIndex : Nat) (output : Bytes)
  | transmit (wdevId : UInt8) (frame : Bytes) (dscpTos : UInt16)
  | watchdogPending
  | acknowledgeWatchdog

/-- The operations of the WPA2 station, its borrowed driver included. -/
inductive SecureMove (π β ε : Type) where
  | driver (move : MissionMove π β ε)
  | setWpa2Timeouts (timeouts : Wpa2Timeouts)
  | restartPairwise (supplicantNonce : Octets 32)
  | advanceTime (elapsedMs : UInt32)
  | pollEvent (scratchAddress : Nat) (scratch : Bytes)
  | receivePacket (event : RxEvent) (packetIndex : Nat) (output : Bytes)
  | transmit (wdevId : UInt8) (frame : Bytes) (dscpTos : UInt16)

namespace MissionCriticalDriver
variable {β ε π ρ : Type} {rx tx : Nat} [Bus β ε] [Platform π β ρ]

def step (driver : MissionCriticalDriver β rx tx) :
    MissionMove π β ε → MissionCriticalDriver β rx tx
  | .hardware bus => { inner := driver.inner.step (.hardware bus : DriverMove π β ε) }
  | .setStationTimeouts timeouts => driver.setStationTimeouts timeouts
  | .setFragmentLimits commandLen eventLen => driver.setFragmentLimits commandLen eventLen
  | .recover platform load config => (stateAfter (recover load config) (driver, platform)).1
  | .waitForInterrupt platform =>
      (stateAfter (waitForInterrupt : Program _ (RecoveryError ε ρ) Unit) (driver, platform)).1
  | .createStationInterface macAddress interfaceName =>
      stateAfter (createStationInterface macAddress interfaceName) driver
  | .setRegulatory country userHintType force =>
      stateAfter (setRegulatory country userHintType force) driver
  | .bringUp => stateAfter bringUp driver
  | .bringDown => stateAfter bringDown driver
  | .startScan request => stateAfter (startScan request) driver
  | .requestScanResults reason => stateAfter (requestScanResults reason) driver
  | .authenticate request => stateAfter (authenticate request) driver
  | .associate request => stateAfter (associate request) driver
  | .setPowerSave state => stateAfter (setPowerSave state) driver
  | .setPowerSaveTimeout timeoutMs => stateAfter (setPowerSaveTimeout timeoutMs) driver
  | .disconnect reasonCode => stateAfter (disconnect reasonCode) driver
  | .advanceTime elapsedMs => stateAfter (advanceTime elapsedMs : Method β rx tx ε Unit) driver
  | .pollEvent scratchAddress scratch => (stateAfter (pollEvent scratchAddress) (driver, scratch)).1
  | .receivePacket event packetIndex output =>
      (stateAfter (receivePacket event packetIndex) (driver, output)).1
  | .transmit wdevId frame dscpTos => stateAfter (transmit wdevId frame dscpTos) driver
  | .watchdogPending => stateAfter watchdogPending driver
  | .acknowledgeWatchdog => stateAfter acknowledgeWatchdog driver

end MissionCriticalDriver

namespace Wpa2StationDriver
variable {β ε π ρ : Type} {rx tx : Nat} [Bus β ε] [Platform π β ρ] (crypto : Wpa2Crypto)

def step (station : Wpa2StationDriver β rx tx) : SecureMove π β ε → Wpa2StationDriver β rx tx
  | .driver move => { station with driver := station.driver.step move }
  | .setWpa2Timeouts timeouts => station.setWpa2Timeouts timeouts
  | .restartPairwise supplicantNonce =>
      stateAfter (restartPairwise supplicantNonce : Method β rx tx ε Unit) station
  | .advanceTime elapsedMs => stateAfter (advanceTime elapsedMs : Method β rx tx ε Unit) station
  | .pollEvent scratchAddress scratch =>
      (stateAfter (pollEvent scratchAddress) (station, scratch)).1
  | .receivePacket event packetIndex output =>
      (stateAfter (receivePacket crypto event packetIndex) (station, output)).1
  | .transmit wdevId frame dscpTos => stateAfter (transmit wdevId frame dscpTos) station

end Wpa2StationDriver

end Nrf7002
