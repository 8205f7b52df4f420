import Nrf7002.Firmware.Download

/-! # Loading and starting the firmware

A trusted bundle is written to two processors that have been reset, and each is then
started and asked for its signature. -/

set_option autoImplicit false

namespace Nrf7002
open Foundation

def rpuRegMipsMcuControl : UInt32 := 0xa4000000
def rpuRegMipsMcu2Control : UInt32 := 0xa4000100
def rpuRegMipsMcuWaitStatus : UInt32 := 0xa4000018
def rpuRegMipsMcu2WaitStatus : UInt32 := 0xa4000118
def rpuRegUccSleepCtrlData0 : UInt32 := 0xa4002c2c
def rpuRegUccSleepCtrlData1 : UInt32 := 0xa4002c30
def rpuMemLmacBootSig : UInt32 := 0xb7000d50
def rpuMemUmacBootSig : UInt32 := 0xb0000000
def bootSignature : UInt32 := 0x5a5a5a5a
def lmacBootVectorRegisters : List UInt32 := [0xa4000050, 0xa4000054, 0xa4000058, 0xa400005c]
def umacBootVectorRegisters : List UInt32 := [0xa4000150, 0xa4000154, 0xa4000158, 0xa400015c]
def bootVectorValues : List UInt32 := [0x3c1a8000, 0x275a0000, 0x03400008, 0]

/-- A delay, after which the bus may do something else. -/
class DelayNs (β : Type) where
  delayMs : UInt32 → β → β

def Processor.controlRegister : Processor → UInt32
  | .lmac => rpuRegMipsMcuControl
  | .umac => rpuRegMipsMcu2Control

def Processor.waitRegister : Processor → UInt32
  | .lmac => rpuRegMipsMcuWaitStatus
  | .umac => rpuRegMipsMcu2WaitStatus

namespace Rpu
variable {β ε : Type} [Bus β ε] [DelayNs β]

def delay (ms : UInt32) : Program (Rpu β) (RpuError ε) Unit :=
  modify fun rpu => { rpu with bus := DelayNs.delayMs ms rpu.bus }

/-- The last value read is reported when no attempt is left. -/
def pollRegisterFrom (address mask expected ms : UInt32) :
    Nat → UInt32 → Program (Rpu β) (RpuError ε) Unit
  | 0, last => throw (.pollTimeout address mask expected last)
  | attempts + 1, _ => do
      let last ← readRegister address
      if last &&& mask = expected then return ()
      delay ms
      pollRegisterFrom address mask expected ms attempts last

def pollRegister (address mask expected : UInt32) (attempts : Nat) (ms : UInt32) :
    Program (Rpu β) (RpuError ε) Unit :=
  pollRegisterFrom address mask expected ms attempts 0

/-- Pulses the reset and waits for the processor's wait state. -/
def resetProcessor (processor : Processor) : Program (Rpu β) (RpuError ε) Unit := do
  writeRegister processor.controlRegister 1
  pollRegister processor.controlRegister 1 0 50 10
  pollRegister processor.waitRegister 1 1 50 10

end Rpu

/-! ## Starting a processor -/

structure BootConfig where
  signatureAddress : UInt32
  sleepControl : UInt32
  patchOffset : UInt32
  runRegister : UInt32
  vectors : List UInt32

def bootConfig : Processor → BootConfig
  | .lmac =>
      { signatureAddress := rpuMemLmacBootSig
        sleepControl := rpuRegUccSleepCtrlData0
        patchOffset := rpuMemLmacPatchBimg - 0x80040000
        runRegister := rpuRegMipsMcuControl
        vectors := lmacBootVectorRegisters }
  | .umac =>
      { signatureAddress := rpuMemUmacBootSig
        sleepControl := rpuRegUccSleepCtrlData1
        patchOffset := rpuMemUmacPatchBimg - 0x80080000
        runRegister := rpuRegMipsMcu2Control
        vectors := umacBootVectorRegisters }

section Boot
variable {β ε : Type} [Bus β ε] [DelayNs β]

def writeRegisters : List (UInt32 × UInt32) → Program (Rpu β) (RpuError ε) Unit
  | [] => pure ()
  | (address, value) :: rest => do
      Rpu.writeRegister address value
      writeRegisters rest

def programBoot (processor : Processor) (config : BootConfig) :
    Program (Rpu β) (RpuError ε) Unit := do
  Rpu.writeU32 processor config.signatureAddress 0
  Rpu.writeRegister config.sleepControl config.patchOffset
  writeRegisters (config.vectors.zip bootVectorValues)
  Rpu.writeRegister config.runRegister 1

def waitForBootSignature (processor : Processor) (signatureAddress : UInt32) :
    Nat → Program (Rpu β) (RpuError ε) Unit
  | 0 => throw .timeout
  | attempts + 1 => do
      let value ← Rpu.readU32 processor signatureAddress
      if value = bootSignature then return ()
      Rpu.delay 10
      waitForBootSignature processor signatureAddress attempts

def bootProcessor (processor : Processor) : Program (Rpu β) (RpuError ε) Unit := do
  let config := bootConfig processor
  programBoot processor config
  waitForBootSignature processor config.signatureAddress 100

/-! ## The load -/

inductive ProcessorOperation where
  | reset
  | boot
  deriving DecidableEq, Repr

def ProcessorOperation.stage : ProcessorOperation → Processor → LoadStage
  | .reset => .reset
  | .boot => .boot

def ProcessorOperation.run : ProcessorOperation → Processor → Program (Rpu β) (RpuError ε) Unit
  | .reset => Rpu.resetProcessor
  | .boot => bootProcessor

def runOperationOn (operation : ProcessorOperation) (processor : Processor) :
    Program (Rpu β) (LoadError ε) Unit :=
  mapError (fun error => .rpu (operation.stage processor) error) (operation.run processor)

/-- The LMAC comes first. -/
def runProcessorOperation (operation : ProcessorOperation) :
    Program (Rpu β) (LoadError ε) Unit := do
  runOperationOn operation .lmac
  runOperationOn operation .umac

/-- The digest of the payload has to be the one of the header. -/
def FirmwareBundle.verifyHash (sha256 : Bytes → Octets 32) (bundle : FirmwareBundle) :
    Except FirmwareError Unit :=
  if sha256 (slice bundle.bytes patchHeaderLen bundle.payloadEnd) = bundle.header.hash then .ok ()
  else .error .hashMismatch

/-- The trust policy and the digest are the caller's. -/
def load (sha256 : Bytes → Octets 32) (trust : FirmwareBundle → Except FirmwareError Unit)
    (bundle : FirmwareBundle) : Program (Rpu β) (LoadError ε) FirmwareReport := do
  liftResult ((trust bundle).mapError .firmware)
  liftResult ((bundle.verifyHash sha256).mapError .firmware)
  runProcessorOperation .reset
  bundle.downloadImages
  runProcessorOperation .boot
  return { version := bundle.header.version, featureFlags := bundle.header.featureFlags }

end Boot

end Nrf7002
