import Nrf7002.Memory

/-! # The SPI transport

Bus transfers as SPI transactions: a command byte, a 24-bit wire address and the payload.
A read may have latency words before its payload.  Some memories answer one word at a
time. -/

set_option autoImplicit false

namespace Nrf7002
open Foundation

def opcodeFastRead : UInt8 := 0x0b
def opcodeWrite : UInt8 := 0x02
def incrementingAddressMask : UInt32 := 0x800000

def maxSlaveLatencyWords : Nat := 8
def maxSlaveLatencyBytes : Nat := maxSlaveLatencyWords * 4
def readHeaderLen : Nat := 5
def highLatencyReadWordLen : Nat := 4
def maxSpiDataLen : Nat := 4096
def spiIoBufferLen : Nat := readHeaderLen + maxSlaveLatencyBytes + maxSpiDataLen

/-! ## Framing settings -/

/-- The fields are private, so every value has passed the checks of `new`. -/
structure SpiConfig where
  addressMask : UInt32
  slaveLatencyWords : UInt8
  nordicMemoryMapLatency : Bool
  valid : addressMask ≤ 0x00ffffff ∧ slaveLatencyWords.toNat ≤ maxSlaveLatencyWords
  deriving DecidableEq

namespace SpiConfig

def nordicDefault : SpiConfig :=
  { addressMask := incrementingAddressMask
    slaveLatencyWords := 0
    nordicMemoryMapLatency := false
    valid := by decide }

def nordicMemoryMap : SpiConfig :=
  { addressMask := incrementingAddressMask
    slaveLatencyWords := 0
    nordicMemoryMapLatency := true
    valid := by decide }

def new (addressMask : UInt32) (slaveLatencyWords : UInt8) : Option SpiConfig :=
  if valid : addressMask ≤ 0x00ffffff ∧ slaveLatencyWords.toNat ≤ maxSlaveLatencyWords then
    some { addressMask, slaveLatencyWords, nordicMemoryMapLatency := false, valid }
  else none

end SpiConfig

def lowestMemoryLatencyWords (address : UInt32) : UInt8 :=
  if inRegion address 0x000000 0x008fff then 1
  else if inRegion address 0x009000 0x03ffff then 2
  else if inRegion address 0x040000 0x07ffff then 1
  else 0

def upperLowMemoryLatencyWords (address : UInt32) : UInt8 :=
  if inRegion address 0x080000 0x092000 then 2
  else if inRegion address 0x0c0000 0x0f0fff then 0
  else 0

def lowMemoryLatencyWords (address : UInt32) : UInt8 :=
  if address ≤ 0x07ffff then lowestMemoryLatencyWords address
  else upperLowMemoryLatencyWords address

def isFirstHighOneWordRegion (address : UInt32) : Bool :=
  inRegion address 0x100000 0x134000 || inRegion address 0x140000 0x14c000
    || inRegion address 0x180000 0x190000

def isSecondHighOneWordRegion (address : UInt32) : Bool :=
  inRegion address 0x200000 0x261800 || inRegion address 0x280000 0x2a4000
    || inRegion address 0x300000 0x338000

def isHighOneWordRegion (address : UInt32) : Bool :=
  isFirstHighOneWordRegion address || isSecondHighOneWordRegion address

def memoryMapLatencyWords (address : UInt32) : UInt8 :=
  if address ≤ 0x0f0fff then lowMemoryLatencyWords address
  else if isHighOneWordRegion address then 1
  else 0

def SpiConfig.readLatencyWords (config : SpiConfig) (address : UInt32) : UInt8 :=
  if ¬ config.nordicMemoryMapLatency then config.slaveLatencyWords
  else memoryMapLatencyWords (address &&& ~~~ config.addressMask)

/-- The configured latency, and every latency of the table, fits the transfer buffer. -/
theorem readLatencyWords_le (config : SpiConfig) (address : UInt32) :
    (config.readLatencyWords address).toNat ≤ maxSlaveLatencyWords := by
  have lowest (a : UInt32) : (lowestMemoryLatencyWords a).toNat ≤ maxSlaveLatencyWords := by
    rw [lowestMemoryLatencyWords]
    split
    · decide
    · split
      · decide
      · split <;> decide
  have upper (a : UInt32) : (upperLowMemoryLatencyWords a).toNat ≤ maxSlaveLatencyWords := by
    rw [upperLowMemoryLatencyWords]
    split
    · decide
    · split <;> decide
  rw [SpiConfig.readLatencyWords]
  split
  · exact config.valid.2
  · rw [memoryMapLatencyWords]
    split
    · rw [lowMemoryLatencyWords]
      split
      · exact lowest _
      · exact upper _
    · split <;> decide

/-! ## The device and its transport -/

/-- A transaction writes bytes, or exchanges a buffer in place without changing its
length. -/
class SpiDevice (σ : Type) (ε : outParam Type) where
  write : Bytes → Program σ ε Unit
  transferInPlace : Program (σ × Bytes) ε Unit
  transfer_length : Keeps (fun s : σ × Bytes => s.2.length) transferInPlace

structure SpiTransport (σ : Type) where
  spi : σ
  config : SpiConfig
  ioBuffer : Octets spiIoBufferLen

/-- Overwrites the bytes from `position` on; a value that does not fit is never written. -/
def overwrite {n : Nat} (buffer : Octets n) (position : Nat) (value : Bytes) : Octets n :=
  if fits : position + value.length ≤ n then
    ⟨splice buffer.1 position value, by rw [length_splice (by rw [buffer.2]; exact fits), buffer.2]⟩
  else buffer

namespace SpiTransport
variable {σ ε : Type}

def new (spi : σ) : SpiTransport σ :=
  { spi, config := .nordicDefault, ioBuffer := zeroOctets spiIoBufferLen }

def withConfig (spi : σ) (config : SpiConfig) : SpiTransport σ :=
  { spi, config, ioBuffer := zeroOctets spiIoBufferLen }

def wireAddress (transport : SpiTransport σ) (address : UInt32) : UInt32 :=
  (address ||| transport.config.addressMask) &&& 0x00ffffff

/-- A command byte and the three bytes of an address. -/
def frameHeader (opcode : UInt8) (address : UInt32) : Bytes :=
  [opcode, (address >>> 16).toUInt8, (address >>> 8).toUInt8, address.toUInt8]

def put (position : Nat) (value : Bytes) (transport : SpiTransport σ) : SpiTransport σ :=
  { transport with ioBuffer := overwrite transport.ioBuffer position value }

variable [SpiDevice σ ε]

def spiWrite (bytes : Bytes) : Program (SpiTransport σ) ε Unit :=
  onField (·.spi) (fun spi transport => { transport with spi }) (SpiDevice.write bytes)

/-- Exchanges the first bytes of the transfer buffer. -/
def spiTransfer (len : Nat) : Program (SpiTransport σ) ε Unit :=
  onField (fun transport => (transport.spi, transport.ioBuffer.1.take len))
    (fun part transport =>
      { transport with spi := part.1, ioBuffer := overwrite transport.ioBuffer 0 part.2 })
    SpiDevice.transferInPlace

def readOne (address : UInt32) (incrementing : Bool) :
    Program (SpiTransport σ × Bytes) ε Unit := do
  let (transport, data) ← get
  let latencyLen := (transport.config.readLatencyWords address).toNat * 4
  let address := if incrementing then transport.wireAddress address else address &&& 0x00ffffff
  let dataStart := readHeaderLen + latencyLen
  let transferLen := dataStart + data.length
  besideBuffer (modify fun transport =>
    put 0 (frameHeader opcodeFastRead address ++ [0] ++ List.replicate latencyLen 0
      ++ List.replicate data.length 0xff) transport)
  besideBuffer (spiTransfer transferLen)
  modify fun s => (s.1, splice s.2 0 (slice s.1.ioBuffer.1 dataStart transferLen))
  besideBuffer (modify fun transport => put 0 (List.replicate transferLen 0) transport)

def readIncrementingFrom (address : UInt32) :
    Nat → Nat → Program (SpiTransport σ × Bytes) ε Unit
  | 0, _ => pure ()
  | fuel + 1, done => do
      let (_, data) ← get
      if data.length ≤ done then return ()
      let count := min maxSpiDataLen (data.length - done)
      inSlice done (done + count) (readOne (address + UInt32.ofNat done) true)
      readIncrementingFrom address fuel (done + count)

def readIncrementing (address : UInt32) : Program (SpiTransport σ × Bytes) ε Unit := do
  let (_, data) ← get
  readIncrementingFrom address data.length 0

def readWordsFrom (address : UInt32) : Nat → Nat → Program (SpiTransport σ × Bytes) ε Unit
  | 0, _ => pure ()
  | fuel + 1, index => do
      let (_, data) ← get
      if data.length ≤ index * highLatencyReadWordLen then return ()
      inSlice (index * highLatencyReadWordLen)
        (min (index * highLatencyReadWordLen + highLatencyReadWordLen) data.length)
        (readOne (address + UInt32.ofNat index * UInt32.ofNat highLatencyReadWordLen) false)
      readWordsFrom address fuel (index + 1)

def readWordAtATime (address : UInt32) : Program (SpiTransport σ × Bytes) ε Unit := do
  let (_, data) ← get
  readWordsFrom address data.length 0

def read (address : UInt32) : Program (SpiTransport σ × Bytes) ε Unit := do
  let (transport, data) ← get
  if data.isEmpty then return ()
  if transport.config.nordicMemoryMapLatency ∧ transport.config.readLatencyWords address ≠ 0 then
    readWordAtATime address
  else readIncrementing address

def writeFrom (address : UInt32) (data : Bytes) : Nat → Nat → Program (SpiTransport σ) ε Unit
  | 0, _ => pure ()
  | fuel + 1, done => do
      if data.length ≤ done then return ()
      let count := min maxSpiDataLen (data.length - done)
      modify fun transport =>
        put 0 (frameHeader opcodeWrite (transport.wireAddress (address + UInt32.ofNat done))
          ++ slice data done (done + count)) transport
      let transport ← get
      spiWrite (transport.ioBuffer.1.take (4 + count))
      modify fun transport => put 0 (List.replicate (4 + count) 0) transport
      writeFrom address data fuel (done + count)

def write (address : UInt32) (data : Bytes) : Program (SpiTransport σ) ε Unit := do
  if data.isEmpty then return ()
  writeFrom address data data.length 0

/-- Six bytes are exchanged and the second one received is the status. -/
def readStatus (opcode : UInt8) : Program (SpiTransport σ) ε UInt8 := do
  let (_, transfer) ← withLocal [opcode, 0, 0, 0, 0, 0]
    (onField (fun s : SpiTransport σ × Bytes => (s.1.spi, s.2))
      (fun part s => ({ s.1 with spi := part.1 }, part.2)) SpiDevice.transferInPlace)
  return transfer.getD 1 0

def writeStatus (opcode value : UInt8) : Program (SpiTransport σ) ε Unit :=
  spiWrite [opcode, value]

/-! ## Lengths -/

theorem keeps_length_besideBuffer {τ α : Type} (x : Program τ ε α) :
    Keeps (fun s : τ × Bytes => s.2.length) (besideBuffer x) :=
  keeps_onField x fun _ _ => rfl

theorem length_splice_slice (data bytes : Bytes) (start : Nat) :
    (splice data 0 (slice bytes start (start + data.length))).length = data.length := by
  apply length_splice
  rw [length_slice]
  omega

theorem keeps_length_readOne (address : UInt32) (incrementing : Bool) :
    Keeps (fun s : SpiTransport σ × Bytes => s.2.length) (readOne address incrementing) := by
  rw [keeps_iff_post]
  intro s
  rw [readOne, post_bind, post_get]
  dsimp only
  rw [post_bind]
  refine ((keeps_length_besideBuffer _).post s).mono ?_
  intro r t kept
  cases r with
  | error failure => exact kept
  | ok done =>
      dsimp only
      rw [post_bind]
      refine ((keeps_length_besideBuffer _).post t).mono ?_
      intro r u same
      cases r with
      | error failure => exact same.trans kept
      | ok done =>
          dsimp only
          rw [post_bind, post_modify]
          have length := length_splice_slice u.2 u.1.ioBuffer.1
            (readHeaderLen + (s.1.config.readLatencyWords address).toNat * 4)
          rw [same.trans kept] at length
          refine ((keeps_length_besideBuffer _).post _).mono ?_
          intro r v last
          exact last.trans length

theorem keeps_length_readIncrementingFrom (address : UInt32) (fuel done : Nat) :
    Keeps (fun s : SpiTransport σ × Bytes => s.2.length)
      (readIncrementingFrom address fuel done) := by
  induction fuel generalizing done with
  | zero => exact keeps_pure _ _
  | succ fuel hypothesis =>
      refine (keeps_get _).bind fun s => keeps_ite (fun _ => keeps_pure _ _) fun _ => ?_
      exact (keeps_length_inSlice _ _ (keeps_length_readOne _ _)).bind fun _ => hypothesis _

theorem keeps_length_readWordsFrom (address : UInt32) (fuel index : Nat) :
    Keeps (fun s : SpiTransport σ × Bytes => s.2.length) (readWordsFrom address fuel index) := by
  induction fuel generalizing index with
  | zero => exact keeps_pure _ _
  | succ fuel hypothesis =>
      refine (keeps_get _).bind fun s => keeps_ite (fun _ => keeps_pure _ _) fun _ => ?_
      exact (keeps_length_inSlice _ _ (keeps_length_readOne _ _)).bind fun _ => hypothesis _

theorem keeps_length_read (address : UInt32) :
    Keeps (fun s : SpiTransport σ × Bytes => s.2.length) (read address) := by
  refine (keeps_get _).bind fun s => keeps_ite (fun _ => keeps_pure _ _) fun _ => ?_
  apply keeps_ite
  · intro _
    exact (keeps_get _).bind fun _ => keeps_length_readWordsFrom _ _ _
  · intro _
    exact (keeps_get _).bind fun _ => keeps_length_readIncrementingFrom _ _ _

instance : Bus (SpiTransport σ) ε where
  readStatus := readStatus
  writeStatus := writeStatus
  read := read
  write := write
  read_length := keeps_length_read

end SpiTransport

end Nrf7002
