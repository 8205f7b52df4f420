import Nrf7002.Data.Convert
import Nrf7002.Device
import Mathlib.Logic.Function.Basic

/-! # Packet-RAM ownership

The data path owns the packet RAM: it divides it into receive and transmit slots,
knows which receive descriptors firmware holds and which transmit tokens are in
flight, and moves frames through the slots. -/

set_option autoImplicit false

namespace Nrf7002
open Foundation

def rpuMemPacketBase : UInt32 := 0xb0005000
def rpuMemPacketEnd : UInt32 := 0xb0030fff
def rpuPacketRamSize : Nat := 180224
def rxBufferHeadroom : Nat := 4
def txBufferHeadroom : Nat := 52
def rxCommandSlotSize : UInt32 := 8
def txCommandSlotSize : UInt32 := 148
def maxTxTokens : Nat := ((rpuMemPacketBase - rpuMemTxCmdBase) / txCommandSlotSize).toNat
def txCommandPayloadLen : Nat := 47
def txCommandTotalLen : Nat := hostMessageHeaderLen + txCommandPayloadLen

inductive DataLayoutError where
  | invalidCapacity
  | packetRamExhausted
  deriving DecidableEq, Repr

/-- The errors of a data operation.  `stopped` is none of the source's: the call does
not return, because it indexed a buffer out of bounds. -/
inductive DataError (ε : Type) where
  | device (error : DeviceError ε)
  | rpu (error : RpuError ε)
  | protocol (error : DataProtocolError)
  | queueOwnershipUncertain (error : DeviceError ε)
  | noTransmitToken
  | receiveDescriptorBusy (descriptor : UInt16)
  | outputTooSmall (needed capacity : Nat)
  | stopped
  deriving DecidableEq

def DataError.ofConversion {ε : Type} : ConversionFailure → DataError ε
  | .protocol error => .protocol error
  | .outOfBounds => .stopped

/-! ## Layout -/

def DescriptorCountsValid (rx tx : Nat) : Prop :=
  0 < rx ∧ 0 < tx ∧ rx ≤ 0xffff ∧ tx ≤ maxTxTokens

def BufferSizesValid (rxBufferSize txBufferSize : Nat) : Prop :=
  0 < rxBufferSize ∧ ethernetHeaderLen ≤ txBufferSize ∧ rxBufferSize ≤ 0xffff ∧
    txBufferSize ≤ 0xffff

instance (rx tx : Nat) : Decidable (DescriptorCountsValid rx tx) :=
  inferInstanceAs (Decidable (_ ∧ _))

instance (rxBufferSize txBufferSize : Nat) : Decidable (BufferSizesValid rxBufferSize txBufferSize) :=
  inferInstanceAs (Decidable (_ ∧ _))

def rxStrideOf (rxBufferSize : Nat) : Nat := align4 (rxBufferSize + rxBufferHeadroom)
def txStrideOf (txBufferSize : Nat) : Nat := align4 (txBufferSize + txBufferHeadroom)

/-- The sizes of a packet-RAM layout, with what `DataPath::new` checked about them. -/
structure Layout (rx tx : Nat) where
  rxBufferSize : Nat
  txBufferSize : Nat
  counts : DescriptorCountsValid rx tx
  sizes : BufferSizesValid rxBufferSize txBufferSize
  fits : rxStrideOf rxBufferSize * rx + txStrideOf txBufferSize * tx ≤ rpuPacketRamSize

namespace Layout
variable {rx tx : Nat}

def new (rxBufferSize txBufferSize : Nat) : Except DataLayoutError (Layout rx tx) :=
  if counts : DescriptorCountsValid rx tx then
    if sizes : BufferSizesValid rxBufferSize txBufferSize then
      if fits : rxStrideOf rxBufferSize * rx + txStrideOf txBufferSize * tx ≤ rpuPacketRamSize then
        .ok { rxBufferSize, txBufferSize, counts, sizes, fits }
      else .error .packetRamExhausted
    else .error .invalidCapacity
  else .error .invalidCapacity

variable (layout : Layout rx tx)

def rxStride : Nat := rxStrideOf layout.rxBufferSize
def txStride : Nat := txStrideOf layout.txBufferSize

def rxBase : UInt32 := rpuMemPacketEnd + 1 - UInt32.ofNat (layout.rxStride * rx)

/-- One receive slot, including the headroom. -/
def rxSlotAddress (descriptor : Nat) : Option UInt32 :=
  if descriptor < rx then
    some (layout.rxBase + UInt32.ofNat descriptor * UInt32.ofNat layout.rxStride)
  else none

def txSlotAddress (token : Nat) : Option UInt32 :=
  if token < tx then
    some (rpuMemPacketBase + UInt32.ofNat token * UInt32.ofNat layout.txStride)
  else none

end Layout

/-! ## State -/

structure DataPath (rx tx : Nat) where
  layout : Layout rx tx
  txInFlight : Fin tx → Bool
  rxPosted : Fin rx → Bool
  nextTx : Nat

/-- Metadata of one delivered Ethernet frame. -/
structure ReceivedFrame where
  len : Nat
  etherType : UInt16
  descriptorId : UInt16
  signalDbm : Int16
  frequencyMhz : UInt16
  deriving DecidableEq

/-- A data path next to the device whose queues it uses. -/
structure DataLink (β : Type) (rx tx : Nat) where
  device : Device β
  path : DataPath rx tx

namespace DataPath
variable {β ε α : Type} {rx tx : Nat}

def new (rxBufferSize txBufferSize : Nat) : Except DataLayoutError (DataPath rx tx) := do
  let layout ← Layout.new rxBufferSize txBufferSize
  return { layout, txInFlight := fun _ => false, rxPosted := fun _ => false, nextTx := 0 }

def resetAfterRpuReset (path : DataPath rx tx) : DataPath rx tx :=
  { path with txInFlight := fun _ => false, rxPosted := fun _ => false, nextTx := 0 }

/-- Whether an in-range token is in flight. -/
def inFlight (path : DataPath rx tx) (token : Nat) : Bool :=
  if inRange : token < tx then path.txInFlight ⟨token, inRange⟩ else false

def posted (path : DataPath rx tx) (descriptor : Nat) : Bool :=
  if inRange : descriptor < rx then path.rxPosted ⟨descriptor, inRange⟩ else false

def setInFlight (path : DataPath rx tx) (token : Nat) (value : Bool) : DataPath rx tx :=
  { path with txInFlight := fun index => if index = token then value else path.txInFlight index }

def setPosted (path : DataPath rx tx) (descriptor : Nat) (value : Bool) : DataPath rx tx :=
  { path with
    rxPosted := fun index => if index = descriptor then value else path.rxPosted index }

def onPath (x : Program (DataPath rx tx) ε α) : Program (DataLink β rx tx) ε α :=
  onField (·.path) (fun path link => { link with path }) x

def onDevice (x : Program (Device β) ε α) : Program (DataLink β rx tx) ε α :=
  onField (·.device) (fun device link => { link with device }) x

def onRpu (x : Program (Rpu β) (RpuError ε) α) : Program (DataLink β rx tx) (DataError ε) α :=
  onField (·.device.rpu) (fun rpu link => { link with device := { link.device with rpu } })
    (mapError .rpu x)

/-! ### Posting receive descriptors -/

section Receive
variable [Bus β ε]

def availableRxIndex (path : DataPath rx tx) (descriptor : UInt16) :
    Except (DataError ε) Nat :=
  let index := descriptor.toNat
  if rx ≤ index then .error (.protocol (.invalidDescriptor descriptor))
  else if path.posted index then .error (.receiveDescriptorBusy descriptor)
  else .ok index

def rxBufferBusyQueue (queues : HpqmInfo) (poolId : Nat) : Option Hpq :=
  [queues.rxBufferBusy.1, queues.rxBufferBusy.2.1, queues.rxBufferBusy.2.2][poolId]?

def rxQueueContext (device : Device β) (poolId : Nat) (descriptor : UInt16) :
    Except (DataError ε) (Hpq × UInt32) := do
  let some queues := device.queues | throw (.device .notInitialized)
  let some queue := rxBufferBusyQueue queues poolId
    | throw (.protocol (.invalidDescriptor descriptor))
  if device.rxCommandBase = 0 then throw (.device .notInitialized)
  return (queue, device.rxCommandBase)

def rxCommandAddress (commandBase : UInt32) (descriptor : UInt16) : UInt32 :=
  commandBase + rxCommandSlotSize * descriptor.toUInt32

/-- Stores the descriptor in the slot's headroom and the DMA pointer behind it in the
LMAC command slot. -/
def prepareRxDescriptor (slot commandBase : UInt32) (descriptor : UInt16) :
    Program (DataLink β rx tx) (DataError ε) UInt32 := do
  onRpu (Rpu.writeU32 .lmac slot descriptor.toUInt32)
  let dmaPointer := (slot + UInt32.ofNat rxBufferHeadroom) &&& rpuAddrMaskOffset
  let commandAddress := rxCommandAddress commandBase descriptor
  let indirect := rpuMcuCoreIndirectBase ||| (commandAddress &&& rpuAddrMaskOffset)
  onRpu (Rpu.writeIndirect .lmac indirect (le32 dmaPointer))
  return commandAddress

/-- A failed queue write leaves the owner of the descriptor unknown. -/
def deliverRxDescriptor (queue : Hpq) (commandAddress : UInt32) :
    Program (DataLink β rx tx) (DataError ε) Unit :=
  mapError .queueOwnershipUncertain (onDevice (Device.enqueue queue commandAddress))

def rxSlot (layout : Layout rx tx) (index : Nat) (descriptor : UInt16) :
    Except (DataError ε) UInt32 :=
  match layout.rxSlotAddress index with
  | some slot => .ok slot
  | none => .error (.protocol (.invalidDescriptor descriptor))

def postRx (descriptor : UInt16) (poolId : Nat) :
    Program (DataLink β rx tx) (DataError ε) Unit := do
  let link ← get
  let index ← liftResult (availableRxIndex link.path descriptor)
  let (queue, commandBase) ← liftResult (rxQueueContext link.device poolId descriptor)
  let slot ← liftResult (rxSlot link.path.layout index descriptor)
  let commandAddress ← prepareRxDescriptor slot commandBase descriptor
  onPath (modify (·.setPosted index true))
  deliverRxDescriptor queue commandAddress

def postAllRxFrom : Nat → Nat → Program (DataLink β rx tx) (DataError ε) Unit
  | 0, _ => pure ()
  | rest + 1, descriptor => do
      let link ← get
      if ¬ link.path.posted descriptor then postRx (UInt16.ofNat descriptor) 0
      postAllRxFrom rest (descriptor + 1)

def postAllRx : Program (DataLink β rx tx) (DataError ε) Unit := postAllRxFrom rx 0

/-! ### Receiving -/

def takeRxDescriptor (event : RxEvent) (packetIndex : Nat) :
    Program (DataLink β rx tx) (DataError ε) RxPacketInfo := do
  let info ← liftResult ((event.packet packetIndex).mapError .protocol)
  let descriptor := info.descriptorId.toNat
  let link ← get
  if rx ≤ descriptor ∨ ¬ link.path.posted descriptor then
    throw (.protocol (.invalidDescriptor info.descriptorId))
  onPath (modify (·.setPosted descriptor false))
  return info

def ensureReceiveCapacity (info : RxPacketInfo) (outputLen : Nat) :
    Program (DataLink β rx tx) (DataError ε) Unit := do
  let link ← get
  if link.path.layout.rxBufferSize < info.packetLen.toNat then
    postRx info.descriptorId 0
    throw (.protocol .frameTooLarge)
  if outputLen < info.packetLen.toNat then
    postRx info.descriptorId 0
    throw (.outputTooSmall info.packetLen.toNat outputLen)

/-- Reads one packet into the caller's buffer. -/
def readRxOrRepost (info : RxPacketInfo) (slot : UInt32) :
    Program (DataLink β rx tx × Bytes) (DataError ε) Unit := do
  let read : Program (DataLink β rx tx × Bytes) (RpuError ε) Unit :=
    onField (fun s => (s.1.device.rpu, s.2))
      (fun part s => ({ s.1 with device := { s.1.device with rpu := part.1 } }, part.2))
      (Rpu.read .lmac (slot + UInt32.ofNat rxBufferHeadroom))
  match ← attempt read with
  | .ok _ => return ()
  | .error failure =>
      besideBuffer (postRx info.descriptorId 0)
      throw (.rpu failure)

def receivedFrame (conversion : Except ConversionFailure Nat) (output : Bytes)
    (info : RxPacketInfo) (event : RxEvent) : Except (DataError ε) ReceivedFrame := do
  let len ← conversion.mapError .ofConversion
  return {
    len
    etherType := readBeU16 output 12
    descriptorId := info.descriptorId
    signalDbm := event.signalDbm
    frequencyMhz := event.frequencyMhz }

/-- An index out of bounds stops the program before the descriptor is posted again. -/
def convertReceived (info : RxPacketInfo) (macHeaderLen : Nat) :
    Program (DataLink β rx tx × Bytes) (DataError ε) (Except ConversionFailure Nat) := do
  let conversion ← attempt (onField Prod.snd (fun output s => (s.1, output))
    (convertToEthernet info.payloadType macHeaderLen))
  if conversion = .error .outOfBounds then throw .stopped
  return conversion

/-- Copies and converts one packet into the caller's buffer and posts its descriptor
again. -/
def receivePacket (event : RxEvent) (packetIndex : Nat) :
    Program (DataLink β rx tx × Bytes) (DataError ε) ReceivedFrame := do
  let info ← besideBuffer (takeRxDescriptor event packetIndex)
  let rawLen := info.packetLen.toNat
  let (link, output) ← get
  besideBuffer (ensureReceiveCapacity info output.length)
  let slot ← liftResult (rxSlot link.path.layout info.descriptorId.toNat info.descriptorId)
  inSlice 0 rawLen (readRxOrRepost info slot)
  let conversion ← inSlice 0 rawLen (convertReceived info event.macHeaderLen.toNat)
  besideBuffer (postRx info.descriptorId 0)
  let (_, output) ← get
  liftResult (receivedFrame conversion output info event)

end Receive

/-! ### Transmitting -/

section Transmit
variable [Bus β ε]

def validateTransmitFrame (frame : Bytes) (capacity : Nat) : Except (DataError ε) Unit :=
  if frame.length < ethernetHeaderLen then .error (.protocol .frameTooShort)
  else if capacity < frame.length ∨ 0xffff < frame.length then .error (.protocol .frameTooLarge)
  else .ok ()

/-- The first free token from `nextTx + offset` on, with wraparound. -/
def freeTokenFrom (path : DataPath rx tx) : Nat → Nat → Option Nat
  | 0, _ => none
  | rest + 1, offset =>
      let index := (path.nextTx + offset) % tx
      if path.inFlight index then freeTokenFrom path rest (offset + 1) else some index

def reserveTx (path : DataPath rx tx) : Option (Nat × DataPath rx tx) :=
  match path.freeTokenFrom tx 0 with
  | none => none
  | some index => some (index, { path.setInFlight index true with nextTx := (index + 1) % tx })

def completeTx (token : UInt8) : Program (DataPath rx tx) DataProtocolError Unit := do
  let path ← get
  if tx ≤ token.toNat then throw (.invalidDescriptor token.toUInt16)
  if ¬ path.inFlight token.toNat then throw (.invalidDescriptor token.toUInt16)
  set (path.setInFlight token.toNat false)

def writePacket (address : UInt32) (frame : Bytes) :
    Program (DataLink β rx tx) (DataError ε) Unit := do
  let aligned := frame.length / 4 * 4
  if aligned ≠ 0 then onRpu (Rpu.write .umac address (frame.take aligned))
  if aligned ≠ frame.length then
    let tail := frame.drop aligned ++ List.replicate (4 - (frame.length - aligned)) 0
    onRpu (Rpu.write .umac (address + UInt32.ofNat aligned) tail)

/-- Runs a step whose failure gives the reserved token back. -/
def orRelease (token : UInt8) (x : Program (DataLink β rx tx) (DataError ε) α) :
    Program (DataLink β rx tx) (DataError ε) α := do
  match ← attempt x with
  | .ok value => return value
  | .error failure =>
      onPath (modify (·.setInFlight token.toNat false))
      throw failure

def txSlot (layout : Layout rx tx) (token : UInt8) : Except (DataError ε) UInt32 :=
  match layout.txSlotAddress token.toNat with
  | some slot => .ok slot
  | none => .error (.protocol (.invalidDescriptor token.toUInt16))

def reserveToken : Program (DataLink β rx tx) (DataError ε) UInt8 := do
  let link ← get
  match link.path.reserveTx with
  | none => throw .noTransmitToken
  | some (index, path) =>
      set { link with path }
      return UInt8.ofNat index

def prepareTransmit (frame : Bytes) :
    Program (DataLink β rx tx) (DataError ε) (UInt8 × UInt32) := do
  let link ← get
  liftResult (validateTransmitFrame frame link.path.layout.txBufferSize)
  let token ← reserveToken
  let packetAddress ← liftResult (txSlot link.path.layout token)
  orRelease token (writePacket packetAddress frame)
  return (token, packetAddress)

def transmitQueueContext (device : Device β) : Except (DataError ε) (UInt32 × Hpq) := do
  if device.txCommandBase = 0 then throw (.device .notInitialized)
  let some queues := device.queues | throw (.device .notInitialized)
  return (device.txCommandBase, queues.commandBusy)

def txCommandAddress (commandBase : UInt32) (token : UInt8) : UInt32 :=
  commandBase + txCommandSlotSize * token.toUInt32

def encodeTxCommand (wdevId token : UInt8) (frame : Bytes) (dscpTos : UInt16)
    (dmaPointer : UInt32) : Bytes :=
  le32 (UInt32.ofNat txCommandTotalLen) ++ (le32 0 ++ (le32 HostMessageType.data.number.toUInt32 ++
    (le32 DataCommand.transmitBuffer.number ++ (le32 (UInt32.ofNat txCommandPayloadLen) ++
      ([wdevId, token] ++ (le32 0 ++ (le16 0 ++ ((octetsAt frame 0 6).1 ++
        ((octetsAt frame 6 6).1 ++ (le16 (readBeU16 frame 12) ++ (le32 dscpTos.toUInt32 ++
          ([0, 0] ++ (le32 0 ++ ([1] ++ (le16 (UInt16.ofNat frame.length) ++
            le32 dmaPointer)))))))))))))))

/-- After the command is written, a failed queue or trigger write leaves the owner of
the token unknown: it is not released. -/
def deliverTransmitCommand (commandQueue : Hpq) (commandAddress : UInt32) :
    Program (DataLink β rx tx) (DataError ε) Unit :=
  mapError .queueOwnershipUncertain do
    onDevice (Device.enqueue commandQueue commandAddress)
    onDevice Device.triggerCommand

def submitTransmit (token : UInt8) (packetAddress : UInt32) (wdevId : UInt8) (frame : Bytes)
    (dscpTos : UInt16) : Program (DataLink β rx tx) (DataError ε) Unit := do
  let link ← get
  let (commandBase, commandQueue) ← liftResult (transmitQueueContext link.device)
  let commandAddress := txCommandAddress commandBase token
  let command := encodeTxCommand wdevId token frame dscpTos (packetAddress &&& rpuAddrMaskOffset)
  orRelease token (onRpu (Rpu.write .umac commandAddress command))
  deliverTransmitCommand commandQueue commandAddress

/-- Sends one complete Ethernet frame through one transmit token. -/
def transmit (wdevId : UInt8) (frame : Bytes) (dscpTos : UInt16) :
    Program (DataLink β rx tx) (DataError ε) UInt8 := do
  let (token, packetAddress) ← prepareTransmit frame
  submitTransmit token packetAddress wdevId frame dscpTos
  onDevice (Device.record (.transmitted token.toNat frame))
  return token

end Transmit

/-! ### Frames -/

theorem keeps_path_onRpu (x : Program (Rpu β) (RpuError ε) α) :
    Keeps (fun link : DataLink β rx tx => link.path) (onRpu x) :=
  keeps_onField _ fun _ _ => rfl

theorem keeps_device_onRpu (x : Program (Rpu β) (RpuError ε) α) :
    Keeps (fun link : DataLink β rx tx => link.device.withoutBus) (onRpu x) :=
  keeps_onField _ fun _ _ => rfl

/-- A link that changed in nothing but its bus. -/
def SameButBus (link next : DataLink β rx tx) : Prop :=
  next.path = link.path ∧ next.device.withoutBus = link.device.withoutBus

theorem sameButBus_refl (link : DataLink β rx tx) : SameButBus link link := ⟨rfl, rfl⟩

theorem post_onRpu (x : Program (Rpu β) (RpuError ε) α) (link : DataLink β rx tx) :
    Post (onRpu x) link (fun _ next => SameButBus link next) :=
  (keeps_path_onRpu x).post link |>.and ((keeps_device_onRpu x).post link)

/-! ### A layout for concrete runs -/

theorem sampleSizes_valid : BufferSizesValid 1600 1600 := by decide

def sampleLayout : Layout 1 1 where
  rxBufferSize := 1600
  txBufferSize := 1600
  counts := by decide
  sizes := sampleSizes_valid
  fits := by decide

def samplePath : DataPath 1 1 :=
  { layout := sampleLayout
    txInFlight := fun _ => false
    rxPosted := fun _ => false
    nextTx := 0 }

theorem samplePath_new : new 1600 1600 = .ok samplePath := rfl

end DataPath

end Nrf7002
