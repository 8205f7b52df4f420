import Nrf7002.Control
import Nrf7002.Memory

/-! # The queue, command and event controller

The device owns the RPU access path and the queue map that firmware publishes.
Commands are written to dequeued command buffers; events are reassembled from the
fragments that firmware queues.

`Device.journal` and `Device.operations` are history variables: no operation reads
them.  The journal lists what crossed the host boundary completely, in order; the
operations are the accesses to the hardware queues, each listed when it starts. -/

set_option autoImplicit false

namespace Nrf7002
open Foundation

def rpuMemHpqInfo : UInt32 := 0xb0000024
def rpuMemRxCmdBase : UInt32 := 0xb7000d58
def rpuMemTxCmdBase : UInt32 := 0xb00000b8
def rpuRegIntFromRpuCtrl : UInt32 := 0xa4000400
def rpuRegIntToMcuCtrl : UInt32 := 0xa4000480
def rpuRegIntFromMcuAck : UInt32 := 0xa4000488
def rpuRegIntFromMcuCtrl : UInt32 := 0xa4000494
def rpuInterruptRootBit : UInt32 := (1 : UInt32) <<< 17
def rpuInterruptMcuBit : UInt32 := (1 : UInt32) <<< 31
def rpuCommandCounterStart : UInt32 := 0xdead
def defaultControlFragmentLen : Nat := 400
def maxEventFragmentLen : Nat := 1000
def defaultCommandWaitAttempts : Nat := 1000

/-- A fragment limit that `set_fragment_limits` accepts: it holds a message header. -/
abbrev FragmentLen (bound : Nat) := { len : Nat // hostMessageHeaderLen ≤ len ∧ len ≤ bound }

inductive DeviceError (ε : Type) where
  | rpu (error : RpuError ε)
  | protocol (error : ProtocolError)
  | notInitialized
  | invalidQueueMap
  | commandQueueEmpty
  | commandNeedsWait
  | commandQueueTimeout
  | commandDeliveryUncertain
  | recoveryRequired
  | eventBufferChanged
  | eventTooLarge (declared capacity : Nat)
  deriving DecidableEq

/-- An event of which some fragments are still queued. -/
structure PendingEvent where
  declared : Nat
  copied : Nat
  resubmit : Bool
  scratchAddress : Nat
  discard : Bool
  deriving DecidableEq

inductive PendingEventRead where
  | waiting
  | discarded
  | complete (declared : Nat)
  deriving DecidableEq

structure NewEvent where
  address : UInt32
  declared : Nat
  firstCount : Nat
  resubmit : Bool
  deriving DecidableEq

/-- What crossed the host boundary: a command delivered in full, an event handed to
the caller, or a data frame given to firmware under its token. -/
inductive Crossing where
  | sent (message : Bytes)
  | received (message : HostMessage)
  | transmitted (token : Nat) (frame : Bytes)
  deriving DecidableEq

/-- An access to the hardware queues. -/
inductive QueueOperation where
  | enqueue (queue : Hpq) (value : UInt32)
  | dequeue (queue : Hpq)
  | trigger
  deriving DecidableEq

structure Device (β : Type) where
  rpu : Rpu β
  queues : Option HpqmInfo
  rxCommandBase : UInt32
  txCommandBase : UInt32
  commandCounter : UInt32
  commandFragmentLen : FragmentLen defaultControlFragmentLen
  eventFragmentLen : FragmentLen maxEventFragmentLen
  pendingEvent : Option PendingEvent
  recoveryRequired : Bool
  journal : List Crossing
  operations : List QueueOperation

namespace Device
variable {β ε α : Type}

def new (bus : β) : Device β :=
  { rpu := { bus }
    queues := none
    rxCommandBase := 0
    txCommandBase := 0
    commandCounter := rpuCommandCounterStart
    commandFragmentLen := ⟨defaultControlFragmentLen, by decide⟩
    eventFragmentLen := ⟨maxEventFragmentLen, by decide⟩
    pendingEvent := none
    recoveryRequired := false
    journal := []
    operations := [] }

def resetQueueState (device : Device β) : Device β :=
  { device with
    queues := none
    rxCommandBase := 0
    txCommandBase := 0
    commandCounter := rpuCommandCounterStart
    pendingEvent := none
    recoveryRequired := false }

def setFragmentLimits (device : Device β) (commandLen eventLen : Nat) : Option (Device β) :=
  if command : hostMessageHeaderLen ≤ commandLen ∧ commandLen ≤ defaultControlFragmentLen then
    if event : hostMessageHeaderLen ≤ eventLen ∧ eventLen ≤ maxEventFragmentLen then
      some { device with
        commandFragmentLen := ⟨commandLen, command⟩
        eventFragmentLen := ⟨eventLen, event⟩ }
    else none
  else none

def discardPendingEvent (device : Device β) : Bool × Device β :=
  match device.pendingEvent with
  | none => (false, device)
  | some pending =>
      (true, { device with
        pendingEvent := some { pending with discard := true, scratchAddress := 0 } })

def record (crossing : Crossing) : Program (Device β) ε Unit :=
  modify fun device => { device with journal := device.journal ++ [crossing] }

def perform (operation : QueueOperation) : Program (Device β) ε Unit :=
  modify fun device => { device with operations := device.operations ++ [operation] }

def ensureOperational : Program (Device β) (DeviceError ε) Unit := do
  let device ← get
  if device.recoveryRequired then throw .recoveryRequired

def markDeliveryUncertain : Program (Device β) (DeviceError ε) α := do
  modify fun device => { device with recoveryRequired := true }
  throw .commandDeliveryUncertain

def onRpu (x : Program (Rpu β) (RpuError ε) α) : Program (Device β) (DeviceError ε) α :=
  onField (·.rpu) (fun rpu device => { device with rpu }) (mapError .rpu x)

def onRpuWithBuffer (x : Program (Rpu β × Bytes) (RpuError ε) α) :
    Program (Device β × Bytes) (DeviceError ε) α :=
  onField (fun s => (s.1.rpu, s.2)) (fun part s => ({ s.1 with rpu := part.1 }, part.2))
    (mapError .rpu x)

def requireQueues : Program (Device β) (DeviceError ε) HpqmInfo := do
  match (← get).queues with
  | some queues => return queues
  | none => throw .notInitialized

/-! ### Queue access -/

section Queues
variable [Bus β ε]

def enqueue (queue : Hpq) (value : UInt32) : Program (Device β) (DeviceError ε) Unit := do
  perform (.enqueue queue value)
  onRpu (Rpu.writeRegister queue.enqueueAddress value)

def dequeue (queue : Hpq) : Program (Device β) (DeviceError ε) (Option UInt32) := do
  perform (.dequeue queue)
  let value ← onRpu (Rpu.readRegister queue.dequeueAddress)
  if value = 0 then return none
  if value = 0xaaaaaaaa then throw .invalidQueueMap
  onRpu (Rpu.writeRegister queue.dequeueAddress value)
  return some value

def triggerCommand : Program (Device β) (DeviceError ε) Unit := do
  perform .trigger
  let device ← get
  onRpu (Rpu.writeRegister rpuRegIntToMcuCtrl (device.commandCounter ||| 0x7fff0000))
  modify fun device => { device with commandCounter := device.commandCounter + 1 }

def acknowledgeInterrupt : Program (Device β) (DeviceError ε) Unit :=
  onRpu (Rpu.writeRegister rpuRegIntFromMcuAck rpuInterruptMcuBit)

def enableInterrupts : Program (Device β) (DeviceError ε) Unit := do
  ensureOperational
  let root ← onRpu (Rpu.readRegister rpuRegIntFromRpuCtrl)
  onRpu (Rpu.writeRegister rpuRegIntFromRpuCtrl (root ||| rpuInterruptRootBit))
  onRpu (Rpu.writeRegister rpuRegIntFromMcuCtrl rpuInterruptMcuBit)

def disableInterrupts : Program (Device β) (DeviceError ε) Unit := do
  let root ← onRpu (Rpu.readRegister rpuRegIntFromRpuCtrl)
  onRpu (Rpu.writeRegister rpuRegIntFromRpuCtrl (root &&& ~~~rpuInterruptRootBit))
  onRpu (Rpu.writeRegister rpuRegIntFromMcuCtrl 0)

end Queues

/-! ### Queue discovery -/

def hpqIsValid (queue : Hpq) : Bool :=
  queue.enqueueAddress ≠ 0 && queue.dequeueAddress ≠ 0
    && queue.enqueueAddress ≠ 0xaaaaaaaa && queue.dequeueAddress ≠ 0xaaaaaaaa
    && queue.enqueueAddress &&& 3 = 0 && queue.dequeueAddress &&& 3 = 0

def queueMapIsValid (queues : HpqmInfo) : Bool :=
  [queues.eventBusy, queues.eventAvailable, queues.commandBusy, queues.commandAvailable,
    queues.rxBufferBusy.1, queues.rxBufferBusy.2.1, queues.rxBufferBusy.2.2].all hpqIsValid

def initializeQueues [Bus β ε] : Program (Device β) (DeviceError ε) HpqmInfo := do
  let (_, bytes) ← onRpu (withLocal (List.replicate hpqmInfoLen 0)
    (Rpu.read .umac rpuMemHpqInfo))
  let queues ← liftResult ((HpqmInfo.parse bytes).mapError .protocol)
  if ¬ queueMapIsValid queues then throw .invalidQueueMap
  let rxCommandBase ← onRpu (Rpu.readU32 .lmac rpuMemRxCmdBase)
  if rxCommandBase = 0 ∨ rxCommandBase = 0xaaaaaaaa then throw .invalidQueueMap
  modify fun device =>
    { device with
      queues := some queues
      rxCommandBase
      txCommandBase := rpuMemTxCmdBase
      commandCounter := rpuCommandCounterStart
      pendingEvent := none
      recoveryRequired := false }
  return queues

/-! ### Commands -/

section Commands
variable [Bus β ε]

def validateCompleteMessage (message : Bytes) : Except (DeviceError ε) Unit :=
  if message.length < hostMessageHeaderLen ∨ maxStationMessageLen < message.length then
    .error (.protocol .invalidLength)
  else if (readU32 message 0).toNat ≠ message.length then .error (.protocol .invalidLength)
  else .ok ()

/-- A failed transfer leaves the owner of a queued buffer unknown. -/
def orUncertain (x : Program (Device β) (DeviceError ε) α) :
    Program (Device β) (DeviceError ε) α := do
  match ← attempt x with
  | .ok value => return value
  | .error _ => markDeliveryUncertain

def takeCommandBuffer (queue : Hpq) : Program (Device β) (DeviceError ε) UInt32 := do
  match ← orUncertain (dequeue queue) with
  | some value => return value
  | none => throw .commandQueueEmpty

def commandWaitTimeout (postedAny : Bool) : Program (Device β) (DeviceError ε) α :=
  if postedAny then markDeliveryUncertain else throw .commandQueueTimeout

/-- Polls for a command buffer; the delay between two polls changes no state. -/
def waitForCommandBuffer (queue : Hpq) (postedAny : Bool) :
    Nat → Program (Device β) (DeviceError ε) UInt32
  | 0 => commandWaitTimeout postedAny
  | attempts + 1 => do
      match ← orUncertain (dequeue queue) with
      | some value => return value
      | none => waitForCommandBuffer queue postedAny attempts

def postControlFragment (queues : HpqmInfo) (address : UInt32) (fragment : Bytes) :
    Program (Device β) (DeviceError ε) Unit := do
  orUncertain (onRpu (Rpu.write .umac address fragment))
  orUncertain (enqueue queues.commandBusy address)
  orUncertain triggerCommand

def sendControl (message : Bytes) : Program (Device β) (DeviceError ε) Unit := do
  liftResult (validateCompleteMessage message)
  ensureOperational
  let device ← get
  if device.commandFragmentLen.1 < message.length then throw .commandNeedsWait
  let queues ← requireQueues
  let address ← takeCommandBuffer queues.commandAvailable
  postControlFragment queues address message
  record (.sent message)

def prepareReliableSend (message : Bytes) (attempts : Nat) :
    Program (Device β) (DeviceError ε) HpqmInfo := do
  liftResult (validateCompleteMessage message)
  ensureOperational
  if attempts = 0 then throw .commandQueueTimeout
  requireQueues

def sendFragmentsWithWait (queues : HpqmInfo) (attempts : Nat) :
    List Bytes → Bool → Program (Device β) (DeviceError ε) Unit
  | [], _ => pure ()
  | fragment :: rest, postedAny => do
      let address ← waitForCommandBuffer queues.commandAvailable postedAny attempts
      postControlFragment queues address fragment
      sendFragmentsWithWait queues attempts rest true

def sendControlWithWait (message : Bytes) (attempts : Nat) :
    Program (Device β) (DeviceError ε) Unit := do
  let queues ← prepareReliableSend message attempts
  let device ← get
  sendFragmentsWithWait queues attempts (chunks device.commandFragmentLen.1 message) false
  record (.sent message)

def sendControlReliable (message : Bytes) : Program (Device β) (DeviceError ε) Unit :=
  sendControlWithWait message defaultCommandWaitAttempts

end Commands

/-! ### Events -/

section Events
variable [Bus β ε]

def releaseEventFragment (queues : HpqmInfo) (eventAddress : UInt32) (resubmit : Bool) :
    Program (Device β) (DeviceError ε) Unit :=
  if resubmit then enqueue queues.eventAvailable eventAddress else pure ()

def releaseAndAcknowledgeEvent (queues : HpqmInfo) (eventAddress : UInt32) (resubmit : Bool) :
    Program (Device β) (DeviceError ε) Unit := do
  releaseEventFragment queues eventAddress resubmit
  acknowledgeInterrupt

def readEventHeader (eventAddress : UInt32) :
    Program (Device β) (DeviceError ε) (Nat × Bool) := do
  let (_, header) ← onRpu (withLocal (List.replicate hostMessageHeaderLen 0)
    (Rpu.read .umac eventAddress))
  return ((readU32 header 0).toNat, readU32 header 4 ≠ 0)

def beginNewEvent (queues : HpqmInfo) : Program (Device β) (DeviceError ε) (Option NewEvent) := do
  match ← dequeue queues.eventBusy with
  | none => return none
  | some address =>
      let (declared, resubmit) ← readEventHeader address
      let device ← get
      return some
        { address, declared, firstCount := min device.eventFragmentLen.1 declared, resubmit }

def rejectOversizedEvent (queues : HpqmInfo) (event : NewEvent) :
    Program (Device β) (DeviceError ε) Unit := do
  releaseAndAcknowledgeEvent queues event.address event.resubmit
  if event.firstCount < event.declared then
    modify fun device =>
      { device with
        pendingEvent := some
          { declared := event.declared
            copied := event.firstCount
            resubmit := event.resubmit
            scratchAddress := 0
            discard := true } }

def validateNewEvent (queues : HpqmInfo) (event : NewEvent) (capacity : Nat) :
    Program (Device β) (DeviceError ε) Unit := do
  if event.declared < hostMessageHeaderLen then
    releaseAndAcknowledgeEvent queues event.address event.resubmit
    throw (.protocol .invalidLength)
  if capacity < event.declared then
    rejectOversizedEvent queues event
    throw (.eventTooLarge event.declared capacity)

def readInitialEventFragment (queues : HpqmInfo) (event : NewEvent) :
    Program (Device β × Bytes) (DeviceError ε) Unit := do
  inSlice 0 event.firstCount (onRpuWithBuffer (Rpu.read .umac event.address))
  besideBuffer (releaseAndAcknowledgeEvent queues event.address event.resubmit)

def parseEvent (scratch : Bytes) (declared : Nat) :
    Program (Device β) (DeviceError ε) (Option HostMessage) := do
  let message ← liftResult ((parseHostMessage (scratch.take declared)).mapError .protocol)
  record (.received message)
  return some message

def finishNewEvent (scratchAddress : Nat) (event : NewEvent) :
    Program (Device β × Bytes) (DeviceError ε) (Option HostMessage) := do
  let (_, scratch) ← get
  if event.firstCount = event.declared then
    besideBuffer (parseEvent scratch event.declared)
  else
    modify fun s =>
      ({ s.1 with
         pendingEvent := some
           { declared := event.declared
             copied := event.firstCount
             resubmit := event.resubmit
             scratchAddress
             discard := false } }, s.2)
    return none

def readNewEvent (queues : HpqmInfo) (scratchAddress : Nat) :
    Program (Device β × Bytes) (DeviceError ε) (Option HostMessage) := do
  match ← besideBuffer (beginNewEvent queues) with
  | none => return none
  | some event =>
      let (_, scratch) ← get
      besideBuffer (validateNewEvent queues event scratch.length)
      readInitialEventFragment queues event
      finishNewEvent scratchAddress event

def pendingBufferChanged (pending : PendingEvent) (scratchAddress scratchLen : Nat) : Bool :=
  !pending.discard
    && (pending.scratchAddress ≠ scratchAddress || scratchLen < pending.declared)

def consumePendingFragment (queues : HpqmInfo) (pending : PendingEvent) (eventAddress : UInt32) :
    Program (Device β × Bytes) (DeviceError ε) PendingEvent := do
  let (device, _) ← get
  let count := min device.eventFragmentLen.1 (pending.declared - pending.copied)
  if ¬ pending.discard then
    inSlice pending.copied (pending.copied + count)
      (onRpuWithBuffer (Rpu.read .umac eventAddress))
  besideBuffer (releaseEventFragment queues eventAddress pending.resubmit)
  return { pending with copied := pending.copied + count }

/-- Removes queued fragments until the event is complete or the queue is empty.
A fragment is never empty, so the missing bytes bound the number of rounds. -/
def drainPendingFragments (queues : HpqmInfo) :
    Nat → PendingEvent → Bool →
      Program (Device β × Bytes) (DeviceError ε) (PendingEvent × Bool × Bool)
  | 0, pending, removed => return (pending, removed, true)
  | rounds + 1, pending, removed => do
      if pending.copied < pending.declared then
        match ← besideBuffer (dequeue queues.eventBusy) with
        | none => return (pending, removed, false)
        | some eventAddress =>
            let pending ← consumePendingFragment queues pending eventAddress
            drainPendingFragments queues rounds pending true
      else return (pending, removed, true)

def finishPendingEvent (pending : PendingEvent) (complete : Bool) :
    Program (Device β) (DeviceError ε) PendingEventRead := do
  if ¬ complete then
    modify fun device => { device with pendingEvent := some pending }
    return .waiting
  modify fun device => { device with pendingEvent := none }
  if pending.discard then return .discarded
  return .complete pending.declared

def continuePendingEvent (queues : HpqmInfo) (scratchAddress : Nat) (pending : PendingEvent) :
    Program (Device β × Bytes) (DeviceError ε) PendingEventRead := do
  let (_, scratch) ← get
  if pendingBufferChanged pending scratchAddress scratch.length then
    modify fun s =>
      ({ s.1 with
         pendingEvent := some { pending with discard := true, scratchAddress := 0 } }, s.2)
    throw .eventBufferChanged
  let (pending, removed, complete) ←
    drainPendingFragments queues (pending.declared - pending.copied) pending false
  if removed then besideBuffer acknowledgeInterrupt
  besideBuffer (finishPendingEvent pending complete)

def readPendingOrNext (queues : HpqmInfo) (scratchAddress : Nat) (pending : PendingEvent) :
    Program (Device β × Bytes) (DeviceError ε) (Option HostMessage) := do
  match ← continuePendingEvent queues scratchAddress pending with
  | .waiting => return none
  | .discarded => readNewEvent queues scratchAddress
  | .complete declared =>
      let (_, scratch) ← get
      besideBuffer (parseEvent scratch declared)

/-- Reads and reassembles one queued event into the scratch buffer that starts at
`scratchAddress`. -/
def tryReadEvent (scratchAddress : Nat) :
    Program (Device β × Bytes) (DeviceError ε) (Option HostMessage) := do
  besideBuffer ensureOperational
  let queues ← besideBuffer requireQueues
  match (← get).1.pendingEvent with
  | some pending => readPendingOrNext queues scratchAddress pending
  | none => readNewEvent queues scratchAddress

end Events

/-! ### Frames -/

section Frames

/-- Everything but the bus. -/
def withoutBus (device : Device β) : Device Unit :=
  { rpu := { bus := () }
    queues := device.queues
    rxCommandBase := device.rxCommandBase
    txCommandBase := device.txCommandBase
    commandCounter := device.commandCounter
    commandFragmentLen := device.commandFragmentLen
    eventFragmentLen := device.eventFragmentLen
    pendingEvent := device.pendingEvent
    recoveryRequired := device.recoveryRequired
    journal := device.journal
    operations := device.operations }

section Fields
variable {device next : Device β} (same : next.withoutBus = device.withoutBus)
include same

theorem queues_eq : next.queues = device.queues :=
  congrArg (fun view : Device Unit => view.queues) same

theorem rxCommandBase_eq : next.rxCommandBase = device.rxCommandBase :=
  congrArg (fun view : Device Unit => view.rxCommandBase) same

theorem txCommandBase_eq : next.txCommandBase = device.txCommandBase :=
  congrArg (fun view : Device Unit => view.txCommandBase) same

theorem recoveryRequired_eq : next.recoveryRequired = device.recoveryRequired :=
  congrArg (fun view : Device Unit => view.recoveryRequired) same

theorem operations_eq : next.operations = device.operations :=
  congrArg (fun view : Device Unit => view.operations) same

end Fields

theorem keeps_onRpu (x : Program (Rpu β) (RpuError ε) α) : Keeps withoutBus (onRpu x) :=
  keeps_onField _ fun _ _ => rfl

/-- A device that recorded more queue operations, and changed in nothing else but its
bus. -/
def Performed (device : Device β) (operations : List QueueOperation) (next : Device β) : Prop :=
  next.withoutBus =
    { device.withoutBus with operations := device.operations ++ operations }

theorem performed_operations {device next : Device β} {operations : List QueueOperation}
    (performed : Performed device operations next) :
    next.operations = device.operations ++ operations :=
  congrArg Device.operations performed

theorem performed_nil {device next : Device β} (same : next.withoutBus = device.withoutBus) :
    Performed device [] next := by
  rw [Performed, same, List.append_nil]
  rfl

theorem performed_trans {device middle next : Device β} {first second : List QueueOperation}
    (one : Performed device first middle) (two : Performed middle second next) :
    Performed device (first ++ second) next := by
  have operations := performed_operations one
  rw [Performed] at one two ⊢
  rw [two, one, operations, List.append_assoc]

theorem post_enqueue [Bus β ε] (queue : Hpq) (value : UInt32) (device : Device β) :
    Post (enqueue queue value : Program (Device β) (DeviceError ε) Unit) device
      (fun _ next => Performed device [.enqueue queue value] next) := by
  rw [enqueue, post_bind, perform, post_modify]
  exact (keeps_onRpu _).post _

end Frames

/-! ### A device for concrete runs -/

def readyQueues : HpqmInfo :=
  let queue : Hpq := { enqueueAddress := 0xa4006004, dequeueAddress := 0xa4006000 }
  { eventBusy := queue
    eventAvailable := queue
    commandBusy := queue
    commandAvailable := queue
    rxBufferBusy := (queue, queue, queue) }

/-- A freshly started device on a bus without failures. -/
def ready : Device ReadyBus :=
  { Device.new {} with
    queues := some readyQueues
    rxCommandBase := readyAddress
    txCommandBase := rpuMemTxCmdBase }

end Device

end Nrf7002
