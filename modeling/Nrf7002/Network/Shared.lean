import Nrf7002.Foundation.Pending
import Nrf7002.Foundation.Run
import Nrf7002.Foundation.Threads
import Nrf7002.Network.Queue

/-! # The network queue, access by access

The queue once more, now with every atomic access of the source as one step: a load, a
store, a compare-exchange, the use of a slot's buffer, the registration of a waker.
Accesses of the network stack, of the driver and of the link may interleave in any order,
and all see each at once.  `note` marks the history, which no operation reads. -/

set_option autoImplicit false

namespace Nrf7002
open Foundation

inductive SlotName where
  | rx
  | tx
  deriving DecidableEq

inductive WakerName where
  | rx
  | txSpace
  | txReady
  | link
  deriving DecidableEq

/-- What a task may wait for. -/
inductive Poll where
  | receive
  | transmit
  | txReady
  | linkState
  deriving DecidableEq

/-- Tasks are told apart by their wakers (`will_wake`). -/
abbrev TaskId : Type := Nat

/-- A task that polls. -/
structure Watcher where
  task : TaskId
  poll : Poll
  deriving DecidableEq

/-- The type `AtomicWaker` of the embassy library.  It has room for one waker: a
registration replaces the one before, and a wake-up wakes the waker that is registered,
if any.  Whether that waker stays registered is left open. -/
class AtomicWaker where
  Cell : Type
  new : Cell
  register : Cell → TaskId → Cell
  wake : Cell → Option TaskId × Cell
  wakes : ∀ cell task, (wake (register cell task)).1 = some task

/-- A frame is `pushed` by the driver and `received` by the network stack, or `written` by
the network stack and `read` by the driver; `released` gives up what the slot holds.  A
poll `watches` from its first registration on; a task is `registered` at a waker, and
`woken`. -/
inductive SharedEvent (w : Nat) where
  | pushed (epoch : BitVec w) (frame : Bytes)
  | received (epoch : BitVec w) (frame : Bytes)
  | written (epoch : BitVec w) (frame : Bytes)
  | read (epoch : BitVec w) (frame : Bytes)
  | released (slot : SlotName)
  | watches (watcher : Watcher)
  | registered (waker : WakerName) (task : TaskId)
  | woken (task : TaskId)
  deriving DecidableEq

structure SharedMemory [AtomicWaker] (w frameSize : Nat) where
  linkUp : Bool
  linkEpoch : BitVec w
  slots : SlotName → Slot w frameSize
  wakers : WakerName → AtomicWaker.Cell
  trace : List (SharedEvent w)

inductive QueueAccess (w frameSize : Nat) where
  | loadLinkUp
  | swapLinkUp (up : Bool)
  | loadLinkEpoch
  | fetchAddLinkEpoch
  | loadState (slot : SlotName)
  | compareExchange (slot : SlotName) (current next : SlotState)
  | storeState (slot : SlotName) (state : SlotState)
  | loadLen (slot : SlotName)
  | storeLen (slot : SlotName) (len : Nat)
  | loadEpoch (slot : SlotName)
  | storeEpoch (slot : SlotName) (epoch : BitVec w)
  | copyIn (slot : SlotName) (frame : Bytes) (fits : frame.length ≤ frameSize)
  | lend (slot : SlotName) (len : Nat) (f : SliceEdit)
  | readBuffer (slot : SlotName) (len : Nat)
  | register (waker : WakerName) (task : TaskId)
  | wake (waker : WakerName)
  | wakeByRef (task : TaskId)
  | note (event : SharedEvent w)

namespace SharedMemory
variable [AtomicWaker] {w frameSize : Nat}

def new : SharedMemory w frameSize :=
  { linkUp := false, linkEpoch := 0, slots := fun _ => .new, wakers := fun _ => AtomicWaker.new
    trace := [] }

def setSlot (memory : SharedMemory w frameSize) (name : SlotName) (slot : Slot w frameSize) :
    SharedMemory w frameSize :=
  { memory with slots := Function.update memory.slots name slot }

section SetSlot
variable (memory : SharedMemory w frameSize) (name : SlotName) (slot : Slot w frameSize)

@[simp] theorem setSlot_same : (memory.setSlot name slot).slots name = slot := by
  simp [setSlot]

theorem setSlot_other {other : SlotName} (different : other ≠ name) :
    (memory.setSlot name slot).slots other = memory.slots other := by
  simp [setSlot, different]

@[simp] theorem setSlot_linkUp : (memory.setSlot name slot).linkUp = memory.linkUp := rfl
@[simp] theorem setSlot_linkEpoch : (memory.setSlot name slot).linkEpoch = memory.linkEpoch := rfl
@[simp] theorem setSlot_wakers : (memory.setSlot name slot).wakers = memory.wakers := rfl
@[simp] theorem setSlot_trace : (memory.setSlot name slot).trace = memory.trace := rfl

end SetSlot

/-- `AtomicWaker::register` -/
def register (memory : SharedMemory w frameSize) (waker : WakerName) (task : TaskId) :
    SharedMemory w frameSize :=
  { memory with
    wakers := Function.update memory.wakers waker (AtomicWaker.register (memory.wakers waker) task)
    trace := memory.trace ++ [.registered waker task] }

/-- `AtomicWaker::wake` -/
def wake (memory : SharedMemory w frameSize) (waker : WakerName) : SharedMemory w frameSize :=
  { memory with
    wakers := Function.update memory.wakers waker (AtomicWaker.wake (memory.wakers waker)).2
    trace := memory.trace ++
      ((AtomicWaker.wake (memory.wakers waker)).1.map SharedEvent.woken).toList }

end SharedMemory

namespace Slot
variable {w frameSize : Nat}

theorem length_copied (slot : Slot w frameSize) (frame : Bytes) (fits : frame.length ≤ frameSize) :
    (splice slot.bytes.1 0 frame).length = frameSize := by
  rw [length_splice (by rw [slot.bytes.2]; omega), slot.bytes.2]

/-- `slot[..frame.len()].copy_from_slice(frame)` -/
def copyIn (slot : Slot w frameSize) (frame : Bytes) (fits : frame.length ≤ frameSize) :
    Slot w frameSize :=
  { slot with bytes := ⟨splice slot.bytes.1 0 frame, slot.length_copied frame fits⟩ }

end Slot

namespace QueueAccess
variable {w frameSize : Nat}

@[reducible] def Answer : QueueAccess w frameSize → Type
  | loadLinkUp => Bool
  | swapLinkUp _ => Bool
  | loadLinkEpoch => BitVec w
  | fetchAddLinkEpoch => BitVec w
  | loadState _ => SlotState
  | compareExchange _ _ _ => Bool
  | loadLen _ => Nat
  | loadEpoch _ => BitVec w
  | lend _ _ _ => Bytes
  | readBuffer _ _ => Bytes
  | storeState _ _ => Unit
  | storeLen _ _ => Unit
  | storeEpoch _ _ => Unit
  | copyIn _ _ _ => Unit
  | register _ _ => Unit
  | wake _ => Unit
  | wakeByRef _ => Unit
  | note _ => Unit

/-- One access, all at once.  `lend` and `readBuffer` answer with the slice they give. -/
def apply [AtomicWaker] : (access : QueueAccess w frameSize) → SharedMemory w frameSize →
    access.Answer × SharedMemory w frameSize
  | loadLinkUp, memory => (memory.linkUp, memory)
  | swapLinkUp up, memory => (memory.linkUp, { memory with linkUp := up })
  | loadLinkEpoch, memory => (memory.linkEpoch, memory)
  | fetchAddLinkEpoch, memory =>
      (memory.linkEpoch, { memory with linkEpoch := memory.linkEpoch + 1 })
  | loadState name, memory => ((memory.slots name).state, memory)
  | compareExchange name current next, memory =>
      if (memory.slots name).state = current then
        (true, memory.setSlot name { memory.slots name with state := next })
      else (false, memory)
  | storeState name state, memory =>
      ((), memory.setSlot name { memory.slots name with state })
  | loadLen name, memory => ((memory.slots name).len, memory)
  | storeLen name len, memory => ((), memory.setSlot name { memory.slots name with len })
  | loadEpoch name, memory => ((memory.slots name).epoch, memory)
  | storeEpoch name epoch, memory => ((), memory.setSlot name { memory.slots name with epoch })
  | copyIn name frame fits, memory =>
      ((), memory.setSlot name ((memory.slots name).copyIn frame fits))
  | lend name len f, memory =>
      ((memory.slots name).bytes.1.take len, memory.setSlot name ((memory.slots name).edit len f))
  | readBuffer name len, memory => ((memory.slots name).bytes.1.take len, memory)
  | register waker task, memory => ((), memory.register waker task)
  | wake waker, memory => ((), memory.wake waker)
  | wakeByRef task, memory => ((), { memory with trace := memory.trace ++ [.woken task] })
  | note event, memory => ((), { memory with trace := memory.trace ++ [event] })

/-- The access uses the buffer of the slot. -/
def touches (name : SlotName) : QueueAccess w frameSize → Bool
  | copyIn slot _ _ => slot = name
  | lend slot _ _ => slot = name
  | readBuffer slot _ => slot = name
  | _ => false

end QueueAccess

abbrev SharedProgram (w frameSize : Nat) (α : Type) : Type :=
  Thread (@QueueAccess.Answer w frameSize) α

namespace SharedQueue
variable {w frameSize : Nat}

def take (access : QueueAccess w frameSize) : SharedProgram w frameSize access.Answer :=
  Thread.perform access

def loadLinkUp : SharedProgram w frameSize Bool := take .loadLinkUp
def swapLinkUp (up : Bool) : SharedProgram w frameSize Bool := take (.swapLinkUp up)
def loadLinkEpoch : SharedProgram w frameSize (BitVec w) := take .loadLinkEpoch
def fetchAddLinkEpoch : SharedProgram w frameSize (BitVec w) := take .fetchAddLinkEpoch

def loadState (slot : SlotName) : SharedProgram w frameSize SlotState :=
  take (.loadState slot)

def compareExchange (slot : SlotName) (current next : SlotState) :
    SharedProgram w frameSize Bool :=
  take (.compareExchange slot current next)

def storeState (slot : SlotName) (state : SlotState) : SharedProgram w frameSize Unit :=
  take (.storeState slot state)

def loadLen (slot : SlotName) : SharedProgram w frameSize Nat := take (.loadLen slot)

def storeLen (slot : SlotName) (len : Nat) : SharedProgram w frameSize Unit :=
  take (.storeLen slot len)

def loadEpoch (slot : SlotName) : SharedProgram w frameSize (BitVec w) :=
  take (.loadEpoch slot)

def storeEpoch (slot : SlotName) (epoch : BitVec w) : SharedProgram w frameSize Unit :=
  take (.storeEpoch slot epoch)

def copyIn (slot : SlotName) (frame : Bytes) (fits : frame.length ≤ frameSize) :
    SharedProgram w frameSize Unit :=
  take (.copyIn slot frame fits)

def lend (slot : SlotName) (len : Nat) (f : SliceEdit) : SharedProgram w frameSize Bytes :=
  take (.lend slot len f)

def readBuffer (slot : SlotName) (len : Nat) : SharedProgram w frameSize Bytes :=
  take (.readBuffer slot len)

def register (waker : WakerName) (task : TaskId) : SharedProgram w frameSize Unit :=
  take (.register waker task)

def wake (waker : WakerName) : SharedProgram w frameSize Unit := take (.wake waker)

/-- `Waker::wake_by_ref` of the caller's own context. -/
def wakeByRef (task : TaskId) : SharedProgram w frameSize Unit := take (.wakeByRef task)

def note (event : SharedEvent w) : SharedProgram w frameSize Unit := take (.note event)

/-! ## The link -/

def activeEpochIn : Nat → SharedProgram w frameSize (Option (BitVec w))
  | 0 => pure none
  | tries + 1 => do
      let first ← loadLinkEpoch
      if ¬ (← loadLinkUp) then return none
      let second ← loadLinkEpoch
      if first = second then return some first
      activeEpochIn tries

def activeEpoch : SharedProgram w frameSize (Option (BitVec w)) := activeEpochIn 3

def epochIsActive (epoch : BitVec w) : SharedProgram w frameSize Bool := do
  if ¬ (← loadLinkUp) then return false
  return (← loadLinkEpoch) = epoch

def release (slot : SlotName) : SharedProgram w frameSize Unit := do
  storeLen slot 0
  note (.released slot)
  storeState slot .free

def releaseRx : SharedProgram w frameSize Unit := release .rx

def releaseTx : SharedProgram w frameSize Unit := do
  release .tx
  wake .txSpace

def discardReadyRx : SharedProgram w frameSize Unit := do
  if (← compareExchange .rx .ready .producer) then releaseRx

def discardReadyTx : SharedProgram w frameSize Unit := do
  if (← compareExchange .tx .ready .producer) then releaseTx

def setAuthorizedLink (up : Bool) : SharedProgram w frameSize Unit := do
  let old ← swapLinkUp up
  if old = up then return
  let _ ← fetchAddLinkEpoch
  discardReadyRx
  discardReadyTx
  wake .link
  wake .rx
  wake .txSpace
  wake .txReady

/-! ## Reservations -/

def confirmReservedTx (epoch : BitVec w) : SharedProgram w frameSize Bool := do
  if (← epochIsActive epoch) then return true
  releaseTx
  return false

def reserveTx (epoch : BitVec w) : SharedProgram w frameSize Bool := do
  if ¬ (← epochIsActive epoch) then return false
  if ¬ (← compareExchange .tx .free .client) then return false
  storeEpoch .tx epoch
  confirmReservedTx epoch

def claimedIsCurrent (slot : SlotName) (epoch : BitVec w) : SharedProgram w frameSize Bool := do
  if (← loadEpoch slot) ≠ epoch then return false
  epochIsActive epoch

def claimedRxIsCurrent (epoch : BitVec w) : SharedProgram w frameSize Bool :=
  claimedIsCurrent .rx epoch

/-- The state and the epoch of a slot that is ready under another epoch. -/
def readyUnderOther (slot : SlotName) (epoch : BitVec w) : SharedProgram w frameSize Bool := do
  if (← loadState slot) ≠ .ready then return false
  return (← loadEpoch slot) ≠ epoch

def claimReadyRx (epoch : BitVec w) : SharedProgram w frameSize Bool := do
  if ¬ (← epochIsActive epoch) then return false
  if (← readyUnderOther .rx epoch) then
    discardReadyRx
    return false
  compareExchange .rx .ready .client

def confirmClaimedRx (epoch : BitVec w) : SharedProgram w frameSize Bool := do
  if (← claimedRxIsCurrent epoch) then return true
  releaseRx
  return false

def restoreRxAfterTxContention (epoch : BitVec w) : SharedProgram w frameSize Unit := do
  if (← claimedRxIsCurrent epoch) then
    storeState .rx .ready
    wake .rx
  else releaseRx

def reserveClaimedReceive (epoch : BitVec w) : SharedProgram w frameSize Bool := do
  if ¬ (← confirmClaimedRx epoch) then return false
  if (← reserveTx epoch) then return true
  restoreRxAfterTxContention epoch
  return false

def reserveReceive (epoch : BitVec w) : SharedProgram w frameSize Bool := do
  if ¬ (← claimReadyRx epoch) then return false
  reserveClaimedReceive epoch

/-! ## The network stack's side -/

def tryReceive : SharedProgram w frameSize (Option (RxToken w × TxToken w)) := do
  let some epoch ← activeEpoch | return none
  if ¬ (← reserveReceive epoch) then return none
  return some ({ epoch }, { epoch })

def tryTransmit : SharedProgram w frameSize (Option (TxToken w)) := do
  let some epoch ← activeEpoch | return none
  if ¬ (← reserveTx epoch) then return none
  return some { epoch }

/-- A poll that is watched leaves a mark before it registers its waker. -/
def watch (watcher : Watcher) (watched : Bool) : SharedProgram w frameSize Unit := do
  if watched then note (.watches watcher)

def receive (task : TaskId) (watched : Bool) :
    SharedProgram w frameSize (Option (RxToken w × TxToken w)) := do
  match ← tryReceive with
  | some tokens => return some tokens
  | none =>
      watch ⟨task, .receive⟩ watched
      register .link task
      register .rx task
      register .txSpace task
      tryReceive

def transmit (task : TaskId) (watched : Bool) :
    SharedProgram w frameSize (Option (TxToken w)) := do
  match ← tryTransmit with
  | some token => return some token
  | none =>
      watch ⟨task, .transmit⟩ watched
      register .link task
      register .txSpace task
      tryTransmit

/-- The task is woken at once where the state changed during the registration. -/
def linkState (task : TaskId) (watched : Bool) : SharedProgram w frameSize Bool := do
  let first ← loadLinkUp
  watch ⟨task, .linkState⟩ watched
  register .link task
  let second ← loadLinkUp
  if first ≠ second then wakeByRef task
  return second

/-- What `RxToken::consume`, `TxToken::consume` and `TxLease::is_current` check. -/
def isCurrent (slot : SlotName) (epoch : BitVec w) : SharedProgram w frameSize Bool := do
  if ¬ (← epochIsActive epoch) then return false
  return (← loadEpoch slot) = epoch

/-- The length that the owner of a slot may use: none when its epoch is over. -/
def currentLen (slot : SlotName) (current : Bool) : SharedProgram w frameSize Nat := do
  if ¬ current then return 0
  return min (← loadLen slot) frameSize

def consumeRx (token : RxToken w) (f : SliceEdit) : SharedProgram w frameSize Unit := do
  let valid ← isCurrent .rx token.epoch
  let len ← currentLen .rx valid
  let slice ← lend .rx len f
  if valid then note (.received token.epoch slice)
  releaseRx

def dropRx : SharedProgram w frameSize Unit := releaseRx

/-- Makes the frame in the transmit slot ready. -/
def publishTx (epoch : BitVec w) (frame : Bytes) (len : Nat) : SharedProgram w frameSize Unit := do
  storeLen .tx len
  note (.written epoch frame)
  storeState .tx .ready
  wake .txReady

/-- The assertion fails on a length beyond the slot; the token is dropped then. -/
def consumeTx (token : TxToken w) (len : Nat) (f : SliceEdit) :
    SharedProgram w frameSize Unit := do
  if len ≤ frameSize then
    let slice ← lend .tx len f
    if (← isCurrent .tx token.epoch) then publishTx token.epoch (f slice).1 len
    else releaseTx
  else releaseTx

def dropTx : SharedProgram w frameSize Unit := releaseTx

/-! ## The driver's side -/

def claimRxProducer : SharedProgram w frameSize Bool := compareExchange .rx .free .producer

def discardReadyRxEpoch (epoch : BitVec w) : SharedProgram w frameSize Unit := do
  if (← loadEpoch .rx) ≠ epoch then return
  discardReadyRx

/-- Makes a received frame ready. -/
def publishRx (epoch : BitVec w) (frame : Bytes) (fits : frame.length ≤ frameSize) :
    SharedProgram w frameSize Unit := do
  copyIn .rx frame fits
  storeEpoch .rx epoch
  storeLen .rx frame.length
  note (.pushed epoch frame)
  storeState .rx .ready

def copyAndPublishRx (epoch : BitVec w) (frame : Bytes) (fits : frame.length ≤ frameSize) :
    SharedProgram w frameSize (Except QueueError Unit) := do
  if ¬ (← epochIsActive epoch) then
    releaseRx
    return .error .linkDown
  publishRx epoch frame fits
  if ¬ (← epochIsActive epoch) then
    discardReadyRxEpoch epoch
    return .error .linkDown
  wake .rx
  return .ok ()

def pushRx (frame : Bytes) : SharedProgram w frameSize (Except QueueError Unit) := do
  if fits : frame.length ≤ frameSize then
    let some epoch ← activeEpoch | return .error .linkDown
    if ¬ (← claimRxProducer) then return .error .rxBusy
    copyAndPublishRx epoch frame fits
  else return .error .frameTooLarge

def discardStaleTx (epoch : BitVec w) : SharedProgram w frameSize Bool := do
  if ¬ (← readyUnderOther .tx epoch) then return false
  discardReadyTx
  return true

def claimReadyTx : SharedProgram w frameSize Bool := compareExchange .tx .ready .producer

def claimedTxIsCurrent (epoch : BitVec w) : SharedProgram w frameSize Bool :=
  claimedIsCurrent .tx epoch

def takeTx : SharedProgram w frameSize (Option (TxLease w)) := do
  let some epoch ← activeEpoch | return none
  if (← discardStaleTx epoch) then return none
  if ¬ (← claimReadyTx) then return none
  if ¬ (← claimedTxIsCurrent epoch) then
    releaseTx
    return none
  return some { epoch }

def txIsReady : SharedProgram w frameSize Bool := do
  let some epoch ← activeEpoch | return false
  if (← loadState .tx) ≠ .ready then return false
  return (← loadEpoch .tx) = epoch

def pollTxReady (task : TaskId) (watched : Bool) : SharedProgram w frameSize Bool := do
  if (← txIsReady) then return true
  watch ⟨task, .txReady⟩ watched
  register .txReady task
  txIsReady

/-- A frame that is ready already wakes the task at once. -/
def registerTxWaker (task : TaskId) (watched : Bool) : SharedProgram w frameSize Unit := do
  watch ⟨task, .txReady⟩ watched
  register .txReady task
  if (← txIsReady) then wakeByRef task

def asSlice (lease : TxLease w) : SharedProgram w frameSize Bytes := do
  let current ← isCurrent .tx lease.epoch
  let len ← currentLen .tx current
  let slice ← readBuffer .tx len
  if current then note (.read lease.epoch slice)
  return slice

/-- Gives the frame of a lease back to the queue. -/
def returnTx : SharedProgram w frameSize Unit := do
  storeState .tx .ready
  wake .txReady

def report (lease : TxLease w) (outcome : TxOutcome) : SharedProgram w frameSize Unit := do
  if outcome = .wouldBlock then
    if (← isCurrent .tx lease.epoch) then returnTx
    else releaseTx
  else releaseTx

def dropLease (lease : TxLease w) : SharedProgram w frameSize Unit := do
  if (← isCurrent .tx lease.epoch) then returnTx
  else releaseTx

end SharedQueue

end Nrf7002
