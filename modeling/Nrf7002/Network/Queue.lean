import Nrf7002.Foundation.Bytes

/-! # The network queue

Two slots between the network stack and the driver: one for received frames, one for
frames to send.  Each slot has one owner.  A frame carries the epoch of the link it was
queued under, and counts only while that epoch is active.  Every operation is taken as
one atomic step; the wakers change no state.  A `usize` has `w` bits. -/

set_option autoImplicit false

namespace Nrf7002
open Foundation

/-- The owner of a slot. -/
inductive SlotState where
  | free
  | ready
  | client
  | producer
  deriving DecidableEq, Repr

inductive QueueError where
  | linkDown
  | rxBusy
  | frameTooLarge
  deriving DecidableEq, Repr

inductive TxOutcome where
  | submitted
  | wouldBlock
  | dropped
  deriving DecidableEq, Repr

/-- One slot with the buffer it guards. -/
structure Slot (w frameSize : Nat) where
  state : SlotState
  len : Nat
  epoch : BitVec w
  bytes : Octets frameSize
  deriving DecidableEq

structure NetworkState (w frameSize : Nat) where
  linkUp : Bool
  linkEpoch : BitVec w
  rx : Slot w frameSize
  tx : Slot w frameSize
  deriving DecidableEq

/-- The tokens and the lease hold the epoch of the link they were given under. -/
structure RxToken (w : Nat) where
  epoch : BitVec w
  deriving DecidableEq

structure TxToken (w : Nat) where
  epoch : BitVec w
  deriving DecidableEq

structure TxLease (w : Nat) where
  epoch : BitVec w
  deriving DecidableEq

/-- What a closure does to the slice that a token lends it. -/
def SliceEdit : Type := (slice : Bytes) → Octets slice.length

namespace Slot
variable {w frameSize : Nat}

def new : Slot w frameSize := { state := .free, len := 0, epoch := 0, bytes := zeroOctets frameSize }

def compareExchange (slot : Slot w frameSize) (current next : SlotState) :
    Option (Slot w frameSize) :=
  if slot.state = current then some { slot with state := next } else none

/-- The functions `release_rx` and `release_tx`. -/
def release (slot : Slot w frameSize) : Slot w frameSize := { slot with len := 0, state := .free }

/-- The functions `discard_ready_rx` and `discard_ready_tx`. -/
def discardReady (slot : Slot w frameSize) : Slot w frameSize :=
  match slot.compareExchange .ready .producer with
  | some claimed => claimed.release
  | none => slot

/-- The frame in the slot. -/
def frame (slot : Slot w frameSize) : Bytes := slot.bytes.1.take (min slot.len frameSize)

/-- Lends the first `len` bytes to a closure. -/
def edit (len : Nat) (f : SliceEdit) (slot : Slot w frameSize) : Slot w frameSize :=
  { slot with
    bytes := ⟨splice slot.bytes.1 0 (f (slot.bytes.1.take len)).1, by
      rw [length_splice, slot.bytes.2]
      rw [Nat.zero_add, (f (slot.bytes.1.take len)).2]
      exact List.length_take_le' len slot.bytes.1⟩ }

end Slot

namespace NetworkState
variable {w frameSize : Nat}

def new : NetworkState w frameSize :=
  { linkUp := false, linkEpoch := 0, rx := .new, tx := .new }

/-! ## The link -/

/-- Tries to read an epoch that does not change while the link is up. -/
def activeEpochIn (state : NetworkState w frameSize) : Nat → Option (BitVec w)
  | 0 => none
  | tries + 1 =>
      let first := state.linkEpoch
      if ¬ state.linkUp then none
      else
        let second := state.linkEpoch
        if first = second then some first else state.activeEpochIn tries

def activeEpoch (state : NetworkState w frameSize) : Option (BitVec w) := state.activeEpochIn 3

def epochIsActive (state : NetworkState w frameSize) (epoch : BitVec w) : Bool :=
  state.linkUp && state.linkEpoch = epoch

def setAuthorizedLink (up : Bool) (state : NetworkState w frameSize) : NetworkState w frameSize :=
  if state.linkUp = up then state
  else
    { linkUp := up
      linkEpoch := state.linkEpoch + 1
      rx := state.rx.discardReady
      tx := state.tx.discardReady }

def releaseRx (state : NetworkState w frameSize) : NetworkState w frameSize :=
  { state with rx := state.rx.release }

def releaseTx (state : NetworkState w frameSize) : NetworkState w frameSize :=
  { state with tx := state.tx.release }

/-! ## Reservations -/

def confirmReservedTx (epoch : BitVec w) (state : NetworkState w frameSize) :
    Bool × NetworkState w frameSize :=
  if state.epochIsActive epoch then (true, state) else (false, state.releaseTx)

def reserveTx (epoch : BitVec w) (state : NetworkState w frameSize) :
    Bool × NetworkState w frameSize :=
  if ¬ state.epochIsActive epoch then (false, state)
  else
    match state.tx.compareExchange .free .client with
    | none => (false, state)
    | some tx => confirmReservedTx epoch { state with tx := { tx with epoch } }

def claimedRxIsCurrent (state : NetworkState w frameSize) (epoch : BitVec w) : Bool :=
  state.rx.epoch = epoch && state.epochIsActive epoch

def claimReadyRx (epoch : BitVec w) (state : NetworkState w frameSize) :
    Bool × NetworkState w frameSize :=
  if ¬ state.epochIsActive epoch then (false, state)
  else if state.rx.state = .ready ∧ state.rx.epoch ≠ epoch then
    (false, { state with rx := state.rx.discardReady })
  else
    match state.rx.compareExchange .ready .client with
    | none => (false, state)
    | some rx => (true, { state with rx })

def confirmClaimedRx (epoch : BitVec w) (state : NetworkState w frameSize) :
    Bool × NetworkState w frameSize :=
  if state.claimedRxIsCurrent epoch then (true, state) else (false, state.releaseRx)

def restoreRxAfterTxContention (epoch : BitVec w) (state : NetworkState w frameSize) :
    NetworkState w frameSize :=
  if state.claimedRxIsCurrent epoch then { state with rx := { state.rx with state := .ready } }
  else state.releaseRx

def reserveClaimedReceive (epoch : BitVec w) (state : NetworkState w frameSize) :
    Bool × NetworkState w frameSize :=
  match confirmClaimedRx epoch state with
  | (false, state) => (false, state)
  | (true, state) =>
      match reserveTx epoch state with
      | (true, state) => (true, state)
      | (false, state) => (false, state.restoreRxAfterTxContention epoch)

def reserveReceive (epoch : BitVec w) (state : NetworkState w frameSize) :
    Bool × NetworkState w frameSize :=
  match claimReadyRx epoch state with
  | (false, state) => (false, state)
  | (true, state) => reserveClaimedReceive epoch state

/-! ## The network stack's side -/

def tryReceive (state : NetworkState w frameSize) :
    Option (RxToken w × TxToken w) × NetworkState w frameSize :=
  match state.activeEpoch with
  | none => (none, state)
  | some epoch =>
      match reserveReceive epoch state with
      | (false, state) => (none, state)
      | (true, state) => (some ({ epoch }, { epoch }), state)

/-- A second try follows the registration of the wakers. -/
def receive (state : NetworkState w frameSize) :
    Option (RxToken w × TxToken w) × NetworkState w frameSize :=
  match state.tryReceive with
  | (some tokens, state) => (some tokens, state)
  | (none, state) => state.tryReceive

def tryTransmit (state : NetworkState w frameSize) :
    Option (TxToken w) × NetworkState w frameSize :=
  match state.activeEpoch with
  | none => (none, state)
  | some epoch =>
      match reserveTx epoch state with
      | (false, state) => (none, state)
      | (true, state) => (some { epoch }, state)

def transmit (state : NetworkState w frameSize) : Option (TxToken w) × NetworkState w frameSize :=
  match state.tryTransmit with
  | (some token, state) => (some token, state)
  | (none, state) => state.tryTransmit

/-- The frame that the token lends: none when its epoch is over. -/
def lentRx (token : RxToken w) (state : NetworkState w frameSize) : Option Bytes :=
  if state.epochIsActive token.epoch && state.rx.epoch = token.epoch then some state.rx.frame
  else none

/-- `RxToken::consume`, with the frame that the closure saw. -/
def consumeRx (token : RxToken w) (f : SliceEdit) (state : NetworkState w frameSize) :
    Option Bytes × NetworkState w frameSize :=
  let len := match state.lentRx token with
    | some _ => min state.rx.len frameSize
    | none => 0
  (state.lentRx token, releaseRx { state with rx := state.rx.edit len f })

def dropRx (state : NetworkState w frameSize) : NetworkState w frameSize := state.releaseRx

/-- `TxToken::consume`, with the frame that was queued.  The assertion fails on a length
beyond the slot; the token is dropped then. -/
def consumeTx (token : TxToken w) (len : Nat) (f : SliceEdit) (state : NetworkState w frameSize) :
    Option Bytes × NetworkState w frameSize :=
  if len ≤ frameSize then
    let written : NetworkState w frameSize := { state with tx := state.tx.edit len f }
    if written.epochIsActive token.epoch && written.tx.epoch = token.epoch then
      let tx := { written.tx with len, state := .ready }
      (some tx.frame, { written with tx })
    else (none, written.releaseTx)
  else (none, state.releaseTx)

def dropTx (state : NetworkState w frameSize) : NetworkState w frameSize := state.releaseTx

/-! ## The driver's side -/

def discardReadyRxEpoch (epoch : BitVec w) (state : NetworkState w frameSize) :
    NetworkState w frameSize :=
  if state.rx.epoch ≠ epoch then state else { state with rx := state.rx.discardReady }

def claimRxProducer (state : NetworkState w frameSize) :
    Except QueueError (NetworkState w frameSize) :=
  match state.rx.compareExchange .free .producer with
  | some rx => .ok { state with rx }
  | none => .error .rxBusy

def copyAndPublishRx (epoch : BitVec w) (frame : Bytes) (fits : frame.length ≤ frameSize)
    (state : NetworkState w frameSize) : Except QueueError Unit × NetworkState w frameSize :=
  if ¬ state.epochIsActive epoch then (.error .linkDown, state.releaseRx)
  else
    let bytes : Octets frameSize := ⟨splice state.rx.bytes.1 0 frame, by
      rw [length_splice (by rw [state.rx.bytes.2]; omega), state.rx.bytes.2]⟩
    let state : NetworkState w frameSize :=
      { state with rx := { state := .ready, len := frame.length, epoch, bytes } }
    if ¬ state.epochIsActive epoch then (.error .linkDown, state.discardReadyRxEpoch epoch)
    else (.ok (), state)

def pushRx (frame : Bytes) (state : NetworkState w frameSize) :
    Except QueueError Unit × NetworkState w frameSize :=
  if fits : frame.length ≤ frameSize then
    match state.activeEpoch with
    | none => (.error .linkDown, state)
    | some epoch =>
        match state.claimRxProducer with
        | .error failure => (.error failure, state)
        | .ok state => state.copyAndPublishRx epoch frame fits
  else (.error .frameTooLarge, state)

def discardStaleTx (epoch : BitVec w) (state : NetworkState w frameSize) :
    Bool × NetworkState w frameSize :=
  if state.tx.state ≠ .ready ∨ state.tx.epoch = epoch then (false, state)
  else (true, { state with tx := state.tx.discardReady })

def claimReadyTx (state : NetworkState w frameSize) : Option (NetworkState w frameSize) :=
  (state.tx.compareExchange .ready .producer).map fun tx => { state with tx }

def claimedTxIsCurrent (state : NetworkState w frameSize) (epoch : BitVec w) : Bool :=
  state.tx.epoch = epoch && state.epochIsActive epoch

def takeTx (state : NetworkState w frameSize) : Option (TxLease w) × NetworkState w frameSize :=
  match state.activeEpoch with
  | none => (none, state)
  | some epoch =>
      match state.discardStaleTx epoch with
      | (true, state) => (none, state)
      | (false, state) =>
          match state.claimReadyTx with
          | none => (none, state)
          | some state =>
              if ¬ state.claimedTxIsCurrent epoch then (none, state.releaseTx)
              else (some { epoch }, state)

/-- `TxLease::is_current`. -/
def leaseIsCurrent (lease : TxLease w) (state : NetworkState w frameSize) : Bool :=
  state.epochIsActive lease.epoch && state.tx.epoch = lease.epoch

/-- `TxLease::as_slice`. -/
def leaseSlice (lease : TxLease w) (state : NetworkState w frameSize) : Bytes :=
  if state.leaseIsCurrent lease then state.tx.frame else []

/-- Gives the frame of a current lease back to the queue. -/
def returnTx (state : NetworkState w frameSize) : NetworkState w frameSize :=
  { state with tx := { state.tx with state := .ready } }

/-- `TxLease::report`. -/
def report (lease : TxLease w) (outcome : TxOutcome) (state : NetworkState w frameSize) :
    NetworkState w frameSize :=
  if outcome = .wouldBlock && state.leaseIsCurrent lease then state.returnTx else state.releaseTx

def dropLease (lease : TxLease w) (state : NetworkState w frameSize) : NetworkState w frameSize :=
  if state.leaseIsCurrent lease then state.returnTx else state.releaseTx

end NetworkState

end Nrf7002
