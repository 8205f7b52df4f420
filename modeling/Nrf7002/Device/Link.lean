import Nrf7002.Device.Queues

/-! # Events on their way to the host

Firmware splits its events into fragments and queues them in order; the host reassembles
them with `Device.tryReadEvent`.  The ledger is the account that an observer of the
event-busy queue keeps: which events were taken up and with which buffer, and which of
them the caller gave up.  It never looks at the device. -/

set_option autoImplicit false

namespace Nrf7002
open Foundation

/-- An event of firmware; it has a header. -/
structure FirmwareEvent where
  bytes : Bytes
  header : hostMessageHeaderLen ≤ bytes.length

/-- A fragment as it is queued; firmware wants its buffer back or not. -/
structure Fragment where
  bytes : Bytes
  resubmit : Bool
  deriving DecidableEq

namespace FirmwareEvent

def declared (event : FirmwareEvent) : Nat := (readU32 event.bytes 0).toNat

/-- The header tells the length, or too little for a header, and then the event is one
fragment. -/
def Sized (event : FirmwareEvent) (limit : Nat) : Prop :=
  event.declared = event.bytes.length ∨
    event.declared < hostMessageHeaderLen ∧ event.bytes.length ≤ limit

def resubmit (event : FirmwareEvent) : Bool := decide (readU32 event.bytes 4 ≠ 0)

def fragmentsFrom (event : FirmwareEvent) (limit copied : Nat) : List Fragment :=
  (chunks limit (event.bytes.drop copied)).map fun bytes => { bytes, resubmit := event.resubmit }

def fragments (event : FirmwareEvent) (limit : Nat) : List Fragment :=
  event.fragmentsFrom limit 0

/-- What a well-formed event says. -/
def message (event : FirmwareEvent) : Option HostMessage :=
  if event.declared = event.bytes.length then
    match HostMessageType.fromI32 (readI32 event.bytes 8) with
    | .ok messageType => some
        { resubmit := event.resubmit
          messageType
          payload := event.bytes.drop hostMessageHeaderLen }
    | .error _ => none
  else none

end FirmwareEvent

/-! ## The account of an observer -/

/-- An event that was taken up by a call with this buffer. -/
structure Reception where
  event : FirmwareEvent
  address : Nat
  capacity : Nat
  discarded : Bool

/-- The caller gave the event up, or its buffer was too small. -/
def Reception.refused (reception : Reception) : Bool :=
  reception.discarded || decide (reception.capacity < reception.event.bytes.length)

/-- Another buffer than the one that took the event up, or one that is too short. -/
def Reception.Unfit (reception : Reception) (address capacity : Nat) : Prop :=
  reception.address ≠ address ∨ capacity < reception.event.bytes.length

instance (reception : Reception) (address capacity : Nat) :
    Decidable (reception.Unfit address capacity) := inferInstanceAs (Decidable (_ ∨ _))

def Reception.offered (reception : Reception) (address capacity : Nat) : Reception :=
  if reception.Unfit address capacity then { reception with discarded := true } else reception

def Reception.message (reception : Reception) : Option HostMessage :=
  if reception.refused then none else reception.event.message

structure Ledger where
  done : List Reception
  current : Option (Reception × List Fragment)
  ahead : List (FirmwareEvent × List Fragment)

namespace Ledger

/-- The fragments that are still to be removed. -/
def remaining (ledger : Ledger) : List Fragment :=
  (match ledger.current with
    | some (_, rest) => rest
    | none => []) ++ ledger.ahead.flatMap Prod.snd

def events (ledger : Ledger) : List FirmwareEvent :=
  ledger.done.map Reception.event ++ ((ledger.current.map fun current => current.1.event).toList ++
    ledger.ahead.map Prod.fst)

/-- The reception goes on with the rest, or is complete. -/
def settle (ledger : Ledger) (reception : Reception) (rest : List Fragment) : Ledger :=
  if rest = [] then { ledger with done := ledger.done ++ [reception], current := none }
  else { ledger with current := some (reception, rest) }

/-- A fragment leaves the queue during a call with this buffer. -/
def removeFragment (address capacity : Nat) (ledger : Ledger) : Ledger :=
  match ledger.current, ledger.ahead with
  | some (reception, rest), _ => ledger.settle reception rest.tail
  | none, (event, fragments) :: ahead =>
      { ledger with ahead }.settle { event, address, capacity, discarded := false } fragments.tail
  | none, [] => ledger

def removeFragments (address capacity : Nat) : Nat → Ledger → Ledger
  | 0, ledger => ledger
  | count + 1, ledger => removeFragments address capacity count
      (ledger.removeFragment address capacity)

/-- The caller gives up the event that is partly read. -/
def discard (ledger : Ledger) : Ledger :=
  { ledger with
    current := ledger.current.map fun current => ({ current.1 with discarded := true }, current.2) }

def offer (address capacity : Nat) (ledger : Ledger) : Ledger :=
  { ledger with
    current := ledger.current.map fun current =>
      (current.1.offered address capacity, current.2) }

end Ledger

/-! ## The link -/

/-- The device on its hardware, the caller's memory, the account, the messages that were
returned, and what firmware produced, as events and as fragments. -/
@[ext]
structure EventLink where
  device : Device EventHardware
  host : ByteMemory
  ledger : Ledger
  messages : List HostMessage
  produced : List FirmwareEvent
  stream : List Fragment

/-- What firmware, the bus and the caller may do; `host` is the caller writing to its own
memory. -/
inductive EventMove where
  | produce (event : FirmwareEvent)
  | arrive (address : UInt32)
  | fails (faults : List (Option Bool))
  | host (memory : ByteMemory)
  | discardPendingEvent
  | setFragmentLimits (commandLen eventLen : Nat)
  | tryReadEvent (scratchAddress capacity : Nat)

def place (address : UInt32) : Nat :=
  match hostOffset .umac address with
  | .ok offset => offset.toNat
  | .error _ => 0

namespace EventLink

abbrev hardware (link : EventLink) : EventHardware := link.device.hardware

def limit (link : EventLink) : Nat := link.device.eventFragmentLen.1

def setHardware (link : EventLink) (hardware : EventHardware) : EventLink :=
  { link with device := { link.device with rpu := { bus := hardware } } }

def next (link : EventLink) : Option Fragment :=
  (link.ledger.remaining.drop link.hardware.busy.length).head?

def arrive (link : EventLink) (address : UInt32) : EventLink :=
  match link.next with
  | some fragment => link.setHardware
      { link.hardware with
        memory := link.hardware.memory.store (place address) fragment.bytes
        busy := link.hardware.busy ++ [address] }
  | none => link

def messageOf (result : Except (DeviceError Unit) (Option HostMessage)) : List HostMessage :=
  match result with
  | .ok (some message) => [message]
  | _ => []

/-- The link after a call that ended so: the observer sees its buffer and how many
fragments left the queue. -/
def ended (link : EventLink) (scratchAddress capacity : Nat)
    (result : Except (DeviceError Unit) (Option HostMessage))
    (last : Device EventHardware × Bytes) : EventLink :=
  { link with
    device := last.1
    host := link.host.store scratchAddress last.2
    ledger := (link.ledger.offer scratchAddress capacity).removeFragments scratchAddress capacity
      (last.1.hardware.removed.length - link.hardware.removed.length)
    messages := link.messages ++ messageOf result }

def called (link : EventLink) (scratchAddress capacity : Nat) : Device EventHardware × Bytes :=
  (link.device, link.host.fetch scratchAddress capacity)

def tryReadEvent (link : EventLink) (scratchAddress capacity : Nat) : EventLink :=
  link.ended scratchAddress capacity
    (resultOf (Device.tryReadEvent scratchAddress) (link.called scratchAddress capacity))
    (stateAfter (Device.tryReadEvent scratchAddress) (link.called scratchAddress capacity))

def step (link : EventLink) : EventMove → EventLink
  | .produce event =>
      { link with
        ledger := { link.ledger with
          ahead := link.ledger.ahead ++ [(event, event.fragments link.limit)] }
        produced := link.produced ++ [event]
        stream := link.stream ++ event.fragments link.limit }
  | .arrive address => link.arrive address
  | .fails faults => link.setHardware { link.hardware with faults }
  | .host memory => { link with host := memory }
  | .discardPendingEvent =>
      { link with
        device := link.device.discardPendingEvent.2
        ledger := link.ledger.discard }
  | .setFragmentLimits commandLen eventLen =>
      { link with
        device := (link.device.setFragmentLimits commandLen eventLen).getD link.device }
  | .tryReadEvent scratchAddress capacity => link.tryReadEvent scratchAddress capacity

/-- Firmware may put a fragment here: the host reaches it, and it is clear of the queue
register and of the fragments that are queued. -/
structure Free (link : EventLink) (address : UInt32) (fragment : Fragment) : Prop where
  known : address ≠ 0 ∧ address ≠ 0xaaaaaaaa
  aligned : address &&& 3 = 0
  within : WithinRegion .umac address fragment.bytes.length
  register : link.hardware.busyRegister.toNat < place address ∨
    place address + fragment.bytes.length ≤ link.hardware.busyRegister.toNat
  apart : ∀ entry ∈ link.hardware.busy.zip link.ledger.remaining,
    place address + fragment.bytes.length ≤ place entry.1 ∨
      place entry.1 + entry.2.bytes.length ≤ place address

/-- Firmware sizes its events and writes to free memory only, the caller leaves the buffer
of a partly read event alone, and fragment limits change between events. -/
def Allowed (link : EventLink) : EventMove → Prop
  | .produce event => event.Sized link.limit
  | .arrive address => ∀ fragment, link.next = some fragment → link.Free address fragment
  | .host memory => ∀ current, link.ledger.current = some current → ¬ current.1.refused →
      memory.fetch current.1.address current.1.event.bytes.length =
        link.host.fetch current.1.address current.1.event.bytes.length
  | .setFragmentLimits _ _ => link.ledger.remaining = []
  | _ => True

end EventLink

end Nrf7002
