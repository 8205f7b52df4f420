import Nrf7002.Network.Shared
import Mathlib.Algebra.Group.Pi.Lemmas
import Mathlib.Algebra.Group.Prod

/-! # Shares of the network queue

What a thread may hold while it runs: the permit of a slot, with what the slot contains; a
wake-up that it owes; and the watch of a task that polls.  The invariant ties the queue to
the sum of all shares. -/

set_option autoImplicit false

namespace Nrf7002
open Foundation

/-- The content of a slot in the hands of its owner, with the frame that waits in it. -/
structure Permit (w frameSize : Nat) where
  slot : Slot w frameSize
  waiting : Option (BitVec w × Bytes)

/-- A wake-up that a thread will still make.  With an epoch it is about a frame of that
epoch in the receive slot only. -/
structure Owed (w : Nat) where
  waker : WakerName
  epoch : Option (BitVec w)

/-- What a poll knows since it watches: where its task is registered, `missed` when what it
polls for was not there, with the link state it saw, and an epoch that the link had. -/
structure Watch (w : Nat) where
  registered : List WakerName
  missed : Option Bool
  epoch : Option (BitVec w)

abbrev Share (w frameSize : Nat) : Type :=
  (SlotName → Multiset (Permit w frameSize)) × Multiset (Owed w) × (Watcher → Multiset (Watch w))

namespace Share
variable {w frameSize : Nat}

def permits (share : Share w frameSize) : SlotName → Multiset (Permit w frameSize) := share.1
def owed (share : Share w frameSize) : Multiset (Owed w) := share.2.1
def watches (share : Share w frameSize) : Watcher → Multiset (Watch w) := share.2.2

def own (name : SlotName) (permit : Permit w frameSize) : Share w frameSize :=
  (Pi.single name {permit}, 0, 0)

def owes (waker : WakerName) (epoch : Option (BitVec w)) : Share w frameSize :=
  (0, {⟨waker, epoch⟩}, 0)

def watching (watcher : Watcher) (watch : Watch w) : Share w frameSize :=
  (0, 0, Pi.single watcher {watch})

variable (left right : Share w frameSize) (name other : SlotName) (permit : Permit w frameSize)
  (waker : WakerName) (epoch : Option (BitVec w)) (watcher : Watcher) (watch : Watch w)

@[simp] theorem permits_zero : permits (0 : Share w frameSize) = 0 := rfl
@[simp] theorem owed_zero : owed (0 : Share w frameSize) = 0 := rfl
@[simp] theorem watches_zero : watches (0 : Share w frameSize) = 0 := rfl
@[simp] theorem permits_add : permits (left + right) = permits left + permits right := rfl
@[simp] theorem owed_add : owed (left + right) = owed left + owed right := rfl
@[simp] theorem watches_add : watches (left + right) = watches left + watches right := rfl
@[simp] theorem permits_own : permits (own name permit) = Pi.single name {permit} := rfl
@[simp] theorem owed_own : owed (own name permit) = 0 := rfl
@[simp] theorem watches_own : watches (own name permit) = 0 := rfl
@[simp] theorem permits_owes : permits (owes waker epoch : Share w frameSize) = 0 := rfl
@[simp] theorem owed_owes : owed (owes waker epoch : Share w frameSize) = {⟨waker, epoch⟩} := rfl
@[simp] theorem watches_owes : watches (owes waker epoch : Share w frameSize) = 0 := rfl
@[simp] theorem permits_watching : permits (watching watcher watch : Share w frameSize) = 0 := rfl
@[simp] theorem owed_watching : owed (watching watcher watch : Share w frameSize) = 0 := rfl
@[simp] theorem watches_watching :
    watches (watching watcher watch : Share w frameSize) = Pi.single watcher {watch} := rfl

end Share

/-! ## The history -/

namespace SharedEvent
variable {w : Nat}

def opens : SlotName → SharedEvent w → Option (BitVec w × Bytes)
  | .rx, .pushed epoch frame => some (epoch, frame)
  | .tx, .written epoch frame => some (epoch, frame)
  | _, _ => none

def closes : SlotName → SharedEvent w → Bool
  | .rx, .received _ _ => true
  | name, .released slot => slot = name
  | _, _ => false

/-- Where the task of a poll registers. -/
def wakersOf : Poll → WakerName → Bool
  | .receive, .rx => true
  | .receive, .txSpace => true
  | .receive, .link => true
  | .transmit, .txSpace => true
  | .transmit, .link => true
  | .txReady, .txReady => true
  | .linkState, .link => true
  | _, _ => false

def rings (watcher : Watcher) : SharedEvent w → Option Unit
  | .woken task => if task = watcher.task then some () else none
  | _ => none

def displaces (watcher : Watcher) : SharedEvent w → Option Unit
  | .registered waker task =>
      if task ≠ watcher.task ∧ wakersOf watcher.poll waker = true then some () else none
  | _ => none

def begins (watcher : Watcher) : SharedEvent w → Bool
  | .watches other => other = watcher
  | _ => false

end SharedEvent

section History
variable {w : Nat}

/-- The frame that waits in a slot, with the epoch it came under. -/
def waitingIn (name : SlotName) (trace : List (SharedEvent w)) : Option (BitVec w × Bytes) :=
  pending (SharedEvent.opens name) (SharedEvent.closes name) trace

/-- The task was woken since its poll last began to watch. -/
def rung (watcher : Watcher) (trace : List (SharedEvent w)) : Bool :=
  (pending (SharedEvent.rings watcher) (SharedEvent.begins watcher) trace).isSome

/-- Another task registered at a waker of the poll since the poll last began to watch. -/
def displaced (watcher : Watcher) (trace : List (SharedEvent w)) : Bool :=
  (pending (SharedEvent.displaces watcher) (SharedEvent.begins watcher) trace).isSome

/-- Nothing more is promised to the task. -/
def Called (watcher : Watcher) (trace : List (SharedEvent w)) : Prop :=
  rung watcher trace = true ∨ displaced watcher trace = true

/-- A frame enters an empty slot, and leaves it as it came, under its epoch; it is received
once. -/
def OnceShared (before : List (SharedEvent w)) : SharedEvent w → Prop
  | .pushed _ _ => waitingIn .rx before = none
  | .received epoch frame => waitingIn .rx before = some (epoch, frame)
  | .written _ _ => waitingIn .tx before = none
  | .read epoch frame => waitingIn .tx before = some (epoch, frame)
  | _ => True

end History

/-! ## The invariant -/

section Holdings
variable {w frameSize : Nat}

/-- A slot that is free or ready has no owner; any other slot has one, and the owner knows
what is in it. -/
def SlotHeld (slot : Slot w frameSize) (waiting : Option (BitVec w × Bytes))
    (permits : Multiset (Permit w frameSize)) : Prop :=
  match slot.state with
  | .free => permits = 0 ∧ waiting = none
  | .ready => permits = 0 ∧ waiting = some (slot.epoch, slot.frame)
  | .client => permits = {⟨slot, waiting⟩}
  | .producer => permits = {⟨slot, waiting⟩}

/-- The task is called, or will be woken. -/
def Loud (watcher : Watcher) (trace : List (SharedEvent w)) (owed : Multiset (Owed w)) : Prop :=
  Called watcher trace ∨
    ∃ waker, SharedEvent.wakersOf watcher.poll waker = true ∧ ⟨waker, none⟩ ∈ owed

/-- The task that receives will be woken for the frame in the receive slot. -/
def Announced (poll : Poll) (epoch : BitVec w) (owed : Multiset (Owed w)) : Prop :=
  poll = .receive ∧ ⟨.rx, some epoch⟩ ∈ owed

def Watch.Knows (watch : Watch w) : Prop := watch.missed ≠ none ∨ watch.epoch ≠ none

def OwnerTouches (access : QueueAccess w frameSize) (share : Share w frameSize) : Prop :=
  ∀ name, access.touches name = true → 0 < (share.permits name).card

end Holdings

section Invariant
variable [AtomicWaker] {w frameSize : Nat}

/-- What a task that polls is waiting for is there.  `seen` is the link state that a poll
for the link saw. -/
def Available (poll : Poll) (seen : Bool) (memory : SharedMemory w frameSize) : Prop :=
  match poll with
  | .receive => memory.linkUp = true ∧ (memory.slots .rx).state = .ready ∧
      (memory.slots .rx).epoch = memory.linkEpoch ∧ (memory.slots .tx).state = .free
  | .transmit => memory.linkUp = true ∧ (memory.slots .tx).state = .free
  | .txReady => memory.linkUp = true ∧ (memory.slots .tx).state = .ready ∧
      (memory.slots .tx).epoch = memory.linkEpoch
  | .linkState => memory.linkUp ≠ seen

/-- The next wake-up at the waker is for the task. -/
def Registered (waker : WakerName) (task : TaskId) (memory : SharedMemory w frameSize) : Prop :=
  ∃ cell, memory.wakers waker = AtomicWaker.register cell task

/-- What a watch knows holds unless its task is called.  A poll learns only after its task
is registered at all its wakers. -/
structure WatchHolds (watcher : Watcher) (watch : Watch w) (memory : SharedMemory w frameSize)
    (owed : Multiset (Owed w)) : Prop where
  registered : ∀ waker, SharedEvent.wakersOf watcher.poll waker = true →
    waker ∈ watch.registered ∨ watch.Knows →
      Registered waker watcher.task memory ∨ Called watcher memory.trace
  missed : ∀ seen, watch.missed = some seen → Available watcher.poll seen memory →
    Loud watcher memory.trace owed ∨ Announced watcher.poll (memory.slots .rx).epoch owed
  epoch : ∀ epoch, watch.epoch = some epoch → memory.linkEpoch = epoch ∨
    Loud watcher memory.trace owed

structure Shared (memory : SharedMemory w frameSize) (total : Share w frameSize) : Prop where
  slots : ∀ name, SlotHeld (memory.slots name) (waitingIn name memory.trace) (total.permits name)
  once : Justified OnceShared memory.trace
  watches : ∀ watcher, ∃ watch, total.watches watcher = {watch} ∧
    WatchHolds watcher watch memory total.owed

def queueSharing (w frameSize : Nat) :
    Sharing (SharedMemory w frameSize) (@QueueAccess.Answer w frameSize)
      (Share w frameSize) where
  apply := QueueAccess.apply
  Invariant := Shared
  Needs := OwnerTouches
  needs_add access share frame needs name touches := by
    rw [Share.permits_add, Pi.add_apply, Multiset.card_add]
    exact Nat.add_pos_left (needs name touches) _

end Invariant

end Nrf7002
