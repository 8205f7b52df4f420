import Nrf7002.Network.Operations

/-! # Interleavings of the network queue

Any number of operations run at once, each one access at a time, in any order.  A token or
a lease is used by one operation at a time, and once; `as_slice` gives its lease back. -/

set_option autoImplicit false

namespace Nrf7002
open Foundation

/-- What an operation hands to its caller: tokens, a lease, or the end of a watched poll
with the link state it saw where it found nothing. -/
structure Outcome (w : Nat) where
  rx : Option (RxToken w)
  tx : Option (TxToken w)
  lease : Option (TxLease w)
  watcher : Option Watcher
  missed : Option Bool

inductive SharedCall where
  | setAuthorizedLink (up : Bool)
  | pushRx (frame : Bytes)
  | takeTx
  | receive (task : TaskId)
  | transmit (task : TaskId)
  | linkState (task : TaskId)
  | pollTxReady (task : TaskId)
  | registerTxWaker (task : TaskId)

namespace SharedCall
variable {w frameSize : Nat}

def watcher : SharedCall → Option Watcher
  | .receive task => some ⟨task, .receive⟩
  | .transmit task => some ⟨task, .transmit⟩
  | .linkState task => some ⟨task, .linkState⟩
  | .pollTxReady task => some ⟨task, .txReady⟩
  | .registerTxWaker task => some ⟨task, .txReady⟩
  | _ => none

end SharedCall

namespace Outcome
variable {w : Nat}

def nothing : Outcome w :=
  { rx := none, tx := none, lease := none, watcher := none, missed := none }

/-- The end of a poll that found nothing. -/
def ofMissed (watcher : Watcher) (watched seen : Bool) : Outcome w :=
  if watched then { nothing with watcher := some watcher, missed := some seen } else nothing

def ofFound (watcher : Watcher) (watched : Bool) : Outcome w :=
  if watched then { nothing with watcher := some watcher } else nothing

end Outcome

namespace SharedCall
variable {w frameSize : Nat}

def program (watched : Bool) : SharedCall → SharedProgram w frameSize (Outcome w)
  | .setAuthorizedLink up => do
      SharedQueue.setAuthorizedLink up
      return .nothing
  | .pushRx frame => do
      let _ ← SharedQueue.pushRx frame
      return .nothing
  | .takeTx => do
      let lease ← SharedQueue.takeTx
      return { Outcome.nothing with lease }
  | .receive task => do
      match ← SharedQueue.receive task watched with
      | some tokens =>
          return { Outcome.ofFound ⟨task, .receive⟩ watched with
            rx := some tokens.1, tx := some tokens.2 }
      | none => return .ofMissed ⟨task, .receive⟩ watched false
  | .transmit task => do
      match ← SharedQueue.transmit task watched with
      | some token => return { Outcome.ofFound ⟨task, .transmit⟩ watched with tx := some token }
      | none => return .ofMissed ⟨task, .transmit⟩ watched false
  | .linkState task => do
      let seen ← SharedQueue.linkState task watched
      return .ofMissed ⟨task, .linkState⟩ watched seen
  | .pollTxReady task => do
      if (← SharedQueue.pollTxReady task watched) then return .ofFound ⟨task, .txReady⟩ watched
      return .ofMissed ⟨task, .txReady⟩ watched false
  | .registerTxWaker task => do
      SharedQueue.registerTxWaker task watched
      return .ofMissed ⟨task, .txReady⟩ watched false

end SharedCall

structure SharedSystem [AtomicWaker] (w frameSize : Nat) where
  memory : SharedMemory w frameSize
  threads : List (SharedProgram w frameSize (Outcome w))
  rxTokens : List (RxToken w)
  txTokens : List (TxToken w)
  leases : List (TxLease w)
  polling : Watcher → Bool
  waits : Watcher → Option Bool

inductive SharedMove where
  | call (operation : SharedCall)
  | advance (index : Nat)
  | consumeRx (index : Nat) (f : SliceEdit)
  | dropRx (index : Nat)
  | consumeTx (index len : Nat) (f : SliceEdit)
  | dropTx (index : Nat)
  | asSlice (index : Nat)
  | report (index : Nat) (outcome : TxOutcome)
  | dropLease (index : Nat)

namespace SharedSystem
variable [AtomicWaker] {w frameSize : Nat}

def start : SharedSystem w frameSize :=
  { memory := .new, threads := [], rxTokens := [], txTokens := [], leases := [],
    polling := fun _ => false, waits := fun _ => none }

def begin (system : SharedSystem w frameSize)
    (program : SharedProgram w frameSize (Outcome w)) : SharedSystem w frameSize :=
  { system with threads := system.threads ++ [program] }

/-- A poll is watched unless the task has one of its kind running. -/
def call (system : SharedSystem w frameSize) (operation : SharedCall) :
    SharedSystem w frameSize :=
  match operation.watcher with
  | some watcher =>
      if system.polling watcher then system.begin (operation.program false)
      else
        { system.begin (operation.program true) with
          polling := Function.update system.polling watcher true
          waits := Function.update system.waits watcher none }
  | none => system.begin (operation.program false)

def collect (system : SharedSystem w frameSize) (outcome : Outcome w) :
    SharedSystem w frameSize :=
  let tokens := { system with
    rxTokens := system.rxTokens ++ outcome.rx.toList
    txTokens := system.txTokens ++ outcome.tx.toList
    leases := system.leases ++ outcome.lease.toList }
  match outcome.watcher with
  | some watcher =>
      { tokens with
        polling := Function.update system.polling watcher false
        waits := Function.update system.waits watcher outcome.missed }
  | none => tokens

/-- The thread takes its next access, or hands over its outcome. -/
def advance (system : SharedSystem w frameSize) (index : Nat) : SharedSystem w frameSize :=
  match system.threads[index]? with
  | none => system
  | some (.done outcome) =>
      collect { system with threads := system.threads.eraseIdx index } outcome
  | some thread =>
      let (thread, memory) := thread.advance QueueAccess.apply system.memory
      { system with memory, threads := system.threads.set index thread }

/-- A thread that ends with nothing. -/
def quietly (program : SharedProgram w frameSize Unit) : SharedProgram w frameSize (Outcome w) := do
  program
  return .nothing

/-- A move on a token that is not outstanding does nothing. -/
def step (system : SharedSystem w frameSize) : SharedMove → SharedSystem w frameSize
  | .call operation => system.call operation
  | .advance index => system.advance index
  | .consumeRx index f =>
      match system.rxTokens[index]? with
      | none => system
      | some token =>
          { system.begin (quietly (SharedQueue.consumeRx token f)) with
            rxTokens := system.rxTokens.eraseIdx index }
  | .dropRx index =>
      match system.rxTokens[index]? with
      | none => system
      | some _ =>
          { system.begin (quietly SharedQueue.dropRx) with
            rxTokens := system.rxTokens.eraseIdx index }
  | .consumeTx index len f =>
      match system.txTokens[index]? with
      | none => system
      | some token =>
          { system.begin (quietly (SharedQueue.consumeTx token len f)) with
            txTokens := system.txTokens.eraseIdx index }
  | .dropTx index =>
      match system.txTokens[index]? with
      | none => system
      | some _ =>
          { system.begin (quietly SharedQueue.dropTx) with
            txTokens := system.txTokens.eraseIdx index }
  | .asSlice index =>
      match system.leases[index]? with
      | none => system
      | some lease =>
          { system.begin (do
              let _ ← SharedQueue.asSlice lease
              return { Outcome.nothing with lease := some lease }) with
            leases := system.leases.eraseIdx index }
  | .report index outcome =>
      match system.leases[index]? with
      | none => system
      | some lease =>
          { system.begin (quietly (SharedQueue.report lease outcome)) with
            leases := system.leases.eraseIdx index }
  | .dropLease index =>
      match system.leases[index]? with
      | none => system
      | some lease =>
          { system.begin (quietly (SharedQueue.dropLease lease)) with
            leases := system.leases.eraseIdx index }

/-- The tokens and leases outstanding for a slot. -/
def outstanding (system : SharedSystem w frameSize) : SlotName → Nat
  | .rx => system.rxTokens.length
  | .tx => system.txTokens.length + system.leases.length

/-- The threads whose next access uses the buffer of a slot. -/
def touching (system : SharedSystem w frameSize) (name : SlotName) : Nat :=
  system.threads.countP fun thread => thread.next.any (QueueAccess.touches name)

end SharedSystem

end Nrf7002
