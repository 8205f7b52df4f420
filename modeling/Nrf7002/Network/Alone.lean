import Nrf7002.Network.Run
import Nrf7002.Network.Shared

/-! # Operations that run alone

Where no other thread comes between, an operation taken access by access does to the queue
what the same operation does in one step. -/

set_option autoImplicit false

namespace Nrf7002
open Foundation

variable {w frameSize : Nat} {α β : Type}

def NetworkState.slot (state : NetworkState w frameSize) : SlotName → Slot w frameSize
  | .rx => state.rx
  | .tx => state.tx

def NetworkState.setSlot (state : NetworkState w frameSize) (name : SlotName)
    (slot : Slot w frameSize) : NetworkState w frameSize :=
  match name with
  | .rx => { state with rx := slot }
  | .tx => { state with tx := slot }

variable [AtomicWaker]

def SharedMemory.state (memory : SharedMemory w frameSize) : NetworkState w frameSize :=
  { linkUp := memory.linkUp, linkEpoch := memory.linkEpoch
    rx := memory.slots .rx, tx := memory.slots .tx }

namespace SharedQueue

/-- Run alone, the program answers and changes the queue as the function says. -/
def Computes (program : SharedProgram w frameSize α)
    (f : NetworkState w frameSize → α × NetworkState w frameSize) : Prop :=
  ∀ memory, (program.alone QueueAccess.apply memory).1 = (f memory.state).1 ∧
    (program.alone QueueAccess.apply memory).2.state = (f memory.state).2

section Rules
variable {program left right : SharedProgram w frameSize α}
  {f g : NetworkState w frameSize → α × NetworkState w frameSize}

theorem computes_pure (value : α) :
    Computes (pure value : SharedProgram w frameSize α) fun state => (value, state) :=
  fun _ => ⟨rfl, rfl⟩

theorem Computes.bind {rest : α → SharedProgram w frameSize β}
    {h : α → NetworkState w frameSize → β × NetworkState w frameSize}
    (first : Computes program f) (next : ∀ value, Computes (rest value) (h value)) :
    Computes (program >>= rest) fun state => h (f state).1 (f state).2 := by
  intro memory
  dsimp only
  rw [Thread.alone_bind, ← (first memory).1, ← (first memory).2]
  exact next _ _

theorem Computes.congr (computes : Computes program f) (same : ∀ state, f state = g state) :
    Computes program g := by
  intro memory
  rw [← same]
  exact computes memory

theorem computes_ite {p : Prop} [Decidable p] (first : Computes left f)
    (second : Computes right g) :
    Computes (if p then left else right) fun state => if p then f state else g state := by
  by_cases holds : p
  · simp only [holds, if_true]
    exact first
  · simp only [holds, if_false]
    exact second

end Rules

section Accesses
variable (name : SlotName)

theorem computes_loadLinkUp :
    Computes (loadLinkUp : SharedProgram w frameSize Bool) fun state => (state.linkUp, state) :=
  fun _ => ⟨rfl, rfl⟩

theorem computes_loadLinkEpoch :
    Computes (loadLinkEpoch : SharedProgram w frameSize (BitVec w)) fun state =>
      (state.linkEpoch, state) :=
  fun _ => ⟨rfl, rfl⟩

theorem computes_loadState :
    Computes (loadState name : SharedProgram w frameSize SlotState) fun state =>
      ((state.slot name).state, state) := by
  intro memory
  cases name <;> exact ⟨rfl, rfl⟩

theorem computes_loadEpoch :
    Computes (loadEpoch name : SharedProgram w frameSize (BitVec w)) fun state =>
      ((state.slot name).epoch, state) := by
  intro memory
  cases name <;> exact ⟨rfl, rfl⟩

theorem computes_loadLen :
    Computes (loadLen name : SharedProgram w frameSize Nat) fun state =>
      ((state.slot name).len, state) := by
  intro memory
  cases name <;> exact ⟨rfl, rfl⟩

theorem computes_compareExchange (current next : SlotState) :
    Computes (compareExchange name current next : SharedProgram w frameSize Bool) fun state =>
      if (state.slot name).state = current then
        (true, state.setSlot name { state.slot name with state := next })
      else (false, state) := by
  intro memory
  have same : memory.state.slot name = memory.slots name := by cases name <;> rfl
  simp only [same]
  by_cases holds : (memory.slots name).state = current
  · simp only [compareExchange, take, Thread.alone_perform, QueueAccess.apply, holds, if_true]
    cases name <;> exact ⟨trivial, rfl⟩
  · simp only [compareExchange, take, Thread.alone_perform, QueueAccess.apply, holds, if_false]
    exact ⟨trivial, trivial⟩

theorem computes_storeState (state : SlotState) :
    Computes (storeState name state : SharedProgram w frameSize Unit) fun queue =>
      ((), queue.setSlot name { queue.slot name with state }) := by
  intro memory
  cases name <;> exact ⟨rfl, rfl⟩

theorem computes_storeEpoch (epoch : BitVec w) :
    Computes (storeEpoch name epoch : SharedProgram w frameSize Unit) fun queue =>
      ((), queue.setSlot name { queue.slot name with epoch }) := by
  intro memory
  cases name <;> exact ⟨rfl, rfl⟩

theorem computes_lend (len : Nat) (f : SliceEdit) :
    Computes (lend name len f : SharedProgram w frameSize Bytes) fun state =>
      ((state.slot name).bytes.1.take len, state.setSlot name ((state.slot name).edit len f)) := by
  intro memory
  cases name <;> exact ⟨rfl, rfl⟩

theorem computes_readBuffer (len : Nat) :
    Computes (readBuffer name len : SharedProgram w frameSize Bytes) fun state =>
      ((state.slot name).bytes.1.take len, state) := by
  intro memory
  cases name <;> exact ⟨rfl, rfl⟩

theorem computes_note (event : SharedEvent w) :
    Computes (note event : SharedProgram w frameSize Unit) fun state => ((), state) :=
  fun _ => ⟨rfl, rfl⟩

theorem computes_wake (waker : WakerName) :
    Computes (wake waker : SharedProgram w frameSize Unit) fun state => ((), state) :=
  fun _ => ⟨rfl, rfl⟩

end Accesses

theorem computes_release (name : SlotName) :
    Computes (release name : SharedProgram w frameSize Unit) fun state =>
      ((), state.setSlot name (state.slot name).release) := by
  intro memory
  cases name <;> exact ⟨rfl, rfl⟩

theorem computes_releaseTx :
    Computes (releaseTx : SharedProgram w frameSize Unit) fun state => ((), state.releaseTx) :=
  fun _ => ⟨rfl, rfl⟩

theorem computes_discardReadyRx :
    Computes (discardReadyRx : SharedProgram w frameSize Unit) fun state =>
      ((), { state with rx := state.rx.discardReady }) := by
  refine ((computes_compareExchange .rx .ready .producer).bind fun ok =>
    computes_ite (computes_release .rx) (computes_pure ())).congr fun state => ?_
  by_cases ready : state.rx.state = .ready
  · simp [NetworkState.slot, NetworkState.setSlot, NetworkState.discardReady_eq, ready,
      Slot.release]
  · simp [NetworkState.slot, NetworkState.discardReady_eq, ready]

theorem computes_discardReadyTx :
    Computes (discardReadyTx : SharedProgram w frameSize Unit) fun state =>
      ((), { state with tx := state.tx.discardReady }) := by
  refine ((computes_compareExchange .tx .ready .producer).bind fun ok =>
    computes_ite computes_releaseTx (computes_pure ())).congr fun state => ?_
  by_cases ready : state.tx.state = .ready
  · simp [NetworkState.slot, NetworkState.setSlot, NetworkState.discardReady_eq, ready,
      NetworkState.releaseTx, Slot.release]
  · simp [NetworkState.slot, NetworkState.discardReady_eq, ready]

theorem computes_setAuthorizedLink (up : Bool) :
    Computes (setAuthorizedLink up : SharedProgram w frameSize Unit) fun state =>
      ((), state.setAuthorizedLink up) := by
  have swap : Computes (swapLinkUp up : SharedProgram w frameSize Bool) fun state =>
      (state.linkUp, { state with linkUp := up }) := fun _ => ⟨rfl, rfl⟩
  have add : Computes (fetchAddLinkEpoch : SharedProgram w frameSize (BitVec w)) fun state =>
      (state.linkEpoch, { state with linkEpoch := state.linkEpoch + 1 }) := fun _ => ⟨rfl, rfl⟩
  refine (swap.bind fun old => computes_ite (computes_pure ()) <| add.bind fun _ =>
    computes_discardReadyRx.bind fun _ => computes_discardReadyTx.bind fun _ =>
    (computes_wake .link).bind fun _ => (computes_wake .rx).bind fun _ =>
    (computes_wake .txSpace).bind fun _ => computes_wake .txReady).congr fun state => ?_
  rw [NetworkState.setAuthorizedLink]
  split
  · rename_i same
    obtain rfl : state.linkUp = up := same
    rfl
  · rfl

theorem computes_activeEpoch :
    Computes (activeEpoch : SharedProgram w frameSize (Option (BitVec w))) fun state =>
      (state.activeEpoch, state) := by
  intro memory
  obtain ⟨up, epoch, slots, wakers, trace⟩ := memory
  cases up with
  | false => exact ⟨rfl, rfl⟩
  | true =>
      simp [NetworkState.activeEpoch_eq, activeEpoch, activeEpochIn, loadLinkEpoch, loadLinkUp,
        take, QueueAccess.apply, SharedMemory.state]

theorem computes_epochIsActive (epoch : BitVec w) :
    Computes (epochIsActive epoch : SharedProgram w frameSize Bool) fun state =>
      (state.epochIsActive epoch, state) := by
  refine (computes_loadLinkUp.bind fun up => computes_ite (computes_pure false) <|
    computes_loadLinkEpoch.bind fun now =>
      computes_pure (decide (now = epoch))).congr fun state => ?_
  cases up : state.linkUp <;> simp [NetworkState.epochIsActive, up]

theorem computes_isCurrent (name : SlotName) (epoch : BitVec w) :
    Computes (isCurrent name epoch : SharedProgram w frameSize Bool) fun state =>
      (state.epochIsActive epoch && (state.slot name).epoch = epoch, state) := by
  refine ((computes_epochIsActive epoch).bind fun active => computes_ite (computes_pure false) <|
    (computes_loadEpoch name).bind fun found =>
      computes_pure (decide (found = epoch))).congr fun state => ?_
  cases state.epochIsActive epoch <;> simp

theorem computes_currentLen (name : SlotName) (current : Bool) :
    Computes (currentLen name current : SharedProgram w frameSize Nat) fun state =>
      (if current then min (state.slot name).len frameSize else 0, state) := by
  refine (computes_ite (computes_pure 0) <| (computes_loadLen name).bind fun len =>
    computes_pure (min len frameSize)).congr fun state => ?_
  cases current <;> simp

/-- What follows the epoch, where the link is up. -/
theorem computes_current {rest : Option (BitVec w) → SharedProgram w frameSize α} {down : α}
    {f : BitVec w → NetworkState w frameSize → α × NetworkState w frameSize}
    (without : Computes (rest none) fun state => (down, state))
    (under : ∀ epoch, Computes (rest (some epoch)) (f epoch)) :
    Computes (activeEpoch >>= rest) fun state =>
      state.activeEpoch.elim (down, state) fun epoch => f epoch state := by
  intro memory
  obtain ⟨answers, same⟩ := computes_activeEpoch memory
  dsimp only at answers same ⊢
  rw [Thread.alone_bind, answers, ← same]
  cases (Thread.alone QueueAccess.apply activeEpoch memory).2.state.activeEpoch with
  | none => exact without _
  | some epoch => exact under epoch _

/-! ## Reservations -/

theorem computes_confirmReservedTx (epoch : BitVec w) :
    Computes (confirmReservedTx epoch : SharedProgram w frameSize Bool)
      (NetworkState.confirmReservedTx epoch) := by
  refine ((computes_epochIsActive epoch).bind fun active => computes_ite (computes_pure true) <|
    computes_releaseTx.bind fun _ => computes_pure false).congr fun state => ?_
  rfl

theorem computes_reserveTx (epoch : BitVec w) :
    Computes (reserveTx epoch : SharedProgram w frameSize Bool) (NetworkState.reserveTx epoch) := by
  refine ((computes_epochIsActive epoch).bind fun active => computes_ite (computes_pure false) <|
    (computes_compareExchange .tx .free .client).bind fun ok =>
      computes_ite (computes_pure false) <| (computes_storeEpoch .tx epoch).bind fun _ =>
        computes_confirmReservedTx epoch).congr fun state => ?_
  cases active : state.epochIsActive epoch with
  | false => simp [NetworkState.reserveTx, active]
  | true =>
      by_cases free : state.tx.state = .free
      · simp [NetworkState.reserveTx, active, NetworkState.slot, free, Slot.compareExchange,
          NetworkState.setSlot]
      · simp [NetworkState.reserveTx, active, NetworkState.slot, free, Slot.compareExchange]

theorem computes_claimedRxIsCurrent (epoch : BitVec w) :
    Computes (claimedRxIsCurrent epoch : SharedProgram w frameSize Bool) fun state =>
      (state.claimedRxIsCurrent epoch, state) := by
  refine ((computes_loadEpoch .rx).bind fun found => computes_ite (computes_pure false) <|
    computes_epochIsActive epoch).congr fun state => ?_
  by_cases same : state.rx.epoch = epoch <;>
    simp [NetworkState.slot, NetworkState.claimedRxIsCurrent, same]

theorem computes_readyUnderOther (name : SlotName) (epoch : BitVec w) :
    Computes (readyUnderOther name epoch : SharedProgram w frameSize Bool) fun state =>
      ((state.slot name).state = .ready && (state.slot name).epoch ≠ epoch, state) := by
  refine ((computes_loadState name).bind fun found => computes_ite (computes_pure false) <|
    (computes_loadEpoch name).bind fun other =>
      computes_pure (decide (other ≠ epoch))).congr fun state => ?_
  by_cases ready : (state.slot name).state = .ready <;> simp [ready]

theorem computes_claimReadyRx (epoch : BitVec w) :
    Computes (claimReadyRx epoch : SharedProgram w frameSize Bool)
      (NetworkState.claimReadyRx epoch) := by
  refine ((computes_epochIsActive epoch).bind fun active => computes_ite (computes_pure false) <|
    (computes_readyUnderOther .rx epoch).bind fun other => computes_ite
      (computes_discardReadyRx.bind fun _ => computes_pure false)
      (computes_compareExchange .rx .ready .client)).congr fun state => ?_
  cases active : state.epochIsActive epoch with
  | false => simp [NetworkState.claimReadyRx, active]
  | true =>
      by_cases ready : state.rx.state = .ready
      · by_cases same : state.rx.epoch = epoch
        · simp [NetworkState.claimReadyRx, active, NetworkState.slot, ready, same,
            Slot.compareExchange, NetworkState.setSlot]
        · simp [NetworkState.claimReadyRx, active, NetworkState.slot, ready, same]
      · simp [NetworkState.claimReadyRx, active, NetworkState.slot, ready, Slot.compareExchange]

theorem computes_confirmClaimedRx (epoch : BitVec w) :
    Computes (confirmClaimedRx epoch : SharedProgram w frameSize Bool)
      (NetworkState.confirmClaimedRx epoch) :=
  (computes_claimedRxIsCurrent epoch).bind fun _ => computes_ite (computes_pure true) <|
    (computes_release .rx).bind fun _ => computes_pure false

theorem computes_restoreRx (epoch : BitVec w) :
    Computes (restoreRxAfterTxContention epoch : SharedProgram w frameSize Unit) fun state =>
      ((), state.restoreRxAfterTxContention epoch) := by
  refine ((computes_claimedRxIsCurrent epoch).bind fun current => computes_ite
    ((computes_storeState .rx .ready).bind fun _ => computes_wake .rx)
    (computes_release .rx)).congr fun state => ?_
  cases current : state.claimedRxIsCurrent epoch <;>
    simp [NetworkState.restoreRxAfterTxContention, current, NetworkState.slot,
      NetworkState.setSlot, NetworkState.releaseRx]

theorem computes_reserveReceive (epoch : BitVec w) :
    Computes (reserveReceive epoch : SharedProgram w frameSize Bool)
      (NetworkState.reserveReceive epoch) := by
  have claimed : Computes (reserveClaimedReceive epoch : SharedProgram w frameSize Bool)
      (NetworkState.reserveClaimedReceive epoch) := by
    refine ((computes_confirmClaimedRx epoch).bind fun current =>
      computes_ite (computes_pure false) <| (computes_reserveTx epoch).bind fun ok =>
        computes_ite (computes_pure true) <| (computes_restoreRx epoch).bind fun _ =>
          computes_pure false).congr fun state => ?_
    rw [NetworkState.reserveClaimedReceive]
    rcases NetworkState.confirmClaimedRx epoch state with ⟨current, next⟩
    cases current with
    | false => rfl
    | true =>
        rcases reserved : NetworkState.reserveTx epoch next with ⟨ok, last⟩
        cases ok <;> simp [reserved]
  refine ((computes_claimReadyRx epoch).bind fun ok => computes_ite (computes_pure false)
    claimed).congr fun state => ?_
  rw [NetworkState.reserveReceive]
  rcases NetworkState.claimReadyRx epoch state with ⟨ok, next⟩
  cases ok <;> rfl

/-! ## The network stack's side -/

theorem computes_tryReceive :
    Computes (tryReceive : SharedProgram w frameSize (Option (RxToken w × TxToken w)))
      NetworkState.tryReceive := by
  refine Computes.congr (computes_current (computes_pure none) fun epoch =>
    (computes_reserveReceive epoch).bind fun ok =>
      computes_ite (computes_pure none) (computes_pure _)) fun state => ?_
  rw [NetworkState.tryReceive]
  cases state.activeEpoch with
  | none => rfl
  | some epoch =>
      rcases reserved : NetworkState.reserveReceive epoch state with ⟨ok, next⟩
      cases ok <;> simp [reserved]

theorem computes_tryTransmit :
    Computes (tryTransmit : SharedProgram w frameSize (Option (TxToken w)))
      NetworkState.tryTransmit := by
  refine Computes.congr (computes_current (computes_pure none) fun epoch =>
    (computes_reserveTx epoch).bind fun ok =>
      computes_ite (computes_pure none) (computes_pure _)) fun state => ?_
  rw [NetworkState.tryTransmit]
  cases state.activeEpoch with
  | none => rfl
  | some epoch =>
      rcases reserved : NetworkState.reserveTx epoch state with ⟨ok, next⟩
      cases ok <;> simp [reserved]

theorem computes_register (waker : WakerName) (task : TaskId) :
    Computes (register waker task : SharedProgram w frameSize Unit) fun state => ((), state) :=
  fun _ => ⟨rfl, rfl⟩

theorem computes_watch (watcher : Watcher) (watched : Bool) :
    Computes (watch watcher watched : SharedProgram w frameSize Unit) fun state =>
      ((), state) := by
  intro memory
  cases watched <;> exact ⟨rfl, rfl⟩

/-- A second try, after the wakers are registered. -/
theorem Computes.retry {first : SharedProgram w frameSize (Option α)}
    {rest : Option α → SharedProgram w frameSize (Option α)}
    {f g : NetworkState w frameSize → Option α × NetworkState w frameSize}
    (tries : Computes first f) (found : ∀ value, rest (some value) = pure (some value))
    (again : Computes (rest none) g) :
    Computes (first >>= rest) fun state =>
      (f state).1.elim (g (f state).2) fun value => (some value, (f state).2) := by
  intro memory
  obtain ⟨answers, same⟩ := tries memory
  dsimp only
  rw [Thread.alone_bind, ← answers, ← same]
  cases (Thread.alone QueueAccess.apply first memory).1 with
  | none => exact again _
  | some value =>
      rw [found]
      exact ⟨rfl, rfl⟩

theorem computes_receive (task : TaskId) (watched : Bool) :
    Computes (receive task watched : SharedProgram w frameSize (Option (RxToken w × TxToken w)))
      NetworkState.receive := by
  refine Computes.congr (computes_tryReceive.retry (fun _ => rfl) <|
    (computes_watch ⟨task, .receive⟩ watched).bind fun _ =>
    (computes_register .link task).bind fun _ => (computes_register .rx task).bind fun _ =>
    (computes_register .txSpace task).bind fun _ => computes_tryReceive) fun state => ?_
  rw [NetworkState.receive]
  rcases state.tryReceive with ⟨tokens, next⟩
  cases tokens <;> rfl

theorem computes_transmit (task : TaskId) (watched : Bool) :
    Computes (transmit task watched : SharedProgram w frameSize (Option (TxToken w)))
      NetworkState.transmit := by
  refine Computes.congr (computes_tryTransmit.retry (fun _ => rfl) <|
    (computes_watch ⟨task, .transmit⟩ watched).bind fun _ =>
    (computes_register .link task).bind fun _ => (computes_register .txSpace task).bind fun _ =>
    computes_tryTransmit) fun state => ?_
  rw [NetworkState.transmit]
  rcases state.tryTransmit with ⟨token, next⟩
  cases token <;> rfl

theorem computes_consumeRx (token : RxToken w) (f : SliceEdit) :
    Computes (consumeRx token f : SharedProgram w frameSize Unit) fun state =>
      ((), (state.consumeRx token f).2) := by
  refine ((computes_isCurrent .rx token.epoch).bind fun valid =>
    (computes_currentLen .rx valid).bind fun len => (computes_lend .rx len f).bind fun slice =>
    computes_ite ((computes_note (.received token.epoch slice)).bind fun _ => computes_release .rx)
      (computes_release .rx)).congr fun state => ?_
  by_cases active : state.epochIsActive token.epoch = true <;>
    by_cases same : state.rx.epoch = token.epoch <;>
    simp [NetworkState.slot, NetworkState.setSlot, NetworkState.consumeRx, NetworkState.lentRx,
      NetworkState.releaseRx, active, same]

theorem computes_consumeTx (token : TxToken w) (len : Nat) (f : SliceEdit) :
    Computes (consumeTx token len f : SharedProgram w frameSize Unit) fun state =>
      ((), (state.consumeTx token len f).2) := by
  have publish (frame : Bytes) :
      Computes (publishTx token.epoch frame len : SharedProgram w frameSize Unit) fun state =>
        ((), { state with tx := { state.tx with len, state := .ready } }) := fun _ => ⟨rfl, rfl⟩
  refine (computes_ite ((computes_lend .tx len f).bind fun slice =>
    (computes_isCurrent .tx token.epoch).bind fun valid =>
      computes_ite (publish (f slice).1) computes_releaseTx) computes_releaseTx).congr
        fun state => ?_
  by_cases within : len ≤ frameSize
  · by_cases active : NetworkState.epochIsActive
        { state with tx := state.tx.edit len f } token.epoch = true <;>
      by_cases same : (state.tx.edit len f).epoch = token.epoch <;>
      simp [NetworkState.slot, NetworkState.setSlot, NetworkState.consumeTx, within, active, same]
  · simp [NetworkState.consumeTx, within]

theorem computes_returnTx :
    Computes (returnTx : SharedProgram w frameSize Unit) fun state => ((), state.returnTx) :=
  fun _ => ⟨rfl, rfl⟩

theorem computes_dropLease (lease : TxLease w) :
    Computes (dropLease lease : SharedProgram w frameSize Unit) fun state =>
      ((), state.dropLease lease) := by
  refine ((computes_isCurrent .tx lease.epoch).bind fun current =>
    computes_ite computes_returnTx computes_releaseTx).congr fun state => ?_
  by_cases active : state.epochIsActive lease.epoch = true <;>
    by_cases same : state.tx.epoch = lease.epoch <;>
    simp [NetworkState.slot, NetworkState.dropLease, NetworkState.leaseIsCurrent, active, same]

theorem computes_report (lease : TxLease w) (outcome : TxOutcome) :
    Computes (report lease outcome : SharedProgram w frameSize Unit) fun state =>
      ((), state.report lease outcome) := by
  refine (computes_ite ((computes_isCurrent .tx lease.epoch).bind fun current =>
    computes_ite computes_returnTx computes_releaseTx) computes_releaseTx).congr fun state => ?_
  by_cases blocked : outcome = .wouldBlock
  · by_cases active : state.epochIsActive lease.epoch = true <;>
      by_cases same : state.tx.epoch = lease.epoch <;>
      simp [NetworkState.slot, NetworkState.report, NetworkState.leaseIsCurrent, blocked, active,
        same]
  · simp [NetworkState.report, blocked]

theorem computes_asSlice (lease : TxLease w) :
    Computes (asSlice lease : SharedProgram w frameSize Bytes) fun state =>
      (state.leaseSlice lease, state) := by
  refine ((computes_isCurrent .tx lease.epoch).bind fun current =>
    (computes_currentLen .tx current).bind fun len => (computes_readBuffer .tx len).bind
      fun slice => computes_ite ((computes_note (.read lease.epoch slice)).bind fun _ =>
        computes_pure slice) (computes_pure slice)).congr fun state => ?_
  by_cases active : state.epochIsActive lease.epoch = true <;>
    by_cases same : state.tx.epoch = lease.epoch <;>
    simp [NetworkState.slot, NetworkState.leaseSlice, NetworkState.leaseIsCurrent, Slot.frame,
      active, same]

/-! ## The driver's side -/

theorem computes_copyAndPublishRx (epoch : BitVec w) (frame : Bytes)
    (fits : frame.length ≤ frameSize) :
    Computes (copyAndPublishRx epoch frame fits : SharedProgram w frameSize _)
      (NetworkState.copyAndPublishRx epoch frame fits) := by
  have publish : Computes (publishRx epoch frame fits : SharedProgram w frameSize Unit)
      fun state => ((), { state with rx :=
        { (state.rx.copyIn frame fits) with state := .ready, len := frame.length, epoch } }) :=
    fun _ => ⟨rfl, rfl⟩
  have discard : Computes (discardReadyRxEpoch epoch : SharedProgram w frameSize Unit)
      fun state => ((), state.discardReadyRxEpoch epoch) := by
    refine ((computes_loadEpoch .rx).bind fun found =>
      computes_ite (computes_pure ()) computes_discardReadyRx).congr fun state => ?_
    by_cases same : state.rx.epoch = epoch <;>
      simp [NetworkState.slot, NetworkState.discardReadyRxEpoch, same]
  refine Computes.congr ((computes_epochIsActive epoch).bind fun active => computes_ite
    ((computes_release .rx).bind fun _ => computes_pure _) <|
    publish.bind fun _ => (computes_epochIsActive epoch).bind fun still => computes_ite
      (discard.bind fun _ => computes_pure _) <|
      (computes_wake .rx).bind fun _ => computes_pure _) fun state => ?_
  rw [NetworkState.copyAndPublishRx]
  split
  · rfl
  · rfl

theorem computes_pushRx (frame : Bytes) :
    Computes (pushRx frame : SharedProgram w frameSize (Except QueueError Unit))
      (NetworkState.pushRx frame) := by
  rw [pushRx]
  by_cases fits : frame.length ≤ frameSize
  · rw [dif_pos fits]
    refine Computes.congr (computes_current (computes_pure _) fun epoch =>
      (computes_compareExchange .rx .free .producer).bind fun ok =>
        computes_ite (computes_pure _) (computes_copyAndPublishRx epoch frame fits))
          fun state => ?_
    rw [NetworkState.pushRx, dif_pos fits]
    cases state.activeEpoch with
    | none => rfl
    | some epoch =>
        by_cases free : state.rx.state = .free
        · simp [NetworkState.claimRxProducer, NetworkState.slot, Slot.compareExchange, free,
            NetworkState.setSlot]
        · simp [NetworkState.claimRxProducer, NetworkState.slot, Slot.compareExchange, free]
  · rw [dif_neg fits]
    refine (computes_pure _).congr fun state => ?_
    rw [NetworkState.pushRx, dif_neg fits]

theorem computes_takeTx :
    Computes (takeTx : SharedProgram w frameSize (Option (TxLease w))) NetworkState.takeTx := by
  have stale (epoch : BitVec w) :
      Computes (discardStaleTx epoch : SharedProgram w frameSize Bool)
        (NetworkState.discardStaleTx epoch) := by
    refine ((computes_readyUnderOther .tx epoch).bind fun other =>
      computes_ite (computes_pure false) <| computes_discardReadyTx.bind fun _ =>
        computes_pure true).congr fun state => ?_
    by_cases ready : state.tx.state = .ready <;> by_cases same : state.tx.epoch = epoch <;>
      simp [NetworkState.discardStaleTx, NetworkState.slot, ready, same]
  have current (epoch : BitVec w) :
      Computes (claimedTxIsCurrent epoch : SharedProgram w frameSize Bool) fun state =>
        (state.claimedTxIsCurrent epoch, state) := by
    refine ((computes_loadEpoch .tx).bind fun found => computes_ite (computes_pure false) <|
      computes_epochIsActive epoch).congr fun state => ?_
    by_cases same : state.tx.epoch = epoch <;>
      simp [NetworkState.slot, NetworkState.claimedTxIsCurrent, same]
  refine Computes.congr (computes_current (computes_pure none) fun epoch =>
    (stale epoch).bind fun discarded => computes_ite (computes_pure none) <|
    (computes_compareExchange .tx .ready .producer).bind fun ok =>
    computes_ite (computes_pure none) <| (current epoch).bind fun valid => computes_ite
      (computes_releaseTx.bind fun _ => computes_pure none) (computes_pure _)) fun state => ?_
  rw [NetworkState.takeTx]
  cases state.activeEpoch with
  | none => rfl
  | some epoch =>
      rcases discards : NetworkState.discardStaleTx epoch state with ⟨discarded, next⟩
      cases discarded with
      | true => simp [discards]
      | false =>
          by_cases ready : next.tx.state = .ready
          · simp [discards, NetworkState.claimReadyTx, NetworkState.slot, Slot.compareExchange,
              ready, NetworkState.setSlot]
          · simp [discards, NetworkState.claimReadyTx, NetworkState.slot, Slot.compareExchange,
              ready]

end SharedQueue

end Nrf7002
