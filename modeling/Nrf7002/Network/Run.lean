import Nrf7002.Foundation.Pending
import Nrf7002.Foundation.Run
import Nrf7002.Network.Queue

/-! # Runs of the network queue

The queue next to the tokens and leases that are outstanding, and to the trace of what
crossed it.  Any owner of a token may use it at any time, and once; the link may change
between any two operations. -/

set_option autoImplicit false

namespace Nrf7002
open Foundation

/-- What happens at the two ends of the queue.  A frame is `pushed` by the driver and
`received` by the network stack, or `written` by the network stack and `leased` by the
driver, who `read`s it; a lease ends with its frame `returned` to the queue or
`finished`. -/
inductive QueueEvent where
  | link
  | pushed (frame : Bytes)
  | received (frame : Bytes)
  | written (frame : Bytes)
  | leased (frame : Bytes)
  | read (frame : Bytes)
  | returned
  | finished
  deriving DecidableEq

inductive QueueMove where
  | setAuthorizedLink (up : Bool)
  | pushRx (frame : Bytes)
  | receive
  | transmit
  | consumeRx (index : Nat) (f : SliceEdit)
  | dropRx (index : Nat)
  | consumeTx (index len : Nat) (f : SliceEdit)
  | dropTx (index : Nat)
  | takeTx
  | asSlice (index : Nat)
  | report (index : Nat) (outcome : TxOutcome)
  | dropLease (index : Nat)

structure QueueSystem (w frameSize : Nat) where
  state : NetworkState w frameSize
  rxTokens : List (RxToken w)
  txTokens : List (TxToken w)
  leases : List (TxLease w)
  trace : List QueueEvent

namespace QueueSystem
variable {w frameSize : Nat}

def start : QueueSystem w frameSize :=
  { state := .new, rxTokens := [], txTokens := [], leases := [], trace := [] }

/-- The end of a lease, as the trace has it. -/
def leaseEvent (returned : Bool) : QueueEvent := if returned then .returned else .finished

/-- A move on a token that is not outstanding does nothing. -/
def step (system : QueueSystem w frameSize) : QueueMove → QueueSystem w frameSize
  | .setAuthorizedLink up =>
      { system with
        state := system.state.setAuthorizedLink up
        trace := system.trace ++ if system.state.linkUp = up then [] else [.link] }
  | .pushRx frame =>
      match system.state.pushRx frame with
      | (.ok _, state) => { system with state, trace := system.trace ++ [.pushed frame] }
      | (.error _, state) => { system with state }
  | .receive =>
      match system.state.receive with
      | (some (rx, tx), state) =>
          { system with
            state, rxTokens := system.rxTokens ++ [rx], txTokens := system.txTokens ++ [tx] }
      | (none, state) => { system with state }
  | .transmit =>
      match system.state.transmit with
      | (some token, state) => { system with state, txTokens := system.txTokens ++ [token] }
      | (none, state) => { system with state }
  | .consumeRx index f =>
      match system.rxTokens[index]? with
      | none => system
      | some token =>
          { system with
            state := (system.state.consumeRx token f).2
            rxTokens := system.rxTokens.eraseIdx index
            trace := system.trace ++
              ((system.state.consumeRx token f).1.map QueueEvent.received).toList }
  | .dropRx index =>
      match system.rxTokens[index]? with
      | none => system
      | some _ =>
          { system with
            state := system.state.dropRx, rxTokens := system.rxTokens.eraseIdx index }
  | .consumeTx index len f =>
      match system.txTokens[index]? with
      | none => system
      | some token =>
          { system with
            state := (system.state.consumeTx token len f).2
            txTokens := system.txTokens.eraseIdx index
            trace := system.trace ++
              ((system.state.consumeTx token len f).1.map QueueEvent.written).toList }
  | .dropTx index =>
      match system.txTokens[index]? with
      | none => system
      | some _ =>
          { system with
            state := system.state.dropTx, txTokens := system.txTokens.eraseIdx index }
  | .takeTx =>
      match system.state.takeTx with
      | (some lease, state) =>
          { system with
            state
            leases := system.leases ++ [lease]
            trace := system.trace ++ [.leased (state.leaseSlice lease)] }
      | (none, state) => { system with state }
  | .asSlice index =>
      match system.leases[index]? with
      | none => system
      | some lease =>
          { system with
            trace := system.trace ++
              if system.state.leaseIsCurrent lease then [.read (system.state.leaseSlice lease)]
              else [] }
  | .report index outcome =>
      match system.leases[index]? with
      | none => system
      | some lease =>
          { system with
            state := system.state.report lease outcome
            leases := system.leases.eraseIdx index
            trace := system.trace ++
              [leaseEvent (outcome = .wouldBlock && system.state.leaseIsCurrent lease)] }
  | .dropLease index =>
      match system.leases[index]? with
      | none => system
      | some lease =>
          { system with
            state := system.state.dropLease lease
            leases := system.leases.eraseIdx index
            trace := system.trace ++ [leaseEvent (system.state.leaseIsCurrent lease)] }

end QueueSystem

/-! ## What one operation can do -/

namespace NetworkState
variable {w frameSize : Nat} (state : NetworkState w frameSize)

/-- In one atomic step the first try reads the epoch. -/
theorem activeEpoch_eq : state.activeEpoch = if state.linkUp then some state.linkEpoch else none := by
  cases up : state.linkUp <;> simp [activeEpoch, activeEpochIn, up]

theorem epochIsActive_iff {epoch : BitVec w} :
    state.epochIsActive epoch = true ↔ state.linkUp = true ∧ state.linkEpoch = epoch := by
  simp [epochIsActive]

theorem reserveTx_eq (epoch : BitVec w) :
    reserveTx epoch state =
      if state.epochIsActive epoch = true ∧ state.tx.state = .free then
        (true, { state with tx := { state.tx with state := .client, epoch } })
      else (false, state) := by
  cases active : state.epochIsActive epoch with
  | false => simp [reserveTx, active]
  | true =>
      by_cases free : state.tx.state = .free
      · have still : epochIsActive
            { state with tx := { state.tx with state := .client, epoch } } epoch = true := active
        simp [reserveTx, active, Slot.compareExchange, free, confirmReservedTx, still]
      · simp [reserveTx, active, Slot.compareExchange, free]

theorem discardReady_eq (slot : Slot w frameSize) :
    slot.discardReady = if slot.state = .ready then slot.release else slot := by
  by_cases ready : slot.state = .ready
  · simp [Slot.discardReady, Slot.compareExchange, ready, Slot.release]
  · simp [Slot.discardReady, Slot.compareExchange, ready]

/-- Everything a try to receive can do. -/
inductive Received (state : NetworkState w frameSize) :
    Option (RxToken w × TxToken w) × NetworkState w frameSize → Prop where
  | idle : Received state (none, state)
  | discarded (ready : state.rx.state = .ready) :
      Received state (none, { state with rx := state.rx.release })
  | taken (up : state.linkUp = true) (ready : state.rx.state = .ready)
      (current : state.rx.epoch = state.linkEpoch) (free : state.tx.state = .free) :
      Received state (some ({ epoch := state.linkEpoch }, { epoch := state.linkEpoch }),
        { state with
          rx := { state.rx with state := .client }
          tx := { state.tx with state := .client, epoch := state.linkEpoch } })

theorem claimReadyRx_eq {epoch : BitVec w} (active : state.epochIsActive epoch = true) :
    claimReadyRx epoch state =
      if state.rx.state = .ready then
        if state.rx.epoch = epoch then
          (true, { state with rx := { state.rx with state := .client } })
        else (false, { state with rx := state.rx.release })
      else (false, state) := by
  by_cases ready : state.rx.state = .ready
  · by_cases current : state.rx.epoch = epoch
    · simp [claimReadyRx, active, ready, current, Slot.compareExchange]
    · simp [claimReadyRx, active, ready, current, discardReady_eq]
  · simp [claimReadyRx, active, ready, Slot.compareExchange]

theorem reserveClaimedReceive_eq {epoch : BitVec w} (active : state.epochIsActive epoch = true)
    (current : state.rx.epoch = epoch) :
    reserveClaimedReceive epoch state =
      if state.tx.state = .free then
        (true, { state with tx := { state.tx with state := .client, epoch } })
      else (false, { state with rx := { state.rx with state := .ready } }) := by
  have claimed : state.claimedRxIsCurrent epoch = true := by
    simp [claimedRxIsCurrent, current, active]
  rw [reserveClaimedReceive, confirmClaimedRx, if_pos claimed]
  dsimp only
  rw [reserveTx_eq]
  by_cases free : state.tx.state = .free
  · rw [if_pos ⟨active, free⟩, if_pos free]
  · rw [if_neg (fun both => free both.2), if_neg free]
    dsimp only
    rw [restoreRxAfterTxContention, if_pos claimed]

theorem tryReceive_received : Received state state.tryReceive := by
  rw [tryReceive, activeEpoch_eq]
  by_cases up : state.linkUp = true
  · have active : state.epochIsActive state.linkEpoch = true :=
      state.epochIsActive_iff.mpr ⟨up, rfl⟩
    rw [if_pos up]
    dsimp only
    rw [reserveReceive, state.claimReadyRx_eq active]
    by_cases ready : state.rx.state = .ready
    · rw [if_pos ready]
      by_cases current : state.rx.epoch = state.linkEpoch
      · rw [if_pos current]
        dsimp only
        have claimed := reserveClaimedReceive_eq
          { state with rx := { state.rx with state := .client } } active current
        dsimp only at claimed
        rw [claimed]
        by_cases free : state.tx.state = .free
        · rw [if_pos free]
          exact .taken up ready current free
        · have restored : ({ state with rx := { state.rx with state := .ready } } :
              NetworkState w frameSize) = state := by
            rw [← ready]
          rw [if_neg free, restored]
          exact .idle
      · rw [if_neg current]
        exact .discarded ready
    · rw [if_neg ready]
      exact .idle
  · rw [if_neg up]
    exact .idle

theorem receive_received : Received state state.receive := by
  have first := state.tryReceive_received
  rw [receive]
  split
  · rename_i tokens next found
    rw [found] at first
    exact first
  · rename_i next found
    rw [found] at first
    cases first with
    | idle => exact state.tryReceive_received
    | discarded ready =>
        have second := tryReceive_received { state with rx := state.rx.release }
        generalize again : tryReceive { state with rx := state.rx.release } = result at second ⊢
        cases second with
        | idle => exact .discarded ready
        | discarded released => cases released
        | taken up released current free => cases released

/-- Everything a try to transmit can do. -/
inductive Reserved (state : NetworkState w frameSize) :
    Option (TxToken w) × NetworkState w frameSize → Prop where
  | idle : Reserved state (none, state)
  | taken (up : state.linkUp = true) (free : state.tx.state = .free) :
      Reserved state (some { epoch := state.linkEpoch },
        { state with tx := { state.tx with state := .client, epoch := state.linkEpoch } })

theorem tryTransmit_reserved : Reserved state state.tryTransmit := by
  rw [tryTransmit, activeEpoch_eq]
  by_cases up : state.linkUp = true
  · rw [if_pos up]
    dsimp only
    rw [reserveTx_eq]
    by_cases free : state.tx.state = .free
    · rw [if_pos ⟨state.epochIsActive_iff.mpr ⟨up, rfl⟩, free⟩]
      exact .taken up free
    · rw [if_neg (fun both => free both.2)]
      exact .idle
  · rw [if_neg up]
    exact .idle

theorem transmit_reserved : Reserved state state.transmit := by
  have first := state.tryTransmit_reserved
  rw [transmit]
  split
  · rename_i token next found
    rw [found] at first
    exact first
  · rename_i next found
    rw [found] at first
    cases first with
    | idle => exact state.tryTransmit_reserved

/-- Everything a push can do. -/
inductive Pushed (state : NetworkState w frameSize) (frame : Bytes) :
    Except QueueError Unit × NetworkState w frameSize → Prop where
  | refused (failure : QueueError) : Pushed state frame (.error failure, state)
  | queued (slot : Slot w frameSize) (free : state.rx.state = .free) (up : state.linkUp = true)
      (ready : slot.state = .ready) (current : slot.epoch = state.linkEpoch)
      (holds : slot.frame = frame) : Pushed state frame (.ok (), { state with rx := slot })

theorem pushRx_pushed (frame : Bytes) : Pushed state frame (state.pushRx frame) := by
  rw [pushRx]
  split
  · rename_i fits
    rw [activeEpoch_eq]
    by_cases up : state.linkUp = true
    · rw [if_pos up, claimRxProducer, Slot.compareExchange]
      dsimp only
      by_cases free : state.rx.state = .free
      · rw [if_pos free]
        dsimp only
        have active (rx : Slot w frameSize) :
            epochIsActive { state with rx } state.linkEpoch = true :=
          state.epochIsActive_iff.mpr ⟨up, rfl⟩
        rw [copyAndPublishRx, if_neg (not_not_intro (active _))]
        dsimp only
        rw [if_neg (not_not_intro (active _))]
        apply Pushed.queued _ free up rfl rfl
        rw [Slot.frame, Nat.min_eq_left fits]
        show (splice state.rx.bytes.1 0 frame).take frame.length = frame
        simp [splice]
      · rw [if_neg free]
        exact .refused _
    · rw [if_neg up]
      exact .refused _
  · exact .refused _

/-- Everything a try to take a frame can do. -/
inductive Leased (state : NetworkState w frameSize) :
    Option (TxLease w) × NetworkState w frameSize → Prop where
  | idle : Leased state (none, state)
  | discarded (ready : state.tx.state = .ready) :
      Leased state (none, { state with tx := state.tx.release })
  | taken (up : state.linkUp = true) (ready : state.tx.state = .ready)
      (current : state.tx.epoch = state.linkEpoch) :
      Leased state (some { epoch := state.linkEpoch },
        { state with tx := { state.tx with state := .producer } })

theorem takeTx_leased : Leased state state.takeTx := by
  rw [takeTx, activeEpoch_eq]
  by_cases up : state.linkUp = true
  · rw [if_pos up]
    dsimp only
    rw [discardStaleTx]
    by_cases ready : state.tx.state = .ready
    · by_cases current : state.tx.epoch = state.linkEpoch
      · rw [if_pos (.inr current)]
        have claimed : state.claimReadyTx =
            some { state with tx := { state.tx with state := .producer } } := by
          simp [claimReadyTx, Slot.compareExchange, ready]
        have still : claimedTxIsCurrent
            { state with tx := { state.tx with state := .producer } } state.linkEpoch = true := by
          simp [claimedTxIsCurrent, current, epochIsActive, up]
        dsimp only
        rw [claimed]
        dsimp only
        rw [if_neg (not_not_intro still)]
        exact .taken up ready current
      · rw [if_neg (by simp [ready, current]), discardReady_eq, if_pos ready]
        exact .discarded ready
    · have unclaimed : state.claimReadyTx = none := by
        simp [claimReadyTx, Slot.compareExchange, ready]
      rw [if_pos (.inl ready)]
      dsimp only
      rw [unclaimed]
      exact .idle
  · rw [if_neg up]
    exact .idle

/-- Everything the consumption of a transmit token can do. -/
inductive Written (state : NetworkState w frameSize) (token : TxToken w) :
    Option Bytes × NetworkState w frameSize → Prop where
  | queued (slot : Slot w frameSize) (active : state.epochIsActive token.epoch = true)
      (current : slot.epoch = token.epoch) (ready : slot.state = .ready) :
      Written state token (some slot.frame, { state with tx := slot })
  | released (slot : Slot w frameSize) (free : slot.state = .free) :
      Written state token (none, { state with tx := slot })

theorem consumeTx_written (token : TxToken w) (len : Nat) (f : SliceEdit) :
    Written state token (state.consumeTx token len f) := by
  rw [consumeTx]
  split
  · dsimp only
    split
    · rename_i valid
      rw [Bool.and_eq_true, decide_eq_true_iff] at valid
      exact .queued _ valid.1 valid.2 rfl
    · exact .released _ rfl
  · exact .released _ rfl

/-- The end of a lease gives the frame back or releases the slot. -/
def endLease (returned : Bool) : NetworkState w frameSize :=
  if returned then state.returnTx else state.releaseTx

theorem report_eq (lease : TxLease w) (outcome : TxOutcome) :
    state.report lease outcome =
      state.endLease (outcome = .wouldBlock && state.leaseIsCurrent lease) := rfl

theorem dropLease_eq (lease : TxLease w) :
    state.dropLease lease = state.endLease (state.leaseIsCurrent lease) := rfl

end NetworkState

end Nrf7002
