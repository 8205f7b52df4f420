import Nrf7002.Network.Run

/-! # Delivery across the network queue

Every frame that leaves the queue entered it under the link that is still active, and
nothing else took it in between.  A slot is owned by a client exactly while its token is
outstanding, and by the driver exactly while its lease is. -/

set_option autoImplicit false

namespace Nrf7002
open Foundation

/-! ## Epochs -/

section Dated
variable {w : Nat}

/-- The epoch was read when there had been `born` link changes; `P` holds if none followed. -/
def Dated (links : Nat) (epoch : BitVec w) (P : Prop) : Prop :=
  ∃ born ≤ links, epoch = BitVec.ofNat w born ∧ (born = links → P)

theorem dated_now {links : Nat} {P : Prop} (holds : P) :
    Dated links (BitVec.ofNat w links) P := ⟨links, Nat.le_refl _, rfl, fun _ => holds⟩

theorem Dated.mono {links : Nat} {epoch : BitVec w} {P Q : Prop} (dated : Dated links epoch P)
    (weaker : P → Q) : Dated links epoch Q := by
  obtain ⟨born, before, same, holds⟩ := dated
  exact ⟨born, before, same, fun now => weaker (holds now)⟩

/-- A link change ends the epoch. -/
theorem Dated.next {links : Nat} {epoch : BitVec w} {P Q : Prop} (dated : Dated links epoch P) :
    Dated (links + 1) epoch Q := by
  obtain ⟨born, before, same, _⟩ := dated
  exact ⟨born, by omega, same, fun now => absurd now (by omega)⟩

/-- As long as the counter has not wrapped, equal epochs are one epoch. -/
theorem Dated.current {links : Nat} {epoch : BitVec w} {P : Prop} (dated : Dated links epoch P)
    (few : links < 2 ^ w) (same : epoch = BitVec.ofNat w links) : P := by
  obtain ⟨born, before, read, holds⟩ := dated
  have numbers := congrArg BitVec.toNat (read.symm.trans same)
  rw [BitVec.toNat_ofNat, BitVec.toNat_ofNat, Nat.mod_eq_of_lt few,
    Nat.mod_eq_of_lt (Nat.lt_of_le_of_lt before few)] at numbers
  exact holds numbers

end Dated

/-! ## Traces -/

namespace QueueEvent

def opensRx : QueueEvent → Option Bytes
  | .pushed frame => some frame
  | _ => none

def closesRx : QueueEvent → Bool
  | .link | .received _ => true
  | _ => false

def opensTx : QueueEvent → Option Bytes
  | .written frame => some frame
  | _ => none

def closesTx : QueueEvent → Bool
  | .link | .finished => true
  | _ => false

def opensLease : QueueEvent → Option Bytes
  | .leased frame => some frame
  | _ => none

def closesLease : QueueEvent → Bool
  | .link | .returned | .finished | .written _ => true
  | _ => false

/-- What an event needs of the events before it.  A frame is received only once after it
was pushed, and leased again only after every earlier lease returned it; no link change
lies in between. -/
def Once (before : List QueueEvent) : QueueEvent → Prop
  | .received frame => ∃ older since, before = older ++ .pushed frame :: since ∧
      .link ∉ since ∧ ∀ other, .pushed other ∉ since ∧ .received other ∉ since
  | .leased frame => ∃ older since, before = older ++ .written frame :: since ∧
      .link ∉ since ∧ .finished ∉ since ∧ (∀ other, .written other ∉ since) ∧
      ∀ first other last, since = first ++ .leased other :: last → .returned ∈ last
  | .read frame => ∃ older since, before = older ++ .leased frame :: since ∧
      .link ∉ since ∧ .returned ∉ since ∧ .finished ∉ since
  | _ => True

end QueueEvent

section Traces
open QueueEvent

/-- The number of link changes. -/
def links (trace : List QueueEvent) : Nat := trace.count .link

/-- The frame that waits for the network stack. -/
def queuedRx (trace : List QueueEvent) : Option Bytes := pending opensRx closesRx trace

/-- The frame that the network stack wrote and the driver did not finish. -/
def queuedTx (trace : List QueueEvent) : Option Bytes := pending opensTx closesTx trace

/-- The frame that the driver holds a lease on. -/
def heldTx (trace : List QueueEvent) : Option Bytes := pending opensLease closesLease trace

variable {trace : List QueueEvent} {frame : Bytes}

@[simp] theorem links_append (event : QueueEvent) :
    links (trace ++ [event]) = links trace + if event = .link then 1 else 0 := by
  simp [links, List.count_append, List.count_singleton]

@[simp] theorem queuedRx_append (event : QueueEvent) :
    queuedRx (trace ++ [event]) = match event with
      | .pushed frame => some frame
      | .link | .received _ => none
      | _ => queuedRx trace := by
  cases event <;> simp [queuedRx, pending_append, pendingAfter, opensRx, closesRx]

@[simp] theorem queuedTx_append (event : QueueEvent) :
    queuedTx (trace ++ [event]) = match event with
      | .written frame => some frame
      | .link | .finished => none
      | _ => queuedTx trace := by
  cases event <;> simp [queuedTx, pending_append, pendingAfter, opensTx, closesTx]

@[simp] theorem heldTx_append (event : QueueEvent) :
    heldTx (trace ++ [event]) = match event with
      | .leased frame => some frame
      | .link | .returned | .finished | .written _ => none
      | _ => heldTx trace := by
  cases event <;> simp [heldTx, pending_append, pendingAfter, opensLease, closesLease]

theorem once_received (queued : queuedRx trace = some frame) : Once trace (.received frame) := by
  obtain ⟨older, event, since, same, opened, rest⟩ := opened_of_pending queued
  cases event <;> cases opened
  refine ⟨older, since, same, ?_, ?_⟩
  · intro member
    cases (rest _ member).2
  · intro other
    constructor
    · intro member
      cases (rest _ member).1
    · intro member
      cases (rest _ member).2

theorem once_leased (queued : queuedTx trace = some frame) (idle : heldTx trace = none) :
    Once trace (.leased frame) := by
  obtain ⟨older, event, since, same, opened, rest⟩ := opened_of_pending queued
  cases event <;> cases opened
  refine ⟨older, since, same, ?_, ?_, ?_, ?_⟩
  · intro member
    cases (rest _ member).2
  · intro member
    cases (rest _ member).2
  · intro other member
    cases (rest _ member).1
  · intro first other last place
    -- The lease was closed, and nothing in `since` closes it but a return.
    have whole : trace = (older ++ .written frame :: first) ++ .leased other :: last := by
      rw [same, place, List.append_assoc, List.cons_append]
    obtain ⟨later, member, closed⟩ := closed_of_pending idle whole rfl
    have inside : later ∈ since := by
      rw [place]
      exact List.mem_append_right _ (List.mem_cons_of_mem _ member)
    obtain ⟨quiet, neutral⟩ := rest later inside
    cases later with
    | returned => exact member
    | link => cases neutral
    | finished => cases neutral
    | written other => cases quiet
    | pushed other => cases closed
    | received other => cases closed
    | leased other => cases closed
    | read other => cases closed

theorem once_read (held : heldTx trace = some frame) : Once trace (.read frame) := by
  obtain ⟨older, event, since, same, opened, rest⟩ := opened_of_pending held
  cases event <;> cases opened
  refine ⟨older, since, same, ?_, ?_, ?_⟩
  all_goals
    intro member
    cases (rest _ member).2

end Traces

/-! ## Ownership -/

namespace QueueSystem
variable {w frameSize : Nat}

/-- One token or lease for each owner of a slot. -/
structure Owned (system : QueueSystem w frameSize) : Prop where
  rxTokens : system.rxTokens.length = if system.state.rx.state = .client then 1 else 0
  rxUnclaimed : system.state.rx.state ≠ .producer
  txTokens : system.txTokens.length = if system.state.tx.state = .client then 1 else 0
  leases : system.leases.length = if system.state.tx.state = .producer then 1 else 0

theorem owned_start : (start : QueueSystem w frameSize).Owned := by
  constructor <;> simp [start, NetworkState.new, Slot.new]

/-- A list that holds a token holds it alone, so its owner is the only one. -/
theorem length_eraseIdx_of_found {α : Type} {tokens : List α} {index : Nat} {token : α} {p : Prop}
    [Decidable p] (counted : tokens.length = if p then 1 else 0)
    (found : tokens[index]? = some token) : p ∧ (tokens.eraseIdx index).length = 0 := by
  have inside := (List.getElem?_eq_some_iff.mp found).1
  split at counted
  · rename_i holds
    refine ⟨holds, ?_⟩
    rw [List.length_eraseIdx_of_lt inside]
    omega
  · omega

theorem discardReady_state (slot : Slot w frameSize) :
    slot.discardReady.state = if slot.state = .ready then .free else slot.state := by
  rw [NetworkState.discardReady_eq]
  split
  · rfl
  · rfl

theorem owned_endLease {system : QueueSystem w frameSize} {index : Nat} {lease : TxLease w}
    (returned : Bool) (owned : system.Owned) (found : system.leases[index]? = some lease)
    {trace : List QueueEvent} :
    Owned { system with
      state := system.state.endLease returned
      leases := system.leases.eraseIdx index
      trace } := by
  obtain ⟨rxTokens, rxUnclaimed, txTokens, leases⟩ := owned
  obtain ⟨producer, gone⟩ := length_eraseIdx_of_found leases found
  cases returned with
  | false =>
      refine ⟨rxTokens, rxUnclaimed, ?_, ?_⟩
      · simpa [NetworkState.endLease, NetworkState.releaseTx, Slot.release, producer] using txTokens
      · simpa [NetworkState.endLease, NetworkState.releaseTx, Slot.release] using gone
  | true =>
      refine ⟨rxTokens, rxUnclaimed, ?_, ?_⟩
      · simpa [NetworkState.endLease, NetworkState.returnTx, producer] using txTokens
      · simpa [NetworkState.endLease, NetworkState.returnTx] using gone

theorem owned_step (system : QueueSystem w frameSize) (move : QueueMove) (owned : system.Owned) :
    (system.step move).Owned := by
  obtain ⟨rxTokens, rxUnclaimed, txTokens, leases⟩ := owned
  cases move with
  | setAuthorizedLink up =>
      simp only [step, NetworkState.setAuthorizedLink]
      split
      · exact ⟨rxTokens, rxUnclaimed, txTokens, leases⟩
      · constructor
        · rw [rxTokens]
          dsimp only
          rw [discardReady_state]
          cases system.state.rx.state <;> rfl
        · dsimp only
          rw [discardReady_state]
          split
          · simp
          · exact rxUnclaimed
        · rw [txTokens]
          dsimp only
          rw [discardReady_state]
          cases system.state.tx.state <;> rfl
        · rw [leases]
          dsimp only
          rw [discardReady_state]
          cases system.state.tx.state <;> rfl
  | pushRx frame =>
      have pushed := system.state.pushRx_pushed frame
      simp only [step]
      generalize system.state.pushRx frame = result at pushed
      cases pushed with
      | refused failure => exact ⟨rxTokens, rxUnclaimed, txTokens, leases⟩
      | queued slot free up ready current holds =>
          refine ⟨?_, ?_, txTokens, leases⟩
          · simpa [ready, free] using rxTokens
          · simp [ready]
  | receive =>
      have received := system.state.receive_received
      simp only [step]
      generalize system.state.receive = result at received
      cases received with
      | idle => exact ⟨rxTokens, rxUnclaimed, txTokens, leases⟩
      | discarded ready =>
          refine ⟨?_, ?_, txTokens, leases⟩
          · simpa [ready, Slot.release] using rxTokens
          · simp [Slot.release]
      | taken up ready current free =>
          constructor
          · simpa [ready] using rxTokens
          · simp
          · simpa [free] using txTokens
          · simpa [free] using leases
  | transmit =>
      have reserved := system.state.transmit_reserved
      simp only [step]
      generalize system.state.transmit = result at reserved
      cases reserved with
      | idle => exact ⟨rxTokens, rxUnclaimed, txTokens, leases⟩
      | taken up free =>
          refine ⟨rxTokens, rxUnclaimed, ?_, ?_⟩
          · simpa [free] using txTokens
          · simpa [free] using leases
  | consumeRx index f =>
      simp only [step]
      split
      · exact ⟨rxTokens, rxUnclaimed, txTokens, leases⟩
      · rename_i token found
        obtain ⟨_, gone⟩ := length_eraseIdx_of_found rxTokens found
        refine ⟨?_, ?_, txTokens, leases⟩
        · simpa [NetworkState.consumeRx, NetworkState.releaseRx, Slot.release] using gone
        · simp [NetworkState.consumeRx, NetworkState.releaseRx, Slot.release]
  | dropRx index =>
      simp only [step]
      split
      · exact ⟨rxTokens, rxUnclaimed, txTokens, leases⟩
      · rename_i token found
        obtain ⟨_, gone⟩ := length_eraseIdx_of_found rxTokens found
        refine ⟨?_, ?_, txTokens, leases⟩
        · simpa [NetworkState.dropRx, NetworkState.releaseRx, Slot.release] using gone
        · simp [NetworkState.dropRx, NetworkState.releaseRx, Slot.release]
  | consumeTx index len f =>
      simp only [step]
      split
      · exact ⟨rxTokens, rxUnclaimed, txTokens, leases⟩
      · rename_i token found
        obtain ⟨client, gone⟩ := length_eraseIdx_of_found txTokens found
        have written := system.state.consumeTx_written token len f
        generalize system.state.consumeTx token len f = result at written
        cases written with
        | queued slot active current ready =>
            refine ⟨rxTokens, rxUnclaimed, ?_, ?_⟩
            · simpa [ready] using gone
            · simpa [ready, client] using leases
        | released slot free =>
            refine ⟨rxTokens, rxUnclaimed, ?_, ?_⟩
            · simpa [free] using gone
            · simpa [free, client] using leases
  | dropTx index =>
      simp only [step]
      split
      · exact ⟨rxTokens, rxUnclaimed, txTokens, leases⟩
      · rename_i token found
        obtain ⟨client, gone⟩ := length_eraseIdx_of_found txTokens found
        refine ⟨rxTokens, rxUnclaimed, ?_, ?_⟩
        · simpa [NetworkState.dropTx, NetworkState.releaseTx, Slot.release] using gone
        · simpa [NetworkState.dropTx, NetworkState.releaseTx, Slot.release, client] using leases
  | takeTx =>
      have leased := system.state.takeTx_leased
      simp only [step]
      generalize system.state.takeTx = result at leased
      cases leased with
      | idle => exact ⟨rxTokens, rxUnclaimed, txTokens, leases⟩
      | discarded ready =>
          refine ⟨rxTokens, rxUnclaimed, ?_, ?_⟩
          · simpa [ready, Slot.release] using txTokens
          · simpa [ready, Slot.release] using leases
      | taken up ready current =>
          refine ⟨rxTokens, rxUnclaimed, ?_, ?_⟩
          · simpa [ready] using txTokens
          · simpa [ready] using leases
  | asSlice index =>
      simp only [step]
      split
      · exact ⟨rxTokens, rxUnclaimed, txTokens, leases⟩
      · exact ⟨rxTokens, rxUnclaimed, txTokens, leases⟩
  | report index outcome =>
      simp only [step, NetworkState.report_eq]
      split
      · exact ⟨rxTokens, rxUnclaimed, txTokens, leases⟩
      · rename_i lease found
        exact owned_endLease _ ⟨rxTokens, rxUnclaimed, txTokens, leases⟩ found
  | dropLease index =>
      simp only [step, NetworkState.dropLease_eq]
      split
      · exact ⟨rxTokens, rxUnclaimed, txTokens, leases⟩
      · rename_i lease found
        exact owned_endLease _ ⟨rxTokens, rxUnclaimed, txTokens, leases⟩ found

/-! ## Frames -/

/-- A slot whose epoch is active holds the frame that the trace has waiting. -/
structure Queued (system : QueueSystem w frameSize) : Prop where
  epoch : system.state.linkEpoch = BitVec.ofNat w (links system.trace)
  rx : system.state.rx.state ≠ .free → Dated (links system.trace) system.state.rx.epoch
    (queuedRx system.trace = some system.state.rx.frame)
  tx : system.state.tx.state = .ready ∨ system.state.tx.state = .producer →
    Dated (links system.trace) system.state.tx.epoch
      (queuedTx system.trace = some system.state.tx.frame ∧
        heldTx system.trace =
          if system.state.tx.state = .producer then some system.state.tx.frame else none)
  once : Justified QueueEvent.Once system.trace

theorem queued_start : (start : QueueSystem w frameSize).Queued := by
  constructor
  · simp [start, NetworkState.new, links]
  · simp [start, NetworkState.new, Slot.new]
  · simp [start, NetworkState.new, Slot.new]
  · exact justified_nil

section Steps
variable {system : QueueSystem w frameSize} (owned : system.Owned) (queued : system.Queued)
  (few : links system.trace < 2 ^ w)

include queued in
theorem queued_setAuthorizedLink (up : Bool) : (system.step (.setAuthorizedLink up)).Queued := by
  obtain ⟨epoch, rx, tx, once⟩ := queued
  simp only [step, NetworkState.setAuthorizedLink]
  split
  · rw [List.append_nil]
    exact ⟨epoch, rx, tx, once⟩
  · constructor
    · simp [epoch, BitVec.ofNat_add]
    · intro held
      rw [links_append, if_pos rfl]
      dsimp only at held ⊢
      rw [discardReady_state] at held
      rw [NetworkState.discardReady_eq]
      split at held
      · exact absurd rfl held
      · rename_i unready
        rw [if_neg unready]
        exact (rx held).next
    · intro held
      rw [links_append, if_pos rfl]
      dsimp only at held ⊢
      rw [discardReady_state] at held
      rw [NetworkState.discardReady_eq]
      split at held
      · simp at held
      · rename_i unready
        rw [if_neg unready]
        exact (tx held).next
    · exact once.append trivial

include queued in
theorem queued_pushRx (frame : Bytes) : (system.step (.pushRx frame)).Queued := by
  obtain ⟨epoch, rx, tx, once⟩ := queued
  have pushed := system.state.pushRx_pushed frame
  simp only [step]
  generalize system.state.pushRx frame = result at pushed
  cases pushed with
  | refused failure => exact ⟨epoch, rx, tx, once⟩
  | queued slot free up ready current holds =>
      constructor
      · simpa using epoch
      · intro _
        simp only [links_append, queuedRx_append, reduceCtorEq, if_false, Nat.add_zero]
        rw [current, epoch, holds]
        exact dated_now rfl
      · simpa using tx
      · exact once.append trivial

include queued in
theorem queued_receive : (system.step .receive).Queued := by
  obtain ⟨epoch, rx, tx, once⟩ := queued
  have received := system.state.receive_received
  simp only [step]
  generalize system.state.receive = result at received
  cases received with
  | idle => exact ⟨epoch, rx, tx, once⟩
  | discarded ready => exact ⟨epoch, fun held => absurd rfl held, tx, once⟩
  | taken up ready current free =>
      refine ⟨epoch, fun _ => rx (by simp [ready]), ?_, once⟩
      simp

include queued in
theorem queued_transmit : (system.step .transmit).Queued := by
  obtain ⟨epoch, rx, tx, once⟩ := queued
  have reserved := system.state.transmit_reserved
  simp only [step]
  generalize system.state.transmit = result at reserved
  cases reserved with
  | idle => exact ⟨epoch, rx, tx, once⟩
  | taken up free =>
      refine ⟨epoch, rx, ?_, once⟩
      simp

theorem lentRx_of_some {state : NetworkState w frameSize} {token : RxToken w} {frame : Bytes}
    (lent : state.lentRx token = some frame) :
    state.epochIsActive token.epoch = true ∧ state.rx.epoch = token.epoch ∧
      state.rx.frame = frame := by
  rw [NetworkState.lentRx] at lent
  split at lent
  · rename_i valid
    rw [Bool.and_eq_true, decide_eq_true_iff] at valid
    cases lent
    exact ⟨valid.1, valid.2, rfl⟩
  · cases lent

include owned queued few in
theorem queued_consumeRx (index : Nat) (f : SliceEdit) :
    (system.step (.consumeRx index f)).Queued := by
  obtain ⟨epoch, rx, tx, once⟩ := queued
  simp only [step]
  split
  · exact ⟨epoch, rx, tx, once⟩
  · rename_i token found
    obtain ⟨client, _⟩ := length_eraseIdx_of_found owned.rxTokens found
    cases lent : system.state.lentRx token with
    | some frame =>
        obtain ⟨active, dated, rfl⟩ := lentRx_of_some lent
        rw [NetworkState.epochIsActive_iff] at active
        have waiting : queuedRx system.trace = some system.state.rx.frame :=
          (rx (by simp [client])).current few (dated.trans (active.2.symm.trans epoch))
        simp only [NetworkState.consumeRx, NetworkState.releaseRx, lent]
        constructor
        · simpa using epoch
        · exact fun held => absurd rfl held
        · simpa using tx
        · exact once.append (once_received waiting)
    | none =>
        simp only [NetworkState.consumeRx, NetworkState.releaseRx, lent]
        constructor
        · simpa using epoch
        · exact fun held => absurd rfl held
        · simpa using tx
        · simpa using once

include queued in
theorem queued_dropRx (index : Nat) : (system.step (.dropRx index)).Queued := by
  obtain ⟨epoch, rx, tx, once⟩ := queued
  simp only [step]
  split
  · exact ⟨epoch, rx, tx, once⟩
  · exact ⟨epoch, fun held => absurd rfl held, tx, once⟩

include queued in
theorem queued_consumeTx (index len : Nat) (f : SliceEdit) :
    (system.step (.consumeTx index len f)).Queued := by
  obtain ⟨epoch, rx, tx, once⟩ := queued
  simp only [step]
  split
  · exact ⟨epoch, rx, tx, once⟩
  · rename_i token found
    have written := system.state.consumeTx_written token len f
    generalize system.state.consumeTx token len f = result at written
    cases written with
    | queued slot active current ready =>
        rw [NetworkState.epochIsActive_iff] at active
        constructor
        · simpa using epoch
        · simpa using rx
        · intro _
          have dated : slot.epoch = BitVec.ofNat w (links system.trace) :=
            current.trans (active.2.symm.trans epoch)
          simp only [Option.map_some, Option.toList_some, links_append, queuedTx_append,
            heldTx_append, reduceCtorEq, if_false, Nat.add_zero, dated, ready]
          exact dated_now (by simp)
        · exact once.append trivial
    | released slot free =>
        constructor
        · simpa using epoch
        · simpa using rx
        · simp [free]
        · simpa using once

include queued in
theorem queued_dropTx (index : Nat) : (system.step (.dropTx index)).Queued := by
  obtain ⟨epoch, rx, tx, once⟩ := queued
  simp only [step]
  split
  · exact ⟨epoch, rx, tx, once⟩
  · refine ⟨epoch, rx, ?_, once⟩
    simp [NetworkState.dropTx, NetworkState.releaseTx, Slot.release]

include queued few in
theorem queued_takeTx : (system.step .takeTx).Queued := by
  obtain ⟨epoch, rx, tx, once⟩ := queued
  have leased := system.state.takeTx_leased
  simp only [step]
  generalize system.state.takeTx = result at leased
  cases leased with
  | idle => exact ⟨epoch, rx, tx, once⟩
  | discarded ready =>
      refine ⟨epoch, rx, ?_, once⟩
      simp [Slot.release]
  | taken up ready current =>
      have dated : system.state.tx.epoch = BitVec.ofNat w (links system.trace) :=
        current.trans epoch
      obtain ⟨waiting, idle⟩ := (tx (.inl ready)).current few dated
      rw [if_neg (by simp [ready])] at idle
      have slice : NetworkState.leaseSlice { epoch := system.state.linkEpoch }
          { system.state with tx := { system.state.tx with state := .producer } } =
            system.state.tx.frame := by
        simp [NetworkState.leaseSlice, NetworkState.leaseIsCurrent, NetworkState.epochIsActive, up,
          current, Slot.frame]
      dsimp only
      rw [slice]
      constructor
      · simpa using epoch
      · simpa using rx
      · intro _
        simp only [links_append, queuedTx_append, heldTx_append, reduceCtorEq, if_false,
          Nat.add_zero, dated, if_true]
        exact dated_now ⟨waiting, rfl⟩
      · exact once.append (once_leased waiting idle)

include owned queued few in
theorem queued_asSlice (index : Nat) : (system.step (.asSlice index)).Queued := by
  obtain ⟨epoch, rx, tx, once⟩ := queued
  simp only [step]
  split
  · exact ⟨epoch, rx, tx, once⟩
  · rename_i lease found
    obtain ⟨producer, _⟩ := length_eraseIdx_of_found owned.leases found
    split
    · rename_i current
      have slice : system.state.leaseSlice lease = system.state.tx.frame := by
        rw [NetworkState.leaseSlice, if_pos current]
      rw [NetworkState.leaseIsCurrent, Bool.and_eq_true, decide_eq_true_iff,
        NetworkState.epochIsActive_iff] at current
      obtain ⟨_, held⟩ := (tx (.inr producer)).current few
        (current.2.trans (current.1.2.symm.trans epoch))
      rw [if_pos producer] at held
      rw [slice]
      constructor
      · simpa using epoch
      · simpa using rx
      · simpa using tx
      · exact once.append (once_read held)
    · rw [List.append_nil]
      exact ⟨epoch, rx, tx, once⟩

include owned queued in
theorem queued_endLease {index : Nat} {lease : TxLease w}
    (found : system.leases[index]? = some lease) (returned : Bool) :
    Queued { system with
      state := system.state.endLease returned
      leases := system.leases.eraseIdx index
      trace := system.trace ++ [leaseEvent returned] } := by
  obtain ⟨epoch, rx, tx, once⟩ := queued
  obtain ⟨producer, _⟩ := length_eraseIdx_of_found owned.leases found
  cases returned with
  | false =>
      constructor
      · simpa [leaseEvent, NetworkState.endLease, NetworkState.releaseTx] using epoch
      · simpa [leaseEvent, NetworkState.endLease, NetworkState.releaseTx] using rx
      · simp [NetworkState.endLease, NetworkState.releaseTx, Slot.release]
      · exact once.append trivial
  | true =>
      constructor
      · simpa [leaseEvent, NetworkState.endLease, NetworkState.returnTx] using epoch
      · simpa [leaseEvent, NetworkState.endLease, NetworkState.returnTx] using rx
      · intro _
        simp only [leaseEvent, if_true, links_append, queuedTx_append, heldTx_append, reduceCtorEq,
          if_false, Nat.add_zero]
        apply (tx (.inr producer)).mono
        rintro ⟨waiting, -⟩
        exact ⟨waiting, rfl⟩
      · exact once.append trivial

include owned queued few in
theorem queued_step (move : QueueMove) : (system.step move).Queued := by
  cases move with
  | setAuthorizedLink up => exact queued_setAuthorizedLink queued up
  | pushRx frame => exact queued_pushRx queued frame
  | receive => exact queued_receive queued
  | transmit => exact queued_transmit queued
  | consumeRx index f => exact queued_consumeRx owned queued few index f
  | dropRx index => exact queued_dropRx queued index
  | consumeTx index len f => exact queued_consumeTx queued index len f
  | dropTx index => exact queued_dropTx queued index
  | takeTx => exact queued_takeTx queued few
  | asSlice index => exact queued_asSlice owned queued few index
  | report index outcome =>
      simp only [step, NetworkState.report_eq]
      split
      · exact queued
      · rename_i lease found
        exact queued_endLease owned queued found _
  | dropLease index =>
      simp only [step, NetworkState.dropLease_eq]
      split
      · exact queued
      · rename_i lease found
        exact queued_endLease owned queued found _

end Steps

/-! ## Runs -/

theorem links_mono_append (trace added : List QueueEvent) : links trace ≤ links (trace ++ added) := by
  rw [links, links, List.count_append]
  exact Nat.le_add_right _ _

/-- The trace only grows, so the link changes of a run bound those of its start. -/
theorem links_step (system : QueueSystem w frameSize) (move : QueueMove) :
    links system.trace ≤ links (system.step move).trace := by
  cases move <;> simp only [step]
  case setAuthorizedLink up => exact links_mono_append _ _
  case asSlice index =>
    split
    · exact Nat.le_refl _
    · exact links_mono_append _ _
  all_goals split
  all_goals first
    | exact Nat.le_refl _
    | exact links_mono_append _ _

theorem links_run (system : QueueSystem w frameSize) (moves : List QueueMove) :
    links system.trace ≤ links (runMoves step system moves).trace := by
  induction moves generalizing system with
  | nil => exact Nat.le_refl _
  | cons move rest hypothesis =>
      exact Nat.le_trans (links_step system move) (hypothesis (system.step move))

theorem owned_run {system : QueueSystem w frameSize} (owned : system.Owned)
    (moves : List QueueMove) : (runMoves step system moves).Owned :=
  runMoves_preserves owned_step owned moves

theorem queued_run {system : QueueSystem w frameSize} (owned : system.Owned)
    (queued : system.Queued) (moves : List QueueMove)
    (few : links (runMoves step system moves).trace < 2 ^ w) :
    (runMoves step system moves).Queued := by
  induction moves generalizing system with
  | nil => exact queued
  | cons move rest hypothesis =>
      have before : links system.trace < 2 ^ w :=
        Nat.lt_of_le_of_lt (links_run system (move :: rest)) few
      exact hypothesis (owned_step system move owned) (queued_step owned queued before move) few

/-! ## Leases that give their frame back -/

/-- The next try to take a frame leases the one that was given back. -/
theorem takeTx_returnTx {state : NetworkState w frameSize} {lease : TxLease w}
    (current : state.leaseIsCurrent lease = true) :
    state.returnTx.takeTx =
      (some lease, { state with tx := { state.tx with state := .producer } }) := by
  rw [NetworkState.leaseIsCurrent, Bool.and_eq_true, decide_eq_true_iff,
    NetworkState.epochIsActive_iff] at current
  obtain ⟨⟨up, active⟩, dated⟩ := current
  simp only [NetworkState.takeTx, NetworkState.activeEpoch_eq, NetworkState.returnTx, up, if_true,
    NetworkState.discardStaleTx, active, dated, NetworkState.claimReadyTx, Slot.compareExchange,
    NetworkState.claimedTxIsCurrent, NetworkState.epochIsActive]
  simp

theorem trace_of_returned {system : QueueSystem w frameSize} {lease : TxLease w}
    (current : system.state.leaseIsCurrent lease = true) (leases : List (TxLease w)) :
    (step { system with
        state := system.state.returnTx, leases, trace := system.trace ++ [.returned] }
      .takeTx).trace =
        system.trace ++ [.returned, .leased (system.state.leaseSlice lease)] := by
  simp only [step, takeTx_returnTx current]
  have still : NetworkState.leaseIsCurrent lease
      { system.state with tx := { system.state.tx with state := .producer } } = true := current
  simp [NetworkState.leaseSlice, current, still, Slot.frame]

/-- A current lease that is reported as blocked, or dropped, gives its frame back. -/
def GivesBack (index : Nat) : QueueMove → Prop
  | .report at_ outcome => at_ = index ∧ outcome = .wouldBlock
  | .dropLease at_ => at_ = index
  | _ => False

theorem trace_of_givesBack {system : QueueSystem w frameSize} {index : Nat} {lease : TxLease w}
    {move : QueueMove} (found : system.leases[index]? = some lease)
    (current : system.state.leaseIsCurrent lease = true) (given : GivesBack index move) :
    ((system.step move).step .takeTx).trace =
      system.trace ++ [.returned, .leased (system.state.leaseSlice lease)] := by
  cases move with
  | report at_ outcome =>
      obtain ⟨rfl, rfl⟩ := given
      have returned := trace_of_returned current (system.leases.eraseIdx at_)
      simpa [step, found, NetworkState.report, current, leaseEvent] using returned
  | dropLease at_ =>
      cases given
      have returned := trace_of_returned current (system.leases.eraseIdx index)
      simpa [step, found, NetworkState.dropLease, current, leaseEvent] using returned
  | _ => cases given

/-! ## Delivery -/

/-- A slot belongs to a client, or to the driver, exactly while one of them holds a token
or a lease for it. -/
structure Accounted (system : QueueSystem w frameSize) : Prop where
  rxClient : system.state.rx.state = .client ↔ system.rxTokens.length = 1
  txClient : system.state.tx.state = .client ↔ system.txTokens.length = 1
  rxProducer : system.state.rx.state ≠ .producer
  txProducer : system.state.tx.state = .producer ↔ system.leases.length = 1
  single : system.rxTokens.length ≤ 1 ∧ system.txTokens.length + system.leases.length ≤ 1

theorem Owned.accounted {system : QueueSystem w frameSize} (owned : system.Owned) :
    system.Accounted := by
  obtain ⟨rxTokens, rxUnclaimed, txTokens, leases⟩ := owned
  refine ⟨?_, ?_, rxUnclaimed, ?_, ?_, ?_⟩
  · rw [rxTokens]
    split <;> simp_all
  · rw [txTokens]
    split <;> simp_all
  · rw [leases]
    split <;> simp_all
  · rw [rxTokens]
    split <;> omega
  · rw [txTokens, leases]
    cases system.state.tx.state <;> simp

/-- Once nothing is outstanding, no slot is left with an owner. -/
theorem Accounted.unowned {system : QueueSystem w frameSize} (accounted : system.Accounted)
    (rxGone : system.rxTokens = []) (txGone : system.txTokens = []) (leaseGone : system.leases = []) :
    (system.state.rx.state = .free ∨ system.state.rx.state = .ready) ∧
      (system.state.tx.state = .free ∨ system.state.tx.state = .ready) := by
  obtain ⟨rxClient, txClient, rxProducer, txProducer, _⟩ := accounted
  rw [rxGone] at rxClient
  rw [txGone] at txClient
  rw [leaseGone] at txProducer
  constructor
  · cases rx : system.state.rx.state <;> simp_all
  · cases tx : system.state.tx.state <;> simp_all

/-- Each frame that left the queue entered it under the link that was active, and nothing
took it before, except a lease that gave it back; and no slot has an owner that is gone. -/
structure DeliversOnce (system : QueueSystem w frameSize) : Prop where
  once : Justified QueueEvent.Once system.trace
  again : ∀ index lease move, system.leases[index]? = some lease →
    system.state.leaseIsCurrent lease = true → GivesBack index move →
    ((system.step move).step .takeTx).trace =
      system.trace ++ [.returned, .leased (system.state.leaseSlice lease)]
  accounted : system.Accounted
  unowned : system.rxTokens = [] → system.txTokens = [] → system.leases = [] →
    (system.state.rx.state = .free ∨ system.state.rx.state = .ready) ∧
      (system.state.tx.state = .free ∨ system.state.tx.state = .ready)

theorem queue_delivers_once (moves : List QueueMove)
    (few : links (runMoves step (start : QueueSystem w frameSize) moves).trace < 2 ^ w) :
    (runMoves step (start : QueueSystem w frameSize) moves).DeliversOnce := by
  have queued := queued_run owned_start queued_start moves few
  have first : (start : QueueSystem w frameSize).Owned := owned_start
  have accounted := (owned_run first moves).accounted
  constructor
  · exact queued.once
  · intro index lease move found current given
    exact trace_of_givesBack found current given
  · exact accounted
  · exact accounted.unowned

/-- A closure that leaves the slice as it is. -/
def keepSlice : SliceEdit := fun slice => ⟨slice, rfl⟩

/-- A received frame, a sent frame that is leased twice, and a link change with the second
lease outstanding. -/
def sampleMoves : List QueueMove :=
  [.setAuthorizedLink true, .pushRx [1, 2], .receive, .consumeRx 0 keepSlice,
    .consumeTx 0 2 keepSlice, .takeTx, .report 0 .wouldBlock, .takeTx, .setAuthorizedLink false,
    .dropLease 0]

theorem sampleMoves_deliver : links (runMoves step (start : QueueSystem 32 4) sampleMoves).trace = 2 ∧
    (runMoves step (start : QueueSystem 32 4) sampleMoves).DeliversOnce := by
  have changes : links (runMoves step (start : QueueSystem 32 4) sampleMoves).trace = 2 := by
    decide
  exact ⟨changes, queue_delivers_once sampleMoves (by rw [changes]; decide)⟩

end QueueSystem

end Nrf7002
