import Nrf7002.Network.Exclusive

/-! # Operations end

No operation of the network queue waits for another: it ends after a fixed number of
accesses of its own, whatever the others do between them. -/

set_option autoImplicit false

namespace Nrf7002
open Foundation Thread SharedQueue

variable {w frameSize : Nat} {α : Type}

namespace SharedQueue

theorem within_take (access : QueueAccess w frameSize) : Within (take access) 1 :=
  within_perform access

theorem within_activeEpochIn (tries : Nat) :
    Within (activeEpochIn tries : SharedProgram w frameSize (Option (BitVec w))) (3 * tries) := by
  induction tries with
  | zero => exact within_pure none 0
  | succ tries hypothesis =>
      rw [Nat.mul_succ]
      exact (within_take _).bind fun first => (within_take _).bind fun up =>
        within_ite (within_pure none _) <| (within_take _).bind fun second =>
          within_ite (within_pure _ _) hypothesis

theorem within_activeEpoch :
    Within (activeEpoch : SharedProgram w frameSize (Option (BitVec w))) 9 :=
  within_activeEpochIn 3

theorem within_epochIsActive (epoch : BitVec w) :
    Within (epochIsActive epoch : SharedProgram w frameSize Bool) 2 :=
  (within_take _).bind fun _ => within_ite (within_pure _ 1) <|
    (within_take _).bind fun _ => within_pure _ 0

theorem within_release (name : SlotName) :
    Within (release name : SharedProgram w frameSize Unit) 3 :=
  (within_take _).bind fun _ => (within_take _).bind fun _ => within_take _

theorem within_releaseTx : Within (releaseTx : SharedProgram w frameSize Unit) 4 :=
  (within_release .tx).bind fun _ => within_take _

theorem within_discardReadyRx : Within (discardReadyRx : SharedProgram w frameSize Unit) 4 :=
  (within_take _).bind fun _ => within_ite (within_release .rx) (within_pure () 3)

theorem within_discardReadyTx : Within (discardReadyTx : SharedProgram w frameSize Unit) 5 :=
  (within_take _).bind fun _ => within_ite within_releaseTx (within_pure () 4)

theorem within_setAuthorizedLink (up : Bool) :
    Within (setAuthorizedLink up : SharedProgram w frameSize Unit) 15 :=
  (within_take _).bind fun _ => within_ite (within_pure () 14) <|
    (within_take _).bind fun _ => within_discardReadyRx.bind fun _ =>
    within_discardReadyTx.bind fun _ => (within_take _).bind fun _ =>
    (within_take _).bind fun _ => (within_take _).bind fun _ => within_take _

theorem within_reserveTx (epoch : BitVec w) :
    Within (reserveTx epoch : SharedProgram w frameSize Bool) 10 := by
  have confirm : Within (confirmReservedTx epoch : SharedProgram w frameSize Bool) 6 :=
    (within_epochIsActive epoch).bind fun _ => within_ite (within_pure true 4)
      (within_releaseTx.bind fun _ => within_pure false 0)
  exact (within_epochIsActive epoch).bind fun _ => within_ite (within_pure false 8) <|
    (within_take _).bind fun _ => within_ite (within_pure false 7) <|
    (within_take _).bind fun _ => confirm

theorem within_claimedIsCurrent (name : SlotName) (epoch : BitVec w) :
    Within (claimedIsCurrent name epoch : SharedProgram w frameSize Bool) 3 :=
  (within_take _).bind fun _ => within_ite (within_pure false 2) (within_epochIsActive epoch)

theorem within_readyUnderOther (name : SlotName) (epoch : BitVec w) :
    Within (readyUnderOther name epoch : SharedProgram w frameSize Bool) 2 :=
  (within_take _).bind fun _ => within_ite (within_pure false 1) <|
    (within_take _).bind fun _ => within_pure _ 0

theorem within_reserveReceive (epoch : BitVec w) :
    Within (reserveReceive epoch : SharedProgram w frameSize Bool) 30 := by
  have claim : Within (claimReadyRx epoch : SharedProgram w frameSize Bool) 8 :=
    (within_epochIsActive epoch).bind fun _ => within_ite (within_pure false 6) <|
      (within_readyUnderOther .rx epoch).bind fun _ => within_ite
        (within_discardReadyRx.bind fun _ => within_pure false 0)
        ((within_take _).mono (by omega))
  have confirm : Within (confirmClaimedRx epoch : SharedProgram w frameSize Bool) 6 :=
    (within_claimedIsCurrent .rx epoch).bind fun _ => within_ite (within_pure true 3)
      ((within_release .rx).bind fun _ => within_pure false 0)
  have restore : Within (restoreRxAfterTxContention epoch : SharedProgram w frameSize Unit) 6 :=
    (within_claimedIsCurrent .rx epoch).bind fun _ => within_ite
      (((within_take _).bind fun _ => within_take _).mono (by omega)) (within_release .rx)
  exact claim.bind fun _ => within_ite (within_pure false 22) <|
    confirm.bind fun _ => within_ite (within_pure false 16) <|
    (within_reserveTx epoch).bind fun _ => within_ite (within_pure true 6) <|
    restore.bind fun _ => within_pure false 0

/-- What follows the epoch, where the link is up. -/
theorem within_current {rest : Option (BitVec w) → SharedProgram w frameSize α} {limit : Nat}
    (without : Within (rest none) limit) (under : ∀ epoch, Within (rest (some epoch)) limit) :
    Within (activeEpoch >>= rest) (limit + 9) := by
  refine within_activeEpoch.bind fun epoch => ?_
  cases epoch with
  | none => exact without
  | some epoch => exact under epoch

theorem within_tryReceive :
    Within (tryReceive : SharedProgram w frameSize (Option (RxToken w × TxToken w))) 39 := by
  refine within_current (within_pure none 30) fun epoch => ?_
  exact (within_reserveReceive epoch).bind fun _ =>
    within_ite (within_pure none 0) (within_pure _ 0)

theorem within_tryTransmit :
    Within (tryTransmit : SharedProgram w frameSize (Option (TxToken w))) 19 := by
  refine within_current (within_pure none 10) fun epoch => ?_
  exact (within_reserveTx epoch).bind fun _ =>
    within_ite (within_pure none 0) (within_pure _ 0)

theorem within_watch (watcher : Watcher) (watched : Bool) :
    Within (watch watcher watched : SharedProgram w frameSize Unit) 1 :=
  within_ite (within_take _) (within_pure () 1)

theorem within_receive (task : TaskId) (watched : Bool) :
    Within (receive task watched : SharedProgram w frameSize (Option (RxToken w × TxToken w)))
      82 := by
  refine within_tryReceive.bind fun tokens => ?_
  cases tokens with
  | some tokens => exact within_pure _ 43
  | none =>
      exact (within_watch ⟨task, .receive⟩ watched).bind fun _ => (within_take _).bind fun _ =>
        (within_take _).bind fun _ => (within_take _).bind fun _ => within_tryReceive

theorem within_transmit (task : TaskId) (watched : Bool) :
    Within (transmit task watched : SharedProgram w frameSize (Option (TxToken w))) 41 := by
  refine within_tryTransmit.bind fun token => ?_
  cases token with
  | some token => exact within_pure _ 22
  | none =>
      exact (within_watch ⟨task, .transmit⟩ watched).bind fun _ => (within_take _).bind fun _ =>
        (within_take _).bind fun _ => within_tryTransmit

theorem within_linkState (task : TaskId) (watched : Bool) :
    Within (linkState task watched : SharedProgram w frameSize Bool) 5 :=
  (within_take _).bind fun _ => (within_watch ⟨task, .linkState⟩ watched).bind fun _ =>
    (within_take _).bind fun _ => (within_take _).bind fun second =>
    within_ite ((within_take _).bind fun _ => within_pure second 0) (within_pure second 1)

theorem within_txIsReady : Within (txIsReady : SharedProgram w frameSize Bool) 11 := by
  refine within_current (within_pure false 2) fun epoch => ?_
  exact (within_take _).bind fun _ => within_ite (within_pure false 1) <|
    (within_take _).bind fun _ => within_pure _ 0

theorem within_pollTxReady (task : TaskId) (watched : Bool) :
    Within (pollTxReady task watched : SharedProgram w frameSize Bool) 24 :=
  within_txIsReady.bind fun _ => within_ite (within_pure true 13) <|
    (within_watch ⟨task, .txReady⟩ watched).bind fun _ => (within_take _).bind fun _ =>
    within_txIsReady

theorem within_registerTxWaker (task : TaskId) (watched : Bool) :
    Within (registerTxWaker task watched : SharedProgram w frameSize Unit) 14 :=
  (within_watch ⟨task, .txReady⟩ watched).bind fun _ => (within_take _).bind fun _ =>
    within_txIsReady.bind fun _ => within_ite (within_take _) (within_pure () 1)

/-! ## Tokens and leases -/

theorem within_isCurrent (name : SlotName) (epoch : BitVec w) :
    Within (isCurrent name epoch : SharedProgram w frameSize Bool) 3 :=
  (within_epochIsActive epoch).bind fun _ => within_ite (within_pure false 1) <|
    (within_take _).bind fun _ => within_pure _ 0

theorem within_currentLen (name : SlotName) (current : Bool) :
    Within (currentLen name current : SharedProgram w frameSize Nat) 1 :=
  within_ite (within_pure 0 1) <| (within_take _).bind fun _ => within_pure _ 0

theorem within_consumeRx (token : RxToken w) (f : SliceEdit) :
    Within (consumeRx token f : SharedProgram w frameSize Unit) 9 :=
  (within_isCurrent .rx token.epoch).bind fun valid =>
    (within_currentLen .rx valid).bind fun _ => (within_take _).bind fun _ =>
    within_ite ((within_take _).bind fun _ => within_release .rx)
      ((within_release .rx).mono (by omega))

theorem within_consumeTx (token : TxToken w) (len : Nat) (f : SliceEdit) :
    Within (consumeTx token len f : SharedProgram w frameSize Unit) 8 := by
  have publish (frame : Bytes) :
      Within (publishTx token.epoch frame len : SharedProgram w frameSize Unit) 4 :=
    (within_take _).bind fun _ => (within_take _).bind fun _ =>
      (within_take _).bind fun _ => within_take _
  exact within_ite ((within_take _).bind fun slice => (within_isCurrent .tx token.epoch).bind
    fun _ => within_ite (publish (f slice).1) within_releaseTx)
    (within_releaseTx.mono (by omega))

theorem within_dropLease (lease : TxLease w) :
    Within (dropLease lease : SharedProgram w frameSize Unit) 7 := by
  have back : Within (returnTx : SharedProgram w frameSize Unit) 4 :=
    ((within_take _).bind fun _ => within_take _ : Within _ 2).mono (by omega)
  exact (within_isCurrent .tx lease.epoch).bind fun _ => within_ite back within_releaseTx

theorem within_report (lease : TxLease w) (outcome : TxOutcome) :
    Within (report lease outcome : SharedProgram w frameSize Unit) 7 :=
  within_ite (within_dropLease lease) (within_releaseTx.mono (by omega))

theorem within_asSlice (lease : TxLease w) :
    Within (asSlice lease : SharedProgram w frameSize Bytes) 6 :=
  (within_isCurrent .tx lease.epoch).bind fun current =>
    (within_currentLen .tx current).bind fun _ => (within_take _).bind fun slice =>
    within_ite ((within_take _).bind fun _ => within_pure slice 0) (within_pure slice 1)

/-! ## The driver's side -/

theorem within_pushRx (frame : Bytes) :
    Within (pushRx frame : SharedProgram w frameSize (Except QueueError Unit)) 24 := by
  have publish (epoch : BitVec w) (fits : frame.length ≤ frameSize) :
      Within (publishRx epoch frame fits : SharedProgram w frameSize Unit) 5 :=
    (within_take _).bind fun _ => (within_take _).bind fun _ => (within_take _).bind fun _ =>
      (within_take _).bind fun _ => within_take _
  have discard (epoch : BitVec w) :
      Within (discardReadyRxEpoch epoch : SharedProgram w frameSize Unit) 5 :=
    (within_take _).bind fun _ => within_ite (within_pure () 4) within_discardReadyRx
  have copy (epoch : BitVec w) (fits : frame.length ≤ frameSize) :
      Within (copyAndPublishRx epoch frame fits : SharedProgram w frameSize _) 14 := by
    refine (within_epochIsActive epoch).bind fun _ => within_ite ?_ ?_
    · exact (within_release .rx).bind fun _ => within_pure _ 9
    · refine (publish epoch fits).bind fun _ => (within_epochIsActive epoch).bind fun _ =>
        within_ite ((discard epoch).bind fun _ => within_pure _ 0) ?_
      exact (within_take _).bind fun _ => within_pure _ 4
  rw [pushRx]
  split
  · rename_i fits
    refine within_current (within_pure _ 15) fun epoch => ?_
    exact (within_take _).bind fun _ => within_ite (within_pure _ 14) (copy epoch fits)
  · exact within_pure _ 24

theorem within_takeTx :
    Within (takeTx : SharedProgram w frameSize (Option (TxLease w))) 24 := by
  have stale (epoch : BitVec w) :
      Within (discardStaleTx epoch : SharedProgram w frameSize Bool) 7 :=
    (within_readyUnderOther .tx epoch).bind fun _ => within_ite (within_pure false 5)
      (within_discardReadyTx.bind fun _ => within_pure true 0)
  refine within_current (within_pure none 15) fun epoch => ?_
  refine (stale epoch).bind fun _ => within_ite (within_pure none 8) ?_
  refine (within_take _).bind fun _ => within_ite (within_pure none 7) ?_
  refine (within_claimedIsCurrent .tx epoch).bind fun _ => within_ite ?_ (within_pure _ 4)
  exact within_releaseTx.bind fun _ => within_pure none 0

end SharedQueue

/-! ## Runs -/

/-- No operation takes more accesses than a reception. -/
theorem within_program (operation : SharedCall) (watched : Bool) :
    Within (operation.program watched : SharedProgram w frameSize (Outcome w)) 82 := by
  cases operation with
  | setAuthorizedLink up =>
      exact (within_setAuthorizedLink up).bind fun _ => within_pure _ 67
  | pushRx frame => exact (within_pushRx frame).bind fun _ => within_pure _ 58
  | takeTx => exact within_takeTx.bind fun _ => within_pure _ 58
  | receive task =>
      refine (within_receive task watched).bind fun tokens => ?_
      cases tokens <;> exact within_pure _ 0
  | transmit task =>
      refine (within_transmit task watched).bind fun token => ?_
      cases token <;> exact within_pure _ 41
  | linkState task => exact (within_linkState task watched).bind fun _ => within_pure _ 77
  | pollTxReady task =>
      exact (within_pollTxReady task watched).bind fun _ =>
        within_ite (within_pure _ 58) (within_pure _ 58)
  | registerTxWaker task =>
      exact (within_registerTxWaker task watched).bind fun _ => within_pure _ 68

namespace SharedMove

/-- The move starts an operation. -/
def starts : SharedMove → Bool
  | .advance _ => false
  | _ => true

end SharedMove

variable [AtomicWaker]

namespace SharedSystem
variable {system : SharedSystem w frameSize} {total limit : Nat}

/-- The move lets a thread go on. -/
def goesOn (system : SharedSystem w frameSize) : SharedMove → Bool
  | .advance index => index < system.threads.length
  | _ => false

theorem threads_collect (outcome : Outcome w) :
    (system.collect outcome).threads = system.threads := by
  obtain ⟨_, _, _, watcher, _⟩ := outcome
  cases watcher <;> rfl

/-- What one move does to the budget. -/
def Spends (system : SharedSystem w frameSize) (move : SharedMove) (total : Nat) : Prop :=
  ∃ next, Budget (system.step move).threads next ∧
    next + (if system.goesOn move then 1 else 0) ≤ total + if move.starts then 83 else 0

theorem spends_quietly {program : SharedProgram w frameSize Unit}
    (budget : Budget system.threads total) (within : Within program 9) :
    ∃ next, Budget (system.begin (quietly program)).threads next ∧ next ≤ total + 83 :=
  ⟨_, budget.append (within.bind fun _ => within_pure _ 0), by omega⟩

theorem spends_step (move : SharedMove) (budget : Budget system.threads total) :
    system.Spends move total := by
  have stays : ∃ next, Budget system.threads next ∧ next ≤ total + 83 := ⟨total, budget, by omega⟩
  cases move with
  | call operation =>
      have begins (watched : Bool) : ∃ next,
          Budget (system.begin (operation.program watched)).threads next ∧ next ≤ total + 83 :=
        ⟨_, budget.append (within_program operation watched), by omega⟩
      show ∃ next, Budget (system.call operation).threads next ∧ _
      rw [call]
      split
      · split
        · exact begins false
        · exact begins true
      · exact begins false
  | advance index =>
      show ∃ next, Budget (system.advance index).threads next ∧ _
      rw [advance]
      cases found : system.threads[index]? with
      | none =>
          have outside := List.getElem?_eq_none_iff.mp found
          refine ⟨total, budget, ?_⟩
          simp [goesOn, SharedMove.starts, Nat.not_lt.mpr outside]
      | some thread =>
          have inside := (List.getElem?_eq_some_iff.mp found).1
          obtain ⟨⟨less, fewer, erased⟩, goes⟩ := budget.goes found
          have used (less : Nat) (fewer : less < total) :
              less + (if system.goesOn (.advance index) then 1 else 0) ≤
                total + if (SharedMove.advance index).starts then 83 else 0 := by
            simp [goesOn, SharedMove.starts, inside]
            omega
          cases thread with
          | done outcome =>
              refine ⟨less, ?_, used less fewer⟩
              dsimp only
              rw [threads_collect]
              exact erased
          | act access next =>
              obtain ⟨less, fewer, left⟩ := goes access next rfl (access.apply system.memory).1
              exact ⟨less, left, used less fewer⟩
  | consumeRx index f =>
      show ∃ next, Budget (system.step (.consumeRx index f)).threads next ∧ _
      rw [step]
      split
      · exact stays
      · exact spends_quietly budget (within_consumeRx _ f)
  | dropRx index =>
      show ∃ next, Budget (system.step (.dropRx index)).threads next ∧ _
      rw [step]
      split
      · exact stays
      · exact spends_quietly budget ((within_release .rx).mono (by omega))
  | consumeTx index len f =>
      show ∃ next, Budget (system.step (.consumeTx index len f)).threads next ∧ _
      rw [step]
      split
      · exact stays
      · exact spends_quietly budget ((within_consumeTx _ len f).mono (by omega))
  | dropTx index =>
      show ∃ next, Budget (system.step (.dropTx index)).threads next ∧ _
      rw [step]
      split
      · exact stays
      · exact spends_quietly budget (within_releaseTx.mono (by omega))
  | asSlice index =>
      have begins (lease : TxLease w) {f : Bytes → SharedProgram w frameSize (Outcome w)}
          (ends : ∀ slice, Within (f slice) 0) : ∃ next,
          Budget (system.threads ++ [SharedQueue.asSlice lease >>= f]) next ∧
            next ≤ total + 83 :=
        ⟨_, budget.append ((within_asSlice lease).bind ends), by omega⟩
      show ∃ next, Budget (system.step (.asSlice index)).threads next ∧ _
      rw [step]
      split
      · exact stays
      · exact begins _ fun _ => within_pure _ 0
  | report index outcome =>
      show ∃ next, Budget (system.step (.report index outcome)).threads next ∧ _
      rw [step]
      split
      · exact stays
      · exact spends_quietly budget ((within_report _ outcome).mono (by omega))
  | dropLease index =>
      show ∃ next, Budget (system.step (.dropLease index)).threads next ∧ _
      rw [step]
      split
      · exact stays
      · exact spends_quietly budget ((within_dropLease _).mono (by omega))

theorem spends_run (moves : List SharedMove) (budget : Budget system.threads total) :
    (stepsOf step system moves).countP (fun taken => taken.1.goesOn taken.2) ≤
      total + 83 * moves.countP SharedMove.starts := by
  induction moves generalizing system total with
  | nil => exact Nat.zero_le _
  | cons move rest hypothesis =>
      obtain ⟨next, left, used⟩ := spends_step move budget
      have later := hypothesis left
      rw [stepsOf, List.countP_cons, List.countP_cons]
      dsimp only
      cases goes : system.goesOn move <;> cases starts : move.starts <;>
        simp only [goes, starts, if_true, Bool.false_eq_true, if_false] at used ⊢ <;> omega

end SharedSystem

/-- In every interleaving, threads go on at most 83 times for each operation started, the
hand-over of its outcome included. -/
theorem operations_end (moves : List SharedMove) :
    (stepsOf SharedSystem.step (.start : SharedSystem w frameSize) moves).countP
        (fun taken => taken.1.goesOn taken.2) ≤ 83 * moves.countP SharedMove.starts := by
  have bounded := @SharedSystem.spends_run w frameSize _ .start 0 moves .nil
  rw [Nat.zero_add] at bounded
  exact bounded

end Nrf7002
