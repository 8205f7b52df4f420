import Nrf7002.Network.Alone
import Nrf7002.Network.Exclusive

/-! # Runs in one step among the interleavings

Every run of the queue whose operations happen all at once is an interleaving of the same
operations in the same order: each runs alone, from its first access to its last. -/

set_option autoImplicit false

namespace Nrf7002
open Foundation SharedQueue

/-- The move that starts an operation; the polls are those of one task. -/
def QueueMove.started (task : TaskId) : QueueMove → SharedMove
  | .setAuthorizedLink up => .call (.setAuthorizedLink up)
  | .pushRx frame => .call (.pushRx frame)
  | .receive => .call (.receive task)
  | .transmit => .call (.transmit task)
  | .consumeRx index f => .consumeRx index f
  | .dropRx index => .dropRx index
  | .consumeTx index len f => .consumeTx index len f
  | .dropTx index => .dropTx index
  | .takeTx => .call .takeTx
  | .asSlice index => .asSlice index
  | .report index outcome => .report index outcome
  | .dropLease index => .dropLease index

/-- The operation starts, and its thread goes on by itself. -/
def RunsAlone (task : TaskId) (move : QueueMove) (block : List SharedMove) : Prop :=
  ∃ accesses, block = move.started task :: List.replicate accesses (.advance 0)

theorem polling_freed {polling : Watcher → Bool} (free : ∀ watcher, polling watcher = false)
    (watcher other : Watcher) :
    Function.update (Function.update polling watcher true) watcher false other = false := by
  rw [Function.update_idem]
  by_cases same : other = watcher
  · rw [same, Function.update_self]
  · rw [Function.update_of_ne same, free]

theorem eraseIdx_append_of_sole {α : Type} {tokens : List α} {index : Nat} {token : α}
    (sole : tokens.length ≤ 1) (found : tokens[index]? = some token) :
    tokens.eraseIdx index ++ [token] = tokens := by
  have inside := (List.getElem?_eq_some_iff.mp found).1
  obtain ⟨only, rfl⟩ := List.length_eq_one_iff.mp (show tokens.length = 1 by omega)
  obtain rfl : index = 0 := by
    rw [List.length_singleton] at inside
    omega
  cases found
  rfl

variable [AtomicWaker] {w frameSize : Nat}

namespace SharedSystem

/-- A thread alone goes on until it hands over its outcome. -/
theorem finishes (program : SharedProgram w frameSize (Outcome w))
    (system : SharedSystem w frameSize) (only : system.threads = [program]) :
    ∃ accesses, runMoves step system (List.replicate accesses (.advance 0)) =
      collect { system with
        threads := [], memory := (program.alone QueueAccess.apply system.memory).2 }
        (program.alone QueueAccess.apply system.memory).1 := by
  induction program generalizing system with
  | done outcome =>
      obtain ⟨memory, threads, rxTokens, txTokens, leases, polling, waits⟩ := system
      obtain rfl : threads = [.done outcome] := only
      exact ⟨1, rfl⟩
  | act access next hypothesis =>
      obtain ⟨memory, threads, rxTokens, txTokens, leases, polling, waits⟩ := system
      obtain rfl : threads = [.act access next] := only
      obtain ⟨accesses, ends⟩ := hypothesis (access.apply memory).1
        { memory := (access.apply memory).2, threads := [next (access.apply memory).1],
          rxTokens, txTokens, leases, polling, waits } rfl
      exact ⟨accesses + 1, ends⟩

/-- What a program does to a system without threads. -/
theorem begins_ends {program : SharedProgram w frameSize (Outcome w)}
    {f : NetworkState w frameSize → Outcome w × NetworkState w frameSize}
    (computes : Computes program f) (system : SharedSystem w frameSize)
    (idle : system.threads = []) :
    ∃ accesses memory, memory.state = (f system.memory.state).2 ∧
      runMoves step (system.begin program) (List.replicate accesses (.advance 0)) =
        collect { system with memory } (f system.memory.state).1 := by
  obtain ⟨memory, threads, rxTokens, txTokens, leases, polling, waits⟩ := system
  obtain rfl : threads = [] := idle
  obtain ⟨accesses, ends⟩ := finishes program
    (begin { memory, threads := [], rxTokens, txTokens, leases, polling, waits } program) rfl
  obtain ⟨answers, same⟩ := computes memory
  refine ⟨accesses, _, same, ?_⟩
  rw [← answers]
  exact ends

@[simp] theorem collect_nothing (system : SharedSystem w frameSize) :
    system.collect .nothing = system := by
  simp [collect, Outcome.nothing]

end SharedSystem

/-! ## Both systems -/

/-- Between two operations, both systems have the same queue and the same tokens. -/
structure Reflects (shared : SharedSystem w frameSize) (system : QueueSystem w frameSize) :
    Prop where
  state : shared.memory.state = system.state
  idle : shared.threads = []
  free : ∀ watcher, shared.polling watcher = false
  rxTokens : shared.rxTokens = system.rxTokens
  txTokens : shared.txTokens = system.txTokens
  leases : shared.leases = system.leases

section Reflection
variable {shared : SharedSystem w frameSize} {system : QueueSystem w frameSize}

theorem reflects_start : Reflects (.start : SharedSystem w frameSize) .start :=
  ⟨rfl, rfl, fun _ => rfl, rfl, rfl, rfl⟩

def receivedOutcome (task : TaskId) : Option (RxToken w × TxToken w) → Outcome w
  | some tokens =>
      { Outcome.ofFound ⟨task, .receive⟩ true with rx := some tokens.1, tx := some tokens.2 }
  | none => .ofMissed ⟨task, .receive⟩ true false

def transmitOutcome (task : TaskId) : Option (TxToken w) → Outcome w
  | some token => { Outcome.ofFound ⟨task, .transmit⟩ true with tx := some token }
  | none => .ofMissed ⟨task, .transmit⟩ true false

theorem computes_receiveCall (task : TaskId) :
    Computes ((SharedCall.receive task).program true : SharedProgram w frameSize (Outcome w))
      fun state => (receivedOutcome task state.receive.1, state.receive.2) := by
  refine Computes.bind (h := fun tokens state => (receivedOutcome task tokens, state))
    (computes_receive task true) fun tokens => ?_
  cases tokens <;> exact computes_pure _

theorem computes_transmitCall (task : TaskId) :
    Computes ((SharedCall.transmit task).program true : SharedProgram w frameSize (Outcome w))
      fun state => (transmitOutcome task state.transmit.1, state.transmit.2) := by
  refine Computes.bind (h := fun token state => (transmitOutcome task token, state))
    (computes_transmit task true) fun token => ?_
  cases token <;> exact computes_pure _

/-- A watched poll of a system in which none runs. -/
theorem call_watched {operation : SharedCall} {watcher : Watcher}
    (polls : operation.watcher = some watcher) (free : shared.polling watcher = false) :
    shared.step (.call operation) =
      SharedSystem.begin { shared with
        polling := Function.update shared.polling watcher true
        waits := Function.update shared.waits watcher none } (operation.program true) := by
  rw [SharedSystem.step, SharedSystem.call, polls]
  simp only [free]
  rfl

/-- An operation that starts a thread, which then runs alone. -/
theorem Reflects.runs (reflects : Reflects shared system) (task : TaskId) (move : QueueMove)
    (base : SharedSystem w frameSize) {program : SharedProgram w frameSize (Outcome w)}
    {f : NetworkState w frameSize → Outcome w × NetworkState w frameSize}
    (computes : Computes program f) (first : shared.step (move.started task) = base.begin program)
    (same : base.memory = shared.memory) (idle : base.threads = [])
    {next : QueueSystem w frameSize}
    (later : ∀ memory : SharedMemory w frameSize, memory.state = (f system.state).2 →
      Reflects (SharedSystem.collect { base with memory } (f system.state).1) next) :
    ∃ block, RunsAlone task move block ∧
      Reflects (runMoves SharedSystem.step shared block) next := by
  obtain ⟨accesses, memory, state, ends⟩ := SharedSystem.begins_ends computes base idle
  refine ⟨_, ⟨accesses, rfl⟩, ?_⟩
  rw [runMoves, first, ends]
  rw [same, reflects.state] at state ⊢
  exact later memory state

/-- An operation on a token that is not there. -/
theorem Reflects.stays (reflects : Reflects shared system) {task : TaskId} {move : QueueMove}
    (still : shared.step (move.started task) = shared) :
    ∃ block, RunsAlone task move block ∧
      Reflects (runMoves SharedSystem.step shared block) system := by
  refine ⟨_, ⟨0, rfl⟩, ?_⟩
  rw [runMoves, still]
  exact reflects

theorem Reflects.step (reflects : Reflects shared system) (exclusive : Exclusive shared)
    (task : TaskId) (move : QueueMove) :
    ∃ block, RunsAlone task move block ∧
      Reflects (runMoves SharedSystem.step shared block) (system.step move) := by
  have idle := reflects.idle
  have free := reflects.free
  cases move with
  | setAuthorizedLink up =>
      refine reflects.runs task (.setAuthorizedLink up) shared
        ((computes_setAuthorizedLink up).bind fun _ => computes_pure .nothing) rfl rfl idle
        fun memory same => ?_
      rw [SharedSystem.collect_nothing]
      exact ⟨same, idle, free, reflects.rxTokens, reflects.txTokens, reflects.leases⟩
  | pushRx frame =>
      refine reflects.runs task (.pushRx frame) shared
        ((computes_pushRx frame).bind fun _ => computes_pure .nothing) rfl rfl idle
        fun memory same => ?_
      rw [SharedSystem.collect_nothing, QueueSystem.step]
      rcases pushed : system.state.pushRx frame with ⟨answer, next⟩
      rw [pushed] at same
      cases answer with
      | ok _ => exact ⟨same, idle, free, reflects.rxTokens, reflects.txTokens, reflects.leases⟩
      | error _ => exact ⟨same, idle, free, reflects.rxTokens, reflects.txTokens, reflects.leases⟩
  | takeTx =>
      refine reflects.runs task .takeTx shared (computes_takeTx.bind fun lease =>
        computes_pure { Outcome.nothing with lease }) rfl rfl idle fun memory same => ?_
      rw [QueueSystem.step]
      rcases taken : system.state.takeTx with ⟨lease, next⟩
      rw [taken] at same
      cases lease with
      | none =>
          show Reflects (SharedSystem.collect _ .nothing) _
          rw [SharedSystem.collect_nothing]
          exact ⟨same, idle, free, reflects.rxTokens, reflects.txTokens, reflects.leases⟩
      | some lease =>
          refine ⟨same, idle, free, ?_, ?_, ?_⟩
          · exact (List.append_nil _).trans reflects.rxTokens
          · exact (List.append_nil _).trans reflects.txTokens
          · exact congrArg (fun leases => leases ++ [lease]) reflects.leases
  | receive =>
      refine reflects.runs task .receive _ (computes_receiveCall task)
        (call_watched rfl (free ⟨task, .receive⟩)) rfl idle fun memory same => ?_
      rw [QueueSystem.step]
      rcases received : system.state.receive with ⟨tokens, next⟩
      rw [received] at same
      cases tokens with
      | none =>
          refine ⟨same, idle, polling_freed free ⟨task, .receive⟩, ?_, ?_, ?_⟩
          · exact (List.append_nil _).trans reflects.rxTokens
          · exact (List.append_nil _).trans reflects.txTokens
          · exact (List.append_nil _).trans reflects.leases
      | some tokens =>
          refine ⟨same, idle, polling_freed free ⟨task, .receive⟩, ?_, ?_, ?_⟩
          · exact congrArg (fun rxTokens => rxTokens ++ [tokens.1]) reflects.rxTokens
          · exact congrArg (fun txTokens => txTokens ++ [tokens.2]) reflects.txTokens
          · exact (List.append_nil _).trans reflects.leases
  | transmit =>
      refine reflects.runs task .transmit _ (computes_transmitCall task)
        (call_watched rfl (free ⟨task, .transmit⟩)) rfl idle fun memory same => ?_
      rw [QueueSystem.step]
      rcases sent : system.state.transmit with ⟨token, next⟩
      rw [sent] at same
      cases token with
      | none =>
          refine ⟨same, idle, polling_freed free ⟨task, .transmit⟩, ?_, ?_, ?_⟩
          · exact (List.append_nil _).trans reflects.rxTokens
          · exact (List.append_nil _).trans reflects.txTokens
          · exact (List.append_nil _).trans reflects.leases
      | some token =>
          refine ⟨same, idle, polling_freed free ⟨task, .transmit⟩, ?_, ?_, ?_⟩
          · exact (List.append_nil _).trans reflects.rxTokens
          · exact congrArg (fun txTokens => txTokens ++ [token]) reflects.txTokens
          · exact (List.append_nil _).trans reflects.leases
  | consumeRx index f =>
      rw [QueueSystem.step]
      cases found : system.rxTokens[index]? with
      | none =>
          rw [← reflects.rxTokens] at found
          exact reflects.stays (by rw [QueueMove.started, SharedSystem.step, found])
      | some token =>
          rw [← reflects.rxTokens] at found ⊢
          refine reflects.runs task (.consumeRx index f)
            { shared with rxTokens := shared.rxTokens.eraseIdx index }
            ((computes_consumeRx token f).bind fun _ => computes_pure .nothing)
            (by rw [QueueMove.started, SharedSystem.step, found]; rfl) rfl idle
            fun memory same => ?_
          rw [SharedSystem.collect_nothing]
          exact ⟨same, idle, free, rfl, reflects.txTokens, reflects.leases⟩
  | dropRx index =>
      rw [QueueSystem.step]
      cases found : system.rxTokens[index]? with
      | none =>
          rw [← reflects.rxTokens] at found
          exact reflects.stays (by rw [QueueMove.started, SharedSystem.step, found])
      | some token =>
          rw [← reflects.rxTokens] at found ⊢
          refine reflects.runs task (.dropRx index)
            { shared with rxTokens := shared.rxTokens.eraseIdx index }
            ((computes_release .rx).bind fun _ => computes_pure .nothing)
            (by rw [QueueMove.started, SharedSystem.step, found]; rfl) rfl idle
            fun memory same => ?_
          rw [SharedSystem.collect_nothing]
          exact ⟨same, idle, free, rfl, reflects.txTokens, reflects.leases⟩
  | consumeTx index len f =>
      rw [QueueSystem.step]
      cases found : system.txTokens[index]? with
      | none =>
          rw [← reflects.txTokens] at found
          exact reflects.stays (by rw [QueueMove.started, SharedSystem.step, found])
      | some token =>
          rw [← reflects.txTokens] at found ⊢
          refine reflects.runs task (.consumeTx index len f)
            { shared with txTokens := shared.txTokens.eraseIdx index }
            ((computes_consumeTx token len f).bind fun _ => computes_pure .nothing)
            (by rw [QueueMove.started, SharedSystem.step, found]; rfl) rfl idle
            fun memory same => ?_
          rw [SharedSystem.collect_nothing]
          exact ⟨same, idle, free, reflects.rxTokens, rfl, reflects.leases⟩
  | dropTx index =>
      rw [QueueSystem.step]
      cases found : system.txTokens[index]? with
      | none =>
          rw [← reflects.txTokens] at found
          exact reflects.stays (by rw [QueueMove.started, SharedSystem.step, found])
      | some token =>
          rw [← reflects.txTokens] at found ⊢
          refine reflects.runs task (.dropTx index)
            { shared with txTokens := shared.txTokens.eraseIdx index }
            (computes_releaseTx.bind fun _ => computes_pure .nothing)
            (by rw [QueueMove.started, SharedSystem.step, found]; rfl) rfl idle
            fun memory same => ?_
          rw [SharedSystem.collect_nothing]
          exact ⟨same, idle, free, reflects.rxTokens, rfl, reflects.leases⟩
  | asSlice index =>
      rw [QueueSystem.step]
      cases found : system.leases[index]? with
      | none =>
          rw [← reflects.leases] at found
          exact reflects.stays (by rw [QueueMove.started, SharedSystem.step, found])
      | some lease =>
          rw [← reflects.leases] at found
          have sole : shared.leases.length ≤ 1 := by
            have most := exclusive.alone .tx
            simp only [SharedSystem.outstanding] at most
            omega
          refine reflects.runs task (.asSlice index)
            { shared with leases := shared.leases.eraseIdx index }
            ((computes_asSlice lease).bind fun _ =>
              computes_pure { Outcome.nothing with lease := some lease })
            (by rw [QueueMove.started, SharedSystem.step, found]; rfl) rfl idle
            fun memory same => ?_
          refine ⟨same, idle, free, ?_, ?_, ?_⟩
          · exact (List.append_nil _).trans reflects.rxTokens
          · exact (List.append_nil _).trans reflects.txTokens
          · exact (eraseIdx_append_of_sole sole found).trans reflects.leases
  | report index outcome =>
      rw [QueueSystem.step]
      cases found : system.leases[index]? with
      | none =>
          rw [← reflects.leases] at found
          exact reflects.stays (by rw [QueueMove.started, SharedSystem.step, found])
      | some lease =>
          rw [← reflects.leases] at found ⊢
          refine reflects.runs task (.report index outcome)
            { shared with leases := shared.leases.eraseIdx index }
            ((computes_report lease outcome).bind fun _ => computes_pure .nothing)
            (by rw [QueueMove.started, SharedSystem.step, found]; rfl) rfl idle
            fun memory same => ?_
          rw [SharedSystem.collect_nothing]
          exact ⟨same, idle, free, reflects.rxTokens, reflects.txTokens, rfl⟩
  | dropLease index =>
      rw [QueueSystem.step]
      cases found : system.leases[index]? with
      | none =>
          rw [← reflects.leases] at found
          exact reflects.stays (by rw [QueueMove.started, SharedSystem.step, found])
      | some lease =>
          rw [← reflects.leases] at found ⊢
          refine reflects.runs task (.dropLease index)
            { shared with leases := shared.leases.eraseIdx index }
            ((computes_dropLease lease).bind fun _ => computes_pure .nothing)
            (by rw [QueueMove.started, SharedSystem.step, found]; rfl) rfl idle
            fun memory same => ?_
          rw [SharedSystem.collect_nothing]
          exact ⟨same, idle, free, reflects.rxTokens, reflects.txTokens, rfl⟩

/-- From any system that reflects, each operation of a run has its block. -/
theorem Reflects.run (reflects : Reflects shared system) (accounted : Accounted shared)
    (task : TaskId) (moves : List QueueMove) :
    ∃ blocks, List.Forall₂ (RunsAlone task) moves blocks ∧ ∀ count,
      Reflects (runMoves SharedSystem.step shared (blocks.take count).flatten)
        (runMoves QueueSystem.step system (moves.take count)) := by
  induction moves generalizing shared system with
  | nil =>
      refine ⟨[], .nil, fun count => ?_⟩
      rw [List.take_nil, List.take_nil]
      exact reflects
  | cons move rest hypothesis =>
      obtain ⟨block, alone, later⟩ := reflects.step (exclusive_of_accounted accounted) task move
      have owned : Accounted (runMoves SharedSystem.step shared block) :=
        runMoves_preserves (fun _ move => SharedSystem.accounted_step move) accounted block
      obtain ⟨blocks, each, reflected⟩ := hypothesis later owned
      refine ⟨block :: blocks, .cons alone each, fun count => ?_⟩
      cases count with
      | zero => exact reflects
      | succ count =>
          rw [List.take_succ_cons, List.take_succ_cons, List.flatten_cons, runMoves_append]
          exact reflected count

end Reflection

/-- Every run in one step is among the interleavings: the same operations in the same order,
each alone, and after each of them the same queue. -/
theorem runs_interleave (task : TaskId) (moves : List QueueMove) :
    ∃ blocks, List.Forall₂ (RunsAlone task) moves blocks ∧ ∀ count,
      Reflects (SharedSystem.after (blocks.take count).flatten : SharedSystem w frameSize)
        (runMoves QueueSystem.step .start (moves.take count)) :=
  reflects_start.run SharedSystem.accounted_start task moves

end Nrf7002
