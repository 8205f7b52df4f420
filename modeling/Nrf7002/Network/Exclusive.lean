import Nrf7002.Network.Interleaved
import Mathlib.Tactic.Abel

/-! # The network queue under every interleaving

What the operations owe and hold adds up over the threads that run, the tokens and leases
that are outstanding and the polls that are idle.  So no slot has two users, no slot is
lost, and no wake-up is missed, whatever the order of the accesses. -/

set_option autoImplicit false

namespace Nrf7002
open Foundation SharedQueue

variable {w frameSize : Nat}

/-! ## What is outstanding -/

/-- The shares of a number of tokens of one kind. -/
inductive Stock (Held : Permit w frameSize → Prop) (name : SlotName) :
    Nat → Share w frameSize → Prop
  | nil : Stock Held name 0 0
  | cons (permit : Permit w frameSize) (count : Nat) (rest : Share w frameSize)
      (held : Held permit) (stock : Stock Held name count rest) :
      Stock Held name (count + 1) (Share.own name permit + rest)

section Stocks
variable {Held : Permit w frameSize → Prop} {name : SlotName} {count more : Nat}
  {share other : Share w frameSize} {permit : Permit w frameSize}

theorem stock_one (held : Held permit) : Stock Held name 1 (Share.own name permit) := by
  have stock : Stock Held name 1 (Share.own name permit + 0) := .cons permit 0 0 held .nil
  rw [add_zero] at stock
  exact stock

theorem Stock.append (stock : Stock Held name count share) (added : Stock Held name more other) :
    Stock Held name (count + more) (share + other) := by
  induction stock with
  | nil =>
      rw [Nat.zero_add, zero_add]
      exact added
  | cons permit count rest held stock hypothesis =>
      rw [Nat.add_right_comm, add_assoc (Share.own name permit)]
      exact .cons permit _ _ held hypothesis

theorem Stock.take (stock : Stock Held name (count + 1) share) :
    ∃ permit rest, share = Share.own name permit + rest ∧ Held permit ∧
      Stock Held name count rest := by
  cases stock with
  | cons permit _ rest held stock => exact ⟨permit, rest, rfl, held, stock⟩

theorem Stock.of_list {α : Type} {tokens : List α} {index : Nat} {token : α}
    (stock : Stock Held name tokens.length share) (found : tokens[index]? = some token) :
    ∃ permit rest, share = Share.own name permit + rest ∧ Held permit ∧
      Stock Held name (tokens.eraseIdx index).length rest := by
  have inside := (List.getElem?_eq_some_iff.mp found).1
  have size : tokens.length = (tokens.eraseIdx index).length + 1 := by
    rw [List.length_eraseIdx_of_lt inside]
    omega
  rw [size] at stock
  exact stock.take

theorem Stock.card_permits (stock : Stock Held name count share) :
    (share.permits name).card = count := by
  induction stock with
  | nil => rfl
  | cons permit count rest held stock hypothesis =>
      rw [Share.permits_add, Pi.add_apply, Multiset.card_add, hypothesis, Share.permits_own,
        Pi.single_eq_same, Multiset.card_singleton, Nat.add_comm]

theorem Stock.permits_other {elsewhere : SlotName} (stock : Stock Held name count share)
    (different : elsewhere ≠ name) : share.permits elsewhere = 0 := by
  induction stock with
  | nil => rfl
  | cons permit count rest held stock hypothesis =>
      rw [Share.permits_add, Pi.add_apply, hypothesis, Share.permits_own,
        Pi.single_eq_of_ne different, add_zero]

theorem Stock.owed_eq (stock : Stock Held name count share) : share.owed = 0 := by
  induction stock with
  | nil => rfl
  | cons permit count rest held stock hypothesis =>
      rw [Share.owed_add, hypothesis, Share.owed_own, add_zero]

theorem Stock.watches_eq (stock : Stock Held name count share) : share.watches = 0 := by
  induction stock with
  | nil => rfl
  | cons permit count rest held stock hypothesis =>
      rw [Share.watches_add, hypothesis, Share.watches_own, add_zero]

end Stocks

theorem SlotHeld.card_le {slot : Slot w frameSize} {waiting : Option (BitVec w × Bytes)}
    {permits : Multiset (Permit w frameSize)} (held : SlotHeld slot waiting permits) :
    permits.card ≤ 1 := by
  rw [SlotHeld] at held
  split at held
  · simp [held.1]
  · simp [held.1]
  · simp [held]
  · simp [held]

theorem SlotHeld.settled {slot : Slot w frameSize} {waiting : Option (BitVec w × Bytes)}
    {permits : Multiset (Permit w frameSize)} (held : SlotHeld slot waiting permits)
    (nobody : permits.card = 0) : slot.state = .free ∨ slot.state = .ready := by
  rw [SlotHeld] at held
  cases state : slot.state with
  | free => exact .inl rfl
  | ready => exact .inr rfl
  | client =>
      rw [state] at held
      simp [held] at nobody
  | producer =>
      rw [state] at held
      simp [held] at nobody

/-- The watches of the polls that do not run know what those polls found. -/
def Idle (polling : Watcher → Bool) (waits : Watcher → Option Bool) (share : Share w frameSize) :
    Prop :=
  ∃ watches : Watcher → Multiset (Watch w), share = (0, 0, watches) ∧ ∀ watcher,
    if polling watcher = true then watches watcher = 0
    else ∃ watch : Watch w, watches watcher = {watch} ∧
      ∀ seen, waits watcher = some seen → watch.missed = some seen

section Idles
variable {polling : Watcher → Bool} {waits : Watcher → Option Bool} {share : Share w frameSize}
  {watcher : Watcher} {watch : Watch w} {missed : Option Bool}

theorem Idle.watches_of (idle : Idle polling waits share) (watcher : Watcher) :
    if polling watcher = true then share.watches watcher = 0
    else ∃ watch : Watch w, share.watches watcher = {watch} ∧
      ∀ seen, waits watcher = some seen → watch.missed = some seen := by
  obtain ⟨watches, rfl, each⟩ := idle
  exact each watcher

/-- A poll that begins takes its watch along. -/
theorem Idle.take (idle : Idle polling waits share) (free : polling watcher = false) :
    ∃ watch rest, share = Share.watching watcher watch + rest ∧
      Idle (Function.update polling watcher true) (Function.update waits watcher none) rest := by
  obtain ⟨watches, rfl, each⟩ := idle
  have mine := each watcher
  rw [free, if_neg Bool.false_ne_true] at mine
  obtain ⟨watch, only, _⟩ := mine
  refine ⟨watch, (0, 0, Function.update watches watcher 0), ?_, _, rfl, fun other => ?_⟩
  · refine Prod.ext (zero_add 0).symm (Prod.ext (zero_add 0).symm (funext fun other => ?_))
    show watches other =
      (Pi.single watcher {watch} : Watcher → Multiset (Watch w)) other +
        Function.update watches watcher 0 other
    by_cases same : other = watcher
    · subst same
      rw [Pi.single_eq_same, Function.update_self, only, add_zero]
    · rw [Pi.single_eq_of_ne same, Function.update_of_ne same, zero_add]
  · by_cases same : other = watcher
    · subst same
      rw [Function.update_self, if_pos rfl, Function.update_self]
    · rw [Function.update_of_ne same, Function.update_of_ne same, Function.update_of_ne same]
      exact each other

/-- A poll that ends gives its watch back. -/
theorem Idle.put (idle : Idle polling waits share) (running : polling watcher = true)
    (knows : ∀ seen, missed = some seen → watch.missed = some seen) :
    Idle (Function.update polling watcher false) (Function.update waits watcher missed)
      (share + Share.watching watcher watch) := by
  obtain ⟨watches, rfl, each⟩ := idle
  have mine := each watcher
  rw [running, if_pos rfl] at mine
  refine ⟨watches + Pi.single watcher {watch}, ?_, fun other => ?_⟩
  · exact Prod.ext (add_zero 0) (Prod.ext (add_zero 0) rfl)
  · rw [Pi.add_apply]
    by_cases same : other = watcher
    · subst same
      rw [Function.update_self, if_neg Bool.false_ne_true, Function.update_self, mine, zero_add,
        Pi.single_eq_same]
      exact ⟨watch, rfl, knows⟩
    · rw [Function.update_of_ne same, Function.update_of_ne same, Pi.single_eq_of_ne same,
        add_zero]
      exact each other

theorem Idle.permits_eq (idle : Idle polling waits share) : share.permits = 0 := by
  obtain ⟨watches, rfl, _⟩ := idle
  rfl

theorem Idle.owed_eq (idle : Idle polling waits share) : share.owed = 0 := by
  obtain ⟨watches, rfl, _⟩ := idle
  rfl

/-- A poll has one watch, so it runs while another share has it. -/
theorem Idle.running_of [AtomicWaker] {memory : SharedMemory w frameSize}
    {others : Share w frameSize} (idle : Idle polling waits share)
    (shared : Shared memory (Share.watching watcher watch + (share + others))) :
    polling watcher = true := by
  have sole := shared.watched.1
  by_contra free
  have mine := idle.watches_of watcher
  rw [if_neg free] at mine
  obtain ⟨other, only, _⟩ := mine
  rw [Share.watches_add, Pi.add_apply, only] at sole
  have size := congrArg Multiset.card sole
  simp at size

end Idles

/-! ## What a thread hands over -/

/-- The watch of the poll that a thread ends, if any. -/
def EndsPoll (outcome : Outcome w) (share : Share w frameSize) : Prop :=
  match outcome.watcher with
  | none => share = 0
  | some watcher => ∃ watch : Watch w, share = Share.watching watcher watch ∧
      ∀ seen, outcome.missed = some seen → watch.missed = some seen

/-- The share of what an operation hands over. -/
def Hands (outcome : Outcome w) (share : Share w frameSize) : Prop :=
  ∃ rx tx lease poll, share = rx + tx + lease + poll ∧
    Stock RxHeld .rx outcome.rx.toList.length rx ∧
    Stock TxHeld .tx outcome.tx.toList.length tx ∧
    Stock TxLeased .tx outcome.lease.toList.length lease ∧ EndsPoll outcome poll

section Operations
variable {watcher : Watcher} {watch : Watch w} {share : Share w frameSize}

theorem hands_nothing : Hands (.nothing : Outcome w) (0 : Share w frameSize) :=
  ⟨0, 0, 0, 0, by simp, .nil, .nil, .nil, rfl⟩

theorem hands_missed {seen : Bool} (missed : watch.missed = some seen) :
    Hands (.ofMissed watcher true seen) (Share.watching watcher watch : Share w frameSize) := by
  refine ⟨0, 0, 0, _, by simp, .nil, .nil, .nil, watch, rfl, fun other same => ?_⟩
  exact missed.trans same

theorem hands_found :
    Hands (.ofFound watcher true) (Share.watching watcher watch : Share w frameSize) :=
  ⟨0, 0, 0, _, by simp, .nil, .nil, .nil, watch, rfl, fun _ impossible => by cases impossible⟩

variable [AtomicWaker]

theorem obeys_quietly {program : SharedProgram w frameSize Unit}
    (obeys : Obeys program share (fun _ left => left = 0)) :
    Obeys (SharedSystem.quietly program) share Hands := by
  refine Sharing.Obeys.bind obeys ?_
  rintro _ _ rfl
  exact hands_nothing

theorem obeys_program (operation : SharedCall) :
    Obeys (operation.program false : SharedProgram w frameSize (Outcome w)) 0 Hands := by
  cases operation with
  | setAuthorizedLink up =>
      refine Sharing.Obeys.bind (obeys_setAuthorizedLink up) ?_
      rintro _ _ rfl
      exact hands_nothing
  | pushRx frame =>
      refine Sharing.Obeys.bind (obeys_pushRx frame) ?_
      rintro _ _ rfl
      exact hands_nothing
  | takeTx =>
      refine Sharing.Obeys.bind obeys_takeTx ?_
      intro lease left gives
      cases lease with
      | none =>
          obtain rfl : left = 0 := gives
          exact hands_nothing
      | some lease =>
          obtain ⟨permit, leased, rfl⟩ := gives
          exact ⟨0, 0, _, 0, by simp, .nil, .nil, stock_one leased, rfl⟩
  | receive task =>
      refine Sharing.Obeys.bind (obeys_receive task) ?_
      intro tokens left gives
      cases tokens with
      | none =>
          obtain rfl : left = 0 := gives
          exact hands_nothing
      | some tokens =>
          obtain ⟨reserved, permit, txHeld, rxHeld, rfl⟩ := gives
          exact ⟨_, _, 0, 0, by abel, stock_one rxHeld, stock_one txHeld, .nil, rfl⟩
  | transmit task =>
      refine Sharing.Obeys.bind (obeys_transmit task) ?_
      intro token left gives
      cases token with
      | none =>
          obtain rfl : left = 0 := gives
          exact hands_nothing
      | some token =>
          obtain ⟨permit, held, rfl⟩ := gives
          exact ⟨0, _, 0, 0, by simp, .nil, stock_one held, .nil, rfl⟩
  | linkState task =>
      refine Sharing.Obeys.bind (quiet_linkState task 0) ?_
      rintro seen _ rfl
      exact hands_nothing
  | pollTxReady task =>
      refine Sharing.Obeys.bind (quiet_pollTxReady task 0) ?_
      rintro ready _ rfl
      exact Sharing.obeys_ite (fun _ => hands_nothing) fun _ => hands_nothing
  | registerTxWaker task =>
      refine Sharing.Obeys.bind (quiet_registerTxWaker task 0) ?_
      rintro _ _ rfl
      exact hands_nothing

theorem obeys_program_watched {operation : SharedCall}
    (polls : operation.watcher = some watcher) (watch : Watch w) :
    Obeys (operation.program true : SharedProgram w frameSize (Outcome w))
      (Share.watching watcher watch) Hands := by
  cases operation with
  | setAuthorizedLink up => cases polls
  | pushRx frame => cases polls
  | takeTx => cases polls
  | receive task =>
      cases polls
      refine Sharing.Obeys.bind (obeys_receive_watched task watch) ?_
      rintro tokens _ ⟨_, own, rfl, ⟨learnt, rfl, missed⟩, gives⟩
      cases tokens with
      | none =>
          obtain rfl : own = 0 := gives
          rw [zero_add]
          exact hands_missed (missed rfl)
      | some tokens =>
          obtain ⟨reserved, permit, txHeld, rxHeld, rfl⟩ := gives
          exact ⟨_, _, 0, _, by abel, stock_one rxHeld, stock_one txHeld, .nil, learnt, rfl,
            fun _ impossible => by cases impossible⟩
  | transmit task =>
      cases polls
      refine Sharing.Obeys.bind (obeys_transmit_watched task watch) ?_
      rintro token _ ⟨_, own, rfl, ⟨learnt, rfl, missed⟩, gives⟩
      cases token with
      | none =>
          obtain rfl : own = 0 := gives
          rw [zero_add]
          exact hands_missed (missed rfl)
      | some token =>
          obtain ⟨permit, held, rfl⟩ := gives
          exact ⟨0, _, 0, _, by simp, .nil, stock_one held, .nil, learnt, rfl,
            fun _ impossible => by cases impossible⟩
  | linkState task =>
      cases polls
      refine Sharing.Obeys.bind (obeys_linkState_watched task watch) ?_
      rintro seen _ ⟨learnt, rfl, missed⟩
      exact hands_missed missed
  | pollTxReady task =>
      cases polls
      refine Sharing.Obeys.bind (obeys_pollTxReady_watched task watch) ?_
      rintro ready _ ⟨learnt, rfl, missed⟩
      refine Sharing.obeys_ite (fun _ => hands_found) fun other => ?_
      exact hands_missed (missed (Bool.eq_false_iff.mpr other))
  | registerTxWaker task =>
      cases polls
      refine Sharing.Obeys.bind (obeys_registerTxWaker_watched task watch) ?_
      rintro _ _ ⟨learnt, rfl, missed⟩
      exact hands_missed (missed trivial)

end Operations

/-! ## Runs -/

section Runs
variable [AtomicWaker]

/-- The threads, the tokens and leases outstanding and the idle polls own everything. -/
structure Tied (system : SharedSystem w frameSize)
    (running rx tx lease idle : Share w frameSize) : Prop where
  threads : Sharing.Holds (queueSharing w frameSize) Hands system.threads running
  rxTokens : Stock RxHeld .rx system.rxTokens.length rx
  txTokens : Stock TxHeld .tx system.txTokens.length tx
  leases : Stock TxLeased .tx system.leases.length lease
  polls : Idle system.polling system.waits idle
  shared : Shared system.memory (running + (rx + tx + lease + idle))

def Accounted (system : SharedSystem w frameSize) : Prop :=
  ∃ running rx tx lease idle, Tied system running rx tx lease idle

theorem Shared.congr {memory : SharedMemory w frameSize} {total later : Share w frameSize}
    (shared : Shared memory total) (same : total = later) : Shared memory later := by
  rw [← same]
  exact shared

namespace SharedSystem
variable {system : SharedSystem w frameSize} {running rx tx lease idle : Share w frameSize}

theorem accounted_start : Accounted (start : SharedSystem w frameSize) := by
  have shared : Shared (SharedMemory.new : SharedMemory w frameSize)
      ((0, 0, fun _ => {⟨[], none, none⟩}) : Share w frameSize) := by
    refine ⟨fun name => ?_, justified_nil, fun watcher => ⟨⟨[], none, none⟩, rfl, ?_, ?_, ?_⟩⟩
    · cases name <;> exact ⟨rfl, rfl⟩
    · intro waker _ place
      simp [Watch.Knows] at place
    · intro seen impossible
      cases impossible
    · intro epoch impossible
      cases impossible
  have idle : Idle (fun _ => false) (fun _ => none)
      ((0, 0, fun _ => {⟨[], none, none⟩}) : Share w frameSize) := by
    refine ⟨_, rfl, fun watcher => ⟨⟨[], none, none⟩, rfl, fun seen impossible => ?_⟩⟩
    cases impossible
  exact ⟨0, 0, 0, 0, _, .nil, .nil, .nil, .nil, idle, shared.congr (by simp)⟩

theorem accounted_call (operation : SharedCall) (accounted : Accounted system) :
    Accounted (system.call operation) := by
  obtain ⟨running, rx, tx, lease, idle, tied⟩ := accounted
  have unwatched : Accounted (system.begin (operation.program false)) :=
    ⟨running + 0, rx, tx, lease, idle, tied.threads.append (obeys_program operation),
      tied.rxTokens, tied.txTokens, tied.leases, tied.polls, tied.shared.congr (by abel)⟩
  cases polls : operation.watcher with
  | none =>
      rw [call, polls]
      exact unwatched
  | some watcher =>
      rw [call, polls]
      by_cases busy : system.polling watcher = true
      · simp only [busy, if_true]
        exact unwatched
      · simp only [busy]
        obtain ⟨watch, rest, rfl, left⟩ := tied.polls.take (Bool.eq_false_iff.mpr busy)
        exact ⟨running + Share.watching watcher watch, rx, tx, lease, rest,
          tied.threads.append (obeys_program_watched polls watch),
          tied.rxTokens, tied.txTokens, tied.leases, left, tied.shared.congr (by abel)⟩

theorem accounted_advance (index : Nat) (accounted : Accounted system) :
    Accounted (system.advance index) := by
  obtain ⟨running, rx, tx, lease, idle, tied⟩ := accounted
  rw [advance]
  cases found : system.threads[index]? with
  | none => exact ⟨running, rx, tx, lease, idle, tied⟩
  | some thread =>
      cases thread with
      | act access next =>
          obtain ⟨after, threads, shared⟩ := tied.threads.advance tied.shared found
          exact ⟨after, rx, tx, lease, idle, threads, tied.rxTokens, tied.txTokens, tied.leases,
            tied.polls, shared⟩
      | done outcome =>
          obtain ⟨own, rest, rfl, hands, erased, _⟩ := tied.threads.split found
          obtain ⟨rxs, txs, leases, watch, rfl, rxStock, txStock, leaseStock, ends⟩ :
            Hands outcome own := hands
          have rxTokens := tied.rxTokens.append rxStock
          have txTokens := tied.txTokens.append txStock
          have leased := tied.leases.append leaseStock
          rw [← List.length_append] at rxTokens txTokens leased
          obtain ⟨_, _, _, watcher, missed⟩ := outcome
          cases watcher with
          | none =>
              obtain rfl : watch = 0 := ends
              exact ⟨rest, _, _, _, idle, erased, rxTokens, txTokens, leased, tied.polls,
                tied.shared.congr (by abel)⟩
          | some watcher =>
              obtain ⟨watch, rfl, knows⟩ := ends
              have whole : Shared system.memory (Share.watching watcher watch +
                  (idle + (rxs + txs + leases + rest + (rx + tx + lease)))) :=
                tied.shared.congr (by abel)
              exact ⟨rest, _, _, _, _, erased, rxTokens, txTokens, leased,
                tied.polls.put (tied.polls.running_of whole) knows, tied.shared.congr (by abel)⟩

section Spending
variable {program : SharedProgram w frameSize (Outcome w)} {index : Nat}

/-- A thread that takes over a token. -/
theorem accounted_spendRx {token : RxToken w} (accounted : Accounted system)
    (found : system.rxTokens[index]? = some token)
    (obeys : ∀ permit : Permit w frameSize, RxHeld permit →
      Obeys program (Share.own .rx permit) Hands) :
    Accounted { system.begin program with rxTokens := system.rxTokens.eraseIdx index } := by
  obtain ⟨running, rx, tx, lease, idle, tied⟩ := accounted
  obtain ⟨permit, rest, rfl, held, stock⟩ := tied.rxTokens.of_list found
  exact ⟨running + Share.own .rx permit, rest, tx, lease, idle,
    tied.threads.append (obeys permit held), stock, tied.txTokens, tied.leases, tied.polls,
    tied.shared.congr (by abel)⟩

theorem accounted_spendTx {token : TxToken w} (accounted : Accounted system)
    (found : system.txTokens[index]? = some token)
    (obeys : ∀ permit : Permit w frameSize, TxHeld permit →
      Obeys program (Share.own .tx permit) Hands) :
    Accounted { system.begin program with txTokens := system.txTokens.eraseIdx index } := by
  obtain ⟨running, rx, tx, lease, idle, tied⟩ := accounted
  obtain ⟨permit, rest, rfl, held, stock⟩ := tied.txTokens.of_list found
  exact ⟨running + Share.own .tx permit, rx, rest, lease, idle,
    tied.threads.append (obeys permit held), tied.rxTokens, stock, tied.leases, tied.polls,
    tied.shared.congr (by abel)⟩

theorem accounted_spendLease {held : TxLease w} (accounted : Accounted system)
    (found : system.leases[index]? = some held)
    (obeys : ∀ permit : Permit w frameSize, TxLeased permit →
      Obeys program (Share.own .tx permit) Hands) :
    Accounted { system.begin program with leases := system.leases.eraseIdx index } := by
  obtain ⟨running, rx, tx, lease, idle, tied⟩ := accounted
  obtain ⟨permit, rest, rfl, leased, stock⟩ := tied.leases.of_list found
  exact ⟨running + Share.own .tx permit, rx, tx, rest, idle,
    tied.threads.append (obeys permit leased), tied.rxTokens, tied.txTokens, stock, tied.polls,
    tied.shared.congr (by abel)⟩

end Spending

/-- A lease that is read is handed over again. -/
theorem obeys_asSliceAgain (held : TxLease w) {permit : Permit w frameSize}
    (leased : TxLeased permit) :
    Obeys (do
      let _ ← SharedQueue.asSlice held
      return { Outcome.nothing with lease := some held })
      (Share.own .tx permit) (@Hands w frameSize) := by
  refine Sharing.Obeys.bind (obeys_asSlice held leased) ?_
  rintro _ _ rfl
  exact ⟨0, 0, _, 0, by simp, .nil, .nil, stock_one leased, rfl⟩

theorem accounted_step (move : SharedMove) (accounted : Accounted system) :
    Accounted (system.step move) := by
  cases move with
  | call operation => exact accounted_call operation accounted
  | advance index => exact accounted_advance index accounted
  | consumeRx index f =>
      rw [step]
      cases found : system.rxTokens[index]? with
      | none => exact accounted
      | some token =>
          exact accounted_spendRx accounted found fun permit held =>
            obeys_quietly (obeys_consumeRx token f held)
  | dropRx index =>
      rw [step]
      cases found : system.rxTokens[index]? with
      | none => exact accounted
      | some token =>
          exact accounted_spendRx accounted found fun _ _ => obeys_quietly obeys_releaseRx
  | consumeTx index len f =>
      rw [step]
      cases found : system.txTokens[index]? with
      | none => exact accounted
      | some token =>
          exact accounted_spendTx accounted found fun permit held =>
            obeys_quietly (obeys_consumeTx token len f held)
  | dropTx index =>
      rw [step]
      cases found : system.txTokens[index]? with
      | none => exact accounted
      | some token =>
          exact accounted_spendTx accounted found fun _ _ => obeys_quietly obeys_releaseTx
  | asSlice index =>
      rw [step]
      cases found : system.leases[index]? with
      | none => exact accounted
      | some held =>
          exact accounted_spendLease accounted found fun permit leased =>
            obeys_asSliceAgain held leased
  | report index outcome =>
      rw [step]
      cases found : system.leases[index]? with
      | none => exact accounted
      | some held =>
          exact accounted_spendLease accounted found fun permit leased =>
            obeys_quietly (obeys_report held outcome leased)
  | dropLease index =>
      rw [step]
      cases found : system.leases[index]? with
      | none => exact accounted
      | some held =>
          exact accounted_spendLease accounted found fun permit leased =>
            obeys_quietly (obeys_dropLease held leased)

def after (moves : List SharedMove) : SharedSystem w frameSize := runMoves step start moves

theorem accounted_after (moves : List SharedMove) :
    Accounted (after moves : SharedSystem w frameSize) :=
  runMoves_preserves (fun _ move => accounted_step move) accounted_start moves

end SharedSystem

/-! ## Exclusion -/

def SharedSystem.content (system : SharedSystem w frameSize) (name : SlotName) :
    Permit w frameSize :=
  ⟨system.memory.slots name, waitingIn name system.memory.trace⟩

/-- Nobody uses a slot that is in other hands, its owner finds in it what was put there, and
the slot comes back. -/
structure Exclusive (system : SharedSystem w frameSize) : Prop where
  alone : ∀ name, system.touching name + system.outstanding name ≤ 1
  received : system.rxTokens ≠ [] → RxHeld (system.content .rx)
  reserved : system.txTokens ≠ [] → TxHeld (system.content .tx)
  leased : system.leases ≠ [] → TxLeased (system.content .tx)
  settled : system.threads = [] → ∀ name, system.outstanding name = 0 →
    (system.memory.slots name).state = .free ∨ (system.memory.slots name).state = .ready

section Exclusion
variable {system : SharedSystem w frameSize} {running rx tx lease idle : Share w frameSize}

theorem Tied.running_eq (tied : Tied system running rx tx lease idle)
    (finished : system.threads = []) : running = 0 := by
  have threads := tied.threads
  rw [finished] at threads
  cases threads
  rfl

theorem Tied.card_eq (tied : Tied system running rx tx lease idle) (name : SlotName) :
    ((running + (rx + tx + lease + idle)).permits name).card =
      (running.permits name).card + system.outstanding name := by
  have none := tied.polls.permits_eq
  simp only [Share.permits_add, Pi.add_apply, Multiset.card_add, none]
  cases name with
  | rx =>
      rw [tied.rxTokens.card_permits, tied.txTokens.permits_other (by decide),
        tied.leases.permits_other (by decide)]
      rfl
  | tx =>
      rw [tied.rxTokens.permits_other (by decide), tied.txTokens.card_permits,
        tied.leases.card_permits]
      simp [SharedSystem.outstanding]

theorem Tied.touching_le (tied : Tied system running rx tx lease idle) (name : SlotName) :
    system.touching name ≤ (running.permits name).card := by
  have additive (left right : Share w frameSize) : ((left + right).permits name).card =
      (left.permits name).card + (right.permits name).card := by
    rw [Share.permits_add, Pi.add_apply, Multiset.card_add]
  have needed (access : QueueAccess w frameSize) (share : Share w frameSize)
      (touches : access.touches name = true) (needs : OwnerTouches access share) :
      0 < (share.permits name).card := needs name touches
  exact tied.threads.countP_le (fun share => (share.permits name).card) additive needed

theorem Shared.held {memory : SharedMemory w frameSize} {Held : Permit w frameSize → Prop}
    {name : SlotName} {count : Nat} {share others : Share w frameSize}
    (shared : Shared memory (share + others)) (stock : Stock Held name (count + 1) share) :
    Held ⟨memory.slots name, waitingIn name memory.trace⟩ := by
  obtain ⟨permit, rest, rfl, held, _⟩ := stock.take
  have owner := (Shared.owner (shared.congr (add_assoc _ _ _))).1
  rw [← owner]
  exact held

theorem exclusive_of_accounted (accounted : Accounted system) : Exclusive system := by
  obtain ⟨running, rx, tx, lease, idle, tied⟩ := accounted
  have whole := tied.card_eq
  refine ⟨fun name => ?_, fun some => ?_, fun some => ?_, fun some => ?_, ?_⟩
  · have most := (tied.shared.slots name).card_le
    have users := tied.touching_le name
    rw [whole name] at most
    omega
  · obtain ⟨token, tokens, list⟩ := List.exists_cons_of_ne_nil some
    have stock := tied.rxTokens
    rw [list] at stock
    have shared : Shared system.memory (rx + (running + (tx + lease + idle))) :=
      tied.shared.congr (by abel)
    exact shared.held stock
  · obtain ⟨token, tokens, list⟩ := List.exists_cons_of_ne_nil some
    have stock := tied.txTokens
    rw [list] at stock
    have shared : Shared system.memory (tx + (running + (rx + lease + idle))) :=
      tied.shared.congr (by abel)
    exact shared.held stock
  · obtain ⟨token, tokens, list⟩ := List.exists_cons_of_ne_nil some
    have stock := tied.leases
    rw [list] at stock
    have shared : Shared system.memory (lease + (running + (rx + tx + idle))) :=
      tied.shared.congr (by abel)
    exact shared.held stock
  · intro finished name nothing
    refine (tied.shared.slots name).settled ?_
    rw [whole name, nothing, tied.running_eq finished]
    rfl

end Exclusion

/-- In every interleaving, no slot has two users, and none is lost. -/
theorem slots_exclusive (moves : List SharedMove) :
    Exclusive (SharedSystem.after moves : SharedSystem w frameSize) :=
  exclusive_of_accounted (SharedSystem.accounted_after moves)

/-! ## Frames -/

/-- In every interleaving, a frame leaves its slot as it came, under its epoch, and is
received once. -/
theorem frames_intact (moves : List SharedMove) :
    Justified OnceShared (SharedSystem.after moves : SharedSystem w frameSize).memory.trace := by
  obtain ⟨running, rx, tx, lease, idle, tied⟩ :=
    @SharedSystem.accounted_after w frameSize _ moves
  exact tied.shared.once

/-! ## Wake-ups -/

section WakeUps
variable {system : SharedSystem w frameSize} {watcher : Watcher} {seen : Bool}

/-- Where no thread runs nothing is owed, so what is available was announced. -/
theorem called_of_accounted (accounted : Accounted system) (finished : system.threads = [])
    (missed : system.waits watcher = some seen)
    (available : Available watcher.poll seen system.memory) :
    Called watcher system.memory.trace := by
  obtain ⟨running, rx, tx, lease, idle, tied⟩ := accounted
  have still := tied.running_eq finished
  obtain ⟨watch, only, holds⟩ := tied.shared.watches watcher
  have paid : (running + (rx + tx + lease + idle)).owed = 0 := by
    simp [still, tied.rxTokens.owed_eq, tied.txTokens.owed_eq, tied.leases.owed_eq,
      tied.polls.owed_eq]
  have mine : (running + (rx + tx + lease + idle)).watches watcher = idle.watches watcher := by
    simp [still, tied.rxTokens.watches_eq, tied.txTokens.watches_eq, tied.leases.watches_eq]
  rw [mine] at only
  have knows := tied.polls.watches_of watcher
  split at knows
  · rw [knows] at only
    cases congrArg Multiset.card only
  · obtain ⟨known, same, learnt⟩ := knows
    rw [only, Multiset.singleton_inj] at same
    rw [paid] at holds
    rw [← same] at learnt
    rcases holds.missed seen (learnt seen missed) available with loud | announced
    · rcases loud with called | ⟨waker, _, member⟩
      · exact called
      · cases Multiset.notMem_zero _ member
    · cases Multiset.notMem_zero _ announced.2

end WakeUps

/-- In every interleaving, a task whose poll found nothing was woken if what it polled for is
there now, unless another task took its place at a waker. -/
theorem wakeups_kept (moves : List SharedMove) (watcher : Watcher) (seen : Bool)
    (finished : (SharedSystem.after moves : SharedSystem w frameSize).threads = [])
    (missed : (SharedSystem.after moves : SharedSystem w frameSize).waits watcher = some seen)
    (undisturbed : displaced watcher
      (SharedSystem.after moves : SharedSystem w frameSize).memory.trace = false)
    (available : Available watcher.poll seen
      (SharedSystem.after moves : SharedSystem w frameSize).memory) :
    rung watcher (SharedSystem.after moves : SharedSystem w frameSize).memory.trace = true := by
  rcases called_of_accounted (SharedSystem.accounted_after moves) finished missed available
    with rung | displaced
  · exact rung
  · rw [undisturbed] at displaced
    cases displaced

end Runs

/-- A waker that stays registered when it is woken. -/
@[reducible] def heldWaker : AtomicWaker :=
  { Cell := Option TaskId, new := none, register := fun _ task => some task
    wake := fun cell => (cell, cell), wakes := fun _ _ => rfl }

/-- The link comes up, a reception of task 1 finds nothing, and a frame is pushed. -/
def pushedLate : List SharedMove :=
  [.call (.setAuthorizedLink true)] ++ List.replicate 16 (.advance 0) ++
    [.call (.receive 1)] ++ List.replicate 24 (.advance 0) ++
    [.call (.pushRx [1, 2])] ++ List.replicate 24 (.advance 0)

theorem wakeups_kept_pushedLate :
    letI := heldWaker
    rung ⟨1, .receive⟩ (SharedSystem.after pushedLate : SharedSystem 8 4).memory.trace = true := by
  refine @wakeups_kept 8 4 heldWaker pushedLate ⟨1, .receive⟩ false ?_ ?_ ?_ ?_
  · refine List.length_eq_zero_iff.mp ?_
    decide +kernel
  · decide +kernel
  · decide +kernel
  · refine ⟨?_, ?_, ?_, ?_⟩
    · decide +kernel
    · decide +kernel
    · decide +kernel
    · decide +kernel

end Nrf7002
