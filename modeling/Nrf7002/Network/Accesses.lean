import Nrf7002.Network.Shares

/-! # What one access does to the shares

One rule for each kind of access: the share that it needs and the share that it leaves. -/

set_option autoImplicit false

namespace Nrf7002
open Foundation

variable {w frameSize : Nat}

/-! ## The history -/

section History
variable {trace : List (SharedEvent w)} {event : SharedEvent w} {name : SlotName}
  {watcher : Watcher}

theorem waitingIn_other (quiet : SharedEvent.opens name event = none)
    (neutral : SharedEvent.closes name event = false) :
    waitingIn name (trace ++ [event]) = waitingIn name trace :=
  pending_append_other quiet neutral

@[simp] theorem waitingIn_woken (task : TaskId) :
    waitingIn name (trace ++ [.woken task]) = waitingIn name trace := by
  cases name <;> exact waitingIn_other rfl rfl

@[simp] theorem waitingIn_registered (waker : WakerName) (task : TaskId) :
    waitingIn name (trace ++ [.registered waker task]) = waitingIn name trace := by
  cases name <;> exact waitingIn_other rfl rfl

@[simp] theorem waitingIn_watches :
    waitingIn name (trace ++ [.watches watcher]) = waitingIn name trace := by
  cases name <;> exact waitingIn_other rfl rfl

theorem Called.append (called : Called watcher trace)
    (neutral : SharedEvent.begins watcher event = false) : Called watcher (trace ++ [event]) := by
  rcases called with rung | displaced
  · left
    rw [Nrf7002.rung, isSome_pending_append, neutral]
    exact Bool.or_eq_true_iff.mpr (.inr rung)
  · right
    rw [Nrf7002.displaced, isSome_pending_append, neutral]
    exact Bool.or_eq_true_iff.mpr (.inr displaced)

theorem called_woken : Called watcher (trace ++ [.woken watcher.task]) := by
  left
  rw [rung, isSome_pending_append]
  simp [SharedEvent.rings]

theorem called_registered {waker : WakerName} {task : TaskId} (other : task ≠ watcher.task)
    (mine : SharedEvent.wakersOf watcher.poll waker = true) :
    Called watcher (trace ++ [.registered waker task]) := by
  right
  rw [displaced, isSome_pending_append]
  simp [SharedEvent.displaces, other, mine]

end History

/-! ## Slots -/

section Slots
variable {permit : Permit w frameSize} {slot : Slot w frameSize}
  {waiting : Option (BitVec w × Bytes)} {permits : Multiset (Permit w frameSize)}

theorem SlotHeld.owner (held : SlotHeld slot waiting ({permit} + permits)) :
    permit = ⟨slot, waiting⟩ ∧ permits = 0 ∧ (slot.state = .client ∨ slot.state = .producer) := by
  have single (same : {permit} + permits = ({⟨slot, waiting⟩} : Multiset (Permit w frameSize))) :
      permit = ⟨slot, waiting⟩ ∧ permits = 0 := by
    have size := congrArg Multiset.card same
    have empty : permits = 0 := by
      rw [← Multiset.card_eq_zero]
      simpa using size
    rw [empty, add_zero, Multiset.singleton_inj] at same
    exact ⟨same, empty⟩
  have nonempty : {permit} + permits ≠ 0 := by
    rw [← Multiset.card_pos, Multiset.card_add, Multiset.card_singleton]
    omega
  rw [SlotHeld] at held
  cases state : slot.state with
  | free =>
      rw [state] at held
      exact absurd held.1 nonempty
  | ready =>
      rw [state] at held
      exact absurd held.1 nonempty
  | client =>
      rw [state] at held
      exact ⟨(single held).1, (single held).2, .inl rfl⟩
  | producer =>
      rw [state] at held
      exact ⟨(single held).1, (single held).2, .inr rfl⟩

theorem slotHeld_owned (state : slot.state = .client ∨ slot.state = .producer) :
    SlotHeld slot waiting {⟨slot, waiting⟩} := by
  rw [SlotHeld]
  rcases state with state | state <;> rw [state]

theorem ownerTouches_own {access : QueueAccess w frameSize} {name : SlotName}
    (only : ∀ other, access.touches other = true → other = name) :
    OwnerTouches access (Share.own name permit) := by
  intro other touches
  rw [only other touches, Share.permits_own, Pi.single_eq_same]
  exact Nat.one_pos

/-- A slot that becomes ready or free was so before. -/
def Fades (before after : Slot w frameSize) : Prop :=
  (after.state = .ready → before.state = .ready ∧ after.epoch = before.epoch) ∧
    (after.state = .free → before.state = .free)

theorem fades_refl (slot : Slot w frameSize) : Fades slot slot :=
  ⟨fun ready => ⟨ready, rfl⟩, fun free => free⟩

theorem fades_owned {before after : Slot w frameSize}
    (owned : after.state = .client ∨ after.state = .producer) : Fades before after := by
  rcases owned with owned | owned <;> simp [Fades, owned]

/-- The exchanges of the source: a slot without an owner gets one. -/
structure Claims (current next : SlotState) : Prop where
  current : current = .free ∨ current = .ready
  next : next = .client ∨ next = .producer

/-- What the new owner of a slot knows. -/
structure Claimed (current next : SlotState) (permit : Permit w frameSize) : Prop where
  state : permit.slot.state = next
  ready : current = .ready → permit.waiting = some (permit.slot.epoch, permit.slot.frame)
  free : current = .free → permit.waiting = none

/-- The outcome of an exchange: an owner, or nothing. -/
def Exchanged (name : SlotName) (current next : SlotState) (ok : Bool)
    (kept left : Share w frameSize) : Prop :=
  if ok = true then ∃ permit, Claimed current next permit ∧ left = Share.own name permit + kept
  else left = kept

end Slots

/-! ## Debts -/

section Owing

/-- What an owner owes that sets its slot free. -/
def freed : SlotName → Share w frameSize
  | .rx => 0
  | .tx => Share.owes .txSpace none

/-- What an owner owes that makes its slot ready. -/
def readied : SlotName → Permit w frameSize → Share w frameSize
  | .rx, permit => Share.owes .rx (some permit.slot.epoch)
  | .tx, _ => Share.owes .txReady none

/-- What a change of the link owes. -/
def linkDebts : Share w frameSize :=
  Share.owes .link none + (Share.owes .rx none + (Share.owes .txSpace none +
    Share.owes .txReady none))

/-- A task that is owed every wake-up will be woken. -/
theorem loud_of_owed {watcher : Watcher} {trace : List (SharedEvent w)}
    {owed : Multiset (Owed w)} {waker : WakerName}
    (mine : SharedEvent.wakersOf watcher.poll waker = true) :
    Loud watcher trace ({⟨waker, none⟩} + owed) :=
  .inr ⟨waker, mine, Multiset.mem_add.mpr (.inl (Multiset.mem_singleton_self _))⟩

theorem loud_linkDebts (watcher : Watcher) (trace : List (SharedEvent w))
    (owed : Multiset (Owed w)) :
    Loud watcher trace ((linkDebts : Share w frameSize).owed + owed) := by
  obtain ⟨task, poll⟩ := watcher
  cases poll with
  | txReady => exact .inr ⟨.txReady, rfl, by simp [linkDebts]⟩
  | receive => exact .inr ⟨.link, rfl, by simp [linkDebts]⟩
  | transmit => exact .inr ⟨.link, rfl, by simp [linkDebts]⟩
  | linkState => exact .inr ⟨.link, rfl, by simp [linkDebts]⟩

end Owing

/-! ## Watches -/

/-- The watch of a poll that found nothing. -/
def Watch.found (watch : Watch w) (seen : Bool) : Watch w := { watch with missed := some seen }

/-- The task is registered at every waker of its poll. -/
def Watch.Full (poll : Poll) (watch : Watch w) : Prop :=
  ∀ waker, SharedEvent.wakersOf poll waker = true → waker ∈ watch.registered ∨ watch.Knows

theorem Watch.full_of_epoch {poll : Poll} {watch : Watch w} {epoch : BitVec w}
    (known : watch.epoch = some epoch) : watch.Full poll := by
  intro waker _
  refine .inr (.inr ?_)
  rw [known]
  exact Option.some_ne_none epoch

/-! ## Owners -/

variable [AtomicWaker]

section Owners
variable {memory next : SharedMemory w frameSize} {total later others : Share w frameSize}
  {name : SlotName} {permit : Permit w frameSize}

theorem Shared.owner (shared : Shared memory (Share.own name permit + others)) :
    permit = ⟨memory.slots name, waitingIn name memory.trace⟩ ∧ others.permits name = 0 ∧
      ((memory.slots name).state = .client ∨ (memory.slots name).state = .producer) := by
  have held := shared.slots name
  rw [Share.permits_add, Pi.add_apply, Share.permits_own, Pi.single_eq_same] at held
  exact held.owner

/-- A change to one slot is checked there. -/
theorem Shared.slots_of (shared : Shared memory total) (name : SlotName)
    (here : SlotHeld (next.slots name) (waitingIn name next.trace) (later.permits name))
    (elsewhere : ∀ other, other ≠ name → next.slots other = memory.slots other ∧
      waitingIn other next.trace = waitingIn other memory.trace ∧
      later.permits other = total.permits other) (other : SlotName) :
    SlotHeld (next.slots other) (waitingIn other next.trace) (later.permits other) := by
  by_cases same : other = name
  · rw [same]
    exact here
  · obtain ⟨slot, waits, permits⟩ := elsewhere other same
    rw [slot, waits, permits]
    exact shared.slots other

end Owners

/-! ## Tasks that wait -/

section Watches
variable {memory next : SharedMemory w frameSize} {owed later : Multiset (Owed w)}
  {watcher : Watcher} {watch : Watch w}

/-- Nothing becomes available where slots fade under the same link. -/
theorem Available.fades {poll : Poll} {seen : Bool} (available : Available poll seen next)
    (up : next.linkUp = memory.linkUp) (epoch : next.linkEpoch = memory.linkEpoch)
    (fades : ∀ name, Fades (memory.slots name) (next.slots name)) :
    Available poll seen memory ∧
      (poll = .receive → (next.slots .rx).epoch = (memory.slots .rx).epoch) := by
  cases poll with
  | receive =>
      obtain ⟨linked, ready, current, free⟩ := available
      obtain ⟨was, same⟩ := (fades .rx).1 ready
      refine ⟨⟨up ▸ linked, was, ?_, (fades .tx).2 free⟩, fun _ => same⟩
      rw [← same, current, epoch]
  | transmit => exact ⟨⟨up ▸ available.1, (fades .tx).2 available.2⟩, by simp⟩
  | txReady =>
      obtain ⟨linked, ready, current⟩ := available
      obtain ⟨was, same⟩ := (fades .tx).1 ready
      refine ⟨⟨up ▸ linked, was, ?_⟩, by simp⟩
      rw [← same, current, epoch]
  | linkState =>
      have changed : next.linkUp ≠ seen := available
      rw [up] at changed
      exact ⟨changed, by simp⟩

/-- A task keeps its places at the wakers unless it is called. -/
structure KeepsPlaces (watcher : Watcher) (memory next : SharedMemory w frameSize) : Prop where
  called : Called watcher memory.trace → Called watcher next.trace
  places : ∀ waker, SharedEvent.wakersOf watcher.poll waker = true →
    Registered waker watcher.task memory →
      Registered waker watcher.task next ∨ Called watcher next.trace

theorem keepsPlaces_same (trace : next.trace = memory.trace)
    (wakers : next.wakers = memory.wakers) :
    KeepsPlaces watcher memory next := by
  refine ⟨fun called => ?_, fun waker _ place => .inl ?_⟩
  · rw [trace]
    exact called
  · rw [Registered, wakers]
    exact place

theorem keepsPlaces_note {event : SharedEvent w}
    (neutral : SharedEvent.begins watcher event = false) :
    KeepsPlaces watcher memory { memory with trace := memory.trace ++ [event] } :=
  ⟨fun called => called.append neutral, fun _ _ place => .inl place⟩

/-- A registration takes the place of another task, which is called then. -/
theorem keepsPlaces_register (waker : WakerName) (task : TaskId) :
    KeepsPlaces watcher memory (memory.register waker task) := by
  refine ⟨fun called => called.append rfl, fun other mine place => ?_⟩
  by_cases same : other = waker
  · subst same
    by_cases own : task = watcher.task
    · subst own
      exact .inl ⟨_, Function.update_self ..⟩
    · exact .inr (called_registered own mine)
  · obtain ⟨cell, was⟩ := place
    refine .inl ⟨cell, ?_⟩
    rw [← was]
    exact Function.update_of_ne same ..

/-- Who is registered at a waker is woken there. -/
theorem called_wake {waker : WakerName} (place : Registered waker watcher.task memory) :
    Called watcher (memory.wake waker).trace := by
  obtain ⟨cell, same⟩ := place
  rw [SharedMemory.wake, same, AtomicWaker.wakes]
  exact called_woken

theorem trace_wake (memory : SharedMemory w frameSize) (waker : WakerName) :
    (memory.wake waker).trace = memory.trace ∨
      ∃ task, (memory.wake waker).trace = memory.trace ++ [.woken task] := by
  rw [SharedMemory.wake]
  cases (AtomicWaker.wake (memory.wakers waker)).1 with
  | none => exact .inl (List.append_nil _)
  | some task => exact .inr ⟨task, rfl⟩

theorem keepsPlaces_wake (waker : WakerName) :
    KeepsPlaces watcher memory (memory.wake waker) := by
  refine ⟨fun called => ?_, fun other mine place => ?_⟩
  · obtain same | ⟨task, same⟩ := trace_wake memory waker
    · rw [same]
      exact called
    · rw [same]
      exact called.append rfl
  · by_cases same : other = waker
    · subst same
      exact .inr (called_wake place)
    · obtain ⟨cell, was⟩ := place
      refine .inl ⟨cell, ?_⟩
      rw [← was]
      exact Function.update_of_ne same ..

theorem KeepsPlaces.loud (keeps : KeepsPlaces watcher memory next)
    (more : ∀ debt ∈ owed, debt ∈ later) (loud : Loud watcher memory.trace owed) :
    Loud watcher next.trace later := by
  rcases loud with called | ⟨waker, mine, owes⟩
  · exact .inl (keeps.called called)
  · exact .inr ⟨waker, mine, more _ owes⟩

theorem KeepsPlaces.registered (keeps : KeepsPlaces watcher memory next)
    (holds : WatchHolds watcher watch memory owed) (waker : WakerName)
    (mine : SharedEvent.wakersOf watcher.poll waker = true)
    (place : waker ∈ watch.registered ∨ watch.Knows) :
    Registered waker watcher.task next ∨ Called watcher next.trace := by
  rcases holds.registered waker mine place with registered | called
  · exact keeps.places waker mine registered
  · exact .inr (keeps.called called)

/-- The watch goes on where nothing becomes available unannounced. -/
theorem WatchHolds.go (holds : WatchHolds watcher watch memory owed)
    (epoch : next.linkEpoch = memory.linkEpoch) (keeps : KeepsPlaces watcher memory next)
    (loud : watch.Knows → Loud watcher memory.trace owed → Loud watcher next.trace later)
    (stays : ∀ seen, watch.Knows → Available watcher.poll seen next →
      (Loud watcher next.trace later ∨
        Announced watcher.poll (next.slots .rx).epoch later) ∨
      (Available watcher.poll seen memory ∧
        (Announced watcher.poll (memory.slots .rx).epoch owed →
          Loud watcher next.trace later ∨
            Announced watcher.poll (next.slots .rx).epoch later))) :
    WatchHolds watcher watch next later := by
  refine ⟨keeps.registered holds, fun seen missed available => ?_, fun known same => ?_⟩
  · have knows : watch.Knows := .inl (by rw [missed]; exact Option.some_ne_none seen)
    rcases stays seen knows available with told | ⟨before, still⟩
    · exact told
    · rcases holds.missed seen missed before with rung | waits
      · exact .inl (loud knows rung)
      · exact still waits
  · have knows : watch.Knows := .inr (by rw [same]; exact Option.some_ne_none known)
    rw [epoch]
    exact (holds.epoch known same).imp_right (loud knows)

/-- The same where slots fade. -/
theorem WatchHolds.fades (holds : WatchHolds watcher watch memory owed)
    (up : next.linkUp = memory.linkUp) (epoch : next.linkEpoch = memory.linkEpoch)
    (fades : ∀ name, Fades (memory.slots name) (next.slots name))
    (keeps : KeepsPlaces watcher memory next) (more : ∀ debt ∈ owed, debt ∈ later) :
    WatchHolds watcher watch next later := by
  refine holds.go epoch keeps (fun _ => keeps.loud more) fun seen _ available => .inr ?_
  obtain ⟨before, same⟩ := available.fades up epoch fades
  refine ⟨before, fun waits => .inr ⟨waits.1, ?_⟩⟩
  rw [same waits.1]
  exact more _ waits.2

end Watches

section Watchers
variable {memory next : SharedMemory w frameSize} {others : Share w frameSize}
  {watcher : Watcher} {watch : Watch w}

theorem Shared.watched (shared : Shared memory (Share.watching watcher watch + others)) :
    others.watches watcher = 0 ∧ WatchHolds watcher watch memory others.owed := by
  obtain ⟨mine, only, holds⟩ := shared.watches watcher
  rw [Share.watches_add, Pi.add_apply, Share.watches_watching, Pi.single_eq_same] at only
  have size := congrArg Multiset.card only
  have empty : others.watches watcher = 0 := by
    rw [← Multiset.card_eq_zero]
    simpa using size
  rw [empty, add_zero, Multiset.singleton_inj] at only
  rw [Share.owed_add, Share.owed_watching, zero_add, ← only] at holds
  exact ⟨empty, holds⟩

theorem Shared.watches_of {learnt : Watch w}
    (shared : Shared memory (Share.watching watcher watch + others))
    (mine : WatchHolds watcher learnt next others.owed)
    (rest : ∀ other, other ≠ watcher → ∀ watch, WatchHolds other watch memory others.owed →
      WatchHolds other watch next others.owed) (other : Watcher) :
    ∃ watch, (Share.watching watcher learnt + others).watches other = {watch} ∧
      WatchHolds other watch next (Share.watching watcher learnt + others).owed := by
  rw [Share.watches_add, Share.owed_add, Share.owed_watching, zero_add, Pi.add_apply,
    Share.watches_watching]
  by_cases same : other = watcher
  · subst same
    rw [Pi.single_eq_same, shared.watched.1, add_zero]
    exact ⟨learnt, rfl, mine⟩
  · obtain ⟨watch, only, holds⟩ := shared.watches other
    rw [Share.watches_add, Pi.add_apply, Share.watches_watching] at only
    rw [Pi.single_eq_of_ne same] at only ⊢
    rw [Share.owed_add, Share.owed_watching, zero_add] at holds
    exact ⟨watch, only, rest other same watch holds⟩

end Watchers

/-! ## Accesses that change nothing -/

section Still
variable {access : QueueAccess w frameSize} {share : Share w frameSize}

theorem turns_observe {Fact : access.Answer → Prop}
    (still : ∀ memory : SharedMemory w frameSize, (access.apply memory).2 = memory)
    (needs : OwnerTouches access share)
    (fact : ∀ memory others, Shared memory (share + others) → Fact (access.apply memory).1) :
    (queueSharing w frameSize).Turns access share (fun answer left =>
      Fact answer ∧ left = share) := by
  refine ⟨needs, fun memory others shared => ⟨share, ⟨fact memory others shared, rfl⟩, ?_⟩⟩
  show Shared (access.apply memory).2 (share + others)
  rw [still memory]
  exact shared

theorem turns_learn {watcher : Watcher} {watch : Watch w} {learnt : access.Answer → Watch w}
    (still : ∀ memory : SharedMemory w frameSize, (access.apply memory).2 = memory)
    (quiet : ∀ name, access.touches name = false)
    (learns : ∀ (memory : SharedMemory w frameSize) owed, WatchHolds watcher watch memory owed →
      WatchHolds watcher (learnt (access.apply memory).1) memory owed) :
    (queueSharing w frameSize).Turns access (Share.watching watcher watch) (fun answer left =>
      left = Share.watching watcher (learnt answer)) := by
  refine ⟨fun name touches => ?_, fun memory others shared => ⟨_, rfl, ?_⟩⟩
  · rw [quiet] at touches
    cases touches
  · show Shared (access.apply memory).2 _
    rw [still memory]
    exact ⟨shared.slots, shared.once,
      shared.watches_of (learns memory _ shared.watched.2) fun _ _ _ holds => holds⟩

end Still

/-! ## Accesses of an owner -/

section Owner
variable {memory : SharedMemory w frameSize} {others debts : Share w frameSize}
  {name : SlotName} {permit : Permit w frameSize} {slot : Slot w frameSize}

/-- Fading elsewhere is for free. -/
theorem fades_setSlot (fades : Fades (memory.slots name) slot) (other : SlotName) :
    Fades (memory.slots other) ((memory.setSlot name slot).slots other) := by
  by_cases same : other = name
  · rw [same, SharedMemory.setSlot_same]
    exact fades
  · rw [SharedMemory.setSlot_other memory name slot same]
    exact fades_refl _

theorem Shared.edit (shared : Shared memory (Share.own name permit + others))
    (keeps : slot.state = permit.slot.state) :
    Shared (memory.setSlot name slot)
      (Share.own name { permit with slot } + others) := by
  obtain ⟨rfl, alone, owned⟩ := shared.owner
  have stays : slot.state = .client ∨ slot.state = .producer := by
    rw [keeps]
    exact owned
  refine ⟨shared.slots_of name ?_ ?_, shared.once, fun watcher => ?_⟩
  · rw [Share.permits_add, Pi.add_apply, alone, Share.permits_own, Pi.single_eq_same, add_zero,
      SharedMemory.setSlot_same]
    exact slotHeld_owned stays
  · intro other different
    refine ⟨SharedMemory.setSlot_other memory name _ different, rfl, ?_⟩
    simp [different]
  · obtain ⟨watch, sole, holds⟩ := shared.watches watcher
    exact ⟨watch, sole, holds.fades rfl rfl (fades_setSlot (fades_owned stays))
      (keepsPlaces_same rfl rfl) fun _ member => member⟩

theorem turns_edit {access : QueueAccess w frameSize} (edit : Slot w frameSize → Slot w frameSize)
    (Fact : access.Answer → Prop)
    (only : ∀ other, access.touches other = true → other = name)
    (edits : ∀ memory : SharedMemory w frameSize,
      (access.apply memory).2 = memory.setSlot name (edit (memory.slots name)))
    (keeps : ∀ slot, (edit slot).state = slot.state)
    (fact : ∀ memory : SharedMemory w frameSize, memory.slots name = permit.slot →
      Fact (access.apply memory).1) :
    (queueSharing w frameSize).Turns access (Share.own name permit) (fun answer left =>
      Fact answer ∧ left = Share.own name { permit with slot := edit permit.slot }) := by
  refine ⟨ownerTouches_own only, fun memory others shared => ⟨_, ⟨?_, rfl⟩, ?_⟩⟩
  · exact fact memory (by rw [(Shared.owner shared).1])
  · have mine : permit.slot = memory.slots name := by rw [(Shared.owner shared).1]
    show Shared (access.apply memory).2 _
    rw [edits memory, ← mine]
    exact Shared.edit shared (keeps _)

theorem turns_note {event : SharedEvent w}
    (once : ∀ trace, waitingIn name trace = permit.waiting → OnceShared trace event)
    (elsewhere : ∀ other, other ≠ name → SharedEvent.opens other event = none ∧
      SharedEvent.closes other event = false)
    (quiet : ∀ watcher, SharedEvent.begins watcher event = false) :
    (queueSharing w frameSize).Turns (.note event) (Share.own name permit) (fun _ left =>
      left = Share.own name { permit with
        waiting := pendingAfter (SharedEvent.opens name) (SharedEvent.closes name)
          permit.waiting event }) := by
  refine ⟨fun other touches => absurd touches (by simp [QueueAccess.touches]),
    fun memory others shared => ⟨_, rfl, ?_⟩⟩
  obtain ⟨rfl, alone, owned⟩ := Shared.owner shared
  refine ⟨Shared.slots_of shared name ?_ ?_, shared.once.append (once _ rfl), fun watcher => ?_⟩
  · rw [Share.permits_add, Pi.add_apply, alone, Share.permits_own, Pi.single_eq_same, add_zero]
    show SlotHeld (memory.slots name) (waitingIn name (memory.trace ++ [event])) _
    rw [waitingIn, pending_append]
    exact slotHeld_owned owned
  · intro other different
    refine ⟨rfl, waitingIn_other (elsewhere other different).1 (elsewhere other different).2, ?_⟩
    simp [different]
  · obtain ⟨watch, sole, holds⟩ := shared.watches watcher
    exact ⟨watch, sole, holds.fades rfl rfl (fun _ => fades_refl _)
      (keepsPlaces_note (quiet watcher)) fun _ member => member⟩

/-- An owner gives its slot up, and owes what that makes available. -/
theorem Shared.store {state : SlotState}
    (shared : Shared memory (Share.own name permit + others))
    (held : SlotHeld { permit.slot with state } permit.waiting 0)
    (bare : debts.permits = 0) (unwatched : debts.watches = 0)
    (owes : memory.slots name = permit.slot → ∀ watcher seen,
      Available watcher.poll seen (memory.setSlot name { permit.slot with state }) →
      (Loud watcher memory.trace (debts.owed + others.owed) ∨
        Announced watcher.poll (memory.slots .rx).epoch (debts.owed + others.owed)) ∨
      Available watcher.poll seen memory) :
    Shared (memory.setSlot name { permit.slot with state }) (debts + others) := by
  obtain ⟨rfl, alone, owned⟩ := shared.owner
  have epoch : ((memory.setSlot name { memory.slots name with state }).slots .rx).epoch =
      (memory.slots .rx).epoch := by
    by_cases same : .rx = name
    · rw [← same, SharedMemory.setSlot_same]
    · rw [SharedMemory.setSlot_other memory name _ same]
  refine ⟨shared.slots_of name ?_ ?_, shared.once, fun watcher => ?_⟩
  · rw [Share.permits_add, Pi.add_apply, alone, bare, SharedMemory.setSlot_same]
    exact held
  · intro other different
    refine ⟨SharedMemory.setSlot_other memory name _ different, rfl, ?_⟩
    simp [different, bare]
  · obtain ⟨watch, sole, holds⟩ := shared.watches watcher
    refine ⟨watch, ?_, ?_⟩
    · rw [← sole]
      simp [unwatched]
    · rw [Share.owed_add, Share.owed_own, zero_add] at holds
      have more : ∀ debt ∈ others.owed, debt ∈ debts.owed + others.owed :=
        fun debt member => Multiset.mem_add.mpr (.inr member)
      have keeps : KeepsPlaces watcher memory
          (memory.setSlot name { memory.slots name with state }) := keepsPlaces_same rfl rfl
      refine holds.go rfl keeps (fun _ => keeps.loud more) fun seen _ available => ?_
      rw [epoch]
      rcases owes rfl watcher seen available with told | before
      · exact .inl told
      · exact .inr ⟨before, fun announced => .inr ⟨announced.1, more _ announced.2⟩⟩

/-- Only a task that receives looks at the receive slot. -/
theorem available_setSlot_rx {poll : Poll} {seen : Bool} (other : poll ≠ .receive)
    (available : Available poll seen (memory.setSlot .rx slot)) : Available poll seen memory := by
  have same : (memory.setSlot .rx slot).slots .tx = memory.slots .tx :=
    SharedMemory.setSlot_other memory .rx slot (by decide)
  cases poll with
  | receive => exact absurd rfl other
  | transmit =>
      rw [Available, same] at available
      exact available
  | txReady =>
      rw [Available, same] at available
      exact available
  | linkState => exact available

theorem turns_storeFree (empty : permit.waiting = none) :
    (queueSharing w frameSize).Turns (.storeState name .free) (Share.own name permit)
      (fun _ left => left = freed name) := by
  refine ⟨ownerTouches_own (by simp [QueueAccess.touches]), fun memory others shared =>
    ⟨_, rfl, ?_⟩⟩
  have mine : permit.slot = memory.slots name := by rw [(Shared.owner shared).1]
  show Shared (memory.setSlot name { memory.slots name with state := .free }) _
  rw [← mine]
  refine Shared.store shared ⟨rfl, empty⟩ ?_ ?_ fun _ watcher seen available => ?_
  · cases name <;> rfl
  · cases name <;> rfl
  · obtain ⟨task, poll⟩ := watcher
    cases name with
    | rx =>
        refine .inr (available_setSlot_rx ?_ available)
        rintro rfl
        simp [Available] at available
    | tx =>
        cases poll with
        | receive => exact .inl (.inl (loud_of_owed rfl))
        | transmit => exact .inl (.inl (loud_of_owed rfl))
        | txReady => simp [Available] at available
        | linkState => exact .inr available

theorem turns_storeReady (waits : permit.waiting = some (permit.slot.epoch, permit.slot.frame)) :
    (queueSharing w frameSize).Turns (.storeState name .ready) (Share.own name permit)
      (fun _ left => left = readied name permit) := by
  refine ⟨ownerTouches_own (by simp [QueueAccess.touches]), fun memory others shared =>
    ⟨_, rfl, ?_⟩⟩
  have mine : permit.slot = memory.slots name := by rw [(Shared.owner shared).1]
  show Shared (memory.setSlot name { memory.slots name with state := .ready }) _
  rw [← mine]
  refine Shared.store shared ⟨rfl, waits⟩ ?_ ?_ fun same watcher seen available => ?_
  · cases name <;> rfl
  · cases name <;> rfl
  · obtain ⟨task, poll⟩ := watcher
    cases name with
    | rx =>
        cases poll with
        | receive =>
            refine .inl (.inr ⟨rfl, ?_⟩)
            rw [same]
            exact Multiset.mem_add.mpr (.inl (Multiset.mem_singleton_self _))
        | transmit => exact .inr (available_setSlot_rx (by simp) available)
        | txReady => exact .inr (available_setSlot_rx (by simp) available)
        | linkState => exact .inr available
    | tx =>
        cases poll with
        | receive => simp [Available] at available
        | transmit => simp [Available] at available
        | txReady => exact .inl (.inl (loud_of_owed rfl))
        | linkState => exact .inr available

end Owner

/-! ## Claiming a slot -/

section Claim
variable {memory : SharedMemory w frameSize} {others : Share w frameSize}
  {name : SlotName} {current next : SlotState}

theorem Shared.claim (shared : Shared memory others) (claims : Claims current next)
    (found : (memory.slots name).state = current) :
    ∃ permit : Permit w frameSize, Claimed current next permit ∧
      Shared (memory.setSlot name { memory.slots name with state := next })
        (Share.own name permit + others) := by
  have held := shared.slots name
  rw [SlotHeld] at held
  have ownerless : others.permits name = 0 ∧
      (current = .ready → waitingIn name memory.trace =
        some ((memory.slots name).epoch, (memory.slots name).frame)) ∧
      (current = .free → waitingIn name memory.trace = none) := by
    rcases claims.current with rfl | rfl
    · rw [found] at held
      exact ⟨held.1, by simp, fun _ => held.2⟩
    · rw [found] at held
      exact ⟨held.1, fun _ => held.2, by simp⟩
  refine ⟨⟨{ memory.slots name with state := next }, waitingIn name memory.trace⟩,
    ⟨rfl, ownerless.2.1, ownerless.2.2⟩, shared.slots_of name ?_ ?_, shared.once,
    fun watcher => ?_⟩
  · rw [Share.permits_add, Pi.add_apply, ownerless.1, Share.permits_own, Pi.single_eq_same,
      add_zero, SharedMemory.setSlot_same]
    exact slotHeld_owned claims.next
  · intro other different
    refine ⟨SharedMemory.setSlot_other memory name _ different, rfl, ?_⟩
    simp [different]
  · obtain ⟨watch, sole, holds⟩ := shared.watches watcher
    refine ⟨watch, ?_, ?_⟩
    · rw [← sole]
      simp
    · rw [Share.owed_add, Share.owed_own, zero_add]
      exact holds.fades rfl rfl (fades_setSlot (fades_owned claims.next)) (keepsPlaces_same rfl rfl)
        fun _ member => member

theorem turns_claim (claims : Claims current next) :
    (queueSharing w frameSize).Turns (.compareExchange name current next) 0 (fun ok left =>
      Exchanged name current next ok 0 left) := by
  refine ⟨fun other touches => absurd touches (by simp [QueueAccess.touches]),
    fun memory others shared => ?_⟩
  show ∃ left, Exchanged name current next
      (QueueAccess.apply (.compareExchange name current next) memory).1 0 left ∧
    Shared (QueueAccess.apply (.compareExchange name current next) memory).2 (left + others)
  rw [QueueAccess.apply]
  by_cases found : (memory.slots name).state = current
  · rw [if_pos found]
    rw [zero_add] at shared
    obtain ⟨permit, claimed, owned⟩ := Shared.claim shared claims found
    exact ⟨_, ⟨permit, claimed, (add_zero _).symm⟩, owned⟩
  · rw [if_neg found]
    exact ⟨0, rfl, shared⟩

end Claim

/-! ## Wake-ups -/

section Debts
variable {memory : SharedMemory w frameSize} {others debts : Share w frameSize}
  {waker : WakerName} {epoch : Option (BitVec w)}

theorem Shared.owe (shared : Shared memory others) (bare : debts.permits = 0)
    (unwatched : debts.watches = 0) : Shared memory (debts + others) := by
  have more : ∀ debt ∈ others.owed, debt ∈ debts.owed + others.owed :=
    fun debt member => Multiset.mem_add.mpr (.inr member)
  refine ⟨fun name => ?_, shared.once, fun watcher => ?_⟩
  · rw [Share.permits_add, bare, zero_add]
    exact shared.slots name
  · obtain ⟨watch, sole, holds⟩ := shared.watches watcher
    rw [Share.watches_add, unwatched, zero_add]
    exact ⟨watch, sole,
      holds.fades rfl rfl (fun _ => fades_refl _) (keepsPlaces_same rfl rfl) more⟩

/-- The history of a change that no slot and no link sees. -/
theorem Shared.mark {event : SharedEvent w} {next : SharedMemory w frameSize}
    (shared : Shared memory others) (same : next.slots = memory.slots)
    (trace : next.trace = memory.trace ++ [event]) (free : OnceShared memory.trace event)
    (quiet : ∀ name, waitingIn name (memory.trace ++ [event]) = waitingIn name memory.trace)
    (watches : ∀ watcher watch, WatchHolds watcher watch memory others.owed →
      WatchHolds watcher watch next others.owed) : Shared next others := by
  refine ⟨fun name => ?_, ?_, fun watcher => ?_⟩
  · rw [same, trace, quiet]
    exact shared.slots name
  · rw [trace]
    exact shared.once.append free
  · obtain ⟨watch, sole, holds⟩ := shared.watches watcher
    exact ⟨watch, sole, watches watcher watch holds⟩

theorem Shared.register (shared : Shared memory others) (waker : WakerName) (task : TaskId) :
    Shared (memory.register waker task) others :=
  shared.mark rfl rfl trivial (fun _ => waitingIn_registered waker task) fun _ _ holds =>
    holds.fades rfl rfl (fun _ => fades_refl _) (keepsPlaces_register waker task)
      fun _ member => member

theorem Shared.woken (shared : Shared memory others) (task : TaskId) :
    Shared { memory with trace := memory.trace ++ [.woken task] } others :=
  shared.mark rfl rfl trivial (fun _ => waitingIn_woken task) fun _ _ holds =>
    holds.fades rfl rfl (fun _ => fades_refl _) (keepsPlaces_note rfl) fun _ member => member

theorem Shared.wake (shared : Shared memory others) (waker : WakerName)
    {rest : Share w frameSize} (bare : rest.permits = others.permits)
    (watches : ∀ watcher, ∃ watch, rest.watches watcher = {watch} ∧
      WatchHolds watcher watch (memory.wake waker) rest.owed) :
    Shared (memory.wake waker) rest := by
  refine ⟨fun name => ?_, ?_, watches⟩
  · have held := shared.slots name
    rw [← bare] at held
    show SlotHeld (memory.slots name) (waitingIn name (memory.wake waker).trace) _
    obtain same | ⟨task, same⟩ := trace_wake memory waker
    · rw [same]
      exact held
    · rw [same, waitingIn_woken]
      exact held
  · obtain same | ⟨task, same⟩ := trace_wake memory waker
    · rw [same]
      exact shared.once
    · rw [same]
      exact shared.once.append trivial

/-- A wake-up pays the debt: the task is registered there, or called already. -/
theorem WatchHolds.pay {watcher : Watcher} {watch : Watch w} {owed : Multiset (Owed w)}
    (holds : WatchHolds watcher watch memory ({⟨waker, epoch⟩} + owed)) :
    WatchHolds watcher watch (memory.wake waker) owed := by
  have keeps : KeepsPlaces watcher memory (memory.wake waker) := keepsPlaces_wake waker
  have paid (knows : watch.Knows) (mine : SharedEvent.wakersOf watcher.poll waker = true) :
      Called watcher (memory.wake waker).trace := by
    rcases holds.registered waker mine (.inr knows) with place | called
    · exact called_wake place
    · exact keeps.called called
  refine holds.go rfl keeps (fun knows loud => ?_) fun seen knows available =>
    .inr ⟨?_, fun announced => ?_⟩
  · rcases loud with called | ⟨other, mine, owes⟩
    · exact .inl (keeps.called called)
    · rcases Multiset.mem_add.mp owes with this | rest
      · cases Multiset.mem_singleton.mp this
        exact .inl (paid knows mine)
      · exact .inr ⟨other, mine, rest⟩
  · obtain ⟨task, poll⟩ := watcher
    cases poll <;> exact available
  · obtain ⟨receives, owes⟩ := announced
    rcases Multiset.mem_add.mp owes with this | rest
    · cases Multiset.mem_singleton.mp this
      refine .inl (.inl (paid knows ?_))
      rw [receives]
      rfl
    · exact .inr ⟨receives, rest⟩

theorem Shared.pay (shared : Shared memory (Share.owes waker epoch + others)) :
    Shared (memory.wake waker) others := by
  refine shared.wake waker ?_ fun watcher => ?_
  · rw [Share.permits_add, Share.permits_owes, zero_add]
  · obtain ⟨watch, sole, holds⟩ := shared.watches watcher
    rw [Share.watches_add, Share.watches_owes, zero_add] at sole
    rw [Share.owed_add, Share.owed_owes] at holds
    exact ⟨watch, sole, holds.pay⟩

/-- A debt for a frame that is not ready is none. -/
theorem Shared.forget {epoch : BitVec w}
    (shared : Shared memory (Share.owes .rx (some epoch) + others))
    (gone : ¬ ((memory.slots .rx).state = .ready ∧ (memory.slots .rx).epoch = epoch)) :
    Shared memory others := by
  refine ⟨fun name => ?_, shared.once, fun watcher => ?_⟩
  · have held := shared.slots name
    rw [Share.permits_add, Share.permits_owes, zero_add] at held
    exact held
  · obtain ⟨watch, sole, holds⟩ := shared.watches watcher
    rw [Share.watches_add, Share.watches_owes, zero_add] at sole
    rw [Share.owed_add, Share.owed_owes] at holds
    obtain ⟨task, poll⟩ := watcher
    refine ⟨watch, sole, holds.go rfl (keepsPlaces_same rfl rfl) (fun _ loud => ?_)
      fun seen _ available => .inr ⟨available, fun announced => ?_⟩⟩
    · rcases loud with called | ⟨other, mine, owes⟩
      · exact .inl called
      · rcases Multiset.mem_add.mp owes with this | rest
        · cases Multiset.mem_singleton.mp this
        · exact .inr ⟨other, mine, rest⟩
    · obtain ⟨rfl, owes⟩ := announced
      rcases Multiset.mem_add.mp owes with this | rest
      · have same : (memory.slots .rx).epoch = epoch :=
          Option.some.inj (congrArg Owed.epoch (Multiset.mem_singleton.mp this))
        exact absurd ⟨available.2.1, same⟩ gone
      · exact .inr ⟨rfl, rest⟩

theorem turns_wake :
    (queueSharing w frameSize).Turns (.wake waker) (Share.owes waker epoch) (fun _ left =>
      left = 0) := by
  refine ⟨fun other touches => absurd touches (by simp [QueueAccess.touches]),
    fun memory others shared => ⟨0, rfl, ?_⟩⟩
  rw [zero_add]
  exact Shared.pay shared

theorem turns_register (task : TaskId) :
    (queueSharing w frameSize).Turns (.register waker task) 0 (fun _ left => left = 0) := by
  refine ⟨fun other touches => absurd touches (by simp [QueueAccess.touches]),
    fun memory others shared => ⟨0, rfl, ?_⟩⟩
  exact Shared.register shared waker task

theorem turns_wakeByRef (task : TaskId) :
    (queueSharing w frameSize).Turns (.wakeByRef task) 0 (fun _ left => left = 0) := by
  refine ⟨fun other touches => absurd touches (by simp [QueueAccess.touches]),
    fun memory others shared => ⟨0, rfl, ?_⟩⟩
  exact Shared.woken shared task

theorem turns_forgetEpoch {epoch : BitVec w} :
    (queueSharing w frameSize).Turns (.loadEpoch .rx) (Share.owes .rx (some epoch))
      (fun found left => left = if found = epoch then Share.owes .rx (some epoch) else 0) := by
  refine ⟨fun other touches => absurd touches (by simp [QueueAccess.touches]),
    fun memory others shared => ⟨_, rfl, ?_⟩⟩
  show Shared memory ((if (memory.slots .rx).epoch = epoch then _ else 0) + others)
  split
  · exact shared
  · rename_i other
    rw [zero_add]
    exact Shared.forget shared fun both => other both.2

theorem turns_claimOwing {epoch : BitVec w} :
    (queueSharing w frameSize).Turns (.compareExchange .rx .ready .producer)
      (Share.owes .rx (some epoch)) (fun ok left =>
        Exchanged .rx .ready .producer ok 0 left) := by
  refine ⟨fun other touches => absurd touches (by simp [QueueAccess.touches]),
    fun memory others shared => ?_⟩
  show ∃ left, Exchanged .rx .ready .producer
      (QueueAccess.apply (.compareExchange .rx .ready .producer) memory).1 0 left ∧
    Shared (QueueAccess.apply (.compareExchange .rx .ready .producer) memory).2 (left + others)
  rw [QueueAccess.apply]
  by_cases found : (memory.slots .rx).state = .ready
  · rw [if_pos found]
    have claims : Claims .ready .producer := ⟨.inr rfl, .inr rfl⟩
    obtain ⟨permit, claimed, owned⟩ := Shared.claim shared claims found
    refine ⟨_, ⟨permit, claimed, (add_zero _).symm⟩, ?_⟩
    rw [add_left_comm] at owned
    exact owned.forget fun both => by simp at both
  · rw [if_neg found]
    exact ⟨0, rfl, by rw [zero_add]; exact Shared.forget shared fun both => found both.1⟩

/-- A task that is owed every wake-up learns of any change of the link. -/
theorem Shared.relink (shared : Shared memory (linkDebts + others)) (up : Bool)
    (epoch : BitVec w) :
    Shared { memory with linkUp := up, linkEpoch := epoch } (linkDebts + others) := by
  refine ⟨shared.slots, shared.once, fun watcher => ?_⟩
  obtain ⟨watch, sole, holds⟩ := shared.watches watcher
  have loud : Loud watcher memory.trace (linkDebts + others).owed := loud_linkDebts watcher _ _
  exact ⟨watch, sole, holds.registered, fun _ _ _ => .inl loud, fun _ _ => .inr loud⟩

theorem turns_swapLinkUp (up : Bool) :
    (queueSharing w frameSize).Turns (.swapLinkUp up) 0 (fun old left =>
      left = if old = up then 0 else linkDebts) := by
  refine ⟨fun other touches => absurd touches (by simp [QueueAccess.touches]),
    fun memory others shared => ⟨_, rfl, ?_⟩⟩
  show Shared { memory with linkUp := up } ((if memory.linkUp = up then 0 else linkDebts) + others)
  rw [zero_add] at shared
  by_cases same : memory.linkUp = up
  · rw [if_pos same, zero_add, ← same]
    exact shared
  · rw [if_neg same]
    exact (Shared.owe shared rfl rfl).relink up memory.linkEpoch

theorem turns_fetchAddLinkEpoch :
    (queueSharing w frameSize).Turns .fetchAddLinkEpoch linkDebts (fun _ left =>
      left = linkDebts) :=
  ⟨fun other touches => absurd touches (by simp [QueueAccess.touches]),
    fun memory others shared => ⟨_, rfl, Shared.relink shared memory.linkUp _⟩⟩

end Debts

/-! ## What a poll learns -/

section Available
variable {memory : SharedMemory w frameSize} {seen : Bool}

theorem Available.rxReady (available : Available .receive seen memory) :
    (memory.slots .rx).state = .ready := available.2.1

theorem Available.rxEpoch (available : Available .receive seen memory) :
    (memory.slots .rx).epoch = memory.linkEpoch := available.2.2.1

theorem Available.txFree (available : Available .transmit seen memory) :
    (memory.slots .tx).state = .free := available.2

theorem Available.txEpoch (available : Available .txReady seen memory) :
    (memory.slots .tx).epoch = memory.linkEpoch := available.2.2

end Available

section Learning
variable {memory : SharedMemory w frameSize} {others : Share w frameSize} {watcher : Watcher}
  {watch learnt : Watch w} {owed : Multiset (Owed w)} {name : SlotName}
  {current next : SlotState} {seen : Bool} {waker : WakerName}

theorem Shared.relearn (shared : Shared memory (Share.watching watcher watch + others))
    (holds : WatchHolds watcher learnt memory others.owed) :
    Shared memory (Share.watching watcher learnt + others) := by
  refine ⟨fun name => ?_, shared.once, shared.watches_of holds fun _ _ _ same => same⟩
  have held := shared.slots name
  rw [Share.permits_add, Share.permits_watching] at held ⊢
  exact held

theorem WatchHolds.places (holds : WatchHolds watcher watch memory owed)
    (full : watch.Full watcher.poll) (waker : WakerName)
    (mine : SharedEvent.wakersOf watcher.poll waker = true) :
    Registered waker watcher.task memory ∨ Called watcher memory.trace :=
  holds.registered waker mine (full waker mine)

theorem WatchHolds.found (holds : WatchHolds watcher watch memory owed)
    (full : watch.Full watcher.poll) (gone : ¬ Available watcher.poll seen memory) :
    WatchHolds watcher (watch.found seen) memory owed := by
  refine ⟨fun waker mine _ => holds.places full waker mine, fun other same available => ?_,
    holds.epoch⟩
  cases same
  exact absurd available gone

theorem WatchHolds.loud (holds : WatchHolds watcher watch memory owed)
    (full : watch.Full watcher.poll) (loud : Loud watcher memory.trace owed) :
    WatchHolds watcher (watch.found seen) memory owed :=
  ⟨fun waker mine _ => holds.places full waker mine, fun _ _ _ => .inl loud, holds.epoch⟩

/-- To a task that is called nothing is promised. -/
theorem watchHolds_called (called : Called watcher memory.trace) :
    WatchHolds watcher learnt memory owed :=
  ⟨fun _ _ _ => .inr called, fun _ _ _ => .inl (.inl called), fun _ _ => .inr (.inl called)⟩

/-- A link that is down has nothing for anyone. -/
theorem turns_learnLink (data : watcher.poll ≠ .linkState) (full : watch.Full watcher.poll) :
    (queueSharing w frameSize).Turns .loadLinkUp (Share.watching watcher watch) (fun up left =>
      left = Share.watching watcher (if up = true then watch else watch.found false)) := by
  refine turns_learn (fun _ => rfl) (fun _ => rfl) fun memory owed holds => ?_
  show WatchHolds watcher (if memory.linkUp = true then watch else watch.found false) memory owed
  split
  · exact holds
  · rename_i down
    refine holds.found full fun available => down ?_
    obtain ⟨task, poll⟩ := watcher
    cases poll with
    | receive => exact available.1
    | transmit => exact available.1
    | txReady => exact available.1
    | linkState => exact absurd rfl data

theorem turns_learnLinkState {task : TaskId} (full : watch.Full .linkState) :
    (queueSharing w frameSize).Turns .loadLinkUp (Share.watching ⟨task, .linkState⟩ watch)
      (fun up left => left = Share.watching ⟨task, .linkState⟩ (watch.found up)) := by
  refine turns_learn (fun _ => rfl) (fun _ => rfl) fun memory owed holds => ?_
  exact holds.found full fun changed => changed rfl

theorem turns_learnEpoch (full : watch.Full watcher.poll) :
    (queueSharing w frameSize).Turns .loadLinkEpoch (Share.watching watcher watch)
      (fun epoch left => left = Share.watching watcher { watch with epoch := some epoch }) := by
  refine turns_learn (fun _ => rfl) (fun _ => rfl) fun memory owed holds =>
    ⟨fun waker mine _ => holds.places full waker mine, holds.missed, ?_⟩
  intro epoch same
  cases same
  exact .inl rfl

/-- An epoch that changed was announced to everyone. -/
theorem turns_compareEpoch {epoch : BitVec w} (known : watch.epoch = some epoch) :
    (queueSharing w frameSize).Turns .loadLinkEpoch (Share.watching watcher watch)
      (fun now left => left = Share.watching watcher
        (if now = epoch then watch else watch.found false)) := by
  refine turns_learn (fun _ => rfl) (fun _ => rfl) fun memory owed holds => ?_
  show WatchHolds watcher (if memory.linkEpoch = epoch then watch else watch.found false)
    memory owed
  split
  · exact holds
  · rename_i changed
    exact holds.loud (Watch.full_of_epoch known) ((holds.epoch epoch known).resolve_left changed)

theorem turns_learnTxState {task : TaskId} (full : watch.Full .txReady) :
    (queueSharing w frameSize).Turns (.loadState .tx) (Share.watching ⟨task, .txReady⟩ watch)
      (fun state left => left = Share.watching ⟨task, .txReady⟩
        (if state = .ready then watch else watch.found false)) := by
  refine turns_learn (fun _ => rfl) (fun _ => rfl) fun memory owed holds => ?_
  show WatchHolds ⟨task, .txReady⟩ (if (memory.slots .tx).state = .ready then watch else
    watch.found false) memory owed
  split
  · exact holds
  · rename_i other
    exact holds.found full fun available => other available.2.1

/-- A slot under another epoch than the link's is not what the poll waits for. -/
theorem turns_learnSlotEpoch {epoch : BitVec w} (known : watch.epoch = some epoch)
    (looks : ∀ seen (memory : SharedMemory w frameSize), Available watcher.poll seen memory →
      (memory.slots name).epoch = memory.linkEpoch) :
    (queueSharing w frameSize).Turns (.loadEpoch name) (Share.watching watcher watch)
      (fun found left => left = Share.watching watcher
        (if found = epoch then watch else watch.found false)) := by
  refine turns_learn (fun _ => rfl) (fun _ => rfl) fun memory owed holds => ?_
  show WatchHolds watcher (if (memory.slots name).epoch = epoch then watch else watch.found false)
    memory owed
  split
  · exact holds
  · rename_i other
    refine ⟨fun waker mine _ => holds.places (Watch.full_of_epoch known) waker mine,
      fun seen _ available => .inl ?_, holds.epoch⟩
    refine (holds.epoch epoch known).resolve_left fun same => other ?_
    rw [looks seen memory available, same]

theorem turns_claimWatched (claims : Claims current next) (full : watch.Full watcher.poll)
    (gone : ∀ memory : SharedMemory w frameSize, (memory.slots name).state ≠ current →
      ¬ Available watcher.poll false memory) (owner : current ≠ next) :
    (queueSharing w frameSize).Turns (.compareExchange name current next)
      (Share.watching watcher watch) (fun ok left =>
        Exchanged name current next ok (Share.watching watcher (watch.found false)) left) := by
  refine ⟨fun other touches => absurd touches (by simp [QueueAccess.touches]),
    fun memory others shared => ?_⟩
  show ∃ left, Exchanged name current next
      (QueueAccess.apply (.compareExchange name current next) memory).1
        (Share.watching watcher (watch.found false)) left ∧
    Shared (QueueAccess.apply (.compareExchange name current next) memory).2 (left + others)
  rw [QueueAccess.apply]
  by_cases found : (memory.slots name).state = current
  · rw [if_pos found]
    obtain ⟨permit, claimed, owned⟩ := Shared.claim shared claims found
    refine ⟨_, ⟨permit, claimed, rfl⟩, ?_⟩
    rw [add_left_comm] at owned
    have learnt := owned.relearn
      (owned.watched.2.found full (gone _ (by simp [Ne.symm owner])))
    rw [add_assoc, add_left_comm]
    exact learnt
  · rw [if_neg found]
    exact ⟨_, rfl,
      Shared.relearn shared ((Shared.watched shared).2.found full (gone memory found))⟩

/-- A task that is woken at once misses nothing. -/
theorem turns_wakeByRef_watched :
    (queueSharing w frameSize).Turns (.wakeByRef watcher.task) (Share.watching watcher watch)
      (fun _ left => left = Share.watching watcher (watch.found false)) := by
  refine ⟨fun other touches => absurd touches (by simp [QueueAccess.touches]),
    fun memory others shared => ⟨_, rfl, ?_⟩⟩
  exact (Shared.woken shared watcher.task).relearn (watchHolds_called called_woken)

theorem turns_register_watched :
    (queueSharing w frameSize).Turns (.register waker watcher.task)
      (Share.watching watcher watch) (fun _ left =>
        left = Share.watching watcher { watch with registered := waker :: watch.registered }) := by
  refine ⟨fun other touches => absurd touches (by simp [QueueAccess.touches]),
    fun memory others shared => ⟨_, rfl, ?_⟩⟩
  have registered : Shared (memory.register waker watcher.task) _ :=
    Shared.register shared waker watcher.task
  have holds := registered.watched.2
  refine registered.relearn ⟨fun other mine place => ?_, holds.missed, holds.epoch⟩
  by_cases same : other = waker
  · subst same
    exact .inl ⟨_, Function.update_self ..⟩
  · exact holds.registered other mine
      (place.imp_left fun member => (List.mem_cons.mp member).resolve_left same)

theorem turns_noteWatches :
    (queueSharing w frameSize).Turns (.note (.watches watcher)) (Share.watching watcher watch)
      (fun _ left => left = Share.watching watcher ⟨[], none, none⟩) := by
  refine ⟨fun other touches => absurd touches (by simp [QueueAccess.touches]),
    fun memory others shared => ⟨_, rfl, fun name => ?_, shared.once.append trivial,
      Shared.watches_of shared ⟨by simp [Watch.Knows], by simp, by simp⟩
        fun other different mine holds => ?_⟩⟩
  · have held := shared.slots name
    rw [Share.permits_add, Share.permits_watching] at held ⊢
    show SlotHeld (memory.slots name) (waitingIn name (memory.trace ++ [.watches watcher])) _
    rw [waitingIn_watches]
    exact held
  · exact holds.fades rfl rfl (fun _ => fades_refl _)
      (keepsPlaces_note (by simp [SharedEvent.begins, Ne.symm different])) fun _ member => member

end Learning

end Nrf7002
