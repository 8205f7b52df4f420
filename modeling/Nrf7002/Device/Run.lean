import Nrf7002.Device.Calls

/-! # Delivery of events

Runs of firmware, bus and caller.  Without faults the caller receives every event that was
not refused, in order and once; with them, the fragments stay accounted for as long as
every call is spared. -/

set_option autoImplicit false

namespace Nrf7002
open Foundation

section Moves
variable {queues : HpqmInfo} {link : EventLink}

/-! ## Moves beside the calls -/

/-- What a move other than a call leaves of the account. -/
structure Beside (queues : HpqmInfo) (link next : EventLink) : Prop where
  tracks : Tracks queues next
  done : next.ledger.done = link.ledger.done
  messages : next.messages = link.messages
  removed : next.hardware.removed = link.hardware.removed
  available : next.hardware.available = link.hardware.available
  more : ∃ events fragments, next.ledger.events = link.ledger.events ++ events ∧
    next.produced = link.produced ++ events ∧
    next.ledger.remaining = link.ledger.remaining ++ fragments ∧
    next.stream = link.stream ++ fragments

theorem beside_produce (tracks : Tracks queues link) (event : FirmwareEvent)
    (sized : event.Sized link.limit) : Beside queues link (link.step (.produce event)) := by
  have remaining : (link.step (.produce event)).ledger.remaining =
      link.ledger.remaining ++ event.fragments link.limit := by
    change Ledger.remaining { link.ledger with ahead := _ } = _
    rw [Ledger.remaining, Ledger.remaining, List.flatMap_append, List.flatMap_singleton,
      List.append_assoc]
  have queued : Device.Queued link.hardware (link.step (.produce event)).ledger.remaining := by
    obtain ⟨now, later, split, held⟩ := tracks.queued
    exact ⟨now, later ++ event.fragments link.limit, by rw [remaining, split, List.append_assoc],
      held⟩
  refine ⟨⟨tracks.known, tracks.operational, tracks.wired, queued, ?_, tracks.accounts,
    tracks.buffered⟩, rfl, rfl, rfl, rfl, [event], _, ?_, rfl, remaining, rfl⟩
  · intro entry member
    rcases List.mem_append.mp member with before | last
    · exact tracks.ahead entry before
    · rw [List.mem_singleton] at last
      rw [last]
      exact ⟨sized, rfl⟩
  · change Ledger.events { link.ledger with ahead := _ } = _
    rw [Ledger.events, Ledger.events, List.map_append, List.append_assoc, List.append_assoc]
    rfl

/-- What keeps the account, the queue and the fragments is beside the calls. -/
theorem Beside.same {next : EventLink} (tracks : Tracks queues next)
    (done : next.ledger.done = link.ledger.done)
    (messages : next.messages = link.messages)
    (removed : next.hardware.removed = link.hardware.removed)
    (available : next.hardware.available = link.hardware.available)
    (events : next.ledger.events = link.ledger.events) (produced : next.produced = link.produced)
    (remaining : next.ledger.remaining = link.ledger.remaining)
    (stream : next.stream = link.stream) : Beside queues link next :=
  ⟨tracks, done, messages, removed, available, [], [], by rw [events, List.append_nil],
    by rw [produced, List.append_nil], by rw [remaining, List.append_nil],
    by rw [stream, List.append_nil]⟩

theorem beside_fails (tracks : Tracks queues link) (faults : List (Option Bool)) :
    Beside queues link (link.step (.fails faults)) := by
  refine Beside.same ⟨tracks.known, tracks.operational, ?_, ?_, tracks.ahead, tracks.accounts,
    tracks.buffered⟩ rfl rfl rfl rfl rfl rfl rfl rfl
  · exact ⟨tracks.wired.busy, tracks.wired.available, tracks.wired.distinct,
      tracks.wired.acknowledge⟩
  · obtain ⟨now, later, split, held⟩ := tracks.queued
    exact ⟨now, later, split, held.imp fun _ _ holds =>
      ⟨holds.known, holds.aligned, holds.within, holds.content⟩⟩

theorem beside_host (tracks : Tracks queues link) (memory : ByteMemory)
    (kept : link.Allowed (.host memory)) : Beside queues link (link.step (.host memory)) := by
  refine Beside.same ⟨tracks.known, tracks.operational, tracks.wired, tracks.queued, tracks.ahead,
    tracks.accounts, ?_⟩ rfl rfl rfl rfl rfl rfl rfl rfl
  have accounts := tracks.accounts
  have buffered := tracks.buffered
  change Buffered memory link.ledger.current link.device.pendingEvent
  cases current : link.ledger.current with
  | none => trivial
  | some entry =>
      obtain ⟨reception, rest⟩ := entry
      rw [current] at accounts buffered
      obtain ⟨pending, held, mirrors⟩ := accounts
      rw [held] at buffered ⊢
      intro wanted
      have same := kept (reception, rest) current (by rw [wanted]; decide)
      have inside : pending.copied ≤ reception.event.bytes.length :=
        Nat.le_of_lt (mirrors.declared ▸ mirrors.partly)
      rw [← buffered wanted, ← ByteMemory.take_fetch pending.copied inside, same,
        ByteMemory.take_fetch pending.copied inside]

theorem beside_discard (tracks : Tracks queues link) :
    Beside queues link (link.step .discardPendingEvent) := by
  have accounts := tracks.accounts
  cases current : link.ledger.current with
  | none =>
      rw [current] at accounts
      have device : link.device.discardPendingEvent.2 = link.device := by
        rw [Device.discardPendingEvent, show link.device.pendingEvent = none from accounts]
      have ledger : link.ledger.discard = link.ledger := by
        rw [Ledger.discard, current, Option.map_none, ← current]
      have same : link.step .discardPendingEvent = link := by
        change ({ link with device := _, ledger := _ } : EventLink) = link
        rw [device, ledger]
      rw [same]
      exact Beside.same tracks rfl rfl rfl rfl rfl rfl rfl rfl
  | some entry =>
      obtain ⟨reception, rest⟩ := entry
      rw [current] at accounts
      obtain ⟨pending, held, mirrors⟩ := accounts
      have device : link.device.discardPendingEvent.2 =
          { link.device with
            pendingEvent := some { pending with discard := true, scratchAddress := 0 } } := by
        rw [Device.discardPendingEvent, held]
      have ledger : link.ledger.discard = { link.ledger with
          current := some ({ reception with discarded := true }, rest) } := by
        rw [Ledger.discard, current, Option.map_some]
      have next : link.step .discardPendingEvent =
          { link with
            device := { link.device with
              pendingEvent := some { pending with discard := true, scratchAddress := 0 } }
            ledger := { link.ledger with
              current := some ({ reception with discarded := true }, rest) } } := by
        change ({ link with device := _, ledger := _ } : EventLink) = _
        rw [device, ledger]
      have remaining := Ledger.remaining_current current
      have queued := tracks.queued
      rw [remaining] at queued
      rw [next]
      refine Beside.same ⟨tracks.known, tracks.operational, tracks.wired, queued, tracks.ahead, ?_,
        ?_⟩ rfl rfl rfl rfl ?_ rfl remaining.symm rfl
      · refine ⟨_, rfl, mirrors.whole, mirrors.declared, mirrors.partly, mirrors.rest,
          mirrors.resubmit, rfl, ?_⟩
        intro wanted
        cases wanted
      · intro wanted
        cases wanted
      · rw [Ledger.events, Ledger.events, current]
        rfl

/-- Without fragments to come, no event is under way. -/
theorem settled (tracks : Tracks queues link) (nothing : link.ledger.remaining = []) :
    link.ledger.current = none ∧ link.ledger.ahead = [] := by
  have accounts := tracks.accounts
  have current : link.ledger.current = none := by
    cases current : link.ledger.current with
    | none => rfl
    | some entry =>
        obtain ⟨reception, rest⟩ := entry
        rw [current] at accounts
        obtain ⟨pending, -, mirrors⟩ := accounts
        rw [Ledger.remaining_current current, List.append_eq_nil_iff] at nothing
        exact absurd nothing.1 mirrors.rest_ne_nil
  refine ⟨current, ?_⟩
  cases ahead : link.ledger.ahead with
  | nil => rfl
  | cons entry others =>
      have fragments := (tracks.ahead entry (by rw [ahead]; exact List.mem_cons_self)).2
      rw [Ledger.remaining_none current, ahead, List.flatMap_cons, fragments,
        entry.1.fragments_cons (limit_positive link)] at nothing
      cases nothing

theorem beside_limits (tracks : Tracks queues link) (commandLen eventLen : Nat)
    (idle : link.ledger.remaining = []) :
    Beside queues link (link.step (.setFragmentLimits commandLen eventLen)) := by
  obtain ⟨current, ahead⟩ := settled tracks idle
  have accounts := tracks.accounts
  have free := no_pending tracks current
  obtain ⟨device, found⟩ : ∃ device,
    device = (link.device.setFragmentLimits commandLen eventLen).getD link.device := ⟨_, rfl⟩
  have same : device.queues = link.device.queues ∧
      device.recoveryRequired = link.device.recoveryRequired ∧
      device.rpu = link.device.rpu ∧ device.pendingEvent = link.device.pendingEvent := by
    rw [found, Device.setFragmentLimits]
    split_ifs <;> exact ⟨rfl, rfl, rfl, rfl⟩
  obtain ⟨known, operational, rpu, pending⟩ := same
  have hardware : device.hardware = link.hardware := congrArg Rpu.bus rpu
  have next : link.step (.setFragmentLimits commandLen eventLen) = { link with device } := by
    rw [EventLink.step, ← found]
  rw [next]
  refine Beside.same ⟨known.trans tracks.known, operational.trans tracks.operational, ?_, ?_, ?_,
    ?_, ?_⟩ rfl rfl ?_ ?_ rfl rfl rfl rfl
  · change Wired queues device.hardware
    rw [hardware]
    exact tracks.wired
  · change Device.Queued device.hardware link.ledger.remaining
    rw [hardware]
    exact tracks.queued
  · intro entry member
    change entry ∈ link.ledger.ahead at member
    rw [ahead] at member
    cases member
  · change Accounts _ link.ledger.current device.pendingEvent
    rw [current, pending]
    exact free
  · change Buffered _ link.ledger.current _
    rw [current]
    trivial
  · exact congrArg EventHardware.removed hardware
  · exact congrArg EventHardware.available hardware

theorem place_of_mapped {address offset : UInt32} (mapped : hostOffset .umac address = .ok offset) :
    place address = offset.toNat := by
  rw [place, mapped]

/-- What is stored beside a fragment leaves it alone. -/
theorem Holds.stored {hardware : EventHardware} {address : UInt32} {bytes others : Bytes}
    {first : Nat} {busy : List UInt32} (holds : Holds hardware address bytes)
    (apart : first + others.length ≤ place address ∨ place address + bytes.length ≤ first) :
    Holds { hardware with memory := hardware.memory.store first others, busy } address bytes := by
  refine ⟨holds.known, holds.aligned, holds.within, ?_⟩
  intro offset mapped
  obtain ⟨content, register⟩ := holds.content offset mapped
  rw [place_of_mapped mapped] at apart
  exact ⟨(ByteMemory.fetch_store_outside apart.symm).trans content, register⟩

theorem EventLink.Free.holds {address : UInt32} {fragment : Fragment} {busy : List UInt32}
    (free : link.Free address fragment) :
    Holds { link.hardware with
      memory := link.hardware.memory.store (place address) fragment.bytes, busy } address
        fragment.bytes := by
  refine ⟨free.known, free.aligned, free.within, ?_⟩
  intro offset mapped
  have register := free.register
  rw [← place_of_mapped mapped]
  exact ⟨ByteMemory.fetch_store, register⟩

theorem beside_arrive (tracks : Tracks queues link) (address : UInt32)
    (free : link.Allowed (.arrive address)) : Beside queues link (link.step (.arrive address)) := by
  obtain ⟨now, later, split, held⟩ := tracks.queued
  have size := held.length_eq
  have coming : link.next = later.head? := by
    rw [EventLink.next, split, size, List.drop_left]
  cases later with
  | nil =>
      have same : link.step (.arrive address) = link := by
        rw [EventLink.step, EventLink.arrive, coming]
        rfl
      rw [same]
      exact Beside.same tracks rfl rfl rfl rfl rfl rfl rfl rfl
  | cons fragment rest =>
      have free := free fragment coming
      have next : link.step (.arrive address) = link.setHardware
          { link.hardware with
            memory := link.hardware.memory.store (place address) fragment.bytes
            busy := link.hardware.busy ++ [address] } := by
        rw [EventLink.step, EventLink.arrive, coming]
        rfl
      have same := List.forall₂_iff_zip.mp held
      have queued : Device.Queued
          { link.hardware with
            memory := link.hardware.memory.store (place address) fragment.bytes
            busy := link.hardware.busy ++ [address] } link.ledger.remaining := by
        refine ⟨now ++ [fragment], rest, by rw [split, List.append_assoc]; rfl, ?_⟩
        refine List.rel_append (List.forall₂_iff_zip.mpr ⟨same.1, ?_⟩)
          (.cons free.holds .nil)
        intro other queued member
        apply (same.2 member).stored
        apply free.apart (other, queued)
        rw [split]
        have whole : link.hardware.busy.zip (now ++ fragment :: rest) =
            link.hardware.busy.zip now := by
          have ended : (link.hardware.busy ++ []).zip (now ++ fragment :: rest) = _ :=
            List.zip_append size
          rw [List.append_nil, List.zip_nil_left, List.append_nil] at ended
          exact ended
        rw [whole]
        exact member
      rw [next]
      refine Beside.same ⟨tracks.known, tracks.operational, ?_, queued, tracks.ahead,
        tracks.accounts, tracks.buffered⟩ rfl rfl rfl rfl rfl rfl rfl rfl
      exact ⟨tracks.wired.busy, tracks.wired.available, tracks.wired.distinct,
        tracks.wired.acknowledge⟩

theorem beside_step (tracks : Tracks queues link) {move : EventMove} (allowed : link.Allowed move)
    (quiet : ∀ scratchAddress capacity, move ≠ .tryReadEvent scratchAddress capacity) :
    Beside queues link (link.step move) := by
  cases move with
  | produce event => exact beside_produce tracks event allowed
  | arrive address => exact beside_arrive tracks address allowed
  | fails faults => exact beside_fails tracks faults
  | host memory => exact beside_host tracks memory allowed
  | discardPendingEvent => exact beside_discard tracks
  | setFragmentLimits commandLen eventLen => exact beside_limits tracks commandLen eventLen allowed
  | tryReadEvent scratchAddress capacity => exact absurd rfl (quiet scratchAddress capacity)

/-- Faults come from the bus only. -/
theorem faults_step {move : EventMove}
    (quiet : ∀ scratchAddress capacity, move ≠ .tryReadEvent scratchAddress capacity)
    (faultless : ∀ faults, move ≠ .fails faults) :
    (link.step move).hardware.faults = link.hardware.faults := by
  cases move with
  | produce event => rfl
  | arrive address =>
      rw [EventLink.step, EventLink.arrive]
      split <;> rfl
  | fails faults => exact absurd rfl (faultless faults)
  | host memory => rfl
  | discardPendingEvent =>
      change link.device.discardPendingEvent.2.hardware.faults = _
      rw [Device.discardPendingEvent]
      split <;> rfl
  | setFragmentLimits commandLen eventLen =>
      change ((link.device.setFragmentLimits commandLen eventLen).getD
        link.device).hardware.faults = _
      rw [Device.setFragmentLimits]
      split_ifs <;> rfl
  | tryReadEvent scratchAddress capacity => exact absurd rfl (quiet scratchAddress capacity)

/-! ## The account of a run -/

/-- Every event is in the account, every fragment was removed or is to come, and what the
caller was told is right. -/
structure Sound (queues : HpqmInfo) (link : EventLink) : Prop where
  tracks : Tracks queues link
  removed : link.hardware.removed.length ≤ link.stream.length
  events : link.ledger.events = link.produced
  remaining : link.ledger.remaining = link.stream.drop link.hardware.removed.length
  told : link.messages.Sublist (link.ledger.done.filterMap Reception.message)

theorem Sound.beside {next : EventLink} (sound : Sound queues link)
    (beside : Beside queues link next) : Sound queues next := by
  obtain ⟨events, fragments, account, produced, remaining, stream⟩ := beside.more
  have room := sound.removed
  refine ⟨beside.tracks, ?_, ?_, ?_, ?_⟩
  · rw [beside.removed, stream, List.length_append]
    omega
  · rw [account, produced, sound.events]
  · rw [remaining, stream, beside.removed, List.drop_append_of_le_length room, sound.remaining]
  · rw [beside.done, beside.messages]
    exact sound.told

theorem Sound.followed {next : EventLink} {count : Nat} (sound : Sound queues link)
    (followed : Followed queues count link next) (produced : next.produced = link.produced)
    (stream : next.stream = link.stream) : Sound queues next := by
  have inside := followed.inside
  have queued := sound.tracks.queued.length_le
  have room := sound.removed
  rw [sound.remaining, List.length_drop] at queued
  have length : next.hardware.removed.length = link.hardware.removed.length + count := by
    rw [followed.removes.removed, List.length_append, List.length_take, Nat.min_eq_left inside]
  obtain ⟨complete, told, done, messages, right⟩ := followed.messages
  refine ⟨followed.tracks, ?_, ?_, ?_, ?_⟩
  · rw [length, stream]
    omega
  · rw [followed.events, produced, sound.events]
  · rw [followed.remaining, sound.remaining, List.drop_drop, length, stream]
  · rw [done, messages, List.filterMap_append]
    exact sound.told.append right

/-- Without faults, all of it was told, and every fragment went back that firmware wants
back. -/
structure Delivered (queues : HpqmInfo) (link : EventLink) : Prop where
  sound : Sound queues link
  faultless : link.hardware.faults = []
  available : link.hardware.available = returned link.hardware.removed link.stream
  messages : link.messages = link.ledger.done.filterMap Reception.message

theorem Delivered.beside {next : EventLink} (delivered : Delivered queues link)
    (beside : Beside queues link next) (faultless : next.hardware.faults = []) :
    Delivered queues next := by
  obtain ⟨-, fragments, -, -, -, stream⟩ := beside.more
  have room := delivered.sound.removed
  refine ⟨delivered.sound.beside beside, faultless, ?_, ?_⟩
  · rw [beside.available, beside.removed, stream, delivered.available,
      ← returned_take (Nat.le_refl _), ← List.take_append_of_le_length room,
      returned_take (Nat.le_refl _)]
  · rw [beside.messages, beside.done, delivered.messages]

theorem Delivered.kept {next : EventLink} {count : Nat} (delivered : Delivered queues link)
    (kept : Kept queues count link next) (faultless : next.hardware.faults = [])
    (produced : next.produced = link.produced) (stream : next.stream = link.stream) :
    Delivered queues next := by
  have sound := delivered.sound
  have sized : link.hardware.removed.length =
      (link.stream.take link.hardware.removed.length).length := by
    rw [List.length_take, Nat.min_eq_left sound.removed]
  obtain ⟨complete, done, messages⟩ := kept.messages
  refine ⟨sound.followed kept.followed produced stream, faultless, ?_, ?_⟩
  · calc
      next.hardware.available
        = link.hardware.available ++ returned (link.hardware.busy.take count)
            (link.ledger.remaining.take count) := kept.available
      _ = returned link.hardware.removed link.stream ++
            returned (link.hardware.busy.take count) link.ledger.remaining := by
          rw [delivered.available, returned_take (List.length_take_le _ _)]
      _ = returned link.hardware.removed (link.stream.take link.hardware.removed.length) ++
            returned (link.hardware.busy.take count)
              (link.stream.drop link.hardware.removed.length) := by
          rw [returned_take (Nat.le_refl _), sound.remaining]
      _ = returned next.hardware.removed next.stream := by
          rw [← returned_append sized, List.take_append_drop, kept.removes.removed, stream]
  · rw [messages, done, List.filterMap_append, delivered.messages]

end Moves

/-! ## Runs -/

namespace EventLink

/-- The move is allowed, and brings no faults. -/
def Undisturbed (link : EventLink) (move : EventMove) : Prop :=
  link.Allowed move ∧ ∀ faults, move ≠ .fails faults

def run (link : EventLink) (moves : List EventMove) : EventLink := moves.foldl step link

/-- Every move meets the condition where it is made. -/
def Along (condition : EventLink → EventMove → Prop) : EventLink → List EventMove → Prop
  | _, [] => True
  | link, move :: moves => condition link move ∧ (link.step move).Along condition moves

/-- The device is initialised, and there were no events yet. -/
structure Fresh (queues : HpqmInfo) (link : EventLink) : Prop where
  known : link.device.queues = some queues
  operational : link.device.recoveryRequired = false
  free : link.device.pendingEvent = none
  wired : Wired queues link.hardware
  silent : link.hardware.busy = [] ∧ link.hardware.removed = [] ∧ link.hardware.available = []
  account : link.ledger = { done := [], current := none, ahead := [] }
  nothing : link.messages = [] ∧ link.produced = [] ∧ link.stream = []

/-- The buffer suits the event that is partly read, or that one is refused already. -/
def Fit (link : EventLink) (scratchAddress capacity : Nat) : Prop :=
  ∀ current, link.ledger.current = some current → current.1.refused = false →
    ¬ current.1.Unfit scratchAddress capacity

/-- Invariants of single moves hold along runs. -/
theorem Along.invariant {condition : EventLink → EventMove → Prop} {Invariant : EventLink → Prop}
    (preserved : ∀ link move, Invariant link → condition link move → Invariant (link.step move))
    {link : EventLink} {moves : List EventMove} (held : Invariant link)
    (along : link.Along condition moves) : Invariant (link.run moves) := by
  induction moves generalizing link with
  | nil => exact held
  | cons move moves hypothesis =>
      obtain ⟨met, rest⟩ := along
      exact hypothesis (preserved link move held met) rest

end EventLink

section Runs
variable {queues : HpqmInfo} {link : EventLink}

theorem EventLink.Fresh.sound (fresh : link.Fresh queues) : Sound queues link := by
  obtain ⟨busy, removed, -⟩ := fresh.silent
  obtain ⟨messages, produced, stream⟩ := fresh.nothing
  have account := fresh.account
  refine ⟨⟨fresh.known, fresh.operational, fresh.wired, ?_, ?_, ?_, ?_⟩, ?_, ?_, ?_, ?_⟩
  · refine ⟨[], link.ledger.remaining, rfl, ?_⟩
    rw [busy]
    exact .nil
  · rw [account]
    intro entry member
    cases member
  · rw [account]
    exact fresh.free
  · rw [account]
    trivial
  · rw [removed, stream]
    exact Nat.le_refl _
  · rw [account, produced]
    rfl
  · rw [account, removed, stream]
    rfl
  · rw [messages]
    exact List.nil_sublist _

theorem EventLink.Fresh.delivered (fresh : link.Fresh queues)
    (faultless : link.hardware.faults = []) : Delivered queues link := by
  obtain ⟨-, removed, available⟩ := fresh.silent
  refine ⟨fresh.sound, faultless, ?_, ?_⟩
  · rw [available, removed]
    rfl
  · rw [fresh.nothing.1, fresh.account]
    rfl

theorem Delivered.step {move : EventMove} (delivered : Delivered queues link)
    (allowed : link.Allowed move) (faultless : ∀ faults, move ≠ .fails faults) :
    Delivered queues (link.step move) := by
  have tracks := delivered.sound.tracks
  have none := delivered.faultless
  by_cases call : ∃ scratchAddress capacity, move = .tryReadEvent scratchAddress capacity
  · obtain ⟨scratchAddress, capacity, rfl⟩ := call
    obtain ⟨kept, used⟩ := tryReadEvent_clear tracks
      (EventHardware.clear_of_none none (link.callCost scratchAddress capacity))
    exact delivered.kept kept (by rw [EventLink.step, used, none, List.drop_nil]) rfl rfl
  · have quiet (scratchAddress capacity : Nat) : move ≠ .tryReadEvent scratchAddress capacity :=
      fun same => call ⟨scratchAddress, capacity, same⟩
    exact delivered.beside (beside_step tracks allowed quiet)
      ((faults_step quiet faultless).trans none)

/-- All fragments were removed, so every event is done. -/
theorem Sound.done (sound : Sound queues link)
    (all : link.hardware.removed.length = link.stream.length) :
    link.ledger.done.map Reception.event = link.produced := by
  have remaining := sound.remaining
  rw [all, List.drop_length] at remaining
  obtain ⟨current, ahead⟩ := settled sound.tracks remaining
  have events := sound.events
  rw [Ledger.events, current, ahead] at events
  rw [← events]
  exact (List.append_nil _).symm

/-- A call with a fit buffer removes something of what is queued. -/
theorem callCount_pos (tracks : Tracks queues link) {scratchAddress capacity : Nat}
    (queued : link.hardware.busy ≠ []) (fit : link.Fit scratchAddress capacity) :
    0 < link.callCount scratchAddress capacity := by
  have more := List.length_pos_iff.mpr queued
  have accounts := tracks.accounts
  rw [EventLink.callCount]
  cases current : link.ledger.current with
  | none =>
      dsimp only
      omega
  | some entry =>
      obtain ⟨reception, rest⟩ := entry
      rw [current] at accounts
      obtain ⟨pending, -, mirrors⟩ := accounts
      have fragments := List.length_pos_iff.mpr mirrors.rest_ne_nil
      have unrefused : ¬ (reception.refused = false ∧
          reception.Unfit scratchAddress capacity) :=
        fun both => fit (reception, rest) current both.1 both.2
      dsimp only
      rw [if_neg unrefused]
      omega

/-- The caller receives exactly the events that are done and were not refused, in order and
once, and every removed fragment went back that firmware wants back. -/
theorem events_delivered (fresh : link.Fresh queues) (faultless : link.hardware.faults = [])
    {moves : List EventMove}
    (allowed : link.Along EventLink.Undisturbed moves) :
    (link.run moves).messages =
        (link.run moves).ledger.done.filterMap Reception.message ∧
      (∃ rest, (link.run moves).produced =
        (link.run moves).ledger.done.map Reception.event ++ rest) ∧
      ((link.run moves).hardware.removed.length = (link.run moves).stream.length →
        (link.run moves).ledger.done.map Reception.event = (link.run moves).produced) ∧
      (link.run moves).hardware.available =
        returned (link.run moves).hardware.removed (link.run moves).stream ∧
      ∀ scratchAddress capacity, (link.run moves).hardware.busy ≠ [] →
        (link.run moves).Fit scratchAddress capacity →
          (link.run moves).hardware.removed.length <
            ((link.run moves).tryReadEvent scratchAddress capacity).hardware.removed.length := by
  have delivered : Delivered queues (link.run moves) := by
    refine EventLink.Along.invariant ?_ (fresh.delivered faultless) allowed
    intro link move held met
    exact held.step met.1 met.2
  have sound := delivered.sound
  refine ⟨delivered.messages, ⟨_, sound.events.symm⟩, sound.done, delivered.available, ?_⟩
  intro scratchAddress capacity queued fit
  have none := delivered.faultless
  obtain ⟨kept, -⟩ := tryReadEvent_clear sound.tracks (EventHardware.clear_of_none none
    ((link.run moves).callCost scratchAddress capacity))
  have some := callCount_pos sound.tracks queued fit
  have inside := kept.inside
  rw [kept.removes.removed, List.length_append, List.length_take]
  omega

/-- After a failed call the device refuses to go on, or its pending event accounts for the
fragments that left the queue. -/
def EventLink.Accounted (link : EventLink) : Prop :=
  link.device.recoveryRequired = true ∨
    Accounts link.limit link.ledger.current link.device.pendingEvent

/-- None of the transfers of this call fails, or what fails is spared. -/
def EventLink.Spares (link : EventLink) (scratchAddress capacity : Nat) : Prop :=
  link.hardware.clear (link.callCost scratchAddress capacity) = true ∨ link.Spared

theorem accounted_iff (tracks : Tracks queues link) (scratchAddress capacity : Nat) :
    ((∃ failure, resultOf (Device.tryReadEvent scratchAddress)
        (link.called scratchAddress capacity) = .error failure) →
      (link.tryReadEvent scratchAddress capacity).Accounted) ↔
        link.Spares scratchAddress capacity := by
  rw [EventLink.Spares]
  by_cases clear : link.hardware.clear (link.callCost scratchAddress capacity) = true
  · obtain ⟨kept, -⟩ := tryReadEvent_clear tracks clear
    exact iff_of_true (fun _ => .inr kept.tracks.accounts) (.inl clear)
  · obtain ⟨failed, broken⟩ := tryReadEvent_failed tracks (Bool.eq_false_iff.mpr clear)
    rw [or_iff_right clear, ← broken.accounts, EventLink.Accounted, broken.operational,
      or_iff_right Bool.false_ne_true]
    exact ⟨fun accounted => accounted ⟨_, failed⟩, fun accounted _ => accounted⟩

theorem Sound.step {move : EventMove} (sound : Sound queues link) (allowed : link.Allowed move)
    (spares : ∀ scratchAddress capacity, move = .tryReadEvent scratchAddress capacity →
      link.Spares scratchAddress capacity) : Sound queues (link.step move) := by
  by_cases call : ∃ scratchAddress capacity, move = .tryReadEvent scratchAddress capacity
  · obtain ⟨scratchAddress, capacity, rfl⟩ := call
    by_cases clear : link.hardware.clear (link.callCost scratchAddress capacity) = true
    · obtain ⟨kept, -⟩ := tryReadEvent_clear sound.tracks clear
      exact sound.followed kept.followed rfl rfl
    · obtain ⟨-, broken⟩ := tryReadEvent_failed sound.tracks (Bool.eq_false_iff.mpr clear)
      obtain ⟨count, followed⟩ := broken.followed ((spares _ _ rfl).resolve_left clear)
      exact sound.followed followed rfl rfl
  · exact sound.beside (beside_step sound.tracks allowed
      fun scratchAddress capacity same => call ⟨scratchAddress, capacity, same⟩)

/-- The move is allowed, and a fault in a call is spared. -/
def EventLink.Endured (link : EventLink) (move : EventMove) : Prop :=
  link.Allowed move ∧ ∀ scratchAddress capacity, move = .tryReadEvent scratchAddress capacity →
    link.Spares scratchAddress capacity

/-- While every failed call is spared, the pending event accounts for what left the queue,
and no message has misplaced bytes; the next failed call is accounted for exactly if it is
spared. -/
theorem faults_accounted (fresh : link.Fresh queues) {moves : List EventMove}
    (spared : link.Along EventLink.Endured moves) :
    (link.run moves).Accounted ∧
      (link.run moves).messages.Sublist
        ((link.run moves).ledger.done.filterMap Reception.message) ∧
      (∃ rest, (link.run moves).produced =
        (link.run moves).ledger.done.map Reception.event ++ rest) ∧
      ∀ scratchAddress capacity,
        ((∃ failure, resultOf (Device.tryReadEvent scratchAddress)
            ((link.run moves).called scratchAddress capacity) = .error failure) →
          ((link.run moves).tryReadEvent scratchAddress capacity).Accounted) ↔
            (link.run moves).Spares scratchAddress capacity := by
  have sound : Sound queues (link.run moves) := by
    refine EventLink.Along.invariant ?_ fresh.sound spared
    intro link move held met
    exact held.step met.1 met.2
  exact ⟨.inr sound.tracks.accounts, sound.told, ⟨_, sound.events.symm⟩,
    accounted_iff sound.tracks⟩

end Runs

/-! ### A link for concrete runs -/

/-- Two fragments of the least length. -/
def sampleEvent : FirmwareEvent :=
  { bytes := le32 24 ++ (le32 1 ++ (le32 2 ++ List.replicate 12 7)), header := by decide }

/-- An event without a payload. -/
def shortEvent : FirmwareEvent :=
  { bytes := le32 12 ++ (le32 1 ++ le32 0), header := by decide }

def sampleHardware : EventHardware :=
  { busyRegister := 0x6000
    availableRegister := 0x6004
    memory := fun _ => 0
    busy := []
    removed := []
    available := []
    faults := [] }

def sampleLink : EventLink :=
  { device := { Device.new sampleHardware with
      queues := some Device.readyQueues
      eventFragmentLen := ⟨hostMessageHeaderLen, by decide⟩ }
    host := fun _ => 0
    ledger := { done := [], current := none, ahead := [] }
    messages := []
    produced := []
    stream := [] }

def firstAddress : UInt32 := 0xb0000000

def secondAddress : UInt32 := 0xb0000100

theorem sampleLink_fresh : sampleLink.Fresh Device.readyQueues :=
  ⟨rfl, rfl, rfl, ⟨by decide, by decide, by decide, by decide⟩, ⟨rfl, rfl, rfl⟩, rfl, rfl, rfl,
    rfl⟩

theorem within_packetRam {address : UInt32} (lower : 0xb0000000 ≤ address)
    (upper : address.toNat + 12 ≤ 0xb0031000) : WithinRegion .umac address 12 :=
  ⟨(0xb0000000, 0xb0030fff), by decide, lower, upper⟩

/-- An address is free for the next fragment when nothing else is queued. -/
theorem free_of_empty {link : EventLink} {address : UInt32} (fragment : Fragment)
    (known : address ≠ 0 ∧ address ≠ 0xaaaaaaaa) (aligned : address &&& 3 = 0)
    (within : WithinRegion .umac address 12) (next : link.next = some fragment)
    (size : fragment.bytes.length = 12)
    (register : link.hardware.busyRegister.toNat < place address)
    (empty : link.hardware.busy = []) : link.Allowed (.arrive address) := by
  intro other found
  rw [next, Option.some.injEq] at found
  subst found
  refine ⟨known, aligned, by rw [size]; exact within, .inl register, ?_⟩
  rw [empty, List.zip_nil_left]
  intro entry member
  cases member

/-- One event, whose fragments arrive between the calls. -/
def sampleMoves : List EventMove :=
  [.produce sampleEvent, .arrive firstAddress, .tryReadEvent 0 64, .arrive secondAddress,
    .tryReadEvent 0 64]

def firstFragment : Fragment := { bytes := sampleEvent.bytes.take 12, resubmit := true }

def secondFragment : Fragment := { bytes := sampleEvent.bytes.drop 12, resubmit := true }

theorem sampleMoves_undisturbed : sampleLink.Along EventLink.Undisturbed sampleMoves := by
  have first : (sampleLink.run (sampleMoves.take 1)).Allowed (.arrive firstAddress) :=
    free_of_empty firstFragment (by decide) (by decide) (within_packetRam (by decide) (by decide))
      (by decide +kernel) (by decide) (by decide) (by decide)
  have second : (sampleLink.run (sampleMoves.take 3)).Allowed (.arrive secondAddress) :=
    free_of_empty secondFragment (by decide) (by decide) (within_packetRam (by decide) (by decide))
      (by decide +kernel) (by decide) (by decide +kernel) (by decide +kernel)
  exact ⟨⟨.inl (by decide), nofun⟩, ⟨first, nofun⟩, ⟨trivial, nofun⟩, ⟨second, nofun⟩,
    ⟨trivial, nofun⟩, trivial⟩

theorem sample_delivered :
    (sampleLink.run sampleMoves).messages =
        (sampleLink.run sampleMoves).ledger.done.filterMap Reception.message ∧
      (sampleLink.run sampleMoves).messages =
        [{ resubmit := true, messageType := .data, payload := List.replicate 12 7 }] :=
  ⟨(events_delivered sampleLink_fresh rfl sampleMoves_undisturbed).1, by decide +kernel⟩

/-- The first look at the empty queue fails. -/
def sparedMoves : List EventMove := .fails [some false] :: .tryReadEvent 0 64 :: sampleMoves

theorem sparedMoves_endured : sampleLink.Along EventLink.Endured sparedMoves := by
  have spares {link : EventLink} (clear : link.hardware.clear (link.callCost 0 64) = true) :
      link.Endured (.tryReadEvent 0 64) := by
    refine ⟨trivial, ?_⟩
    rintro scratchAddress capacity ⟨⟩
    exact .inl clear
  have stopped : (sampleLink.run (sparedMoves.take 1)).Endured (.tryReadEvent 0 64) :=
    ⟨trivial, fun _ _ _ => .inr (.inl rfl)⟩
  have first : (sampleLink.run (sparedMoves.take 3)).Allowed (.arrive firstAddress) :=
    free_of_empty firstFragment (by decide) (by decide) (within_packetRam (by decide) (by decide))
      (by decide +kernel) (by decide) (by decide +kernel) (by decide +kernel)
  have second : (sampleLink.run (sparedMoves.take 5)).Allowed (.arrive secondAddress) :=
    free_of_empty secondFragment (by decide) (by decide) (within_packetRam (by decide) (by decide))
      (by decide +kernel) (by decide) (by decide +kernel) (by decide +kernel)
  exact ⟨⟨trivial, nofun⟩, stopped, ⟨.inl (by decide +kernel), nofun⟩, ⟨first, nofun⟩,
    spares (by decide +kernel), ⟨second, nofun⟩, spares (by decide +kernel), trivial⟩

theorem sample_accounted : (sampleLink.run sparedMoves).Accounted :=
  (faults_accounted sampleLink_fresh sparedMoves_endured).1

/-- The acknowledgement behind the second fragment fails. -/
def failingMoves : List EventMove :=
  [.produce sampleEvent, .arrive firstAddress, .tryReadEvent 0 64, .arrive secondAddress,
    .fails [none, none, none, none, some false]]

/-- The next event is taken for the rest of the last one. -/
def misplacedMoves : List EventMove :=
  failingMoves ++
    [.tryReadEvent 0 64, .produce shortEvent, .arrive firstAddress, .tryReadEvent 0 64]

theorem acknowledge_failure_forgets_fragment :
    sampleLink.Fresh Device.readyQueues ∧ sampleLink.Along EventLink.Allowed misplacedMoves ∧
      resultOf (Device.tryReadEvent 0) ((sampleLink.run failingMoves).called 0 64) =
        .error busFailure ∧
      ¬ ((sampleLink.run failingMoves).tryReadEvent 0 64).Accounted ∧
      (sampleLink.run misplacedMoves).messages =
        [{ resubmit := true, messageType := .data, payload := shortEvent.bytes }] ∧
      (sampleLink.run misplacedMoves).ledger.done.filterMap Reception.message =
        [{ resubmit := true, messageType := .data, payload := List.replicate 12 7 },
          { resubmit := true, messageType := .system, payload := [] }] := by
  have first : (sampleLink.run (misplacedMoves.take 1)).Allowed (.arrive firstAddress) :=
    free_of_empty firstFragment (by decide) (by decide) (within_packetRam (by decide) (by decide))
      (by decide +kernel) (by decide) (by decide) (by decide)
  have second : (sampleLink.run (misplacedMoves.take 3)).Allowed (.arrive secondAddress) :=
    free_of_empty secondFragment (by decide) (by decide) (within_packetRam (by decide) (by decide))
      (by decide +kernel) (by decide) (by decide +kernel) (by decide +kernel)
  have third : (sampleLink.run (misplacedMoves.take 7)).Allowed (.arrive firstAddress) :=
    free_of_empty { bytes := shortEvent.bytes, resubmit := true } (by decide) (by decide)
      (within_packetRam (by decide) (by decide)) (by decide +kernel) (by decide)
      (by decide +kernel) (by decide +kernel)
  have done : ((sampleLink.run failingMoves).tryReadEvent 0 64).ledger.current.isNone = true := by
    decide +kernel
  have stale : ((sampleLink.run failingMoves).tryReadEvent 0 64).device.pendingEvent.isSome =
      true := by decide +kernel
  have operational :
      ((sampleLink.run failingMoves).tryReadEvent 0 64).device.recoveryRequired = false := by
    decide +kernel
  refine ⟨sampleLink_fresh, ⟨.inl (by decide), first, trivial, second, trivial, trivial,
    .inl (by decide +kernel), third, trivial, trivial⟩, by decide +kernel, ?_, by decide +kernel,
    by decide +kernel⟩
  rw [Option.isNone_iff_eq_none] at done
  rw [EventLink.Accounted, operational, done, or_iff_right Bool.false_ne_true, Accounts]
  intro lost
  rw [lost] at stale
  cases stale

end Nrf7002
