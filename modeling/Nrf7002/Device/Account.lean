import Nrf7002.Device.Reassembly

/-! # The account of the events

On a bus without faults the device's pending event always mirrors the observer's account
of the event-busy queue, whatever firmware and the caller do.  So the messages that
`Device.tryReadEvent` returns are the events that the account lists as complete and not
refused. -/

set_option autoImplicit false

namespace Nrf7002
open Foundation

/-! ## The observer -/

namespace Ledger
variable {ledger : Ledger} {reception : Reception} {rest : List Fragment}
  {address capacity : Nat}

theorem remaining_current (current : ledger.current = some (reception, rest)) :
    ledger.remaining = rest ++ ledger.ahead.flatMap Prod.snd := by
  rw [remaining, current]

theorem remaining_none (current : ledger.current = none) :
    ledger.remaining = ledger.ahead.flatMap Prod.snd := by
  rw [remaining, current, List.nil_append]

theorem remaining_settle (ledger : Ledger) (reception : Reception) (rest : List Fragment) :
    (ledger.settle reception rest).remaining = rest ++ ledger.ahead.flatMap Prod.snd := by
  rw [settle]
  by_cases complete : rest = []
  · rw [if_pos complete, complete]
    rfl
  · rw [if_neg complete]
    rfl

theorem current_settle (ledger : Ledger) (reception : Reception) (rest : List Fragment) :
    (ledger.settle reception rest).current =
      if rest = [] then none else some (reception, rest) := by
  rw [settle]
  split <;> rfl

theorem done_settle (ledger : Ledger) (reception : Reception) (rest : List Fragment) :
    (ledger.settle reception rest).done =
      if rest = [] then ledger.done ++ [reception] else ledger.done := by
  rw [settle]
  split <;> rfl

theorem ahead_settle (ledger : Ledger) (reception : Reception) (rest : List Fragment) :
    (ledger.settle reception rest).ahead = ledger.ahead := by
  rw [settle]
  split <;> rfl

theorem events_settle (ledger : Ledger) (reception : Reception) (rest : List Fragment) :
    (ledger.settle reception rest).events =
      ledger.done.map Reception.event ++ reception.event :: ledger.ahead.map Prod.fst := by
  rw [settle]
  by_cases complete : rest = []
  · rw [if_pos complete, events]
    simp
  · rw [if_neg complete, events]
    simp

theorem removeFragments_add (first second : Nat) (ledger : Ledger) :
    ledger.removeFragments address capacity (first + second) =
      (ledger.removeFragments address capacity first).removeFragments address capacity second := by
  induction first generalizing ledger with
  | zero =>
      rw [Nat.zero_add]
      rfl
  | succ first hypothesis =>
      rw [Nat.succ_add]
      exact hypothesis _

/-- Fragments of the event that is partly read. -/
theorem removeFragments_current {count : Nat} (inside : count ≤ rest.length)
    (current : ledger.current = some (reception, rest)) (some : rest ≠ []) :
    ledger.removeFragments address capacity count = ledger.settle reception (rest.drop count) := by
  induction count generalizing ledger rest with
  | zero =>
      rw [removeFragments, List.drop_zero, settle, if_neg some, ← current]
  | succ count hypothesis =>
      cases rest with
      | nil => exact absurd rfl some
      | cons fragment rest =>
          rw [removeFragments, removeFragment, current, List.drop_succ_cons]
          dsimp only
          rw [List.tail_cons]
          by_cases complete : rest = []
          · have none : count = 0 := by
              rw [complete, List.length_singleton] at inside
              omega
            rw [none, removeFragments, List.drop_zero]
          · rw [List.length_cons] at inside
            have next : (ledger.settle reception rest).current = Option.some (reception, rest) := by
              rw [settle, if_neg complete]
            rw [hypothesis (by omega) next complete, settle, settle, settle, if_neg complete]

/-- The first fragment of the next event. -/
theorem removeFragments_next {event : FirmwareEvent} {fragments : List Fragment}
    {ahead : List (FirmwareEvent × List Fragment)} (current : ledger.current = none)
    (next : ledger.ahead = (event, fragments) :: ahead) :
    ledger.removeFragments address capacity 1 = { ledger with ahead }.settle
      { event, address, capacity, discarded := false } fragments.tail := by
  rw [removeFragments, removeFragment, current, next]
  rfl

theorem offer_current (current : ledger.current = some (reception, rest)) :
    ledger.offer address capacity =
      { ledger with current := some (reception.offered address capacity, rest) } := by
  rw [offer, current]
  rfl

theorem event_offered (reception : Reception) (address capacity : Nat) :
    (reception.offered address capacity).event = reception.event := by
  rw [Reception.offered]
  split <;> rfl

theorem address_offered (reception : Reception) (address capacity : Nat) :
    (reception.offered address capacity).address = reception.address := by
  rw [Reception.offered]
  split <;> rfl

theorem refused_offered (reception : Reception) (address capacity : Nat) :
    (reception.offered address capacity).refused =
      (reception.refused || decide (reception.Unfit address capacity)) := by
  rw [Reception.offered]
  by_cases unfit : reception.Unfit address capacity
  · rw [if_pos unfit, decide_eq_true unfit, Bool.or_true]
    rfl
  · rw [if_neg unfit, decide_eq_false unfit, Bool.or_false]

theorem offer_none (current : ledger.current = none) :
    ledger.offer address capacity = ledger := by
  rw [offer, current, Option.map_none, ← current]

end Ledger

/-! ## The device mirrors the account -/

/-- The pending event of the device is the event that the observer sees partly read. -/
structure Mirrors (limit : Nat) (reception : Reception) (rest : List Fragment)
    (pending : PendingEvent) : Prop where
  whole : reception.event.declared = reception.event.bytes.length
  declared : pending.declared = reception.event.bytes.length
  partly : pending.copied < pending.declared
  rest : rest = reception.event.fragmentsFrom limit pending.copied
  resubmit : pending.resubmit = reception.event.resubmit
  discard : pending.discard = reception.refused
  address : reception.refused = false → pending.scratchAddress = reception.address

/-- The pending event accounts for the fragments that left the queue. -/
def Accounts (limit : Nat) : Option (Reception × List Fragment) → Option PendingEvent → Prop
  | none, pending => pending = none
  | some (reception, rest), pending => ∃ event, pending = some event ∧
      Mirrors limit reception rest event

/-- The caller's buffer holds what was copied of the event. -/
def Buffered (host : ByteMemory) :
    Option (Reception × List Fragment) → Option PendingEvent → Prop
  | some (reception, _), some pending => reception.refused = false →
      host.fetch reception.address pending.copied = reception.event.bytes.take pending.copied
  | _, _ => True

structure Tracks (queues : HpqmInfo) (link : EventLink) : Prop where
  known : link.device.queues = some queues
  operational : link.device.recoveryRequired = false
  wired : Wired queues link.hardware
  queued : Device.Queued link.hardware link.ledger.remaining
  ahead : ∀ entry ∈ link.ledger.ahead, entry.1.Sized link.limit ∧
    entry.2 = entry.1.fragments link.limit
  accounts : Accounts link.limit link.ledger.current link.device.pendingEvent
  buffered : Buffered link.host link.ledger.current link.device.pendingEvent

section Call
variable {queues : HpqmInfo} {link : EventLink} {scratchAddress capacity count : Nat}
  {given : List UInt32} {pending : Option PendingEvent}
  {result : Except (DeviceError Unit) (Option HostMessage)} {last : Device EventHardware × Bytes}

theorem limit_positive (link : EventLink) : 0 < link.limit :=
  Nat.lt_of_lt_of_le (by decide) link.device.eventFragmentLen.2.1

/-- The observer counts the fragments that the device removed. -/
theorem ledger_ended (scratchAddress capacity : Nat)
    (result : Except (DeviceError Unit) (Option HostMessage))
    (removes : Removes count link.hardware last.1.hardware)
    (inside : count ≤ link.hardware.busy.length) :
    (link.ended scratchAddress capacity result last).ledger =
      (link.ledger.offer scratchAddress capacity).removeFragments scratchAddress capacity
        count := by
  have counted : last.1.hardware.removed.length - link.hardware.removed.length = count := by
    rw [removes.removed, List.length_append, List.length_take]
    omega
  rw [EventLink.ended]
  dsimp only
  rw [counted]

theorem queued_removes {hardware next : EventHardware} {remaining : List Fragment}
    (queued : Device.Queued hardware remaining) (removes : Removes count hardware next)
    (inside : count ≤ hardware.busy.length) : Device.Queued next (remaining.drop count) := by
  obtain ⟨now, later, split, held⟩ := queued
  have size := held.length_eq
  refine ⟨now.drop count, later, ?_, ?_⟩
  · rw [split, List.drop_append_of_le_length (by omega)]
  · rw [removes.busy]
    exact (List.forall₂_drop count held).imp fun _ _ holds => removes.holds holds

/-- A call keeps the account when it leaves the right event pending. -/
theorem tracks_ended (tracks : Tracks queues link)
    (configuration : last.1.configuration = link.device.configuration)
    (operational : last.1.recoveryRequired = link.device.recoveryRequired)
    (removes : Removes count link.hardware last.1.hardware)
    (left : last.1.pendingEvent = pending)
    (inside : count ≤ link.hardware.busy.length)
    (remaining : ((link.ledger.offer scratchAddress capacity).removeFragments scratchAddress
      capacity count).remaining = link.ledger.remaining.drop count)
    (ahead : ((link.ledger.offer scratchAddress capacity).removeFragments scratchAddress
      capacity count).ahead ⊆ link.ledger.ahead)
    (accounts : Accounts link.limit ((link.ledger.offer scratchAddress capacity).removeFragments
      scratchAddress capacity count).current pending)
    (buffered : Buffered (link.host.store scratchAddress last.2)
      ((link.ledger.offer scratchAddress capacity).removeFragments
        scratchAddress capacity count).current pending) :
    Tracks queues (link.ended scratchAddress capacity result last) := by
  have ledger := ledger_ended scratchAddress capacity result removes inside
  have limit : (link.ended scratchAddress capacity result last).limit = link.limit := by
    have same := congrArg Configuration.eventFragmentLen configuration
    exact congrArg Subtype.val same
  refine ⟨?_, ?_, ?_, ?_, ?_, ?_, ?_⟩
  · exact (congrArg Configuration.queues configuration).trans tracks.known
  · exact operational.trans tracks.operational
  · exact removes.wired tracks.wired
  · rw [ledger, remaining]
    exact queued_removes tracks.queued removes inside
  · intro entry member
    rw [ledger] at member
    rw [limit]
    exact tracks.ahead entry (ahead member)
  · rw [ledger, limit]
    change Accounts _ _ last.1.pendingEvent
    rw [left]
    exact accounts
  · rw [ledger]
    change Buffered _ _ last.1.pendingEvent
    rw [left]
    exact buffered

end Call

/-! ## What a call does to the account -/

/-- The addresses that firmware wants back. -/
def returned (addresses : List UInt32) (fragments : List Fragment) : List UInt32 :=
  ((addresses.zip fragments).filter fun entry => entry.2.resubmit).map Prod.fst

theorem returned_append {addresses others : List UInt32} {fragments rest : List Fragment}
    (sized : addresses.length = fragments.length) :
    returned (addresses ++ others) (fragments ++ rest) =
      returned addresses fragments ++ returned others rest := by
  rw [returned, List.zip_append sized, List.filter_append, List.map_append]
  rfl

/-- Fragments without an address do not count. -/
theorem returned_take {addresses : List UInt32} {fragments : List Fragment} {count : Nat}
    (inside : addresses.length ≤ count) :
    returned addresses (fragments.take count) = returned addresses fragments := by
  induction addresses generalizing fragments count with
  | nil => rfl
  | cons address addresses hypothesis =>
      cases fragments with
      | nil => rw [List.take_nil]
      | cons fragment fragments =>
          obtain ⟨less, rfl⟩ : ∃ less, count = less + 1 := by
            rw [List.length_cons] at inside
            exact ⟨count - 1, by omega⟩
          have rest : returned addresses (fragments.take less) = returned addresses fragments :=
            hypothesis (Nat.le_of_succ_le_succ inside)
          rw [returned, returned] at rest ⊢
          rw [List.take_succ_cons, List.zip_cons_cons, List.zip_cons_cons, List.filter_cons,
            List.filter_cons]
          split
          · rw [List.map_cons, List.map_cons, rest]
          · exact rest

/-- All fragments of an event are wanted back, or none. -/
theorem returned_uniform (flag : Bool) {addresses : List UInt32} {fragments : List Fragment}
    (uniform : ∀ fragment ∈ fragments, fragment.resubmit = flag)
    (sized : addresses.length ≤ fragments.length) :
    returned addresses fragments = Device.givenBack flag addresses := by
  induction addresses generalizing fragments with
  | nil =>
      rw [returned, List.zip_nil_left, Device.givenBack, ite_self]
      rfl
  | cons address addresses hypothesis =>
      cases fragments with
      | nil => exact absurd sized (by simp)
      | cons fragment fragments =>
          have one := uniform fragment List.mem_cons_self
          have rest := hypothesis
            (fun other member => uniform other (List.mem_cons_of_mem _ member))
            (Nat.le_of_succ_le_succ sized)
          rw [returned] at rest ⊢
          rw [List.zip_cons_cons, List.filter_cons, one]
          cases flag with
          | false => simpa [Device.givenBack] using rest
          | true => simpa [Device.givenBack] using rest

/-- So many fragments left the queue, they were given back where firmware wants them, and
the events that are complete now were reported. -/
structure Kept (queues : HpqmInfo) (count : Nat) (link next : EventLink) : Prop where
  tracks : Tracks queues next
  inside : count ≤ link.hardware.busy.length
  removes : Removes count link.hardware next.hardware
  remaining : next.ledger.remaining = link.ledger.remaining.drop count
  events : next.ledger.events = link.ledger.events
  available : next.hardware.available = link.hardware.available ++
    returned (link.hardware.busy.take count) (link.ledger.remaining.take count)
  messages : ∃ complete, next.ledger.done = link.ledger.done ++ complete ∧
    next.messages = link.messages ++ complete.filterMap Reception.message

theorem Device.Queued.length_le {hardware : EventHardware} {remaining : List Fragment}
    (queued : Device.Queued hardware remaining) :
    hardware.busy.length ≤ remaining.length := by
  obtain ⟨now, later, split, held⟩ := queued
  have size := held.length_eq
  rw [split, List.length_append]
  omega

theorem Kept.trans {queues : HpqmInfo} {count more : Nat} {link middle next : EventLink}
    (tracks : Tracks queues link) (first : Kept queues count link middle)
    (second : Kept queues more middle next) : Kept queues (count + more) link next := by
  have left := first.removes.busy
  have room := tracks.queued.length_le
  have inside := first.inside
  have rest := second.inside
  rw [left, List.length_drop] at rest
  refine ⟨second.tracks, by omega, first.removes.trans second.removes, ?_, ?_, ?_, ?_⟩
  · rw [second.remaining, first.remaining, List.drop_drop]
  · rw [second.events, first.events]
  · rw [second.available, first.available, left, first.remaining, List.append_assoc,
      List.take_add, List.take_add, returned_append]
    rw [List.length_take, List.length_take]
    omega
  · obtain ⟨complete, done, messages⟩ := first.messages
    obtain ⟨others, later, more⟩ := second.messages
    refine ⟨complete ++ others, ?_, ?_⟩
    · rw [later, done, List.append_assoc]
    · rw [more, messages, List.filterMap_append, List.append_assoc]

/-- A well-formed event is parsed to what it says. -/
theorem messageOf_parse {event : FirmwareEvent} (whole : event.declared = event.bytes.length) :
    EventLink.messageOf (((parseHostMessage event.bytes).map some).mapError .protocol) =
      event.message.toList := by
  have header := event.header
  have declared : (readU32 event.bytes 0).toNat = event.bytes.length := whole
  have payload : slice event.bytes hostMessageHeaderLen event.bytes.length =
      event.bytes.drop hostMessageHeaderLen := slice_to_end _ _
  rw [parseHostMessage, if_neg (by omega), FirmwareEvent.message, if_pos whole]
  dsimp only
  rw [declared, if_neg (by omega), payload]
  cases HostMessageType.fromI32 (readI32 event.bytes 8) with
  | error failure => rfl
  | ok messageType => rfl

section Call
variable {queues : HpqmInfo} {link : EventLink} {scratchAddress capacity : Nat}
  {result : Except (DeviceError Unit) (Option HostMessage)} {last : Device EventHardware × Bytes}

theorem kept_ended {count : Nat} {given : List UInt32} {pending : Option PendingEvent}
    {ledger : Ledger} (tracks : Tracks queues link)
    (progress : Device.Progress count given pending (link.called scratchAddress capacity) last)
    (inside : count ≤ link.hardware.busy.length)
    (counted : (link.ledger.offer scratchAddress capacity).removeFragments scratchAddress capacity
      count = ledger)
    (remaining : ledger.remaining = link.ledger.remaining.drop count)
    (events : ledger.events = link.ledger.events) (ahead : ledger.ahead ⊆ link.ledger.ahead)
    (accounts : Accounts link.limit ledger.current pending)
    (buffered : Buffered (link.host.store scratchAddress last.2) ledger.current pending)
    (wanted : given = returned (link.hardware.busy.take count)
      (link.ledger.remaining.take count))
    (messages : ∃ complete, ledger.done = link.ledger.done ++ complete ∧
      EventLink.messageOf result = complete.filterMap Reception.message) :
    Kept queues count link (link.ended scratchAddress capacity result last) := by
  subst counted
  have account := ledger_ended scratchAddress capacity result progress.removes inside
  obtain ⟨complete, done, told⟩ := messages
  refine ⟨tracks_ended tracks progress.configuration progress.operational progress.removes
    progress.pending inside remaining ahead accounts buffered, inside, progress.removes,
    by rw [account, remaining], by rw [account, events], ?_, complete,
    by rw [account, done], ?_⟩
  · rw [← wanted]
    exact progress.available
  · rw [← told]
    rfl

/-! ### No event is pending -/

theorem kept_idle (tracks : Tracks queues link) (current : link.ledger.current = none)
    (progress : Device.Progress 0 [] none (link.called scratchAddress capacity) last) :
    Kept queues 0 link (link.ended scratchAddress capacity (.ok none) last) := by
  apply kept_ended tracks progress (Nat.zero_le _) (Ledger.offer_none current) rfl rfl
    (List.Subset.refl _)
  · rw [current]
    rfl
  · rw [current]
    trivial
  · rfl
  · exact ⟨[], (List.append_nil _).symm, rfl⟩

theorem FirmwareEvent.fragments_cons (event : FirmwareEvent) {limit : Nat} (positive : 0 < limit) :
    event.fragments limit = { bytes := event.bytes.take limit, resubmit := event.resubmit } ::
      event.fragmentsFrom limit (min limit event.bytes.length) := by
  have header := event.header
  have some : 0 < event.bytes.length := Nat.lt_of_lt_of_le (by decide) header
  have first : slice event.bytes 0 (min limit event.bytes.length) = event.bytes.take limit := by
    rw [slice, List.drop_zero, Nat.sub_zero, ← List.take_eq_take_min]
  rw [FirmwareEvent.fragments, event.fragmentsFrom_some positive some, Nat.sub_zero,
    Nat.zero_add, first]

/-- What is queued first belongs to the next event. -/
theorem next_event (tracks : Tracks queues link) (current : link.ledger.current = none)
    (busy : link.hardware.busy ≠ []) :
    ∃ event ahead address, link.ledger.ahead = (event, event.fragments link.limit) :: ahead ∧
      Device.FirstInQueue link.limit event address link.hardware := by
  have queued := tracks.queued
  have remaining := Ledger.remaining_none current
  have room := queued.length_le
  cases ahead : link.ledger.ahead with
  | nil =>
      rw [remaining, ahead, List.flatMap_nil, List.length_nil, Nat.le_zero,
        List.length_eq_zero_iff] at room
      exact absurd room busy
  | cons entry rest =>
      obtain ⟨event, fragments⟩ := entry
      obtain ⟨sized, rfl⟩ : event.Sized link.limit ∧ fragments = event.fragments link.limit :=
        tracks.ahead (event, fragments) (by rw [ahead]; exact List.mem_cons_self)
      rw [remaining, ahead, List.flatMap_cons, event.fragments_cons (limit_positive link),
        List.cons_append] at queued
      rcases queued.nil_or_cons with empty | ⟨address, others, addresses, holds⟩
      · exact absurd empty busy
      · exact ⟨event, rest, address, rfl, sized, by rw [addresses, List.head?_cons], holds⟩

/-- What the caller is told of a new event is what its reception says, once it is complete. -/
theorem messageOf_newResult {event : FirmwareEvent} {limit : Nat} (sized : event.Sized limit)
    (address capacity : Nat) :
    EventLink.messageOf (Device.newResult limit event capacity) =
      if event.bytes.length ≤ limit then
        ([{ event, address, capacity, discarded := false }] : List Reception).filterMap
          Reception.message
      else [] := by
  have header := event.header
  rw [Device.newResult]
  by_cases short : event.declared < hostMessageHeaderLen
  · have one : event.bytes.length ≤ limit := by
      rcases sized with same | ⟨-, one⟩
      · omega
      · exact one
    have silent : event.message = none := by
      rw [FirmwareEvent.message, if_neg (by omega)]
    have nothing : Reception.message { event, address, capacity, discarded := false } = none := by
      rw [Reception.message, silent, ite_self]
    rw [if_pos short, if_pos one, List.filterMap_cons_none nothing]
    rfl
  · rw [if_neg short]
    by_cases oversized : capacity < event.bytes.length
    · have nothing : Reception.message { event, address, capacity, discarded := false } =
          none := by
        rw [Reception.message, Reception.refused, if_pos]
        simp [oversized]
      rw [if_pos oversized, List.filterMap_cons_none nothing, List.filterMap_nil, ite_self]
      rfl
    · have kept : Reception.message { event, address, capacity, discarded := false } =
          event.message := by
        rw [Reception.message, Reception.refused, if_neg]
        simp [oversized]
      rw [if_neg oversized]
      by_cases one : event.bytes.length ≤ limit
      · rw [if_pos one, if_pos one, messageOf_parse (Device.declared_of_sized sized short),
          List.filterMap_cons, kept]
        cases event.message <;> rfl
      · rw [if_neg one, if_neg one]
        rfl

theorem kept_new (tracks : Tracks queues link) (current : link.ledger.current = none)
    {event : FirmwareEvent} {ahead : List (FirmwareEvent × List Fragment)} {address : UInt32}
    (next : link.ledger.ahead = (event, event.fragments link.limit) :: ahead)
    (queued : Device.FirstInQueue link.limit event address link.hardware)
    (progress : Device.Progress 1 (Device.givenBack event.resubmit [address])
      (Device.newPending link.limit event scratchAddress capacity)
      (link.called scratchAddress capacity) last)
    (filled : ¬ Device.Unread event capacity →
      last.2.take (min link.limit event.bytes.length) =
        event.bytes.take (min link.limit event.bytes.length)) :
    Kept queues 1 link (link.ended scratchAddress capacity
      (Device.newResult link.limit event capacity) last) := by
  have positive := limit_positive link
  obtain ⟨busy, addresses⟩ : ∃ busy, link.hardware.busy = address :: busy := by
    have first := queued.first
    cases addresses : link.hardware.busy with
    | nil =>
        rw [addresses] at first
        cases first
    | cons head busy =>
        rw [addresses, List.head?_cons, Option.some.injEq] at first
        exact ⟨busy, by rw [first]⟩
  have fragments := event.fragments_cons positive
  have told := messageOf_newResult queued.sized scratchAddress capacity
  obtain ⟨reception, taken⟩ : ∃ reception : Reception, reception =
    { event, address := scratchAddress, capacity, discarded := false } := ⟨_, rfl⟩
  rw [← taken] at told
  have counted : (link.ledger.offer scratchAddress capacity).removeFragments scratchAddress
      capacity 1 = ({ link.ledger with ahead } : Ledger).settle reception
        (event.fragmentsFrom link.limit (min link.limit event.bytes.length)) := by
    rw [Ledger.offer_none current, Ledger.removeFragments_next current next, fragments,
      List.tail_cons, taken]
  have remaining := Ledger.remaining_none current
  rw [next, List.flatMap_cons] at remaining
  dsimp only at remaining
  rw [fragments, List.cons_append] at remaining
  have whole (long : ¬ event.bytes.length ≤ link.limit) :
      event.declared = event.bytes.length := by
    rcases queued.sized with same | ⟨-, short⟩
    · exact same
    · omega
  apply kept_ended tracks progress (by rw [addresses, List.length_cons]; omega) counted
  · rw [Ledger.remaining_settle, remaining, List.drop_one, List.tail_cons]
  · rw [Ledger.events_settle, Ledger.events, current, next, taken]
    rfl
  · rw [Ledger.ahead_settle, next]
    exact List.subset_cons_self _ _
  · rw [Ledger.current_settle]
    by_cases one : event.bytes.length ≤ link.limit
    · rw [FirmwareEvent.fragmentsFrom_none (by omega), if_pos rfl, Device.newPending, if_pos one]
      rfl
    · rw [if_neg (FirmwareEvent.fragmentsFrom_ne_nil positive (by omega)), Device.newPending,
        if_neg one, Nat.min_eq_left (by omega)]
      refine ⟨_, rfl, by rw [taken]; exact whole one, by rw [taken], by dsimp only; omega,
        by rw [taken], by rw [taken], ?_, ?_⟩
      · rw [taken]
        rfl
      · intro kept
        rw [taken, Reception.refused, Bool.false_or, decide_eq_false_iff_not] at kept
        rw [taken]
        exact if_neg kept
  · rw [Ledger.current_settle]
    by_cases one : event.bytes.length ≤ link.limit
    · rw [FirmwareEvent.fragmentsFrom_none (by omega), if_pos rfl]
      trivial
    · rw [if_neg (FirmwareEvent.fragmentsFrom_ne_nil positive (by omega)), Device.newPending,
        if_neg one]
      intro kept
      rw [taken, Reception.refused, Bool.false_or, decide_eq_false_iff_not] at kept
      dsimp only at kept
      have size : last.2.length = capacity := progress.scratch.trans ByteMemory.length_fetch
      have read : ¬ Device.Unread event capacity := by
        have long := whole one
        have header := event.header
        rintro (short | more)
        · omega
        · exact kept more
      have front := filled read
      rw [Nat.min_eq_left (by omega)] at front
      rw [taken]
      dsimp only
      rw [ByteMemory.fetch_store_take (by omega), front]
  · rw [addresses, remaining]
    cases event.resubmit <;> rfl
  · rw [told, Ledger.done_settle]
    by_cases one : event.bytes.length ≤ link.limit
    · rw [FirmwareEvent.fragmentsFrom_none (by omega), if_pos rfl, if_pos one]
      exact ⟨[reception], rfl, rfl⟩
    · rw [if_neg (FirmwareEvent.fragmentsFrom_ne_nil positive (by omega)), if_neg one]
      exact ⟨[], (List.append_nil _).symm, rfl⟩

/-! ### An event is pending -/

section Pending
variable {reception : Reception} {rest : List Fragment} {pending : PendingEvent}

/-- The device tells a changed buffer as the observer does, while the event is wanted. -/
theorem pendingBufferChanged_iff (scratchAddress capacity : Nat)
    (mirrors : Mirrors link.limit reception rest pending) :
    Device.pendingBufferChanged pending scratchAddress capacity = true ↔
      reception.refused = false ∧ reception.Unfit scratchAddress capacity := by
  rw [Device.pendingBufferChanged, mirrors.discard, mirrors.declared, Reception.Unfit]
  cases refused : reception.refused with
  | true => simp
  | false =>
      rw [mirrors.address refused]
      simp

theorem kept_changed (tracks : Tracks queues link)
    (current : link.ledger.current = some (reception, rest))
    (mirrors : Mirrors link.limit reception rest pending)
    (changed : Device.pendingBufferChanged pending scratchAddress capacity = true) :
    Kept queues 0 link (link.ended scratchAddress capacity (.error .eventBufferChanged)
      ({ link.device with
          pendingEvent := some { pending with discard := true, scratchAddress := 0 } },
        link.host.fetch scratchAddress capacity)) := by
  obtain ⟨-, unfit⟩ := (pendingBufferChanged_iff _ _ mirrors).mp changed
  have refused : (reception.offered scratchAddress capacity).refused = true := by
    rw [Ledger.refused_offered, decide_eq_true unfit, Bool.or_true]
  have event := Ledger.event_offered reception scratchAddress capacity
  have progress : Device.Progress 0 []
      (some { pending with discard := true, scratchAddress := 0 })
      (link.called scratchAddress capacity)
      ({ link.device with
          pendingEvent := some { pending with discard := true, scratchAddress := 0 } },
        link.host.fetch scratchAddress capacity) :=
    ⟨rfl, rfl, removes_none ⟨rfl, rfl⟩ rfl rfl rfl, (List.append_nil _).symm, rfl, rfl⟩
  apply kept_ended tracks progress (Nat.zero_le _) (Ledger.offer_current current)
  · rw [Ledger.remaining, Ledger.remaining_current current]
    rfl
  · rw [Ledger.events, Ledger.events, current]
    dsimp only [Option.map_some]
    rw [event]
  · exact List.Subset.refl _
  · refine ⟨_, rfl, ?_⟩
    exact ⟨by rw [event]; exact mirrors.whole, by rw [event]; exact mirrors.declared,
      mirrors.partly, by rw [event]; exact mirrors.rest, by rw [event]; exact mirrors.resubmit,
      refused.symm, fun kept => absurd (refused.symm.trans kept) (by decide)⟩
  · intro kept
    exact absurd (refused.symm.trans kept) (by decide)
  · rfl
  · exact ⟨[], (List.append_nil _).symm, rfl⟩

theorem resubmit_of_fragmentsFrom {event : FirmwareEvent} {limit copied : Nat}
    {fragment : Fragment} (member : fragment ∈ event.fragmentsFrom limit copied) :
    fragment.resubmit = event.resubmit := by
  rw [FirmwareEvent.fragmentsFrom, List.mem_map] at member
  obtain ⟨bytes, -, rfl⟩ := member
  rfl

theorem Mirrors.rest_ne_nil (mirrors : Mirrors link.limit reception rest pending) : rest ≠ [] := by
  rw [mirrors.rest]
  exact reception.event.fragmentsFrom_ne_nil (limit_positive link)
    (mirrors.declared ▸ mirrors.partly)

/-- The same buffer refuses nothing. -/
theorem refused_unchanged (mirrors : Mirrors link.limit reception rest pending)
    (unchanged : Device.pendingBufferChanged pending scratchAddress capacity = false) :
    (reception.offered scratchAddress capacity).refused = reception.refused := by
  rw [Ledger.refused_offered]
  cases wanted : reception.refused with
  | true => rfl
  | false =>
      rw [Bool.false_or, decide_eq_false]
      intro unfit
      have changed := (pendingBufferChanged_iff _ _ mirrors).mpr ⟨wanted, unfit⟩
      exact absurd (unchanged.symm.trans changed) (by decide)

/-- A call that goes on with the pending event; `result` is what it tells of a complete
one. -/
theorem kept_continued (tracks : Tracks queues link)
    (current : link.ledger.current = some (reception, rest))
    (mirrors : Mirrors link.limit reception rest pending)
    (unchanged : Device.pendingBufferChanged pending scratchAddress capacity = false)
    {copied : Nat} (bound : copied ≤ pending.declared)
    (behind : reception.event.fragmentsFrom link.limit copied =
      rest.drop link.hardware.busy.length)
    (progress : Device.Progress (min link.hardware.busy.length rest.length)
      (Device.givenBack pending.resubmit (link.hardware.busy.take rest.length))
      (Device.leftOf pending copied) (link.called scratchAddress capacity) last)
    (filled : pending.discard = false → last.2.take copied = reception.event.bytes.take copied)
    (told : EventLink.messageOf result = if copied = pending.declared ∧ pending.discard = false
      then reception.event.message.toList else []) :
    Kept queues (min link.hardware.busy.length rest.length) link
      (link.ended scratchAddress capacity result last) := by
  have positive := limit_positive link
  have some := mirrors.rest_ne_nil
  have event := Ledger.event_offered reception scratchAddress capacity
  have refused := refused_unchanged mirrors unchanged
  have taken : rest.drop (min link.hardware.busy.length rest.length) =
      rest.drop link.hardware.busy.length := by
    rcases Nat.le_total link.hardware.busy.length rest.length with fewer | all
    · rw [Nat.min_eq_left fewer]
    · rw [Nat.min_eq_right all, List.drop_length, List.drop_of_length_le all]
  have counted : (link.ledger.offer scratchAddress capacity).removeFragments scratchAddress capacity
      (min link.hardware.busy.length rest.length) =
        ({ link.ledger with
            current := Option.some (reception.offered scratchAddress capacity, rest) } :
              Ledger).settle (reception.offered scratchAddress capacity)
          (reception.event.fragmentsFrom link.limit copied) := by
    rw [Ledger.offer_current current,
      Ledger.removeFragments_current (Nat.min_le_right _ _) rfl some, behind]
    rw [taken]
  have complete : reception.event.fragmentsFrom link.limit copied = [] ↔
      copied = pending.declared := by
    constructor
    · intro nothing
      by_contra partly
      exact reception.event.fragmentsFrom_ne_nil positive
        (by rw [← mirrors.declared]; omega) nothing
    · intro same
      exact FirmwareEvent.fragmentsFrom_none (by rw [same, mirrors.declared])
  have remaining := Ledger.remaining_current current
  apply kept_ended tracks progress (Nat.min_le_left _ _) counted
  · rw [Ledger.remaining_settle, remaining, behind,
      List.drop_append_of_le_length (Nat.min_le_right _ _), taken]
  · rw [Ledger.events_settle, Ledger.events, current, event]
    rfl
  · rw [Ledger.ahead_settle]
    exact List.Subset.refl _
  · rw [Ledger.current_settle, Device.leftOf]
    by_cases done : copied = pending.declared
    · rw [if_pos (complete.mpr done), if_pos done]
      rfl
    · rw [if_neg (fun nothing => done (complete.mp nothing)), if_neg done]
      refine ⟨_, rfl, by rw [event]; exact mirrors.whole, by rw [event]; exact mirrors.declared,
        by dsimp only; omega, by rw [event], by rw [event]; exact mirrors.resubmit,
        by rw [refused]; exact mirrors.discard, ?_⟩
      intro kept
      rw [refused] at kept
      rw [Ledger.address_offered]
      exact mirrors.address kept
  · rw [Ledger.current_settle, Device.leftOf]
    by_cases done : copied = pending.declared
    · rw [if_pos (complete.mpr done), if_pos done]
      trivial
    · rw [if_neg (fun nothing => done (complete.mp nothing)), if_neg done]
      intro kept
      rw [refused] at kept
      have fits : ¬ reception.Unfit scratchAddress capacity := by
        intro unfit
        have changed := (pendingBufferChanged_iff _ _ mirrors).mpr ⟨kept, unfit⟩
        exact absurd (unchanged.symm.trans changed) (by decide)
      obtain ⟨same, room⟩ := not_or.mp fits
      have size : last.2.length = capacity := progress.scratch.trans ByteMemory.length_fetch
      have declared := mirrors.declared
      rw [Ledger.address_offered, not_not.mp same, event]
      dsimp only
      rw [ByteMemory.fetch_store_take (by omega)]
      exact filled (mirrors.discard.trans kept)
  · rw [remaining, List.take_append_of_le_length (Nat.min_le_right _ _),
      returned_uniform pending.resubmit]
    · rw [List.take_eq_take_min, Nat.min_comm]
    · intro fragment member
      have inside := List.mem_of_mem_take member
      rw [mirrors.rest] at inside
      rw [resubmit_of_fragmentsFrom inside, mirrors.resubmit]
    · rw [List.length_take, List.length_take]
      omega
  · rw [told, Ledger.done_settle]
    by_cases done : copied = pending.declared
    · rw [if_pos (complete.mpr done)]
      refine ⟨[reception.offered scratchAddress capacity], rfl, ?_⟩
      have message : (reception.offered scratchAddress capacity).message =
          if reception.refused then none else reception.event.message := by
        rw [Reception.message, refused, event]
      rw [← mirrors.discard] at message
      cases discard : pending.discard with
      | true =>
          rw [discard, if_pos rfl] at message
          rw [if_neg (by simp), List.filterMap_cons_none message]
          rfl
      | false =>
          rw [discard, if_neg (by decide)] at message
          rw [if_pos ⟨done, rfl⟩, List.filterMap_cons, message]
          cases reception.event.message <;> rfl
    · rw [if_neg (fun nothing => done (complete.mp nothing)), if_neg (fun both => done both.1)]
      exact ⟨[], (List.append_nil _).symm, rfl⟩

end Pending

end Call

end Nrf7002
