import Nrf7002.Device.Account

/-! # Whole calls

What a call of `Device.tryReadEvent` does to the account, on clear transfers and when one
of them fails. -/

set_option autoImplicit false

namespace Nrf7002
open Foundation

/-! ## Transfers -/

/-- The transfers behind the last fragment of an event, where the next one is looked for. -/
def nextCost (limit : Nat) (ahead : List (FirmwareEvent × List Fragment)) (busy : List UInt32)
    (capacity : Nat) : Nat :=
  match busy, ahead with
  | _ :: _, (event, _) :: _ => Device.newCost limit event capacity
  | _, _ => 1

namespace EventLink

/-- The transfers that drain the rest of an event. -/
def drainCost (link : EventLink) (reception : Reception) (rest : List Fragment) : Nat :=
  Device.continueCost reception.refused reception.event.resubmit rest link.hardware.busy

/-- The transfers of a call with this buffer. -/
def callCost (link : EventLink) (scratchAddress capacity : Nat) : Nat :=
  match link.ledger.current with
  | none => nextCost link.limit link.ledger.ahead link.hardware.busy capacity
  | some (reception, rest) =>
      if reception.refused = false ∧ reception.Unfit scratchAddress capacity then 0
      else link.drainCost reception rest +
        if reception.refused = true ∧ rest.length ≤ link.hardware.busy.length then
          nextCost link.limit link.ledger.ahead (link.hardware.busy.drop rest.length) capacity
        else 0

/-- The fragments that a call with this buffer removes. -/
def callCount (link : EventLink) (scratchAddress capacity : Nat) : Nat :=
  match link.ledger.current with
  | none => min 1 link.hardware.busy.length
  | some (reception, rest) =>
      if reception.refused = false ∧ reception.Unfit scratchAddress capacity then 0
      else min link.hardware.busy.length rest.length +
        if reception.refused = true ∧ rest.length ≤ link.hardware.busy.length then
          min 1 (link.hardware.busy.length - rest.length)
        else 0

end EventLink

/-! ## Calls that break off -/

/-- A failed look for the next event that removes nothing, or all of the event. -/
def Harmless (limit : Nat) (ahead : List (FirmwareEvent × List Fragment))
    (hardware : EventHardware) : Prop :=
  hardware.busy = [] ∨ Device.blocked hardware = true ∨
    ∀ entry ∈ ahead.head?, entry.1.bytes.length ≤ limit

theorem harmless_congr {limit : Nat} {ahead : List (FirmwareEvent × List Fragment)}
    {left right : EventHardware} (busy : left.busy = right.busy)
    (faults : left.faults = right.faults) :
    Harmless limit ahead left = Harmless limit ahead right := by
  have clear (count : Nat) : left.clear count = right.clear count :=
    EventHardware.clear_congr faults count
  have fault : (left.after 1).fault = (right.after 1).fault := by
    rw [EventHardware.fault, EventHardware.fault, EventHardware.after, EventHardware.after, faults]
  have blocked : Device.blocked left = Device.blocked right := by
    rw [Device.blocked, Device.blocked, EventHardware.loses, EventHardware.loses, clear, clear,
      fault]
  rw [Harmless, Harmless, busy, blocked]

/-- The hardware behind the last fragment of the event that is partly read. -/
def EventLink.behind (link : EventLink) (reception : Reception) (rest : List Fragment) :
    EventHardware :=
  { link.hardware with busy := link.hardware.busy.drop rest.length }.after
    (link.drainCost reception rest)

/-- A failed transfer of this call leaves the fragments accounted for. -/
def EventLink.Spared (link : EventLink) : Prop :=
  match link.ledger.current with
  | none => Harmless link.limit link.ledger.ahead link.hardware
  | some (reception, rest) =>
      if link.hardware.clear (link.drainCost reception rest) then
        Harmless link.limit link.ledger.ahead (link.behind reception rest)
      else link.hardware.busy = [] ∨ Device.blocked link.hardware = true

/-- So many fragments left the queue; what the caller was told of the events that are
complete now is right, but not all of it need have been told. -/
structure Followed (queues : HpqmInfo) (count : Nat) (link next : EventLink) : Prop where
  tracks : Tracks queues next
  inside : count ≤ link.hardware.busy.length
  removes : Removes count link.hardware next.hardware
  remaining : next.ledger.remaining = link.ledger.remaining.drop count
  events : next.ledger.events = link.ledger.events
  messages : ∃ complete told, next.ledger.done = link.ledger.done ++ complete ∧
    next.messages = link.messages ++ told ∧ told.Sublist (complete.filterMap Reception.message)

/-- The link after a call that a fault ended: its account stands exactly where the call is
spared. -/
structure Broken (queues : HpqmInfo) (spared : Prop) (link next : EventLink) : Prop where
  operational : next.device.recoveryRequired = false
  accounts : Accounts next.limit next.ledger.current next.device.pendingEvent ↔ spared
  followed : spared → ∃ count, Followed queues count link next

section Call
variable {queues : HpqmInfo} {link : EventLink} {scratchAddress capacity : Nat}
  {result : Except (DeviceError Unit) (Option HostMessage)} {last : Device EventHardware × Bytes}

theorem Kept.followed {count : Nat} {next : EventLink} (kept : Kept queues count link next) :
    Followed queues count link next := by
  obtain ⟨complete, done, told⟩ := kept.messages
  exact ⟨kept.tracks, kept.inside, kept.removes, kept.remaining, kept.events, complete, _, done,
    told, List.Sublist.refl _⟩

theorem Followed.trans {count more : Nat} {middle next : EventLink}
    (first : Followed queues count link middle) (second : Followed queues more middle next) :
    Followed queues (count + more) link next := by
  have inside := first.inside
  have rest := second.inside
  rw [first.removes.busy, List.length_drop] at rest
  refine ⟨second.tracks, by omega, first.removes.trans second.removes, ?_, ?_, ?_⟩
  · rw [second.remaining, first.remaining, List.drop_drop]
  · rw [second.events, first.events]
  · obtain ⟨complete, told, done, messages, some⟩ := first.messages
    obtain ⟨others, more, later, rest, all⟩ := second.messages
    refine ⟨complete ++ others, told ++ more, ?_, ?_, ?_⟩
    · rw [later, done, List.append_assoc]
    · rw [rest, messages, List.append_assoc]
    · rw [List.filterMap_append]
      exact some.append all

theorem limit_ended (same : last.1.configuration = link.device.configuration) :
    (link.ended scratchAddress capacity result last).limit = link.limit :=
  congrArg Subtype.val (congrArg Configuration.eventFragmentLen same)

theorem no_pending (tracks : Tracks queues link) (current : link.ledger.current = none) :
    link.device.pendingEvent = none := by
  have accounts := tracks.accounts
  rw [current] at accounts
  exact accounts

theorem followed_ended {count : Nat} {ledger : Ledger} (tracks : Tracks queues link)
    (went : Device.Went count link.device last.1) (inside : count ≤ link.hardware.busy.length)
    (silent : EventLink.messageOf result = [])
    (counted : (link.ledger.offer scratchAddress capacity).removeFragments scratchAddress capacity
      count = ledger)
    (remaining : ledger.remaining = link.ledger.remaining.drop count)
    (events : ledger.events = link.ledger.events) (ahead : ledger.ahead ⊆ link.ledger.ahead)
    (accounts : Accounts link.limit ledger.current link.device.pendingEvent)
    (buffered : Buffered (link.host.store scratchAddress last.2) ledger.current
      link.device.pendingEvent)
    (done : ∃ complete, ledger.done = link.ledger.done ++ complete) :
    Followed queues count link (link.ended scratchAddress capacity result last) := by
  subst counted
  have account := ledger_ended scratchAddress capacity result went.2 inside
  obtain ⟨complete, done⟩ := done
  refine ⟨tracks_ended tracks went.configuration went.operational went.2 went.pendingEvent inside
    remaining ahead accounts buffered, inside, went.2, by rw [account, remaining],
    by rw [account, events], complete, [], by rw [account, done], ?_, List.nil_sublist _⟩
  rw [← silent]
  rfl

/-- A look for a new event that failed. -/
theorem broken_new (tracks : Tracks queues link) (current : link.ledger.current = none)
    (silent : EventLink.messageOf result = [])
    (broke : Device.Broke 1 (link.called scratchAddress capacity) last) :
    Broken queues (Harmless link.limit link.ledger.ahead link.hardware) link
      (link.ended scratchAddress capacity result last) := by
  obtain ⟨⟨count, went, few, inside, nothing⟩, -, -⟩ := broke
  change Device.Went count link.device last.1 at went
  change count ≤ link.hardware.busy.length at inside
  change count = 0 ↔ link.hardware.busy = [] ∨ Device.blocked link.hardware = true at nothing
  have free := no_pending tracks current
  have account := ledger_ended scratchAddress capacity result went.2 inside
  have same : (link.ended scratchAddress capacity result last).limit = link.limit :=
    limit_ended went.configuration
  have left : (link.ended scratchAddress capacity result last).device.pendingEvent = none :=
    went.pendingEvent.trans free
  have offered : link.ledger.offer scratchAddress capacity = link.ledger :=
    Ledger.offer_none current
  rcases Nat.eq_zero_or_pos count with rfl | removed
  · have idle := nothing.mp rfl
    have spared : Harmless link.limit link.ledger.ahead link.hardware :=
      idle.elim .inl fun blocked => .inr (.inl blocked)
    have followed : Followed queues 0 link (link.ended scratchAddress capacity result last) := by
      apply followed_ended tracks went inside silent offered rfl rfl (List.Subset.refl _)
      · rw [current]
        exact free
      · rw [current]
        trivial
      · exact ⟨[], (List.append_nil _).symm⟩
    exact ⟨followed.tracks.operational, iff_of_true followed.tracks.accounts spared,
      fun _ => ⟨0, followed⟩⟩
  · have one : count = 1 := by omega
    subst one
    have some : link.hardware.busy ≠ [] := fun empty => by
      rw [empty] at inside
      exact absurd inside (by decide)
    obtain ⟨event, ahead, address, next, queued⟩ := next_event tracks current some
    have positive := limit_positive link
    have fragments := event.fragments_cons positive
    obtain ⟨reception, taken⟩ : ∃ reception : Reception, reception =
      { event, address := scratchAddress, capacity, discarded := false } := ⟨_, rfl⟩
    have counted : (link.ledger.offer scratchAddress capacity).removeFragments scratchAddress
        capacity 1 = ({ link.ledger with ahead } : Ledger).settle reception
          (event.fragmentsFrom link.limit (min link.limit event.bytes.length)) := by
      rw [offered, Ledger.removeFragments_next current next, fragments, List.tail_cons, taken]
    have unblocked : ¬ Device.blocked link.hardware = true :=
      fun blocked => absurd (nothing.mpr (.inr blocked)) (by decide)
    have spared : Harmless link.limit link.ledger.ahead link.hardware ↔
        event.bytes.length ≤ link.limit := by
      rw [Harmless, or_iff_right some, or_iff_right unblocked, next]
      simp
    have complete : event.fragmentsFrom link.limit (min link.limit event.bytes.length) = [] ↔
        event.bytes.length ≤ link.limit := by
      constructor
      · intro nothing
        by_contra long
        exact event.fragmentsFrom_ne_nil positive (by omega) nothing
      · intro short
        exact FirmwareEvent.fragmentsFrom_none (by omega)
    refine ⟨went.operational.trans tracks.operational, ?_, ?_⟩
    · rw [same, left, account, counted, Ledger.current_settle, spared, ← complete]
      split
      · exact iff_of_true rfl ‹_›
      · refine iff_of_false ?_ ‹_›
        rintro ⟨pending, held, -⟩
        cases held
    · intro kept
      have short := complete.mpr (spared.mp kept)
      have remaining := Ledger.remaining_none current
      rw [next, List.flatMap_cons] at remaining
      dsimp only at remaining
      rw [fragments, List.cons_append] at remaining
      refine ⟨1, followed_ended tracks went inside silent counted ?_ ?_ ?_ ?_ ?_ ?_⟩
      · rw [Ledger.remaining_settle, remaining, List.drop_one, List.tail_cons]
      · rw [Ledger.events_settle, Ledger.events, current, next, taken]
        rfl
      · rw [Ledger.ahead_settle, next]
        exact List.subset_cons_self _ _
      · rw [Ledger.current_settle, if_pos short, free]
        rfl
      · rw [Ledger.current_settle, if_pos short]
        trivial
      · exact ⟨[reception], by rw [Ledger.done_settle, if_pos short]⟩

section Pending
variable {reception : Reception} {rest : List Fragment} {pending : PendingEvent}

/-- A drain that failed. -/
theorem broken_continued (tracks : Tracks queues link)
    (current : link.ledger.current = some (reception, rest))
    (held : link.device.pendingEvent = some pending)
    (mirrors : Mirrors link.limit reception rest pending)
    (unchanged : Device.pendingBufferChanged pending scratchAddress capacity = false)
    (silent : EventLink.messageOf result = [])
    (broke : Device.Broke rest.length (link.called scratchAddress capacity) last) :
    Broken queues (link.hardware.busy = [] ∨ Device.blocked link.hardware = true) link
      (link.ended scratchAddress capacity result last) := by
  obtain ⟨⟨count, went, few, inside, nothing⟩, -, buffer⟩ := broke
  change Device.Went count link.device last.1 at went
  change count ≤ link.hardware.busy.length at inside
  change count = 0 ↔ link.hardware.busy = [] ∨ Device.blocked link.hardware = true at nothing
  have more := mirrors.rest_ne_nil
  have event := Ledger.event_offered reception scratchAddress capacity
  have refused := refused_unchanged mirrors unchanged
  have account := ledger_ended scratchAddress capacity result went.2 inside
  have same : (link.ended scratchAddress capacity result last).limit = link.limit :=
    limit_ended went.configuration
  have left : (link.ended scratchAddress capacity result last).device.pendingEvent = some pending :=
    went.pendingEvent.trans held
  have offered : link.ledger.offer scratchAddress capacity = _ := Ledger.offer_current current
  have mirrored : Mirrors link.limit (reception.offered scratchAddress capacity) rest pending := by
    refine ⟨by rw [event]; exact mirrors.whole, by rw [event]; exact mirrors.declared,
      mirrors.partly, by rw [event]; exact mirrors.rest, by rw [event]; exact mirrors.resubmit,
      by rw [refused]; exact mirrors.discard, ?_⟩
    intro kept
    rw [refused] at kept
    rw [Ledger.address_offered]
    exact mirrors.address kept
  rw [← nothing]
  refine ⟨went.operational.trans tracks.operational, ?_, ?_⟩
  · rw [same, left, account, offered, Ledger.removeFragments_current few rfl more,
      Ledger.current_settle]
    constructor
    · intro accounts
      by_contra positive
      split at accounts
      · cases accounts
      · obtain ⟨stale, found, mirror⟩ := accounts
        cases found
        have shorter := congrArg List.length (mirror.rest.trans mirrored.rest.symm)
        have length := List.length_pos_iff.mpr more
        rw [List.length_drop] at shorter
        omega
    · rintro rfl
      rw [List.drop_zero, if_neg more]
      exact ⟨pending, rfl, mirrored⟩
  · rintro rfl
    refine ⟨0, followed_ended tracks went inside silent offered ?_ ?_ ?_ ?_ ?_ ?_⟩
    · rw [Ledger.remaining, Ledger.remaining_current current]
      rfl
    · rw [Ledger.events, Ledger.events, current]
      dsimp only [Option.map_some]
      rw [event]
    · exact List.Subset.refl _
    · exact ⟨pending, held, mirrored⟩
    · have buffered := tracks.buffered
      have kept : last.2 = link.host.fetch scratchAddress capacity := buffer (nothing.mp rfl)
      rw [current, held] at buffered
      rw [held, kept, ByteMemory.store_fetch]
      intro wanted
      rw [refused] at wanted
      rw [Ledger.address_offered, event]
      exact buffered wanted
    · exact ⟨[], (List.append_nil _).symm⟩

end Pending

/-! ## Every call -/

/-- A call goes on from where its first part ended. -/
theorem ended_ended {count more : Nat} {middle : Device EventHardware × Bytes}
    (first : Removes count link.hardware middle.1.hardware)
    (inside : count ≤ link.hardware.busy.length)
    (second : Removes more middle.1.hardware last.1.hardware)
    (rest : more ≤ middle.1.hardware.busy.length)
    (free : (link.ended scratchAddress capacity (.ok none) middle).ledger.current = none)
    (sized : last.2.length = middle.2.length) :
    (link.ended scratchAddress capacity (.ok none) middle).ended scratchAddress capacity result
      last = link.ended scratchAddress capacity result last := by
  have later : ((link.ended scratchAddress capacity (.ok none) middle).ended scratchAddress capacity
      result last).ledger = _ := ledger_ended scratchAddress capacity result second rest
  have room : count + more ≤ link.hardware.busy.length := by
    rw [first.busy, List.length_drop] at rest
    omega
  apply EventLink.ext
  · rfl
  · exact ByteMemory.store_over sized
  · rw [later, Ledger.offer_none free, ledger_ended _ _ _ first inside,
      ledger_ended _ _ _ (first.trans second) room, Ledger.removeFragments_add]
  · change link.messages ++ [] ++ _ = link.messages ++ _
    rw [List.append_nil]
  · rfl
  · rfl

theorem ends_readNew (tracks : Tracks queues link) (current : link.ledger.current = none) :
    Ends Device.hardwareBeside (Device.readNewEvent queues scratchAddress)
      (link.called scratchAddress capacity)
      (nextCost link.limit link.ledger.ahead link.hardware.busy capacity)
      (fun r t => t.2.length = capacity ∧
        Kept queues (min 1 link.hardware.busy.length) link
          (link.ended scratchAddress capacity r t))
      (Device.Broke 1 (link.called scratchAddress capacity)) := by
  have free := no_pending tracks current
  have size : (link.called scratchAddress capacity).2.length = capacity := ByteMemory.length_fetch
  by_cases empty : link.hardware.busy = []
  · have cost : nextCost link.limit link.ledger.ahead link.hardware.busy capacity = 1 := by
      rw [empty]
      rfl
    rw [cost, empty, List.length_nil, Nat.min_zero]
    refine (Device.ends_readNewEvent_empty (link.called scratchAddress capacity) scratchAddress
      tracks.wired empty).mono ?_ fun _ _ stopped => stopped
    intro r t ended
    obtain ⟨rfl, progress, -⟩ := ended
    change Device.Progress 0 [] link.device.pendingEvent _ _ at progress
    rw [free] at progress
    exact ⟨progress.scratch.trans size, kept_idle tracks current progress⟩
  · obtain ⟨event, ahead, address, next, queued⟩ := next_event tracks current empty
    obtain ⟨first, busy, addresses⟩ := List.exists_cons_of_ne_nil empty
    have one : min 1 link.hardware.busy.length = 1 := by
      rw [addresses, List.length_cons]
      omega
    have cost : nextCost link.limit link.ledger.ahead link.hardware.busy capacity =
        Device.newCost link.limit event capacity := by
      rw [addresses, next, nextCost]
    have ends : Ends Device.hardwareBeside (Device.readNewEvent queues scratchAddress) _ _ _ _ :=
      Device.ends_readNewEvent (link.called scratchAddress capacity) tracks.wired rfl queued free
    rw [size] at ends
    rw [one, cost]
    refine ends.mono ?_ fun _ _ stopped => stopped
    intro r t ended
    obtain ⟨rfl, progress, filled⟩ := ended
    exact ⟨progress.scratch.trans size, kept_new tracks current next queued progress filled⟩

section Pending
variable {reception : Reception} {rest : List Fragment} {pending : PendingEvent}

/-- The caller's buffer goes on where it was left. -/
theorem filled_called (tracks : Tracks queues link)
    (current : link.ledger.current = some (reception, rest))
    (held : link.device.pendingEvent = some pending)
    (mirrors : Mirrors link.limit reception rest pending)
    (unchanged : Device.pendingBufferChanged pending scratchAddress capacity = false) :
    Device.Filled reception.event pending (link.called scratchAddress capacity).2 := by
  intro wanted
  have kept : reception.refused = false := mirrors.discard.symm.trans wanted
  have fits : ¬ reception.Unfit scratchAddress capacity := by
    intro unfit
    have changed := (pendingBufferChanged_iff _ _ mirrors).mpr ⟨kept, unfit⟩
    exact absurd (unchanged.symm.trans changed) (by decide)
  obtain ⟨same, room⟩ := not_or.mp fits
  have address := not_not.mp same
  have buffered := tracks.buffered
  rw [current, held] at buffered
  have bytes := buffered kept
  have declared := mirrors.declared
  have partly := mirrors.partly
  change _ ≤ (link.host.fetch scratchAddress capacity).length ∧
    (link.host.fetch scratchAddress capacity).take pending.copied = _
  rw [ByteMemory.length_fetch, ByteMemory.take_fetch _ (by omega), ← address]
  exact ⟨by omega, bytes⟩

/-- A drain ends the event when all of its fragments are queued. -/
theorem complete_iff (mirrors : Mirrors link.limit reception rest pending) {copied : Nat}
    (bound : copied ≤ pending.declared)
    (behind : reception.event.fragmentsFrom link.limit copied =
      rest.drop link.hardware.busy.length) :
    copied = pending.declared ↔ rest.length ≤ link.hardware.busy.length := by
  have declared := mirrors.declared
  rw [← List.drop_eq_nil_iff, ← behind]
  constructor
  · intro same
    exact FirmwareEvent.fragmentsFrom_none (by omega)
  · intro nothing
    by_contra partly
    exact reception.event.fragmentsFrom_ne_nil (limit_positive link) (by omega) nothing

theorem spends_continue (tracks : Tracks queues link)
    (current : link.ledger.current = some (reception, rest))
    (held : link.device.pendingEvent = some pending)
    (mirrors : Mirrors link.limit reception rest pending)
    (unchanged : Device.pendingBufferChanged pending scratchAddress capacity = false) :
    Spends Device.hardwareBeside (Device.continuePendingEvent queues scratchAddress pending)
      (link.called scratchAddress capacity) (link.drainCost reception rest)
      (fun read t => ∃ copied, copied ≤ pending.declared ∧
        reception.event.fragmentsFrom link.limit copied = rest.drop link.hardware.busy.length ∧
        Device.Progress (min link.hardware.busy.length rest.length)
          (Device.givenBack pending.resubmit (link.hardware.busy.take rest.length))
          (Device.leftOf pending copied) (link.called scratchAddress capacity) t ∧
        (pending.discard = false → t.2.take copied = reception.event.bytes.take copied) ∧
        read = Device.readOf pending copied)
      (Device.Broke rest.length (link.called scratchAddress capacity)) := by
  have size : (link.called scratchAddress capacity).2.length = capacity := ByteMemory.length_fetch
  have length : (link.called scratchAddress capacity).1.eventFragmentLen.1 = link.limit := rfl
  have queued := tracks.queued
  rw [Ledger.remaining_current current, mirrors.rest] at queued
  have continued := Device.spends_continuePendingEvent (link.called scratchAddress capacity)
    tracks.wired length mirrors.declared mirrors.partly queued
    (filled_called tracks current held mirrors unchanged) (by rw [size]; exact unchanged)
  rw [← mirrors.rest] at continued
  rw [EventLink.drainCost, ← mirrors.discard, ← mirrors.resubmit]
  exact continued

theorem ends_changed (tracks : Tracks queues link)
    (current : link.ledger.current = some (reception, rest))
    (held : link.device.pendingEvent = some pending)
    (mirrors : Mirrors link.limit reception rest pending)
    (changed : Device.pendingBufferChanged pending scratchAddress capacity = true) :
    Ends Device.hardwareBeside (Device.tryReadEvent scratchAddress)
      (link.called scratchAddress capacity) 0
      (fun r t => Kept queues 0 link (link.ended scratchAddress capacity r t)) fun _ => False := by
  have size : (link.called scratchAddress capacity).2.length = capacity := ByteMemory.length_fetch
  apply Device.ends_tryReadEvent_pending tracks.known tracks.operational held
  apply ends_nothing
  rw [Device.readPendingOrNext, post_bind, Device.continuePendingEvent, post_bind, post_get]
  dsimp only
  rw [size, if_pos changed, post_bind, post_modify]
  dsimp only
  rw [post_bind, post_throw]
  exact ⟨rfl, kept_changed tracks current mirrors changed⟩

/-- The drain leaves the event waiting, or completes it. -/
theorem ends_continued (tracks : Tracks queues link)
    (current : link.ledger.current = some (reception, rest))
    (held : link.device.pendingEvent = some pending)
    (mirrors : Mirrors link.limit reception rest pending)
    (unchanged : Device.pendingBufferChanged pending scratchAddress capacity = false)
    (alone : ¬ (reception.refused = true ∧ rest.length ≤ link.hardware.busy.length)) :
    Ends Device.hardwareBeside (Device.tryReadEvent scratchAddress)
      (link.called scratchAddress capacity) (link.drainCost reception rest)
      (fun r t => Kept queues (min link.hardware.busy.length rest.length) link
        (link.ended scratchAddress capacity r t))
      (Device.Broke rest.length (link.called scratchAddress capacity)) := by
  have continued := spends_continue tracks current held mirrors unchanged
  apply Device.ends_tryReadEvent_pending tracks.known tracks.operational held
  refine Spends.then_ends continued ?_
  intro read t _ good
  obtain ⟨copied, bound, behind, progress, filled, rfl⟩ := good
  have complete := complete_iff mirrors bound behind
  apply ends_nothing
  rw [Device.readOf]
  by_cases done : copied = pending.declared
  · have wanted : pending.discard = false := by
      rw [mirrors.discard]
      exact Bool.eq_false_iff.mpr fun refused => alone ⟨refused, complete.mp done⟩
    rw [if_pos done, wanted, if_neg (by decide)]
    dsimp only
    rw [post_bind, post_get]
    dsimp only
    rw [besideBuffer, post_onField]
    refine (Device.post_parseEvent t.2 pending.declared t.1).mono ?_
    intro r u parsed
    obtain ⟨rfl, settings, hardware⟩ := parsed
    have bytes := filled wanted
    rw [done, mirrors.declared, List.take_length] at bytes
    have later : Device.Progress _ _ _ (link.called scratchAddress capacity) (u, t.2) :=
      progress.same settings hardware rfl
    refine ⟨by rw [Device.hardwareBeside, hardware], ?_⟩
    apply kept_continued tracks current mirrors unchanged bound behind later filled
    rw [if_pos ⟨done, wanted⟩, mirrors.declared, bytes, messageOf_parse mirrors.whole]
  · rw [if_neg done]
    refine (post_pure _ _ _).mpr ⟨rfl, ?_⟩
    apply kept_continued tracks current mirrors unchanged bound behind progress filled
    rw [if_neg (fun both => done both.1)]
    rfl

/-- The second part of a call is a call of its own for the account. -/
theorem called_ended (sized : last.2.length = capacity) :
    (link.ended scratchAddress capacity result last).called scratchAddress capacity = last := by
  have same : (link.host.store scratchAddress last.2).fetch scratchAddress capacity = last.2 := by
    rw [← sized, ByteMemory.fetch_store]
  exact Prod.ext rfl same

theorem Broken.after {count : Nat} {spared : Prop} {middle next : EventLink}
    (followed : Followed queues count link middle) (broken : Broken queues spared middle next) :
    Broken queues spared link next := by
  refine ⟨broken.operational, broken.accounts, ?_⟩
  intro kept
  obtain ⟨more, rest⟩ := broken.followed kept
  exact ⟨count + more, followed.trans rest⟩

theorem ends_next {count : Nat} (tracks : Tracks queues link)
    (kept : Kept queues count link (link.ended scratchAddress capacity (.ok none) last))
    (free : (link.ended scratchAddress capacity (.ok none) last).ledger.current = none)
    (ahead : (link.ended scratchAddress capacity (.ok none) last).ledger.ahead =
      link.ledger.ahead) (limit : (link.ended scratchAddress capacity (.ok none) last).limit =
        link.limit) (sized : last.2.length = capacity) :
    Ends Device.hardwareBeside (Device.readNewEvent queues scratchAddress) last
      (nextCost link.limit link.ledger.ahead (link.hardware.busy.drop count) capacity)
      (fun r t => Kept queues (count + min 1 (link.hardware.busy.length - count)) link
        (link.ended scratchAddress capacity r t))
      (fun t => Broken queues (Harmless link.limit link.ledger.ahead last.1.hardware) link
        (link.ended scratchAddress capacity (.error busFailure) t)) := by
  have removes := kept.removes
  change Removes count link.hardware last.1.hardware at removes
  have next : Ends Device.hardwareBeside (Device.readNewEvent queues scratchAddress) _
      (nextCost _ _ last.1.hardware.busy capacity) _ _ := ends_readNew kept.tracks free
  rw [called_ended sized, limit, ahead, removes.busy] at next
  have together {r : Except (DeviceError Unit) (Option HostMessage)}
      {t : Device EventHardware × Bytes} {more : Nat}
      (later : Removes more last.1.hardware t.1.hardware)
      (inside : more ≤ last.1.hardware.busy.length) (length : t.2.length = capacity) :
      (link.ended scratchAddress capacity (.ok none) last).ended scratchAddress capacity r t =
        link.ended scratchAddress capacity r t :=
    ended_ended removes kept.inside later inside free (length.trans sized.symm)
  refine next.mono ?_ ?_
  · intro r t ended
    obtain ⟨length, later⟩ := ended
    have both := kept.trans tracks later
    rw [together later.removes later.inside length] at both
    have left : (link.ended scratchAddress capacity (.ok none) last).hardware.busy.length =
        link.hardware.busy.length - count := by
      rw [kept.removes.busy, List.length_drop]
    rw [left] at both
    exact both
  · intro t _ broke
    have length : t.2.length = capacity := broke.sized.trans sized
    obtain ⟨more, went, -, inside, -⟩ := broke.off
    have broken : Broken queues _ _
        (EventLink.ended _ scratchAddress capacity (.error busFailure) t) :=
      broken_new kept.tracks free rfl (by rw [called_ended sized]; exact broke)
    rw [together went.2 inside length, limit, ahead] at broken
    exact broken.after kept.followed

/-- Behind the drain of a refused event, the call looks for the next one. -/
theorem ends_discarded (tracks : Tracks queues link)
    (current : link.ledger.current = some (reception, rest))
    (held : link.device.pendingEvent = some pending)
    (mirrors : Mirrors link.limit reception rest pending)
    (refused : reception.refused = true) (all : rest.length ≤ link.hardware.busy.length) :
    Ends Device.hardwareBeside (Device.tryReadEvent scratchAddress)
      (link.called scratchAddress capacity)
      (link.drainCost reception rest + nextCost link.limit link.ledger.ahead
        (link.hardware.busy.drop rest.length) capacity)
      (fun r t => Kept queues (min link.hardware.busy.length rest.length +
        min 1 (link.hardware.busy.length - rest.length)) link
          (link.ended scratchAddress capacity r t))
      (fun t => Broken queues link.Spared link
        (link.ended scratchAddress capacity (.error busFailure) t)) := by
  have size : (link.called scratchAddress capacity).2.length = capacity := ByteMemory.length_fetch
  have discard : pending.discard = true := mirrors.discard.trans refused
  have unchanged : Device.pendingBufferChanged pending scratchAddress capacity = false := by
    rw [Device.pendingBufferChanged, discard]
    rfl
  have continued := (spends_continue tracks current held mirrors unchanged).used
  apply Device.ends_tryReadEvent_pending tracks.known tracks.operational held
  refine Spends.bind_ends (continued.mono (fun _ _ same => same) ?_) ?_
  · intro t failed broke
    change link.hardware.clear (link.drainCost reception rest) = false at failed
    rw [EventLink.Spared, current]
    dsimp only
    rw [if_neg (Bool.eq_false_iff.mp failed)]
    exact broken_continued tracks current held mirrors unchanged rfl broke
  · intro read t clear good
    obtain ⟨used, copied, bound, behind, progress, filled, rfl⟩ := good
    change link.hardware.clear (link.drainCost reception rest) = true at clear
    have done := (complete_iff mirrors bound behind).mpr all
    have counted : min link.hardware.busy.length rest.length = rest.length := Nat.min_eq_right all
    have told : EventLink.messageOf (.ok none) =
        if copied = pending.declared ∧ pending.discard = false
        then reception.event.message.toList else [] := by
      rw [if_neg (by rw [discard]; simp)]
      rfl
    have kept := kept_continued tracks current mirrors unchanged bound behind progress filled told
    rw [Device.readOf, if_pos done, discard, if_pos rfl]
    rw [counted] at progress kept ⊢
    have account : (link.ended scratchAddress capacity (.ok none) t).ledger =
        ({ link.ledger with
            current := some (reception.offered scratchAddress capacity, rest) } :
              Ledger).settle (reception.offered scratchAddress capacity) [] := by
      rw [ledger_ended _ _ _ progress.removes all, Ledger.offer_current current,
        Ledger.removeFragments_current (Nat.le_refl _) rfl mirrors.rest_ne_nil, List.drop_length]
    have next := ends_next tracks kept (by rw [account, Ledger.current_settle, if_pos rfl])
      (by rw [account, Ledger.ahead_settle]) (limit_ended progress.configuration)
      (progress.scratch.trans size)
    refine next.mono (fun _ _ same => same) ?_
    intro u _ broken
    rw [EventLink.Spared, current]
    dsimp only
    rw [if_pos clear]
    have same : Harmless link.limit link.ledger.ahead t.1.hardware =
        Harmless link.limit link.ledger.ahead (link.behind reception rest) :=
      harmless_congr progress.removes.busy used
    rw [← same]
    exact broken

end Pending

/-- Clear transfers keep the account; a fault leaves it right exactly where the call is
spared. -/
theorem ends_call (tracks : Tracks queues link) (scratchAddress capacity : Nat) :
    Ends Device.hardwareBeside (Device.tryReadEvent scratchAddress)
      (link.called scratchAddress capacity) (link.callCost scratchAddress capacity)
      (fun r t => Kept queues (link.callCount scratchAddress capacity) link
        (link.ended scratchAddress capacity r t))
      (fun t => Broken queues link.Spared link
        (link.ended scratchAddress capacity (.error busFailure) t)) := by
  have accounts := tracks.accounts
  cases current : link.ledger.current with
  | none =>
      rw [EventLink.callCost, EventLink.callCount, EventLink.Spared, current]
      apply Device.ends_tryReadEvent_new tracks.known tracks.operational (no_pending tracks current)
      refine (ends_readNew tracks current).mono (fun _ _ ended => ended.2) ?_
      intro t _ broke
      exact broken_new tracks current rfl broke
  | some entry =>
      obtain ⟨reception, rest⟩ := entry
      rw [current] at accounts
      obtain ⟨pending, held, mirrors⟩ := accounts
      have changed_iff := pendingBufferChanged_iff scratchAddress capacity mirrors
      rw [EventLink.callCost, EventLink.callCount, current]
      dsimp only
      by_cases unfit : reception.refused = false ∧ reception.Unfit scratchAddress capacity
      · rw [if_pos unfit, if_pos unfit]
        exact (ends_changed tracks current held mirrors (changed_iff.mpr unfit)).mono
          (fun _ _ kept => kept) fun _ _ absurd => absurd.elim
      · have unchanged := Bool.eq_false_iff.mpr fun changed => unfit (changed_iff.mp changed)
        rw [if_neg unfit, if_neg unfit]
        by_cases onward : reception.refused = true ∧ rest.length ≤ link.hardware.busy.length
        · rw [if_pos onward, if_pos onward]
          exact ends_discarded tracks current held mirrors onward.1 onward.2
        · rw [if_neg onward, if_neg onward]
          refine (ends_continued tracks current held mirrors unchanged onward).mono
            (fun _ _ kept => kept) ?_
          intro t failed broke
          change link.hardware.clear (link.drainCost reception rest) = false at failed
          rw [EventLink.Spared, current]
          dsimp only
          rw [if_neg (Bool.eq_false_iff.mp failed)]
          exact broken_continued tracks current held mirrors unchanged rfl broke

theorem tryReadEvent_clear (tracks : Tracks queues link)
    (clear : link.hardware.clear (link.callCost scratchAddress capacity) = true) :
    Kept queues (link.callCount scratchAddress capacity) link
        (link.tryReadEvent scratchAddress capacity) ∧
      (link.tryReadEvent scratchAddress capacity).hardware.faults =
        link.hardware.faults.drop (link.callCost scratchAddress capacity) := by
  have ended := Post.ends (ends_call tracks scratchAddress capacity)
  rw [if_pos (show (Device.hardwareBeside (link.called scratchAddress capacity)).clear _ = true
    from clear)] at ended
  exact ⟨ended.2, ended.1⟩

theorem tryReadEvent_failed (tracks : Tracks queues link)
    (failed : link.hardware.clear (link.callCost scratchAddress capacity) = false) :
    resultOf (Device.tryReadEvent scratchAddress) (link.called scratchAddress capacity) =
        .error busFailure ∧
      Broken queues link.Spared link (link.tryReadEvent scratchAddress capacity) := by
  have ended := Post.ends (ends_call tracks scratchAddress capacity)
  rw [if_neg (show ¬ (Device.hardwareBeside (link.called scratchAddress capacity)).clear _ = true
    from Bool.eq_false_iff.mp failed)] at ended
  refine ⟨ended.1, ?_⟩
  rw [EventLink.tryReadEvent, ended.1]
  exact ended.2

end Call

end Nrf7002
