import Nrf7002.Device.Link

/-! # Reassembly of events

What one call of `Device.tryReadEvent` does to the queue, the pending event and the
caller's buffer, fragment by fragment. -/

set_option autoImplicit false

namespace Nrf7002
open Foundation

/-! ## Fragments of an event -/

namespace FirmwareEvent
variable {event : FirmwareEvent} {limit copied : Nat}

/-- The next fragment, and those behind it. -/
theorem fragmentsFrom_some (event : FirmwareEvent) (positive : 0 < limit)
    (some : copied < event.bytes.length) :
    event.fragmentsFrom limit copied =
      { bytes := slice event.bytes copied (copied + min limit (event.bytes.length - copied))
        resubmit := event.resubmit } ::
        event.fragmentsFrom limit (copied + min limit (event.bytes.length - copied)) := by
  have left : event.bytes.drop copied ≠ [] := by
    rw [ne_eq, List.drop_eq_nil_iff]
    omega
  have part : slice event.bytes copied (copied + min limit (event.bytes.length - copied)) =
      (event.bytes.drop copied).take limit := by
    rw [slice, Nat.add_sub_cancel_left, ← List.length_drop, List.take_eq_take_iff]
    omega
  have rest : event.bytes.drop (copied + min limit (event.bytes.length - copied)) =
      (event.bytes.drop copied).drop limit := by
    rcases Nat.le_total limit (event.bytes.length - copied) with shorter | covered
    · rw [Nat.min_eq_left shorter, List.drop_drop]
    · rw [Nat.min_eq_right covered, List.drop_drop, List.drop_of_length_le (by omega),
        List.drop_of_length_le (by omega)]
  rw [fragmentsFrom, chunks_cons positive left, List.map_cons, fragmentsFrom, part, rest]

theorem fragmentsFrom_none (ended : event.bytes.length ≤ copied) :
    event.fragmentsFrom limit copied = [] := by
  rw [fragmentsFrom, List.drop_of_length_le ended]
  rfl

theorem fragmentsFrom_ne_nil (positive : 0 < limit) (some : copied < event.bytes.length) :
    event.fragmentsFrom limit copied ≠ [] := by
  rw [event.fragmentsFrom_some positive some]
  exact List.cons_ne_nil _ _

end FirmwareEvent

namespace Device
variable {queues : HpqmInfo}

/-- The hardware of a device beside a buffer. -/
abbrev hardwareBeside (s : Device EventHardware × Bytes) : EventHardware := s.1.hardware

theorem eventFragmentLen_of_settings {device next : Device EventHardware}
    (same : next.settings = device.settings) : next.eventFragmentLen = device.eventFragmentLen :=
  congrArg (fun view : Configuration × Option PendingEvent × Bool => view.1.eventFragmentLen) same

theorem went_none (device : Device EventHardware) : Went 0 device device :=
  ⟨rfl, removes_none ⟨rfl, rfl⟩ rfl rfl rfl⟩

/-! ## One fragment of a pending event -/

/-- The transfers behind a dequeue. -/
def consumeCost (discard resubmit : Bool) (count : Nat) : Nat :=
  (if discard then 0 else transfersOf count) + releaseCost resubmit

/-- What is given back of a fragment. -/
def givenBack (resubmit : Bool) (addresses : List UInt32) : List UInt32 :=
  if resubmit then addresses else []

theorem available_released (hardware : EventHardware) (address : UInt32) (resubmit : Bool) :
    (released hardware address resubmit).available =
      hardware.available ++ givenBack resubmit [address] := by
  cases resubmit with
  | false => exact (List.append_nil _).symm
  | true => rfl

theorem spends_release {device : Device EventHardware} (wired : Wired queues device.hardware)
    (address : UInt32) (resubmit : Bool) :
    Spends Device.hardware (releaseEventFragment queues address resubmit) device
      (releaseCost resubmit)
      (fun _ t => Went 0 device t ∧ t.hardware.available =
        device.hardware.available ++ givenBack resubmit [address])
      (Went 0 device) := by
  refine (spends_releaseEventFragment wired address resubmit).mono ?_ fun _ _ same => same
  intro _ t became
  obtain ⟨settings, same⟩ := became
  refine ⟨⟨settings, ?_⟩, ?_⟩
  · rw [same]
    exact (removes_released _ _ _).trans (removes_after _ _)
  · rw [same, ← available_released]
    rfl

theorem spends_consumePendingFragment (s : Device EventHardware × Bytes) {pending : PendingEvent}
    {address : UInt32} {bytes : Bytes} (wired : Wired queues s.1.hardware)
    (holds : Holds s.1.hardware address bytes) (some : 0 < bytes.length)
    (size : min s.1.eventFragmentLen.1 (pending.declared - pending.copied) = bytes.length)
    (room : pending.discard = false → pending.copied + bytes.length ≤ s.2.length) :
    Spends hardwareBeside (consumePendingFragment queues pending address) s
      (consumeCost pending.discard pending.resubmit bytes.length)
      (fun next t => next = { pending with copied := pending.copied + bytes.length } ∧
        Went 0 s.1 t.1 ∧ t.1.hardware.available =
          s.1.hardware.available ++ givenBack pending.resubmit [address] ∧
        t.2 = if pending.discard then s.2 else splice s.2 pending.copied bytes)
      (fun t => Went 0 s.1 t.1 ∧ t.2.length = s.2.length) := by
  have few : bytes.length ≤ maxBusChunk := by
    have bound : s.1.eventFragmentLen.1 ≤ 1000 := s.1.eventFragmentLen.2.2
    have chunk : maxBusChunk = 4096 := rfl
    omega
  apply ends_get_bind
  dsimp only
  rw [size]
  -- a discarded fragment is released unread
  have release (t : Device EventHardware × Bytes) (went : Went 0 s.1 t.1)
      (same : t.1.hardware.available = s.1.hardware.available)
      (filled : t.2 = if pending.discard then s.2 else splice s.2 pending.copied bytes)
      (sized : t.2.length = s.2.length) :
      Spends hardwareBeside (do
        besideBuffer (releaseEventFragment queues address pending.resubmit)
        return { pending with copied := pending.copied + bytes.length }) t
        (releaseCost pending.resubmit)
        (fun next u => next = { pending with copied := pending.copied + bytes.length } ∧
          Went 0 s.1 u.1 ∧ u.1.hardware.available =
            s.1.hardware.available ++ givenBack pending.resubmit [address] ∧
          u.2 = if pending.discard then s.2 else splice s.2 pending.copied bytes)
        (fun u => Went 0 s.1 u.1 ∧ u.2.length = s.2.length) := by
    refine Spends.then ((spends_release (went.2.wired wired) address
      pending.resubmit).beside.mono (fun _ _ same => same) ?_) ?_
    · intro u _ stopped
      exact ⟨went.trans stopped.1, (congrArg List.length stopped.2).trans sized⟩
    · intro _ u _ good
      obtain ⟨⟨later, given⟩, kept⟩ := good
      apply spends_pure
      refine ⟨rfl, went.trans later, ?_, kept.trans filled⟩
      rw [given, same]
  by_cases discard : pending.discard = true
  · rw [if_neg (not_not.mpr discard), consumeCost, if_pos discard, Nat.zero_add]
    exact release s (went_none _) rfl (if_pos discard).symm rfl
  · rw [if_pos discard, consumeCost, if_neg discard]
    have fits := room (Bool.eq_false_iff.mpr discard)
    have width : pending.copied + bytes.length - pending.copied = bytes.length := by omega
    have fetched := spends_readFragment s pending.copied (pending.copied + bytes.length) holds
      (by omega) fits (by omega) (by omega)
    rw [width, List.take_length] at fetched
    refine Spends.bind fetched ?_
    intro _ t _ good
    obtain ⟨became, filled⟩ := good
    refine release t (went_after became) ?_ (filled.trans (if_neg discard).symm) ?_
    · rw [became.2]
      rfl
    · rw [filled, length_splice fits]

/-! ## Draining the queue -/

/-- A dequeue that failed and left the address in the queue. -/
def blocked (hardware : EventHardware) : Bool := !hardware.clear 2 && !hardware.loses

/-- The transfers of a drain. -/
def drainCost (discard resubmit : Bool) : List Fragment → List UInt32 → Nat
  | [], _ => 0
  | _ :: _, [] => 1
  | fragment :: rest, _ :: busy =>
      2 + consumeCost discard resubmit fragment.bytes.length + drainCost discard resubmit rest busy

/-- The queued addresses hold the first of the fragments to come. -/
def Queued (hardware : EventHardware) (remaining : List Fragment) : Prop :=
  ∃ queued later, remaining = queued ++ later ∧
    List.Forall₂ (fun address fragment => Holds hardware address fragment.bytes)
      hardware.busy queued

theorem Queued.nil_or_cons {hardware : EventHardware} {fragment : Fragment}
    {rest : List Fragment} (queued : Queued hardware (fragment :: rest)) :
    hardware.busy = [] ∨ ∃ address busy, hardware.busy = address :: busy ∧
      Holds hardware address fragment.bytes := by
  obtain ⟨now, later, split, held⟩ := queued
  cases busy : hardware.busy with
  | nil => exact .inl rfl
  | cons address addresses =>
      rw [busy] at held
      cases held with
      | cons first _ =>
          rw [List.cons_append, List.cons.injEq] at split
          obtain ⟨rfl, -⟩ := split
          exact .inr ⟨_, _, rfl, first⟩

/-- Removing a fragment uncovers the next one. -/
theorem Queued.removed {hardware next : EventHardware} {fragment : Fragment}
    {rest : List Fragment} (queued : Queued hardware (fragment :: rest))
    (some : hardware.busy ≠ []) (removes : Removes 1 hardware next) : Queued next rest := by
  obtain ⟨now, later, split, held⟩ := queued
  have addresses := removes.busy
  cases busy : hardware.busy with
  | nil => exact absurd busy some
  | cons address others =>
      rw [busy] at held addresses
      cases held with
      | cons _ behind =>
          rw [List.cons_append, List.cons.injEq] at split
          obtain ⟨-, rfl⟩ := split
          refine ⟨_, later, rfl, ?_⟩
          rw [addresses]
          exact behind.imp fun _ _ holds => removes.holds holds

theorem Queued.same {hardware next : EventHardware} {remaining : List Fragment}
    (queued : Queued hardware remaining) (removes : Removes 0 hardware next) :
    Queued next remaining := by
  obtain ⟨now, later, split, held⟩ := queued
  refine ⟨now, later, split, ?_⟩
  rw [removes.busy]
  exact held.imp fun _ _ holds => removes.holds holds

/-- A drain that broke off: it removed no more than its own fragments, and nothing only if
its first dequeue failed without effect. -/
def BrokeOff (most : Nat) (device next : Device EventHardware) : Prop :=
  ∃ count, Went count device next ∧ count ≤ most ∧ count ≤ device.hardware.busy.length ∧
    (count = 0 ↔ device.hardware.busy = [] ∨ blocked device.hardware = true)

/-- A call that broke off: it left the buffer alone where it removed nothing. -/
structure Broke (most : Nat) (first last : Device EventHardware × Bytes) : Prop where
  off : BrokeOff most first.1 last.1
  sized : last.2.length = first.2.length
  same : first.1.hardware.busy = [] ∨ blocked first.1.hardware = true → last.2 = first.2

/-- What a drain does when it has copied so many bytes at its end. -/
structure Drained (limit : Nat) (event : FirmwareEvent) (pending : PendingEvent) (copied : Nat)
    (first last : Device EventHardware × Bytes) : Prop where
  bound : copied ≤ pending.declared
  rest : event.fragmentsFrom limit copied =
    (event.fragmentsFrom limit pending.copied).drop first.1.hardware.busy.length
  went : Went (min first.1.hardware.busy.length
    (event.fragmentsFrom limit pending.copied).length) first.1 last.1
  available : last.1.hardware.available = first.1.hardware.available ++
    givenBack pending.resubmit (first.1.hardware.busy.take
      (event.fragmentsFrom limit pending.copied).length)
  scratch : last.2.length = first.2.length
  filled : pending.discard = false → last.2.take copied = event.bytes.take copied

/-- The buffer holds the bytes of the event that were copied. -/
def Filled (event : FirmwareEvent) (pending : PendingEvent) (scratch : Bytes) : Prop :=
  pending.discard = false → event.bytes.length ≤ scratch.length ∧
    scratch.take pending.copied = event.bytes.take pending.copied

variable {limit : Nat} {event : FirmwareEvent} {others : List Fragment}

theorem Drained.nothing {pending : PendingEvent} {s t : Device EventHardware × Bytes}
    (bound : pending.copied ≤ pending.declared)
    (idle : s.1.hardware.busy = [] ∨ event.fragmentsFrom limit pending.copied = [])
    (went : Went 0 s.1 t.1) (available : t.1.hardware.available = s.1.hardware.available)
    (same : t.2 = s.2) (filled : Filled event pending s.2) :
    Drained limit event pending pending.copied s t := by
  have none :
      min s.1.hardware.busy.length (event.fragmentsFrom limit pending.copied).length = 0 := by
    rcases idle with empty | complete
    · rw [empty, List.length_nil, Nat.zero_min]
    · rw [complete, List.length_nil, Nat.min_zero]
  have taken : s.1.hardware.busy.take (event.fragmentsFrom limit pending.copied).length = [] := by
    rcases idle with empty | complete
    · rw [empty, List.take_nil]
    · rw [complete, List.length_nil, List.take_zero]
  refine ⟨bound, ?_, by rw [none]; exact went, ?_, by rw [same], ?_⟩
  · rcases idle with empty | complete
    · rw [empty, List.length_nil, List.drop_zero]
    · rw [complete, List.drop_nil]
  · rw [taken, available, givenBack, ite_self, List.append_nil]
  · intro kept
    rw [same]
    exact (filled kept).2

/-- The next fragment goes before what is drained behind it. -/
theorem Drained.step {pending : PendingEvent} {fragment : Fragment} {rest : List Fragment}
    {copied : Nat} {s t u : Device EventHardware × Bytes} {address : UInt32} {busy : List UInt32}
    (addresses : s.1.hardware.busy = address :: busy)
    (fragments : event.fragmentsFrom limit pending.copied = fragment :: rest)
    (behind : event.fragmentsFrom limit (pending.copied + fragment.bytes.length) = rest)
    (went : Went 1 s.1 t.1)
    (available : t.1.hardware.available = s.1.hardware.available ++
      givenBack pending.resubmit [address]) (scratch : t.2.length = s.2.length)
    (later : Drained limit event
      { pending with copied := pending.copied + fragment.bytes.length } copied t u) :
    Drained limit event pending copied s u := by
  have left : t.1.hardware.busy = busy := by
    rw [went.2.busy, addresses]
    rfl
  have restFragments := later.rest
  have laterWent := later.went
  have laterAvailable := later.available
  dsimp only at restFragments laterWent laterAvailable
  rw [behind, left] at restFragments laterWent laterAvailable
  refine ⟨later.bound, ?_, ?_, ?_, later.scratch.trans scratch, later.filled⟩
  · rw [restFragments, fragments, addresses]
    rfl
  · rw [fragments, addresses, List.length_cons, List.length_cons, Nat.add_min_add_right,
      Nat.add_comm]
    exact went.trans laterWent
  · rw [laterAvailable, available, fragments, addresses, List.length_cons, List.take_succ_cons,
      List.append_assoc]
    cases pending.resubmit <;> rfl

theorem brokeOff_dequeue {most : Nat} {device next : Device EventHardware} {address : UInt32}
    {busy : List UInt32} (addresses : device.hardware.busy = address :: busy) (one : 1 ≤ most)
    (failed : device.hardware.clear 2 = false)
    (went : Went (if device.hardware.loses then 1 else 0) device next) :
    BrokeOff most device next := by
  refine ⟨_, went, ?_, ?_, ?_⟩
  · split <;> omega
  · rw [addresses, List.length_cons]
    split <;> omega
  · have some : device.hardware.busy ≠ [] := by
      rw [addresses]
      exact List.cons_ne_nil _ _
    rw [blocked, failed]
    cases device.hardware.loses <;> simp [some]

/-- Behind its first dequeue, a drain has removed something. -/
theorem brokeOff_behind {most : Nat} {device next : Device EventHardware}
    (some : device.hardware.busy ≠ []) (clear : device.hardware.clear 2 = true) {count : Nat}
    (went : Went count device next) (positive : 0 < count) (few : count ≤ most)
    (inside : count ≤ device.hardware.busy.length) : BrokeOff most device next := by
  refine ⟨count, went, few, inside, iff_of_false (by omega) ?_⟩
  rw [blocked, clear]
  simp [some]

theorem brokeOff_later {most : Nat} {device middle next : Device EventHardware} {address : UInt32}
    {busy : List UInt32} (addresses : device.hardware.busy = address :: busy)
    (clear : device.hardware.clear 2 = true) (went : Went 1 device middle) {count : Nat}
    (later : Went count middle next) (few : count + 1 ≤ most)
    (inside : count ≤ middle.hardware.busy.length) : BrokeOff most device next := by
  have some : device.hardware.busy ≠ [] := by
    rw [addresses]
    exact List.cons_ne_nil _ _
  apply brokeOff_behind some clear (went.trans later) (by omega) (by omega)
  rw [went.2.busy, addresses, List.drop_succ_cons, List.drop_zero] at inside
  rw [addresses, List.length_cons]
  omega

/-- A call that broke off and left the buffer alone. -/
theorem broke_beside {most : Nat} {first last : Device EventHardware × Bytes}
    (off : BrokeOff most first.1 last.1) (same : last.2 = first.2) : Broke most first last :=
  ⟨off, congrArg List.length same, fun _ => same⟩

theorem broke_behind {most : Nat} {first last : Device EventHardware × Bytes}
    (some : first.1.hardware.busy ≠ []) (clear : first.1.hardware.clear 2 = true)
    (sized : last.2.length = first.2.length) (off : BrokeOff most first.1 last.1) :
    Broke most first last := by
  refine ⟨off, sized, ?_⟩
  rintro (empty | stopped)
  · exact absurd empty some
  · rw [blocked, clear] at stopped
    cases stopped

/-- Nothing is left of the event. -/
theorem spends_drain_complete (rounds : Nat) {pending : PendingEvent} (removed : Bool)
    (s : Device EventHardware × Bytes) (declared : pending.declared = event.bytes.length)
    (ended : pending.copied = pending.declared) (filled : Filled event pending s.2) :
    Spends hardwareBeside (drainPendingFragments queues rounds pending removed) s
      (drainCost pending.discard pending.resubmit (event.fragmentsFrom limit pending.copied)
        s.1.hardware.busy)
      (fun result t => ∃ copied, Drained limit event pending copied s t ∧
        result = ({ pending with copied },
          removed || decide (pending.copied < pending.declared ∧ s.1.hardware.busy ≠ []),
          decide (copied = pending.declared)))
      (Broke (event.fragmentsFrom limit pending.copied).length s) := by
  have none : event.fragmentsFrom limit pending.copied = [] :=
    FirmwareEvent.fragmentsFrom_none (by omega)
  have partly : ¬ pending.copied < pending.declared := by omega
  have stops : drainPendingFragments queues rounds pending removed =
      (pure (pending, removed, true) :
        Program (Device EventHardware × Bytes) (DeviceError Unit) _) := by
    cases rounds with
    | zero => rfl
    | succ rounds =>
        rw [drainPendingFragments]
        exact if_neg partly
  rw [stops, none, drainCost]
  apply spends_pure
  refine ⟨pending.copied, Drained.nothing (Nat.le_of_eq ended) (.inr none) (went_none _) rfl rfl
    filled, ?_⟩
  have idle : decide (pending.copied < pending.declared ∧ s.1.hardware.busy ≠ []) = false :=
    decide_eq_false fun both => partly both.1
  rw [idle, Bool.or_false, decide_eq_true ended]

theorem spends_drainPendingFragments (rounds : Nat) (pending : PendingEvent) (removed : Bool)
    (s : Device EventHardware × Bytes) (wired : Wired queues s.1.hardware)
    (length : s.1.eventFragmentLen.1 = limit) (declared : pending.declared = event.bytes.length)
    (bound : pending.copied ≤ pending.declared)
    (enough : pending.declared - pending.copied ≤ rounds)
    (queued : Queued s.1.hardware (event.fragmentsFrom limit pending.copied ++ others))
    (filled : Filled event pending s.2) :
    Spends hardwareBeside (drainPendingFragments queues rounds pending removed) s
      (drainCost pending.discard pending.resubmit (event.fragmentsFrom limit pending.copied)
        s.1.hardware.busy)
      (fun result t => ∃ copied, Drained limit event pending copied s t ∧
        result = ({ pending with copied },
          removed || decide (pending.copied < pending.declared ∧ s.1.hardware.busy ≠ []),
          decide (copied = pending.declared)))
      (Broke (event.fragmentsFrom limit pending.copied).length s) := by
  have positive : 0 < limit := by
    rw [← length]
    exact Nat.lt_of_lt_of_le (by decide) s.1.eventFragmentLen.2.1
  induction rounds generalizing pending removed s with
  | zero => exact spends_drain_complete 0 removed s declared (by omega) filled
  | succ rounds hypothesis =>
      by_cases partly : pending.copied < pending.declared
      · have more : pending.copied < event.bytes.length := by omega
        obtain ⟨count, counted⟩ : ∃ count,
            count = min limit (event.bytes.length - pending.copied) := ⟨_, rfl⟩
        have fragments := event.fragmentsFrom_some positive more
        rw [← counted] at fragments
        have size : (slice event.bytes pending.copied (pending.copied + count)).length = count := by
          rw [length_slice_of_le (by omega)]
          omega
        rw [fragments, List.cons_append] at queued
        rw [drainPendingFragments]
        simp only [if_pos partly]
        rcases queued.nil_or_cons with empty | ⟨address, busy, addresses, holds⟩
        · rw [fragments, empty, drainCost]
          refine Spends.then ((spends_dequeue_empty wired
            empty).beside.mono (fun _ _ same => same) ?_) ?_
          · intro t _ stopped
            exact broke_beside ⟨0, went_after stopped.1, Nat.zero_le _, Nat.zero_le _,
              iff_of_true rfl (.inl empty)⟩ stopped.2
          · intro taken t _ good
            obtain ⟨⟨rfl, became⟩, same⟩ := good
            apply spends_pure
            refine ⟨pending.copied, Drained.nothing bound (.inl empty) (went_after became)
              (by rw [became.2]; rfl) same filled, ?_⟩
            rw [decide_eq_false (by simp), decide_eq_false (by omega), Bool.or_false]
        · have some : s.1.hardware.busy ≠ [] := by
            rw [addresses]
            exact List.cons_ne_nil _ _
          rw [fragments, addresses, drainCost, Nat.add_assoc]
          refine Spends.bind ((spends_dequeue_some wired addresses holds.known).beside.mono
            (fun _ _ same => same) fun t failed stopped =>
              broke_beside (brokeOff_dequeue addresses (by simp) failed stopped.1)
                stopped.2) ?_
          intro taken t clear good
          obtain ⟨⟨rfl, became⟩, same⟩ := good
          have went : Went 1 s.1 t.1 := by
            refine ⟨became.1, ?_⟩
            rw [became.2]
            exact (removes_remove _).trans (removes_after _ _)
          have same' : t.1.hardware.available = s.1.hardware.available := by
            rw [became.2]
            rfl
          have width : min t.1.eventFragmentLen.1 (pending.declared - pending.copied) =
              (slice event.bytes pending.copied (pending.copied + count)).length := by
            rw [eventFragmentLen_of_settings went.1, length, declared, size, counted]
          refine Spends.bind ((spends_consumePendingFragment t (went.2.wired wired)
            (went.2.holds holds) (by rw [size]; omega) width ?_).mono (fun _ _ same => same) ?_) ?_
          · intro kept
            rw [size, same]
            have room := (filled kept).1
            omega
          · intro u _ stopped
            exact broke_behind some clear (stopped.2.trans (congrArg List.length same))
              (brokeOff_later addresses clear went stopped.1 (by simp) (Nat.zero_le _))
          · intro next u _ good
            obtain ⟨rfl, onward, given, buffer⟩ := good
            have both := went.trans onward
            have behind : u.1.hardware.busy = busy := by
              rw [both.2.busy, addresses]
              rfl
            have scratch : u.2.length = s.2.length := by
              rw [buffer]
              by_cases discard : pending.discard = true
              · rw [if_pos discard, same]
              · have room := (filled (Bool.eq_false_iff.mpr discard)).1
                rw [if_neg discard, length_splice (by rw [size, same]; omega), same]
            have later := hypothesis
              { pending with
                copied := pending.copied +
                  (slice event.bytes pending.copied (pending.copied + count)).length }
              true u (both.2.wired wired)
              (by rw [eventFragmentLen_of_settings both.1, length]) declared
              (by dsimp only; omega) (by dsimp only; omega)
              (by
                dsimp only
                rw [size]
                exact (queued.removed some went.2).same onward.2)
              (by
                intro kept
                have old := filled kept
                have inside : pending.copied +
                    (slice event.bytes pending.copied (pending.copied + count)).length ≤
                      t.2.length := by
                  rw [size, same]
                  omega
                have copiedAll := take_splice inside
                rw [buffer, if_neg (by rw [kept]; decide)]
                dsimp only at kept ⊢
                refine ⟨?_, ?_⟩
                · rw [length_splice (by rw [size, same]; omega), same]
                  exact old.1
                · rw [copiedAll, same, old.2, size, List.take_add, slice,
                    Nat.add_sub_cancel_left])
            dsimp only at later
            rw [size, behind] at later
            dsimp only
            rw [size]
            refine later.mono ?_ ?_
            · intro result v drained
              obtain ⟨copied, drained, rfl⟩ := drained
              refine ⟨copied, Drained.step addresses fragments ?_ both ?_ ?_ ?_, ?_⟩
              · rw [size]
              · rw [given, same']
              · exact scratch
              · rw [size]
                exact drained
              · have taken : decide (pending.copied < pending.declared ∧ address :: busy ≠ []) =
                    true := decide_eq_true ⟨partly, List.cons_ne_nil _ _⟩
                rw [Bool.true_or, taken, Bool.or_true]
            · intro v _ stopped
              obtain ⟨number, onwards, few, inside, -⟩ := stopped.off
              exact broke_behind some clear (stopped.sized.trans scratch)
                (brokeOff_later addresses clear both onwards (Nat.succ_le_succ few) inside)
      · exact spends_drain_complete (rounds + 1) removed s declared (by omega) filled

/-! ## Continuing a pending event -/

/-- What a call leaves: so many fragments removed, these addresses given back, and this
event pending. -/
structure Progress (count : Nat) (given : List UInt32) (pending : Option PendingEvent)
    (first last : Device EventHardware × Bytes) : Prop where
  configuration : last.1.configuration = first.1.configuration
  operational : last.1.recoveryRequired = first.1.recoveryRequired
  removes : Removes count first.1.hardware last.1.hardware
  available : last.1.hardware.available = first.1.hardware.available ++ given
  scratch : last.2.length = first.2.length
  pending : last.1.pendingEvent = pending

/-- What only adds to the journal is no progress. -/
theorem Progress.same {count : Nat} {given : List UInt32} {pending : Option PendingEvent}
    {first middle last : Device EventHardware × Bytes}
    (progress : Progress count given pending first middle)
    (settings : last.1.settings = middle.1.settings)
    (hardware : last.1.hardware = middle.1.hardware) (scratch : last.2 = middle.2) :
    Progress count given pending first last := by
  have went : Went 0 middle.1 last.1 := by
    refine ⟨settings, ?_⟩
    rw [hardware]
    exact removes_none ⟨rfl, rfl⟩ rfl rfl rfl
  refine ⟨?_, ?_, ?_, by rw [hardware, progress.available], by rw [scratch, progress.scratch], ?_⟩
  · exact (congrArg Prod.fst settings).trans progress.configuration
  · exact (congrArg (fun view : Configuration × Option PendingEvent × Bool => view.2.2)
      settings).trans progress.operational
  · exact progress.removes.trans went.2
  · exact (congrArg (fun view : Configuration × Option PendingEvent × Bool => view.2.1)
      settings).trans progress.pending

theorem Went.configuration {count : Nat} {device next : Device EventHardware}
    (went : Went count device next) : next.configuration = device.configuration :=
  congrArg Prod.fst went.1

theorem Went.operational {count : Nat} {device next : Device EventHardware}
    (went : Went count device next) : next.recoveryRequired = device.recoveryRequired :=
  congrArg (fun view : Configuration × Option PendingEvent × Bool => view.2.2) went.1

theorem Went.pendingEvent {count : Nat} {device next : Device EventHardware}
    (went : Went count device next) : next.pendingEvent = device.pendingEvent :=
  congrArg (fun view : Configuration × Option PendingEvent × Bool => view.2.1) went.1

/-- What the caller is told of an event of which so many bytes are copied. -/
def readOf (pending : PendingEvent) (copied : Nat) : PendingEventRead :=
  if copied = pending.declared then
    if pending.discard then .discarded else .complete pending.declared
  else .waiting

/-- The event that stays pending. -/
def leftOf (pending : PendingEvent) (copied : Nat) : Option PendingEvent :=
  if copied = pending.declared then none else some { pending with copied }

theorem post_finishPendingEvent (pending : PendingEvent) (copied : Nat)
    (device : Device EventHardware) :
    Post (finishPendingEvent { pending with copied } (decide (copied = pending.declared)) :
        Program (Device EventHardware) (DeviceError Unit) PendingEventRead) device
      (fun r t => r = .ok (readOf pending copied) ∧
        t = { device with pendingEvent := leftOf pending copied }) := by
  rw [finishPendingEvent, readOf, leftOf]
  by_cases complete : copied = pending.declared
  · simp only [complete, decide_true, not_true_eq_false, if_false, if_true, post_bind,
      post_modify]
    cases discard : pending.discard <;> simp
  · simp [complete, Except.map]

/-- An acknowledgement follows a removal. -/
def continueCost (discard resubmit : Bool) (rest : List Fragment) (busy : List UInt32) : Nat :=
  drainCost discard resubmit rest busy + if rest ≠ [] ∧ busy ≠ [] then 1 else 0

theorem clear_two_of_drain {hardware : EventHardware} {discard resubmit : Bool}
    {rest : List Fragment} {busy : List UInt32} (some : rest ≠ [] ∧ busy ≠ [])
    (clear : hardware.clear (drainCost discard resubmit rest busy) = true) :
    hardware.clear 2 = true := by
  cases rest with
  | nil => exact absurd rfl some.1
  | cons fragment rest =>
      cases busy with
      | nil => exact absurd rfl some.2
      | cons address busy =>
          rw [drainCost, Nat.add_assoc, EventHardware.clear_add, Bool.and_eq_true] at clear
          exact clear.1

theorem spends_continuePendingEvent (s : Device EventHardware × Bytes) {scratchAddress : Nat}
    {pending : PendingEvent} (wired : Wired queues s.1.hardware)
    (length : s.1.eventFragmentLen.1 = limit) (declared : pending.declared = event.bytes.length)
    (partly : pending.copied < pending.declared)
    (queued : Queued s.1.hardware (event.fragmentsFrom limit pending.copied ++ others))
    (filled : Filled event pending s.2)
    (unchanged : pendingBufferChanged pending scratchAddress s.2.length = false) :
    Spends hardwareBeside (continuePendingEvent queues scratchAddress pending) s
      (continueCost pending.discard pending.resubmit (event.fragmentsFrom limit pending.copied)
        s.1.hardware.busy)
      (fun read t => ∃ copied, copied ≤ pending.declared ∧
        event.fragmentsFrom limit copied =
          (event.fragmentsFrom limit pending.copied).drop s.1.hardware.busy.length ∧
        Progress (min s.1.hardware.busy.length (event.fragmentsFrom limit pending.copied).length)
          (givenBack pending.resubmit (s.1.hardware.busy.take
            (event.fragmentsFrom limit pending.copied).length))
          (leftOf pending copied) s t ∧
        (pending.discard = false → t.2.take copied = event.bytes.take copied) ∧
        read = readOf pending copied)
      (Broke (event.fragmentsFrom limit pending.copied).length s) := by
  have positive : 0 < limit := by
    rw [← length]
    exact Nat.lt_of_lt_of_le (by decide) s.1.eventFragmentLen.2.1
  have some := event.fragmentsFrom_ne_nil positive (declared ▸ partly)
  apply ends_get_bind
  dsimp only
  rw [if_neg (by rw [unchanged]; decide), continueCost]
  refine Spends.bind ((spends_drainPendingFragments _ pending false s wired length declared
    (Nat.le_of_lt partly) (Nat.le_refl _) queued filled)) ?_
  intro result t clear good
  obtain ⟨copied, drained, rfl⟩ := good
  -- the pending event is stored last, without a transfer
  have finish (u : Device EventHardware × Bytes) (went : Went 0 t.1 u.1)
      (given : u.1.hardware.available = t.1.hardware.available) (same : u.2 = t.2) :
      Spends hardwareBeside (besideBuffer (finishPendingEvent { pending with copied }
        (decide (copied = pending.declared)))) u 0
        (fun read v => ∃ copied, copied ≤ pending.declared ∧
          event.fragmentsFrom limit copied =
            (event.fragmentsFrom limit pending.copied).drop s.1.hardware.busy.length ∧
          Progress (min s.1.hardware.busy.length (event.fragmentsFrom limit pending.copied).length)
            (givenBack pending.resubmit (s.1.hardware.busy.take
              (event.fragmentsFrom limit pending.copied).length))
            (leftOf pending copied) s v ∧
          (pending.discard = false → v.2.take copied = event.bytes.take copied) ∧
          read = readOf pending copied)
        (Broke (event.fragmentsFrom limit pending.copied).length s) := by
    apply ends_nothing
    rw [besideBuffer, post_onField]
    refine (post_finishPendingEvent pending copied u.1).mono ?_
    intro r v ended
    obtain ⟨rfl, rfl⟩ := ended
    have both := drained.went.trans went
    refine ⟨rfl, _, rfl, copied, drained.bound, drained.rest, ?_, ?_, rfl⟩
    · exact ⟨both.configuration, both.operational, both.2, given.trans drained.available,
        by rw [same]; exact drained.scratch, rfl⟩
    · intro kept
      rw [same]
      exact drained.filled kept
  dsimp only
  rw [Bool.false_or]
  by_cases busy : s.1.hardware.busy ≠ []
  · have both := And.intro partly busy
    have clearTwo := clear_two_of_drain ⟨some, busy⟩ clear
    have removed : 0 < min s.1.hardware.busy.length
        (event.fragmentsFrom limit pending.copied).length := by
      have one := List.length_pos_iff.mpr busy
      have two := List.length_pos_iff.mpr some
      omega
    rw [decide_eq_true both, if_pos rfl, if_pos ⟨some, busy⟩]
    refine Spends.then ((spends_acknowledgeInterrupt
      (drained.went.2.wired wired)).beside.mono (fun _ _ same => same) ?_) ?_
    · intro u _ stopped
      exact broke_behind busy clearTwo
        ((congrArg List.length stopped.2).trans drained.scratch) (brokeOff_behind busy clearTwo
        (drained.went.trans stopped.1) removed (Nat.min_le_right _ _)
        (Nat.min_le_left _ _))
    · intro _ u _ good
      obtain ⟨became, same⟩ := good
      exact finish u (went_after became) (by rw [became.2]; rfl) same
  · have idle : ¬ (pending.copied < pending.declared ∧ s.1.hardware.busy ≠ []) :=
      fun both => busy both.2
    have silent : ¬ (event.fragmentsFrom limit pending.copied ≠ [] ∧ s.1.hardware.busy ≠ []) :=
      fun both => busy both.2
    rw [decide_eq_false idle, if_neg (by decide), if_neg silent]
    exact finish t (went_none _) rfl rfl

/-! ## A new event -/

theorem spends_releaseAndAcknowledge {device : Device EventHardware}
    (wired : Wired queues device.hardware) (address : UInt32) (resubmit : Bool) :
    Spends Device.hardware (releaseAndAcknowledgeEvent queues address resubmit) device
      (releaseCost resubmit + 1)
      (fun _ t => Went 0 device t ∧ t.hardware.available =
        device.hardware.available ++ givenBack resubmit [address])
      (Went 0 device) := by
  refine Spends.bind (spends_release wired address resubmit) ?_
  intro _ t _ good
  obtain ⟨went, given⟩ := good
  refine (spends_acknowledgeInterrupt (went.2.wired wired)).mono ?_ ?_
  · intro _ u became
    refine ⟨went.trans (went_after became), ?_⟩
    rw [became.2, ← given]
    rfl
  · intro u _ stopped
    exact went.trans stopped

/-- The event whose first fragment is queued first. -/
structure FirstInQueue (limit : Nat) (event : FirmwareEvent) (address : UInt32)
    (hardware : EventHardware) : Prop where
  sized : event.Sized limit
  first : hardware.busy.head? = some address
  holds : Holds hardware address (event.bytes.take limit)

/-- What the device knows of an event from its header. -/
def newEvent (limit : Nat) (event : FirmwareEvent) (address : UInt32) : NewEvent :=
  { address
    declared := event.declared
    firstCount := min limit event.declared
    resubmit := event.resubmit }

/-- The header of an event stands in its first fragment. -/
theorem readU32_firstFragment {offset : Nat} (inside : offset + 4 ≤ hostMessageHeaderLen)
    (room : hostMessageHeaderLen ≤ limit) :
    readU32 (event.bytes.take limit) offset = readU32 event.bytes offset := by
  have header := event.header
  have length : hostMessageHeaderLen ≤ (event.bytes.take limit).length := by
    rw [List.length_take]
    omega
  have same : readU32 (event.bytes.take limit ++ event.bytes.drop limit) offset =
      readU32 (event.bytes.take limit) offset := readU32_append_left (by omega)
  rw [List.take_append_drop] at same
  exact same.symm

theorem spends_beginNewEvent {device : Device EventHardware} {address : UInt32}
    (wired : Wired queues device.hardware) (length : device.eventFragmentLen.1 = limit)
    (queued : FirstInQueue limit event address device.hardware) :
    Spends Device.hardware (beginNewEvent queues) device 3
      (fun begun t => begun = some (newEvent limit event address) ∧ Went 1 device t ∧
        t.hardware.available = device.hardware.available)
      (BrokeOff 1 device) := by
  have room : hostMessageHeaderLen ≤ limit := by
    rw [← length]
    exact device.eventFragmentLen.2.1
  obtain ⟨busy, addresses⟩ : ∃ busy, device.hardware.busy = address :: busy := by
    have first := queued.first
    cases addresses : device.hardware.busy with
    | nil =>
        rw [addresses] at first
        cases first
    | cons head busy =>
        rw [addresses, List.head?_cons, Option.some.injEq] at first
        exact ⟨busy, by rw [first]⟩
  have header := event.header
  change Spends _ _ _ (2 + 1) _ _
  refine Spends.bind ((spends_dequeue_some wired addresses
    queued.holds.known).mono (fun _ _ same => same) fun t failed stopped =>
      brokeOff_dequeue addresses (Nat.le_refl _) failed stopped) ?_
  intro taken t clear good
  obtain ⟨rfl, became⟩ := good
  have went : Went 1 device t := by
    refine ⟨became.1, ?_⟩
    rw [became.2]
    exact (removes_remove _).trans (removes_after _ _)
  have same : t.hardware.available = device.hardware.available := by
    rw [became.2]
    rfl
  dsimp only
  refine Spends.then ((spends_readEventHeader
    (went.2.holds queued.holds) (by rw [List.length_take]; omega)).mono
      (fun _ _ same => same) ?_) ?_
  · intro u _ stopped
    exact brokeOff_later addresses clear went stopped (Nat.le_refl _) (Nat.zero_le _)
  · intro read u _ good
    obtain ⟨rfl, became⟩ := good
    have onward := went_after became
    apply ends_get_bind
    apply spends_pure
    refine ⟨?_, went.trans onward, ?_⟩
    · rw [newEvent, eventFragmentLen_of_settings onward.1, eventFragmentLen_of_settings went.1,
        length, readU32_firstFragment (by decide) room, readU32_firstFragment (by decide) room]
      rfl
    · rw [became.2, ← same]
      rfl

/-- The event that a call leaves pending when it has taken up a new one. -/
def newPending (limit : Nat) (event : FirmwareEvent) (scratchAddress capacity : Nat) :
    Option PendingEvent :=
  if event.bytes.length ≤ limit then none
  else some
    { declared := event.bytes.length
      copied := limit
      resubmit := event.resubmit
      scratchAddress := if capacity < event.bytes.length then 0 else scratchAddress
      discard := decide (capacity < event.bytes.length) }

/-- What the caller is told of a new event. -/
def newResult (limit : Nat) (event : FirmwareEvent) (capacity : Nat) :
    Except (DeviceError Unit) (Option HostMessage) :=
  if event.declared < hostMessageHeaderLen then .error (.protocol .invalidLength)
  else if capacity < event.bytes.length then .error (.eventTooLarge event.bytes.length capacity)
  else if event.bytes.length ≤ limit then
    ((parseHostMessage event.bytes).map some).mapError .protocol
  else .ok none

/-- The event is refused by its header, and its first fragment is left unread. -/
def Unread (event : FirmwareEvent) (capacity : Nat) : Prop :=
  event.declared < hostMessageHeaderLen ∨ capacity < event.bytes.length

instance (event : FirmwareEvent) (capacity : Nat) : Decidable (Unread event capacity) :=
  inferInstanceAs (Decidable (_ ∨ _))

def newCost (limit : Nat) (event : FirmwareEvent) (capacity : Nat) : Nat :=
  3 + ((if Unread event capacity then 0 else transfersOf (min limit event.bytes.length)) +
    (releaseCost event.resubmit + 1))

theorem post_parseEvent (scratch : Bytes) (count : Nat) (device : Device EventHardware) :
    Post (parseEvent scratch count : Program (Device EventHardware) (DeviceError Unit) _) device
      (fun r t => r = ((parseHostMessage (scratch.take count)).map some).mapError .protocol ∧
        t.settings = device.settings ∧ t.hardware = device.hardware) := by
  rw [parseEvent, post_bind, post_liftResult]
  cases parseHostMessage (scratch.take count) with
  | error failure => exact ⟨rfl, rfl, rfl⟩
  | ok message =>
      change Post (_ >>= _) device _
      rw [post_bind, record, post_modify]
      exact (post_pure _ _ _).mpr ⟨rfl, rfl, rfl⟩

theorem besideBuffer_pure_bind {σ ε α : Type} (f : Unit → Program (σ × Bytes) ε α) :
    (besideBuffer (pure ()) >>= f) = f () := rfl

/-- Why an event is refused by its header. -/
def refusal (event : FirmwareEvent) (capacity : Nat) : DeviceError Unit :=
  if event.declared < hostMessageHeaderLen then .protocol .invalidLength
  else .eventTooLarge event.bytes.length capacity

theorem declared_of_sized (sized : event.Sized limit)
    (long : ¬ event.declared < hostMessageHeaderLen) :
    event.declared = event.bytes.length := by
  rcases sized with same | ⟨short, -⟩
  · exact same
  · exact absurd short long

/-- A refused event is released at once; what is left of it will be discarded. -/
theorem ends_validateNewEvent {device : Device EventHardware} (address : UInt32)
    (scratchAddress capacity : Nat) (sized : event.Sized limit)
    (wired : Wired queues device.hardware) (free : device.pendingEvent = none)
    (unread : Unread event capacity) :
    Ends Device.hardware (validateNewEvent queues (newEvent limit event address) capacity) device
      (releaseCost event.resubmit + 1)
      (fun r t => r = .error (refusal event capacity) ∧
        t.pendingEvent = newPending limit event scratchAddress capacity ∧
        t.configuration = device.configuration ∧
        t.recoveryRequired = device.recoveryRequired ∧
        Removes 0 device.hardware t.hardware ∧ t.hardware.available =
          device.hardware.available ++ givenBack event.resubmit [address])
      (Went 0 device) := by
  have header := event.header
  rw [validateNewEvent]
  by_cases short : event.declared < hostMessageHeaderLen
  · have one : event.bytes.length ≤ limit := by
      rcases sized with same | ⟨-, one⟩
      · omega
      · exact one
    rw [if_pos (show (newEvent limit event address).declared < hostMessageHeaderLen from short)]
    refine Spends.then_ends (spends_releaseAndAcknowledge wired address
      event.resubmit) ?_
    intro _ t _ good
    obtain ⟨went, given⟩ := good
    apply ends_nothing
    rw [post_bind, post_throw]
    refine ⟨rfl, by rw [refusal, if_pos short], ?_, went.configuration, went.operational, went.2,
      given⟩
    rw [went.pendingEvent, free, newPending, if_pos one]
  · have size := declared_of_sized sized short
    have oversized : capacity < event.declared := by
      rcases unread with less | more
      · exact absurd less short
      · omega
    have oversized' : capacity < event.bytes.length := by omega
    rw [if_neg (show ¬ (newEvent limit event address).declared < hostMessageHeaderLen from short),
      if_pos (show capacity < (newEvent limit event address).declared from oversized),
      rejectOversizedEvent, bind_assoc]
    refine Spends.then_ends (spends_releaseAndAcknowledge wired address
      event.resubmit) ?_
    intro _ t _ good
    obtain ⟨went, given⟩ := good
    apply ends_nothing
    rw [post_bind, post_ite]
    change if min limit event.declared < event.declared then _ else _
    rw [size]
    by_cases partly : min limit event.bytes.length < event.bytes.length
    · rw [if_pos partly, post_modify]
      dsimp only
      rw [post_throw]
      refine ⟨rfl, by rw [refusal, if_neg short, newEvent, size], ?_, went.configuration,
        went.operational, went.2, given⟩
      dsimp only [newEvent]
      rw [newPending, if_neg (by omega), if_pos oversized', decide_eq_true oversized', size,
        Nat.min_eq_left (by omega)]
    · rw [if_neg partly, post_pure]
      dsimp only
      rw [post_throw]
      refine ⟨rfl, by rw [refusal, if_neg short, newEvent, size], ?_, went.configuration,
        went.operational, went.2, given⟩
      rw [went.pendingEvent, free, newPending, if_pos (by omega)]

theorem ends_readNewEvent (s : Device EventHardware × Bytes) {scratchAddress : Nat}
    {address : UInt32} (wired : Wired queues s.1.hardware)
    (length : s.1.eventFragmentLen.1 = limit)
    (queued : FirstInQueue limit event address s.1.hardware) (free : s.1.pendingEvent = none) :
    Ends hardwareBeside (readNewEvent queues scratchAddress) s
      (newCost limit event s.2.length)
      (fun r t => r = newResult limit event s.2.length ∧
        Progress 1 (givenBack event.resubmit [address])
          (newPending limit event scratchAddress s.2.length) s t ∧
        (¬ Unread event s.2.length → t.2.take (min limit event.bytes.length) =
          event.bytes.take (min limit event.bytes.length)))
      (Broke 1 s) := by
  have room : hostMessageHeaderLen ≤ limit := by
    rw [← length]
    exact s.1.eventFragmentLen.2.1
  have header := event.header
  rw [newCost]
  refine Spends.bind_ends ((spends_beginNewEvent wired length queued).beside.mono
    (fun _ _ same => same) fun _ _ stopped => broke_beside stopped.1 stopped.2) ?_
  intro begun t clear good
  obtain ⟨⟨rfl, went, same⟩, buffer⟩ := good
  have broken (u : Device EventHardware × Bytes) (stopped : Went 0 t.1 u.1)
      (sized : u.2.length = s.2.length) : Broke 1 s u := by
    have some : s.1.hardware.busy ≠ [] := by
      intro empty
      have first := queued.first
      rw [empty] at first
      cases first
    have two : s.1.hardware.clear 2 = true := by
      rw [show (3 : Nat) = 2 + 1 from rfl, EventHardware.clear_add, Bool.and_eq_true] at clear
      exact clear.1
    exact broke_behind some two sized (brokeOff_behind some two (went.trans stopped) (by omega)
      (Nat.le_refl _) (List.length_pos_iff.mpr some))
  apply ends_get_bind
  dsimp only
  rw [buffer]
  by_cases unread : Unread event s.2.length
  · rw [if_pos unread, Nat.zero_add]
    have refused := ends_validateNewEvent address scratchAddress s.2.length queued.sized
      (went.2.wired wired) (went.pendingEvent.trans free) unread
    rw [Ends, post_bind, besideBuffer, post_onField]
    refine Post.mono refused ?_
    intro r u ended
    by_cases clear : t.1.hardware.clear (releaseCost event.resubmit + 1)
    · rw [if_pos clear] at ended
      obtain ⟨used, rfl, pending, configuration, operational, removes, given⟩ := ended
      dsimp only
      rw [if_pos clear]
      refine ⟨used, ?_, ?_, fun read => absurd unread read⟩
      · rw [refusal, newResult]
        by_cases short : event.declared < hostMessageHeaderLen
        · rw [if_pos short, if_pos short]
        · rw [if_neg short, if_neg short, if_pos (unread.resolve_left short)]
      · exact ⟨configuration.trans went.configuration, operational.trans went.operational,
          went.2.trans removes, by rw [given, same], buffer ▸ rfl, pending⟩
    · rw [if_neg clear] at ended
      obtain ⟨rfl, stopped⟩ := ended
      dsimp only
      rw [if_neg clear]
      exact ⟨rfl, broken (u, t.2) stopped (congrArg List.length buffer)⟩
  · obtain ⟨long, fits⟩ := not_or.mp unread
    have size := declared_of_sized queued.sized long
    have shape : newEvent limit event address =
        { address
          declared := event.bytes.length
          firstCount := min limit event.bytes.length
          resubmit := event.resubmit } := by
      rw [newEvent, size]
    have accepted : validateNewEvent queues (newEvent limit event address) s.2.length =
        (pure () : Program (Device EventHardware) (DeviceError Unit) Unit) := by
      rw [shape, validateNewEvent]
      rw [if_neg (by dsimp only; omega), if_neg (by dsimp only; omega)]
    have positive : 0 < hostMessageHeaderLen := by decide
    have holds := went.2.holds queued.holds
    have width : (event.bytes.take limit).length = min limit event.bytes.length :=
      List.length_take
    have fetched := spends_readFragment t 0 (min limit event.bytes.length) holds
      (by omega) (by rw [buffer]; omega) (by omega) (by
        have bound : limit ≤ 1000 := by
          rw [← length]
          exact s.1.eventFragmentLen.2.2
        have chunk : maxBusChunk = 4096 := rfl
        omega)
    rw [Nat.sub_zero, List.take_take, Nat.min_eq_left (Nat.min_le_left _ _), buffer] at fetched
    rw [if_neg unread, accepted, shape, besideBuffer_pure_bind, readInitialEventFragment,
      bind_assoc]
    refine Spends.bind_ends (fetched.mono (fun _ _ same => same) fun u _ stopped =>
      broken u stopped.1 stopped.2) ?_
    intro _ u _ good
    obtain ⟨became, filled⟩ := good
    have onward := went_after became
    have sized : u.2.length = s.2.length := by
      rw [filled, length_splice]
      rw [List.length_take]
      omega
    refine Spends.then_ends ((spends_releaseAndAcknowledge
      (onward.2.wired (went.2.wired wired)) address event.resubmit).beside.mono
        (fun _ _ same => same) fun v _ stopped => broken v (onward.trans stopped.1)
          ((congrArg List.length stopped.2).trans sized)) ?_
    intro _ v _ good
    obtain ⟨⟨last, given⟩, kept⟩ := good
    have whole := (went.trans onward).trans last
    have front : v.2.take (min limit event.bytes.length) =
        event.bytes.take (min limit event.bytes.length) := by
      have inside : 0 + (event.bytes.take (min limit event.bytes.length)).length ≤
          s.2.length := by
        rw [List.length_take]
        omega
      have covered := take_splice inside
      rw [List.length_take, Nat.zero_add, List.take_zero, List.nil_append,
        Nat.min_eq_left (Nat.min_le_right _ _)] at covered
      rw [kept, filled, covered]
    have available : v.1.hardware.available =
        s.1.hardware.available ++ givenBack event.resubmit [address] := by
      rw [given, became.2, ← same]
      rfl
    have scratch : v.2.length = s.2.length := (congrArg List.length kept).trans sized
    apply ends_get_bind
    dsimp only
    by_cases one : event.bytes.length ≤ limit
    · have all : min limit event.bytes.length = event.bytes.length := Nat.min_eq_right one
      rw [all] at front
      rw [if_pos all]
      apply ends_nothing
      rw [besideBuffer, post_onField]
      refine (post_parseEvent v.2 event.bytes.length v.1).mono ?_
      intro r w ended
      obtain ⟨rfl, settings, hardware⟩ := ended
      have ended : Went 1 s.1 w := by
        refine ⟨settings.trans whole.1, ?_⟩
        rw [hardware]
        exact whole.2
      refine ⟨by rw [hardwareBeside, hardware], ?_, ?_, fun _ => by rw [all, front]⟩
      · rw [newResult, if_neg long, if_neg fits, if_pos one, front, List.take_length]
      · refine ⟨ended.configuration, ended.operational, ended.2, by rw [hardware, available],
          scratch, ?_⟩
        rw [ended.pendingEvent, free, newPending, if_pos one]
    · have part : min limit event.bytes.length = limit := Nat.min_eq_left (by omega)
      rw [if_neg (by omega)]
      apply ends_nothing
      rw [post_bind, post_modify]
      dsimp only
      rw [post_pure]
      refine ⟨rfl, ?_, ?_, fun _ => front⟩
      · rw [newResult, if_neg long, if_neg fits, if_neg one]
      · refine ⟨whole.configuration, whole.operational, whole.2, available, scratch, ?_⟩
        dsimp only
        rw [newPending, if_neg one, if_neg fits, decide_eq_false fits, part]

theorem ends_readNewEvent_empty (s : Device EventHardware × Bytes) (scratchAddress : Nat)
    (wired : Wired queues s.1.hardware) (empty : s.1.hardware.busy = []) :
    Ends hardwareBeside (readNewEvent queues scratchAddress) s 1
      (fun r t => r = .ok none ∧ Progress 0 [] s.1.pendingEvent s t ∧ t.2 = s.2)
      (Broke 1 s) := by
  have begun : Spends Device.hardware (beginNewEvent queues) s.1 1
      (fun begun t => begun = none ∧ Became s.1 (s.1.hardware.after 1) t)
      (Became s.1 (s.1.hardware.after 1)) := by
    refine Spends.then (spends_dequeue_empty wired empty) ?_
    intro taken t _ good
    obtain ⟨rfl, became⟩ := good
    exact spends_pure ⟨rfl, became⟩
  refine Spends.then_ends (begun.beside.mono (fun _ _ same => same) ?_) ?_
  · intro t _ stopped
    exact broke_beside ⟨0, went_after stopped.1, Nat.zero_le _, Nat.zero_le _,
      iff_of_true rfl (.inl empty)⟩ stopped.2
  · intro begun t _ good
    obtain ⟨⟨rfl, became⟩, same⟩ := good
    have went := went_after became
    refine ends_nothing ((post_pure _ _ _).mpr ⟨rfl, rfl, ?_, same⟩)
    refine ⟨went.configuration, went.operational, went.2, ?_, by rw [same], went.pendingEvent⟩
    rw [became.2, List.append_nil]
    rfl

/-! ## One call -/

section Call
variable {s : Device EventHardware × Bytes} {scratchAddress count : Nat}
  {good : Except (DeviceError Unit) (Option HostMessage) → Device EventHardware × Bytes → Prop}
  {bad : Device EventHardware × Bytes → Prop}

/-- An initialised device that works goes to its pending event, or to a new one. -/
theorem ends_tryReadEvent (known : s.1.queues = some queues)
    (operational : s.1.recoveryRequired = false)
    (rest : Ends hardwareBeside (match s.1.pendingEvent with
      | some pending => readPendingOrNext queues scratchAddress pending
      | none => readNewEvent queues scratchAddress) s count good bad) :
    Ends hardwareBeside (tryReadEvent scratchAddress) s count good bad := by
  rw [tryReadEvent, Ends, post_bind, besideBuffer, post_onField, ensureOperational, post_bind,
    post_get]
  dsimp only
  rw [if_neg (by rw [operational]; decide), post_pure]
  dsimp only
  rw [post_bind, besideBuffer, post_onField, requireQueues, post_bind, post_get]
  dsimp only
  rw [known]
  dsimp only
  rw [post_pure]
  dsimp only
  rw [post_bind, post_get]
  exact rest

theorem ends_tryReadEvent_new (known : s.1.queues = some queues)
    (operational : s.1.recoveryRequired = false) (free : s.1.pendingEvent = none)
    (rest : Ends hardwareBeside (readNewEvent queues scratchAddress) s count good bad) :
    Ends hardwareBeside (tryReadEvent scratchAddress) s count good bad := by
  apply ends_tryReadEvent known operational
  rw [free]
  exact rest

theorem ends_tryReadEvent_pending {pending : PendingEvent} (known : s.1.queues = some queues)
    (operational : s.1.recoveryRequired = false) (held : s.1.pendingEvent = some pending)
    (rest : Ends hardwareBeside (readPendingOrNext queues scratchAddress pending) s count good
      bad) : Ends hardwareBeside (tryReadEvent scratchAddress) s count good bad := by
  apply ends_tryReadEvent known operational
  rw [held]
  exact rest

end Call

end Device
end Nrf7002
