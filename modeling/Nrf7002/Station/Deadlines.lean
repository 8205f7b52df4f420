import Nrf7002.Foundation.Deadline
import Nrf7002.Station.Effects

/-! # Deadlines of the station

A state with a deadline is entered with its configured timeout, at least one
millisecond.  From there only the clock lowers what remains, and the call that uses it
up ends in `fault`. -/

set_option autoImplicit false

namespace Nrf7002
open Foundation

namespace StationController
variable {β ε : Type}

/-- The states that the controller does not wait in forever. -/
def hasDeadline : StationState → Bool
  | .down | .idle | .connected | .recovering | .fault => false
  | _ => true

theorem isSome_timeoutFor (station : StationController) (state : StationState) :
    (station.timeoutFor state).isSome = hasDeadline state := by
  cases state <;> rfl

theorem timeoutFor_positive (station : StationController) (state : StationState) :
    Positive (station.timeoutFor state) :=
  positive_clamped _

/-! ## What remains of a deadline -/

/-- The deadline of the current state runs, and is not used up. -/
def Timed (station : StationController) : Prop :=
  Within (station.timeoutFor station.state) station.remainingMs

/-- The deadline is that of a state entered just now. -/
def FreshlyArmed (station : StationController) : Prop :=
  station.remainingMs = station.timeoutFor station.state

section Arming
variable {station after : StationController}

theorem FreshlyArmed.timed (fresh : FreshlyArmed station) : Timed station := by
  rw [Timed, fresh]
  exact within_armed (timeoutFor_positive station station.state)

theorem freshlyArmed_transition (state : StationState) (station : StationController) :
    FreshlyArmed (transition state station) := rfl

/-- An operation keeps the timeouts, and either arms the deadline of the state it leaves,
or keeps the state and what remains. -/
structure Settles (station after : StationController) : Prop where
  timeouts : after.timeouts = station.timeouts
  deadline : FreshlyArmed after ∨
    after.state = station.state ∧ after.remainingMs = station.remainingMs

theorem timeoutFor_kept {state : StationState} (timeouts : after.timeouts = station.timeouts) :
    after.timeoutFor state = station.timeoutFor state := by
  unfold timeoutFor
  rw [timeouts]

theorem Settles.timed (settled : Settles station after) (timed : Timed station) : Timed after := by
  rcases settled.deadline with fresh | ⟨state, remaining⟩
  · exact fresh.timed
  · rw [Timed, state, remaining, timeoutFor_kept settled.timeouts]
    exact timed

/-- Whether it connects or not, a station that settled has settled. -/
theorem Settles.refreshed (settled : Settles station after) :
    Settles station after.refreshConnected := by
  rw [refreshConnected]
  by_cases connects : after.carrierOn && after.controlledPortAuthorized
  · rw [if_pos connects]
    exact ⟨settled.timeouts, .inl rfl⟩
  · rw [if_neg connects]
    exact settled

theorem settles_answered (command : UInt32) (station : StationController) :
    Settles station (applySuccessfulCommand command { station with pendingCommand := none }) := by
  rw [applySuccessfulCommand]
  split
  · exact ⟨rfl, .inl rfl⟩
  · split
    · exact Settles.refreshed ⟨rfl, .inl rfl⟩
    · split
      · exact ⟨rfl, .inl rfl⟩
      · exact ⟨rfl, .inr ⟨rfl, rfl⟩⟩

theorem settles_rekeyed (station : StationController) :
    Settles station station.completeGroupRekey := by
  rw [completeGroupRekey]
  split
  · split
    · exact ⟨rfl, .inl rfl⟩
    · exact ⟨rfl, .inl rfl⟩
  · exact ⟨rfl, .inl rfl⟩

/-- A posted command enters its own state. -/
theorem settles_posted {operation : StationOperation β} (command : Bytes)
    (ready : station.submittable operation) :
    Settles station (submitted { station with command } operation) := by
  cases operation with
  | controlEvent event => exact absurd ready id
  | dataEvent event => exact absurd ready id
  | advanceTime elapsedMs => exact absurd ready id
  | setTimeouts timeouts => exact absurd ready id
  | completeGroupRekey => exact absurd ready id
  | beginRecovery => exact absurd ready id
  | recoveryComplete => exact absurd ready id
  | _ => exact ⟨rfl, .inl rfl⟩

end Arming

/-! ## One operation -/

/-- The clock and the new timeouts act on the deadline itself. -/
def isTimer : StationOperation β → Bool
  | .advanceTime _ | .setTimeouts _ => true
  | _ => false

section Operations
variable {station after : StationController} {operation : StationOperation β} {succeeded : Bool}

theorem settles_effect (effect : Effect station operation succeeded after)
    (untimed : isTimer operation = false) : Settles station after := by
  cases effect with
  | refused command => exact ⟨rfl, .inr ⟨rfl, rfl⟩⟩
  | failed fault command => exact ⟨rfl, .inl rfl⟩
  | ignored event => exact ⟨rfl, .inr ⟨rfl, rfl⟩⟩
  | claimed down => exact ⟨rfl, .inl rfl⟩
  | posted command ready => exact settles_posted command ready
  | interfaceUp pending => exact ⟨rfl, .inl rfl⟩
  | interfaceDown pending => exact ⟨rfl, .inl rfl⟩
  | scanDone scanning => exact ⟨rfl, .inl rfl⟩
  | scanResult reading => exact ⟨rfl, .inl rfl⟩
  | scanEnded reading => exact ⟨rfl, .inl rfl⟩
  | authenticated pending confirmed => exact ⟨rfl, .inl rfl⟩
  | associated pending confirmed => exact Settles.refreshed ⟨rfl, .inl rfl⟩
  | disconnected kind names address same => exact ⟨rfl, .inl rfl⟩
  | regulatory pending => exact ⟨rfl, .inl rfl⟩
  | interfaceCreated pending => exact ⟨rfl, .inl rfl⟩
  | answered names pending => exact settles_answered _ station
  | carrierOn own =>
      have kept : Settles station { station with carrierOn := true } := ⟨rfl, .inr ⟨rfl, rfl⟩⟩
      exact kept.refreshed
  | carrierOff apart => exact ⟨rfl, .inr ⟨rfl, rfl⟩⟩
  | carrierLost connected => exact ⟨rfl, .inl rfl⟩
  | ticked remaining => exact absurd untimed.symm Bool.false_ne_true
  | timeoutsSet => exact absurd untimed.symm Bool.false_ne_true
  | rekeyed => exact settles_rekeyed station
  | recoveryBegan => exact ⟨rfl, .inl rfl⟩
  | recoveryCompleted => exact ⟨rfl, .inl rfl⟩

end Operations

/-! ## The clock -/

section Clock
variable [Bus β ε] {station : StationController} {elapsedMs remaining : UInt32}

/-- Time that leaves something of the deadline. -/
theorem post_advanceTime_before (armed : station.remainingMs = some remaining)
    (early : elapsedMs < remaining) :
    Post (perform (.advanceTime elapsedMs : StationOperation β) : Handler ε Unit) station
      (fun r after => r = .ok () ∧
        after = { station with remainingMs := some (remaining - elapsedMs) }) := by
  simp only [perform, advanceTime, post_mapError, post_bind, post_get, armed]
  rw [if_pos early, post_set]
  exact ⟨rfl, rfl⟩

/-- Time that uses it up. -/
theorem post_advanceTime_due (armed : station.remainingMs = some remaining)
    (due : ¬ elapsedMs < remaining) :
    Post (perform (.advanceTime elapsedMs : StationOperation β) : Handler ε Unit) station
      (fun r after => r = .error (.fault (.timeout station.state)) ∧
        after = faulted (.timeout station.state) station) := by
  simp only [perform, advanceTime, post_mapError, post_bind, post_get, armed]
  rw [if_neg due, post_bind, post_modify, post_throw]
  exact ⟨rfl, rfl⟩

theorem post_advanceTime_unarmed (unarmed : station.remainingMs = none) :
    Post (perform (.advanceTime elapsedMs : StationOperation β) : Handler ε Unit) station
      (fun r after => r = .ok () ∧ after = station) := by
  simp only [perform, advanceTime, post_mapError, post_bind, post_get, unarmed]
  rw [post_pure]
  exact ⟨rfl, rfl⟩

theorem succeeds_advanceTime_iff (armed : station.remainingMs = some remaining) :
    succeeds station (.advanceTime elapsedMs : StationOperation β) = true ↔
      elapsedMs < remaining := by
  by_cases early : elapsedMs < remaining
  · have ticked := (post_advanceTime_before (β := β) (ε := ε) armed early).ends.1
    rw [succeeds, ticked]
    exact ⟨fun _ => early, fun _ => rfl⟩
  · have failed := (post_advanceTime_due (β := β) (ε := ε) armed early).ends.1
    rw [succeeds, failed]
    exact ⟨fun succeeded => absurd succeeded Bool.false_ne_true, fun less => absurd less early⟩

theorem timed_advanced (timed : Timed station) (elapsedMs : UInt32) :
    Timed (step station (.advanceTime elapsedMs : StationOperation β)) := by
  cases armed : station.remainingMs with
  | none =>
      have unchanged : Post (perform (.advanceTime elapsedMs : StationOperation β) :
          Handler ε Unit) station (fun r after => r = .ok () ∧ after = station) :=
        post_advanceTime_unarmed armed
      rw [step, unchanged.ends.2]
      exact timed
  | some remaining =>
      by_cases early : elapsedMs < remaining
      · have ticked := (post_advanceTime_before (β := β) (ε := ε) armed early).ends.2
        rw [Timed, armed] at timed
        rw [step, ticked]
        exact Within.tick timed early
      · have failed := (post_advanceTime_due (β := β) (ε := ε) armed early).ends.2
        rw [step, failed]
        exact (freshlyArmed_transition _ _).timed

theorem timed_step (timed : Timed station) (operation : StationOperation β) :
    Timed (step station operation) := by
  cases timer : isTimer operation with
  | false => exact (settles_effect (step_effect station operation) timer).timed timed
  | true =>
      cases operation with
      | advanceTime elapsedMs => exact timed_advanced timed elapsedMs
      | setTimeouts timeouts =>
          have fresh : FreshlyArmed (setTimeouts timeouts station) := rfl
          exact fresh.timed
      | _ => exact absurd timer Bool.false_ne_true

theorem timed_reachable {ifaceindex : Int32} {firmwareIndex : Int8} {wdevId : UInt32}
    (reachable : Reachable (step : StationController → StationOperation β → StationController)
      (new ifaceindex firmwareIndex wdevId) station) : Timed station := by
  apply reachable.invariant
  · exact (freshlyArmed_transition .down (new ifaceindex firmwareIndex wdevId)).timed
  · intro station operation timed
    exact timed_step timed operation

end Clock

/-! ## Waiting -/

section Waiting
variable [Bus β ε]

/-- The operation enters a state: another one, or its own once more with a longer
deadline than what remained. -/
def Enters (station : StationController) (operation : StationOperation β) : Prop :=
  (step station operation).state ≠ station.state ∨
    ∃ before later, station.remainingMs = some before ∧
      (step station operation).remainingMs = some later ∧ before < later

variable (β) in
/-- A part of a run without a transition and without new timeouts: the times that
passed in it, and the station it has come to. -/
inductive Waits (station : StationController) : List UInt32 → StationController → Prop where
  | begins : Waits station [] station
  | passes {elapsed : List UInt32} {waiting : StationController} (elapsedMs : UInt32)
      (before : Waits station elapsed waiting)
      (accepted : succeeds waiting (.advanceTime elapsedMs : StationOperation β) = true) :
      Waits station (elapsed ++ [elapsedMs])
        (step waiting (.advanceTime elapsedMs : StationOperation β))
  | idles {elapsed : List UInt32} {waiting : StationController} (operation : StationOperation β)
      (before : Waits station elapsed waiting) (untimed : isTimer operation = false)
      (stays : ¬ Enters waiting operation) :
      Waits station elapsed (step waiting operation)

variable {station waiting : StationController} {elapsed : List UInt32} {armed : UInt32}

/-- An operation that enters no state keeps what remains. -/
theorem remaining_of_stays {operation : StationOperation β} (timed : Timed waiting)
    (untimed : isTimer operation = false) (stays : ¬ Enters waiting operation) :
    (step waiting operation).state = waiting.state ∧
      (step waiting operation).remainingMs = waiting.remainingMs := by
  have state : (step waiting operation).state = waiting.state := by
    by_contra moved
    exact stays (.inl moved)
  have settled := settles_effect (step_effect waiting operation) untimed
  refine ⟨state, ?_⟩
  rcases settled.deadline with fresh | same
  · rw [FreshlyArmed, state, timeoutFor_kept settled.timeouts] at fresh
    rw [fresh]
    apply Within.unchanged timed
    intro longer
    obtain ⟨before, later, armed, entered, more⟩ := longer
    exact stays (.inr ⟨before, later, armed, fresh.trans entered, more⟩)
  · exact same.2

/-- Waiting keeps the state, and what remains is what the times that passed left over. -/
theorem Waits.remains (timed : Timed station) (armedAt : station.remainingMs = some armed)
    (waits : Waits β station elapsed waiting) :
    Timed waiting ∧ waiting.state = station.state ∧
      ∃ left, waiting.remainingMs = some left ∧ Leaves armed elapsed left := by
  induction waits with
  | begins => exact ⟨timed, rfl, armed, armedAt, leaves_nothing armed⟩
  | passes elapsedMs before accepted hypothesis =>
      obtain ⟨timed, state, left, remaining, leaves⟩ := hypothesis
      have early := (succeeds_advanceTime_iff remaining).mp accepted
      have ticked := (post_advanceTime_before (β := β) (ε := ε) remaining early).ends.2
      refine ⟨timed_step timed _, ?_⟩
      rw [step, ticked]
      exact ⟨state, _, rfl, leaves.tick early⟩
  | idles operation before untimed stays hypothesis =>
      obtain ⟨timed, state, left, remaining, leaves⟩ := hypothesis
      obtain ⟨sameState, sameRemaining⟩ := remaining_of_stays timed untimed stays
      refine ⟨timed_step timed _, sameState.trans state, left, ?_, leaves⟩
      rw [sameRemaining, remaining]

variable (β) in
/-- The deadline is bounded, and the clock calls of a wait succeed exactly until their sum
reaches what was armed when the wait began. -/
structure KeepsDeadline (station : StationController) : Prop where
  armed : station.remainingMs.isSome = hasDeadline station.state
  bounded : ∀ remaining, station.remainingMs = some remaining →
    ∃ limit, station.timeoutFor station.state = some limit ∧
      1 ≤ remaining.toNat ∧ remaining.toNat ≤ limit.toNat
  succeedsUntil : ∀ armed elapsed waiting elapsedMs, station.remainingMs = some armed →
    Waits β station elapsed waiting →
    (succeeds waiting (.advanceTime elapsedMs : StationOperation β) = true ↔
      totalMs elapsed + elapsedMs.toNat < armed.toNat)
  timesOut : ∀ armed elapsed waiting elapsedMs, station.remainingMs = some armed →
    Waits β station elapsed waiting → armed.toNat ≤ totalMs elapsed + elapsedMs.toNat →
    Post (perform (.advanceTime elapsedMs : StationOperation β) : Handler ε Unit) waiting
      (fun r after => r = .error (.fault (.timeout station.state)) ∧ after.state = .fault ∧
        after.lastFault = some (.timeout station.state) ∧ after.pendingCommand = none)

/-- Every station that a run comes to keeps its deadline. -/
theorem deadline_kept (ifaceindex : Int32) (firmwareIndex : Int8) (wdevId : UInt32)
    (operations : List (StationOperation β)) :
    KeepsDeadline β (runMoves step (new ifaceindex firmwareIndex wdevId) operations) := by
  have timed : Timed (runMoves step (new ifaceindex firmwareIndex wdevId) operations) :=
    timed_reachable ⟨operations, rfl⟩
  generalize runMoves step (new ifaceindex firmwareIndex wdevId) operations = station at timed
  constructor
  · rw [timed.armed, isSome_timeoutFor]
  · exact timed.bounded
  · intro armed elapsed waiting elapsedMs armedAt waits
    obtain ⟨_, _, left, remaining, leaves⟩ := waits.remains timed armedAt
    rw [succeeds_advanceTime_iff remaining]
    exact leaves.early_iff
  · intro armed elapsed waiting elapsedMs armedAt waits reached
    obtain ⟨_, state, left, remaining, leaves⟩ := waits.remains timed armedAt
    have due : ¬ elapsedMs < left := fun early =>
      Nat.not_lt.mpr reached (leaves.early_iff.mp early)
    apply (post_advanceTime_due remaining due).mono
    intro r after outcome
    obtain ⟨failed, rfl⟩ := outcome
    rw [failed, state]
    exact ⟨rfl, rfl, rfl, rfl⟩

end Waiting

end StationController

end Nrf7002
