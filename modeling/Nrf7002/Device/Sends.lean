import Nrf7002.Device.Configuration

/-! # What a successful send does to the queues

A send that succeeds takes its buffers from the available queue, hands them over on the
busy queue and triggers firmware.  It leaves the configuration, the pending event and
the recovery flag as they were. -/

set_option autoImplicit false

namespace Nrf7002
open Foundation

/-- The queue operations of a command. -/
def QueueOperation.OfCommand (queues : HpqmInfo) (operation : QueueOperation) : Prop :=
  operation = .dequeue queues.commandAvailable ∨
    (∃ address, operation = .enqueue queues.commandBusy address) ∨ operation = .trigger

namespace Device
variable {β ε α : Type}

/-- What a send keeps: everything but the bus, the command counter and the history. -/
def settings (device : Device β) : Configuration × Option PendingEvent × Bool :=
  (device.configuration, device.pendingEvent, device.recoveryRequired)

/-- `next` is `device` after some operations of commands. -/
structure Sent (queues : HpqmInfo) (device next : Device β) : Prop where
  settings : next.settings = device.settings
  operations : ∃ sends, next.operations = device.operations ++ sends ∧
    ∀ operation ∈ sends, QueueOperation.OfCommand queues operation

variable {queues : HpqmInfo}

theorem Sent.trans {device middle next : Device β} (first : Sent queues device middle)
    (second : Sent queues middle next) : Sent queues device next := by
  obtain ⟨sends, listed, commands⟩ := first.operations
  obtain ⟨more, later, others⟩ := second.operations
  refine ⟨second.settings.trans first.settings, sends ++ more, ?_, ?_⟩
  · rw [later, listed, List.append_assoc]
  · intro operation member
    cases List.mem_append.mp member with
    | inl old => exact commands operation old
    | inr new => exact others operation new

theorem settings_of_withoutBus {device next : Device β}
    (same : next.withoutBus = device.withoutBus) : next.settings = device.settings :=
  congrArg (fun view : Device Unit => view.settings) same

theorem sent_of_withoutBus {device next : Device β} (same : next.withoutBus = device.withoutBus) :
    Sent queues device next :=
  ⟨settings_of_withoutBus same, [], by rw [operations_eq same, List.append_nil], by simp⟩

theorem sent_of_performed {device next : Device β} {operation : QueueOperation}
    (command : QueueOperation.OfCommand queues operation)
    (performed : Performed device [operation] next) : Sent queues device next := by
  refine ⟨?_, [operation], performed_operations performed, ?_⟩
  · exact congrArg (fun view : Device Unit => view.settings) performed
  · intro other member
    cases List.mem_singleton.mp member
    exact command

section Returns

theorem returns_onRpu {x : Program (Rpu β) (RpuError ε) α} {device next : Device β} {a : α}
    (ends : Returns (onRpu x) device a next) : next.withoutBus = device.withoutBus := by
  have kept := keeps_onRpu x device
  rwa [ends.2] at kept

/-- A step that may leave an uncertain owner succeeds where its transfer does. -/
theorem returns_orUncertain {x : Program (Device β) (DeviceError ε) α} {device next : Device β}
    {a : α} (ends : Returns (orUncertain x) device a next) : Returns x device a next := by
  obtain ⟨r, middle, tried, rest⟩ := returns_bind.mp ends
  obtain ⟨result, state⟩ := returns_attempt.mp tried
  cases r with
  | ok value =>
      obtain ⟨rfl, rfl⟩ := returns_pure.mp rest
      exact ⟨result, state⟩
  | error failure =>
      obtain ⟨_, _, _, thrown⟩ := returns_bind.mp rest
      exact absurd thrown not_returns_throw

theorem returns_perform {operation : QueueOperation} {device next : Device β}
    (ends : Returns (perform operation : Program (Device β) ε Unit) device () next) :
    Performed device [operation] next := by
  rw [← returns_modify.mp ends]
  rfl

end Returns

variable [Bus β ε]

theorem returns_enqueue {queue : Hpq} {value : UInt32} {device next : Device β}
    (ends : Returns (enqueue queue value) device () next) :
    Performed device [.enqueue queue value] next := by
  have performed := (post_enqueue queue value device).ends
  rwa [ends.2] at performed

theorem returns_dequeue {queue : Hpq} {taken : Option UInt32} {device next : Device β}
    (ends : Returns (dequeue queue) device taken next) :
    Performed device [.dequeue queue] next := by
  obtain ⟨_, started, listed, reading⟩ := returns_bind.mp ends
  obtain ⟨value, read, fetched, rest⟩ := returns_bind.mp reading
  have performed := performed_trans (returns_perform listed) (performed_nil (returns_onRpu fetched))
  rw [List.append_nil] at performed
  split at rest
  · obtain ⟨_, rfl⟩ := returns_pure.mp rest
    exact performed
  · split at rest
    · obtain ⟨_, _, thrown, _⟩ := returns_bind.mp rest
      exact absurd thrown not_returns_throw
    · obtain ⟨_, written, acknowledged, last⟩ := returns_bind.mp rest
      obtain ⟨_, rfl⟩ := returns_pure.mp last
      have whole := performed_trans performed (performed_nil (returns_onRpu acknowledged))
      rwa [List.append_nil] at whole

theorem sent_triggerCommand {device next : Device β}
    (ends : Returns (triggerCommand : Program (Device β) (DeviceError ε) Unit) device () next) :
    Sent queues device next := by
  obtain ⟨_, started, listed, rest⟩ := returns_bind.mp ends
  have first : Sent queues device started :=
    sent_of_performed (.inr (.inr rfl)) (returns_perform listed)
  obtain ⟨_, written, wrote, counted⟩ := returns_bind.mp (returns_get_bind.mp rest)
  have second := first.trans (sent_of_withoutBus (returns_onRpu wrote))
  rw [← returns_modify.mp counted]
  exact ⟨second.settings, second.operations⟩

theorem sent_waitForCommandBuffer {postedAny : Bool} {attempts : Nat} {device next : Device β}
    {address : UInt32}
    (ends : Returns (waitForCommandBuffer queues.commandAvailable postedAny attempts) device
      address next) : Sent queues device next := by
  induction attempts generalizing device with
  | zero =>
      cases postedAny with
      | false => exact absurd ends not_returns_throw
      | true =>
          obtain ⟨_, _, _, thrown⟩ := returns_bind.mp ends
          exact absurd thrown not_returns_throw
  | succ attempts hypothesis =>
      obtain ⟨taken, polled, dequeued, rest⟩ := returns_bind.mp ends
      have first : Sent queues device polled :=
        sent_of_performed (.inl rfl) (returns_dequeue (returns_orUncertain dequeued))
      cases taken with
      | none => exact first.trans (hypothesis rest)
      | some value =>
          obtain ⟨_, rfl⟩ := returns_pure.mp rest
          exact first

theorem sent_postControlFragment {address : UInt32} {fragment : Bytes} {device next : Device β}
    (ends : Returns (postControlFragment queues address fragment) device () next) :
    Sent queues device next := by
  obtain ⟨_, written, wrote, rest⟩ := returns_bind.mp ends
  obtain ⟨_, queued, enqueued, triggered⟩ := returns_bind.mp rest
  have first : Sent queues device written :=
    sent_of_withoutBus (returns_onRpu (returns_orUncertain wrote))
  have second : Sent queues written queued :=
    sent_of_performed (.inr (.inl ⟨address, rfl⟩)) (returns_enqueue (returns_orUncertain enqueued))
  exact (first.trans second).trans (sent_triggerCommand (returns_orUncertain triggered))

theorem sent_sendFragmentsWithWait {attempts : Nat} {fragments : List Bytes} {postedAny : Bool}
    {device next : Device β}
    (ends : Returns (sendFragmentsWithWait queues attempts fragments postedAny) device () next) :
    Sent queues device next := by
  induction fragments generalizing device postedAny with
  | nil =>
      obtain ⟨_, rfl⟩ := returns_pure.mp ends
      exact sent_of_withoutBus rfl
  | cons fragment rest hypothesis =>
      obtain ⟨address, taken, waited, posting⟩ := returns_bind.mp ends
      obtain ⟨_, posted, delivered, more⟩ := returns_bind.mp posting
      have first := sent_waitForCommandBuffer waited
      exact (first.trans (sent_postControlFragment delivered)).trans (hypothesis more)

omit [Bus β ε] in
/-- A prepared send changes nothing, and goes to the queues of the device. -/
theorem returns_prepareReliableSend {message : Bytes} {attempts : Nat} {device next : Device β}
    (ends : Returns (prepareReliableSend message attempts :
      Program (Device β) (DeviceError ε) HpqmInfo) device queues next) :
    next = device ∧ device.queues = some queues := by
  have operational : Keeps id (ensureOperational : Program (Device β) (DeviceError ε) Unit) :=
    (keeps_get _).bind fun _ => keeps_ite (fun _ => keeps_throw _ _) fun _ => keeps_pure _ _
  obtain ⟨_, valid, checked, rest⟩ := returns_bind.mp ends
  obtain ⟨_, ready, passed, more⟩ := returns_bind.mp rest
  have same : valid = device := checked.2.symm.trans (keeps_liftResult id _ device)
  have also : ready = device := (passed.2.symm.trans (operational valid)).trans same
  rw [also] at more
  split at more
  · obtain ⟨_, _, thrown, _⟩ := returns_bind.mp more
    exact absurd thrown not_returns_throw
  · have found := returns_get_bind.mp more
    cases known : device.queues with
    | none =>
        simp only [known] at found
        exact absurd found not_returns_throw
    | some queues =>
        simp only [known] at found
        obtain ⟨rfl, rfl⟩ := returns_pure.mp found
        exact ⟨rfl, rfl⟩

/-- A reliable send that succeeds did nothing but send, on the queues of the device. -/
theorem sent_sendControlWithWait {message : Bytes} {attempts : Nat} {device next : Device β}
    (ends : Returns (sendControlWithWait message attempts) device () next) :
    ∃ queues, device.queues = some queues ∧ Sent queues device next := by
  obtain ⟨queues, ready, prepared, sending⟩ := returns_bind.mp ends
  obtain ⟨rfl, known⟩ := returns_prepareReliableSend prepared
  obtain ⟨_, posted, delivered, recorded⟩ := returns_bind.mp (returns_get_bind.mp sending)
  have sent : Sent queues ready posted := sent_sendFragmentsWithWait delivered
  rw [← returns_modify.mp recorded]
  exact ⟨queues, known, sent.settings, sent.operations⟩

end Device

end Nrf7002
