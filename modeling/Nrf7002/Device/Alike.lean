import Nrf7002.Device
import Nrf7002.Foundation.Coupling

/-! # Devices with different histories

Two devices are alike when they agree in everything but the history variables.  The
queue and command operations cannot tell alike devices apart. -/

set_option autoImplicit false

namespace Nrf7002
open Foundation

namespace Device
variable {β ε α : Type}

/-- The device without its history. -/
def current (device : Device β) : Device β := { device with journal := [], operations := [] }

def Alike (device other : Device β) : Prop := device.current = other.current

theorem Alike.history {device other : Device β} (alike : Alike device other) :
    ∃ journal operations, other = { device with journal, operations } := by
  cases device
  cases other
  simp only [Alike, current, mk.injEq] at alike
  simp [alike]

theorem alike_history (device : Device β) (journal : List Crossing)
    (operations : List QueueOperation) :
    Alike device { device with journal, operations } := rfl

/-- To treat alike devices alike is to treat a device alike under any history. -/
theorem respects_of_history {x : Program (Device β) ε α}
    (coupled : ∀ device journal operations,
      Coupled Alike x device x { device with journal, operations }) : Respects Alike x := by
  intro device other alike
  obtain ⟨journal, operations, rfl⟩ := alike.history
  exact coupled device journal operations

section Combinators

theorem respects_onRpu (x : Program (Rpu β) (RpuError ε) α) : Respects Alike (onRpu x) := by
  apply respects_onField ((respects_eq x).mapError _)
  · intro device other alike
    have same : device.current.rpu = other.current.rpu := congrArg Device.rpu alike
    exact same
  · intro device other rpu rpu' alike same
    obtain ⟨journal, operations, rfl⟩ := alike.history
    cases same
    rfl

theorem respects_perform (operation : QueueOperation) :
    Respects Alike (perform operation : Program (Device β) ε Unit) :=
  respects_modify fun _ _ alike => alike

theorem respects_record (crossing : Crossing) :
    Respects Alike (record crossing : Program (Device β) ε Unit) :=
  respects_modify fun _ _ alike => alike

theorem respects_ensureOperational :
    Respects Alike (ensureOperational : Program (Device β) (DeviceError ε) Unit) := by
  apply respects_of_history
  intro device journal operations
  apply coupled_get_bind
  apply coupled_ite
  · exact fun _ => coupled_throw _ rfl
  · exact fun _ => coupled_pure _ rfl

theorem respects_requireQueues :
    Respects Alike (requireQueues : Program (Device β) (DeviceError ε) HpqmInfo) := by
  apply respects_of_history
  intro device journal operations
  apply coupled_get_bind
  have alike := alike_history device journal operations
  dsimp only
  generalize device.queues = known at *
  cases known with
  | none => exact coupled_throw _ alike
  | some queues => exact coupled_pure _ alike

theorem respects_markDeliveryUncertain :
    Respects Alike (markDeliveryUncertain : Program (Device β) (DeviceError ε) α) := by
  apply Respects.bind
  · apply respects_of_history
    intro device journal operations
    exact coupled_modify rfl
  · exact fun _ => respects_throw _

theorem respects_orUncertain {x : Program (Device β) (DeviceError ε) α}
    (respects : Respects Alike x) : Respects Alike (orUncertain x) := by
  apply respects.attempt.bind
  intro r
  cases r with
  | ok value => exact respects_pure value
  | error failure => exact respects_markDeliveryUncertain

end Combinators

variable [Bus β ε]

/-! ## Queues -/

section Queues

theorem respects_enqueue (queue : Hpq) (value : UInt32) :
    Respects Alike (enqueue queue value : Program (Device β) (DeviceError ε) Unit) :=
  (respects_perform _).bind fun _ => respects_onRpu _

theorem respects_dequeue (queue : Hpq) :
    Respects Alike (dequeue queue : Program (Device β) (DeviceError ε) (Option UInt32)) := by
  apply (respects_perform _).bind
  intro _
  apply (respects_onRpu _).bind
  intro value
  have taken : Respects Alike (do
      onRpu (Rpu.writeRegister queue.dequeueAddress value)
      return some value : Program (Device β) (DeviceError ε) (Option UInt32)) :=
    (respects_onRpu _).bind fun _ => respects_pure _
  apply respects_ite
  · exact fun _ => respects_pure _
  · exact fun _ => respects_ite (fun _ => (respects_throw _).bind fun _ => taken) fun _ => taken

theorem respects_triggerCommand :
    Respects Alike (triggerCommand : Program (Device β) (DeviceError ε) Unit) := by
  apply (respects_perform _).bind
  intro _
  apply respects_of_history
  intro device journal operations
  apply coupled_get_bind
  have counted : Respects Alike (modify fun device : Device β =>
      { device with commandCounter := device.commandCounter + 1 } :
        Program (Device β) (DeviceError ε) PUnit) := by
    apply respects_of_history
    intro device journal operations
    exact coupled_modify rfl
  exact (respects_onRpu _).bind (fun _ => counted) _ _ rfl

theorem respects_enableInterrupts :
    Respects Alike (enableInterrupts : Program (Device β) (DeviceError ε) Unit) :=
  respects_ensureOperational.bind fun _ => (respects_onRpu _).bind fun _ =>
    (respects_onRpu _).bind fun _ => respects_onRpu _

theorem respects_initializeQueues :
    Respects Alike (initializeQueues : Program (Device β) (DeviceError ε) HpqmInfo) := by
  apply (respects_onRpu _).bind
  intro read
  apply (respects_liftResult _).bind
  intro queues
  have configured (base : UInt32) : Respects Alike (do
      modify fun device : Device β =>
        { device with
          queues := some queues
          rxCommandBase := base
          txCommandBase := rpuMemTxCmdBase
          commandCounter := rpuCommandCounterStart
          pendingEvent := none
          recoveryRequired := false }
      return queues : Program (Device β) (DeviceError ε) HpqmInfo) := by
    apply Respects.bind
    · apply respects_of_history
      intro device journal operations
      exact coupled_modify rfl
    · exact fun _ => respects_pure _
  have based : Respects Alike (do
      let base ← onRpu (Rpu.readU32 .lmac rpuMemRxCmdBase)
      if base = 0 ∨ base = 0xaaaaaaaa then throw .invalidQueueMap
      modify fun device : Device β =>
        { device with
          queues := some queues
          rxCommandBase := base
          txCommandBase := rpuMemTxCmdBase
          commandCounter := rpuCommandCounterStart
          pendingEvent := none
          recoveryRequired := false }
      return queues : Program (Device β) (DeviceError ε) HpqmInfo) := by
    apply (respects_onRpu _).bind
    intro base
    apply respects_ite
    · exact fun _ => (respects_throw _).bind fun _ => configured base
    · exact fun _ => configured base
  apply respects_ite
  · exact fun _ => (respects_throw _).bind fun _ => based
  · exact fun _ => based

end Queues

/-! ## Commands -/

section Commands

theorem respects_waitForCommandBuffer (queue : Hpq) (postedAny : Bool) (attempts : Nat) :
    Respects Alike (waitForCommandBuffer queue postedAny attempts :
      Program (Device β) (DeviceError ε) UInt32) := by
  induction attempts with
  | zero =>
      cases postedAny with
      | false => exact respects_throw _
      | true => exact respects_markDeliveryUncertain
  | succ attempts hypothesis =>
      apply (respects_orUncertain (respects_dequeue queue)).bind
      intro taken
      cases taken with
      | none => exact hypothesis
      | some value => exact respects_pure value

theorem respects_postControlFragment (queues : HpqmInfo) (address : UInt32) (fragment : Bytes) :
    Respects Alike (postControlFragment queues address fragment :
      Program (Device β) (DeviceError ε) Unit) :=
  (respects_orUncertain (respects_onRpu _)).bind fun _ =>
    (respects_orUncertain (respects_enqueue _ _)).bind fun _ =>
      respects_orUncertain respects_triggerCommand

theorem respects_sendFragmentsWithWait (queues : HpqmInfo) (attempts : Nat)
    (fragments : List Bytes) (postedAny : Bool) :
    Respects Alike (sendFragmentsWithWait queues attempts fragments postedAny :
      Program (Device β) (DeviceError ε) Unit) := by
  induction fragments generalizing postedAny with
  | nil => exact respects_pure _
  | cons fragment rest hypothesis =>
      apply (respects_waitForCommandBuffer _ _ _).bind
      intro address
      exact (respects_postControlFragment _ _ _).bind fun _ => hypothesis true

omit [Bus β ε] in
theorem respects_prepareReliableSend (message : Bytes) (attempts : Nat) :
    Respects Alike (prepareReliableSend message attempts :
      Program (Device β) (DeviceError ε) HpqmInfo) := by
  apply (respects_liftResult _).bind
  intro _
  apply respects_ensureOperational.bind
  intro _
  apply respects_ite
  · exact fun _ => (respects_throw _).bind fun _ => respects_requireQueues
  · exact fun _ => respects_requireQueues

theorem respects_sendControlWithWait (message : Bytes) (attempts : Nat) :
    Respects Alike (sendControlWithWait message attempts :
      Program (Device β) (DeviceError ε) Unit) := by
  apply (respects_prepareReliableSend message attempts).bind
  intro queues
  apply respects_of_history
  intro device journal operations
  apply coupled_get_bind
  exact (respects_sendFragmentsWithWait _ _ _ _).bind (fun _ => respects_record _) _ _ rfl

end Commands

end Device

end Nrf7002
