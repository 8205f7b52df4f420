import Nrf7002.Device
import Nrf7002.Foundation.Order

/-! # What the queue operations leave alone

Queue discovery, a reset and the choice of fragment limits configure a device.  No
other operation changes its configuration, and none but the end of a command or of an
event adds to the journal.  Both are views that ignore what the queue operations do. -/

set_option autoImplicit false

namespace Nrf7002
open Foundation

/-- What only queue discovery, a reset and the fragment limits set. -/
structure Configuration where
  queues : Option HpqmInfo
  rxCommandBase : UInt32
  txCommandBase : UInt32
  commandFragmentLen : FragmentLen defaultControlFragmentLen
  eventFragmentLen : FragmentLen maxEventFragmentLen

namespace Device
variable {β ε α σ γ : Type}

def configuration (device : Device β) : Configuration :=
  { queues := device.queues
    rxCommandBase := device.rxCommandBase
    txCommandBase := device.txCommandBase
    commandFragmentLen := device.commandFragmentLen
    eventFragmentLen := device.eventFragmentLen }

/-- The program keeps the configuration. -/
abbrev Steady (x : Program (Device β) ε α) : Prop := Keeps configuration x

abbrev SteadyWithBuffer (x : Program (Device β × Bytes) ε α) : Prop :=
  Keeps (fun s : Device β × Bytes => s.1.configuration) x

/-! ## Views of a device -/

/-- A view that sees no access to the hardware. -/
structure IgnoresAccess (view : Device β → γ) : Prop where
  rpu : ∀ (device : Device β) (rpu : Rpu β), view { device with rpu } = view device
  operations : ∀ (device : Device β) (operations : List QueueOperation),
    view { device with operations } = view device
  commandCounter : ∀ (device : Device β) (commandCounter : UInt32),
    view { device with commandCounter } = view device

/-- A view that does not see how far the commands and events in progress are. -/
structure IgnoresQueues (view : Device β → γ) : Prop extends IgnoresAccess view where
  pendingEvent : ∀ (device : Device β) (pendingEvent : Option PendingEvent),
    view { device with pendingEvent } = view device
  recoveryRequired : ∀ (device : Device β) (recoveryRequired : Bool),
    view { device with recoveryRequired } = view device

theorem ignoresQueues_configuration :
    IgnoresQueues (configuration : Device β → Configuration) :=
  ⟨⟨fun _ _ => rfl, fun _ _ => rfl, fun _ _ => rfl⟩, fun _ _ => rfl, fun _ _ => rfl⟩

theorem ignoresQueues_journal : IgnoresQueues (journal : Device β → List Crossing) :=
  ⟨⟨fun _ _ => rfl, fun _ _ => rfl, fun _ _ => rfl⟩, fun _ _ => rfl, fun _ _ => rfl⟩

/-! ## Accesses to the hardware -/

namespace IgnoresAccess
variable {view : Device β → γ} (ignores : IgnoresAccess view)
include ignores

theorem onRpu (x : Program (Rpu β) (RpuError ε) α) : Keeps view (onRpu x) :=
  keeps_onField _ fun rpu device => ignores.rpu device rpu

theorem onRpuWithBuffer (x : Program (Rpu β × Bytes) (RpuError ε) α) :
    Keeps (fun s : Device β × Bytes => view s.1) (onRpuWithBuffer x) :=
  keeps_onField _ fun part s => ignores.rpu s.1 part.1

theorem perform (operation : QueueOperation) :
    Keeps view (perform operation : Program (Device β) ε Unit) :=
  keeps_modify _ _ fun device => ignores.operations device _

variable [Bus β ε]

theorem enqueue (queue : Hpq) (value : UInt32) :
    Keeps view (enqueue queue value : Program (Device β) (DeviceError ε) Unit) :=
  (ignores.perform _).bind fun _ => ignores.onRpu _

theorem dequeue (queue : Hpq) :
    Keeps view (dequeue queue : Program (Device β) (DeviceError ε) (Option UInt32)) := by
  refine (ignores.perform _).bind fun _ => (ignores.onRpu _).bind fun value => ?_
  refine keeps_ite (fun _ => keeps_pure _ _) fun _ => ?_
  refine keeps_ite (fun _ => (keeps_throw _ _).bind fun _ => ?_) fun _ => ?_
  · exact (ignores.onRpu _).bind fun _ => keeps_pure _ _
  · exact (ignores.onRpu _).bind fun _ => keeps_pure _ _

theorem triggerCommand :
    Keeps view (triggerCommand : Program (Device β) (DeviceError ε) Unit) :=
  (ignores.perform _).bind fun _ => (keeps_get _).bind fun _ =>
    (ignores.onRpu _).bind fun _ => keeps_modify _ _ fun device =>
      ignores.commandCounter device _

theorem acknowledgeInterrupt :
    Keeps view (acknowledgeInterrupt : Program (Device β) (DeviceError ε) Unit) :=
  ignores.onRpu _

end IgnoresAccess

theorem keeps_ensureOperational (view : Device β → γ) :
    Keeps view (ensureOperational : Program (Device β) (DeviceError ε) Unit) :=
  (keeps_get _).bind fun _ => keeps_ite (fun _ => keeps_throw _ _) fun _ => keeps_pure _ _

theorem keeps_requireQueues (view : Device β → γ) :
    Keeps view (requireQueues : Program (Device β) (DeviceError ε) HpqmInfo) := by
  refine (keeps_get _).bind fun device => ?_
  cases device.queues with
  | none => exact keeps_throw _ _
  | some queues => exact keeps_pure _ _

theorem keeps_prepareReliableSend (view : Device β → γ) (message : Bytes) (attempts : Nat) :
    Keeps view (prepareReliableSend message attempts :
      Program (Device β) (DeviceError ε) HpqmInfo) := by
  refine (keeps_liftResult _ _).bind fun _ => (keeps_ensureOperational _).bind fun _ => ?_
  exact keeps_ite (fun _ => (keeps_throw _ _).bind fun _ => keeps_requireQueues _) fun _ =>
    keeps_requireQueues _

/-! ## Commands -/

namespace IgnoresQueues

section Commands
variable {view : Device β → γ} (ignores : IgnoresQueues view)
include ignores

theorem markDeliveryUncertain :
    Keeps view (markDeliveryUncertain : Program (Device β) (DeviceError ε) α) :=
  Keeps.bind (keeps_modify _ _ fun device => ignores.recoveryRequired device true) fun _ =>
    keeps_throw _ _

theorem orUncertain {x : Program (Device β) (DeviceError ε) α} (keeps : Keeps view x) :
    Keeps view (orUncertain x) := by
  refine keeps.attempt.bind fun r => ?_
  cases r with
  | ok value => exact keeps_pure _ _
  | error failure => exact ignores.markDeliveryUncertain

variable [Bus β ε]

theorem takeCommandBuffer (queue : Hpq) :
    Keeps view (takeCommandBuffer queue : Program (Device β) (DeviceError ε) UInt32) := by
  refine (ignores.orUncertain (ignores.dequeue queue)).bind fun taken => ?_
  cases taken with
  | none => exact keeps_throw _ _
  | some value => exact keeps_pure _ _

theorem waitForCommandBuffer (queue : Hpq) (postedAny : Bool) (attempts : Nat) :
    Keeps view (waitForCommandBuffer queue postedAny attempts :
      Program (Device β) (DeviceError ε) UInt32) := by
  induction attempts with
  | zero => exact keeps_ite (fun _ => ignores.markDeliveryUncertain) fun _ => keeps_throw _ _
  | succ attempts hypothesis =>
      refine (ignores.orUncertain (ignores.dequeue queue)).bind fun taken => ?_
      cases taken with
      | none => exact hypothesis
      | some value => exact keeps_pure _ _

theorem postControlFragment (queues : HpqmInfo) (address : UInt32) (fragment : Bytes) :
    Keeps view (postControlFragment queues address fragment :
      Program (Device β) (DeviceError ε) Unit) :=
  (ignores.orUncertain (ignores.onRpu _)).bind fun _ =>
    (ignores.orUncertain (ignores.enqueue _ _)).bind fun _ =>
      ignores.orUncertain ignores.triggerCommand

theorem sendFragmentsWithWait (queues : HpqmInfo) (attempts : Nat) (fragments : List Bytes)
    (postedAny : Bool) :
    Keeps view (sendFragmentsWithWait queues attempts fragments postedAny :
      Program (Device β) (DeviceError ε) Unit) := by
  induction fragments generalizing postedAny with
  | nil => exact keeps_pure _ _
  | cons fragment rest hypothesis =>
      exact (ignores.waitForCommandBuffer _ _ _).bind fun address =>
        (ignores.postControlFragment queues address fragment).bind fun _ => hypothesis true

end Commands

/-! ## Events -/

section Events
variable {view : Device β → γ} (ignores : IgnoresQueues view)
include ignores

theorem finishPendingEvent (pending : PendingEvent) (complete : Bool) :
    Keeps view (finishPendingEvent pending complete :
      Program (Device β) (DeviceError ε) PendingEventRead) := by
  have completed : Keeps view (do
      modify fun device => { device with pendingEvent := none }
      if pending.discard then return .discarded
      return .complete pending.declared :
        Program (Device β) (DeviceError ε) PendingEventRead) :=
    Keeps.bind (keeps_modify _ _ fun device => ignores.pendingEvent device none) fun _ =>
      keeps_ite (fun _ => keeps_pure _ _) fun _ => keeps_pure _ _
  exact keeps_ite (fun _ => Keeps.bind
    (keeps_modify _ _ fun device => ignores.pendingEvent device (some pending)) fun _ =>
      keeps_pure _ _) fun _ => completed

variable [Bus β ε]

theorem releaseEventFragment (queues : HpqmInfo) (address : UInt32) (resubmit : Bool) :
    Keeps view (Device.releaseEventFragment queues address resubmit :
      Program (Device β) (DeviceError ε) Unit) :=
  keeps_ite (fun _ => ignores.enqueue _ _) fun _ => keeps_pure _ _

theorem releaseAndAcknowledgeEvent (queues : HpqmInfo) (address : UInt32) (resubmit : Bool) :
    Keeps view (releaseAndAcknowledgeEvent queues address resubmit :
      Program (Device β) (DeviceError ε) Unit) :=
  (ignores.releaseEventFragment _ _ _).bind fun _ => ignores.acknowledgeInterrupt

theorem beginNewEvent (queues : HpqmInfo) :
    Keeps view (beginNewEvent queues :
      Program (Device β) (DeviceError ε) (Option NewEvent)) := by
  refine (ignores.dequeue _).bind fun taken => ?_
  cases taken with
  | none => exact keeps_pure _ _
  | some address =>
      have header : Keeps view (readEventHeader address :
          Program (Device β) (DeviceError ε) (Nat × Bool)) :=
        (ignores.onRpu _).bind fun _ => keeps_pure _ _
      exact header.bind fun _ => (keeps_get _).bind fun _ => keeps_pure _ _

theorem validateNewEvent (queues : HpqmInfo) (event : NewEvent) (capacity : Nat) :
    Keeps view (validateNewEvent queues event capacity :
      Program (Device β) (DeviceError ε) Unit) := by
  have reject : Keeps view (rejectOversizedEvent queues event :
      Program (Device β) (DeviceError ε) Unit) :=
    (ignores.releaseAndAcknowledgeEvent _ _ _).bind fun _ => keeps_ite (fun _ =>
      keeps_modify _ _ fun device => ignores.pendingEvent device _) fun _ => keeps_pure _ _
  have oversized : Keeps view (if capacity < event.declared then do
        rejectOversizedEvent queues event
        throw (.eventTooLarge event.declared capacity)
      else pure () : Program (Device β) (DeviceError ε) Unit) :=
    keeps_ite (fun _ => reject.bind fun _ => keeps_throw _ _) fun _ => keeps_pure _ _
  exact keeps_ite (fun _ => (ignores.releaseAndAcknowledgeEvent _ _ _).bind fun _ =>
    (keeps_throw _ _).bind fun _ => oversized) fun _ => oversized

theorem readInitialEventFragment (queues : HpqmInfo) (event : NewEvent) :
    Keeps (fun s : Device β × Bytes => view s.1) (readInitialEventFragment queues event :
      Program (Device β × Bytes) (DeviceError ε) Unit) :=
  (keeps_inSlice _ _ (ignores.onRpuWithBuffer _)).bind fun _ =>
    keeps_besideBuffer (ignores.releaseAndAcknowledgeEvent _ _ _)

theorem consumePendingFragment (queues : HpqmInfo) (pending : PendingEvent) (address : UInt32) :
    Keeps (fun s : Device β × Bytes => view s.1) (consumePendingFragment queues pending address :
      Program (Device β × Bytes) (DeviceError ε) PendingEvent) := by
  refine (keeps_get _).bind fun s => ?_
  have release (count : Nat) : Keeps (fun s : Device β × Bytes => view s.1) (do
      besideBuffer (Device.releaseEventFragment queues address pending.resubmit)
      return { pending with copied := pending.copied + count } :
        Program (Device β × Bytes) (DeviceError ε) PendingEvent) :=
    (keeps_besideBuffer (ignores.releaseEventFragment _ _ _)).bind fun _ => keeps_pure _ _
  exact keeps_ite (fun _ => (keeps_inSlice _ _ (ignores.onRpuWithBuffer _)).bind fun _ =>
    release _) fun _ => release _

theorem drainPendingFragments (queues : HpqmInfo) (rounds : Nat) (pending : PendingEvent)
    (removed : Bool) :
    Keeps (fun s : Device β × Bytes => view s.1)
      (drainPendingFragments queues rounds pending removed :
        Program (Device β × Bytes) (DeviceError ε) (PendingEvent × Bool × Bool)) := by
  induction rounds generalizing pending removed with
  | zero => exact keeps_pure _ _
  | succ rounds hypothesis =>
      refine keeps_ite (fun _ => ?_) fun _ => keeps_pure _ _
      refine (keeps_besideBuffer (ignores.dequeue _)).bind fun taken => ?_
      cases taken with
      | none => exact keeps_pure _ _
      | some address =>
          exact (ignores.consumePendingFragment _ _ _).bind fun pending => hypothesis pending true

theorem continuePendingEvent (queues : HpqmInfo) (scratchAddress : Nat) (pending : PendingEvent) :
    Keeps (fun s : Device β × Bytes => view s.1)
      (continuePendingEvent queues scratchAddress pending :
        Program (Device β × Bytes) (DeviceError ε) PendingEventRead) := by
  have drain : Keeps (fun s : Device β × Bytes => view s.1) (do
      let drained ← Device.drainPendingFragments queues (pending.declared - pending.copied)
        pending false
      if drained.2.1 then besideBuffer Device.acknowledgeInterrupt
      besideBuffer (Device.finishPendingEvent drained.1 drained.2.2) :
        Program (Device β × Bytes) (DeviceError ε) PendingEventRead) := by
    refine (ignores.drainPendingFragments _ _ _ _).bind fun drained => ?_
    have finish := keeps_besideBuffer (ε := DeviceError ε)
      (ignores.finishPendingEvent drained.1 drained.2.2)
    exact keeps_ite (fun _ => (keeps_besideBuffer ignores.acknowledgeInterrupt).bind fun _ =>
      finish) fun _ => finish
  refine (keeps_get _).bind fun s => ?_
  exact keeps_ite (fun _ => Keeps.bind
    (keeps_modify _ _ fun s => ignores.pendingEvent s.1 _) fun _ =>
      (keeps_throw _ _).bind fun _ => drain) fun _ => drain

end Events

end IgnoresQueues

/-! ## A complete event -/

/-- What a view shows after a read, if it shows a received message as `received` does. -/
def afterRead (received : γ → HostMessage → γ) :
    Except (DeviceError ε) (Option HostMessage) → γ → γ
  | .ok (some message), shown => received shown message
  | _, shown => shown

namespace IgnoresQueues

section Reads
variable {view : Device β → γ} (ignores : IgnoresQueues view) (received : γ → HostMessage → γ)
  (records : ∀ (device : Device β) (message : HostMessage),
    view { device with journal := device.journal ++ [.received message] } =
      received (view device) message)
include ignores records

omit ignores in
theorem post_parseEvent (scratch : Bytes) (declared : Nat) (device : Device β) :
    Post (parseEvent scratch declared :
        Program (Device β) (DeviceError ε) (Option HostMessage)) device
      (fun r next => view next = afterRead received r (view device)) := by
  rw [parseEvent, post_bind, post_liftResult]
  cases parseHostMessage (scratch.take declared) with
  | error failure => rfl
  | ok message =>
      dsimp only [Except.mapError]
      rw [post_bind, record, post_modify]
      exact (post_pure _ _ _).mpr (records device message)

theorem post_finishNewEvent (scratchAddress : Nat) (event : NewEvent) (s : Device β × Bytes) :
    Post (finishNewEvent scratchAddress event :
        Program (Device β × Bytes) (DeviceError ε) (Option HostMessage)) s
      (fun r t => view t.1 = afterRead received r (view s.1)) := by
  rw [finishNewEvent, post_bind, post_get]
  dsimp only
  rw [post_ite]
  split
  · rw [besideBuffer, post_onField]
    exact post_parseEvent received records _ _ s.1
  · rw [post_bind, post_modify]
    exact (post_pure _ _ _).mpr (ignores.pendingEvent s.1 _)

variable [Bus β ε]

theorem post_readNewEvent (queues : HpqmInfo) (scratchAddress : Nat) (s : Device β × Bytes) :
    Post (readNewEvent queues scratchAddress :
        Program (Device β × Bytes) (DeviceError ε) (Option HostMessage)) s
      (fun r t => view t.1 = afterRead received r (view s.1)) := by
  refine (keeps_besideBuffer (ignores.beginNewEvent queues)).bind_post
    (fun r shown seen => seen = afterRead received r shown) (fun _ _ => rfl) ?_ s
  intro taken s
  cases taken with
  | none => exact (post_pure _ _ _).mpr rfl
  | some event =>
      rw [post_bind, post_get]
      dsimp only
      refine (keeps_besideBuffer (ignores.validateNewEvent _ _ _)).bind_post
        (fun r shown seen => seen = afterRead received r shown) (fun _ _ => rfl) ?_ s
      intro valid s
      refine (ignores.readInitialEventFragment queues event).bind_post
        (fun r shown seen => seen = afterRead received r shown) (fun _ _ => rfl) ?_ s
      intro done s
      exact post_finishNewEvent ignores received records scratchAddress event s

theorem post_tryReadEvent (scratchAddress : Nat) (s : Device β × Bytes) :
    Post (tryReadEvent scratchAddress :
        Program (Device β × Bytes) (DeviceError ε) (Option HostMessage)) s
      (fun r t => view t.1 = afterRead received r (view s.1)) := by
  refine (keeps_besideBuffer (keeps_ensureOperational view)).bind_post
    (fun r shown seen => seen = afterRead received r shown) (fun _ _ => rfl) ?_ s
  intro operational s
  refine (keeps_besideBuffer (keeps_requireQueues view)).bind_post
    (fun r shown seen => seen = afterRead received r shown) (fun _ _ => rfl) ?_ s
  intro queues s
  rw [post_bind, post_get]
  dsimp only
  cases s.1.pendingEvent with
  | none => exact post_readNewEvent ignores received records queues scratchAddress s
  | some pending =>
      refine (ignores.continuePendingEvent queues scratchAddress pending).bind_post
        (fun r shown seen => seen = afterRead received r shown) (fun _ _ => rfl) ?_ s
      intro read s
      cases read with
      | waiting => exact (post_pure _ _ _).mpr rfl
      | discarded => exact post_readNewEvent ignores received records queues scratchAddress s
      | complete declared =>
          dsimp only
          rw [post_bind, post_get]
          dsimp only
          rw [besideBuffer, post_onField]
          exact post_parseEvent received records _ _ s.1

end Reads

end IgnoresQueues

/-! ## The configuration -/

section Steady

theorem steady_record (crossing : Crossing) :
    Steady (record crossing : Program (Device β) ε Unit) := keeps_modify _ _ fun _ => rfl

variable [Bus β ε]

theorem steady_sendControl (message : Bytes) :
    Steady (sendControl message : Program (Device β) (DeviceError ε) Unit) := by
  refine (keeps_liftResult _ _).bind fun _ => (keeps_ensureOperational _).bind fun _ =>
    (keeps_get _).bind fun device => ?_
  have send : Steady (do
      let queues ← requireQueues
      let address ← takeCommandBuffer queues.commandAvailable
      postControlFragment queues address message
      record (.sent message) : Program (Device β) (DeviceError ε) Unit) :=
    (keeps_requireQueues _).bind fun queues =>
      (ignoresQueues_configuration.takeCommandBuffer _).bind fun address =>
        (ignoresQueues_configuration.postControlFragment queues address message).bind fun _ =>
          steady_record _
  exact keeps_ite (fun _ => (keeps_throw _ _).bind fun _ => send) fun _ => send

theorem steady_sendControlWithWait (message : Bytes) (attempts : Nat) :
    Steady (sendControlWithWait message attempts : Program (Device β) (DeviceError ε) Unit) :=
  (keeps_prepareReliableSend _ _ _).bind fun _ => (keeps_get _).bind fun _ =>
    (ignoresQueues_configuration.sendFragmentsWithWait _ _ _ _).bind fun _ => steady_record _

theorem steady_tryReadEvent (scratchAddress : Nat) :
    SteadyWithBuffer (tryReadEvent scratchAddress :
      Program (Device β × Bytes) (DeviceError ε) (Option HostMessage)) := by
  refine (keeps_iff_post _ _).mpr fun s => ?_
  refine (ignoresQueues_configuration.post_tryReadEvent (fun shown _ => shown) (fun _ _ => rfl)
    scratchAddress s).mono ?_
  intro r t same
  rw [same]
  cases r with
  | error failure => rfl
  | ok message => cases message <;> rfl

end Steady

/-! ## The journal -/

section Journal

/-- A success adds to the journal what `Added` says, and an error adds nothing. -/
def Adds {δ : Type} (Added : α → List Crossing → Prop) :
    Except δ α → List Crossing → List Crossing → Prop
  | .ok value, before, after => ∃ added, Added value added ∧ after = before ++ added
  | .error _, before, after => after = before

theorem growsBy_of_adds {δ : Type} {P : Crossing → Prop} {Added : α → List Crossing → Prop}
    {r : Except δ α} {before after : List Crossing} (adds : Adds Added r before after)
    (all : ∀ value added, Added value added → ∀ crossing ∈ added, P crossing) :
    GrowsBy P before after := by
  cases r with
  | error failure =>
      rw [show after = before from adds]
      exact growsBy_refl P before
  | ok value =>
      obtain ⟨added, holds, grown⟩ := adds
      exact ⟨added, grown, all value added holds⟩

variable [Bus β ε]

/-- A message is in the journal once it was delivered in full. -/
theorem journal_sendControlWithWait (message : Bytes) (attempts : Nat) (device : Device β) :
    Post (sendControlWithWait message attempts : Program (Device β) (DeviceError ε) Unit) device
      (fun r next =>
        Adds (fun _ added => added = [.sent message]) r device.journal next.journal) := by
  refine (keeps_prepareReliableSend journal message attempts).bind_post _ (fun _ _ => rfl) ?_ device
  intro queues device
  rw [post_bind, post_get]
  refine (ignoresQueues_journal.sendFragmentsWithWait _ _ _ _).bind_post _ (fun _ _ => rfl) ?_
    device
  intro done device
  rw [record, post_modify]
  exact ⟨_, rfl, rfl⟩

/-- An event is in the journal once the caller has it. -/
theorem journal_tryReadEvent (scratchAddress : Nat) (s : Device β × Bytes) :
    Post (tryReadEvent scratchAddress :
        Program (Device β × Bytes) (DeviceError ε) (Option HostMessage)) s
      (fun r t => t.1.journal =
        afterRead (fun journal message => journal ++ [.received message]) r s.1.journal) :=
  ignoresQueues_journal.post_tryReadEvent _ (fun _ _ => rfl) scratchAddress s

end Journal

end Device

end Nrf7002
