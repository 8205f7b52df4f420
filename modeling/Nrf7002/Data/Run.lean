import Nrf7002.Data.Tokens
import Nrf7002.Device.Configuration

/-! # Runs of a data link

Every public operation of the device and of the data path, in any order, on a bus
that may change by itself between two of them. -/

set_option autoImplicit false

namespace Nrf7002
open Foundation

inductive LinkMove (β : Type) where
  | hardware (bus : β)
  | initializeQueues
  | resetQueueState
  | setFragmentLimits (commandLen eventLen : Nat)
  | discardPendingEvent
  | sendControl (message : Bytes)
  | sendControlWithWait (message : Bytes) (attempts : Nat)
  | tryReadEvent (scratchAddress : Nat) (scratch : Bytes)
  | postRx (descriptor : UInt16) (poolId : Nat)
  | postAllRx
  | receivePacket (event : RxEvent) (index : Nat) (output : Bytes)
  | transmit (wdevId : UInt8) (frame : Bytes) (dscpTos : UInt16)
  | completeTx (token : UInt8)
  | resetAfterRpuReset

namespace DataLink
variable {β ε α : Type} {rx tx : Nat}

def start (bus : β) (path : DataPath rx tx) : DataLink β rx tx := { device := Device.new bus, path }

def step [Bus β ε] (link : DataLink β rx tx) : LinkMove β → DataLink β rx tx
  | .hardware bus => { link with device := { link.device with rpu := { bus } } }
  | .initializeQueues => { link with device := stateAfter Device.initializeQueues link.device }
  | .resetQueueState => { link with device := link.device.resetQueueState }
  | .setFragmentLimits commandLen eventLen =>
      { link with device := (link.device.setFragmentLimits commandLen eventLen).getD link.device }
  | .discardPendingEvent => { link with device := link.device.discardPendingEvent.2 }
  | .sendControl message =>
      { link with device := stateAfter (Device.sendControl message) link.device }
  | .sendControlWithWait message attempts =>
      { link with device := stateAfter (Device.sendControlWithWait message attempts) link.device }
  | .tryReadEvent scratchAddress scratch =>
      { link with
        device := (stateAfter (Device.tryReadEvent scratchAddress) (link.device, scratch)).1 }
  | .postRx descriptor poolId => stateAfter (DataPath.postRx descriptor poolId) link
  | .postAllRx => stateAfter DataPath.postAllRx link
  | .receivePacket event index output =>
      (stateAfter (DataPath.receivePacket event index) (link, output)).1
  | .transmit wdevId frame dscpTos => stateAfter (DataPath.transmit wdevId frame dscpTos) link
  | .completeTx token => { link with path := stateAfter (DataPath.completeTx token) link.path }
  | .resetAfterRpuReset => { link with path := link.path.resetAfterRpuReset }

/-! ## What the data operations leave alone -/

/-- The program keeps the device's configuration and recovery flag, and the layout. -/
abbrev Calm (x : Program (DataLink β rx tx) ε α) : Prop :=
  Keeps (fun link : DataLink β rx tx =>
    (link.device.configuration, link.device.recoveryRequired, link.path.layout)) x

abbrev CalmWithBuffer (x : Program (DataLink β rx tx × Bytes) ε α) : Prop :=
  Keeps (fun s : DataLink β rx tx × Bytes =>
    (s.1.device.configuration, s.1.device.recoveryRequired, s.1.path.layout)) x

/-- A view that sees neither an access to the hardware nor the owner of a descriptor or
of a token. -/
structure IgnoresTransfers {γ : Type} (view : DataLink β rx tx → γ) : Prop where
  device : ∀ path, Device.IgnoresAccess fun device => view { device, path }
  path : ∀ (link : DataLink β rx tx) (path : DataPath rx tx), path.layout = link.path.layout →
    view { link with path } = view link

theorem ignoresTransfers_calm : IgnoresTransfers fun link : DataLink β rx tx =>
    (link.device.configuration, link.device.recoveryRequired, link.path.layout) where
  device _ := ⟨fun _ _ => rfl, fun _ _ => rfl, fun _ _ => rfl⟩
  path link path same := by simp only [same]

theorem ignoresTransfers_journal :
    IgnoresTransfers fun link : DataLink β rx tx => link.device.journal :=
  ⟨fun _ => ⟨fun _ _ => rfl, fun _ _ => rfl, fun _ _ => rfl⟩, fun _ _ _ => rfl⟩

namespace IgnoresTransfers
variable {γ : Type} {view : DataLink β rx tx → γ} (ignores : IgnoresTransfers view)
include ignores

theorem onRpu (x : Program (Rpu β) (RpuError ε) α) :
    Keeps view (DataPath.onRpu x : Program (DataLink β rx tx) (DataError ε) α) :=
  keeps_onField _ fun rpu link => (ignores.device link.path).rpu link.device rpu

theorem modifyPath (f : DataPath rx tx → DataPath rx tx)
    (same : ∀ path, (f path).layout = path.layout) :
    Keeps view (DataPath.onPath (modify f) : Program (DataLink β rx tx) ε PUnit) := by
  refine (keeps_iff_post _ _).mpr fun link => ?_
  rw [DataPath.onPath, post_onField, post_modify]
  exact ignores.path link _ (same link.path)

omit ignores in
theorem onDevice {x : Program (Device β) ε α}
    (keeps : ∀ path, Keeps (fun device => view { device, path }) x) :
    Keeps view (DataPath.onDevice x) := by
  refine (keeps_iff_post _ _).mpr fun link => ?_
  rw [DataPath.onDevice, post_onField]
  exact (keeps link.path).post link.device

theorem orRelease (token : UInt8) {x : Program (DataLink β rx tx) (DataError ε) α}
    (keeps : Keeps view x) : Keeps view (DataPath.orRelease token x) := by
  refine keeps.attempt.bind fun r => ?_
  cases r with
  | ok value => exact keeps_pure _ _
  | error failure =>
      exact (ignores.modifyPath _ (by intro path; rfl)).bind fun _ => keeps_throw _ _

theorem reserveToken :
    Keeps view (DataPath.reserveToken : Program (DataLink β rx tx) (DataError ε) UInt8) := by
  refine (keeps_iff_post _ _).mpr fun link => ?_
  rw [DataPath.reserveToken, post_bind, post_get]
  dsimp only
  cases found : link.path.reserveTx with
  | none => exact (post_throw _ _ _).mpr rfl
  | some reservation =>
      obtain ⟨token, reserved⟩ := reservation
      obtain ⟨_, _, layout, _⟩ := DataPath.reserveTx_eq_some link.path found
      simp only [post_bind, post_set, post_pure]
      exact ignores.path link reserved layout

variable [Bus β ε]

theorem postRx (descriptor : UInt16) (poolId : Nat) :
    Keeps view (DataPath.postRx descriptor poolId :
      Program (DataLink β rx tx) (DataError ε) Unit) := by
  refine (keeps_get _).bind fun link => (keeps_liftResult _ _).bind fun index =>
    (keeps_liftResult _ _).bind fun context => (keeps_liftResult _ _).bind fun slot => ?_
  have prepare : Keeps view (DataPath.prepareRxDescriptor slot context.2 descriptor :
      Program (DataLink β rx tx) (DataError ε) UInt32) :=
    (ignores.onRpu _).bind fun _ => (ignores.onRpu _).bind fun _ => keeps_pure _ _
  refine prepare.bind fun address => (ignores.modifyPath _ (by intro path; rfl)).bind fun _ => ?_
  exact (onDevice fun path => (ignores.device path).enqueue _ _).mapError _

theorem postAllRx :
    Keeps view (DataPath.postAllRx : Program (DataLink β rx tx) (DataError ε) Unit) := by
  have from_ (rest descriptor : Nat) : Keeps view (DataPath.postAllRxFrom rest descriptor :
      Program (DataLink β rx tx) (DataError ε) Unit) := by
    induction rest generalizing descriptor with
    | zero => exact keeps_pure _ _
    | succ rest hypothesis =>
        exact (keeps_get _).bind fun link => keeps_ite
          (fun _ => (ignores.postRx _ _).bind fun _ => hypothesis _) fun _ => hypothesis _
  exact from_ rx 0

theorem receivePacket (event : RxEvent) (index : Nat) :
    Keeps (fun s : DataLink β rx tx × Bytes => view s.1) (DataPath.receivePacket event index :
      Program (DataLink β rx tx × Bytes) (DataError ε) ReceivedFrame) := by
  have take : Keeps view (DataPath.takeRxDescriptor event index :
      Program (DataLink β rx tx) (DataError ε) RxPacketInfo) := by
    refine (keeps_liftResult _ _).bind fun info => (keeps_get _).bind fun link => ?_
    have mark : Keeps view (do
        DataPath.onPath (modify (·.setPosted info.descriptorId.toNat false))
        return info : Program (DataLink β rx tx) (DataError ε) RxPacketInfo) :=
      (ignores.modifyPath _ (by intro path; rfl)).bind fun _ => keeps_pure _ _
    exact keeps_ite (fun _ => (keeps_throw _ _).bind fun _ => mark) fun _ => mark
  have capacity (info : RxPacketInfo) (outputLen : Nat) :
      Keeps view (DataPath.ensureReceiveCapacity info outputLen :
        Program (DataLink β rx tx) (DataError ε) Unit) := by
    refine (keeps_get _).bind fun link => ?_
    have small : Keeps view (if outputLen < info.packetLen.toNat then do
          DataPath.postRx info.descriptorId 0
          throw (.outputTooSmall info.packetLen.toNat outputLen)
        else pure () : Program (DataLink β rx tx) (DataError ε) Unit) :=
      keeps_ite (fun _ => (ignores.postRx _ _).bind fun _ => keeps_throw _ _) fun _ =>
        keeps_pure _ _
    exact keeps_ite (fun _ => (ignores.postRx _ _).bind fun _ =>
      (keeps_throw _ _).bind fun _ => small) fun _ => small
  have read (info : RxPacketInfo) (slot : UInt32) : Keeps (fun s : DataLink β rx tx × Bytes =>
      view s.1) (DataPath.readRxOrRepost info slot :
        Program (DataLink β rx tx × Bytes) (DataError ε) Unit) := by
    refine Keeps.bind (Keeps.attempt (keeps_onField _ fun part s =>
      (ignores.device s.1.path).rpu s.1.device part.1)) fun r => ?_
    cases r with
    | ok done => exact keeps_pure _ _
    | error failure => exact (keeps_besideBuffer (ignores.postRx _ _)).bind fun _ => keeps_throw _ _
  have convert (info : RxPacketInfo) (macHeaderLen : Nat) :
      Keeps (fun s : DataLink β rx tx × Bytes => view s.1)
        (DataPath.convertReceived info macHeaderLen :
          Program (DataLink β rx tx × Bytes) (DataError ε) (Except ConversionFailure Nat)) :=
    Keeps.bind (Keeps.attempt (keeps_onField _ fun _ _ => rfl)) fun _ =>
      keeps_ite (fun _ => (keeps_throw _ _).bind fun _ => keeps_pure _ _) fun _ => keeps_pure _ _
  exact (keeps_besideBuffer take).bind fun info => (keeps_get _).bind fun s =>
    (keeps_besideBuffer (capacity _ _)).bind fun _ => (keeps_liftResult _ _).bind fun slot =>
      (keeps_inSlice _ _ (read _ _)).bind fun _ => (keeps_inSlice _ _ (convert _ _)).bind fun _ =>
        (keeps_besideBuffer (ignores.postRx _ _)).bind fun _ => (keeps_get _).bind fun _ =>
          keeps_liftResult _ _

theorem prepareTransmit (frame : Bytes) :
    Keeps view (DataPath.prepareTransmit frame :
      Program (DataLink β rx tx) (DataError ε) (UInt8 × UInt32)) := by
  have write (address : UInt32) : Keeps view (DataPath.writePacket address frame :
      Program (DataLink β rx tx) (DataError ε) Unit) := by
    have tail : Keeps view (if frame.length / 4 * 4 ≠ frame.length then
        DataPath.onRpu (Rpu.write .umac (address + UInt32.ofNat (frame.length / 4 * 4))
          (frame.drop (frame.length / 4 * 4) ++
            List.replicate (4 - (frame.length - frame.length / 4 * 4)) 0))
        else pure () : Program (DataLink β rx tx) (DataError ε) Unit) :=
      keeps_ite (fun _ => ignores.onRpu _) fun _ => keeps_pure _ _
    exact keeps_ite (fun _ => (ignores.onRpu _).bind fun _ => tail) fun _ => tail
  exact (keeps_get _).bind fun _ => (keeps_liftResult _ _).bind fun _ =>
    ignores.reserveToken.bind fun _ => (keeps_liftResult _ _).bind fun _ =>
      (ignores.orRelease _ (write _)).bind fun _ => keeps_pure _ _

theorem submitTransmit (token : UInt8) (packetAddress : UInt32) (wdevId : UInt8) (frame : Bytes)
    (dscpTos : UInt16) :
    Keeps view (DataPath.submitTransmit token packetAddress wdevId frame dscpTos :
      Program (DataLink β rx tx) (DataError ε) Unit) := by
  have deliver (queue : Hpq) (address : UInt32) :
      Keeps view (DataPath.deliverTransmitCommand queue address :
        Program (DataLink β rx tx) (DataError ε) Unit) :=
    Keeps.mapError ((onDevice fun path => (ignores.device path).enqueue _ _).bind fun _ =>
      onDevice fun path => (ignores.device path).triggerCommand) _
  exact (keeps_get _).bind fun link => (keeps_liftResult _ _).bind fun context =>
    (ignores.orRelease _ (ignores.onRpu _)).bind fun _ => deliver _ _

end IgnoresTransfers

section Calm
variable [Bus β ε]

theorem calm_postRx (descriptor : UInt16) (poolId : Nat) :
    Calm (DataPath.postRx descriptor poolId : Program (DataLink β rx tx) (DataError ε) Unit) :=
  ignoresTransfers_calm.postRx descriptor poolId

theorem calm_postAllRx :
    Calm (DataPath.postAllRx : Program (DataLink β rx tx) (DataError ε) Unit) :=
  ignoresTransfers_calm.postAllRx

theorem calm_receivePacket (event : RxEvent) (index : Nat) :
    CalmWithBuffer (DataPath.receivePacket event index :
      Program (DataLink β rx tx × Bytes) (DataError ε) ReceivedFrame) :=
  ignoresTransfers_calm.receivePacket event index

theorem calm_prepareTransmit (frame : Bytes) :
    Calm (DataPath.prepareTransmit frame :
      Program (DataLink β rx tx) (DataError ε) (UInt8 × UInt32)) :=
  ignoresTransfers_calm.prepareTransmit frame

theorem calm_transmit (wdevId : UInt8) (frame : Bytes) (dscpTos : UInt16) :
    Calm (DataPath.transmit wdevId frame dscpTos :
      Program (DataLink β rx tx) (DataError ε) UInt8) :=
  (calm_prepareTransmit frame).bind fun _ =>
    (ignoresTransfers_calm.submitTransmit _ _ _ _ _).bind fun _ =>
      Keeps.bind (IgnoresTransfers.onDevice fun _ => keeps_modify _ _ (by intro device; rfl))
        fun _ => keeps_pure _ _

end Calm

/-- A frame is in the journal, under its token, once firmware has it. -/
theorem journal_transmit [Bus β ε] (wdevId : UInt8) (frame : Bytes) (dscpTos : UInt16)
    (link : DataLink β rx tx) :
    Post (DataPath.transmit wdevId frame dscpTos :
        Program (DataLink β rx tx) (DataError ε) UInt8) link
      (fun r next => Device.Adds (fun token added => added = [.transmitted token.toNat frame]) r
        link.device.journal next.device.journal) := by
  refine (ignoresTransfers_journal.prepareTransmit frame).bind_post _ (fun _ _ => rfl) ?_ link
  intro prepared link
  refine (ignoresTransfers_journal.submitTransmit _ _ _ _ _).bind_post _ (fun _ _ => rfl) ?_ link
  intro done link
  rw [post_bind, DataPath.onDevice, post_onField, Device.record, post_modify]
  exact (post_pure _ _ _).mpr ⟨_, rfl, rfl⟩

/-! ## Invariants of a run -/

section Invariants
variable [Bus β ε]

/-- The layout never changes, and the transmit command base is unset or the fixed one. -/
structure Grounded (layout : Layout rx tx) (link : DataLink β rx tx) : Prop where
  layout : link.path.layout = layout
  base : link.device.txCommandBase = 0 ∨ link.device.txCommandBase = rpuMemTxCmdBase

omit [Bus β ε] in
theorem Grounded.of_same {layout : Layout rx tx} {link next : DataLink β rx tx}
    (grounded : Grounded layout link) (path : next.path.layout = link.path.layout)
    (device : next.device.configuration = link.device.configuration) : Grounded layout next := by
  have base : next.device.txCommandBase = link.device.txCommandBase :=
    congrArg Configuration.txCommandBase device
  exact ⟨path.trans grounded.layout, base ▸ grounded.base⟩

omit [Bus β ε] in
theorem Grounded.of_calm {layout : Layout rx tx} {link next : DataLink β rx tx}
    (grounded : Grounded layout link)
    (same : (next.device.configuration, next.device.recoveryRequired, next.path.layout) =
      (link.device.configuration, link.device.recoveryRequired, link.path.layout)) :
    Grounded layout next := by
  obtain ⟨device, _, path⟩ := by simpa only [Prod.mk.injEq] using same
  exact grounded.of_same path device

/-- Queue discovery either fails and changes the bus only, or configures the device. -/
theorem post_initializeQueues (device : Device β) :
    Post (Device.initializeQueues : Program (Device β) (DeviceError ε) HpqmInfo) device
      (fun r next => match r with
        | .ok queues => next.queues = some queues ∧ next.txCommandBase = rpuMemTxCmdBase ∧
            next.operations = device.operations ∧ next.recoveryRequired = false
        | .error _ => next.withoutBus = device.withoutBus) := by
  rw [Device.initializeQueues, post_bind]
  refine ((Device.keeps_onRpu _).post device).mono ?_
  intro r first same
  cases r with
  | error failure => exact same
  | ok read =>
      dsimp only
      rw [post_bind, post_liftResult]
      cases ((HpqmInfo.parse read.2).mapError .protocol : Except (DeviceError ε) HpqmInfo) with
      | error failure => exact same
      | ok queues =>
          dsimp only
          rw [post_ite]
          by_cases valid : Device.queueMapIsValid queues = true
          · rw [if_neg (not_not_intro valid), post_bind]
            refine ((Device.keeps_onRpu _).post first).mono ?_
            intro r second later
            cases r with
            | error failure => exact later.trans same
            | ok base =>
                dsimp only
                rw [post_ite]
                by_cases unset : base = 0 ∨ base = 0xaaaaaaaa
                · rw [if_pos unset, post_bind, post_throw]
                  exact later.trans same
                · rw [if_neg unset]
                  simp only [post_bind, post_modify, post_pure]
                  exact ⟨trivial, trivial, Device.operations_eq (later.trans same), trivial⟩
          · rw [if_pos valid, post_bind, post_throw]
            exact same

theorem grounded_step {layout : Layout rx tx} (link : DataLink β rx tx) (move : LinkMove β)
    (grounded : Grounded layout link) : Grounded layout (step link move) := by
  cases move with
  | hardware bus => exact grounded.of_same rfl rfl
  | resetQueueState => exact ⟨grounded.layout, .inl rfl⟩
  | discardPendingEvent =>
      refine grounded.of_same rfl ?_
      simp only [step, Device.discardPendingEvent]
      cases link.device.pendingEvent <;> rfl
  | setFragmentLimits commandLen eventLen =>
      refine ⟨grounded.layout, ?_⟩
      have base := grounded.base
      simp only [step, Device.setFragmentLimits]
      split
      · split
        · exact base
        · exact base
      · exact base
  | initializeQueues =>
      have ends := (post_initializeQueues link.device).ends
      refine ⟨grounded.layout, ?_⟩
      simp only [step]
      generalize resultOf Device.initializeQueues link.device = r at ends
      cases r with
      | ok queues => exact .inr ends.2.1
      | error failure => exact Device.txCommandBase_eq ends ▸ grounded.base
  | sendControl message =>
      exact grounded.of_same rfl (Device.steady_sendControl message link.device)
  | sendControlWithWait message attempts =>
      exact grounded.of_same rfl (Device.steady_sendControlWithWait message attempts link.device)
  | tryReadEvent scratchAddress scratch =>
      exact grounded.of_same rfl (Device.steady_tryReadEvent scratchAddress (link.device, scratch))
  | postRx descriptor poolId => exact grounded.of_calm (calm_postRx descriptor poolId link)
  | postAllRx => exact grounded.of_calm (calm_postAllRx link)
  | receivePacket event index output =>
      exact grounded.of_calm (calm_receivePacket event index (link, output))
  | transmit wdevId frame dscpTos =>
      exact grounded.of_calm (calm_transmit wdevId frame dscpTos link)
  | completeTx token =>
      refine grounded.of_same ?_ rfl
      have ends := (DataPath.post_completeTx link.path token).ends
      simp only [step]
      split at ends
      · rw [ends.2]
        rfl
      · rw [ends.2]
  | resetAfterRpuReset => exact grounded.of_same rfl rfl

theorem Reachable.grounded {path : DataPath rx tx} {bus : β} {link : DataLink β rx tx}
    (reachable : Reachable step (start bus path) link) : Grounded path.layout link :=
  reachable.invariant ⟨rfl, .inl rfl⟩ grounded_step

end Invariants

end DataLink

end Nrf7002
