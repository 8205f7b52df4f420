import Nrf7002.Data.Posting
import Nrf7002.Data.Run
import Nrf7002.Device.Alike
import Nrf7002.Runtime.Run

/-! # Recovery on two drivers

After the reset of the queues nothing of a driver's past is left but its history
variables.  The rest of the bring-up therefore runs alike on a driver of any past and
on a new one, as long as the board behaves alike. -/

set_option autoImplicit false

namespace Nrf7002
open Foundation

namespace StationController

/-- What a constructor sets and no operation changes. -/
def ids (station : StationController) : Int32 × Int8 × UInt32 :=
  (station.ifaceindex, station.firmwareIndex, station.wdevId)

/-- The station without the fault it last reported and its message buffer. -/
def connection (station : StationController) : StationController :=
  { station with lastFault := none, command := [] }

/-- A station in recovery remembers its setup and its timeouts only. -/
theorem connection_beginRecovery {station other : StationController}
    (same : station.ids = other.ids) (timeouts : station.timeouts = other.timeouts) :
    station.beginRecovery.connection = other.beginRecovery.connection := by
  simp only [ids, Prod.mk.injEq] at same
  simp [connection, beginRecovery, transition, clearConnection, timeoutFor, same, timeouts]

end StationController

namespace DataLink
variable {β ε α : Type} {rx tx : Nat}

def Alike (link other : DataLink β rx tx) : Prop :=
  link.device.Alike other.device ∧ link.path = other.path

theorem Alike.history {link other : DataLink β rx tx} (alike : Alike link other) :
    ∃ journal operations,
      other = { link with device := { link.device with journal, operations } } := by
  obtain ⟨device, path⟩ := alike
  obtain ⟨journal, operations, same⟩ := device.history
  cases link
  cases other
  cases path
  exact ⟨journal, operations, congrArg (DataLink.mk · _) same⟩

section Combinators

theorem respects_onRpu (x : Program (Rpu β) (RpuError ε) α) :
    Respects Alike (DataPath.onRpu x : Program (DataLink β rx tx) (DataError ε) α) := by
  apply respects_onField ((respects_eq x).mapError _)
  · intro link other alike
    obtain ⟨journal, operations, rfl⟩ := alike.history
    rfl
  · intro link other rpu rpu' alike same
    obtain ⟨journal, operations, rfl⟩ := alike.history
    cases same
    exact ⟨rfl, rfl⟩

theorem respects_onDevice {x : Program (Device β) ε α} (respects : Respects Device.Alike x) :
    Respects Alike (DataPath.onDevice x : Program (DataLink β rx tx) ε α) :=
  respects_onField respects (fun _ _ alike => alike.1) fun _ _ _ _ alike device =>
    ⟨device, alike.2⟩

theorem respects_modifyPath (f : DataPath rx tx → DataPath rx tx) :
    Respects Alike (DataPath.onPath (modify f) : Program (DataLink β rx tx) ε PUnit) :=
  respects_onField (respects_eq _) (fun _ _ alike => alike.2) fun _ _ _ _ alike path =>
    ⟨alike.1, path⟩

end Combinators

variable [Bus β ε]

theorem respects_postRx (descriptor : UInt16) (poolId : Nat) :
    Respects Alike
      (DataPath.postRx descriptor poolId : Program (DataLink β rx tx) (DataError ε) Unit) := by
  intro link other alike
  obtain ⟨journal, operations, rfl⟩ := alike.history
  apply coupled_get_bind
  have rest (index : Nat) (context : Hpq × UInt32) (slot : UInt32) :
      Respects Alike (do
        let address ← DataPath.prepareRxDescriptor slot context.2 descriptor
        DataPath.onPath (modify (·.setPosted index true))
        DataPath.deliverRxDescriptor context.1 address :
          Program (DataLink β rx tx) (DataError ε) Unit) := by
    have prepare : Respects Alike (DataPath.prepareRxDescriptor slot context.2 descriptor :
        Program (DataLink β rx tx) (DataError ε) UInt32) :=
      (respects_onRpu _).bind fun _ => (respects_onRpu _).bind fun _ => respects_pure _
    exact prepare.bind fun address => (respects_modifyPath _).bind fun _ =>
      (respects_onDevice (Device.respects_enqueue _ _)).mapError _
  apply (coupled_liftResult _ alike).bind
  intro index link other alike
  apply (coupled_liftResult _ alike).bind
  intro context link other alike
  apply (coupled_liftResult _ alike).bind
  intro slot link other alike
  exact rest index context slot link other alike

theorem respects_postAllRx :
    Respects Alike (DataPath.postAllRx : Program (DataLink β rx tx) (DataError ε) Unit) := by
  have posting (rest descriptor : Nat) : Respects Alike
      (DataPath.postAllRxFrom rest descriptor : Program (DataLink β rx tx) (DataError ε) Unit) := by
    induction rest generalizing descriptor with
    | zero => exact respects_pure _
    | succ rest hypothesis =>
        intro link other alike
        apply coupled_get_bind
        rw [alike.2]
        apply coupled_ite
        · intro _
          exact ((respects_postRx _ _).bind fun _ => hypothesis _) link other alike
        · intro _
          exact hypothesis _ link other alike
  exact posting rx 0

end DataLink

namespace NativeDriver
variable {β ε π ρ α : Type} {rx tx : Nat}

/-! ## Two drivers next to their boards -/

/-- The drivers agree in what a bring-up works on. -/
def Alike (driver other : NativeDriver β rx tx) : Prop :=
  driver.device.Alike other.device ∧ driver.data = other.data

/-- Drivers that are alike, next to boards in the same state. -/
def Together (s t : NativeDriver β rx tx × π) : Prop := s.1.Alike t.1 ∧ s.2 = t.2

section Combinators

theorem respects_onDevice {x : Program (Device β) (DeviceError ε) α}
    (respects : Respects Device.Alike x) :
    Respects Alike (onDevice x : Program (NativeDriver β rx tx) (DriverError ε) α) :=
  respects_onField (respects.mapError _) (fun _ _ alike => alike.1) fun _ _ _ _ alike device =>
    ⟨device, alike.2⟩

theorem respects_onRpu (x : Program (Rpu β) (RpuError ε) α) :
    Respects Alike (onRpu x : Program (NativeDriver β rx tx) (DriverError ε) α) :=
  respects_onDevice (Device.respects_onRpu x)

theorem respects_onLink {x : Program (DataLink β rx tx) (DataError ε) α}
    (respects : Respects DataLink.Alike x) :
    Respects Alike (onLink x : Program (NativeDriver β rx tx) (DriverError ε) α) :=
  respects_onField (respects.mapError _) (fun _ _ alike => alike) fun _ _ _ _ _ link => link

theorem respects_loadFirmware (load : Program (Rpu β) (LoadError ε) FirmwareReport) :
    Respects Alike
      (loadFirmware load : Program (NativeDriver β rx tx) (DriverError ε) FirmwareReport) := by
  apply respects_onField ((respects_eq load).mapError _)
  · intro driver other alike
    obtain ⟨journal, operations, same⟩ := alike.1.history
    rw [same]
  · intro driver other rpu rpu' alike same
    obtain ⟨journal, operations, device⟩ := alike.1.history
    cases same
    constructor
    · dsimp only
      rw [device]
      rfl
    · exact alike.2

/-- The message is encoded in a local buffer: no field of the driver takes part. -/
theorem respects_systemInitMessage (config : SystemInitConfig) :
    Respects Alike
      (systemInitMessage config : Program (NativeDriver β rx tx) (DriverError ε) Bytes) := by
  have encoding : Respects Alike (withLocal (List.replicate systemInitMessageLen 0)
      (onField Prod.snd (fun message s => (s.1, message))
        (mapError .protocol (encodeSystemInit config))) :
          Program (NativeDriver β rx tx) (DriverError ε) (Nat × Bytes)) := by
    intro driver other alike
    constructor
    all_goals
      simp only [resultOf, stateAfter, withLocal, onField]
      cases (mapError DriverError.protocol (encodeSystemInit config) :
        Program Bytes (DriverError ε) Nat) (List.replicate systemInitMessageLen 0)
    · rfl
    · rfl
    · exact alike
    · exact alike
  exact encoding.bind fun _ => respects_pure _

theorem respects_besidePlatform {x : Program (NativeDriver β rx tx) (DriverError ε) α}
    (respects : Respects Alike x) :
    Respects Together (besidePlatform x :
      Program (NativeDriver β rx tx × π) (RecoveryError ε ρ) α) :=
  respects_onField (respects.mapError _) (fun _ _ together => together.1)
    fun _ _ _ _ together driver => ⟨driver, together.2⟩

theorem respects_onPlatform (x : Program (π × β) ρ α) :
    Respects Together (onPlatform x :
      Program (NativeDriver β rx tx × π) (RecoveryError ε ρ) α) := by
  apply respects_onField ((respects_eq x).mapError _)
  · intro s t together
    obtain ⟨journal, operations, same⟩ := together.1.1.history
    rw [same, together.2]
  · intro s t parts parts' together same
    obtain ⟨journal, operations, device⟩ := together.1.1.history
    cases same
    refine ⟨⟨?_, together.1.2⟩, rfl⟩
    dsimp only
    rw [device]
    rfl

theorem returns_onDevice {x : Program (Device β) (DeviceError ε) α}
    {driver next : NativeDriver β rx tx} {a : α} :
    Returns (onDevice x) driver a next ↔
      ∃ device, Returns x driver.device a device ∧ { driver with device } = next := by
  simp only [onDevice, returns_onField, returns_mapError]

theorem returns_onLink {x : Program (DataLink β rx tx) (DataError ε) α}
    {driver next : NativeDriver β rx tx} {a : α} :
    Returns (onLink x) driver a next ↔
      ∃ link, Returns x driver.link a link ∧ driver.setLink link = next := by
  simp only [onLink, returns_onField, returns_mapError]

theorem returns_besidePlatform {x : Program (NativeDriver β rx tx) (DriverError ε) α}
    {s t : NativeDriver β rx tx × π} {a : α} :
    Returns (besidePlatform x : Program _ (RecoveryError ε ρ) α) s a t ↔
      ∃ driver, Returns x s.1 a driver ∧ (driver, s.2) = t := by
  simp only [besidePlatform, returns_onField, returns_mapError]

end Combinators

/-! ## The bring-up after the reset -/

section BringUp
variable [Bus β ε] [Platform π β ρ]

/-- The bring-up from the reset of the queues on. -/
def bringUpAfterReset (load : Program (Rpu β) (LoadError ε) FirmwareReport)
    (config : SystemInitConfig) :
    Program (NativeDriver β rx tx × π) (RecoveryError ε ρ) FirmwareReport := do
  onPlatform Platform.prepareWakeBus
  besidePlatform (onRpu (Rpu.wake defaultWakeAttempts))
  onPlatform Platform.prepareDataBus
  besidePlatform (onRpu Rpu.enableClocks)
  let report ← besidePlatform (loadFirmware load)
  let _ ← besidePlatform (onDevice Device.initializeQueues)
  besidePlatform (onLink DataPath.postAllRx)
  besidePlatform (onDevice Device.enableInterrupts)
  let message ← besidePlatform (systemInitMessage config)
  besidePlatform (onDevice (Device.sendControlReliable message))
  return report

theorem respects_bringUpAfterReset (load : Program (Rpu β) (LoadError ε) FirmwareReport)
    (config : SystemInitConfig) :
    Respects Together (bringUpAfterReset load config :
      Program (NativeDriver β rx tx × π) (RecoveryError ε ρ) FirmwareReport) := by
  apply (respects_onPlatform _).bind
  intro _
  apply (respects_besidePlatform (respects_onRpu _)).bind
  intro _
  apply (respects_onPlatform _).bind
  intro _
  apply (respects_besidePlatform (respects_onRpu _)).bind
  intro _
  apply (respects_besidePlatform (respects_loadFirmware load)).bind
  intro report
  apply (respects_besidePlatform (respects_onDevice Device.respects_initializeQueues)).bind
  intro _
  apply (respects_besidePlatform (respects_onLink DataLink.respects_postAllRx)).bind
  intro _
  apply (respects_besidePlatform (respects_onDevice Device.respects_enableInterrupts)).bind
  intro _
  apply (respects_besidePlatform (respects_systemInitMessage config)).bind
  intro message
  apply (respects_besidePlatform
    (respects_onDevice (Device.respects_sendControlWithWait message _))).bind
  exact fun _ => respects_pure report

/-- What a recovery that succeeds leaves: every receive descriptor was posted once, no
token is in flight and no recovery is required. -/
structure Restored (before after : NativeDriver β rx tx) : Prop where
  posted : ∀ index, after.data.rxPosted index = true
  idle : ∀ token, after.data.txInFlight token = false
  operational : after.device.recoveryRequired = false
  once : ∃ queues sends, after.device.queues = some queues ∧
    after.device.operations = before.device.operations ++
      DataPath.postings queues after.device.rxCommandBase 0 rx ++ sends ∧
    ∀ operation ∈ sends, QueueOperation.OfCommand queues operation

/-! ### Steps that touch the bus and the board only -/

section Frame

def withoutBus (driver : NativeDriver β rx tx) : Device Unit × DataPath rx tx :=
  (driver.device.withoutBus, driver.data)

omit [Bus β ε] in
theorem keeps_withoutBus_onDevice {x : Program (Device β) (DeviceError ε) α}
    (keeps : Keeps Device.withoutBus x) :
    Keeps withoutBus (onDevice x : Program (NativeDriver β rx tx) (DriverError ε) α) := by
  rw [keeps_iff_post]
  intro driver
  rw [onDevice, post_onField, post_mapError]
  exact (keeps.post driver.device).mono fun r device same => by rw [withoutBus, same]; rfl

omit [Bus β ε] [Platform π β ρ] in
theorem withoutBus_onPlatform {x : Program (π × β) ρ α} {s t : NativeDriver β rx tx × π} {a : α}
    (ends : Returns (onPlatform x : Program _ (RecoveryError ε ρ) α) s a t) :
    t.1.withoutBus = s.1.withoutBus := by
  obtain ⟨parts, _, rfl⟩ := returns_onField.mp ends
  rfl

omit [Bus β ε] [Platform π β ρ] in
theorem withoutBus_besidePlatform {x : Program (NativeDriver β rx tx) (DriverError ε) α}
    (keeps : Keeps withoutBus x) {s t : NativeDriver β rx tx × π} {a : α}
    (ends : Returns (besidePlatform x : Program _ (RecoveryError ε ρ) α) s a t) :
    t.1.withoutBus = s.1.withoutBus := by
  obtain ⟨driver, done, rfl⟩ := returns_besidePlatform.mp ends
  have kept := keeps s.1
  rwa [done.2] at kept

omit [Bus β ε] in
theorem keeps_withoutBus_onRpu (x : Program (Rpu β) (RpuError ε) α) :
    Keeps withoutBus (onRpu x : Program (NativeDriver β rx tx) (DriverError ε) α) :=
  keeps_withoutBus_onDevice (Device.keeps_onRpu x)

theorem keeps_withoutBus_enableInterrupts :
    Keeps Device.withoutBus
      (Device.enableInterrupts : Program (Device β) (DeviceError ε) Unit) := by
  have operational : Keeps Device.withoutBus
      (Device.ensureOperational : Program (Device β) (DeviceError ε) Unit) :=
    (keeps_get _).bind fun _ => keeps_ite (fun _ => keeps_throw _ _) fun _ => keeps_pure _ _
  exact operational.bind fun _ => (Device.keeps_onRpu _).bind fun _ =>
    (Device.keeps_onRpu _).bind fun _ => Device.keeps_onRpu _

omit [Bus β ε] in
theorem keeps_withoutBus_systemInitMessage (config : SystemInitConfig) :
    Keeps withoutBus
      (systemInitMessage config : Program (NativeDriver β rx tx) (DriverError ε) Bytes) := by
  refine Keeps.bind ?_ fun encoded => keeps_pure _ _
  rw [keeps_iff_post]
  intro driver
  rw [post_withLocal, post_onField]
  exact (post_true _ _).mono fun _ _ _ => rfl

end Frame

theorem bringUpAfterReset_restored {load : Program (Rpu β) (LoadError ε) FirmwareReport}
    {config : SystemInitConfig} {s t : NativeDriver β rx tx × π} {report : FirmwareReport}
    (free : ∀ index, s.1.data.rxPosted index = false)
    (idle : ∀ token, s.1.data.txInFlight token = false)
    (ends : Returns (bringUpAfterReset load config :
      Program (NativeDriver β rx tx × π) (RecoveryError ε ρ) FirmwareReport) s report t) :
    Restored s.1 t.1 := by
  obtain ⟨_, _, first, ends⟩ := returns_bind.mp ends
  obtain ⟨_, _, second, ends⟩ := returns_bind.mp ends
  obtain ⟨_, _, third, ends⟩ := returns_bind.mp ends
  obtain ⟨_, _, fourth, ends⟩ := returns_bind.mp ends
  obtain ⟨_, loaded, fifth, ends⟩ := returns_bind.mp ends
  have started : loaded.1.withoutBus = s.1.withoutBus := by
    have firmware : Keeps withoutBus (loadFirmware load :
        Program (NativeDriver β rx tx) (DriverError ε) FirmwareReport) :=
      keeps_onField _ fun _ _ => rfl
    rw [withoutBus_besidePlatform firmware fifth,
      withoutBus_besidePlatform (keeps_withoutBus_onRpu _) fourth, withoutBus_onPlatform third,
      withoutBus_besidePlatform (keeps_withoutBus_onRpu _) second, withoutBus_onPlatform first]
  have data : loaded.1.data = s.1.data := congrArg Prod.snd started
  have operations : loaded.1.device.operations = s.1.device.operations :=
    Device.operations_eq (congrArg Prod.fst started)
  -- The queues are known from here on.
  obtain ⟨queues, _, discovered, ends⟩ := returns_bind.mp ends
  obtain ⟨driver, found, rfl⟩ := returns_besidePlatform.mp discovered
  obtain ⟨device, initialized, rfl⟩ := returns_onDevice.mp found
  have effect := (DataLink.post_initializeQueues (ε := ε) loaded.1.device).ends
  rw [initialized.1, initialized.2] at effect
  obtain ⟨configured, _, listed, operational⟩ := effect
  obtain ⟨_, _, posting, ends⟩ := returns_bind.mp ends
  obtain ⟨driver, posted, rfl⟩ := returns_besidePlatform.mp posting
  obtain ⟨link, opened, rfl⟩ := returns_onLink.mp posted
  obtain ⟨path, performed⟩ := DataPath.returns_postAllRx (ε := ε) configured
    (fun index => (congrFun (congrArg DataPath.rxPosted data) index).trans (free index)) opened
  obtain ⟨_, enabled, sixth, ends⟩ := returns_bind.mp ends
  obtain ⟨message, encoded, seventh, ends⟩ := returns_bind.mp ends
  have kept : encoded.1.withoutBus = (link.device.withoutBus, link.path) := by
    rw [withoutBus_besidePlatform (keeps_withoutBus_systemInitMessage config) seventh,
      withoutBus_besidePlatform (keeps_withoutBus_onDevice keeps_withoutBus_enableInterrupts) sixth]
    rfl
  obtain ⟨_, _, sending, ends⟩ := returns_bind.mp ends
  obtain ⟨_, rfl⟩ := returns_pure.mp ends
  obtain ⟨driver, sent, rfl⟩ := returns_besidePlatform.mp sending
  obtain ⟨last, delivered, rfl⟩ := returns_onDevice.mp sent
  obtain ⟨others, same, sent⟩ := Device.sent_sendControlWithWait delivered
  have deviceKept : encoded.1.device.withoutBus = link.device.withoutBus := congrArg Prod.fst kept
  have pathKept : encoded.1.data = loaded.1.data.postedFrom 0 rx :=
    (congrArg Prod.snd kept).trans path
  have queuesKept : encoded.1.device.queues = some queues :=
    (Device.queues_eq deviceKept).trans
      ((congrArg (fun view : Device Unit => view.queues) performed).trans configured)
  obtain rfl := Option.some.inj (queuesKept.symm.trans same)
  have base : last.rxCommandBase = device.rxCommandBase := by
    have sending : last.rxCommandBase = encoded.1.device.rxCommandBase :=
      congrArg (fun settings => settings.1.rxCommandBase) sent.settings
    rw [sending, Device.rxCommandBase_eq deviceKept]
    exact congrArg (fun view : Device Unit => view.rxCommandBase) performed
  obtain ⟨sends, appended, commands⟩ := sent.operations
  constructor
  · intro index
    have all := DataPath.posted_postedFrom_all loaded.1.data index
    rwa [← pathKept] at all
  · intro token
    have flights : encoded.1.data.txInFlight = loaded.1.data.txInFlight := by rw [pathKept]; rfl
    exact (congrFun flights token).trans ((congrFun (congrArg DataPath.txInFlight data) token).trans
      (idle token))
  · have flag : last.recoveryRequired = encoded.1.device.recoveryRequired :=
      congrArg (fun settings => settings.2.2) sent.settings
    have before : link.device.recoveryRequired = device.recoveryRequired :=
      congrArg (fun view : Device Unit => view.recoveryRequired) performed
    exact flag.trans ((Device.recoveryRequired_eq deviceKept).trans (before.trans operational))
  · refine ⟨queues, sends, ?_, ?_, commands⟩
    · exact (congrArg (fun settings => settings.1.queues) sent.settings).trans queuesKept
    · show last.operations = _ ++ DataPath.postings queues last.rxCommandBase 0 rx ++ sends
      rw [appended, Device.operations_eq deviceKept, Device.performed_operations performed, base]
      exact congrArg (· ++ _ ++ _) (listed.trans operations)

/-! ## The reset -/

/-- How the hard reset ends, and the board and the hardware after it. -/
def boardAfterReset (s : NativeDriver β rx tx × π) : Except ρ Unit × (π × β) :=
  let quiet := stateAfter (Device.disableInterrupts : Program (Device β) (DeviceError ε) Unit)
    s.1.device
  (resultOf Platform.hardReset (s.2, quiet.rpu.bus), stateAfter Platform.hardReset (s.2, quiet.rpu.bus))

/-- The driver and the board after the reset of the queues. -/
def afterReset (s : NativeDriver β rx tx × π) : NativeDriver β rx tx × π :=
  ({ s.1 with
     device := { s.1.device.resetQueueState with rpu := { bus := (boardAfterReset s).2.2 } }
     data := s.1.data.resetAfterRpuReset }, (boardAfterReset s).2.1)

omit [Platform π β ρ] in
theorem disableInterrupts_device (device : Device β) :
    ∃ rpu, stateAfter (Device.disableInterrupts : Program (Device β) (DeviceError ε) Unit) device =
      { device with rpu } := by
  have keeps : Keeps Device.withoutBus
      (Device.disableInterrupts : Program (Device β) (DeviceError ε) Unit) :=
    (Device.keeps_onRpu _).bind fun _ => (Device.keeps_onRpu _).bind fun _ => Device.keeps_onRpu _
  have kept := keeps device
  generalize stateAfter (Device.disableInterrupts : Program (Device β) (DeviceError ε) Unit) device =
    next at kept
  cases next
  cases device
  simp only [Device.withoutBus, Device.mk.injEq] at kept
  simp [kept]

theorem post_bringUpHardware (load : Program (Rpu β) (LoadError ε) FirmwareReport)
    (config : SystemInitConfig) (s : NativeDriver β rx tx × π)
    (Q : Except (RecoveryError ε ρ) FirmwareReport → NativeDriver β rx tx × π → Prop) :
    Post (bringUpHardware load config) s Q ↔
      match (s.1.validateSystemConfig config : Except (DriverError ε) Unit) with
      | .error failure => Q (.error (.driver failure)) s
      | .ok _ => match (boardAfterReset s).1 with
        | .error failure => Q (.error (.platform failure))
            ({ s.1 with device := { s.1.device with rpu := { bus := (boardAfterReset s).2.2 } } },
              (boardAfterReset s).2.1)
        | .ok _ => Post (bringUpAfterReset load config) (afterReset s) Q := by
  obtain ⟨rpu, quiet⟩ := disableInterrupts_device (ε := ε) s.1.device
  rw [bringUpHardware, post_bind, post_get]
  dsimp only
  rw [post_bind, besidePlatform, post_onField, post_mapError, post_liftResult]
  cases (s.1.validateSystemConfig config : Except (DriverError ε) Unit) with
  | error failure => exact Iff.rfl
  | ok valid =>
      dsimp only [Except.mapError]
      rw [post_bind, besidePlatform, post_onField, post_mapError, post_attempt, onDevice,
        post_onField, post_mapError, post_iff]
      dsimp only [Except.mapError]
      rw [post_bind, onPlatform, post_onField, post_mapError, post_iff]
      simp only [boardAfterReset, afterReset, quiet]
      cases (resultOf Platform.hardReset (s.2, rpu.bus) : Except ρ Unit) with
      | error failure => exact Iff.rfl
      | ok done =>
          dsimp only [Except.mapError]
          rw [post_bind, besidePlatform, post_onField, post_mapError, resetQueues, post_modify]
          exact Iff.rfl

/-! ## Recovery of two drivers -/

/-- What a constructor sets and no operation changes. -/
structure Setup (rx tx : Nat) where
  layout : Layout rx tx
  ifaceindex : Int32
  wdevId : UInt8
  station : Int32 × Int8 × UInt32

omit [Bus β ε] [Platform π β ρ] in
def setup (driver : NativeDriver β rx tx) : Setup rx tx :=
  { layout := driver.data.layout
    ifaceindex := driver.ifaceindex
    wdevId := driver.wdevId
    station := driver.station.ids }

/-- What the owner of a driver may adjust. -/
structure Limits where
  command : FragmentLen defaultControlFragmentLen
  event : FragmentLen maxEventFragmentLen
  timeouts : StationTimeouts

def limits (driver : NativeDriver β rx tx) : Limits :=
  { command := driver.device.commandFragmentLen
    event := driver.device.eventFragmentLen
    timeouts := driver.station.timeouts }

/-- The driver without its history, its last fault and the station's message buffer. -/
def current (driver : NativeDriver β rx tx) : NativeDriver β rx tx :=
  { driver with device := driver.device.current, station := driver.station.connection }

omit [Bus β ε] [Platform π β ρ] in
/-- The configuration is checked against the setup only. -/
theorem validateSystemConfig_eq {driver other : NativeDriver β rx tx}
    (same : driver.setup = other.setup) (config : SystemInitConfig) :
    (driver.validateSystemConfig config : Except (DriverError ε) Unit) =
      other.validateSystemConfig config := by
  have layout : driver.data.layout = other.data.layout := congrArg Setup.layout same
  have wdevId : driver.wdevId = other.wdevId := congrArg Setup.wdevId same
  simp only [validateSystemConfig, layout, wdevId]

/-- After the reset, drivers of one setup and one set of limits are alike. -/
theorem together_afterReset {s t : NativeDriver β rx tx × π} (same : s.1.setup = t.1.setup)
    (limited : s.1.limits = t.1.limits)
    (board : (boardAfterReset s : Except ρ Unit × (π × β)) = boardAfterReset t) :
    Together (afterReset s) (afterReset t) := by
  have layout : s.1.data.layout = t.1.data.layout := congrArg Setup.layout same
  have command : s.1.device.commandFragmentLen = t.1.device.commandFragmentLen :=
    congrArg Limits.command limited
  have event : s.1.device.eventFragmentLen = t.1.device.eventFragmentLen :=
    congrArg Limits.event limited
  refine ⟨⟨?_, ?_⟩, ?_⟩
  · simp only [Device.Alike, Device.current, afterReset, Device.resetQueueState, board, command,
      event]
  · simp only [afterReset, DataPath.resetAfterRpuReset, layout]
  · simp only [afterReset, board]

omit [Bus β ε] [Platform π β ρ] in
/-- The driver at the start of its recovery. -/
def begun (s : NativeDriver β rx tx × π) : NativeDriver β rx tx × π :=
  ({ s.1 with
     state := .recovering, station := s.1.station.beginRecovery, configuredMac := none }, s.2)

theorem post_recover (load : Program (Rpu β) (LoadError ε) FirmwareReport)
    (config : SystemInitConfig) (s : NativeDriver β rx tx × π)
    (Q : Except (RecoveryError ε ρ) FirmwareReport → NativeDriver β rx tx × π → Prop) :
    Post (recover load config) s Q ↔
      Post (bringUpHardware load config) (begun s) fun r t => match r with
        | .ok report => Q (.ok report)
            ({ t.1 with
               configuredMac := some config.macAddress, state := .waitingForSystemInit }, t.2)
        | .error failure => Q (.error failure) ({ t.1 with state := .fault }, t.2) := by
  rw [recover, post_bind, beginRecovery, post_modify]
  dsimp only
  rw [post_bind, post_attempt]
  apply Post.congr (post_true _ _)
  intro r t _
  cases r with
  | ok report => simp only [post_bind, post_modify, post_pure]
  | error failure => simp only [post_bind, post_modify, post_throw]

end BringUp

end NativeDriver

end Nrf7002
