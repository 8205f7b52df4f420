import Nrf7002.Runtime.Port
import Nrf7002.Runtime.Recovery
import Nrf7002.Station.Effects

/-! # Drivers with a past

The setup of a driver survives every operation: those of the driver itself, and those of
its device, its packet RAM and its station, which their owner may call directly.  So a
recovery gives a driver of any past the state it gives a new one. -/

set_option autoImplicit false

namespace Nrf7002
open Foundation

namespace StationController
variable {β ε : Type}

theorem ids_refreshConnected (station : StationController) :
    station.refreshConnected.ids = station.ids := by
  rw [refreshConnected]
  split <;> rfl

theorem ids_applySuccessfulCommand (command : UInt32) (station : StationController) :
    (applySuccessfulCommand command station).ids = station.ids := by
  rw [applySuccessfulCommand]
  split
  · rfl
  · split
    · exact ids_refreshConnected _
    · split <;> rfl

theorem ids_completeGroupRekey (station : StationController) :
    station.completeGroupRekey.ids = station.ids := by
  rw [completeGroupRekey]
  split
  · split <;> rfl
  · rfl

theorem ids_submitted (station : StationController) (operation : StationOperation β) :
    (station.submitted operation).ids = station.ids := by
  cases operation <;> rfl

/-- Whatever an operation does to a station, it keeps the setup. -/
theorem Effect.ids_eq {station next : StationController} {operation : StationOperation β}
    {ok : Bool} (effect : Effect station operation ok next) : next.ids = station.ids := by
  cases effect with
  | posted command ready => exact ids_submitted _ _
  | associated pending confirmed => exact ids_refreshConnected _
  | answered names pending => exact ids_applySuccessfulCommand _ _
  | carrierOn own => exact ids_refreshConnected _
  | rekeyed => exact ids_completeGroupRekey _
  | _ => rfl

variable [Bus β ε]

theorem ids_step (station : StationController) (operation : StationOperation β) :
    (step station operation).ids = station.ids := (step_effect station operation).ids_eq

end StationController

namespace DataLink
variable {β ε : Type} {rx tx : Nat} [Bus β ε]

theorem layout_step (link : DataLink β rx tx) (move : LinkMove β) :
    (step link move).path.layout = link.path.layout := by
  have calm {next : DataLink β rx tx}
      (same : (next.device.configuration, next.device.recoveryRequired, next.path.layout) =
        (link.device.configuration, link.device.recoveryRequired, link.path.layout)) :
      next.path.layout = link.path.layout := congrArg (fun kept => kept.2.2) same
  cases move with
  | postRx descriptor poolId => exact calm (calm_postRx descriptor poolId link)
  | postAllRx => exact calm (calm_postAllRx link)
  | receivePacket event index output => exact calm (calm_receivePacket event index (link, output))
  | transmit wdevId frame dscpTos => exact calm (calm_transmit wdevId frame dscpTos link)
  | completeTx token =>
      have outcome := (DataPath.post_completeTx link.path token).ends
      simp only [step]
      split at outcome
      · rw [outcome.2]
        rfl
      · rw [outcome.2]
  | _ => rfl

end DataLink

/-! ## Every operation keeps the setup -/

namespace NativeDriver
variable {β ε π ρ α : Type} {rx tx : Nat}

section Combinators

theorem keeps_setup_onDevice (x : Program (Device β) (DeviceError ε) α) :
    Keeps setup (onDevice x : Program (NativeDriver β rx tx) (DriverError ε) α) :=
  keeps_onField _ fun _ _ => rfl

theorem keeps_setup_modify (f : NativeDriver β rx tx → NativeDriver β rx tx)
    (same : ∀ driver, (f driver).setup = driver.setup) :
    Keeps setup (modify f : Program (NativeDriver β rx tx) ε PUnit) := keeps_modify _ f same

theorem setup_setLink (link : DataLink β rx tx) (driver : NativeDriver β rx tx)
    (layout : link.path.layout = driver.data.layout) : (setLink link driver).setup = driver.setup := by
  simp only [setup, setLink, layout]

theorem keeps_setup_onLink {x : Program (DataLink β rx tx) (DataError ε) α}
    (calm : DataLink.Calm x) :
    Keeps setup (onLink x : Program (NativeDriver β rx tx) (DriverError ε) α) := by
  rw [keeps_iff_post]
  intro driver
  rw [onLink, post_onField, post_mapError]
  apply (calm.post driver.link).mono
  intro r link same
  exact setup_setLink link driver (congrArg (fun kept => kept.2.2) same)

theorem keeps_setup_recoverWith (failure : DriverError ε) :
    Keeps setup (recoverWith failure : Program (NativeDriver β rx tx) (DriverError ε) α) := by
  apply Keeps.bind
  · exact keeps_setup_modify enterRecovery fun _ => rfl
  · exact fun _ => keeps_throw _ _

theorem keeps_setup_requireState (required : DriverState) :
    Keeps setup (requireState required : Program (NativeDriver β rx tx) (DriverError ε) Unit) :=
  (keeps_get _).bind fun _ => keeps_ite (fun _ => keeps_pure _ _) fun _ => keeps_throw _ _

theorem keeps_setup_requireControlledPort (etherType : UInt16) :
    Keeps setup
      (requireControlledPort etherType : Program (NativeDriver β rx tx) (DriverError ε) Unit) :=
  (keeps_get _).bind fun _ => keeps_ite (fun _ => keeps_pure _ _) fun _ => keeps_throw _ _

theorem keeps_setup_orRecover {x : Program StationController (StationError ε) α}
    (keeps : Keeps StationController.ids x) :
    Keeps setup (orRecover x : Program (NativeDriver β rx tx) (DriverError ε) α) := by
  have onStation : Keeps setup (onField (·.station)
      (fun station driver => { driver with station }) x :
        Program (NativeDriver β rx tx) (StationError ε) α) := by
    rw [keeps_iff_post]
    intro driver
    rw [post_onField]
    apply (keeps.post driver.station).mono
    intro r station same
    simp only [setup, same]
  apply onStation.attempt.bind
  intro r
  cases r with
  | ok value => exact keeps_pure _ _
  | error failure => exact keeps_setup_recoverWith _

/-- A command keeps the setup of its station. -/
theorem keeps_setup_runStationCommand {command : StationController.Command β ε Unit}
    (operation : Device β → StationOperation β)
    (effect : ∀ station device,
      StationController.Effective station device (operation device) command) :
    Keeps setup (runStationCommand command :
      Program (NativeDriver β rx tx) (DriverError ε) Unit) := by
  apply (keeps_setup_requireState .ready).bind
  intro _
  rw [keeps_iff_post]
  intro driver
  rw [post_mapError, onSecurityParts, post_onField]
  apply (effect driver.station driver.device).mono
  intro r parts made
  simp only [setup, made.ids_eq]

end Combinators

/-! ### Events -/

section Events

theorem keeps_ids_handleControlEvent (event : ControlEvent) :
    Keeps StationController.ids
      (StationController.handleControlEvent event : StationController.Handler ε Unit) := by
  rw [keeps_iff_post]
  intro station
  exact (StationController.handleControlEvent_effect (β := Unit) event).mono
    fun _ _ effect => effect.ids_eq

theorem keeps_ids_handleDataEvent (event : DataEvent) :
    Keeps StationController.ids
      (StationController.handleDataEvent event : StationController.Handler ε Unit) := by
  rw [keeps_iff_post]
  intro station
  exact (StationController.handleDataEvent_effect (β := Unit) event).mono
    fun _ _ effect => effect.ids_eq

theorem keeps_setup_dispatchSystemMessage (message : HostMessage) :
    Keeps setup (dispatchSystemMessage message :
      Program (NativeDriver β rx tx) (DriverError ε) DriverEvent) := by
  apply (keeps_liftResult _ _).bind
  intro event
  have applied : Keeps setup
      (applySystemEvent event : Program (NativeDriver β rx tx) (DriverError ε) Unit) := by
    cases event with
    | initDone =>
        rw [keeps_iff_post]
        intro driver
        simp only [applySystemEvent, post_bind, post_get, post_ite]
        split
        · rw [post_set]
          rfl
        · exact (keeps_setup_recoverWith _).post driver
    | deinitDone => exact (keeps_get _).bind fun _ => keeps_setup_recoverWith _
    | powerData body => exact keeps_pure _ _
    | statistics body => exact keeps_pure _ _
    | other id body => exact keeps_pure _ _
  exact applied.bind fun _ => keeps_pure _ _

theorem keeps_setup_dispatchControlMessage (message : HostMessage) :
    Keeps setup (dispatchControlMessage message :
      Program (NativeDriver β rx tx) (DriverError ε) DriverEvent) :=
  (keeps_setup_requireState _).bind fun _ => (keeps_liftResult _ _).bind fun event =>
    (keeps_setup_orRecover (keeps_ids_handleControlEvent event)).bind fun _ => keeps_pure _ _

theorem keeps_setup_dispatchTransmitDone (message : HostMessage) :
    Keeps setup (dispatchTransmitDone message :
      Program (NativeDriver β rx tx) (DriverError ε) DriverEvent) := by
  apply (keeps_liftResult _ _).bind
  intro event
  apply Keeps.bind
  · rw [keeps_iff_post]
    intro driver
    rw [post_onField, post_mapError]
    apply (DataPath.post_completeTx driver.data event.token).mono
    intro r next outcome
    split at outcome
    · rw [outcome.2]
      rfl
    · rw [outcome.2]
  · exact fun _ => keeps_pure _ _

theorem keeps_setup_dispatchDataMessage (message : HostMessage) :
    Keeps setup (dispatchDataMessage message :
      Program (NativeDriver β rx tx) (DriverError ε) DriverEvent) := by
  have station (event : DataEvent) : Keeps setup (dispatchStationData event :
      Program (NativeDriver β rx tx) (DriverError ε) DriverEvent) :=
    (keeps_setup_orRecover (keeps_ids_handleDataEvent event)).bind fun _ => keeps_pure _ _
  apply (keeps_setup_requireState _).bind
  intro _
  apply (keeps_liftResult _ _).bind
  intro event
  cases event with
  | transmitDone token statusCount => exact keeps_setup_dispatchTransmitDone message
  | receive => exact (keeps_liftResult _ _).bind fun _ => keeps_pure _ _
  | carrierOn wdevId => exact station _
  | carrierOff wdevId => exact station _
  | other command => exact station _

theorem keeps_setup_dispatchMessage (message : HostMessage) :
    Keeps setup (dispatchMessage message :
      Program (NativeDriver β rx tx) (DriverError ε) DriverEvent) := by
  rw [dispatchMessage]
  cases message.messageType with
  | system => exact keeps_setup_dispatchSystemMessage message
  | umac => exact keeps_setup_dispatchControlMessage message
  | data => exact keeps_setup_dispatchDataMessage message
  | supplicant => exact (keeps_setup_requireState _).bind fun _ => keeps_pure _ _

theorem keeps_setup_pollEvent [Bus β ε] (scratchAddress : Nat) :
    Keeps (fun s : NativeDriver β rx tx × Bytes => s.1.setup) (pollEvent scratchAddress :
      Program (NativeDriver β rx tx × Bytes) (DriverError ε) (Option DriverEvent)) := by
  apply (keeps_get _).bind
  intro s
  apply keeps_ite
  · exact fun _ => keeps_besideBuffer (keeps_setup_recoverWith _)
  · intro _
    apply Keeps.bind
    · exact keeps_onField _ fun _ _ => rfl
    intro message
    cases message with
    | none => exact keeps_pure _ _
    | some message =>
        rw [keeps_iff_post]
        intro s
        change Post (some <$> _) _ _
        rw [post_map]
        exact (keeps_besideBuffer (keeps_setup_dispatchMessage message)).post s

end Events

/-! ### Frames and the watchdog -/

section Transfers
variable [Bus β ε]

theorem keeps_setup_receivePacket (event : RxEvent) (packetIndex : Nat) :
    Keeps (fun s : NativeDriver β rx tx × Bytes => s.1.setup) (receivePacket event packetIndex :
      Program (NativeDriver β rx tx × Bytes) (DriverError ε) ReceivedFrame) := by
  apply Keeps.bind
  · rw [keeps_iff_post]
    intro s
    rw [post_onField, post_mapError]
    apply ((DataLink.calm_receivePacket (ε := ε) event packetIndex).post (s.1.link, s.2)).mono
    intro r part same
    exact setup_setLink part.1 s.1 (congrArg (fun kept => kept.2.2) same)
  · intro frame
    apply keeps_besideBuffer
    apply (keeps_get _).bind
    intro driver
    apply keeps_ite
    · exact fun _ => keeps_setup_recoverWith _
    · exact fun _ => (keeps_setup_requireControlledPort _).bind fun _ => keeps_pure _ _

theorem keeps_setup_transmit (wdevId : UInt8) (frame : Bytes) (dscpTos : UInt16) :
    Keeps setup (transmit wdevId frame dscpTos :
      Program (NativeDriver β rx tx) (DriverError ε) UInt8) := by
  apply (keeps_get _).bind
  intro driver
  apply keeps_ite
  · exact fun _ => keeps_throw _ _
  · intro _
    cases ethernetType frame with
    | none => exact keeps_throw _ _
    | some etherType =>
        apply (keeps_setup_requireControlledPort etherType).bind
        exact fun _ => keeps_setup_onLink (DataLink.calm_transmit wdevId frame dscpTos)

theorem keeps_setup_pollWatchdog (reads : Nat) :
    Keeps setup (pollWatchdog reads : Program (NativeDriver β rx tx) (DriverError ε) Bool) := by
  induction reads with
  | zero =>
      apply Keeps.bind
      · exact keeps_setup_modify (fun driver => { driver with state := .fault }) fun _ => rfl
      · exact fun _ => keeps_throw _ _
  | succ reads hypothesis =>
      apply (keeps_setup_onDevice _).bind
      intro value
      exact keeps_ite (fun _ => keeps_pure _ _) fun _ => hypothesis

theorem keeps_setup_acknowledgeWatchdog :
    Keeps setup (acknowledgeWatchdog : Program (NativeDriver β rx tx) (DriverError ε) Unit) :=
  (keeps_setup_onDevice _).bind fun _ => (keeps_setup_onDevice _).bind fun _ =>
    keeps_setup_modify enterRecovery fun _ => rfl

end Transfers

/-! ### Recovery -/

section Recovery
variable [Bus β ε] [Platform π β ρ]

theorem keeps_setup_bringUpHardware (load : Program (Rpu β) (LoadError ε) FirmwareReport)
    (config : SystemInitConfig) :
    Keeps (fun s : NativeDriver β rx tx × π => s.1.setup) (bringUpHardware load config :
      Program (NativeDriver β rx tx × π) (RecoveryError ε ρ) FirmwareReport) :=
  keeps_bringUpHardware (fun _ _ => rfl) load config
    (keeps_setup_modify _ (by intro driver; rfl))
    (keeps_setup_onLink DataLink.calm_postAllRx)

theorem keeps_setup_recover (load : Program (Rpu β) (LoadError ε) FirmwareReport)
    (config : SystemInitConfig) :
    Keeps (fun s : NativeDriver β rx tx × π => s.1.setup) (recover load config :
      Program (NativeDriver β rx tx × π) (RecoveryError ε ρ) FirmwareReport) := by
  rw [keeps_iff_post]
  intro s
  rw [post_recover]
  apply ((keeps_setup_bringUpHardware load config).post _).mono
  intro r t same
  cases r with
  | ok report => exact same
  | error failure => exact same

end Recovery

/-! ## Runs -/

/-- An operation of the driver, or of a part that its owner may reach. -/
inductive HistoryMove (π β ε : Type) where
  | call (move : DriverMove π β ε)
  | link (move : LinkMove β)
  | station (operation : StationOperation β)

section Runs
variable [Bus β ε] [Platform π β ρ]

def historyStep (driver : NativeDriver β rx tx) : HistoryMove π β ε → NativeDriver β rx tx
  | .call move => driver.step move
  | .link move => driver.setLink (driver.link.step move)
  | .station operation => { driver with station := driver.station.step operation }

theorem setup_step (driver : NativeDriver β rx tx) (move : DriverMove π β ε) :
    (driver.step move).setup = driver.setup := by
  cases move with
  | hardware bus => rfl
  | recover platform load config => exact keeps_setup_recover load config (driver, platform)
  | createStationInterface ifaceindex macAddress interfaceName =>
      have created : Keeps setup (createStationInterface ifaceindex macAddress interfaceName :
          Program (NativeDriver β rx tx) (DriverError ε) Unit) :=
        (keeps_setup_requireState _).bind fun _ => (keeps_get _).bind fun _ =>
          keeps_ite (fun _ => keeps_throw _ _) fun _ => keeps_setup_runStationCommand _ fun _ _ =>
            StationController.createInterface_effect macAddress interfaceName
      exact created driver
  | setRegulatory country userHintType force =>
      exact keeps_setup_runStationCommand _
        (fun _ _ => StationController.setRegulatory_effect country userHintType force) driver
  | bringUp =>
      exact keeps_setup_runStationCommand _ (fun _ _ => StationController.bringUp_effect) driver
  | bringDown =>
      exact keeps_setup_runStationCommand _ (fun _ _ => StationController.bringDown_effect) driver
  | startScan request =>
      exact keeps_setup_runStationCommand _
        (fun _ _ => StationController.startScan_effect request) driver
  | requestScanResults reason =>
      exact keeps_setup_runStationCommand _
        (fun _ _ => StationController.requestScanResults_effect reason) driver
  | authenticate request =>
      exact keeps_setup_runStationCommand _
        (fun _ _ => StationController.authenticate_effect request) driver
  | associate request =>
      exact keeps_setup_runStationCommand _
        (fun _ _ => StationController.associate_effect request) driver
  | setPowerSave state =>
      exact keeps_setup_runStationCommand _
        (fun _ _ => StationController.setPowerSave_effect state) driver
  | setPowerSaveTimeout timeoutMs =>
      exact keeps_setup_runStationCommand _
        (fun _ _ => StationController.setPowerSaveTimeout_effect timeoutMs) driver
  | disconnect reasonCode =>
      exact keeps_setup_runStationCommand _
        (fun _ _ => StationController.disconnect_effect reasonCode) driver
  | waitForInterrupt platform =>
      exact keeps_view_onPlatform (ε := ε) (fun _ _ => rfl) Platform.waitForInterrupt
        (driver, platform)
  | advanceTime elapsedMs =>
      have kept := (advanceTime_lifecycle (ε := ε) elapsedMs driver).ends
      simp only [step, after]
      split at kept
      · obtain ⟨remaining, same⟩ := kept
        rw [same]
        rfl
      · obtain ⟨fault, same⟩ := kept
        rw [same]
        rfl
  | pollEvent scratchAddress scratch =>
      exact keeps_setup_pollEvent scratchAddress (driver, scratch)
  | dispatchMessage message => exact keeps_setup_dispatchMessage (ε := ε) message driver
  | receivePacket event packetIndex output =>
      exact keeps_setup_receivePacket event packetIndex (driver, output)
  | transmit wdevId frame dscpTos => exact keeps_setup_transmit wdevId frame dscpTos driver
  | transmitFrame frame dscpTos =>
      have sent : Keeps setup (transmitFrame frame dscpTos :
          Program (NativeDriver β rx tx) (DriverError ε) UInt8) :=
        (keeps_get _).bind fun _ => keeps_setup_transmit _ frame dscpTos
      exact sent driver
  | watchdogPending => exact keeps_setup_pollWatchdog 10 driver
  | acknowledgeWatchdog => exact keeps_setup_acknowledgeWatchdog driver

theorem setup_historyStep (driver : NativeDriver β rx tx) (move : HistoryMove π β ε) :
    (driver.historyStep move).setup = driver.setup := by
  cases move with
  | call move => exact setup_step driver move
  | link move => exact setup_setLink _ driver (DataLink.layout_step driver.link move)
  | station operation =>
      have same := StationController.ids_step driver.station operation
      simp only [historyStep, setup, same]

theorem setup_reachable {first driver : NativeDriver β rx tx}
    (reachable : Reachable (historyStep (π := π)) first driver) : driver.setup = first.setup := by
  have holds : (fun driver : NativeDriver β rx tx => driver.setup = first.setup) first := rfl
  exact reachable.invariant holds fun driver move same => (setup_historyStep driver move).trans same

end Runs

/-! ## Recovery -/

/-- A constructor leaves the same setup on every bus. -/
theorem setup_new {bus other : β} {rxBufferSize txBufferSize : Nat} {ifaceindex : Int32}
    {firmwareIndex : Int8} {wdevId : UInt32} {driver fresh : NativeDriver β rx tx}
    (created : new bus rxBufferSize txBufferSize ifaceindex firmwareIndex wdevId = .ok driver)
    (renewed : new other rxBufferSize txBufferSize ifaceindex firmwareIndex wdevId = .ok fresh) :
    driver.setup = fresh.setup := by
  rw [new] at created renewed
  split at created
  · cases created
  · rename_i small
    rw [if_neg small] at renewed
    obtain ⟨data, laid, made⟩ := bind_eq_ok.mp created
    obtain ⟨other, also, remade⟩ := bind_eq_ok.mp renewed
    cases laid.symm.trans also
    cases made
    cases remade
    rfl

/-- The driver with other fragment limits and timeouts. -/
def withLimits (limits : Limits) (driver : NativeDriver β rx tx) : NativeDriver β rx tx :=
  { driver with
    device := { driver.device with
      commandFragmentLen := limits.command, eventFragmentLen := limits.event }
    station := driver.station.setTimeouts limits.timeouts }

section Recovery
variable [Bus β ε] [Platform π β ρ] (load : Program (Rpu β) (LoadError ε) FirmwareReport)
  (config : SystemInitConfig)

/-- Both recoveries end alike, and a success leaves the same driver and the same board. -/
def RecoversAlike (s t : NativeDriver β rx tx × π) : Prop :=
  resultOf (recover load config : Program _ (RecoveryError ε ρ) _) s =
      resultOf (recover load config) t ∧
    ∀ report, resultOf (recover load config : Program _ (RecoveryError ε ρ) _) s = .ok report →
      (stateAfter (recover load config : Program _ (RecoveryError ε ρ) _) s).1.current =
          (stateAfter (recover load config : Program _ (RecoveryError ε ρ) _) t).1.current ∧
        (stateAfter (recover load config : Program _ (RecoveryError ε ρ) _) s).2 =
          (stateAfter (recover load config : Program _ (RecoveryError ε ρ) _) t).2

/-- A recovery settles every descriptor and token, or closes the driver. -/
def RecoverySettles (s : NativeDriver β rx tx × π) : Prop :=
  Post (recover load config : Program _ (RecoveryError ε ρ) _) s fun r t => match r with
    | .ok _ => Restored s.1 t.1
    | .error _ => t.1.state = .fault ∧ t.1.station.Sealed

variable {load config}

theorem recovery_settles (s : NativeDriver β rx tx × π) :
    RecoverySettles (ε := ε) (ρ := ρ) load config s := by
  have restored : Post (recover load config : Program _ (RecoveryError ε ρ) _) s fun r t =>
      ∀ report, r = .ok report → Restored s.1 t.1 := by
    rw [post_recover, post_bringUpHardware]
    split
    · exact fun _ impossible => by cases impossible
    · split
      · exact fun _ impossible => by cases impossible
      · constructor
        cases outcome : resultOf (bringUpAfterReset load config :
            Program (NativeDriver β rx tx × π) (RecoveryError ε ρ) _) (afterReset (begun s)) with
        | error failure => exact fun _ impossible => by cases impossible
        | ok report =>
            intro _ _
            have whole := bringUpAfterReset_restored (s := afterReset (begun s)) (fun _ => rfl)
              (fun _ => rfl) ⟨outcome, rfl⟩
            exact ⟨whole.posted, whole.idle, whole.operational, whole.once⟩
  constructor
  have closed := (recover_lifecycle (ρ := ρ) load config s).ends
  cases outcome : resultOf (recover load config : Program _ (RecoveryError ε ρ) _) s with
  | ok report => exact restored.ends report outcome
  | error failure =>
      rw [outcome] at closed
      refine ⟨congrArg Prod.fst closed, ?_⟩
      rw [show (stateAfter (recover load config : Program _ (RecoveryError ε ρ) _) s).1.station =
        s.1.station.beginRecovery from congrArg Prod.snd closed]
      exact StationController.sealed_beginRecovery _

omit [Bus β ε] [Platform π β ρ] in
theorem current_eq {driver other : NativeDriver β rx tx} (alike : Alike driver other)
    (same : driver.setup = other.setup) (state : driver.state = other.state)
    (mac : driver.configuredMac = other.configuredMac)
    (connection : driver.station.connection = other.station.connection) :
    driver.current = other.current := by
  have device : driver.device.current = other.device.current := alike.1
  have ifaceindex : driver.ifaceindex = other.ifaceindex := congrArg Setup.ifaceindex same
  have wdevId : driver.wdevId = other.wdevId := congrArg Setup.wdevId same
  simp only [current, device, alike.2, connection, state, mac, ifaceindex, wdevId]

/-- The two recoveries end alike because the runs behind their resets are coupled. -/
theorem recovers_alike {s t : NativeDriver β rx tx × π} (same : s.1.setup = t.1.setup)
    (limited : s.1.limits = t.1.limits)
    (board : (boardAfterReset s : Except ρ Unit × (π × β)) = boardAfterReset t) :
    RecoversAlike (ε := ε) (ρ := ρ) load config s t := by
  have left := (post_recover load config s _).mp (post_self _ s)
  have right := (post_recover load config t _).mp (post_self _ t)
  have lifecycles := (recover_lifecycle (ρ := ρ) load config s).ends
  have others := (recover_lifecycle (ρ := ρ) load config t).ends
  have setups : (stateAfter (recover load config : Program _ (RecoveryError ε ρ) _) s).1.setup =
      (stateAfter (recover load config : Program _ (RecoveryError ε ρ) _) t).1.setup :=
    (keeps_setup_recover load config s).trans
      (same.trans (keeps_setup_recover load config t).symm)
  rw [post_bringUpHardware] at left right
  have valid : ((begun s).1.validateSystemConfig config : Except (DriverError ε) Unit) =
      (begun t).1.validateSystemConfig config := validateSystemConfig_eq same config
  have reset : (boardAfterReset (begun s) : Except ρ Unit × (π × β)) = boardAfterReset (begun t) :=
    board
  rw [← valid, ← reset] at right
  split at left
  · rename_i failure refused
    rw [refused] at right
    refine ⟨left.1.symm.trans right.1, fun report succeeded => ?_⟩
    cases left.1.trans succeeded
  · rename_i accepted
    rw [accepted] at right
    dsimp only at right
    split at left
    · rename_i failure refused
      rw [refused] at right
      refine ⟨left.1.symm.trans right.1, fun report succeeded => ?_⟩
      cases left.1.trans succeeded
    · rename_i done
      rw [done] at right
      obtain ⟨result, together⟩ := respects_bringUpAfterReset (ρ := ρ) load config _ _
        (together_afterReset (s := begun s) (t := begun t) same limited reset)
      have one := left.ends
      have other := right.ends
      rw [← result] at other
      split at one
      · rename_i report succeeded
        rw [succeeded] at other
        refine ⟨one.1.symm.trans other.1, fun _ _ => ⟨?_, ?_⟩⟩
        · have station : (stateAfter (recover load config : Program _ (RecoveryError ε ρ) _) s).1.station =
              s.1.station.beginRecovery := congrArg Prod.snd lifecycles
          have another : (stateAfter (recover load config : Program _ (RecoveryError ε ρ) _) t).1.station =
              t.1.station.beginRecovery := congrArg Prod.snd others
          have timeouts : s.1.station.timeouts = t.1.station.timeouts :=
            congrArg Limits.timeouts limited
          apply current_eq _ setups
          · rw [← one.2, ← other.2]
          · rw [← one.2, ← other.2]
          · rw [station, another]
            exact StationController.connection_beginRecovery (congrArg Setup.station same) timeouts
          · rw [← one.2, ← other.2]
            exact together.1
        · rw [← one.2, ← other.2]
          exact together.2
      · rename_i failure failed
        rw [failed] at other
        refine ⟨one.1.symm.trans other.1, fun report succeeded => ?_⟩
        cases one.1.trans succeeded

variable (load config) in
/-- A recovery does not depend on the past of its driver: it ends as on a new driver of the
same limits whose board answers alike after the reset.  A success leaves every descriptor
posted once, no token in flight and no recovery required; a failure leaves the driver in
`fault` with the port closed. -/
theorem recovery_history_independent {bus other : β} {rxBufferSize txBufferSize : Nat}
    {ifaceindex : Int32} {firmwareIndex : Int8} {wdevId : UInt32}
    {first fresh used : NativeDriver β rx tx}
    (created : new bus rxBufferSize txBufferSize ifaceindex firmwareIndex wdevId = .ok first)
    (renewed : new other rxBufferSize txBufferSize ifaceindex firmwareIndex wdevId = .ok fresh)
    (reachable : Reachable (historyStep (π := π)) first used) (board another : π) :
    (boardAfterReset (used, board) = boardAfterReset (fresh.withLimits used.limits, another) →
      RecoversAlike load config (used, board) (fresh.withLimits used.limits, another)) ∧
    RecoverySettles load config (used, board) := by
  constructor
  · intro answers
    have constructed : first.setup = fresh.setup := setup_new created renewed
    have setups : used.setup = (fresh.withLimits used.limits).setup :=
      (setup_reachable reachable).trans constructed
    exact recovers_alike (s := (used, board)) (t := (fresh.withLimits used.limits, another))
      setups rfl answers
  · exact recovery_settles _

end Recovery

/-! ## A recovery from a lost bus -/

section LostBus

/-- A board whose hard reset makes every word read as a ready address. -/
inductive ResetBoard where
  | powered

instance : Platform ResetBoard WordBus Empty where
  hardReset := modify fun parts => (parts.1, { word := readyAddress })
  prepareWakeBus := pure ()
  prepareDataBus := pure ()
  waitForInterrupt := pure ()

/-- A driver that was brought up, and then lost its bus. -/
def lostBus : List (HistoryMove ResetBoard WordBus Empty) :=
  [.call (.recover .powered sampleLoad sampleConfig), .call (.dispatchMessage initDoneMessage),
    .call (.hardware { word := watchdogSentinel }), .call .watchdogPending]

def lostDriver (moves : List (HistoryMove ResetBoard WordBus Empty)) : NativeDriver WordBus 8 1 :=
  runMoves historyStep coldDriver moves

theorem boardAfterReset_resetBoard (s : NativeDriver WordBus 8 1 × ResetBoard) :
    (boardAfterReset s : Except Empty Unit × (ResetBoard × WordBus)) =
      (.ok (), (s.2, { word := readyAddress })) := rfl

/-- The board that was reset brings the lost driver up again. -/
theorem recover_lostDriver :
    (resultOf (recover sampleLoad sampleConfig : Program (NativeDriver WordBus 8 1 × ResetBoard)
      (RecoveryError Empty Empty) FirmwareReport)
        (lostDriver lostBus, ResetBoard.powered)).isOk = true := by
  decide +kernel

theorem lostDriver_recovers :
    RecoversAlike sampleLoad sampleConfig (lostDriver lostBus, ResetBoard.powered)
        (coldDriver.withLimits (lostDriver lostBus).limits, ResetBoard.powered) ∧
      RecoverySettles sampleLoad sampleConfig (lostDriver lostBus, ResetBoard.powered) ∧
      (resultOf (recover sampleLoad sampleConfig : Program (NativeDriver WordBus 8 1 × ResetBoard)
        (RecoveryError Empty Empty) FirmwareReport)
          (lostDriver lostBus, ResetBoard.powered)).isOk = true := by
  have recovers := recover_lostDriver
  -- The reset answers alike after any moves, so nothing more of the run is evaluated.
  generalize lostBus = moves at recovers ⊢
  obtain ⟨alike, settles⟩ := recovery_history_independent sampleLoad sampleConfig
    coldDriver_new coldDriver_new ⟨moves, rfl⟩ ResetBoard.powered ResetBoard.powered
  have one := boardAfterReset_resetBoard (lostDriver moves, ResetBoard.powered)
  have other := boardAfterReset_resetBoard
    (coldDriver.withLimits (lostDriver moves).limits, ResetBoard.powered)
  exact ⟨alike (one.trans other.symm), settles, recovers⟩

end LostBus

end NativeDriver

end Nrf7002
