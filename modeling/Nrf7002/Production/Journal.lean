import Nrf7002.Foundation.Evolves
import Nrf7002.Production.Authorization
import Nrf7002.System.Capacity

/-! # What the driver never sends

The commands for the keys and for the authorization of the station are sent by the WPA2
coordinator only.  Every operation of the driver below it, recovery included, adds
crossings without such a command to the journal, and data frames only to an authorized
port. -/

set_option autoImplicit false

namespace Nrf7002
open Foundation

/-! ## Crossings without a security command -/

namespace Crossing

/-- A command of the coordinator was delivered: for a key, or for the authorization. -/
def Secures (crossing : Crossing) : Prop :=
  crossing.Commands .newKey ∨ crossing.Commands .setKey ∨ crossing.Commands .setStation

/-- A frame was given to firmware that is no EAPOL frame. -/
def CarriesData : Crossing → Prop
  | transmitted _ frame => ethernetType frame ≠ some eapolEthertype
  | _ => False

/-- No command of the coordinator, and a data frame only if it is allowed. -/
def Admitted (allowed : Prop) (crossing : Crossing) : Prop :=
  ¬ crossing.Secures ∧ (crossing.CarriesData → allowed)

theorem admitted_received (allowed : Prop) (message : HostMessage) :
    (received message).Admitted allowed := by
  refine ⟨?_, fun data => data.elim⟩
  rintro (command | command | command)
  · exact command
  · exact command
  · exact command

theorem admitted_transmitted {allowed : Prop} {token : Nat} {frame : Bytes}
    (data : ethernetType frame ≠ some eapolEthertype → allowed) :
    (transmitted token frame).Admitted allowed := by
  refine ⟨?_, data⟩
  rintro (command | command | command)
  · exact command
  · exact command
  · exact command

end Crossing

/-- The journal grew by what the driver may add. -/
abbrev Unsecured (allowed : Prop) : List Crossing → List Crossing → Prop :=
  GrowsBy (Crossing.Admitted allowed)

theorem unsecured_mono {allowed other : Prop} {before after : List Crossing}
    (grown : Unsecured allowed before after) (weaker : allowed → other) :
    Unsecured other before after :=
  grown.mono fun _ admitted => ⟨admitted.1, fun data => weaker (admitted.2 data)⟩

/-! ## Station commands -/

/-- The command is none that the coordinator sends. -/
abbrev UmacCommand.Plain (command : UmacCommand) : Prop :=
  command ≠ .newKey ∧ command ≠ .setKey ∧ command ≠ .setStation

theorem plain_of_commandIn {message : Bytes} {command : UmacCommand} (plain : command.Plain)
    (found : commandIn message = some command) : ¬ (Crossing.sent message).Secures := by
  rintro (other | other | other)
  · exact plain.1 (Option.some.inj (found.symm.trans other))
  · exact plain.2.1 (Option.some.inj (found.symm.trans other))
  · exact plain.2.2 (Option.some.inj (found.symm.trans other))

/-- Whatever the encoder writes is a command that the coordinator does not send. -/
def PlainEncoder (encode : Program Bytes ProtocolError Nat) : Prop :=
  ∀ out len after, Returns encode out len after → ¬ (Crossing.sent (after.take len)).Secures

theorem plainEncoder_bind {α : Type} {x : Program Bytes ProtocolError α}
    {f : α → Program Bytes ProtocolError Nat} (rest : ∀ a, PlainEncoder (f a)) :
    PlainEncoder (x >>= f) := by
  intro out len after returns
  obtain ⟨a, middle, _, last⟩ := returns_bind.mp returns
  exact rest a middle len after last

theorem plainEncoder_ite {p : Prop} [Decidable p] {x y : Program Bytes ProtocolError Nat}
    (left : p → PlainEncoder x) (right : ¬ p → PlainEncoder y) :
    PlainEncoder (if p then x else y) := by
  by_cases holds : p
  · rw [if_pos holds]
    exact left holds
  · rw [if_neg holds]
    exact right holds

theorem plainEncoder_umac (command : UmacCommand) (plain : command.Plain) (ids : InterfaceIds)
    (body : Bytes) : PlainEncoder (encodeUmacCommand command ids body) := by
  intro out len after returns
  obtain ⟨message, header, parsed, _, event, named, _⟩ :=
    (encodeUmacCommand_reads command ids body returns).1.read
  apply plain_of_commandIn plain
  simp only [commandIn, parsed, event, Except.toOption, Option.bind_eq_bind, Option.bind_some, named]

theorem plainEncoder_message {request : StationMessage} {command : UmacCommand}
    (plain : command.Plain) (named : request.command = command) (wdevId : UInt32) :
    PlainEncoder (request.encode wdevId) := by
  intro out len after returns
  obtain ⟨limits, _, rfl, rfl⟩ := StationMessage.encode_returns returns
  rw [StationMessage.take_message limits]
  exact plain_of_commandIn (named ▸ plain) (StationMessage.commandIn_bytes limits wdevId)

theorem plainEncoder_newInterface (wdevId : UInt32) (interfaceType : InterfaceType)
    (macAddress : Octets 6) (interfaceName : Bytes) :
    PlainEncoder (encodeNewInterface wdevId interfaceType macAddress interfaceName) := by
  apply plainEncoder_ite
  · exact fun _ => plainEncoder_bind fun _ => plainEncoder_bind fun _ =>
      plainEncoder_umac _ (by decide) _ _
  · exact fun _ => plainEncoder_bind fun _ => plainEncoder_umac _ (by decide) _ _

theorem plainEncoder_scan (wdevId : UInt32) (request : ScanRequest) :
    PlainEncoder (encodeScan wdevId request) := by
  apply plainEncoder_bind
  intro valid
  apply plainEncoder_bind
  intro bodyLen
  apply plainEncoder_bind
  intro written
  apply plainEncoder_ite
  · exact fun _ => plainEncoder_bind fun _ => plainEncoder_umac _ (by decide) _ _
  · exact fun _ => plainEncoder_umac _ (by decide) _ _

theorem plainEncoder_deauthenticate (wdevId : UInt32) (bssid : Octets 6) (reasonCode : UInt16)
    (localStateChange : Bool) :
    PlainEncoder (encodeDeauthenticate wdevId bssid reasonCode localStateChange) :=
  plainEncoder_bind fun _ => plainEncoder_umac .deauthenticate (by decide) _ _

namespace StationController
variable {β ε : Type} {p : Prop}

/-- The command sends nothing that the coordinator sends. -/
abbrev SendsPlain (p : Prop) {α : Type} (x : Command β ε α) : Prop :=
  Evolves (Unsecured p) (fun s : StationController × Device β => s.2.journal) x

theorem sendsPlain_onStation {α : Type} (x : Program StationController (StationError ε) α) :
    SendsPlain p (onStation x : Command β ε α) :=
  Keeps.evolves (keeps_onField _ fun _ _ => rfl)

theorem sendsPlain_update (f : StationController → StationController) :
    SendsPlain p (update f : Command β ε Unit) :=
  Keeps.evolves (keeps_modify _ _ fun _ => rfl)

variable [Bus β ε]

theorem sendsPlain_submit {encode : Program Bytes ProtocolError Nat} (plain : PlainEncoder encode) :
    SendsPlain p (submit encode : Command β ε Unit) := by
  rintro ⟨station, device⟩
  rw [submit, post_bind, onStation, post_onField, post_onField, post_mapError]
  refine (post_self encode station.command).mono ?_
  intro r after ends
  cases r with
  | error failure => exact growsBy_refl _ _
  | ok len =>
      dsimp only [Except.mapError]
      rw [post_bind, post_get]
      dsimp only
      rw [post_onField, post_mapError, Device.sendControlReliable]
      refine (Device.journal_sendControlWithWait _ _ device).mono ?_
      intro r next adds
      refine Device.growsBy_of_adds adds ?_
      rintro value added rfl crossing member
      rw [List.mem_singleton.mp member]
      exact ⟨plain _ len after ⟨ends.1.symm, ends.2.symm⟩, fun data => data.elim⟩

/-- A command that posts a message and then changes the station alone. -/
theorem sendsPlain_posts {encode : Program Bytes ProtocolError Nat} (plain : PlainEncoder encode)
    (f : StationController → StationController) :
    SendsPlain p (do submit encode; update f : Command β ε Unit) :=
  (sendsPlain_submit plain).bind fun _ => sendsPlain_update f

/-- A command that posts a message of the station. -/
theorem sendsPlain_request (request : StationMessage) (command : UmacCommand)
    (plain : command.Plain) (named : request.command = command) (wdevId : UInt32)
    (f : StationController → StationController) :
    SendsPlain p (do submit (request.encode wdevId); update f : Command β ε Unit) :=
  sendsPlain_posts (plainEncoder_message plain named wdevId) f

theorem sendsPlain_createInterface (macAddress : Octets 6) (interfaceName : Bytes) :
    SendsPlain p (createInterface macAddress interfaceName : Command β ε Unit) := by
  apply (sendsPlain_onStation _).bind
  intro down
  apply evolves_get.bind
  rintro ⟨station, device⟩
  cases claimed : station.claimFirmwareDefaultInterface with
  | some claim =>
      simp only [claimed]
      apply evolves_ite
      · exact fun _ => (evolves_throw _).bind fun _ => sendsPlain_update _
      · exact fun _ => sendsPlain_update _
  | none =>
      simp only [claimed]
      have posts := sendsPlain_posts (p := p) (ε := ε) (β := β)
        (plainEncoder_newInterface station.wdevId .station macAddress interfaceName)
        fun station => transition .interfaceCreatePending
          { station with pendingCommand := some .newInterface }
      apply evolves_ite
      · exact fun _ => (evolves_throw _).bind fun _ => posts
      · exact fun _ => posts

theorem sendsPlain_setRegulatory (country : UInt8 × UInt8) (userHintType : UInt32) (force : Bool) :
    SendsPlain p (setRegulatory country userHintType force : Command β ε Unit) :=
  (sendsPlain_onStation _).bind fun _ => evolves_get.bind fun s =>
    sendsPlain_request (.setRegulatory country userHintType force) .requestSetRegulatory (by decide) rfl
      s.1.wdevId _

theorem sendsPlain_bringUp : SendsPlain p (bringUp : Command β ε Unit) := by
  apply (sendsPlain_onStation _).bind
  intro down
  apply evolves_get.bind
  rintro ⟨station, device⟩
  have posts := sendsPlain_request (β := β) (ε := ε) (p := p)
    (.interfaceState true station.firmwareIndex) .setInterfaceFlags (by decide) rfl station.wdevId
    fun station => transition .interfaceUpPending
      { station with pendingCommand := some .setInterfaceFlags }
  apply evolves_ite
  · exact fun _ => (evolves_throw _).bind fun _ => posts
  · exact fun _ => posts

theorem sendsPlain_bringDown : SendsPlain p (bringDown : Command β ε Unit) := by
  apply (sendsPlain_onStation _).bind
  intro up
  apply evolves_get.bind
  rintro ⟨station, device⟩
  have posts := sendsPlain_request (β := β) (ε := ε) (p := p)
    (.interfaceState false station.firmwareIndex) .setInterfaceFlags (by decide) rfl station.wdevId
    fun station => transition .interfaceDownPending
      { station with pendingCommand := some .setInterfaceFlags, pendingReturnState := none }
  apply evolves_ite
  · exact fun _ => (evolves_throw _).bind fun _ => posts
  · exact fun _ => posts

theorem sendsPlain_startScan (request : ScanRequest) :
    SendsPlain p (startScan request : Command β ε Unit) :=
  (sendsPlain_onStation _).bind fun _ => evolves_get.bind fun _ =>
    sendsPlain_posts (plainEncoder_scan _ request) _

theorem sendsPlain_requestScanResults (reason : ScanReason) :
    SendsPlain p (requestScanResults reason : Command β ε Unit) :=
  (sendsPlain_onStation _).bind fun _ => evolves_get.bind fun _ =>
    sendsPlain_posts (plainEncoder_umac .getScanResults (by decide) _ _) _

theorem sendsPlain_authenticate (request : AuthenticationRequest) :
    SendsPlain p (authenticate request : Command β ε Unit) :=
  (sendsPlain_onStation _).bind fun _ => evolves_get.bind fun _ =>
    sendsPlain_request (.authenticate request) .authenticate (by decide) rfl _ _

theorem sendsPlain_associate (request : AssociationRequest) :
    SendsPlain p (associate request : Command β ε Unit) := by
  apply (sendsPlain_onStation _).bind
  intro authenticated
  apply evolves_get.bind
  rintro ⟨station, device⟩
  have posts := sendsPlain_request (β := β) (ε := ε) (p := p) (.associate request) .associate
    (by decide) rfl station.wdevId fun station => transition .associating
      { station with
        secureConnection := request.security.isSome
        controlledPortAuthorized := !request.security.isSome
        pendingCommand := some .associate }
  apply evolves_ite
  · exact fun _ => (sendsPlain_onStation _).bind fun _ => posts
  · exact fun _ => posts

theorem sendsPlain_setPowerSave (state : PowerSaveState) :
    SendsPlain p (setPowerSave state : Command β ε Unit) :=
  (sendsPlain_onStation _).bind fun _ => evolves_get.bind fun _ =>
    sendsPlain_request (.powerSave state) .setPowerSave (by decide) rfl _ _

theorem sendsPlain_setPowerSaveTimeout (timeoutMs : Int32) :
    SendsPlain p (setPowerSaveTimeout timeoutMs : Command β ε Unit) := by
  apply (sendsPlain_onStation _).bind
  intro idle
  have posts : SendsPlain p (do
      let s ← get
      submit (encodePowerSaveTimeout s.1.wdevId timeoutMs)
      update fun now => transition .powerSavePending
        { now with
          pendingCommand := some .setPowerSaveTimeout
          pendingReturnState := some s.1.state } : Command β ε Unit) :=
    evolves_get.bind fun s =>
      sendsPlain_request (.powerSaveTimeout timeoutMs) .setPowerSaveTimeout (by decide) rfl s.1.wdevId _
  apply evolves_ite
  · exact fun _ => (evolves_throw _).bind fun _ => posts
  · exact fun _ => posts

theorem sendsPlain_disconnect (reasonCode : UInt16) :
    SendsPlain p (disconnect reasonCode : Command β ε Unit) :=
  (sendsPlain_onStation _).bind fun _ => (sendsPlain_onStation _).bind fun _ =>
    evolves_get.bind fun _ => sendsPlain_posts (plainEncoder_deauthenticate _ _ _ _) _

end StationController

/-! ## The portable driver -/

namespace NativeDriver
variable {β ε π ρ α : Type} {rx tx : Nat} {p : Prop}

/-- What the journal of the driver shows. -/
def journal (driver : NativeDriver β rx tx) : List Crossing := driver.device.journal

/-- Bring-up sends nothing that the coordinator sends. -/
abbrev PlainWithPlatform (p : Prop) (x : Program (NativeDriver β rx tx × π) ε α) : Prop :=
  Evolves (Unsecured p) (fun s : NativeDriver β rx tx × π => s.1.journal) x

theorem plain_besidePlatform {x : Program (NativeDriver β rx tx) (DriverError ε) α}
    (plain : Evolves (Unsecured p) journal x) :
    PlainWithPlatform p (besidePlatform x :
      Program (NativeDriver β rx tx × π) (RecoveryError ε ρ) α) :=
  Evolves.onField (plain.mapError _) (fun _ => rfl) fun _ _ => rfl

theorem plain_onPlatform (x : Program (π × β) ρ α) :
    PlainWithPlatform p (onPlatform x :
      Program (NativeDriver β rx tx × π) (RecoveryError ε ρ) α) :=
  Keeps.evolves (keeps_onField _ fun _ _ => rfl)

theorem plain_onDevice {x : Program (Device β) (DeviceError ε) α}
    (plain : Evolves (Unsecured p) Device.journal x) :
    Evolves (Unsecured p) journal (onDevice x : Program (NativeDriver β rx tx) (DriverError ε) α) :=
  Evolves.onField (plain.mapError _) (fun _ => rfl) fun _ _ => rfl

theorem keeps_journal_onRpu (x : Program (Rpu β) (RpuError ε) α) :
    Keeps journal (onRpu x : Program (NativeDriver β rx tx) (DriverError ε) α) := by
  rw [keeps_iff_post]
  intro driver
  rw [onRpu, onDevice, post_onField, post_mapError]
  exact (Device.ignoresQueues_journal.onRpu x).post driver.device

/-- The initialization message is no UMAC command. -/
theorem systemInit_plain {config : SystemInitConfig} {out after : Bytes} {len : Nat}
    (returns : Returns (encodeSystemInit config) out len after) :
    ¬ (Crossing.sent (after.take len)).Secures := by
  obtain ⟨body, length, ends⟩ := exists_encodes (validate_of_encoded returns)
  have run := (ends out).ends
  rw [returns.1, returns.2] at run
  obtain ⟨_, rfl, rfl⟩ := run
  have whole : (hostMessageBytes .system false body).length = 378 := by
    rw [length_hostMessageBytes, length]
    rfl
  have parsed := parseHostMessage_bytes .system false body [] (by rw [length]; decide)
  have none_ : commandIn (hostMessageBytes .system false body) = none := by
    rw [List.append_nil] at parsed
    simp [commandIn, parsed, parseUmacEvent, Except.toOption, bind, Except.bind, throw,
      throwThe, MonadExceptOf.throw]
  rw [List.take_left' whole]
  rintro (command | command | command)
  · cases none_.symm.trans command
  · cases none_.symm.trans command
  · cases none_.symm.trans command

theorem systemInitMessage_plain (config : SystemInitConfig) (driver : NativeDriver β rx tx) :
    Post (systemInitMessage config : Program (NativeDriver β rx tx) (DriverError ε) Bytes) driver
      (fun r next => next = driver ∧
        ∀ message, r = .ok message → ¬ (Crossing.sent message).Secures) := by
  rw [systemInitMessage, post_bind, post_withLocal, post_onField, post_mapError]
  refine (post_self (encodeSystemInit config) _).mono ?_
  rintro r after ⟨result, ended⟩
  cases r with
  | error failure => exact ⟨rfl, fun message same => by cases same⟩
  | ok len =>
      refine (post_pure _ _ _).mpr ⟨rfl, ?_⟩
      rintro message same
      rw [← Except.ok.inj same]
      exact systemInit_plain ⟨result.symm, ended.symm⟩

variable [Bus β ε]

theorem plain_initializeQueues :
    Evolves (Unsecured p) Device.journal
      (Device.initializeQueues : Program (Device β) (DeviceError ε) HpqmInfo) := by
  apply Keeps.evolves
  apply (Device.ignoresQueues_journal.onRpu _).bind
  rintro ⟨done, bytes⟩
  apply (keeps_liftResult _ _).bind
  intro queues
  have rest : Keeps Device.journal (do
      let rxCommandBase ← Device.onRpu (Rpu.readU32 .lmac rpuMemRxCmdBase)
      if rxCommandBase = 0 ∨ rxCommandBase = 0xaaaaaaaa then throw .invalidQueueMap
      modify fun device =>
        { device with
          queues := some queues
          rxCommandBase
          txCommandBase := rpuMemTxCmdBase
          commandCounter := rpuCommandCounterStart
          pendingEvent := none
          recoveryRequired := false }
      return queues : Program (Device β) (DeviceError ε) HpqmInfo) := by
    apply (Device.ignoresQueues_journal.onRpu _).bind
    intro rxCommandBase
    apply keeps_ite
    · exact fun _ => (keeps_throw _ _).bind fun _ =>
        Keeps.bind (keeps_modify _ _ fun _ => rfl) fun _ => keeps_pure _ _
    · exact fun _ => Keeps.bind (keeps_modify _ _ fun _ => rfl) fun _ => keeps_pure _ _
  apply keeps_ite
  · exact fun _ => (keeps_throw _ _).bind fun _ => rest
  · exact fun _ => rest

theorem plain_enableInterrupts :
    Evolves (Unsecured p) Device.journal
      (Device.enableInterrupts : Program (Device β) (DeviceError ε) Unit) := by
  have access {α : Type} (x : Program (Rpu β) (RpuError ε) α) :
      Evolves (Unsecured p) Device.journal (Device.onRpu x : Program (Device β) (DeviceError ε) α) :=
    (Device.ignoresQueues_journal.onRpu x).evolves
  have operational : Keeps Device.journal
      (Device.ensureOperational : Program (Device β) (DeviceError ε) Unit) :=
    (keeps_get _).bind fun _ => keeps_ite (fun _ => keeps_throw _ _) fun _ => keeps_pure _ _
  apply operational.evolves.bind
  intro checked
  apply (access _).bind
  intro root
  apply (access _).bind
  intro done
  exact access _

theorem plain_disableInterrupts :
    Evolves (Unsecured p) Device.journal
      (Device.disableInterrupts : Program (Device β) (DeviceError ε) Unit) := by
  have access {α : Type} (x : Program (Rpu β) (RpuError ε) α) :
      Evolves (Unsecured p) Device.journal (Device.onRpu x : Program (Device β) (DeviceError ε) α) :=
    (Device.ignoresQueues_journal.onRpu x).evolves
  apply (access _).bind
  intro root
  apply (access _).bind
  intro done
  exact access _

/-- The last steps of bring-up: the initialization message is encoded and sent. -/
theorem plain_sendInit (config : SystemInitConfig) (report : FirmwareReport) :
    PlainWithPlatform p (do
      let message ← besidePlatform (systemInitMessage config)
      besidePlatform (onDevice (Device.sendControlReliable message))
      return report : Program (NativeDriver β rx tx × π) (RecoveryError ε ρ) FirmwareReport) := by
  rintro ⟨driver, board⟩
  rw [post_bind, besidePlatform, post_onField, post_mapError]
  refine (systemInitMessage_plain config driver).mono ?_
  rintro r next ⟨rfl, plain⟩
  cases r with
  | error failure => exact growsBy_refl _ _
  | ok message =>
      dsimp only [Except.mapError]
      rw [post_bind, besidePlatform, post_onField, post_mapError, onDevice, post_onField,
        post_mapError, Device.sendControlReliable]
      refine (Device.journal_sendControlWithWait _ _ _).mono ?_
      intro r device adds
      have sent : Unsecured p next.journal device.journal := by
        refine Device.growsBy_of_adds adds ?_
        rintro value added rfl crossing member
        rw [List.mem_singleton.mp member]
        exact ⟨plain message rfl, fun data => data.elim⟩
      cases r with
      | error failure => exact sent
      | ok done => exact (post_pure _ _ _).mpr sent

variable [Platform π β ρ]

theorem plain_bringUpHardware (load : Program (Rpu β) (LoadError ε) FirmwareReport)
    (config : SystemInitConfig) :
    PlainWithPlatform p (bringUpHardware load config :
      Program (NativeDriver β rx tx × π) (RecoveryError ε ρ) FirmwareReport) := by
  have access {α : Type} (x : Program (Rpu β) (RpuError ε) α) :
      PlainWithPlatform p (besidePlatform (onRpu x) :
        Program (NativeDriver β rx tx × π) (RecoveryError ε ρ) α) :=
    plain_besidePlatform (keeps_journal_onRpu x).evolves
  apply evolves_get.bind
  rintro ⟨driver, board⟩
  apply (plain_besidePlatform (evolves_liftResult _)).bind
  intro valid
  apply (plain_besidePlatform (plain_onDevice plain_disableInterrupts).attempt).bind
  intro disabled
  apply (plain_onPlatform _).bind
  intro reset
  have resets : Keeps journal
      (resetQueues : Program (NativeDriver β rx tx) (DriverError ε) Unit) :=
    keeps_modify _ _ fun _ => rfl
  apply (plain_besidePlatform resets.evolves).bind
  intro cleared
  apply (plain_onPlatform _).bind
  intro prepared
  apply (access _).bind
  intro awake
  apply (plain_onPlatform _).bind
  intro connected
  apply (access _).bind
  intro clocked
  have loads : Keeps journal
      (loadFirmware load : Program (NativeDriver β rx tx) (DriverError ε) FirmwareReport) :=
    keeps_onField _ fun _ _ => rfl
  apply (plain_besidePlatform loads.evolves).bind
  intro report
  apply (plain_besidePlatform (plain_onDevice plain_initializeQueues)).bind
  intro queues
  have posts : Evolves (Unsecured p) journal
      (onLink DataPath.postAllRx : Program (NativeDriver β rx tx) (DriverError ε) Unit) :=
    Evolves.onField (Keeps.evolves DataLink.ignoresTransfers_journal.postAllRx |>.mapError _)
      (fun _ => rfl) fun _ _ => rfl
  apply (plain_besidePlatform posts).bind
  intro posted
  apply (plain_besidePlatform (plain_onDevice plain_enableInterrupts)).bind
  intro enabled
  exact plain_sendInit config report

theorem plain_recover (load : Program (Rpu β) (LoadError ε) FirmwareReport)
    (config : SystemInitConfig) :
    PlainWithPlatform p (recover load config :
      Program (NativeDriver β rx tx × π) (RecoveryError ε ρ) FirmwareReport) := by
  apply Evolves.bind
  · exact Keeps.evolves (keeps_modify _ _ fun _ => rfl)
  · intro begun
    apply (plain_bringUpHardware load config).attempt.bind
    intro result
    cases result with
    | ok report => exact Evolves.bind (Keeps.evolves (keeps_modify _ _ fun _ => rfl)) fun _ => evolves_pure _
    | error failure =>
        exact Evolves.bind (Keeps.evolves (keeps_modify _ _ fun _ => rfl)) fun _ => evolves_throw _

end NativeDriver

/-! ## The production driver -/

namespace MissionCriticalDriver
variable {β ε π ρ α : Type} {rx tx : Nat} {p : Prop}

/-- What the journal of the driver shows. -/
def journal (driver : MissionCriticalDriver β rx tx) : List Crossing := driver.inner.journal

theorem keeps_journal_finishDriver (operation : DriverOperation)
    (result : Except (DriverError ε) α) :
    Keeps journal (finishDriver operation result : Method β rx tx ε α) := by
  rw [keeps_iff_post]
  intro driver
  refine (post_finishDriver operation result driver).mono ?_
  rintro r next ⟨-, left⟩
  rw [journal, left]
  rcases leaves_cases operation result driver.inner with kept | recovers
  · rw [kept]
    rfl
  · rw [recovers]
    rfl

theorem keeps_journal_ensureReady : Keeps journal (ensureReady : Method β rx tx ε Unit) :=
  (keeps_get _).bind fun _ => keeps_ite (fun _ => keeps_pure _ _) fun _ => keeps_throw _ _

theorem plain_onInner {δ : Type} {x : Program (NativeDriver β rx tx) δ α}
    (plain : Evolves (Unsecured p) NativeDriver.journal x) :
    Evolves (Unsecured p) journal (onInner x : Program (MissionCriticalDriver β rx tx) δ α) :=
  plain.onField (fun _ => rfl) fun _ _ => rfl

theorem keeps_journal_finishStation (result : Except (StationError ε) α) :
    Keeps journal (finishStation result : Method β rx tx ε α) := by
  cases result with
  | ok value => exact keeps_pure _ _
  | error failure =>
      apply keeps_ite
      · exact fun _ => Keeps.bind (keeps_iff_post _ _ |>.mpr fun driver => by
          rw [enterRecovery, onInner, post_onField, post_modify]
          rfl) fun _ => keeps_throw _ _
      · exact fun _ => keeps_throw _ _

theorem plain_runStationCommand {command : StationController.Command β ε Unit}
    (plain : StationController.SendsPlain p command) :
    Evolves (Unsecured p) journal (runStationCommand command : Method β rx tx ε Unit) := by
  apply keeps_journal_ensureReady.evolves.bind
  intro ready
  have inner : Evolves (Unsecured p) NativeDriver.journal
      (NativeDriver.onSecurityParts command :
        Program (NativeDriver β rx tx) (StationError ε) Unit) :=
    plain.onField (fun _ => rfl) fun _ _ => rfl
  apply (plain_onInner inner).attempt.bind
  intro result
  exact (keeps_journal_finishStation result).evolves

variable [Bus β ε]

theorem plain_watchdogPending :
    Evolves (Unsecured p) journal (watchdogPending : Method β rx tx ε Bool) := by
  have polls (reads : Nat) : Keeps NativeDriver.journal (NativeDriver.pollWatchdog reads :
      Program (NativeDriver β rx tx) (DriverError ε) Bool) := by
    induction reads with
    | zero => exact Keeps.bind (keeps_modify _ _ fun _ => rfl) fun _ => keeps_throw _ _
    | succ reads hypothesis =>
        apply (NativeDriver.keeps_journal_onRpu _).bind
        intro value
        exact keeps_ite (fun _ => keeps_pure _ _) fun _ => hypothesis
  apply (plain_onInner (polls 10).evolves).attempt.bind
  intro result
  exact (keeps_journal_finishDriver .watchdog result).evolves

theorem plain_acknowledgeWatchdog :
    Evolves (Unsecured p) journal (acknowledgeWatchdog : Method β rx tx ε Unit) := by
  have acknowledges : Keeps NativeDriver.journal (NativeDriver.acknowledgeWatchdog :
      Program (NativeDriver β rx tx) (DriverError ε) Unit) := by
    apply (NativeDriver.keeps_journal_onRpu _).bind
    intro cleared
    apply (NativeDriver.keeps_journal_onRpu _).bind
    intro rearmed
    exact keeps_modify _ _ fun _ => rfl
  apply (plain_onInner acknowledges.evolves).attempt.bind
  intro result
  exact (keeps_journal_finishDriver .watchdog result).evolves

omit [Bus β ε] in
theorem plain_besideBuffer {x : Method β rx tx ε α} (plain : Evolves (Unsecured p) journal x) :
    Evolves (Unsecured p) (fun s : MissionCriticalDriver β rx tx × Bytes => s.1.journal)
      (besideBuffer x) :=
  plain.onField (fun _ => rfl) fun _ _ => rfl

theorem plain_pollEvent (scratchAddress : Nat) :
    Evolves (Unsecured p) (fun s : MissionCriticalDriver β rx tx × Bytes => s.1.journal)
      (pollEvent scratchAddress :
        Program (MissionCriticalDriver β rx tx × Bytes) (ProductionError ε) _) := by
  have polls : Evolves (Unsecured p) (fun s : NativeDriver β rx tx × Bytes => s.1.journal)
      (NativeDriver.pollEvent scratchAddress :
        Program (NativeDriver β rx tx × Bytes) (DriverError ε) _) := by
    rintro ⟨driver, scratch⟩
    refine (NativeDriver.pollEvent_received scratchAddress driver scratch).mono ?_
    rintro r s (⟨same, -⟩ | ⟨message, grown, -⟩)
    · change Unsecured p driver.device.journal s.1.device.journal
      rw [same]
      exact growsBy_refl _ _
    · change Unsecured p driver.device.journal s.1.device.journal
      rw [grown]
      exact growsBy_snoc (Crossing.admitted_received p message)
  apply (polls.onField (fun _ => rfl) fun _ _ => rfl).attempt.bind
  intro result
  exact plain_besideBuffer (keeps_journal_finishDriver .event result).evolves

theorem plain_receivePacket (event : RxEvent) (packetIndex : Nat) :
    Evolves (Unsecured p) (fun s : MissionCriticalDriver β rx tx × Bytes => s.1.journal)
      (receivePacket event packetIndex :
        Program (MissionCriticalDriver β rx tx × Bytes) (ProductionError ε) _) := by
  rintro ⟨driver, output⟩
  refine (receivePacket_observes event packetIndex driver output).mono ?_
  intro r part observes
  change Unsecured p driver.inner.device.journal part.1.inner.device.journal
  rw [observes.journal, List.append_nil]
  exact growsBy_refl _ _

omit [Bus β ε] in
theorem plain_advanceTime (elapsedMs : UInt32) :
    Evolves (Unsecured p) journal (advanceTime elapsedMs : Method β rx tx ε Unit) := by
  intro driver
  refine (advanceTime_observes elapsedMs driver).mono ?_
  intro r next observes
  change Unsecured p driver.inner.device.journal next.inner.device.journal
  rw [observes.journal, List.append_nil]
  exact growsBy_refl _ _

omit [Bus β ε] in
/-- The port that lets a data frame pass is authorized. -/
theorem authorized_of_allowed {station : StationController} {etherType : UInt16}
    (allowed : frameAllowed station etherType = true) (data : etherType ≠ eapolEthertype) :
    station.controlledPortAuthorized = true := by
  rw [frameAllowed] at allowed
  split at allowed
  · rename_i opened
    simp only [StationController.controlledPortOpen, Bool.and_eq_true] at opened
    exact opened.1.2
  · simp [data] at allowed

/-- A data frame is transmitted to an authorized port only. -/
theorem transmit_unsecured (wdevId : UInt8) (frame : Bytes) (dscpTos : UInt16)
    (driver : MissionCriticalDriver β rx tx) :
    Post (transmit wdevId frame dscpTos : Method β rx tx ε UInt8) driver (fun _ next =>
      Unsecured (driver.inner.station.controlledPortAuthorized = true) driver.journal
        next.journal) := by
  have untouched := growsBy_refl
    (Crossing.Admitted (driver.inner.station.controlledPortAuthorized = true)) driver.journal
  rw [transmit, post_bind, post_ensureReady]
  split
  · dsimp only
    rw [post_bind, post_liftResult, ethernetType]
    by_cases short : frame.length < 14
    · rw [if_pos short]
      exact untouched
    · rw [if_neg short]
      dsimp only
      rw [post_bind, post_get]
      dsimp only
      rw [post_ite]
      split
      · exact (post_throw _ _ _).mpr untouched
      · rename_i allowed
        have opened : Nrf7002.ethernetType frame ≠ some eapolEthertype →
            driver.inner.station.controlledPortAuthorized = true := by
          intro data
          apply authorized_of_allowed (not_not.mp allowed)
          intro same
          apply data
          have long : ¬ frame.length < ethernetHeaderLen := short
          rw [Nrf7002.ethernetType, if_neg long, same]
        rw [post_bind, post_attempt, onInner, post_onField]
        refine (NativeDriver.transmit_journal wdevId frame dscpTos driver.inner).mono ?_
        intro r inner adds
        refine ((keeps_journal_finishDriver .transmit r).post _).mono ?_
        intro r' next same
        rw [same]
        refine Device.growsBy_of_adds adds ?_
        rintro token added rfl crossing member
        rw [List.mem_singleton.mp member]
        exact Crossing.admitted_transmitted opened
  · exact untouched

/-- No operation of the production driver sends a command of the coordinator, or a data
frame to a port that is not authorized. -/
theorem step_unsecured [Platform π β ρ] (driver : MissionCriticalDriver β rx tx)
    (move : MissionMove π β ε) :
    Unsecured (driver.inner.station.controlledPortAuthorized = true) driver.journal
      (driver.step move).journal := by
  have command {x : StationController.Command β ε Unit}
      (plain : StationController.SendsPlain
        (driver.inner.station.controlledPortAuthorized = true) x) :
      Unsecured (driver.inner.station.controlledPortAuthorized = true) driver.journal (stateAfter (runStationCommand x) driver).journal :=
    (plain_runStationCommand plain driver).ends
  cases move with
  | hardware bus => exact growsBy_refl _ _
  | setStationTimeouts timeouts => exact growsBy_refl _ _
  | setFragmentLimits commandLen eventLen =>
      rw [step, setFragmentLimits]
      cases limits : driver.inner.device.setFragmentLimits commandLen eventLen with
      | none => exact growsBy_refl _ _
      | some device =>
          have kept : device.journal = driver.inner.device.journal := by
            simp only [Device.setFragmentLimits] at limits
            split at limits
            · split at limits
              · rw [← Option.some.inj limits]
              · cases limits
            · cases limits
          refine ⟨[], ?_, by simp⟩
          rw [List.append_nil]
          exact kept
  | recover platform load config =>
      have recovered : Evolves
          (Unsecured (driver.inner.station.controlledPortAuthorized = true))
          (fun s : MissionCriticalDriver β rx tx × π => s.1.journal)
          (recover load config : Program (MissionCriticalDriver β rx tx × π) (RecoveryError ε ρ) _) :=
        (NativeDriver.plain_recover load config).onField (fun _ => rfl) fun _ _ => rfl
      exact (recovered (driver, platform)).ends
  | waitForInterrupt platform =>
      have waited : Evolves
          (Unsecured (driver.inner.station.controlledPortAuthorized = true))
          (fun s : MissionCriticalDriver β rx tx × π => s.1.journal)
          (waitForInterrupt :
            Program (MissionCriticalDriver β rx tx × π) (RecoveryError ε ρ) Unit) :=
        Evolves.onField (NativeDriver.plain_onPlatform _) (fun _ => rfl) fun _ _ => rfl
      exact (waited (driver, platform)).ends
  | createStationInterface macAddress interfaceName =>
      exact command (StationController.sendsPlain_createInterface macAddress interfaceName)
  | setRegulatory country userHintType force =>
      exact command (StationController.sendsPlain_setRegulatory country userHintType force)
  | bringUp => exact command StationController.sendsPlain_bringUp
  | bringDown => exact command StationController.sendsPlain_bringDown
  | startScan request => exact command (StationController.sendsPlain_startScan request)
  | requestScanResults reason =>
      exact command (StationController.sendsPlain_requestScanResults reason)
  | authenticate request => exact command (StationController.sendsPlain_authenticate request)
  | associate request => exact command (StationController.sendsPlain_associate request)
  | setPowerSave state => exact command (StationController.sendsPlain_setPowerSave state)
  | setPowerSaveTimeout timeoutMs =>
      exact command (StationController.sendsPlain_setPowerSaveTimeout timeoutMs)
  | disconnect reasonCode => exact command (StationController.sendsPlain_disconnect reasonCode)
  | advanceTime elapsedMs => exact (plain_advanceTime (ε := ε) elapsedMs driver).ends
  | pollEvent scratchAddress scratch =>
      exact (plain_pollEvent scratchAddress (driver, scratch)).ends
  | receivePacket event packetIndex output =>
      exact (plain_receivePacket event packetIndex (driver, output)).ends
  | transmit wdevId frame dscpTos => exact (transmit_unsecured wdevId frame dscpTos driver).ends
  | watchdogPending => exact (plain_watchdogPending driver).ends
  | acknowledgeWatchdog => exact (plain_acknowledgeWatchdog driver).ends

end MissionCriticalDriver

end Nrf7002
