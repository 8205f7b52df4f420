import Nrf7002.Production.Carried
import Nrf7002.Runtime.Traffic

/-! # Data frames wait for the authorization

In a run of the station between two restarts, its driver may be asked for anything but an
association without security.  The first data frame that is transmitted or handed up finds
the authorization of the station in the journal, and all that comes before it. -/

set_option autoImplicit false

namespace Nrf7002
open Foundation

/-! ## Commands of the station -/

def StationOperation.Ordinary {β : Type} : StationOperation β → Prop
  | .createInterface _ _ _ | .setRegulatory _ _ _ _ | .bringUp _ | .bringDown _
  | .startScan _ _ | .requestScanResults _ _ | .authenticate _ _ | .setPowerSave _ _
  | .setPowerSaveTimeout _ _ | .disconnect _ _ => True
  | .associate _ request => request.security.isSome = true
  | _ => False

namespace StationController
variable {β : Type} {station next : StationController} {operation : StationOperation β}
  {succeeded : Bool}

theorem ordinary_grants (ordinary : operation.Ordinary)
    (effect : Effect station operation succeeded next) : station.GrantsNothing next := by
  cases effect with
  | refused command => exact ⟨id, id⟩
  | failed fault command => exact grantsNothing_of_settled rfl id
  | ignored event => cases operation <;> first | exact event.elim | exact ordinary.elim
  | claimed down => exact grantsNothing_of_settled rfl id
  | posted command ready =>
      cases operation with
      | associate device request =>
          have secure : request.security.isSome = true := ordinary
          constructor
          · intro waits
            cases waits
          · intro opened
            have inverted : (!request.security.isSome) = true := opened
            rw [secure] at inverted
            cases inverted
      | createInterface => exact ⟨fun waits => (by cases waits), id⟩
      | setRegulatory => exact ⟨fun waits => (by cases waits), id⟩
      | bringUp => exact ⟨fun waits => (by cases waits), id⟩
      | bringDown => exact ⟨fun waits => (by cases waits), id⟩
      | startScan => exact ⟨fun waits => (by cases waits), id⟩
      | requestScanResults => exact ⟨fun waits => (by cases waits), id⟩
      | authenticate => exact ⟨fun waits => (by cases waits), id⟩
      | setPowerSave => exact ⟨fun waits => (by cases waits), id⟩
      | setPowerSaveTimeout => exact ⟨fun waits => (by cases waits), id⟩
      | disconnect => exact ⟨fun waits => (by cases waits), id⟩
      | _ => exact ordinary.elim
  | _ => exact ordinary.elim

end StationController

/-! ## The driver -/

/-- Any operation of the driver but an association without security. -/
def MissionMove.Secured {π β ε : Type} : MissionMove π β ε → Prop
  | .associate request => request.security.isSome = true
  | _ => True

namespace MissionCriticalDriver
variable {β ε π ρ α : Type} {rx tx : Nat}

/-- The port is authorized by a status in the journal, if at all. -/
def Grants (before after : MissionCriticalDriver β rx tx) : Prop :=
  before.inner.station.GrantsNothing after.inner.station ∨
    before.inner.station.Answered after.inner.station ∧
      ∃ crossing, after.journal = before.journal ++ [crossing] ∧ crossing.Accepts .setStation

theorem grants_of_observes {before after : MissionCriticalDriver β rx tx} {added : List Crossing}
    (observes : NativeDriver.Observes before.inner after.inner added) : before.Grants after := by
  rcases observes.station with grants | ⟨answered, crossing, rfl, accepts⟩
  · exact .inl grants
  · exact .inr ⟨answered, crossing, observes.journal, accepts⟩

theorem grantsNothing_leaves (operation : DriverOperation) (result : Except (DriverError ε) α)
    {before : StationController} {inner : NativeDriver β rx tx}
    (grants : before.GrantsNothing inner.station) :
    before.GrantsNothing (leaves operation result inner).station := by
  rcases leaves_cases operation result inner with kept | recovers
  · rwa [kept]
  · rw [recovers]
    exact StationController.grantsNothing_beginRecovery _ _

theorem finishes_granting (operation : DriverOperation)
    {x : Program (NativeDriver β rx tx) (DriverError ε) α} {driver : MissionCriticalDriver β rx tx}
    (grants : Post x driver.inner (fun _ inner =>
      driver.inner.station.GrantsNothing inner.station)) :
    Post (do let result ← attempt (onInner x); finishDriver operation result : Method β rx tx ε α)
      driver (fun _ next => driver.inner.station.GrantsNothing next.inner.station) := by
  rw [post_bind, post_attempt, onInner, post_onField]
  refine grants.mono ?_
  intro r inner granted
  refine (post_finishDriver operation r _).mono ?_
  rintro r' next ⟨-, left⟩
  rw [left]
  exact grantsNothing_leaves operation r granted

theorem runStationCommand_grants {command : StationController.Command β ε Unit}
    {driver : MissionCriticalDriver β rx tx} {operation : StationOperation β}
    (ordinary : operation.Ordinary)
    (effective : StationController.Effective driver.inner.station driver.inner.device operation
      command) :
    Post (runStationCommand command : Method β rx tx ε Unit) driver
      (fun _ next => driver.inner.station.GrantsNothing next.inner.station) := by
  rw [runStationCommand, post_bind, post_ensureReady]
  split
  · dsimp only
    rw [post_bind, post_attempt, onInner, post_onField, NativeDriver.onSecurityParts, post_onField]
    refine Post.mono effective ?_
    intro r parts effect
    have grants := StationController.ordinary_grants ordinary effect
    cases r with
    | ok done => exact (post_pure _ _ _).mpr grants
    | error failure =>
        dsimp only
        rw [finishStation, post_ite]
        split
        · rw [post_bind, enterRecovery, onInner, post_onField, post_modify]
          exact (post_throw _ _ _).mpr (StationController.grantsNothing_beginRecovery _ _)
        · exact (post_throw _ _ _).mpr grants
  · exact StationController.grantsNothing_refl _

variable [Bus β ε] [Platform π β ρ]

theorem step_grants (driver : MissionCriticalDriver β rx tx) (move : MissionMove π β ε)
    (secured : move.Secured) : driver.Grants (driver.step move) := by
  have command {x : StationController.Command β ε Unit} {operation : StationOperation β}
      (effective : StationController.Effective driver.inner.station driver.inner.device operation
        x) (ordinary : operation.Ordinary) : driver.Grants (stateAfter (runStationCommand x) driver) :=
    .inl (runStationCommand_grants ordinary effective).ends
  have resting := StationController.grantsNothing_refl driver.inner.station
  have recovering := StationController.grantsNothing_beginRecovery driver.inner.station
  cases move with
  | hardware bus => exact .inl resting
  | setStationTimeouts timeouts => exact .inl ⟨id, id⟩
  | setFragmentLimits commandLen eventLen =>
      rw [step, setFragmentLimits]
      cases driver.inner.device.setFragmentLimits commandLen eventLen with
      | none => exact .inl resting
      | some device => exact .inl resting
  | recover platform load config =>
      have lifecycle : Post (recover load config : Program (MissionCriticalDriver β rx tx × π)
          (RecoveryError ε ρ) FirmwareReport) (driver, platform) (fun _ next =>
            next.1.inner.station = driver.inner.station.beginRecovery) := by
        rw [recover, onInnerPlatform, post_onField]
        refine (NativeDriver.recover_lifecycle load config _).mono ?_
        intro r next same
        exact congrArg Prod.snd same
      left
      rw [show (driver.step (.recover platform load config : MissionMove π β ε)).inner.station =
        driver.inner.station.beginRecovery from lifecycle.ends]
      exact recovering _
  | waitForInterrupt platform =>
      have kept : Keeps (fun s : MissionCriticalDriver β rx tx × π => s.1.inner.station)
          (waitForInterrupt :
            Program (MissionCriticalDriver β rx tx × π) (RecoveryError ε ρ) Unit) := by
        rw [keeps_iff_post]
        intro s
        rw [waitForInterrupt, onInnerPlatform, post_onField, NativeDriver.waitForInterrupt,
          NativeDriver.onPlatform, post_onField]
        exact (post_true _ _).mono fun _ _ _ => rfl
      have same : (driver.step (.waitForInterrupt platform : MissionMove π β ε)).inner.station =
          driver.inner.station := kept (driver, platform)
      exact .inl (same ▸ resting)
  | createStationInterface macAddress interfaceName =>
      exact command (StationController.createInterface_effect macAddress interfaceName) trivial
  | setRegulatory country userHintType force =>
      exact command (StationController.setRegulatory_effect country userHintType force) trivial
  | bringUp => exact command StationController.bringUp_effect trivial
  | bringDown => exact command StationController.bringDown_effect trivial
  | startScan request => exact command (StationController.startScan_effect request) trivial
  | requestScanResults reason =>
      exact command (StationController.requestScanResults_effect reason) trivial
  | authenticate request => exact command (StationController.authenticate_effect request) trivial
  | associate request => exact command (StationController.associate_effect request) secured
  | setPowerSave state => exact command (StationController.setPowerSave_effect state) trivial
  | setPowerSaveTimeout timeoutMs =>
      exact command (StationController.setPowerSaveTimeout_effect timeoutMs) trivial
  | disconnect reasonCode => exact command (StationController.disconnect_effect reasonCode) trivial
  | advanceTime elapsedMs =>
      exact grants_of_observes (advanceTime_observes (ε := ε) elapsedMs driver).ends
  | pollEvent scratchAddress scratch =>
      obtain ⟨added, observes, _⟩ := (pollEvent_observes scratchAddress driver scratch).ends
      exact grants_of_observes observes
  | receivePacket event packetIndex output =>
      exact grants_of_observes (receivePacket_observes event packetIndex driver output).ends
  | transmit wdevId frame dscpTos =>
      obtain ⟨added, observes⟩ := (transmit_observes wdevId frame dscpTos driver).ends
      exact grants_of_observes observes
  | watchdogPending =>
      have polled : Post (NativeDriver.watchdogPending : Program (NativeDriver β rx tx)
          (DriverError ε) Bool) driver.inner
          (fun _ inner => driver.inner.station.GrantsNothing inner.station) := by
        refine (NativeDriver.pollWatchdog_lifecycle 10 driver.inner).mono ?_
        intro r inner outcome
        have same : inner.station = driver.inner.station := by
          rcases outcome with ⟨-, lifecycle⟩ | ⟨-, lifecycle⟩
          · exact congrArg Prod.snd lifecycle
          · exact congrArg Prod.snd lifecycle
        rw [same]
        exact resting
      exact .inl (finishes_granting .watchdog polled).ends
  | acknowledgeWatchdog =>
      have acknowledged : Post (NativeDriver.acknowledgeWatchdog : Program (NativeDriver β rx tx)
          (DriverError ε) Unit) driver.inner
          (fun _ inner => driver.inner.station.GrantsNothing inner.station) := by
        have access (x : Program (Rpu β) (RpuError ε) Unit) :
            Preserves (fun inner : NativeDriver β rx tx =>
              driver.inner.station.GrantsNothing inner.station)
              (NativeDriver.onRpu x : Program (NativeDriver β rx tx) (DriverError ε) Unit) := by
          refine (NativeDriver.keeps_lifecycle_onDevice _).preserves ?_
          intro inner next same granted
          rwa [show next.station = inner.station from congrArg Prod.snd same]
        have acknowledges : Preserves (fun inner : NativeDriver β rx tx =>
            driver.inner.station.GrantsNothing inner.station) (NativeDriver.acknowledgeWatchdog :
              Program (NativeDriver β rx tx) (DriverError ε) Unit) := by
          apply (access _).bind
          intro cleared
          apply (access _).bind
          intro rearmed inner granted
          exact (post_modify _ _ _).mpr (recovering inner.station)
        exact acknowledges driver.inner resting
      exact .inl (finishes_granting .watchdog acknowledged).ends

omit [Platform π β ρ] in
theorem receivePacket_allowed (event : RxEvent) (packetIndex : Nat)
    (s : MissionCriticalDriver β rx tx × Bytes) :
    Post (receivePacket event packetIndex : Program _ (ProductionError ε) _) s
      (fun r t => ∀ frame, r = .ok frame →
        frameAllowed t.1.inner.station frame.etherType = true) := by
  have failed (failure : ProductionError ε) (t : MissionCriticalDriver β rx tx × Bytes) :
      ∀ frame, (.error failure : Except _ ReceivedFrame) = .ok frame →
        frameAllowed t.1.inner.station frame.etherType = true := by
    intro frame same
    cases same
  apply post_bind_of_rest failed
  intro ready s
  apply post_bind_of_rest failed
  intro result t
  apply post_bind_of_rest failed
  intro frame u
  rw [enforceReceivedFrame, post_bind, post_get]
  dsimp only
  rw [post_ite]
  split
  · rename_i allowed
    rw [post_pure]
    intro other same
    rwa [← Except.ok.inj same]
  · exact post_bind_of_rest failed fun _ t => (post_throw _ _ _).mpr (failed _ t)

end MissionCriticalDriver

/-! ## Runs of the station -/

/-- Every operation between two restarts, on a network with security. -/
def SecureMove.Secured {π β ε : Type} : SecureMove π β ε → Prop
  | .restartPairwise _ => False
  | .driver move => move.Secured
  | _ => True

theorem SecureMove.continues_of_secured {π β ε : Type} {move : SecureMove π β ε}
    (secured : move.Secured) : move.Continues := by
  cases move with
  | restartPairwise supplicantNonce => exact secured.elim
  | _ => trivial

namespace Wpa2StationDriver
variable {β ε π ρ : Type} {rx tx : Nat} {crypto : Wpa2Crypto} {log : List Crossing}
  {start station : Wpa2StationDriver β rx tx}

/-- The port was open at the start, or it is excused by the log since then. -/
def Opened (start : Wpa2StationDriver β rx tx) (log : List Crossing) : Prop :=
  start.controlledPortAuthorized = true ∨ Wpa2Runtime.Excused start.AwaitsAuthorization log

theorem opened_lasts (log more : List Crossing) (opened : start.Opened log) :
    start.Opened (log ++ more) :=
  opened.imp_right fun excused => excused.append more

/-- The log since the start accounts for the port, and for the data that passed it. -/
structure ProtectedBy (start station : Wpa2StationDriver β rx tx) (log : List Crossing) :
    Prop where
  journal : station.journal = start.journal ++ log
  justified : station.Justified start.AwaitsAuthorization log
  port : station.controlledPortAuthorized = true → start.Opened log
  data : OnlyAfter Crossing.CarriesData start.Opened log

section Steps
variable [Bus β ε] [Platform π β ρ]

/-- An operation adds data frames before an authorized port only. -/
theorem step_traffic (station : Wpa2StationDriver β rx tx) {move : SecureMove π β ε}
    (secured : move.Secured) :
    GrowsBy (fun crossing => crossing.CarriesData → station.controlledPortAuthorized = true)
      station.journal (station.step crypto move).journal := by
  have carried : Carried ε crypto (fun _ => True)
      (Unsecured (station.controlledPortAuthorized = true)) (fun s : Wpa2System β rx tx =>
        GrowsBy (fun crossing => crossing.CarriesData → station.controlledPortAuthorized = true)
          station.journal (Wpa2Runtime.journal s)) := by
    refine ⟨?_, ?_, ?_⟩
    · exact fun s driver grown more => grown.trans (more.mono fun _ admitted => admitted.2)
    · exact fun s timeouts grown => grown
    · intro call _ s grown
      refine (Wpa2Runtime.perform_coordinated crypto call s).mono ?_
      intro r t more
      refine grown.trans (more.mono ?_)
      intro crossing coordinates data
      cases crossing with
      | sent message => exact data.elim
      | received message => exact data.elim
      | transmitted token frame => exact absurd coordinates data
  exact step_carries carried (SecureMove.continues_of_secured secured) id (fun _ _ => trivial)
    (growsBy_refl _ _)

theorem ProtectedBy.next {move : SecureMove π β ε} (holds : start.ProtectedBy station log)
    (secured : move.Secured)
    (continues : Continues start.AwaitsAuthorization log station (station.step crypto move)) :
    ∃ more, start.ProtectedBy (station.step crypto move) more := by
  obtain ⟨added, continues⟩ := continues
  refine ⟨log ++ added, ?_, continues.justified, ?_, ?_⟩
  · rw [← List.append_assoc, ← holds.journal]
    exact continues.journal
  · intro opened
    rcases continues.port opened with before | excused
    · exact opened_lasts log added (holds.port before)
    · exact .inr excused
  · obtain ⟨same, grown, data⟩ := step_traffic station secured
    obtain rfl : same = added := List.append_cancel_left (grown.symm.trans continues.journal)
    refine holds.data.append_of opened_lasts ?_
    exact fun crossing member carries => holds.port (data crossing member carries)

theorem driver_continues {move : MissionMove π β ε}
    (justified : station.Justified start.AwaitsAuthorization log) (secured : move.Secured) :
    Continues start.AwaitsAuthorization log station
      (station.step crypto (.driver move : SecureMove π β ε)) := by
  obtain ⟨added, journal, admitted⟩ := MissionCriticalDriver.step_unsecured station.driver move
  have grants := MissionCriticalDriver.step_grants station.driver move secured
  refine ⟨added, journal, ⟨?_, justified.reached.append added, justified.stored, ?_⟩, ?_⟩
  · refine justified.submitted.append ?_
    exact fun crossing member commands => (admitted crossing member).1 (.inr (.inr commands))
  · intro waits
    rcases grants with grants | ⟨answered, _⟩
    · exact (justified.pending (grants.pending waits)).imp_right
        fun found => found.imp fun token ordered => ordered.append added
    · cases answered.settled.symm.trans waits
  · intro opened
    rcases grants with grants | ⟨answered, crossing, single, accepts⟩
    · exact .inl (grants.port opened)
    · obtain rfl : added = [crossing] := List.append_cancel_left (journal.symm.trans single)
      rcases justified.pending answered.waited with before | ⟨token, ordered⟩
      · exact .inr (.inl before)
      · exact .inr (.inr ⟨token, ordered.snoc accepts⟩)

theorem step_protected {move : SecureMove π β ε} (secured : move.Secured)
    (holds : start.ProtectedBy station log) :
    ∃ more, start.ProtectedBy (station.step crypto move) more := by
  apply holds.next secured
  cases move with
  | driver move => exact driver_continues holds.justified secured
  | restartPairwise supplicantNonce => exact secured.elim
  | setWpa2Timeouts timeouts => exact step_continues crypto (by trivial) holds.justified
  | advanceTime elapsedMs => exact step_continues crypto (by trivial) holds.justified
  | pollEvent scratchAddress scratch => exact step_continues crypto (by trivial) holds.justified
  | receivePacket event packetIndex output =>
      exact step_continues crypto (by trivial) holds.justified
  | transmit wdevId frame dscpTos => exact step_continues crypto (by trivial) holds.justified

omit [Platform π β ρ] in
theorem receivePacket_authorized (event : RxEvent) (packetIndex : Nat) (output : Bytes)
    (station : Wpa2StationDriver β rx tx) :
    Post (receivePacket crypto event packetIndex :
        Program (Wpa2StationDriver β rx tx × Bytes) (SecureProductionError ε) _)
      (station, output) (fun r _ => ∀ frame, r = .ok (.data frame) →
        station.controlledPortAuthorized = true) := by
  have failed (failure : SecureProductionError ε) (t : Wpa2StationDriver β rx tx × Bytes) :
      ∀ frame, (.error failure : Except _ SecureReceive) = .ok (.data frame) →
        station.controlledPortAuthorized = true := by
    intro frame same
    cases same
  rw [receivePacket, post_bind, onDriverBuffer, post_onField, post_mapError]
  refine ((MissionCriticalDriver.receivePacket_observes event packetIndex station.driver
    output).and (MissionCriticalDriver.receivePacket_allowed event packetIndex _)).mono ?_
  rintro r part ⟨observes, allowed⟩
  cases r with
  | error failure => exact failed _ (station, output)
  | ok received =>
      dsimp only [Except.mapError]
      rw [finishReceivedPacket, post_ite]
      split
      · rename_i data
        rw [post_pure]
        intro frame _
        have opened := MissionCriticalDriver.authorized_of_allowed (allowed received rfl) data
        rcases observes.station with grants | ⟨_, crossing, same, _⟩
        · exact grants.port opened
        · cases same
      · apply post_bind_of_rest failed
        intro buffered s
        apply post_bind_of_rest failed
        intro consumed t
        apply post_bind_of_rest failed
        intro wiped u
        apply post_bind_of_rest failed
        intro progress v
        rw [post_pure]
        intro frame same
        cases same

end Steps

section Runs
variable [Bus β ε] [Platform π β ρ] (crypto)

theorem protected_run (starts : Starts ε start) (closed : start.controlledPortAuthorized = false)
    (moves : List (SecureMove π β ε)) (secured : ∀ move ∈ moves, move.Secured) :
    ∃ log, start.ProtectedBy (runMoves (step crypto) start moves) log := by
  have first : ∃ log, start.ProtectedBy start log := by
    refine ⟨[], (List.append_nil _).symm, starts.justified, ?_, onlyAfter_nil _ _⟩
    intro opened
    cases closed.symm.trans opened
  have preserved : ∀ (visit : Wpa2StationDriver β rx tx) (move : SecureMove π β ε), move.Secured →
      (∃ log, start.ProtectedBy visit log) →
        ∃ log, start.ProtectedBy (visit.step crypto move) log := by
    rintro visit move secured ⟨log, holds⟩
    exact step_protected secured holds
  exact runMoves_preserves_of_allowed preserved first moves secured

/-- A port that was closed and settled at the start opens for the log only. -/
theorem authorized_of_opened {log : List Crossing} (closed : start.controlledPortAuthorized = false)
    (settled : ¬ start.AwaitsAuthorization) (opened : start.Opened log) : Authorized log := by
  rcases opened with before | waits | shows
  · cases closed.symm.trans before
  · exact absurd waits settled
  · exact shows

/-- In a run between two restarts that starts with a closed port, every data frame that is
transmitted finds the authorization in the journal, and so does every one that is handed up
at its end. -/
theorem data_follows_authorization (starts : Starts ε start)
    (closed : start.controlledPortAuthorized = false) (settled : ¬ start.AwaitsAuthorization)
    (moves : List (SecureMove π β ε)) (secured : ∀ move ∈ moves, move.Secured) :
    let station := runMoves (step crypto) start moves
    ∃ log, station.journal = start.journal ++ log ∧
      OnlyAfter Crossing.CarriesData Authorized log ∧
      ∀ event packetIndex output frame,
        resultOf (receivePacket crypto event packetIndex :
            Program _ (SecureProductionError ε) _) (station, output) = .ok (.data frame) →
          Authorized log := by
  intro station
  obtain ⟨log, holds⟩ := protected_run crypto starts closed moves secured
  refine ⟨log, holds.journal, ?_, ?_⟩
  · intro before entry after splits carries
    exact authorized_of_opened closed settled (holds.data before entry after splits carries)
  · intro event packetIndex output frame delivered
    have opened := (receivePacket_authorized event packetIndex output station).ends frame delivered
    exact authorized_of_opened closed settled (holds.port opened)

end Runs

/-! ### A data frame after the handshake -/

def dataFrame : Bytes := List.replicate 60 1

/-- The handshake, the authorization, the carrier, and a data frame. -/
def dataMoves : List (SecureMove Unit (BackedBus ReadyBus) Empty) :=
  handshakeMoves ++ eventMoves (statusMessage .setStation) ++
    eventMoves NativeDriver.carrierOnMessage ++ [.transmit 0 dataFrame 0]

theorem secured_of_operates {move : SecureMove π β ε} (operates : move.Operates) :
    move.Secured := by
  cases move with
  | restartPairwise supplicantNonce => exact operates.elim
  | driver move =>
      cases move with
      | hardware bus => trivial
      | _ => exact operates.elim
  | _ => trivial

theorem operates_dataMoves : ∀ move ∈ dataMoves, move.Operates := by
  simp only [dataMoves, List.forall_mem_append, and_assoc]
  refine ⟨operates_handshakeMoves, operates_eventMoves _, operates_eventMoves _, ?_⟩
  simp [SecureMove.Operates]

theorem data_follows_authorization_sample :
    (runMoves (step sampleCrypto) securingStart dataMoves).journal.getLast? =
        some (.transmitted 0 dataFrame) ∧
      ∃ log, (runMoves (step sampleCrypto) securingStart dataMoves).journal =
          securingStart.journal ++ log ∧
        OnlyAfter Crossing.CarriesData Authorized log := by
  have starts : Starts Empty securingStart := .new securingDriver sampleSupplicant 0
  have secured : ∀ move ∈ dataMoves, move.Secured := by
    intro move member
    exact secured_of_operates (operates_dataMoves move member)
  have settled : ¬ securingStart.AwaitsAuthorization := by
    intro waits
    cases waits
  obtain ⟨log, journal, ordered, _⟩ :=
    data_follows_authorization sampleCrypto starts rfl settled dataMoves secured
  exact ⟨by decide +kernel, log, journal, ordered⟩

end Wpa2StationDriver

end Nrf7002
