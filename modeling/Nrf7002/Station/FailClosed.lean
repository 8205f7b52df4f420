import Nrf7002.Station.Port

/-! # Revocation, faults and the connected state

Three questions about runs: whether the port stays closed once it was revoked,
whether a fault holds until recovery, and whether `connected` means an open port.
Each holds along a run exactly when the run avoids the steps named here. -/

set_option autoImplicit false

namespace Nrf7002
open Foundation

namespace StationController
variable {β ε : Type}

/-- The carrier alone opens nothing. -/
theorem refreshConnected_unauthorized {station : StationController}
    (unset : station.controlledPortAuthorized = false) :
    refreshConnected { station with carrierOn := true } = { station with carrierOn := true } := by
  simp [refreshConnected, unset]

theorem controlledPortOpen_of_ne {station : StationController}
    (apart : station.state ≠ .connected) : station.controlledPortOpen = false := by
  simp [controlledPortOpen, apart]

/-- A status that answers none of the commands with an effect only frees the slot. -/
theorem applySuccessfulCommand_other {command : UInt32} {station : StationController}
    (key : isKeyCommand command = false)
    (authorization : ¬ (command = UmacCommand.setStation.number ∧ station.state = .authorizing))
    (powerSave : ¬ (isPowerSaveCommand command = true ∧ station.state = .powerSavePending)) :
    applySuccessfulCommand command { station with pendingCommand := none } =
      { station with pendingCommand := none } := by
  rw [applySuccessfulCommand, key, if_neg (by decide), if_neg authorization, if_neg powerSave]

/-! ## Revocation -/

section Revocation
variable [Bus β ε] {station after : StationController}

/-- The carrier comes up on this interface while the port is still authorized. -/
def carrierReopens (station : StationController) : StationOperation β → Prop
  | .dataEvent (.carrierOn wdevId) =>
      wdevId = station.wdevId ∧ station.controlledPortAuthorized = true
  | _ => False

def isFirmwareEvent : StationOperation β → Bool
  | .controlEvent _ | .dataEvent _ => true
  | _ => false

/-- The states between the revoking command and the next command. -/
def revokedState : StationState → Bool
  | .disconnecting | .interfaceDownPending | .idle | .down | .fault => true
  | _ => false

/-- After the revoking command the station waits at most for its own answer. -/
structure Revoked (station : StationController) : Prop where
  state : revokedState station.state = true
  pending : station.pendingCommand = none ∨ station.pendingCommand = some .deauthenticate ∨
    station.pendingCommand = some .setInterfaceFlags

theorem Revoked.apart (revoked : Revoked station) {state : StationState}
    (outside : revokedState state = false) : station.state ≠ state := by
  intro same
  rw [← same, revoked.state] at outside
  exact absurd outside (by decide)

theorem Revoked.closed (revoked : Revoked station) : station.controlledPortOpen = false :=
  controlledPortOpen_of_ne (revoked.apart rfl)

theorem revoked_of_accepted {operation : StationOperation β}
    (revokes : (∃ device reason, operation = .disconnect device reason) ∨
      ∃ device, operation = .bringDown device)
    (accepted : succeeds station operation = true) : Revoked (step station operation) := by
  have effect := step_effect station operation
  rw [accepted] at effect
  generalize step station operation = after at effect ⊢
  rcases revokes with ⟨device, reason, rfl⟩ | ⟨device, rfl⟩
  · cases effect with
    | ignored event => exact absurd event id
    | posted command ready => exact ⟨rfl, .inr (.inl rfl)⟩
  · cases effect with
    | ignored event => exact absurd event id
    | posted command ready => exact ⟨rfl, .inr (.inr rfl)⟩

theorem revoked_answered (revoked : Revoked station) {command : UInt32}
    (pending : station.pendingCommand.map UmacCommand.number = some command) :
    Revoked (applySuccessfulCommand command { station with pendingCommand := none }) := by
  have plain : isKeyCommand command = false ∧ isPowerSaveCommand command = false := by
    rcases revoked.pending with free | deauthenticate | flags
    · rw [free] at pending
      exact absurd pending (by simp)
    · rw [deauthenticate] at pending
      obtain rfl := Option.some.inj pending
      decide
    · rw [flags] at pending
      obtain rfl := Option.some.inj pending
      decide
  rw [applySuccessfulCommand_other plain.1 (fun both => revoked.apart rfl both.2)
    (fun both => absurd (plain.2.symm.trans both.1) (by decide))]
  exact ⟨revoked.state, .inl rfl⟩

theorem revoked_effect {operation : StationOperation β} {succeeded : Bool}
    (revoked : Revoked station) (effect : Effect station operation succeeded after)
    (event : isFirmwareEvent operation = true) (clean : ¬ carrierReopens station operation) :
    Revoked after := by
  cases effect with
  | refused command => exact ⟨revoked.state, revoked.pending⟩
  | failed fault command => exact ⟨rfl, .inl rfl⟩
  | ignored passive => exact revoked
  | posted command ready =>
      cases operation with
      | controlEvent control => exact absurd ready id
      | dataEvent data => exact absurd ready id
      | _ => exact absurd event Bool.false_ne_true
  | interfaceUp pending => exact absurd pending (revoked.apart rfl)
  | interfaceDown pending => exact ⟨rfl, .inl rfl⟩
  | scanDone scanning => exact absurd scanning (revoked.apart rfl)
  | scanResult reading => exact absurd reading (revoked.apart rfl)
  | scanEnded reading => exact absurd reading (revoked.apart rfl)
  | authenticated pending confirmed => exact absurd pending (revoked.apart rfl)
  | associated pending confirmed => exact absurd pending (revoked.apart rfl)
  | disconnected kind names address same => exact ⟨rfl, .inl rfl⟩
  | regulatory pending => exact absurd pending (revoked.apart rfl)
  | interfaceCreated pending => exact absurd pending (revoked.apart rfl)
  | answered names pending => exact revoked_answered revoked pending
  | carrierOn own =>
      have unset : station.controlledPortAuthorized = false :=
        Bool.eq_false_iff.mpr fun set => clean ⟨own, set⟩
      rw [refreshConnected_unauthorized unset]
      exact ⟨revoked.state, revoked.pending⟩
  | carrierOff apart => exact ⟨revoked.state, revoked.pending⟩
  | carrierLost connected => exact absurd connected (revoked.apart rfl)
  | _ => exact absurd event Bool.false_ne_true

theorem carrierReopens_opens {operation : StationOperation β}
    (bad : carrierReopens station operation) :
    (step station operation).controlledPortOpen = true := by
  cases operation with
  | dataEvent event =>
      cases event with
      | carrierOn wdevId =>
          rw [step_carrierOn β bad.1]
          simp [refreshConnected, controlledPortOpen, bad.2]
      | _ => exact absurd bad id
  | _ => exact absurd bad id

/-- After an accepted `disconnect` or `bring_down`, the port stays closed along the
firmware events that follow exactly when no event brings the carrier up while the
authorization flag is still set. -/
theorem revoked_port_stays_closed_iff {operation : StationOperation β}
    (revokes : (∃ device reason, operation = .disconnect device reason) ∨
      ∃ device, operation = .bringDown device)
    (accepted : succeeds station operation = true) (events : List (StationOperation β))
    (firmware : ∀ event ∈ events, isFirmwareEvent event = true) :
    (∀ state ∈ visited step (step station operation) events,
        state.controlledPortOpen = false) ↔
      ∀ taken ∈ stepsOf step (step station operation) events,
        ¬ carrierReopens taken.1 taken.2 := by
  refine always_iff_no_bad_step_of_allowed Revoked
    (fun state => state.controlledPortOpen = false)
    (fun _ event => isFirmwareEvent event = true) carrierReopens
    (fun state revoked => revoked.closed) ?_ ?_ (revoked_of_accepted revokes accepted) events
    (fun taken member => firmware taken.2 (move_mem_of_stepsOf member))
  · exact fun state event revoked firmware clean =>
      revoked_effect revoked (step_effect state event) firmware clean
  · intro state event _ bad closed
    exact absurd ((carrierReopens_opens bad).symm.trans closed) (by decide)

end Revocation

section RevocationExample

abbrev readyStep : StationController → StationOperation ReadyBus → StationController := step

/-- The station of `openJoin`, as a run without its history. -/
theorem openJoin_station :
    ∃ station, Reachable readyStep (new 1 0 0) station ∧ station.state = .associating ∧
      station.wdevId = 0 ∧ station.peer = some accessPoint ∧
      station.controlledPortAuthorized = true ∧ station.carrierOn = false ∧
      station.command.length = maxStationMessageLen := by
  have waits := openJoin_awaitsOpenAnswer
  simp only [awaitsOpenAnswer, Bool.and_eq_true, Bool.not_eq_true', decide_eq_true_eq,
    runMoves_historyStep] at waits
  obtain ⟨⟨⟨⟨⟨⟨state, own⟩, peer⟩, set⟩, carrier⟩, length⟩, _⟩ := waits
  exact ⟨_, ⟨openJoin, rfl⟩, state, own, peer, set, carrier, length⟩

/-- The deauthentication command that `disconnect` posts to the access point. -/
def deauthenticateMessage : Bytes :=
  hostMessageBytes .umac false
    (umacHeaderBytes .deauthenticate { wdevId := some (0 : UInt32).toUInt64 } ++
      deauthenticateBytes accessPoint 3 false)

theorem deauthenticateMessage_delivered :
    (resultOf (Device.sendControlReliable deauthenticateMessage) Device.ready).isOk = true := by
  decide +kernel

theorem disconnect_accepted {station : StationController}
    (state : station.state = .associating) (own : station.wdevId = 0)
    (peer : station.peer = some accessPoint)
    (length : station.command.length = maxStationMessageLen) :
    succeeds station (.disconnect Device.ready 3) = true := by
  have encoded : Post (encodeDeauthenticate station.wdevId accessPoint 3 false) station.command
      fun result after => ∃ len, result = .ok len ∧ after.take len = deauthenticateMessage := by
    refine (encodeDeauthenticate_spec _ _ _ _ _).mono ?_
    intro result after outcome
    cases result with
    | error failure =>
        have short : maxStationMessageLen < 62 := length ▸ outcome
        exact absurd short (by decide)
    | ok len =>
        obtain ⟨_, rfl, rfl⟩ := outcome
        refine ⟨62, rfl, ?_⟩
        rw [own]
        exact List.take_left' rfl
  have run : Post (disconnect 3 : Command ReadyBus Empty Unit) (station, Device.ready)
      fun result _ => result.isOk = true := by
    simp only [disconnect, onStation, requireOneOf, requirePeer, post_bind, post_onField,
      post_get, post_ite, post_pure, post_throw, state, peer]
    simp
    refine (submit_ok encoded deauthenticateMessage_delivered).mono ?_
    rintro _ after ⟨rfl, _⟩
    simp [update, Except.isOk, Except.toBool]
  exact ((post_through Device.ready _ station fun result _ => result.isOk = true).mpr run).ends

/-- After a disconnect of an open association, one carrier event opens the port again. -/
theorem carrier_reopens_after_disconnect :
    ¬ ∀ station, Reachable readyStep (new 1 0 0) station →
      succeeds station (.disconnect Device.ready 3) = true →
        ∀ events : List (StationOperation ReadyBus),
          (∀ event ∈ events, isFirmwareEvent event = true) →
            ∀ state ∈ visited readyStep (readyStep station (.disconnect Device.ready 3)) events,
              state.controlledPortOpen = false := by
  intro always
  obtain ⟨station, reachable, state, own, peer, set, _, length⟩ := openJoin_station
  have accepted := disconnect_accepted state own peer length
  have closed := always station reachable accepted [.dataEvent (.carrierOn 0)]
    (by simp [isFirmwareEvent]) _ (runMoves_mem_visited _ _ _)
  have effect := step_effect station (.disconnect Device.ready 3)
  rw [accepted] at effect
  simp only [readyStep] at closed
  generalize step station (.disconnect Device.ready 3) = after at effect closed
  cases effect with
  | ignored passive => exact passive
  | posted command ready =>
      have opened := carrierReopens_opens
        (show carrierReopens (submitted { station with command } (.disconnect Device.ready 3))
          (.dataEvent (.carrierOn 0) : StationOperation ReadyBus) from ⟨own.symm, set⟩)
      exact absurd (opened.symm.trans closed) (by decide)

def associatingStation : StationController :=
  { new 1 0 0 with
    state := .associating
    peer := some accessPoint
    controlledPortAuthorized := true
    pendingCommand := some .associate }

theorem revoked_port_closed_without_carrier :
    (∀ state ∈ visited readyStep (readyStep associatingStation (.disconnect Device.ready 3))
        [.dataEvent (.carrierOff 0)], state.controlledPortOpen = false) ↔
      ∀ taken ∈ stepsOf readyStep (readyStep associatingStation (.disconnect Device.ready 3))
        [.dataEvent (.carrierOff 0)], ¬ carrierReopens taken.1 taken.2 :=
  revoked_port_stays_closed_iff (.inl ⟨Device.ready, 3, rfl⟩)
    (disconnect_accepted rfl rfl rfl List.length_replicate) [.dataEvent (.carrierOff 0)]
    (by simp [isFirmwareEvent])

end RevocationExample

/-! ## Faults -/

section Faults
variable [Bus β ε] {station after : StationController}

/-- The operations that are meant to end a fault: recovery, or an accepted
`bring_down`. -/
def endsFault (station : StationController) : StationOperation β → Prop
  | .beginRecovery | .recoveryComplete => True
  | .bringDown device => succeeds station (.bringDown device) = true
  | _ => False

/-- The frame of a disconnect event names the stored peer. -/
def namesPeer (station : StationController) (event : MlmeEvent) : Prop :=
  ∃ peer, mlmeFrameAddress event 10 = some peer ∧ station.peer = some peer

/-- The other steps that leave a fault: the carrier comes up on an authorized port, a
disconnect event names the peer, a key command that is still pending is confirmed,
or a group rekey is completed on a secure authorized connection. -/
def slipsOutOfFault (station : StationController) : StationOperation β → Prop
  | .dataEvent (.carrierOn wdevId) =>
      wdevId = station.wdevId ∧ station.controlledPortAuthorized = true
  | .controlEvent (.deauthentication event) | .controlEvent (.disassociation event) =>
      station.headerMatches event.header ∧ station.namesPeer event
  | .controlEvent (.commandStatus header command status) =>
      station.headerMatches header ∧ isKeyCommand command ∧ status = 0 ∧
        station.pendingCommand.map UmacCommand.number = some command
  | .completeGroupRekey =>
      station.secureConnection = true ∧ station.controlledPortAuthorized = true
  | _ => False

theorem submittable_fault (faulty : station.state = .fault) {operation : StationOperation β}
    (ready : station.submittable operation) : ∃ device, operation = .bringDown device := by
  cases operation with
  | bringDown device => exact ⟨device, rfl⟩
  | _ => simp [submittable, faulty] at ready

theorem fault_effect {operation : StationOperation β}
    (faulty : station.state = .fault)
    (effect : Effect station operation (succeeds station operation) after)
    (kept : ¬ endsFault station operation) (clean : ¬ slipsOutOfFault station operation) :
    after.state = .fault := by
  have apart : ∀ {state}, station.state = state → ¬ state ≠ .fault := by
    intro state same other
    exact other (same.symm.trans faulty)
  generalize outcome : succeeds station operation = succeeded at effect
  cases effect with
  | refused command => exact faulty
  | failed fault command => rfl
  | ignored passive => exact faulty
  | claimed down => exact absurd (by decide) (apart down)
  | posted command ready =>
      obtain ⟨device, rfl⟩ := submittable_fault faulty ready
      exact absurd outcome kept
  | interfaceUp pending => exact absurd (by decide) (apart pending)
  | interfaceDown pending => exact absurd (by decide) (apart pending)
  | scanDone scanning => exact absurd (by decide) (apart scanning)
  | scanResult reading => exact absurd (by decide) (apart reading)
  | scanEnded reading => exact absurd (by decide) (apart reading)
  | authenticated pending confirmed => exact absurd (by decide) (apart pending)
  | associated pending confirmed => exact absurd (by decide) (apart pending)
  | @disconnected control event peer kind names address same =>
      rcases kind with rfl | rfl
      · exact absurd ⟨names, peer, address, same⟩ clean
      · exact absurd ⟨names, peer, address, same⟩ clean
  | regulatory pending => exact absurd (by decide) (apart pending)
  | interfaceCreated pending => exact absurd (by decide) (apart pending)
  | @answered header command names pending =>
      have key : isKeyCommand command = false :=
        Bool.eq_false_iff.mpr fun key => clean ⟨names, key, rfl, pending⟩
      rw [applySuccessfulCommand_other key (fun both => apart both.2 (by decide))
        (fun both => apart both.2 (by decide))]
      exact faulty
  | @carrierOn wdevId own =>
      have unset : station.controlledPortAuthorized = false :=
        Bool.eq_false_iff.mpr fun set => clean ⟨own, set⟩
      rw [refreshConnected_unauthorized unset]
      exact faulty
  | carrierOff apart => exact faulty
  | carrierLost connected => rfl
  | ticked remaining => exact faulty
  | timeoutsSet => exact faulty
  | rekeyed =>
      have refused : (station.secureConnection && station.controlledPortAuthorized) = false := by
        refine Bool.eq_false_iff.mpr fun both => clean ?_
        exact Bool.and_eq_true_iff.mp both
      rw [completeGroupRekey, refused]
      rfl
  | recoveryBegan => exact absurd trivial kept
  | recoveryCompleted => exact absurd trivial kept

theorem slipsOutOfFault_leaves {operation : StationOperation β}
    (bad : slipsOutOfFault station operation) : (step station operation).state ≠ .fault := by
  cases operation with
  | dataEvent event =>
      cases event with
      | carrierOn wdevId =>
          rw [step_carrierOn β bad.1]
          simp [refreshConnected, bad.2]
      | _ => exact absurd bad id
  | controlEvent event =>
      have run : Post (handleControlEvent event : Handler ε Unit) station
          (fun _ after => after.state ≠ .fault) := by
        cases event with
        | deauthentication event =>
            obtain ⟨names, peer, address, same⟩ := bad
            simp [handleControlEvent, checkHeader, controlEventHeader, names,
              isStatusControlEvent, handleProgressControlEvent, isScanControlEvent,
              handleMlmeControlEvent, handleDisconnectEvent, checkPeer, address, same]
        | disassociation event =>
            obtain ⟨names, peer, address, same⟩ := bad
            simp [handleControlEvent, checkHeader, controlEventHeader, names,
              isStatusControlEvent, handleProgressControlEvent, isScanControlEvent,
              handleMlmeControlEvent, handleDisconnectEvent, checkPeer, address, same]
        | commandStatus header command status =>
            obtain ⟨names, key, rfl, pending⟩ := bad
            obtain ⟨posted, waits, rfl⟩ := Option.map_eq_some_iff.mp pending
            have other : posted.number ≠ UmacCommand.newInterface.number := by
              intro same
              rw [same] at key
              exact absurd key (by decide)
            simp [handleControlEvent, checkHeader, controlEventHeader, names,
              isStatusControlEvent, handleStatusControlEvent, handleCommandStatus,
              isDefaultInterfaceStatus, validatePendingCommand, waits, other,
              applySuccessfulCommand, key]
        | _ => exact absurd bad id
      exact run.ends
  | completeGroupRekey =>
      have rekeyed : step station (.completeGroupRekey : StationOperation β) =
          station.completeGroupRekey := rfl
      rw [rekeyed, completeGroupRekey, bad.1, bad.2]
      cases station.carrierOn <;> simp
  | _ => exact absurd bad id

/-- From a fault, a run without recovery and without an accepted `bring_down` stays in
the fault, with a closed port, exactly when it takes none of the slipping steps. -/
theorem fault_is_absorbing_iff (faulty : station.state = .fault)
    (operations : List (StationOperation β))
    (kept : ∀ taken ∈ stepsOf step station operations, ¬ endsFault taken.1 taken.2) :
    (∀ state ∈ visited step station operations,
        state.state = .fault ∧ state.controlledPortOpen = false) ↔
      ∀ taken ∈ stepsOf step station operations, ¬ slipsOutOfFault taken.1 taken.2 := by
  refine always_iff_no_bad_step_of_allowed (fun state => state.state = .fault)
    (fun state => state.state = .fault ∧ state.controlledPortOpen = false)
    (fun state operation => ¬ endsFault state operation) slipsOutOfFault ?_ ?_ ?_ faulty
    operations kept
  · intro state holds
    exact ⟨holds, controlledPortOpen_of_ne (by simp [holds])⟩
  · exact fun state operation holds kept clean =>
      fault_effect holds (step_effect state operation) kept clean
  · exact fun state operation _ bad always => slipsOutOfFault_leaves bad always.1

/-- A fault during an open association does not hold: one carrier event leaves it and
opens the port. -/
theorem carrier_leaves_fault :
    ¬ ∀ station, Reachable readyStep (new 1 0 0) station → station.state = .fault →
      ∀ events : List (StationOperation ReadyBus),
        (∀ event ∈ events, isFirmwareEvent event = true) →
          ∀ state ∈ visited readyStep station events,
            state.state = .fault ∧ state.controlledPortOpen = false := by
  intro always
  obtain ⟨station, reachable, state, own, _, set, _, _⟩ := openJoin_station
  let scanDone : StationOperation ReadyBus := .controlEvent (.scanDone (plainHeader 0) 0 0)
  have failed : step station scanDone = faulted .unexpectedEvent station := by
    have run : Post (handleControlEvent (.scanDone (plainHeader 0) 0 0) : Handler Empty Unit)
        station (fun _ after => after = faulted .unexpectedEvent station) := by
      simp [handleControlEvent, checkHeader, controlEventHeader, headerMatches, plainHeader,
        isStatusControlEvent, handleProgressControlEvent, isScanControlEvent,
        handleScanControlEvent, handleScanDone, state]
    exact run.ends
  have holds := always (step station scanDone) (reachable.step scanDone) (by rw [failed]; rfl)
    [.dataEvent (.carrierOn 0)] (by simp [isFirmwareEvent]) _ (runMoves_mem_visited _ _ _)
  rw [failed] at holds
  have opened := carrierReopens_opens
    (show carrierReopens (faulted .unexpectedEvent station)
      (.dataEvent (.carrierOn 0) : StationOperation ReadyBus) from ⟨own.symm, set⟩)
  exact absurd (opened.symm.trans holds.2) (by decide)

theorem fault_holds_over_carrier :
    (∀ state ∈ visited readyStep { new 1 0 0 with state := .fault }
        [.advanceTime 5, .dataEvent (.carrierOn 0)],
        state.state = .fault ∧ state.controlledPortOpen = false) ↔
      ∀ taken ∈ stepsOf readyStep { new 1 0 0 with state := .fault }
        [.advanceTime 5, .dataEvent (.carrierOn 0)], ¬ slipsOutOfFault taken.1 taken.2 :=
  fault_is_absorbing_iff rfl [.advanceTime 5, .dataEvent (.carrierOn 0)]
    (by simp [stepsOf, endsFault])

end Faults

/-! ## The connected state -/

section Connected
variable [Bus β ε] {station after : StationController}

/-- The connected state means an authorized port and a carrier; a saved state that a
power-save command returns to is idle, or connected with the port still authorized. -/
structure LinkInvariant (station : StationController) : Prop where
  connected : station.state = .connected →
    station.controlledPortAuthorized = true ∧ station.carrierOn = true
  regulatoryReturn : station.state = .regulatoryPending →
    station.pendingReturnState = some .down ∨ station.pendingReturnState = some .idle
  powerSaveReturn : station.state = .powerSavePending →
    station.pendingReturnState = some .idle ∨
      (station.pendingReturnState = some .connected ∧ station.controlledPortAuthorized = true)

/-- A confirmed power-save command returns to `connected` after the carrier was lost. -/
def returnsWithoutCarrier (station : StationController) : StationOperation β → Prop
  | .controlEvent (.commandStatus header command status) =>
      station.headerMatches header ∧ isPowerSaveCommand command ∧ status = 0 ∧
        station.pendingCommand.map UmacCommand.number = some command ∧
        station.state = .powerSavePending ∧
        station.pendingReturnState = some .connected ∧ station.carrierOn = false
  | _ => False

/-- A state that is neither connected nor waiting to return is free of obligations. -/
theorem linkInvariant_elsewhere (state : StationState) (current : after.state = state)
    (free : state ≠ .connected ∧ state ≠ .regulatoryPending ∧ state ≠ .powerSavePending) :
    LinkInvariant after where
  connected same := absurd (current.symm.trans same) free.1
  regulatoryReturn same := absurd (current.symm.trans same) free.2.1
  powerSaveReturn same := absurd (current.symm.trans same) free.2.2

theorem linkInvariant_connected (current : after.state = .connected)
    (set : after.controlledPortAuthorized = true) (carrier : after.carrierOn = true) :
    LinkInvariant after where
  connected _ := ⟨set, carrier⟩
  regulatoryReturn same := absurd (current.symm.trans same) (by decide)
  powerSaveReturn same := absurd (current.symm.trans same) (by decide)

theorem linkInvariant_regulatory (current : after.state = .regulatoryPending)
    (saved : after.pendingReturnState = some .down ∨ after.pendingReturnState = some .idle) :
    LinkInvariant after where
  connected same := absurd (current.symm.trans same) (by decide)
  regulatoryReturn _ := saved
  powerSaveReturn same := absurd (current.symm.trans same) (by decide)

theorem linkInvariant_powerSave (current : after.state = .powerSavePending)
    (saved : after.pendingReturnState = some .idle ∨
      (after.pendingReturnState = some .connected ∧ after.controlledPortAuthorized = true)) :
    LinkInvariant after where
  connected same := absurd (current.symm.trans same) (by decide)
  regulatoryReturn same := absurd (current.symm.trans same) (by decide)
  powerSaveReturn _ := saved

theorem linkInvariant_refreshed (holds : LinkInvariant station) :
    LinkInvariant station.refreshConnected := by
  unfold refreshConnected
  split
  · rename_i both
    obtain ⟨carrier, set⟩ := Bool.and_eq_true_iff.mp both
    exact linkInvariant_connected rfl set carrier
  · exact holds

theorem linkInvariant_posted (holds : LinkInvariant station) {operation : StationOperation β}
    (command : Bytes) (ready : station.submittable operation) :
    LinkInvariant (submitted { station with command } operation) := by
  have powerSave : station.state = .idle ∨ station.state = .connected →
      some station.state = some .idle ∨
        (some station.state = some .connected ∧ station.controlledPortAuthorized = true) := by
    rintro (idle | connected)
    · exact .inl (congrArg some idle)
    · exact .inr ⟨congrArg some connected, (holds.connected connected).1⟩
  cases operation with
  | createInterface => exact linkInvariant_elsewhere .interfaceCreatePending rfl (by decide)
  | setRegulatory =>
      exact linkInvariant_regulatory rfl (ready.imp (congrArg some) (congrArg some))
  | bringUp => exact linkInvariant_elsewhere .interfaceUpPending rfl (by decide)
  | bringDown => exact linkInvariant_elsewhere .interfaceDownPending rfl (by decide)
  | startScan => exact linkInvariant_elsewhere .scanning rfl (by decide)
  | requestScanResults => exact linkInvariant_elsewhere .readingScanResults rfl (by decide)
  | authenticate => exact linkInvariant_elsewhere .authenticating rfl (by decide)
  | associate => exact linkInvariant_elsewhere .associating rfl (by decide)
  | keyCommand => exact linkInvariant_elsewhere .securing rfl (by decide)
  | setKey => exact linkInvariant_elsewhere .securing rfl (by decide)
  | authorize => exact linkInvariant_elsewhere .authorizing rfl (by decide)
  | setPowerSave => exact linkInvariant_powerSave rfl (powerSave ready)
  | setPowerSaveTimeout => exact linkInvariant_powerSave rfl (powerSave ready)
  | disconnect => exact linkInvariant_elsewhere .disconnecting rfl (by decide)
  | _ => exact absurd ready id

theorem linkInvariant_answered (holds : LinkInvariant station) {command : UInt32}
    (clean : ¬ (isPowerSaveCommand command = true ∧ station.state = .powerSavePending ∧
      station.pendingReturnState = some .connected ∧ station.carrierOn = false)) :
    LinkInvariant (applySuccessfulCommand command { station with pendingCommand := none }) := by
  unfold applySuccessfulCommand
  split
  · exact linkInvariant_elsewhere .securing rfl (by decide)
  · split
    · exact linkInvariant_refreshed (linkInvariant_elsewhere .awaitingCarrier rfl (by decide))
    · split
      · rename_i powerSave
        rcases holds.powerSaveReturn powerSave.2 with idle | ⟨connected, set⟩
        · simp only [idle, Option.getD_some]
          exact linkInvariant_elsewhere .idle rfl (by decide)
        · have carrier : station.carrierOn = true :=
            Bool.not_eq_false _ ▸ fun off => clean ⟨powerSave.1, powerSave.2, connected, off⟩
          simp only [connected, Option.getD_some]
          exact linkInvariant_connected rfl set carrier
      · exact ⟨holds.connected, holds.regulatoryReturn, holds.powerSaveReturn⟩

theorem linkInvariant_effect (holds : LinkInvariant station) {operation : StationOperation β}
    {succeeded : Bool} (effect : Effect station operation succeeded after)
    (clean : ¬ returnsWithoutCarrier station operation) : LinkInvariant after := by
  cases effect with
  | refused command => exact ⟨holds.connected, holds.regulatoryReturn, holds.powerSaveReturn⟩
  | failed fault command => exact linkInvariant_elsewhere .fault rfl (by decide)
  | ignored passive => exact holds
  | claimed down => exact linkInvariant_elsewhere .down rfl (by decide)
  | posted command ready => exact linkInvariant_posted holds command ready
  | interfaceUp pending => exact linkInvariant_elsewhere .idle rfl (by decide)
  | interfaceDown pending => exact linkInvariant_elsewhere .down rfl (by decide)
  | scanDone scanning => exact linkInvariant_elsewhere .scanComplete rfl (by decide)
  | scanResult reading => exact linkInvariant_elsewhere .readingScanResults rfl (by decide)
  | scanEnded reading => exact linkInvariant_elsewhere .idle rfl (by decide)
  | authenticated pending confirmed => exact linkInvariant_elsewhere .authenticated rfl (by decide)
  | associated pending confirmed =>
      refine linkInvariant_refreshed ?_
      split
      · exact linkInvariant_elsewhere .securing rfl (by decide)
      · exact linkInvariant_elsewhere .awaitingCarrier rfl (by decide)
  | disconnected kind names address same => exact linkInvariant_elsewhere .idle rfl (by decide)
  | regulatory pending =>
      rcases holds.regulatoryReturn pending with down | idle
      · simp only [down, Option.getD_some]
        exact linkInvariant_elsewhere .down rfl (by decide)
      · simp only [idle, Option.getD_some]
        exact linkInvariant_elsewhere .idle rfl (by decide)
  | interfaceCreated pending => exact linkInvariant_elsewhere .down rfl (by decide)
  | answered names pending =>
      refine linkInvariant_answered holds fun bad => clean ?_
      exact ⟨names, bad.1, rfl, pending, bad.2⟩
  | carrierOn own =>
      refine linkInvariant_refreshed ⟨fun connected => ?_, holds.regulatoryReturn,
        holds.powerSaveReturn⟩
      exact ⟨(holds.connected connected).1, rfl⟩
  | carrierOff apart =>
      exact ⟨fun connected => absurd connected apart, holds.regulatoryReturn,
        holds.powerSaveReturn⟩
  | carrierLost connected => exact linkInvariant_elsewhere .fault rfl (by decide)
  | ticked remaining => exact ⟨holds.connected, holds.regulatoryReturn, holds.powerSaveReturn⟩
  | timeoutsSet => exact ⟨holds.connected, holds.regulatoryReturn, holds.powerSaveReturn⟩
  | rekeyed =>
      unfold completeGroupRekey
      split
      · rename_i both
        obtain ⟨_, set⟩ := Bool.and_eq_true_iff.mp both
        split
        · rename_i carrier
          exact linkInvariant_connected rfl set carrier
        · exact linkInvariant_elsewhere .awaitingCarrier rfl (by decide)
      · exact linkInvariant_elsewhere .fault rfl (by decide)
  | recoveryBegan => exact linkInvariant_elsewhere .recovering rfl (by decide)
  | recoveryCompleted => exact linkInvariant_elsewhere .down rfl (by decide)

theorem returnsWithoutCarrier_breaks {operation : StationOperation β}
    (bad : returnsWithoutCarrier station operation) :
    (step station operation).state = .connected ∧
      (step station operation).controlledPortOpen = false := by
  cases operation with
  | controlEvent event =>
      cases event with
      | commandStatus header command status =>
          obtain ⟨names, powerSave, rfl, pending, state, saved, carrier⟩ := bad
          obtain ⟨posted, waits, rfl⟩ := Option.map_eq_some_iff.mp pending
          have other : posted.number ≠ UmacCommand.newInterface.number ∧
              isKeyCommand posted.number = false ∧
              posted.number ≠ UmacCommand.setStation.number := by
            revert powerSave
            cases posted <;> decide
          have run : Post (handleControlEvent (.commandStatus header posted.number 0) :
              Handler ε Unit) station
              (fun _ after => after.state = .connected ∧ after.controlledPortOpen = false) := by
            simp [handleControlEvent, checkHeader, controlEventHeader, names,
              isStatusControlEvent, handleStatusControlEvent, handleCommandStatus,
              isDefaultInterfaceStatus, validatePendingCommand, waits, other,
              applySuccessfulCommand, powerSave, state, saved, controlledPortOpen, carrier]
          exact run.ends
      | _ => exact absurd bad id
  | _ => exact absurd bad id

theorem LinkInvariant.port (holds : LinkInvariant station) :
    station.state = .connected ↔ station.controlledPortOpen = true := by
  constructor
  · intro connected
    simp [controlledPortOpen, connected, holds.connected connected]
  · intro isOpen
    simp only [controlledPortOpen, Bool.and_eq_true, decide_eq_true_eq] at isOpen
    exact isOpen.1.1

/-- Along a run from `new`, `connected` means an open port exactly when no confirmed
power-save command returns to `connected` after the carrier was lost. -/
theorem connected_is_open_iff (ifaceindex : Int32) (firmwareIndex : Int8) (wdevId : UInt32)
    (operations : List (StationOperation β)) :
    (∀ state ∈ visited step (new ifaceindex firmwareIndex wdevId) operations,
        (state.state = .connected →
          state.controlledPortAuthorized = true ∧ state.carrierOn = true) ∧
        (state.state = .connected ↔ state.controlledPortOpen = true)) ↔
      ∀ taken ∈ stepsOf step (new ifaceindex firmwareIndex wdevId) operations,
        ¬ returnsWithoutCarrier taken.1 taken.2 := by
  refine always_iff_no_bad_step LinkInvariant
    (fun state => (state.state = .connected →
        state.controlledPortAuthorized = true ∧ state.carrierOn = true) ∧
      (state.state = .connected ↔ state.controlledPortOpen = true))
    returnsWithoutCarrier (fun _ holds => ⟨holds.connected, holds.port⟩) ?_ ?_
    (linkInvariant_elsewhere .down rfl (by decide)) operations
  · exact fun state operation holds clean =>
      linkInvariant_effect holds (step_effect state operation) clean
  · intro state operation _ bad always
    obtain ⟨connected, closed⟩ := returnsWithoutCarrier_breaks bad
    exact absurd ((always.2.mp connected).symm.trans closed) (by decide)

/-- The power-save command on interface zero. -/
def powerSaveMessage : Bytes :=
  stationHeaderBytes 52 .setPowerSave (some 0) ++ le32 PowerSaveState.enabled.number.toUInt32

theorem powerSaveMessage_delivered :
    (resultOf (Device.sendControlReliable powerSaveMessage) Device.ready).isOk = true := by
  decide +kernel

theorem powerSave_accepted (current : station.state = .connected) (own : station.wdevId = 0)
    (length : station.command.length = maxStationMessageLen) :
    succeeds station (.setPowerSave Device.ready .enabled) = true := by
  have encoded : Post (encodePowerSave station.wdevId .enabled) station.command
      fun result after => ∃ len, result = .ok len ∧ after.take len = powerSaveMessage := by
    refine (encodeUmac_spec .setPowerSave (some station.wdevId)
      (writes_i32 PowerSaveState.enabled.number) station.command).mono ?_
    intro result after outcome
    cases result with
    | error failure =>
        have short : maxStationMessageLen < 52 ∨ maxStationMessageLen < 52 := length ▸ outcome.2
        exact absurd short (by decide)
    | ok len =>
        obtain ⟨_, _, rfl, rfl⟩ := outcome
        refine ⟨52, rfl, ?_⟩
        rw [own]
        exact List.take_left' rfl
  have run : Post (setPowerSave .enabled : Command ReadyBus Empty Unit) (station, Device.ready)
      fun result _ => result.isOk = true := by
    simp only [setPowerSave, onStation, requireOneOf, post_bind, post_onField, post_get,
      post_ite, post_pure, post_throw, current]
    simp
    refine (submit_ok encoded powerSaveMessage_delivered).mono ?_
    rintro _ after ⟨rfl, _⟩
    simp [update, Except.isOk, Except.toBool]
  exact ((post_through Device.ready _ station fun result _ => result.isOk = true).mpr run).ends

theorem step_carrierOff (β : Type) [Bus β ε] {wdevId : UInt32}
    (own : wdevId = station.wdevId) (apart : station.state ≠ .connected) :
    step station (.dataEvent (.carrierOff wdevId) : StationOperation β) =
      { station with carrierOn := false } := by
  have run : Post (perform (.dataEvent (.carrierOff wdevId) : StationOperation β) : Handler ε Unit)
      station (fun _ after => after = { station with carrierOn := false }) := by
    simp [perform, handleDataEvent, handleCarrierOff, requireDataInterface, own, apart]
  exact run.ends

/-- A power-save command that a connected station posted, and the carrier lost after it. -/
def savedThenLost (station : StationController) (command : Bytes) : StationController :=
  { transition .powerSavePending
      { station with
        command
        pendingCommand := some .setPowerSave
        pendingReturnState := some .connected } with
    carrierOn := false }

theorem savedThenLost_reachable (reachable : Reachable readyStep (new 1 0 0) station)
    (current : station.state = .connected) (own : station.wdevId = 0)
    (length : station.command.length = maxStationMessageLen) :
    ∃ command, Reachable readyStep (new 1 0 0) (savedThenLost station command) := by
  have saved := reachable.step (.setPowerSave Device.ready .enabled)
  have effect := step_effect station (.setPowerSave Device.ready .enabled)
  rw [powerSave_accepted current own length] at effect
  simp only [readyStep] at saved
  generalize step station (.setPowerSave Device.ready .enabled) = after at effect saved
  cases effect with
  | ignored passive => exact absurd passive id
  | posted command ready =>
      rw [submitted, current] at saved
      have lost := saved.step (.dataEvent (.carrierOff 0))
      rw [step_carrierOff ReadyBus (by exact own.symm) (by simp)] at lost
      exact ⟨command, lost⟩

/-- The carrier is lost while a power-save command is pending: its status returns the
station to `connected` with a closed port. -/
theorem connected_without_carrier :
    ¬ ∀ station, Reachable readyStep (new 1 0 0) station → station.state = .connected →
      station.controlledPortAuthorized = true ∧ station.carrierOn = true := by
  intro always
  obtain ⟨station, reachable, _, own, _, set, _, length⟩ := openJoin_station
  have up := reachable.step (.dataEvent (.carrierOn 0))
  rw [show readyStep station (.dataEvent (.carrierOn 0)) = _ from
    step_carrierOn ReadyBus own.symm] at up
  have connected : refreshConnected { station with carrierOn := true } =
      transition .connected { station with carrierOn := true } := by
    simp [refreshConnected, set]
  rw [connected] at up
  obtain ⟨command, lost⟩ := savedThenLost_reachable up rfl own length
  let answer : StationOperation ReadyBus :=
    .controlEvent (.commandStatus (plainHeader 0) UmacCommand.setPowerSave.number 0)
  have bad : returnsWithoutCarrier
      (savedThenLost (transition .connected { station with carrierOn := true }) command)
      answer := by
    refine ⟨?_, by decide, rfl, rfl, rfl, rfl, rfl⟩
    simp [headerMatches, plainHeader, savedThenLost, own]
  obtain ⟨state, closed⟩ := returnsWithoutCarrier_breaks bad
  have flags := always _ (lost.step answer) state
  simp only [readyStep] at flags
  simp [controlledPortOpen, state, flags] at closed

end Connected

end StationController

end Nrf7002
