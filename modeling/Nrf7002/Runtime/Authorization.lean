import Nrf7002.Foundation.Order
import Nrf7002.Runtime.Journal

/-! # The order in which a port is authorized

The journal shows what must come before the authorization of the station: the commands for
the three keys, each with its status, and the transmission of Message 4.  A state of the
coordinator stands for the part of it that the journal holds by then. -/

set_option autoImplicit false

namespace Nrf7002
open Foundation

/-! ## The marks -/

namespace Crossing

/-- Firmware accepted the command: its status is zero. -/
def Accepts (command : UmacCommand) : Crossing → Prop
  | received message =>
      ∃ header, parseControlEvent message = .ok (.commandStatus header command.number 0)
  | _ => False

/-- The frame with the token was transmitted: one status, zero. -/
def Completes (token : UInt8) : Crossing → Prop
  | received message => TxDoneEvent.parse message = .ok { token, statuses := [0] }
  | _ => False

end Crossing

/-- What happens before the authorization, in this order. -/
def securedMarks (token : UInt8) : List (Crossing → Prop) :=
  [Crossing.Submits (StationMessage.NewKey .pairwise),
    Crossing.Accepts .newKey,
    Crossing.Submits (StationMessage.NewKey .group),
    Crossing.Accepts .newKey,
    Crossing.Submits StationMessage.DefaultGroupKey,
    Crossing.Accepts .setKey,
    Crossing.CarriesMessage4 token,
    Crossing.Completes token]

/-- What happens before a SET_STATION command is answered. -/
def submittedMarks (token : UInt8) : List (Crossing → Prop) :=
  securedMarks token ++ [Crossing.Submits StationMessage.Authorization]

def authorizedMarks (token : UInt8) : List (Crossing → Prop) :=
  submittedMarks token ++ [Crossing.Accepts .setStation]

/-- The log shows everything that comes before the authorization. -/
def Secured (log : List Crossing) : Prop := ∃ token, InOrder (securedMarks token) log

/-- The log shows the authorization too: its command, and the status that accepts it. -/
def Authorized (log : List Crossing) : Prop := ∃ token, InOrder (authorizedMarks token) log

/-- The part of the marks that a state of the coordinator stands for. -/
def reachedMarks : Wpa2RuntimeState → List (Crossing → Prop)
  | .awaitingPairwiseKeyStatus => (securedMarks 0).take 1
  | .awaitingGroupKeyStatus => (securedMarks 0).take 3
  | .awaitingDefaultGroupKeyStatus => (securedMarks 0).take 5
  | .awaitingEapolTransmit token .message4 => (securedMarks token).take 7
  | _ => []

/-! ## The station -/

namespace StationController
variable {β ε : Type}

/-- Neither does a new authorization wait for its answer nor is the port newly authorized. -/
structure GrantsNothing (before after : StationController) : Prop where
  pending : after.pendingCommand = some .setStation → before.pendingCommand = some .setStation
  port : after.controlledPortAuthorized = true → before.controlledPortAuthorized = true

theorem grantsNothing_refl (station : StationController) : station.GrantsNothing station :=
  ⟨id, id⟩

/-- A station without a pending command. -/
theorem grantsNothing_of_settled {before after : StationController}
    (settled : after.pendingCommand = none)
    (port : after.controlledPortAuthorized = true → before.controlledPortAuthorized = true) :
    before.GrantsNothing after := by
  refine ⟨?_, port⟩
  intro waits
  rw [settled] at waits
  cases waits

theorem grantsNothing_beginRecovery (before station : StationController) :
    before.GrantsNothing station.beginRecovery :=
  grantsNothing_of_settled rfl fun opened => by cases opened

theorem grantsNothing_recoveryComplete (before station : StationController) :
    before.GrantsNothing station.recoveryComplete :=
  grantsNothing_of_settled rfl fun opened => by cases opened

/-- The station took the status of the SET_STATION command that it waited for. -/
structure Answered (before after : StationController) : Prop where
  waited : before.pendingCommand = some .setStation
  settled : after.pendingCommand = none

theorem grantsNothing_completeGroupRekey (station : StationController) :
    station.GrantsNothing station.completeGroupRekey := by
  rw [completeGroupRekey]
  split
  · split <;> exact ⟨id, id⟩
  · exact ⟨id, id⟩

/-- Only the status of a SET_STATION command authorizes the port. -/
theorem handleControlEvent_grants {event : ControlEvent} {station next : StationController}
    (handled : Returns (handleControlEvent event : Handler ε Unit) station () next) :
    station.GrantsNothing next ∨
      station.Answered next ∧
        ∃ header, event = .commandStatus header UmacCommand.setStation.number 0 := by
  have handles : HandlesControl Unit station event (handleControlEvent event : Handler ε Unit) :=
    handleControlEvent_effect event
  have effect := handles.ends
  rw [handled.1, handled.2] at effect
  cases effect with
  | ignored ignorable => exact .inl (grantsNothing_refl _)
  | posted command ready => exact .inl ⟨id, id⟩
  | scanResult reading => exact .inl ⟨id, id⟩
  | associated pending confirmed =>
      left
      apply grantsNothing_of_settled
      · rw [associated, pendingCommand_refreshConnected]
        rfl
      · intro opened
        rwa [associated, authorized_refreshConnected] at opened
  | interfaceDown pending => exact .inl (grantsNothing_of_settled rfl fun opened => by cases opened)
  | disconnected kind names address same =>
      exact .inl (grantsNothing_of_settled rfl fun opened => by cases opened)
  | @answered header command names pending =>
      by_cases named : command = UmacCommand.setStation.number
      · obtain ⟨waiting, waited, number⟩ := Option.map_eq_some_iff.mp pending
        rw [UmacCommand.number_inj (number.trans named)] at waited
        refine .inr ⟨⟨waited, ?_⟩, header, by rw [named]⟩
        rw [pendingCommand_applySuccessfulCommand]
      · left
        apply grantsNothing_of_settled
        · rw [pendingCommand_applySuccessfulCommand]
        · intro opened
          rwa [authorized_applySuccessfulCommand named] at opened
  | _ => exact .inl (grantsNothing_of_settled rfl id)

theorem handleDataEvent_grants {event : DataEvent} {station next : StationController}
    (handled : Returns (handleDataEvent event : Handler ε Unit) station () next) :
    station.GrantsNothing next := by
  have handles : Handles station (.dataEvent event : StationOperation Unit)
      (handleDataEvent event : Handler ε Unit) := handleDataEvent_effect event
  have effect := handles.ends
  rw [handled.1, handled.2] at effect
  cases effect with
  | ignored ignorable => exact grantsNothing_refl _
  | posted command ready => exact ⟨id, id⟩
  | carrierOn own =>
      constructor
      · intro waits
        rwa [pendingCommand_refreshConnected] at waits
      · intro opened
        rwa [authorized_refreshConnected] at opened
  | carrierOff apart => exact ⟨id, id⟩

end StationController

/-! ## The driver -/

namespace NativeDriver
variable {β ε α : Type} {rx tx : Nat}

/-- What an operation of the driver adds to the journal, and what it grants: the port is
authorized by the status that was read only. -/
structure Observes (before after : NativeDriver β rx tx) (added : List Crossing) : Prop where
  journal : after.device.journal = before.device.journal ++ added
  unsent : ∀ crossing ∈ added, ∀ command, ¬ crossing.Commands command
  station : before.station.GrantsNothing after.station ∨
    before.station.Answered after.station ∧
      ∃ crossing, added = [crossing] ∧ crossing.Accepts .setStation

theorem Observes.quiet {before after : NativeDriver β rx tx}
    (journal : after.device.journal = before.device.journal)
    (station : before.station.GrantsNothing after.station) : Observes before after [] where
  journal := journal.trans (List.append_nil _).symm
  unsent := by simp
  station := .inl station

theorem Observes.enterRecovery {before after : NativeDriver β rx tx} {added : List Crossing}
    (observes : Observes before after added) : Observes before after.enterRecovery added where
  journal := observes.journal
  unsent := observes.unsent
  station := .inl (StationController.grantsNothing_beginRecovery _ _)

theorem advanceTime_observes (elapsedMs : UInt32) (driver : NativeDriver β rx tx) :
    Post (advanceTime elapsedMs : Program (NativeDriver β rx tx) (DriverError ε) Unit) driver
      (fun _ next => Observes driver next []) := by
  refine (advanceTime_lifecycle elapsedMs driver).mono ?_
  intro r next outcome
  cases r with
  | ok done =>
      obtain ⟨remaining, rfl⟩ := outcome
      exact .quiet rfl ⟨id, id⟩
  | error failure =>
      obtain ⟨fault, rfl⟩ := outcome
      exact .quiet rfl (StationController.grantsNothing_beginRecovery _ _)

/-- What a poll may grant, given the message that it read. -/
theorem polled_grants {state : DriverState} {station : StationController}
    {r : Except (DriverError ε) (Option DriverEvent)} {next : DriverState × StationController}
    (polled : Polled state station r next) :
    station.GrantsNothing next.2 ∨ station.Answered next.2 ∧
      ∃ header, r = .ok (some (.control (.commandStatus header UmacCommand.setStation.number 0))) := by
  cases polled with
  | idle => exact .inl (StationController.grantsNothing_refl _)
  | unread failure => exact .inl (StationController.grantsNothing_refl _)
  | lost => exact .inl (StationController.grantsNothing_beginRecovery _ _)
  | dispatched effect =>
      cases effect with
      | refused failure plain => exact .inl (StationController.grantsNothing_refl _)
      | reported event report => exact .inl (StationController.grantsNothing_refl _)
      | initialized waiting => exact .inl (StationController.grantsNothing_recoveryComplete _ _)
      | controlled ready handled =>
          rcases StationController.handleControlEvent_grants handled with
            grants | ⟨answered, header, rfl⟩
          · exact .inl grants
          · exact .inr ⟨answered, header, rfl⟩
      | informed ready handled => exact .inl (StationController.handleDataEvent_grants handled)
      | unexpected => exact .inl (StationController.grantsNothing_beginRecovery _ _)
      | failed failure ready => exact .inl (StationController.grantsNothing_beginRecovery _ _)

/-- The event was read from the only crossing. -/
def ReadFrom (added : List Crossing) (event : DriverEvent) : Prop :=
  ∃ message, added = [.received message] ∧ Reads message event

section Hardware
variable [Bus β ε]

theorem pollEvent_observes (scratchAddress : Nat) (driver : NativeDriver β rx tx)
    (scratch : Bytes) :
    Post (pollEvent scratchAddress) (driver, scratch) (fun r s =>
      ∃ added, Observes driver s.1 added ∧
        ∀ event, r = .ok (some event) → ReadFrom added event) := by
  refine ((pollEvent_received scratchAddress driver scratch).and
    (pollEvent_polled scratchAddress driver scratch)).mono ?_
  rintro r s ⟨⟨journal, none_⟩ | ⟨message, journal, reads⟩, polled⟩
  · refine ⟨[], .quiet journal ?_, fun event same => absurd same (none_ event)⟩
    rcases polled_grants polled with grants | ⟨_, header, same⟩
    · exact grants
    · exact absurd same (none_ _)
  · refine ⟨[.received message], ⟨journal, by simp [Crossing.Commands], ?_⟩,
      fun event same => ⟨message, rfl, reads event same⟩⟩
    rcases polled_grants polled with grants | ⟨answered, header, same⟩
    · exact .inl grants
    · exact .inr ⟨answered, _, rfl, header, reads _ same⟩

theorem receivePacket_observes (event : RxEvent) (packetIndex : Nat) (output : Bytes)
    (driver : NativeDriver β rx tx) :
    Post (receivePacket event packetIndex) (driver, output) (fun _ s => Observes driver s.1 []) := by
  refine (((keeps_journal_receivePacket event packetIndex).post (driver, output)).and
    (receivePacket_lifecycle driver event packetIndex output)).mono ?_
  rintro r s ⟨journal, lifecycle | ⟨_, lifecycle⟩⟩
  · have station : s.1.station = driver.station := congrArg Prod.snd lifecycle
    exact .quiet journal (station ▸ StationController.grantsNothing_refl _)
  · have station : s.1.station = driver.station.beginRecovery := congrArg Prod.snd lifecycle
    exact .quiet journal (station ▸ StationController.grantsNothing_beginRecovery _ _)

theorem transmit_observes (wdevId : UInt8) (frame : Bytes) (dscpTos : UInt16)
    (driver : NativeDriver β rx tx) :
    Post (transmit wdevId frame dscpTos) driver
      (fun _ next => ∃ added, Observes driver next added) := by
  refine ((transmit_journal wdevId frame dscpTos driver).and
    ((keeps_lifecycle_transmit wdevId frame dscpTos).post driver)).mono ?_
  rintro r next ⟨told, lifecycle⟩
  have station : next.station = driver.station := congrArg Prod.snd lifecycle
  have grants : driver.station.GrantsNothing next.station :=
    station ▸ StationController.grantsNothing_refl _
  cases r with
  | error failure => exact ⟨[], .quiet told grants⟩
  | ok token =>
      obtain ⟨added, rfl, told⟩ := told
      exact ⟨_, told, by simp [Crossing.Commands], .inl grants⟩

end Hardware

end NativeDriver

/-! ## The coordinator -/

namespace Wpa2Runtime
variable {β ε : Type} {rx tx : Nat} {crypto : Wpa2Crypto} {call : Wpa2Call}
  {progress : Wpa2Progress} {s t : Wpa2System β rx tx} {log heard added : List Crossing}
  {granted : Prop}

/-- The log justifies the coordinator and its station.  `granted` stands for a
SET_STATION command that was posted before the log began. -/
structure Justified (granted : Prop) (runtime : Wpa2Runtime) (station : StationController)
    (log : List Crossing) : Prop where
  submitted : OnlyAfter (Crossing.Commands .setStation) Secured log
  reached : InOrder (reachedMarks runtime.state) log
  stored : runtime.AnswersStored
  pending : station.pendingCommand = some .setStation →
    granted ∨ ∃ token, InOrder (submittedMarks token) log

/-- What the log says about an authorized port. -/
def Excused (granted : Prop) (log : List Crossing) : Prop := granted ∨ Authorized log

/-- What the driver read before it made the call. -/
def Follows : Wpa2Call → List Crossing → Prop
  | .controlEvent event, heard => NativeDriver.ReadFrom heard (.control event)
  | .transmitDone event, heard => NativeDriver.ReadFrom heard (.transmitDone event)
  | _, _ => True

/-! ### The driver's part -/

section Observed
variable {runtime : Wpa2Runtime} {before after : NativeDriver β rx tx}

theorem Justified.observes (justified : Justified granted runtime before.station log)
    (observes : NativeDriver.Observes before after added) :
    Justified granted runtime after.station (log ++ added) where
  submitted := justified.submitted.append fun crossing member =>
    observes.unsent crossing member .setStation
  reached := justified.reached.append added
  stored := justified.stored
  pending waits := by
    rcases observes.station with grants | ⟨answered, _⟩
    · rcases justified.pending (grants.pending waits) with before | ⟨token, ordered⟩
      · exact .inl before
      · exact .inr ⟨token, ordered.append added⟩
    · rw [answered.settled] at waits
      cases waits

/-- A status that authorizes the port answers a command of the log. -/
theorem Justified.excuses (justified : Justified granted runtime before.station log)
    (observes : NativeDriver.Observes before after added)
    (opened : after.station.controlledPortAuthorized = true) :
    before.station.controlledPortAuthorized = true ∨ Excused granted (log ++ added) := by
  rcases observes.station with grants | ⟨answered, crossing, rfl, accepts⟩
  · exact .inl (grants.port opened)
  · rcases justified.pending answered.waited with before | ⟨token, ordered⟩
    · exact .inr (.inl before)
    · exact .inr (.inr ⟨token, ordered.snoc accepts⟩)

theorem Excused.append (excused : Excused granted log) (added : List Crossing) :
    Excused granted (log ++ added) := by
  rcases excused with before | ⟨token, ordered⟩
  · exact .inl before
  · exact .inr ⟨token, ordered.append added⟩

end Observed

/-! ### One call -/

/-- The status that was read is the next mark. -/
theorem accepts_of_follows {header : UmacHeader} {command : UmacCommand}
    (follows : Follows (.controlEvent (.commandStatus header command.number 0)) heard) :
    ∃ crossing, heard = [crossing] ∧ crossing.Accepts command := by
  obtain ⟨message, rfl, reads⟩ := follows
  exact ⟨_, rfl, header, reads⟩

/-- A response to a frame is not Message 4. -/
theorem reachedMarks_response (token : UInt8) (wasComplete : Bool) :
    reachedMarks (.awaitingEapolTransmit token (eapolResponsePurpose wasComplete)) = [] := by
  cases wasComplete <;> rfl

theorem advance_reached (reached : InOrder (reachedMarks s.runtime.state) log)
    (stored : s.runtime.AnswersStored) (follows : Follows call heard)
    (advance : Advance crypto s call progress t) (told : Told s.runtime progress t.runtime added) :
    InOrder (reachedMarks t.runtime.state) (log ++ heard ++ added) := by
  cases advance with
  | idle remainingMs => exact (reached.append heard).append added
  | ignored takes => exact (reached.append heard).append added
  | answered takes kind sent =>
      obtain ⟨frame, waits⟩ := sent.waits
      rw [waits, kind, transition_state, reachedMarks_response]
      exact inOrder_nil _
  | pairwiseRequested waiting takes runtime posted =>
      obtain ⟨⟨crossing, rfl, submits⟩, _⟩ := told
      rw [runtime]
      exact (inOrder_nil (log ++ heard)).snoc submits
  | groupRequested complete takes runtime posted =>
      rw [runtime]
      exact inOrder_nil _
  | @keyAdvanced header submission t state runtime posted =>
      obtain ⟨status, rfl, accepts⟩ := accepts_of_follows follows
      rw [runtime]
      cases submission with
      | pairwise => cases state
      | rekeyGroup => cases state
      | rekeyDefaultGroup => exact inOrder_nil _
      | initialGroup =>
          obtain ⟨crossing, rfl, submits⟩ := told
          rw [← Option.some.inj state] at reached
          exact (reached.snoc accepts).snoc submits
      | initialDefaultGroup =>
          obtain ⟨crossing, rfl, submits⟩ := told
          rw [← Option.some.inj state] at reached
          exact (reached.snoc accepts).snoc submits
  | @keysInstalled header completion response runtime token t state finishes sent =>
      obtain ⟨status, rfl, accepts⟩ := accepts_of_follows follows
      obtain ⟨buffer, waits⟩ := sent.waits
      obtain ⟨frame, rfl, carries⟩ := told
      rw [waits]
      cases completion with
      | rekey => exact inOrder_nil _
      | initial =>
          rw [state] at reached
          exact (reached.snoc accepts).snoc (carries rfl stored)
  | authorizationSent done runtime posted =>
      rw [runtime]
      exact inOrder_nil _
  | _ => exact inOrder_nil _

/-- The authorization is submitted after the marks. -/
theorem secured_of_transmitted {event : TxDoneEvent}
    (reached : InOrder (reachedMarks s.runtime.state) log)
    (follows : Follows (.transmitDone event) heard)
    (done : Transmitted s.runtime .message4 event) : Secured (log ++ heard) := by
  obtain ⟨message, rfl, reads⟩ := follows
  obtain ⟨state, single⟩ := done
  rw [state] at reached
  have completes : Crossing.Completes event.token (.received message) := by
    rw [Crossing.Completes, ← single]
    exact reads
  exact ⟨event.token, reached.snoc completes⟩

/-- The only call that submits a SET_STATION command follows the transmission of Message 4. -/
theorem advance_submits {crossing : Crossing} (advance : Advance crypto s call progress t)
    (told : Told s.runtime progress t.runtime added) (member : crossing ∈ added)
    (commands : crossing.Commands .setStation) :
    progress = .authorizationSubmitted := by
  have other {kind : StationMessage → Prop} {command : UmacCommand}
      (named : ∀ request, kind request → request.command = command) (apart : command ≠ .setStation)
      (submitted : Crossing.Submitted kind added) : progress = .authorizationSubmitted := by
    obtain ⟨only, rfl, submits⟩ := submitted
    rw [List.mem_singleton.mp member] at commands
    exact absurd (Crossing.commands_of_submits named submits commands) apart
  cases progress with
  | authorizationSubmitted => rfl
  | pairwiseKeySubmitted => exact other StationMessage.command_newKey (by decide) told.1
  | groupKeySubmitted => exact other StationMessage.command_newKey (by decide) told
  | defaultGroupKeySubmitted => exact other StationMessage.command_defaultGroupKey (by decide) told
  | eapolSubmitted token purpose =>
      obtain ⟨frame, rfl, _⟩ := told
      rw [List.mem_singleton.mp member] at commands
      exact commands.elim
  | _ =>
      rw [show added = [] from told] at member
      cases member

theorem advance_stored (stored : s.runtime.AnswersStored)
    (advance : Advance crypto s call progress t) (told : Told s.runtime progress t.runtime added) :
    t.runtime.AnswersStored := by
  cases advance with
  | answered takes kind sent =>
      obtain ⟨frame, waits⟩ := sent.waits
      rw [waits]
      exact stored
  | pairwiseRequested waiting takes runtime posted => exact told.2
  | groupRequested complete takes runtime posted =>
      rw [runtime]
      exact stored
  | keyAdvanced state runtime posted =>
      rw [runtime]
      exact stored
  | @keysInstalled header completion response runtime token t state finishes sent =>
      obtain ⟨frame, waits⟩ := sent.waits
      rw [waits]
      cases completion with
      | initial =>
          obtain ⟨request, digest, _, _, _, rfl⟩ := finishes
          intro other kept
          cases kept
      | rekey =>
          obtain ⟨request, digest, _, _, _, rfl⟩ := finishes
          exact stored
  | authorizationSent done runtime posted =>
      rw [runtime]
      exact stored
  | _ => exact stored

theorem CommandPosted.port {driver next : NativeDriver β rx tx} {state : StationState}
    {command : UmacCommand} (posted : CommandPosted driver next state command) :
    next.station.controlledPortAuthorized = driver.station.controlledPortAuthorized := by
  obtain ⟨buffer, station⟩ := posted.station
  rw [station]
  rfl

theorem CommandPosted.grantsNothing {driver next : NativeDriver β rx tx} {state : StationState}
    {command : UmacCommand} (posted : CommandPosted driver next state command)
    (other : command ≠ .setStation) : driver.station.GrantsNothing next.station := by
  refine ⟨?_, fun opened => posted.port.symm.trans opened⟩
  intro waits
  obtain ⟨buffer, station⟩ := posted.station
  rw [station] at waits
  exact absurd (Option.some.inj waits) other

theorem ResponseSent.grantsNothing {runtime : Wpa2Runtime} {driver : NativeDriver β rx tx}
    {purpose : EapolTransmitPurpose} {token : UInt8}
    (sent : ResponseSent runtime driver purpose token t) :
    driver.station.GrantsNothing t.driver.station := by
  rw [show t.driver.station = driver.station from congrArg Prod.snd sent.lifecycle]
  exact StationController.grantsNothing_refl _

/-- No call authorizes the port by itself, and one posts the SET_STATION command. -/
theorem advance_grants (advance : Advance crypto s call progress t) :
    s.driver.station.GrantsNothing t.driver.station ∨
      t.driver.station.controlledPortAuthorized = s.driver.station.controlledPortAuthorized ∧
        progress = .authorizationSubmitted := by
  cases advance with
  | answered takes kind sent => exact .inl sent.grantsNothing
  | pairwiseRequested waiting takes runtime posted => exact .inl (posted.grantsNothing (by decide))
  | groupRequested complete takes runtime posted => exact .inl (posted.grantsNothing (by decide))
  | @keyAdvanced header submission t state runtime posted =>
      left
      apply posted.grantsNothing
      cases submission <;> decide
  | keysInstalled state finishes sent => exact .inl sent.grantsNothing
  | authorizationSent done runtime posted => exact .inr ⟨posted.port, rfl⟩
  | rekeyed done accepted => exact .inl (StationController.grantsNothing_completeGroupRekey _)
  | _ => exact .inl (StationController.grantsNothing_refl _)

theorem advance_authorization (advance : Advance crypto s call progress t)
    (authorizes : progress = .authorizationSubmitted) :
    ∃ event, call = .transmitDone event ∧ Transmitted s.runtime .message4 event := by
  cases advance with
  | authorizationSent done runtime posted => exact ⟨_, rfl, done⟩
  | @keyAdvanced header submission t state runtime posted => cases submission <;> cases authorizes
  | _ => cases authorizes

/-- What a call that advances adds is justified. -/
theorem Justified.advance (justified : Justified granted s.runtime s.driver.station (log ++ heard))
    (reached : InOrder (reachedMarks s.runtime.state) log) (follows : Follows call heard)
    (advance : Advance crypto s call progress t) (told : Told s.runtime progress t.runtime added) :
    Justified granted t.runtime t.driver.station (log ++ heard ++ added) := by
  have next := advance_reached reached justified.stored follows advance told
  have stored := advance_stored justified.stored advance told
  by_cases authorizes : progress = .authorizationSubmitted
  · obtain ⟨event, rfl, done⟩ := advance_authorization advance authorizes
    have secured := secured_of_transmitted reached follows done
    rw [authorizes] at told
    obtain ⟨crossing, rfl, submits⟩ := told
    refine ⟨justified.submitted.snoc fun _ => secured, next, stored, fun _ => .inr ?_⟩
    obtain ⟨token, ordered⟩ := secured
    exact ⟨token, ordered.snoc submits⟩
  · have unmarked : ∀ crossing ∈ added, ¬ crossing.Commands .setStation :=
      fun crossing member commands => authorizes (advance_submits advance told member commands)
    have grants := (advance_grants advance).resolve_right fun posts => authorizes posts.2
    refine ⟨justified.submitted.append unmarked, next, stored, fun waits => ?_⟩
    rcases justified.pending (grants.pending waits) with before | ⟨token, ordered⟩
    · exact .inl before
    · exact .inr ⟨token, ordered.append added⟩

/-! ### Operations -/

/-- What an operation adds is justified by the log, and so is a port that it authorizes. -/
structure ContinuesBy (granted : Prop) (log : List Crossing) (s t : Wpa2System β rx tx)
    (added : List Crossing) : Prop where
  journal : t.driver.device.journal = s.driver.device.journal ++ added
  justified : Justified granted t.runtime t.driver.station (log ++ added)
  port : t.driver.station.controlledPortAuthorized = true →
    s.driver.station.controlledPortAuthorized = true ∨ Excused granted (log ++ added)

def Continues (granted : Prop) (log : List Crossing) (s t : Wpa2System β rx tx) : Prop :=
  ∃ added, ContinuesBy granted log s t added

theorem continues_driver {driver : NativeDriver β rx tx}
    (justified : Justified granted s.runtime s.driver.station log)
    (observes : NativeDriver.Observes s.driver driver heard) :
    Continues granted log s { s with driver } :=
  ⟨heard, observes.journal, justified.observes observes, justified.excuses observes⟩

/-- The driver's part of an operation, and the one call of the coordinator after it. -/
theorem perform_continues [Bus β ε] {driver : NativeDriver β rx tx}
    (justified : Justified granted s.runtime s.driver.station log)
    (observes : NativeDriver.Observes s.driver driver heard) (follows : Follows call heard) :
    Post (perform crypto call) { s with driver } (fun _ t => Continues granted log s t) := by
  refine ((perform_outcome (ε := ε) crypto call _).and (perform_tells _ crypto call)).mono ?_
  rintro r t ⟨outcome, told⟩
  have read := justified.observes observes
  cases outcome with
  | failed u failure =>
      have journal : u.driver.enterRecovery.device.journal = s.driver.device.journal ++ heard :=
        Eq.trans told observes.journal
      refine ⟨heard, journal, ⟨read.submitted, inOrder_nil _, ?_, fun waits => by cases waits⟩,
        fun opened => by cases opened⟩
      intro request kept
      rw [u.runtime.failed_requests.1] at kept
      cases kept
  | advanced advance =>
      obtain ⟨added, told, journal⟩ := told
      have next := Justified.advance (s := { s with driver }) read justified.reached follows advance
        told
      refine ⟨heard ++ added, ?_, ?_, ?_⟩
      · rw [journal, observes.journal, List.append_assoc]
      · rw [← List.append_assoc]
        exact next
      · intro opened
        have kept : driver.station.controlledPortAuthorized = true := by
          rcases advance_grants advance with grants | ⟨same, _⟩
          · exact grants.port opened
          · exact same.symm.trans opened
        rw [← List.append_assoc]
        exact (justified.excuses observes kept).imp_right fun excused => excused.append added

end Wpa2Runtime

end Nrf7002
