import Nrf7002.Control.Codes
import Nrf7002.Station.Commands
import Nrf7002.Station.Port

/-! # Answers to commands

Firmware answers every command once, at any later time.  The station waits for one
answer: it forgets a command when the next one is posted, or when an event completes
it.  A history notes which command that is, and an answer to another one is a fault. -/

set_option autoImplicit false

namespace Nrf7002
open Foundation

namespace StationController
variable {β ε : Type}

/-! ## What is awaited -/

/-- The command that an accepted operation posts.  The default interface is claimed
without one. -/
def posts (station : StationController) : StationOperation β → Option UmacCommand
  | .createInterface _ _ _ => if station.wdevId = 0 then none else some .newInterface
  | operation => (pendingOf operation).map Prod.snd

/-- The accepted event completes the command that is awaited, or ends the connection that
it was for. -/
def completes (station : StationController) : StationOperation β → Bool
  | .controlEvent (.interfaceState _ _) | .controlEvent (.scanDone _ _ _)
  | .controlEvent (.authentication _) | .controlEvent (.association _) => true
  | .controlEvent (.scanResult result) => result.header.sequence = 0
  | .controlEvent (.deauthentication _) | .controlEvent (.disassociation _) =>
      station.peer.isSome
  | .controlEvent (.regulatoryChange _ _) => station.state = .regulatoryPending
  | .controlEvent (.other header _) =>
      header.commandEvent = UmacEvent.newInterface.number
        && station.state = .interfaceCreatePending
  | _ => false

/-- What is awaited after an accepted operation. -/
def awaitedAfter (station : StationController) (awaited : Option UmacCommand)
    (operation : StationOperation β) : Option UmacCommand :=
  if (pendingOf operation).isSome then station.posts operation
  else if station.completes operation then none
  else awaited

/-- An operation that did not fault leaves pending what it posted, nothing when it
completed the command, and what was pending otherwise. -/
def Leaves (station : StationController) (operation : StationOperation β)
    (r : Except (StationError ε) Unit) (after : StationController) : Prop :=
  after.state ≠ .fault →
    after.pendingCommand =
      if r.isOk then station.awaitedAfter station.pendingCommand operation
      else station.pendingCommand

section Leaves
variable {station : StationController} {operation : StationOperation β}

theorem leaves_refused (failure : StationError ε) :
    station.Leaves operation (.error failure) station :=
  fun _ => rfl

theorem leaves_faulted (fault : StationFault) :
    station.Leaves operation (.error (.fault fault) : Except (StationError ε) Unit)
      (faulted fault station) :=
  fun calm => absurd rfl calm

theorem leaves_completed {after : StationController} (event : pendingOf operation = none)
    (completing : station.completes operation = true) (freed : after.pendingCommand = none) :
    station.Leaves operation (.ok () : Except (StationError ε) Unit) after := by
  intro _
  rw [freed, awaitedAfter, event, completing]
  rfl

theorem leaves_ignored {after : StationController} (event : pendingOf operation = none)
    (plain : station.completes operation = false)
    (kept : after.pendingCommand = station.pendingCommand) :
    station.Leaves operation (.ok () : Except (StationError ε) Unit) after := by
  intro _
  rw [kept, awaitedAfter, event, plain]
  rfl

theorem pendingCommand_completeGroupRekey (station : StationController) :
    station.completeGroupRekey.pendingCommand = station.pendingCommand := by
  rw [completeGroupRekey]
  split_ifs
  · rfl
  · rfl
  · rfl

/-! ### Commands -/

theorem leaves_createInterface [Bus β ε] (device : Device β) (macAddress : Octets 6)
    (interfaceName : Bytes) :
    Post (createInterface macAddress interfaceName : Command β ε Unit) (station, device)
      (fun r after =>
        station.Leaves (.createInterface device macAddress interfaceName) r after.1) := by
  unfold createInterface
  apply post_require leaves_refused
  intro _
  rw [post_bind, post_get]
  apply post_unless leaves_refused
  intro _
  by_cases named : station.wdevId ≠ 0
  · rw [claimFirmwareDefaultInterface, if_pos named]
    dsimp only
    rw [post_bind]
    apply (submit_keeps _ (station, device)).mono
    intro r after kept
    obtain ⟨after, next⟩ := after
    obtain ⟨command, rfl⟩ := kept
    cases r with
    | error failure => exact fun _ => rfl
    | ok done =>
        rw [update, post_modify]
        exact fun _ => (if_neg named).symm
  · rw [claimFirmwareDefaultInterface, if_neg named]
    exact ⟨fun _ => (if_pos (not_not.mp named)).symm⟩

/-- Every other command is pending once it was posted. -/
theorem leaves_posted {state : StationState} {command : UmacCommand} {succeeded : Bool}
    {after : StationController} (is : pendingOf operation = some (state, command))
    (apart : ∀ device macAddress interfaceName,
      operation ≠ .createInterface device macAddress interfaceName)
    (effect : Effect station operation succeeded after) (calm : after.state ≠ .fault) :
    after.pendingCommand =
      if succeeded then station.awaitedAfter station.pendingCommand operation
      else station.pendingCommand := by
  have posts : station.awaitedAfter station.pendingCommand operation = some command := by
    rw [awaitedAfter, is]
    cases operation with
    | createInterface device macAddress interfaceName => exact absurd rfl (apart _ _ _)
    | _ => exact congrArg (Option.map Prod.snd) is
  rw [posts]
  cases effect with
  | refused command => rfl
  | failed fault command => exact absurd rfl calm
  | ignored event =>
      cases operation with
      | controlEvent event => cases is
      | dataEvent event => cases is
      | advanceTime elapsedMs => cases is
      | _ => exact absurd event id
  | claimed down => exact absurd rfl (apart _ _ _)
  | posted buffer ready =>
      cases operation with
      | createInterface device macAddress interfaceName => exact absurd rfl (apart _ _ _)
      | controlEvent event => cases is
      | dataEvent event => cases is
      | advanceTime elapsedMs => cases is
      | setTimeouts timeouts => cases is
      | completeGroupRekey => cases is
      | beginRecovery => cases is
      | recoveryComplete => cases is
      | _ =>
          cases is
          rfl
  | _ => cases is

/-! ### Time and link events -/

/-- An operation that neither posts nor completes a command keeps what is pending. -/
theorem leaves_kept {succeeded : Bool} {after : StationController}
    (quiet : (∃ event, operation = .dataEvent event) ∨ (∃ elapsedMs, operation = .advanceTime elapsedMs)
      ∨ (∃ timeouts, operation = .setTimeouts timeouts) ∨ operation = .completeGroupRekey)
    (effect : Effect station operation succeeded after) (calm : after.state ≠ .fault) :
    after.pendingCommand = station.pendingCommand := by
  cases effect with
  | refused command => rfl
  | failed fault command => exact absurd rfl calm
  | ignored event => rfl
  | carrierOn own => exact pendingCommand_refreshConnected _
  | carrierOff apart => rfl
  | carrierLost connected => exact absurd rfl calm
  | ticked remaining => rfl
  | timeoutsSet => rfl
  | rekeyed => exact pendingCommand_completeGroupRekey _
  | posted command ready =>
      rcases quiet with ⟨_, rfl⟩ | ⟨_, rfl⟩ | ⟨_, rfl⟩ | rfl
      · rfl
      · rfl
      · rfl
      · rfl
  | _ => simp at quiet

/-! ### Control events -/

theorem leaves_handleInterfaceState (header : UmacHeader) (status : Int32) :
    Post (handleInterfaceState status : Handler ε Unit) station
      (station.Leaves (.controlEvent (.interfaceState header status) : StationOperation β)) := by
  unfold handleInterfaceState
  apply post_failIf (leaves_faulted _)
  intro _
  rw [post_bind, post_get]
  dsimp only
  split
  · exact ⟨fun _ => rfl⟩
  · exact ⟨fun _ => rfl⟩
  · rw [post_fail]
    exact leaves_faulted _

theorem leaves_handleScanDone (header : UmacHeader) (status : Int32) (scanType : UInt32) :
    Post (handleScanDone status : Handler ε Unit) station
      (station.Leaves (.controlEvent (.scanDone header status scanType) : StationOperation β)) := by
  unfold handleScanDone
  rw [post_bind, post_get]
  apply post_failIf (leaves_faulted _)
  intro _
  rw [post_bind, post_modify, post_ite]
  by_cases zero : status = 0
  · rw [if_pos zero, post_modify]
    exact fun _ => rfl
  · rw [if_neg zero, post_fail]
    exact fun calm => absurd rfl calm

theorem leaves_handleScanResult (result : ScanResultEvent) :
    Post (handleScanResult result.header.sequence : Handler ε Unit) station
      (station.Leaves (.controlEvent (.scanResult result) : StationOperation β)) := by
  unfold handleScanResult
  rw [post_bind, post_get]
  apply post_failIf (leaves_faulted _)
  intro _
  by_cases last : result.header.sequence = 0
  · rw [if_pos last, post_modify]
    exact leaves_completed rfl (decide_eq_true last) rfl
  · rw [if_neg last, post_modify]
    exact leaves_ignored rfl (decide_eq_false last) rfl

/-- An MLME response that is accepted completes its command. -/
theorem leaves_response {event : MlmeEvent} {addressOffset statusOffset : Nat}
    {rejected : UInt16 → StationFault} {accept : StationController → StationController}
    (accepted : station.Leaves operation (.ok () : Except (StationError ε) Unit)
      (accept station)) :
    Post (match mlmeFrameAddress event addressOffset with
      | none => fail .unexpectedEvent
      | some peer => do
          checkPeer peer
          let status ← liftResult (mlmeStatus event statusOffset)
          if status ≠ 0 then fail (rejected status)
          modify accept : Handler ε Unit) station (station.Leaves operation) := by
  cases mlmeFrameAddress event addressOffset with
  | none => exact ⟨leaves_faulted _⟩
  | some peer =>
      apply post_checkPeer (leaves_faulted _)
      intro _
      rw [post_bind, post_liftResult]
      cases (mlmeStatus event statusOffset : Except (StationError ε) UInt16) with
      | error failure => exact leaves_refused failure
      | ok status =>
          apply post_failIf (leaves_faulted _)
          intro _
          exact ⟨accepted⟩

theorem leaves_handleAuthentication (event : MlmeEvent) :
    Post (handleAuthentication event : Handler ε Unit) station
      (station.Leaves (.controlEvent (.authentication event) : StationOperation β)) := by
  unfold handleAuthentication
  rw [post_bind, post_get]
  apply post_failIf (leaves_faulted _)
  intro _
  exact leaves_response (leaves_completed rfl rfl rfl)

theorem leaves_handleAssociation (event : MlmeEvent) :
    Post (handleAssociation event : Handler ε Unit) station
      (station.Leaves (.controlEvent (.association event) : StationOperation β)) := by
  unfold handleAssociation
  rw [post_bind, post_get]
  apply post_failIf (leaves_faulted _)
  intro _
  exact leaves_response (leaves_completed rfl rfl (pendingCommand_refreshConnected _))

theorem leaves_handleDisconnectEvent (event : MlmeEvent) (control : pendingOf operation = none)
    (completing : station.completes operation = station.peer.isSome) :
    Post (handleDisconnectEvent event : Handler ε Unit) station (station.Leaves operation) := by
  unfold handleDisconnectEvent
  rw [post_bind, post_get]
  dsimp only
  cases known : station.peer with
  | none =>
      rw [known] at completing
      exact ⟨leaves_ignored control completing rfl⟩
  | some peer =>
      rw [known] at completing
      rw [if_neg (by simp)]
      cases mlmeFrameAddress event 10 with
      | none => exact ⟨leaves_faulted _⟩
      | some other =>
          apply post_checkPeer (leaves_faulted _)
          intro _
          exact ⟨leaves_completed control completing rfl⟩

theorem leaves_handleRegulatoryChange (header : UmacHeader) (country : UInt8 × UInt8) :
    Post (handleRegulatoryChange : Handler ε Unit) station
      (station.Leaves (.controlEvent (.regulatoryChange header country) :
        StationOperation β)) := by
  unfold handleRegulatoryChange
  rw [post_bind, post_get]
  dsimp only
  by_cases pending : station.state = .regulatoryPending
  · rw [if_pos pending]
    exact ⟨leaves_completed rfl (decide_eq_true pending) rfl⟩
  · rw [if_neg pending]
    exact ⟨leaves_ignored rfl (decide_eq_false pending) rfl⟩

theorem completes_other (header : UmacHeader) (body : Bytes) :
    station.completes (.controlEvent (.other header body) : StationOperation β) = true ↔
      header.commandEvent = UmacEvent.newInterface.number ∧
        station.state = .interfaceCreatePending := by
  simp [completes]

theorem leaves_handleOther (header : UmacHeader) (body : Bytes) :
    Post (handleOther header : Handler ε Unit) station
      (station.Leaves (.controlEvent (.other header body) : StationOperation β)) := by
  unfold handleOther
  by_cases created : header.commandEvent = UmacEvent.newInterface.number
  · rw [if_pos created]
    unfold handleInterfaceCreated
    apply post_failIf (leaves_faulted _)
    intro _
    rw [post_bind, post_get]
    dsimp only
    by_cases pending : station.state = .interfaceCreatePending ∧
        station.pendingCommand = some .newInterface
    · rw [if_pos pending]
      exact ⟨leaves_completed rfl ((completes_other header body).mpr ⟨created, pending.1⟩) rfl⟩
    · rw [if_neg pending]
      by_cases repeated : station.interfaceCreated = true ∧ station.state = .down
      · have apart : station.completes (.controlEvent (.other header body) :
            StationOperation β) = false := by
          rw [Bool.eq_false_iff]
          intro completing
          have waits := ((completes_other header body).mp completing).2
          rw [repeated.2] at waits
          cases waits
        rw [if_pos repeated]
        exact ⟨leaves_ignored rfl apart rfl⟩
      · rw [if_neg repeated, post_fail]
        exact leaves_faulted _
  · have apart : station.completes (.controlEvent (.other header body) :
        StationOperation β) = false := by
      rw [Bool.eq_false_iff]
      intro completing
      exact created ((completes_other header body).mp completing).1
    rw [if_neg created]
    exact ⟨leaves_ignored rfl apart rfl⟩

/-! ### Operations and answers -/

/-- An operation that neither answers a command nor belongs to a recovery. -/
def isOrdinary : StationOperation β → Bool
  | .controlEvent (.commandStatus _ _ _) | .beginRecovery | .recoveryComplete => false
  | _ => true

theorem leaves_handleControlEvent (event : ControlEvent)
    (ordinary : isOrdinary (.controlEvent event : StationOperation β) = true) :
    Post (handleControlEvent event : Handler ε Unit) station
      (station.Leaves (.controlEvent event : StationOperation β)) := by
  unfold handleControlEvent
  apply post_checkHeader leaves_faulted
  intro _
  cases event with
  | scanDone header status scanType => exact leaves_handleScanDone header status scanType
  | scanResult result => exact leaves_handleScanResult result
  | authentication event => exact leaves_handleAuthentication event
  | association event => exact leaves_handleAssociation event
  | deauthentication event => exact leaves_handleDisconnectEvent event rfl rfl
  | disassociation event => exact leaves_handleDisconnectEvent event rfl rfl
  | commandStatus header command status => cases ordinary
  | interfaceState header status => exact leaves_handleInterfaceState header status
  | regulatoryChange header country => exact leaves_handleRegulatoryChange header country
  | other header body => exact leaves_handleOther header body

section Performed
variable [Bus β ε]

theorem leaves_command {state : StationState} {command : UmacCommand}
    (is : pendingOf operation = some (state, command))
    (apart : ∀ device macAddress interfaceName,
      operation ≠ .createInterface device macAddress interfaceName) :
    Post (perform operation : Handler ε Unit) station (station.Leaves operation) :=
  (perform_effect station operation).mono fun _ _ effect => leaves_posted is apart effect

theorem leaves_quiet (event : pendingOf operation = none)
    (plain : station.completes operation = false)
    (quiet : (∃ event, operation = .dataEvent event)
      ∨ (∃ elapsedMs, operation = .advanceTime elapsedMs)
      ∨ (∃ timeouts, operation = .setTimeouts timeouts) ∨ operation = .completeGroupRekey) :
    Post (perform operation : Handler ε Unit) station (station.Leaves operation) := by
  apply (perform_effect station operation).mono
  intro r after effect calm
  rw [leaves_kept quiet effect calm, awaitedAfter, event, plain]
  exact (ite_self _).symm

/-- What an ordinary operation leaves pending. -/
theorem leaves_perform (ordinary : isOrdinary operation = true) :
    Post (perform operation : Handler ε Unit) station (station.Leaves operation) := by
  cases operation with
  | createInterface device macAddress interfaceName =>
      exact (post_through device _ station _).mpr
        (leaves_createInterface device macAddress interfaceName)
  | controlEvent event => exact leaves_handleControlEvent event ordinary
  | dataEvent event => exact leaves_quiet rfl rfl (.inl ⟨event, rfl⟩)
  | advanceTime elapsedMs => exact leaves_quiet rfl rfl (.inr (.inl ⟨elapsedMs, rfl⟩))
  | setTimeouts timeouts => exact leaves_quiet rfl rfl (.inr (.inr (.inl ⟨timeouts, rfl⟩)))
  | completeGroupRekey => exact leaves_quiet rfl rfl (.inr (.inr (.inr rfl)))
  | beginRecovery => cases ordinary
  | recoveryComplete => cases ordinary
  | _ =>
      apply leaves_command rfl
      intro _ _ _ same
      cases same

end Performed

/-- The answer is to the pending command, or to the creation of an interface that is
already known while nothing is pending. -/
def Expects (station : StationController) (command : UmacCommand) : Prop :=
  station.pendingCommand = some command ∨
    command = .newInterface ∧ station.pendingCommand = none ∧ station.interfaceCreated = true

theorem isDefaultInterfaceStatus_iff {command : UmacCommand} :
    station.isDefaultInterfaceStatus command.number = true ↔
      command = .newInterface ∧ station.pendingCommand = none ∧
        station.interfaceCreated = true := by
  simp only [isDefaultInterfaceStatus, Bool.and_eq_true, decide_eq_true_eq, Option.isNone_iff_eq_none]
  constructor
  · intro default
    exact ⟨UmacCommand.number_inj default.1.1, default.2, default.1.2⟩
  · intro default
    obtain ⟨rfl, free, created⟩ := default
    exact ⟨⟨rfl, created⟩, free⟩

/-- A successful answer is a fault exactly when it is not expected. -/
theorem post_answer {header : UmacHeader} (names : station.headerMatches header = true)
    (command : UmacCommand) :
    Post (handleControlEvent (.commandStatus header command.number 0) : Handler ε Unit) station
      (fun r after =>
        (r ≠ .error (.fault .unexpectedEvent) ↔ station.Expects command) ∧
        (after.state ≠ .fault → after.pendingCommand =
          if command = .newInterface then station.pendingCommand else none)) := by
  change Post (checkHeader header >>= fun _ => handleCommandStatus command.number 0) _ _
  rw [checkHeader, post_bind, post_bind, post_get]
  dsimp only
  rw [if_neg (not_not.mpr names), post_pure, handleCommandStatus, post_bind, post_get]
  dsimp only
  by_cases default : station.isDefaultInterfaceStatus command.number = true
  · obtain ⟨rfl, free, created⟩ := isDefaultInterfaceStatus_iff.mp default
    rw [if_pos default]
    refine ⟨⟨fun _ => .inr ⟨rfl, free, created⟩, fun _ same => ?_⟩, fun _ => rfl⟩
    cases same
  · have apart : ¬ (command = .newInterface ∧ station.pendingCommand = none ∧
        station.interfaceCreated = true) :=
      fun other => default (isDefaultInterfaceStatus_iff.mpr other)
    rw [if_neg default, validatePendingCommand, post_bind, post_bind, post_get]
    dsimp only
    by_cases pending : station.pendingCommand.map UmacCommand.number = some command.number
    · have same : station.pendingCommand = some command := by
        obtain ⟨waiting, known, number⟩ := Option.map_eq_some_iff.mp pending
        rw [known, UmacCommand.number_inj number]
      rw [if_neg (not_not.mpr pending)]
      by_cases interface : command = .newInterface
      · subst interface
        refine ⟨⟨fun _ => .inl same, fun _ same => ?_⟩, fun _ => rfl⟩
        cases same
      · have other : command.number ≠ UmacCommand.newInterface.number :=
          fun number => interface (UmacCommand.number_inj number)
        rw [if_neg (not_not.mpr rfl), post_pure]
        dsimp only
        rw [if_neg other, post_modify]
        refine ⟨⟨fun _ => .inl same, fun _ same => ?_⟩, fun _ => ?_⟩
        · cases same
        · rw [if_neg interface]
          exact pendingCommand_applySuccessfulCommand _ _
    · rw [if_pos pending, post_bind, post_fail]
      refine ⟨⟨fun calm => absurd rfl calm, fun expected => ?_⟩, fun calm => absurd rfl calm⟩
      rcases expected with same | other
      · exact absurd (congrArg (Option.map UmacCommand.number) same) pending
      · exact absurd other apart

end Leaves

end StationController

/-! ## Conversations with firmware -/

/-- A station, the posted commands that firmware has not answered, and the one of them
that was posted last, unless an event completed it or its answer came. -/
structure Conversation where
  station : StationController
  unanswered : List UmacCommand
  awaited : Option UmacCommand

inductive Turn (β : Type) where
  | operation (operation : StationOperation β)
  | answer (header : UmacHeader) (command : UmacCommand)

namespace Conversation
open StationController
variable {β ε : Type}

/-- Nothing was posted yet. -/
def opened (station : StationController) : Conversation :=
  { station, unanswered := [], awaited := none }

/-- The station is new, or it just recovered. -/
def Started (station : StationController) : Prop :=
  (∃ ifaceindex firmwareIndex wdevId, station = .new ifaceindex firmwareIndex wdevId) ∨
    ∃ earlier, station = recoveryComplete earlier

section Turns
variable [Bus β ε]

def next (conversation : Conversation) : Turn β → Conversation
  | .operation operation =>
      if succeeds conversation.station operation then
        { station := step conversation.station operation
          unanswered := conversation.unanswered ++ (conversation.station.posts operation).toList
          awaited := conversation.station.awaitedAfter conversation.awaited operation }
      else { conversation with station := step conversation.station operation }
  | .answer header command =>
      { station := step conversation.station
          (.controlEvent (.commandStatus header command.number 0) : StationOperation β)
        unanswered := conversation.unanswered.erase command
        awaited := if command = .newInterface then conversation.awaited else none }

/-- A turn of a station in operation: firmware answers what is not answered yet. -/
def Allowed (conversation : Conversation) : Turn β → Prop
  | .operation operation =>
      conversation.station.state ≠ .fault ∧ isOrdinary operation = true
  | .answer header command =>
      conversation.station.state ≠ .fault ∧
        conversation.station.headerMatches header = true ∧ command ∈ conversation.unanswered

instance (conversation : Conversation) : (turn : Turn β) → Decidable (conversation.Allowed turn)
  | .operation operation =>
      inferInstanceAs (Decidable (conversation.station.state ≠ .fault ∧ isOrdinary operation = true))
  | .answer header command =>
      inferInstanceAs (Decidable (conversation.station.state ≠ .fault ∧
        conversation.station.headerMatches header = true ∧ command ∈ conversation.unanswered))

/-- An answer is no unexpected event. -/
def Tolerated (conversation : Conversation) : Turn β → Prop
  | .operation _ => True
  | .answer header command =>
      resultOf (perform (.controlEvent (.commandStatus header command.number 0) :
        StationOperation β) : Handler ε Unit) conversation.station ≠
          .error (.fault .unexpectedEvent)

/-- An answer is to the command that was posted last and not completed since, or to the
creation of an interface that is already known while no command is awaited. -/
def InTurn (conversation : Conversation) : Turn β → Prop
  | .operation _ => True
  | .answer _ command => conversation.awaited = some command ∨
      command = .newInterface ∧ conversation.awaited = none ∧
        conversation.station.interfaceCreated = true

/-- The history knows what is pending. -/
def Tracked (conversation : Conversation) : Prop :=
  conversation.station.state ≠ .fault →
    conversation.station.pendingCommand = conversation.awaited

theorem tracked_opened {station : StationController} (started : Started station) :
    (opened station).Tracked := by
  intro _
  rcases started with ⟨ifaceindex, firmwareIndex, wdevId, rfl⟩ | ⟨earlier, rfl⟩
  · rfl
  · rfl

theorem Tracked.next {conversation : Conversation} {turn : Turn β}
    (tracked : conversation.Tracked) (allowed : conversation.Allowed turn) :
    (conversation.next turn).Tracked := by
  cases turn with
  | operation operation =>
      obtain ⟨calm, ordinary⟩ := allowed
      have leaves : (step conversation.station operation).state ≠ .fault →
          (step conversation.station operation).pendingCommand =
            if succeeds conversation.station operation then
              conversation.station.awaitedAfter conversation.station.pendingCommand operation
            else conversation.station.pendingCommand :=
        (leaves_perform ordinary).ends
      rw [Conversation.next]
      by_cases accepted : succeeds conversation.station operation = true
      · rw [if_pos accepted]
        intro still
        have left := leaves still
        rw [if_pos accepted, tracked calm] at left
        exact left
      · rw [if_neg accepted]
        intro still
        have left := leaves still
        rw [if_neg accepted] at left
        exact left.trans (tracked calm)
  | answer header command =>
      obtain ⟨calm, names, _⟩ := allowed
      intro still
      have left := (post_answer names command).ends.2 still
      rw [tracked calm] at left
      exact left

theorem tolerated_iff {conversation : Conversation} {turn : Turn β}
    (tracked : conversation.Tracked) (allowed : conversation.Allowed turn) :
    conversation.Tolerated turn ↔ conversation.InTurn turn := by
  cases turn with
  | operation operation => exact Iff.rfl
  | answer header command =>
      obtain ⟨calm, names, _⟩ := allowed
      have expected := (post_answer (ε := ε) names command).ends.1
      rw [Expects, tracked calm] at expected
      exact expected

/-- No answer of a conversation is an unexpected event if and only if every answer comes
in turn. -/
theorem answers_tolerated_iff {station : StationController} (started : Started station)
    (turns : List (Turn β))
    (allowed : ∀ taken ∈ stepsOf next (opened station) turns, taken.1.Allowed taken.2) :
    (∀ taken ∈ stepsOf next (opened station) turns, taken.1.Tolerated taken.2) ↔
      ∀ taken ∈ stepsOf next (opened station) turns, taken.1.InTurn taken.2 := by
  have exact_ := steps_iff_no_bad_step_of_allowed Tracked Allowed Tolerated
    (fun conversation turn => ¬ conversation.InTurn turn)
    (fun _ _ tracked allowed _ => tracked.next allowed)
    (fun _ _ tracked allowed => by rw [not_not, tolerated_iff tracked allowed])
    (tracked_opened started) turns allowed
  simpa only [not_not] using exact_

end Turns

/-! ### The answer to an interface that comes up -/

section BringUp

def interfaceUp : Turn ReadyBus :=
  .operation (.controlEvent (.interfaceState (plainHeader UmacEvent.interfaceFlagsStatus.number) 0))

def flagsAnswered : Turn ReadyBus := .answer (plainHeader 0) .setInterfaceFlags

/-- A new station claims its interface and brings it up; two messages answer. -/
def bringsUp (first second : Turn ReadyBus) : List (Turn ReadyBus) :=
  [.operation (.createInterface .ready (zeroOctets 6) []), .operation (.bringUp .ready),
    first, second]

theorem prompt_answer_tolerated :
    (∀ taken ∈ stepsOf next (opened (.new 1 0 0)) (bringsUp flagsAnswered interfaceUp),
        taken.1.Tolerated taken.2) ↔
      ∀ taken ∈ stepsOf next (opened (.new 1 0 0)) (bringsUp flagsAnswered interfaceUp),
        taken.1.InTurn taken.2 :=
  answers_tolerated_iff (.inl ⟨1, 0, 0, rfl⟩) (bringsUp flagsAnswered interfaceUp)
    (by decide +kernel)

/-- The state of the interface arrives before the answer to the command that changed it:
the answer is a fault. -/
theorem late_answer_is_fatal :
    (∀ taken ∈ stepsOf next (opened (.new 1 0 0)) (bringsUp interfaceUp flagsAnswered),
        taken.1.Allowed taken.2) ∧
      ¬ ∀ taken ∈ stepsOf next (opened (.new 1 0 0)) (bringsUp interfaceUp flagsAnswered),
        taken.1.Tolerated taken.2 := by
  refine ⟨by decide +kernel, ?_⟩
  intro tolerated
  have last := tolerated _ (last_mem_stepsOf next (opened (.new 1 0 0))
    [.operation (.createInterface .ready (zeroOctets 6) []), .operation (.bringUp .ready),
      interfaceUp] flagsAnswered)
  have fatal : resultOf (handleControlEvent (.commandStatus (plainHeader 0) 18 0) :
      Handler Empty Unit) (runMoves next (opened (.new 1 0 0))
        [.operation (.createInterface .ready (zeroOctets 6) []), .operation (.bringUp .ready),
          interfaceUp]).station = .error (.fault .unexpectedEvent) := by
    decide +kernel
  exact last fatal

end BringUp

end Conversation

end Nrf7002
