import Nrf7002.Foundation.Evolves
import Nrf7002.Runtime.Journal

/-! # What the coordinator gives to firmware

Every call of the coordinator adds to the journal its own commands and EAPOL frames only,
whether or not it fails. -/

set_option autoImplicit false

namespace Nrf7002
open Foundation

namespace Crossing

/-- A command for a key or for the authorization, or an EAPOL frame. -/
def Coordinates : Crossing → Prop
  | sent message => commandIn message = some .newKey ∨ commandIn message = some .setKey ∨
      commandIn message = some .setStation
  | transmitted _ frame => ethernetType frame = some eapolEthertype
  | received _ => False

theorem coordinates_of_submitted {kind : StationMessage → Prop} {added : List Crossing}
    (submitted : Submitted kind added)
    (named : ∀ request, kind request → request.command = .newKey ∨ request.command = .setKey ∨
      request.command = .setStation) : ∀ crossing ∈ added, crossing.Coordinates := by
  obtain ⟨only, rfl, request, wdevId, is, limits, rfl⟩ := submitted
  intro crossing member
  rw [List.mem_singleton.mp member, Coordinates, StationMessage.commandIn_bytes limits wdevId]
  rcases named request is with key | default | station
  · exact .inl (congrArg some key)
  · exact .inr (.inl (congrArg some default))
  · exact .inr (.inr (congrArg some station))

end Crossing

theorem KeySubmission.command_request (submission : KeySubmission) (request : StationMessage)
    (is : submission.request request) :
    request.command = .newKey ∨ request.command = .setKey ∨ request.command = .setStation := by
  cases submission with
  | initialDefaultGroup => exact .inr (.inl (StationMessage.command_defaultGroupKey request is))
  | rekeyDefaultGroup => exact .inr (.inl (StationMessage.command_defaultGroupKey request is))
  | _ => exact .inl (StationMessage.command_newKey request is)

namespace Wpa2Runtime
variable {β ε α : Type} {rx tx : Nat}

def journal (s : Wpa2System β rx tx) : List Crossing := s.driver.device.journal

/-- Every run of the method adds what the coordinator may give to firmware. -/
def Coordinated (x : Method β rx tx ε α) : Prop := Evolves (GrowsBy Crossing.Coordinates) journal x

theorem coordinated_onRuntime (x : Program Wpa2Runtime (Wpa2RuntimeError ε) α) :
    Coordinated (onRuntime x : Method β rx tx ε α) :=
  Keeps.evolves (keeps_onField x fun _ _ => rfl)

theorem coordinated_fail (failure : Wpa2RuntimeError ε) :
    Coordinated (fail failure : Method β rx tx ε α) := by
  intro s
  rw [post_fail]
  exact growsBy_refl _ _

theorem Coordinated.orFail {x : Method β rx tx ε α} (coordinated : Coordinated x) :
    Coordinated (orFail x) := by
  intro s
  rw [post_orFail]
  refine (coordinated s).mono ?_
  intro r t grown
  cases r with
  | ok value => exact grown
  | error failure => exact grown

theorem coordinated_of_tells
    {Added : Wpa2System β rx tx → α → Wpa2Runtime → List Crossing → Prop}
    {x : Method β rx tx ε α} (tells : ∀ s, Tells s (Added s) x)
    (all : ∀ s value runtime added, Added s value runtime added →
      ∀ crossing ∈ added, crossing.Coordinates) : Coordinated x := by
  intro s
  refine Post.mono (tells s) ?_
  intro r t adds
  exact Device.growsBy_of_adds adds fun value added => all s value t.runtime added

/-! ### The calls -/

section Calls

theorem coordinated_enter (state : Wpa2RuntimeState) (progress : Wpa2Progress) :
    Coordinated (do enter state; return progress : Method β rx tx ε Wpa2Progress) :=
  Evolves.bind (coordinated_onRuntime _) fun _ => evolves_pure _

theorem coordinated_refreshCarrier :
    Coordinated (refreshCarrier : Method β rx tx ε Wpa2Progress) := by
  apply evolves_get.bind
  intro system
  exact evolves_ite (fun _ => coordinated_enter _ _) fun _ => evolves_pure _

theorem coordinated_advanceTime (elapsedMs : UInt32) :
    Coordinated (advanceTime elapsedMs : Method β rx tx ε Unit) := by
  intro s
  rw [advanceTime, post_bind, post_get]
  dsimp only
  cases s.runtime.remainingMs with
  | none => exact (post_pure _ _ _).mpr (growsBy_refl _ _)
  | some remaining =>
      dsimp only
      rw [post_ite]
      split
      · rw [post_set]
        exact growsBy_refl _ _
      · exact coordinated_fail _ s

variable [Bus β ε]

theorem coordinated_submitKey (submission : KeySubmission) :
    Coordinated (submitKey submission : Method β rx tx ε Wpa2Progress) := by
  refine coordinated_of_tells (tells_submitKey submission) ?_
  rintro s _ _ added ⟨-, -, submitted⟩
  exact Crossing.coordinates_of_submitted submitted submission.command_request

theorem coordinated_submitEapol (response : EapolTxFrame) (purpose : EapolTransmitPurpose) :
    Coordinated (submitEapol response purpose : Method β rx tx ε Wpa2Progress) := by
  refine coordinated_of_tells (tells_submitEapol response purpose) ?_
  rintro s _ _ _ ⟨token, -, rfl⟩ crossing member
  rw [List.mem_singleton.mp member]
  exact ethernetType_ethernetFrame _ response

theorem coordinated_dispatchWpa2Action (action : Wpa2Action) (wasComplete : Bool) :
    Coordinated (dispatchWpa2Action action wasComplete : Method β rx tx ε Wpa2Progress) := by
  cases action with
  | none => exact evolves_pure _
  | transmit response => exact coordinated_submitEapol response _
  | installKeys request =>
      apply evolves_get.bind
      intro system
      apply evolves_ite
      · exact fun _ => evolves_throw _
      · exact fun _ => (coordinated_onRuntime _).bind fun _ => coordinated_submitKey .pairwise
  | installGroupKey request =>
      apply evolves_get.bind
      intro system
      apply evolves_ite
      · exact fun _ => evolves_throw _
      · exact fun _ => (coordinated_onRuntime _).bind fun _ => coordinated_submitKey .rekeyGroup

theorem coordinated_onEthernetFrame (crypto : Wpa2Crypto) (frame : Bytes) :
    Coordinated (onEthernetFrame crypto frame : Method β rx tx ε Wpa2Progress) := by
  apply evolves_get.bind
  intro system
  apply (Coordinated.orFail (evolves_liftResult _)).bind
  intro payload
  apply (Coordinated.orFail (evolves_liftResult _)).bind
  intro pending
  cases pending with
  | some progress => exact evolves_pure _
  | none =>
      apply (Coordinated.orFail (coordinated_onRuntime _)).bind
      intro action
      apply (coordinated_onRuntime _).bind
      intro stored
      exact (coordinated_dispatchWpa2Action action _).orFail

theorem coordinated_advanceKey (command : UInt32) (submission : KeySubmission) :
    Coordinated (advanceKey command submission : Method β rx tx ε Wpa2Progress) :=
  (evolves_liftResult _).bind fun _ => coordinated_submitKey submission

theorem coordinated_completeKeyInstall (command : UInt32) (completion : KeyInstallCompletion) :
    Coordinated (completeKeyInstall command completion : Method β rx tx ε Wpa2Progress) := by
  apply (evolves_liftResult _).bind
  intro checked
  apply (coordinated_onRuntime _).bind
  intro response
  exact coordinated_submitEapol response _

omit [Bus β ε] in
theorem coordinated_handleAuthorizationStatus (command : UInt32) :
    Coordinated (handleAuthorizationStatus command : Method β rx tx ε Wpa2Progress) := by
  apply (evolves_liftResult _).bind
  intro checked
  apply evolves_get.bind
  intro system
  exact evolves_ite (fun _ => coordinated_enter _ _) fun _ => coordinated_enter _ _

theorem coordinated_dispatchCommandStatus (command : UInt32) :
    Coordinated (dispatchCommandStatus command : Method β rx tx ε Wpa2Progress) := by
  apply evolves_get.bind
  intro system
  have initial : Coordinated (handleInitialKeyStatus command : Method β rx tx ε Wpa2Progress) := by
    apply evolves_get.bind
    intro system
    cases system.runtime.state with
    | awaitingPairwiseKeyStatus => exact coordinated_advanceKey command _
    | awaitingGroupKeyStatus => exact coordinated_advanceKey command _
    | awaitingDefaultGroupKeyStatus => exact coordinated_completeKeyInstall command _
    | _ => exact evolves_throw _
  have rekey : Coordinated (handleRekeyStatus command : Method β rx tx ε Wpa2Progress) := by
    apply evolves_get.bind
    intro system
    cases system.runtime.state with
    | awaitingGroupRekeyStatus => exact coordinated_advanceKey command _
    | awaitingDefaultGroupRekeyStatus => exact coordinated_completeKeyInstall command _
    | _ => exact evolves_throw _
  cases system.runtime.state with
  | awaitingPairwiseKeyStatus => exact initial
  | awaitingGroupKeyStatus => exact initial
  | awaitingDefaultGroupKeyStatus => exact initial
  | awaitingAuthorizationStatus => exact coordinated_handleAuthorizationStatus command
  | awaitingGroupRekeyStatus => exact rekey
  | awaitingDefaultGroupRekeyStatus => exact rekey
  | _ => exact evolves_throw _

theorem coordinated_onControlEvent (event : ControlEvent) :
    Coordinated (onControlEvent event : Method β rx tx ε Wpa2Progress) := by
  rw [onControlEvent]
  cases commandStatus event with
  | none => exact coordinated_refreshCarrier
  | some answer =>
      exact evolves_ite (fun _ => coordinated_fail _) fun _ =>
        (coordinated_dispatchCommandStatus answer.1).orFail

theorem coordinated_authorizeAfterMessage4 :
    Coordinated (authorizeAfterMessage4 : Method β rx tx ε Wpa2Progress) := by
  have submits : Coordinated
      (onSecurityParts StationController.authorize : Method β rx tx ε Unit) := by
    refine coordinated_of_tells (tells_onSecurityParts StationController.sends_authorize) ?_
    rintro s _ _ added ⟨-, submitted⟩
    refine Crossing.coordinates_of_submitted submitted ?_
    intro request is
    cases request with
    | stationAuthorized peer authorized => exact .inr (.inr rfl)
    | _ => exact is.elim
  exact submits.bind fun _ => coordinated_enter _ _

omit [Bus β ε] in
theorem coordinated_completeGroupRekey :
    Coordinated (completeGroupRekey : Method β rx tx ε Wpa2Progress) := by
  apply Evolves.bind
  · intro s
    rw [post_onField, post_modify]
    exact growsBy_refl _ _
  · intro done
    apply evolves_get.bind
    intro system
    exact evolves_ite (fun _ => evolves_throw _) fun _ => coordinated_enter _ _

theorem coordinated_onTransmitDone (event : TxDoneEvent) :
    Coordinated (onTransmitDone event : Method β rx tx ε Wpa2Progress) := by
  apply evolves_get.bind
  intro system
  apply (Coordinated.orFail (evolves_liftResult _)).bind
  intro purpose
  cases purpose with
  | none => exact evolves_pure _
  | some purpose =>
      apply Coordinated.orFail
      cases purpose with
      | message2 => exact coordinated_enter _ _
      | message4 => exact coordinated_authorizeAfterMessage4
      | groupMessage2 => exact coordinated_completeGroupRekey
      | retransmission => exact coordinated_enter _ _

theorem perform_coordinated (crypto : Wpa2Crypto) (call : Wpa2Call) :
    Coordinated (perform crypto call : Method β rx tx ε Wpa2Progress) := by
  cases call with
  | ethernetFrame frame => exact coordinated_onEthernetFrame crypto frame
  | controlEvent event => exact coordinated_onControlEvent event
  | transmitDone event => exact coordinated_onTransmitDone event
  | refreshCarrier => exact coordinated_refreshCarrier
  | advanceTime elapsedMs =>
      exact Evolves.bind (coordinated_advanceTime elapsedMs) fun _ => evolves_pure _

end Calls

end Wpa2Runtime

end Nrf7002
