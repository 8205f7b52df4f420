import Nrf7002.Control.Lossless
import Nrf7002.Device.Configuration
import Nrf7002.Station.Effects
import Nrf7002.Wpa2.Keys

/-! # What a command leaves in the journal

A command that succeeds leaves its one message in the journal of the device, and a command
that fails leaves none.  Shown for the commands of the WPA2 coordinator: the keys, the
default key and the authorization. -/

set_option autoImplicit false

namespace Nrf7002
open Foundation

/-! ## Messages in the journal -/

namespace StationMessage

/-- The request installs a key of the type. -/
def NewKey (keyType : KeyType) : StationMessage → Prop
  | keyCommand command _ key => command = .newKey ∧ key.keyType = keyType
  | _ => False

/-- The request makes a group key the default for multicast. -/
def DefaultGroupKey : StationMessage → Prop
  | setKey key =>
      key.keyType = .group ∧ key.flags = nrfWifiKeyDefault ||| nrfWifiKeyDefaultTypeMulticast
  | _ => False

/-- The request authorizes the station. -/
def Authorization : StationMessage → Prop
  | stationAuthorized _ authorized => authorized = true
  | _ => False

theorem command_newKey {keyType : KeyType} (request : StationMessage)
    (is : request.NewKey keyType) : request.command = .newKey := by
  cases request with
  | keyCommand command peer key => exact is.1
  | _ => exact is.elim

theorem command_defaultGroupKey (request : StationMessage) (is : request.DefaultGroupKey) :
    request.command = .setKey := by
  cases request with
  | setKey key => rfl
  | _ => exact is.elim

end StationMessage

namespace Crossing

/-- A request of the kind was delivered, as its encoder writes it. -/
def Submits (kind : StationMessage → Prop) (crossing : Crossing) : Prop :=
  ∃ request wdevId, kind request ∧ request.InLimits ∧ crossing = .sent (request.bytes wdevId)

/-- One request of the kind was delivered, and nothing else crossed the boundary. -/
def Submitted (kind : StationMessage → Prop) (added : List Crossing) : Prop :=
  ∃ crossing, added = [crossing] ∧ crossing.Submits kind

/-- Any command with the number was delivered. -/
def Commands (command : UmacCommand) : Crossing → Prop
  | sent message => commandIn message = some command
  | _ => False

theorem commands_of_submits {kind : StationMessage → Prop} {command other : UmacCommand}
    (named : ∀ request, kind request → request.command = command) {crossing : Crossing}
    (submits : crossing.Submits kind) (commands : crossing.Commands other) : command = other := by
  obtain ⟨request, wdevId, is, limits, rfl⟩ := submits
  have found := StationMessage.commandIn_bytes limits wdevId
  rw [named request is] at found
  exact Option.some.inj (found.symm.trans commands)

end Crossing

/-! ## Commands -/

namespace StationController
variable {β ε : Type} [Bus β ε]

/-- One request of the kind is in the journal when the command succeeds, and nothing new when
it fails. -/
def Sends (kind : StationMessage → Prop) (command : Command β ε Unit) : Prop :=
  ∀ station device, Post command (station, device) (fun r after =>
    Device.Adds (fun _ added => Crossing.Submitted kind added) r device.journal after.2.journal)

theorem journal_submit (request : StationMessage) (wdevId : UInt32) (station : StationController)
    (device : Device β) :
    Post (submit (request.encode wdevId) : Command β ε Unit) (station, device) (fun r after =>
      Device.Adds
        (fun _ added => request.InLimits ∧ added = [.sent (request.bytes wdevId)]) r
        device.journal after.2.journal) := by
  rw [submit, post_bind, onStation, post_onField, post_onField, post_mapError]
  refine (post_self (request.encode wdevId) station.command).mono ?_
  intro r after ends
  cases r with
  | error failure => rfl
  | ok len =>
      obtain ⟨limits, _, rfl, rfl⟩ :=
        StationMessage.encode_returns ⟨ends.1.symm, ends.2.symm⟩
      dsimp only [Except.mapError]
      rw [post_bind, post_get]
      dsimp only
      rw [post_onField, post_mapError, StationMessage.take_message limits,
        Device.sendControlReliable]
      refine (Device.journal_sendControlWithWait _ _ device).mono ?_
      intro r next told
      cases r with
      | error failure => exact told
      | ok done =>
          obtain ⟨added, rfl, told⟩ := told
          exact ⟨_, ⟨limits, rfl⟩, told⟩

/-- A command that posts a request of the kind and then changes the station alone. -/
theorem sends_submit {kind : StationMessage → Prop} {request : StationMessage} (is : kind request)
    (wdevId : UInt32) (f : StationController → StationController) (station : StationController)
    (device : Device β) :
    Post (do submit (request.encode wdevId); update f : Command β ε Unit) (station, device)
      (fun r after => Device.Adds (fun _ added => Crossing.Submitted kind added) r device.journal
        after.2.journal) := by
  rw [post_bind]
  refine (journal_submit request wdevId station device).mono ?_
  intro r after told
  cases r with
  | error failure => exact told
  | ok done =>
      obtain ⟨added, ⟨limits, rfl⟩, told⟩ := told
      rw [update, post_modify]
      exact ⟨_, ⟨_, rfl, request, wdevId, is, limits, rfl⟩, told⟩

theorem sends_keyCommand (key : KeyConfig) :
    Sends (StationMessage.NewKey key.keyType) (keyCommand .newKey key : Command β ε Unit) := by
  intro station device
  unfold keyCommand
  apply post_requireOneOf (fun _ => rfl)
  intro _
  apply post_keyPeer (fun _ => rfl)
  intro peer _
  rw [post_bind, post_get]
  have is : StationMessage.NewKey key.keyType (.keyCommand .newKey peer key) := ⟨rfl, rfl⟩
  exact sends_submit is station.wdevId _ station device

theorem sends_setKey {key : KeyConfig} (is : StationMessage.DefaultGroupKey (.setKey key)) :
    Sends StationMessage.DefaultGroupKey (setKey key : Command β ε Unit) := by
  intro station device
  unfold setKey
  apply post_require (fun _ => rfl)
  intro _
  rw [post_bind, post_get]
  exact sends_submit is station.wdevId _ station device

theorem sends_authorize :
    Sends StationMessage.Authorization (authorize : Command β ε Unit) := by
  intro station device
  unfold authorize
  apply post_require (fun _ => rfl)
  intro _
  apply post_requirePeer (fun _ => rfl)
  intro peer _
  rw [post_bind, post_get]
  have is : StationMessage.Authorization (.stationAuthorized peer true) := rfl
  exact sends_submit is station.wdevId _ station device

end StationController

end Nrf7002
