import Nrf7002.Control.Messages
import Nrf7002.Station.Controller

/-! # The command buffer of the station

The station encodes every command into the one buffer it owns.  Neither the message nor
the outcome of posting it depends on what the buffer held before. -/

set_option autoImplicit false

namespace Nrf7002
open Foundation

namespace StationController
variable {β ε : Type} [Bus β ε]

/-- Posting a message: its result and the device follow from the message alone, and the
station changes in its buffer only. -/
theorem submit_message (message : StationMessage) (wdevId : UInt32) (station : StationController)
    (device : Device β) :
    Post (submit (message.encode wdevId) : Command β ε Unit) (station, device)
      fun result after =>
        let send : Program (Device β) (StationError ε) Unit :=
          mapError .device (Device.sendControlReliable (message.bytes wdevId))
        (∃ command, after.1 = { station with command }) ∧
          match message.outcome station.command.length with
          | .error failure => result = .error (.protocol failure) ∧ after.2 = device
          | .ok _ => result = resultOf send device ∧ after.2 = stateAfter send device := by
  rw [submit, post_bind, onStation, post_onField, post_onField, post_mapError]
  refine (message.encodes wdevId station.command).mono ?_
  intro result command outcome
  obtain ⟨same, written⟩ := outcome
  have known : result = message.outcome station.command.length := same
  rw [← known]
  cases result with
  | error failure => exact ⟨⟨command, rfl⟩, rfl, rfl⟩
  | ok len =>
      obtain ⟨limits, _, total⟩ := StationMessage.outcome_eq_ok.mp known.symm
      have message_eq : command.take len = message.bytes wdevId := by
        rw [written len rfl, ← total, StationMessage.take_message limits]
      dsimp only [Except.mapError]
      rw [post_bind, post_get]
      dsimp only
      rw [post_onField, message_eq]
      refine (post_self _ device).mono ?_
      intro last next ends
      exact ⟨⟨command, rfl⟩, ends.1, ends.2⟩

end StationController

namespace StationMessage
variable {β ε : Type} [Bus β ε]

/-- No byte of a message is a byte that the buffer held before, and the bytes behind the
message stay.  So two stations that differ only in their command buffers post the same
message with the same outcome. -/
theorem encode_ignores_buffer (message : StationMessage) (wdevId : UInt32) :
    (∀ out other after final : Bytes, ∀ len last : Nat,
      Returns (message.encode wdevId) out len after →
      Returns (message.encode wdevId) other last final →
      len = last ∧ after.take len = final.take last) ∧
    (∀ out after : Bytes, ∀ len : Nat, Returns (message.encode wdevId) out len after →
      after.length = out.length ∧ after.drop len = out.drop len) ∧
    ∀ (station : StationController) (device : Device β) (command : Bytes),
      command.length = station.command.length →
      let submit : StationController.Command β ε Unit :=
        StationController.submit (message.encode wdevId)
      let plain := (station, device)
      let stale := ({ station with command }, device)
      resultOf submit stale = resultOf submit plain ∧
        (stateAfter submit stale).2 = (stateAfter submit plain).2 ∧
        { (stateAfter submit stale).1 with command := [] } =
          { (stateAfter submit plain).1 with command := [] } := by
  refine ⟨?_, ?_, ?_⟩
  · intro out other after final len last first second
    obtain ⟨limits, _, rfl, rfl⟩ := encode_returns first
    obtain ⟨_, _, rfl, rfl⟩ := encode_returns second
    rw [take_message limits, take_message limits]
    exact ⟨rfl, rfl⟩
  · intro out after len returns
    obtain ⟨limits, room, rfl, rfl⟩ := encode_returns returns
    constructor
    · rw [List.length_append, length_bytes limits, List.length_drop]
      omega
    · exact drop_message limits
  · intro station device command length submit plain stale
    obtain ⟨⟨first, left⟩, run⟩ :=
      (StationController.submit_message (ε := ε) message wdevId station device).ends
    obtain ⟨⟨second, right⟩, other⟩ := (StationController.submit_message (ε := ε) message wdevId
      { station with command } device).ends
    dsimp only at other
    rw [length] at other
    have same : resultOf submit stale = resultOf submit plain ∧
        (stateAfter submit stale).2 = (stateAfter submit plain).2 := by
      cases encoded : message.outcome station.command.length with
      | error failure =>
          rw [encoded] at run other
          exact ⟨other.1.trans run.1.symm, other.2.trans run.2.symm⟩
      | ok len =>
          rw [encoded] at run other
          exact ⟨other.1.trans run.1.symm, other.2.trans run.2.symm⟩
    refine ⟨same.1, same.2, ?_⟩
    rw [left, right]

end StationMessage

end Nrf7002
