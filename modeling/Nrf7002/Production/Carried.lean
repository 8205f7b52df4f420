import Nrf7002.Production.Journal

/-! # What an operation of the station is made of

An operation of the WPA2 station uses its driver, and then makes one call of the coordinator
at most.  A property that survives both survives the operation. -/

set_option autoImplicit false

namespace Nrf7002
open Foundation MissionCriticalDriver

/-- Every operation that does not start another exchange. -/
def SecureMove.Continues {π β ε : Type} : SecureMove π β ε → Prop
  | .restartPairwise _ => False
  | _ => True

namespace Wpa2StationDriver
variable {β ε π ρ α : Type} {rx tx : Nat} {crypto : Wpa2Crypto}

/-- The payload of a received EAPOL frame, as the coordinator is given it. -/
def eapolPayload (ε : Type) [Bus β ε] (station : Wpa2StationDriver β rx tx) (event : RxEvent)
    (packetIndex : Nat) (output : Bytes) : Option Bytes :=
  let received : Program (MissionCriticalDriver β rx tx × Bytes) (ProductionError ε) _ :=
    MissionCriticalDriver.receivePacket event packetIndex
  match resultOf received (station.driver, output) with
  | .error _ => none
  | .ok frame =>
      if frame.etherType ≠ eapolEthertype then none
      else
        let written := (stateAfter received (station.driver, output)).2
        some ((written.take frame.len).drop eapolEthernetHeaderLen)

/-- The payload that an operation hands to the coordinator. -/
def heard [Bus β ε] (station : Wpa2StationDriver β rx tx) : SecureMove π β ε → Option Bytes
  | .receivePacket event packetIndex output => station.eapolPayload ε event packetIndex output
  | _ => none

/-- The payloads that the coordinator was handed in a run. -/
def heardIn [Bus β ε] [Platform π β ρ] (crypto : Wpa2Crypto) (start : Wpa2StationDriver β rx tx)
    (moves : List (SecureMove π β ε)) : List Bytes :=
  (stepsOf (step crypto) start moves).filterMap fun taken => taken.1.heard taken.2

/-- A property of the coordinator and its driver that survives what an operation consists
of: changes of the driver that take its journal along `R`, and calls of the coordinator with
payloads that were heard. -/
structure Carried (ε : Type) [Bus β ε] (crypto : Wpa2Crypto) (Hears : Bytes → Prop)
    (R : List Crossing → List Crossing → Prop) (P : Wpa2System β rx tx → Prop) : Prop where
  driver : ∀ s driver, P s → R s.driver.journal driver.journal → P { s with driver }
  timeouts : ∀ s timeouts, P s → P { s with runtime := s.runtime.setTimeouts timeouts }
  call : ∀ call : Wpa2Call, call.Within Hears → Preserves P (Wpa2Runtime.perform crypto call :
    Wpa2Runtime.Method β rx tx ε Wpa2Progress)

section Steps
variable [Bus β ε] {Hears : Bytes → Prop} {R : List Crossing → List Crossing → Prop} {P : Wpa2System β rx tx → Prop}

theorem Carried.onDriver (carried : Carried ε crypto Hears R P)
    {x : MissionCriticalDriver.Method β rx tx ε α}
    (evolves : Evolves R MissionCriticalDriver.journal x) :
    Preserves (fun station : Wpa2StationDriver β rx tx => P station.system) (onDriver x) := by
  intro station holds
  rw [Wpa2StationDriver.onDriver, post_onField, post_mapError]
  exact (evolves station.driver).mono fun _ driver grown => carried.driver _ driver.inner holds grown

theorem Carried.onDriverBuffer (carried : Carried ε crypto Hears R P)
    {x : Program (MissionCriticalDriver β rx tx × Bytes) (ProductionError ε) α}
    (evolves : Evolves R (fun s : MissionCriticalDriver β rx tx × Bytes => s.1.journal) x) :
    Preserves (fun s : Wpa2StationDriver β rx tx × Bytes => P s.1.system) (onDriverBuffer x) := by
  intro s holds
  rw [Wpa2StationDriver.onDriverBuffer, post_onField, post_mapError]
  exact (evolves (s.1.driver, s.2)).mono fun _ part grown =>
    carried.driver _ part.1.inner holds grown

theorem Carried.onSecurity (carried : Carried ε crypto Hears R P) (call : Wpa2Call)
    (within : call.Within Hears) :
    Preserves (fun station : Wpa2StationDriver β rx tx => P station.system)
      (onSecurity (Wpa2Runtime.perform crypto call) : Method β rx tx ε Wpa2Progress) :=
  ((carried.call call within).mapError _).onField (fun _ holds => holds) fun _ _ holds => holds

theorem Carried.applySecurityEvent (carried : Carried ε crypto Hears R P) (event : DriverEvent) :
    Preserves (fun station : Wpa2StationDriver β rx tx => P station.system)
      (applySecurityEvent event : Method β rx tx ε Wpa2Progress) := by
  have quiet : Preserves (fun station : Wpa2StationDriver β rx tx => P station.system)
      (pure .noChange : Method β rx tx ε Wpa2Progress) :=
    fun _ holds => (post_pure _ _ _).mpr holds
  cases event with
  | control event =>
      apply preserves_get_bind
      intro station holds
      rw [post_ite]
      split
      · exact quiet station holds
      · exact carried.onSecurity (.controlEvent event) trivial station holds
  | transmitDone event =>
      apply preserves_get_bind
      intro station holds
      rw [post_ite]
      split
      · exact quiet station holds
      · exact carried.onSecurity (.transmitDone event) trivial station holds
  | data event => exact carried.onSecurity .refreshCarrier trivial
  | _ => exact quiet

theorem Carried.pollEvent (carried : Carried ε crypto Hears R P) {scratchAddress : Nat}
    (polls : Evolves R (fun s : MissionCriticalDriver β rx tx × Bytes => s.1.journal)
      (MissionCriticalDriver.pollEvent scratchAddress :
        Program (MissionCriticalDriver β rx tx × Bytes) (ProductionError ε) _)) :
    Preserves (fun s : Wpa2StationDriver β rx tx × Bytes => P s.1.system)
      (pollEvent scratchAddress :
        Program (Wpa2StationDriver β rx tx × Bytes) (SecureProductionError ε) _) := by
  apply (carried.onDriverBuffer polls).bind
  intro polled
  cases polled with
  | none => exact fun _ holds => (post_pure _ _ _).mpr holds
  | some event =>
      apply Preserves.bind
      · exact (carried.applySecurityEvent event).onField (fun _ holds => holds) fun _ _ holds => holds
      · exact fun progress _ holds => (post_pure _ _ _).mpr holds

theorem Carried.receivePacket (carried : Carried ε crypto Hears R P) {event : RxEvent}
    {packetIndex : Nat} {station : Wpa2StationDriver β rx tx} {output : Bytes}
    (receives : Evolves R (fun s : MissionCriticalDriver β rx tx × Bytes => s.1.journal)
      (MissionCriticalDriver.receivePacket event packetIndex :
        Program (MissionCriticalDriver β rx tx × Bytes) (ProductionError ε) _))
    (heard : ∀ payload ∈ station.eapolPayload ε event packetIndex output, Hears payload)
    (holds : P station.system) :
    Post (receivePacket crypto event packetIndex :
        Program (Wpa2StationDriver β rx tx × Bytes) (SecureProductionError ε) _)
      (station, output) (fun _ s => P s.1.system) := by
  rw [Wpa2StationDriver.receivePacket, post_bind, Wpa2StationDriver.onDriverBuffer, post_onField,
    post_mapError]
  refine ((receives (station.driver, output)).and (post_self _ _)).mono ?_
  rintro r part ⟨grown, result, ended⟩
  have received : P { station with driver := part.1 }.system :=
    carried.driver _ part.1.inner holds grown
  cases r with
  | error failure => exact received
  | ok frame =>
      dsimp only [Except.mapError]
      rw [finishReceivedPacket, post_ite]
      split
      · exact (post_pure _ _ _).mpr received
      · rename_i eapol
        have within : Hears ((part.2.take frame.len).drop eapolEthernetHeaderLen) := by
          apply heard
          simp only [eapolPayload, ← result, if_neg eapol, ← ended]
          exact rfl
        have called : Preserves (fun s : Wpa2StationDriver β rx tx × Bytes => P s.1.system)
            (besideBuffer (Wpa2StationDriver.onSecurity (Wpa2Runtime.perform crypto
              (.ethernetFrame (part.2.take frame.len)))) :
              Program (Wpa2StationDriver β rx tx × Bytes) (SecureProductionError ε) _) :=
          (carried.onSecurity (.ethernetFrame _) within).onField (fun _ holds => holds) fun _ _ holds => holds
        rw [post_bind, post_get]
        refine (called.attempt.bind fun result => ?_) _ received
        apply Preserves.bind
        · intro s holds
          rw [post_modify]
          exact holds
        · intro wiped
          apply Preserves.bind
          · intro s holds
            rw [post_liftResult]
            exact holds
          · exact fun progress _ holds => (post_pure _ _ _).mpr holds

theorem Carried.advanceTime (carried : Carried ε crypto Hears R P) {elapsedMs : UInt32}
    (advances : Evolves R MissionCriticalDriver.journal (MissionCriticalDriver.advanceTime
      elapsedMs : MissionCriticalDriver.Method β rx tx ε Unit)) :
    Preserves (fun station : Wpa2StationDriver β rx tx => P station.system)
      (advanceTime elapsedMs : Method β rx tx ε Unit) := by
  have counts : Preserves P
      (Wpa2Runtime.advanceTime elapsedMs : Wpa2Runtime.Method β rx tx ε Unit) := by
    intro s holds
    have called := carried.call (.advanceTime elapsedMs) trivial s holds
    rw [Wpa2Runtime.perform, post_bind] at called
    refine called.mono ?_
    intro r t carried
    cases r with
    | error failure => exact carried
    | ok done => exact (post_pure _ _ _).mp carried
  apply (carried.onDriver advances).bind
  intro done
  exact (counts.mapError _).onField (fun _ holds => holds) fun _ _ holds => holds

end Steps

/-! ## Each operation -/

section Moves
variable [Bus β ε] [Platform π β ρ] {Hears : Bytes → Prop} {p : Prop} {P : Wpa2System β rx tx → Prop}
  {station : Wpa2StationDriver β rx tx}

/-- The driver adds what it may add before an authorized port. -/
theorem step_carries (carried : Carried ε crypto Hears (Unsecured p) P) {move : SecureMove π β ε}
    (continues : move.Continues) (allowed : station.controlledPortAuthorized = true → p)
    (hears : ∀ payload ∈ station.heard move, Hears payload) (holds : P station.system) :
    P (station.step crypto move).system := by
  cases move with
  | driver move =>
      exact carried.driver _ _ holds
        (unsecured_mono (step_unsecured station.driver move) allowed)
  | setWpa2Timeouts timeouts => exact carried.timeouts _ timeouts holds
  | restartPairwise supplicantNonce => exact continues.elim
  | advanceTime elapsedMs =>
      exact (carried.advanceTime (plain_advanceTime elapsedMs) station holds).ends
  | pollEvent scratchAddress scratch =>
      exact (carried.pollEvent (plain_pollEvent scratchAddress) (station, scratch) holds).ends
  | receivePacket event packetIndex output =>
      exact (carried.receivePacket (plain_receivePacket event packetIndex) hears holds).ends
  | transmit wdevId frame dscpTos =>
      have sent : Post (Wpa2StationDriver.transmit wdevId frame dscpTos : Method β rx tx ε UInt8)
          station (fun _ next => P next.system) := by
        rw [Wpa2StationDriver.transmit, onDriver, post_onField, post_mapError]
        refine (transmit_unsecured wdevId frame dscpTos station.driver).mono ?_
        intro r driver grown
        exact carried.driver _ driver.inner holds (unsecured_mono grown allowed)
      exact sent.ends

end Moves

end Wpa2StationDriver

end Nrf7002
