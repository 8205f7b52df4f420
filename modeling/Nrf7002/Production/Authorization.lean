import Nrf7002.Production.Agreement
import Nrf7002.Production.ClosedPort
import Nrf7002.Runtime.Authorization

/-! # What comes before the authorization of the station

The operations of the WPA2 station in any order, from its construction or from a restart.
The classification of an error adds no crossing of its own, so each operation adds what its
driver and the one call of the coordinator add. -/

set_option autoImplicit false

namespace Nrf7002
open Foundation

/-! ## The driver layer -/

namespace MissionCriticalDriver
variable {β ε α : Type} {rx tx : Nat} {before : NativeDriver β rx tx} {added : List Crossing}

/-- The classification of a result adds no crossing, and grants nothing. -/
theorem leaves_observes (operation : DriverOperation) (result : Except (DriverError ε) α)
    {inner : NativeDriver β rx tx} (observes : NativeDriver.Observes before inner added) :
    NativeDriver.Observes before (leaves operation result inner) added := by
  rcases leaves_cases operation result inner with kept | recovers
  · rwa [kept]
  · rw [recovers]
    exact observes.enterRecovery

theorem advanceTime_observes (elapsedMs : UInt32) (driver : MissionCriticalDriver β rx tx) :
    Post (advanceTime elapsedMs : Method β rx tx ε Unit) driver
      (fun _ next => NativeDriver.Observes driver.inner next.inner []) := by
  rw [advanceTime, post_bind, post_attempt, onInner, post_onField]
  refine (NativeDriver.advanceTime_observes elapsedMs driver.inner).mono ?_
  intro r inner observes
  refine (post_finishDriver .control r _).mono ?_
  rintro r' next ⟨-, left⟩
  rw [left]
  exact leaves_observes .control r observes

variable [Bus β ε]

theorem pollEvent_observes (scratchAddress : Nat) (driver : MissionCriticalDriver β rx tx)
    (scratch : Bytes) :
    Post (pollEvent scratchAddress) (driver, scratch) (fun r s =>
      ∃ added, NativeDriver.Observes driver.inner s.1.inner added ∧
        ∀ event, r = .ok (some event) → NativeDriver.ReadFrom added event) := by
  rw [pollEvent, post_bind, post_attempt, onInnerBuffer, post_onField]
  refine (NativeDriver.pollEvent_observes scratchAddress driver.inner scratch).mono ?_
  rintro r part ⟨added, observes, reads⟩
  dsimp only
  rw [besideBuffer, post_onField]
  refine (post_finishDriver .event r _).mono ?_
  rintro r' next ⟨rfl, left⟩
  dsimp only
  rw [left]
  refine ⟨added, leaves_observes .event r observes, ?_⟩
  intro event taken
  cases r with
  | error failure => cases taken
  | ok polled =>
      cases taken
      exact reads event rfl

theorem receivePacket_observes (event : RxEvent) (packetIndex : Nat)
    (driver : MissionCriticalDriver β rx tx) (output : Bytes) :
    Post (receivePacket event packetIndex) (driver, output)
      (fun _ s => NativeDriver.Observes driver.inner s.1.inner []) := by
  have untouched : NativeDriver.Observes driver.inner driver.inner [] :=
    .quiet rfl (StationController.grantsNothing_refl _)
  rw [receivePacket, post_bind, besideBuffer, post_onField, post_ensureReady]
  split
  · dsimp only
    rw [post_bind, post_attempt, onInnerBuffer, post_onField]
    refine (NativeDriver.receivePacket_observes event packetIndex output driver.inner).mono ?_
    intro r part observes
    dsimp only
    rw [post_bind]
    refine (post_finishReceive r _).mono ?_
    rintro r' s ⟨-, left⟩
    have finishes : NativeDriver.Observes driver.inner s.1.inner [] := by
      rw [left]
      exact leaves_observes .receive r observes
    cases r' with
    | error failure => exact finishes
    | ok frame =>
        refine ((keeps_inner_enforceReceivedFrame frame).post s).mono ?_
        intro r'' t kept
        rwa [kept]
  · exact untouched

theorem transmit_observes (wdevId : UInt8) (frame : Bytes) (dscpTos : UInt16)
    (driver : MissionCriticalDriver β rx tx) :
    Post (transmit wdevId frame dscpTos) driver
      (fun _ next => ∃ added, NativeDriver.Observes driver.inner next.inner added) := by
  have untouched : ∃ added, NativeDriver.Observes driver.inner driver.inner added :=
    ⟨[], .quiet rfl (StationController.grantsNothing_refl _)⟩
  rw [transmit, post_bind, post_ensureReady]
  split
  · dsimp only
    rw [post_bind, post_liftResult]
    cases (ethernetType frame : Except (ProductionError ε) UInt16) with
    | error failure => exact untouched
    | ok etherType =>
        dsimp only
        rw [post_bind, post_get]
        dsimp only
        rw [post_ite]
        split
        · exact (post_throw _ _ _).mpr untouched
        · rw [post_bind, post_attempt, onInner, post_onField]
          refine (NativeDriver.transmit_observes wdevId frame dscpTos driver.inner).mono ?_
          rintro r inner ⟨added, observes⟩
          refine (post_finishDriver .transmit r _).mono ?_
          rintro r' next ⟨-, left⟩
          rw [left]
          exact ⟨added, leaves_observes .transmit r observes⟩
  · exact untouched

end MissionCriticalDriver

/-! ## Each operation -/

/-- The operations of the station itself, and changes of the hardware between them. -/
def SecureMove.Operates {π β ε : Type} : SecureMove π β ε → Prop
  | .setWpa2Timeouts _ | .advanceTime _ | .pollEvent _ _ | .receivePacket _ _ _
  | .transmit _ _ _ => True
  | .driver (.hardware _) => True
  | _ => False

namespace Wpa2StationDriver
variable {β ε π ρ : Type} {rx tx : Nat} {granted : Prop} {log heard : List Crossing}
  {station : Wpa2StationDriver β rx tx}

/-- The log justifies the station. -/
def Justified (granted : Prop) (station : Wpa2StationDriver β rx tx) (log : List Crossing) :
    Prop :=
  Wpa2Runtime.Justified granted station.security station.driver.inner.station log

def Continues (granted : Prop) (log : List Crossing) (station next : Wpa2StationDriver β rx tx) :
    Prop :=
  Wpa2Runtime.Continues granted log station.system next.system

/-- An operation that ends with its driver. -/
theorem continues_driver {driver : MissionCriticalDriver β rx tx}
    (justified : station.Justified granted log)
    (observes : NativeDriver.Observes station.driver.inner driver.inner heard) :
    Continues granted log station { station with driver } :=
  Wpa2Runtime.continues_driver justified observes

section Operations
variable [Bus β ε]

/-- An operation whose driver goes on to the one call of the coordinator. -/
theorem onSecurity_continues (crypto : Wpa2Crypto) (call : Wpa2Call)
    {driver : MissionCriticalDriver β rx tx} (justified : station.Justified granted log)
    (observes : NativeDriver.Observes station.driver.inner driver.inner heard)
    (follows : Wpa2Runtime.Follows call heard) :
    Post (onSecurity (Wpa2Runtime.perform crypto call) : Method β rx tx ε Wpa2Progress)
      { station with driver } (fun _ next => Continues granted log station next) := by
  rw [onSecurity, post_onField, post_mapError]
  exact Wpa2Runtime.perform_continues (s := station.system) justified observes follows

theorem applySecurityEvent_continues (crypto : Wpa2Crypto) {event : DriverEvent}
    {driver : MissionCriticalDriver β rx tx} (justified : station.Justified granted log)
    (observes : NativeDriver.Observes station.driver.inner driver.inner heard)
    (reads : NativeDriver.ReadFrom heard event) :
    Post (applySecurityEvent event : Method β rx tx ε Wpa2Progress) { station with driver }
      (fun _ next => Continues granted log station next) := by
  have untouched := continues_driver justified observes
  cases event with
  | control control =>
      rw [applySecurityEvent, applyControlEvent, post_bind, post_get]
      dsimp only
      rw [post_ite]
      split
      · exact (post_pure _ _ _).mpr untouched
      · exact onSecurity_continues crypto (.controlEvent control) justified observes reads
  | transmitDone done =>
      rw [applySecurityEvent, applyTransmitDone, post_bind, post_get]
      dsimp only
      rw [post_ite]
      split
      · exact (post_pure _ _ _).mpr untouched
      · exact onSecurity_continues crypto (.transmitDone done) justified observes reads
  | data data =>
      exact onSecurity_continues crypto .refreshCarrier justified observes trivial
  | _ => exact (post_pure _ _ _).mpr untouched

theorem advanceTime_continues (crypto : Wpa2Crypto) (elapsedMs : UInt32)
    (justified : station.Justified granted log) :
    Post (advanceTime elapsedMs : Method β rx tx ε Unit) station
      (fun _ next => Continues granted log station next) := by
  rw [advanceTime, post_bind, onDriver, post_onField, post_mapError]
  refine (MissionCriticalDriver.advanceTime_observes elapsedMs station.driver).mono ?_
  intro r driver observes
  cases r with
  | error failure => exact continues_driver justified observes
  | ok done =>
      have called : Post (Wpa2Runtime.perform crypto (.advanceTime elapsedMs) :
            Wpa2Runtime.Method β rx tx ε Wpa2Progress)
          (system { station with driver })
          (fun _ next => Wpa2Runtime.Continues granted log station.system next) :=
        Wpa2Runtime.perform_continues (s := station.system) justified observes trivial
      rw [Wpa2Runtime.perform, post_bind] at called
      dsimp only [Except.mapError]
      rw [onSecurity, post_onField, post_mapError]
      refine called.mono ?_
      intro r next continued
      cases r with
      | error failure => exact continued
      | ok done => exact (post_pure _ _ _).mp continued

theorem pollEvent_continues (crypto : Wpa2Crypto) (scratchAddress : Nat) (scratch : Bytes)
    (justified : station.Justified granted log) :
    Post (pollEvent scratchAddress :
        Program (Wpa2StationDriver β rx tx × Bytes) (SecureProductionError ε) _)
      (station, scratch) (fun _ s => Continues granted log station s.1) := by
  rw [pollEvent, post_bind, onDriverBuffer, post_onField, post_mapError]
  refine (MissionCriticalDriver.pollEvent_observes scratchAddress station.driver scratch).mono ?_
  rintro r part ⟨added, observes, reads⟩
  have untouched := continues_driver justified observes
  cases r with
  | error failure => exact untouched
  | ok polled =>
      cases polled with
      | none => exact (post_pure _ _ _).mpr untouched
      | some event =>
          dsimp only [Except.mapError]
          rw [post_bind, besideBuffer, post_onField]
          refine (applySecurityEvent_continues crypto justified observes (reads event rfl)).mono ?_
          intro r next continued
          cases r with
          | error failure => exact continued
          | ok progress => exact (post_pure _ _ _).mpr continued

theorem receivePacket_continues (crypto : Wpa2Crypto) (event : RxEvent) (packetIndex : Nat)
    (output : Bytes) (justified : station.Justified granted log) :
    Post (receivePacket crypto event packetIndex :
        Program (Wpa2StationDriver β rx tx × Bytes) (SecureProductionError ε) _)
      (station, output) (fun _ s => Continues granted log station s.1) := by
  rw [receivePacket, post_bind, onDriverBuffer, post_onField, post_mapError]
  refine (MissionCriticalDriver.receivePacket_observes event packetIndex station.driver
    output).mono ?_
  intro r part observes
  have untouched := continues_driver justified observes
  cases r with
  | error failure => exact untouched
  | ok frame =>
      dsimp only [Except.mapError]
      rw [finishReceivedPacket, post_ite]
      split
      · exact (post_pure _ _ _).mpr untouched
      · rw [post_bind, post_get]
        dsimp only
        rw [post_bind, post_attempt, besideBuffer, post_onField]
        refine (onSecurity_continues crypto (.ethernetFrame (part.2.take frame.len)) justified
          observes trivial).mono ?_
        intro r next continued
        dsimp only
        rw [post_bind, post_modify]
        dsimp only
        rw [post_bind, post_liftResult]
        cases r with
        | error failure => exact continued
        | ok progress => exact (post_pure _ _ _).mpr continued

theorem transmit_continues (wdevId : UInt8) (frame : Bytes) (dscpTos : UInt16)
    (justified : station.Justified granted log) :
    Post (transmit wdevId frame dscpTos : Method β rx tx ε UInt8) station
      (fun _ next => Continues granted log station next) := by
  rw [transmit, onDriver, post_onField, post_mapError]
  refine (MissionCriticalDriver.transmit_observes wdevId frame dscpTos station.driver).mono ?_
  rintro r driver ⟨added, observes⟩
  exact continues_driver justified observes

variable [Platform π β ρ] (crypto : Wpa2Crypto)

/-- What each operation adds is justified by the log. -/
theorem step_continues {move : SecureMove π β ε} (operates : move.Operates)
    (justified : station.Justified granted log) :
    Continues granted log station (station.step crypto move) := by
  have resting := StationController.grantsNothing_refl station.driver.inner.station
  cases move with
  | advanceTime elapsedMs => exact (advanceTime_continues crypto elapsedMs justified).ends
  | pollEvent scratchAddress scratch =>
      exact (pollEvent_continues crypto scratchAddress scratch justified).ends
  | receivePacket event packetIndex output =>
      exact (receivePacket_continues crypto event packetIndex output justified).ends
  | transmit wdevId frame dscpTos =>
      exact (transmit_continues wdevId frame dscpTos justified).ends
  | setWpa2Timeouts timeouts =>
      have same := Wpa2Runtime.Justified.observes justified (.quiet rfl resting)
      refine ⟨[], (List.append_nil _).symm, ?_, .inl⟩
      exact ⟨same.submitted, same.reached, same.stored, same.pending⟩
  | driver inner =>
      cases inner with
      | hardware bus => exact continues_driver justified (.quiet rfl resting)
      | _ => exact operates.elim
  | restartPairwise supplicantNonce => exact operates.elim

end Operations

/-! ## Runs -/

/-- A station that was just built, or whose pairwise exchange was just restarted. -/
inductive Starts (ε : Type) : Wpa2StationDriver β rx tx → Prop where
  | new (driver : MissionCriticalDriver β rx tx) (supplicant : Wpa2Supplicant) (wdevId : UInt8) :
      Starts ε (new driver supplicant wdevId)
  | restarted {before station : Wpa2StationDriver β rx tx} {supplicantNonce : Octets 32}
      (returns : Returns (restartPairwise supplicantNonce : Method β rx tx ε Unit) before ()
        station) : Starts ε station

/-- The station waits for the status of a SET_STATION command. -/
def AwaitsAuthorization (station : Wpa2StationDriver β rx tx) : Prop :=
  station.driver.inner.station.pendingCommand = some .setStation

def journal (station : Wpa2StationDriver β rx tx) : List Crossing :=
  station.driver.inner.device.journal

def controlledPortAuthorized (station : Wpa2StationDriver β rx tx) : Bool :=
  station.driver.inner.station.controlledPortAuthorized

/-- Each SET_STATION command that was submitted since the start followed what secures the
association, and that followed the start. -/
def SubmitsInOrder (start station : Wpa2StationDriver β rx tx) : Prop :=
  ∃ log, station.journal = start.journal ++ log ∧
    OnlyAfter (Crossing.Commands .setStation) Secured log

/-- An operation authorizes the port only after what the log must show since the start. -/
def OpensAfter [Bus β ε] [Platform π β ρ] (crypto : Wpa2Crypto)
    (Shows : List Crossing → Prop) (start station : Wpa2StationDriver β rx tx)
    (move : SecureMove π β ε) : Prop :=
  station.controlledPortAuthorized = false →
    (station.step crypto move).controlledPortAuthorized = true →
      ∃ log, (station.step crypto move).journal = start.journal ++ log ∧ Shows log

/-- What was added since the start justifies the station. -/
def JustifiedSince (start station : Wpa2StationDriver β rx tx) : Prop :=
  ∃ log, station.journal = start.journal ++ log ∧ station.Justified start.AwaitsAuthorization log

theorem justified_of_waiting (waiting : station.security.state = .awaitingAuthenticator)
    (unrequested : station.security.pairwiseInstall = none) :
    station.Justified station.AwaitsAuthorization [] where
  submitted := onlyAfter_nil _ _
  reached := by
    rw [waiting]
    exact inOrder_nil _
  stored := by
    intro request kept
    rw [unrequested] at kept
    cases kept
  pending := .inl

theorem Starts.justified (starts : Starts ε station) :
    station.Justified station.AwaitsAuthorization [] := by
  cases starts with
  | new driver supplicant wdevId => exact justified_of_waiting rfl rfl
  | @restarted before _ supplicantNonce returns =>
      have waits : Post (restartPairwise supplicantNonce : Method β rx tx ε Unit) before
          (fun r next => r = .ok () → next.security.state = .awaitingAuthenticator ∧
            next.security.pairwiseInstall = none) := by
        rw [restartPairwise, post_onField, post_mapError, Wpa2Runtime.restartPairwise, post_bind]
        refine (post_true _ _).mono ?_
        intro r supplicant _
        cases r with
        | error failure =>
            intro same
            cases same
        | ok done =>
            rw [post_modify]
            exact fun _ => ⟨rfl, rfl⟩
      have ends := waits.ends returns.1
      rw [returns.2] at ends
      exact justified_of_waiting ends.1 ends.2

section Runs
variable [Bus β ε] [Platform π β ρ] (crypto : Wpa2Crypto) {start : Wpa2StationDriver β rx tx}

theorem step_justifiedSince {move : SecureMove π β ε} (operates : move.Operates)
    (since : start.JustifiedSince station) : start.JustifiedSince (station.step crypto move) := by
  obtain ⟨log, journal, justified⟩ := since
  obtain ⟨added, continues⟩ := step_continues crypto operates justified
  refine ⟨log ++ added, ?_, continues.justified⟩
  rw [← List.append_assoc, ← journal]
  exact continues.journal

theorem step_opensAfter {move : SecureMove π β ε} (operates : move.Operates)
    (since : start.JustifiedSince station) (settled : ¬ start.AwaitsAuthorization) :
    OpensAfter crypto Authorized start station move := by
  intro closed opened
  obtain ⟨log, journal, justified⟩ := since
  obtain ⟨added, continues⟩ := step_continues crypto operates justified
  refine ⟨log ++ added, ?_, ?_⟩
  · rw [← List.append_assoc, ← journal]
    exact continues.journal
  · rcases continues.port opened with before | waits | shows
    · exact absurd (before.symm.trans closed) (by decide)
    · exact absurd waits settled
    · exact shows

/-- Every SET_STATION command follows the keys and Message 4, and so does every
authorization of the port unless such a command was pending at the start. -/
theorem authorization_follows_handshake (starts : Starts ε start)
    (moves : List (SecureMove π β ε)) (operates : ∀ move ∈ moves, move.Operates) :
    (∀ visit ∈ visited (step crypto) start moves, start.SubmitsInOrder visit) ∧
      (¬ start.AwaitsAuthorization →
        ∀ taken ∈ stepsOf (step crypto) start moves,
          OpensAfter crypto Authorized start taken.1 taken.2) := by
  have first : start.JustifiedSince start := ⟨[], (List.append_nil _).symm, starts.justified⟩
  have allowed : ∀ taken ∈ stepsOf (step crypto) start moves, taken.2.Operates :=
    fun taken member => operates _ (move_mem_of_stepsOf member)
  constructor
  · refine (always_iff_no_bad_step_of_allowed start.JustifiedSince start.SubmitsInOrder
      (fun _ move => move.Operates) (fun _ _ => False) ?_ ?_ ?_ first moves allowed).mpr
      fun _ _ => id
    · rintro visit ⟨log, journal, justified⟩
      exact ⟨log, journal, justified.submitted⟩
    · exact fun visit move since operates _ => step_justifiedSince crypto operates since
    · exact fun _ _ _ bad => bad.elim
  · intro settled
    refine (steps_iff_no_bad_step_of_allowed start.JustifiedSince
      (fun _ move => move.Operates) (OpensAfter crypto Authorized start) (fun _ _ => False)
      ?_ ?_ first moves allowed).mpr fun _ _ => id
    · exact fun visit move since operates _ => step_justifiedSince crypto operates since
    · exact fun visit move since operates =>
        iff_of_true (step_opensAfter crypto operates since settled) id

end Runs

/-! ## A handshake over the hardware -/

section Handshake

/-- Every word of the hardware reads as one packet-RAM address, but for the bytes that
firmware put at `address`. -/
def placed (address : UInt32) (bytes : Bytes) : BackedBus ReadyBus :=
  { bus := ReadyBus.mk
    memory := fun offset =>
      match (mappedOffset .umac address : Except (RpuError Empty) UInt32) with
      | .ok first => ByteMemory.store (fun other => (le32 readyAddress).getD (other % 4) 0)
          first.toNat bytes offset
      | .error _ => 0
    arrived := fun _ _ _ => 0 }

instance backedPlatform : Platform Unit (BackedBus ReadyBus) Empty where
  hardReset := pure ()
  prepareWakeBus := pure ()
  prepareDataBus := pure ()
  waitForInterrupt := pure ()

/-- A secure association that waits for its keys. -/
def securingDriver : MissionCriticalDriver (BackedBus ReadyBus) 1 1 :=
  { inner :=
      { MissionCriticalDriver.bootedDriver.inner with
        station := Wpa2System.securingStation
        ifaceindex := 1 } }

def eventArrives (message : HostMessage) : SecureMove Unit (BackedBus ReadyBus) Empty :=
  .driver (.hardware (placed readyAddress
    (hostMessageBytes message.messageType message.resubmit message.payload)))

def eventPolled : SecureMove Unit (BackedBus ReadyBus) Empty :=
  .pollEvent 0 (List.replicate 128 0)

def eventMoves (message : HostMessage) : List (SecureMove Unit (BackedBus ReadyBus) Empty) :=
  [eventArrives message, eventPolled]

/-- Firmware accepted the command. -/
def statusMessage (command : UmacCommand) : HostMessage :=
  NativeDriver.controlMessage .commandStatus (le32 command.number ++ le32 0)

/-- One A-MSDU subframe from the access point. -/
def eapolPacket (payload : Bytes) : Bytes :=
  sampleLocal.1 ++ (samplePeer.1 ++ (be16 (UInt16.ofNat (payload.length + 8)) ++
    ([0xaa, 0xaa, 3, 0, 0, 0] ++ (be16 eapolEthertype ++ payload))))

def eapolMoves (payload : Bytes) : List (SecureMove Unit (BackedBus ReadyBus) Empty) :=
  [.driver (.hardware (placed (0xb00309bc + UInt32.ofNat rxBufferHeadroom) (eapolPacket payload))),
    .receivePacket
      { MissionCriticalDriver.shortSubframeEvent with
        payload := List.replicate 20 0 ++ ([0, 0] ++
          (le16 (UInt16.ofNat (eapolPacket payload).length) ++ ([2] ++ List.replicate 12 0))) }
      0 (List.replicate 160 0)]

/-- From Message 1 to the submission of the SET_STATION command. -/
def handshakeMoves : List (SecureMove Unit (BackedBus ReadyBus) Empty) :=
  eapolMoves sampleMessage1 ++ eventMoves (Wpa2System.txDoneMessage 0) ++
    eapolMoves sampleMessage3 ++ eventMoves (statusMessage .newKey) ++
    eventMoves (statusMessage .newKey) ++ eventMoves (statusMessage .setKey) ++
    eventMoves (Wpa2System.txDoneMessage 0)

def securingStart : Wpa2StationDriver (BackedBus ReadyBus) 1 1 :=
  new securingDriver sampleSupplicant 0

theorem operates_eventMoves (message : HostMessage) :
    ∀ move ∈ eventMoves message, move.Operates := by
  simp [eventMoves, eventArrives, eventPolled, SecureMove.Operates]

theorem operates_eapolMoves (payload : Bytes) : ∀ move ∈ eapolMoves payload, move.Operates := by
  simp [eapolMoves, SecureMove.Operates]

theorem operates_handshakeMoves : ∀ move ∈ handshakeMoves, move.Operates := by
  simp only [handshakeMoves, List.forall_mem_append, and_assoc]
  exact ⟨operates_eapolMoves _, operates_eventMoves _, operates_eapolMoves _,
    operates_eventMoves _, operates_eventMoves _, operates_eventMoves _, operates_eventMoves _⟩

theorem handshake_authorizes :
    (runMoves (step sampleCrypto) securingStart
        (handshakeMoves ++ eventMoves (statusMessage .setStation))).controlledPortAuthorized =
          true ∧
      securingStart.SubmitsInOrder (runMoves (step sampleCrypto) securingStart
        (handshakeMoves ++ eventMoves (statusMessage .setStation))) ∧
      ∀ taken ∈ stepsOf (step sampleCrypto) securingStart
          (handshakeMoves ++ eventMoves (statusMessage .setStation)),
        OpensAfter sampleCrypto Authorized securingStart taken.1 taken.2 := by
  have starts : Starts Empty securingStart := .new securingDriver sampleSupplicant 0
  have follows := authorization_follows_handshake sampleCrypto starts
    (handshakeMoves ++ eventMoves (statusMessage .setStation))
    (List.forall_mem_append.mpr ⟨operates_handshakeMoves, operates_eventMoves _⟩)
  refine ⟨by decide +kernel, follows.1 _ (runMoves_mem_visited _ _ _), follows.2 ?_⟩
  intro waits
  cases waits

/-! ## A restart before the status -/

/-- The exchange is restarted before the status of the SET_STATION command arrives. -/
def restartedStation : Wpa2StationDriver (BackedBus ReadyBus) 1 1 :=
  stateAfter (restartPairwise sampleSupplicantNonce : Method (BackedBus ReadyBus) 1 1 Empty Unit)
    (runMoves (step sampleCrypto) securingStart handshakeMoves)

/-- The status that arrives after the restart is all that the journal shows since then. -/
theorem restartedStation_status :
    resultOf (restartPairwise sampleSupplicantNonce :
        Method (BackedBus ReadyBus) 1 1 Empty Unit)
      (runMoves (step sampleCrypto) securingStart handshakeMoves) = .ok () ∧
      (runMoves (step sampleCrypto) restartedStation
        [eventArrives (statusMessage .setStation)]).controlledPortAuthorized = false ∧
      (step sampleCrypto (runMoves (step sampleCrypto) restartedStation
        [eventArrives (statusMessage .setStation)]) eventPolled).controlledPortAuthorized = true ∧
      (step sampleCrypto (runMoves (step sampleCrypto) restartedStation
        [eventArrives (statusMessage .setStation)]) eventPolled).journal.length =
          restartedStation.journal.length + 1 := by
  decide +kernel

/-- The status of the earlier exchange authorizes the port of the new one. -/
theorem restart_authorizes_early :
    Starts Empty restartedStation ∧
      (∀ move ∈ eventMoves (statusMessage .setStation), move.Operates) ∧
      ¬ ∀ taken ∈ stepsOf (step sampleCrypto) restartedStation
          (eventMoves (statusMessage .setStation)),
        OpensAfter sampleCrypto Secured restartedStation taken.1 taken.2 := by
  obtain ⟨restarts, closed, opened, single⟩ := restartedStation_status
  refine ⟨.restarted ⟨restarts, rfl⟩, operates_eventMoves _, ?_⟩
  intro opens
  have last := opens _ (last_mem_stepsOf (step sampleCrypto) restartedStation
    [eventArrives (statusMessage .setStation)] eventPolled)
  obtain ⟨log, journal, token, ordered⟩ := last closed opened
  have few : log.length = 1 := by
    rw [journal, List.length_append] at single
    omega
  have eight : (securedMarks token).length = 8 := rfl
  have marks := ordered.length_le
  omega

end Handshake

end Wpa2StationDriver

end Nrf7002
