import Nrf7002.Wpa2.Handshake

/-! # Key delivery within one session

A session runs from the creation of a supplicant, or from its last successful
restart, and keeps every accepted payload with the action it produced.  Key requests
of a session are new: their replay counters exceed those of all payloads accepted
before.  What they carry is authenticated by the keys of the session. -/

set_option autoImplicit false

namespace Nrf7002
open Foundation

/-- The replay counter of a key request. -/
def Wpa2Action.installCounter : Wpa2Action → Option UInt64
  | .installKeys request => some request.replayCounter
  | .installGroupKey request => some request.replayCounter
  | .none => Option.none
  | .transmit _ => Option.none

def Wpa2Action.installsPairwise : Wpa2Action → Bool
  | .installKeys _ => true
  | _ => false

/-- Neither request: the actions a retransmission may produce. -/
def Wpa2Action.Quiet (action : Wpa2Action) : Prop :=
  action = .none ∨ ∃ response, action = .transmit response

theorem Wpa2Action.quiet_of_installCounter {action : Wpa2Action}
    (installs : action.installCounter = Option.none) : action.Quiet := by
  cases action with
  | none => exact .inl rfl
  | transmit response => exact .inr ⟨response, rfl⟩
  | installKeys request => exact absurd installs (by simp [installCounter])
  | installGroupKey request => exact absurd installs (by simp [installCounter])

/-- An accepted payload and its action. -/
structure Exchange where
  bytes : Bytes
  action : Wpa2Action

/-- The frame that the parser reads from an accepted payload. -/
def Exchange.frame (exchange : Exchange) : EapolKeyFrame :=
  ⟨exchange.bytes, ⟨readBe16 exchange.bytes 5⟩, exchange.bytes.drop keyDataOffset⟩

def Exchange.counter (exchange : Exchange) : UInt64 := exchange.frame.replayCounter

namespace Wpa2Supplicant

/-- The largest counter of the session so far. -/
def highestReplay (supplicant : Wpa2Supplicant) : Option UInt64 :=
  (supplicant.pendingTicket.map fun ticket => ticket.2.1).or
    (supplicant.completedReplay.or supplicant.message1Replay)

section Highest
variable {crypto : Wpa2Crypto} {before after : Wpa2Supplicant} {frame : EapolKeyFrame}
  {action : Wpa2Action}

/-- An accepted frame never lowers the largest counter and is covered by it; a key
request is above everything before it. -/
theorem frame_advances (holds : Handshake crypto before)
    (effect : FrameEffect crypto before frame action after) :
    ∃ highest, after.highestReplay = some highest ∧ frame.replayCounter ≤ highest ∧
      ∀ earlier, before.highestReplay = some earlier →
        earlier ≤ highest ∧ ∀ counter, action.installCounter = some counter →
          earlier < counter := by
  cases effect with
  | waiting pending =>
      refine ⟨frame.replayCounter, by simp [highestReplay, pending], UInt64.le_refl _, ?_⟩
      intro earlier same
      rw [highestReplay, pending] at same
      obtain rfl : frame.replayCounter = earlier := by simpa using same
      exact ⟨UInt64.le_refl _, by simp [Wpa2Action.installCounter]⟩
  | message2 idle _ _ phase first =>
      obtain ⟨_, _, completed, _, _, _⟩ := holds.unlearned phase first
      refine ⟨frame.replayCounter, by simp [highestReplay, learned, idle, completed],
        UInt64.le_refl _, ?_⟩
      intro earlier same
      simp [highestReplay, idle, completed, first] at same
  | message2Again idle _ phase same =>
      have completed := holds.not_completed phase
      refine ⟨frame.replayCounter, by simp [highestReplay, idle, completed, same],
        UInt64.le_refl _, ?_⟩
      intro earlier again
      simp only [highestReplay, idle, completed, same, Option.map_none, Option.none_or,
        Option.some.injEq] at again
      exact ⟨UInt64.le_of_eq again.symm, by simp [Wpa2Action.installCounter]⟩
  | message3 idle _ phase _ _ previous newer _ _ counter =>
      obtain ⟨_, _, completed⟩ := holds.learned phase
      refine ⟨frame.replayCounter, by simp [highestReplay, installingKeys, installing],
        UInt64.le_refl _, ?_⟩
      intro earlier same
      simp only [highestReplay, idle, completed, previous, Option.map_none, Option.none_or,
        Option.some.injEq] at same
      subst same
      refine ⟨UInt64.le_of_lt newer, ?_⟩
      intro next installs
      obtain rfl := Option.some.inj installs
      exact counter ▸ newer
  | message4Again idle _ _ same =>
      refine ⟨frame.replayCounter, by simp [highestReplay, idle, same], UInt64.le_refl _, ?_⟩
      intro earlier again
      simp only [highestReplay, idle, same, Option.map_none, Option.none_or, Option.some_or,
        Option.some.injEq] at again
      exact ⟨UInt64.le_of_eq again.symm, by simp [Wpa2Action.installCounter]⟩
  | groupMessage1 idle _ phase _ newer _ counter =>
      obtain ⟨_, _, last, _, completed, _⟩ := holds.completed phase
      rw [completed, Option.getD_some] at newer
      refine ⟨frame.replayCounter, by simp [highestReplay, installing], UInt64.le_refl _, ?_⟩
      intro earlier same
      simp only [highestReplay, idle, completed, Option.map_none, Option.none_or, Option.some_or,
        Option.some.injEq] at same
      subst same
      refine ⟨UInt64.le_of_lt newer, ?_⟩
      intro next installs
      obtain rfl := Option.some.inj installs
      exact counter ▸ newer
  | groupMessage2Again idle _ phase same =>
      obtain ⟨_, _, last, _, completed, _, group, _⟩ := holds.completed phase
      have current : frame.replayCounter = last := group _ same
      refine ⟨frame.replayCounter, by simp [highestReplay, idle, completed, current],
        UInt64.le_refl _, ?_⟩
      intro earlier again
      simp only [highestReplay, idle, completed, Option.map_none, Option.none_or, Option.some_or,
        Option.some.injEq] at again
      exact ⟨UInt64.le_of_eq (again.symm.trans current.symm), by simp [Wpa2Action.installCounter]⟩

theorem frame_counter (effect : FrameEffect crypto before frame action after) {counter : UInt64}
    (installs : action.installCounter = some counter) : counter = frame.replayCounter := by
  cases effect with
  | message3 _ _ _ _ _ _ _ _ _ same => exact (Option.some.inj installs).symm.trans same
  | groupMessage1 _ _ _ _ _ _ same => exact (Option.some.inj installs).symm.trans same
  | waiting => exact absurd installs (by simp [Wpa2Action.installCounter])
  | message2 => exact absurd installs (by simp [Wpa2Action.installCounter])
  | message2Again => exact absurd installs (by simp [Wpa2Action.installCounter])
  | message4Again => exact absurd installs (by simp [Wpa2Action.installCounter])
  | groupMessage2Again => exact absurd installs (by simp [Wpa2Action.installCounter])

/-- A completed installation turns the pending counter into the completed one. -/
theorem highestReplay_installed {ticket : UInt32} {replay : UInt64} {group : Bool}
    (digest : Octets 32) (pending : before.pendingTicket = some (ticket, replay, group)) :
    (before.installed replay group digest).highestReplay = before.highestReplay := by
  simp [highestReplay, installed, pending]

theorem frame_active (holds : Handshake crypto before)
    (effect : FrameEffect crypto before frame action after) :
    before.phase ≠ .failed ∧ after.phase ≠ .failed := by
  cases effect with
  | waiting pending =>
      have active : before.phase ≠ .failed := by
        intro failed
        rw [(holds.of_failed failed).pendingTicket] at pending
        exact absurd pending (by simp)
      exact ⟨active, active⟩
  | message2 _ _ _ phase => exact ⟨awaitsMessage_active phase, by simp [learned]⟩
  | message2Again _ _ phase => exact ⟨awaitsMessage_active phase, awaitsMessage_active phase⟩
  | message3 _ _ phase => exact ⟨by simp [phase], by simp [installingKeys]⟩
  | message4Again _ _ phase => exact ⟨by simp [phase], by simp [phase]⟩
  | groupMessage1 _ _ phase => exact ⟨by simp [phase], by simp [installing, phase]⟩
  | groupMessage2Again _ _ phase => exact ⟨by simp [phase], by simp [phase]⟩

/-- The pairwise keys are requested while a message is awaited, and not any more after. -/
theorem frame_awaits (effect : FrameEffect crypto before frame action after) :
    (after.awaitsMessage → before.awaitsMessage ∧ action.installsPairwise = false) ∧
      (action.installsPairwise = true → before.awaitsMessage) := by
  cases effect with
  | waiting => exact ⟨fun awaits => ⟨awaits, rfl⟩, by simp [Wpa2Action.installsPairwise]⟩
  | message2 _ _ _ phase => exact ⟨fun _ => ⟨phase, rfl⟩, fun _ => phase⟩
  | message2Again _ _ phase => exact ⟨fun _ => ⟨phase, rfl⟩, fun _ => phase⟩
  | message3 _ _ phase =>
      refine ⟨fun awaits => ?_, fun _ => .inr phase⟩
      exact absurd awaits (by simp [awaitsMessage, installingKeys])
  | message4Again _ _ phase =>
      refine ⟨fun awaits => ⟨awaits, rfl⟩, by simp [Wpa2Action.installsPairwise]⟩
  | groupMessage1 _ _ phase =>
      refine ⟨fun awaits => ?_, by simp [Wpa2Action.installsPairwise]⟩
      exact absurd awaits (by simp [awaitsMessage, installing, phase])
  | groupMessage2Again _ _ phase =>
      exact ⟨fun awaits => ⟨awaits, rfl⟩, by simp [Wpa2Action.installsPairwise]⟩

/-- An accepted Message 1 carries the stored nonce afterwards; once a nonce is stored
no frame changes it. -/
theorem frame_nonce (holds : Handshake crypto before)
    (effect : FrameEffect crypto before frame action after) :
    (frame.message = .pairwiseMessage1 → frame.nonce = after.authenticatorNonce) ∧
      (before.phase = .awaitingMessage1 → frame.message = .pairwiseMessage1) ∧
      (before.phase ≠ .awaitingMessage1 →
        after.authenticatorNonce = before.authenticatorNonce) := by
  have later (kind : frame.message ≠ .pairwiseMessage1) (phase : before.phase ≠ .awaitingMessage1)
      (same : after.authenticatorNonce = before.authenticatorNonce) :
      (frame.message = .pairwiseMessage1 → frame.nonce = after.authenticatorNonce) ∧
        (before.phase = .awaitingMessage1 → frame.message = .pairwiseMessage1) ∧
        (before.phase ≠ .awaitingMessage1 →
          after.authenticatorNonce = before.authenticatorNonce) :=
    ⟨fun first => absurd first kind, fun first => absurd first phase, fun _ => same⟩
  cases effect with
  | @waiting ticket group pending kind =>
      refine later ?_ ?_ rfl
      · rw [kind]
        cases group <;> simp [pendingMessage]
      · intro first
        cases holds with
        | awaitingMessage1 _ _ _ _ _ _ idle => exact absurd (idle.symm.trans pending) (by simp)
        | awaitingMessage3 phase => exact absurd (phase.symm.trans first) (by simp)
        | installingKeys phase => exact absurd (phase.symm.trans first) (by simp)
        | complete phase => exact absurd (phase.symm.trans first) (by simp)
        | failed phase => exact absurd (phase.symm.trans first) (by simp)
  | message2 _ kind _ phase first =>
      have current := (holds.unlearned phase first).1
      exact ⟨fun _ => rfl, fun _ => kind, fun other => absurd current other⟩
  | message2Again _ kind _ _ nonce => exact ⟨fun _ => nonce.symm, fun _ => kind, fun _ => rfl⟩
  | message3 _ kind phase => exact later (by simp [kind]) (by simp [phase]) rfl
  | message4Again _ kind phase => exact later (by simp [kind]) (by simp [phase]) rfl
  | groupMessage1 _ kind phase => exact later (by simp [kind]) (by simp [phase]) rfl
  | groupMessage2Again _ kind phase => exact later (by simp [kind]) (by simp [phase]) rfl

theorem frame_supplicantNonce (effect : FrameEffect crypto before frame action after) :
    after.supplicantNonce = before.supplicantNonce := by
  cases effect <;> rfl

end Highest

end Wpa2Supplicant

/-! ## Sessions -/

/-- A supplicant, the nonce its handshake was started with, and the payloads that the
handshake accepted. -/
structure Session where
  supplicant : Wpa2Supplicant
  supplicantNonce : Octets 32
  accepted : List Exchange

namespace Session
open Wpa2Supplicant

section Steps
variable (crypto : Wpa2Crypto)

def start (supplicant : Wpa2Supplicant) (supplicantNonce : Octets 32) : Session :=
  { supplicant, supplicantNonce, accepted := [] }

def acceptedBy (bytes : Bytes) : Except Wpa2Error Wpa2Action → List Exchange
  | .ok action => [{ bytes, action }]
  | .error _ => []

/-- Accepted payloads are recorded; a successful restart begins another session. -/
def step (session : Session) (operation : SupplicantOperation) : Session :=
  let after := session.supplicant.step crypto operation
  match operation with
  | .onEapol peer bytes =>
      { session with
        supplicant := after
        accepted := session.accepted ++
          acceptedBy bytes (resultOf (onEapol crypto peer bytes) session.supplicant) }
  | .restartPairwise supplicantNonce =>
      match resultOf (restartPairwise supplicantNonce) session.supplicant with
      | .ok _ => start after supplicantNonce
      | .error _ => { session with supplicant := after }
  | .completeKeyInstall _ _ => { session with supplicant := after }
  | .completeGroupKeyInstall _ _ => { session with supplicant := after }

/-- The transient key of the session: its master key, both addresses, the stored
nonce of the authenticator and the nonce the session was started with. -/
def ptk (session : Session) : Ptk :=
  session.supplicant.pmk.derivePtk crypto session.supplicant.peer session.supplicant.localAddress
    session.supplicant.authenticatorNonce session.supplicantNonce

def pairwiseInstalls (session : Session) : Nat :=
  session.accepted.countP fun exchange => exchange.action.installsPairwise

/-- The facts that hold of every session.  Those about the supplicant's fields end
with a failure, which clears them. -/
structure Recorded (session : Session) : Prop where
  handshake : Handshake crypto session.supplicant
  nonce : session.supplicant.phase ≠ .failed →
    session.supplicant.supplicantNonce = session.supplicantNonce
  bounded : session.supplicant.phase ≠ .failed → ∀ exchange ∈ session.accepted,
    ∃ highest, session.supplicant.highestReplay = some highest ∧ exchange.counter ≤ highest
  newer : session.accepted.Pairwise fun earlier later =>
    ∀ counter, later.action.installCounter = some counter → earlier.counter < counter
  counters : ∀ exchange ∈ session.accepted, ∀ counter,
    exchange.action.installCounter = some counter → counter = exchange.counter
  once : session.pairwiseInstalls ≤ 1
  notYet : session.supplicant.awaitsMessage → session.pairwiseInstalls = 0
  learned : session.supplicant.phase ≠ .failed → session.supplicant.phase ≠ .awaitingMessage1 →
    ∃ exchange ∈ session.accepted, exchange.frame.message = .pairwiseMessage1
  sameNonce : session.supplicant.phase ≠ .failed → ∀ exchange ∈ session.accepted,
    exchange.frame.message = .pairwiseMessage1 →
      exchange.frame.nonce = session.supplicant.authenticatorNonce

variable {crypto} {session : Session}

theorem recorded_start {supplicant : Wpa2Supplicant} {supplicantNonce : Octets 32}
    (holds : Handshake crypto supplicant) (phase : supplicant.phase = .awaitingMessage1)
    (nonce : supplicant.supplicantNonce = supplicantNonce) :
    (start supplicant supplicantNonce).Recorded crypto where
  handshake := holds
  nonce _ := nonce
  bounded _ := by simp [start]
  newer := List.Pairwise.nil
  counters := by simp [start]
  once := by simp [start, pairwiseInstalls]
  notYet _ := by simp [start, pairwiseInstalls]
  learned _ later := absurd phase later
  sameNonce _ := by simp [start]

/-- In the first phase nothing has been accepted yet. -/
theorem Recorded.untouched (recorded : session.Recorded crypto)
    (phase : session.supplicant.phase = .awaitingMessage1) : session.accepted = [] := by
  have active : session.supplicant.phase ≠ .failed := by simp [phase]
  have highest : session.supplicant.highestReplay = none := by
    cases recorded.handshake with
    | awaitingMessage1 _ _ _ first completed _ idle => simp [highestReplay, first, completed, idle]
    | awaitingMessage3 current => exact absurd (current.symm.trans phase) (by simp)
    | installingKeys current => exact absurd (current.symm.trans phase) (by simp)
    | complete current => exact absurd (current.symm.trans phase) (by simp)
    | failed current => exact absurd (current.symm.trans phase) (by simp)
  apply List.eq_nil_iff_forall_not_mem.mpr
  intro exchange member
  obtain ⟨counter, same, _⟩ := recorded.bounded active exchange member
  exact absurd (highest.symm.trans same) (by simp)

theorem recorded_frame (recorded : session.Recorded crypto) {bytes : Bytes} {action : Wpa2Action}
    {frame : EapolKeyFrame} {after : Wpa2Supplicant}
    (parsed : EapolKeyFrame.parse bytes = .ok frame)
    (effect : FrameEffect crypto session.supplicant frame action after) :
    Recorded crypto
      { session with supplicant := after, accepted := session.accepted ++ [⟨bytes, action⟩] } := by
  have same : (Exchange.mk bytes action).frame = frame := (parse_iff.mp parsed).2.symm
  have counter : (Exchange.mk bytes action).counter = frame.replayCounter :=
    congrArg EapolKeyFrame.replayCounter same
  obtain ⟨active, _⟩ := frame_active recorded.handshake effect
  obtain ⟨highest, top, covered, advances⟩ := frame_advances recorded.handshake effect
  obtain ⟨firstNonce, firstKind, keptNonce⟩ := frame_nonce recorded.handshake effect
  obtain ⟨awaits, installs⟩ := frame_awaits effect
  refine ⟨handshake_frame recorded.handshake effect, ?_, ?_, ?_, ?_, ?_, ?_, ?_, ?_⟩
  · intro _
    rw [frame_supplicantNonce effect]
    exact recorded.nonce active
  · intro _ exchange member
    refine ⟨highest, top, ?_⟩
    rcases List.mem_append.mp member with earlier | new
    · obtain ⟨before, known, below⟩ := recorded.bounded active exchange earlier
      exact UInt64.le_trans below (advances before known).1
    · rw [List.mem_singleton.mp new, counter]
      exact covered
  · rw [List.pairwise_append]
    refine ⟨recorded.newer, List.pairwise_singleton _ _, ?_⟩
    intro earlier member later new next request
    obtain rfl := List.mem_singleton.mp new
    obtain ⟨before, known, below⟩ := recorded.bounded active earlier member
    exact UInt64.lt_of_le_of_lt below ((advances before known).2 next request)
  · intro exchange member next request
    rcases List.mem_append.mp member with earlier | new
    · exact recorded.counters exchange earlier next request
    · obtain rfl := List.mem_singleton.mp new
      rw [counter]
      exact frame_counter effect request
  · rw [pairwiseInstalls, List.countP_append]
    by_cases request : action.installsPairwise = true
    · have none_yet := recorded.notYet (installs request)
      rw [pairwiseInstalls] at none_yet
      simp [none_yet, request]
    · simpa [request, pairwiseInstalls] using recorded.once
  · intro waits
    obtain ⟨before, quiet⟩ := awaits waits
    have none_yet := recorded.notYet before
    rw [pairwiseInstalls] at none_yet
    simp [pairwiseInstalls, List.countP_append, none_yet, quiet]
  · intro _ _
    by_cases first : session.supplicant.phase = .awaitingMessage1
    · exact ⟨⟨bytes, action⟩, by simp, same ▸ firstKind first⟩
    · obtain ⟨exchange, member, kind⟩ := recorded.learned active first
      exact ⟨exchange, List.mem_append_left _ member, kind⟩
  · intro _ exchange member kind
    rcases List.mem_append.mp member with earlier | new
    · have touched : session.supplicant.phase ≠ .awaitingMessage1 := by
        intro first
        rw [recorded.untouched first] at earlier
        exact absurd earlier (List.not_mem_nil)
      exact (recorded.sameNonce active exchange earlier kind).trans (keptNonce touched).symm
    · obtain rfl := List.mem_singleton.mp new
      rw [same] at kind ⊢
      exact firstNonce kind

theorem recorded_failed (recorded : session.Recorded crypto) :
    Recorded crypto { session with supplicant := session.supplicant.failed } where
  handshake := handshake_failed _
  nonce active := absurd rfl active
  bounded active := absurd rfl active
  newer := recorded.newer
  counters := recorded.counters
  once := recorded.once
  notYet waits := absurd waits (by simp [awaitsMessage, failed])
  learned active := absurd rfl active
  sameNonce active := absurd rfl active

theorem recorded_installed (recorded : session.Recorded crypto) {ticket : UInt32}
    {replay : UInt64} {group : Bool} (digest : Octets 32)
    (pending : session.supplicant.pendingTicket = some (ticket, replay, group)) :
    Recorded crypto
      { session with supplicant := session.supplicant.installed replay group digest } := by
  have active : session.supplicant.phase ≠ .failed := by
    intro failed
    have cleared := recorded.handshake.of_failed failed
    exact absurd (cleared.pendingTicket.symm.trans pending) (by simp)
  have touched : session.supplicant.phase ≠ .awaitingMessage1 := by
    intro first
    exact absurd ((recorded.handshake.idle (.inl first)).symm.trans pending) (by simp)
  exact
    { handshake := handshake_installed recorded.handshake digest pending
      nonce := fun _ => recorded.nonce active
      bounded := by
        intro _ exchange member
        rw [highestReplay_installed digest pending]
        exact recorded.bounded active exchange member
      newer := recorded.newer
      counters := recorded.counters
      once := recorded.once
      notYet := fun waits => absurd waits (by simp [awaitsMessage, installed])
      learned := fun _ _ => recorded.learned active touched
      sameNonce := fun _ => recorded.sameNonce active }

theorem recorded_completion {α : Type} {value : α} {result : Except Wpa2Error α}
    {ticket : UInt32} {replay : UInt64} {group : Bool} {after : Wpa2Supplicant}
    (recorded : session.Recorded crypto)
    (outcome : CompletionOutcome session.supplicant ticket replay group value result after) :
    Recorded crypto { session with supplicant := after } := by
  cases outcome with
  | failed failure => exact recorded_failed recorded
  | installed pending frame => exact recorded_installed recorded _ pending

theorem recorded_step (recorded : session.Recorded crypto) (operation : SupplicantOperation) :
    (session.step crypto operation).Recorded crypto := by
  cases operation with
  | onEapol peer bytes =>
      have outcome := (onEapol_handled crypto session.supplicant peer bytes).ends
      simp only [step, Wpa2Supplicant.step]
      generalize stateAfter (onEapol crypto peer bytes) session.supplicant = after at outcome ⊢
      generalize resultOf (onEapol crypto peer bytes) session.supplicant = result at outcome ⊢
      cases outcome with
      | refused => simpa only [acceptedBy, List.append_nil] using recorded
      | failed => simpa only [acceptedBy, List.append_nil] using recorded_failed recorded
      | accepted effect =>
          obtain ⟨_, frame, parsed, effect⟩ := effect
          exact recorded_frame recorded parsed effect
  | completeKeyInstall request installed =>
      exact recorded_completion recorded
        (completeKeyInstall_outcome session.supplicant request installed).ends
  | completeGroupKeyInstall request installed =>
      exact recorded_completion recorded
        (completeGroupKeyInstall_outcome session.supplicant request installed).ends
  | restartPairwise supplicantNonce =>
      have spec := (restartPairwise_spec session.supplicant supplicantNonce).ends
      simp only [step, Wpa2Supplicant.step]
      cases result : resultOf (restartPairwise supplicantNonce) session.supplicant with
      | error failure =>
          rw [result] at spec
          rw [spec]
          exact recorded
      | ok value =>
          rw [result] at spec
          rw [spec.2.2]
          exact recorded_start (handshake_restarted session.supplicant spec.1) rfl rfl

theorem recorded_run {localAddress peer : Octets 6} {supplicantNonce : Octets 32} {pmk : Pmk}
    {rsnIe : Bytes} {first : Wpa2Supplicant}
    (created : new localAddress peer supplicantNonce pmk rsnIe = .ok first)
    (operations : List SupplicantOperation) :
    (runMoves (step crypto) (start first supplicantNonce) operations).Recorded crypto := by
  have created := new_created created
  have started : (start first supplicantNonce).Recorded crypto :=
    recorded_start created.handshake created.phase created.supplicantNonce
  have preserved : ∀ (session : Session) operation, session.Recorded crypto →
      (session.step crypto operation).Recorded crypto :=
    fun _ operation recorded => recorded_step recorded operation
  exact runMoves_preserves preserved started operations

/-- In every session the pairwise keys are requested at most once, the counters of the
key requests increase, and a payload whose counter was accepted before is never
answered by a key request. -/
theorem keys_requested_once {localAddress peer : Octets 6} {supplicantNonce : Octets 32} {pmk : Pmk}
    {rsnIe : Bytes} {first : Wpa2Supplicant}
    (created : new localAddress peer supplicantNonce pmk rsnIe = .ok first)
    (operations : List SupplicantOperation) :
    let session := runMoves (step crypto) (start first supplicantNonce) operations
    session.pairwiseInstalls ≤ 1 ∧
      (session.accepted.filterMap fun exchange => exchange.action.installCounter).Pairwise (· < ·) ∧
      session.accepted.Pairwise fun earlier later =>
        later.counter ≤ earlier.counter → later.action.Quiet := by
  intro session
  have recorded : session.Recorded crypto := recorded_run created operations
  refine ⟨recorded.once, ?_, ?_⟩
  · rw [List.pairwise_filterMap]
    refine recorded.newer.imp_of_mem ?_
    intro earlier later member _ newer counter request next again
    rw [recorded.counters earlier member counter request]
    exact newer next again
  · refine recorded.newer.imp_of_mem ?_
    intro earlier later _ member newer older
    cases request : later.action.installCounter with
    | none => exact Wpa2Action.quiet_of_installCounter request
    | some counter =>
        have above := newer counter request
        rw [recorded.counters later member counter request] at above
        exact absurd (UInt64.lt_of_lt_of_le above older) (UInt64.lt_irrefl _)

/-- Message 3 is repeated: the keys are requested once. -/
theorem keys_requested_once_sample :
    let session := runMoves (step sampleCrypto) (start sampleSupplicant sampleSupplicantNonce)
      [.onEapol samplePeer sampleMessage1, .onEapol samplePeer sampleMessage3,
        .onEapol samplePeer sampleMessage3]
    session.accepted.length = 3 ∧ session.pairwiseInstalls ≤ 1 := by
  intro session
  refine ⟨by decide +kernel, ?_⟩
  exact (keys_requested_once sampleSupplicant_new _).1

/-! ### What a key request carries -/

variable (crypto)

/-- The key data of a frame, unwrapped under the key-encryption key. -/
def unwrapped (ptk : Ptk) (frame : EapolKeyFrame) : WrapState (Octets 8) :=
  unwrap (aesWrapCipher crypto ptk.kek) (wrappedState frame.keyData)

/-- The frame of a key request in a session, and the group key it delivers. -/
structure Authentic (session : Session) (frame : EapolKeyFrame) (group : GroupKeyInstall) :
    Prop where
  verified : frame.verifyMic crypto (session.ptk crypto) = true
  learned : ∃ exchange ∈ session.accepted, exchange.frame.message = .pairwiseMessage1 ∧
    exchange.frame.nonce = session.supplicant.authenticatorNonce
  current : session.supplicant.supplicantNonce = session.supplicantNonce
  nonzero : isZeroNonce session.supplicantNonce = false
  newest : ∀ exchange ∈ session.accepted, exchange.counter < frame.replayCounter
  encrypted : frame.keyInfo.encryptedKeyData = true
  whole : WrappedLength frame.keyData
  integrity : (unwrapped crypto (session.ptk crypto) frame).integrity = aesKeyWrapIv
  firstGtk : IsFirstGtk (flat (unwrapped crypto (session.ptk crypto) frame).registers)
    ⟨group.keyIndex, group.key⟩

variable {frame : EapolKeyFrame} {ptk : Ptk}

theorem length_unwrapped (whole : WrappedLength frame.keyData) :
    (flat (unwrapped crypto ptk frame).registers).length = frame.keyData.length - 8 := by
  obtain ⟨long, even⟩ := whole
  rw [length_flat, unwrapped, length_unwrap]
  simp only [wrappedState, registersOf, List.length_map, List.length_range]
  omega

/-- Unwrapped key data passed the integrity check. -/
theorem unwrapKeyData_ok {plain : Bytes} (unwrapping : unwrapKeyData crypto frame ptk = .ok plain) :
    WrappedLength frame.keyData ∧ (unwrapped crypto ptk frame).integrity = aesKeyWrapIv ∧
      plain = flat (unwrapped crypto ptk frame).registers := by
  obtain ⟨buffer, cleared⟩ : ∃ buffer, List.replicate maxKeyDataLen (0 : UInt8) = buffer := ⟨_, rfl⟩
  simp only [unwrapKeyData, cleared] at unwrapping
  by_cases fits : WrappedLength frame.keyData ∧ frame.keyData.length - 8 ≤ buffer.length
  · have spec := (aesKeyUnwrap_spec crypto ptk.kek fits.1 fits.2).ends
    have length : (flat (unwrapped crypto ptk frame).registers).length = frame.keyData.length - 8 :=
      length_unwrapped crypto fits.1
    rw [unwrapped] at length ⊢
    by_cases accepted :
        (unwrap (aesWrapCipher crypto ptk.kek) (wrappedState frame.keyData)).integrity =
          aesKeyWrapIv
    · simp only [if_pos accepted] at spec
      rw [spec.1, spec.2] at unwrapping
      refine ⟨fits.1, accepted, (Except.ok.inj unwrapping).symm.trans ?_⟩
      rw [← length]
      generalize flat (unwrap (aesWrapCipher crypto ptk.kek)
        (wrappedState frame.keyData)).registers = value at length ⊢
      have copied : (splice buffer 0 value).take (0 + value.length) = buffer.take 0 ++ value :=
        take_splice (by omega)
      rwa [Nat.zero_add, List.take_zero, List.nil_append] at copied
    · simp only [if_neg accepted] at spec
      rw [spec.1] at unwrapping
      exact absurd unwrapping (by simp [Except.map])
  · obtain ⟨⟨failure, refused⟩, _⟩ := (aesKeyUnwrap_refused crypto ptk.kek fits).ends
    rw [refused] at unwrapping
    exact absurd unwrapping (by simp [Except.map])

/-- A delivered group key is the first one of key data that passed its check. -/
theorem groupKeyInstall_ok {group : GroupKeyInstall}
    (installed : groupKeyInstall crypto frame ptk = .ok group) :
    WrappedLength frame.keyData ∧ (unwrapped crypto ptk frame).integrity = aesKeyWrapIv ∧
      IsFirstGtk (flat (unwrapped crypto ptk frame).registers) ⟨group.keyIndex, group.key⟩ := by
  rw [groupKeyInstall, bind_eq_ok] at installed
  obtain ⟨plain, unwrapping, installed⟩ := installed
  rw [bind_eq_ok] at installed
  obtain ⟨gtk, parsed, built⟩ := installed
  obtain rfl := Except.ok.inj built
  obtain ⟨whole, integrity, rfl⟩ := unwrapKeyData_ok crypto unwrapping
  exact ⟨whole, integrity, parseGtkKde_iff.mp parsed⟩

variable {crypto} {session : Session}

/-- The keys of a session that is keyed are derived from its own nonces. -/
theorem Recorded.ptk_eq (recorded : session.Recorded crypto)
    (keyed : Keyed crypto session.supplicant) (active : session.supplicant.phase ≠ .failed) :
    session.supplicant.ptk = some (session.ptk crypto) := by
  rw [keyed.derived, sessionPtk, ptk, recorded.nonce active]

theorem recorded_delivers (recorded : session.Recorded crypto) {action : Wpa2Action}
    {after : Wpa2Supplicant} (effect : FrameEffect crypto session.supplicant frame action after)
    (keyed : Keyed crypto session.supplicant)
    (later : session.supplicant.phase ≠ .awaitingMessage1) {group : GroupKeyInstall} {ptk : Ptk}
    (keys : session.supplicant.ptk = some ptk) (delivers : Delivers crypto frame ptk group)
    (request : action.installCounter = some frame.replayCounter) :
    Authentic crypto session frame group := by
  obtain ⟨active, _⟩ := frame_active recorded.handshake effect
  obtain ⟨_, _, _, advances⟩ := frame_advances recorded.handshake effect
  obtain rfl : ptk = session.ptk crypto :=
    Option.some.inj (keys.symm.trans (recorded.ptk_eq keyed active))
  obtain ⟨whole, integrity, firstGtk⟩ := groupKeyInstall_ok crypto delivers.unwrapped
  obtain ⟨exchange, member, kind⟩ := recorded.learned active later
  refine
    { verified := delivers.verified
      learned := ⟨exchange, member, kind, recorded.sameNonce active exchange member kind⟩
      current := recorded.nonce active
      nonzero := recorded.nonce active ▸ keyed.own
      newest := ?_
      encrypted := delivers.encrypted
      whole, integrity, firstGtk }
  intro earlier member
  obtain ⟨before, known, below⟩ := recorded.bounded active earlier member
  exact UInt64.lt_of_le_of_lt below ((advances before known).2 _ request)

variable (crypto) in
/-- What a session may answer to a payload: a key request is authenticated by the keys
of the session, and its pairwise key is the temporal part of them. -/
structure AnswersAuthentically (session : Session) (bytes : Bytes)
    (result : Except Wpa2Error Wpa2Action) : Prop where
  pairwise : ∀ request, result = .ok (.installKeys request) →
    ∃ frame, EapolKeyFrame.parse bytes = .ok frame ∧ Authentic crypto session frame request.group ∧
      request.pairwise.peer = session.supplicant.peer ∧
      request.pairwise.key.1 = slice (session.ptk crypto).bytes.1 32 48
  group : ∀ request, result = .ok (.installGroupKey request) →
    ∃ frame, EapolKeyFrame.parse bytes = .ok frame ∧ Authentic crypto session frame request.group

theorem answersAuthentically_of_quiet {bytes : Bytes} {result : Except Wpa2Error Wpa2Action}
    (quiet : ∀ action, result = .ok action → action.installCounter = none) :
    session.AnswersAuthentically crypto bytes result where
  pairwise request same := absurd (quiet _ same) (by simp [Wpa2Action.installCounter])
  group request same := absurd (quiet _ same) (by simp [Wpa2Action.installCounter])

theorem requested_keys_authentic {localAddress peer : Octets 6} {supplicantNonce : Octets 32}
    {pmk : Pmk} {rsnIe : Bytes} {first : Wpa2Supplicant}
    (created : new localAddress peer supplicantNonce pmk rsnIe = .ok first)
    (operations : List SupplicantOperation) (sender : Octets 6) (bytes : Bytes) :
    let session := runMoves (step crypto) (start first supplicantNonce) operations
    session.AnswersAuthentically crypto bytes
      (resultOf (onEapol crypto sender bytes) session.supplicant) := by
  intro session
  have recorded : session.Recorded crypto := recorded_run created operations
  have outcome := (onEapol_handled crypto session.supplicant sender bytes).ends
  generalize stateAfter (onEapol crypto sender bytes) session.supplicant = after at outcome
  generalize resultOf (onEapol crypto sender bytes) session.supplicant = result at outcome ⊢
  have silent (action : Wpa2Action) (installs : action.installCounter = none) :
      session.AnswersAuthentically crypto bytes (.ok action) :=
    answersAuthentically_of_quiet fun _ same => Except.ok.inj same ▸ installs
  have refusal (failure : Wpa2Error) :
      session.AnswersAuthentically crypto bytes (.error failure) :=
    answersAuthentically_of_quiet fun _ same => absurd same (by simp)
  cases outcome with
  | refused failure => exact refusal failure
  | failed failure => exact refusal failure
  | accepted effect =>
      obtain ⟨_, frame, parsed, effect⟩ := effect
      have handshake := recorded.handshake
      cases effect with
      | waiting => exact silent _ rfl
      | message2 => exact silent _ rfl
      | message2Again => exact silent _ rfl
      | message4Again => exact silent _ rfl
      | groupMessage2Again => exact silent _ rfl
      | message3 idle kind phase keys nonce previous newer delivers pairwise counter =>
          obtain ⟨keyed, _⟩ := handshake.learned phase
          have authentic := recorded_delivers recorded
            (.message3 idle kind phase keys nonce previous newer delivers pairwise counter) keyed
            (by simp [phase]) keys delivers (congrArg some counter)
          have active : session.supplicant.phase ≠ .failed := by simp [phase]
          have ptk := Option.some.inj (keys.symm.trans (recorded.ptk_eq keyed active))
          refine ⟨?_, fun request same => absurd (Except.ok.inj same) (by simp)⟩
          intro request same
          obtain rfl := Wpa2Action.installKeys.inj (Except.ok.inj same)
          refine ⟨frame, parsed, authentic, ?_, ?_⟩
          · rw [pairwise]
          · rw [pairwise, ← ptk]
            exact Ptk.temporalKey_eq _
      | groupMessage1 idle kind phase keys newer delivers counter =>
          obtain ⟨keyed, _⟩ := handshake.completed phase
          have authentic := recorded_delivers recorded
            (.groupMessage1 idle kind phase keys newer delivers counter) keyed (by simp [phase]) keys
            delivers (congrArg some counter)
          refine ⟨fun request same => absurd (Except.ok.inj same) (by simp), ?_⟩
          intro request same
          obtain rfl := Wpa2Action.installGroupKey.inj (Except.ok.inj same)
          exact ⟨frame, parsed, authentic⟩

/-- The session after Message 1. -/
def sampleSession : Session :=
  step sampleCrypto (start sampleSupplicant sampleSupplicantNonce)
    (.onEapol samplePeer sampleMessage1)

theorem requested_keys_authentic_sample :
    resultOf (onEapol sampleCrypto samplePeer sampleMessage3) sampleSession.supplicant =
        .ok (.installKeys sampleRequest) ∧
      ∃ frame, EapolKeyFrame.parse sampleMessage3 = .ok frame ∧
        Authentic sampleCrypto sampleSession frame sampleGroup := by
  have requested : resultOf (onEapol sampleCrypto samplePeer sampleMessage3)
      sampleSession.supplicant = .ok (.installKeys sampleRequest) := by decide +kernel
  have applied : sampleSession.AnswersAuthentically sampleCrypto sampleMessage3
      (resultOf (onEapol sampleCrypto samplePeer sampleMessage3) sampleSession.supplicant) :=
    requested_keys_authentic sampleSupplicant_new [.onEapol samplePeer sampleMessage1]
      samplePeer sampleMessage3
  obtain ⟨frame, parsed, authentic, _⟩ := applied.pairwise _ requested
  exact ⟨requested, frame, parsed, authentic⟩

end Steps

end Session

end Nrf7002
