import Nrf7002.Production.Carried
import Nrf7002.Runtime.Ledger

/-! # Keys are installed once

The books of the coordinator over whole runs of the station: its own operations and all
those of its driver, in any order, from a fresh supplicant to the next restart. -/

set_option autoImplicit false

namespace Nrf7002
open Foundation

namespace Wpa2StationDriver
variable {β ε π ρ α : Type} {rx tx : Nat} {crypto : Wpa2Crypto}

/-! ## Runs -/

/-- A station that was just built with a new supplicant, or whose pairwise exchange was just
restarted, with the nonce of that exchange. -/
inductive Begins (ε : Type) (supplicantNonce : Octets 32) : Wpa2StationDriver β rx tx → Prop where
  | new {localAddress peer : Octets 6} {pmk : Pmk} {rsnIe : Bytes} {supplicant : Wpa2Supplicant}
      (created : Wpa2Supplicant.new localAddress peer supplicantNonce pmk rsnIe = .ok supplicant)
      (driver : MissionCriticalDriver β rx tx) (wdevId : UInt8) :
      Begins ε supplicantNonce (new driver supplicant wdevId)
  | restarted {before station : Wpa2StationDriver β rx tx}
      (returns : Returns (restartPairwise supplicantNonce : Method β rx tx ε Unit) before ()
        station) : Begins ε supplicantNonce station

section Runs
variable {Hears : Bytes → Prop} {first : Session} {base : List Crossing} {start : Wpa2StationDriver β rx tx}
  {supplicantNonce : Octets 32}

theorem Begins.derived (begins : Begins ε supplicantNonce start) (crypto : Wpa2Crypto) :
    (Session.start start.security.supplicant supplicantNonce).Derived crypto ∧
      start.security.pairwiseInstall = none ∧ start.security.groupInstall = none := by
  cases begins with
  | new created driver wdevId =>
      have created := Wpa2Supplicant.new_created created
      exact ⟨Session.derived_start created.handshake created.phase created.supplicantNonce, rfl, rfl⟩
  | @restarted before _ returns =>
      have restarts : Post (restartPairwise supplicantNonce : Method β rx tx ε Unit) before
          (fun r next => r = .ok () → (Session.start next.security.supplicant
            supplicantNonce).Derived crypto ∧
              next.security.pairwiseInstall = none ∧ next.security.groupInstall = none) := by
        rw [restartPairwise, post_onField, post_mapError, Wpa2Runtime.restartPairwise, post_bind,
          Wpa2Runtime.onSupplicant, post_onField]
        refine (Wpa2Supplicant.restartPairwise_spec _ _).mono ?_
        intro r supplicant spec
        cases r with
        | error failure =>
            intro same
            cases same
        | ok done =>
            obtain ⟨nonzero, -, rfl⟩ := spec
            dsimp only
            rw [post_modify]
            intro _
            exact ⟨Session.derived_start (Wpa2Supplicant.handshake_restarted _ nonzero) rfl rfl,
              rfl, rfl⟩
      have ends := restarts.ends returns.1
      rw [returns.2] at ends
      exact ends

/-- The books of the coordinator. -/
def Books (crypto : Wpa2Crypto) (Hears : Bytes → Prop) (first : Session) (base : List Crossing)
    (s : Wpa2System β rx tx) : Prop :=
  Wpa2Runtime.Booked crypto Hears first base (Wpa2Runtime.Expected s.runtime.state) s

theorem Begins.books (begins : Begins ε supplicantNonce start) (crypto : Wpa2Crypto) :
    Books crypto Hears (Session.start start.security.supplicant supplicantNonce) start.journal
      start.system := by
  obtain ⟨-, pairwise, group⟩ := begins.derived crypto
  exact ⟨_, [], [], Session.later_refl _, rfl, (List.append_nil _).symm, keysTold_nil,
    .settled rfl pairwise group⟩

variable [Bus β ε]

theorem books_carried : Carried ε crypto Hears (Unsecured True)
    (Books crypto Hears first base : Wpa2System β rx tx → Prop) where
  driver s driver books grown := by
    obtain ⟨added, journal, quiet⟩ := grown
    refine Wpa2Runtime.Booked.onward books rfl journal ?_ fun _ => id
    intro crossing member
    have plain := (quiet crossing member).1
    exact setsKey_eq_false (fun newKey => plain (.inl newKey))
      fun setKey => plain (.inr (.inl setKey))
  timeouts s timeouts books := Wpa2Runtime.Booked.same books rfl rfl fun _ => id
  call call heard s books := Wpa2Runtime.perform_booked books heard

/-- The key commands of a log, and the session that they install the keys of. -/
structure InstallsKeysOf (crypto : Wpa2Crypto) (session : Session) (log : List Crossing)
    (delivered : List FirmwareKey) : Prop where
  told : KeysTold delivered log
  inParts : InParts KeyRequest.commands session.keyRequests delivered
  increasing : (session.keyRequests.map KeyRequest.replayCounter).Pairwise (· < ·)
  once : delivered.countP FirmwareKey.isPairwise ≤ 1
  keyed : ∃ authenticatorNonce, session.KeyedBy crypto authenticatorNonce

variable [Platform π β ρ] (crypto)

/-- The books after a run, with the payloads heard in it. -/
theorem books_run (begins : Begins ε supplicantNonce start) (moves : List (SecureMove π β ε))
    (continues : ∀ move ∈ moves, move.Continues) :
    Books crypto (· ∈ heardIn crypto start moves)
      (Session.start start.security.supplicant supplicantNonce) start.journal
      (runMoves (step crypto) start moves).system := by
  let booked (station : Wpa2StationDriver β rx tx) : Prop :=
    Books crypto (· ∈ heardIn crypto start moves)
      (Session.start start.security.supplicant supplicantNonce) start.journal station.system
  refine runMoves_preserves_of_steps booked (begins.books crypto) moves ?_
  intro taken member books
  refine step_carries books_carried (continues taken.2 (move_mem_of_stepsOf member))
    (fun _ => trivial) ?_ books
  exact fun payload heard => List.mem_filterMap.mpr ⟨taken, member, heard⟩

/-- In any run up to the next restart, the key commands of the journal are those of the
requests of one session, each delivered once and in order, all of them but the last as a
whole; the keys come from one transient key, and its pairwise key is installed at most once. -/
theorem keys_installed_once (begins : Begins ε supplicantNonce start)
    (moves : List (SecureMove π β ε)) (continues : ∀ move ∈ moves, move.Continues) :
    let station := runMoves (step crypto) start moves
    ∃ session log delivered,
      Session.Later crypto (· ∈ heardIn crypto start moves)
          (Session.start start.security.supplicant supplicantNonce) session ∧
        session.supplicant = station.security.supplicant ∧
        station.journal = start.journal ++ log ∧ InstallsKeysOf crypto session log delivered := by
  obtain ⟨session, log, delivered, booked⟩ := books_run crypto begins moves continues
  have derived := booked.later.derived (begins.derived crypto).1
  obtain ⟨single, increasing⟩ := derived.recorded.requests
  have inParts := booked.ledger.inParts
  exact ⟨session, log, delivered, booked.later, booked.supplicant.symm, booked.journal,
    booked.told, inParts, increasing, Nat.le_trans (pairwise_le_requests inParts) single,
    derived.keyed⟩

end Runs

/-! ### The keys of a handshake -/

theorem continues_of_operates {move : SecureMove π β ε} (operates : move.Operates) :
    move.Continues := by
  cases move with
  | restartPairwise supplicantNonce => exact operates.elim
  | _ => trivial

/-- The handshake installs the pairwise key and the group key, and makes it the default. -/
theorem keys_installed_once_handshake :
    ∃ session log delivered,
      Session.Later sampleCrypto (· ∈ heardIn sampleCrypto securingStart handshakeMoves)
          (Session.start sampleSupplicant sampleSupplicantNonce) session ∧
        (runMoves (step sampleCrypto) securingStart handshakeMoves).journal =
          securingStart.journal ++ log ∧
        InstallsKeysOf sampleCrypto session log delivered ∧ delivered.length = 3 := by
  have begins : Begins Empty sampleSupplicantNonce securingStart :=
    .new Wpa2Supplicant.sampleSupplicant_new securingDriver 0
  have continues : ∀ move ∈ handshakeMoves, move.Continues := by
    intro move member
    exact continues_of_operates (operates_handshakeMoves move member)
  have commands : ((runMoves (step sampleCrypto) securingStart handshakeMoves).journal.filter
      Crossing.setsKey).length = 3 := by decide +kernel
  obtain ⟨session, log, delivered, later, -, journal, installs⟩ :=
    keys_installed_once sampleCrypto begins handshakeMoves continues
  refine ⟨session, log, delivered, later, journal, installs, ?_⟩
  have empty : securingStart.journal = [] := rfl
  rw [journal, empty, List.nil_append] at commands
  rw [installs.told.length_eq, commands]

end Wpa2StationDriver

end Nrf7002
