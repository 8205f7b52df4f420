import Mathlib.Data.List.Forall2
import Nrf7002.Foundation.Orders
import Nrf7002.Runtime.Journal
import Nrf7002.Runtime.Restart
import Nrf7002.Wpa2.Keyed

/-! # The key commands of a session

A frame that asks for keys becomes two or three firmware commands, and the supplicant
accepts no other request while they are open.  The ledger holds the requests of the session
against the commands in the journal: every request but the last was carried out as a whole,
and none twice. -/

set_option autoImplicit false

namespace Nrf7002
open Foundation

/-! ## Requests and commands -/

/-- A key command of firmware: it installs a key, or makes a group key the default. -/
inductive FirmwareKey where
  | new (key : KeyConfig)
  | default (key : KeyConfig)
  deriving DecidableEq

/-- The station message of the command. -/
def FirmwareKey.Asks : FirmwareKey → StationMessage → Prop
  | .new key, .keyCommand command _ sent => command = .newKey ∧ sent = key
  | .default key, .setKey sent => sent = key
  | _, _ => False

namespace KeyRequest

/-- The commands that install the keys, in their order. -/
def commands : KeyRequest → List FirmwareKey
  | .pairwise request =>
      [.new request.pairwise.keyConfig, .new request.group.keyConfig,
        .default request.group.defaultKeyConfig]
  | .group request => [.new request.group.keyConfig, .default request.group.defaultKeyConfig]

end KeyRequest

/-- The command installs a pairwise key. -/
def FirmwareKey.isPairwise : FirmwareKey → Bool
  | .new key => key.keyType = .pairwise
  | .default _ => false

theorem KeyRequest.countP_commands (request : KeyRequest) :
    request.commands.countP FirmwareKey.isPairwise = if request.isPairwise then 1 else 0 := by
  cases request <;> rfl

theorem countP_commands (requests : List KeyRequest) :
    (requests.flatMap KeyRequest.commands).countP FirmwareKey.isPairwise =
      requests.countP KeyRequest.isPairwise := by
  induction requests with
  | nil => rfl
  | cons request rest ih =>
      rw [List.flatMap_cons, List.countP_append, ih, request.countP_commands, List.countP_cons,
        Nat.add_comm]

/-- No more pairwise keys are installed than requests ask for. -/
theorem pairwise_le_requests {requests : List KeyRequest} {delivered : List FirmwareKey}
    (inParts : InParts KeyRequest.commands requests delivered) :
    delivered.countP FirmwareKey.isPairwise ≤ requests.countP KeyRequest.isPairwise :=
  Nat.le_trans inParts.within.sublist.countP_le (Nat.le_of_eq (countP_commands requests))

/-! ## Key commands in the journal -/

/-- Firmware was given a NEW_KEY or a SET_KEY command. -/
def Crossing.setsKey : Crossing → Bool
  | sent message => commandIn message = some .newKey || commandIn message = some .setKey
  | _ => false

/-- The key commands of the log are these, in this order. -/
def KeysTold (keys : List FirmwareKey) (log : List Crossing) : Prop :=
  List.Forall₂ (fun (key : FirmwareKey) (crossing : Crossing) => crossing.Submits key.Asks) keys
    (log.filter Crossing.setsKey)

section Journal
variable {keys : List FirmwareKey} {log added : List Crossing} {key : FirmwareKey}

theorem keysTold_nil : KeysTold [] [] := .nil

theorem KeysTold.append (told : KeysTold keys log)
    (other : ∀ crossing ∈ added, crossing.setsKey = false) : KeysTold keys (log ++ added) := by
  have quiet : added.filter Crossing.setsKey = [] := by
    rw [List.filter_eq_nil_iff]
    intro crossing member
    rw [other crossing member]
    decide
  rw [KeysTold, List.filter_append, quiet, List.append_nil]
  exact told

/-- A crossing that is neither command is no key command. -/
theorem setsKey_eq_false {crossing : Crossing} (newKey : ¬ crossing.Commands .newKey)
    (setKey : ¬ crossing.Commands .setKey) : crossing.setsKey = false := by
  cases crossing with
  | sent message =>
      have neither : commandIn message ≠ some .newKey ∧ commandIn message ≠ some .setKey :=
        ⟨newKey, setKey⟩
      simp [Crossing.setsKey, neither.1, neither.2]
  | _ => rfl

theorem asks_command {request : StationMessage} (asks : key.Asks request) :
    request.command = .newKey ∨ request.command = .setKey := by
  cases key with
  | new key =>
      cases request with
      | keyCommand command peer sent => exact .inl asks.1
      | _ => exact asks.elim
  | default key =>
      cases request with
      | setKey sent => exact .inr rfl
      | _ => exact asks.elim

theorem setsKey_of_submits {crossing : Crossing} (submits : crossing.Submits key.Asks) :
    crossing.setsKey = true := by
  obtain ⟨request, wdevId, asks, limits, rfl⟩ := submits
  have found := StationMessage.commandIn_bytes limits wdevId
  rcases asks_command asks with named | named
  · simp [Crossing.setsKey, found, named]
  · simp [Crossing.setsKey, found, named]

theorem KeysTold.snoc (told : KeysTold keys log) (submitted : Crossing.Submitted key.Asks added) :
    KeysTold (keys ++ [key]) (log ++ added) := by
  obtain ⟨crossing, rfl, submits⟩ := submitted
  have kept : [crossing].filter Crossing.setsKey = [crossing] := by
    simp [setsKey_of_submits submits]
  rw [KeysTold, List.filter_append, kept]
  exact List.rel_append told (.cons submits .nil)

end Journal

namespace StationController
variable {β ε : Type} [Bus β ε]

theorem sends_newKey (key : KeyConfig) :
    Sends (FirmwareKey.new key).Asks (keyCommand .newKey key : Command β ε Unit) := by
  intro station device
  unfold keyCommand
  apply post_requireOneOf (fun _ => rfl)
  intro _
  apply post_keyPeer (fun _ => rfl)
  intro peer _
  rw [post_bind, post_get]
  have asks : (FirmwareKey.new key).Asks (.keyCommand .newKey peer key) := ⟨rfl, rfl⟩
  exact sends_submit asks station.wdevId _ station device

theorem sends_defaultKey (key : KeyConfig) :
    Sends (FirmwareKey.default key).Asks (setKey key : Command β ε Unit) := by
  intro station device
  unfold setKey
  apply post_require (fun _ => rfl)
  intro _
  rw [post_bind, post_get]
  have asks : (FirmwareKey.default key).Asks (.setKey key) := rfl
  exact sends_submit asks station.wdevId _ station device

end StationController

/-! ## The ledger -/

namespace Wpa2Supplicant
variable {crypto : Wpa2Crypto} {before after : Wpa2Supplicant}

/-- The supplicant failed, or a request is open: it accepts no frame that asks for keys. -/
def Closed (supplicant : Wpa2Supplicant) : Prop :=
  supplicant.phase = .failed ∨ supplicant.pendingTicket ≠ none

theorem closed_failed (supplicant : Wpa2Supplicant) : supplicant.failed.Closed := .inl rfl

/-- A closed supplicant stays as it is, and a request closes it. -/
theorem frame_closed {frame : EapolKeyFrame} {action : Wpa2Action}
    (effect : FrameEffect crypto before frame action after) :
    (before.Closed → after = before ∧ action.keyRequest = none) ∧
      (action.keyRequest ≠ none → after.Closed) := by
  have open_ (idle : before.pendingTicket = none) (active : before.phase ≠ .failed) :
      ¬ before.Closed := by
    rintro (failed | busy)
    · exact active failed
    · exact busy idle
  cases effect with
  | waiting pending kind => exact ⟨fun _ => ⟨rfl, rfl⟩, fun request => absurd rfl request⟩
  | message2 idle _ _ phase =>
      exact ⟨fun closed => absurd closed (open_ idle (awaitsMessage_active phase)),
        fun request => absurd rfl request⟩
  | message2Again idle _ phase =>
      exact ⟨fun closed => absurd closed (open_ idle (awaitsMessage_active phase)),
        fun request => absurd rfl request⟩
  | message3 idle _ phase =>
      exact ⟨fun closed => absurd closed (open_ idle (by simp [phase])),
        fun _ => .inr (Option.some_ne_none _)⟩
  | message4Again idle _ phase =>
      exact ⟨fun closed => absurd closed (open_ idle (by simp [phase])),
        fun request => absurd rfl request⟩
  | groupMessage1 idle _ phase =>
      exact ⟨fun closed => absurd closed (open_ idle (by simp [phase])),
        fun _ => .inr (Option.some_ne_none _)⟩
  | groupMessage2Again idle _ phase =>
      exact ⟨fun closed => absurd closed (open_ idle (by simp [phase])),
        fun request => absurd rfl request⟩

end Wpa2Supplicant

namespace Wpa2Supplicant

/-- A rejected installation fails the supplicant, whatever it was for. -/
theorem post_rejected (supplicant : Wpa2Supplicant) (request : Wpa2KeyInstallRequest) :
    Post (completeKeyInstall request false) supplicant (fun _ after => after = supplicant.failed) := by
  simp only [completeKeyInstall, post_bind]
  refine (acceptKeyCompletion_spec supplicant _ _ _ _).mono ?_
  intro r after outcome
  cases r with
  | error failure => exact outcome
  | ok digest => exact absurd outcome.2.2.1 (by simp)

theorem post_rejectedGroup (supplicant : Wpa2Supplicant) (request : Wpa2GroupKeyInstallRequest) :
    Post (completeGroupKeyInstall request false) supplicant
      (fun _ after => after = supplicant.failed) := by
  simp only [completeGroupKeyInstall, post_bind]
  refine (acceptKeyCompletion_spec supplicant _ _ _ _).mono ?_
  intro r after outcome
  cases r with
  | error failure => exact outcome
  | ok digest => exact absurd outcome.2.2.1 (by simp)

end Wpa2Supplicant

namespace KeySubmission

/-- The number of commands of its request that come before the submission. -/
def rank : KeySubmission → Nat
  | .pairwise | .rekeyGroup => 0
  | .initialGroup | .rekeyDefaultGroup => 1
  | .initialDefaultGroup => 2

/-- The firmware command of the submission. -/
def firmwareKey (submission : KeySubmission) (key : KeyConfig) : FirmwareKey :=
  if submission.isDefault then .default key else .new key

end KeySubmission

namespace Wpa2Runtime
variable {β ε α : Type} {rx tx : Nat} {crypto : Wpa2Crypto}

/-- The coordinator stores the request, and no other one. -/
inductive Holds (runtime : Wpa2Runtime) : KeyRequest → Prop where
  | pairwise {request} (pairwise : runtime.pairwiseInstall = some request)
      (group : runtime.groupInstall = none) : Holds runtime (.pairwise request)
  | group {request} (pairwise : runtime.pairwiseInstall = none)
      (group : runtime.groupInstall = some request) : Holds runtime (.group request)

/-- How many key commands of the request were sent when this status is awaited. -/
def keysSent : Wpa2RuntimeState → Option Nat
  | .awaitingPairwiseKeyStatus | .awaitingGroupRekeyStatus => some 1
  | .awaitingGroupKeyStatus | .awaitingDefaultGroupRekeyStatus => some 2
  | .awaitingDefaultGroupKeyStatus => some 3
  | _ => none

/-- The requests of the session against the key commands that firmware was given. -/
inductive Ledger (counted : Nat → Prop) (runtime : Wpa2Runtime) (requests : List KeyRequest)
    (delivered : List FirmwareKey) : Prop where
  | settled (whole : delivered = requests.flatMap KeyRequest.commands)
      (pairwise : runtime.pairwiseInstall = none) (group : runtime.groupInstall = none)
  | stored {earlier last count} (split : requests = earlier ++ [last])
      (upTo : UpTo KeyRequest.commands earlier last count delivered)
      (holds : runtime.Holds last) (closed : runtime.supplicant.Closed) (counts : counted count)
  | abandoned {earlier last count} (split : requests = earlier ++ [last])
      (upTo : UpTo KeyRequest.commands earlier last count delivered)
      (pairwise : runtime.pairwiseInstall = none) (group : runtime.groupInstall = none)
      (closed : runtime.supplicant.Closed)

section Entries
variable {counted other : Nat → Prop} {runtime next : Wpa2Runtime} {requests : List KeyRequest}
  {delivered : List FirmwareKey}

theorem Ledger.inParts (ledger : Ledger counted runtime requests delivered) :
    InParts KeyRequest.commands requests delivered := by
  cases ledger with
  | settled whole => exact inParts_whole whole
  | stored split upTo => exact split ▸ upTo.inParts
  | abandoned split upTo => exact split ▸ upTo.inParts

theorem Ledger.of_installs (ledger : Ledger counted runtime requests delivered)
    (same : next.installs = runtime.installs) (weaker : ∀ count, counted count → other count) :
    Ledger other next requests delivered := by
  simp only [installs, Prod.mk.injEq] at same
  obtain ⟨supplicant, pairwise, group⟩ := same
  cases ledger with
  | settled whole first second => exact .settled whole (pairwise.trans first) (group.trans second)
  | stored split upTo holds closed counts =>
      refine .stored split upTo ?_ (supplicant ▸ closed) (weaker _ counts)
      cases holds with
      | pairwise first second => exact .pairwise (pairwise.trans first) (group.trans second)
      | group first second => exact .group (pairwise.trans first) (group.trans second)
  | abandoned split upTo first second closed =>
      exact .abandoned split upTo (pairwise.trans first) (group.trans second) (supplicant ▸ closed)

/-- As long as the supplicant accepts requests, everything it asked for was delivered. -/
theorem Ledger.whole (ledger : Ledger counted runtime requests delivered)
    (open_ : ¬ runtime.supplicant.Closed) :
    delivered = requests.flatMap KeyRequest.commands ∧
      runtime.pairwiseInstall = none ∧ runtime.groupInstall = none := by
  cases ledger with
  | settled whole pairwise group => exact ⟨whole, pairwise, group⟩
  | stored _ _ _ closed => exact absurd closed open_
  | abandoned _ _ _ _ closed => exact absurd closed open_

end Entries

/-! ### The books of a run -/

/-- The session of the supplicant, the journal since `base` and the coordinator agree. -/
structure BookedBy (crypto : Wpa2Crypto) (Hears : Bytes → Prop) (first : Session) (base : List Crossing)
    (counted : Nat → Prop) (s : Wpa2System β rx tx) (session : Session) (added : List Crossing)
    (delivered : List FirmwareKey) : Prop where
  later : Session.Later crypto Hears first session
  supplicant : s.runtime.supplicant = session.supplicant
  journal : s.driver.device.journal = base ++ added
  told : KeysTold delivered added
  ledger : Ledger counted s.runtime session.keyRequests delivered

def Booked (crypto : Wpa2Crypto) (Hears : Bytes → Prop) (first : Session) (base : List Crossing) (counted : Nat → Prop)
    (s : Wpa2System β rx tx) : Prop :=
  ∃ session added delivered, BookedBy crypto Hears first base counted s session added delivered

/-- The number of commands that the state stands for, if it stands for one. -/
def Expected (state : Wpa2RuntimeState) (count : Nat) : Prop :=
  ∀ sent, keysSent state = some sent → sent = count

def Anything (_ : Nat) : Prop := True

section Books
variable {Hears : Bytes → Prop} {first : Session} {base added : List Crossing} {counted other : Nat → Prop}
  {s t : Wpa2System β rx tx}

theorem expected_of_quiet {state : Wpa2RuntimeState} (quiet : keysSent state = none) (count : Nat) :
    Expected state count := by
  intro sent same
  rw [quiet] at same
  cases same

/-- Nothing changed but the journal, which got no key command. -/
theorem Booked.onward (booked : Booked crypto Hears first base counted s)
    (installs : t.runtime.installs = s.runtime.installs)
    (journal : t.driver.device.journal = s.driver.device.journal ++ added)
    (quiet : ∀ crossing ∈ added, crossing.setsKey = false)
    (weaker : ∀ count, counted count → other count) : Booked crypto Hears first base other t := by
  obtain ⟨session, before, delivered, booked⟩ := booked
  refine ⟨session, before ++ added, delivered, booked.later, ?_, ?_, booked.told.append quiet,
    booked.ledger.of_installs installs weaker⟩
  · rw [show t.runtime.supplicant = s.runtime.supplicant from congrArg Prod.fst installs]
    exact booked.supplicant
  · rw [journal, booked.journal, List.append_assoc]

theorem Booked.same (booked : Booked crypto Hears first base counted s)
    (installs : t.runtime.installs = s.runtime.installs)
    (journal : t.driver.device.journal = s.driver.device.journal)
    (weaker : ∀ count, counted count → other count) : Booked crypto Hears first base other t :=
  booked.onward installs (journal.trans (List.append_nil _).symm) (by simp) weaker

theorem Booked.weaken (booked : Booked crypto Hears first base counted s) :
    Booked crypto Hears first base Anything s := booked.same rfl rfl fun _ _ => trivial

/-- A failure of the coordinator rejects the stored request, and closes the books. -/
theorem Booked.failed (booked : Booked crypto Hears first base counted s) :
    Booked crypto Hears first base other
      { runtime := s.runtime.failed, driver := s.driver.enterRecovery } := by
  obtain ⟨session, added, delivered, later, supplicant, journal, told, ledger⟩ := booked
  obtain ⟨noPairwise, noGroup⟩ := failed_requests s.runtime
  cases ledger with
  | settled whole pairwise group =>
      have kept := failed_supplicant pairwise group
      exact ⟨session, added, delivered, later, kept.trans supplicant, journal, told,
        .settled whole noPairwise noGroup⟩
  | abandoned split upTo pairwise group closed =>
      have kept := failed_supplicant pairwise group
      exact ⟨session, added, delivered, later, kept.trans supplicant, journal, told,
        .abandoned split upTo noPairwise noGroup (kept ▸ closed)⟩
  | stored split upTo holds closed counts =>
      cases holds with
      | @pairwise request pairwise group =>
          have rejected : s.runtime.failed.supplicant = s.runtime.supplicant.failed := by
            have ends := (Wpa2Supplicant.post_rejected s.runtime.supplicant request).ends
            simp [Wpa2Runtime.failed, rejectPairwiseInstall, rejectGroupInstall, pairwise, group,
              ends]
          have moved : (session.step crypto (.completeKeyInstall request false)).supplicant =
              s.runtime.supplicant.failed := by
            rw [supplicant]
            exact (Wpa2Supplicant.post_rejected session.supplicant request).ends
          refine ⟨session.step crypto (.completeKeyInstall request false), added, delivered,
            later.step trivial, rejected.trans moved.symm, journal, told,
            .abandoned split upTo noPairwise noGroup ?_⟩
          rw [rejected]
          exact Wpa2Supplicant.closed_failed _
      | @group request pairwise group =>
          have rejected : s.runtime.failed.supplicant = s.runtime.supplicant.failed := by
            have ends := (Wpa2Supplicant.post_rejectedGroup s.runtime.supplicant request).ends
            simp [Wpa2Runtime.failed, rejectPairwiseInstall, rejectGroupInstall, pairwise, group,
              ends]
          have moved : (session.step crypto (.completeGroupKeyInstall request false)).supplicant =
              s.runtime.supplicant.failed := by
            rw [supplicant]
            exact (Wpa2Supplicant.post_rejectedGroup session.supplicant request).ends
          refine ⟨session.step crypto (.completeGroupKeyInstall request false), added, delivered,
            later.step trivial, rejected.trans moved.symm, journal, told,
            .abandoned split upTo noPairwise noGroup ?_⟩
          rw [rejected]
          exact Wpa2Supplicant.closed_failed _

end Books

/-! ### Parts of a call -/

/-- The books stay in order; after an error the state says nothing about the count. -/
def Works (crypto : Wpa2Crypto) (Hears : Bytes → Prop) (first : Session) (base : List Crossing) (s : Wpa2System β rx tx)
    (x : Method β rx tx ε α) : Prop :=
  Post x s (fun r t => match r with
    | .ok _ => Booked crypto Hears first base (Expected t.runtime.state) t
    | .error _ => Booked crypto Hears first base Anything t)

section Parts
variable {Hears : Bytes → Prop} {first : Session} {base : List Crossing} {counted : Nat → Prop} {s : Wpa2System β rx tx}

theorem works_pure (booked : Booked crypto Hears first base (Expected s.runtime.state) s) (value : α) :
    Works crypto Hears first base s (pure value : Method β rx tx ε α) :=
  (post_pure _ _ _).mpr booked

theorem works_throw (booked : Booked crypto Hears first base counted s) (failure : Wpa2RuntimeError ε) :
    Works crypto Hears first base s (throw failure : Method β rx tx ε α) :=
  (post_throw _ _ _).mpr booked.weaken

theorem works_fail (booked : Booked crypto Hears first base counted s) (failure : Wpa2RuntimeError ε) :
    Works crypto Hears first base s (fail failure : Method β rx tx ε α) := by
  rw [Works, post_fail]
  exact booked.failed

theorem works_get {rest : Wpa2System β rx tx → Method β rx tx ε α}
    (works : Works crypto Hears first base s (rest s)) : Works crypto Hears first base s (get >>= rest) := by
  rw [Works, post_bind, post_get]
  exact works

theorem works_liftResult {γ : Type} {r : Except (Wpa2RuntimeError ε) γ}
    {rest : γ → Method β rx tx ε α} (booked : Booked crypto Hears first base counted s)
    (works : ∀ value, r = .ok value → Works crypto Hears first base s (rest value)) :
    Works crypto Hears first base s (liftResult r >>= rest) := by
  rw [Works, post_bind, post_liftResult]
  cases r with
  | error failure => exact booked.weaken
  | ok value => exact works value rfl

theorem works_enter {state : Wpa2RuntimeState} (booked : Booked crypto Hears first base counted s)
    (quiet : keysSent state = none) (value : α) :
    Works crypto Hears first base s (do enter state; return value : Method β rx tx ε α) := by
  rw [Works, post_bind, post_enter, post_pure]
  exact booked.same rfl rfl fun count _ => expected_of_quiet quiet count

theorem Works.orFail {x : Method β rx tx ε α} (works : Works crypto Hears first base s x) :
    Works crypto Hears first base s (orFail x) := by
  rw [Works, post_orFail]
  refine Post.mono works ?_
  intro r t booked
  cases r with
  | ok value => exact booked
  | error failure => exact booked.failed

/-! ### Submissions -/

theorem keysSent_nextState (submission : KeySubmission) :
    keysSent submission.nextState = some (submission.rank + 1) := by
  cases submission <;> rfl

/-- The key that is chosen is the next command of the stored request. -/
theorem chosen_command {runtime : Wpa2Runtime} {last : KeyRequest} {submission : KeySubmission}
    {key : KeyConfig} (holds : runtime.Holds last)
    (chosen : (runtime.submissionKey submission : Except (Wpa2RuntimeError ε) KeyConfig) = .ok key) :
    last.commands[submission.rank]? = some (submission.firmwareKey key) := by
  cases holds with
  | pairwise pairwise group =>
      cases submission <;> simp [submissionKey, pairwise, group] at chosen <;> rw [← chosen] <;> rfl
  | group pairwise group =>
      cases submission <;> simp [submissionKey, pairwise, group] at chosen <;> rw [← chosen] <;> rfl

/-- Without a stored request there is no key to choose. -/
theorem submissionKey_unstored {runtime : Wpa2Runtime} (pairwise : runtime.pairwiseInstall = none)
    (group : runtime.groupInstall = none) (submission : KeySubmission) :
    (runtime.submissionKey submission : Except (Wpa2RuntimeError ε) KeyConfig) =
      .error .missingInstallRequest := by
  cases submission <;> simp [submissionKey, pairwise, group]

variable [Bus β ε]

theorem tells_firmwareKey (submission : KeySubmission) (key : KeyConfig) (s : Wpa2System β rx tx) :
    Tells s (fun _ runtime added => runtime = s.runtime ∧
        Crossing.Submitted (submission.firmwareKey key).Asks added)
      (submitFirmwareKey key submission.isDefault : Method β rx tx ε Unit) := by
  rw [submitFirmwareKey, KeySubmission.firmwareKey]
  cases submission.isDefault with
  | true => exact tells_onSecurityParts (StationController.sends_defaultKey key) s
  | false => exact tells_onSecurityParts (StationController.sends_newKey key) s

/-- The next command of the stored request is sent once. -/
theorem works_submitKey {submission : KeySubmission}
    (booked : Booked crypto Hears first base (· = submission.rank) s) :
    Works crypto Hears first base s (submitKey submission : Method β rx tx ε Wpa2Progress) := by
  apply works_get
  apply works_liftResult booked
  intro key chosen
  obtain ⟨session, added, delivered, later, supplicant, journal, told, ledger⟩ := booked
  cases ledger with
  | settled whole pairwise group =>
      rw [submissionKey_unstored pairwise group] at chosen
      cases chosen
  | abandoned split upTo pairwise group closed =>
      rw [submissionKey_unstored pairwise group] at chosen
      cases chosen
  | @stored earlier last count split upTo holds closed counts =>
      rw [Works, post_bind]
      have kept : Keeps (fun system : Wpa2System β rx tx => system.runtime.installs)
          (submitFirmwareKey key submission.isDefault : Method β rx tx ε Unit) :=
        keeps_installs_onSecurityParts _
      refine ((tells_firmwareKey submission key s).and (kept.post s)).mono ?_
      rintro r t ⟨tells, installs⟩
      have same : t.runtime.supplicant = session.supplicant :=
        Eq.trans (congrArg Prod.fst installs) supplicant
      cases r with
      | error failure =>
          refine ⟨session, added, delivered, later, same, Eq.trans tells journal, told, ?_⟩
          exact Ledger.of_installs (.stored split upTo holds closed trivial) installs fun _ => id
      | ok done =>
          obtain ⟨new, ⟨runtime, submitted⟩, tells⟩ := tells
          have next : UpTo KeyRequest.commands earlier last (submission.rank + 1)
              (delivered ++ [submission.firmwareKey key]) :=
            UpTo.next (counts ▸ upTo) (chosen_command holds chosen)
          have counted : Expected submission.nextState (submission.rank + 1) := by
            intro sent stands
            rw [keysSent_nextState] at stands
            exact (Option.some.inj stands).symm
          have entered : Ledger (Expected submission.nextState)
              (t.runtime.transition submission.nextState) session.keyRequests
              (delivered ++ [submission.firmwareKey key]) :=
            Ledger.of_installs (.stored split next holds closed counted) installs fun _ => id
          dsimp only
          rw [post_bind, post_enter, post_pure]
          refine ⟨session, added ++ new, _, later, same, ?_, told.snoc submitted, entered⟩
          rw [tells, journal, List.append_assoc]

/-- A frame is no key command. -/
theorem works_submitEapol (booked : Booked crypto Hears first base counted s) (response : EapolTxFrame)
    (purpose : EapolTransmitPurpose) :
    Works crypto Hears first base s (submitEapol response purpose : Method β rx tx ε Wpa2Progress) := by
  refine ((tells_submitEapol response purpose s).and
    (((keeps_installs_submitEapol response purpose).post s).and
      (post_submitEapol response purpose s))).mono ?_
  rintro r t ⟨tells, installs, sent⟩
  cases r with
  | error failure => exact booked.same installs tells fun _ _ => trivial
  | ok progress =>
      obtain ⟨added, ⟨token, -, rfl⟩, tells⟩ := tells
      obtain ⟨token, -, sent⟩ := sent
      obtain ⟨frame, waits⟩ := sent.waits
      refine booked.onward installs tells (by simp [Crossing.setsKey]) fun count _ => ?_
      rw [waits]
      exact expected_of_quiet rfl count

/-! ### Installations -/

section Stored
variable {runtime : Wpa2Runtime} {requests : List KeyRequest} {delivered : List FirmwareKey}

omit [Bus β ε]

/-- A stored request is the last one of the session. -/
theorem Ledger.of_pairwise (ledger : Ledger counted runtime requests delivered)
    {request : Wpa2KeyInstallRequest} (stored : runtime.pairwiseInstall = some request) :
    ∃ earlier count, requests = earlier ++ [.pairwise request] ∧
      UpTo KeyRequest.commands earlier (.pairwise request) count delivered ∧ counted count ∧
      runtime.groupInstall = none := by
  cases ledger with
  | settled whole pairwise group => exact absurd (pairwise.symm.trans stored) (by simp)
  | abandoned split upTo pairwise group closed =>
      exact absurd (pairwise.symm.trans stored) (by simp)
  | @stored earlier other count split upTo holds closed counts =>
      cases holds with
      | pairwise pairwise group =>
          obtain rfl := Option.some.inj (pairwise.symm.trans stored)
          exact ⟨earlier, count, split, upTo, counts, group⟩
      | group pairwise group => exact absurd (pairwise.symm.trans stored) (by simp)

theorem Ledger.of_group (ledger : Ledger counted runtime requests delivered)
    {request : Wpa2GroupKeyInstallRequest} (stored : runtime.groupInstall = some request) :
    ∃ earlier count, requests = earlier ++ [.group request] ∧
      UpTo KeyRequest.commands earlier (.group request) count delivered ∧ counted count ∧
      runtime.pairwiseInstall = none := by
  cases ledger with
  | settled whole pairwise group => exact absurd (group.symm.trans stored) (by simp)
  | abandoned split upTo pairwise group closed => exact absurd (group.symm.trans stored) (by simp)
  | @stored earlier other count split upTo holds closed counts =>
      cases holds with
      | pairwise pairwise group => exact absurd (group.symm.trans stored) (by simp)
      | group pairwise group =>
          obtain rfl := Option.some.inj (group.symm.trans stored)
          exact ⟨earlier, count, split, upTo, counts, pairwise⟩

end Stored

omit [Bus β ε] in
/-- The keys are reported as installed after their last command. -/
theorem booked_finishKeyInstall {completion : KeyInstallCompletion}
    (booked : Booked crypto Hears first base (Expected (awaitedLast completion)) s) :
    Post (onRuntime (finishKeyInstall completion) : Method β rx tx ε EapolTxFrame) s
      (fun _ t => Booked crypto Hears first base Anything t) := by
  obtain ⟨session, added, delivered, later, supplicant, journal, told, ledger⟩ := booked
  rw [onRuntime, post_onField]
  cases completion with
  | initial =>
      rw [finishKeyInstall, post_bind, post_get]
      dsimp only
      cases stored : s.runtime.pairwiseInstall with
      | none =>
          exact (post_throw _ _ _).mpr ⟨session, added, delivered, later, supplicant, journal, told,
            ledger.of_installs rfl fun _ _ => trivial⟩
      | some request =>
          obtain ⟨earlier, count, split, upTo, counts, group⟩ := ledger.of_pairwise stored
          dsimp only
          rw [post_bind, post_modify]
          dsimp only
          rw [post_mapError, onSupplicant, post_onField]
          refine (post_self _ s.runtime.supplicant).mono ?_
          rintro _ _ ⟨-, rfl⟩
          have moved : (session.step crypto (.completeKeyInstall request true)).supplicant =
              stateAfter (Wpa2Supplicant.completeKeyInstall request true) s.runtime.supplicant := by
            rw [supplicant]
            rfl
          refine ⟨session.step crypto (.completeKeyInstall request true), added, delivered,
            later.step trivial, moved.symm, journal, told, ?_⟩
          exact .settled (split ▸ upTo.whole (Nat.le_of_eq (counts 3 rfl))) rfl group
  | rekey =>
      rw [finishKeyInstall, post_bind, post_get]
      dsimp only
      cases stored : s.runtime.groupInstall with
      | none =>
          exact (post_throw _ _ _).mpr ⟨session, added, delivered, later, supplicant, journal, told,
            ledger.of_installs rfl fun _ _ => trivial⟩
      | some request =>
          obtain ⟨earlier, count, split, upTo, counts, pairwise⟩ := ledger.of_group stored
          dsimp only
          rw [post_bind, post_modify]
          dsimp only
          rw [post_mapError, onSupplicant, post_onField]
          refine (post_self _ s.runtime.supplicant).mono ?_
          rintro _ _ ⟨-, rfl⟩
          have moved : (session.step crypto (.completeGroupKeyInstall request true)).supplicant =
              stateAfter (Wpa2Supplicant.completeGroupKeyInstall request true)
                s.runtime.supplicant := by
            rw [supplicant]
            rfl
          refine ⟨session.step crypto (.completeGroupKeyInstall request true), added, delivered,
            later.step trivial, moved.symm, journal, told, ?_⟩
          exact .settled (split ▸ upTo.whole (Nat.le_of_eq (counts 2 rfl))) pairwise rfl

/-! ### Calls -/

omit [Bus β ε] in
theorem keysSent_awaitedBefore {submission : KeySubmission} {state : Wpa2RuntimeState}
    (awaited : awaitedBefore submission = some state) : keysSent state = some submission.rank := by
  cases submission with
  | pairwise => cases awaited
  | rekeyGroup => cases awaited
  | initialGroup => exact Option.some.inj awaited ▸ rfl
  | initialDefaultGroup => exact Option.some.inj awaited ▸ rfl
  | rekeyDefaultGroup => exact Option.some.inj awaited ▸ rfl

theorem works_advanceKey (booked : Booked crypto Hears first base (Expected s.runtime.state) s)
    (command : UInt32) {submission : KeySubmission}
    (awaited : awaitedBefore submission = some s.runtime.state) :
    Works crypto Hears first base s (advanceKey command submission : Method β rx tx ε Wpa2Progress) := by
  apply works_liftResult booked
  intro _ _
  apply works_submitKey
  exact booked.same rfl rfl fun count expected =>
    (expected submission.rank (keysSent_awaitedBefore awaited)).symm

theorem works_completeKeyInstall (booked : Booked crypto Hears first base (Expected s.runtime.state) s)
    (command : UInt32) {completion : KeyInstallCompletion}
    (awaited : s.runtime.state = awaitedLast completion) :
    Works crypto Hears first base s
      (completeKeyInstall command completion : Method β rx tx ε Wpa2Progress) := by
  apply works_liftResult booked
  intro _ _
  rw [Works, post_bind]
  refine (booked_finishKeyInstall (awaited ▸ booked)).mono ?_
  intro r t settled
  cases r with
  | error failure => exact settled
  | ok response => exact works_submitEapol settled response completion.transmitPurpose

omit [Bus β ε] in
theorem works_handleAuthorizationStatus
    (booked : Booked crypto Hears first base (Expected s.runtime.state) s) (command : UInt32) :
    Works crypto Hears first base s
      (handleAuthorizationStatus command : Method β rx tx ε Wpa2Progress) := by
  apply works_liftResult booked
  intro _ _
  apply works_get
  rw [Works, post_ite]
  split
  · exact works_enter booked rfl _
  · exact works_enter booked rfl _

theorem works_dispatchCommandStatus
    (booked : Booked crypto Hears first base (Expected s.runtime.state) s) (command : UInt32) :
    Works crypto Hears first base s (dispatchCommandStatus command : Method β rx tx ε Wpa2Progress) := by
  have initial : Works crypto Hears first base s
      (handleInitialKeyStatus command : Method β rx tx ε Wpa2Progress) := by
    apply works_get
    cases state : s.runtime.state with
    | awaitingPairwiseKeyStatus => exact works_advanceKey booked command (congrArg some state.symm)
    | awaitingGroupKeyStatus => exact works_advanceKey booked command (congrArg some state.symm)
    | awaitingDefaultGroupKeyStatus => exact works_completeKeyInstall booked command state
    | _ => exact works_throw booked _
  have rekey : Works crypto Hears first base s
      (handleRekeyStatus command : Method β rx tx ε Wpa2Progress) := by
    apply works_get
    cases state : s.runtime.state with
    | awaitingGroupRekeyStatus => exact works_advanceKey booked command (congrArg some state.symm)
    | awaitingDefaultGroupRekeyStatus => exact works_completeKeyInstall booked command state
    | _ => exact works_throw booked _
  apply works_get
  cases s.runtime.state with
  | awaitingPairwiseKeyStatus => exact initial
  | awaitingGroupKeyStatus => exact initial
  | awaitingDefaultGroupKeyStatus => exact initial
  | awaitingAuthorizationStatus => exact works_handleAuthorizationStatus booked command
  | awaitingGroupRekeyStatus => exact rekey
  | awaitingDefaultGroupRekeyStatus => exact rekey
  | _ => exact works_throw booked _

omit [Bus β ε] in
theorem works_refreshCarrier (booked : Booked crypto Hears first base (Expected s.runtime.state) s) :
    Works crypto Hears first base s (refreshCarrier : Method β rx tx ε Wpa2Progress) := by
  apply works_get
  rw [Works, post_ite]
  split
  · exact works_enter booked rfl _
  · exact works_pure booked _

theorem works_onControlEvent (booked : Booked crypto Hears first base (Expected s.runtime.state) s)
    (event : ControlEvent) :
    Works crypto Hears first base s (onControlEvent event : Method β rx tx ε Wpa2Progress) := by
  cases event with
  | commandStatus header command status =>
      rw [onControlEvent, commandStatus]
      dsimp only
      rw [Works, post_ite]
      split
      · exact works_fail booked _
      · exact (works_dispatchCommandStatus booked command).orFail
  | _ => exact works_refreshCarrier booked

theorem works_dispatchTransmitPurpose
    (booked : Booked crypto Hears first base (Expected s.runtime.state) s) (purpose : EapolTransmitPurpose) :
    Works crypto Hears first base s
      (dispatchTransmitPurpose purpose : Method β rx tx ε Wpa2Progress) := by
  cases purpose with
  | message2 => exact works_enter booked rfl _
  | message4 =>
      rw [dispatchTransmitPurpose, authorizeAfterMessage4, Works, post_bind]
      refine ((tells_onSecurityParts StationController.sends_authorize s).and
        ((keeps_installs_onSecurityParts StationController.authorize).post s)).mono ?_
      rintro r t ⟨tells, installs⟩
      cases r with
      | error failure => exact booked.same installs tells fun _ _ => trivial
      | ok done =>
          obtain ⟨added, ⟨-, crossing, rfl, submits⟩, tells⟩ := tells
          have other : crossing.setsKey = false := by
            obtain ⟨request, wdevId, authorizes, limits, rfl⟩ := submits
            have found := StationMessage.commandIn_bytes limits wdevId
            cases request with
            | stationAuthorized peer authorized => simp [Crossing.setsKey, found, StationMessage.command]
            | _ => exact authorizes.elim
          have authorized : Booked crypto Hears first base Anything t :=
            booked.onward installs tells (by simp [other]) fun _ _ => trivial
          exact works_enter authorized rfl _
  | groupMessage2 =>
      rw [dispatchTransmitPurpose, completeGroupRekey, Works, post_bind, post_onField, post_modify]
      dsimp only
      rw [post_bind, post_get]
      dsimp only
      rw [post_ite]
      split
      · exact (post_throw _ _ _).mpr (booked.same rfl rfl fun _ _ => trivial)
      · have rekeyed : Booked crypto Hears first base Anything { s with
            driver := { s.driver with station := s.driver.station.completeGroupRekey } } :=
          booked.same rfl rfl fun _ _ => trivial
        exact works_enter rekeyed rfl _
  | retransmission => exact works_enter booked rfl _

theorem works_onTransmitDone (booked : Booked crypto Hears first base (Expected s.runtime.state) s)
    (event : TxDoneEvent) :
    Works crypto Hears first base s (onTransmitDone event : Method β rx tx ε Wpa2Progress) := by
  apply works_get
  rw [Works, post_bind, post_orFail, post_liftResult]
  cases (s.runtime.completedTransmit event : Except (Wpa2RuntimeError ε) _) with
  | error failure => exact booked.failed
  | ok completed =>
      cases completed with
      | none => exact works_pure booked _
      | some purpose => exact (works_dispatchTransmitPurpose booked purpose).orFail

omit [Bus β ε] in
theorem works_advanceTime (booked : Booked crypto Hears first base (Expected s.runtime.state) s)
    (elapsedMs : UInt32) :
    Works crypto Hears first base s (advanceTime elapsedMs : Method β rx tx ε Unit) := by
  apply works_get
  cases s.runtime.remainingMs with
  | none => exact works_pure booked _
  | some remaining =>
      dsimp only
      rw [Works, post_ite]
      split
      · rw [post_set]
        exact booked.same rfl rfl fun _ => id
      · exact works_fail booked _

/-! ### Frames -/

omit [Bus β ε] in
theorem validateEthernetFrame_payload {runtime : Wpa2Runtime} {frame payload : Bytes}
    (valid : (runtime.validateEthernetFrame frame : Except (Wpa2RuntimeError ε) Bytes) =
      .ok payload) : payload = frame.drop eapolEthernetHeaderLen := by
  rw [validateEthernetFrame, check_bind_eq_ok, check_bind_eq_ok] at valid
  exact (Except.ok.inj valid.2.2).symm

/-- A frame that asks for keys was accepted, and nothing of it is carried out. -/
structure Asked (crypto : Wpa2Crypto) (Hears : Bytes → Prop) (first : Session) (base : List Crossing)
    (last : KeyRequest) (s : Wpa2System β rx tx) : Prop where
  booked : Booked crypto Hears first base Anything s
  pairwise : s.runtime.pairwiseInstall = none
  group : s.runtime.groupInstall = none
  stored : ∀ runtime : Wpa2Runtime, runtime.supplicant = s.runtime.supplicant →
    runtime.Holds last → Booked crypto Hears first base (· = 0) { s with runtime }

omit [Bus β ε] in
/-- The books after a frame that the supplicant accepted. -/
theorem booked_accepted (booked : Booked crypto Hears first base (Expected s.runtime.state) s)
    {payload : Bytes} (heard : Hears payload) {action : Wpa2Action} {supplicant : Wpa2Supplicant} (digest : Octets 32)
    (effect : Wpa2Supplicant.EapolEffect crypto s.runtime.supplicant s.runtime.supplicant.peer
      payload action supplicant)
    (result : resultOf (Wpa2Supplicant.onEapol crypto s.runtime.supplicant.peer payload)
      s.runtime.supplicant = .ok action)
    (ended : stateAfter (Wpa2Supplicant.onEapol crypto s.runtime.supplicant.peer payload)
      s.runtime.supplicant = supplicant) :
    (action.keyRequest = none → Booked crypto Hears first base (Expected s.runtime.state)
        { s with runtime := s.runtime.heard supplicant digest }) ∧
      ∀ last, action.keyRequest = some last →
        Asked crypto Hears first base last { s with runtime := s.runtime.heard supplicant digest } := by
  obtain ⟨session, added, delivered, later, same, journal, told, ledger⟩ := booked
  obtain ⟨_, frame, _, effect⟩ := effect
  obtain ⟨stays, closes⟩ := Wpa2Supplicant.frame_closed effect
  rw [same] at result ended
  have stepped : session.step crypto (.onEapol session.supplicant.peer payload) =
      { session with
        supplicant
        accepted := session.accepted ++ [⟨payload, action⟩] } := by
    simp only [Session.step, Wpa2Supplicant.step, ended, result, Session.acceptedBy]
  have next : Session.Later crypto Hears first
      { session with supplicant, accepted := session.accepted ++ [⟨payload, action⟩] } :=
    stepped ▸ later.step heard
  have requests := session.keyRequests_accept supplicant payload action
  constructor
  · intro quiet
    rw [quiet, Option.toList_none, List.append_nil] at requests
    refine ⟨_, added, delivered, next, rfl, journal, told, requests ▸ ?_⟩
    cases ledger with
    | settled whole pairwise group => exact .settled whole pairwise group
    | stored split upTo holds closed counts =>
        have kept := (stays closed).1
        refine Ledger.of_installs (.stored split upTo holds closed counts) ?_ fun _ => id
        rw [kept]
        rfl
    | abandoned split upTo pairwise group closed =>
        exact .abandoned split upTo pairwise group ((stays closed).1 ▸ closed)
  · intro last asks
    rw [asks, Option.toList_some] at requests
    have open_ : ¬ s.runtime.supplicant.Closed := by
      intro closed
      rw [(stays closed).2] at asks
      cases asks
    obtain ⟨whole, pairwise, group⟩ := ledger.whole open_
    have closed : supplicant.Closed := closes (by simp [asks])
    refine ⟨?_, pairwise, group, ?_⟩
    · exact ⟨_, added, delivered, next, rfl, journal, told,
        .abandoned requests (upTo_zero whole last) pairwise group closed⟩
    · intro runtime kept holds
      exact ⟨_, added, delivered, next, kept, journal, told,
        .stored requests (upTo_zero whole last) holds (kept ▸ closed) rfl⟩

omit [Bus β ε] in
/-- A payload that fails the supplicant is not recorded. -/
theorem booked_refused (booked : Booked crypto Hears first base (Expected s.runtime.state) s)
    {payload : Bytes} (heard : Hears payload) {failure : Wpa2Error}
    (result : resultOf (Wpa2Supplicant.onEapol crypto s.runtime.supplicant.peer payload)
      s.runtime.supplicant = .error failure)
    (ended : stateAfter (Wpa2Supplicant.onEapol crypto s.runtime.supplicant.peer payload)
      s.runtime.supplicant = s.runtime.supplicant.failed) :
    Booked crypto Hears first base Anything
      { s with runtime := { s.runtime with supplicant := s.runtime.supplicant.failed } } := by
  obtain ⟨session, added, delivered, later, same, journal, told, ledger⟩ := booked
  rw [same] at result ended
  have stepped : session.step crypto (.onEapol session.supplicant.peer payload) =
      { session with supplicant := session.supplicant.failed } := by
    simp only [Session.step, Wpa2Supplicant.step, ended, result, Session.acceptedBy,
      List.append_nil]
  have moved : Session.Later crypto Hears first
      (session.step crypto (.onEapol session.supplicant.peer payload)) := later.step heard
  rw [stepped] at moved
  refine ⟨_, added, delivered, moved, by rw [same], journal, told, ?_⟩
  cases ledger with
  | settled whole pairwise group => exact .settled whole pairwise group
  | stored split upTo holds closed counts =>
      refine .stored split upTo ?_ (Wpa2Supplicant.closed_failed _) trivial
      cases holds with
      | pairwise pairwise group => exact .pairwise pairwise group
      | group pairwise group => exact .group pairwise group
  | abandoned split upTo pairwise group closed =>
      exact .abandoned split upTo pairwise group (Wpa2Supplicant.closed_failed _)

theorem works_dispatchWpa2Action {runtime : Wpa2Runtime} {driver : NativeDriver β rx tx}
    {action : Wpa2Action}
    (quiet : action.keyRequest = none →
      Booked crypto Hears first base (Expected runtime.state) { runtime, driver })
    (asked : ∀ last, action.keyRequest = some last →
      Asked crypto Hears first base last { runtime, driver }) (wasComplete : Bool) :
    Works crypto Hears first base { runtime, driver }
      (dispatchWpa2Action action wasComplete : Method β rx tx ε Wpa2Progress) := by
  cases action with
  | none => exact works_pure (quiet rfl) _
  | transmit response => exact works_submitEapol (quiet rfl) response _
  | installKeys request =>
      have asked := asked _ rfl
      rw [dispatchWpa2Action, beginPairwiseInstall]
      apply works_get
      rw [Works, post_ite]
      split
      · exact works_throw asked.booked _
      · rw [post_bind, onRuntime, post_onField, post_modify]
        apply works_submitKey
        exact asked.stored _ rfl (.pairwise rfl asked.group)
  | installGroupKey request =>
      have asked := asked _ rfl
      rw [dispatchWpa2Action, beginGroupInstall]
      apply works_get
      rw [Works, post_ite]
      split
      · exact works_throw asked.booked _
      · rw [post_bind, onRuntime, post_onField, post_modify]
        apply works_submitKey
        exact asked.stored _ rfl (.group asked.pairwise rfl)

theorem works_onEthernetFrame (booked : Booked crypto Hears first base (Expected s.runtime.state) s)
    {frame : Bytes} (heard : Hears (frame.drop eapolEthernetHeaderLen)) :
    Works crypto Hears first base s
      (onEthernetFrame crypto frame : Method β rx tx ε Wpa2Progress) := by
  cases valid : (s.runtime.validateEthernetFrame frame : Except (Wpa2RuntimeError ε) Bytes) with
  | error failure =>
      apply works_get
      rw [Works, post_bind, post_orFail, post_liftResult, valid]
      exact booked.failed
  | ok payload =>
      cases busy : s.runtime.hasPendingRadioOperation with
      | true =>
          apply works_get
          rw [Works, post_bind, post_orFail, post_liftResult, valid]
          dsimp only
          rw [post_bind, post_orFail, post_liftResult, pendingInput, if_neg (by simp [busy])]
          by_cases again : s.runtime.lastInputDigest = some (crypto.sha256 payload)
          · rw [if_pos again]
            exact works_pure booked _
          · rw [if_neg again]
            exact booked.failed
      | false =>
          rw [← validateEthernetFrame_payload valid] at heard
          rw [Works, post_onEthernetFrame valid busy]
          have handled := Wpa2Supplicant.onEapol_handled crypto s.runtime.supplicant
            s.runtime.supplicant.peer payload
          refine (handled.and (post_self _ _)).mono ?_
          rintro r supplicant ⟨outcome, result, ended⟩
          cases outcome with
          | refused failure => exact booked.failed
          | failed failure => exact (booked_refused booked heard result.symm ended.symm).failed
          | accepted effect =>
              obtain ⟨quiet, asked⟩ := booked_accepted booked heard _ effect result.symm
                ended.symm
              exact (works_dispatchWpa2Action quiet asked _).orFail

/-- Every call of the coordinator keeps the books. -/
theorem perform_booked (booked : Booked crypto Hears first base (Expected s.runtime.state) s)
    {call : Wpa2Call} (heard : call.Within Hears) :
    Post (perform crypto call : Method β rx tx ε Wpa2Progress) s
      (fun _ t => Booked crypto Hears first base (Expected t.runtime.state) t) := by
  have works : Works crypto Hears first base s
      (perform crypto call : Method β rx tx ε Wpa2Progress) := by
    cases call with
    | ethernetFrame frame => exact works_onEthernetFrame booked heard
    | controlEvent event => exact works_onControlEvent booked event
    | transmitDone event => exact works_onTransmitDone booked event
    | refreshCarrier => exact works_refreshCarrier booked
    | advanceTime elapsedMs =>
        rw [perform, Works, post_bind]
        refine Post.mono (works_advanceTime booked elapsedMs) ?_
        intro r t kept
        cases r with
        | error failure => exact kept
        | ok done => exact works_pure kept _
  refine (Post.and works (perform_outcome crypto call s)).mono ?_
  rintro r t ⟨kept, outcome⟩
  cases outcome with
  | failed u failure => exact kept.same rfl rfl fun count _ => expected_of_quiet rfl count
  | advanced advance => exact kept

end Parts

end Wpa2Runtime

end Nrf7002
