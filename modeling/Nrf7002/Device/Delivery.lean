import Nrf7002.Data.Gate
import Nrf7002.Trace

/-! # Delivery of commands

What the bus sees of one `send_control` or `send_control_with_wait`: a delivered
command is its fragments, each written to a command buffer that was just taken from
the queue, enqueued once and announced by one trigger.  A refused command took no
buffer, and an uncertain one closes the device until it is reset or initialised. -/

set_option autoImplicit false

namespace Nrf7002
open Foundation

namespace Device
variable {β ε α : Type}

def transfers (device : Device (Traced β)) : List Transfer := device.rpu.transfers

/-- What a send may not change on its way. -/
structure Quiet (device next : Device β) : Prop where
  counter : next.commandCounter = device.commandCounter
  flag : next.recoveryRequired = device.recoveryRequired

theorem Quiet.trans {first second third : Device β} (one : Quiet first second)
    (two : Quiet second third) : Quiet first third :=
  ⟨two.counter.trans one.counter, two.flag.trans one.flag⟩

/-- A failure inside `orUncertain` closes the device. -/
theorem post_orUncertain (x : Program (Device β) (DeviceError ε) α) (device : Device β)
    (Q : Except (DeviceError ε) α → Device β → Prop) :
    Post (orUncertain x) device Q ↔ Post x device fun r next =>
      match r with
      | .ok value => Q (.ok value) next
      | .error _ => Q (.error .commandDeliveryUncertain) { next with recoveryRequired := true } := by
  rw [orUncertain, post_bind, post_attempt]
  refine Post.congr (post_true x device) ?_
  rintro r next -
  cases r with
  | ok value => exact post_pure _ _ _
  | error failure =>
      dsimp only
      rw [markDeliveryUncertain, post_bind, post_modify]
      exact post_throw _ _ _

variable [Bus β ε]

/-! ## Taking a command buffer -/

/-- The two transfers that take `address` from a queue: the poll and the pop. -/
def Takes (queue : Hpq) (address : UInt32) (added : List Transfer) : Prop :=
  ∃ poll pop : Transfer, added = [poll, pop] ∧ poll.ReadsWord queue.dequeueAddress address ∧
    pop.WritesWord queue.dequeueAddress address

/-- Polls that found the queue empty. -/
def EmptyPolls (queue : Hpq) (added : List Transfer) : Prop :=
  ∀ poll ∈ added, poll.ReadsWord queue.dequeueAddress 0

theorem post_dequeue (queue : Hpq) (device : Device (Traced β)) :
    Post (dequeue queue) device (fun r next => Quiet device next ∧
      match r with
      | .ok none => ∃ polls, EmptyPolls queue polls ∧ next.transfers = device.transfers ++ polls
      | .ok (some address) => ∃ taken, Takes queue address taken ∧
          next.transfers = device.transfers ++ taken
      | .error _ => True) := by
  rw [dequeue, post_bind, perform, post_modify]
  dsimp only
  rw [post_bind, onRpu, post_onField, post_mapError]
  refine (Rpu.post_readRegister queue.dequeueAddress device.rpu).mono ?_
  intro r polled reads
  cases r with
  | error failure => exact ⟨⟨rfl, rfl⟩, trivial⟩
  | ok value =>
      obtain ⟨poll, read, added⟩ := reads value rfl
      dsimp only [Except.mapError]
      rw [post_ite]
      by_cases empty : value = 0
      · rw [if_pos empty, post_pure]
        refine ⟨⟨rfl, rfl⟩, [poll], ?_, added⟩
        intro transfer member
        obtain rfl := List.mem_singleton.mp member
        exact empty ▸ read
      · rw [if_neg empty, post_ite]
        by_cases sentinel : value = 0xaaaaaaaa
        · rw [if_pos sentinel, post_bind, post_throw]
          exact ⟨⟨rfl, rfl⟩, trivial⟩
        · rw [if_neg sentinel, post_bind, onRpu, post_onField, post_mapError]
          refine (Rpu.post_writeRegister queue.dequeueAddress value polled).mono ?_
          intro r popped writes
          cases r with
          | error failure => exact ⟨⟨rfl, rfl⟩, trivial⟩
          | ok done =>
              obtain ⟨pop, written, more⟩ := writes rfl
              refine (post_pure _ _ _).mpr ⟨⟨rfl, rfl⟩, [poll, pop], ⟨poll, pop, rfl, read, written⟩, ?_⟩
              change popped.transfers = _
              rw [more, added, List.append_assoc]
              rfl

/-- How a wait for a command buffer ends. -/
inductive BufferWait (queue : Hpq) (postedAny : Bool) (device : Device (Traced β)) :
    Except (DeviceError ε) UInt32 → Device (Traced β) → Prop
  | taken (address : UInt32) (polls taken : List Transfer) (next : Device (Traced β))
      (quiet : Quiet device next) (empty : EmptyPolls queue polls)
      (takes : Takes queue address taken)
      (added : next.transfers = device.transfers ++ (polls ++ taken)) :
      BufferWait queue postedAny device (.ok address) next
  | timeout (failure : DeviceError ε) (polls : List Transfer) (next : Device (Traced β))
      (certain : failure ≠ .commandDeliveryUncertain) (first : postedAny = false)
      (quiet : Quiet device next) (empty : EmptyPolls queue polls)
      (added : next.transfers = device.transfers ++ polls) :
      BufferWait queue postedAny device (.error failure) next
  | uncertain (next : Device (Traced β)) (required : next.recoveryRequired = true) :
      BufferWait queue postedAny device (.error .commandDeliveryUncertain) next

omit [Bus β ε] in
/-- A wait that goes on after an empty poll. -/
theorem BufferWait.after_polls {queue : Hpq} {postedAny : Bool}
    {device polled next : Device (Traced β)} {r : Except (DeviceError ε) UInt32}
    {polls : List Transfer} (quiet : Quiet device polled) (empty : EmptyPolls queue polls)
    (added : polled.transfers = device.transfers ++ polls)
    (wait : BufferWait queue postedAny polled r next) :
    BufferWait queue postedAny device r next := by
  have both (more : List Transfer) (later : EmptyPolls queue more) :
      EmptyPolls queue (polls ++ more) := by
    intro poll member
    rcases List.mem_append.mp member with early | late
    · exact empty poll early
    · exact later poll late
  cases wait with
  | taken address more taken next still none takes listed =>
      refine .taken address (polls ++ more) taken next (quiet.trans still) (both more none) takes ?_
      rw [listed, added]
      simp only [List.append_assoc]
  | timeout failure more next certain first still none listed =>
      refine .timeout failure (polls ++ more) next certain first (quiet.trans still) (both more none) ?_
      rw [listed, added, List.append_assoc]
  | uncertain next required => exact .uncertain next required

theorem post_waitForCommandBuffer (queue : Hpq) (postedAny : Bool) (attempts : Nat)
    (device : Device (Traced β)) :
    Post (waitForCommandBuffer queue postedAny attempts) device
      (BufferWait queue postedAny device) := by
  induction attempts generalizing device with
  | zero =>
      rw [waitForCommandBuffer, commandWaitTimeout, post_ite]
      by_cases posted : postedAny = true
      · rw [if_pos posted, markDeliveryUncertain, post_bind, post_modify]
        exact (post_throw _ _ _).mpr (.uncertain _ rfl)
      · rw [if_neg posted, post_throw]
        exact .timeout _ [] device (by simp) (by simpa using posted) ⟨rfl, rfl⟩
          (fun _ impossible => by simp at impossible) (List.append_nil _).symm
  | succ attempts hypothesis =>
      rw [waitForCommandBuffer, post_bind, post_orUncertain]
      refine (post_dequeue queue device).mono ?_
      rintro r polled ⟨quiet, outcome⟩
      cases r with
      | error failure => exact .uncertain _ rfl
      | ok taken =>
          cases taken with
          | none =>
              obtain ⟨polls, empty, added⟩ := outcome
              refine (hypothesis polled).mono ?_
              exact fun _ _ wait => wait.after_polls quiet empty added
          | some address =>
              obtain ⟨taken, takes, added⟩ := outcome
              exact (post_pure _ _ _).mpr (.taken address [] taken polled quiet
                (fun _ impossible => by simp at impossible) takes added)

theorem post_takeCommandBuffer (queue : Hpq) (device : Device (Traced β)) :
    Post (takeCommandBuffer queue) device (BufferWait queue false device) := by
  rw [takeCommandBuffer, post_bind, post_orUncertain]
  refine (post_dequeue queue device).mono ?_
  rintro r polled ⟨quiet, outcome⟩
  cases r with
  | error failure => exact .uncertain _ rfl
  | ok taken =>
      cases taken with
      | none =>
          obtain ⟨polls, empty, added⟩ := outcome
          exact (post_throw _ _ _).mpr (.timeout _ polls polled (by simp) rfl quiet empty added)
      | some address =>
          obtain ⟨taken, takes, added⟩ := outcome
          exact (post_pure _ _ _).mpr (.taken address [] taken polled quiet
            (fun _ impossible => by simp at impossible) takes added)

/-! ## Posting fragments -/

/-- The transfers that deliver the fragments in order, one command buffer for each: polls
that found the queue empty, the poll and the pop that took the buffer, the fragment written
into it, one enqueue of the buffer and one trigger. -/
inductive Posted (queues : HpqmInfo) : UInt32 → List Bytes → List Transfer → Prop
  | nil (counter : UInt32) : Posted queues counter [] []
  | cons (counter address : UInt32) (fragment : Bytes) (rest : List Bytes)
      (polls taken writes : List Transfer) (enqueued triggered : Transfer) (later : List Transfer)
      (empty : EmptyPolls queues.commandAvailable polls)
      (takes : Takes queues.commandAvailable address taken)
      (written : List.Forall₂ (Carries .umac address) (writePieces fragment) writes)
      (accepted : ∀ transfer ∈ writes, transfer.accepted = true)
      (enqueue : enqueued.WritesWord queues.commandBusy.enqueueAddress address)
      (trigger : triggered.WritesWord rpuRegIntToMcuCtrl (counter ||| 0x7fff0000))
      (others : Posted queues (counter + 1) rest later) :
      Posted queues counter (fragment :: rest)
        (polls ++ (taken ++ (writes ++ (enqueued :: triggered :: later))))

/-- The transfers that deliver one fragment to a buffer already taken. -/
structure FragmentPosted (queues : HpqmInfo) (address : UInt32) (fragment : Bytes)
    (device next : Device (Traced β)) : Prop where
  intro ::
  flag : next.recoveryRequired = device.recoveryRequired
  counter : next.commandCounter = device.commandCounter + 1
  transfers : ∃ writes enqueued triggered,
    next.transfers = device.transfers ++ (writes ++ [enqueued, triggered]) ∧
    List.Forall₂ (Carries .umac address) (writePieces fragment) writes ∧
    (∀ transfer ∈ writes, transfer.accepted = true) ∧
    enqueued.WritesWord queues.commandBusy.enqueueAddress address ∧
    triggered.WritesWord rpuRegIntToMcuCtrl (device.commandCounter ||| 0x7fff0000)

theorem post_enqueue_transfers (queue : Hpq) (value : UInt32) (device : Device (Traced β)) :
    Post (enqueue queue value) device (fun r next => Quiet device next ∧ (r = .ok () →
      ∃ transfer : Transfer, transfer.WritesWord queue.enqueueAddress value ∧
        next.transfers = device.transfers ++ [transfer])) := by
  rw [enqueue, post_bind, perform, post_modify]
  dsimp only
  rw [onRpu, post_onField, post_mapError]
  refine (Rpu.post_writeRegister queue.enqueueAddress value device.rpu).mono ?_
  intro r written writes
  cases r with
  | error failure => exact ⟨⟨rfl, rfl⟩, fun impossible => absurd impossible (by simp [Except.mapError])⟩
  | ok done => exact ⟨⟨rfl, rfl⟩, fun _ => writes rfl⟩

theorem post_triggerCommand_transfers (device : Device (Traced β)) :
    Post (triggerCommand : Program (Device (Traced β)) (DeviceError ε) Unit) device
      (fun r next => next.recoveryRequired = device.recoveryRequired ∧ (r = .ok () →
        next.commandCounter = device.commandCounter + 1 ∧
        ∃ transfer : Transfer,
          transfer.WritesWord rpuRegIntToMcuCtrl (device.commandCounter ||| 0x7fff0000) ∧
            next.transfers = device.transfers ++ [transfer])) := by
  rw [triggerCommand, post_bind, perform, post_modify]
  dsimp only
  rw [post_bind, post_get]
  dsimp only
  rw [post_bind, onRpu, post_onField, post_mapError]
  refine (Rpu.post_writeRegister rpuRegIntToMcuCtrl (device.commandCounter ||| 0x7fff0000)
    device.rpu).mono ?_
  intro r written writes
  cases r with
  | error failure => exact ⟨rfl, fun impossible => absurd impossible (by simp)⟩
  | ok done => exact (post_modify _ _ _).mpr ⟨rfl, fun _ => ⟨rfl, writes rfl⟩⟩

theorem post_postControlFragment (queues : HpqmInfo) (address : UInt32) (fragment : Bytes)
    (device : Device (Traced β)) :
    Post (postControlFragment queues address fragment) device (fun r next =>
      match r with
      | .ok _ => FragmentPosted queues address fragment device next
      | .error failure => failure = .commandDeliveryUncertain ∧ next.recoveryRequired = true) := by
  rw [postControlFragment, post_bind, post_orUncertain, onRpu, post_onField, post_mapError]
  refine (Rpu.post_write .umac address fragment device.rpu).mono ?_
  rintro r stored ⟨writes, wrote, moved⟩
  cases r with
  | error failure => exact ⟨rfl, rfl⟩
  | ok done =>
      obtain ⟨carried, accepted⟩ := moved.complete rfl
      dsimp only [Except.mapError]
      rw [post_bind, post_orUncertain]
      refine (post_enqueue_transfers queues.commandBusy address { device with rpu := stored }).mono ?_
      rintro r queued ⟨quiet, enqueues⟩
      cases r with
      | error failure => exact ⟨rfl, rfl⟩
      | ok done =>
          obtain ⟨enqueued, enqueue, added⟩ := enqueues rfl
          dsimp only
          rw [post_orUncertain]
          refine (post_triggerCommand_transfers queued).mono ?_
          rintro r next ⟨flag, triggers⟩
          cases r with
          | error failure => exact ⟨rfl, rfl⟩
          | ok done =>
              obtain ⟨counter, triggered, trigger, more⟩ := triggers rfl
              rw [quiet.counter] at counter trigger
              refine ⟨flag.trans quiet.flag, counter, writes, enqueued, triggered, ?_, carried,
                accepted, enqueue, trigger⟩
              have first : transfers { device with rpu := stored } = device.transfers ++ writes := wrote
              rw [more, added, first]
              simp only [List.append_assoc, List.singleton_append]

/-- How a command ends. -/
inductive Delivery (device : Device (Traced β)) (message : Bytes) :
    Except (DeviceError ε) Unit → Device (Traced β) → Prop
  | delivered (queues : HpqmInfo) (fragments : List Bytes) (added : List Transfer)
      (next : Device (Traced β)) (known : device.queues = some queues)
      (whole : fragments.flatten = message) (flag : next.recoveryRequired = device.recoveryRequired)
      (posted : Posted queues device.commandCounter fragments added)
      (transfers : next.transfers = device.transfers ++ added) :
      Delivery device message (.ok ()) next
  | refused (failure : DeviceError ε) (polls : List Transfer) (next : Device (Traced β))
      (certain : failure ≠ .commandDeliveryUncertain)
      (flag : next.recoveryRequired = device.recoveryRequired)
      (empty : ∀ poll ∈ polls, ∃ queues, device.queues = some queues ∧
        poll.ReadsWord queues.commandAvailable.dequeueAddress 0)
      (transfers : next.transfers = device.transfers ++ polls) :
      Delivery device message (.error failure) next
  | uncertain (next : Device (Traced β)) (required : next.recoveryRequired = true) :
      Delivery device message (.error .commandDeliveryUncertain) next

/-- How the fragments that are left of a command end. -/
inductive RestDelivery (queues : HpqmInfo) (postedAny : Bool) (fragments : List Bytes)
    (device : Device (Traced β)) : Except (DeviceError ε) Unit → Device (Traced β) → Prop
  | delivered (added : List Transfer) (next : Device (Traced β))
      (flag : next.recoveryRequired = device.recoveryRequired)
      (posted : Posted queues device.commandCounter fragments added)
      (transfers : next.transfers = device.transfers ++ added) :
      RestDelivery queues postedAny fragments device (.ok ()) next
  | timeout (failure : DeviceError ε) (polls : List Transfer) (next : Device (Traced β))
      (certain : failure ≠ .commandDeliveryUncertain) (first : postedAny = false)
      (flag : next.recoveryRequired = device.recoveryRequired)
      (empty : EmptyPolls queues.commandAvailable polls)
      (transfers : next.transfers = device.transfers ++ polls) :
      RestDelivery queues postedAny fragments device (.error failure) next
  | uncertain (next : Device (Traced β)) (required : next.recoveryRequired = true) :
      RestDelivery queues postedAny fragments device (.error .commandDeliveryUncertain) next

/-- A buffer is taken and one fragment posted, before the others. -/
theorem posted_cons {queues : HpqmInfo} {address : UInt32} {fragment : Bytes} {rest : List Bytes}
    {polls taken later : List Transfer} {device waiting posted next : Device (Traced β)}
    (quiet : Quiet device waiting) (empty : EmptyPolls queues.commandAvailable polls)
    (takes : Takes queues.commandAvailable address taken)
    (waited : waiting.transfers = device.transfers ++ (polls ++ taken))
    (one : FragmentPosted queues address fragment waiting posted)
    (others : Posted queues posted.commandCounter rest later)
    (transfers : next.transfers = posted.transfers ++ later) :
    ∃ added, Posted queues device.commandCounter (fragment :: rest) added ∧
      next.transfers = device.transfers ++ added := by
  obtain ⟨_, counter, writes, enqueued, triggered, wrote, carried, accepted, enqueue, trigger⟩ := one
  rw [quiet.counter] at counter trigger
  rw [counter] at others
  refine ⟨_, .cons _ address fragment rest polls taken writes enqueued triggered later empty takes
    carried accepted enqueue trigger others, ?_⟩
  rw [transfers, wrote, waited]
  simp only [List.append_assoc, List.cons_append, List.nil_append]

theorem post_sendFragmentsWithWait (queues : HpqmInfo) (attempts : Nat) (fragments : List Bytes)
    (postedAny : Bool) (device : Device (Traced β)) :
    Post (sendFragmentsWithWait queues attempts fragments postedAny) device
      (RestDelivery queues postedAny fragments device) := by
  induction fragments generalizing postedAny device with
  | nil =>
      rw [sendFragmentsWithWait, post_pure]
      exact .delivered [] device rfl (.nil _) (List.append_nil _).symm
  | cons fragment rest hypothesis =>
      rw [sendFragmentsWithWait, post_bind]
      refine (post_waitForCommandBuffer queues.commandAvailable postedAny attempts device).mono ?_
      intro r waiting wait
      cases wait with
      | timeout failure polls waiting certain first quiet empty added =>
          exact .timeout failure polls waiting certain first quiet.flag empty added
      | uncertain waiting required => exact .uncertain waiting required
      | taken address polls taken waiting quiet empty takes waited =>
          dsimp only
          rw [post_bind]
          refine (post_postControlFragment queues address fragment waiting).mono ?_
          intro r posted outcome
          cases r with
          | error failure =>
              obtain ⟨rfl, required⟩ := outcome
              exact .uncertain posted required
          | ok done =>
              refine (hypothesis true posted).mono ?_
              intro r next others
              cases others with
              | delivered later next flag all transfers =>
                  obtain ⟨added, whole, listed⟩ :=
                    posted_cons quiet empty takes waited outcome all transfers
                  exact .delivered added next (flag.trans (outcome.flag.trans quiet.flag)) whole listed
              | timeout failure polls next certain first => cases first
              | uncertain next required => exact .uncertain next required

/-! ## Whole commands -/

omit [Bus β ε] in
theorem validateCompleteMessage_eq_error {message : Bytes} {failure : DeviceError ε}
    (refused : (validateCompleteMessage message : Except (DeviceError ε) Unit) = .error failure) :
    failure = .protocol .invalidLength := by
  rw [validateCompleteMessage] at refused
  split at refused
  · exact (Except.error.inj refused).symm
  · split at refused
    · exact (Except.error.inj refused).symm
    · cases refused

omit [Bus β ε] in
/-- A command that stops before the first poll. -/
theorem Delivery.unstarted {device : Device (Traced β)} {message : Bytes} {failure : DeviceError ε}
    (certain : failure ≠ .commandDeliveryUncertain) :
    Delivery device message (.error failure) device :=
  .refused failure [] device certain rfl (fun _ impossible => by simp at impossible)
    (List.append_nil _).symm

theorem post_sendControl (message : Bytes) (device : Device (Traced β)) :
    Post (sendControl message) device (Delivery device message) := by
  rw [sendControl, post_bind, post_liftResult]
  cases valid : (validateCompleteMessage message : Except (DeviceError ε) Unit) with
  | error failure =>
      obtain rfl := validateCompleteMessage_eq_error valid
      exact .unstarted (by simp)
  | ok done =>
      dsimp only
      rw [post_bind, ensureOperational, post_bind, post_get]
      dsimp only
      rw [post_ite]
      by_cases required : device.recoveryRequired = true
      · rw [if_pos required, post_throw]
        exact .unstarted (by simp)
      · rw [if_neg required, post_pure]
        dsimp only
        rw [post_bind, post_get]
        dsimp only
        rw [post_ite]
        by_cases long : device.commandFragmentLen.1 < message.length
        · rw [if_pos long, post_bind, post_throw]
          exact .unstarted (by simp)
        · rw [if_neg long, post_bind, requireQueues, post_bind, post_get]
          dsimp only
          cases known : device.queues with
          | none => exact (post_throw _ _ _).mpr (.unstarted (by simp))
          | some queues =>
              rw [post_pure]
              dsimp only
              rw [post_bind]
              refine (post_takeCommandBuffer queues.commandAvailable device).mono ?_
              intro r waiting wait
              cases wait with
              | timeout failure polls waiting certain first quiet empty added =>
                  exact .refused failure polls waiting certain quiet.flag
                    (fun poll member => ⟨queues, known, empty poll member⟩) added
              | uncertain waiting needed => exact .uncertain waiting needed
              | taken address polls taken waiting quiet empty takes waited =>
                  dsimp only
                  rw [post_bind]
                  refine (post_postControlFragment queues address message waiting).mono ?_
                  intro r posted outcome
                  cases r with
                  | error failure =>
                      obtain ⟨rfl, needed⟩ := outcome
                      exact .uncertain posted needed
                  | ok done =>
                      obtain ⟨added, whole, listed⟩ := posted_cons quiet empty takes waited outcome
                        (.nil _) (List.append_nil _).symm
                      dsimp only
                      rw [record, post_modify]
                      exact .delivered queues [message] added _ known (List.append_nil _)
                        (outcome.flag.trans quiet.flag) whole listed

theorem post_sendControlWithWait (message : Bytes) (attempts : Nat) (device : Device (Traced β)) :
    Post (sendControlWithWait message attempts) device (Delivery device message) := by
  rw [sendControlWithWait, post_bind, prepareReliableSend, post_bind, post_liftResult]
  cases valid : (validateCompleteMessage message : Except (DeviceError ε) Unit) with
  | error failure =>
      obtain rfl := validateCompleteMessage_eq_error valid
      exact .unstarted (by simp)
  | ok done =>
      dsimp only
      rw [post_bind, ensureOperational, post_bind, post_get]
      dsimp only
      rw [post_ite]
      by_cases required : device.recoveryRequired = true
      · rw [if_pos required, post_throw]
        exact .unstarted (by simp)
      · rw [if_neg required, post_pure]
        dsimp only
        rw [post_ite]
        by_cases none : attempts = 0
        · rw [if_pos none, post_bind, post_throw]
          exact .unstarted (by simp)
        · rw [if_neg none, requireQueues, post_bind, post_get]
          dsimp only
          cases known : device.queues with
          | none => exact (post_throw _ _ _).mpr (.unstarted (by simp))
          | some queues =>
              rw [post_pure]
              dsimp only
              rw [post_bind, post_get]
              dsimp only
              rw [post_bind]
              refine (post_sendFragmentsWithWait queues attempts _ false device).mono ?_
              intro r posted outcome
              have positive : 0 < device.commandFragmentLen.1 :=
                Nat.lt_of_lt_of_le (by decide) device.commandFragmentLen.2.1
              cases outcome with
              | delivered added posted flag all transfers =>
                  dsimp only
                  rw [record, post_modify]
                  exact .delivered queues _ added _ known (flatten_chunks positive message) flag all
                    transfers
              | timeout failure polls posted certain first flag empty added =>
                  exact .refused failure polls posted certain flag
                    (fun poll member => ⟨queues, known, empty poll member⟩) added
              | uncertain posted needed => exact .uncertain posted needed

/-- Every send answers with the protocol error of its message or else that recovery is
required, and so does every event read. -/
structure Refuses (device : Device (Traced β)) : Prop where
  sends : ∀ message, resultOf (sendControl message) device = do
    validateCompleteMessage message
    throw .recoveryRequired
  waits : ∀ message attempts, resultOf (sendControlWithWait message attempts) device = do
    validateCompleteMessage message
    throw .recoveryRequired
  reads : ∀ scratchAddress scratch,
    resultOf (tryReadEvent scratchAddress) (device, scratch) = .error .recoveryRequired

theorem refuses_of_required {device : Device (Traced β)} (required : device.recoveryRequired = true) :
    Refuses device where
  sends message := (post_sendControl_closed required message).ends.2
  waits message attempts := (post_sendControlWithWait_closed required message attempts).ends.2
  reads scratchAddress scratch := (post_tryReadEvent_closed required scratchAddress scratch).ends.2

/-- Whatever is called next, the device refuses sends and event reads as long as its queues
are neither reset nor initialised. -/
def RefusesUntilRecovery (device : Device (Traced β)) : Prop :=
  ∀ {rx tx : Nat} (path : DataPath rx tx) (moves : List (LinkMove (Traced β))),
    (∀ taken ∈ stepsOf DataLink.step { device, path } moves,
      ¬ DataLink.Recovers taken.1 taken.2) →
    Refuses (runMoves DataLink.step { device, path } moves).device

theorem refusesUntilRecovery_of_required {device : Device (Traced β)}
    (required : device.recoveryRequired = true) : RefusesUntilRecovery device := by
  intro rx tx path moves stays
  refine refuses_of_required ?_
  have kept (moves : List (LinkMove (Traced β))) (link : DataLink (Traced β) rx tx)
      (flag : link.device.recoveryRequired = true)
      (stays : ∀ taken ∈ stepsOf DataLink.step link moves, ¬ DataLink.Recovers taken.1 taken.2) :
      (runMoves DataLink.step link moves).device.recoveryRequired = true := by
    induction moves generalizing link with
    | nil => exact flag
    | cons move rest hypothesis =>
        simp only [stepsOf, List.forall_mem_cons] at stays
        exact hypothesis _ (DataLink.flag_kept link move flag stays.1) stays.2
  exact kept moves _ required stays

/-- How a command ends, and what an uncertain end means for everything after it. -/
structure CommandOutcome (device : Device (Traced β)) (message : Bytes)
    (r : Except (DeviceError ε) Unit) (next : Device (Traced β)) : Prop where
  delivery : Delivery device message r next
  closed : r = .error .commandDeliveryUncertain → RefusesUntilRecovery next

theorem Delivery.outcome {device next : Device (Traced β)} {message : Bytes}
    {r : Except (DeviceError ε) Unit} (delivery : Delivery device message r next) :
    CommandOutcome device message r next := by
  refine ⟨delivery, fun uncertain => ?_⟩
  cases delivery with
  | delivered => cases uncertain
  | refused failure polls next certain => exact absurd (Except.error.inj uncertain) certain
  | uncertain next required => exact refusesUntilRecovery_of_required required

/-- A command is delivered, refused before a buffer was taken, or closes the device until
recovery. -/
theorem command_delivered_or_closed (device : Device (Traced β)) (message : Bytes) :
    Post (sendControl message) device (CommandOutcome device message) ∧
      ∀ attempts, Post (sendControlWithWait message attempts) device
        (CommandOutcome device message) :=
  ⟨(post_sendControl message device).mono fun _ _ delivery => delivery.outcome, fun attempts =>
    (post_sendControlWithWait message attempts device).mono fun _ _ delivery => delivery.outcome⟩

section Sample

/-- An initialised device whose bus just broke. -/
def brokenDevice : Device FaultyBus :=
  (runMoves DataLink.step (DataLink.start ⟨false⟩ DataPath.samplePath)
    [.initializeQueues, .hardware ⟨true⟩]).device

/-- After an uncertain delivery a malformed message is still refused as malformed. -/
theorem malformed_send_not_recovery_required :
    resultOf (sendControl (le32 12 ++ List.replicate 8 0)) brokenDevice =
        .error .commandDeliveryUncertain ∧
      resultOf (sendControl []) (stateAfter (sendControl (le32 12 ++ List.replicate 8 0))
        brokenDevice) = .error (.protocol .invalidLength) := by
  decide +kernel

end Sample

end Device

end Nrf7002
