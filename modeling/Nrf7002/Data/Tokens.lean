import Nrf7002.Data.Path
import Nrf7002.Foundation.Run

/-! # Transmit tokens

The tokens that firmware may still own are a history of the run: those of the
transmits that succeeded or left the owner unknown, less those completed since.
The path's own marks agree with that history until a transmit is given back
nothing for a token it reserved. -/

set_option autoImplicit false

namespace Nrf7002
open Foundation

namespace DataPath
variable {β ε α : Type} {rx tx : Nat}

/-! ## Reservation -/

section Reservation
variable (path : DataPath rx tx)

theorem inFlight_of_freeTokenFrom_eq_none {count offset : Nat}
    (none : path.freeTokenFrom count offset = none) {index : Nat} (lower : offset ≤ index)
    (upper : index < offset + count) : path.inFlight ((path.nextTx + index) % tx) = true := by
  induction count generalizing offset with
  | zero => omega
  | succ count hypothesis =>
      rw [freeTokenFrom] at none
      by_cases taken : path.inFlight ((path.nextTx + offset) % tx) = true
      · rw [if_pos taken] at none
        rcases Nat.eq_or_lt_of_le lower with rfl | later
        · exact taken
        · exact hypothesis none later (by omega)
      · rw [if_neg taken] at none
        cases none

theorem freeTokenFrom_eq_some {count offset token : Nat} (positive : 0 < tx)
    (found : path.freeTokenFrom count offset = some token) :
    token < tx ∧ path.inFlight token = false := by
  induction count generalizing offset with
  | zero => cases found
  | succ count hypothesis =>
      rw [freeTokenFrom] at found
      by_cases taken : path.inFlight ((path.nextTx + offset) % tx) = true
      · rw [if_pos taken] at found
        exact hypothesis found
      · rw [if_neg taken] at found
        obtain rfl := Option.some.inj found
        exact ⟨Nat.mod_lt _ positive, by simpa using taken⟩

/-- The search goes once around the tokens. -/
theorem exists_offset {token : Nat} (inRange : token < tx) :
    ∃ offset < tx, (path.nextTx + offset) % tx = token := by
  have positive : 0 < tx := by omega
  have start := Nat.mod_lt path.nextTx positive
  refine ⟨(token + (tx - path.nextTx % tx)) % tx, Nat.mod_lt _ positive, ?_⟩
  rw [Nat.add_mod_mod, Nat.add_mod, Nat.add_comm token, ← Nat.mod_mod path.nextTx tx]
  rw [← Nat.add_mod, ← Nat.add_assoc, Nat.mod_mod, Nat.add_sub_of_le (Nat.le_of_lt start)]
  rw [Nat.add_mod_left, Nat.mod_eq_of_lt inRange]

theorem reserveTx_eq_none (none : path.reserveTx = none) {token : Nat} (inRange : token < tx) :
    path.inFlight token = true := by
  obtain ⟨offset, bound, rfl⟩ := path.exists_offset inRange
  rw [reserveTx] at none
  cases found : path.freeTokenFrom tx 0 with
  | none => exact inFlight_of_freeTokenFrom_eq_none path found (Nat.zero_le _) (by omega)
  | some token => rw [found] at none; cases none

theorem reserveTx_eq_some {next : DataPath rx tx} {token : Nat}
    (found : path.reserveTx = some (token, next)) :
    token < tx ∧ path.inFlight token = false ∧ next.layout = path.layout ∧
      next.txInFlight = (path.setInFlight token true).txInFlight := by
  rw [reserveTx] at found
  cases free : path.freeTokenFrom tx 0 with
  | none => rw [free] at found; cases found
  | some index =>
      rw [free] at found
      obtain ⟨rfl, rfl⟩ := Prod.mk.inj (Option.some.inj found)
      obtain ⟨inRange, unused⟩ := freeTokenFrom_eq_some path path.layout.counts.2.1 free
      exact ⟨inRange, unused, rfl, rfl⟩

end Reservation

/-! ## How a transmit ends -/

section Transmit

/-- The device knows its transmit command base and its queues. -/
def QueuesKnown (device : Device β) : Prop :=
  device.txCommandBase ≠ 0 ∧ device.queues ≠ none

theorem transmitQueueContext_cases (device : Device β) :
    (QueuesKnown device ∧
      ∃ context, (transmitQueueContext device : Except (DataError ε) _) = .ok context) ∨
    (¬ QueuesKnown device ∧
      (transmitQueueContext device : Except (DataError ε) _) = .error (.device .notInitialized)) := by
  rw [transmitQueueContext]
  by_cases unset : device.txCommandBase = 0
  · rw [if_pos unset]
    exact .inr ⟨fun known => known.1 unset, rfl⟩
  · rw [if_neg unset]
    cases queues : device.queues with
    | none => exact .inr ⟨fun known => known.2 queues, rfl⟩
    | some queues =>
        refine .inl ⟨⟨unset, ?_⟩, _, rfl⟩
        rw [queues]
        exact Option.some_ne_none _

/-- A step on the bus alone, whose only failures are those of the bus access. -/
def OnlyBus (link : DataLink β rx tx) (r : Except (DataError ε) α) (next : DataLink β rx tx) :
    Prop :=
  SameButBus link next ∧ ∀ failure, r = .error failure → ∃ cause, failure = .rpu cause

theorem post_onRpu_onlyBus (x : Program (Rpu β) (RpuError ε) α) (link : DataLink β rx tx) :
    Post (onRpu x) link (OnlyBus link) := by
  refine (post_onRpu x link).and ?_
  rw [onRpu, post_onField, post_mapError]
  refine (post_true x link.device.rpu).mono ?_
  rintro r t - failure failed
  cases r with
  | ok value => cases failed
  | error cause => exact ⟨cause, (Except.error.inj failed).symm⟩

theorem toNat_token (layout : Layout rx tx) {token : Nat} (inRange : token < tx) :
    (UInt8.ofNat token).toNat = token := by
  have most : tx ≤ maxTxTokens := layout.counts.2.2.2
  have limit : maxTxTokens = 137 := rfl
  have bound : token < 2 ^ 8 := by omega
  exact UInt8.toNat_ofNat_of_lt' bound

/-- A failed step gives the token back. -/
theorem post_orRelease (token : UInt8) (x : Program (DataLink β rx tx) (DataError ε) α)
    (link : DataLink β rx tx) (only : Post x link (OnlyBus link)) :
    Post (orRelease token x) link (fun r next =>
      next.device.withoutBus = link.device.withoutBus ∧
        match r with
        | .ok value => resultOf x link = .ok value ∧ next.path = link.path
        | .error failure => resultOf x link = .error failure ∧ (∃ cause, failure = .rpu cause) ∧
            next.path = link.path.setInFlight token.toNat false) := by
  rw [orRelease, post_bind, post_attempt, post_iff]
  have ends := only.ends
  generalize resultOf x link = r at ends ⊢
  generalize stateAfter x link = next at ends ⊢
  obtain ⟨⟨path, device⟩, failures⟩ := ends
  cases r with
  | ok value => exact (post_pure _ _ _).mpr ⟨device, rfl, path⟩
  | error failure =>
      dsimp only
      simp only [post_bind, onPath, post_onField, post_modify, post_throw]
      exact ⟨device, trivial, failures failure rfl, congrArg (·.setInFlight token.toNat false) path⟩

variable [Bus β ε]

/-- The bus takes the packet of a frame sent under `token`. -/
def PacketWritten (link : DataLink β rx tx) (token : Nat) (frame : Bytes) : Prop :=
  ∃ slot, link.path.layout.txSlotAddress token = some slot ∧
    resultOf (writePacket slot frame : Program (DataLink β rx tx) (DataError ε) Unit) link = .ok ()

inductive TransmitEnds (link : DataLink β rx tx) (frame : Bytes) :
    Except (DataError ε) UInt8 → DataLink β rx tx → Prop
  | refused (failure : DataProtocolError)
      (invalid : validateTransmitFrame frame link.path.layout.txBufferSize =
        (.error (.protocol failure) : Except (DataError ε) Unit)) :
      TransmitEnds link frame (.error (.protocol failure)) link
  | exhausted (full : link.path.reserveTx = none) :
      TransmitEnds link frame (.error .noTransmitToken) link
  | released (token : Nat) (reserved : DataPath rx tx) (failure : RpuError ε)
      (next : DataLink β rx tx) (free : link.path.reserveTx = some (token, reserved))
      (path : next.path = reserved.setInFlight token false)
      (reason : ¬ PacketWritten { link with path := reserved } token frame ∨
        QueuesKnown link.device) :
      TransmitEnds link frame (.error (.rpu failure)) next
  | leaked (token : Nat) (reserved : DataPath rx tx) (next : DataLink β rx tx)
      (valid : validateTransmitFrame frame link.path.layout.txBufferSize =
        (.ok () : Except (DataError ε) Unit))
      (free : link.path.reserveTx = some (token, reserved)) (path : next.path = reserved)
      (written : PacketWritten { link with path := reserved } token frame)
      (unknown : ¬ QueuesKnown link.device) :
      TransmitEnds link frame (.error (.device .notInitialized)) next
  | given (token : Nat) (reserved : DataPath rx tx) (next : DataLink β rx tx)
      (result : Except (DataError ε) UInt8)
      (free : link.path.reserveTx = some (token, reserved)) (path : next.path = reserved)
      (known : QueuesKnown link.device)
      (owned : result = .ok (UInt8.ofNat token) ∨
        ∃ failure, result = .error (.queueOwnershipUncertain failure)) :
      TransmitEnds link frame result next

theorem post_writePacket (address : UInt32) (frame : Bytes) (link : DataLink β rx tx) :
    Post (writePacket address frame) link (OnlyBus link) := by
  rw [writePacket]
  have tail (first : DataLink β rx tx) (same : SameButBus link first) :
      Post (if frame.length / 4 * 4 ≠ frame.length then
          onRpu (Rpu.write .umac (address + UInt32.ofNat (frame.length / 4 * 4))
            (frame.drop (frame.length / 4 * 4) ++
              List.replicate (4 - (frame.length - frame.length / 4 * 4)) 0))
        else pure () : Program (DataLink β rx tx) (DataError ε) Unit) first (OnlyBus link) := by
    rw [post_ite]
    split
    · refine (post_onRpu_onlyBus _ first).mono ?_
      rintro r next ⟨kept, failures⟩
      exact ⟨⟨kept.1.trans same.1, kept.2.trans same.2⟩, failures⟩
    · exact (post_pure _ _ _).mpr ⟨same, fun _ impossible => absurd impossible (by simp)⟩
  dsimp only
  by_cases aligned : frame.length / 4 * 4 ≠ 0
  · rw [if_pos aligned, post_bind]
    refine (post_onRpu_onlyBus _ link).mono ?_
    rintro r first ⟨same, failures⟩
    cases r with
    | error failure => exact ⟨same, failures⟩
    | ok done => exact tail first same
  · rw [if_neg aligned]
    exact tail link (sameButBus_refl link)

/-- The queue writes keep the path, and fail only with an unknown owner. -/
theorem post_deliverTransmitCommand (queue : Hpq) (address : UInt32) (link : DataLink β rx tx) :
    Post (deliverTransmitCommand queue address) link (fun r next =>
      next.path = link.path ∧
        ∀ failure, r = .error failure → ∃ cause, failure = .queueOwnershipUncertain cause) := by
  rw [deliverTransmitCommand, post_mapError, post_bind, onDevice, post_onField]
  have mapped {r : Except (DeviceError ε) Unit} (failure : DataError ε)
      (failed : r.mapError .queueOwnershipUncertain = .error failure) :
      ∃ cause, failure = .queueOwnershipUncertain cause := by
    cases r with
    | ok done => cases failed
    | error cause => exact ⟨cause, (Except.error.inj failed).symm⟩
  refine (post_true _ _).mono ?_
  rintro r first -
  cases r with
  | error failure => exact ⟨rfl, mapped⟩
  | ok done =>
      dsimp only
      rw [onDevice, post_onField]
      exact (post_true _ _).mono fun _ _ _ => ⟨rfl, mapped⟩

theorem post_submitTransmit (token : UInt8) (packetAddress : UInt32) (wdevId : UInt8)
    (frame : Bytes) (dscpTos : UInt16) (link : DataLink β rx tx) :
    Post (submitTransmit token packetAddress wdevId frame dscpTos) link (fun r next =>
      (¬ QueuesKnown link.device ∧ r = .error (.device .notInitialized) ∧ next = link) ∨
      (QueuesKnown link.device ∧ (∃ failure, r = .error (.rpu failure)) ∧
        next.path = link.path.setInFlight token.toNat false) ∨
      (QueuesKnown link.device ∧ next.path = link.path ∧
        (r = .ok () ∨ ∃ failure, r = .error (.queueOwnershipUncertain failure)))) := by
  rw [submitTransmit, post_bind, post_get]
  dsimp only
  rw [post_bind, post_liftResult]
  rcases transmitQueueContext_cases (ε := ε) link.device with ⟨known, context, found⟩ | ⟨unknown, found⟩
  · rw [found]
    dsimp only
    rw [post_bind]
    refine (post_orRelease token _ link (post_onRpu_onlyBus _ link)).mono ?_
    rintro r written ⟨_, outcome⟩
    cases r with
    | error failure =>
        obtain ⟨_, ⟨cause, rfl⟩, path⟩ := outcome
        exact .inr (.inl ⟨known, ⟨cause, rfl⟩, path⟩)
    | ok done =>
        refine (post_deliverTransmitCommand _ _ written).mono ?_
        rintro r next ⟨path, failures⟩
        refine .inr (.inr ⟨known, path.trans outcome.2, ?_⟩)
        cases r with
        | ok done => exact .inl rfl
        | error failure =>
            obtain ⟨cause, rfl⟩ := failures failure rfl
            exact .inr ⟨cause, rfl⟩
  · rw [found]
    exact .inl ⟨unknown, rfl, rfl⟩

theorem validateTransmitFrame_eq_error {frame : Bytes} {capacity : Nat} {failure : DataError ε}
    (invalid : (validateTransmitFrame frame capacity : Except (DataError ε) Unit) = .error failure) :
    ∃ cause, failure = .protocol cause := by
  rw [validateTransmitFrame] at invalid
  split at invalid
  · exact ⟨_, (Except.error.inj invalid).symm⟩
  · split at invalid
    · exact ⟨_, (Except.error.inj invalid).symm⟩
    · cases invalid

theorem validateTransmitFrame_eq_ok {frame : Bytes} {capacity : Nat}
    (valid : (validateTransmitFrame frame capacity : Except (DataError ε) Unit) = .ok ()) :
    ethernetHeaderLen ≤ frame.length ∧ frame.length ≤ capacity := by
  rw [validateTransmitFrame, refused_eq_ok, refused_eq_ok] at valid
  obtain ⟨long, short, _⟩ := valid
  omega

theorem validateTransmitFrame_of_le {frame : Bytes} {layout : Layout rx tx}
    (long : ethernetHeaderLen ≤ frame.length) (short : frame.length ≤ layout.txBufferSize) :
    (validateTransmitFrame frame layout.txBufferSize : Except (DataError ε) Unit) = .ok () := by
  have most : layout.txBufferSize ≤ 0xffff := layout.sizes.2.2.2
  rw [validateTransmitFrame, if_neg (Nat.not_lt.mpr long), if_neg (by omega)]

theorem queuesKnown_iff {device next : Device β} (same : next.withoutBus = device.withoutBus) :
    QueuesKnown next ↔ QueuesKnown device := by
  rw [QueuesKnown, QueuesKnown, Device.txCommandBase_eq same, Device.queues_eq same]

theorem post_transmit (wdevId : UInt8) (frame : Bytes) (dscpTos : UInt16)
    (link : DataLink β rx tx) :
    Post (transmit wdevId frame dscpTos) link (TransmitEnds link frame) := by
  rw [transmit, post_bind, prepareTransmit, post_bind, post_get]
  dsimp only
  rw [post_bind, post_liftResult]
  cases valid : (validateTransmitFrame frame link.path.layout.txBufferSize :
      Except (DataError ε) Unit) with
  | error failure =>
      obtain ⟨cause, rfl⟩ := validateTransmitFrame_eq_error valid
      exact .refused cause valid
  | ok done =>
      dsimp only
      rw [post_bind, reserveToken, post_bind, post_get]
      dsimp only
      cases free : link.path.reserveTx with
      | none => exact (post_throw _ _ _).mpr (.exhausted free)
      | some reservation =>
          obtain ⟨index, reserved⟩ := reservation
          obtain ⟨inRange, _, layout, _⟩ := reserveTx_eq_some link.path free
          have value := toNat_token link.path.layout inRange
          have slot : (txSlot link.path.layout (UInt8.ofNat index) : Except (DataError ε) UInt32) =
              .ok (rpuMemPacketBase + UInt32.ofNat index * UInt32.ofNat link.path.layout.txStride) := by
            rw [txSlot, value, Layout.txSlotAddress, if_pos inRange]
          simp only [post_bind, post_set, post_pure, post_liftResult, slot]
          refine (post_orRelease (UInt8.ofNat index) _ { link with path := reserved }
            (post_writePacket _ frame _)).mono ?_
          rintro r prepared ⟨device, outcome⟩
          cases r with
          | error failure =>
              obtain ⟨failed, ⟨cause, rfl⟩, path⟩ := outcome
              refine .released index reserved cause prepared free (by rw [path, value]) (.inl ?_)
              rintro ⟨address, found, written⟩
              rw [Layout.txSlotAddress, if_pos inRange] at found
              obtain rfl := Option.some.inj found
              simp only [layout] at written
              rw [written] at failed
              cases failed
          | ok done =>
              obtain ⟨written, path⟩ := outcome
              have known := queuesKnown_iff device
              dsimp only at known ⊢
              refine (post_submitTransmit (UInt8.ofNat index) _ wdevId frame dscpTos prepared).mono ?_
              intro r next submitted
              rcases submitted with ⟨unknown, rfl, rfl⟩ | ⟨ready, ⟨failure, rfl⟩, released⟩ |
                ⟨ready, kept, owned⟩
              · refine .leaked index reserved next valid free path ⟨_, ?_, written⟩
                  (fun ready => unknown (known.mpr ready))
                rw [layout, Layout.txSlotAddress, if_pos inRange]
              · exact .released index reserved failure next free (by rw [released, path, value])
                  (.inr (known.mp ready))
              · rcases owned with rfl | ⟨failure, rfl⟩
                · simp only [onDevice, post_onField, Device.record, post_modify]
                  exact .given index reserved _ _ free (kept.trans path) (known.mp ready) (.inl rfl)
                · exact .given index reserved next _ free (kept.trans path) (known.mp ready)
                    (.inr ⟨failure, rfl⟩)

end Transmit

/-! ## Runs -/

section Runs

/-- A data link with the tokens that firmware may own. -/
structure TokenState (β : Type) (rx tx : Nat) where
  link : DataLink β rx tx
  owned : Nat → Bool

/-- Between two operations the device may become any other. -/
inductive TokenMove (β : Type) where
  | transmit (wdevId : UInt8) (frame : Bytes) (dscpTos : UInt16)
  | completeTx (token : UInt8)
  | resetAfterRpuReset
  | device (next : Device β)

def setOwned (owned : Nat → Bool) (token : Nat) (value : Bool) : Nat → Bool :=
  fun index => if index = token then value else owned index

/-- What a transmit hands to firmware: the token it returned, or the token it reserved
when it cannot say who owns it. -/
def ownedAfterTransmit (state : TokenState β rx tx) (result : Except (DataError ε) UInt8) :
    Nat → Bool :=
  match result with
  | .ok token => setOwned state.owned token.toNat true
  | .error (.queueOwnershipUncertain _) =>
      match state.link.path.reserveTx with
      | some (token, _) => setOwned state.owned token true
      | none => state.owned
  | .error _ => state.owned

def ownedAfterCompletion (state : TokenState β rx tx) (token : UInt8) : Nat → Bool :=
  match resultOf (completeTx token) state.link.path with
  | .ok _ => setOwned state.owned token.toNat false
  | .error _ => state.owned

def tokenStep [Bus β ε] (state : TokenState β rx tx) : TokenMove β → TokenState β rx tx
  | .transmit wdevId frame dscpTos =>
      { link := stateAfter (transmit wdevId frame dscpTos) state.link
        owned := ownedAfterTransmit state (resultOf (transmit wdevId frame dscpTos) state.link) }
  | .completeTx token =>
      { link := { state.link with path := stateAfter (completeTx token) state.link.path }
        owned := ownedAfterCompletion state token }
  | .resetAfterRpuReset =>
      { link := { state.link with path := state.link.path.resetAfterRpuReset }
        owned := fun _ => false }
  | .device next => { state with link := { state.link with device := next } }

def tokenStart (device : Device β) (path : DataPath rx tx) : TokenState β rx tx :=
  { link := { device, path }, owned := fun _ => false }

/-- The tokens are used as the history allows: no transmit reserves or returns an owned
token, completion succeeds on the owned tokens only, and a transmit runs out of tokens
only when all are owned. -/
structure TokensRespected [Bus β ε] (state : TokenState β rx tx) : Prop where
  reserves : ∀ token reserved, state.link.path.reserveTx = some (token, reserved) →
    state.owned token = false
  returns : ∀ wdevId frame dscpTos token,
    resultOf (transmit wdevId frame dscpTos) state.link = .ok token →
      state.owned token.toNat = false
  completes : ∀ token : UInt8, resultOf (completeTx token) state.link.path = .ok () ↔
    token.toNat < tx ∧ state.owned token.toNat = true
  exhausted : ∀ wdevId frame dscpTos,
    resultOf (transmit wdevId frame dscpTos) state.link = .error .noTransmitToken →
      ∀ token < tx, state.owned token = true

/-- A transmit whose packet is written on a device that does not know its queues: the
reserved token is neither used nor given back. -/
def Leaks [Bus β ε] (link : DataLink β rx tx) (frame : Bytes) : Prop :=
  ethernetHeaderLen ≤ frame.length ∧ frame.length ≤ link.path.layout.txBufferSize ∧
    ¬ QueuesKnown link.device ∧
    ∃ token reserved, link.path.reserveTx = some (token, reserved) ∧
      PacketWritten { link with path := reserved } token frame

def LeaksToken [Bus β ε] (state : TokenState β rx tx) : TokenMove β → Prop
  | .transmit _ frame _ => Leaks state.link frame
  | _ => False

/-- The path's marks are the history. -/
def MarksOwned (state : TokenState β rx tx) : Prop :=
  ∀ token, state.link.path.inFlight token = state.owned token

section Marks

theorem inFlight_setInFlight (path : DataPath rx tx) {token index : Nat} (value : Bool)
    (inRange : token < tx) :
    (path.setInFlight token value).inFlight index =
      if index = token then value else path.inFlight index := by
  by_cases same : index = token
  · subst same
    simp [inFlight, setInFlight, inRange]
  · simp [inFlight, setInFlight, same]

theorem inFlight_of_marks {path next : DataPath rx tx} (same : next.txInFlight = path.txInFlight)
    (token : Nat) : next.inFlight token = path.inFlight token := by
  rw [inFlight, inFlight, same]

theorem inFlight_reserved {path reserved : DataPath rx tx} {token : Nat}
    (free : path.reserveTx = some (token, reserved)) (index : Nat) :
    reserved.inFlight index = if index = token then true else path.inFlight index := by
  obtain ⟨inRange, _, _, marks⟩ := reserveTx_eq_some path free
  rw [inFlight_of_marks marks index, inFlight_setInFlight path true inRange]

theorem lt_of_inFlight {path : DataPath rx tx} {token : Nat}
    (taken : path.inFlight token = true) : token < tx := by
  by_contra outside
  rw [inFlight, dif_neg outside] at taken
  exact absurd taken (by simp)

/-- Completion clears the mark of a token in flight, and refuses every other token. -/
theorem post_completeTx (path : DataPath rx tx) (token : UInt8) :
    Post (completeTx token) path (fun r next =>
      if path.inFlight token.toNat = true then
        r = .ok () ∧ next = path.setInFlight token.toNat false
      else r = .error (.invalidDescriptor token.toUInt16) ∧ next = path) := by
  rw [completeTx, post_bind, post_get]
  dsimp only
  rw [post_ite]
  by_cases taken : path.inFlight token.toNat = true
  · have inRange := lt_of_inFlight taken
    simp only [if_pos taken]
    rw [if_neg (Nat.not_le.mpr inRange), post_ite, if_neg (not_not_intro taken)]
    exact (post_set _ _ _).mpr ⟨rfl, rfl⟩
  · simp only [if_neg taken]
    by_cases outside : tx ≤ token.toNat
    · rw [if_pos outside]
      exact (post_throw _ _ _).mpr ⟨rfl, rfl⟩
    · rw [if_neg outside, post_ite, if_pos taken]
      exact (post_throw _ _ _).mpr ⟨rfl, rfl⟩

theorem completeTx_ok_iff (path : DataPath rx tx) (token : UInt8) :
    resultOf (completeTx token) path = .ok () ↔ path.inFlight token.toNat = true := by
  have ends := (post_completeTx path token).ends
  by_cases taken : path.inFlight token.toNat = true
  · rw [if_pos taken] at ends
    exact ⟨fun _ => taken, fun _ => ends.1⟩
  · rw [if_neg taken] at ends
    refine ⟨fun done => ?_, fun again => absurd again taken⟩
    rw [ends.1] at done
    cases done

end Marks

variable [Bus β ε]

/-- As long as the marks are the history, the tokens are respected. -/
theorem tokensRespected_of_marks {state : TokenState β rx tx} (marks : MarksOwned state) :
    TokensRespected state where
  reserves := by
    intro token reserved free
    rw [← marks]
    exact (reserveTx_eq_some _ free).2.1
  returns := by
    intro wdevId frame dscpTos token returned
    have ends := (post_transmit wdevId frame dscpTos state.link).ends
    rw [returned] at ends
    cases ends with
    | given index reserved _ _ free path known owned =>
        obtain ⟨inRange, unused, _⟩ := reserveTx_eq_some _ free
        rcases owned with same | ⟨failure, impossible⟩
        · rw [← marks, Except.ok.inj same, toNat_token state.link.path.layout inRange]
          exact unused
        · cases impossible
  completes := by
    intro token
    rw [completeTx_ok_iff, ← marks]
    exact ⟨fun taken => ⟨lt_of_inFlight taken, taken⟩, fun taken => taken.2⟩
  exhausted := by
    intro wdevId frame dscpTos exhausted token inRange
    have ends := (post_transmit wdevId frame dscpTos state.link).ends
    rw [exhausted] at ends
    rw [← marks]
    generalize stateAfter (transmit wdevId frame dscpTos) state.link = next at ends
    cases ends with
    | exhausted full => exact reserveTx_eq_none _ full inRange
    | given index reserved _ _ free path known owned =>
        rcases owned with impossible | ⟨failure, impossible⟩ <;> cases impossible

/-- A step that leaks no token keeps the marks. -/
theorem marks_preserved (state : TokenState β rx tx) (move : TokenMove β)
    (marks : MarksOwned state) (sound : ¬ LeaksToken state move) :
    MarksOwned (tokenStep state move) := by
  intro index
  cases move with
  | device next => exact marks index
  | resetAfterRpuReset => simp [tokenStep, resetAfterRpuReset, inFlight]
  | completeTx token =>
      have ends := (post_completeTx state.link.path token).ends
      simp only [tokenStep, ownedAfterCompletion]
      by_cases taken : state.link.path.inFlight token.toNat = true
      · rw [if_pos taken] at ends
        rw [ends.1, ends.2, inFlight_setInFlight _ _ (lt_of_inFlight taken), marks index]
        rfl
      · rw [if_neg taken] at ends
        rw [ends.1, ends.2]
        exact marks index
  | transmit wdevId frame dscpTos =>
      have ends := (post_transmit wdevId frame dscpTos state.link).ends
      simp only [tokenStep, ownedAfterTransmit]
      generalize resultOf (transmit wdevId frame dscpTos) state.link = r at ends ⊢
      generalize stateAfter (transmit wdevId frame dscpTos) state.link = next at ends ⊢
      cases ends with
      | refused failure invalid => exact marks index
      | exhausted full => exact marks index
      | released token reserved failure _ free path reason =>
          obtain ⟨inRange, unused, _⟩ := reserveTx_eq_some _ free
          dsimp only
          rw [path, inFlight_setInFlight _ _ inRange, inFlight_reserved free, ← marks]
          by_cases same : index = token
          · rw [if_pos same, same, unused]
          · rw [if_neg same, if_neg same]
      | leaked token reserved _ valid free path written unknown =>
          obtain ⟨long, short⟩ := validateTransmitFrame_eq_ok valid
          exact absurd ⟨long, short, unknown, token, reserved, free, written⟩ sound
      | given token reserved _ _ free path known owned =>
          obtain ⟨inRange, unused, _⟩ := reserveTx_eq_some _ free
          have value := toNat_token state.link.path.layout inRange
          rw [path, inFlight_reserved free, marks index]
          rcases owned with rfl | ⟨failure, rfl⟩
          · dsimp only
            rw [value]
            rfl
          · dsimp only
            rw [free]
            rfl

/-- A transmit that leaks fails, and the token it reserved stays in flight. -/
theorem leaks_keeps_token (link : DataLink β rx tx) (wdevId : UInt8) (frame : Bytes)
    (dscpTos : UInt16) (leaks : Leaks link frame) :
    Post (transmit wdevId frame dscpTos) link (fun r next =>
      r = .error (.device .notInitialized) ∧
        ∃ token, link.path.inFlight token = false ∧ next.path.inFlight token = true) := by
  obtain ⟨long, short, unknown, token, reserved, free, written⟩ := leaks
  obtain ⟨inRange, unused, _, marks⟩ := reserveTx_eq_some _ free
  apply (post_transmit wdevId frame dscpTos link).mono
  intro r next ends
  cases ends with
  | refused failure invalid =>
      rw [validateTransmitFrame_of_le long short] at invalid
      cases invalid
  | exhausted full =>
      rw [full] at free
      cases free
  | released other reserved' failure _ free' path reason =>
      rw [free] at free'
      obtain ⟨rfl, rfl⟩ := Prod.mk.inj (Option.some.inj free')
      rcases reason with unwritten | known
      · exact absurd written unwritten
      · exact absurd known unknown
  | leaked other reserved' _ valid free' path written' unknown' =>
      rw [free] at free'
      obtain ⟨rfl, rfl⟩ := Prod.mk.inj (Option.some.inj free')
      refine ⟨rfl, token, unused, ?_⟩
      rw [path, inFlight_reserved free, if_pos rfl]
  | given other reserved' _ _ free' path known owned => exact absurd known unknown

/-- A leak ends with a token in flight that nobody owns. -/
theorem leak_breaks (state : TokenState β rx tx) (move : TokenMove β) (marks : MarksOwned state)
    (leaks : LeaksToken state move) : ¬ TokensRespected (tokenStep state move) := by
  intro respected
  cases move with
  | device next => exact leaks
  | resetAfterRpuReset => exact leaks
  | completeTx token => exact leaks
  | transmit wdevId frame dscpTos =>
      obtain ⟨failed, token, unused, taken⟩ :=
        (leaks_keeps_token state.link wdevId frame dscpTos leaks).ends
      have value := toNat_token state.link.path.layout (lt_of_inFlight taken)
      have completes := respected.completes (UInt8.ofNat token)
      rw [completeTx_ok_iff, value] at completes
      simp only [tokenStep, ownedAfterTransmit, failed] at completes
      have owned := (completes.mp taken).2
      rw [← marks token, unused] at owned
      cases owned

/-- In every run from a fresh data path, on whatever devices, the tokens are respected
in every state exactly when no transmit leaks one. -/
theorem tokens_respected_iff {rxBufferSize txBufferSize : Nat} {path : DataPath rx tx}
    (accepted : DataPath.new rxBufferSize txBufferSize = .ok path) (device : Device β)
    (moves : List (TokenMove β)) :
    (∀ visit ∈ visited tokenStep (tokenStart device path) moves, TokensRespected visit) ↔
      ∀ taken ∈ stepsOf tokenStep (tokenStart device path) moves,
        ¬ LeaksToken taken.1 taken.2 := by
  have marks : MarksOwned (tokenStart device path) := by
    intro token
    rw [DataPath.new, bind_eq_ok] at accepted
    obtain ⟨layout, _, same⟩ := accepted
    obtain rfl := Except.ok.inj same
    simp [tokenStart, inFlight]
  exact always_iff_no_bad_step MarksOwned TokensRespected LeaksToken
    (fun _ => tokensRespected_of_marks) marks_preserved leak_breaks marks moves

end Runs

/-! ## Failed transmits -/

section Failures
variable [Bus β ε]

/-- A transmit that fails, and knows that firmware does not own its token, leaves the marks
as they were. -/
def GivesBack (wdevId : UInt8) (frame : Bytes) (dscpTos : UInt16) (link : DataLink β rx tx) :
    Prop :=
  Post (transmit wdevId frame dscpTos) link (fun r next =>
    ∀ failure, r = .error failure → (∀ cause, failure ≠ .queueOwnershipUncertain cause) →
      next.path.txInFlight = link.path.txInFlight)

/-- The marks once the token that was reserved is released again. -/
theorem txInFlight_released {path reserved : DataPath rx tx} {token : Nat}
    (free : path.reserveTx = some (token, reserved)) :
    (reserved.setInFlight token false).txInFlight = path.txInFlight := by
  obtain ⟨inRange, unused, _, marks⟩ := reserveTx_eq_some path free
  rw [inFlight, dif_pos inRange] at unused
  funext index
  simp only [setInFlight, marks]
  by_cases same : index.val = token
  · subst same
    rw [if_pos rfl]
    exact unused.symm
  · rw [if_neg same, if_neg same]

theorem failed_transmit_gives_back_iff (wdevId : UInt8) (frame : Bytes) (dscpTos : UInt16)
    (link : DataLink β rx tx) : GivesBack wdevId frame dscpTos link ↔ ¬ Leaks link frame := by
  constructor
  · intro givesBack leaks
    obtain ⟨failed, token, unused, taken⟩ :=
      (leaks_keeps_token link wdevId frame dscpTos leaks).ends
    have same := givesBack.ends _ failed (by
      intro cause same
      cases same)
    rw [inFlight_of_marks same, unused] at taken
    cases taken
  · intro sound
    apply (post_transmit wdevId frame dscpTos link).mono
    intro r next ends failure failed certain
    cases ends with
    | refused cause invalid => rfl
    | exhausted full => rfl
    | released token reserved cause _ free path reason => rw [path, txInFlight_released free]
    | leaked token reserved _ valid free path written unknown =>
        obtain ⟨long, short⟩ := validateTransmitFrame_eq_ok valid
        exact absurd ⟨long, short, unknown, token, reserved, free, written⟩ sound
    | given token reserved _ _ free path known owned =>
        rcases owned with rfl | ⟨cause, rfl⟩
        · cases failed
        · cases failed
          exact absurd rfl (certain cause)

end Failures

section Sample

def sampleFrame : Bytes := List.replicate 16 0

/-- The device was never initialised: a transmit fails and its token stays in flight. -/
theorem uninitialised_transmit_keeps_token :
    ¬ GivesBack 0 sampleFrame 0 { device := Device.new ReadyBus.mk, path := samplePath } := by
  intro givesBack
  have failed : resultOf (transmit 0 sampleFrame 0)
      { device := Device.new ReadyBus.mk, path := samplePath } = .error (.device .notInitialized) := by
    decide +kernel
  have taken : (stateAfter (transmit 0 sampleFrame 0)
      { device := Device.new ReadyBus.mk, path := samplePath }).path.inFlight 0 = true := by
    decide +kernel
  have same := givesBack.ends _ failed (by
    intro cause same
    cases same)
  rw [inFlight_of_marks same] at taken
  cases taken

/-- On a device that was never initialised a transmit reserves the only token, fails and
keeps it: the token completes although firmware never owned it. -/
theorem uninitialised_transmit_leaks :
    DataPath.new 1600 1600 = .ok samplePath ∧
      resultOf (transmit 0 sampleFrame 0) { device := Device.new ReadyBus.mk, path := samplePath } =
        .error (.device .notInitialized) ∧
      ¬ TokensRespected (tokenStep (tokenStart (Device.new ReadyBus.mk) samplePath)
        (.transmit 0 sampleFrame 0)) := by
  refine ⟨samplePath_new, by decide +kernel, ?_⟩
  have written : resultOf (writePacket 0xb0005000 sampleFrame : Program _ (DataError Empty) Unit)
      { device := Device.new ReadyBus.mk, path := samplePath.setInFlight 0 true } = .ok () := by
    decide +kernel
  refine leak_breaks _ _ (fun token => ?_) ⟨by decide, by decide, fun known => known.1 rfl, 0,
    samplePath.setInFlight 0 true, rfl, 0xb0005000, by decide, written⟩
  simp [tokenStart, inFlight, samplePath]

theorem tokens_respected_sample :
    TokensRespected (runMoves tokenStep (tokenStart Device.ready samplePath)
      [.transmit 0 sampleFrame 0, .completeTx 0]) := by
  refine (tokens_respected_iff samplePath_new Device.ready _).mpr ?_ _
    (runMoves_mem_visited tokenStep _ [.transmit 0 sampleFrame 0, .completeTx 0])
  intro taken member
  simp only [stepsOf, List.mem_cons, List.not_mem_nil, or_false] at member
  rcases member with rfl | rfl
  · have known : QueuesKnown Device.ready := ⟨by decide, by decide⟩
    exact fun leaks => leaks.2.2.1 known
  · exact id

end Sample

end DataPath

end Nrf7002
