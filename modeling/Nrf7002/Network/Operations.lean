import Nrf7002.Network.Accesses

/-! # What one operation does to the shares

One rule for each operation of the queue, from the rules of its accesses: the permits it
takes and gives, with every wake-up paid at its end. -/

set_option autoImplicit false

namespace Nrf7002
open Foundation

namespace SharedQueue
variable {w frameSize : Nat} {α β : Type}

theorem frame_edit {len : Nat} {f : SliceEdit} (slot : Slot w frameSize) (fits : len ≤ frameSize) :
    (slot.edit len f).bytes.1.take (min len frameSize) = (f (slot.bytes.1.take len)).1 := by
  have size : (f (slot.bytes.1.take len)).1.length = len := by
    rw [(f (slot.bytes.1.take len)).2, List.length_take, slot.bytes.2, Nat.min_eq_left fits]
  rw [Nat.min_eq_left fits]
  show (splice slot.bytes.1 0 (f (slot.bytes.1.take len)).1).take len = _
  rw [splice, List.take_zero, List.nil_append]
  exact List.take_left' size

/-! ## The wakers of the polls -/

/-- The registrations of a poll, the last one first. -/
def places : Poll → List WakerName
  | .receive => [.txSpace, .rx, .link]
  | .transmit => [.txSpace, .link]
  | .txReady => [.txReady]
  | .linkState => [.link]

theorem full_places (poll : Poll) : Watch.Full poll (⟨places poll, none, none⟩ : Watch w) := by
  intro waker mine
  left
  cases poll <;> cases waker <;> simp_all [SharedEvent.wakersOf, places]

/-! ## Programs -/

variable [AtomicWaker]

abbrev Obeys (program : SharedProgram w frameSize α) (share : Share w frameSize)
    (Ends : α → Share w frameSize → Prop) : Prop :=
  (queueSharing w frameSize).Obeys program share Ends

/-- The program leaves every share alone. -/
def Quiet (program : SharedProgram w frameSize α) : Prop :=
  ∀ share, Obeys program share (fun _ left => left = share)

theorem quiet_pure (value : α) : Quiet (pure value : SharedProgram w frameSize α) :=
  fun _ => rfl

theorem Quiet.bind {program : SharedProgram w frameSize α} {f : α → SharedProgram w frameSize β}
    (quiet : Quiet program) (rest : ∀ value, Quiet (f value)) : Quiet (program >>= f) := by
  intro share
  refine Sharing.Obeys.bind (quiet share) ?_
  rintro value _ rfl
  exact rest value _

theorem quiet_ite {p : Prop} [Decidable p] {left right : SharedProgram w frameSize α}
    (first : Quiet left) (second : Quiet right) : Quiet (if p then left else right) := by
  split
  · exact first
  · exact second

theorem quiet_take {access : QueueAccess w frameSize}
    (still : ∀ memory : SharedMemory w frameSize, (access.apply memory).2 = memory)
    (quiet : ∀ name, access.touches name = false) : Quiet (take access) := by
  intro share
  have turns : (queueSharing w frameSize).Turns access share (fun _ left => True ∧ left = share) :=
    turns_observe still (fun name touches => absurd touches (by simp [quiet name]))
      fun _ _ _ => trivial
  exact turns.obeys.mono fun _ _ ends => ends.2

theorem quiet_loadLinkUp : Quiet (loadLinkUp : SharedProgram w frameSize Bool) :=
  quiet_take (fun _ => rfl) fun _ => rfl

theorem quiet_loadLinkEpoch : Quiet (loadLinkEpoch : SharedProgram w frameSize (BitVec w)) :=
  quiet_take (fun _ => rfl) fun _ => rfl

theorem quiet_loadState (name : SlotName) :
    Quiet (loadState name : SharedProgram w frameSize SlotState) :=
  quiet_take (fun _ => rfl) fun _ => rfl

theorem quiet_loadEpoch (name : SlotName) :
    Quiet (loadEpoch name : SharedProgram w frameSize (BitVec w)) :=
  quiet_take (fun _ => rfl) fun _ => rfl

theorem quiet_epochIsActive (epoch : BitVec w) :
    Quiet (epochIsActive epoch : SharedProgram w frameSize Bool) :=
  quiet_loadLinkUp.bind fun _ => quiet_ite (quiet_pure _)
    (quiet_loadLinkEpoch.bind fun _ => quiet_pure _)

theorem quiet_activeEpochIn (tries : Nat) :
    Quiet (activeEpochIn tries : SharedProgram w frameSize (Option (BitVec w))) := by
  induction tries with
  | zero => exact quiet_pure none
  | succ tries hypothesis =>
      exact quiet_loadLinkEpoch.bind fun _ => quiet_loadLinkUp.bind fun _ =>
        quiet_ite (quiet_pure _) (quiet_loadLinkEpoch.bind fun _ =>
          quiet_ite (quiet_pure _) hypothesis)

theorem quiet_activeEpoch :
    Quiet (activeEpoch : SharedProgram w frameSize (Option (BitVec w))) :=
  quiet_activeEpochIn 3

theorem quiet_readyUnderOther (name : SlotName) (epoch : BitVec w) :
    Quiet (readyUnderOther name epoch : SharedProgram w frameSize Bool) :=
  (quiet_loadState name).bind fun _ => quiet_ite (quiet_pure _)
    ((quiet_loadEpoch name).bind fun _ => quiet_pure _)

/-! ## Releases -/

section Releases
variable {permit : Permit w frameSize}

theorem obeys_release (name : SlotName) :
    Obeys (release name) (Share.own name permit) (fun _ left => left = freed name) := by
  refine Sharing.Obeys.bind (turns_edit (fun slot => { slot with len := 0 }) (fun _ => True)
    (by simp [QueueAccess.touches]) (fun _ => rfl) (fun _ => rfl) fun _ _ => trivial).obeys ?_
  rintro _ _ ⟨_, rfl⟩
  refine Sharing.Obeys.bind (turns_note ?_ ?_ ?_).obeys ?_
  · exact fun _ _ => trivial
  · intro other different
    cases name <;> cases other <;> simp_all [SharedEvent.opens, SharedEvent.closes]
  · exact fun _ => rfl
  · rintro _ _ rfl
    refine (turns_storeFree ?_).obeys
    cases name <;> rfl

theorem obeys_wake (waker : WakerName) (epoch : Option (BitVec w)) :
    Obeys (wake waker : SharedProgram w frameSize Unit) (Share.owes waker epoch)
      (fun _ left => left = 0) :=
  turns_wake.obeys

theorem obeys_releaseRx :
    Obeys releaseRx (Share.own .rx permit) (fun _ left => left = 0) :=
  obeys_release .rx

theorem obeys_releaseTx :
    Obeys releaseTx (Share.own .tx permit) (fun _ left => left = 0) := by
  refine Sharing.Obeys.bind (obeys_release .tx) ?_
  rintro _ _ rfl
  exact obeys_wake _ _

theorem obeys_claim {name : SlotName} {current next : SlotState} (claims : Claims current next) :
    Obeys (compareExchange name current next : SharedProgram w frameSize Bool) 0 (fun ok left =>
      Exchanged name current next ok 0 left) :=
  (turns_claim claims).obeys

theorem obeys_discardReadyRx :
    Obeys (discardReadyRx : SharedProgram w frameSize Unit) 0 (fun _ left => left = 0) := by
  refine Sharing.Obeys.bind (obeys_claim ⟨.inr rfl, .inr rfl⟩) ?_
  intro ok left outcome
  refine Sharing.obeys_ite (fun holds => ?_) fun fails => ?_
  · rw [Exchanged, if_pos holds] at outcome
    obtain ⟨permit, _, rfl⟩ := outcome
    rw [add_zero]
    exact obeys_releaseRx
  · rw [Exchanged, if_neg fails] at outcome
    exact outcome

theorem obeys_discardReadyTx :
    Obeys (discardReadyTx : SharedProgram w frameSize Unit) 0 (fun _ left => left = 0) := by
  refine Sharing.Obeys.bind (obeys_claim ⟨.inr rfl, .inr rfl⟩) ?_
  intro ok left outcome
  refine Sharing.obeys_ite (fun holds => ?_) fun fails => ?_
  · rw [Exchanged, if_pos holds] at outcome
    obtain ⟨permit, _, rfl⟩ := outcome
    rw [add_zero]
    exact obeys_releaseTx
  · rw [Exchanged, if_neg fails] at outcome
    exact outcome

/-- What leaves nothing behind leaves everything else alone. -/
theorem Quiet.of_empty {program : SharedProgram w frameSize α}
    (empty : Obeys program 0 (fun _ left => left = 0)) : Quiet program := by
  intro share
  have framed := empty.frame share
  rw [zero_add] at framed
  refine framed.mono ?_
  rintro value _ ⟨_, rfl, rfl⟩
  exact zero_add share

/-- A debt is paid beside the rest. -/
theorem obeys_wake_rest (waker : WakerName) (epoch : Option (BitVec w))
    (rest : Share w frameSize) :
    Obeys (wake waker : SharedProgram w frameSize Unit) (Share.owes waker epoch + rest)
      (fun _ left => left = rest) := by
  refine ((obeys_wake waker epoch).frame rest).mono ?_
  rintro value _ ⟨_, rfl, rfl⟩
  exact zero_add rest

theorem obeys_setAuthorizedLink (up : Bool) :
    Obeys (setAuthorizedLink up : SharedProgram w frameSize Unit) 0 (fun _ left => left = 0) := by
  refine Sharing.Obeys.bind (turns_swapLinkUp up).obeys ?_
  rintro old _ rfl
  refine Sharing.obeys_ite (fun same => ?_) fun changed => ?_
  · rw [if_pos same]
    exact rfl
  · rw [if_neg changed]
    refine Sharing.Obeys.bind turns_fetchAddLinkEpoch.obeys ?_
    rintro _ _ rfl
    refine Sharing.Obeys.bind (Quiet.of_empty obeys_discardReadyRx _) ?_
    rintro _ _ rfl
    refine Sharing.Obeys.bind (Quiet.of_empty obeys_discardReadyTx _) ?_
    rintro _ _ rfl
    refine Sharing.Obeys.bind (obeys_wake_rest .link none _) ?_
    rintro _ _ rfl
    refine Sharing.Obeys.bind (obeys_wake_rest .rx none _) ?_
    rintro _ _ rfl
    refine Sharing.Obeys.bind (obeys_wake_rest .txSpace none _) ?_
    rintro _ _ rfl
    exact obeys_wake .txReady none

end Releases

/-! ## Reservations -/

/-- What the holder of a receive token owns. -/
structure RxHeld (permit : Permit w frameSize) : Prop where
  state : permit.slot.state = .client
  waiting : permit.waiting = some (permit.slot.epoch, permit.slot.frame)

/-- What the holder of a transmit token owns. -/
structure TxHeld (permit : Permit w frameSize) : Prop where
  state : permit.slot.state = .client
  waiting : permit.waiting = none

/-- What the holder of a lease owns. -/
structure TxLeased (permit : Permit w frameSize) : Prop where
  state : permit.slot.state = .producer
  waiting : permit.waiting = some (permit.slot.epoch, permit.slot.frame)

/-- The two tokens of a reception. -/
def GivesTokens (given : Bool) (left : Share w frameSize) : Prop :=
  if given = true then ∃ reserved permit, TxHeld reserved ∧ RxHeld permit ∧
    left = Share.own .tx reserved + Share.own .rx permit
  else left = 0

/-- The token of a transmission. -/
def GivesToken (given : Bool) (left : Share w frameSize) : Prop :=
  if given = true then ∃ permit, TxHeld permit ∧ left = Share.own .tx permit else left = 0

section Reservations
variable {permit : Permit w frameSize} {name : SlotName}

theorem obeys_loadEpoch (name : SlotName) (permit : Permit w frameSize) :
    Obeys (loadEpoch name) (Share.own name permit) (fun found left =>
      found = permit.slot.epoch ∧ left = Share.own name permit) := by
  refine (turns_observe (fun _ => rfl) (ownerTouches_own (by simp [QueueAccess.touches]))
    fun memory others shared => ?_).obeys
  rw [(Shared.owner shared).1]
  rfl

theorem obeys_isCurrent (name : SlotName) (epoch : BitVec w) (permit : Permit w frameSize) :
    Obeys (isCurrent name epoch) (Share.own name permit) (fun current left =>
      (current = true → permit.slot.epoch = epoch) ∧ left = Share.own name permit) := by
  refine Sharing.Obeys.bind (quiet_epochIsActive epoch _) ?_
  rintro active _ rfl
  refine Sharing.obeys_ite (fun _ => ⟨by simp, rfl⟩) fun _ => ?_
  refine Sharing.Obeys.bind (obeys_loadEpoch name permit) ?_
  rintro found _ ⟨rfl, rfl⟩
  exact ⟨fun same => by simpa using same, rfl⟩

theorem obeys_currentLen (name : SlotName) (current : Bool) (permit : Permit w frameSize) :
    Obeys (currentLen name current) (Share.own name permit) (fun len left =>
      (current = true → len = min permit.slot.len frameSize) ∧ left = Share.own name permit) := by
  refine Sharing.obeys_ite (fun stale => ⟨fun holds => absurd holds stale, rfl⟩) fun _ => ?_
  have loads : Obeys (loadLen name) (Share.own name permit) (fun found left =>
      found = permit.slot.len ∧ left = Share.own name permit) := by
    refine (turns_observe (fun _ => rfl) (ownerTouches_own (by simp [QueueAccess.touches]))
      fun memory others shared => ?_).obeys
    rw [(Shared.owner shared).1]
    rfl
  refine Sharing.Obeys.bind loads ?_
  rintro found _ ⟨rfl, rfl⟩
  exact ⟨fun _ => rfl, rfl⟩

theorem obeys_confirmReservedTx (epoch : BitVec w) (permit : Permit w frameSize) :
    Obeys (confirmReservedTx epoch) (Share.own .tx permit) (fun ok left =>
      if ok = true then left = Share.own .tx permit else left = 0) := by
  refine Sharing.Obeys.bind (quiet_epochIsActive epoch _) ?_
  rintro active _ rfl
  refine Sharing.obeys_ite (fun _ => rfl) fun _ => ?_
  refine Sharing.Obeys.bind obeys_releaseTx ?_
  rintro _ _ rfl
  exact rfl

/-- A transmit slot that was just claimed is kept or released. -/
theorem obeys_confirmClaimed (epoch : BitVec w) (claimed : Claimed .free .client permit) :
    Obeys (do storeEpoch .tx epoch; confirmReservedTx epoch) (Share.own .tx permit)
      GivesToken := by
  refine Sharing.Obeys.bind (turns_edit (fun slot => { slot with epoch }) (fun _ => True)
    (by simp [QueueAccess.touches]) (fun _ => rfl) (fun _ => rfl) fun _ _ => trivial).obeys ?_
  rintro _ _ ⟨_, rfl⟩
  refine (obeys_confirmReservedTx epoch _).mono ?_
  intro ok left ends
  rw [GivesToken]
  by_cases confirmed : ok = true
  · rw [if_pos confirmed] at ends ⊢
    exact ⟨{ permit with slot := { permit.slot with epoch } },
      ⟨claimed.state, claimed.free rfl⟩, ends⟩
  · rw [if_neg confirmed] at ends ⊢
    exact ends

theorem obeys_reserveTx (epoch : BitVec w) :
    Obeys (reserveTx epoch : SharedProgram w frameSize Bool) 0 GivesToken := by
  refine Sharing.Obeys.bind (quiet_epochIsActive epoch _) ?_
  rintro active _ rfl
  refine Sharing.obeys_ite (fun _ => rfl) fun _ => ?_
  refine Sharing.Obeys.bind (obeys_claim ⟨.inl rfl, .inl rfl⟩) ?_
  intro ok left outcome
  refine Sharing.obeys_ite (fun fails => ?_) fun holds => ?_
  · rw [Exchanged, if_neg fails] at outcome
    exact outcome
  · rw [Exchanged, if_pos (not_not.mp holds)] at outcome
    obtain ⟨permit, claimed, rfl⟩ := outcome
    rw [add_zero]
    exact obeys_confirmClaimed epoch claimed

theorem obeys_claimedIsCurrent (name : SlotName) (epoch : BitVec w)
    (permit : Permit w frameSize) :
    Obeys (claimedIsCurrent name epoch) (Share.own name permit) (fun _ left =>
      left = Share.own name permit) := by
  refine Sharing.Obeys.bind (quiet_loadEpoch name _) ?_
  rintro found _ rfl
  exact Sharing.obeys_ite (fun _ => rfl) fun _ => quiet_epochIsActive epoch _

theorem obeys_claimReadyRx (epoch : BitVec w) :
    Obeys (claimReadyRx epoch : SharedProgram w frameSize Bool) 0 (fun ok left =>
      if ok = true then ∃ permit, RxHeld permit ∧ left = Share.own .rx permit
      else left = 0) := by
  refine Sharing.Obeys.bind (quiet_epochIsActive epoch _) ?_
  rintro active _ rfl
  refine Sharing.obeys_ite (fun _ => rfl) fun _ => ?_
  refine Sharing.Obeys.bind (quiet_readyUnderOther .rx epoch _) ?_
  rintro other _ rfl
  refine Sharing.obeys_ite (fun _ => ?_) fun _ => ?_
  · refine Sharing.Obeys.bind obeys_discardReadyRx ?_
    rintro _ _ rfl
    exact rfl
  · refine (obeys_claim ⟨.inr rfl, .inl rfl⟩).mono ?_
    intro ok left outcome
    rw [Exchanged] at outcome
    split
    · rename_i holds
      rw [if_pos holds] at outcome
      obtain ⟨permit, claimed, rfl⟩ := outcome
      exact ⟨permit, ⟨claimed.state, claimed.ready rfl⟩, add_zero _⟩
    · rename_i fails
      rw [if_neg fails] at outcome
      exact outcome

theorem obeys_confirmClaimedRx (epoch : BitVec w) (permit : Permit w frameSize) :
    Obeys (confirmClaimedRx epoch) (Share.own .rx permit) (fun ok left =>
      if ok = true then left = Share.own .rx permit else left = 0) := by
  refine Sharing.Obeys.bind (obeys_claimedIsCurrent .rx epoch permit) ?_
  rintro current _ rfl
  refine Sharing.obeys_ite (fun _ => rfl) fun _ => ?_
  refine Sharing.Obeys.bind obeys_releaseRx ?_
  rintro _ _ rfl
  exact rfl

theorem obeys_restoreRx (epoch : BitVec w) (held : RxHeld permit) :
    Obeys (restoreRxAfterTxContention epoch) (Share.own .rx permit) (fun _ left => left = 0) := by
  refine Sharing.Obeys.bind (obeys_claimedIsCurrent .rx epoch permit) ?_
  rintro current _ rfl
  refine Sharing.obeys_ite (fun _ => ?_) fun _ => obeys_releaseRx
  refine Sharing.Obeys.bind (turns_storeReady held.waiting).obeys ?_
  rintro _ _ rfl
  exact obeys_wake _ _

theorem obeys_reserveClaimedReceive (epoch : BitVec w) (held : RxHeld permit) :
    Obeys (reserveClaimedReceive epoch) (Share.own .rx permit) (fun ok left =>
      if ok = true then ∃ reserved, TxHeld reserved ∧
        left = Share.own .tx reserved + Share.own .rx permit
      else left = 0) := by
  refine Sharing.Obeys.bind (obeys_confirmClaimedRx epoch permit) ?_
  intro confirmed left ends
  refine Sharing.obeys_ite (fun refused => ?_) fun holds => ?_
  · rw [if_neg refused] at ends
    exact ends
  · rw [if_pos (not_not.mp holds)] at ends
    subst ends
    have reserve := (@obeys_reserveTx w frameSize _ epoch).frame (Share.own .rx permit)
    rw [zero_add] at reserve
    refine Sharing.Obeys.bind reserve ?_
    rintro ok _ ⟨own, rfl, outcome⟩
    rw [GivesToken] at outcome
    refine Sharing.obeys_ite (fun reserved => ?_) fun contended => ?_
    · rw [if_pos reserved] at outcome
      obtain ⟨reservation, held, rfl⟩ := outcome
      exact ⟨reservation, held, rfl⟩
    · rw [if_neg contended] at outcome
      subst outcome
      rw [zero_add]
      refine Sharing.Obeys.bind (obeys_restoreRx epoch held) ?_
      rintro _ _ rfl
      exact rfl

theorem obeys_reserveReceive (epoch : BitVec w) :
    Obeys (reserveReceive epoch : SharedProgram w frameSize Bool) 0 GivesTokens := by
  refine Sharing.Obeys.bind (obeys_claimReadyRx epoch) ?_
  intro claimed left ends
  refine Sharing.obeys_ite (fun refused => ?_) fun holds => ?_
  · rw [if_neg refused] at ends
    exact ends
  · rw [if_pos (not_not.mp holds)] at ends
    obtain ⟨permit, held, rfl⟩ := ends
    refine (obeys_reserveClaimedReceive epoch held).mono ?_
    intro ok left outcome
    rw [GivesTokens]
    split
    · rename_i reserved
      rw [if_pos reserved] at outcome
      obtain ⟨reservation, mine, rfl⟩ := outcome
      exact ⟨reservation, permit, mine, held, rfl⟩
    · rename_i contended
      rw [if_neg contended] at outcome
      exact outcome

end Reservations

/-! ## Tokens and leases -/

section Tokens
variable {permit : Permit w frameSize}

theorem obeys_lend (name : SlotName) (len : Nat) (f : SliceEdit) (permit : Permit w frameSize) :
    Obeys (lend name len f) (Share.own name permit) (fun slice left =>
      slice = permit.slot.bytes.1.take len ∧
        left = Share.own name { permit with slot := permit.slot.edit len f }) := by
  have turns : (queueSharing w frameSize).Turns (.lend name len f) (Share.own name permit)
      (fun slice left => slice = permit.slot.bytes.1.take len ∧
        left = Share.own name { permit with slot := permit.slot.edit len f }) := by
    refine turns_edit (Slot.edit len f) _ ?_ (fun _ => rfl) (fun _ => rfl) fun memory same => ?_
    · intro other touches
      simpa [QueueAccess.touches, eq_comm] using touches
    · rw [← same]
      rfl
  exact turns.obeys

theorem obeys_consumeRx (token : RxToken w) (f : SliceEdit) (held : RxHeld permit) :
    Obeys (consumeRx token f) (Share.own .rx permit) (fun _ left => left = 0) := by
  refine Sharing.Obeys.bind (obeys_isCurrent .rx token.epoch permit) ?_
  rintro valid _ ⟨current, rfl⟩
  refine Sharing.Obeys.bind (obeys_currentLen .rx valid permit) ?_
  rintro len _ ⟨size, rfl⟩
  refine Sharing.Obeys.bind (obeys_lend .rx len f permit) ?_
  rintro slice _ ⟨rfl, rfl⟩
  refine Sharing.obeys_ite (fun holds => ?_) fun _ => obeys_releaseRx
  have waits : permit.waiting = some (token.epoch, permit.slot.bytes.1.take len) := by
    rw [held.waiting, current holds, size holds]
    rfl
  refine Sharing.Obeys.bind (turns_note ?_ ?_ ?_).obeys ?_
  · intro trace same
    exact same.trans waits
  · intro other different
    cases other with
    | rx => exact absurd rfl different
    | tx => exact ⟨rfl, rfl⟩
  · exact fun _ => rfl
  · rintro _ _ rfl
    exact obeys_releaseRx

theorem obeys_publishTx (epoch : BitVec w) (frame : Bytes) (len : Nat)
    (empty : permit.waiting = none) (same : permit.slot.epoch = epoch)
    (holds : permit.slot.bytes.1.take (min len frameSize) = frame) :
    Obeys (publishTx epoch frame len) (Share.own .tx permit) (fun _ left => left = 0) := by
  refine Sharing.Obeys.bind (turns_edit (fun slot => { slot with len }) (fun _ => True)
    (by simp [QueueAccess.touches]) (fun _ => rfl) (fun _ => rfl) fun _ _ => trivial).obeys ?_
  rintro _ _ ⟨_, rfl⟩
  refine Sharing.Obeys.bind (turns_note ?_ ?_ ?_).obeys ?_
  · exact fun trace waits => waits.trans empty
  · intro other different
    cases other with
    | rx => exact ⟨rfl, rfl⟩
    | tx => exact absurd rfl different
  · exact fun _ => rfl
  · rintro _ _ rfl
    refine Sharing.Obeys.bind (turns_storeReady ?_).obeys ?_
    · show some (epoch, frame) =
        some (permit.slot.epoch, permit.slot.bytes.1.take (min len frameSize))
      rw [same, holds]
    · rintro _ _ rfl
      exact obeys_wake _ _

theorem obeys_consumeTx (token : TxToken w) (len : Nat) (f : SliceEdit) (held : TxHeld permit) :
    Obeys (consumeTx token len f) (Share.own .tx permit) (fun _ left => left = 0) := by
  refine Sharing.obeys_ite (fun fits => ?_) fun _ => obeys_releaseTx
  refine Sharing.Obeys.bind (obeys_lend .tx len f permit) ?_
  rintro slice _ ⟨rfl, rfl⟩
  refine Sharing.Obeys.bind (obeys_isCurrent .tx token.epoch _) ?_
  rintro valid _ ⟨current, rfl⟩
  refine Sharing.obeys_ite (fun holds => ?_) fun _ => obeys_releaseTx
  exact obeys_publishTx token.epoch _ len held.waiting (current holds) (frame_edit permit.slot fits)

theorem obeys_returnTx (leased : TxLeased permit) :
    Obeys returnTx (Share.own .tx permit) (fun _ left => left = 0) := by
  refine Sharing.Obeys.bind (turns_storeReady leased.waiting).obeys ?_
  rintro _ _ rfl
  exact obeys_wake _ _

theorem obeys_dropLease (lease : TxLease w) (leased : TxLeased permit) :
    Obeys (dropLease lease) (Share.own .tx permit) (fun _ left => left = 0) := by
  refine Sharing.Obeys.bind (obeys_isCurrent .tx lease.epoch permit) ?_
  rintro current _ ⟨_, rfl⟩
  exact Sharing.obeys_ite (fun _ => obeys_returnTx leased) fun _ => obeys_releaseTx

theorem obeys_report (lease : TxLease w) (outcome : TxOutcome) (leased : TxLeased permit) :
    Obeys (report lease outcome) (Share.own .tx permit) (fun _ left => left = 0) := by
  refine Sharing.obeys_ite (fun _ => ?_) fun _ => obeys_releaseTx
  refine Sharing.Obeys.bind (obeys_isCurrent .tx lease.epoch permit) ?_
  rintro current _ ⟨_, rfl⟩
  exact Sharing.obeys_ite (fun _ => obeys_returnTx leased) fun _ => obeys_releaseTx

theorem obeys_asSlice (lease : TxLease w) (leased : TxLeased permit) :
    Obeys (asSlice lease) (Share.own .tx permit) (fun _ left => left = Share.own .tx permit) := by
  refine Sharing.Obeys.bind (obeys_isCurrent .tx lease.epoch permit) ?_
  rintro valid _ ⟨current, rfl⟩
  refine Sharing.Obeys.bind (obeys_currentLen .tx valid permit) ?_
  rintro len _ ⟨size, rfl⟩
  have reads : Obeys (readBuffer .tx len) (Share.own .tx permit) (fun slice left =>
      slice = permit.slot.bytes.1.take len ∧ left = Share.own .tx permit) := by
    refine (turns_observe (fun _ => rfl) (ownerTouches_own ?_)
      fun memory others shared => ?_).obeys
    · intro other touches
      simpa [QueueAccess.touches, eq_comm] using touches
    · rw [(Shared.owner shared).1]
      rfl
  refine Sharing.Obeys.bind reads ?_
  rintro slice _ ⟨rfl, rfl⟩
  refine Sharing.obeys_ite (fun holds => ?_) fun _ => rfl
  have waits : permit.waiting = some (lease.epoch, permit.slot.bytes.1.take len) := by
    rw [leased.waiting, current holds, size holds]
    rfl
  refine Sharing.Obeys.bind (turns_note ?_ ?_ ?_).obeys ?_
  · exact fun trace same => same.trans waits
  · intro other different
    cases other with
    | rx => exact ⟨rfl, rfl⟩
    | tx => exact absurd rfl different
  · exact fun _ => rfl
  · rintro _ _ rfl
    exact rfl

end Tokens

/-! ## The driver's side -/

section Driver
variable {permit : Permit w frameSize}

theorem obeys_publishRx (epoch : BitVec w) (frame : Bytes) (fits : frame.length ≤ frameSize)
    (empty : permit.waiting = none) :
    Obeys (publishRx epoch frame fits) (Share.own .rx permit) (fun _ left =>
      left = Share.owes .rx (some epoch)) := by
  refine Sharing.Obeys.bind (turns_edit (fun slot => slot.copyIn frame fits) (fun _ => True)
    ?_ (fun _ => rfl) (fun _ => rfl) fun _ _ => trivial).obeys ?_
  · intro other touches
    simpa [QueueAccess.touches, eq_comm] using touches
  rintro _ _ ⟨_, rfl⟩
  refine Sharing.Obeys.bind (turns_edit (fun slot => { slot with epoch }) (fun _ => True)
    (by simp [QueueAccess.touches]) (fun _ => rfl) (fun _ => rfl) fun _ _ => trivial).obeys ?_
  rintro _ _ ⟨_, rfl⟩
  refine Sharing.Obeys.bind (turns_edit (fun slot => { slot with len := frame.length })
    (fun _ => True) (by simp [QueueAccess.touches]) (fun _ => rfl) (fun _ => rfl)
    fun _ _ => trivial).obeys ?_
  rintro _ _ ⟨_, rfl⟩
  refine Sharing.Obeys.bind (turns_note ?_ ?_ ?_).obeys ?_
  · exact fun trace waits => waits.trans empty
  · intro other different
    cases other with
    | rx => exact absurd rfl different
    | tx => exact ⟨rfl, rfl⟩
  · exact fun _ => rfl
  · rintro _ _ rfl
    refine (turns_storeReady ?_).obeys
    have holds :
        (splice permit.slot.bytes.1 0 frame).take (min frame.length frameSize) = frame := by
      rw [Nat.min_eq_left fits, splice, List.take_zero, List.nil_append]
      exact List.take_left' rfl
    show some (epoch, frame) =
      some (epoch, (splice permit.slot.bytes.1 0 frame).take (min frame.length frameSize))
    rw [holds]

/-- A frame of an epoch that is over is discarded, or is none any more. -/
theorem obeys_discardReadyRxEpoch (epoch : BitVec w) :
    Obeys (discardReadyRxEpoch epoch : SharedProgram w frameSize Unit)
      (Share.owes .rx (some epoch)) (fun _ left => left = 0) := by
  refine Sharing.Obeys.bind turns_forgetEpoch.obeys ?_
  rintro found _ rfl
  refine Sharing.obeys_ite (fun other => ?_) fun same => ?_
  · rw [if_neg other]
    exact rfl
  · rw [if_pos (not_not.mp same)]
    refine Sharing.Obeys.bind turns_claimOwing.obeys ?_
    intro ok left outcome
    refine Sharing.obeys_ite (fun holds => ?_) fun fails => ?_
    · rw [Exchanged, if_pos holds] at outcome
      obtain ⟨permit, _, rfl⟩ := outcome
      rw [add_zero]
      exact obeys_releaseRx
    · rw [Exchanged, if_neg fails] at outcome
      exact outcome

theorem obeys_copyAndPublishRx (epoch : BitVec w) (frame : Bytes)
    (fits : frame.length ≤ frameSize) (empty : permit.waiting = none) :
    Obeys (copyAndPublishRx epoch frame fits) (Share.own .rx permit) (fun _ left => left = 0) := by
  refine Sharing.Obeys.bind (quiet_epochIsActive epoch _) ?_
  rintro active _ rfl
  refine Sharing.obeys_ite (fun _ => ?_) fun _ => ?_
  · refine Sharing.Obeys.bind obeys_releaseRx ?_
    rintro _ _ rfl
    exact rfl
  · refine Sharing.Obeys.bind (obeys_publishRx epoch frame fits empty) ?_
    rintro _ _ rfl
    refine Sharing.Obeys.bind (quiet_epochIsActive epoch _) ?_
    rintro still _ rfl
    refine Sharing.obeys_ite (fun _ => ?_) fun _ => ?_
    · refine Sharing.Obeys.bind (obeys_discardReadyRxEpoch epoch) ?_
      rintro _ _ rfl
      exact rfl
    · refine Sharing.Obeys.bind (obeys_wake _ _) ?_
      rintro _ _ rfl
      exact rfl

theorem obeys_pushRx (frame : Bytes) :
    Obeys (pushRx frame : SharedProgram w frameSize (Except QueueError Unit)) 0
      (fun _ left => left = 0) := by
  rw [pushRx]
  split
  · rename_i fits
    refine Sharing.Obeys.bind (quiet_activeEpoch _) ?_
    rintro epoch _ rfl
    cases epoch with
    | none => exact rfl
    | some epoch =>
        refine Sharing.Obeys.bind (obeys_claim ⟨.inl rfl, .inr rfl⟩) ?_
        intro ok left outcome
        refine Sharing.obeys_ite (fun fails => ?_) fun holds => ?_
        · rw [Exchanged, if_neg fails] at outcome
          exact outcome
        · rw [Exchanged, if_pos (not_not.mp holds)] at outcome
          obtain ⟨permit, claimed, rfl⟩ := outcome
          rw [add_zero]
          exact obeys_copyAndPublishRx epoch frame fits (claimed.free rfl)
  · exact rfl

/-- The lease of a frame. -/
def GivesLease (given : Bool) (left : Share w frameSize) : Prop :=
  if given = true then ∃ permit, TxLeased permit ∧ left = Share.own .tx permit else left = 0

theorem obeys_takeTx :
    Obeys (takeTx : SharedProgram w frameSize (Option (TxLease w))) 0 (fun lease left =>
      GivesLease lease.isSome left) := by
  refine Sharing.Obeys.bind (quiet_activeEpoch _) ?_
  rintro epoch _ rfl
  cases epoch with
  | none => exact rfl
  | some epoch =>
      have stale : Obeys (discardStaleTx epoch : SharedProgram w frameSize Bool) 0
          (fun _ left => left = 0) := by
        refine Sharing.Obeys.bind (quiet_readyUnderOther .tx epoch _) ?_
        rintro other _ rfl
        refine Sharing.obeys_ite (fun _ => rfl) fun _ => ?_
        refine Sharing.Obeys.bind obeys_discardReadyTx ?_
        rintro _ _ rfl
        exact rfl
      refine Sharing.Obeys.bind stale ?_
      rintro discarded _ rfl
      refine Sharing.obeys_ite (fun _ => rfl) fun _ => ?_
      refine Sharing.Obeys.bind (obeys_claim ⟨.inr rfl, .inr rfl⟩) ?_
      intro ok left outcome
      refine Sharing.obeys_ite (fun fails => ?_) fun holds => ?_
      · rw [Exchanged, if_neg fails] at outcome
        exact outcome
      · rw [Exchanged, if_pos (not_not.mp holds)] at outcome
        obtain ⟨permit, claimed, rfl⟩ := outcome
        rw [add_zero]
        refine Sharing.Obeys.bind (obeys_claimedIsCurrent .tx epoch permit) ?_
        rintro current _ rfl
        refine Sharing.obeys_ite (fun _ => ?_) fun _ => ?_
        · refine Sharing.Obeys.bind obeys_releaseTx ?_
          rintro _ _ rfl
          exact rfl
        · exact ⟨permit, ⟨claimed.state, claimed.ready rfl⟩, rfl⟩

end Driver

/-! ## Polls -/

section Polls
variable {watcher : Watcher} {task : TaskId} {watch : Watch w} {epoch : BitVec w}

/-- The watch that a poll is left with; a poll that found nothing says so. -/
def Watched (watcher : Watcher) (nothing : Prop) (left : Share w frameSize) : Prop :=
  ∃ watch : Watch w, left = Share.watching watcher watch ∧ (nothing → watch.missed = some false)

theorem obeys_activeEpochIn (data : watcher.poll ≠ .linkState) (tries : Nat) (watch : Watch w)
    (full : watch.Full watcher.poll) :
    Obeys (activeEpochIn tries : SharedProgram w frameSize (Option (BitVec w)))
      (Share.watching watcher watch) (fun epoch left => ∃ learnt : Watch w,
        left = Share.watching watcher learnt ∧
        (epoch = none → tries = 0 ∧ learnt = watch ∨ learnt.missed = some false) ∧
        ∀ active, epoch = some active → learnt.epoch = some active) := by
  induction tries generalizing watch with
  | zero => exact ⟨watch, rfl, fun _ => .inl ⟨rfl, rfl⟩, by simp⟩
  | succ tries hypothesis =>
      refine Sharing.Obeys.bind (turns_learnEpoch full).obeys ?_
      rintro first _ rfl
      refine Sharing.Obeys.bind (turns_learnLink data (Watch.full_of_epoch rfl)).obeys ?_
      rintro up _ rfl
      refine Sharing.obeys_ite (fun down => ?_) fun holds => ?_
      · rw [if_neg down]
        exact ⟨_, rfl, fun _ => .inr rfl, by simp⟩
      · rw [if_pos (not_not.mp holds)]
        refine Sharing.Obeys.bind (turns_compareEpoch rfl).obeys ?_
        rintro second _ rfl
        refine Sharing.obeys_ite (fun same => ?_) fun changed => ?_
        · rw [if_pos same.symm]
          refine ⟨_, rfl, by simp, fun active ends => ?_⟩
          cases ends
          rfl
        · rw [if_neg (Ne.symm changed)]
          refine (hypothesis _ (Watch.full_of_epoch rfl)).mono ?_
          rintro epoch left ⟨learnt, rfl, missed, known⟩
          refine ⟨learnt, rfl, fun none => .inr ?_, known⟩
          rcases missed none with ⟨_, rfl⟩ | missed
          · rfl
          · exact missed

theorem obeys_activeEpoch (data : watcher.poll ≠ .linkState) (watch : Watch w)
    (full : watch.Full watcher.poll) :
    Obeys (activeEpoch : SharedProgram w frameSize (Option (BitVec w)))
      (Share.watching watcher watch) (fun epoch left => ∃ learnt : Watch w,
        left = Share.watching watcher learnt ∧ (epoch = none → learnt.missed = some false) ∧
        ∀ active, epoch = some active → learnt.epoch = some active) := by
  refine (obeys_activeEpochIn data 3 watch full).mono ?_
  rintro epoch left ⟨learnt, rfl, missed, known⟩
  refine ⟨learnt, rfl, fun none => ?_, known⟩
  rcases missed none with ⟨impossible, _⟩ | missed
  · cases impossible
  · exact missed

theorem obeys_epochIsActive (data : watcher.poll ≠ .linkState)
    (known : watch.epoch = some epoch) :
    Obeys (epochIsActive epoch : SharedProgram w frameSize Bool) (Share.watching watcher watch)
      (fun active left => left = Share.watching watcher
        (if active = true then watch else watch.found false)) := by
  refine Sharing.Obeys.bind (turns_learnLink data (Watch.full_of_epoch known)).obeys ?_
  rintro up _ rfl
  refine Sharing.obeys_ite (fun down => ?_) fun holds => ?_
  · rw [if_neg down]
    exact rfl
  · rw [if_pos (not_not.mp holds)]
    refine Sharing.Obeys.bind (turns_compareEpoch known).obeys ?_
    rintro now _ rfl
    show Share.watching watcher _ = Share.watching watcher _
    simp only [decide_eq_true_eq]

theorem obeys_readyUnderOther (known : watch.epoch = some epoch) :
    Obeys (readyUnderOther .rx epoch : SharedProgram w frameSize Bool)
      (Share.watching ⟨task, .receive⟩ watch) (fun other left =>
        left = Share.watching ⟨task, .receive⟩
          (if other = true then watch.found false else watch)) := by
  refine Sharing.Obeys.bind (quiet_loadState .rx _) ?_
  rintro state _ rfl
  refine Sharing.obeys_ite (fun _ => rfl) fun _ => ?_
  refine Sharing.Obeys.bind
    (turns_learnSlotEpoch known fun _ _ available => available.rxEpoch).obeys ?_
  rintro found _ rfl
  by_cases same : found = epoch
  · rw [if_pos same]
    simp [same, Sharing.Obeys, pure]
  · rw [if_neg same]
    simp [same, Sharing.Obeys, pure]

theorem obeys_claimReadyRx_watched (known : watch.epoch = some epoch) :
    Obeys (claimReadyRx epoch : SharedProgram w frameSize Bool)
      (Share.watching ⟨task, .receive⟩ watch) (fun ok left => ∃ rest own, left = own + rest ∧
        Watched ⟨task, .receive⟩ True rest ∧
        if ok = true then ∃ permit, RxHeld permit ∧ own = Share.own .rx permit else own = 0) := by
  refine Sharing.Obeys.bind (obeys_epochIsActive (by simp) known) ?_
  rintro active _ rfl
  refine Sharing.obeys_ite (fun stale => ?_) fun holds => ?_
  · rw [if_neg stale]
    exact ⟨_, 0, (zero_add _).symm, ⟨_, rfl, fun _ => rfl⟩, rfl⟩
  · rw [if_pos (not_not.mp holds)]
    refine Sharing.Obeys.bind (obeys_readyUnderOther known) ?_
    rintro other _ rfl
    refine Sharing.obeys_ite (fun other => ?_) fun same => ?_
    · rw [if_pos other]
      refine Sharing.Obeys.bind (Quiet.of_empty obeys_discardReadyRx _) ?_
      rintro _ _ rfl
      exact ⟨_, 0, (zero_add _).symm, ⟨_, rfl, fun _ => rfl⟩, rfl⟩
    · rw [if_neg same]
      refine (turns_claimWatched ⟨.inr rfl, .inl rfl⟩ (Watch.full_of_epoch known)
        (fun memory other available => other available.rxReady) (by decide)).obeys.mono ?_
      intro ok left outcome
      rw [Exchanged] at outcome
      by_cases ended : ok = true
      · rw [if_pos ended] at outcome
        obtain ⟨permit, claimed, rfl⟩ := outcome
        refine ⟨_, _, rfl, ⟨_, rfl, fun _ => rfl⟩, ?_⟩
        rw [if_pos ended]
        exact ⟨permit, ⟨claimed.state, claimed.ready rfl⟩, rfl⟩
      · rw [if_neg ended] at outcome
        subst outcome
        refine ⟨_, 0, (zero_add _).symm, ⟨_, rfl, fun _ => rfl⟩, ?_⟩
        rw [if_neg ended]

/-- A reception that finds nothing knows it. -/
theorem obeys_tryReceive_watched (watch : Watch w) (full : watch.Full .receive) :
    Obeys (tryReceive : SharedProgram w frameSize (Option (RxToken w × TxToken w)))
      (Share.watching ⟨task, .receive⟩ watch) (fun tokens left => ∃ rest own, left = own + rest ∧
        Watched ⟨task, .receive⟩ (tokens = none) rest ∧ GivesTokens tokens.isSome own) := by
  refine Sharing.Obeys.bind (obeys_activeEpoch (by simp) watch full) ?_
  rintro epoch _ ⟨learnt, rfl, missed, known⟩
  cases epoch with
  | none => exact ⟨_, 0, (zero_add _).symm, ⟨_, rfl, fun _ => missed rfl⟩, rfl⟩
  | some epoch =>
      have reserve : Obeys (reserveReceive epoch : SharedProgram w frameSize Bool)
          (Share.watching ⟨task, .receive⟩ learnt) (fun ok left => ∃ rest own, left = own + rest ∧
            Watched ⟨task, .receive⟩ True rest ∧ GivesTokens ok own) := by
        refine Sharing.Obeys.bind (obeys_claimReadyRx_watched (known epoch rfl)) ?_
        rintro claimed _ ⟨rest, own, rfl, watched, outcome⟩
        refine Sharing.obeys_ite (fun refused => ?_) fun holds => ?_
        · rw [if_neg refused] at outcome
          exact ⟨rest, own, rfl, watched, outcome⟩
        · rw [if_pos (not_not.mp holds)] at outcome
          obtain ⟨permit, held, rfl⟩ := outcome
          refine ((obeys_reserveClaimedReceive epoch held).frame rest).mono ?_
          rintro ok _ ⟨own, rfl, outcome⟩
          refine ⟨rest, own, rfl, watched, ?_⟩
          rw [GivesTokens]
          split
          · rename_i reserved
            rw [if_pos reserved] at outcome
            obtain ⟨reservation, mine, rfl⟩ := outcome
            exact ⟨reservation, permit, mine, held, rfl⟩
          · rename_i contended
            rw [if_neg contended] at outcome
            exact outcome
      refine Sharing.Obeys.bind reserve ?_
      rintro ok _ ⟨rest, own, rfl, ⟨mine, rfl, missed⟩, gives⟩
      refine Sharing.obeys_ite (fun refused => ?_) fun holds => ?_
      · refine ⟨_, own, rfl, ⟨mine, rfl, fun _ => missed trivial⟩, ?_⟩
        rw [GivesTokens, if_neg refused] at gives
        exact gives
      · refine ⟨_, own, rfl, ⟨mine, rfl, fun impossible => by cases impossible⟩, ?_⟩
        rw [not_not.mp holds] at gives
        exact gives

/-- A transmission that finds no room knows it. -/
theorem obeys_tryTransmit_watched (watch : Watch w) (full : watch.Full .transmit) :
    Obeys (tryTransmit : SharedProgram w frameSize (Option (TxToken w)))
      (Share.watching ⟨task, .transmit⟩ watch) (fun token left => ∃ rest own, left = own + rest ∧
        Watched ⟨task, .transmit⟩ (token = none) rest ∧ GivesToken token.isSome own) := by
  refine Sharing.Obeys.bind (obeys_activeEpoch (by simp) watch full) ?_
  rintro epoch _ ⟨learnt, rfl, missed, known⟩
  cases epoch with
  | none => exact ⟨_, 0, (zero_add _).symm, ⟨_, rfl, fun _ => missed rfl⟩, rfl⟩
  | some epoch =>
      have reserve : Obeys (reserveTx epoch : SharedProgram w frameSize Bool)
          (Share.watching ⟨task, .transmit⟩ learnt) (fun ok left => ∃ rest own, left = own + rest ∧
            Watched ⟨task, .transmit⟩ True rest ∧ GivesToken ok own) := by
        refine Sharing.Obeys.bind (obeys_epochIsActive (by simp) (known epoch rfl)) ?_
        rintro active _ rfl
        refine Sharing.obeys_ite (fun stale => ?_) fun holds => ?_
        · rw [if_neg stale]
          exact ⟨_, 0, (zero_add _).symm, ⟨_, rfl, fun _ => rfl⟩, rfl⟩
        · rw [if_pos (not_not.mp holds)]
          refine Sharing.Obeys.bind (turns_claimWatched ⟨.inl rfl, .inl rfl⟩
            (Watch.full_of_epoch (known epoch rfl))
            (fun memory other available => other available.txFree) (by decide)).obeys ?_
          intro ok left outcome
          refine Sharing.obeys_ite (fun fails => ?_) fun holds => ?_
          · rw [Exchanged, if_neg fails] at outcome
            subst outcome
            exact ⟨_, 0, (zero_add _).symm, ⟨_, rfl, fun _ => rfl⟩, rfl⟩
          · rw [Exchanged, if_pos (not_not.mp holds)] at outcome
            obtain ⟨permit, claimed, rfl⟩ := outcome
            refine ((obeys_confirmClaimed epoch claimed).frame _).mono ?_
            rintro ok _ ⟨own, rfl, gives⟩
            exact ⟨_, own, rfl, ⟨_, rfl, fun _ => rfl⟩, gives⟩
      refine Sharing.Obeys.bind reserve ?_
      rintro ok _ ⟨rest, own, rfl, ⟨mine, rfl, missed⟩, gives⟩
      refine Sharing.obeys_ite (fun refused => ?_) fun holds => ?_
      · refine ⟨_, own, rfl, ⟨mine, rfl, fun _ => missed trivial⟩, ?_⟩
        rw [GivesToken, if_neg refused] at gives
        exact gives
      · refine ⟨_, own, rfl, ⟨mine, rfl, fun impossible => by cases impossible⟩, ?_⟩
        rw [not_not.mp holds] at gives
        exact gives

theorem obeys_txIsReady (watch : Watch w) (full : watch.Full .txReady) :
    Obeys (txIsReady : SharedProgram w frameSize Bool) (Share.watching ⟨task, .txReady⟩ watch)
      (fun ready left => Watched ⟨task, .txReady⟩ (ready = false) left) := by
  refine Sharing.Obeys.bind (obeys_activeEpoch (by simp) watch full) ?_
  rintro epoch _ ⟨learnt, rfl, missed, known⟩
  cases epoch with
  | none => exact ⟨_, rfl, fun _ => missed rfl⟩
  | some epoch =>
      refine Sharing.Obeys.bind
        (turns_learnTxState (Watch.full_of_epoch (known epoch rfl))).obeys ?_
      rintro state _ rfl
      refine Sharing.obeys_ite (fun other => ?_) fun same => ?_
      · rw [if_neg other]
        exact ⟨_, rfl, fun _ => rfl⟩
      · rw [if_pos (not_not.mp same)]
        refine Sharing.Obeys.bind (turns_learnSlotEpoch (known epoch rfl)
          fun _ _ available => available.txEpoch).obeys ?_
        rintro found _ rfl
        refine ⟨_, rfl, fun other => ?_⟩
        rw [if_neg (of_decide_eq_false other)]
        rfl

theorem quiet_watch (watcher : Watcher) :
    Quiet (SharedQueue.watch watcher false : SharedProgram w frameSize Unit) :=
  quiet_pure ()

theorem obeys_watch (watcher : Watcher) (known : Watch w) :
    Obeys (SharedQueue.watch watcher true : SharedProgram w frameSize Unit)
      (Share.watching watcher known) (fun _ left =>
        left = Share.watching watcher ⟨[], none, none⟩) :=
  turns_noteWatches.obeys

theorem obeys_register (watcher : Watcher) (waker : WakerName) (watch : Watch w) :
    Obeys (register waker watcher.task : SharedProgram w frameSize Unit)
      (Share.watching watcher watch) (fun _ left =>
        left = Share.watching watcher { watch with registered := waker :: watch.registered }) :=
  turns_register_watched.obeys

theorem obeys_tryReceive :
    Obeys (tryReceive : SharedProgram w frameSize (Option (RxToken w × TxToken w))) 0
      (fun tokens left => GivesTokens tokens.isSome left) := by
  refine Sharing.Obeys.bind (quiet_activeEpoch _) ?_
  rintro epoch _ rfl
  cases epoch with
  | none => exact rfl
  | some epoch =>
      refine Sharing.Obeys.bind (obeys_reserveReceive epoch) ?_
      intro ok left gives
      rw [GivesTokens] at gives
      refine Sharing.obeys_ite (fun refused => ?_) fun holds => ?_
      · rw [if_neg refused] at gives
        exact gives
      · rw [if_pos (not_not.mp holds)] at gives
        exact gives

theorem obeys_tryTransmit :
    Obeys (tryTransmit : SharedProgram w frameSize (Option (TxToken w))) 0
      (fun token left => GivesToken token.isSome left) := by
  refine Sharing.Obeys.bind (quiet_activeEpoch _) ?_
  rintro epoch _ rfl
  cases epoch with
  | none => exact rfl
  | some epoch =>
      refine Sharing.Obeys.bind (obeys_reserveTx epoch) ?_
      intro ok left gives
      rw [GivesToken] at gives
      refine Sharing.obeys_ite (fun refused => ?_) fun holds => ?_
      · rw [if_neg refused] at gives
        exact gives
      · rw [if_pos (not_not.mp holds)] at gives
        exact gives

theorem quiet_txIsReady : Quiet (txIsReady : SharedProgram w frameSize Bool) := by
  refine quiet_activeEpoch.bind fun epoch => ?_
  cases epoch with
  | none => exact quiet_pure false
  | some epoch =>
      exact (quiet_loadState .tx).bind fun _ => quiet_ite (quiet_pure _)
        ((quiet_loadEpoch .tx).bind fun _ => quiet_pure _)

theorem quiet_register (waker : WakerName) (task : TaskId) :
    Quiet (register waker task : SharedProgram w frameSize Unit) :=
  Quiet.of_empty (turns_register task).obeys

theorem quiet_wakeByRef (task : TaskId) :
    Quiet (wakeByRef task : SharedProgram w frameSize Unit) :=
  Quiet.of_empty (turns_wakeByRef task).obeys

/-! ### Unwatched -/

theorem obeys_receive (task : TaskId) :
    Obeys (receive task false : SharedProgram w frameSize (Option (RxToken w × TxToken w))) 0
      (fun tokens left => GivesTokens tokens.isSome left) := by
  refine Sharing.Obeys.bind obeys_tryReceive ?_
  intro tokens left gives
  cases tokens with
  | some tokens => exact gives
  | none =>
      obtain rfl : left = 0 := gives
      refine Sharing.Obeys.bind (quiet_watch ⟨task, .receive⟩ _) ?_
      rintro _ _ rfl
      refine Sharing.Obeys.bind (quiet_register .link task _) ?_
      rintro _ _ rfl
      refine Sharing.Obeys.bind (quiet_register .rx task _) ?_
      rintro _ _ rfl
      refine Sharing.Obeys.bind (quiet_register .txSpace task _) ?_
      rintro _ _ rfl
      exact obeys_tryReceive

theorem obeys_transmit (task : TaskId) :
    Obeys (transmit task false : SharedProgram w frameSize (Option (TxToken w))) 0
      (fun token left => GivesToken token.isSome left) := by
  refine Sharing.Obeys.bind obeys_tryTransmit ?_
  intro token left gives
  cases token with
  | some token => exact gives
  | none =>
      obtain rfl : left = 0 := gives
      refine Sharing.Obeys.bind (quiet_watch ⟨task, .transmit⟩ _) ?_
      rintro _ _ rfl
      refine Sharing.Obeys.bind (quiet_register .link task _) ?_
      rintro _ _ rfl
      refine Sharing.Obeys.bind (quiet_register .txSpace task _) ?_
      rintro _ _ rfl
      exact obeys_tryTransmit

theorem quiet_linkState (task : TaskId) :
    Quiet (linkState task false : SharedProgram w frameSize Bool) := by
  refine quiet_loadLinkUp.bind fun first => ?_
  refine (quiet_watch ⟨task, .linkState⟩).bind fun _ => ?_
  refine (quiet_register .link task).bind fun _ => ?_
  refine quiet_loadLinkUp.bind fun second => ?_
  exact quiet_ite ((quiet_wakeByRef task).bind fun _ => quiet_pure second) (quiet_pure second)

theorem quiet_pollTxReady (task : TaskId) :
    Quiet (pollTxReady task false : SharedProgram w frameSize Bool) := by
  refine quiet_txIsReady.bind fun ready => ?_
  refine quiet_ite (quiet_pure true) ?_
  refine (quiet_watch ⟨task, .txReady⟩).bind fun _ => ?_
  exact (quiet_register .txReady task).bind fun _ => quiet_txIsReady

theorem quiet_registerTxWaker (task : TaskId) :
    Quiet (registerTxWaker task false : SharedProgram w frameSize Unit) := by
  refine (quiet_watch ⟨task, .txReady⟩).bind fun _ => ?_
  refine (quiet_register .txReady task).bind fun _ => ?_
  refine quiet_txIsReady.bind fun ready => ?_
  exact quiet_ite (quiet_wakeByRef task) (quiet_pure ())

/-! ### Watched -/

/-- What a watched poll gives, and its watch. -/
def Polled (watcher : Watcher) (Gives : Share w frameSize → Prop) (nothing : Prop)
    (left : Share w frameSize) : Prop :=
  ∃ rest own, left = own + rest ∧ Watched watcher nothing rest ∧ Gives own

theorem obeys_receive_watched (task : TaskId) (known : Watch w) :
    Obeys (receive task true : SharedProgram w frameSize (Option (RxToken w × TxToken w)))
      (Share.watching ⟨task, .receive⟩ known) (fun tokens left =>
        Polled ⟨task, .receive⟩ (GivesTokens tokens.isSome) (tokens = none) left) := by
  have first := (@obeys_tryReceive w frameSize _).frame
    (Share.watching ⟨task, .receive⟩ known)
  rw [zero_add] at first
  refine Sharing.Obeys.bind first ?_
  rintro tokens _ ⟨own, rfl, gives⟩
  cases tokens with
  | some tokens => exact ⟨_, own, rfl, ⟨known, rfl, by simp⟩, gives⟩
  | none =>
      obtain rfl : own = 0 := gives
      rw [zero_add]
      refine Sharing.Obeys.bind (obeys_watch ⟨task, .receive⟩ known) ?_
      rintro _ _ rfl
      refine Sharing.Obeys.bind (obeys_register ⟨task, .receive⟩ .link _) ?_
      rintro _ _ rfl
      refine Sharing.Obeys.bind (obeys_register ⟨task, .receive⟩ .rx _) ?_
      rintro _ _ rfl
      refine Sharing.Obeys.bind (obeys_register ⟨task, .receive⟩ .txSpace _) ?_
      rintro _ _ rfl
      exact obeys_tryReceive_watched _ (full_places .receive)

theorem obeys_transmit_watched (task : TaskId) (known : Watch w) :
    Obeys (transmit task true : SharedProgram w frameSize (Option (TxToken w)))
      (Share.watching ⟨task, .transmit⟩ known) (fun token left =>
        Polled ⟨task, .transmit⟩ (GivesToken token.isSome) (token = none) left) := by
  have first := (@obeys_tryTransmit w frameSize _).frame
    (Share.watching ⟨task, .transmit⟩ known)
  rw [zero_add] at first
  refine Sharing.Obeys.bind first ?_
  rintro token _ ⟨own, rfl, gives⟩
  cases token with
  | some token => exact ⟨_, own, rfl, ⟨known, rfl, by simp⟩, gives⟩
  | none =>
      obtain rfl : own = 0 := gives
      rw [zero_add]
      refine Sharing.Obeys.bind (obeys_watch ⟨task, .transmit⟩ known) ?_
      rintro _ _ rfl
      refine Sharing.Obeys.bind (obeys_register ⟨task, .transmit⟩ .link _) ?_
      rintro _ _ rfl
      refine Sharing.Obeys.bind (obeys_register ⟨task, .transmit⟩ .txSpace _) ?_
      rintro _ _ rfl
      exact obeys_tryTransmit_watched _ (full_places .transmit)

theorem obeys_linkState_watched (task : TaskId) (known : Watch w) :
    Obeys (linkState task true : SharedProgram w frameSize Bool)
      (Share.watching ⟨task, .linkState⟩ known) (fun seen left => ∃ learnt : Watch w,
        left = Share.watching ⟨task, .linkState⟩ learnt ∧ learnt.missed = some seen) := by
  refine Sharing.Obeys.bind (quiet_loadLinkUp _) ?_
  rintro first _ rfl
  refine Sharing.Obeys.bind (obeys_watch ⟨task, .linkState⟩ known) ?_
  rintro _ _ rfl
  refine Sharing.Obeys.bind (obeys_register ⟨task, .linkState⟩ .link _) ?_
  rintro _ _ rfl
  refine Sharing.Obeys.bind (turns_learnLinkState (full_places .linkState)).obeys ?_
  rintro second _ rfl
  refine Sharing.obeys_ite (fun _ => ?_) fun _ => ⟨_, rfl, rfl⟩
  refine Sharing.Obeys.bind (quiet_wakeByRef task _) ?_
  rintro _ _ rfl
  exact ⟨_, rfl, rfl⟩

theorem obeys_pollTxReady_watched (task : TaskId) (known : Watch w) :
    Obeys (pollTxReady task true : SharedProgram w frameSize Bool)
      (Share.watching ⟨task, .txReady⟩ known) (fun ready left =>
        Watched ⟨task, .txReady⟩ (ready = false) left) := by
  refine Sharing.Obeys.bind (quiet_txIsReady _) ?_
  rintro ready _ rfl
  refine Sharing.obeys_ite (fun _ => ⟨known, rfl, by simp⟩) fun _ => ?_
  refine Sharing.Obeys.bind (obeys_watch ⟨task, .txReady⟩ known) ?_
  rintro _ _ rfl
  refine Sharing.Obeys.bind (obeys_register ⟨task, .txReady⟩ .txReady _) ?_
  rintro _ _ rfl
  exact obeys_txIsReady _ (full_places .txReady)

theorem obeys_registerTxWaker_watched (task : TaskId) (known : Watch w) :
    Obeys (registerTxWaker task true : SharedProgram w frameSize Unit)
      (Share.watching ⟨task, .txReady⟩ known) (fun _ left =>
        Watched ⟨task, .txReady⟩ True left) := by
  refine Sharing.Obeys.bind (obeys_watch ⟨task, .txReady⟩ known) ?_
  rintro _ _ rfl
  refine Sharing.Obeys.bind (obeys_register ⟨task, .txReady⟩ .txReady _) ?_
  rintro _ _ rfl
  refine Sharing.Obeys.bind (obeys_txIsReady _ (full_places .txReady)) ?_
  rintro ready _ ⟨learnt, rfl, missed⟩
  refine Sharing.obeys_ite (fun _ => ?_) fun other => ?_
  · refine turns_wakeByRef_watched.obeys.mono ?_
    rintro _ _ rfl
    exact ⟨_, rfl, fun _ => rfl⟩
  · exact ⟨learnt, rfl, fun _ => missed (Bool.eq_false_iff.mpr other)⟩

end Polls

end SharedQueue

end Nrf7002
