import Nrf7002.Data.Descriptors
import Nrf7002.Device.Sends

/-! # Posting every receive descriptor

On a path without posted descriptors, `post_all_rx` succeeds only by handing every
descriptor over once, in order. -/

set_option autoImplicit false

namespace Nrf7002
open Foundation

namespace DataPath
variable {β ε : Type} {rx tx : Nat}

/-- The path after the posting of `count` descriptors from `first` on. -/
def postedFrom (path : DataPath rx tx) (first count : Nat) : DataPath rx tx :=
  { path with
    rxPosted := fun index =>
      if first ≤ index ∧ index < first + count then true else path.rxPosted index }

theorem postedFrom_zero (path : DataPath rx tx) (first : Nat) : path.postedFrom first 0 = path := by
  have same (index : Fin rx) :
      (if first ≤ index ∧ index < first + 0 then true else path.rxPosted index) =
        path.rxPosted index := by
    rw [if_neg (by omega)]
  simp only [postedFrom, same]

theorem postedFrom_succ (path : DataPath rx tx) (first count : Nat) :
    (path.setPosted first true).postedFrom (first + 1) count = path.postedFrom first (count + 1) := by
  have same (index : Fin rx) :
      (if first + 1 ≤ index ∧ index < first + 1 + count then true
        else if index = first then true else path.rxPosted index) =
      if first ≤ index ∧ index < first + (count + 1) then true else path.rxPosted index := by
    by_cases at_ : (index : Nat) = first
    · rw [if_pos at_, ite_self, if_pos (by omega)]
    · rw [if_neg at_]
      congr 1
      apply propext
      omega
  simp only [postedFrom, setPosted]
  congr 1
  exact funext same

theorem posted_postedFrom_all (path : DataPath rx tx) (index : Fin rx) :
    (path.postedFrom 0 rx).rxPosted index = true := by
  simp [postedFrom]

theorem posted_setPosted_ne (path : DataPath rx tx) {descriptor other : Nat} (value : Bool)
    (apart : other ≠ descriptor) :
    (path.setPosted descriptor value).posted other = path.posted other := by
  simp [posted, setPosted, apart]

/-- The enqueues that hand over `count` descriptors from `first` on. -/
def postings (queues : HpqmInfo) (commandBase : UInt32) (first count : Nat) :
    List QueueOperation :=
  (List.range' first count).map fun descriptor =>
    .enqueue queues.rxBufferBusy.1 (rxCommandAddress commandBase (UInt16.ofNat descriptor))

variable [Bus β ε]

theorem returns_postRx {descriptor : UInt16} {link next : DataLink β rx tx}
    (ends : Returns (postRx descriptor 0 : Program (DataLink β rx tx) (DataError ε) Unit)
      link () next) :
    ∃ queues, link.device.queues = some queues ∧
      next.path = link.path.setPosted descriptor.toNat true ∧
      Device.Performed link.device [.enqueue queues.rxBufferBusy.1
        (rxCommandAddress link.device.rxCommandBase descriptor)] next.device := by
  rw [returns_iff_post, post_postRx] at ends
  cases found : (rxTarget link descriptor 0 : Except (DataError ε) (Hpq × UInt32 × UInt32)) with
  | error failure =>
      rw [found] at ends
      cases ends.1
  | ok target =>
      obtain ⟨queue, commandBase, slot⟩ := target
      obtain ⟨inRange, queues, known, pool, base⟩ := rxTarget_eq_ok found
      obtain rfl := Option.some.inj pool
      rw [found] at ends
      dsimp only at base ends
      have prepared := (post_prepareRxDescriptor (ε := ε) slot commandBase descriptor link).ends
      have delivering := ends.ends
      split at delivering
      · cases delivering.1
      · rename_i r address done
        obtain ⟨⟨path, device⟩, addressed⟩ := prepared
        obtain rfl := addressed address done
        obtain ⟨_, ended⟩ := delivering.ends
        have delivered := (post_deliverRxDescriptor (ε := ε) queues.rxBufferBusy.1
          (rxCommandAddress commandBase descriptor)
          { stateAfter (prepareRxDescriptor slot commandBase descriptor) link with
            path := (stateAfter (prepareRxDescriptor slot commandBase descriptor) link).path.setPosted
              descriptor.toNat true }).ends
        rw [ended] at delivered
        obtain ⟨samePath, performed, _⟩ := delivered
        refine ⟨queues, known, ?_, ?_⟩
        · rw [samePath]
          exact congrArg (·.setPosted descriptor.toNat true) path
        · have whole := Device.performed_trans (Device.performed_nil device) performed
          rw [List.nil_append, base] at whole
          exact whole

theorem returns_postAllRxFrom {queues : HpqmInfo} (rest descriptor : Nat)
    {link next : DataLink β rx tx} (known : link.device.queues = some queues)
    (small : descriptor + rest ≤ 0xffff)
    (free : ∀ index, descriptor ≤ index → link.path.posted index = false)
    (ends : Returns (postAllRxFrom rest descriptor :
      Program (DataLink β rx tx) (DataError ε) Unit) link () next) :
    next.path = link.path.postedFrom descriptor rest ∧
      Device.Performed link.device
        (postings queues link.device.rxCommandBase descriptor rest) next.device := by
  induction rest generalizing descriptor link with
  | zero =>
      obtain ⟨_, rfl⟩ := returns_pure.mp ends
      exact ⟨(postedFrom_zero _ _).symm, Device.performed_nil rfl⟩
  | succ rest hypothesis =>
      have posting := returns_get_bind.mp ends
      have unposted := free descriptor (Nat.le_refl _)
      split at posting
      · obtain ⟨_, middle, first, more⟩ := returns_bind.mp posting
        obtain ⟨other, also, path, performed⟩ := returns_postRx first
        obtain rfl := Option.some.inj (known.symm.trans also)
        have number : (UInt16.ofNat descriptor).toNat = descriptor := by
          rw [UInt16.toNat_ofNat']
          exact Nat.mod_eq_of_lt (by omega)
        rw [number] at path
        have later : ∀ index, descriptor + 1 ≤ index → middle.path.posted index = false := by
          intro index after
          rw [path, posted_setPosted_ne _ _ (by omega)]
          exact free index (by omega)
        have queuesKept : middle.device.queues = some queues := by
          have same : middle.device.queues = link.device.queues :=
            congrArg (fun view : Device Unit => view.queues) performed
          exact same.trans known
        have baseKept : middle.device.rxCommandBase = link.device.rxCommandBase :=
          congrArg (fun view : Device Unit => view.rxCommandBase) performed
        obtain ⟨rest_, others⟩ := hypothesis (descriptor + 1) queuesKept (by omega) later more
        refine ⟨by rw [rest_, path, postedFrom_succ], ?_⟩
        rw [baseKept] at others
        have whole := Device.performed_trans performed others
        rw [postings, List.range'_succ]
        exact whole
      · rename_i posted
        exact absurd unposted (by simpa using posted)

/-- A success on a path without posted descriptors posts every descriptor once. -/
theorem returns_postAllRx {queues : HpqmInfo} {link next : DataLink β rx tx}
    (known : link.device.queues = some queues) (free : ∀ index, link.path.rxPosted index = false)
    (ends : Returns (postAllRx : Program (DataLink β rx tx) (DataError ε) Unit) link () next) :
    next.path = link.path.postedFrom 0 rx ∧
      Device.Performed link.device
        (postings queues link.device.rxCommandBase 0 rx) next.device := by
  have few : rx ≤ 0xffff := link.path.layout.counts.2.2.1
  apply returns_postAllRxFrom rx 0 known (by omega) _ ends
  intro index _
  rw [posted]
  split
  · exact free _
  · rfl

end DataPath

end Nrf7002
