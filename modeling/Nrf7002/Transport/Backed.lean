import Nrf7002.Foundation.Coupling
import Nrf7002.Transport.Flat

/-! # A bus in front of a memory

The bus decides how every transfer ends, and how many bytes of a failing read have
arrived; it never looks at what the memory holds.  A read therefore ends alike for every
memory and moves equally many bytes of it, and a write ends alike for every memory. -/

set_option autoImplicit false

namespace Nrf7002
open Foundation

structure BackedBus (β : Type) where
  bus : β
  memory : ByteMemory
  arrived : β → UInt32 → Nat → Nat

namespace BackedBus
variable {β ε α : Type}

/-- A read fills the buffer from the memory; one that fails has filled its front. -/
def read [Bus β ε] (offset : UInt32) : Program (BackedBus β × Bytes) ε Unit := fun s =>
  match Bus.read offset (s.1.bus, List.replicate s.2.length 0) with
  | .ok _ t => .ok ()
      ({ s.1 with bus := t.1 }, splice s.2 0 (s.1.memory.fetch offset.toNat s.2.length))
  | .error e t => .error e
      ({ s.1 with bus := t.1 }, splice s.2 0 (s.1.memory.fetch offset.toNat
        (min (s.1.arrived s.1.bus offset s.2.length) s.2.length)))

def write [Bus β ε] (offset : UInt32) (data : Bytes) : Program (BackedBus β) ε Unit := fun s =>
  match Bus.write offset data s.bus with
  | .ok _ t => .ok () { s with bus := t, memory := s.memory.store offset.toNat data }
  | .error e t => .error e { s with bus := t }

def onBus (x : Program β ε α) : Program (BackedBus β) ε α :=
  onField (·.bus) (fun bus s => { s with bus }) x

instance [Bus β ε] : Bus (BackedBus β) ε where
  readStatus opcode := onBus (Bus.readStatus opcode)
  writeStatus opcode value := onBus (Bus.writeStatus opcode value)
  read := read
  write := write
  read_length offset := by
    intro s
    simp only [stateAfter, read]
    cases Bus.read offset (s.1.bus, List.replicate s.2.length 0) with
    | ok value t => exact length_splice (by simp)
    | error failure t => exact length_splice (by simp)

/-- The bus with another memory behind it. -/
def holding (bus : BackedBus β) (memory : ByteMemory) : BackedBus β := { bus with memory }

/-- The buses differ in nothing but their memories. -/
def Alike (bus other : BackedBus β) : Prop := ∃ memory, other = bus.holding memory

theorem respects_write [Bus β ε] (offset : UInt32) (data : Bytes) :
    Respects Alike (Bus.write offset data : Program (BackedBus β) ε Unit) := by
  intro bus other alike
  obtain ⟨memory, rfl⟩ := alike
  constructor
  all_goals
    simp only [Bus.write, resultOf, stateAfter, write, holding]
    cases Bus.write offset data bus.bus with
    | ok done next =>
        first
        | rfl
        | exact ⟨_, rfl⟩
    | error failure next =>
        first
        | rfl
        | exact ⟨_, rfl⟩

end BackedBus

/-! ## Writes -/

namespace Rpu
variable {β ε : Type} [Bus β ε]

/-- The RPUs differ in nothing but what their memories hold. -/
def Alike (rpu other : Rpu (BackedBus β)) : Prop := BackedBus.Alike rpu.bus other.bus

theorem respects_busWrite (offset : UInt32) (data : Bytes) :
    Respects Alike (busWrite offset data : Program (Rpu (BackedBus β)) (RpuError ε) Unit) := by
  apply respects_onField ((BackedBus.respects_write offset data).mapError _)
  · intro rpu other alike
    exact alike
  · intro rpu other bus bus' _ alike
    exact alike

theorem respects_writeChunks (processor : Processor) (address : UInt32) (parts : List Bytes)
    (index : Nat) :
    Respects Alike (writeChunks processor address parts index :
      Program (Rpu (BackedBus β)) (RpuError ε) Unit) := by
  induction parts generalizing index with
  | nil => exact respects_pure ()
  | cons part rest hypothesis =>
      apply (respects_liftResult _).bind
      intro offset
      apply (respects_busWrite offset part).bind
      intro _
      exact hypothesis (index + 1)

theorem respects_writeTail (processor : Processor) (address : UInt32) (alignedLen : Nat)
    (data : Bytes) :
    Respects Alike (writeTail processor address alignedLen data :
      Program (Rpu (BackedBus β)) (RpuError ε) Unit) := by
  apply respects_ite
  · intro _
    exact respects_pure ()
  · intro _
    apply (respects_liftResult _).bind
    intro offset
    exact respects_busWrite offset _

theorem respects_write (processor : Processor) (address : UInt32) (data : Bytes) :
    Respects Alike (write processor address data :
      Program (Rpu (BackedBus β)) (RpuError ε) Unit) := by
  apply (respects_liftResult _).bind
  intro _
  apply (respects_writeChunks processor address _ 0).bind
  intro _
  exact respects_writeTail processor address _ data

theorem respects_writeU32 (processor : Processor) (address value : UInt32) :
    Respects Alike (writeU32 processor address value :
      Program (Rpu (BackedBus β)) (RpuError ε) Unit) := by
  apply respects_ite
  · intro _
    apply (respects_throw _).bind
    intro _
    exact respects_write processor address _
  · intro _
    exact respects_write processor address _

theorem respects_writeIndirectWords (processor : Processor) (words : List Bytes) :
    Respects Alike (writeIndirectWords processor words :
      Program (Rpu (BackedBus β)) (RpuError ε) Unit) := by
  induction words with
  | nil => exact respects_pure ()
  | cons word rest hypothesis =>
      apply (respects_writeU32 _ _ _).bind
      intro _
      exact hypothesis

theorem respects_writeIndirect (processor : Processor) (address : UInt32) (data : Bytes) :
    Respects Alike (writeIndirect processor address data :
      Program (Rpu (BackedBus β)) (RpuError ε) Unit) := by
  apply (respects_liftResult _).bind
  intro _
  apply (respects_writeU32 _ _ _).bind
  intro _
  exact respects_writeIndirectWords processor _

end Rpu

/-! ## Reads -/

namespace Rpu
variable {β ε : Type} {arrived : β → UInt32 → Nat → Nat} {len first start stop : Nat}

def backed (arrived : β → UInt32 → Nat → Nat) (bus : β) (memory : ByteMemory) :
    Rpu (BackedBus β) :=
  { bus := { bus, memory, arrived } }

/-- However the memory is filled, the program ends alike, and it has moved the bytes from
`start` to one place of the buffer, which is `stop` when it ends well. -/
def Moves (x : Program (Rpu (BackedBus β) × Bytes) (RpuError ε) Unit)
    (arrived : β → UInt32 → Nat → Nat) (len first start stop : Nat) : Prop :=
  ∀ bus : β, ∃ (r : Except (RpuError ε) Unit) (next : β) (last : Nat),
    start ≤ last ∧ last ≤ stop ∧ (r = .ok () → last = stop) ∧
    ∀ (memory : ByteMemory) (data : Bytes), data.length = len →
      Post x (backed arrived bus memory, data) (fun r' t => r' = r ∧
        t = (backed arrived next memory,
          splice data start (memory.fetch (first + start) (last - start))))

theorem moves_pure : Moves (pure () : Program (Rpu (BackedBus β) × Bytes) (RpuError ε) Unit)
    arrived len first start start := by
  intro bus
  refine ⟨.ok (), bus, start, Nat.le_refl _, Nat.le_refl _, fun _ => rfl, ?_⟩
  intro memory data _
  rw [post_pure, Nat.sub_self, ByteMemory.fetch_zero, splice_nil]
  exact ⟨rfl, rfl⟩

theorem moves_liftResult_bind {α : Type} {x : Except (RpuError ε) α}
    {f : α → Program (Rpu (BackedBus β) × Bytes) (RpuError ε) Unit} (ordered : start ≤ stop)
    (rest : ∀ value, x = .ok value → Moves (f value) arrived len first start stop) :
    Moves (liftResult x >>= f) arrived len first start stop := by
  cases x with
  | error failure =>
      intro bus
      refine ⟨.error failure, bus, start, Nat.le_refl _, ordered, ?_, ?_⟩
      · intro same
        cases same
      · intro memory data _
        rw [post_bind, post_liftResult, Nat.sub_self, ByteMemory.fetch_zero, splice_nil]
        exact ⟨rfl, rfl⟩
  | ok value =>
      intro bus
      obtain ⟨r, next, last, lower, upper, whole, runs⟩ := rest value rfl bus
      refine ⟨r, next, last, lower, upper, whole, ?_⟩
      intro memory data size
      rw [post_bind, post_liftResult]
      exact runs memory data size

theorem Moves.bind {x y : Program (Rpu (BackedBus β) × Bytes) (RpuError ε) Unit} {middle : Nat}
    (one : Moves x arrived len first start middle)
    (two : Moves y arrived len first middle stop) (ordered : start ≤ middle)
    (between : middle ≤ stop) (inside : stop ≤ len) :
    Moves (x >>= fun _ => y) arrived len first start stop := by
  intro bus
  obtain ⟨r, next, last, lower, upper, whole, runs⟩ := one bus
  cases r with
  | error failure =>
      refine ⟨.error failure, next, last, lower, by omega, ?_, ?_⟩
      · intro same
        cases same
      · intro memory data size
        rw [post_bind]
        refine (runs memory data size).mono ?_
        intro r t ended
        obtain ⟨rfl, rfl⟩ := ended
        exact ⟨rfl, rfl⟩
  | ok done =>
      obtain rfl := whole rfl
      obtain ⟨r, final, stopped, lower', upper', whole', runs'⟩ := two next
      refine ⟨r, final, stopped, by omega, upper', whole', ?_⟩
      intro memory data size
      have count : (memory.fetch (first + start) (last - start)).length = last - start :=
        ByteMemory.length_fetch
      rw [post_bind]
      refine (runs memory data size).mono ?_
      intro r' t ended
      obtain ⟨rfl, rfl⟩ := ended
      have kept : (splice data start (memory.fetch (first + start) (last - start))).length = len := by
        rw [length_splice (by omega), size]
      refine (runs' memory _ kept).mono ?_
      intro r' t ended
      obtain ⟨rfl, rfl⟩ := ended
      have both : stopped - start = (last - start) + (stopped - last) := by omega
      have place : first + last = first + start + (last - start) := by omega
      refine ⟨rfl, ?_⟩
      rw [splice_splice _ (by omega) (by omega), both, ByteMemory.fetch_add, place]

variable [Bus β ε]

/-- One read of the bus, into one part of the buffer. -/
theorem moves_busRead {offset : UInt32} (ordered : start ≤ stop) (inside : stop ≤ len)
    (place : offset.toNat = first + start) :
    Moves (inSlice start stop (busRead offset) :
      Program (Rpu (BackedBus β) × Bytes) (RpuError ε) Unit) arrived len first start stop := by
  intro bus
  cases ended : Bus.read offset (bus, List.replicate (stop - start) 0) with
  | ok done next =>
      refine ⟨.ok (), next.1, stop, ordered, Nat.le_refl _, fun _ => rfl, ?_⟩
      intro memory data size
      have part : (slice data start stop).length = stop - start := length_slice_of_le (by omega)
      rw [inSlice, post_onField, busRead, post_onField, post_mapError, post_iff]
      simp only [resultOf, stateAfter, Bus.read, BackedBus.read, backed, part, ended]
      refine ⟨rfl, ?_⟩
      rw [splice_slice (by rw [ByteMemory.length_fetch]; omega) (by omega), place, Nat.add_zero]
  | error failure next =>
      refine ⟨.error (.bus failure), next.1,
        start + min (arrived bus offset (stop - start)) (stop - start), by omega, by omega, ?_, ?_⟩
      · intro same
        cases same
      intro memory data size
      have part : (slice data start stop).length = stop - start := length_slice_of_le (by omega)
      rw [inSlice, post_onField, busRead, post_onField, post_mapError, post_iff]
      simp only [resultOf, stateAfter, Bus.read, BackedBus.read, backed, part, ended]
      refine ⟨rfl, ?_⟩
      rw [splice_slice (by rw [ByteMemory.length_fetch]; omega) (by omega), place, Nat.add_zero,
        Nat.add_sub_cancel_left]

omit [Bus β ε] in
/-- A program that looks at nothing of its state but the length of the buffer. -/
theorem moves_get_bind {x : Program (Rpu (BackedBus β) × Bytes) (RpuError ε) Unit}
    {f : Rpu (BackedBus β) × Bytes → Program (Rpu (BackedBus β) × Bytes) (RpuError ε) Unit}
    (sized : ∀ s, s.2.length = len → f s = x) (moves : Moves x arrived len first start stop) :
    Moves (get >>= f) arrived len first start stop := by
  intro bus
  obtain ⟨r, next, last, lower, upper, whole, runs⟩ := moves bus
  refine ⟨r, next, last, lower, upper, whole, ?_⟩
  intro memory data size
  rw [post_bind, post_get]
  dsimp only
  rw [sized _ size]
  exact runs memory data size

omit [Bus β ε] in
/-- The front of a buffer as its own part. -/
theorem Moves.inSlice {x : Program (Rpu (BackedBus β) × Bytes) (RpuError ε) Unit} {part : Nat}
    (moves : Moves x arrived part first 0 part) (inside : part ≤ len) :
    Moves (inSlice 0 part x) arrived len first 0 part := by
  intro bus
  obtain ⟨r, next, last, lower, upper, whole, runs⟩ := moves bus
  refine ⟨r, next, last, lower, upper, whole, ?_⟩
  intro memory data size
  have front : (slice data 0 part).length = part := length_slice_of_le (by omega)
  rw [Nrf7002.inSlice, post_onField]
  refine (runs memory (slice data 0 part) front).mono ?_
  intro r t ended
  obtain ⟨rfl, rfl⟩ := ended
  refine ⟨rfl, ?_⟩
  dsimp only
  rw [splice_slice (by rw [ByteMemory.length_fetch]; omega) (by omega)]

variable {processor : Processor} {address offset : UInt32} {whole : Nat}
  (linear : Linear processor address offset whole)

include linear in
theorem moves_readChunks (fuel index : Nat) (enough : len ≤ index * maxBusChunk + fuel)
    (inside : len ≤ align4 whole) :
    Moves (readChunks processor address fuel index :
      Program (Rpu (BackedBus β) × Bytes) (RpuError ε) Unit) arrived len offset.toNat
        (min (index * maxBusChunk) len) len := by
  induction fuel generalizing index with
  | zero =>
      have ended : min (index * maxBusChunk) len = len := by omega
      rw [readChunks, ended]
      exact moves_pure
  | succ fuel hypothesis =>
      rw [readChunks]
      apply moves_get_bind (x := if len ≤ index * maxBusChunk then pure () else do
        let place ← liftResult (chunkHostOffset processor address index)
        inSlice (index * maxBusChunk) (min (index * maxBusChunk + maxBusChunk) len) (busRead place)
        readChunks processor address fuel (index + 1))
      · intro s size
        dsimp only
        rw [size]
      · by_cases ended : len ≤ index * maxBusChunk
        · have covered : min (index * maxBusChunk) len = len := by omega
          rw [if_pos ended, covered]
          exact moves_pure
        · have begins : min (index * maxBusChunk) len = index * maxBusChunk := by omega
          have step : (index + 1) * maxBusChunk = index * maxBusChunk + maxBusChunk :=
            Nat.succ_mul index maxBusChunk
          have later := hypothesis (index + 1) (by
            have size : maxBusChunk = 4096 := rfl
            omega)
          rw [step] at later
          rw [if_neg ended, begins]
          apply moves_liftResult_bind (by omega)
          intro place found
          have value := linear.chunk (by omega) found
          exact (moves_busRead (by omega) (by omega) value).bind later (by omega) (by omega)
            (Nat.le_refl _)

include linear in
theorem moves_readTail (size : len = whole) :
    Moves (readTail processor address (len / 4 * 4) :
      Program (Rpu (BackedBus β) × Bytes) (RpuError ε) Unit) arrived len offset.toNat
        (len / 4 * 4) len := by
  subst size
  rw [readTail]
  apply moves_get_bind (x := if len - len / 4 * 4 = 0 then pure () else do
    let place ← liftResult (mappedOffset processor (address + UInt32.ofNat (len / 4 * 4)))
    let word ← besideBuffer (withLocal (List.replicate 4 0) (busRead place))
    modify fun s => (s.1, splice s.2 (len / 4 * 4) (word.2.take (len - len / 4 * 4))))
  · intro s size
    dsimp only
    rw [size]
  · by_cases none : len - len / 4 * 4 = 0
    · have aligned : len / 4 * 4 = len := by omega
      rw [if_pos none, aligned]
      exact moves_pure
    · rw [if_neg none]
      apply moves_liftResult_bind (by omega)
      intro place found
      have inside : len / 4 * 4 < align4 len := by
        rw [align4]
        omega
      have value := linear.tail inside found
      intro bus
      cases ended : Bus.read place (bus, List.replicate 4 0) with
      | ok done next =>
          refine ⟨.ok (), next.1, len, by omega, Nat.le_refl _, fun _ => rfl, ?_⟩
          intro memory data size
          have few : len - len / 4 * 4 ≤ 4 := by omega
          rw [post_bind, besideBuffer, post_onField, post_withLocal, busRead, post_onField,
            post_mapError, post_iff]
          simp only [resultOf, stateAfter, Bus.read, BackedBus.read, backed,
            List.length_replicate, ended]
          refine (post_modify _ _ _).mpr ⟨rfl, ?_⟩
          have whole : splice (List.replicate 4 0) 0 (memory.fetch place.toNat 4) =
              memory.fetch place.toNat 4 := by
            simp [splice]
          rw [whole, ByteMemory.take_fetch _ few, value]
      | error failure next =>
          refine ⟨.error (.bus failure), next.1, len / 4 * 4, Nat.le_refl _, by omega, ?_, ?_⟩
          · intro same
            cases same
          intro memory data size
          rw [post_bind, besideBuffer, post_onField, post_withLocal, busRead, post_onField,
            post_mapError, post_iff]
          simp only [resultOf, stateAfter, Bus.read, BackedBus.read, backed,
            List.length_replicate, ended]
          refine ⟨rfl, ?_⟩
          rw [Nat.sub_self, ByteMemory.fetch_zero, splice_nil]

/-- A read ends alike for every memory, and moves the same bytes of it. -/
theorem moves_read (processor : Processor) (address : UInt32)
    (placed : ∀ offset, hostOffset processor address = .ok offset → offset.toNat = first) :
    Moves (read processor address : Program (Rpu (BackedBus β) × Bytes) (RpuError ε) Unit)
      arrived len first 0 len := by
  rw [read]
  apply moves_get_bind (x := do
    liftResult (validateAccess processor address len)
    inSlice 0 (len / 4 * 4) (readAligned processor address)
    readTail processor address (len / 4 * 4))
  · intro s size
    dsimp only
    rw [size]
  · apply moves_liftResult_bind (Nat.zero_le _)
    intro done accepted
    obtain ⟨offset, linear⟩ := validateAccess_linear accepted
    obtain rfl := placed offset linear.mapped
    have aligned : Moves (readAligned processor address :
        Program (Rpu (BackedBus β) × Bytes) (RpuError ε) Unit) arrived (len / 4 * 4)
          offset.toNat 0 (len / 4 * 4) := by
      rw [readAligned]
      apply moves_get_bind (x := readChunks processor address (len / 4 * 4) 0)
      · intro s size
        dsimp only
        rw [size]
      · have inside : len / 4 * 4 ≤ align4 len := by
          rw [align4]
          omega
        have chunks : Moves (readChunks processor address (len / 4 * 4) 0 :
            Program (Rpu (BackedBus β) × Bytes) (RpuError ε) Unit) arrived (len / 4 * 4)
              offset.toNat (min (0 * maxBusChunk) (len / 4 * 4)) (len / 4 * 4) :=
          moves_readChunks linear (len / 4 * 4) 0 (by omega) inside
        rwa [Nat.zero_mul, Nat.zero_min] at chunks
    exact (aligned.inSlice (by omega)).bind (moves_readTail linear rfl) (Nat.zero_le _) (by omega)
      (Nat.le_refl _)

end Rpu

end Nrf7002
