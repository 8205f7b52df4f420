import Nrf7002.Device
import Nrf7002.Device.Sends
import Nrf7002.Transport.Ranges

/-! # The event queues

The hardware behind `Device.tryReadEvent`: firmware puts fragments into memory and
their addresses into the event-busy queue, and takes back the addresses that the host
pushes into the event-available queue.  A transfer fails where the list of faults says so,
with or without its effect. -/

set_option autoImplicit false

namespace Nrf7002
open Foundation

/-- The event queues, the memory of the fragments, and the faults of the next transfers:
`some true` fails a transfer that took effect. -/
structure EventHardware where
  busyRegister : UInt32
  availableRegister : UInt32
  memory : ByteMemory
  busy : List UInt32
  removed : List UInt32
  available : List UInt32
  faults : List (Option Bool)

/-- The host offset of the interrupt acknowledgement. -/
def acknowledgeOffset : UInt32 := 0x488

namespace EventHardware

/-- Takes the first address out of the event-busy queue. -/
def remove (hardware : EventHardware) : EventHardware :=
  { hardware with
    busy := hardware.busy.tail
    removed := hardware.removed ++ hardware.busy.take 1 }

/-- Writing the first address of the queue back removes it. -/
def pop (hardware : EventHardware) (value : UInt32) : EventHardware :=
  if hardware.busy.head? = some value then hardware.remove else hardware

def push (hardware : EventHardware) (value : UInt32) : EventHardware :=
  { hardware with available := hardware.available ++ [value] }

def answer (hardware : EventHardware) (offset : UInt32) (count : Nat) : Bytes :=
  if offset = hardware.busyRegister then
    fillWord (hardware.busy.headD 0) (List.replicate count 0)
  else hardware.memory.fetch offset.toNat count

def accept (hardware : EventHardware) (offset : UInt32) (data : Bytes) : EventHardware :=
  if offset = hardware.busyRegister then hardware.pop (readU32 data 0)
  else if offset = hardware.availableRegister then hardware.push (readU32 data 0)
  else if offset = acknowledgeOffset then hardware
  else { hardware with memory := hardware.memory.store offset.toNat data }

def fault (hardware : EventHardware) : Option Bool := hardware.faults.headD none

/-- The hardware after some more transfers without an effect. -/
def after (hardware : EventHardware) (count : Nat) : EventHardware :=
  { hardware with faults := hardware.faults.drop count }

/-- None of the next transfers fails. -/
def clear (hardware : EventHardware) (count : Nat) : Bool :=
  (hardware.faults.take count).all (·.isNone)

@[simp] theorem length_answer (hardware : EventHardware) (offset : UInt32) (count : Nat) :
    (hardware.answer offset count).length = count := by
  rw [answer]
  split
  · simp [fillWord]
  · exact ByteMemory.length_fetch

def read (offset : UInt32) : Program (EventHardware × Bytes) Unit Unit := fun s =>
  let filled := s.1.answer offset s.2.length
  match s.1.fault with
  | none => .ok () (s.1.after 1, filled)
  | some true => .error () (s.1.after 1, filled)
  | some false => .error () (s.1.after 1, s.2)

def write (offset : UInt32) (data : Bytes) : Program EventHardware Unit Unit := fun hardware =>
  match hardware.fault with
  | none => .ok () ((hardware.accept offset data).after 1)
  | some true => .error () ((hardware.accept offset data).after 1)
  | some false => .error () (hardware.after 1)

instance : Bus EventHardware Unit where
  readStatus _ := pure 0xff
  writeStatus _ _ := pure ()
  read := read
  write := write
  read_length offset := by
    intro s
    simp only [stateAfter, read]
    cases s.1.fault with
    | none => exact length_answer _ _ _
    | some effect =>
        cases effect with
        | false => rfl
        | true => exact length_answer _ _ _

section Faults
variable {hardware : EventHardware}

theorem after_after (first second : Nat) :
    (hardware.after first).after second = hardware.after (first + second) := by
  simp only [after, List.drop_drop]

theorem clear_zero : hardware.clear 0 = true := rfl

theorem clear_add (first second : Nat) : hardware.clear (first + second) =
    (hardware.clear first && (hardware.after first).clear second) := by
  rw [clear, List.take_add, List.all_append]
  rfl

theorem clear_one : hardware.clear 1 = hardware.fault.isNone := by
  cases faults : hardware.faults <;> simp [clear, fault, faults]

theorem accept_faults (offset : UInt32) (data : Bytes) :
    (hardware.accept offset data).faults = hardware.faults := by
  rw [accept]
  split_ifs
  · rw [pop]
    split_ifs <;> rfl
  all_goals rfl

end Faults

theorem clear_of_none {hardware : EventHardware} (none : hardware.faults = []) (count : Nat) :
    hardware.clear count = true := by
  rw [clear, none, List.take_nil]
  rfl

end EventHardware

/-! ## Registers -/

namespace Rpu
variable {address value offset : UInt32} {rpu : Rpu EventHardware}

theorem post_bus_read (offset : UInt32) (s : EventHardware × Bytes) :
    Post (Bus.read offset : Program (EventHardware × Bytes) Unit Unit) s fun r t =>
      t.1 = s.1.after 1 ∧ t.2.length = s.2.length ∧
        if s.1.clear 1 then r = .ok () ∧ t.2 = s.1.answer offset s.2.length else r = .error () := by
  rw [EventHardware.clear_one, post_iff]
  simp only [Bus.read, EventHardware.read, resultOf, stateAfter]
  cases fault : s.1.fault with
  | none => simp
  | some effect => cases effect <;> simp

theorem post_bus_write (offset : UInt32) (data : Bytes) (hardware : EventHardware) :
    Post (Bus.write offset data : Program EventHardware Unit Unit) hardware fun r t =>
      if hardware.clear 1 then r = .ok () ∧ t = (hardware.accept offset data).after 1
      else r = .error () ∧ t = if hardware.fault = some true
        then (hardware.accept offset data).after 1 else hardware.after 1 := by
  rw [EventHardware.clear_one, post_iff]
  simp only [Bus.write, EventHardware.write, resultOf, stateAfter]
  cases fault : hardware.fault with
  | none => simp
  | some effect => cases effect <;> simp

/-- One transfer reads a register. -/
theorem post_readRegister_once (found : (wordOffset .lmac address : Except (RpuError Unit) UInt32) =
    .ok offset) : Post (readRegister address) rpu fun r t =>
      t.bus = rpu.bus.after 1 ∧ r = if rpu.bus.clear 1
        then .ok (Nrf7002.readU32 (rpu.bus.answer offset 4) 0) else .error (.bus ()) := by
  rw [readRegister, post_readU32, found]
  dsimp only
  refine (post_bus_read offset (rpu.bus, List.replicate 4 0)).mono ?_
  intro r t read
  obtain ⟨ticked, -, result⟩ := read
  dsimp only at ticked result
  by_cases clear : rpu.bus.clear 1
  · rw [if_pos clear] at result ⊢
    obtain ⟨rfl, bytes⟩ := result
    exact ⟨ticked, by rw [bytes]; rfl⟩
  · rw [if_neg clear] at result ⊢
    subst result
    exact ⟨ticked, rfl⟩

/-- One transfer writes a register. -/
theorem post_writeRegister_once
    (found : (wordOffset .lmac address : Except (RpuError Unit) UInt32) = .ok offset) : Post (writeRegister address value) rpu fun r t =>
      if rpu.bus.clear 1
        then r = .ok () ∧ t.bus = (rpu.bus.accept offset (le32 value)).after 1
      else r = .error (.bus ()) ∧ t.bus = if rpu.bus.fault = some true
        then (rpu.bus.accept offset (le32 value)).after 1 else rpu.bus.after 1 := by
  rw [writeRegister, post_writeU32, found]
  dsimp only
  refine (post_bus_write offset (le32 value) rpu.bus).mono ?_
  intro r t written
  by_cases clear : rpu.bus.clear 1
  · rw [if_pos clear] at written ⊢
    obtain ⟨rfl, rfl⟩ := written
    exact ⟨rfl, rfl⟩
  · rw [if_neg clear] at written ⊢
    obtain ⟨rfl, rfl⟩ := written
    exact ⟨rfl, rfl⟩

end Rpu

/-! ## Fragments in memory -/

/-- The bytes stand at an address that the host can read, away from the queue. -/
structure Holds (hardware : EventHardware) (address : UInt32) (bytes : Bytes) : Prop where
  known : address ≠ 0 ∧ address ≠ 0xaaaaaaaa
  aligned : address &&& 3 = 0
  within : WithinRegion .umac address bytes.length
  content : ∀ offset, hostOffset .umac address = .ok offset →
    hardware.memory.fetch offset.toNat bytes.length = bytes ∧
      (hardware.busyRegister.toNat < offset.toNat ∨
        offset.toNat + bytes.length ≤ hardware.busyRegister.toNat)

/-! ## Reading a fragment -/

/-- The transfers of one read of at most one chunk. -/
def transfersOf (count : Nat) : Nat := min (count / 4) 1 + min (count % 4) 1

/-- The transfers were clear and the buffer holds the bytes, or the first fault ended the
read.  Nothing but faults is used up. -/
def Fetched (count : Nat) (bytes : Bytes) (s : Rpu EventHardware × Bytes)
    (r : Except (RpuError Unit) Unit) (t : Rpu EventHardware × Bytes) : Prop :=
  t.2.length = s.2.length ∧
    if s.1.bus.clear count then r = .ok () ∧ t.1.bus = s.1.bus.after count ∧ t.2 = bytes
    else r = .error (.bus ()) ∧ ∃ used, t.1.bus = s.1.bus.after used

namespace Rpu
variable {processor : Processor} {address offset : UInt32} (s : Rpu EventHardware × Bytes)

theorem post_busRead_fetched (offset : UInt32) :
    Post (busRead offset) s (Fetched 1 (s.1.bus.answer offset s.2.length) s) := by
  rw [busRead, post_onField, post_mapError]
  refine (post_bus_read offset (s.1.bus, s.2)).mono ?_
  intro r t read
  obtain ⟨ticked, length, result⟩ := read
  refine ⟨length, ?_⟩
  by_cases clear : s.1.bus.clear 1
  · rw [if_pos clear] at result ⊢
    obtain ⟨rfl, bytes⟩ := result
    exact ⟨rfl, ticked, bytes⟩
  · rw [if_neg clear] at result ⊢
    subst result
    exact ⟨rfl, 1, ticked⟩

theorem post_readAligned_fetched (few : s.2.length ≤ maxBusChunk)
    (mapped : hostOffset processor address = .ok offset) :
    Post (readAligned processor address) s
      (Fetched (min s.2.length 1) (s.1.bus.answer offset s.2.length) s) := by
  rw [readAligned, post_bind, post_get]
  dsimp only
  by_cases empty : s.2.length = 0
  · rw [post_readChunks_end processor address _ 0 s (by omega), empty]
    refine ⟨rfl, ?_⟩
    have nothing : s.2 = s.1.bus.answer offset 0 := by
      rw [List.eq_nil_of_length_eq_zero empty]
      exact (List.eq_nil_of_length_eq_zero (EventHardware.length_answer _ _ _)).symm
    rw [Nat.zero_min, EventHardware.clear_zero, if_pos rfl]
    exact ⟨rfl, rfl, nothing⟩
  · obtain ⟨fuel, size⟩ : ∃ fuel, s.2.length = fuel + 1 := ⟨s.2.length - 1, by omega⟩
    have one : min s.2.length 1 = 1 := by omega
    have whole : min (0 * maxBusChunk + maxBusChunk) s.2.length = s.2.length := by omega
    have fetched := post_busRead_fetched s offset
    rw [one]
    nth_rewrite 1 [size]
    rw [readChunks, post_bind, post_get]
    dsimp only
    rw [post_ite, if_neg (by omega), post_bind, post_liftResult, chunkHostOffset_zero,
      mappedOffset_ok mapped]
    change Post (_ >>= _) s _
    rw [post_bind, whole, Nat.zero_mul,
      post_inSlice_whole _ _ _ rfl (fetched.mono fun _ _ h => h.1)]
    refine fetched.mono ?_
    intro r t read
    cases r with
    | error failure => exact read
    | ok done =>
        refine (post_readChunks_end processor address _ 1 t ?_ _).mpr read
        rw [read.1]
        omega

/-- The tail of a read is one transfer of a whole word. -/
theorem post_readTail_fetched {alignedLen tailLen : Nat} (size : s.2.length = alignedLen + tailLen)
    (short : tailLen < 4) (mapped : 0 < tailLen →
      hostOffset processor (address + UInt32.ofNat alignedLen) = .ok offset) :
    Post (readTail processor address alignedLen) s (Fetched (min tailLen 1)
      (splice s.2 alignedLen ((s.1.bus.answer offset 4).take tailLen)) s) := by
  have left : s.2.length - alignedLen = tailLen := by omega
  rw [readTail, post_bind, post_get]
  dsimp only
  rw [left, post_ite]
  by_cases none : tailLen = 0
  · subst none
    rw [if_pos rfl, post_pure, Nat.zero_min]
    refine ⟨rfl, ?_⟩
    rw [EventHardware.clear_zero, if_pos rfl]
    refine ⟨rfl, rfl, ?_⟩
    rw [List.take_zero, splice, List.length_nil, List.append_nil, Nat.add_zero,
      List.take_append_drop]
  · have one : min tailLen 1 = 1 := by omega
    rw [if_neg none, one, post_bind, post_liftResult, mappedOffset_ok (mapped (by omega))]
    change Post (_ >>= _) s _
    rw [post_bind, besideBuffer, post_onField, post_withLocal]
    refine (post_busRead_fetched (s.1, List.replicate 4 0) offset).mono ?_
    intro r t read
    obtain ⟨length, result⟩ := read
    dsimp only at result
    cases r with
    | error failure =>
        refine ⟨rfl, ?_⟩
        by_cases clear : s.1.bus.clear 1
        · rw [if_pos clear] at result
          cases result.1
        · rw [if_neg clear] at result ⊢
          obtain ⟨same, used⟩ := result
          cases same
          exact ⟨rfl, used⟩
    | ok done =>
        by_cases clear : s.1.bus.clear 1
        · rw [if_pos clear] at result
          obtain ⟨-, ticked, bytes⟩ := result
          refine (post_modify _ _ _).mpr ⟨length_splice ?_, ?_⟩
          · rw [List.length_take]
            dsimp only
            omega
          · rw [if_pos clear]
            exact ⟨rfl, ticked, by rw [bytes]; rfl⟩
        · rw [if_neg clear] at result
          cases result.1

/-- A buffer that is filled from its front and then behind it. -/
theorem splice_front {bytes left right : Bytes}
    (size : bytes.length = left.length + right.length) :
    splice (splice bytes 0 left) left.length right = left ++ right := by
  rw [splice_splice right (by omega) (by omega), splice, List.length_append, ← size]
  simp

/-- A read of the front of a fragment. -/
theorem post_read_fragment {bytes : Bytes} (holds : Holds s.1.bus address bytes)
    (some : 0 < s.2.length) (inside : s.2.length ≤ bytes.length)
    (few : s.2.length ≤ maxBusChunk) :
    Post (read .umac address) s (Fetched (transfersOf s.2.length) (bytes.take s.2.length) s) := by
  have within := holds.within.shorter inside
  have accepted : (validateAccess .umac address s.2.length : Except (RpuError Unit) Unit) =
      .ok () := within.accepted holds.aligned some
  obtain ⟨offset, linear⟩ := validateAccess_linear accepted
  obtain ⟨content, apart⟩ := holds.content offset linear.mapped
  have limit := linear.limit
  have rounded : align4 s.2.length = (s.2.length + 3) / 4 * 4 := rfl
  obtain ⟨alignedLen, aligned⟩ : ∃ n, n = s.2.length / 4 * 4 := ⟨_, rfl⟩
  obtain ⟨tailLen, tail⟩ : ∃ n, n = s.2.length % 4 := ⟨_, rfl⟩
  have size : s.2.length = alignedLen + tailLen := by omega
  have transfers : transfersOf s.2.length = min alignedLen 1 + min tailLen 1 := by
    rw [transfersOf]
    omega
  have plain (place : UInt32) (count : Nat) (lower : offset.toNat ≤ place.toNat)
      (upper : place.toNat < offset.toNat + s.2.length) :
      s.1.bus.answer place count = s.1.bus.memory.fetch place.toNat count := by
    rw [EventHardware.answer, if_neg]
    rintro rfl
    omega
  have front := plain offset alignedLen (Nat.le_refl _) (by omega)
  have whole : s.1.bus.memory.fetch offset.toNat s.2.length = bytes.take s.2.length := by
    rw [← content, ByteMemory.take_fetch _ inside]
  rw [read, post_bind, post_get]
  dsimp only
  rw [post_bind, post_liftResult, accepted]
  change Post (_ >>= _) _ _
  rw [post_bind, ← aligned, inSlice, post_onField]
  have part : (slice s.2 0 alignedLen).length = alignedLen :=
    length_slice_of_le (by omega)
  have first := post_readAligned_fetched (s.1, slice s.2 0 alignedLen)
    (by dsimp only; omega) linear.mapped
  dsimp only at first
  rw [part, front] at first
  refine first.mono ?_
  intro r t fetched
  obtain ⟨length, result⟩ := fetched
  dsimp only at length result ⊢
  have spliced : (splice s.2 0 t.2).length = s.2.length := length_splice (by omega)
  obtain ⟨found, mapped, value⟩ : ∃ found : UInt32, (0 < tailLen →
      hostOffset .umac (address + UInt32.ofNat alignedLen) = .ok found) ∧
        (0 < tailLen → found.toNat = offset.toNat + alignedLen) := by
    by_cases more : 0 < tailLen
    · have bound := linear.inside
      have small : alignedLen < 2 ^ 32 := by omega
      have later : (address + UInt32.ofNat alignedLen).toNat = address.toNat + alignedLen := by
        rw [UInt32.toNat_add, UInt32.toNat_ofNat_of_lt' small, Nat.mod_eq_of_lt]
        omega
      obtain ⟨found, mapped⟩ := within.mapped (address + UInt32.ofNat alignedLen)
        (by omega) (by omega)
      refine ⟨found, fun _ => mapped, fun _ => ?_⟩
      rw [linear.shifted _ found (by omega) (by omega) mapped]
      omega
    · exact ⟨0, fun some => absurd some more, fun some => absurd some more⟩
  have rest : (s.1.bus.answer found 4).take tailLen =
      s.1.bus.memory.fetch (offset.toNat + alignedLen) tailLen := by
    by_cases more : 0 < tailLen
    · have place := value more
      rw [plain found 4 (by omega) (by omega), ByteMemory.take_fetch _ (by omega), place]
    · have none : tailLen = 0 := by omega
      rw [none, List.take_zero, ByteMemory.fetch_zero]
  by_cases clear : s.1.bus.clear (min alignedLen 1)
  · rw [if_pos clear] at result
    obtain ⟨rfl, ticked, filled⟩ := result
    refine (post_readTail_fetched (t.1, splice s.2 0 t.2) (by dsimp only; omega) (by omega)
      mapped).mono ?_
    intro r u fetched
    obtain ⟨kept, result⟩ := fetched
    dsimp only at kept result
    refine ⟨kept.trans spliced, ?_⟩
    rw [transfers, EventHardware.clear_add, clear, Bool.true_and]
    rw [ticked] at result
    by_cases clear : (s.1.bus.after (min alignedLen 1)).clear (min tailLen 1)
    · rw [if_pos clear] at result ⊢
      obtain ⟨rfl, last, full⟩ := result
      refine ⟨rfl, ?_, ?_⟩
      · rw [last, EventHardware.after_after]
      · have joined : splice (splice s.2 0 t.2) t.2.length
            (s.1.bus.memory.fetch (offset.toNat + alignedLen) tailLen) =
              t.2 ++ s.1.bus.memory.fetch (offset.toNat + alignedLen) tailLen :=
          splice_front (by rw [ByteMemory.length_fetch]; omega)
        rw [length, part] at joined
        have same : ((s.1.bus.after (min alignedLen 1)).answer found 4).take tailLen =
          (s.1.bus.answer found 4).take tailLen := rfl
        rw [full, same, rest, joined, filled, ← ByteMemory.fetch_add, ← size, whole]
    · rw [if_neg clear] at result ⊢
      obtain ⟨rfl, used, last⟩ := result
      exact ⟨rfl, _, by rw [last, EventHardware.after_after]⟩
  · rw [if_neg clear] at result
    obtain ⟨rfl, used, last⟩ := result
    refine ⟨spliced, ?_⟩
    rw [transfers, EventHardware.clear_add, Bool.eq_false_iff.mpr clear, Bool.false_and]
    exact ⟨rfl, used, last⟩

end Rpu

/-! ## Programs under faults -/

def busFailure : DeviceError Unit := .rpu (.bus ())

/-- Clear transfers lead to the result, and are used up; a fault among them ends the program
with a bus error. -/
def Ends {σ α : Type} (hardware : σ → EventHardware) (x : Program σ (DeviceError Unit) α)
    (s : σ) (count : Nat) (good : Except (DeviceError Unit) α → σ → Prop) (bad : σ → Prop) :
    Prop :=
  Post x s fun r t =>
    if (hardware s).clear count then
      (hardware t).faults = (hardware s).faults.drop count ∧ good r t
    else r = .error busFailure ∧ bad t

/-- A program without refusals of its own. -/
def Spends {σ α : Type} (hardware : σ → EventHardware) (x : Program σ (DeviceError Unit) α)
    (s : σ) (count : Nat) (good : α → σ → Prop) (bad : σ → Prop) : Prop :=
  Ends hardware x s count (fun r t => ∃ a, r = .ok a ∧ good a t) bad

section Ends
variable {σ τ α γ : Type} {hardware : σ → EventHardware} {x : Program σ (DeviceError Unit) α}
  {f : α → Program σ (DeviceError Unit) γ} {s : σ} {count more : Nat}
  {good : α → σ → Prop} {result : Except (DeviceError Unit) α → σ → Prop}
  {later : Except (DeviceError Unit) γ → σ → Prop} {bad : σ → Prop}

theorem EventHardware.clear_congr {left right : EventHardware} (same : left.faults = right.faults)
    (count : Nat) : left.clear count = right.clear count := by
  rw [clear, clear, same]

theorem ends_nothing (post : Post x s fun r t =>
    (hardware t).faults = (hardware s).faults ∧ result r t) :
    Ends hardware x s 0 result bad := by
  refine Post.mono post ?_
  intro r t ended
  rw [EventHardware.clear_zero, if_pos rfl, List.drop_zero]
  exact ended

theorem spends_pure {a : α} (reached : good a s) :
    Spends hardware (pure a) s 0 good bad :=
  ends_nothing ((post_pure _ _ _).mpr ⟨rfl, a, rfl, reached⟩)

theorem Ends.mono {result' : Except (DeviceError Unit) α → σ → Prop} {bad' : σ → Prop}
    (ends : Ends hardware x s count result bad) (finer : ∀ r t, result r t → result' r t)
    (worse : ∀ t, (hardware s).clear count = false → bad t → bad' t) :
    Ends hardware x s count result' bad' := by
  refine Post.mono ends ?_
  intro r t ended
  by_cases clear : (hardware s).clear count
  · rw [if_pos clear] at ended ⊢
    exact ⟨ended.1, finer r t ended.2⟩
  · rw [if_neg clear] at ended ⊢
    exact ⟨ended.1, worse t (Bool.eq_false_iff.mpr clear) ended.2⟩

theorem Spends.mono {good' : α → σ → Prop} {bad' : σ → Prop}
    (spends : Spends hardware x s count good bad) (finer : ∀ a t, good a t → good' a t)
    (worse : ∀ t, (hardware s).clear count = false → bad t → bad' t) :
    Spends hardware x s count good' bad' := by
  refine Ends.mono spends ?_ worse
  intro r t ended
  obtain ⟨a, same, reached⟩ := ended
  exact ⟨a, same, finer a t reached⟩

theorem Spends.ends (spends : Spends hardware x s count good bad)
    (finer : ∀ a t, good a t → result (.ok a) t) : Ends hardware x s count result bad := by
  refine Ends.mono spends ?_ fun _ _ same => same
  intro r t ended
  obtain ⟨a, rfl, reached⟩ := ended
  exact finer a t reached

/-- A good end knows which faults were used up. -/
theorem Spends.used (spends : Spends hardware x s count good bad) :
    Spends hardware x s count
      (fun a t => (hardware t).faults = (hardware s).faults.drop count ∧ good a t) bad := by
  refine Post.mono spends ?_
  intro r t ended
  by_cases clear : (hardware s).clear count
  · rw [if_pos clear] at ended ⊢
    obtain ⟨used, a, same, reached⟩ := ended
    exact ⟨used, a, same, used, reached⟩
  · rw [if_neg clear] at ended ⊢
    exact ended

/-- The second program starts on the faults that the first one left. -/
theorem Spends.bind_ends (first : Spends hardware x s count good bad)
    (second : ∀ a t, (hardware s).clear count = true → good a t →
      Ends hardware (f a) t more later bad) :
    Ends hardware (x >>= f) s (count + more) later bad := by
  rw [Ends, post_bind]
  refine Post.mono first ?_
  intro r t ended
  rw [EventHardware.clear_add]
  by_cases clear : (hardware s).clear count
  · rw [if_pos clear] at ended
    obtain ⟨used, a, rfl, reached⟩ := ended
    refine Post.mono (second a t clear reached) ?_
    intro r u ended
    have same : (hardware t).clear more = ((hardware s).after count).clear more :=
      EventHardware.clear_congr used more
    rw [clear, Bool.true_and, ← same]
    by_cases rest : (hardware t).clear more
    · rw [if_pos rest] at ended ⊢
      exact ⟨by rw [ended.1, used, List.drop_drop], ended.2⟩
    · rw [if_neg rest] at ended ⊢
      exact ended
  · rw [if_neg clear] at ended
    obtain ⟨rfl, bad⟩ := ended
    rw [Bool.eq_false_iff.mpr clear, Bool.false_and]
    exact ⟨rfl, bad⟩

/-- The second program needs no transfers. -/
theorem Spends.then_ends (first : Spends hardware x s count good bad)
    (second : ∀ a t, (hardware s).clear count = true → good a t →
      Ends hardware (f a) t 0 later bad) : Ends hardware (x >>= f) s count later bad :=
  first.bind_ends second

theorem Spends.then {better : γ → σ → Prop} (first : Spends hardware x s count good bad)
    (second : ∀ a t, (hardware s).clear count = true → good a t →
      Spends hardware (f a) t 0 better bad) : Spends hardware (x >>= f) s count better bad :=
  first.bind_ends second

theorem Spends.bind {better : γ → σ → Prop} (first : Spends hardware x s count good bad)
    (second : ∀ a t, (hardware s).clear count = true → good a t →
      Spends hardware (f a) t more better bad) :
    Spends hardware (x >>= f) s (count + more) better bad :=
  first.bind_ends second

theorem ends_get_bind {f : σ → Program σ (DeviceError Unit) γ}
    (rest : Ends hardware (f s) s count later bad) :
    Ends hardware (get >>= f) s count later bad := by
  rw [Ends, post_bind, post_get]
  exact rest

/-- A program beside the buffer. -/
theorem Spends.beside {hardware : τ → EventHardware} {x : Program τ (DeviceError Unit) α}
    {s : τ × Bytes} {good : α → τ → Prop} {bad : τ → Prop}
    (spends : Spends hardware x s.1 count good bad) :
    Spends (fun s : τ × Bytes => hardware s.1) (besideBuffer x) s count
      (fun a t => good a t.1 ∧ t.2 = s.2) fun t => bad t.1 ∧ t.2 = s.2 := by
  rw [Spends, Ends, besideBuffer, post_onField]
  refine Post.mono spends ?_
  intro r t ended
  by_cases clear : (hardware s.1).clear count
  · rw [if_pos clear] at ended ⊢
    obtain ⟨used, a, same, reached⟩ := ended
    exact ⟨used, a, same, reached, rfl⟩
  · rw [if_neg clear] at ended ⊢
    exact ⟨ended.1, ended.2, rfl⟩

end Ends

/-! ## Queue operations -/

/-- The registers of the queue map, as the host reaches them. -/
structure Wired (queues : HpqmInfo) (hardware : EventHardware) : Prop where
  busy : (Rpu.wordOffset .lmac queues.eventBusy.dequeueAddress :
    Except (RpuError Unit) UInt32) = .ok hardware.busyRegister
  available : (Rpu.wordOffset .lmac queues.eventAvailable.enqueueAddress :
    Except (RpuError Unit) UInt32) = .ok hardware.availableRegister
  distinct : hardware.availableRegister ≠ hardware.busyRegister
  acknowledge : acknowledgeOffset ≠ hardware.busyRegister ∧
    acknowledgeOffset ≠ hardware.availableRegister

/-- The first `count` addresses left the event-busy queue, and the memory is the same;
addresses may have been given back. -/
structure Removes (count : Nat) (hardware next : EventHardware) : Prop where
  busyRegister : next.busyRegister = hardware.busyRegister
  availableRegister : next.availableRegister = hardware.availableRegister
  memory : next.memory = hardware.memory
  busy : next.busy = hardware.busy.drop count
  removed : next.removed = hardware.removed ++ hardware.busy.take count

theorem Removes.trans {hardware middle next : EventHardware} {count more : Nat}
    (first : Removes count hardware middle) (second : Removes more middle next) :
    Removes (count + more) hardware next := by
  constructor
  · rw [second.busyRegister, first.busyRegister]
  · rw [second.availableRegister, first.availableRegister]
  · rw [second.memory, first.memory]
  · rw [second.busy, first.busy, List.drop_drop]
  · rw [second.removed, first.removed, first.busy, List.append_assoc, List.take_add]

theorem removes_none {hardware next : EventHardware}
    (registers : next.busyRegister = hardware.busyRegister ∧
      next.availableRegister = hardware.availableRegister)
    (memory : next.memory = hardware.memory) (busy : next.busy = hardware.busy)
    (removed : next.removed = hardware.removed) : Removes 0 hardware next :=
  ⟨registers.1, registers.2, memory, busy, by rw [removed, List.take_zero, List.append_nil]⟩

theorem removes_after (hardware : EventHardware) (count : Nat) :
    Removes 0 hardware (hardware.after count) := removes_none ⟨rfl, rfl⟩ rfl rfl rfl

theorem removes_remove (hardware : EventHardware) : Removes 1 hardware hardware.remove := by
  refine ⟨rfl, rfl, rfl, ?_, rfl⟩
  exact List.drop_one.symm

theorem Removes.holds {count : Nat} {hardware next : EventHardware} {address : UInt32}
    {bytes : Bytes} (removes : Removes count hardware next) (holds : Holds hardware address bytes) :
    Holds next address bytes := by
  refine ⟨holds.known, holds.aligned, holds.within, ?_⟩
  rw [removes.memory, removes.busyRegister]
  exact holds.content

theorem Removes.wired {count : Nat} {hardware next : EventHardware} {queues : HpqmInfo}
    (removes : Removes count hardware next) (wired : Wired queues hardware) :
    Wired queues next := by
  constructor
  · rw [removes.busyRegister]
    exact wired.busy
  · rw [removes.availableRegister]
    exact wired.available
  · rw [removes.busyRegister, removes.availableRegister]
    exact wired.distinct
  · rw [removes.busyRegister, removes.availableRegister]
    exact wired.acknowledge

/-- A dequeue whose last transfer fails after it took effect. -/
def EventHardware.loses (hardware : EventHardware) : Bool :=
  hardware.clear 1 && decide ((hardware.after 1).fault = some true)

namespace Device
variable {queues : HpqmInfo} {device : Device EventHardware}

/-- The hardware of a device. -/
abbrev hardware (device : Device EventHardware) : EventHardware := device.rpu.bus

/-- The device goes on with other hardware. -/
def Became (device : Device EventHardware) (hardware : EventHardware)
    (next : Device EventHardware) : Prop :=
  next.settings = device.settings ∧ next.hardware = hardware

theorem post_onRpu_became {α : Type} {x : Program (Rpu EventHardware) (RpuError Unit) α}
    {Q : Except (RpuError Unit) α → Rpu EventHardware → Prop} (post : Post x device.rpu Q) :
    Post (onRpu x) device fun r t => t.settings = device.settings ∧
      ∃ found, r = found.mapError .rpu ∧ Q found t.rpu := by
  rw [onRpu, post_onField, post_mapError]
  refine post.mono ?_
  intro r t reached
  exact ⟨rfl, r, rfl, reached⟩

theorem spends_readRegister {address offset : UInt32}
    (found : (Rpu.wordOffset .lmac address : Except (RpuError Unit) UInt32) = .ok offset) :
    Spends Device.hardware (onRpu (Rpu.readRegister address)) device 1
      (fun value t => value = readU32 (device.hardware.answer offset 4) 0 ∧
        Became device (device.hardware.after 1) t)
      (Became device (device.hardware.after 1)) := by
  refine (post_onRpu_became (Rpu.post_readRegister_once found)).mono ?_
  intro r t ended
  obtain ⟨settings, found, rfl, ticked, result⟩ := ended
  by_cases clear : device.hardware.clear 1
  · rw [if_pos clear] at result ⊢
    subst result
    exact ⟨by rw [hardware, ticked]; rfl, _, rfl, rfl, settings, ticked⟩
  · rw [if_neg clear] at result ⊢
    subst result
    exact ⟨rfl, settings, ticked⟩

theorem spends_writeRegister {address value offset : UInt32}
    (found : (Rpu.wordOffset .lmac address : Except (RpuError Unit) UInt32) = .ok offset) :
    Spends Device.hardware (onRpu (Rpu.writeRegister address value)) device 1
      (fun _ t => Became device ((device.hardware.accept offset (le32 value)).after 1) t)
      (Became device (if device.hardware.fault = some true
        then (device.hardware.accept offset (le32 value)).after 1
        else device.hardware.after 1)) := by
  refine (post_onRpu_became (Rpu.post_writeRegister_once found)).mono ?_
  intro r t ended
  obtain ⟨settings, found, rfl, result⟩ := ended
  by_cases clear : device.hardware.clear 1
  · rw [if_pos clear] at result ⊢
    obtain ⟨rfl, written⟩ := result
    refine ⟨?_, (), rfl, settings, written⟩
    rw [hardware, written, EventHardware.after, EventHardware.accept_faults]
  · rw [if_neg clear] at result ⊢
    obtain ⟨rfl, written⟩ := result
    exact ⟨rfl, settings, written⟩

theorem spends_perform_bind {α : Type} {operation : QueueOperation} {count : Nat}
    {f : Unit → Program (Device EventHardware) (DeviceError Unit) α}
    {good : α → Device EventHardware → Prop} {bad : Device EventHardware → Prop}
    (rest : Spends Device.hardware (f ())
      { device with operations := device.operations ++ [operation] } count good bad) :
    Spends Device.hardware (perform operation >>= f) device count good bad := by
  rw [Spends, Ends, post_bind, perform, post_modify]
  exact rest

theorem readU32_le32 (value : UInt32) : readU32 (le32 value) 0 = value := by
  have field : readU32 ([] ++ (le32 value ++ [])) 0 = value := readU32_field rfl
  rwa [List.append_nil] at field

/-- The busy register shows the first address of the queue. -/
theorem readU32_fillWord (word : UInt32) :
    readU32 (fillWord word (List.replicate 4 0)) 0 = word := by
  have bytes : fillWord word (List.replicate 4 0) = le32 word := by
    simp [fillWord, List.replicate, List.zipIdx, le32, leBytes]
  rw [bytes, readU32_le32]

theorem spends_dequeue_empty (wired : Wired queues device.hardware)
    (empty : device.hardware.busy = []) :
    Spends Device.hardware (dequeue queues.eventBusy) device 1
      (fun taken t => taken = none ∧ Became device (device.hardware.after 1) t)
      (Became device (device.hardware.after 1)) := by
  apply spends_perform_bind
  apply Spends.then (spends_readRegister wired.busy)
  intro value t _ read
  obtain ⟨same, became⟩ := read
  have nothing : value = 0 := by
    rw [same, EventHardware.answer, if_pos rfl]
    change readU32 (fillWord (device.hardware.busy.headD 0) _) 0 = 0
    rw [empty, readU32_fillWord]
    rfl
  rw [if_pos nothing]
  exact spends_pure ⟨rfl, became⟩

/-- The device went on by so many fragments. -/
def Went (count : Nat) (device next : Device EventHardware) : Prop :=
  next.settings = device.settings ∧ Removes count device.hardware next.hardware

theorem Went.trans {device middle next : Device EventHardware} {count more : Nat}
    (first : Went count device middle) (second : Went more middle next) :
    Went (count + more) device next :=
  ⟨second.1.trans first.1, first.2.trans second.2⟩

theorem went_after {next : Device EventHardware} {count : Nat}
    (became : Became device (device.hardware.after count) next) : Went 0 device next := by
  refine ⟨became.1, ?_⟩
  rw [became.2]
  exact removes_after _ _

/-- Of a dequeue that fails, only a last transfer with effect takes the address out of the
queue. -/
theorem spends_dequeue_some (wired : Wired queues device.hardware) {first : UInt32}
    {rest : List UInt32} (busy : device.hardware.busy = first :: rest)
    (known : first ≠ 0 ∧ first ≠ 0xaaaaaaaa) :
    Spends Device.hardware (dequeue queues.eventBusy) device 2
      (fun taken t => taken = some first ∧ Became device (device.hardware.remove.after 2) t)
      (Went (if device.hardware.loses then 1 else 0) device) := by
  have answered : readU32 (device.hardware.answer device.hardware.busyRegister 4) 0 = first := by
    rw [EventHardware.answer, if_pos rfl, busy, readU32_fillWord]
    rfl
  have popped : (device.hardware.after 1).accept device.hardware.busyRegister (le32 first) =
      device.hardware.remove.after 1 := by
    have head : device.hardware.busy.head? = some first := by rw [busy, List.head?_cons]
    rw [EventHardware.accept]
    change (if device.hardware.busyRegister = device.hardware.busyRegister then
      (device.hardware.after 1).pop (readU32 (le32 first) 0) else _) = _
    rw [if_pos rfl, readU32_le32, EventHardware.pop]
    change (if device.hardware.busy.head? = some first then _ else _) = _
    rw [if_pos head]
    rfl
  apply spends_perform_bind
  change Spends _ _ _ (1 + 1) _ _
  refine Spends.bind ((spends_readRegister wired.busy).mono
    (fun _ _ same => same) ?_) ?_
  · intro t blocked became
    rw [EventHardware.loses, show device.hardware.clear 1 = false from blocked, Bool.false_and]
    exact went_after became
  · intro value t clear read
    obtain ⟨same, settings, ticked⟩ := read
    have found : value = first := same.trans answered
    subst found
    rw [if_neg known.1, if_neg known.2]
    have wire : (Rpu.wordOffset .lmac queues.eventBusy.dequeueAddress :
        Except (RpuError Unit) UInt32) = .ok device.hardware.busyRegister := wired.busy
    refine Spends.then ((spends_writeRegister wire).mono
      (fun _ _ same => same) ?_) ?_
    · intro u blocked became
      obtain ⟨kept, removed⟩ := became
      rw [ticked] at removed
      have loses : device.hardware.loses =
          decide ((device.hardware.after 1).fault = some true) := by
        rw [EventHardware.loses, show device.hardware.clear 1 = true from clear, Bool.true_and]
      refine ⟨kept.trans settings, ?_⟩
      by_cases lost : (device.hardware.after 1).fault = some true
      · rw [if_pos (by rw [loses]; exact decide_eq_true lost), removed]
        change Removes 1 device.hardware (if (device.hardware.after 1).fault = some true then
          ((device.hardware.after 1).accept device.hardware.busyRegister _).after 1 else _)
        rw [if_pos lost, popped]
        exact (removes_remove _).trans ((removes_after _ 1).trans (removes_after _ 1))
      · rw [if_neg (by rw [loses, decide_eq_true_eq]; exact lost), removed]
        change Removes 0 device.hardware (if (device.hardware.after 1).fault = some true then
          ((device.hardware.after 1).accept device.hardware.busyRegister _).after 1 else _)
        rw [if_neg lost]
        exact (removes_after _ 1).trans (removes_after _ 1)
    · intro _ u _ written
      obtain ⟨kept, removed⟩ := written
      rw [ticked] at removed
      change _ = ((device.hardware.after 1).accept device.hardware.busyRegister _).after 1
        at removed
      rw [popped, EventHardware.after_after] at removed
      exact spends_pure ⟨rfl, kept.trans settings, removed⟩

/-- Giving an address back takes one transfer, keeping it takes none. -/
def releaseCost (resubmit : Bool) : Nat := if resubmit then 1 else 0

/-- The hardware with the address given back. -/
def released (hardware : EventHardware) (address : UInt32) (resubmit : Bool) : EventHardware :=
  if resubmit then hardware.push address else hardware

theorem removes_released (hardware : EventHardware) (address : UInt32) (resubmit : Bool) :
    Removes 0 hardware (released hardware address resubmit) := by
  cases resubmit <;> exact removes_none ⟨rfl, rfl⟩ rfl rfl rfl

theorem accept_available (wired : Wired queues device.hardware) (value : UInt32) :
    device.hardware.accept device.hardware.availableRegister (le32 value) =
      device.hardware.push value := by
  rw [EventHardware.accept, if_neg wired.distinct, if_pos rfl]
  exact congrArg _ (readU32_le32 value)

theorem spends_releaseEventFragment (wired : Wired queues device.hardware) (address : UInt32)
    (resubmit : Bool) :
    Spends Device.hardware (releaseEventFragment queues address resubmit) device
      (releaseCost resubmit)
      (fun _ t => Became device
        ((released device.hardware address resubmit).after (releaseCost resubmit)) t)
      (Went 0 device) := by
  cases resubmit with
  | false => exact spends_pure ⟨rfl, rfl⟩
  | true =>
      apply spends_perform_bind
      refine Spends.mono (spends_writeRegister wired.available) ?_ ?_
      · intro _ t became
        obtain ⟨settings, written⟩ := became
        refine ⟨settings, written.trans ?_⟩
        exact congrArg (EventHardware.after · 1) (accept_available wired address)
      · intro t _ became
        obtain ⟨settings, written⟩ := became
        refine ⟨settings, ?_⟩
        rw [written]
        split_ifs
        · change Removes 0 device.hardware
            ((device.hardware.accept device.hardware.availableRegister _).after 1)
          rw [accept_available wired]
          exact removes_none ⟨rfl, rfl⟩ rfl rfl rfl
        · exact removes_after _ _

theorem wordOffset_acknowledge : (Rpu.wordOffset .lmac rpuRegIntFromMcuAck :
    Except (RpuError Unit) UInt32) = .ok acknowledgeOffset := by
  rfl

theorem spends_acknowledgeInterrupt (wired : Wired queues device.hardware) :
    Spends Device.hardware acknowledgeInterrupt device 1
      (fun _ t => Became device (device.hardware.after 1) t) (Went 0 device) := by
  have ignored (data : Bytes) : device.hardware.accept acknowledgeOffset data =
      device.hardware := by
    rw [EventHardware.accept, if_neg wired.acknowledge.1, if_neg wired.acknowledge.2, if_pos rfl]
  refine (spends_writeRegister wordOffset_acknowledge).mono ?_ ?_
  · intro _ t became
    rw [ignored] at became
    exact became
  · intro t _ became
    rw [ignored, ite_self] at became
    obtain ⟨settings, written⟩ := became
    refine ⟨settings, ?_⟩
    rw [written]
    exact removes_after _ _

/-! ### Reading -/

section Reading
variable {address : UInt32} {bytes : Bytes}

/-- The header of an event stands at the front of its first fragment. -/
theorem spends_readEventHeader (holds : Holds device.hardware address bytes)
    (header : hostMessageHeaderLen ≤ bytes.length) :
    Spends Device.hardware (readEventHeader address) device 1
      (fun read t => read = ((readU32 bytes 0).toNat, decide (readU32 bytes 4 ≠ 0)) ∧
        Became device (device.hardware.after 1) t) (Went 0 device) := by
  have size : (List.replicate hostMessageHeaderLen (0 : UInt8)).length = hostMessageHeaderLen :=
    List.length_replicate
  have fetched := Rpu.post_read_fragment (device.rpu, List.replicate hostMessageHeaderLen 0)
    holds (by dsimp only; rw [size]; decide) (by dsimp only; rw [size]; exact header)
    (by dsimp only; rw [size]; decide)
  dsimp only at fetched
  rw [size] at fetched
  have word (offset : Nat) (inside : offset + 4 ≤ hostMessageHeaderLen) :
      readU32 (bytes.take hostMessageHeaderLen) offset = readU32 bytes offset := by
    have split := List.take_append_drop hostMessageHeaderLen bytes
    have length : (bytes.take hostMessageHeaderLen).length = hostMessageHeaderLen :=
      List.length_take_of_le header
    have same : readU32 (bytes.take hostMessageHeaderLen ++ bytes.drop hostMessageHeaderLen)
        offset = readU32 (bytes.take hostMessageHeaderLen) offset :=
      readU32_append_left (by omega)
    rw [split] at same
    exact same.symm
  have filled : Spends Device.hardware (onRpu (withLocal
      (List.replicate hostMessageHeaderLen 0) (Rpu.read .umac address))) device 1
      (fun read t => read.2 = bytes.take hostMessageHeaderLen ∧
        Became device (device.hardware.after 1) t) (Went 0 device) := by
    rw [Spends, Ends, onRpu, post_onField, post_mapError, post_withLocal]
    refine fetched.mono ?_
    intro r t ended
    obtain ⟨-, result⟩ := ended
    have cost : transfersOf hostMessageHeaderLen = 1 := rfl
    rw [cost] at result
    by_cases clear : device.hardware.clear 1
    · rw [if_pos clear] at result ⊢
      obtain ⟨rfl, ticked, filled⟩ := result
      exact ⟨by rw [Device.hardware, ticked]; rfl, _, rfl, filled, rfl, ticked⟩
    · rw [if_neg clear] at result ⊢
      obtain ⟨rfl, used, ticked⟩ := result
      refine ⟨rfl, rfl, ?_⟩
      change Removes 0 device.hardware t.1.bus
      rw [ticked]
      exact removes_after _ _
  refine Spends.then filled ?_
  intro read t _ good
  obtain ⟨filled, became⟩ := good
  apply spends_pure
  refine ⟨?_, became⟩
  rw [filled, word 0 (by decide), word 4 (by decide)]

/-- One part of the buffer takes the front of a fragment. -/
theorem spends_readFragment (s : Device EventHardware × Bytes) (first last : Nat)
    (holds : Holds s.1.hardware address bytes) (some : first < last)
    (room : last ≤ s.2.length) (inside : last - first ≤ bytes.length)
    (few : last - first ≤ maxBusChunk) :
    Spends (fun s : Device EventHardware × Bytes => s.1.hardware)
      (inSlice first last (onRpuWithBuffer (Rpu.read .umac address))) s
      (transfersOf (last - first))
      (fun _ t => Became s.1 (s.1.hardware.after (transfersOf (last - first))) t.1 ∧
        t.2 = splice s.2 first (bytes.take (last - first)))
      (fun t => Went 0 s.1 t.1 ∧ t.2.length = s.2.length) := by
  have size : (slice s.2 first last).length = last - first := length_slice_of_le room
  have fetched := Rpu.post_read_fragment (s.1.rpu, slice s.2 first last) holds
    (by dsimp only; omega) (by dsimp only; omega) (by dsimp only; omega)
  dsimp only at fetched
  rw [size] at fetched
  rw [Spends, Ends, inSlice, post_onField, onRpuWithBuffer, post_onField, post_mapError]
  refine fetched.mono ?_
  intro r t ended
  obtain ⟨length, result⟩ := ended
  dsimp only at length result ⊢
  by_cases clear : s.1.hardware.clear (transfersOf (last - first))
  · rw [if_pos clear] at result ⊢
    obtain ⟨rfl, ticked, filled⟩ := result
    refine ⟨?_, (), rfl, ⟨rfl, ticked⟩, by rw [filled]⟩
    change t.1.bus.faults = _
    rw [ticked]
    rfl
  · rw [if_neg clear] at result ⊢
    obtain ⟨rfl, used, ticked⟩ := result
    refine ⟨rfl, ⟨rfl, ?_⟩, length_splice (by rw [length, size]; omega)⟩
    change Removes 0 s.1.hardware t.1.bus
    rw [ticked]
    exact removes_after _ _

end Reading

end Device

end Nrf7002
