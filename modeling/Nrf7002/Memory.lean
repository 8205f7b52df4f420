import Nrf7002.Codec

/-! # RPU address translation and memory access

A `Bus` moves bytes at host offsets and may fail at any transfer.  `Rpu` maps
processor addresses to host offsets and moves whole words in bounded chunks. -/

set_option autoImplicit false

namespace Nrf7002
open Foundation

/-- The host bus.  A read fills the caller's buffer, whose length it cannot
change, and may leave it partly filled when it fails. -/
class Bus (β : Type) (ε : outParam Type) where
  readStatus : UInt8 → Program β ε UInt8
  writeStatus : UInt8 → UInt8 → Program β ε Unit
  read : UInt32 → Program (β × Bytes) ε Unit
  write : UInt32 → Bytes → Program β ε Unit
  read_length : ∀ address, Keeps (fun s : β × Bytes => s.2.length) (read address)

def maxBusChunk : Nat := 4096

def opcodeReadStatus1 : UInt8 := 0x1f
def opcodeReadStatus2 : UInt8 := 0x2f
def opcodeWriteStatus2 : UInt8 := 0x3f
def rpuWakeRequest : UInt8 := (1 : UInt8) <<< 0
def rpuAwake : UInt8 := (1 : UInt8) <<< 1
def rpuRegClockEnable : UInt32 := 0xa5008c20
def rpuClockEnable : UInt32 := 0x100

def rpuMcuCoreIndirectBase : UInt32 := 0xc0000000
def rpuAddrMaskOffset : UInt32 := 0x00ffffff
def hostSbusBase : UInt32 := 0x00000000
def hostPbusBase : UInt32 := 0x00040000
def hostGramBase : UInt32 := 0x00080000
def hostPktramBase : UInt32 := 0x000c0000
def hostLmacDirectBase : UInt32 := 0x00100000
def hostUmacDirectBase : UInt32 := 0x00200000

inductive Processor where
  | lmac
  | umac
  deriving DecidableEq, Repr

def Processor.indirectControlRegister : Processor → UInt32
  | .lmac => 0xa4000030
  | .umac => 0xa4000130

def Processor.indirectDataRegister : Processor → UInt32
  | .lmac => 0xa4000034
  | .umac => 0xa4000134

inductive AddressError where
  | unsupported (address : UInt32)
  | range
  deriving DecidableEq, Repr

inductive RpuError (ε : Type) where
  | bus (error : ε)
  | address (error : AddressError)
  | unaligned
  | timeout
  | pollTimeout (address mask expected last : UInt32)
  | invalidArgument
  deriving DecidableEq

structure Rpu (β : Type) where
  bus : β

/-! ## Address translation -/

section Addresses

def inRegion (address first last : UInt32) : Bool := first ≤ address && address ≤ last

def sharedRegionBase (address : UInt32) : Option UInt32 :=
  if inRegion address 0xa4000000 0xa4007fff then some hostSbusBase
  else if inRegion address 0xa5000000 0xa503ffff then some hostPbusBase
  else if inRegion address 0xb7000000 0xb70101ff then some hostGramBase
  else if inRegion address 0xb0000000 0xb0030fff then some hostPktramBase
  else none

def lmacRegionBase (address : UInt32) : Option UInt32 :=
  if inRegion address 0x80000000 0x80033fff || inRegion address 0x80040000 0x8004bfff
      || inRegion address 0x80080000 0x8008ffff then some hostLmacDirectBase
  else none

def umacRegionBase (address : UInt32) : Option UInt32 :=
  if inRegion address 0x80000000 0x800617ff || inRegion address 0x80080000 0x800a3fff
      || inRegion address 0x80100000 0x80137fff then some hostUmacDirectBase
  else none

def processorRegionBase : Processor → UInt32 → Option UInt32
  | .lmac, address => lmacRegionBase address
  | .umac, address => umacRegionBase address

def hostOffset (processor : Processor) (address : UInt32) : Except AddressError UInt32 :=
  let low := address &&& rpuAddrMaskOffset
  match sharedRegionBase address with
  | some base => .ok (base + low)
  | none =>
      match processorRegionBase processor address with
      | some base => .ok (base + low)
      | none => .error (.unsupported address)

variable {ε : Type}

def mappedOffset (processor : Processor) (address : UInt32) : Except (RpuError ε) UInt32 :=
  (hostOffset processor address).mapError .address

/-- The length rounded up to whole words. -/
def align4 (len : Nat) : Nat := (len + 3) / 4 * 4

def checkedSpan (len : Nat) : Except (RpuError ε) UInt32 :=
  if len - 1 < 2 ^ 32 then .ok (UInt32.ofNat (len - 1)) else .error (.address .range)

def checkedAdd (left right : UInt32) (failure : RpuError ε) : Except (RpuError ε) UInt32 :=
  if left.toNat + right.toNat < 2 ^ 32 then .ok (left + right) else .error failure

def checkedRange (processor : Processor) (address : UInt32) (len : Nat) :
    Except (RpuError ε) Unit := do
  if len = 0 then
    let _ ← mappedOffset processor address
    return ()
  let span ← checkedSpan len
  let last ← checkedAdd address span (.address .range)
  let firstOffset ← mappedOffset processor address
  let lastOffset ← mappedOffset processor last
  if lastOffset < firstOffset ∨ lastOffset - firstOffset ≠ span then throw (.address .range)

def validateAccess (processor : Processor) (address : UInt32) (len : Nat) :
    Except (RpuError ε) Unit := do
  if address &&& 3 ≠ 0 then throw .unaligned
  checkedRange processor address (align4 len)

def validateIndirectAccess (encodedAddress : UInt32) (len : Nat) : Except (RpuError ε) Unit := do
  if encodedAddress &&& 0xff000000 ≠ rpuMcuCoreIndirectBase then throw .unaligned
  if encodedAddress &&& 3 ≠ 0 ∨ len % 4 ≠ 0 then throw .unaligned

def chunkHostOffset (processor : Processor) (address : UInt32) (index : Nat) :
    Except (RpuError ε) UInt32 := do
  let byteOffset := index * maxBusChunk
  if 2 ^ 32 ≤ byteOffset then throw .invalidArgument
  let address ← checkedAdd address (UInt32.ofNat byteOffset) .invalidArgument
  mappedOffset processor address

end Addresses

/-! ## Reading and writing -/

section Buffers
variable {σ τ ε α : Type}

/-- Runs a program whose buffer is one part of the caller's buffer. -/
def inSlice (first last : Nat) (x : Program (σ × Bytes) ε α) : Program (σ × Bytes) ε α :=
  onField (fun s => (s.1, slice s.2 first last))
    (fun part s => (part.1, splice s.2 first part.2)) x

/-- Runs a program of the first component next to the caller's buffer. -/
def besideBuffer (x : Program σ ε α) : Program (σ × Bytes) ε α :=
  onField Prod.fst (fun first s => (first, s.2)) x

/-- Next to a buffer a program keeps what it keeps without one. -/
theorem keeps_besideBuffer {γ : Type} {view : σ → γ} {x : Program σ ε α} (keeps : Keeps view x) :
    Keeps (fun s : σ × Bytes => view s.1) (besideBuffer x) := by
  refine (keeps_iff_post _ _).mpr fun s => ?_
  rw [besideBuffer, post_onField]
  exact keeps.post s.1

theorem keeps_inSlice {γ : Type} {view : σ → γ} (first last : Nat)
    {x : Program (σ × Bytes) ε α} (keeps : Keeps (fun s : σ × Bytes => view s.1) x) :
    Keeps (fun s : σ × Bytes => view s.1) (inSlice first last x) := by
  refine (keeps_iff_post _ _).mpr fun s => ?_
  rw [inSlice, post_onField]
  exact keeps.post (s.1, slice s.2 first last)

/-- A whole buffer as its own part. -/
theorem post_inSlice_whole (x : Program (σ × Bytes) ε α) (s : σ × Bytes) (len : Nat)
    (whole : s.2.length = len) (kept : Post x s (fun _ t => t.2.length = s.2.length))
    (Q : Except ε α → σ × Bytes → Prop) :
    Post (inSlice 0 len x) s Q ↔ Post x s Q := by
  have same : (s.1, slice s.2 0 len) = s := by rw [slice_all (by omega)]
  rw [inSlice, post_onField, same, post_iff, post_iff]
  have length := kept.ends
  have covered : splice s.2 0 (stateAfter x s).2 = (stateAfter x s).2 := by
    rw [splice, List.take_zero, List.nil_append, Nat.zero_add, length]
    simp
  rw [covered]

theorem keeps_length_inSlice (first last : Nat) {x : Program (σ × Bytes) ε α}
    (keeps : Keeps (fun s => s.2.length) x) :
    Keeps (fun s => s.2.length) (inSlice first last x) := by
  rw [keeps_iff_post]
  intro s
  rw [inSlice, post_onField]
  refine (keeps.post (s.1, slice s.2 first last)).mono ?_
  intro r part length
  rw [length_slice] at length
  by_cases inside : first ≤ s.2.length
  · exact length_splice (by omega)
  · have empty : part.2 = [] := List.eq_nil_of_length_eq_zero (by omega)
    simp [splice, empty]

end Buffers

namespace Rpu
variable {β ε α : Type} [Bus β ε]

def busRead (offset : UInt32) : Program (Rpu β × Bytes) (RpuError ε) Unit :=
  onField (fun s => (s.1.bus, s.2)) (fun part _ => ({ bus := part.1 }, part.2))
    (mapError .bus (Bus.read offset))

def busWrite (offset : UInt32) (data : Bytes) : Program (Rpu β) (RpuError ε) Unit :=
  onField (·.bus) (fun bus _ => { bus }) (mapError .bus (Bus.write offset data))

/-- Reads the chunks from `index` on; a buffer holds at most as many chunks as
bytes. -/
def readChunks (processor : Processor) (address : UInt32) :
    Nat → Nat → Program (Rpu β × Bytes) (RpuError ε) Unit
  | 0, _ => pure ()
  | fuel + 1, index => do
      let (_, data) ← get
      if data.length ≤ index * maxBusChunk then return ()
      let offset ← liftResult (chunkHostOffset processor address index)
      inSlice (index * maxBusChunk) (min (index * maxBusChunk + maxBusChunk) data.length)
        (busRead offset)
      readChunks processor address fuel (index + 1)

def readAligned (processor : Processor) (address : UInt32) :
    Program (Rpu β × Bytes) (RpuError ε) Unit := do
  let (_, data) ← get
  readChunks processor address data.length 0

def readTail (processor : Processor) (address : UInt32) (alignedLen : Nat) :
    Program (Rpu β × Bytes) (RpuError ε) Unit := do
  let (_, data) ← get
  let tailLen := data.length - alignedLen
  if tailLen = 0 then return ()
  let offset ← liftResult (mappedOffset processor (address + UInt32.ofNat alignedLen))
  let (_, tail) ← besideBuffer (withLocal (List.replicate 4 0) (busRead offset))
  modify fun s => (s.1, splice s.2 alignedLen (tail.take tailLen))

def read (processor : Processor) (address : UInt32) :
    Program (Rpu β × Bytes) (RpuError ε) Unit := do
  let (_, data) ← get
  liftResult (validateAccess processor address data.length)
  let alignedLen := data.length / 4 * 4
  inSlice 0 alignedLen (readAligned processor address)
  readTail processor address alignedLen

def writeChunks (processor : Processor) (address : UInt32) :
    List Bytes → Nat → Program (Rpu β) (RpuError ε) Unit
  | [], _ => pure ()
  | chunk :: rest, index => do
      let offset ← liftResult (chunkHostOffset processor address index)
      busWrite offset chunk
      writeChunks processor address rest (index + 1)

def writeAligned (processor : Processor) (address : UInt32) (data : Bytes) :
    Program (Rpu β) (RpuError ε) Unit :=
  writeChunks processor address (chunks maxBusChunk data) 0

def writeTail (processor : Processor) (address : UInt32) (alignedLen : Nat) (data : Bytes) :
    Program (Rpu β) (RpuError ε) Unit := do
  let tailLen := data.length - alignedLen
  if tailLen = 0 then return ()
  let tail := data.drop alignedLen ++ List.replicate (4 - tailLen) 0
  let offset ← liftResult (mappedOffset processor (address + UInt32.ofNat alignedLen))
  busWrite offset tail

def write (processor : Processor) (address : UInt32) (data : Bytes) :
    Program (Rpu β) (RpuError ε) Unit := do
  liftResult (validateAccess processor address data.length)
  let alignedLen := data.length / 4 * 4
  writeAligned processor address (data.take alignedLen)
  writeTail processor address alignedLen data

def readU32 (processor : Processor) (address : UInt32) :
    Program (Rpu β) (RpuError ε) UInt32 := do
  if address &&& 3 ≠ 0 then throw .unaligned
  let (_, bytes) ← withLocal (List.replicate 4 0) (read processor address)
  return Nrf7002.readU32 bytes 0

def writeU32 (processor : Processor) (address value : UInt32) :
    Program (Rpu β) (RpuError ε) Unit := do
  if address &&& 3 ≠ 0 then throw .unaligned
  write processor address (le32 value)

def readRegister (address : UInt32) : Program (Rpu β) (RpuError ε) UInt32 :=
  readU32 .lmac address

def writeRegister (address value : UInt32) : Program (Rpu β) (RpuError ε) Unit :=
  writeU32 .lmac address value

def writeIndirectWords (processor : Processor) : List Bytes → Program (Rpu β) (RpuError ε) Unit
  | [] => pure ()
  | word :: rest => do
      writeRegister processor.indirectDataRegister (Nrf7002.readU32 word 0)
      writeIndirectWords processor rest

/-- Writes words through a processor's indirect core-memory port. -/
def writeIndirect (processor : Processor) (encodedAddress : UInt32) (data : Bytes) :
    Program (Rpu β) (RpuError ε) Unit := do
  liftResult (validateIndirectAccess encodedAddress data.length)
  writeRegister processor.indirectControlRegister ((encodedAddress &&& rpuAddrMaskOffset) >>> 2)
  writeIndirectWords processor (chunks 4 data)

/-! ### Power -/

def onBus (x : Program β ε α) : Program (Rpu β) (RpuError ε) α :=
  onField (·.bus) (fun bus _ => { bus }) (mapError .bus x)

/-- Polls a status register; the delay between two polls changes no state. -/
def waitStatusBit (opcode mask : UInt8) : Nat → Program (Rpu β) (RpuError ε) Unit
  | 0 => throw .timeout
  | attempts + 1 => do
      let status ← onBus (Bus.readStatus opcode)
      if status &&& mask ≠ 0 then return ()
      waitStatusBit opcode mask attempts

def wake (attempts : Nat) : Program (Rpu β) (RpuError ε) Unit := do
  onBus (Bus.writeStatus opcodeWriteStatus2 rpuWakeRequest)
  waitStatusBit opcodeReadStatus2 rpuWakeRequest attempts
  waitStatusBit opcodeReadStatus1 rpuAwake attempts

def enableClocks : Program (Rpu β) (RpuError ε) Unit :=
  writeRegister rpuRegClockEnable rpuClockEnable

/-! ### Word accesses -/

/-- The host offset of one accessible word. -/
def wordOffset (processor : Processor) (address : UInt32) : Except (RpuError ε) UInt32 := do
  if address &&& 3 ≠ 0 then throw .unaligned
  validateAccess processor address 4
  mappedOffset processor address

theorem chunkHostOffset_zero (processor : Processor) (address : UInt32) :
    (chunkHostOffset processor address 0 : Except (RpuError ε) UInt32) =
      mappedOffset processor address := by
  have same : address + UInt32.ofNat (0 * maxBusChunk) = address := by simp
  have small : address.toNat + (UInt32.ofNat (0 * maxBusChunk)).toNat < 2 ^ 32 := by
    simpa using address.toNat_lt
  rw [chunkHostOffset, if_neg (by simp), checkedAdd, if_pos small, same]
  rfl

theorem keeps_length_busRead (offset : UInt32) :
    Keeps (fun s : Rpu β × Bytes => s.2.length) (busRead offset) := by
  rw [keeps_iff_post]
  intro s
  rw [busRead, post_onField, post_mapError]
  exact (Bus.read_length offset).post (s.1.bus, s.2)

theorem keeps_length_readChunks (processor : Processor) (address : UInt32) (fuel index : Nat) :
    Keeps (fun s : Rpu β × Bytes => s.2.length) (readChunks processor address fuel index) := by
  induction fuel generalizing index with
  | zero => exact keeps_pure _ _
  | succ fuel hypothesis =>
      refine (keeps_get _).bind fun s => keeps_ite (fun _ => keeps_pure _ _) fun _ => ?_
      exact (keeps_liftResult _ _).bind fun offset =>
        (keeps_length_inSlice _ _ (keeps_length_busRead offset)).bind fun _ => hypothesis (index + 1)

theorem keeps_length_readTail (processor : Processor) (address : UInt32) (alignedLen : Nat) :
    Keeps (fun s : Rpu β × Bytes => s.2.length)
      (readTail processor address alignedLen : Program (Rpu β × Bytes) (RpuError ε) Unit) := by
  rw [keeps_iff_post]
  intro s
  rw [readTail, post_bind, post_get]
  dsimp only
  rw [post_ite]
  by_cases aligned : s.2.length - alignedLen = 0
  · rw [if_pos aligned, post_pure]
  · rw [if_neg aligned, post_bind, post_liftResult]
    cases (mappedOffset processor (address + UInt32.ofNat alignedLen) : Except (RpuError ε) UInt32) with
    | error failure => rfl
    | ok offset =>
        dsimp only
        rw [post_bind, besideBuffer, post_onField, post_withLocal]
        refine (post_true _ _).mono ?_
        rintro r t -
        cases r with
        | error failure => rfl
        | ok done =>
            refine (post_modify _ _ _).mpr (length_splice ?_)
            rw [List.length_take]
            dsimp only
            omega

/-- A read fills the caller's buffer and never changes its length. -/
theorem keeps_length_read (processor : Processor) (address : UInt32) :
    Keeps (fun s : Rpu β × Bytes => s.2.length) (read processor address) :=
  (keeps_get _).bind fun _ => (keeps_liftResult _ _).bind fun _ =>
    (keeps_length_inSlice _ _ ((keeps_get _).bind fun _ => keeps_length_readChunks _ _ _ _)).bind
      fun _ => keeps_length_readTail _ _ _

theorem post_readChunks_end (processor : Processor) (address : UInt32) (fuel index : Nat)
    (s : Rpu β × Bytes) (ended : s.2.length ≤ index * maxBusChunk)
    (Q : Except (RpuError ε) Unit → Rpu β × Bytes → Prop) :
    Post (readChunks processor address fuel index) s Q ↔ Q (.ok ()) s := by
  cases fuel with
  | zero => rw [readChunks, post_pure]
  | succ fuel =>
      rw [readChunks, post_bind, post_get]
      simp only [ended, if_true, post_pure]

theorem post_readAligned_word (processor : Processor) (address : UInt32) (s : Rpu β × Bytes)
    (word : s.2.length = 4) (Q : Except (RpuError ε) Unit → Rpu β × Bytes → Prop) :
    Post (readAligned processor address) s Q ↔
      match (mappedOffset processor address : Except (RpuError ε) UInt32) with
      | .error failure => Q (.error failure) s
      | .ok offset => Post (busRead offset) s Q := by
  rw [readAligned, post_bind, post_get]
  simp only [word]
  rw [readChunks, post_bind, post_get]
  simp only [word, Nat.zero_mul, Nat.reduceLeDiff, if_false]
  rw [post_bind, post_liftResult, chunkHostOffset_zero]
  cases (mappedOffset processor address : Except (RpuError ε) UInt32) with
  | error failure => rfl
  | ok offset =>
      have bound : min (0 + maxBusChunk) 4 = 4 := rfl
      change Post (_ >>= _) s Q ↔ _
      rw [post_bind, bound, post_inSlice_whole _ _ _ word ((keeps_length_busRead offset).post s)]
      refine Post.congr ((keeps_length_busRead offset).post s) ?_
      intro r t kept
      cases r with
      | error failure => rfl
      | ok done =>
          refine post_readChunks_end processor address _ 1 t ?_ Q
          rw [kept.trans word]
          decide

theorem post_readTail_none (processor : Processor) (address : UInt32) (alignedLen : Nat)
    (s : Rpu β × Bytes) (aligned : s.2.length = alignedLen)
    (Q : Except (RpuError ε) Unit → Rpu β × Bytes → Prop) :
    Post (readTail processor address alignedLen) s Q ↔ Q (.ok ()) s := by
  rw [readTail, post_bind, post_get]
  simp only [aligned, Nat.sub_self, if_true, post_pure]

theorem length_readAligned_word (processor : Processor) (address : UInt32)
    (s : Rpu β × Bytes) (word : s.2.length = 4) :
    Post (readAligned processor address) s (fun _ t => t.2.length = s.2.length) := by
  rw [post_readAligned_word processor address s word]
  cases (mappedOffset processor address : Except (RpuError ε) UInt32) with
  | error failure => rfl
  | ok offset => exact (keeps_length_busRead offset).post s

/-- Reading one word is one bus read. -/
theorem post_readU32 (processor : Processor) (address : UInt32) (rpu : Rpu β)
    (Q : Except (RpuError ε) UInt32 → Rpu β → Prop) :
    Post (readU32 processor address) rpu Q ↔
      match (wordOffset processor address : Except (RpuError ε) UInt32) with
      | .error failure => Q (.error failure) rpu
      | .ok offset => Post (Bus.read offset) (rpu.bus, List.replicate 4 0) fun r t =>
          match r with
          | .ok _ => Q (.ok (Nrf7002.readU32 t.2 0)) { bus := t.1 }
          | .error failure => Q (.error (.bus failure)) { bus := t.1 } := by
  rw [readU32, wordOffset]
  by_cases unaligned : address &&& 3 ≠ 0
  · rw [if_pos unaligned, if_pos unaligned]
    rw [post_bind, post_throw]
    rfl
  · rw [if_neg unaligned, if_neg unaligned]
    rw [post_bind, post_withLocal, read, post_bind, post_get]
    simp only [post_bind, post_liftResult, List.length_replicate]
    cases accepted : (validateAccess processor address 4 : Except (RpuError ε) Unit) with
    | error failure => rfl
    | ok done =>
        have word : (List.replicate 4 (0 : UInt8)).length = 4 := rfl
        have aligned : 4 / 4 * 4 = 4 := rfl
        simp only [post_pure]
        rw [aligned, post_inSlice_whole _ _ 4 word (length_readAligned_word processor address _ word)]
        rw [Post.congr (R := fun r t => Q (r.map fun _ => Nrf7002.readU32 t.2 0) t.1)
          (length_readAligned_word processor address _ word) ?_,
          post_readAligned_word processor address _ word]
        · simp only [bind, Except.bind]
          cases (mappedOffset processor address : Except (RpuError ε) UInt32) with
          | error failure => rfl
          | ok offset =>
              simp only [busRead, post_onField, post_mapError]
              refine Post.congr (post_true _ _) ?_
              rintro r t -
              cases r <;> rfl
        · intro r t kept
          cases r with
          | error failure => rfl
          | ok done => exact post_readTail_none processor address 4 t kept _

/-- Writing one word is one bus write. -/
theorem post_writeU32 (processor : Processor) (address value : UInt32) (rpu : Rpu β)
    (Q : Except (RpuError ε) Unit → Rpu β → Prop) :
    Post (writeU32 processor address value) rpu Q ↔
      match (wordOffset processor address : Except (RpuError ε) UInt32) with
      | .error failure => Q (.error failure) rpu
      | .ok offset => Post (Bus.write offset (le32 value)) rpu.bus fun r t =>
          Q (r.mapError .bus) { bus := t } := by
  rw [writeU32, wordOffset]
  by_cases unaligned : address &&& 3 ≠ 0
  · rw [if_pos unaligned, if_pos unaligned, post_bind, post_throw]
    rfl
  · rw [if_neg unaligned, if_neg unaligned, write, post_bind, post_liftResult, length_le32]
    cases accepted : (validateAccess processor address 4 : Except (RpuError ε) Unit) with
    | error failure => rfl
    | ok done =>
        have whole : (le32 value).take (4 / 4 * 4) = le32 value := 
          List.take_of_length_le (by rw [length_le32])
        have single : chunks maxBusChunk (le32 value) = [le32 value] := 
          chunks_short (by simp [← List.length_pos_iff]) (by rw [length_le32]; decide)
        have tail (t : Rpu β) (R : Except (RpuError ε) Unit → Rpu β → Prop) :
            Post (writeTail processor address (4 / 4 * 4) (le32 value)) t R ↔ R (.ok ()) t := by
          rw [writeTail, length_le32, if_pos rfl, post_pure]
        simp only [writeAligned, whole, single, writeChunks, post_bind, post_liftResult,
          chunkHostOffset_zero, tail, post_pure]
        change _ ↔ match (mappedOffset processor address : Except (RpuError ε) UInt32) with
          | .error _ => _
          | .ok _ => _
        cases (mappedOffset processor address : Except (RpuError ε) UInt32) with
        | error failure => rfl
        | ok offset =>
            simp only [busWrite, post_onField, post_mapError]
            refine Post.congr (post_true _ _) ?_
            rintro r t -
            cases r <;> rfl

end Rpu

/-! ## A bus for concrete runs -/

section ReadyBus

/-- A bus on which every transfer succeeds and every word reads as one packet-RAM
address. -/
structure ReadyBus where
  deriving DecidableEq

def readyAddress : UInt32 := 0xb0001000

def fillReady (bytes : Bytes) : Bytes :=
  bytes.zipIdx.map fun entry => (le32 readyAddress).getD (entry.2 % 4) 0

instance : Bus ReadyBus Empty where
  readStatus _ := pure 0
  writeStatus _ _ := pure ()
  read _ := modify fun s => (s.1, fillReady s.2)
  write _ _ := pure ()
  read_length _ := keeps_modify _ _ fun s => by simp [fillReady]

def fillWord (word : UInt32) (bytes : Bytes) : Bytes :=
  bytes.zipIdx.map fun entry => (le32 word).getD (entry.2 % 4) 0

/-- A bus on which every transfer succeeds and every word reads as `word`. -/
structure WordBus where
  word : UInt32
  deriving DecidableEq

instance : Bus WordBus Empty where
  readStatus _ := pure 0xff
  writeStatus _ _ := pure ()
  read _ := modify fun s => (s.1, fillWord s.1.word s.2)
  write _ _ := pure ()
  read_length _ := keeps_modify _ _ fun s => by simp [fillWord]

/-- A bus on which every transfer fails while it is broken, and that is ready otherwise. -/
structure FaultyBus where
  broken : Bool
  deriving DecidableEq

instance : Bus FaultyBus Unit where
  readStatus _ := do if (← get).broken then throw () else return 0
  writeStatus _ _ := do if (← get).broken then throw ()
  read _ := do if (← get).1.broken then throw () else modify fun s => (s.1, fillReady s.2)
  write _ _ := do if (← get).broken then throw ()
  read_length _ := (keeps_get _).bind fun _ => keeps_ite (fun _ => keeps_throw _ _) fun _ =>
    keeps_modify _ _ fun s => by simp [fillReady]

end ReadyBus

end Nrf7002
