import Nrf7002.Transport.Flat
import Nrf7002.Transport.Spi

/-! # Memory behind the SPI

The device that the transport talks to: a byte-addressed memory reached by a wire address,
whose top bit says if the address grows with the payload.  The transport makes one
transfer of that memory out of its transactions, in both read modes. -/

set_option autoImplicit false

namespace Nrf7002
open Foundation

/-- The memory, the latency of its addresses in words, and what the device clocks out
where it has nothing to say. -/
structure SpiMemory where
  memory : ByteMemory
  latency : Nat → Nat
  idle : Nat → UInt8

namespace SpiMemory

/-- The wire address of a transaction. -/
def wireOf (sent : Bytes) : Nat :=
  (sent.getD 1 0).toNat * 65536 + (sent.getD 2 0).toNat * 256 + (sent.getD 3 0).toNat

/-- The byte that the payload byte `index` is about; without the flag, the address stays at
one word. -/
def cell (wire index : Nat) : Nat :=
  if wire / 2 ^ 23 % 2 = 1 then wire % 2 ^ 23 + index else wire % 2 ^ 23 + index % 4

/-- The first payload byte of a read. -/
def payloadStart (device : SpiMemory) (wire : Nat) : Nat := 5 + device.latency (wire % 2 ^ 23) * 4

def answer (device : SpiMemory) (sent : Bytes) : Bytes :=
  (List.range sent.length).map fun index =>
    if sent.getD 0 0 = opcodeFastRead ∧ device.payloadStart (wireOf sent) ≤ index then
      device.memory (cell (wireOf sent) (index - device.payloadStart (wireOf sent)))
    else device.idle index

def storeCells (wire : Nat) : Nat → Bytes → ByteMemory → ByteMemory
  | _, [], memory => memory
  | index, byte :: rest, memory =>
      storeCells wire (index + 1) rest (memory.store (cell wire index) [byte])

def accept (device : SpiMemory) (sent : Bytes) : SpiMemory :=
  if sent.getD 0 0 = opcodeWrite then
    { device with memory := storeCells (wireOf sent) 0 (sent.drop 4) device.memory }
  else device

@[simp] theorem length_answer (device : SpiMemory) (sent : Bytes) :
    (device.answer sent).length = sent.length := by
  simp [answer]

instance : SpiDevice SpiMemory Empty where
  write sent := modify fun device => device.accept sent
  transferInPlace := modify fun s => (s.1, s.1.answer s.2)
  transfer_length := keeps_modify _ _ fun s => length_answer s.1 s.2

/-- With the flag, the payload is one store. -/
theorem storeCells_incrementing {wire : Nat} (flag : wire / 2 ^ 23 % 2 = 1) (index : Nat)
    (bytes : Bytes) (memory : ByteMemory) :
    storeCells wire index bytes memory = memory.store (wire % 2 ^ 23 + index) bytes := by
  induction bytes generalizing index memory with
  | nil => exact ByteMemory.store_nil.symm
  | cons byte rest hypothesis =>
      rw [storeCells, hypothesis, cell, if_pos flag]
      exact ByteMemory.store_store [byte] rest

end SpiMemory

/-! ## Wire addresses -/

section Wire
variable {address : UInt32}

theorem wireOf_frameHeader (opcode : UInt8) (address : UInt32) (rest : Bytes) :
    SpiMemory.wireOf (SpiTransport.frameHeader opcode address ++ rest) =
      address.toNat % 2 ^ 24 := by
  simp [SpiMemory.wireOf, SpiTransport.frameHeader, UInt32.toNat_shiftRight]
  omega

theorem toNat_low24 (address : UInt32) :
    (address &&& 0x00ffffff).toNat = address.toNat % 2 ^ 24 := by
  rw [UInt32.toNat_and]
  exact Nat.and_two_pow_sub_one_eq_mod address.toNat 24

theorem toNat_wireAddress {σ : Type} {transport : SpiTransport σ}
    (mask : transport.config.addressMask = incrementingAddressMask)
    (small : address.toNat < 2 ^ 23) :
    (transport.wireAddress address).toNat = address.toNat + 2 ^ 23 := by
  have flagged : address.toNat ||| 2 ^ 23 = address.toNat + 2 ^ 23 := by
    have joined := Nat.two_pow_add_eq_or_of_lt small 1
    rw [Nat.mul_one] at joined
    rw [Nat.or_comm, ← joined, Nat.add_comm]
  rw [SpiTransport.wireAddress, mask, toNat_low24, UInt32.toNat_or]
  change (address.toNat ||| 2 ^ 23) % 2 ^ 24 = _
  rw [flagged]
  omega

end Wire

/-! ## Transactions -/

section Transactions
open SpiTransport

/-- The framing settings are those of the device: the address flag, and the latency of
every address. -/
structure Framed (transport : SpiTransport SpiMemory) : Prop where
  mask : transport.config.addressMask = incrementingAddressMask
  latency : ∀ address : UInt32, address.toNat < 2 ^ 23 →
    transport.spi.latency address.toNat = (transport.config.readLatencyWords address).toNat

theorem take_overwrite {n : Nat} (buffer : Octets n) {value : Bytes} (fits : value.length ≤ n) :
    (overwrite buffer 0 value).1.take value.length = value := by
  rw [overwrite, dif_pos (by omega)]
  have inside : 0 + value.length ≤ buffer.1.length := by
    rw [buffer.2]
    omega
  have front := take_splice inside
  rw [Nat.zero_add, List.take_zero, List.nil_append] at front
  exact front

theorem slice_overwrite {n : Nat} (buffer : Octets n) {value : Bytes} {first last : Nat}
    (fits : value.length ≤ n) (inside : last ≤ value.length) :
    slice (overwrite buffer 0 value).1 first last = slice value first last := by
  have front := take_overwrite buffer fits
  calc slice (overwrite buffer 0 value).1 first last
      = slice ((overwrite buffer 0 value).1.take value.length) first last := by
        rw [slice, slice, List.drop_take, List.take_take, Nat.min_eq_left (by omega)]
    _ = slice value first last := by rw [front]

/-- The payload of a read is what the memory holds. -/
theorem slice_answer (device : SpiMemory) (sent : Bytes) (start : Nat) {count : Nat}
    (opcode : sent.getD 0 0 = opcodeFastRead)
    (starts : device.payloadStart (SpiMemory.wireOf sent) = start)
    (size : sent.length = start + count) :
    slice (device.answer sent) start (start + count) =
      (List.range count).map fun index =>
        device.memory (SpiMemory.cell (SpiMemory.wireOf sent) index) := by
  apply List.ext_getElem
  · rw [length_slice, SpiMemory.length_answer, size, List.length_map, List.length_range]
    omega
  · intro index left right
    rw [List.getD_eq_getElem?_getD] at opcode
    simp [slice, SpiMemory.answer, opcode, starts]

/-- The bytes that a read sends: a header, latency words and the over-read character. -/
def readMessage (wire : UInt32) (latencyLen count : Nat) : Bytes :=
  frameHeader opcodeFastRead wire ++ [0] ++ List.replicate latencyLen 0
    ++ List.replicate count 0xff

theorem length_readMessage (wire : UInt32) (latencyLen count : Nat) :
    (readMessage wire latencyLen count).length = readHeaderLen + latencyLen + count := by
  simp [readMessage, frameHeader, readHeaderLen]
  omega

/-- What a read leaves of the exchanged buffer. -/
theorem slice_exchange {n : Nat} (buffer : Octets n) (device : SpiMemory) {message : Bytes}
    (first : Nat) {last : Nat} (fits : message.length ≤ n) (inside : last ≤ message.length) :
    slice (overwrite (overwrite buffer 0 message) 0
      (device.answer ((overwrite buffer 0 message).1.take message.length))).1 first last =
        slice (device.answer message) first last := by
  rw [take_overwrite buffer fits]
  apply slice_overwrite
  · rw [SpiMemory.length_answer]
    exact fits
  · rw [SpiMemory.length_answer]
    exact inside

/-- The wire address of a read in either mode. -/
def modeAddress (transport : SpiTransport SpiMemory) (address : UInt32) (incrementing : Bool) :
    UInt32 :=
  if incrementing then transport.wireAddress address else address &&& 0x00ffffff

theorem modeAddress_toNat {transport : SpiTransport SpiMemory} (framed : Framed transport)
    {address : UInt32} (small : address.toNat < 2 ^ 23) (incrementing : Bool) :
    (modeAddress transport address incrementing).toNat % 2 ^ 24 =
      address.toNat + if incrementing then 2 ^ 23 else 0 := by
  cases incrementing with
  | true =>
      rw [modeAddress, if_pos rfl, toNat_wireAddress framed.mask small, if_pos rfl]
      omega
  | false =>
      have plain : (if false = true then 2 ^ 23 else 0) = 0 := rfl
      rw [modeAddress, if_neg (by decide), toNat_low24, plain]
      omega

/-- In both modes the payload goes through the memory byte by byte. -/
theorem cell_of_mode {address count : Nat} (small : address < 2 ^ 23) {incrementing : Bool}
    (word : incrementing = false → count ≤ 4) {index : Nat} (inside : index < count) :
    SpiMemory.cell (address + if incrementing then 2 ^ 23 else 0) index = address + index := by
  cases incrementing with
  | true =>
      have flag : (address + 2 ^ 23) / 2 ^ 23 % 2 = 1 := by omega
      rw [if_pos rfl, SpiMemory.cell, if_pos flag]
      omega
  | false =>
      have few := word rfl
      have flag : ¬ address / 2 ^ 23 % 2 = 1 := by omega
      rw [if_neg (by decide), Nat.add_zero, SpiMemory.cell, if_neg flag]
      omega

theorem slice_readMessage {transport : SpiTransport SpiMemory} (framed : Framed transport)
    {address : UInt32} {count : Nat} (small : address.toNat < 2 ^ 23) {incrementing : Bool}
    (word : incrementing = false → count ≤ 4) :
    slice (transport.spi.answer (readMessage (modeAddress transport address incrementing)
        ((transport.config.readLatencyWords address).toNat * 4) count))
      (readHeaderLen + (transport.config.readLatencyWords address).toNat * 4)
      (readHeaderLen + (transport.config.readLatencyWords address).toNat * 4 + count) =
        transport.spi.memory.fetch address.toNat count := by
  have wire : SpiMemory.wireOf (readMessage (modeAddress transport address incrementing)
      ((transport.config.readLatencyWords address).toNat * 4) count) =
        address.toNat + if incrementing then 2 ^ 23 else 0 := by
    rw [readMessage, List.append_assoc, List.append_assoc, wireOf_frameHeader,
      modeAddress_toNat framed small]
  have low : (address.toNat + if incrementing then 2 ^ 23 else 0) % 2 ^ 23 = address.toNat := by
    split <;> omega
  rw [slice_answer transport.spi _
    (readHeaderLen + (transport.config.readLatencyWords address).toNat * 4) rfl ?_
    (length_readMessage _ _ _), wire]
  · rw [ByteMemory.fetch, List.map_inj_left]
    intro index member
    rw [cell_of_mode small word (List.mem_range.mp member)]
  · rw [SpiMemory.payloadStart, wire, low, framed.latency address small]
    rfl

theorem post_readOne (address : UInt32) (incrementing : Bool)
    (s : SpiTransport SpiMemory × Bytes) (framed : Framed s.1)
    (few : s.2.length ≤ maxSpiDataLen) (small : address.toNat < 2 ^ 23)
    (word : incrementing = false → s.2.length ≤ 4) :
    Post (readOne address incrementing) s (fun r t =>
      r = .ok () ∧ t.1.spi = s.1.spi ∧ t.1.config = s.1.config ∧
        t.2 = s.1.spi.memory.fetch address.toNat s.2.length) := by
  have latency := readLatencyWords_le s.1.config address
  have size : maxSpiDataLen = 4096 := rfl
  have words : maxSlaveLatencyWords = 8 := rfl
  have total : spiIoBufferLen = readHeaderLen + 4128 := rfl
  have fits : (readMessage (modeAddress s.1 address incrementing)
      ((s.1.config.readLatencyWords address).toNat * 4) s.2.length).length ≤ spiIoBufferLen := by
    rw [length_readMessage]
    omega
  have bytes := slice_exchange s.1.ioBuffer s.1.spi
    (readHeaderLen + (s.1.config.readLatencyWords address).toNat * 4) fits (Nat.le_refl _)
  rw [length_readMessage, slice_readMessage framed small word] at bytes
  simp only [readOne, post_bind, post_get, besideBuffer, post_onField, post_modify, spiTransfer,
    SpiDevice.transferInPlace]
  refine ⟨trivial, rfl, rfl, ?_⟩
  have whole (value : Bytes) (covers : value.length = s.2.length) : splice s.2 0 value = value := by
    simp [splice, covers]
  exact Eq.trans (congrArg (splice s.2 0) bytes) (whole _ ByteMemory.length_fetch)

/-! ## Transfers -/

/-- The device is as it was, and the buffer holds the bytes. -/
def Gives (bytes : Bytes) (s : SpiTransport SpiMemory × Bytes) (r : Except Empty Unit)
    (t : SpiTransport SpiMemory × Bytes) : Prop :=
  r = .ok () ∧ t.1.spi = s.1.spi ∧ t.1.config = s.1.config ∧ t.2 = bytes

theorem Framed.congr {s t : SpiTransport SpiMemory} (framed : Framed s)
    (latency : t.spi.latency = s.spi.latency) (config : t.config = s.config) : Framed t := by
  constructor
  · rw [config]
    exact framed.mask
  · rw [config, latency]
    exact framed.latency

theorem next_word (index size : Nat) :
    (index + 1) * 4 = min (index * 4 + 4) size ∨
      min (index * 4 + 4) size = size ∧ size ≤ (index + 1) * 4 := by
  omega

/-- One transaction of a longer read. -/
theorem post_readPart (start stop : Nat) (address place : UInt32) (incrementing : Bool)
    (s : SpiTransport SpiMemory × Bytes) (framed : Framed s.1) (inside : stop ≤ s.2.length)
    (few : stop - start ≤ maxSpiDataLen)
    (where_ : place.toNat = address.toNat + start) (small : place.toNat < 2 ^ 23)
    (word : incrementing = false → stop - start ≤ 4) :
    Post (inSlice start stop (readOne place incrementing)) s
      (Gives (splice s.2 start (s.1.spi.memory.fetch (address.toNat + start) (stop - start))) s) := by
  have part : (slice s.2 start stop).length = stop - start := length_slice_of_le inside
  rw [inSlice, post_onField]
  refine (post_readOne place incrementing (s.1, slice s.2 start stop) framed (by dsimp only; omega)
    small (by dsimp only; rw [part]; exact word)).mono ?_
  intro r t given
  obtain ⟨ended, spi, config, bytes⟩ := given
  refine ⟨ended, spi, config, ?_⟩
  dsimp only at bytes ⊢
  rw [bytes, part, where_]

theorem post_readIncrementingFrom (address : UInt32) (fuel done : Nat)
    (s : SpiTransport SpiMemory × Bytes) (framed : Framed s.1)
    (enough : s.2.length ≤ done + fuel) (small : address.toNat + s.2.length ≤ 2 ^ 23) :
    Post (readIncrementingFrom address fuel done) s
      (Gives (s.1.spi.memory.filled address.toNat s.2 done) s) := by
  have size : maxSpiDataLen = 4096 := rfl
  induction fuel generalizing done s with
  | zero =>
      rw [readIncrementingFrom, post_pure]
      exact ⟨rfl, rfl, rfl, (ByteMemory.filled_end (by omega)).symm⟩
  | succ fuel hypothesis =>
      rw [readIncrementingFrom, post_bind, post_get]
      dsimp only
      rw [post_ite]
      by_cases ended : s.2.length ≤ done
      · rw [if_pos ended, post_pure]
        exact ⟨rfl, rfl, rfl, (ByteMemory.filled_end ended).symm⟩
      · have place : (address + UInt32.ofNat done).toNat = address.toNat + done := by
          have bound : done < 2 ^ 32 := by omega
          rw [UInt32.toNat_add, UInt32.toNat_ofNat_of_lt' bound, Nat.mod_eq_of_lt (by omega)]
        have ordered : done ≤ done + min maxSpiDataLen (s.2.length - done) := Nat.le_add_right _ _
        have inside : done + min maxSpiDataLen (s.2.length - done) ≤ s.2.length := by omega
        rw [if_neg ended]
        rw [post_bind]
        refine (post_readPart done (done + min maxSpiDataLen (s.2.length - done)) address _ true s
          framed inside (by omega) place (by omega) (by simp)).mono ?_
        intro r t given
        obtain ⟨rfl, spi, config, bytes⟩ := given
        have joined := ByteMemory.filled_splice s.1.spi.memory address.toNat ordered inside (.inl rfl)
        have length : t.2.length = s.2.length := by
          rw [bytes]
          apply length_splice
          rw [ByteMemory.length_fetch]
          omega
        refine (hypothesis (done + min maxSpiDataLen (s.2.length - done)) t
          (framed.congr (by rw [spi]) config) (by omega) (by omega)).mono ?_
        intro r u later
        obtain ⟨last, kept, still, after⟩ := later
        refine ⟨last, kept.trans spi, still.trans config, ?_⟩
        rw [after, spi, bytes, joined]

theorem post_readWordsFrom (address : UInt32) (fuel index : Nat)
    (s : SpiTransport SpiMemory × Bytes) (framed : Framed s.1)
    (enough : s.2.length ≤ index * 4 + fuel) (small : address.toNat + s.2.length ≤ 2 ^ 23) :
    Post (readWordsFrom address fuel index) s
      (Gives (s.1.spi.memory.filled address.toNat s.2 (index * 4)) s) := by
  have size : maxSpiDataLen = 4096 := rfl
  have word : highLatencyReadWordLen = 4 := rfl
  induction fuel generalizing index s with
  | zero =>
      rw [readWordsFrom, post_pure]
      exact ⟨rfl, rfl, rfl, (ByteMemory.filled_end (by omega)).symm⟩
  | succ fuel hypothesis =>
      rw [readWordsFrom, post_bind, post_get]
      dsimp only
      rw [post_ite]
      by_cases ended : s.2.length ≤ index * highLatencyReadWordLen
      · rw [if_pos ended, post_pure]
        exact ⟨rfl, rfl, rfl, (ByteMemory.filled_end ended).symm⟩
      · have same : index * highLatencyReadWordLen = index * 4 := rfl
        have bound : index < 2 ^ 32 := by omega
        have product : (UInt32.ofNat index * UInt32.ofNat highLatencyReadWordLen).toNat =
            index * 4 := by
          rw [UInt32.toNat_mul, UInt32.toNat_ofNat_of_lt' bound]
          change index * 4 % 2 ^ 32 = _
          omega
        have place : (address + UInt32.ofNat index * UInt32.ofNat highLatencyReadWordLen).toNat =
            address.toNat + index * highLatencyReadWordLen := by
          rw [UInt32.toNat_add, product, Nat.mod_eq_of_lt (by omega), same]
        have ordered : index * highLatencyReadWordLen ≤
            min (index * highLatencyReadWordLen + highLatencyReadWordLen) s.2.length := by
          omega
        have inside : min (index * highLatencyReadWordLen + highLatencyReadWordLen) s.2.length ≤
            s.2.length := Nat.min_le_right _ _
        rw [if_neg ended]
        rw [post_bind]
        refine (post_readPart (index * highLatencyReadWordLen) _ address _ false s framed inside
          (by omega) place (by omega) (by intro _; omega)).mono ?_
        intro r t given
        obtain ⟨rfl, spi, config, bytes⟩ := given
        have joined := ByteMemory.filled_splice s.1.spi.memory address.toNat ordered inside
          (next_word index s.2.length)
        have length : t.2.length = s.2.length := by
          rw [bytes]
          apply length_splice
          rw [ByteMemory.length_fetch]
          omega
        refine (hypothesis (index + 1) t (framed.congr (by rw [spi]) config) (by omega) (by omega)).mono ?_
        intro r u later
        obtain ⟨last, kept, still, after⟩ := later
        refine ⟨last, kept.trans spi, still.trans config, ?_⟩
        rw [after, spi, bytes, joined]
        rfl

theorem post_read (address : UInt32) (s : SpiTransport SpiMemory × Bytes) (framed : Framed s.1)
    (small : address.toNat + s.2.length ≤ 2 ^ 23) :
    Post (SpiTransport.read address) s (Gives (s.1.spi.memory.fetch address.toNat s.2.length) s) := by
  rw [SpiTransport.read, post_bind, post_get]
  dsimp only
  rw [post_ite]
  by_cases empty : s.2.isEmpty = true
  · rw [if_pos empty, post_pure]
    rw [List.isEmpty_iff] at empty
    exact ⟨rfl, rfl, rfl, by rw [empty]; rfl⟩
  · rw [if_neg empty, ← ByteMemory.filled_zero]
    change Post (if _ then _ else _) _ _
    rw [post_ite]
    split
    · rw [readWordAtATime, post_bind, post_get]
      exact post_readWordsFrom address s.2.length 0 s framed (by omega) small
    · rw [readIncrementing, post_bind, post_get]
      exact post_readIncrementingFrom address s.2.length 0 s framed (by omega) small

/-- A transaction with the flag set stores its payload. -/
theorem accept_message (device : SpiMemory) {wire : UInt32} {address : Nat} (payload : Bytes)
    (flagged : wire.toNat = address + 2 ^ 23) (small : address < 2 ^ 23) :
    device.accept (frameHeader opcodeWrite wire ++ payload) =
      { device with memory := device.memory.store address payload } := by
  have number : SpiMemory.wireOf (frameHeader opcodeWrite wire ++ payload) = address + 2 ^ 23 := by
    rw [wireOf_frameHeader, flagged]
    omega
  have flag : (address + 2 ^ 23) / 2 ^ 23 % 2 = 1 := by omega
  have low : (address + 2 ^ 23) % 2 ^ 23 + 0 = address := by omega
  have opcode : (frameHeader opcodeWrite wire ++ payload).getD 0 0 = opcodeWrite := rfl
  rw [SpiMemory.accept, if_pos opcode, number, SpiMemory.storeCells_incrementing flag, low]
  rfl

theorem post_writeFrom (address : UInt32) (data : Bytes) (fuel done : Nat)
    (t : SpiTransport SpiMemory) (framed : Framed t) (enough : data.length ≤ done + fuel)
    (small : address.toNat + data.length ≤ 2 ^ 23) :
    Post (writeFrom address data fuel done) t (fun r u =>
      r = .ok () ∧ u.config = t.config ∧ u.spi =
        { t.spi with memory := t.spi.memory.store (address.toNat + done) (data.drop done) }) := by
  have size : maxSpiDataLen = 4096 := rfl
  induction fuel generalizing done t with
  | zero =>
      rw [writeFrom, post_pure, List.drop_of_length_le (by omega), ByteMemory.store_nil]
      exact ⟨rfl, rfl, rfl⟩
  | succ fuel hypothesis =>
      rw [writeFrom, post_ite]
      by_cases ended : data.length ≤ done
      · rw [if_pos ended, post_pure, List.drop_of_length_le ended, ByteMemory.store_nil]
        exact ⟨rfl, rfl, rfl⟩
      · have bound : done < 2 ^ 32 := by omega
        have place : (address + UInt32.ofNat done).toNat = address.toNat + done := by
          rw [UInt32.toNat_add, UInt32.toNat_ofNat_of_lt' bound, Nat.mod_eq_of_lt (by omega)]
        have below : (address + UInt32.ofNat done).toNat < 2 ^ 23 := by omega
        have wire := toNat_wireAddress framed.mask below
        rw [place] at wire
        have count : slice data done (done + min maxSpiDataLen (data.length - done)) =
            (data.drop done).take (min maxSpiDataLen (data.length - done)) := by
          rw [slice, Nat.add_sub_cancel_left]
        have length : (frameHeader opcodeWrite (t.wireAddress (address + UInt32.ofNat done)) ++
            slice data done (done + min maxSpiDataLen (data.length - done))).length =
              4 + min maxSpiDataLen (data.length - done) := by
          rw [List.length_append, length_slice_of_le (by omega), Nat.add_sub_cancel_left]
          rfl
        have fits : (frameHeader opcodeWrite (t.wireAddress (address + UInt32.ofNat done)) ++
            slice data done (done + min maxSpiDataLen (data.length - done))).length ≤
              spiIoBufferLen := by
          have total : spiIoBufferLen = 4133 := rfl
          omega
        have sent := take_overwrite t.ioBuffer fits
        rw [length] at sent
        rw [if_neg ended]
        simp only [post_bind, post_modify, post_get, spiWrite, post_onField, SpiDevice.write, put]
        rw [sent, accept_message _ _ wire (by omega), count]
        refine Post.mono (hypothesis (done + min maxSpiDataLen (data.length - done)) _ ?_
          (by omega)) ?_
        · exact framed.congr rfl rfl
        · intro r u later
          obtain ⟨last, config, spi⟩ := later
          refine ⟨last, config, ?_⟩
          rw [spi, ← Nat.add_assoc, ← List.drop_drop, ByteMemory.store_take_drop]

theorem post_write (address : UInt32) (data : Bytes) (t : SpiTransport SpiMemory)
    (framed : Framed t) (small : address.toNat + data.length ≤ 2 ^ 23) :
    Post (SpiTransport.write address data) t (fun r u =>
      r = .ok () ∧ u.config = t.config ∧
        u.spi = { t.spi with memory := t.spi.memory.store address.toNat data }) := by
  rw [SpiTransport.write, post_ite]
  by_cases empty : data.isEmpty = true
  · rw [List.isEmpty_iff] at empty
    rw [if_pos (by rw [empty]; rfl), post_pure, empty, ByteMemory.store_nil]
    exact ⟨rfl, rfl, rfl⟩
  · rw [if_neg empty]
    exact post_writeFrom address data data.length 0 t framed (by omega) small

/-- The transport makes a flat memory of the device, in both read modes. -/
theorem transport_actsAsMemory :
    ActsAsMemory (SpiTransport SpiMemory) (fun t => t.spi.memory) Framed (fun place =>
      place < 2 ^ 23) := by
  have limit (offset : UInt32) (data : Bytes) (some : 0 < data.length)
      (plain : ∀ place, offset.toNat ≤ place → place < offset.toNat + data.length →
        place < 2 ^ 23) : offset.toNat + data.length ≤ 2 ^ 23 := by
    have last := plain (offset.toNat + data.length - 1) (by omega) (by omega)
    omega
  constructor
  · intro t data offset framed plain
    change Post (SpiTransport.read offset) (t, data) _
    by_cases empty : data = []
    · rw [empty, SpiTransport.read, post_bind, post_get]
      exact ⟨rfl, framed, rfl, rfl⟩
    · refine (post_read offset (t, data) framed
        (limit offset data (List.length_pos_iff.mpr empty) plain)).mono ?_
      intro r u given
      obtain ⟨ended, spi, config, bytes⟩ := given
      exact ⟨ended, framed.congr (by rw [spi]) config, by rw [spi], bytes⟩
  · intro t bytes offset framed plain
    change Post (SpiTransport.write offset bytes) t _
    by_cases empty : bytes = []
    · rw [empty, SpiTransport.write, ByteMemory.store_nil]
      exact ⟨rfl, framed, rfl⟩
    · refine (post_write offset bytes t framed
        (limit offset bytes (List.length_pos_iff.mpr empty) plain)).mono ?_
      intro r u stored
      obtain ⟨ended, config, spi⟩ := stored
      exact ⟨ended, framed.congr (by rw [spi]) config, by rw [spi]⟩

end Transactions

/-! ## The memory layer over the transport -/

section Access
variable {processor : Processor} {address : UInt32} {len : Nat}

/-- An access of the memory layer is an access of the memory behind the SPI: a write changes
the bytes of whole words to the data followed by zeros, and no other; a read gives the bytes
and changes none. -/
structure FlatAccess (transport : SpiTransport SpiMemory) (processor : Processor)
    (address : UInt32) (len : Nat) (offset : UInt32) : Prop where
  place : hostOffset processor address = .ok offset
  write : ∀ data : Bytes, data.length = len →
    Post (Rpu.write processor address data) { bus := transport } fun r t => r = .ok () ∧
      t.bus.spi.memory.fetch offset.toNat (align4 len) =
        data ++ List.replicate (align4 len - len) 0 ∧
      ∀ place, place < offset.toNat ∨ offset.toNat + align4 len ≤ place →
        t.bus.spi.memory place = transport.spi.memory place
  read : ∀ data : Bytes, data.length = len →
    Post (Rpu.read processor address) ({ bus := transport }, data) fun r t => r = .ok () ∧
      t.2 = transport.spi.memory.fetch offset.toNat len ∧
      t.1.bus.spi.memory = transport.spi.memory

theorem flatAccess_of_framed {transport : SpiTransport SpiMemory} (framed : Framed transport)
    (accepted : (validateAccess processor address len : Except (RpuError Empty) Unit) = .ok ())
    (within : WithinRegion processor address len) :
    ∃ offset, FlatAccess transport processor address len offset := by
  obtain ⟨offset, linear⟩ := validateAccess_linear accepted
  have limit := linear.limit
  have plain : ∀ place, offset.toNat ≤ place → place < offset.toNat + align4 len →
      place < 2 ^ 23 := by
    intro place _ before
    omega
  refine ⟨offset, linear.mapped, ?_, ?_⟩
  · intro data size
    have length : (padded data).length = align4 len := by rw [length_padded, size]
    refine (Rpu.post_write_stores transport_actsAsMemory linear plain data size accepted
      { bus := transport } framed).mono ?_
    intro r t stored
    obtain ⟨_, memory, whole⟩ := stored
    have ended := whole within.mapped
    have after : t.bus.spi.memory = _ := memory ended
    refine ⟨ended, ?_, ?_⟩
    · rw [after, ← length, ByteMemory.fetch_store, length, padded, size]
    · intro place outside
      rw [after, ByteMemory.store_outside (by rw [length]; exact outside)]
  · intro data size
    refine (Rpu.post_read_reads transport_actsAsMemory linear plain ({ bus := transport }, data)
      size accepted framed).mono ?_
    intro r t given
    obtain ⟨_, kept, bytes, whole⟩ := given
    have ended := whole within.mapped
    have after := bytes ended
    rw [size] at after
    exact ⟨ended, after, kept⟩

/-- With Nordic's settings, and a device that answers after the latency they say, every
accepted access within one region is one access of a flat memory. -/
theorem access_is_flat (transport : SpiTransport SpiMemory)
    (mode : transport.config = .nordicDefault ∨ transport.config = .nordicMemoryMap)
    (latency : ∀ place : UInt32, place.toNat < 2 ^ 23 →
      transport.spi.latency place.toNat = (transport.config.readLatencyWords place).toNat)
    (accepted : (validateAccess processor address len : Except (RpuError Empty) Unit) = .ok ())
    (within : WithinRegion processor address len) :
    ∃ offset, FlatAccess transport processor address len offset := by
  have mask : transport.config.addressMask = incrementingAddressMask := by
    cases mode with
    | inl default => rw [default]; rfl
    | inr table => rw [table]; rfl
  exact flatAccess_of_framed { mask, latency } accepted within

/-- A cleared memory whose reads have the latencies of the table. -/
def clearedMemory : SpiMemory :=
  { memory := fun _ => 0
    latency := fun place =>
      (SpiConfig.nordicMemoryMap.readLatencyWords (UInt32.ofNat place)).toNat
    idle := fun _ => 0 }

theorem clearedMemory_flat :
    SpiConfig.nordicMemoryMap.readLatencyWords 0x28c000 = 1 ∧ ∃ offset,
      FlatAccess (SpiTransport.withConfig clearedMemory .nordicMemoryMap) .umac 0x8008c000 4101
        offset := by
  refine ⟨by decide, ?_⟩
  apply access_is_flat
  · exact .inr rfl
  · intro place _
    change (SpiConfig.nordicMemoryMap.readLatencyWords (UInt32.ofNat place.toNat)).toNat = _
    rw [UInt32.ofNat_toNat]
    rfl
  · decide
  · exact ⟨(0x80080000, 0x800a3fff), by decide, by decide, by decide⟩

end Access

end Nrf7002
