import Nrf7002.Memory
import Mathlib.Data.List.Forall2

/-! # Observing the bus

A `Traced` bus behaves as the bus it wraps and lists every transfer that was
started on it, in order.  The lemmas below say which transfers the memory layer
starts for one read or one write. -/

set_option autoImplicit false

namespace Nrf7002
open Foundation

inductive Direction where
  | read
  | write
  deriving DecidableEq, Repr

/-- One transfer: the bytes it moved, and whether the bus accepted it. -/
structure Transfer where
  direction : Direction
  offset : UInt32
  data : Bytes
  accepted : Bool
  deriving DecidableEq

structure Traced (β : Type) where
  bus : β
  transfers : List Transfer

namespace Traced
variable {β ε α : Type}

def noted (bus : β) (earlier : List Transfer) (transfer : Transfer) : Traced β :=
  { bus, transfers := earlier ++ [transfer] }

def read [Bus β ε] (offset : UInt32) : Program (Traced β × Bytes) ε Unit := fun s =>
  match Bus.read offset (s.1.bus, s.2) with
  | .ok _ t => .ok () (noted t.1 s.1.transfers ⟨.read, offset, t.2, true⟩, t.2)
  | .error e t => .error e (noted t.1 s.1.transfers ⟨.read, offset, t.2, false⟩, t.2)

def write [Bus β ε] (offset : UInt32) (data : Bytes) : Program (Traced β) ε Unit := fun s =>
  match Bus.write offset data s.bus with
  | .ok _ t => .ok () (noted t s.transfers ⟨.write, offset, data, true⟩)
  | .error e t => .error e (noted t s.transfers ⟨.write, offset, data, false⟩)

def onBus (x : Program β ε α) : Program (Traced β) ε α :=
  onField (·.bus) (fun bus s => { s with bus }) x

instance [Bus β ε] : Bus (Traced β) ε where
  readStatus opcode := onBus (Bus.readStatus opcode)
  writeStatus opcode value := onBus (Bus.writeStatus opcode value)
  read := read
  write := write
  read_length offset := by
    intro s
    have same := Bus.read_length (β := β) offset (s.1.bus, s.2)
    simp only [stateAfter, read] at same ⊢
    cases outcome : Bus.read offset (s.1.bus, s.2) with
    | ok value t => rw [outcome] at same; exact same
    | error failure t => rw [outcome] at same; exact same

/-- The whole effect of a traced read: one more transfer, whose outcome is the result. -/
theorem post_read [Bus β ε] (offset : UInt32) (s : Traced β × Bytes) :
    Post (Bus.read offset : Program (Traced β × Bytes) ε Unit) s (fun r t =>
      t.1.transfers = s.1.transfers ++ [⟨.read, offset, t.2, r.isOk⟩] ∧
      t.2.length = s.2.length) := by
  have length := Bus.read_length (β := Traced β) offset s
  rw [post_iff]
  refine ⟨?_, length⟩
  simp only [Bus.read, resultOf, stateAfter, read]
  cases Bus.read offset (s.1.bus, s.2) with
  | ok value t => rfl
  | error failure t => rfl

theorem post_write [Bus β ε] (offset : UInt32) (data : Bytes) (s : Traced β) :
    Post (Bus.write offset data : Program (Traced β) ε Unit) s (fun r t =>
      t.transfers = s.transfers ++ [⟨.write, offset, data, r.isOk⟩]) := by
  rw [post_iff]
  simp only [Bus.write, resultOf, stateAfter, write]
  cases Bus.write offset data s.bus with
  | ok value t => rfl
  | error failure t => rfl

end Traced

/-! ## Transfers of a write -/

/-- What a write at `address` moves: a list of bytes, each at its distance from the
address. -/
abbrev Pieces := List (Nat × Bytes)

def chunkPieces : List Bytes → Nat → Pieces
  | [], _ => []
  | chunk :: rest, index => (index * maxBusChunk, chunk) :: chunkPieces rest (index + 1)

def tailPieces (alignedLen : Nat) (data : Bytes) : Pieces :=
  if data.length - alignedLen = 0 then []
  else [(alignedLen, data.drop alignedLen ++ List.replicate (4 - (data.length - alignedLen)) 0)]

/-- The word-padded data, cut into bus transfers. -/
def writePieces (data : Bytes) : Pieces :=
  let alignedLen := data.length / 4 * 4
  chunkPieces (chunks maxBusChunk (data.take alignedLen)) 0 ++ tailPieces alignedLen data

/-- The transfer writes one piece behind `address`. -/
structure Carries (processor : Processor) (address : UInt32) (piece : Nat × Bytes)
    (transfer : Transfer) : Prop where
  direction : transfer.direction = .write
  data : transfer.data = piece.2
  target : ∃ first : UInt32, first.toNat = address.toNat + piece.1 ∧
    hostOffset processor first = .ok transfer.offset

/-- The transfers of a run: those of the leading pieces, and of all pieces when the run
succeeds. -/
structure Moved (processor : Processor) (address : UInt32) (pieces : Pieces) (succeeded : Bool)
    (added : List Transfer) : Prop where
  leading : ∃ count, List.Forall₂ (Carries processor address) (pieces.take count) added
  complete : succeeded = true → List.Forall₂ (Carries processor address) pieces added ∧
    ∀ transfer ∈ added, transfer.accepted = true

section Pieces
variable {processor : Processor} {address : UInt32} {pieces rest : Pieces}
  {piece : Nat × Bytes} {succeeded : Bool} {added : List Transfer} {transfer : Transfer}

theorem Moved.stopped (processor : Processor) (address : UInt32) (pieces : Pieces) :
    Moved processor address pieces false [] :=
  ⟨⟨0, List.Forall₂.nil⟩, fun impossible => absurd impossible (by simp)⟩

theorem Moved.nil (succeeded : Bool) : Moved processor address [] succeeded [] :=
  ⟨⟨0, List.Forall₂.nil⟩, fun _ => ⟨List.Forall₂.nil, by simp⟩⟩

theorem Moved.failed (carries : Carries processor address piece transfer) :
    Moved processor address (piece :: rest) false [transfer] :=
  ⟨⟨1, List.Forall₂.cons carries List.Forall₂.nil⟩, fun impossible => absurd impossible (by simp)⟩

theorem Moved.cons (carries : Carries processor address piece transfer)
    (accepted : transfer.accepted = true) (moved : Moved processor address rest succeeded added) :
    Moved processor address (piece :: rest) succeeded (transfer :: added) := by
  obtain ⟨count, leading⟩ := moved.leading
  refine ⟨⟨count + 1, List.Forall₂.cons carries leading⟩, fun success => ?_⟩
  obtain ⟨whole, all⟩ := moved.complete success
  exact ⟨List.Forall₂.cons carries whole, List.forall_mem_cons.mpr ⟨accepted, all⟩⟩

/-- A run that stops among the first pieces, or goes on to the others after all of them. -/
theorem Moved.append_left (moved : Moved processor address pieces false added) :
    Moved processor address (pieces ++ rest) false added := by
  obtain ⟨count, leading⟩ := moved.leading
  refine ⟨⟨min count pieces.length, ?_⟩, fun impossible => absurd impossible (by simp)⟩
  rw [List.take_append_of_le_length (Nat.min_le_right _ _), List.take_eq_take_min.symm]
  exact leading

theorem Moved.append {later : List Transfer} (first : Moved processor address pieces true added)
    (second : Moved processor address rest succeeded later) :
    Moved processor address (pieces ++ rest) succeeded (added ++ later) := by
  obtain ⟨whole, accepted⟩ := first.complete rfl
  obtain ⟨count, leading⟩ := second.leading
  refine ⟨⟨pieces.length + count, ?_⟩, fun success => ?_⟩
  · rw [List.take_length_add_append]
    exact List.rel_append whole leading
  · obtain ⟨others, all⟩ := second.complete success
    refine ⟨List.rel_append whole others, fun transfer member => ?_⟩
    rcases List.mem_append.mp member with early | late
    · exact accepted transfer early
    · exact all transfer late

end Pieces

namespace Rpu
variable {β ε : Type}

/-- The transfers listed so far. -/
def transfers (rpu : Rpu (Traced β)) : List Transfer := rpu.bus.transfers

/-- What a run adds to the transfers of the bus it starts on. -/
def Adds (rpu : Rpu (Traced β)) (processor : Processor) (address : UInt32) (pieces : Pieces)
    (r : Except (RpuError ε) Unit) (t : Rpu (Traced β)) : Prop :=
  ∃ added, t.transfers = rpu.transfers ++ added ∧ Moved processor address pieces r.isOk added

theorem adds_stopped (rpu : Rpu (Traced β)) (processor : Processor) (address : UInt32)
    (pieces : Pieces) (failure : RpuError ε) :
    Adds rpu processor address pieces (.error failure) rpu :=
  ⟨[], (List.append_nil _).symm, Moved.stopped processor address pieces⟩

theorem checkedAdd_eq_ok {left right sum : UInt32} {failure : RpuError ε}
    (added : checkedAdd left right failure = .ok sum) :
    sum.toNat = left.toNat + right.toNat := by
  rw [checkedAdd, accepted_eq_ok] at added
  obtain ⟨small, same⟩ := added
  have value := Except.ok.inj same
  rw [← value, UInt32.toNat_add, Nat.mod_eq_of_lt small]

theorem mappedOffset_eq_ok {processor : Processor} {address offset : UInt32}
    (mapped : (mappedOffset processor address : Except (RpuError ε) UInt32) = .ok offset) :
    hostOffset processor address = .ok offset := by
  rw [mappedOffset] at mapped
  cases found : hostOffset processor address with
  | error failure => rw [found] at mapped; exact absurd mapped (by simp [Except.mapError])
  | ok value => rw [found] at mapped; exact congrArg Except.ok (Except.ok.inj mapped)

theorem chunkHostOffset_eq_ok {processor : Processor} {address offset : UInt32} {index : Nat}
    (mapped : (chunkHostOffset processor address index : Except (RpuError ε) UInt32) = .ok offset) :
    ∃ first : UInt32, first.toNat = address.toNat + index * maxBusChunk ∧
      hostOffset processor first = .ok offset := by
  rcases Nat.lt_or_ge (index * maxBusChunk) (2 ^ 32) with small | large
  · rw [chunkHostOffset, if_neg (Nat.not_le.mpr small), bind_eq_ok] at mapped
    obtain ⟨first, sum, found⟩ := mapped
    refine ⟨first, ?_, mappedOffset_eq_ok found⟩
    rw [checkedAdd_eq_ok sum, UInt32.toNat_ofNat_of_lt' small]
  · rw [chunkHostOffset, if_pos large] at mapped
    cases mapped

variable [Bus β ε]

theorem post_busWrite (offset : UInt32) (data : Bytes) (rpu : Rpu (Traced β)) :
    Post (busWrite offset data) rpu (fun r t =>
      t.transfers = rpu.transfers ++ [⟨.write, offset, data, r.isOk⟩]) := by
  rw [busWrite, post_onField, post_mapError]
  refine (Traced.post_write offset data rpu.bus).mono ?_
  intro r t added
  cases r with
  | ok value => exact added
  | error failure => exact added

theorem post_writeChunks (processor : Processor) (address : UInt32) (parts : List Bytes)
    (index : Nat) (rpu : Rpu (Traced β)) :
    Post (writeChunks processor address parts index) rpu
      (Adds rpu processor address (chunkPieces parts index)) := by
  induction parts generalizing index rpu with
  | nil =>
      rw [writeChunks, post_pure]
      exact ⟨[], (List.append_nil _).symm, Moved.nil true⟩
  | cons part rest hypothesis =>
      rw [writeChunks, post_bind, post_liftResult]
      cases mapped : (chunkHostOffset processor address index : Except (RpuError ε) UInt32) with
      | error failure => exact adds_stopped rpu processor address _ failure
      | ok offset =>
          have carries (accepted : Bool) : Carries processor address (index * maxBusChunk, part)
              ⟨.write, offset, part, accepted⟩ := ⟨rfl, rfl, chunkHostOffset_eq_ok mapped⟩
          change Post (_ >>= _) rpu _
          rw [post_bind]
          refine (post_busWrite offset part rpu).mono ?_
          intro r t written
          cases r with
          | error failure => exact ⟨_, written, Moved.failed (carries false)⟩
          | ok done =>
              refine (hypothesis (index + 1) t).mono ?_
              rintro result final ⟨added, more, moved⟩
              refine ⟨_, ?_, Moved.cons (carries true) rfl moved⟩
              rw [more, written, List.append_assoc]
              rfl

theorem post_writeTail (processor : Processor) (address : UInt32) (alignedLen : Nat) (data : Bytes)
    (small : alignedLen < data.length → address.toNat + alignedLen < 2 ^ 32)
    (rpu : Rpu (Traced β)) :
    Post (writeTail processor address alignedLen data) rpu
      (Adds rpu processor address (tailPieces alignedLen data)) := by
  rw [writeTail, tailPieces]
  by_cases whole : data.length - alignedLen = 0
  · rw [if_pos whole, if_pos whole, post_pure]
    exact ⟨[], (List.append_nil _).symm, Moved.nil true⟩
  · rw [if_neg whole, if_neg whole, post_bind, post_liftResult]
    cases mapped : (mappedOffset processor (address + UInt32.ofNat alignedLen) :
        Except (RpuError ε) UInt32) with
    | error failure => exact adds_stopped rpu processor address _ failure
    | ok offset =>
        have fits := small (by omega)
        have first : (address + UInt32.ofNat alignedLen).toNat = address.toNat + alignedLen := by
          have bound : alignedLen < 2 ^ 32 := by omega
          rw [UInt32.toNat_add, UInt32.toNat_ofNat_of_lt' bound, Nat.mod_eq_of_lt fits]
        have carries (bytes : Bytes) (accepted : Bool) :
            Carries processor address (alignedLen, bytes) ⟨.write, offset, bytes, accepted⟩ :=
          ⟨rfl, rfl, _, first, mappedOffset_eq_ok mapped⟩
        refine (post_busWrite offset _ rpu).mono ?_
        intro r t written
        cases r with
        | error failure => exact ⟨_, written, Moved.failed (carries _ false)⟩
        | ok done =>
            exact ⟨_, written, Moved.cons (carries _ true) rfl (Moved.nil true)⟩

/-- An accepted access does not wrap around the address space. -/
theorem validateAccess_eq_ok {processor : Processor} {address : UInt32} {len : Nat}
    (accepted : (validateAccess processor address len : Except (RpuError ε) Unit) = .ok ())
    (some : 0 < len) : address.toNat + align4 len ≤ 2 ^ 32 := by
  have positive : align4 len ≠ 0 := by
    rw [align4]
    omega
  rw [validateAccess] at accepted
  by_cases unaligned : address &&& 3 ≠ 0
  · rw [if_pos unaligned] at accepted
    cases accepted
  · rw [if_neg unaligned, checkedRange, if_neg positive, bind_eq_ok] at accepted
    obtain ⟨span, spanned, accepted⟩ := accepted
    rw [bind_eq_ok] at accepted
    obtain ⟨last, ends, _⟩ := accepted
    rw [checkedSpan, accepted_eq_ok] at spanned
    obtain ⟨small, same⟩ := spanned
    have value := checkedAdd_eq_ok ends
    have bound := last.toNat_lt
    have spanNat : span.toNat = align4 len - 1 := by
      rw [← Except.ok.inj same, UInt32.toNat_ofNat_of_lt' small]
    omega

/-- A write starts the transfers of its pieces in order, and all of them when it
succeeds. -/
theorem post_write (processor : Processor) (address : UInt32) (data : Bytes)
    (rpu : Rpu (Traced β)) :
    Post (write processor address data) rpu (Adds rpu processor address (writePieces data)) := by
  rw [write, post_bind, post_liftResult]
  cases accepted : (validateAccess processor address data.length : Except (RpuError ε) Unit) with
  | error failure => exact adds_stopped rpu processor address _ failure
  | ok done =>
      have small : data.length / 4 * 4 < data.length →
          address.toNat + data.length / 4 * 4 < 2 ^ 32 := by
        intro tail
        have fits := validateAccess_eq_ok accepted (by omega)
        rw [align4] at fits
        omega
      change Post (_ >>= _) rpu _
      rw [post_bind]
      refine (post_writeChunks processor address _ 0 rpu).mono ?_
      rintro r t ⟨added, first, moved⟩
      cases r with
      | error failure => exact ⟨added, first, moved.append_left⟩
      | ok done =>
          refine (post_writeTail processor address _ data small t).mono ?_
          rintro result final ⟨later, more, tail⟩
          refine ⟨added ++ later, ?_, moved.append tail⟩
          rw [more, first, List.append_assoc]

end Rpu

/-! ## Where transfers lie -/

/-- The transfer moves bytes of `[first, first + len)` in the processor's address space. -/
def Transfer.Within (transfer : Transfer) (processor : Processor) (first len : Nat) : Prop :=
  ∃ address : UInt32, hostOffset processor address = .ok transfer.offset ∧
    first ≤ address.toNat ∧ address.toNat + transfer.data.length ≤ first + len

section Within

theorem mem_chunkPieces_inside (fuel : Nat) (bytes : Bytes) (index : Nat) :
    ∀ piece ∈ chunkPieces (chunksUpTo maxBusChunk fuel bytes) index,
      piece.1 + piece.2.length ≤ index * maxBusChunk + bytes.length := by
  induction fuel generalizing bytes index with
  | zero => simp [chunksUpTo, chunkPieces]
  | succ fuel hypothesis =>
      cases bytes with
      | nil => simp [chunksUpTo, chunkPieces]
      | cons byte rest =>
          rw [chunksUpTo, chunkPieces]
          intro piece member
          rcases List.mem_cons.mp member with rfl | later
          · rw [List.length_take]
            omega
          · have inside := hypothesis _ (index + 1) piece later
            cases fuel with
            | zero => simp [chunksUpTo, chunkPieces] at later
            | succ fuel =>
                rcases Nat.lt_or_ge maxBusChunk (byte :: rest).length with long | short
                · rw [List.length_drop, Nat.add_mul] at inside
                  omega
                · rw [List.drop_of_length_le short] at later
                  simp [chunksUpTo, chunkPieces] at later

theorem mem_writePieces_inside (data : Bytes) :
    ∀ piece ∈ writePieces data, piece.1 + piece.2.length ≤ align4 data.length := by
  intro piece member
  rcases List.mem_append.mp member with front | tail
  · have inside := mem_chunkPieces_inside _ _ 0 piece front
    rw [List.length_take] at inside
    rw [align4]
    omega
  · rw [tailPieces] at tail
    by_cases whole : data.length - data.length / 4 * 4 = 0
    · rw [if_pos whole] at tail
      exact absurd tail List.not_mem_nil
    · rw [if_neg whole, List.mem_singleton] at tail
      rw [tail, List.length_append, List.length_drop, List.length_replicate, align4]
      dsimp only
      omega

/-- A write moves nothing outside the words that hold its data. -/
theorem Moved.within {processor : Processor} {address : UInt32} {data : Bytes}
    {succeeded : Bool} {added : List Transfer}
    (moved : Moved processor address (writePieces data) succeeded added) :
    ∀ transfer ∈ added, transfer.direction = .write ∧
      transfer.Within processor address.toNat (align4 data.length) := by
  obtain ⟨count, leading⟩ := moved.leading
  intro transfer member
  obtain ⟨index, inRange, same⟩ := List.mem_iff_getElem.mp member
  have bound : index < ((writePieces data).take count).length := leading.length_eq ▸ inRange
  have carries : Carries processor address ((writePieces data).take count)[index] transfer :=
    same ▸ leading.get bound inRange
  have inside := mem_writePieces_inside data _ (List.mem_of_mem_take (List.getElem_mem bound))
  obtain ⟨first, distance, mapped⟩ := carries.target
  refine ⟨carries.direction, first, mapped, by omega, ?_⟩
  rw [carries.data]
  omega

end Within

/-! ## Traces of a certain kind -/

/-- `later` continues `earlier` by transfers that all satisfy `P`. -/
def Extends (P : Transfer → Prop) (earlier later : List Transfer) : Prop :=
  ∃ added, later = earlier ++ added ∧ ∀ transfer ∈ added, P transfer

section Extends
variable {P Q : Transfer → Prop} {first second third : List Transfer}

theorem Extends.refl (P : Transfer → Prop) (first : List Transfer) : Extends P first first :=
  ⟨[], (List.append_nil _).symm, by simp⟩

theorem Extends.trans (one : Extends P first second) (two : Extends P second third) :
    Extends P first third := by
  obtain ⟨early, rfl, inside⟩ := one
  obtain ⟨late, rfl, within⟩ := two
  refine ⟨early ++ late, List.append_assoc _ _ _, fun transfer member => ?_⟩
  rcases List.mem_append.mp member with left | right
  · exact inside transfer left
  · exact within transfer right

theorem Extends.mono (extended : Extends P first second)
    (weaker : ∀ transfer, P transfer → Q transfer) : Extends Q first second := by
  obtain ⟨added, same, inside⟩ := extended
  exact ⟨added, same, fun transfer member => weaker transfer (inside transfer member)⟩

end Extends

/-- The transfer writes bytes of `[first, first + len)`. -/
def Transfer.WritesTo (processor : Processor) (first len : Nat) (transfer : Transfer) : Prop :=
  transfer.direction = .write ∧ transfer.Within processor first len

def Transfer.ReadsFrom (processor : Processor) (first len : Nat) (transfer : Transfer) : Prop :=
  transfer.direction = .read ∧ transfer.Within processor first len

theorem Transfer.Within.mono {transfer : Transfer} {processor : Processor} {first len start size : Nat}
    (within : transfer.Within processor first len) (lower : start ≤ first)
    (upper : first + len ≤ start + size) : transfer.Within processor start size := by
  obtain ⟨address, mapped, above, below⟩ := within
  exact ⟨address, mapped, by omega, by omega⟩

namespace Rpu
variable {β ε : Type} [Bus β ε]

theorem post_write_within (processor : Processor) (address : UInt32) (data : Bytes)
    (rpu : Rpu (Traced β)) :
    Post (write processor address data) rpu (fun _ t =>
      Extends (Transfer.WritesTo processor address.toNat (align4 data.length))
        rpu.transfers t.transfers) := by
  refine (post_write processor address data rpu).mono ?_
  rintro r t ⟨added, more, moved⟩
  exact ⟨added, more, moved.within⟩

theorem post_writeU32_within (processor : Processor) (address value : UInt32)
    (rpu : Rpu (Traced β)) :
    Post (writeU32 processor address value) rpu (fun _ t =>
      Extends (Transfer.WritesTo processor address.toNat 4) rpu.transfers t.transfers) := by
  rw [writeU32]
  by_cases unaligned : address &&& 3 ≠ 0
  · rw [if_pos unaligned, post_bind, post_throw]
    exact Extends.refl _ _
  · rw [if_neg unaligned]
    have written := post_write_within processor address (le32 value) rpu
    rwa [length_le32] at written

theorem post_writeIndirect_writes (processor : Processor) (address : UInt32) (data : Bytes)
    (rpu : Rpu (Traced β)) :
    Post (writeIndirect processor address data) rpu (fun _ t =>
      Extends (fun transfer => transfer.direction = .write) rpu.transfers t.transfers) := by
  have word (register value : UInt32) (rpu : Rpu (Traced β)) :
      Post (writeRegister register value) rpu (fun _ t =>
        Extends (fun transfer => transfer.direction = .write) rpu.transfers t.transfers) :=
    (post_writeU32_within .lmac register value rpu).mono fun _ _ extended =>
      extended.mono fun _ writes => writes.1
  have words (parts : List Bytes) (rpu : Rpu (Traced β)) :
      Post (writeIndirectWords processor parts) rpu (fun _ t =>
        Extends (fun transfer => transfer.direction = .write) rpu.transfers t.transfers) := by
    induction parts generalizing rpu with
    | nil => exact (post_pure _ _ _).mpr (Extends.refl _ _)
    | cons part rest hypothesis =>
        rw [writeIndirectWords, post_bind]
        refine (word _ _ rpu).mono ?_
        intro r t first
        cases r with
        | error failure => exact first
        | ok done => exact (hypothesis t).mono fun _ _ later => first.trans later
  rw [writeIndirect, post_bind, post_liftResult]
  cases (validateIndirectAccess address data.length : Except (RpuError ε) Unit) with
  | error failure => exact Extends.refl _ _
  | ok done =>
      dsimp only
      rw [post_bind]
      refine (word _ _ rpu).mono ?_
      intro r t first
      cases r with
      | error failure => exact first
      | ok done => exact (words _ t).mono fun _ _ later => first.trans later

end Rpu

/-! ## Transfers of a read -/

namespace Rpu
variable {β ε : Type}

/-- A run that adds only reads of `[first, first + len)` and keeps the buffer's length. -/
def Fetches (processor : Processor) (first len : Nat) (s t : Rpu (Traced β) × Bytes) : Prop :=
  Extends (Transfer.ReadsFrom processor first len) s.1.transfers t.1.transfers ∧
    t.2.length = s.2.length

section Fetches
variable {processor : Processor} {first len : Nat} {s t u : Rpu (Traced β) × Bytes}

theorem Fetches.refl (processor : Processor) (first len : Nat) (s : Rpu (Traced β) × Bytes) :
    Fetches processor first len s s :=
  ⟨Extends.refl _ _, rfl⟩

theorem Fetches.trans (one : Fetches processor first len s t)
    (two : Fetches processor first len t u) : Fetches processor first len s u :=
  ⟨one.1.trans two.1, two.2.trans one.2⟩

end Fetches

variable [Bus β ε]

theorem post_busRead (offset : UInt32) (s : Rpu (Traced β) × Bytes) :
    Post (busRead offset) s (fun r t =>
      t.1.transfers = s.1.transfers ++ [⟨.read, offset, t.2, r.isOk⟩] ∧
      t.2.length = s.2.length) := by
  rw [busRead, post_onField, post_mapError]
  refine (Traced.post_read offset (s.1.bus, s.2)).mono ?_
  intro r t added
  cases r with
  | ok value => exact added
  | error failure => exact added

theorem post_busRead_slice (processor : Processor) (address first : UInt32) (len start stop : Nat)
    (offset : UInt32) (s : Rpu (Traced β) × Bytes) (ordered : start ≤ stop)
    (inside : stop ≤ s.2.length) (mapped : hostOffset processor first = .ok offset)
    (lower : address.toNat ≤ first.toNat) (upper : first.toNat + (stop - start) ≤ address.toNat + len) :
    Post (inSlice start stop (busRead offset)) s (fun _ t =>
      Fetches processor address.toNat len s t) := by
  rw [inSlice, post_onField]
  refine (post_busRead offset (s.1, slice s.2 start stop)).mono ?_
  rintro r t ⟨added, length⟩
  have size : (slice s.2 start stop).length = stop - start := length_slice_of_le inside
  refine ⟨⟨_, added, fun transfer member => ?_⟩, ?_⟩
  · obtain rfl := List.mem_singleton.mp member
    exact ⟨rfl, first, mapped, lower, by dsimp only at length ⊢; omega⟩
  · exact length_splice (by dsimp only at length; omega)

theorem post_readChunks (processor : Processor) (address : UInt32) (len fuel index : Nat)
    (s : Rpu (Traced β) × Bytes) (inside : s.2.length ≤ len) :
    Post (readChunks processor address fuel index) s (fun _ t =>
      Fetches processor address.toNat len s t) := by
  induction fuel generalizing index s with
  | zero =>
      rw [readChunks, post_pure]
      exact Fetches.refl processor _ len s
  | succ fuel hypothesis =>
      rw [readChunks, post_bind, post_get]
      dsimp only
      rw [post_ite]
      by_cases ended : s.2.length ≤ index * maxBusChunk
      · rw [if_pos ended, post_pure]
        exact Fetches.refl processor _ len s
      · rw [if_neg ended, post_bind, post_liftResult]
        cases mapped : (chunkHostOffset processor address index : Except (RpuError ε) UInt32) with
        | error failure => exact Fetches.refl processor _ len s
        | ok offset =>
            obtain ⟨first, distance, found⟩ := chunkHostOffset_eq_ok mapped
            change Post (_ >>= _) _ _
            rw [post_bind]
            refine (post_busRead_slice processor address first len _ _ offset s (by omega)
              (Nat.min_le_right _ _) found (by omega) (by omega)).mono ?_
            intro r t fetched
            cases r with
            | error failure => exact fetched
            | ok done =>
                refine (hypothesis (index + 1) t (fetched.2.trans_le inside)).mono ?_
                exact fun _ u later => fetched.trans later

theorem post_readTail (processor : Processor) (address : UInt32) (alignedLen : Nat)
    (s : Rpu (Traced β) × Bytes) (below : alignedLen ≤ s.2.length)
    (short : s.2.length ≤ alignedLen + 4)
    (small : alignedLen < s.2.length → address.toNat + alignedLen < 2 ^ 32) :
    Post (readTail processor address alignedLen) s (fun _ t =>
      Fetches processor address.toNat (alignedLen + 4) s t) := by
  rw [readTail, post_bind, post_get]
  dsimp only
  rw [post_ite]
  by_cases whole : s.2.length - alignedLen = 0
  · rw [if_pos whole, post_pure]
    exact Fetches.refl processor _ _ s
  · rw [if_neg whole, post_bind, post_liftResult]
    cases mapped : (mappedOffset processor (address + UInt32.ofNat alignedLen) :
        Except (RpuError ε) UInt32) with
    | error failure => exact Fetches.refl processor _ _ s
    | ok offset =>
        have fits := small (by omega)
        have first : (address + UInt32.ofNat alignedLen).toNat = address.toNat + alignedLen := by
          have bound : alignedLen < 2 ^ 32 := by omega
          rw [UInt32.toNat_add, UInt32.toNat_ofNat_of_lt' bound, Nat.mod_eq_of_lt fits]
        change Post (_ >>= _) _ _
        rw [post_bind, besideBuffer, post_onField, post_withLocal]
        refine (post_busRead offset (s.1, List.replicate 4 0)).mono ?_
        rintro r t ⟨added, length⟩
        have fetched : Extends (Transfer.ReadsFrom processor address.toNat (alignedLen + 4))
            s.1.transfers t.1.transfers := by
          refine ⟨_, added, fun transfer member => ?_⟩
          obtain rfl := List.mem_singleton.mp member
          rw [List.length_replicate] at length
          exact ⟨rfl, _, mappedOffset_eq_ok mapped, by omega, by dsimp only; omega⟩
        cases r with
        | error failure => exact ⟨fetched, rfl⟩
        | ok done =>
            refine ⟨fetched, length_splice ?_⟩
            rw [List.length_take, length, List.length_replicate]
            dsimp only
            omega

/-- A read moves nothing outside the words that hold the wanted bytes. -/
theorem post_read (processor : Processor) (address : UInt32) (s : Rpu (Traced β) × Bytes) :
    Post (read processor address) s (fun _ t =>
      Fetches processor address.toNat (align4 s.2.length) s t) := by
  rw [read, post_bind, post_get]
  dsimp only
  rw [post_bind, post_liftResult]
  cases accepted : (validateAccess processor address s.2.length : Except (RpuError ε) Unit) with
  | error failure => exact Fetches.refl processor _ _ s
  | ok done =>
      have padded : s.2.length ≤ align4 s.2.length := by
        rw [align4]
        omega
      change Post (_ >>= _) _ _
      rw [post_bind, inSlice, post_onField, readAligned, post_bind, post_get]
      have front : (slice s.2 0 (s.2.length / 4 * 4)).length = s.2.length / 4 * 4 :=
        length_slice_of_le (by omega)
      refine (post_readChunks processor address (align4 s.2.length) _ 0 _ (by dsimp only; omega)).mono ?_
      rintro r t ⟨added, length⟩
      dsimp only at length
      have kept : (splice s.2 0 t.2).length = s.2.length := length_splice (by omega)
      cases r with
      | error failure => exact ⟨added, kept⟩
      | ok done =>
          rcases Nat.lt_or_ge (s.2.length / 4 * 4) s.2.length with tail | none
          · have padding : s.2.length / 4 * 4 + 4 = align4 s.2.length := by
              rw [align4]
              omega
            have fits := validateAccess_eq_ok accepted (by omega)
            refine (post_readTail processor address _ _ (by dsimp only; omega) (by dsimp only; omega)
              (fun _ => by omega)).mono ?_
            intro _ u later
            rw [padding] at later
            exact Fetches.trans (t := (t.1, splice s.2 0 t.2)) ⟨added, kept⟩ later
          · rw [post_readTail_none processor address _ _ (by dsimp only; omega)]
            exact ⟨added, kept⟩

end Rpu

/-! ## Word transfers -/

namespace Transfer

/-- The bus read `value` from the word at `address`. -/
structure ReadsWord (address value : UInt32) (transfer : Transfer) : Prop where
  direction : transfer.direction = .read
  offset : hostOffset .lmac address = .ok transfer.offset
  length : transfer.data.length = 4
  value : readU32 transfer.data 0 = value
  accepted : transfer.accepted = true

/-- The bus wrote `value` to the word at `address`. -/
structure WritesWord (address value : UInt32) (transfer : Transfer) : Prop where
  direction : transfer.direction = .write
  offset : hostOffset .lmac address = .ok transfer.offset
  data : transfer.data = le32 value
  accepted : transfer.accepted = true

end Transfer

namespace Rpu
variable {β ε : Type}

theorem wordOffset_eq_ok {processor : Processor} {address offset : UInt32}
    (mapped : (wordOffset processor address : Except (RpuError ε) UInt32) = .ok offset) :
    hostOffset processor address = .ok offset := by
  rw [wordOffset] at mapped
  by_cases unaligned : address &&& 3 ≠ 0
  · rw [if_pos unaligned] at mapped
    cases mapped
  · rw [if_neg unaligned, check_bind_eq_ok] at mapped
    exact mappedOffset_eq_ok mapped.2

variable [Bus β ε]

theorem post_readRegister (address : UInt32) (rpu : Rpu (Traced β)) :
    Post (readRegister address) rpu (fun r t => ∀ value, r = .ok value →
      ∃ transfer : Transfer, transfer.ReadsWord address value ∧
        t.transfers = rpu.transfers ++ [transfer]) := by
  rw [readRegister, post_readU32]
  cases mapped : (wordOffset .lmac address : Except (RpuError ε) UInt32) with
  | error failure => exact fun value impossible => absurd impossible (by simp)
  | ok offset =>
      dsimp only
      refine (Traced.post_read offset (rpu.bus, List.replicate 4 0)).mono ?_
      rintro r t ⟨added, length⟩
      cases r with
      | error failure => exact fun value impossible => absurd impossible (by simp)
      | ok done =>
          intro value same
          exact ⟨_, ⟨rfl, wordOffset_eq_ok mapped, length, Except.ok.inj same, rfl⟩, added⟩

theorem post_writeRegister (address value : UInt32) (rpu : Rpu (Traced β)) :
    Post (writeRegister address value) rpu (fun r t => r = .ok () →
      ∃ transfer : Transfer, transfer.WritesWord address value ∧
        t.transfers = rpu.transfers ++ [transfer]) := by
  rw [writeRegister, post_writeU32]
  cases mapped : (wordOffset .lmac address : Except (RpuError ε) UInt32) with
  | error failure => exact fun impossible => absurd impossible (by simp)
  | ok offset =>
      dsimp only
      refine (Traced.post_write offset (le32 value) rpu.bus).mono ?_
      intro r t added
      cases r with
      | error failure => exact fun impossible => absurd impossible (by simp [Except.mapError])
      | ok done => exact fun _ => ⟨_, ⟨rfl, wordOffset_eq_ok mapped, rfl, rfl⟩, added⟩

end Rpu

end Nrf7002
