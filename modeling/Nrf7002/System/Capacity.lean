import Nrf7002.Foundation.Checked
import Nrf7002.System

/-! # The receive pools of the initialization command

The three pools have to fit into packet RAM.  Their sum is taken in a word of 32 bits, in
which no single pool overflows but three of them may.  The packed body is counted field by
field. -/

set_option autoImplicit false

namespace Nrf7002
open Foundation

/-! ## The sum of the pools -/

section Pools

def RxPoolConfig.size (pool : RxPoolConfig) : Nat := pool.bufferSize.toNat * pool.bufferCount.toNat

/-- The total as a number, in no word. -/
def SystemInitConfig.exactTotalRx (config : SystemInitConfig) : Nat :=
  (config.pools.map RxPoolConfig.size).sum

/-- The limits of `validate` on the other fields. -/
structure SystemInitConfig.WithinLimits (config : SystemInitConfig) : Prop where
  reorders : config.data.reorderBufferSize ≠ 0
  reorderBound : config.data.reorderBufferSize ≤ 64
  ampdu : 0 ≤ config.data.maxRxAmpduSize
  ampduBound : config.data.maxRxAmpduSize ≤ 3

theorem RxPoolConfig.size_lt (pool : RxPoolConfig) : pool.size < 2 ^ 32 := by
  calc
    pool.size < 2 ^ 16 * 2 ^ 16 :=
      Nat.mul_lt_mul'' pool.bufferSize.toNat_lt pool.bufferCount.toNat_lt
    _ = 2 ^ 32 := rfl

theorem toNat_foldl_pools (pools : List RxPoolConfig) (total : UInt32) :
    (pools.foldl (fun total pool =>
        total + pool.bufferSize.toUInt32 * pool.bufferCount.toUInt32) total).toNat =
      (total.toNat + (pools.map RxPoolConfig.size).sum) % 2 ^ 32 := by
  induction pools generalizing total with
  | nil =>
      have small := total.toNat_lt
      rw [List.foldl_nil, List.map_nil, List.sum_nil, Nat.add_zero, Nat.mod_eq_of_lt small]
  | cons pool pools hypothesis =>
      have product : (pool.bufferSize.toUInt32 * pool.bufferCount.toUInt32).toNat = pool.size := by
        rw [UInt32.toNat_mul, UInt16.toNat_toUInt32, UInt16.toNat_toUInt32]
        exact Nat.mod_eq_of_lt pool.size_lt
      rw [List.foldl_cons, hypothesis, UInt32.toNat_add, product, List.map_cons, List.sum_cons,
        Nat.mod_add_mod, Nat.add_assoc]

theorem toNat_totalRx (config : SystemInitConfig) :
    config.totalRx.toNat = config.exactTotalRx % 2 ^ 32 := by
  rw [SystemInitConfig.totalRx, toNat_foldl_pools, UInt32.toNat_zero, Nat.zero_add]
  rfl

theorem validate_ok (config : SystemInitConfig) :
    config.validate = .ok () ↔
      config.exactTotalRx % 2 ^ 32 ≤ 128 * 1024 ∧ config.WithinLimits := by
  have total : ¬ 128 * 1024 < config.totalRx ↔ config.exactTotalRx % 2 ^ 32 ≤ 128 * 1024 := by
    rw [UInt32.lt_iff_toNat_lt, toNat_totalRx, Nat.not_lt]
    rfl
  rw [SystemInitConfig.validate, refused_eq_ok, not_or, not_or, not_or, not_or, total,
    UInt8.not_lt, Int32.not_lt, Int32.not_lt]
  constructor
  · rintro ⟨⟨fits, reorders, reorderBound, ampdu, ampduBound⟩, -⟩
    exact ⟨fits, reorders, reorderBound, ampdu, ampduBound⟩
  · rintro ⟨fits, limits⟩
    exact ⟨⟨fits, limits.reorders, limits.reorderBound, limits.ampdu, limits.ampduBound⟩, rfl⟩

end Pools

/-! ## The sum with its panics -/

namespace Checked
open Foundation.Checked

/-- The sum in a build that checks its arithmetic. -/
def sumPools : List RxPoolConfig → Nat → Checked ProtocolError Nat
  | [], total => pure total
  | pool :: rest, total => do
      let size ← mul (2 ^ 32) pool.bufferSize.toNat pool.bufferCount.toNat
      let total ← add (2 ^ 32) total size
      sumPools rest total

def validate (config : SystemInitConfig) : Checked ProtocolError Unit := do
  let totalRx ← sumPools config.pools 0
  if 128 * 1024 < totalRx ∨ config.data.reorderBufferSize = 0
      ∨ 64 < config.data.reorderBufferSize ∨ config.data.maxRxAmpduSize < 0
      ∨ 3 < config.data.maxRxAmpduSize then throw .limitExceeded
  else pure ()

theorem safe_sumPools (pools : List RxPoolConfig) (total : Nat)
    (fits : total + (pools.map RxPoolConfig.size).sum < 2 ^ 32) :
    Safe (sumPools pools total) (.ok (total + (pools.map RxPoolConfig.size).sum)) := by
  induction pools generalizing total with
  | nil => exact safe_pure total
  | cons pool pools hypothesis =>
      rw [List.map_cons, List.sum_cons, ← Nat.add_assoc] at fits ⊢
      apply Safe.then (safe_mul pool.size_lt)
      apply Safe.then (safe_add (by
        rw [RxPoolConfig.size] at fits
        omega))
      exact hypothesis (total + pool.size) fits

/-- A sum that does not panic fits into the word. -/
theorem fits_of_safe {pools : List RxPoolConfig} {total : Nat} {result : Except ProtocolError Nat}
    (small : total < 2 ^ 32) (safe : Safe (sumPools pools total) result) :
    total + (pools.map RxPoolConfig.size).sum < 2 ^ 32 := by
  induction pools generalizing total with
  | nil => exact small
  | cons pool pools hypothesis =>
      rw [List.map_cons, List.sum_cons, ← Nat.add_assoc]
      have product : Foundation.Checked.mul (2 ^ 32) pool.bufferSize.toNat pool.bufferCount.toNat =
          (pure pool.size : Checked ProtocolError Nat) := if_pos pool.size_lt
      by_cases fits : total + pool.size < 2 ^ 32
      · have sum : Foundation.Checked.add (2 ^ 32) total pool.size =
            (pure (total + pool.size) : Checked ProtocolError Nat) := if_pos fits
        rw [sumPools, product, pure_bind, sum, pure_bind] at safe
        exact hypothesis fits safe
      · have sum : Foundation.Checked.add (2 ^ 32) total pool.size =
            (panicked : Checked ProtocolError Nat) := if_neg fits
        rw [sumPools, product, pure_bind, sum] at safe
        cases safe

theorem safe_validate_iff (config : SystemInitConfig) :
    (∃ result, Safe (validate config) result) ↔ config.exactTotalRx < 2 ^ 32 := by
  constructor
  · intro ⟨result, safe⟩
    rw [validate, Safe, ExceptT.run_bind] at safe
    cases sum : (sumPools config.pools 0).run with
    | none => rw [sum] at safe; cases safe
    | some total =>
        have fits := fits_of_safe (by decide) sum
        rwa [Nat.zero_add] at fits
  · intro fits
    have sum := safe_sumPools config.pools 0 (by rwa [Nat.zero_add])
    exact ⟨_, sum.then (safe_ite (fun _ => safe_throw _) fun _ => safe_pure ())⟩

end Checked

/-! ## The packed body -/

section Body

/-- The encoder appends that many bytes. -/
def Fills (x : Encoder) (count : Nat) : Prop := ∃ value, value.length = count ∧ Writes x value

theorem fills_bytes (value : Bytes) : Fills (writeBytes value) value.length :=
  ⟨value, rfl, writes_bytes value⟩

theorem fills_octets {width : Nat} (value : Octets width) : Fills (writeBytes value.1) width :=
  ⟨value.1, value.2, writes_bytes value.1⟩

theorem fills_u8 (value : UInt8) : Fills (writeU8 value) 1 := fills_bytes [value]
theorem fills_u16 (value : UInt16) : Fills (writeU16 value) 2 := fills_bytes (le16 value)
theorem fills_u32 (value : UInt32) : Fills (writeU32 value) 4 := fills_bytes (le32 value)
theorem fills_i32 (value : Int32) : Fills (writeI32 value) 4 := fills_bytes (le32 value.toUInt32)

theorem Fills.then {x y : Encoder} {first second : Nat} (left : Fills x first)
    (right : Fills y second) : Fills (do x; y) (first + second) := by
  obtain ⟨front, rfl, writesFront⟩ := left
  obtain ⟨back, rfl, writesBack⟩ := right
  exact ⟨front ++ back, List.length_append, writesFront.then writesBack⟩

theorem fills_rxPools (pools : List RxPoolConfig) :
    Fills (SystemInitConfig.writeRxPools pools) (pools.length * 4) := by
  induction pools with
  | nil => exact ⟨[], rfl, writes_nothing⟩
  | cons pool pools hypothesis =>
      have filled := (fills_u16 pool.bufferSize).then ((fills_u16 pool.bufferCount).then hypothesis)
      rw [List.length_cons]
      rwa [show 2 + (2 + pools.length * 4) = (pools.length + 1) * 4 by omega] at filled

variable (config : SystemInitConfig)

theorem fills_front : Fills config.writeFront 255 :=
  ((fills_u32 _).then ((fills_u32 _).then ((fills_u32 _).then (fills_u32 _)))).then
    (((fills_u32 _).then ((fills_u32 _).then ((fills_u32 _).then (fills_u32 _)))).then
      (((fills_u32 _).then ((fills_octets _).then ((fills_octets _).then (fills_u8 _)))).then
        (fills_rxPools config.pools)))

theorem fills_middle : Fills config.writeMiddle 47 :=
  ((fills_u8 _).then ((fills_u8 _).then ((fills_u8 _).then (fills_u8 _)))).then
    (((fills_u8 _).then ((fills_u8 _).then ((fills_u8 _).then (fills_i32 _)))).then
      (((fills_u32 _).then ((fills_u32 _).then ((fills_u32 _).then (fills_u32 _)))).then
        ((fills_i32 _).then ((fills_i32 _).then ((fills_i32 _).then
          ((fills_i32 _).then (fills_i32 _)))))))

theorem fills_back : Fills config.writeBack 64 :=
  ((fills_u8 _).then ((fills_bytes _).then ((fills_u32 _).then
    ((fills_u8 _).then (fills_u32 _))))).then
    (((fills_u32 _).then ((fills_u32 _).then ((fills_u8 _).then (fills_u32 _)))).then
      (((fills_u8 _).then ((fills_u32 _).then ((fills_u32 _).then ((fills_u32 _).then
        ((fills_u8 _).then (fills_u32 _)))))).then
        ((fills_u32 _).then ((fills_u32 _).then ((fills_u32 _).then ((fills_u32 _).then
          ((fills_u32 _).then (fills_u8 _))))))))

theorem fills_body : Fills config.writeBody systemInitLen :=
  (fills_front config).then ((fills_middle config).then (fills_back config))

/-- What an accepted configuration is encoded to: a message with a body of 366 bytes, where
there is room for it. -/
structure Encodes (body : Bytes) : Prop where
  length : body.length = 366
  ends : ∀ out, Post (encodeSystemInit config) out fun result after =>
    match result with
    | .ok len => 378 ≤ out.length ∧ len = 378 ∧
        after = hostMessageBytes .system false body ++ out.drop len
    | .error _ => out.length < 378

theorem exists_encodes {config : SystemInitConfig} (accepted : config.validate = .ok ()) :
    ∃ body, Encodes config body := by
  obtain ⟨body, length, writes⟩ := fills_body config
  have fresh : encodeFresh systemInitLen config.writeBody = .ok (systemInitLen, body) := by
    rw [← length]
    exact encodeFresh_eq writes
  refine ⟨body, length, ?_⟩
  intro out
  have whole : hostMessageHeaderLen + body.length = 378 := by rw [length]; rfl
  have message := encodeHostMessage_spec .system false body out (by rw [whole]; decide)
  rw [whole] at message
  simp only [encodeSystemInit, accepted, fresh, post_bind, post_liftResult, post_ite, ne_eq,
    not_true_eq_false, if_false]
  exact message

end Body

/-! ## The limit of the pools -/

section Limit

/-- No sum overflows, no configuration beyond 128 KiB is encoded, and an accepted one is
encoded to 366 bytes. -/
structure SystemInitConfig.Bounded (config : SystemInitConfig) : Prop where
  exact : ∃ result, Safe (Checked.validate config) result
  limit : ∀ out len after, Returns (encodeSystemInit config) out len after →
    config.exactTotalRx ≤ 128 * 1024
  encoded : config.validate = .ok () → ∃ body, Encodes config body

theorem validate_of_encoded {config : SystemInitConfig} {out after : Bytes} {len : Nat}
    (encoded : Returns (encodeSystemInit config) out len after) : config.validate = .ok () := by
  rw [encodeSystemInit, returns_bind] at encoded
  obtain ⟨_, _, checked, _⟩ := encoded
  exact (returns_liftResult.mp checked).1

/-- A configuration is accepted by its total modulo `2 ^ 32`. -/
theorem encoded_iff (config : SystemInitConfig) :
    (∃ out len after, Returns (encodeSystemInit config) out len after) ↔
      config.exactTotalRx % 2 ^ 32 ≤ 128 * 1024 ∧ config.WithinLimits := by
  rw [← validate_ok]
  constructor
  · intro ⟨out, len, after, encoded⟩
    exact validate_of_encoded encoded
  · intro accepted
    obtain ⟨body, encodes⟩ := exists_encodes accepted
    have run := (encodes.ends (List.replicate 378 0)).ends
    cases result : resultOf (encodeSystemInit config) (List.replicate 378 0) with
    | ok len => exact ⟨_, len, _, result, rfl⟩
    | error failure =>
        rw [result, List.length_replicate] at run
        exact absurd run (Nat.lt_irrefl 378)

/-- The initialization command is bounded for exactly the configurations whose total fits
into the word.  Where the sum wraps without a panic, exactly those beyond it that wrap to at
most 128 KiB are encoded against the limit. -/
theorem encodeSystemInit_bounded_iff (config : SystemInitConfig) :
    (config.Bounded ↔ config.exactTotalRx < 2 ^ 32) ∧
    ((∃ out len after, Returns (encodeSystemInit config) out len after ∧
        128 * 1024 < config.exactTotalRx) ↔
      2 ^ 32 ≤ config.exactTotalRx ∧ config.exactTotalRx % 2 ^ 32 ≤ 128 * 1024 ∧
        config.WithinLimits) := by
  constructor
  · constructor
    · intro bounded
      exact (Checked.safe_validate_iff config).mp bounded.exact
    · intro fits
      refine ⟨(Checked.safe_validate_iff config).mpr fits, ?_, exists_encodes⟩
      intro out len after encoded
      have small := ((encoded_iff config).mp ⟨out, len, after, encoded⟩).1
      rwa [Nat.mod_eq_of_lt fits] at small
  · constructor
    · intro ⟨out, len, after, encoded, large⟩
      obtain ⟨small, limits⟩ := (encoded_iff config).mp ⟨out, len, after, encoded⟩
      refine ⟨?_, small, limits⟩
      by_cases fits : config.exactTotalRx < 2 ^ 32
      · rw [Nat.mod_eq_of_lt fits] at small
        omega
      · exact Nat.not_lt.mp fits
    · intro ⟨wraps, small, limits⟩
      obtain ⟨out, len, after, encoded⟩ := (encoded_iff config).mpr ⟨small, limits⟩
      exact ⟨out, len, after, encoded, by omega⟩

/-- The baseline with three pools of `2 ^ 32` bytes together. -/
def wrappingConfig : SystemInitConfig :=
  { SystemInitConfig.new (zeroOctets 6) (zeroOctets rfParamsLen) with
    rxPools := (⟨32768, 65535⟩, ⟨32768, 65535⟩, ⟨32768, 2⟩) }

/-- It is accepted, although the sum of its pools overflows and exceeds every memory. -/
theorem wrappingConfig_unbounded :
    wrappingConfig.exactTotalRx = 2 ^ 32 ∧ wrappingConfig.validate = .ok () ∧
      ¬ ∀ config : SystemInitConfig, config.Bounded := by
  have total : wrappingConfig.exactTotalRx = 2 ^ 32 := by decide
  refine ⟨total, ?_, ?_⟩
  · rw [validate_ok, total]
    exact ⟨by decide, by decide, by decide, by decide, by decide⟩
  · intro bounded
    have fits := (Checked.safe_validate_iff wrappingConfig).mp (bounded wrappingConfig).exact
    rw [total] at fits
    exact absurd fits (Nat.lt_irrefl _)

end Limit

end Nrf7002
