import Nrf7002.Foundation.Panic
import Nrf7002.Transport.Device

/-! # The assertions of a read

A transaction with latency words moves at most one word, and no transaction moves more
than the transfer buffer holds: the transport asserts both, and slices its buffer by
them.  Here the read carries these checks, and stops where one of them fails. -/

set_option autoImplicit false

namespace Nrf7002
open Foundation

/-- The two debug assertions of a transaction, and a range outside the transfer buffer. -/
inductive ReadPanic where
  | latencyAsserted
  | lengthAsserted
  | outsideBuffer
  deriving DecidableEq, Repr

namespace SpiTransport

section Checked
variable {σ ε : Type} [SpiDevice σ ε]

/-- `readOne` with its assertions, and with the range of the transfer checked. -/
def readOneChecked (address : UInt32) (incrementing : Bool) :
    Program (SpiTransport σ × Bytes) (Stop ReadPanic ε) Unit := do
  let (transport, data) ← get
  let latencyLen := (transport.config.readLatencyWords address).toNat * 4
  demand (latencyLen = 0 ∨ data.length ≤ highLatencyReadWordLen) .latencyAsserted
  demand (data.length ≤ maxSpiDataLen) .lengthAsserted
  demand (readHeaderLen + latencyLen + data.length ≤ spiIoBufferLen) .outsideBuffer
  mapError .failed (readOne address incrementing)

def readIncrementingCheckedFrom (address : UInt32) :
    Nat → Nat → Program (SpiTransport σ × Bytes) (Stop ReadPanic ε) Unit
  | 0, _ => pure ()
  | fuel + 1, done => do
      let (_, data) ← get
      if data.length ≤ done then return ()
      let count := min maxSpiDataLen (data.length - done)
      inSlice done (done + count) (readOneChecked (address + UInt32.ofNat done) true)
      readIncrementingCheckedFrom address fuel (done + count)

def readWordsCheckedFrom (address : UInt32) :
    Nat → Nat → Program (SpiTransport σ × Bytes) (Stop ReadPanic ε) Unit
  | 0, _ => pure ()
  | fuel + 1, index => do
      let (_, data) ← get
      if data.length ≤ index * highLatencyReadWordLen then return ()
      inSlice (index * highLatencyReadWordLen)
        (min (index * highLatencyReadWordLen + highLatencyReadWordLen) data.length)
        (readOneChecked (address + UInt32.ofNat index * UInt32.ofNat highLatencyReadWordLen) false)
      readWordsCheckedFrom address fuel (index + 1)

def readChecked (address : UInt32) :
    Program (SpiTransport σ × Bytes) (Stop ReadPanic ε) Unit := do
  let (transport, data) ← get
  if data.isEmpty then return ()
  if transport.config.nordicMemoryMapLatency ∧ transport.config.readLatencyWords address ≠ 0 then
    readWordsCheckedFrom address data.length 0
  else readIncrementingCheckedFrom address data.length 0

end Checked

/-! ## Where the latency meets a longer transaction -/

/-- No transaction of an incrementing read has both latency words and more than a word of
data: its steps start every 4096 bytes, and the last one has what is left. -/
def StepsQuietly (config : SpiConfig) (address : UInt32) (len : Nat) : Prop :=
  ∀ step, step * maxSpiDataLen + highLatencyReadWordLen < len →
    config.readLatencyWords (address + UInt32.ofNat (step * maxSpiDataLen)) = 0

/-- The read goes word by word, or its incrementing steps are quiet. -/
def ReadsQuietly (config : SpiConfig) (address : UInt32) (len : Nat) : Prop :=
  (config.nordicMemoryMapLatency = true ∧ config.readLatencyWords address ≠ 0) ∨
    StepsQuietly config address len

section Follows
variable {σ ε : Type} [SpiDevice σ ε] {may : ReadPanic → Prop}

theorem keeps_config_readOne (address : UInt32) (incrementing : Bool) :
    Keeps (fun s : SpiTransport σ × Bytes => s.1.config) (readOne address incrementing) := by
  have beside {α : Type} {x : Program (SpiTransport σ) ε α}
      (keeps : Keeps (fun transport => transport.config) x) :
      Keeps (fun s : SpiTransport σ × Bytes => s.1.config) (besideBuffer x) := by
    intro s
    have same := keeps.post s.1
    have kept : Post (besideBuffer x) s (fun _ t => t.1.config = s.1.config) := by
      rw [besideBuffer, post_onField]
      exact same
    exact kept.ends
  apply (keeps_get _).bind
  intro s
  refine Keeps.bind (beside (keeps_modify _ _ fun _ => rfl)) fun _ => ?_
  refine Keeps.bind (beside (keeps_onField _ fun _ _ => rfl)) fun _ => ?_
  refine Keeps.bind (keeps_modify _ _ fun _ => rfl) fun _ => ?_
  exact beside (keeps_modify _ _ fun _ => rfl)

theorem follows_readOneChecked (address : UInt32) (incrementing : Bool)
    (s : SpiTransport σ × Bytes) (few : s.2.length ≤ maxSpiDataLen)
    (loud : s.1.config.readLatencyWords address ≠ 0 → highLatencyReadWordLen < s.2.length →
      may .latencyAsserted) :
    Follows may (readOneChecked address incrementing) (readOne address incrementing) s := by
  have latency := readLatencyWords_le s.1.config address
  rw [readOneChecked]
  constructor
  rw [post_bind, post_get]
  refine (follows_demand_bind ?_ fun _ => follows_demand_bind ?_ fun _ =>
    follows_demand_bind ?_ fun _ => follows_mapError _ _).ends
  · intro asserted
    apply loud
    · intro none
      apply asserted
      left
      rw [none]
      rfl
    · omega
  · intro tooLong
    exact absurd few tooLong
  · intro outside
    simp only [spiIoBufferLen, maxSlaveLatencyBytes] at outside
    omega

/-- One step of a longer read. -/
theorem follows_readPart (start stop : Nat) (address : UInt32) (incrementing : Bool)
    (s : SpiTransport σ × Bytes) (inside : stop ≤ s.2.length) (few : stop - start ≤ maxSpiDataLen)
    (loud : s.1.config.readLatencyWords address ≠ 0 → highLatencyReadWordLen < stop - start →
      may .latencyAsserted) :
    Follows may (inSlice start stop (readOneChecked address incrementing))
      (inSlice start stop (readOne address incrementing)) s := by
  have part : (slice s.2 start stop).length = stop - start := length_slice_of_le inside
  apply Follows.onField
  apply follows_readOneChecked
  · rw [part]
    exact few
  · rw [part]
    exact loud

theorem keeps_config_readPart (start stop : Nat) (address : UInt32) (incrementing : Bool) :
    Keeps (fun s : SpiTransport σ × Bytes => s.1.config)
      (inSlice start stop (readOne address incrementing)) := by
  intro s
  have kept := (keeps_config_readOne (σ := σ) address incrementing).post
    (s.1, slice s.2 start stop)
  have same : Post (inSlice start stop (readOne address incrementing)) s
      (fun _ t => t.1.config = s.1.config) := by
    rw [inSlice, post_onField]
    exact kept
  exact same.ends

/-- The steps of an incrementing read start at multiples of the largest transaction. -/
def OnStep (done len : Nat) : Prop := len ≤ done ∨ ∃ step, done = step * maxSpiDataLen

theorem OnStep.next {done len : Nat} (on : OnStep done len) (more : done < len) :
    OnStep (done + min maxSpiDataLen (len - done)) len := by
  obtain beyond | ⟨step, rfl⟩ := on
  · omega
  · by_cases last : len - step * maxSpiDataLen ≤ maxSpiDataLen
    · left
      omega
    · right
      refine ⟨step + 1, ?_⟩
      rw [Nat.min_eq_left (by omega), Nat.succ_mul]

theorem follows_readIncrementingCheckedFrom (address : UInt32) (fuel done : Nat)
    (s : SpiTransport σ × Bytes) (on : OnStep done s.2.length)
    (loud : ¬ StepsQuietly s.1.config address s.2.length → may .latencyAsserted) :
    Follows may (readIncrementingCheckedFrom address fuel done)
      (readIncrementingFrom address fuel done) s := by
  induction fuel generalizing done s with
  | zero => exact follows_pure () s
  | succ fuel hypothesis =>
      apply follows_get_bind
      dsimp only
      apply follows_ite
      · intro _
        exact follows_pure () s
      · intro more
        have stop : done + min maxSpiDataLen (s.2.length - done) ≤ s.2.length := by omega
        refine Follows.bind (follows_readPart done _ _ true s stop (by omega) ?_) fun _ _ => ?_
        · intro latency long
          apply loud
          intro quiet
          obtain beyond | ⟨step, rfl⟩ := on
          · omega
          · exact latency (quiet step (by omega))
        · have config := keeps_config_readPart (σ := σ) done
            (done + min maxSpiDataLen (s.2.length - done)) (address + UInt32.ofNat done) true s
          have length := keeps_length_inSlice done
            (done + min maxSpiDataLen (s.2.length - done))
            (keeps_length_readOne (σ := σ) (address + UInt32.ofNat done) true) s
          dsimp only at config length
          apply hypothesis
          · rw [length]
            exact on.next (by omega)
          · rw [config, length]
            exact loud

theorem follows_readWordsCheckedFrom (address : UInt32) (fuel index : Nat)
    (s : SpiTransport σ × Bytes) :
    Follows may (readWordsCheckedFrom address fuel index) (readWordsFrom address fuel index) s := by
  have word : highLatencyReadWordLen ≤ maxSpiDataLen := by decide
  induction fuel generalizing index s with
  | zero => exact follows_pure () s
  | succ fuel hypothesis =>
      apply follows_get_bind
      dsimp only
      apply follows_ite
      · intro _
        exact follows_pure () s
      · intro more
        refine Follows.bind (follows_readPart _ _ _ false s ?_ ?_ ?_) fun _ _ => hypothesis _ _
        · omega
        · omega
        · intro _ long
          omega

/-- The checked read is the read, unless its steps are not quiet. -/
theorem follows_readChecked (address : UInt32) (s : SpiTransport σ × Bytes)
    (loud : ¬ ReadsQuietly s.1.config address s.2.length → may .latencyAsserted) :
    Follows may (readChecked address) (read address) s := by
  apply follows_get_bind
  dsimp only
  apply follows_ite
  · intro _
    exact follows_pure () s
  · intro _
    apply follows_ite
    · intro _
      apply follows_get_bind
      exact follows_readWordsCheckedFrom _ _ _ _
    · intro byStep
      apply follows_get_bind
      apply follows_readIncrementingCheckedFrom
      · exact .inr ⟨0, by rw [Nat.zero_mul]⟩
      · intro steps
        apply loud
        intro quiet
        obtain byWord | quietly := quiet
        · exact byStep byWord
        · exact steps quietly

end Follows

/-! ## A device that never fails -/

section Converse
variable {σ : Type} [SpiDevice σ Empty]

/-- A step with latency words and more than a word of data stops at the assertion. -/
theorem post_readPart_loud (start stop : Nat) (address : UInt32) (incrementing : Bool)
    (s : SpiTransport σ × Bytes) (inside : stop ≤ s.2.length)
    (latency : s.1.config.readLatencyWords address ≠ 0)
    (long : highLatencyReadWordLen < stop - start) :
    Post (inSlice start stop (readOneChecked address incrementing)) s
      (fun r _ => r = .error (.panic .latencyAsserted)) := by
  have part : (slice s.2 start stop).length = stop - start := length_slice_of_le inside
  have some : (s.1.config.readLatencyWords address).toNat ≠ 0 := by
    intro none
    exact latency (UInt8.toNat_inj.mp none)
  rw [inSlice, post_onField, readOneChecked, post_bind, post_get]
  dsimp only
  rw [post_bind, demand, if_neg (by omega), post_throw]

theorem panics_readIncrementingCheckedFrom (address : UInt32) (fuel step loud : Nat)
    (s : SpiTransport σ × Bytes) (ahead : step ≤ loud)
    (long : loud * maxSpiDataLen + highLatencyReadWordLen < s.2.length)
    (latency : s.1.config.readLatencyWords (address + UInt32.ofNat (loud * maxSpiDataLen)) ≠ 0)
    (enough : s.2.length ≤ step * maxSpiDataLen + fuel) :
    Post (readIncrementingCheckedFrom address fuel (step * maxSpiDataLen)) s
      (fun r _ => r = .error (.panic .latencyAsserted)) := by
  have size : maxSpiDataLen = 4096 := rfl
  have word : highLatencyReadWordLen = 4 := rfl
  induction fuel generalizing step s with
  | zero =>
      have before := Nat.mul_le_mul_right maxSpiDataLen ahead
      omega
  | succ fuel hypothesis =>
      have before := Nat.mul_le_mul_right maxSpiDataLen ahead
      rw [readIncrementingCheckedFrom, post_bind, post_get]
      dsimp only
      rw [if_neg (by omega), post_bind]
      have stop : step * maxSpiDataLen + min maxSpiDataLen (s.2.length - step * maxSpiDataLen) ≤
          s.2.length := by omega
      by_cases here : step = loud
      · subst here
        refine (post_readPart_loud _ _ _ true s stop latency (by omega)).mono ?_
        intro r t panicked
        rw [panicked]
      · refine (follows_readPart (step * maxSpiDataLen) _
          (address + UInt32.ofNat (step * maxSpiDataLen)) true s stop (by omega)
          fun _ _ => rfl : Follows (· = .latencyAsserted) _ _ s).ends.mono ?_
        intro r t ended
        obtain ⟨reason, panicked, rfl⟩ | ⟨same, after⟩ := ended
        · rw [panicked]
        · -- the device does not fail, so the step was taken and the next one follows
          have config := keeps_config_readPart (σ := σ) (step * maxSpiDataLen)
            (step * maxSpiDataLen + min maxSpiDataLen (s.2.length - step * maxSpiDataLen))
            (address + UInt32.ofNat (step * maxSpiDataLen)) true s
          have length := keeps_length_inSlice (step * maxSpiDataLen)
            (step * maxSpiDataLen + min maxSpiDataLen (s.2.length - step * maxSpiDataLen))
            (keeps_length_readOne (σ := σ) (address + UInt32.ofNat (step * maxSpiDataLen)) true) s
          dsimp only at config length
          rw [← after] at config length
          have further := Nat.mul_le_mul_right maxSpiDataLen
            (show step + 1 ≤ loud by omega)
          rw [Nat.succ_mul] at further
          have next : step * maxSpiDataLen +
              min maxSpiDataLen (s.2.length - step * maxSpiDataLen) =
                (step + 1) * maxSpiDataLen := by
            rw [Nat.min_eq_left (by omega), Nat.succ_mul]
          rw [same]
          cases resultOf (inSlice _ _ (readOne _ true)) s with
          | error failure => exact failure.elim
          | ok done =>
              rw [next]
              apply hypothesis
              · omega
              · rw [length]
                exact long
              · rw [config]
                exact latency
              · rw [length, Nat.succ_mul]
                omega

theorem panics_readChecked (address : UInt32) (s : SpiTransport σ × Bytes)
    (loud : ¬ ReadsQuietly s.1.config address s.2.length) :
    Post (readChecked address) s (fun r _ => r = .error (.panic .latencyAsserted)) := by
  simp only [ReadsQuietly, not_or, StepsQuietly, not_forall] at loud
  obtain ⟨byStep, step, long, latency⟩ := loud
  have some : ¬ s.2.isEmpty = true := by
    intro none
    rw [List.isEmpty_iff] at none
    rw [none, List.length_nil] at long
    omega
  rw [readChecked, post_bind, post_get]
  dsimp only
  rw [if_neg some, if_neg byStep, ← Nat.zero_mul maxSpiDataLen]
  exact panics_readIncrementingCheckedFrom address _ 0 step s (Nat.zero_le _) long latency
    (by omega)

end Converse

/-! ## Every read of a configuration -/

/-- The configurations a caller can have. -/
def Obtainable (config : SpiConfig) : Prop :=
  config = .nordicDefault ∨ config = .nordicMemoryMap ∨
    ∃ addressMask slaveLatencyWords, SpiConfig.new addressMask slaveLatencyWords = some config

/-- No read of this many bytes, over any device and from any state of the buffer, panics for
this reason. -/
def Avoids (config : SpiConfig) (address : UInt32) (len : Nat) (reason : ReadPanic) : Prop :=
  ∀ (σ ε : Type) [SpiDevice σ ε] (transport : SpiTransport σ) (data : Bytes),
    transport.config = config → data.length = len →
      resultOf (readChecked address) (transport, data) ≠ .error (.panic reason)

/-- The read neither slices outside its transfer buffer nor fails an assertion. -/
def NeverPanics (config : SpiConfig) (address : UInt32) (len : Nat) : Prop :=
  ∀ reason, Avoids config address len reason

theorem avoids_of_quiet {config : SpiConfig} {address : UInt32} {len : Nat} {reason : ReadPanic}
    (quiet : reason = .latencyAsserted → ReadsQuietly config address len) :
    Avoids config address len reason := by
  intro σ ε _ transport data configured size panicked
  have follows : Follows (fun found => found = .latencyAsserted ∧
      ¬ ReadsQuietly config address len) (readChecked address) (read address)
      (transport, data) := by
    apply follows_readChecked
    dsimp only
    rw [configured, size]
    exact fun loud => ⟨rfl, loud⟩
  obtain ⟨latency, loud⟩ := follows.allowed panicked
  exact loud (quiet latency)

theorem quiet_of_avoids {config : SpiConfig} {address : UInt32} {len : Nat}
    (avoids : Avoids config address len .latencyAsserted) : ReadsQuietly config address len := by
  by_contra loud
  have panicked := panics_readChecked address
    (SpiTransport.withConfig clearedMemory config, List.replicate len 0) (by
      dsimp only
      rw [List.length_replicate]
      exact loud)
  exact avoids SpiMemory Empty (SpiTransport.withConfig clearedMemory config)
    (List.replicate len 0) rfl List.length_replicate panicked.ends

/-- The transfer buffer is never sliced outside, nor the length asserted in vain; the
latency assertion holds in every read exactly where the read is quiet. -/
theorem readChecked_panics (config : SpiConfig) (address : UInt32) (len : Nat) :
    Avoids config address len .outsideBuffer ∧ Avoids config address len .lengthAsserted ∧
      (NeverPanics config address len ↔ ReadsQuietly config address len) := by
  refine ⟨avoids_of_quiet ?_, avoids_of_quiet ?_, ?_⟩
  · intro same
    cases same
  · intro same
    cases same
  · constructor
    · intro never
      exact quiet_of_avoids (never .latencyAsserted)
    · intro quiet reason
      exact avoids_of_quiet fun _ => quiet

/-- Without the table, a read is quiet when it has no latency words or at most one word. -/
theorem readsQuietly_fixed {config : SpiConfig} (fixed : config.nordicMemoryMapLatency = false)
    (address : UInt32) (len : Nat) :
    ReadsQuietly config address len ↔
      config.slaveLatencyWords = 0 ∨ len ≤ highLatencyReadWordLen := by
  have latency (place : UInt32) : config.readLatencyWords place = config.slaveLatencyWords := by
    rw [SpiConfig.readLatencyWords, fixed]
    rfl
  simp only [ReadsQuietly, fixed, StepsQuietly, latency, Bool.false_eq_true, false_and, false_or]
  constructor
  · intro steps
    by_cases short : len ≤ highLatencyReadWordLen
    · exact .inr short
    · exact .inl (steps 0 (by omega))
  · intro quiet step long
    obtain none | short := quiet
    · exact none
    · omega

/-- One latency word, and a read of two words. -/
theorem readChecked_can_panic :
    ¬ (∀ config, Obtainable config → ∀ address : UInt32, address < 0x1000000 → ∀ len,
      NeverPanics config address len) := by
  intro all
  have made : SpiConfig.new 0x800000 1 = some
      { addressMask := 0x800000
        slaveLatencyWords := 1
        nordicMemoryMapLatency := false
        valid := by decide } := by decide
  have quiet := quiet_of_avoids (all _ (.inr (.inr ⟨_, _, made⟩)) 0 (by decide) 8
    .latencyAsserted)
  rw [readsQuietly_fixed rfl] at quiet
  exact absurd quiet (by decide)

end SpiTransport

end Nrf7002
