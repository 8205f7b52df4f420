import Nrf7002.Firmware.Load
import Nrf7002.Trace

/-! # The order of a load

What the bus sees of one load, with failures anywhere: nothing of a bundle that is not
trusted, no image byte before both processors wait in reset, and no start before all four
images are written. -/

set_option autoImplicit false

namespace Nrf7002
open Foundation

/-! ## What a run adds to the trace -/

section Logs
variable {β ε δ α γ : Type} {rpu : Rpu (Traced β)}

instance [DelayNs β] : DelayNs (Traced β) where
  delayMs ms traced := { traced with bus := DelayNs.delayMs ms traced.bus }

/-- The transfers that a run adds are as `L` says for its result. -/
def Logs (x : Program (Rpu (Traced β)) δ α) (rpu : Rpu (Traced β))
    (L : Except δ α → List Transfer → Prop) : Prop :=
  Post x rpu fun r t => ∃ added, t.transfers = rpu.transfers ++ added ∧ L r added

theorem Logs.mono {x : Program (Rpu (Traced β)) δ α} {L M : Except δ α → List Transfer → Prop}
    (logs : Logs x rpu L) (weaker : ∀ r added, L r added → M r added) : Logs x rpu M := by
  refine Post.mono logs ?_
  intro r t ended
  obtain ⟨added, more, logged⟩ := ended
  exact ⟨added, more, weaker r added logged⟩

theorem logs_nothing {x : Program (Rpu (Traced β)) δ α} {r : Except δ α}
    {L : Except δ α → List Transfer → Prop}
    (ends : Post x rpu fun found t => found = r ∧ t.transfers = rpu.transfers)
    (logged : L r []) : Logs x rpu L := by
  refine Post.mono ends ?_
  intro found t ended
  obtain ⟨rfl, same⟩ := ended
  exact ⟨[], by rw [same, List.append_nil], logged⟩

theorem logs_pure {a : α} {L : Except δ α → List Transfer → Prop} (logged : L (.ok a) []) :
    Logs (pure a : Program (Rpu (Traced β)) δ α) rpu L :=
  logs_nothing ((post_pure _ _ _).mpr ⟨rfl, rfl⟩) logged

theorem logs_throw {e : δ} {L : Except δ α → List Transfer → Prop} (logged : L (.error e) []) :
    Logs (throw e : Program (Rpu (Traced β)) δ α) rpu L :=
  logs_nothing ((post_throw _ _ _).mpr ⟨rfl, rfl⟩) logged

theorem logs_liftResult {r : Except δ α} {L : Except δ α → List Transfer → Prop}
    (logged : L r []) : Logs (liftResult r : Program (Rpu (Traced β)) δ α) rpu L :=
  logs_nothing ((post_liftResult _ _ _).mpr ⟨rfl, rfl⟩) logged

theorem logs_mapError {x : Program (Rpu (Traced β)) ε α} {f : ε → δ}
    {L : Except δ α → List Transfer → Prop}
    (logs : Logs x rpu fun r added => L (r.mapError f) added) : Logs (mapError f x) rpu L := by
  rw [Logs, post_mapError]
  exact logs

/-- The first step's transfers come first; the rest is judged with them. -/
theorem Logs.bind {x : Program (Rpu (Traced β)) δ α} {f : α → Program (Rpu (Traced β)) δ γ}
    {L : Except δ γ → List Transfer → Prop}
    (first : Logs x rpu fun r early => match r with
      | .ok a => ∀ t, Logs (f a) t fun r late => L r (early ++ late)
      | .error e => L (.error e) early) : Logs (x >>= f) rpu L := by
  rw [Logs, post_bind]
  refine Post.mono first ?_
  intro r t ended
  obtain ⟨early, more, logged⟩ := ended
  cases r with
  | error e => exact ⟨early, more, logged⟩
  | ok a =>
      refine Post.mono (logged t) ?_
      intro r last ended
      obtain ⟨late, added, whole⟩ := ended
      exact ⟨early ++ late, by rw [added, more, List.append_assoc], whole⟩

end Logs

namespace Rpu
variable {β ε : Type}

theorem logs_delay [DelayNs β] (ms : UInt32) (rpu : Rpu (Traced β))
    {L : Except (RpuError ε) Unit → List Transfer → Prop} (logged : L (.ok ()) []) :
    Logs (delay ms) rpu L :=
  logs_nothing ((post_modify _ _ _).mpr ⟨rfl, rfl⟩) logged

variable [Bus β ε]

/-- A mapped word that is written is one transfer. -/
theorem logs_writeU32_mapped {processor : Processor} {address offset : UInt32} (value : UInt32)
    (rpu : Rpu (Traced β))
    (mapped : (wordOffset processor address : Except (RpuError ε) UInt32) = .ok offset) :
    Logs (writeU32 processor address value) rpu fun r added =>
      added = [⟨.write, offset, le32 value, r.isOk⟩] := by
  rw [Logs, post_writeU32, mapped]
  refine (Traced.post_write offset (le32 value) rpu.bus).mono ?_
  intro r t added
  refine ⟨_, added, ?_⟩
  cases r <;> rfl

/-- A word that is written is one transfer, or none. -/
theorem logs_writeU32 (processor : Processor) (address value : UInt32) (rpu : Rpu (Traced β)) :
    Logs (writeU32 processor address value) rpu fun r added =>
      (added = [] ∧ r ≠ .ok ()) ∨
        ∃ offset, hostOffset processor address = .ok offset ∧
          added = [⟨.write, offset, le32 value, r.isOk⟩] := by
  cases mapped : (wordOffset processor address : Except (RpuError ε) UInt32) with
  | error failure =>
      rw [Logs, post_writeU32, mapped]
      exact ⟨[], (List.append_nil _).symm, .inl ⟨rfl, fun same => by cases same⟩⟩
  | ok offset =>
      refine (logs_writeU32_mapped value rpu mapped).mono ?_
      intro r added written
      exact .inr ⟨offset, wordOffset_eq_ok mapped, written⟩

/-- A word that is read is one transfer, or none. -/
theorem logs_readU32 (processor : Processor) (address : UInt32) (rpu : Rpu (Traced β)) :
    Logs (readU32 processor address) rpu fun r added =>
      (added = [] ∧ ∀ value, r ≠ .ok value) ∨
        ∃ offset data, hostOffset processor address = .ok offset ∧ data.length = 4 ∧
          added = [⟨.read, offset, data, r.isOk⟩] ∧
          ∀ value, r = .ok value → Nrf7002.readU32 data 0 = value := by
  rw [Logs, post_readU32]
  cases mapped : (wordOffset processor address : Except (RpuError ε) UInt32) with
  | error failure =>
      exact ⟨[], (List.append_nil _).symm, .inl ⟨rfl, fun value same => by cases same⟩⟩
  | ok offset =>
      refine (Traced.post_read offset (rpu.bus, List.replicate 4 0)).mono ?_
      intro r t ended
      obtain ⟨added, length⟩ := ended
      cases r with
      | error failure =>
          exact ⟨_, added, .inr ⟨offset, t.2, wordOffset_eq_ok mapped, length, rfl,
            fun value same => by cases same⟩⟩
      | ok done =>
          refine ⟨_, added, .inr ⟨offset, t.2, wordOffset_eq_ok mapped, length, rfl, ?_⟩⟩
          intro value same
          exact Except.ok.inj same

/-- A poll only reads; when it ends well, the bus has answered what was expected. -/
theorem logs_pollRegisterFrom [DelayNs β] (address mask expected ms : UInt32) (attempts : Nat)
    (last : UInt32) (rpu : Rpu (Traced β)) :
    Logs (pollRegisterFrom address mask expected ms attempts last) rpu fun r added =>
      (∀ transfer ∈ added, transfer.direction = .read) ∧
        (r = .ok () → ∃ transfer ∈ added, ∃ value, transfer.ReadsWord address value ∧
          value &&& mask = expected) := by
  induction attempts generalizing last rpu with
  | zero => exact logs_throw ⟨by simp, fun same => by cases same⟩
  | succ attempts hypothesis =>
      apply Logs.bind
      refine (logs_readU32 .lmac address rpu).mono ?_
      intro r early logged
      cases r with
      | error failure =>
          obtain ⟨rfl, _⟩ | ⟨offset, data, _, _, rfl, _⟩ := logged
          · exact ⟨by simp, fun same => by cases same⟩
          · exact ⟨by simp, fun same => by cases same⟩
      | ok value =>
          obtain ⟨_, impossible⟩ | ⟨offset, data, mapped, length, rfl, read⟩ := logged
          · exact absurd rfl (impossible value)
          · have word : Transfer.ReadsWord address value ⟨.read, offset, data, true⟩ :=
              ⟨rfl, mapped, length, read value rfl, rfl⟩
            intro t
            by_cases found : value &&& mask = expected
            · rw [if_pos found]
              apply logs_pure
              exact ⟨by simp, fun _ => ⟨_, List.mem_singleton_self _, value, word, found⟩⟩
            · rw [if_neg found]
              apply Logs.bind
              apply logs_delay
              intro u
              refine (hypothesis value u).mono ?_
              intro r late logged
              obtain ⟨reads, answered⟩ := logged
              constructor
              · intro transfer member
                rcases List.mem_append.mp member with here | later
                · rw [List.mem_singleton.mp here]
                · exact reads transfer later
              · intro ended
                obtain ⟨transfer, member, answer⟩ := answered ended
                exact ⟨transfer, List.mem_append_right _ member, answer⟩

end Rpu

/-! ## Reset -/

/-- A write of the register that resets and starts a processor. -/
def Transfer.Starts (processor : Processor) (transfer : Transfer) : Prop :=
  transfer.direction = .write ∧
    hostOffset .lmac (bootConfig processor).runRegister = .ok transfer.offset

/-- The processor was pulsed, left its reset and reported the wait state, in this order. -/
def WaitReported (processor : Processor) (transfers : List Transfer) : Prop :=
  ∃ pulse cleared waiting control status, [pulse, cleared, waiting].Sublist transfers ∧
    pulse.WritesWord processor.controlRegister 1 ∧
    cleared.ReadsWord processor.controlRegister control ∧ control &&& 1 = 0 ∧
    waiting.ReadsWord processor.waitRegister status ∧ status &&& 1 = 1

/-- The transfers of one reset, if any: the pulse, and reads. -/
structure ResetLog (processor : Processor) (succeeded : Prop) (added : List Transfer) : Prop where
  shape : added = [] ∨ ∃ pulse reads, added = pulse :: reads ∧ pulse.Starts processor ∧
    ∀ transfer ∈ reads, transfer.direction = .read
  waited : succeeded → WaitReported processor added

theorem runRegister_eq (processor : Processor) :
    (bootConfig processor).runRegister = processor.controlRegister := by
  cases processor <;> rfl

section Reset
variable {β ε : Type} [Bus β ε] [DelayNs β]

theorem logs_resetProcessor (processor : Processor) (rpu : Rpu (Traced β)) :
    Logs (Rpu.resetProcessor processor) rpu fun r added =>
      added ≠ [] ∧ ResetLog processor (r = .ok ()) added := by
  have mapped : ∃ offset, (Rpu.wordOffset .lmac processor.controlRegister :
      Except (RpuError ε) UInt32) = .ok offset := by
    cases processor
    · exact ⟨0, rfl⟩
    · exact ⟨0x100, rfl⟩
  obtain ⟨offset, mapped⟩ := mapped
  have place := Rpu.wordOffset_eq_ok mapped
  have starts (accepted : Bool) :
      Transfer.Starts processor ⟨.write, offset, le32 1, accepted⟩ :=
    ⟨rfl, by rw [runRegister_eq]; exact place⟩
  rw [Rpu.resetProcessor]
  apply Logs.bind
  refine (Rpu.logs_writeU32_mapped 1 rpu mapped).mono ?_
  intro r pulse written
  subst written
  cases r with
  | error failure =>
      exact ⟨by simp, .inr ⟨_, [], rfl, starts false, by simp⟩, fun same => by cases same⟩
  | ok done =>
      intro t
      apply Logs.bind
      refine (Rpu.logs_pollRegisterFrom _ 1 0 10 50 0 t).mono ?_
      intro r cleared first
      obtain ⟨reads, answered⟩ := first
      cases r with
      | error failure =>
          exact ⟨by simp, .inr ⟨_, cleared, rfl, starts true, reads⟩, fun same => by cases same⟩
      | ok done =>
          intro u
          refine (Rpu.logs_pollRegisterFrom _ 1 1 10 50 0 u).mono ?_
          intro r waited second
          obtain ⟨more, reported⟩ := second
          refine ⟨by simp, .inr ⟨_, cleared ++ waited, rfl, starts true, ?_⟩, ?_⟩
          · intro transfer member
            rcases List.mem_append.mp member with early | late
            · exact reads transfer early
            · exact more transfer late
          · intro ended
            obtain ⟨one, here, control, read, clear⟩ := answered rfl
            obtain ⟨two, there, status, found, waiting⟩ := reported ended
            refine ⟨⟨.write, offset, le32 1, true⟩, one, two, control, status, ?_,
              ⟨rfl, place, rfl, rfl⟩, read, clear, found, waiting⟩
            exact (List.Sublist.refl [_]).append
              ((List.singleton_sublist.mpr here).append (List.singleton_sublist.mpr there))

end Reset

/-! ## Download -/

/-- A write to a processor's own memory, where the images go. -/
def Transfer.LoadsMemory (transfer : Transfer) : Prop :=
  transfer.direction = .write ∧ hostLmacDirectBase ≤ transfer.offset

/-- All words of the image were written, in order, and accepted. -/
def FirmwareBundle.Downloaded (bundle : FirmwareBundle) (kind : ImageKind)
    (transfers : List Transfer) : Prop :=
  ∃ image part, bundle.image kind = .ok image ∧ part.Sublist transfers ∧
    List.Forall₂ (Carries kind.destination.1 kind.destination.2) (writePieces image.data) part ∧
    ∀ transfer ∈ part, transfer.accepted = true

/-- The transfers of a download of these kinds. -/
structure DownloadLog (bundle : FirmwareBundle) (kinds : List ImageKind) (succeeded : Prop)
    (added : List Transfer) : Prop where
  loads : ∀ transfer ∈ added, transfer.LoadsMemory
  complete : succeeded → ∀ kind ∈ kinds, bundle.Downloaded kind added

theorem FirmwareBundle.Downloaded.mono {bundle : FirmwareBundle} {kind : ImageKind}
    {first second : List Transfer} (downloaded : bundle.Downloaded kind first)
    (longer : first.Sublist second) : bundle.Downloaded kind second := by
  obtain ⟨image, part, found, inside, carried⟩ := downloaded
  exact ⟨image, part, found, inside.trans longer, carried⟩

theorem chunkPieces_some (fuel : Nat) (bytes : Bytes) (index : Nat) :
    ∀ piece ∈ chunkPieces (chunksUpTo maxBusChunk fuel bytes) index, 0 < piece.2.length := by
  induction fuel generalizing bytes index with
  | zero => simp [chunksUpTo, chunkPieces]
  | succ fuel hypothesis =>
      cases bytes with
      | nil => simp [chunksUpTo, chunkPieces]
      | cons byte rest =>
          rw [chunksUpTo, chunkPieces]
          intro piece member
          rcases List.mem_cons.mp member with rfl | later
          · rw [List.length_take, List.length_cons]
            have size : maxBusChunk = 4096 := rfl
            omega
          · exact hypothesis _ (index + 1) piece later

/-- No piece of a write is empty. -/
theorem writePieces_some (data : Bytes) : ∀ piece ∈ writePieces data, 0 < piece.2.length := by
  intro piece member
  rcases List.mem_append.mp member with front | tail
  · exact chunkPieces_some _ _ 0 piece front
  · rw [tailPieces] at tail
    by_cases whole : data.length - data.length / 4 * 4 = 0
    · rw [if_pos whole] at tail
      exact absurd tail List.not_mem_nil
    · rw [if_neg whole, List.mem_singleton] at tail
      rw [tail, List.length_append, List.length_drop]
      omega

section Download
variable {β ε : Type} [Bus β ε] {bundle : FirmwareBundle}

/-- An image is written to its processor's memory. -/
theorem logs_writeImage (kind : ImageKind) (data : Bytes) (rpu : Rpu (Traced β)) :
    Logs (Rpu.write kind.destination.1 kind.destination.2 data) rpu fun r added =>
      Moved kind.destination.1 kind.destination.2 (writePieces data) r.isOk added ∧
        ∀ transfer ∈ added, transfer.LoadsMemory := by
  cases valid : (validateAccess kind.destination.1 kind.destination.2 data.length :
      Except (RpuError ε) Unit) with
  | error failure =>
      rw [Rpu.write]
      apply Logs.bind
      rw [valid]
      exact logs_liftResult ⟨Moved.stopped _ _ _, by simp⟩
  | ok done =>
      obtain ⟨offset, linear⟩ := validateAccess_linear valid
      cases (FirmwareBundle.hostOffset_destination kind).symm.trans linear.mapped
      refine (Rpu.post_write _ _ data rpu).mono ?_
      intro r t ended
      obtain ⟨added, more, moved⟩ := ended
      refine ⟨added, more, moved, ?_⟩
      intro transfer member
      obtain ⟨write, address, mapped, above, below⟩ := moved.within transfer member
      have some : 0 < transfer.data.length := by
        obtain ⟨count, leading⟩ := moved.leading
        obtain ⟨index, inRange, same⟩ := List.mem_iff_getElem.mp member
        have bound : index < ((writePieces data).take count).length :=
          leading.length_eq ▸ inRange
        have carries := leading.get bound inRange
        have piece := writePieces_some data _ (List.mem_of_mem_take (List.getElem_mem bound))
        have data := carries.data
        rw [List.get_eq_getElem, List.get_eq_getElem, same] at data
        rw [data]
        exact piece
      have value := linear.shifted address transfer.offset above (by omega) mapped
      have base : hostLmacDirectBase.toNat ≤ (FirmwareBundle.place kind).toNat := by
        cases kind <;> decide
      refine ⟨write, UInt32.le_iff_toNat_le.mpr ?_⟩
      omega

theorem logs_downloadKinds (kinds : List ImageKind) (rpu : Rpu (Traced β)) :
    Logs (bundle.downloadKinds kinds) rpu fun r added =>
      DownloadLog bundle kinds (r = .ok ()) added := by
  induction kinds generalizing rpu with
  | nil =>
      rw [FirmwareBundle.downloadKinds]
      exact logs_pure ⟨by simp, by simp⟩
  | cons kind rest hypothesis =>
      rw [FirmwareBundle.downloadKinds]
      apply Logs.bind
      apply logs_liftResult
      cases found : bundle.image kind with
      | error failure => exact ⟨by simp, fun same => by cases same⟩
      | ok image =>
          intro t
          apply Logs.bind
          apply logs_mapError
          refine (logs_writeImage kind image.data t).mono ?_
          intro r written logged
          obtain ⟨moved, loads⟩ := logged
          cases r with
          | error failure => exact ⟨loads, fun same => by cases same⟩
          | ok done =>
              intro u
              refine (hypothesis u).mono ?_
              intro r later logged
              rw [List.nil_append]
              constructor
              · intro transfer member
                rcases List.mem_append.mp member with here | there
                · exact loads transfer here
                · exact logged.loads transfer there
              · intro ended other member
                rcases List.mem_cons.mp member with rfl | after
                · obtain ⟨carried, accepted⟩ := moved.complete rfl
                  exact ⟨image, written, found, List.sublist_append_left _ _, carried, accepted⟩
                · exact (logged.complete ended other after).mono (List.sublist_append_right _ _)

end Download

/-! ## Boot -/

/-- A transfer outside the processors' own memories. -/
def Transfer.Outside (transfer : Transfer) : Prop := transfer.offset < hostLmacDirectBase

section Boot
variable {β ε : Type} [Bus β ε]

theorem logs_writeU32_outside {processor : Processor} {address offset : UInt32} (value : UInt32)
    (rpu : Rpu (Traced β)) (mapped : hostOffset processor address = .ok offset)
    (low : offset < hostLmacDirectBase) :
    Logs (Rpu.writeU32 processor address value) rpu fun _ added =>
      ∀ transfer ∈ added, transfer.Outside := by
  refine (Rpu.logs_writeU32 processor address value rpu).mono ?_
  intro r added logged
  obtain ⟨rfl, _⟩ | ⟨found, same, rfl⟩ := logged
  · simp
  · cases mapped.symm.trans same
    exact List.forall_mem_singleton.mpr low

theorem logs_writeRegisters (writes : List (UInt32 × UInt32))
    (low : ∀ write ∈ writes, ∃ offset, hostOffset .lmac write.1 = .ok offset ∧
      offset < hostLmacDirectBase) (rpu : Rpu (Traced β)) :
    Logs (writeRegisters writes) rpu fun _ added => ∀ transfer ∈ added, transfer.Outside := by
  induction writes generalizing rpu with
  | nil =>
      rw [writeRegisters]
      exact logs_pure (by simp)
  | cons write rest hypothesis =>
      obtain ⟨offset, mapped, below⟩ := low write List.mem_cons_self
      rw [writeRegisters]
      apply Logs.bind
      refine (logs_writeU32_outside write.2 rpu mapped below).mono ?_
      intro r early first
      cases r with
      | error failure => exact first
      | ok done =>
          intro t
          refine (hypothesis (fun other member => low other (List.mem_cons_of_mem _ member)) t).mono
            ?_
          intro r late second
          exact List.forall_mem_append.mpr ⟨first, second⟩

theorem logs_programBoot (processor : Processor) (rpu : Rpu (Traced β)) :
    Logs (programBoot processor (bootConfig processor)) rpu fun _ added =>
      ∀ transfer ∈ added, transfer.Outside := by
  have signature : ∃ offset, hostOffset processor (bootConfig processor).signatureAddress =
      .ok offset ∧ offset < hostLmacDirectBase := by
    cases processor
    · exact ⟨0x80d50, by decide, by decide⟩
    · exact ⟨0xc0000, by decide, by decide⟩
  have sleep : ∃ offset, hostOffset .lmac (bootConfig processor).sleepControl = .ok offset ∧
      offset < hostLmacDirectBase := by
    cases processor
    · exact ⟨0x2c2c, by decide, by decide⟩
    · exact ⟨0x2c30, by decide, by decide⟩
  have run : ∃ offset, hostOffset .lmac (bootConfig processor).runRegister = .ok offset ∧
      offset < hostLmacDirectBase := by
    cases processor
    · exact ⟨0, by decide, by decide⟩
    · exact ⟨0x100, by decide, by decide⟩
  have vectors : ∀ write ∈ (bootConfig processor).vectors.zip bootVectorValues, ∃ offset,
      hostOffset .lmac write.1 = .ok offset ∧ offset < hostLmacDirectBase := by
    intro write member
    have listed : write.1 ∈ (bootConfig processor).vectors := (List.of_mem_zip member).1
    cases processor with
    | lmac =>
        simp only [bootConfig, lmacBootVectorRegisters, List.mem_cons, List.not_mem_nil,
          or_false] at listed
        rcases listed with same | same | same | same <;> rw [same]
        · exact ⟨0x50, by decide, by decide⟩
        · exact ⟨0x54, by decide, by decide⟩
        · exact ⟨0x58, by decide, by decide⟩
        · exact ⟨0x5c, by decide, by decide⟩
    | umac =>
        simp only [bootConfig, umacBootVectorRegisters, List.mem_cons, List.not_mem_nil,
          or_false] at listed
        rcases listed with same | same | same | same <;> rw [same]
        · exact ⟨0x150, by decide, by decide⟩
        · exact ⟨0x154, by decide, by decide⟩
        · exact ⟨0x158, by decide, by decide⟩
        · exact ⟨0x15c, by decide, by decide⟩
  obtain ⟨_, signatureMapped, signatureLow⟩ := signature
  obtain ⟨_, sleepMapped, sleepLow⟩ := sleep
  obtain ⟨_, runMapped, runLow⟩ := run
  rw [programBoot]
  apply Logs.bind
  refine (logs_writeU32_outside 0 rpu signatureMapped signatureLow).mono ?_
  intro r first one
  cases r with
  | error failure => exact one
  | ok done =>
      intro t
      apply Logs.bind
      refine (logs_writeU32_outside _ t sleepMapped sleepLow).mono ?_
      intro r second two
      cases r with
      | error failure => exact List.forall_mem_append.mpr ⟨one, two⟩
      | ok done =>
          intro u
          apply Logs.bind
          refine (logs_writeRegisters _ vectors u).mono ?_
          intro r third three
          cases r with
          | error failure =>
              exact List.forall_mem_append.mpr ⟨one, List.forall_mem_append.mpr ⟨two, three⟩⟩
          | ok done =>
              intro v
              refine (logs_writeU32_outside _ v runMapped runLow).mono ?_
              intro r fourth four
              exact List.forall_mem_append.mpr ⟨one, List.forall_mem_append.mpr ⟨two,
                List.forall_mem_append.mpr ⟨three, four⟩⟩⟩

variable [DelayNs β]

theorem logs_waitForBootSignature {processor : Processor} {address offset : UInt32}
    (mapped : hostOffset processor address = .ok offset) (low : offset < hostLmacDirectBase)
    (attempts : Nat) (rpu : Rpu (Traced β)) :
    Logs (waitForBootSignature processor address attempts) rpu fun _ added =>
      ∀ transfer ∈ added, transfer.Outside := by
  induction attempts generalizing rpu with
  | zero => exact logs_throw (by simp)
  | succ attempts hypothesis =>
      rw [waitForBootSignature]
      apply Logs.bind
      refine (Rpu.logs_readU32 processor address rpu).mono ?_
      intro r early logged
      have outside : ∀ transfer ∈ early, transfer.Outside := by
        obtain ⟨rfl, _⟩ | ⟨found, data, same, _, rfl, _⟩ := logged
        · simp
        · cases mapped.symm.trans same
          exact List.forall_mem_singleton.mpr low
      cases r with
      | error failure => exact outside
      | ok value =>
          intro t
          by_cases ready : value = bootSignature
          · rw [if_pos ready]
            exact logs_pure (by rw [List.append_nil]; exact outside)
          · rw [if_neg ready]
            apply Logs.bind
            apply Rpu.logs_delay
            intro u
            refine (hypothesis u).mono ?_
            intro r late later
            exact List.forall_mem_append.mpr ⟨outside, later⟩

theorem logs_bootProcessor (processor : Processor) (rpu : Rpu (Traced β)) :
    Logs (bootProcessor processor) rpu fun _ added => ∀ transfer ∈ added, transfer.Outside := by
  have signature : ∃ offset, hostOffset processor (bootConfig processor).signatureAddress =
      .ok offset ∧ offset < hostLmacDirectBase := by
    cases processor
    · exact ⟨0x80d50, by decide, by decide⟩
    · exact ⟨0xc0000, by decide, by decide⟩
  obtain ⟨offset, mapped, low⟩ := signature
  rw [bootProcessor]
  apply Logs.bind
  refine (logs_programBoot processor rpu).mono ?_
  intro r first one
  cases r with
  | error failure => exact one
  | ok done =>
      intro t
      refine (logs_waitForBootSignature mapped low 100 t).mono ?_
      intro r second two
      exact List.forall_mem_append.mpr ⟨one, two⟩

end Boot

/-! ## The whole load -/

/-- The transfers of a load in their four groups, each of which is empty when an earlier
one did not end well. -/
structure LoadLog (bundle : FirmwareBundle) (trusted : Prop)
    (lmac umac downloads boots : List Transfer) : Prop where
  checks : lmac ≠ [] ∨ umac ≠ [] ∨ downloads ≠ [] ∨ boots ≠ [] → trusted
  pulsed : trusted → lmac ≠ []
  lmacReset : ResetLog .lmac (umac ≠ [] ∨ downloads ≠ [] ∨ boots ≠ []) lmac
  umacReset : ResetLog .umac (downloads ≠ [] ∨ boots ≠ []) umac
  loads : ∀ transfer ∈ downloads, transfer.LoadsMemory
  complete : boots ≠ [] → ∀ kind, bundle.Downloaded kind downloads
  outside : ∀ transfer ∈ boots, transfer.Outside

theorem ResetLog.nil (processor : Processor) {succeeded : Prop} (failed : ¬ succeeded) :
    ResetLog processor succeeded [] :=
  ⟨.inl rfl, fun impossible => absurd impossible failed⟩

theorem ResetLog.weaken {processor : Processor} {weak strong : Prop} {added : List Transfer}
    (log : ResetLog processor weak added) (implied : strong → weak) :
    ResetLog processor strong added := ⟨log.shape, fun holds => log.waited (implied holds)⟩

section Load
variable {β ε : Type} [Bus β ε] [DelayNs β] {bundle : FirmwareBundle}
  {sha256 : Bytes → Octets 32} {trust : FirmwareBundle → Except FirmwareError Unit}

/-- The policy and the digest of the payload accept the bundle. -/
def Trusted (sha256 : Bytes → Octets 32) (trust : FirmwareBundle → Except FirmwareError Unit)
    (bundle : FirmwareBundle) : Prop :=
  trust bundle = .ok () ∧ bundle.verifyHash sha256 = .ok ()

theorem logs_runReset (rpu : Rpu (Traced β)) :
    Logs (runProcessorOperation .reset : Program (Rpu (Traced β)) (LoadError ε) Unit) rpu
      fun r added => ∃ lmac umac, added = lmac ++ umac ∧ lmac ≠ [] ∧
        ResetLog .lmac (umac ≠ [] ∨ r = .ok ()) lmac ∧ ResetLog .umac (r = .ok ()) umac := by
  rw [runProcessorOperation]
  apply Logs.bind
  rw [runOperationOn]
  apply logs_mapError
  refine (logs_resetProcessor .lmac rpu).mono ?_
  intro r lmac pulsed
  obtain ⟨some, first⟩ := pulsed
  cases r with
  | error failure =>
      refine ⟨lmac, [], (List.append_nil _).symm, some, first.weaken ?_, ResetLog.nil _ ?_⟩
      · intro impossible
        obtain other | same := impossible
        · exact absurd rfl other
        · cases same
      · intro same
        cases same
  | ok done =>
      intro t
      rw [runOperationOn]
      apply logs_mapError
      refine (logs_resetProcessor .umac t).mono ?_
      intro r umac second
      refine ⟨lmac, umac, rfl, some, first.weaken fun _ => rfl, second.2.weaken ?_⟩
      intro same
      cases r with
      | ok done => rfl
      | error failure => cases same

theorem logs_runBoot (rpu : Rpu (Traced β)) :
    Logs (runProcessorOperation .boot : Program (Rpu (Traced β)) (LoadError ε) Unit) rpu
      fun _ added => ∀ transfer ∈ added, transfer.Outside := by
  rw [runProcessorOperation]
  apply Logs.bind
  rw [runOperationOn]
  apply logs_mapError
  refine (logs_bootProcessor .lmac rpu).mono ?_
  intro r first one
  cases r with
  | error failure => exact one
  | ok done =>
      intro t
      rw [runOperationOn]
      apply logs_mapError
      refine (logs_bootProcessor .umac t).mono ?_
      intro r second two
      exact List.forall_mem_append.mpr ⟨one, two⟩

theorem logs_load (rpu : Rpu (Traced β)) :
    Logs (load sha256 trust bundle : Program (Rpu (Traced β)) (LoadError ε) FirmwareReport) rpu
      fun _ added => ∃ lmac umac downloads boots,
        added = (lmac ++ umac) ++ (downloads ++ boots) ∧
          LoadLog bundle (Trusted sha256 trust bundle) lmac umac downloads boots := by
  have untouched (refused : ¬ Trusted sha256 trust bundle) : ∃ lmac umac downloads boots,
      ([] : List Transfer) = (lmac ++ umac) ++ (downloads ++ boots) ∧
        LoadLog bundle (Trusted sha256 trust bundle) lmac umac downloads boots :=
    ⟨[], [], [], [], rfl, by simp, fun trusted => absurd trusted refused,
      ResetLog.nil _ (by simp), ResetLog.nil _ (by simp), by simp, by simp, by simp⟩
  rw [load]
  apply Logs.bind
  apply logs_liftResult
  cases policy : trust bundle with
  | error failure =>
      apply untouched
      intro trusted
      cases policy.symm.trans trusted.1
  | ok accepted =>
      intro rpu
      apply Logs.bind
      apply logs_liftResult
      cases digest : bundle.verifyHash sha256 with
      | error failure =>
          apply untouched
          intro trusted
          cases digest.symm.trans trusted.2
      | ok matching =>
          have trusted : Trusted sha256 trust bundle := ⟨policy, digest⟩
          intro rpu
          apply Logs.bind
          refine (logs_runReset rpu).mono ?_
          intro r added resets
          obtain ⟨lmac, umac, rfl, some, first, second⟩ := resets
          have pulsed (_ : Trusted sha256 trust bundle) : lmac ≠ [] := some
          cases r with
          | error failure =>
              refine ⟨lmac, umac, [], [], by simp, fun _ => trusted, pulsed, first.weaken ?_,
                second.weaken (by simp), by simp, by simp, by simp⟩
              intro later
              exact .inl (by simpa using later)
          | ok reset =>
              intro rpu
              apply Logs.bind
              refine (logs_downloadKinds _ rpu).mono ?_
              intro r downloads third
              cases r with
              | error failure =>
                  exact ⟨lmac, umac, downloads, [], by simp, fun _ => trusted, pulsed,
                    first.weaken fun _ => .inr rfl, second.weaken fun _ => rfl, third.loads,
                    by simp, by simp⟩
              | ok downloaded =>
                  have complete : ∀ kind, bundle.Downloaded kind downloads := by
                    intro kind
                    apply third.complete rfl
                    cases kind <;> decide
                  intro rpu
                  apply Logs.bind
                  refine (logs_runBoot rpu).mono ?_
                  intro r boots fourth
                  have log : LoadLog bundle (Trusted sha256 trust bundle) lmac umac downloads boots :=
                    ⟨fun _ => trusted, pulsed, first.weaken fun _ => .inr rfl,
                      second.weaken fun _ => rfl, third.loads, fun _ => complete, fourth⟩
                  cases r with
                  | error failure => exact ⟨lmac, umac, downloads, boots, by simp, log⟩
                  | ok booted =>
                      intro rpu
                      exact logs_pure ⟨lmac, umac, downloads, boots, by simp, log⟩

/-! ## What comes first -/

/-- A position of two lists in a row is in the first, or in the second behind all of the
first. -/
theorem append_eq_split {a b front rest : List Transfer} {transfer : Transfer}
    (same : a ++ b = front ++ transfer :: rest) :
    (∃ tail, a = front ++ transfer :: tail) ∨
      ∃ middle, front = a ++ middle ∧ b = middle ++ transfer :: rest := by
  rcases List.append_eq_append_iff.mp same with behind | before
  · obtain ⟨middle, longer, later⟩ := behind
    exact .inr ⟨middle, longer, later⟩
  · obtain ⟨tail, shorter, later⟩ := before
    cases tail with
    | nil => exact .inr ⟨[], by rw [shorter, List.append_nil, List.append_nil], later.symm⟩
    | cons head tail =>
        rw [List.cons_append, List.cons.injEq] at later
        exact .inl ⟨tail, by rw [shorter, later.1]⟩

/-- The order of the transfers of a load: every write to a processor's memory comes after
both processors waited in reset; every write of a start register comes after all four
images, or is the first write of that register, which pulses the reset. -/
structure Ordered (bundle : FirmwareBundle) (trusted : Prop) (added : List Transfer) : Prop where
  images : ∀ front transfer rest, added = front ++ transfer :: rest → transfer.LoadsMemory →
    trusted ∧ ∀ processor, WaitReported processor front
  starts : ∀ front transfer rest, added = front ++ transfer :: rest →
    ∀ processor, transfer.Starts processor →
      (∀ earlier ∈ front, ¬ earlier.Starts processor) ∨ ∀ kind, bundle.Downloaded kind front

theorem Transfer.Starts.outside {processor : Processor} {transfer : Transfer}
    (starts : transfer.Starts processor) : transfer.Outside := by
  obtain ⟨_, mapped⟩ := starts
  have low : ∃ offset, hostOffset .lmac (bootConfig processor).runRegister = .ok offset ∧
      offset < hostLmacDirectBase := by
    cases processor
    · exact ⟨0, by decide, by decide⟩
    · exact ⟨0x100, by decide, by decide⟩
  obtain ⟨offset, same, below⟩ := low
  cases same.symm.trans mapped
  exact below

theorem Transfer.LoadsMemory.not_outside {transfer : Transfer} (loads : transfer.LoadsMemory) :
    ¬ transfer.Outside := UInt32.not_lt.mpr loads.2

/-- The start registers are two. -/
theorem Transfer.Starts.unique {first second : Processor} {transfer : Transfer}
    (one : transfer.Starts first) (two : transfer.Starts second) : first = second := by
  have same := one.2.trans two.2.symm
  cases first <;> cases second <;> first | rfl | exact absurd same (by decide)

/-- A write of a reset is its first transfer. -/
theorem ResetLog.first {processor : Processor} {succeeded : Prop} {added front rest : List Transfer}
    {transfer : Transfer} (log : ResetLog processor succeeded added)
    (split : added = front ++ transfer :: rest) (write : transfer.direction = .write) :
    front = [] ∧ transfer.Starts processor := by
  obtain rfl | ⟨pulse, reads, rfl, starts, read⟩ := log.shape
  · simp at split
  · cases front with
    | nil =>
        rw [List.nil_append, List.cons.injEq] at split
        exact ⟨rfl, split.1 ▸ starts⟩
    | cons head tail =>
        rw [List.cons_append, List.cons.injEq] at split
        have direction := read transfer (by rw [split.2]; simp)
        rw [write] at direction
        cases direction

theorem ResetLog.writes {processor : Processor} {succeeded : Prop} {added : List Transfer}
    {transfer : Transfer} (log : ResetLog processor succeeded added) (member : transfer ∈ added)
    (write : transfer.direction = .write) : transfer.Starts processor := by
  obtain ⟨front, rest, split⟩ := List.append_of_mem member
  exact (log.first split write).2

theorem WaitReported.mono {processor : Processor} {first second : List Transfer}
    (reported : WaitReported processor first) (longer : first.Sublist second) :
    WaitReported processor second := by
  obtain ⟨pulse, cleared, waiting, control, status, inside, facts⟩ := reported
  exact ⟨pulse, cleared, waiting, control, status, inside.trans longer, facts⟩

theorem LoadLog.ordered {trusted : Prop} {lmac umac downloads boots : List Transfer}
    (log : LoadLog bundle trusted lmac umac downloads boots) :
    Ordered bundle trusted ((lmac ++ umac) ++ (downloads ++ boots)) := by
  constructor
  · intro front transfer rest split loads
    rcases append_eq_split split with early | late
    · -- a write of a reset is a start register's
      obtain ⟨tail, same⟩ := early
      have member : transfer ∈ lmac ++ umac := by
        rw [same]
        simp
      rcases List.mem_append.mp member with first | second
      · exact absurd (log.lmacReset.writes first loads.1).outside loads.not_outside
      · exact absurd (log.umacReset.writes second loads.1).outside loads.not_outside
    · obtain ⟨middle, rfl, later⟩ := late
      rcases append_eq_split later with here | there
      · obtain ⟨tail, same⟩ := here
        have some : downloads ≠ [] := by
          rw [same]
          simp
        refine ⟨log.checks (.inr (.inr (.inl some))), ?_⟩
        intro processor
        cases processor with
        | lmac =>
            apply (log.lmacReset.waited (.inr (.inl some))).mono
            rw [List.append_assoc]
            exact List.sublist_append_left _ _
        | umac =>
            apply (log.umacReset.waited (.inl some)).mono
            rw [List.append_assoc]
            exact (List.sublist_append_left _ _).trans (List.sublist_append_right _ _)
      · obtain ⟨_, _, same⟩ := there
        exact absurd (log.outside transfer (by rw [same]; simp)) loads.not_outside
  · intro front transfer rest split processor starts
    rcases append_eq_split split with early | late
    · obtain ⟨tail, same⟩ := early
      left
      rcases append_eq_split same with first | second
      · obtain ⟨_, split⟩ := first
        rw [(log.lmacReset.first split starts.1).1]
        simp
      · -- before the UMAC's pulse there are only the transfers of the LMAC's reset
        obtain ⟨middle, rfl, inside⟩ := second
        obtain ⟨rfl, other⟩ := log.umacReset.first inside starts.1
        cases starts.unique other
        rw [List.append_nil]
        intro earlier member again
        have other := log.lmacReset.writes member again.1
        cases again.unique other
    · obtain ⟨middle, rfl, later⟩ := late
      rcases append_eq_split later with here | there
      · obtain ⟨_, same⟩ := here
        exact absurd starts.outside (log.loads transfer (by rw [same]; simp)).not_outside
      · obtain ⟨inner, rfl, same⟩ := there
        right
        intro kind
        have some : boots ≠ [] := by
          rw [same]
          simp
        apply (log.complete some kind).mono
        exact (List.sublist_append_left _ _).trans (List.sublist_append_right _ _)

/-! ## Refusals -/

omit [DelayNs β] in
theorem post_downloadKinds_refused (kinds : List ImageKind) (rpu : Rpu β)
    (present : ∀ kind, ∃ image, bundle.image kind = .ok image) :
    Post (bundle.downloadKinds kinds : Program (Rpu β) (LoadError ε) Unit) rpu
      (fun r _ => ∀ failure, r ≠ .error (.firmware failure)) := by
  induction kinds generalizing rpu with
  | nil =>
      rw [FirmwareBundle.downloadKinds, post_pure]
      intro failure same
      cases same
  | cons kind rest hypothesis =>
      obtain ⟨image, found⟩ := present kind
      rw [FirmwareBundle.downloadKinds, post_bind, found, post_liftResult]
      change Post (_ >>= _) rpu _
      rw [post_bind, post_mapError]
      refine (post_true _ _).mono ?_
      intro r t _
      cases r with
      | error failure =>
          intro found same
          cases same
      | ok done => exact hypothesis t

theorem post_runProcessorOperation_refused (operation : ProcessorOperation) (rpu : Rpu β) :
    Post (runProcessorOperation operation : Program (Rpu β) (LoadError ε) Unit) rpu
      (fun r _ => ∀ failure, r ≠ .error (.firmware failure)) := by
  rw [runProcessorOperation, runOperationOn, runOperationOn, post_bind, post_mapError]
  refine (post_true _ _).mono ?_
  intro r t _
  cases r with
  | error failure =>
      intro found same
      cases same
  | ok done =>
      dsimp only [Except.mapError]
      rw [post_mapError]
      refine (post_true _ _).mono ?_
      intro r u _ failure same
      cases r <;> cases same

/-- A load of an accepted bundle that ends in a firmware error did nothing. -/
theorem post_load_refused {bytes : Bytes} (accepted : FirmwareBundle.parse bytes = .ok bundle)
    (rpu : Rpu β) :
    Post (load sha256 trust bundle : Program (Rpu β) (LoadError ε) FirmwareReport) rpu
      (fun r t => ∀ failure, r = .error (.firmware failure) → t = rpu) := by
  rw [load, post_bind, post_liftResult]
  cases trust bundle with
  | error failure => exact fun _ _ => rfl
  | ok policy =>
      change Post (_ >>= _) rpu _
      rw [post_bind, post_liftResult]
      cases bundle.verifyHash sha256 with
      | error failure => exact fun _ _ => rfl
      | ok digest =>
          change Post (_ >>= _) rpu _
          rw [post_bind]
          refine (post_runProcessorOperation_refused .reset rpu).mono ?_
          intro r reset refused
          cases r with
          | error failure =>
              intro found same
              cases same
              exact absurd rfl (refused found)
          | ok done =>
              change Post (_ >>= _) reset _
              rw [post_bind]
              refine (post_downloadKinds_refused _ reset
                (FirmwareBundle.image_of_parse accepted)).mono ?_
              intro r loaded refused
              cases r with
              | error failure =>
                  intro found same
                  cases same
                  exact absurd rfl (refused found)
              | ok done =>
                  change Post (_ >>= _) loaded _
                  rw [post_bind]
                  refine (post_runProcessorOperation_refused .boot loaded).mono ?_
                  intro r booted refused
                  cases r with
                  | error failure =>
                      intro found same
                      cases same
                      exact absurd rfl (refused found)
                  | ok done =>
                      change Post (pure _) booted _
                      rw [post_pure]
                      intro failure same
                      cases same

end Load

/-- The start register of the LMAC is written first in every load of a trusted bundle. -/
theorem LoadLog.pulse {bundle : FirmwareBundle} {trusted : Prop}
    {lmac umac downloads boots : List Transfer}
    (log : LoadLog bundle trusted lmac umac downloads boots) (holds : trusted) :
    ∃ pulse rest, (lmac ++ umac) ++ (downloads ++ boots) = pulse :: rest ∧ pulse.Starts .lmac := by
  obtain none | ⟨pulse, reads, same, starts, _⟩ := log.lmacReset.shape
  · exact absurd none (log.pulsed holds)
  · exact ⟨pulse, _, by rw [same]; rfl, starts⟩

/-- A load that ends in a firmware error left the bus alone; and in every load the images
come after the trust checks and both reset waits, and the starts after the images. -/
theorem load_ordered {β ε : Type} [Bus β ε] [DelayNs β] (bytes : Bytes) (bundle : FirmwareBundle)
    (accepted : FirmwareBundle.parse bytes = .ok bundle) (sha256 : Bytes → Octets 32)
    (trust : FirmwareBundle → Except FirmwareError Unit) (rpu : Rpu (Traced β)) :
    Post (load sha256 trust bundle : Program (Rpu (Traced β)) (LoadError ε) FirmwareReport) rpu
      (fun r t => (∀ failure, r = .error (.firmware failure) → t = rpu) ∧
        ∃ added, t.transfers = rpu.transfers ++ added ∧
          Ordered bundle (Trusted sha256 trust bundle) added) := by
  refine ((post_load_refused accepted rpu).and (logs_load rpu)).mono ?_
  intro r t ended
  obtain ⟨refused, added, more, lmac, umac, downloads, boots, rfl, log⟩ := ended
  exact ⟨refused, _, more, log.ordered⟩

/-- A bus on which every transfer succeeds, both processors wait in reset, and both publish
their signature. -/
structure BootingBus where
  deriving DecidableEq

def bootingWord (offset : UInt32) : UInt32 :=
  let found (processor : Processor) (address : UInt32) : Bool :=
    (hostOffset processor address).toOption = some offset
  if found .lmac (Processor.waitRegister .lmac) ∨ found .lmac (Processor.waitRegister .umac) then 1
  else if found .lmac (bootConfig .lmac).signatureAddress ∨
    found .umac (bootConfig .umac).signatureAddress then bootSignature
  else 0

instance : Bus BootingBus Empty where
  readStatus _ := pure 0xff
  writeStatus _ _ := pure ()
  read offset := modify fun s => (s.1, fillWord (bootingWord offset) s.2)
  write _ _ := pure ()
  read_length _ := keeps_modify _ _ fun s => by simp [fillWord]

instance : DelayNs BootingBus where
  delayMs _ bus := bus

/-- The SHA-256 digest of the payload of the small bundle. -/
def smallDigest : Octets 32 :=
  ⟨[0x9f, 0xfc, 0xbc, 0x7b, 0x6a, 0xf0, 0x89, 0x3d, 0xa3, 0xdd, 0x95, 0x9c, 0x08, 0x9e, 0xb2, 0xcd,
    0x4a, 0x74, 0x3f, 0x94, 0xc4, 0xb2, 0xa8, 0xac, 0x2f, 0xda, 0x8b, 0xe8, 0x00, 0xd2, 0x70, 0xf2],
    rfl⟩

def bootingRpu : Rpu (Traced BootingBus) := { bus := { bus := {}, transfers := [] } }

/-- The load of the small bundle, whose digest is right and whose signer is trusted. -/
def smallLoad : Program (Rpu (Traced BootingBus)) (LoadError Empty) FirmwareReport :=
  load (fun _ => smallDigest) (fun _ => .ok ()) (FirmwareBundle.smallBundle smallDigest)

theorem smallData_ordered :
    (resultOf smallLoad bootingRpu).isOk = true ∧
      Post smallLoad bootingRpu (fun r t =>
        (∀ failure, r = .error (.firmware failure) → t = bootingRpu) ∧
          ∃ added, t.transfers = bootingRpu.transfers ++ added ∧
            Ordered (FirmwareBundle.smallBundle smallDigest)
              (Trusted (fun _ => smallDigest) (fun _ => .ok ())
                (FirmwareBundle.smallBundle smallDigest)) added) := by
  constructor
  · decide +kernel
  · exact load_ordered _ _ FirmwareBundle.fourImages_small.parse _ _ _

/-- Every start register is written behind all four images only. -/
def StartsLast (bundle : FirmwareBundle) (added : List Transfer) : Prop :=
  ∀ front transfer rest, added = front ++ transfer :: rest →
    ∀ processor, transfer.Starts processor → ∀ kind, bundle.Downloaded kind front

/-- The reset of the LMAC writes its start register before any image. -/
theorem not_startsLast {β ε : Type} [Bus β ε] [DelayNs β] {bundle : FirmwareBundle}
    {sha256 : Bytes → Octets 32} {trust : FirmwareBundle → Except FirmwareError Unit}
    (trusted : Trusted sha256 trust bundle) {kind : ImageKind} {image : FirmwareImage}
    (found : bundle.image kind = .ok image) (some : writePieces image.data ≠ [])
    (rpu : Rpu (Traced β)) :
    Logs (load sha256 trust bundle : Program (Rpu (Traced β)) (LoadError ε) FirmwareReport) rpu
      fun _ added => ¬ StartsLast bundle added := by
  refine (logs_load rpu).mono ?_
  intro r added logged always
  obtain ⟨lmac, umac, downloads, boots, rfl, log⟩ := logged
  obtain ⟨pulse, rest, same, starts⟩ := log.pulse trusted
  obtain ⟨other, part, present, inside, carried, _⟩ := always [] pulse rest same .lmac starts kind
  cases found.symm.trans present
  rw [List.sublist_nil.mp inside, List.forall₂_nil_right_iff] at carried
  exact some carried

theorem start_precedes_images : ¬ ∀ (β ε : Type) [Bus β ε] [DelayNs β] (bytes : Bytes)
    (bundle : FirmwareBundle), FirmwareBundle.parse bytes = .ok bundle →
    ∀ (sha256 : Bytes → Octets 32) (trust : FirmwareBundle → Except FirmwareError Unit)
      (rpu : Rpu (Traced β)),
    Logs (load sha256 trust bundle : Program (Rpu (Traced β)) (LoadError ε) FirmwareReport) rpu
      fun _ added => StartsLast bundle added := by
  intro always
  have accepted : FirmwareBundle.parse (FirmwareBundle.smallBundle smallDigest).bytes =
      .ok (FirmwareBundle.smallBundle smallDigest) := FirmwareBundle.fourImages_small.parse
  have found : (FirmwareBundle.smallBundle smallDigest).image .umacPrimary =
      .ok { kind := .umacPrimary, data := FirmwareBundle.smallData .umacPrimary } :=
    FirmwareBundle.image_imagesOf smallDigest FirmwareBundle.fourImages_small .umacPrimary
  generalize FirmwareBundle.smallBundle smallDigest = bundle at accepted found
  have trusted : Trusted (fun _ => bundle.header.hash) (fun _ => .ok ()) bundle := ⟨rfl, if_pos rfl⟩
  obtain ⟨added, more, last⟩ := (always BootingBus Empty _ _ accepted (fun _ => bundle.header.hash)
    (fun _ => .ok ()) bootingRpu).ends
  obtain ⟨others, same, not⟩ := (not_startsLast (ε := Empty) trusted found (by decide)
    bootingRpu).ends
  rw [more] at same
  cases List.append_cancel_left same
  exact not last

end Nrf7002
