import Nrf7002.Production.Agreement

/-! # The production operations next to the native ones

Both drivers reach the same station controller, each through its own guards.  Every
production success is a native success with the same driver afterwards, except that the
production driver creates an interface without comparing its address with the one that
the system initialization announced. -/

set_option autoImplicit false

namespace Nrf7002
open Foundation

/-- An operation that both drivers offer, with its arguments. -/
inductive SharedOperation where
  | createStationInterface (macAddress : Octets 6) (interfaceName : Bytes)
  | setRegulatory (country : UInt8 × UInt8) (userHintType : UInt32) (force : Bool)
  | bringUp
  | bringDown
  | startScan (request : ScanRequest)
  | requestScanResults (reason : ScanReason)
  | authenticate (request : AuthenticationRequest)
  | associate (request : AssociationRequest)
  | setPowerSave (state : PowerSaveState)
  | setPowerSaveTimeout (timeoutMs : Int32)
  | disconnect (reasonCode : UInt16)
  | transmit (wdevId : UInt8) (frame : Bytes) (dscpTos : UInt16)

/-- What an operation returns: only a transmission has a token. -/
abbrev SharedResult := Option UInt8

namespace SharedOperation
variable {β ε : Type} {rx tx : Nat} [Bus β ε]

def withoutToken {σ δ : Type} (x : Program σ δ Unit) : Program σ δ SharedResult :=
  (fun _ => none) <$> x

def production : SharedOperation → MissionCriticalDriver.Method β rx tx ε SharedResult
  | .createStationInterface mac name =>
      withoutToken (MissionCriticalDriver.createStationInterface mac name)
  | .setRegulatory country hint force =>
      withoutToken (MissionCriticalDriver.setRegulatory country hint force)
  | .bringUp => withoutToken MissionCriticalDriver.bringUp
  | .bringDown => withoutToken MissionCriticalDriver.bringDown
  | .startScan request => withoutToken (MissionCriticalDriver.startScan request)
  | .requestScanResults reason => withoutToken (MissionCriticalDriver.requestScanResults reason)
  | .authenticate request => withoutToken (MissionCriticalDriver.authenticate request)
  | .associate request => withoutToken (MissionCriticalDriver.associate request)
  | .setPowerSave state => withoutToken (MissionCriticalDriver.setPowerSave state)
  | .setPowerSaveTimeout timeoutMs =>
      withoutToken (MissionCriticalDriver.setPowerSaveTimeout timeoutMs)
  | .disconnect reasonCode => withoutToken (MissionCriticalDriver.disconnect reasonCode)
  | .transmit wdevId frame dscpTos =>
      some <$> MissionCriticalDriver.transmit wdevId frame dscpTos

/-- The native operation; an interface is created under the given index. -/
def native (ifaceindex : Int32) :
    SharedOperation → Program (NativeDriver β rx tx) (DriverError ε) SharedResult
  | .createStationInterface mac name =>
      withoutToken (NativeDriver.createStationInterface ifaceindex mac name)
  | .setRegulatory country hint force =>
      withoutToken (NativeDriver.setRegulatory country hint force)
  | .bringUp => withoutToken NativeDriver.bringUp
  | .bringDown => withoutToken NativeDriver.bringDown
  | .startScan request => withoutToken (NativeDriver.startScan request)
  | .requestScanResults reason => withoutToken (NativeDriver.requestScanResults reason)
  | .authenticate request => withoutToken (NativeDriver.authenticate request)
  | .associate request => withoutToken (NativeDriver.associate request)
  | .setPowerSave state => withoutToken (NativeDriver.setPowerSave state)
  | .setPowerSaveTimeout timeoutMs => withoutToken (NativeDriver.setPowerSaveTimeout timeoutMs)
  | .disconnect reasonCode => withoutToken (NativeDriver.disconnect reasonCode)
  | .transmit wdevId frame dscpTos => some <$> NativeDriver.transmit wdevId frame dscpTos

/-- The address check of the native driver, which the production driver leaves out. -/
def AddressChecked (driver : NativeDriver β rx tx) : SharedOperation → Prop
  | .createStationInterface mac _ => driver.configuredMac = some mac
  | _ => True

/-! ## One command through both paths -/

omit [Bus β ε] in
theorem ensureReady_returns {driver next : MissionCriticalDriver β rx tx} {value : Unit}
    (returns : Returns (MissionCriticalDriver.ensureReady : MissionCriticalDriver.Method β rx tx ε _)
      driver value next) :
    driver.inner.state = .ready ∧ driver = next := by
  rw [returns_iff_post, MissionCriticalDriver.post_ensureReady] at returns
  split at returns
  · rename_i ready
    exact ⟨ready, returns.2⟩
  · cases returns.1

omit [Bus β ε] in
/-- An error is thrown whether or not it requires recovery. -/
theorem not_returns_recovering {α : Type} {required : Prop} [Decidable required]
    {failure : ProductionError ε} {driver next : MissionCriticalDriver β rx tx} {value : α} :
    ¬ Returns (if required then do
        MissionCriticalDriver.enterRecovery
        throw failure
      else throw failure) driver value next := by
  intro returns
  split at returns
  · obtain ⟨_, _, _, thrown⟩ := returns_bind.mp returns
    exact not_returns_throw thrown
  · exact not_returns_throw returns

omit [Bus β ε] in
theorem finishStation_returns {α : Type} {result : Except (StationError ε) α}
    {driver next : MissionCriticalDriver β rx tx} {value : α}
    (returns : Returns (MissionCriticalDriver.finishStation result) driver value next) :
    result = .ok value ∧ driver = next := by
  cases result with
  | ok answer =>
      obtain ⟨same, kept⟩ := returns_pure.mp returns
      exact ⟨congrArg _ same, kept⟩
  | error failure => exact absurd returns not_returns_recovering

omit [Bus β ε] in
theorem finishDriver_returns {α : Type} {operation : DriverOperation}
    {result : Except (DriverError ε) α} {driver next : MissionCriticalDriver β rx tx} {value : α}
    (returns : Returns (MissionCriticalDriver.finishDriver operation result) driver value next) :
    result = .ok value ∧ driver = next := by
  cases result with
  | ok answer =>
      obtain ⟨same, kept⟩ := returns_pure.mp returns
      exact ⟨congrArg _ same, kept⟩
  | error failure => exact absurd returns not_returns_recovering

omit [Bus β ε] in
/-- A call on the inner driver whose result is inspected afterwards. -/
theorem attempt_inner_returns {α δ η : Type} {x : Program (NativeDriver β rx tx) δ α}
    {driver next : MissionCriticalDriver β rx tx} {result : Except δ α}
    (returns : Returns (attempt (MissionCriticalDriver.onInner x) :
      Program (MissionCriticalDriver β rx tx) η (Except δ α)) driver result next) :
    resultOf x driver.inner = result ∧ stateAfter x driver.inner = next.inner := by
  have ends := post_self (MissionCriticalDriver.onInner x) driver
  rw [MissionCriticalDriver.onInner, post_onField, post_iff] at ends
  obtain ⟨same, kept⟩ := returns_attempt.mp returns
  rw [← same, ← kept]
  exact ⟨ends.1, congrArg MissionCriticalDriver.inner ends.2⟩

omit [Bus β ε] in
theorem runStationCommand_returns {command : StationController.Command β ε Unit}
    {driver next : MissionCriticalDriver β rx tx} {value : Unit}
    (returns : Returns (MissionCriticalDriver.runStationCommand command) driver value next) :
    driver.inner.state = .ready ∧
      Returns (NativeDriver.onSecurityParts command) driver.inner value next.inner := by
  rw [MissionCriticalDriver.runStationCommand] at returns
  obtain ⟨_, checked, checks, rest⟩ := returns_bind.mp returns
  obtain ⟨ready, rfl⟩ := ensureReady_returns checks
  obtain ⟨result, last, run, finish⟩ := returns_bind.mp rest
  obtain ⟨success, rfl⟩ := finishStation_returns finish
  obtain ⟨same, kept⟩ := attempt_inner_returns run
  exact ⟨ready, same.trans success, kept⟩

omit [Bus β ε] in
theorem requireState_returns {required : DriverState} {driver : NativeDriver β rx tx}
    (holds : driver.state = required) :
    Returns (NativeDriver.requireState required : Program _ (DriverError ε) Unit)
      driver () driver := by
  rw [NativeDriver.requireState, returns_bind]
  refine ⟨driver, driver, ⟨rfl, rfl⟩, ?_⟩
  rw [if_pos holds]
  exact returns_pure.mpr ⟨rfl, rfl⟩

omit [Bus β ε] in
/-- The native path has no guard of its own beyond the state. -/
theorem runStationCommand_refined {command : StationController.Command β ε Unit}
    {driver next : MissionCriticalDriver β rx tx} {value : Unit}
    (returns : Returns (MissionCriticalDriver.runStationCommand command) driver value next) :
    Returns (NativeDriver.runStationCommand command) driver.inner value next.inner := by
  obtain ⟨ready, run⟩ := runStationCommand_returns returns
  rw [NativeDriver.runStationCommand, returns_bind]
  exact ⟨(), driver.inner, requireState_returns ready, returns_mapError.mpr run⟩

/-- The native creation of an interface succeeds only for the announced address. -/
theorem createStationInterface_returns_iff {mac : Octets 6} {name : Bytes}
    {driver next : NativeDriver β rx tx} (ready : driver.state = .ready) :
    Returns (NativeDriver.createStationInterface driver.ifaceindex mac name :
        Program _ (DriverError ε) Unit) driver () next ↔
      driver.configuredMac = some mac ∧
        Returns (NativeDriver.runStationCommand (StationController.createInterface mac name) :
          Program _ (DriverError ε) Unit) driver () next := by
  have checked := requireState_returns (ε := ε) ready
  rw [NativeDriver.createStationInterface, returns_bind]
  constructor
  · rintro ⟨_, state, first, rest⟩
    cases checked.2.symm.trans first.2
    obtain ⟨_, _, same, rest⟩ := returns_bind.mp rest
    cases same.1
    cases same.2
    split at rest
    · exact absurd rest not_returns_throw
    · rename_i plain
      exact ⟨by simpa using fun other => plain (.inr other), rest⟩
  · rintro ⟨announced, rest⟩
    refine ⟨(), driver, checked, ?_⟩
    rw [returns_bind]
    refine ⟨driver, driver, ⟨rfl, rfl⟩, ?_⟩
    rw [if_neg (by simp [announced])]
    exact rest

theorem transmit_refined {wdevId : UInt8} {frame : Bytes} {dscpTos : UInt16}
    {driver next : MissionCriticalDriver β rx tx} {token : UInt8}
    (returns : Returns (MissionCriticalDriver.transmit wdevId frame dscpTos) driver token next) :
    Returns (NativeDriver.transmit wdevId frame dscpTos) driver.inner token next.inner := by
  rw [MissionCriticalDriver.transmit] at returns
  obtain ⟨_, _, checks, rest⟩ := returns_bind.mp returns
  obtain ⟨ready, rfl⟩ := ensureReady_returns checks
  obtain ⟨etherType, _, parsed, rest⟩ := returns_bind.mp rest
  have kept := keeps_liftResult id
    (MissionCriticalDriver.ethernetType frame : Except (ProductionError ε) _) driver
  cases kept.symm.trans parsed.2
  obtain ⟨_, _, same, rest⟩ := returns_bind.mp rest
  cases same.1
  cases same.2
  split at rest
  · exact absurd rest not_returns_throw
  · obtain ⟨result, last, run, finish⟩ := returns_bind.mp rest
    obtain ⟨success, rfl⟩ := finishDriver_returns finish
    obtain ⟨same, kept⟩ := attempt_inner_returns run
    exact ⟨same.trans success, kept⟩

theorem withoutToken_refined {σ τ δ η : Type} {x : Program σ δ Unit} {y : Program τ η Unit}
    {s t : σ} {u v : τ} {value : SharedResult} (returns : Returns (withoutToken x) s value t)
    (refined : Returns x s () t → Returns y u () v) : Returns (withoutToken y) u value v := by
  obtain ⟨_, run, same⟩ := returns_map.mp returns
  exact returns_map.mpr ⟨(), refined run, same⟩

/-- A production success is a native success with the same result and the same driver
afterwards, exactly when the address was the announced one. -/
theorem production_refines_native_iff (operation : SharedOperation)
    (driver next : MissionCriticalDriver β rx tx) (value : SharedResult)
    (returns : Returns (operation.production : MissionCriticalDriver.Method β rx tx ε _)
      driver value next) :
    Returns (operation.native driver.inner.ifaceindex : Program _ (DriverError ε) _)
        driver.inner value next.inner ↔
      AddressChecked driver.inner operation := by
  cases operation with
  | createStationInterface mac name =>
      obtain ⟨_, run, none⟩ := returns_map.mp returns
      rw [native, withoutToken, returns_map]
      constructor
      · intro ⟨_, native, _⟩
        exact ((createStationInterface_returns_iff (runStationCommand_returns run).1).mp native).1
      · intro announced
        exact ⟨(), (createStationInterface_returns_iff (runStationCommand_returns run).1).mpr
          ⟨announced, runStationCommand_refined run⟩, none⟩
  | transmit wdevId frame dscpTos =>
      obtain ⟨token, run, same⟩ := returns_map.mp returns
      apply iff_of_true
      · exact returns_map.mpr ⟨token, transmit_refined run, same⟩
      · trivial
  | _ => exact iff_of_true (withoutToken_refined returns runStationCommand_refined) trivial

/-! ## An address that was never announced -/

/-- A driver after its system initialization, for the default interface of firmware. -/
def announcedDriver (mac : Octets 6) : MissionCriticalDriver WordBus 8 1 :=
  { inner :=
      { Wpa2System.securingDriver with
        station := StationController.new 1 0 0
        configuredMac := some mac } }

def announcedAddress : Octets 6 := sampleLocal

def otherAddress : Octets 6 := samplePeer

/-- The production driver creates the interface under any address. -/
def createdInterface (mac : Octets 6) : MissionCriticalDriver WordBus 8 1 :=
  stateAfter ((createStationInterface mac []).production :
    MissionCriticalDriver.Method WordBus 8 1 Empty _) (announcedDriver announcedAddress)

theorem createStationInterface_unchecked (mac : Octets 6) :
    Returns ((createStationInterface mac []).production :
        MissionCriticalDriver.Method WordBus 8 1 Empty _)
      (announcedDriver announcedAddress) none (createdInterface mac) := ⟨rfl, rfl⟩

theorem announced_address_refined :
    Returns ((createStationInterface announcedAddress []).native
          (announcedDriver announcedAddress).inner.ifaceindex :
        Program (NativeDriver WordBus 8 1) (DriverError Empty) _)
      (announcedDriver announcedAddress).inner none (createdInterface announcedAddress).inner :=
  (production_refines_native_iff (createStationInterface announcedAddress [])
    (announcedDriver announcedAddress) (createdInterface announcedAddress) none
    (createStationInterface_unchecked announcedAddress)).mpr rfl

/-- The production driver accepts an address that the native driver refuses. -/
theorem other_address_accepted :
    Returns ((createStationInterface otherAddress []).production :
        MissionCriticalDriver.Method WordBus 8 1 Empty _)
      (announcedDriver announcedAddress) none (createdInterface otherAddress) ∧
    ¬ Returns ((createStationInterface otherAddress []).native
          (announcedDriver announcedAddress).inner.ifaceindex :
        Program (NativeDriver WordBus 8 1) (DriverError Empty) _)
      (announcedDriver announcedAddress).inner none (createdInterface otherAddress).inner := by
  constructor
  · exact createStationInterface_unchecked otherAddress
  · intro native
    obtain ⟨_, run, _⟩ := returns_map.mp native
    have announced := ((createStationInterface_returns_iff rfl).mp run).1
    have same : announcedAddress = otherAddress := Option.some.inj announced
    exact absurd same (by decide)

end SharedOperation

end Nrf7002
