import Nrf7002.Data.Run
import Nrf7002.Runtime.Advance
import Nrf7002.Station.Journal
import Nrf7002.Wpa2.Message4

/-! # What the driver and the coordinator leave in the journal

The driver adds the message that it read and the frame that it sent.  The coordinator adds
what its progress tells, and a call of it that fails adds nothing. -/

set_option autoImplicit false

namespace Nrf7002
open Foundation

namespace NativeDriver
variable {β ε α : Type} {rx tx : Nat}

/-! ## Operations that leave the device alone -/

section Device

/-- The program leaves the device alone. -/
abbrev KeepsDevice (x : Program (NativeDriver β rx tx) (DriverError ε) α) : Prop :=
  Keeps (·.device) x

theorem keepsDevice_recoverWith (failure : DriverError ε) :
    KeepsDevice (recoverWith failure : Program (NativeDriver β rx tx) (DriverError ε) α) :=
  Keeps.bind (keeps_modify _ _ fun _ => rfl) fun _ => keeps_throw _ _

theorem keepsDevice_requireState (required : DriverState) :
    KeepsDevice
      (requireState required : Program (NativeDriver β rx tx) (DriverError ε) Unit) :=
  (keeps_get _).bind fun _ => keeps_ite (fun _ => keeps_pure _ _) fun _ => keeps_throw _ _

theorem keepsDevice_requireControlledPort (etherType : UInt16) :
    KeepsDevice
      (requireControlledPort etherType : Program (NativeDriver β rx tx) (DriverError ε) Unit) :=
  (keeps_get _).bind fun _ => keeps_ite (fun _ => keeps_pure _ _) fun _ => keeps_throw _ _

theorem keepsDevice_orRecover (x : Program StationController (StationError ε) α) :
    KeepsDevice (orRecover x : Program (NativeDriver β rx tx) (DriverError ε) α) := by
  refine Keeps.bind (Keeps.attempt (keeps_onField _ fun _ _ => rfl)) fun r => ?_
  cases r with
  | ok value => exact keeps_pure _ _
  | error failure => exact keepsDevice_recoverWith _

theorem keepsDevice_applySystemEvent (event : SystemEvent) :
    KeepsDevice (applySystemEvent event : Program (NativeDriver β rx tx) (DriverError ε) Unit) := by
  cases event with
  | initDone =>
      rw [KeepsDevice, keeps_iff_post]
      intro driver
      simp only [applySystemEvent, post_bind, post_get, post_ite]
      split
      · rw [post_set]
      · exact (keepsDevice_recoverWith _).post driver
  | deinitDone => exact (keeps_get _).bind fun _ => keepsDevice_recoverWith _
  | powerData body => exact keeps_pure _ _
  | statistics body => exact keeps_pure _ _
  | other id body => exact keeps_pure _ _

theorem keepsDevice_dispatchDataMessage (message : HostMessage) :
    KeepsDevice (dispatchDataMessage message :
      Program (NativeDriver β rx tx) (DriverError ε) DriverEvent) := by
  have station (event : DataEvent) : KeepsDevice (dispatchStationData event :
      Program (NativeDriver β rx tx) (DriverError ε) DriverEvent) :=
    (keepsDevice_orRecover _).bind fun _ => keeps_pure _ _
  refine (keepsDevice_requireState _).bind fun _ => (keeps_liftResult _ _).bind fun event => ?_
  cases event with
  | transmitDone token statusCount =>
      refine (keeps_liftResult _ _).bind fun _ => Keeps.bind ?_ fun _ => keeps_pure _ _
      exact keeps_onField _ fun _ _ => rfl
  | receive => exact (keeps_liftResult _ _).bind fun _ => keeps_pure _ _
  | carrierOn wdevId => exact station _
  | carrierOff wdevId => exact station _
  | other command => exact station _

theorem keepsDevice_dispatchMessage (message : HostMessage) :
    KeepsDevice (dispatchMessage message :
      Program (NativeDriver β rx tx) (DriverError ε) DriverEvent) := by
  rw [dispatchMessage]
  cases message.messageType with
  | system =>
      exact (keeps_liftResult _ _).bind fun _ =>
        (keepsDevice_applySystemEvent _).bind fun _ => keeps_pure _ _
  | umac =>
      exact (keepsDevice_requireState _).bind fun _ => (keeps_liftResult _ _).bind fun _ =>
        (keepsDevice_orRecover _).bind fun _ => keeps_pure _ _
  | data => exact keepsDevice_dispatchDataMessage message
  | supplicant => exact (keepsDevice_requireState _).bind fun _ => keeps_pure _ _

end Device

/-! ## Events -/

section Events

/-- The event is what the message says, where the coordinator looks at it. -/
def Reads (message : HostMessage) : DriverEvent → Prop
  | .control event => parseControlEvent message = .ok event
  | .transmitDone event => TxDoneEvent.parse message = .ok event
  | _ => True

theorem dispatchMessage_reads (message : HostMessage) :
    Yields (Reads message) (dispatchMessage message :
      Program (NativeDriver β rx tx) (DriverError ε) DriverEvent) := by
  rw [dispatchMessage]
  cases message.messageType with
  | system => exact yields_bind fun _ => yields_bind fun _ => yields_pure trivial
  | umac =>
      apply yields_bind
      intro _
      refine Yields.bind (yields_liftResult fun event parsed => parsed) fun event parsed => ?_
      apply yields_bind
      intro _
      exact yields_pure (mapError_eq_ok.mp parsed)
  | data =>
      apply yields_bind
      intro _
      apply yields_bind
      intro event
      cases event with
      | transmitDone token statusCount =>
          refine Yields.bind (yields_liftResult fun event parsed => parsed) fun event parsed => ?_
          apply yields_bind
          intro _
          exact yields_pure (mapError_eq_ok.mp parsed)
      | receive => exact yields_bind fun _ => yields_pure trivial
      | carrierOn wdevId => exact yields_bind fun _ => yields_pure trivial
      | carrierOff wdevId => exact yields_bind fun _ => yields_pure trivial
      | other command => exact yields_bind fun _ => yields_pure trivial
  | supplicant => exact yields_bind fun _ => yields_pure trivial

/-- Nothing is read, or one message is; an event that is returned is read from it. -/
def Received {δ : Type} (r : Except δ (Option DriverEvent)) (before after : List Crossing) : Prop :=
  after = before ∧ (∀ event, r ≠ .ok (some event)) ∨
    ∃ message, after = before ++ [.received message] ∧
      ∀ event, r = .ok (some event) → Reads message event

theorem pollEvent_received [Bus β ε] (scratchAddress : Nat) (driver : NativeDriver β rx tx)
    (scratch : Bytes) :
    Post (pollEvent scratchAddress) (driver, scratch)
      (fun r s => Received r driver.device.journal s.1.device.journal) := by
  rw [pollEvent, post_bind, post_get]
  dsimp only
  rw [post_ite]
  by_cases required : driver.device.recoveryRequired = true
  · rw [if_pos required, besideBuffer, post_onField, post_recoverWith]
    exact .inl ⟨rfl, fun _ same => by cases same⟩
  · rw [if_neg required, post_bind, post_onField, post_mapError]
    refine (Device.journal_tryReadEvent scratchAddress (driver.device, scratch)).mono ?_
    intro r part told
    cases r with
    | error failure => exact .inl ⟨told, fun _ same => by cases same⟩
    | ok message =>
        cases message with
        | none => exact (post_pure _ _ _).mpr (.inl ⟨told, fun _ same => by cases same⟩)
        | some message =>
            change Post (some <$> _) _ _
            rw [post_map, besideBuffer, post_onField]
            refine (((keepsDevice_dispatchMessage message).post { driver with device := part.1 }).and
              (dispatchMessage_reads message { driver with device := part.1 })).mono ?_
            rintro r next ⟨kept, reads⟩
            refine .inr ⟨message, (congrArg Device.journal kept).trans told, ?_⟩
            intro event same
            obtain ⟨found, returned, mapped⟩ := map_eq_ok.mp same
            rw [← Option.some.inj mapped]
            exact reads found returned

end Events

/-! ## Frames -/

section Frames
variable [Bus β ε]

theorem keeps_journal_receivePacket (event : RxEvent) (packetIndex : Nat) :
    Keeps (fun s : NativeDriver β rx tx × Bytes => s.1.device.journal)
      (receivePacket event packetIndex :
        Program (NativeDriver β rx tx × Bytes) (DriverError ε) ReceivedFrame) := by
  apply Keeps.bind
  · rw [keeps_iff_post]
    intro s
    rw [post_onField, post_mapError]
    exact (DataLink.ignoresTransfers_journal.receivePacket event packetIndex).post (s.1.link, s.2)
  · intro frame
    have validate : KeepsDevice (validateReceivedFrame event frame :
        Program (NativeDriver β rx tx) (DriverError ε) ReceivedFrame) :=
      (keeps_get _).bind fun _ => keeps_ite (fun _ => keepsDevice_recoverWith _) fun _ =>
        (keepsDevice_requireControlledPort _).bind fun _ => keeps_pure _ _
    have journal : Keeps (fun driver : NativeDriver β rx tx => driver.device.journal)
        (validateReceivedFrame event frame :
          Program (NativeDriver β rx tx) (DriverError ε) ReceivedFrame) :=
      fun driver => congrArg Device.journal (validate driver)
    exact keeps_besideBuffer journal

theorem transmit_journal (wdevId : UInt8) (frame : Bytes) (dscpTos : UInt16)
    (driver : NativeDriver β rx tx) :
    Post (transmit wdevId frame dscpTos) driver (fun r next =>
      Device.Adds (fun token added => added = [.transmitted token.toNat frame]) r
        driver.device.journal next.device.journal) := by
  rw [transmit, post_bind, post_get]
  dsimp only
  rw [post_ite]
  split
  · exact (post_throw _ _ _).mpr rfl
  · cases ethernetType frame with
    | none => exact (post_throw _ _ _).mpr rfl
    | some etherType =>
        dsimp only
        rw [post_bind, post_requireControlledPort]
        split
        · dsimp only
          rw [onLink, post_onField, post_mapError]
          refine (DataLink.journal_transmit wdevId frame dscpTos driver.link).mono ?_
          intro r link told
          cases r with
          | error failure => exact told
          | ok token => exact told
        · rfl

end Frames

end NativeDriver

/-! ## Response frames -/

section Responses
variable (runtime : Wpa2Runtime) (response : EapolTxFrame)

theorem Wpa2Runtime.length_ethernetFrame :
    (runtime.ethernetFrame response).length = eapolEthernetHeaderLen + response.bytes.length := by
  rw [ethernetFrame, List.length_append, List.length_append, List.length_append, length_be16,
    response.peer.2, runtime.localAddress.2, ← Nat.add_assoc, ← Nat.add_assoc]
  rfl

theorem Wpa2Runtime.drop_ethernetFrame :
    (runtime.ethernetFrame response).drop eapolEthernetHeaderLen = response.bytes := by
  have header : (response.peer.1 ++ (runtime.localAddress.1 ++ be16 eapolEthertype)).length =
      eapolEthernetHeaderLen := by
    rw [List.length_append, List.length_append, length_be16, response.peer.2,
      runtime.localAddress.2]
    rfl
  have split : runtime.ethernetFrame response =
      (response.peer.1 ++ (runtime.localAddress.1 ++ be16 eapolEthertype)) ++ response.bytes := by
    rw [ethernetFrame, List.append_assoc, List.append_assoc]
  rw [split, ← header]
  exact List.drop_left

theorem Wpa2Runtime.ethernetType_ethernetFrame :
    Nrf7002.ethernetType (runtime.ethernetFrame response) = some eapolEthertype := by
  have long : ¬ (runtime.ethernetFrame response).length < ethernetHeaderLen := by
    rw [length_ethernetFrame]
    exact Nat.not_lt.mpr (Nat.le_add_right _ _)
  have addresses : (response.peer.1 ++ runtime.localAddress.1).length = 12 := by
    rw [List.length_append, response.peer.2, runtime.localAddress.2]
  have typed : slice (runtime.ethernetFrame response) 12 (12 + 2) = be16 eapolEthertype := by
    rw [ethernetFrame, ← List.append_assoc]
    exact slice_middle addresses.symm (by rw [addresses, length_be16])
  rw [Nrf7002.ethernetType, if_neg long, readBeU16, typed, ofNat_beNat_be16]

end Responses

/-- Firmware was given the frame under its token, and its payload is Message 4. -/
def Crossing.CarriesMessage4 (token : UInt8) : Crossing → Prop
  | transmitted number frame =>
      number = token.toNat ∧ ethernetType frame = some eapolEthertype ∧
        EapolKeyMessage.pairwiseMessage4.IsIn (frame.drop eapolEthernetHeaderLen)
  | _ => False

/-! ## Calls of the coordinator -/

namespace KeySubmission

/-- The request that the submission delivers. -/
def request : KeySubmission → StationMessage → Prop
  | .pairwise => StationMessage.NewKey .pairwise
  | .initialGroup | .rekeyGroup => StationMessage.NewKey .group
  | .initialDefaultGroup | .rekeyDefaultGroup => StationMessage.DefaultGroupKey

end KeySubmission

namespace Wpa2Runtime
variable {β ε α δ : Type} {rx tx : Nat}

/-- The stored request for the pairwise keys answers with a Message 4. -/
def AnswersStored (runtime : Wpa2Runtime) : Prop :=
  ∀ request, runtime.pairwiseInstall = some request →
    EapolKeyMessage.pairwiseMessage4.IsIn request.response.bytes

/-- What a call that makes the progress adds to the journal. -/
def Told (before : Wpa2Runtime) : Wpa2Progress → Wpa2Runtime → List Crossing → Prop
  | .pairwiseKeySubmitted, after, added =>
      Crossing.Submitted (StationMessage.NewKey .pairwise) added ∧ after.AnswersStored
  | .groupKeySubmitted, _, added => Crossing.Submitted (StationMessage.NewKey .group) added
  | .defaultGroupKeySubmitted, _, added => Crossing.Submitted StationMessage.DefaultGroupKey added
  | .authorizationSubmitted, _, added => Crossing.Submitted StationMessage.Authorization added
  | .eapolSubmitted token purpose, _, added => ∃ frame, added = [.transmitted token.toNat frame] ∧
      (purpose = .message4 → before.AnswersStored →
        Crossing.CarriesMessage4 token (.transmitted token.toNat frame))
  | _, _, added => added = []

/-- A part of a call that succeeds adds what its value tells, and one that fails nothing. -/
def Tells (s : Wpa2System β rx tx) (Added : α → Wpa2Runtime → List Crossing → Prop)
    (x : Method β rx tx ε α) : Prop :=
  Post x s (fun r t => Device.Adds (fun value added => Added value t.runtime added) r
    s.driver.device.journal t.driver.device.journal)

section Rules
variable {s : Wpa2System β rx tx} {Added : α → Wpa2Runtime → List Crossing → Prop}

theorem tells_pure {value : α} (holds : Added value s.runtime []) :
    Tells s Added (pure value : Method β rx tx ε α) := by
  rw [Tells, post_pure]
  exact ⟨[], holds, (List.append_nil _).symm⟩

theorem tells_throw (failure : Wpa2RuntimeError ε) :
    Tells s Added (throw failure : Method β rx tx ε α) := by
  rw [Tells, post_throw]
  rfl

theorem tells_fail (failure : Wpa2RuntimeError ε) :
    Tells s Added (fail failure : Method β rx tx ε α) := by
  rw [Tells, post_fail]
  rfl

theorem tells_get {rest : Wpa2System β rx tx → Method β rx tx ε α} (tells : Tells s Added (rest s)) :
    Tells s Added (get >>= rest) := by
  rw [Tells, post_bind, post_get]
  exact tells

theorem tells_ite {p : Prop} [Decidable p] {x y : Method β rx tx ε α} (left : p → Tells s Added x)
    (right : ¬ p → Tells s Added y) : Tells s Added (if p then x else y) := by
  by_cases holds : p
  · rw [if_pos holds]
    exact left holds
  · rw [if_neg holds]
    exact right holds

theorem tells_liftResult {γ : Type} {r : Except (Wpa2RuntimeError ε) γ}
    {rest : γ → Method β rx tx ε α} (tells : ∀ value, r = .ok value → Tells s Added (rest value)) :
    Tells s Added (liftResult r >>= rest) := by
  rw [Tells, post_bind, post_liftResult]
  cases r with
  | error failure => rfl
  | ok value => exact tells value rfl

theorem tells_modifyRuntime {f : Wpa2Runtime → Wpa2Runtime} {rest : PUnit → Method β rx tx ε α}
    (tells : Tells { s with runtime := f s.runtime } Added (rest ⟨⟩)) :
    Tells s Added (onRuntime (modify f) >>= rest) := by
  rw [Tells, post_bind, onRuntime, post_onField, post_modify]
  exact tells

theorem tells_enter {state : Wpa2RuntimeState} {value : α}
    (holds : Added value (s.runtime.transition state) []) :
    Tells s Added (do enter state; return value : Method β rx tx ε α) :=
  tells_modifyRuntime (tells_pure holds)

/-- A check that stops the call adds nothing. -/
theorem tells_checked {γ : Type} {r : Except (Wpa2RuntimeError ε) γ}
    {rest : γ → Method β rx tx ε α} (tells : ∀ value, r = .ok value → Tells s Added (rest value)) :
    Tells s Added (orFail (liftResult r) >>= rest) := by
  rw [Tells, post_bind, post_orFail, post_liftResult]
  cases r with
  | error failure => rfl
  | ok value => exact tells value rfl

/-- What follows a part of a call adds nothing more. -/
theorem Tells.then_enter {Part : Unit → Wpa2Runtime → List Crossing → Prop}
    {x : Method β rx tx ε Unit} (tells : Tells s Part x) {state : Wpa2RuntimeState} {value : α}
    (holds : ∀ runtime added, Part () runtime added →
      Added value (runtime.transition state) added) :
    Tells s Added (do x; enter state; return value : Method β rx tx ε α) := by
  rw [Tells, post_bind]
  refine tells.mono ?_
  intro r t told
  cases r with
  | error failure => exact told
  | ok done =>
      obtain ⟨added, part, told⟩ := told
      dsimp only
      rw [post_bind, post_enter, post_pure]
      exact ⟨added, holds t.runtime added part, told⟩

theorem Tells.orFail {x : Method β rx tx ε α} (tells : Tells s Added x) :
    Tells s Added (orFail x) := by
  rw [Tells, post_orFail]
  refine tells.mono ?_
  intro r t told
  cases r with
  | ok value => exact told
  | error failure => exact told

theorem Tells.weaken {x : Method β rx tx ε α} {Weaker : α → Wpa2Runtime → List Crossing → Prop}
    (tells : Tells s Added x)
    (weaker : ∀ value runtime added, Added value runtime added → Weaker value runtime added) :
    Tells s Weaker x := by
  refine Post.mono tells ?_
  intro r t told
  cases r with
  | error failure => exact told
  | ok value =>
      obtain ⟨added, holds, told⟩ := told
      exact ⟨added, weaker value t.runtime added holds, told⟩

end Rules

/-! ### Submissions -/

section Submissions

theorem tells_onSecurityParts {kind : StationMessage → Prop}
    {x : StationController.Command β ε Unit} [Bus β ε] (sends : StationController.Sends kind x)
    (s : Wpa2System β rx tx) :
    Tells s (fun _ runtime added => runtime = s.runtime ∧ Crossing.Submitted kind added)
      (onSecurityParts x) := by
  rw [Tells, onSecurityParts, post_onField, post_mapError, NativeDriver.onSecurityParts,
    post_onField]
  refine (sends s.driver.station s.driver.device).mono ?_
  intro r parts told
  cases r with
  | error failure => exact told
  | ok done =>
      obtain ⟨added, submitted, told⟩ := told
      exact ⟨added, ⟨rfl, submitted⟩, told⟩

variable [Bus β ε]

omit [Bus β ε] in
/-- The key that is chosen is one of the kind that the submission delivers. -/
theorem submissionKey_kind {runtime : Wpa2Runtime} {submission : KeySubmission} {key : KeyConfig}
    (chosen : (runtime.submissionKey submission : Except (Wpa2RuntimeError ε) KeyConfig) = .ok key) :
    if submission.isDefault then StationMessage.DefaultGroupKey (.setKey key)
    else submission.request = StationMessage.NewKey key.keyType := by
  cases submission with
  | pairwise =>
      cases stored : runtime.pairwiseInstall with
      | none => simp [submissionKey, stored] at chosen
      | some request =>
          obtain rfl : request.pairwise.keyConfig = key := by
            simpa [submissionKey, stored] using chosen
          rfl
  | initialGroup =>
      cases stored : runtime.pairwiseInstall with
      | none => simp [submissionKey, stored] at chosen
      | some request =>
          obtain rfl : request.group.keyConfig = key := by
            simpa [submissionKey, stored] using chosen
          rfl
  | initialDefaultGroup =>
      cases stored : runtime.pairwiseInstall with
      | none => simp [submissionKey, stored] at chosen
      | some request =>
          obtain rfl : request.group.defaultKeyConfig = key := by
            simpa [submissionKey, stored] using chosen
          exact ⟨rfl, rfl⟩
  | rekeyGroup =>
      cases stored : runtime.groupInstall with
      | none => simp [submissionKey, stored] at chosen
      | some request =>
          obtain rfl : request.group.keyConfig = key := by
            simpa [submissionKey, stored] using chosen
          rfl
  | rekeyDefaultGroup =>
      cases stored : runtime.groupInstall with
      | none => simp [submissionKey, stored] at chosen
      | some request =>
          obtain rfl : request.group.defaultKeyConfig = key := by
            simpa [submissionKey, stored] using chosen
          exact ⟨rfl, rfl⟩

theorem tells_submitFirmwareKey {runtime : Wpa2Runtime} {submission : KeySubmission}
    {key : KeyConfig}
    (chosen : (runtime.submissionKey submission : Except (Wpa2RuntimeError ε) KeyConfig) = .ok key)
    (s : Wpa2System β rx tx) :
    Tells s (fun _ runtime added =>
        runtime = s.runtime ∧ Crossing.Submitted submission.request added)
      (submitFirmwareKey key submission.isDefault : Method β rx tx ε Unit) := by
  have kind := submissionKey_kind chosen
  rw [submitFirmwareKey]
  cases default : submission.isDefault with
  | true =>
      rw [default] at kind
      have request : submission.request = StationMessage.DefaultGroupKey := by
        cases submission with
        | initialDefaultGroup => rfl
        | rekeyDefaultGroup => rfl
        | _ => cases default
      rw [request]
      exact tells_onSecurityParts (StationController.sends_setKey kind) s
  | false =>
      rw [default] at kind
      rw [show submission.request = StationMessage.NewKey key.keyType from kind]
      exact tells_onSecurityParts (StationController.sends_keyCommand key) s

theorem tells_submitKey (submission : KeySubmission) (s : Wpa2System β rx tx) :
    Tells s (fun progress runtime added => progress = submission.progress ∧
        runtime = s.runtime.transition submission.nextState ∧
          Crossing.Submitted submission.request added)
      (submitKey submission : Method β rx tx ε Wpa2Progress) := by
  apply tells_get
  apply tells_liftResult
  intro key chosen
  refine (tells_submitFirmwareKey chosen s).then_enter ?_
  rintro _ added ⟨rfl, submitted⟩
  exact ⟨rfl, rfl, submitted⟩

theorem tells_submitEapol (response : EapolTxFrame) (purpose : EapolTransmitPurpose)
    (s : Wpa2System β rx tx) :
    Tells s (fun progress _ added => ∃ token, progress = .eapolSubmitted token purpose ∧
        added = [.transmitted token.toNat (s.runtime.ethernetFrame response)])
      (submitEapol response purpose : Method β rx tx ε Wpa2Progress) := by
  apply tells_get
  apply tells_ite
  · exact fun _ => tells_throw _
  · intro room
    have whole : (splice s.runtime.frame 0 (s.runtime.ethernetFrame response)).take
        (eapolEthernetHeaderLen + response.bytes.length) = s.runtime.ethernetFrame response := by
      have length := length_ethernetFrame s.runtime response
      have written := @take_splice s.runtime.frame (s.runtime.ethernetFrame response) 0 (by omega)
      rwa [length, Nat.zero_add, List.take_zero, List.nil_append] at written
    apply tells_modifyRuntime
    rw [Tells, post_bind, onDriver, post_onField, post_mapError]
    refine (NativeDriver.transmit_journal _ _ 0 s.driver).mono ?_
    intro r driver told
    cases r with
    | error failure => exact told
    | ok token =>
        obtain ⟨added, rfl, told⟩ := told
        dsimp only [Except.mapError]
        rw [post_bind, post_enter, post_pure]
        rw [whole] at told
        exact ⟨_, ⟨token, rfl, rfl⟩, told⟩

end Submissions

/-! ### The calls -/

section Calls
variable [Bus β ε] (before : Wpa2Runtime) (s : Wpa2System β rx tx)

theorem tells_key (submission : KeySubmission)
    (stored : submission = .pairwise → s.runtime.AnswersStored) :
    Tells s (Told before) (submitKey submission : Method β rx tx ε Wpa2Progress) := by
  refine (tells_submitKey submission s).weaken ?_
  rintro _ _ added ⟨rfl, rfl, submitted⟩
  cases submission with
  | pairwise => exact ⟨submitted, stored rfl⟩
  | initialGroup => exact submitted
  | initialDefaultGroup => exact submitted
  | rekeyGroup => exact submitted
  | rekeyDefaultGroup => exact submitted

theorem tells_response (response : EapolTxFrame) (purpose : EapolTransmitPurpose)
    (answers : purpose = .message4 → before.AnswersStored →
      EapolKeyMessage.pairwiseMessage4.IsIn response.bytes) :
    Tells s (Told before) (submitEapol response purpose : Method β rx tx ε Wpa2Progress) := by
  refine (tells_submitEapol response purpose s).weaken ?_
  rintro _ _ _ ⟨token, rfl, rfl⟩
  refine ⟨_, rfl, fun last stored => ⟨rfl, ethernetType_ethernetFrame s.runtime response, ?_⟩⟩
  rw [drop_ethernetFrame]
  exact answers last stored

theorem tells_dispatchWpa2Action (action : Wpa2Action) (wasComplete : Bool)
    (answers : Wpa2Supplicant.AnswersKeys action) :
    Tells s (Told before) (dispatchWpa2Action action wasComplete : Method β rx tx ε Wpa2Progress) := by
  cases action with
  | none => exact tells_pure rfl
  | transmit response =>
      apply tells_response
      intro last
      cases wasComplete <;> cases last
  | installKeys request =>
      apply tells_get
      apply tells_ite
      · exact fun _ => tells_throw _
      · intro _
        apply tells_modifyRuntime
        apply tells_key
        intro _ other stored
        rw [← Option.some.inj stored]
        exact answers
  | installGroupKey request =>
      apply tells_get
      apply tells_ite
      · exact fun _ => tells_throw _
      · intro _
        apply tells_modifyRuntime
        apply tells_key
        intro same
        cases same

theorem tells_onEthernetFrame (crypto : Wpa2Crypto) (frame : Bytes) :
    Tells s (Told s.runtime) (onEthernetFrame crypto frame : Method β rx tx ε Wpa2Progress) := by
  apply tells_get
  apply tells_checked
  intro payload _
  apply tells_checked
  intro pending _
  cases pending with
  | some progress =>
      rename_i allowed
      have idle : progress = .noChange := by
        rw [pendingInput] at allowed
        split at allowed
        · cases allowed
        · split at allowed
          · exact (Option.some.inj (Except.ok.inj allowed)).symm
          · cases allowed
      rw [idle]
      exact tells_pure rfl
  | none =>
      dsimp only
      rw [Tells, post_bind, post_orFail, onRuntime, post_onField, post_mapError, onSupplicant,
        post_onField]
      refine (Wpa2Supplicant.onEapol_yields crypto _ payload s.runtime.supplicant).mono ?_
      intro r supplicant answers
      cases r with
      | error failure => rfl
      | ok action =>
          exact tells_modifyRuntime
            (tells_dispatchWpa2Action s.runtime _ action _ (answers action rfl)).orFail

omit [Bus β ε] in
theorem tells_refreshCarrier :
    Tells s (Told before) (refreshCarrier : Method β rx tx ε Wpa2Progress) := by
  apply tells_get
  apply tells_ite
  · exact fun _ => tells_enter rfl
  · exact fun _ => tells_pure rfl

theorem tells_advanceKey (command : UInt32) {submission : KeySubmission}
    (later : submission ≠ .pairwise) :
    Tells s (Told before) (advanceKey command submission : Method β rx tx ε Wpa2Progress) := by
  apply tells_liftResult
  intro _ _
  apply tells_key
  intro first
  exact absurd first later

theorem tells_completeKeyInstall (command : UInt32) (completion : KeyInstallCompletion) :
    Tells s (Told s.runtime)
      (completeKeyInstall command completion : Method β rx tx ε Wpa2Progress) := by
  apply tells_liftResult
  intro _ _
  rw [Tells, post_bind, onRuntime, post_onField]
  refine (post_finishKeyInstall completion s.runtime).mono ?_
  intro r runtime finishes
  cases r with
  | error failure => rfl
  | ok response =>
      apply tells_response s.runtime { s with runtime }
      intro last stored
      cases completion with
      | rekey => cases last
      | initial =>
          obtain ⟨request, _, kept, _, rfl, _⟩ := finishes
          exact stored request kept

theorem tells_dispatchCommandStatus (command : UInt32) :
    Tells s (Told s.runtime) (dispatchCommandStatus command : Method β rx tx ε Wpa2Progress) := by
  have initial : Tells s (Told s.runtime)
      (handleInitialKeyStatus command : Method β rx tx ε Wpa2Progress) := by
    apply tells_get
    cases s.runtime.state with
    | awaitingPairwiseKeyStatus => exact tells_advanceKey _ s command (by simp)
    | awaitingGroupKeyStatus => exact tells_advanceKey _ s command (by simp)
    | awaitingDefaultGroupKeyStatus => exact tells_completeKeyInstall s command _
    | _ => exact tells_throw _
  have rekey : Tells s (Told s.runtime)
      (handleRekeyStatus command : Method β rx tx ε Wpa2Progress) := by
    apply tells_get
    cases s.runtime.state with
    | awaitingGroupRekeyStatus => exact tells_advanceKey _ s command (by simp)
    | awaitingDefaultGroupRekeyStatus => exact tells_completeKeyInstall s command _
    | _ => exact tells_throw _
  have authorization : Tells s (Told s.runtime)
      (handleAuthorizationStatus command : Method β rx tx ε Wpa2Progress) := by
    apply tells_liftResult
    intro _ _
    apply tells_get
    apply tells_ite
    · exact fun _ => tells_enter rfl
    · exact fun _ => tells_enter rfl
  apply tells_get
  cases s.runtime.state with
  | awaitingPairwiseKeyStatus => exact initial
  | awaitingGroupKeyStatus => exact initial
  | awaitingDefaultGroupKeyStatus => exact initial
  | awaitingAuthorizationStatus => exact authorization
  | awaitingGroupRekeyStatus => exact rekey
  | awaitingDefaultGroupRekeyStatus => exact rekey
  | _ => exact tells_throw _

theorem tells_onControlEvent (event : ControlEvent) :
    Tells s (Told s.runtime) (onControlEvent event : Method β rx tx ε Wpa2Progress) := by
  cases event with
  | commandStatus header command status =>
      apply tells_ite
      · exact fun _ => tells_fail _
      · exact fun _ => (tells_dispatchCommandStatus s command).orFail
  | _ => exact tells_refreshCarrier s.runtime s

theorem tells_dispatchTransmitPurpose (purpose : EapolTransmitPurpose) :
    Tells s (Told before) (dispatchTransmitPurpose purpose : Method β rx tx ε Wpa2Progress) := by
  cases purpose with
  | message2 => exact tells_enter rfl
  | message4 =>
      refine (tells_onSecurityParts StationController.sends_authorize s).then_enter ?_
      rintro _ added ⟨rfl, submitted⟩
      exact submitted
  | groupMessage2 =>
      rw [dispatchTransmitPurpose, completeGroupRekey, Tells, post_bind, post_onField, post_modify]
      dsimp only
      rw [post_bind, post_get]
      dsimp only
      rw [post_ite]
      split
      · exact (post_throw _ _ _).mpr rfl
      · rw [post_bind, post_enter, post_pure]
        exact ⟨[], rfl, (List.append_nil _).symm⟩
  | retransmission => exact tells_enter rfl

theorem tells_onTransmitDone (event : TxDoneEvent) :
    Tells s (Told s.runtime) (onTransmitDone event : Method β rx tx ε Wpa2Progress) := by
  apply tells_get
  apply tells_checked
  intro completed _
  cases completed with
  | none => exact tells_pure rfl
  | some purpose => exact (tells_dispatchTransmitPurpose s.runtime s purpose).orFail

omit [Bus β ε] in
theorem tells_advanceTime (elapsedMs : UInt32) :
    Tells s (fun _ _ added => added = []) (advanceTime elapsedMs : Method β rx tx ε Unit) := by
  apply tells_get
  cases s.runtime.remainingMs with
  | none => exact tells_pure rfl
  | some remaining =>
      apply tells_ite
      · intro _
        rw [Tells, post_set]
        exact ⟨[], rfl, (List.append_nil _).symm⟩
      · exact fun _ => tells_fail _

/-- Every call of the coordinator adds what its progress tells. -/
theorem perform_tells (crypto : Wpa2Crypto) (call : Wpa2Call) :
    Tells s (Told s.runtime) (perform crypto call : Method β rx tx ε Wpa2Progress) := by
  cases call with
  | ethernetFrame frame => exact tells_onEthernetFrame s crypto frame
  | controlEvent event => exact tells_onControlEvent s event
  | transmitDone event => exact tells_onTransmitDone s event
  | refreshCarrier => exact tells_refreshCarrier s.runtime s
  | advanceTime elapsedMs =>
      rw [perform, Tells, post_bind]
      refine Post.mono (tells_advanceTime s elapsedMs) ?_
      intro r t told
      cases r with
      | error failure => exact told
      | ok done =>
          rw [post_pure]
          exact told

end Calls

end Wpa2Runtime

end Nrf7002
