import Nrf7002.Data.Ethernet
import Nrf7002.Events.Checked

/-! # Indexing during a conversion

The conversion once more, with every index, range, sum and copy as the operation that may
stop the program.  It stops for an 802.11 frame without a frame control field, and ends as
the conversion does for every other packet. -/

set_option autoImplicit false

namespace Nrf7002
open Foundation

namespace Checked
open Foundation.Checked
variable {ε : Type}

/-! ## Copies -/

/-- `copy_from_slice` into an array, which has to have the length of its source. -/
def copied (width : Nat) (part : Bytes) : Checked ε (Octets width) :=
  if length : part.length = width then pure ⟨part, length⟩ else panicked

/-- `copy_from_slice` into a range. -/
def overwrite (frame : Bytes) (first last : Nat) (value : Bytes) : Checked ε Bytes :=
  if first ≤ last ∧ last ≤ frame.length ∧ value.length = last - first then
    pure (splice frame first value)
  else panicked

/-- `copy_within(source.., target)`. -/
def copyWithin (frame : Bytes) (source target : Nat) : Checked ε Bytes :=
  if source ≤ frame.length ∧ target + (frame.length - source) ≤ frame.length then
    pure (splice frame target (frame.drop source))
  else panicked

section Copies
variable {frame part value : Bytes} {first last source target width : Nat}

theorem safe_copied (length : part.length = width) :
    Safe (copied width part : Checked ε (Octets width)) (.ok ⟨part, length⟩) := by
  rw [copied, dif_pos length]
  exact safe_pure _

theorem safe_overwrite (order : first ≤ last) (inside : last ≤ frame.length)
    (length : value.length = last - first) :
    Safe (overwrite frame first last value : Checked ε Bytes) (.ok (splice frame first value)) := by
  rw [overwrite, if_pos ⟨order, inside, length⟩]
  exact safe_pure _

theorem safe_copyWithin (inside : source ≤ frame.length)
    (room : target + (frame.length - source) ≤ frame.length) :
    Safe (copyWithin frame source target : Checked ε Bytes)
      (.ok (splice frame target (frame.drop source))) := by
  rw [copyWithin, if_pos ⟨inside, room⟩]
  exact safe_pure _

end Copies

/-! ## The conversion -/

/-- A `u16` of the frame, indexed without a check. -/
def frameU16 (frame : Bytes) (offset : Nat) : Checked DataProtocolError UInt16 :=
  readU16 usizeLimit frame offset

def addressAt (frame : Bytes) (first : Nat) : Checked DataProtocolError (Octets 6) := do
  let last ← add usizeLimit first 6
  let part ← range frame first last
  copied 6 part

def fourAddressMapping (frame : Bytes) (destination : Octets 6) :
    Checked DataProtocolError Addresses :=
  if frame.length < 30 then throw .frameTooShort
  else do
    let source ← addressAt frame 24
    return (destination, source)

def ieee80211Addresses (frame : Bytes) (frameControl : UInt16) :
    Checked DataProtocolError Addresses :=
  if frame.length < 24 then throw .frameTooShort
  else do
    let address1 ← addressAt frame 4
    let address2 ← addressAt frame 10
    let address3 ← addressAt frame 16
    let toDs := frameControl &&& 0x0100 ≠ 0
    let fromDs := frameControl &&& 0x0200 ≠ 0
    if toDs ∧ fromDs then fourAddressMapping frame address3
    else return threeAddressMapping address1 address2 address3 toDs fromDs

def llcEtherType (frame : Bytes) (offset : Nat) : Checked DataProtocolError UInt16 := do
  let last ← addOr usizeLimit .invalidLength offset 8
  if frame.length < last then throw .frameTooShort
  else do
    let typed ← add usizeLimit offset 6
    let bytes ← bytesAt usizeLimit frame typed 2
    return UInt16.ofNat (beNat bytes)

/-- The length of the new frame, and the buffer that holds it. -/
def rebuildEthernet (frame : Bytes) (payloadOffset : Nat) (addresses : Addresses)
    (etherType : UInt16) : Checked DataProtocolError (Nat × Bytes) :=
  if frame.length < payloadOffset then throw .frameTooShort
  else do
    let newLen ← addOr usizeLimit .invalidLength ethernetHeaderLen (frame.length - payloadOffset)
    if frame.length < newLen then throw .frameTooLarge
    else do
      let moved ← copyWithin frame payloadOffset ethernetHeaderLen
      let addressed ← overwrite moved 0 6 addresses.1.1
      let answered ← overwrite addressed 6 12 addresses.2.1
      let typed ← overwrite answered 12 14 (be16 etherType)
      return (newLen, typed)

def convertMpdu (frame : Bytes) (macHeaderLen : Nat) : Checked DataProtocolError (Nat × Bytes) :=
  if macHeaderLen < 24 then throw .frameTooShort
  else do
    let frameControl ← frameU16 frame 0
    let addresses ← ieee80211Addresses frame frameControl
    let etherType ← llcEtherType frame macHeaderLen
    let payloadOffset ← addOr usizeLimit .invalidLength macHeaderLen (llcSkip etherType)
    rebuildEthernet frame payloadOffset addresses etherType

def convertMsdu (frame : Bytes) (macHeaderLen : Nat) : Checked DataProtocolError (Nat × Bytes) := do
  let headerEnd ← addOr usizeLimit .invalidLength macHeaderLen 14
  if frame.length < headerEnd then throw .frameTooShort
  else do
    let destination ← addressAt frame macHeaderLen
    let first ← add usizeLimit macHeaderLen 6
    let source ← addressAt frame first
    let etherType ← llcEtherType frame headerEnd
    let payloadOffset ← addOr usizeLimit .invalidLength headerEnd (llcSkip etherType)
    rebuildEthernet frame payloadOffset (destination, source) etherType

def convertToEthernet (payloadType : RxPayloadType) (macHeaderLen : Nat) (frame : Bytes) :
    Checked DataProtocolError (Nat × Bytes) :=
  match payloadType with
  | .mpdu => convertMpdu frame macHeaderLen
  | .msduWithMac => convertMsdu frame macHeaderLen
  | .msdu => convertMsdu frame 0

/-! ## No step stops -/

section Steps
variable {frame : Bytes}

theorem safe_addOffset (left right : Nat) :
    Safe (addOr usizeLimit DataProtocolError.invalidLength left right) (addOffset left right) := by
  rw [addOr, addOffset]
  apply safe_ite
  · intro _
    exact safe_pure _
  · intro _
    exact safe_throw _

theorem safe_addressAt {first : Nat} (inside : first + 6 ≤ frame.length)
    (small : first + 6 < usizeLimit) :
    Safe (addressAt frame first) (.ok (octetsAt frame first 6)) := by
  have length : (slice frame first (first + 6)).length = 6 := by
    rw [length_slice_of_le inside]
    omega
  have same : (⟨slice frame first (first + 6), length⟩ : Octets 6) = octetsAt frame first 6 :=
    Subtype.ext (octetsAt_eq_slice inside).symm
  apply Safe.then (safe_add small)
  apply Safe.then (safe_range (by omega) inside)
  rw [← same]
  exact safe_copied length

theorem safe_ieee80211Addresses (frameControl : UInt16) :
    Safe (ieee80211Addresses frame frameControl) (Nrf7002.ieee80211Addresses frame frameControl) := by
  have limit : usizeLimit = 2 ^ 32 := rfl
  apply safe_ite
  · intro _
    exact safe_throw _
  · intro long
    apply Safe.then (safe_addressAt (by omega) (by omega))
    apply Safe.then (safe_addressAt (by omega) (by omega))
    apply Safe.then (safe_addressAt (by omega) (by omega))
    apply safe_ite
    · intro _
      apply safe_ite
      · intro _
        exact safe_throw _
      · intro longer
        apply Safe.then (safe_addressAt (by omega) (by omega))
        exact safe_pure _
    · intro _
      exact safe_pure _

theorem safe_llcEtherType (offset : Nat) :
    Safe (llcEtherType frame offset) (Nrf7002.llcEtherType frame offset) := by
  apply Safe.bind (safe_addOffset offset 8)
  intro last sum
  obtain ⟨small, rfl⟩ := addOffset_eq_ok.mp sum
  apply safe_ite
  · intro _
    exact safe_throw _
  · intro long
    apply Safe.then (safe_add (by omega))
    apply Safe.then (safe_bytesAt (by omega) (by omega))
    exact safe_pure _

/-- Three overwrites side by side write the header. -/
theorem safe_written (payloadOffset : Nat) (addresses : Addresses) (etherType : UInt16)
    (inside : payloadOffset ≤ frame.length)
    (fits : ethernetHeaderLen + (frame.length - payloadOffset) ≤ frame.length) :
    Safe (do
        let moved ← copyWithin frame payloadOffset ethernetHeaderLen
        let addressed ← overwrite moved 0 6 addresses.1.1
        let answered ← overwrite addressed 6 12 addresses.2.1
        let typed ← overwrite answered 12 14 (be16 etherType)
        return (ethernetHeaderLen + (frame.length - payloadOffset), typed) :
          Checked DataProtocolError (Nat × Bytes))
      (.ok (ethernetHeaderLen + (frame.length - payloadOffset),
        splice (splice frame ethernetHeaderLen (frame.drop payloadOffset)) 0
          (addresses.1.1 ++ (addresses.2.1 ++ be16 etherType)))) := by
  have room : ethernetHeaderLen = 14 := rfl
  have six := addresses.1.2
  have twelve := addresses.2.2
  have two := length_be16 etherType
  have moved : (splice frame ethernetHeaderLen (frame.drop payloadOffset)).length =
      frame.length := by
    apply length_splice
    rw [List.length_drop]
    omega
  have addressed : (splice (splice frame ethernetHeaderLen (frame.drop payloadOffset)) 0
      addresses.1.1).length = frame.length := by
    rw [length_splice (by omega), moved]
  have answered : (splice (splice (splice frame ethernetHeaderLen (frame.drop payloadOffset)) 0
      addresses.1.1) 6 addresses.2.1).length = frame.length := by
    rw [length_splice (by omega), addressed]
  apply Safe.then (safe_copyWithin (by omega) (by omega))
  apply Safe.then (safe_overwrite (by omega) (by omega) (by omega))
  apply Safe.then (safe_overwrite (by omega) (by omega) (by omega))
  apply Safe.then (safe_overwrite (by omega) (by omega) (by omega))
  have header : (addresses.1.1 ++ addresses.2.1).length = 12 := by
    rw [List.length_append]
    omega
  rw [splice_splice addresses.2.1 (by omega) (by omega),
    splice_splice (be16 etherType) (by omega) (by omega), List.append_assoc]
  exact safe_pure _

theorem post_rebuildEthernet (payloadOffset : Nat) (addresses : Addresses) (etherType : UInt16) :
    Post (Nrf7002.rebuildEthernet payloadOffset addresses etherType) frame (fun r after =>
      Safe (rebuildEthernet frame payloadOffset addresses etherType)
        (r.map fun len => (len, after))) := by
  rw [Nrf7002.rebuildEthernet, rebuildEthernet, post_bind, post_get]
  dsimp only
  rw [post_ite]
  by_cases outside : frame.length < payloadOffset
  · rw [if_pos outside, if_pos outside, post_bind, post_throw]
    exact safe_throw _
  · rw [if_neg outside, if_neg outside, post_bind, post_liftResult]
    have step := safe_addOffset ethernetHeaderLen (frame.length - payloadOffset)
    cases sum : addOffset ethernetHeaderLen (frame.length - payloadOffset) with
    | error failure =>
        rw [sum] at step
        exact step.fails
    | ok newLen =>
        rw [sum] at step
        obtain ⟨_, rfl⟩ := addOffset_eq_ok.mp sum
        dsimp only
        rw [post_ite]
        by_cases large : frame.length < ethernetHeaderLen + (frame.length - payloadOffset)
        · rw [if_pos large, post_bind, post_throw]
          apply step.then
          rw [if_pos large]
          exact safe_throw _
        · rw [if_neg large, post_bind, post_set, post_pure]
          apply step.then
          rw [if_neg large]
          exact safe_written payloadOffset addresses etherType (by omega) (by omega)

theorem post_convertMsdu (macHeaderLen : Nat) :
    Post (Nrf7002.convertMsdu macHeaderLen) frame (fun r after =>
      Safe (convertMsdu frame macHeaderLen) (r.map fun len => (len, after))) := by
  rw [Nrf7002.convertMsdu, convertMsdu, post_bind, post_get]
  dsimp only
  rw [post_bind, post_liftResult]
  have step := safe_addOffset macHeaderLen 14
  cases ends : addOffset macHeaderLen 14 with
  | error failure =>
      rw [ends] at step
      exact step.fails
  | ok headerEnd =>
      rw [ends] at step
      obtain ⟨small, rfl⟩ := addOffset_eq_ok.mp ends
      dsimp only
      rw [post_ite]
      by_cases short : frame.length < macHeaderLen + 14
      · rw [if_pos short, post_bind, post_throw]
        apply step.then
        rw [if_pos short]
        exact safe_throw _
      · rw [if_neg short, post_bind, post_liftResult]
        have destination : Safe (addressAt frame macHeaderLen)
            (.ok (octetsAt frame macHeaderLen 6)) := safe_addressAt (by omega) (by omega)
        have source : Safe (addressAt frame (macHeaderLen + 6))
            (.ok (octetsAt frame (macHeaderLen + 6) 6)) := safe_addressAt (by omega) (by omega)
        have typed : Safe (llcEtherType frame (macHeaderLen + 14))
            (Nrf7002.llcEtherType frame (macHeaderLen + 14)) := safe_llcEtherType _
        cases found : Nrf7002.llcEtherType frame (macHeaderLen + 14) with
        | error failure =>
            rw [found] at typed
            apply step.then
            rw [if_neg short]
            apply destination.then
            apply Safe.then (safe_add (by omega))
            apply source.then
            exact typed.fails
        | ok etherType =>
            rw [found] at typed
            dsimp only
            rw [post_bind, post_liftResult]
            have offset := safe_addOffset (macHeaderLen + 14) (llcSkip etherType)
            cases sum : addOffset (macHeaderLen + 14) (llcSkip etherType) with
            | error failure =>
                rw [sum] at offset
                apply step.then
                rw [if_neg short]
                apply destination.then
                apply Safe.then (safe_add (by omega))
                apply source.then
                apply typed.then
                exact offset.fails
            | ok payloadOffset =>
                rw [sum] at offset
                dsimp only
                apply (post_rebuildEthernet payloadOffset _ etherType).mono
                intro r after rebuilt
                apply step.then
                rw [if_neg short]
                apply destination.then
                apply Safe.then (safe_add (by omega))
                apply source.then
                apply typed.then
                apply offset.then
                exact rebuilt

theorem post_convertMpdu (macHeaderLen : Nat)
    (present : 24 ≤ macHeaderLen → 2 ≤ frame.length) :
    Post (Nrf7002.convertMpdu macHeaderLen) frame (fun r after =>
      ∃ result, Safe (convertMpdu frame macHeaderLen) result ∧
        (r.map fun len => (len, after)) = result.mapError .protocol) := by
  rw [Nrf7002.convertMpdu, convertMpdu, post_bind, post_get]
  dsimp only
  rw [post_ite]
  by_cases short : macHeaderLen < 24
  · rw [if_pos short, if_pos short, post_bind, post_throw]
    exact ⟨_, safe_throw _, rfl⟩
  · have long := present (by omega)
    rw [if_neg short, if_neg short, post_bind, post_liftResult, Nrf7002.frameU16, if_pos long]
    dsimp only
    have control : Safe (frameU16 frame 0) (.ok (Nrf7002.readU16 frame 0)) :=
      (safe_bytesAt long (by decide)).then (safe_pure _)
    have named : Safe (ieee80211Addresses frame (Nrf7002.readU16 frame 0))
        (Nrf7002.ieee80211Addresses frame (Nrf7002.readU16 frame 0)) :=
      safe_ieee80211Addresses _
    rw [post_mapError, post_bind, post_liftResult]
    cases mapped : Nrf7002.ieee80211Addresses frame (Nrf7002.readU16 frame 0) with
    | error failure =>
        rw [mapped] at named
        exact ⟨_, control.then named.fails, rfl⟩
    | ok addresses =>
        rw [mapped] at named
        have typed : Safe (llcEtherType frame macHeaderLen)
            (Nrf7002.llcEtherType frame macHeaderLen) := safe_llcEtherType _
        dsimp only
        rw [post_bind, post_liftResult]
        cases found : Nrf7002.llcEtherType frame macHeaderLen with
        | error failure =>
            rw [found] at typed
            exact ⟨_, control.then (named.then typed.fails), rfl⟩
        | ok etherType =>
            rw [found] at typed
            have offset := safe_addOffset macHeaderLen (llcSkip etherType)
            dsimp only
            rw [post_bind, post_liftResult]
            cases sum : addOffset macHeaderLen (llcSkip etherType) with
            | error failure =>
                rw [sum] at offset
                exact ⟨_, control.then (named.then (typed.then offset.fails)), rfl⟩
            | ok payloadOffset =>
                rw [sum] at offset
                dsimp only
                apply (post_rebuildEthernet payloadOffset addresses etherType).mono
                intro r after rebuilt
                refine ⟨_, control.then (named.then (typed.then (offset.then rebuilt))), ?_⟩
                cases r with
                | error failure => rfl
                | ok len => rfl

/-- Unless the frame control field is missing, the conversion ends without a stop. -/
theorem post_convertToEthernet (payloadType : RxPayloadType) (macHeaderLen : Nat)
    (present : payloadType = .mpdu → 24 ≤ macHeaderLen → 2 ≤ frame.length) :
    Post (Nrf7002.convertToEthernet payloadType macHeaderLen) frame (fun r after =>
      ∃ result, Safe (convertToEthernet payloadType macHeaderLen frame) result ∧
        (r.map fun len => (len, after)) = result.mapError .protocol) := by
  cases payloadType with
  | mpdu => exact post_convertMpdu macHeaderLen (present rfl)
  | msduWithMac =>
      rw [Nrf7002.convertToEthernet, post_mapError]
      apply (post_convertMsdu macHeaderLen).mono
      intro r after converted
      refine ⟨_, converted, ?_⟩
      cases r with
      | error failure => rfl
      | ok len => rfl
  | msdu =>
      rw [Nrf7002.convertToEthernet, post_mapError]
      apply (post_convertMsdu 0).mono
      intro r after converted
      refine ⟨_, converted, ?_⟩
      cases r with
      | error failure => rfl
      | ok len => rfl

/-- The read of a frame control field that is missing stops the program. -/
theorem convertMpdu_stops {macHeaderLen : Nat} (long : 24 ≤ macHeaderLen)
    (missing : frame.length < 2) : (convertMpdu frame macHeaderLen).run = none := by
  have outside : ¬ macHeaderLen < 24 := by omega
  rw [convertMpdu, if_neg outside]
  match frame, missing with
  | [], _ => rfl
  | [value], _ => rfl

end Steps

end Checked

/-! ## Frames of every length -/

/-- A conversion does not stop the program, and refuses a frame that does not hold its
headers. -/
structure ConvertsSafely (payloadType : RxPayloadType) (macHeaderLen : Nat) (frame : Bytes) :
    Prop where
  runs : ∃ result, Safe (Checked.convertToEthernet payloadType macHeaderLen frame) result
  refuses : ¬ HoldsHeaders payloadType macHeaderLen frame → ∃ failure,
    Safe (Checked.convertToEthernet payloadType macHeaderLen frame) (.error failure)

theorem converts_safely_iff (payloadType : RxPayloadType) (macHeaderLen : Nat) (frame : Bytes) :
    ConvertsSafely payloadType macHeaderLen frame ↔
      ¬ (payloadType = .mpdu ∧ 24 ≤ macHeaderLen ∧ frame.length < 2) := by
  constructor
  · rintro safe ⟨rfl, long, missing⟩
    obtain ⟨result, runs⟩ := safe.runs
    have stops := Checked.convertMpdu_stops long missing
    have runs : (Checked.convertMpdu frame macHeaderLen).run = some result := runs
    rw [stops] at runs
    cases runs
  · intro whole
    have present : payloadType = .mpdu → 24 ≤ macHeaderLen → 2 ≤ frame.length := by
      intro mpdu long
      apply Nat.not_lt.mp
      intro missing
      exact whole ⟨mpdu, long, missing⟩
    obtain ⟨result, safe, same⟩ :=
      (Checked.post_convertToEthernet payloadType macHeaderLen present).ends
    refine ⟨⟨result, safe⟩, ?_⟩
    intro short
    have ends := (post_convertToEthernet payloadType macHeaderLen frame).ends
    cases converts : resultOf (convertToEthernet payloadType macHeaderLen) frame with
    | ok len =>
        rw [converts] at ends
        exact absurd ends.1 short
    | error failure =>
        rw [converts] at same
        cases result with
        | ok value => cases same
        | error failure => exact ⟨failure, safe⟩

/-- An empty packet with a MAC header length of 24. -/
theorem empty_mpdu_indexes_out_of_bounds : ¬ ConvertsSafely .mpdu 24 [] := by
  intro safe
  obtain ⟨result, runs⟩ := safe.runs
  cases runs

end Nrf7002
