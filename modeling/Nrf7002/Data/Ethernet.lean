import Nrf7002.Data.Convert
import Mathlib.Data.Nat.Bitwise

/-! # What a conversion leaves

A conversion that succeeds has written the Ethernet header in front of the payload, which
it moved within its own buffer; one that fails has written nothing.  The addresses are
those that the To-DS and From-DS bits name. -/

set_option autoImplicit false

namespace Nrf7002
open Foundation

/-! ## Big-endian fields -/

/-- Writing what was read gives the two bytes that were there. -/
theorem be16_readBeU16 {bytes : Bytes} {offset : Nat} (inside : offset + 2 ≤ bytes.length) :
    be16 (readBeU16 bytes offset) = slice bytes offset (offset + 2) := by
  have width : (slice bytes offset (offset + 2)).length = 2 := by
    rw [length_slice_of_le inside]
    omega
  have whole := beBytes_beNat (slice bytes offset (offset + 2))
  rw [width] at whole
  have power : 2 ^ 16 = 256 ^ 2 := rfl
  rw [be16, readBeU16, UInt16.toNat_ofNat', beBytes, power, leBytes_mod, ← beBytes, whole]

/-! ## The header that a frame asks for -/

/-- To-DS: the frame goes to the distribution system. -/
def toDs (frame : Bytes) : Bool := byteAt frame 1 &&& 1 ≠ 0

/-- From-DS: the frame comes from the distribution system. -/
def fromDs (frame : Bytes) : Bool := byteAt frame 1 &&& 2 ≠ 0

def address1 (frame : Bytes) : Bytes := slice frame 4 10
def address2 (frame : Bytes) : Bytes := slice frame 10 16
def address3 (frame : Bytes) : Bytes := slice frame 16 22
def address4 (frame : Bytes) : Bytes := slice frame 24 30

/-- Destination and source of an 802.11 data frame. -/
def dataAddresses (frame : Bytes) : Bytes :=
  match toDs frame, fromDs frame with
  | false, false => address1 frame ++ address2 frame
  | false, true => address1 frame ++ address3 frame
  | true, false => address3 frame ++ address2 frame
  | true, true => address3 frame ++ address4 frame

/-- Destination and source of a received packet: an A-MSDU subframe begins with them. -/
def packetAddresses (payloadType : RxPayloadType) (macHeaderLen : Nat) (frame : Bytes) : Bytes :=
  match payloadType with
  | .mpdu => dataAddresses frame
  | .msduWithMac => slice frame macHeaderLen (macHeaderLen + 12)
  | .msdu => slice frame 0 12

/-- Where the LLC header begins. -/
def llcStart (payloadType : RxPayloadType) (macHeaderLen : Nat) : Nat :=
  match payloadType with
  | .mpdu => macHeaderLen
  | .msduWithMac => macHeaderLen + 14
  | .msdu => 14

/-- Where the payload begins: behind the whole LLC header of an EtherType, and behind the
two bytes of a length otherwise. -/
def payloadStart (payloadType : RxPayloadType) (macHeaderLen : Nat) (frame : Bytes) : Nat :=
  llcStart payloadType macHeaderLen +
    if 0x600 ≤ readBeU16 frame (llcStart payloadType macHeaderLen + 6) then 8 else 2

/-- The frame is long enough for its headers. -/
def HoldsHeaders (payloadType : RxPayloadType) (macHeaderLen : Nat) (frame : Bytes) : Prop :=
  (payloadType = .mpdu → 24 ≤ macHeaderLen) ∧
    llcStart payloadType macHeaderLen + 8 ≤ frame.length

/-- The Ethernet frame of `len` bytes at the front of `after` is the conversion of a packet. -/
structure Converted (payloadType : RxPayloadType) (macHeaderLen : Nat) (frame : Bytes) (len : Nat)
    (after : Bytes) : Prop where
  least : 14 ≤ len
  most : len ≤ frame.length
  inPlace : after.length = frame.length
  addresses : slice after 0 12 = packetAddresses payloadType macHeaderLen frame
  etherType : slice after 12 14 =
    slice frame (llcStart payloadType macHeaderLen + 6) (llcStart payloadType macHeaderLen + 8)
  payload : slice after 14 len = frame.drop (payloadStart payloadType macHeaderLen frame)

/-! ## Rebuilding -/

/-- The header goes in front, the payload behind it; what follows is left over. -/
theorem post_rebuildEthernet (payloadOffset : Nat) (addresses : Addresses) (etherType : UInt16)
    (frame : Bytes) :
    Post (rebuildEthernet payloadOffset addresses etherType) frame (fun r after =>
      match r with
      | .ok len => payloadOffset ≤ frame.length ∧ len = 14 + (frame.length - payloadOffset) ∧
          len ≤ frame.length ∧
          after = (addresses.1.1 ++ (addresses.2.1 ++ be16 etherType)) ++
            (frame.drop payloadOffset ++ frame.drop len)
      | .error _ => after = frame) := by
  have header : (addresses.1.1 ++ (addresses.2.1 ++ be16 etherType)).length = 14 := by
    rw [List.length_append, List.length_append, addresses.1.2, addresses.2.2, length_be16]
  rw [rebuildEthernet, post_bind, post_get]
  dsimp only
  rw [post_ite]
  by_cases outside : frame.length < payloadOffset
  · rw [if_pos outside, post_bind, post_throw]
  · rw [if_neg outside, post_bind, post_liftResult, addOffset]
    by_cases wraps : ethernetHeaderLen + (frame.length - payloadOffset) < usizeLimit
    · rw [if_pos wraps]
      dsimp only
      rw [post_ite]
      by_cases large : frame.length < ethernetHeaderLen + (frame.length - payloadOffset)
      · rw [if_pos large, post_bind, post_throw]
      · rw [if_neg large, post_bind, post_set, post_pure]
        have room : ethernetHeaderLen = 14 := rfl
        have moved : (splice frame ethernetHeaderLen (frame.drop payloadOffset)).drop 14 =
            frame.drop payloadOffset ++
              frame.drop (ethernetHeaderLen + (frame.length - payloadOffset)) := by
          have front : (frame.take ethernetHeaderLen).length = 14 := by
            rw [List.length_take, room]
            omega
          rw [splice, List.append_assoc, List.drop_left' front, List.length_drop]
        refine ⟨by omega, rfl, by omega, ?_⟩
        rw [splice, List.take_zero, List.nil_append, Nat.zero_add, header, moved]
    · rw [if_neg wraps]

theorem addOffset_eq_ok {left right sum : Nat} :
    addOffset left right = .ok sum ↔ left + right < usizeLimit ∧ sum = left + right := by
  rw [addOffset, accepted_eq_ok, Except.ok.injEq, eq_comm (a := sum)]

theorem llcEtherType_eq_ok {frame : Bytes} {offset : Nat} {etherType : UInt16}
    (found : llcEtherType frame offset = .ok etherType) :
    offset + 8 ≤ frame.length ∧ etherType = readBeU16 frame (offset + 6) := by
  rw [llcEtherType, bind_eq_ok] at found
  obtain ⟨last, sum, found⟩ := found
  obtain ⟨_, rfl⟩ := addOffset_eq_ok.mp sum
  rw [refused_eq_ok, Except.ok.injEq] at found
  exact ⟨by omega, found.2.symm⟩

/-- The bits of the frame control field are those of its second byte. -/
theorem frameControl_bit {frame : Bytes} (present : 2 ≤ frame.length) (bit : Nat) (small : bit < 8) :
    readU16 frame 0 &&& UInt16.ofNat (2 ^ (8 + bit)) ≠ 0 ↔
      byteAt frame 1 &&& UInt8.ofNat (2 ^ bit) ≠ 0 := by
  match frame, present with
  | low :: high :: rest, _ =>
      have fields : slice (low :: high :: rest) 0 (0 + 2) = [low, high] := rfl
      have second : byteAt (low :: high :: rest) 1 = high := rfl
      have lowSmall := low.toNat_lt
      have value : (readU16 (low :: high :: rest) 0).toNat = 2 ^ 8 * high.toNat + low.toNat := by
        have highSmall := high.toNat_lt
        simp only [readU16, fields, leNat, UInt16.toNat_ofNat']
        omega
      have wide : 2 ^ (8 + bit) < 2 ^ 16 := Nat.pow_lt_pow_right (by omega) (by omega)
      have narrow : 2 ^ bit < 2 ^ 8 := Nat.pow_lt_pow_right (by omega) (by omega)
      have moved : (2 ^ 8 * high.toNat + low.toNat).testBit (8 + bit) = high.toNat.testBit bit := by
        rw [Nat.testBit_two_pow_mul_add _ lowSmall, if_neg (by omega), Nat.add_sub_cancel_left]
      rw [second, ne_eq, ne_eq, ← UInt16.toNat_inj, ← UInt8.toNat_inj, UInt16.toNat_and,
        UInt8.toNat_and, UInt16.toNat_ofNat_of_lt' wide, UInt8.toNat_ofNat_of_lt' narrow, value,
        Nat.and_two_pow, Nat.and_two_pow, moved]
      simp

/-! ## One conversion for each payload type -/

/-- The To-DS and From-DS bits choose the addresses. -/
theorem ieee80211Addresses_eq_ok {frame : Bytes} {addresses : Addresses}
    (found : ieee80211Addresses frame (readU16 frame 0) = .ok addresses) :
    addresses.1.1 ++ addresses.2.1 = dataAddresses frame := by
  rw [ieee80211Addresses] at found
  by_cases short : frame.length < 24
  · rw [if_pos short] at found
    cases found
  · rw [if_neg short] at found
    have one : (octetsAt frame 4 6).1 = address1 frame := octetsAt_eq_slice (by omega)
    have two : (octetsAt frame 10 6).1 = address2 frame := octetsAt_eq_slice (by omega)
    have three : (octetsAt frame 16 6).1 = address3 frame := octetsAt_eq_slice (by omega)
    have toBit : readU16 frame 0 &&& 0x0100 ≠ 0 ↔ byteAt frame 1 &&& 1 ≠ 0 :=
      frameControl_bit (by omega) 0 (by omega)
    have fromBit : readU16 frame 0 &&& 0x0200 ≠ 0 ↔ byteAt frame 1 &&& 2 ≠ 0 :=
      frameControl_bit (by omega) 1 (by omega)
    rw [dataAddresses, toDs, fromDs, decide_eq_decide.mpr toBit.symm, decide_eq_decide.mpr fromBit.symm]
    dsimp only at found
    by_cases toSystem : readU16 frame 0 &&& 0x0100 ≠ 0
    · by_cases fromSystem : readU16 frame 0 &&& 0x0200 ≠ 0
      · rw [if_pos ⟨toSystem, fromSystem⟩, fourAddressMapping, refused_eq_ok] at found
        obtain ⟨long, same⟩ := found
        obtain rfl := Except.ok.inj same
        have four : (octetsAt frame 24 6).1 = address4 frame := octetsAt_eq_slice (by omega)
        rw [decide_eq_true toSystem, decide_eq_true fromSystem]
        dsimp only
        rw [three, four]
      · rw [if_neg (fun both => fromSystem both.2)] at found
        obtain rfl := Except.ok.inj found
        rw [decide_eq_true toSystem, decide_eq_false fromSystem]
        dsimp only [threeAddressMapping]
        rw [if_pos rfl, three, two]
    · rw [if_neg (fun both => toSystem both.1)] at found
      obtain rfl := Except.ok.inj found
      rw [decide_eq_false toSystem]
      by_cases fromSystem : readU16 frame 0 &&& 0x0200 ≠ 0
      · rw [decide_eq_true fromSystem]
        dsimp only [threeAddressMapping]
        rw [if_neg (by simp), if_pos rfl, one, three]
      · rw [decide_eq_false fromSystem]
        dsimp only [threeAddressMapping]
        rw [if_neg (by simp), if_neg (by simp), one, two]

/-- Rebuilding behind the LLC header converts the frame. -/
theorem converted_of_rebuilt {payloadType : RxPayloadType} {macHeaderLen len : Nat}
    {frame after : Bytes} {addresses : Addresses}
    (named : addresses.1.1 ++ addresses.2.1 = packetAddresses payloadType macHeaderLen frame)
    (long : llcStart payloadType macHeaderLen + 8 ≤ frame.length)
    (count : len = 14 + (frame.length - payloadStart payloadType macHeaderLen frame))
    (most : len ≤ frame.length)
    (rebuilt : after = (addresses.1.1 ++ (addresses.2.1 ++
        be16 (readBeU16 frame (llcStart payloadType macHeaderLen + 6)))) ++
      (frame.drop (payloadStart payloadType macHeaderLen frame) ++ frame.drop len)) :
    Converted payloadType macHeaderLen frame len after := by
  have twelve : (addresses.1.1 ++ addresses.2.1).length = 12 := by
    rw [List.length_append, addresses.1.2, addresses.2.2]
  have field : be16 (readBeU16 frame (llcStart payloadType macHeaderLen + 6)) =
      slice frame (llcStart payloadType macHeaderLen + 6) (llcStart payloadType macHeaderLen + 8) :=
    be16_readBeU16 (by omega)
  have two : (slice frame (llcStart payloadType macHeaderLen + 6)
      (llcStart payloadType macHeaderLen + 8)).length = 2 := by
    rw [length_slice_of_le long]
    omega
  have parts : after = (addresses.1.1 ++ addresses.2.1) ++
      (slice frame (llcStart payloadType macHeaderLen + 6)
          (llcStart payloadType macHeaderLen + 8) ++
        (frame.drop (payloadStart payloadType macHeaderLen frame) ++ frame.drop len)) := by
    rw [rebuilt, field]
    simp only [List.append_assoc]
  have payload : (frame.drop (payloadStart payloadType macHeaderLen frame)).length = len - 14 := by
    rw [List.length_drop]
    omega
  constructor
  · omega
  · exact most
  · rw [parts]
    simp only [List.length_append, twelve, two, payload, List.length_drop]
    omega
  · rw [parts, slice_append_left (by omega), slice_all (by omega), named]
  · rw [parts]
    exact slice_middle twelve.symm (by rw [twelve, two])
  · rw [parts, ← List.append_assoc]
    apply slice_middle
    · rw [List.length_append, twelve, two]
    · rw [List.length_append, twelve, two, payload]
      omega

theorem post_convertMpdu (macHeaderLen : Nat) (frame : Bytes) :
    Post (convertMpdu macHeaderLen) frame (fun r after =>
      match r with
      | .ok len => HoldsHeaders .mpdu macHeaderLen frame ∧
          Converted .mpdu macHeaderLen frame len after
      | .error _ => after = frame) := by
  rw [convertMpdu, post_bind, post_get]
  dsimp only
  rw [post_ite]
  by_cases short : macHeaderLen < 24
  · rw [if_pos short, post_bind, post_throw]
  · rw [if_neg short, post_bind, post_liftResult, frameU16]
    by_cases present : 0 + 2 ≤ frame.length
    · rw [if_pos present]
      dsimp only
      rw [post_mapError, post_bind, post_liftResult]
      cases named : ieee80211Addresses frame (readU16 frame 0) with
      | error failure => rfl
      | ok addresses =>
          dsimp only
          rw [post_bind, post_liftResult]
          cases typed : llcEtherType frame macHeaderLen with
          | error failure => rfl
          | ok etherType =>
              obtain ⟨long, rfl⟩ := llcEtherType_eq_ok typed
              dsimp only
              rw [post_bind, post_liftResult]
              cases sum : addOffset macHeaderLen (llcSkip (readBeU16 frame (macHeaderLen + 6))) with
              | error failure => rfl
              | ok payloadOffset =>
                  obtain ⟨_, rfl⟩ := addOffset_eq_ok.mp sum
                  dsimp only
                  apply (post_rebuildEthernet _ addresses _ frame).mono
                  intro r after rebuilt
                  cases r with
                  | error failure => exact rebuilt
                  | ok len =>
                      obtain ⟨_, count, most, rebuilt⟩ := rebuilt
                      refine ⟨⟨fun _ => by omega, long⟩, ?_⟩
                      exact converted_of_rebuilt (ieee80211Addresses_eq_ok named) long count most
                        rebuilt
    · rw [if_neg present]

theorem post_convertMsdu (payloadType : RxPayloadType) (macHeaderLen headerLen : Nat)
    (subframe : payloadType = .msduWithMac ∧ headerLen = macHeaderLen ∨
      payloadType = .msdu ∧ headerLen = 0) (frame : Bytes) :
    Post (convertMsdu headerLen) frame (fun r after =>
      match r with
      | .ok len => HoldsHeaders payloadType macHeaderLen frame ∧
          Converted payloadType macHeaderLen frame len after
      | .error _ => after = frame) := by
  have starts : llcStart payloadType macHeaderLen = headerLen + 14 := by
    rcases subframe with ⟨rfl, rfl⟩ | ⟨rfl, rfl⟩
    · rfl
    · rfl
  have wired : payloadType ≠ .mpdu := by
    rcases subframe with ⟨rfl, _⟩ | ⟨rfl, _⟩
    · exact RxPayloadType.noConfusion
    · exact RxPayloadType.noConfusion
  rw [convertMsdu, post_bind, post_get]
  dsimp only
  rw [post_bind, post_liftResult]
  cases ends : addOffset headerLen 14 with
  | error failure => rfl
  | ok headerEnd =>
      obtain ⟨_, rfl⟩ := addOffset_eq_ok.mp ends
      dsimp only
      rw [post_ite]
      by_cases short : frame.length < headerLen + 14
      · rw [if_pos short, post_bind, post_throw]
      · rw [if_neg short, post_bind, post_liftResult]
        cases typed : llcEtherType frame (headerLen + 14) with
        | error failure => rfl
        | ok etherType =>
            obtain ⟨long, rfl⟩ := llcEtherType_eq_ok typed
            dsimp only
            rw [post_bind, post_liftResult]
            cases sum : addOffset (headerLen + 14)
                (llcSkip (readBeU16 frame (headerLen + 14 + 6))) with
            | error failure => rfl
            | ok payloadOffset =>
                obtain ⟨_, rfl⟩ := addOffset_eq_ok.mp sum
                dsimp only
                apply (post_rebuildEthernet _ _ _ frame).mono
                intro r after rebuilt
                cases r with
                | error failure => exact rebuilt
                | ok len =>
                    obtain ⟨_, count, most, rebuilt⟩ := rebuilt
                    rw [← starts] at long count rebuilt
                    refine ⟨⟨fun same => absurd same wired, long⟩, ?_⟩
                    refine converted_of_rebuilt ?_ long count most rebuilt
                    have named : (octetsAt frame headerLen 6).1 ++ (octetsAt frame (headerLen + 6) 6).1 =
                        slice frame headerLen (headerLen + 12) := by
                      rw [octetsAt_eq_slice (by omega), octetsAt_eq_slice (by omega)]
                      exact slice_append_slice (by omega) (by omega)
                    rcases subframe with ⟨rfl, rfl⟩ | ⟨rfl, rfl⟩
                    · exact named
                    · exact named

/-- A conversion that succeeds has converted the frame; one that fails has left it. -/
theorem post_convertToEthernet (payloadType : RxPayloadType) (macHeaderLen : Nat) (frame : Bytes) :
    Post (convertToEthernet payloadType macHeaderLen) frame (fun r after =>
      match r with
      | .ok len => HoldsHeaders payloadType macHeaderLen frame ∧
          Converted payloadType macHeaderLen frame len after
      | .error _ => after = frame) := by
  cases payloadType with
  | mpdu => exact post_convertMpdu macHeaderLen frame
  | msduWithMac =>
      rw [convertToEthernet, post_mapError]
      apply (post_convertMsdu .msduWithMac macHeaderLen macHeaderLen (.inl ⟨rfl, rfl⟩) frame).mono
      intro r after outcome
      cases r with
      | ok len => exact outcome
      | error failure => exact outcome
  | msdu =>
      rw [convertToEthernet, post_mapError]
      apply (post_convertMsdu .msdu macHeaderLen 0 (.inr ⟨rfl, rfl⟩) frame).mono
      intro r after outcome
      cases r with
      | ok len => exact outcome
      | error failure => exact outcome

/-- Whatever converts is converted exactly. -/
theorem conversion_exact (payloadType : RxPayloadType) (macHeaderLen : Nat) (frame : Bytes)
    (len : Nat) (converts : resultOf (convertToEthernet payloadType macHeaderLen) frame = .ok len) :
    Converted payloadType macHeaderLen frame len
      (stateAfter (convertToEthernet payloadType macHeaderLen) frame) := by
  have ends := (post_convertToEthernet payloadType macHeaderLen frame).ends
  rw [converts] at ends
  exact ends.2

/-! ## Which frames convert -/

theorem llcSkip_bounds (etherType : UInt16) : 2 ≤ llcSkip etherType ∧ llcSkip etherType ≤ 8 := by
  rw [llcSkip]
  split
  · omega
  · omega

section Long
variable {frame : Bytes} (small : frame.length < usizeLimit)
include small

theorem llcEtherType_of_inside {offset : Nat} (inside : offset + 8 ≤ frame.length) :
    llcEtherType frame offset = .ok (readBeU16 frame (offset + 6)) := by
  rw [llcEtherType, addOffset, if_pos (by omega), ok_bind, if_neg (by omega)]

theorem post_rebuildEthernet_inside {payloadOffset : Nat} (addresses : Addresses)
    (etherType : UInt16) (lower : 14 ≤ payloadOffset) (upper : payloadOffset ≤ frame.length) :
    Post (rebuildEthernet payloadOffset addresses etherType) frame
      (fun r _ => ∃ len, r = .ok len) := by
  have room : ethernetHeaderLen = 14 := rfl
  rw [rebuildEthernet, post_bind, post_get]
  dsimp only
  rw [post_ite, if_neg (by omega), post_bind, post_liftResult, addOffset, if_pos (by omega)]
  dsimp only
  rw [post_ite, if_neg (by omega), post_bind, post_set, post_pure]
  exact ⟨_, rfl⟩

theorem post_convertMsdu_long {headerLen : Nat} (long : headerLen + 22 ≤ frame.length) :
    Post (convertMsdu headerLen) frame (fun r _ => ∃ len, r = .ok len) := by
  have skip := llcSkip_bounds (readBeU16 frame (headerLen + 14 + 6))
  rw [convertMsdu, post_bind, post_get]
  dsimp only
  rw [post_bind, post_liftResult, addOffset, if_pos (by omega)]
  dsimp only
  rw [post_ite, if_neg (by omega), post_bind, post_liftResult,
    llcEtherType_of_inside small (by omega)]
  dsimp only
  rw [post_bind, post_liftResult, addOffset, if_pos (by omega)]
  exact post_rebuildEthernet_inside small _ _ (by omega) (by omega)

theorem post_convertMpdu_long {macHeaderLen : Nat} (header : 24 ≤ macHeaderLen)
    (long : macHeaderLen + 8 ≤ frame.length) :
    Post (convertMpdu macHeaderLen) frame (fun r _ => ∃ len, r = .ok len) := by
  have skip := llcSkip_bounds (readBeU16 frame (macHeaderLen + 6))
  have named : ∃ addresses, ieee80211Addresses frame (readU16 frame 0) = .ok addresses := by
    rw [ieee80211Addresses, if_neg (by omega)]
    dsimp only
    split
    · rw [fourAddressMapping, if_neg (by omega)]
      exact ⟨_, rfl⟩
    · exact ⟨_, rfl⟩
  obtain ⟨addresses, named⟩ := named
  rw [convertMpdu, post_bind, post_get]
  dsimp only
  rw [post_ite, if_neg (by omega), post_bind, post_liftResult, frameU16, if_pos (by omega)]
  dsimp only
  rw [post_mapError, post_bind, post_liftResult, named]
  dsimp only
  rw [post_bind, post_liftResult, llcEtherType_of_inside small long]
  dsimp only
  rw [post_bind, post_liftResult, addOffset, if_pos (by omega)]
  refine (post_rebuildEthernet_inside small _ _ (by omega) (by omega)).mono ?_
  intro r t ended
  obtain ⟨len, rfl⟩ := ended
  exact ⟨len, rfl⟩

/-- A frame that is long enough for its headers converts. -/
theorem converts_of_holdsHeaders {payloadType : RxPayloadType} {macHeaderLen : Nat}
    (holds : HoldsHeaders payloadType macHeaderLen frame) :
    ∃ len, resultOf (convertToEthernet payloadType macHeaderLen) frame = .ok len := by
  obtain ⟨header, long⟩ := holds
  cases payloadType with
  | mpdu => exact (post_convertMpdu_long small (header rfl) long).ends
  | msduWithMac =>
      have long : macHeaderLen + 14 + 8 ≤ frame.length := long
      have built : Post (convertToEthernet .msduWithMac macHeaderLen) frame
          (fun r _ => ∃ len, r = .ok len) := by
        rw [convertToEthernet, post_mapError]
        refine (post_convertMsdu_long small (by omega)).mono ?_
        intro r t ended
        obtain ⟨len, rfl⟩ := ended
        exact ⟨len, rfl⟩
      exact built.ends
  | msdu =>
      have long : 14 + 8 ≤ frame.length := long
      have built : Post (convertToEthernet .msdu macHeaderLen) frame
          (fun r _ => ∃ len, r = .ok len) := by
        rw [convertToEthernet, post_mapError]
        refine (post_convertMsdu_long small (by omega)).mono ?_
        intro r t ended
        obtain ⟨len, rfl⟩ := ended
        exact ⟨len, rfl⟩
      exact built.ends

end Long

/-- A frame that goes from one access point to another, with a payload of four bytes. -/
def relayedFrame : Bytes :=
  [0x08, 0x03, 0, 0] ++ (List.replicate 6 1 ++ (List.replicate 6 2 ++ (List.replicate 6 3 ++
    ([0, 0] ++ (List.replicate 6 4 ++ ([0xaa, 0xaa, 3, 0, 0, 0, 0x08, 0x00] ++ [9, 8, 7, 6]))))))

theorem relayedFrame_converted : Converted .mpdu 30 relayedFrame 18
    (stateAfter (convertToEthernet .mpdu 30) relayedFrame) :=
  conversion_exact .mpdu 30 relayedFrame 18 (by decide)

end Nrf7002
