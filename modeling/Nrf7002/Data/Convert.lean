import Nrf7002.Data.Events

/-! # Conversion to Ethernet

A received packet is turned into an Ethernet frame in its own buffer: the
addresses and the EtherType are read from the 802.11 or the A-MSDU header, the
payload moves up behind the new header, and the header is written last. -/

set_option autoImplicit false

namespace Nrf7002
open Foundation

def ethernetHeaderLen : Nat := 14

/-- How a conversion ends without a frame.  An index out of bounds is no error of
the source: it stops the program. -/
inductive ConversionFailure where
  | protocol (error : DataProtocolError)
  | outOfBounds
  deriving DecidableEq, Repr

abbrev Addresses := Octets 6 × Octets 6

/-- The host computes offsets in 32 bits. -/
def usizeLimit : Nat := 2 ^ 32

/-- `checked_add` on offsets. -/
def addOffset (left right : Nat) : Except DataProtocolError Nat :=
  if left + right < usizeLimit then .ok (left + right) else .error .invalidLength

/-- `read_u16` on a frame whose length the caller has not checked. -/
def frameU16 (frame : Bytes) (offset : Nat) : Except ConversionFailure UInt16 :=
  if offset + 2 ≤ frame.length then .ok (readU16 frame offset) else .error .outOfBounds

def fourAddressMapping (frame : Bytes) (destination : Octets 6) :
    Except DataProtocolError Addresses :=
  if frame.length < 30 then .error .frameTooShort
  else .ok (destination, octetsAt frame 24 6)

def threeAddressMapping (address1 address2 address3 : Octets 6) (toDs fromDs : Bool) :
    Addresses :=
  if toDs then (address3, address2)
  else if fromDs then (address1, address3)
  else (address1, address2)

def ieee80211Addresses (frame : Bytes) (frameControl : UInt16) :
    Except DataProtocolError Addresses := do
  if frame.length < 24 then throw .frameTooShort
  let address1 := octetsAt frame 4 6
  let address2 := octetsAt frame 10 6
  let address3 := octetsAt frame 16 6
  let toDs := frameControl &&& 0x0100 ≠ 0
  let fromDs := frameControl &&& 0x0200 ≠ 0
  if toDs ∧ fromDs then fourAddressMapping frame address3
  else return threeAddressMapping address1 address2 address3 toDs fromDs

def llcEtherType (frame : Bytes) (offset : Nat) : Except DataProtocolError UInt16 := do
  let last ← addOffset offset 8
  if frame.length < last then .error .frameTooShort
  else .ok (readBeU16 frame (offset + 6))

def llcSkip (etherType : UInt16) : Nat := if 0x0600 ≤ etherType then 8 else 2

def rebuildEthernet (payloadOffset : Nat) (addresses : Addresses) (etherType : UInt16) :
    Program Bytes DataProtocolError Nat := do
  let frame ← get
  if frame.length < payloadOffset then throw .frameTooShort
  let newLen ← liftResult (addOffset ethernetHeaderLen (frame.length - payloadOffset))
  if frame.length < newLen then throw .frameTooLarge
  let moved := splice frame ethernetHeaderLen (frame.drop payloadOffset)
  set (splice moved 0 (addresses.1.1 ++ (addresses.2.1 ++ be16 etherType)))
  return newLen

def convertMpdu (macHeaderLen : Nat) : Program Bytes ConversionFailure Nat := do
  let frame ← get
  if macHeaderLen < 24 then throw (.protocol .frameTooShort)
  let frameControl ← liftResult (frameU16 frame 0)
  mapError .protocol do
    let addresses ← liftResult (ieee80211Addresses frame frameControl)
    let etherType ← liftResult (llcEtherType frame macHeaderLen)
    let payloadOffset ← liftResult (addOffset macHeaderLen (llcSkip etherType))
    rebuildEthernet payloadOffset addresses etherType

def convertMsdu (macHeaderLen : Nat) : Program Bytes DataProtocolError Nat := do
  let frame ← get
  let headerEnd ← liftResult (addOffset macHeaderLen 14)
  if frame.length < headerEnd then throw .frameTooShort
  let addresses := (octetsAt frame macHeaderLen 6, octetsAt frame (macHeaderLen + 6) 6)
  let etherType ← liftResult (llcEtherType frame headerEnd)
  let payloadOffset ← liftResult (addOffset headerEnd (llcSkip etherType))
  rebuildEthernet payloadOffset addresses etherType

def convertToEthernet (payloadType : RxPayloadType) (macHeaderLen : Nat) :
    Program Bytes ConversionFailure Nat :=
  match payloadType with
  | .mpdu => convertMpdu macHeaderLen
  | .msduWithMac => mapError .protocol (convertMsdu macHeaderLen)
  | .msdu => mapError .protocol (convertMsdu 0)

theorem post_mapError_inBounds (x : Program Bytes DataProtocolError Nat) (frame : Bytes) :
    Post (mapError ConversionFailure.protocol x) frame (fun r _ => r ≠ .error .outOfBounds) := by
  rw [post_mapError]
  refine (post_true x frame).mono ?_
  rintro r _ - stopped
  cases r with
  | ok len => cases stopped
  | error failure => cases stopped

/-- The conversion indexes out of bounds for an 802.11 frame without a frame control
field, and for no other. -/
theorem convertToEthernet_outOfBounds_iff (payloadType : RxPayloadType) (macHeaderLen : Nat)
    (frame : Bytes) :
    resultOf (convertToEthernet payloadType macHeaderLen) frame = .error .outOfBounds ↔
      payloadType = .mpdu ∧ 24 ≤ macHeaderLen ∧ frame.length < 2 := by
  cases payloadType with
  | msduWithMac =>
      have inBounds := (post_mapError_inBounds (convertMsdu macHeaderLen) frame).ends
      exact ⟨fun stopped => absurd stopped inBounds, fun impossible => absurd impossible.1 (by simp)⟩
  | msdu =>
      have inBounds := (post_mapError_inBounds (convertMsdu 0) frame).ends
      exact ⟨fun stopped => absurd stopped inBounds, fun impossible => absurd impossible.1 (by simp)⟩
  | mpdu =>
      have ends : Post (convertMpdu macHeaderLen) frame (fun r _ =>
          r = .error .outOfBounds ↔ 24 ≤ macHeaderLen ∧ frame.length < 2) := by
        rw [convertMpdu, post_bind, post_get]
        dsimp only
        rw [post_ite]
        by_cases short : macHeaderLen < 24
        · rw [if_pos short]
          simp only [post_bind, post_throw]
          exact ⟨fun stopped => absurd stopped (by simp), fun long => by omega⟩
        · rw [if_neg short, post_bind, post_liftResult, frameU16]
          by_cases present : 0 + 2 ≤ frame.length
          · rw [if_pos present]
            refine (post_mapError_inBounds _ frame).mono ?_
            exact fun r _ inBounds => ⟨fun stopped => absurd stopped inBounds, fun empty => by omega⟩
          · rw [if_neg present]
            exact ⟨fun _ => by omega, fun _ => rfl⟩
      exact ends.ends.trans ⟨fun stopped => ⟨rfl, stopped⟩, fun stopped => stopped.2⟩

end Nrf7002
