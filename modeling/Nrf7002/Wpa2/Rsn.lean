import Nrf7002.Wpa2.Keys

/-! # The RSN information element

The profile that the supplicant accepts: CCMP for the group and in the pairwise list,
PSK in the AKM list, no management frame protection and no PMKID.  The state of the
parser is its offset into the body. -/

set_option autoImplicit false

namespace Nrf7002
open Foundation

section Rsn

def rsnCipherCcmpSuite : Octets 4 := ⟨[0x00, 0x0f, 0xac, 0x04], rfl⟩
def rsnAkmPskSuite : Octets 4 := ⟨[0x00, 0x0f, 0xac, 0x02], rfl⟩
def rsnCapMfpr : UInt16 := (1 : UInt16) <<< 6
def rsnCapMfpc : UInt16 := (1 : UInt16) <<< 7

abbrev RsnParser (α : Type) := Program Nat Wpa2Error α

/-- The next `count` bytes of the body. -/
def takeBytes (bytes : Bytes) (count : Nat) : RsnParser Bytes := do
  let offset ← get
  if bytes.length < offset + count then throw .invalidRsnInformationElement
  else
    set (offset + count)
    pure (slice bytes offset (offset + count))

def takeU16 (bytes : Bytes) : RsnParser UInt16 := do
  let value ← takeBytes bytes 2
  pure (UInt16.ofNat (leNat value))

def takeSuite (bytes : Bytes) : RsnParser Bytes := takeBytes bytes 4

def takeNonzeroSuiteCount (bytes : Bytes) : RsnParser Nat := do
  let count ← takeU16 bytes
  if count = 0 then throw .invalidRsnInformationElement else pure count.toNat

def takeSuiteBytes (bytes : Bytes) (count : Nat) : RsnParser Bytes := takeBytes bytes (count * 4)

def takeRequiredSuiteList (bytes : Bytes) (required : Octets 4) : RsnParser Unit := do
  let count ← takeNonzeroSuiteCount bytes
  let suites ← takeSuiteBytes bytes count
  if (chunks 4 suites).any (· = required.1) then pure ()
  else throw .invalidRsnInformationElement

def validateFixedRsnFields (body : Bytes) : RsnParser Unit := do
  let version ← takeU16 body
  if version ≠ 1 then throw .invalidRsnInformationElement
  let suite ← takeSuite body
  if suite ≠ rsnCipherCcmpSuite.1 then throw .invalidRsnInformationElement

def validateRsnCapabilities (bytes : Bytes) : RsnParser Unit := do
  let capabilities ← takeU16 bytes
  if capabilities &&& (rsnCapMfpr ||| rsnCapMfpc) ≠ 0 then throw .unsupportedRsnCapabilities

def validateOptionalPmkid (bytes : Bytes) : RsnParser Unit := do
  if (← get) = bytes.length then pure ()
  else
    let pmkidCount ← takeU16 bytes
    if pmkidCount ≠ 0 then throw .unsupportedRsnCapabilities
    if (← get) = bytes.length then pure () else throw .unsupportedRsnCapabilities

def validateOptionalRsnFields (bytes : Bytes) : RsnParser Unit := do
  if (← get) = bytes.length then pure ()
  else
    validateRsnCapabilities bytes
    validateOptionalPmkid bytes

def rsnBody (rsnIe : Bytes) : Except Wpa2Error Bytes :=
  if ¬ (4 ≤ rsnIe.length ∧ rsnIe.length ≤ maxRsnIeLen) then .error .invalidRsnInformationElement
  else if byteAt rsnIe 0 ≠ 0x30 ∨ (byteAt rsnIe 1).toNat + 2 ≠ rsnIe.length then
    .error .invalidRsnInformationElement
  else .ok (rsnIe.drop 2)

def validateRsnIe (rsnIe : Bytes) : Except Wpa2Error Unit := do
  let body ← rsnBody rsnIe
  let parser : RsnParser Unit := do
    validateFixedRsnFields body
    takeRequiredSuiteList body rsnCipherCcmpSuite
    takeRequiredSuiteList body rsnAkmPskSuite
    validateOptionalRsnFields body
  resultOf parser 0

theorem validateRsnIe_length {rsnIe : Bytes} (accepted : validateRsnIe rsnIe = .ok ()) :
    rsnIe.length ≤ maxRsnIeLen := by
  rw [validateRsnIe, bind_eq_ok] at accepted
  obtain ⟨body, found, _⟩ := accepted
  rw [rsnBody, refused_eq_ok, not_not] at found
  exact found.1.2

end Rsn

end Nrf7002
