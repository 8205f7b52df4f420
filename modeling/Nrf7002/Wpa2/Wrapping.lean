import Mathlib.Data.Fintype.Vector
import Nrf7002.Wpa2.Handshake

/-! # Unwrapping and wrapping again

Key data is unwrapped exactly where it was wrapped: a decryption that inverts the
encryption is inverted by it, as there are finitely many blocks, and the steps of an
unwrapping are taken back one by one. -/

set_option autoImplicit false

namespace Nrf7002
open Foundation

instance finite_uint8 : Finite UInt8 := Finite.of_injective UInt8.toFin fun _ _ => UInt8.toFin_inj.mp

instance {n : Nat} : Finite (Octets n) := inferInstanceAs (Finite (List.Vector UInt8 n))

section Wrapping
variable {crypto : Wpa2Crypto} (kek : Octets 16)

/-- An encryption that is decrypted to what it was has every block as a value. -/
theorem Wpa2Crypto.Inverse.encrypt_decrypt (inverse : crypto.Inverse) (key block : Octets 16) :
    crypto.encryptBlock key (crypto.decryptBlock key block) = block := by
  have injective : Function.Injective (crypto.encryptBlock key) :=
    Function.LeftInverse.injective (inverse key)
  obtain ⟨plain, rfl⟩ := Finite.surjective_of_injective injective block
  rw [inverse key plain]

theorem aesWrapCipher_encrypt_decrypt (inverse : crypto.Inverse)
    (block : Octets 8 × Octets 8) :
    (aesWrapCipher crypto kek).encrypt ((aesWrapCipher crypto kek).decrypt block) = block := by
  simp only [aesWrapCipher, joinOctets_splitOctets, inverse.encrypt_decrypt,
    splitOctets_joinOctets]

/-- A wrapped key whose integrity register comes out right is the wrapping of what it
unwraps to. -/
theorem aesKeyWrap_unwrap (inverse : crypto.Inverse) {encrypted : Bytes}
    (whole : WrappedLength encrypted)
    (accepted : (unwrap (aesWrapCipher crypto kek) (wrappedState encrypted)).integrity =
      aesKeyWrapIv) :
    aesKeyWrap crypto kek
      (flat (unwrap (aesWrapCipher crypto kek) (wrappedState encrypted)).registers) =
        encrypted := by
  have count : (flat (unwrap (aesWrapCipher crypto kek)
      (wrappedState encrypted)).registers).length / 8 =
        (unwrap (aesWrapCipher crypto kek) (wrappedState encrypted)).registers.length := by
    rw [length_flat]
    omega
  have again := wrap_unwrap (aesWrapCipher_lawful kek inverse)
    (aesWrapCipher_encrypt_decrypt kek inverse) (wrappedState encrypted)
  rw [accepted] at again
  have parts := buffered_wrappedState whole
  rw [buffered, Prod.mk.injEq] at parts
  have front : (octetsAt encrypted 0 8).1 = encrypted.take 8 :=
    octetsAt_eq_slice (by obtain ⟨long, _⟩ := whole; omega)
  rw [aesKeyWrap, count, registersOf_flat, again, parts.1, parts.2, front]
  exact List.take_append_drop 8 encrypted

theorem aesKeyUnwrap_lengths {encrypted out : Bytes}
    (refused : ¬ (WrappedLength encrypted ∧ encrypted.length - 8 ≤ out.length)) :
    Post (aesKeyUnwrap crypto kek encrypted) out fun result _ =>
      result = .error .invalidEncryptedKeyData ∨ result = .error .outputTooSmall := by
  have lengths : validateWrappedKeyLengths encrypted out = .error .invalidEncryptedKeyData ∨
      validateWrappedKeyLengths encrypted out = .error .outputTooSmall := by
    rw [WrappedLength] at refused
    by_cases whole : encrypted.length < 24 ∨ encrypted.length % 8 ≠ 0
    · exact .inl (if_pos whole)
    · right
      rw [validateWrappedKeyLengths, if_neg whole, if_pos (by omega)]
  rw [aesKeyUnwrap, post_bind, post_get]
  dsimp only
  rw [post_bind, post_liftResult]
  obtain failed | failed := lengths
  · rw [failed]
    exact .inl rfl
  · rw [failed]
    exact .inr rfl

/-- Wrapped key data is unwrapped to what it was; whatever is unwrapped is wrapped to the
input again; and a failed integrity check leaves zeros. -/
theorem aesKeyUnwrap_exact (inverse : crypto.Inverse) :
    (∀ plain out : Bytes, 16 ≤ plain.length → plain.length % 8 = 0 → plain.length ≤ out.length →
      Post (aesKeyUnwrap crypto kek (aesKeyWrap crypto kek plain)) out fun result after =>
        result = .ok plain.length ∧ after.take plain.length = plain) ∧
    ∀ encrypted out : Bytes, Post (aesKeyUnwrap crypto kek encrypted) out fun result after =>
      (∀ len, result = .ok len → aesKeyWrap crypto kek (after.take len) = encrypted) ∧
      (result = .error .keyUnwrapIntegrity →
        after = List.replicate (encrypted.length - 8) 0 ++ out.drop (encrypted.length - 8)) := by
  constructor
  · intro plain out long even fits
    exact aesKeyUnwrap_aesKeyWrap kek inverse long even fits
  · intro encrypted out
    by_cases fits : WrappedLength encrypted ∧ encrypted.length - 8 ≤ out.length
    · obtain ⟨whole, room⟩ := fits
      refine (aesKeyUnwrap_spec crypto kek whole room).mono ?_
      intro result after outcome
      dsimp only at outcome
      by_cases accepted : (unwrap (aesWrapCipher crypto kek) (wrappedState encrypted)).integrity =
          aesKeyWrapIv
      · rw [if_pos accepted] at outcome
        obtain ⟨rfl, rfl⟩ := outcome
        refine ⟨?_, fun same => by cases same⟩
        intro len same
        cases same
        have length : (flat (unwrap (aesWrapCipher crypto kek)
            (wrappedState encrypted)).registers).length = encrypted.length - 8 := by
          obtain ⟨long, even⟩ := whole
          rw [length_flat, length_unwrap, wrappedState, registersOf, List.length_map,
            List.length_range]
          omega
        have again := aesKeyWrap_unwrap kek inverse whole accepted
        generalize flat (unwrap (aesWrapCipher crypto kek) (wrappedState encrypted)).registers =
          plain at length again
        have copied : (splice out 0 plain).take (0 + plain.length) = out.take 0 ++ plain :=
          take_splice (by omega)
        rw [Nat.zero_add, length, List.take_zero, List.nil_append] at copied
        rw [copied]
        exact again
      · rw [if_neg accepted] at outcome
        obtain ⟨rfl, rfl⟩ := outcome
        refine ⟨fun len same => (by cases same), fun _ => ?_⟩
        rw [splice, List.take_zero, List.nil_append, Nat.zero_add, List.length_replicate]
    · refine (aesKeyUnwrap_lengths kek fits).mono ?_
      intro result after outcome
      obtain rfl | rfl := outcome
      · exact ⟨fun len same => (by cases same), fun same => by cases same⟩
      · exact ⟨fun len same => (by cases same), fun same => by cases same⟩

theorem aesKeyUnwrap_sample :
    Post (aesKeyUnwrap sampleCrypto samplePtk.kek
        (aesKeyWrap sampleCrypto samplePtk.kek (Element.gtk 1 sampleGroup.key).bytes))
      (List.replicate 32 0)
      fun result after => result = .ok (Element.gtk 1 sampleGroup.key).bytes.length ∧
        after.take (Element.gtk 1 sampleGroup.key).bytes.length =
          (Element.gtk 1 sampleGroup.key).bytes :=
  (aesKeyUnwrap_exact samplePtk.kek sampleCrypto_inverse).1 _ _ (by decide) (by decide) (by decide)

end Wrapping

end Nrf7002
