import Nrf7002.Foundation.Cursor
import Nrf7002.Wpa2.Outcomes

/-! # The grammar of the RSN information element

The element as its fields, and the parser shown to accept exactly the elements that are
written so.  Each function of the parser has its own grammar, over the bytes that are left
of the body before and after it. -/

set_option autoImplicit false

namespace Nrf7002
open Foundation

/-! ## The element as its fields -/

section Grammar

/-- A suite list with its count. -/
def suiteList (suites : List (Octets 4)) : Bytes :=
  le16 (UInt16.ofNat suites.length) ++ suites.flatMap Subtype.val

/-- What may follow the two suite lists. -/
inductive RsnTail where
  | nothing
  | capabilities (value : UInt16)
  | noPmkids (value : UInt16)

namespace RsnTail

def bytes : RsnTail → Bytes
  | nothing => []
  | capabilities value => le16 value
  | noPmkids value => le16 value ++ le16 0

/-- Management frames are not protected. -/
def Unprotected : RsnTail → Prop
  | nothing => True
  | capabilities value => value &&& (rsnCapMfpr ||| rsnCapMfpc) = 0
  | noPmkids value => value &&& (rsnCapMfpr ||| rsnCapMfpc) = 0

end RsnTail

/-- The body of an element: version 1, the group suite, the two lists and the tail. -/
structure RsnBody (body : Bytes) (pairwise akm : List (Octets 4)) (tail : RsnTail) : Prop where
  layout : body = le16 1 ++ (rsnCipherCcmpSuite.1 ++
    (suiteList pairwise ++ (suiteList akm ++ tail.bytes)))
  cipher : rsnCipherCcmpSuite ∈ pairwise
  key : rsnAkmPskSuite ∈ akm
  counted : pairwise.length < 2 ^ 16 ∧ akm.length < 2 ^ 16
  unprotected : tail.Unprotected

structure RsnElement (rsnIe : Bytes) (pairwise akm : List (Octets 4)) (tail : RsnTail) : Prop where
  id : byteAt rsnIe 0 = 0x30
  length : (byteAt rsnIe 1).toNat + 2 = rsnIe.length
  long : 4 ≤ rsnIe.length
  short : rsnIe.length ≤ 256
  body : RsnBody (rsnIe.drop 2) pairwise akm tail

end Grammar

/-! ## The grammars of the parser -/

section Parser
variable (body : Bytes)

theorem recognizes_takeBytes (count : Nat) :
    Recognizes body (takeBytes body count) fun before value after =>
      value.length = count ∧ before = value ++ after where
  suffix := by
    intro before value after allowed
    rw [allowed.2]
    exact List.suffix_append _ _
  exact := by
    intro offset inside value stop
    rw [takeBytes, returns_get_bind]
    by_cases short : body.length < offset + count
    · rw [if_pos short]
      apply iff_of_false not_returns_throw
      intro ⟨_, width, split⟩
      have length := congrArg List.length split
      rw [List.length_drop, List.length_append] at length
      omega
    · rw [if_neg short, returns_iff_post]
      simp only [post_bind, post_set, post_pure, Except.ok.injEq]
      have width : (slice body offset (offset + count)).length = count := by
        rw [length_slice_of_le (by omega), Nat.add_sub_cancel_left]
      have split : body.drop offset =
          slice body offset (offset + count) ++ body.drop (offset + count) := by
        rw [slice, Nat.add_sub_cancel_left, ← List.drop_drop, List.take_append_drop]
      constructor
      · rintro ⟨rfl, rfl⟩
        exact ⟨by omega, width, split⟩
      · rintro ⟨small, counted, taken⟩
        rw [split] at taken
        obtain ⟨same, rest⟩ := List.append_inj taken (by rw [width, counted])
        exact ⟨same, (drop_inj (by omega) small).mp rest⟩

theorem le16_ofNat_leNat {bytes : Bytes} (width : bytes.length = 2) :
    le16 (UInt16.ofNat (leNat bytes)) = bytes := by
  have same := leBytes_leNat bytes
  rw [width] at same
  rw [le16, UInt16.toNat_ofNat', show 2 ^ 16 = 256 ^ 2 from rfl, leBytes_mod, same]

theorem recognizes_takeU16 :
    Recognizes body (takeU16 body) fun before value after => before = le16 value ++ after := by
  apply ((recognizes_takeBytes body 2).bind fun bytes => recognizes_pure _).congr
  intro before value after
  constructor
  · rintro ⟨bytes, middle, ⟨width, rfl⟩, rfl, rfl⟩
    rw [le16_ofNat_leNat width]
  · rintro rfl
    exact ⟨le16 value, after, ⟨length_le16 value, rfl⟩, (ofNat_leNat_le16 value).symm, rfl⟩

theorem recognizes_takeNonzeroSuiteCount :
    Recognizes body (takeNonzeroSuiteCount body) fun before count after =>
      0 < count ∧ count < 2 ^ 16 ∧ before = le16 (UInt16.ofNat count) ++ after := by
  apply ((recognizes_takeU16 body).bind fun count =>
    recognizes_ite (recognizes_throw _) (recognizes_pure count.toNat)).congr
  intro before count after
  constructor
  · rintro ⟨value, middle, rfl, ⟨_, allowed⟩ | ⟨nonzero, rfl, rfl⟩⟩
    · exact allowed.elim
    · have positive : value.toNat ≠ 0 := by
        intro zero
        exact nonzero (UInt16.toNat_inj.mp zero)
      exact ⟨Nat.pos_of_ne_zero positive, value.toNat_lt, by rw [UInt16.ofNat_toNat]⟩
  · rintro ⟨positive, small, rfl⟩
    have value : (UInt16.ofNat count).toNat = count := by
      rw [UInt16.toNat_ofNat', Nat.mod_eq_of_lt small]
    refine ⟨UInt16.ofNat count, after, rfl, Or.inr ⟨?_, value.symm, rfl⟩⟩
    intro zero
    rw [zero] at value
    exact absurd value (Nat.ne_of_lt positive)

/-- Every byte string of that length is a list of suites. -/
theorem exists_suites (count : Nat) (bytes : Bytes) (whole : bytes.length = count * 4) :
    ∃ suites : List (Octets 4), suites.length = count ∧ suites.flatMap Subtype.val = bytes := by
  induction count generalizing bytes with
  | zero => exact ⟨[], rfl, (List.length_eq_zero_iff.mp (by omega)).symm⟩
  | succ count hypothesis =>
      obtain ⟨suites, counted, rest⟩ := hypothesis (bytes.drop 4) (by
        rw [List.length_drop]
        omega)
      have width : (bytes.take 4).length = 4 := by
        rw [List.length_take]
        omega
      refine ⟨⟨bytes.take 4, width⟩ :: suites, by rw [List.length_cons, counted], ?_⟩
      rw [List.flatMap_cons, rest, List.take_append_drop]

theorem suite_widths (suites : List (Octets 4)) :
    ∀ part ∈ suites.map Subtype.val, part.length = 4 := by
  intro part member
  obtain ⟨suite, _, rfl⟩ := List.mem_map.mp member
  exact suite.2

theorem any_chunks_suites (suites : List (Octets 4)) (required : Octets 4) :
    (chunks 4 (suites.flatMap Subtype.val)).any (· = required.1) = true ↔ required ∈ suites := by
  have split : chunks 4 (suites.flatMap Subtype.val) = suites.map Subtype.val := by
    rw [List.flatMap_def, chunks_flatten (by decide) (suite_widths suites)]
  rw [split, List.any_map, List.any_eq_true]
  constructor
  · intro ⟨suite, member, same⟩
    rwa [← Subtype.ext (of_decide_eq_true same)]
  · intro member
    exact ⟨required, member, decide_eq_true rfl⟩

theorem recognizes_takeRequiredSuiteList (required : Octets 4) :
    Recognizes body (takeRequiredSuiteList body required) fun before _ after =>
      ∃ suites, required ∈ suites ∧ suites.length < 2 ^ 16 ∧
        before = suiteList suites ++ after := by
  apply ((recognizes_takeNonzeroSuiteCount body).bind fun count =>
    (recognizes_takeBytes body (count * 4)).bind fun suites =>
      recognizes_ite (recognizes_pure ()) (recognizes_throw _)).congr
  intro before value after
  constructor
  · rintro ⟨count, middle, ⟨_, small, rfl⟩, bytes, behind, ⟨width, rfl⟩, found⟩
    obtain ⟨suites, rfl, rfl⟩ := exists_suites count bytes width
    rcases found with ⟨found, _, rfl⟩ | ⟨_, allowed⟩
    · exact ⟨suites, (any_chunks_suites suites required).mp found, small, by
        rw [suiteList, List.append_assoc]⟩
    · exact allowed.elim
  · rintro ⟨suites, member, small, rfl⟩
    have width : (suites.flatMap Subtype.val).length = suites.length * 4 := by
      rw [List.flatMap_def, length_flatten_parts (suite_widths suites), List.length_map]
    exact ⟨suites.length, _, ⟨List.length_pos_of_mem member, small, by
        rw [suiteList, List.append_assoc]⟩, _, after, ⟨width, rfl⟩,
      Or.inl ⟨(any_chunks_suites suites required).mpr member, rfl, rfl⟩⟩

theorem recognizes_validateFixedRsnFields :
    Recognizes body (validateFixedRsnFields body) fun before _ after =>
      before = le16 1 ++ (rsnCipherCcmpSuite.1 ++ after) := by
  apply ((recognizes_takeU16 body).bind fun version => recognizes_check
    ((recognizes_takeBytes body 4).bind fun suite => recognizes_ite (recognizes_throw _)
      (recognizes_pure ()))).congr
  intro before value after
  constructor
  · rintro ⟨version, middle, rfl, one, suite, behind, ⟨_, rfl⟩, ⟨_, allowed⟩ | ⟨ccmp, _, rfl⟩⟩
    · exact allowed.elim
    · rw [not_not.mp one, not_not.mp ccmp]
  · rintro rfl
    exact ⟨1, _, rfl, not_not_intro rfl, _, after, ⟨rsnCipherCcmpSuite.2, rfl⟩,
      Or.inr ⟨not_not_intro rfl, rfl, rfl⟩⟩

theorem recognizes_validateRsnCapabilities :
    Recognizes body (validateRsnCapabilities body) fun before _ after =>
      ∃ capabilities, capabilities &&& (rsnCapMfpr ||| rsnCapMfpc) = 0 ∧
        before = le16 capabilities ++ after := by
  apply ((recognizes_takeU16 body).bind fun capabilities =>
    recognizes_ite (recognizes_throw _) (recognizes_pure ())).congr
  intro before value after
  constructor
  · rintro ⟨capabilities, middle, rfl, ⟨_, allowed⟩ | ⟨unprotected, _, rfl⟩⟩
    · exact allowed.elim
    · exact ⟨capabilities, not_not.mp unprotected, rfl⟩
  · rintro ⟨capabilities, unprotected, rfl⟩
    exact ⟨capabilities, after, rfl, Or.inr ⟨not_not_intro unprotected, rfl, rfl⟩⟩

theorem recognizes_validateOptionalPmkid :
    Recognizes body (validateOptionalPmkid body) fun before _ after =>
      after = [] ∧ (before = [] ∨ before = le16 0) := by
  apply (recognizes_atEnd (recognizes_pure ()) ((recognizes_takeU16 body).bind fun count =>
    recognizes_check (recognizes_atEnd (recognizes_pure ()) (recognizes_throw _)))).congr
  intro before value after
  constructor
  · rintro (⟨rfl, _, rfl⟩ | ⟨_, count, middle, rfl, zero, ⟨rfl, _, rfl⟩ | ⟨_, allowed⟩⟩)
    · exact ⟨rfl, Or.inl rfl⟩
    · refine ⟨rfl, Or.inr ?_⟩
      rw [not_not.mp zero, List.append_nil]
    · exact allowed.elim
  · rintro ⟨rfl, rfl | rfl⟩
    · exact Or.inl ⟨rfl, rfl, rfl⟩
    · exact Or.inr ⟨by decide, 0, [], rfl, not_not_intro rfl, Or.inl ⟨rfl, rfl, rfl⟩⟩

theorem recognizes_validateOptionalRsnFields :
    Recognizes body (validateOptionalRsnFields body) fun before _ after =>
      after = [] ∧ ∃ tail : RsnTail, tail.Unprotected ∧ before = tail.bytes := by
  apply (recognizes_atEnd (recognizes_pure ()) ((recognizes_validateRsnCapabilities body).bind
    fun _ => recognizes_validateOptionalPmkid body)).congr
  intro before value after
  constructor
  · rintro (⟨rfl, _, rfl⟩ | ⟨_, _, middle, ⟨capabilities, unprotected, rfl⟩, rfl, rfl | rfl⟩)
    · exact ⟨rfl, .nothing, trivial, rfl⟩
    · exact ⟨rfl, .capabilities capabilities, unprotected, List.append_nil _⟩
    · exact ⟨rfl, .noPmkids capabilities, unprotected, rfl⟩
  · rintro ⟨rfl, tail, unprotected, rfl⟩
    cases tail with
    | nothing => exact Or.inl ⟨rfl, rfl, rfl⟩
    | capabilities value =>
        exact Or.inr ⟨by simp [RsnTail.bytes, le16, leBytes], (), [],
          ⟨value, unprotected, (List.append_nil _).symm⟩, rfl, Or.inl rfl⟩
    | noPmkids value =>
        exact Or.inr ⟨by simp [RsnTail.bytes, le16, leBytes], (), le16 0,
          ⟨value, unprotected, rfl⟩, rfl, Or.inr rfl⟩

end Parser

/-! ## Acceptance -/

section Acceptance

theorem rsnBody_ok {rsnIe body : Bytes} :
    rsnBody rsnIe = .ok body ↔
      4 ≤ rsnIe.length ∧ rsnIe.length ≤ 256 ∧ byteAt rsnIe 0 = 0x30 ∧
        (byteAt rsnIe 1).toNat + 2 = rsnIe.length ∧ body = rsnIe.drop 2 := by
  rw [rsnBody, refused_eq_ok, refused_eq_ok, not_not, Except.ok.injEq, not_or, not_not, not_not,
    and_assoc, and_assoc, eq_comm (a := body)]
  rfl

/-- The parser accepts exactly the elements that the grammar writes. -/
theorem validateRsnIe_iff {rsnIe : Bytes} :
    validateRsnIe rsnIe = .ok () ↔ ∃ pairwise akm tail, RsnElement rsnIe pairwise akm tail := by
  have parser (body : Bytes) := ((recognizes_validateFixedRsnFields body).bind fun _ =>
    (recognizes_takeRequiredSuiteList body rsnCipherCcmpSuite).bind fun _ =>
      (recognizes_takeRequiredSuiteList body rsnAkmPskSuite).bind fun _ =>
        recognizes_validateOptionalRsnFields body).result ()
  rw [validateRsnIe, bind_eq_ok]
  constructor
  · rintro ⟨body, found, accepted⟩
    obtain ⟨long, short, id, length, rfl⟩ := rsnBody_ok.mp found
    obtain ⟨after, _, _, layout, _, _, ⟨pairwise, cipher, small, rfl⟩, _, _,
      ⟨akm, key, fits, rfl⟩, rfl, tail, unprotected, rfl⟩ := (parser _).mp accepted
    exact ⟨pairwise, akm, tail, id, length, long, short, layout, cipher, key, ⟨small, fits⟩,
      unprotected⟩
  · rintro ⟨pairwise, akm, tail, element⟩
    have body := element.body
    refine ⟨rsnIe.drop 2, rsnBody_ok.mpr ⟨element.long, element.short, element.id, element.length,
      rfl⟩, (parser _).mpr ?_⟩
    exact ⟨[], (), _, body.layout, (), _, ⟨pairwise, body.cipher, body.counted.1, rfl⟩, (), _,
      ⟨akm, body.key, body.counted.2, rfl⟩, rfl, tail, body.unprotected, rfl⟩

variable (crypto : Wpa2Crypto)

/-- Exactly the elements of the grammar are accepted.  Message 2 can be built with every
accepted element, and so it is by every supplicant that has its key. -/
theorem validateRsnIe_exact (rsnIe : Bytes) :
    (validateRsnIe rsnIe = .ok () ↔ ∃ pairwise akm tail, RsnElement rsnIe pairwise akm tail) ∧
    (validateRsnIe rsnIe = .ok () →
      ∀ peer protocolVersion keyLength replayCounter supplicantNonce ptk, ∃ response,
        buildMessage2 crypto peer protocolVersion keyLength replayCounter supplicantNonce rsnIe ptk =
          .ok response) ∧
    ∀ (supplicant : Wpa2Supplicant) (frame : EapolKeyFrame) (ptk : Ptk),
      supplicant.ptk = some ptk →
        Post (Wpa2Supplicant.message2Action crypto frame) supplicant fun result after =>
          ∃ response, result = .ok (.transmit response) ∧ after = supplicant := by
  refine ⟨validateRsnIe_iff, ?_, ?_⟩
  · intro accepted peer protocolVersion keyLength replayCounter supplicantNonce ptk
    have fits : rsnIe.length ≤ maxKeyDataLen := (validateRsnIe_length accepted).trans (by decide)
    exact ⟨_, buildResponse_fits crypto peer protocolVersion _ keyLength replayCounter
      supplicantNonce fits ptk⟩
  · intro supplicant frame ptk keys
    exact Wpa2Supplicant.message2Action_handled keys

end Acceptance

end Nrf7002
