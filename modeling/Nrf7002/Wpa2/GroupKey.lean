import Nrf7002.Foundation.Checked
import Nrf7002.Wpa2.KeyData

/-! # The group key parser with its panics

The parser once more as the source has it, on an offset into the key data, with every
index, range and addition as the operation that may stop the program.  An element that is
taken has at least three bytes, so the offset moves on until the input is used up. -/

set_option autoImplicit false

namespace Nrf7002
open Foundation

namespace Checked
open Foundation.Checked

section Parser
variable (limit : Nat) (bytes : Bytes)

def takeKde (offset : Nat) : Checked Wpa2Error (Option ((UInt8 × Bytes) × Nat)) :=
  if bytes.length ≤ offset then pure none
  else do
    let first ← byte bytes offset
    if first = 0 then pure none
    else do
      let left ← sub bytes.length offset
      if left < 2 then throw .missingGroupKey
      else do
        let elementId ← byte bytes offset
        let lenAt ← add limit offset 1
        let len ← byte bytes lenAt
        if len = 0 then pure none
        else do
          let bodyStart ← add limit offset 2
          let behind ← sub bytes.length bodyStart
          if behind < len.toNat then throw .missingGroupKey
          else do
            let stop ← add limit bodyStart len.toNat
            let body ← range bytes bodyStart stop
            return some ((elementId, body), stop)

/-- The second reserved byte is read where the first one is in order. -/
def parseGtkBody (body : Bytes) : Checked Wpa2Error GtkKde :=
  if body.length ≠ 22 then throw .invalidEncryptedKeyData
  else do
    let flags ← byte body 4
    if flags &&& 0xf8 ≠ 0 then throw .invalidEncryptedKeyData
    else do
      let reserved ← byte body 5
      if reserved ≠ 0 then throw .invalidEncryptedKeyData
      else do
        let key ← range body 6 body.length
        let index ← byte body 4
        return { keyIndex := index &&& 0x03, key }

/-- The loop of `parse_gtk_kde`.  A loop that is cut off has no ending. -/
def parseGtkKdeFrom : Nat → Nat → Checked Wpa2Error GtkKde
  | 0, _ => panicked
  | fuel + 1, offset => do
      let next ← takeKde limit bytes offset
      match next with
      | none => throw .missingGroupKey
      | some ((elementId, body), stop) =>
          if elementId = kdeElementId ∧ gtkKdeOuiType.isPrefixOf body then parseGtkBody body
          else parseGtkKdeFrom fuel stop

def parseGtkKde (fuel : Nat) : Checked Wpa2Error GtkKde := parseGtkKdeFrom limit bytes fuel 0

end Parser

/-! ## One element -/

section Element
variable {limit : Nat} {bytes : Bytes} {offset : Nat}

def takenAt (bytes : Bytes) (offset : Nat) : Except Wpa2Error (Option ((UInt8 × Bytes) × Nat)) :=
  (Nrf7002.takeKde (bytes.drop offset)).map
    (Option.map fun taken => (taken.1, bytes.length - taken.2.length))

theorem safe_takeKde (offset : Nat) (small : bytes.length < limit) :
    Safe (takeKde limit bytes offset) (takenAt bytes offset) := by
  by_cases used : bytes.length ≤ offset
  · rw [takeKde, if_pos used, takenAt, List.drop_of_length_le used]
    exact safe_pure _
  · have inside : offset < bytes.length := by omega
    rw [takeKde, if_neg used, takenAt, List.drop_eq_getElem_cons inside]
    apply Safe.then (safe_byte_get inside)
    by_cases zero : bytes[offset] = 0
    · simp only [if_pos zero, Nrf7002.takeKde]
      exact safe_pure _
    · rw [if_neg zero]
      apply Safe.then (safe_sub (by omega))
      by_cases short : bytes.length - offset < 2
      · rw [if_pos short, List.drop_of_length_le (by omega)]
        simp only [Nrf7002.takeKde, if_neg zero]
        exact safe_throw _
      · have second : offset + 1 < bytes.length := by omega
        rw [if_neg short, List.drop_eq_getElem_cons second]
        apply Safe.then (safe_byte_get inside)
        apply Safe.then (safe_add (by omega))
        apply Safe.then (safe_byte_get second)
        generalize bytes[offset + 1] = count
        by_cases empty : count = 0
        · simp only [if_pos empty, Nrf7002.takeKde, if_neg zero]
          exact safe_pure _
        · rw [if_neg empty]
          apply Safe.then (safe_add (by omega))
          apply Safe.then (safe_sub (by omega))
          have rest : (bytes.drop (offset + 1 + 1)).length = bytes.length - (offset + 2) :=
            List.length_drop
          by_cases cut : bytes.length - (offset + 2) < count.toNat
          · simp only [Nrf7002.takeKde, if_neg zero, if_neg empty, rest, if_pos cut]
            exact safe_throw _
          · rw [if_neg cut]
            apply Safe.then (safe_add (by omega))
            apply Safe.then (safe_range (Nat.le_add_right _ _) (by omega))
            have stop : bytes.length - ((bytes.drop (offset + 1 + 1)).drop count.toNat).length =
                offset + 2 + count.toNat := by
              rw [List.length_drop, rest]
              omega
            have body : slice bytes (offset + 2) (offset + 2 + count.toNat) =
                (bytes.drop (offset + 1 + 1)).take count.toNat := by
              rw [slice, Nat.add_sub_cancel_left]
            simp only [Nrf7002.takeKde, if_neg zero, if_neg empty, rest, if_neg cut, Except.map,
              Option.map, stop, ← body]
            exact safe_pure _

theorem takenAt_some {taken : UInt8 × Bytes} {stop : Nat}
    (found : takenAt bytes offset = .ok (some (taken, stop))) :
    Nrf7002.takeKde (bytes.drop offset) = .ok (some (taken, bytes.drop stop)) ∧
      offset < stop ∧ stop ≤ bytes.length := by
  rw [takenAt] at found
  cases result : Nrf7002.takeKde (bytes.drop offset) with
  | error failure => simp [result, Except.map] at found
  | ok next =>
      cases next with
      | none => simp [result, Except.map] at found
      | some next =>
          obtain ⟨⟨elementId, body⟩, rest⟩ := next
          simp only [result, Except.map, Option.map, Except.ok.injEq, Option.some.injEq,
            Prod.mk.injEq] at found
          obtain ⟨rfl, rfl⟩ := found
          obtain ⟨element, wellFormed, _, _, layout⟩ := takeKde_some result
          have length := congrArg List.length layout
          rw [List.length_drop, List.length_append, Element.length_bytes] at length
          have position : bytes.length - rest.length = offset + element.bytes.length := by
            rw [Element.length_bytes]
            omega
          have behind : rest = bytes.drop (bytes.length - rest.length) := by
            rw [position, ← List.drop_drop, layout, List.drop_left]
          refine ⟨?_, ?_, Nat.sub_le _ _⟩
          · rw [← behind]
          · rw [position, Element.length_bytes]
            omega

theorem safe_parseGtkBody (body : Bytes) : Safe (parseGtkBody body) (Nrf7002.parseGtkBody body) := by
  apply safe_ite
  · intro _
    exact safe_throw _
  · intro whole
    have length : body.length = 22 := not_not.mp whole
    apply Safe.then (safe_byte (by omega))
    by_cases flags : byteAt body 4 &&& 0xf8 ≠ 0
    · rw [if_pos (Or.inl flags), if_pos (show body.getD 4 0 &&& 0xf8 ≠ 0 from flags)]
      exact safe_throw _
    · rw [if_neg (show ¬ body.getD 4 0 &&& 0xf8 ≠ 0 from flags)]
      apply Safe.then (safe_byte (by omega))
      by_cases reserved : byteAt body 5 ≠ 0
      · rw [if_pos (Or.inr reserved), if_pos (show body.getD 5 0 ≠ 0 from reserved)]
        exact safe_throw _
      · rw [if_neg (not_or.mpr ⟨flags, reserved⟩), if_neg (show ¬ body.getD 5 0 ≠ 0 from reserved)]
        apply Safe.then (safe_range (by omega) (Nat.le_refl _))
        apply Safe.then (safe_byte (by omega))
        rw [slice_to_end]
        exact safe_pure _

end Element

/-! ## The loop -/

section Loop
variable {limit : Nat} {bytes : Bytes}

/-- The loop ends as the total parser does on what is left.  Induction on the fuel; each
element leaves fewer bytes. -/
theorem safe_parseGtkKdeFrom (small : bytes.length < limit) (fuel offset : Nat)
    (enough : bytes.length - offset < fuel) :
    Safe (parseGtkKdeFrom limit bytes fuel offset)
      (parseGtkKdeUpTo fuel (bytes.drop offset)) := by
  induction fuel generalizing offset with
  | zero => omega
  | succ fuel hypothesis =>
      have step := safe_takeKde offset small
      rw [parseGtkKdeFrom, parseGtkKdeUpTo]
      cases taken : Nrf7002.takeKde (bytes.drop offset) with
      | error failure =>
          rw [takenAt, taken] at step
          exact step.fails
      | ok next =>
          cases next with
          | none =>
              rw [takenAt, taken] at step
              exact step.then (safe_throw _)
          | some next =>
              obtain ⟨⟨elementId, body⟩, rest⟩ := next
              have found : takenAt bytes offset =
                  .ok (some ((elementId, body), bytes.length - rest.length)) := by
                rw [takenAt, taken]
                rfl
              obtain ⟨behind, forward, inside⟩ := takenAt_some found
              rw [found] at step
              rw [taken, Except.ok.injEq, Option.some.injEq, Prod.mk.injEq] at behind
              apply step.then
              apply safe_ite
              · intro _
                exact safe_parseGtkBody body
              · intro _
                have ended := hypothesis (bytes.length - rest.length) (by omega)
                rwa [← behind.2] at ended

end Loop

end Checked

/-! ## The first group key -/

/-- The parser never leaves its input, and a loop bound of more than its bytes is never
reached.  Behind well-formed elements that are no group key it returns the index and the key
of a valid group key element, whatever follows; on any other input it ends in an error, or in
the first group key element it reaches. -/
theorem parseGtkKde_first (limit : Nat) (bytes : Bytes) (small : bytes.length < limit) (fuel : Nat)
    (enough : bytes.length < fuel) :
    (∀ (before : List Element) (flags : UInt8) (key trailing : Bytes),
      bytes = before.flatMap Element.bytes ++ ((Element.gtk flags key).bytes ++ trailing) →
      (∀ element ∈ before, element.WellFormed ∧ element.isGtk = false) →
      (Element.gtk flags key).body.length = 22 → flags &&& 0xf8 = 0 →
        Safe (Checked.parseGtkKde limit bytes fuel) (.ok ⟨flags &&& 0x03, key⟩)) ∧
    ((∃ failure, Safe (Checked.parseGtkKde limit bytes fuel) (.error failure)) ∨
      ∃ gtk, Safe (Checked.parseGtkKde limit bytes fuel) (.ok gtk) ∧ IsFirstGtk bytes gtk) := by
  have safe : Safe (Checked.parseGtkKde limit bytes fuel) (parseGtkKdeUpTo fuel bytes) :=
    Checked.safe_parseGtkKdeFrom small fuel 0 (by omega)
  constructor
  · intro before flags key trailing layout others whole reserved
    have size : key.length = 16 := by
      simp [Element.gtk, gtkKdeOuiType] at whole
      exact whole
    have count := length_le_flatMap before
    have length := congrArg List.length layout
    rw [List.length_append] at length
    have found := parseGtkKdeUpTo_complete before (show before.length < fuel by omega) others reserved
      size trailing
    rw [← layout] at found
    rwa [found] at safe
  · cases parsed : parseGtkKdeUpTo fuel bytes with
    | error failure =>
        left
        rw [parsed] at safe
        exact ⟨failure, safe⟩
    | ok gtk =>
        right
        rw [parsed] at safe
        exact ⟨gtk, safe, parseGtkKdeUpTo_sound fuel bytes parsed⟩

def sampleKeyData : Bytes :=
  (Element.mk 0x30 [1, 0]).bytes ++
    ((Element.gtk 2 (List.replicate 16 0x5a)).bytes ++ [kdeElementId, 0, 0])

theorem sampleKeyData_first :
    Safe (Checked.parseGtkKde (2 ^ 32) sampleKeyData 100) (.ok ⟨2, List.replicate 16 0x5a⟩) := by
  have length : sampleKeyData.length = 31 := rfl
  have first := parseGtkKde_first (2 ^ 32) sampleKeyData (by omega) 100 (by omega)
  apply first.1 [⟨0x30, [1, 0]⟩] 2 (List.replicate 16 0x5a) [kdeElementId, 0, 0] rfl
  · intro element member
    obtain rfl := List.mem_singleton.mp member
    exact ⟨⟨by decide, by decide, by decide⟩, rfl⟩
  · rfl
  · rfl

end Nrf7002
