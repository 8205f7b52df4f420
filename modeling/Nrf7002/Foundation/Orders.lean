import Mathlib.Data.List.Forall2
import Mathlib.Data.List.Sort

/-! # Orders that are delivered in parts

Each order stands for a list of parts, which are delivered one at a time and in order.
`InParts` says that every order but the last one was delivered as a whole, and of the last
one a first part. -/

set_option autoImplicit false

namespace Foundation

section Orders
variable {ρ κ : Type} (parts : ρ → List κ)

/-- What was delivered: everything of all orders but the last, and some first parts of that. -/
structure InParts (orders : List ρ) (delivered : List κ) : Prop where
  within : delivered <+: orders.flatMap parts
  settled : orders.dropLast.flatMap parts <+: delivered

/-- All earlier orders were delivered, and of the last one `count` parts. -/
def UpTo (earlier : List ρ) (last : ρ) (count : Nat) (delivered : List κ) : Prop :=
  delivered = earlier.flatMap parts ++ (parts last).take count

variable {parts} {orders earlier : List ρ} {last : ρ} {count : Nat} {delivered : List κ}

theorem inParts_whole (whole : delivered = orders.flatMap parts) :
    InParts parts orders delivered where
  within := whole ▸ List.prefix_refl _
  settled := by
    rw [whole]
    obtain ⟨rest, split⟩ := List.dropLast_prefix orders
    refine ⟨rest.flatMap parts, ?_⟩
    rw [← List.flatMap_append, split]

theorem UpTo.inParts (upTo : UpTo parts earlier last count delivered) :
    InParts parts (earlier ++ [last]) delivered where
  within := by
    rw [upTo, List.flatMap_append, List.flatMap_singleton]
    exact List.prefix_append_right_inj _ |>.mpr (List.take_prefix count _)
  settled := by
    rw [upTo, List.dropLast_concat]
    exact List.prefix_append _ _

/-- A new order, of which nothing is delivered yet. -/
theorem upTo_zero (whole : delivered = earlier.flatMap parts) (last : ρ) :
    UpTo parts earlier last 0 delivered := by
  rw [UpTo, whole, List.take_zero, List.append_nil]

theorem UpTo.next (upTo : UpTo parts earlier last count delivered) {part : κ}
    (found : (parts last)[count]? = some part) :
    UpTo parts earlier last (count + 1) (delivered ++ [part]) := by
  rw [UpTo] at upTo ⊢
  rw [upTo, List.append_assoc, List.take_add_one, found]
  rfl

/-- Orders with the same parts. -/
theorem InParts.same {σ : Type} {others : List σ} {otherParts : σ → List κ}
    (inParts : InParts parts orders delivered)
    (same : List.Forall₂ (fun order other => parts order = otherParts other) orders others) :
    InParts otherParts others delivered := by
  have equal : orders.map parts = others.map otherParts := by
    rw [← List.forall₂_eq_eq_eq, List.forall₂_map_left_iff, List.forall₂_map_right_iff]
    exact same
  constructor
  · rw [List.flatMap_def, ← equal, ← List.flatMap_def]
    exact inParts.within
  · rw [List.flatMap_def, List.map_dropLast, ← equal, ← List.map_dropLast, ← List.flatMap_def]
    exact inParts.settled

/-- The last part settles the order. -/
theorem UpTo.whole (upTo : UpTo parts earlier last count delivered)
    (all : (parts last).length ≤ count) : delivered = (earlier ++ [last]).flatMap parts := by
  rw [upTo, List.take_of_length_le all, List.flatMap_append, List.flatMap_singleton]

end Orders

/-! ### Entries under rising numbers -/

section Rising
variable {α κ : Type} [LT κ] [Std.Asymm fun left right : κ => left < right] (number : α → κ)

instance risingAntisymm : Std.Antisymm fun left right : α => number left < number right where
  antisymm _ _ below above :=
    absurd above (Std.Asymm.asymm (r := fun low high : κ => low < high) _ _ below)

/-- A list under rising numbers whose entries all occur in another such list is a part of
it, in the same order. -/
theorem sublist_of_rising {part whole : List α}
    (part_rises : (part.map number).Pairwise fun left right => left < right)
    (whole_rises : (whole.map number).Pairwise fun left right => left < right)
    (occur : ∀ entry ∈ part, entry ∈ whole) : part.Sublist whole := by
  rw [List.pairwise_map] at part_rises whole_rises
  have distinct : part.Nodup := by
    refine part_rises.imp ?_
    rintro left _ below rfl
    exact Std.Asymm.asymm _ _ below below
  exact List.sublist_of_subperm_of_pairwise (List.subperm_of_subset distinct occur) part_rises
    whole_rises

/-- Every entry has its source in a list; the sources in the order of the entries. -/
theorem exists_forall₂ {β : Type} {R : α → β → Prop} {part : List α} {whole : List β}
    (sources : ∀ entry ∈ part, ∃ source ∈ whole, R entry source) :
    ∃ chosen, List.Forall₂ R part chosen ∧ ∀ source ∈ chosen, source ∈ whole := by
  induction part with
  | nil => exact ⟨[], .nil, by simp⟩
  | cons entry rest ih =>
      obtain ⟨source, occurs, related⟩ := sources entry List.mem_cons_self
      obtain ⟨chosen, all, within⟩ := ih fun other member =>
        sources other (List.mem_cons_of_mem entry member)
      exact ⟨source :: chosen, .cons related all, List.forall_mem_cons.mpr ⟨occurs, within⟩⟩

/-- Every entry is related to one of the sources. -/
theorem exists_source {β : Type} {R : α → β → Prop} {part : List α} {chosen : List β}
    (related : List.Forall₂ R part chosen) {entry : α} (member : entry ∈ part) :
    ∃ source ∈ chosen, R entry source := by
  induction related with
  | nil => cases member
  | cons first _ ih =>
      rcases List.mem_cons.mp member with rfl | later
      · exact ⟨_, List.mem_cons_self, first⟩
      · obtain ⟨source, occurs, holds⟩ := ih later
        exact ⟨source, List.mem_cons_of_mem _ occurs, holds⟩

/-- Where entries and sources rise under the same numbers, the sources are in their order. -/
theorem exists_sublist_of_rising {β : Type} {R : α → β → Prop} {part : List α} {whole : List β}
    (numbered : β → κ) (same : ∀ entry source, R entry source → number entry = numbered source)
    (part_rises : (part.map number).Pairwise fun left right => left < right)
    (whole_rises : (whole.map numbered).Pairwise fun left right => left < right)
    (sources : ∀ entry ∈ part, ∃ source ∈ whole, R entry source) :
    ∃ chosen, chosen.Sublist whole ∧ List.Forall₂ R part chosen := by
  obtain ⟨chosen, related, within⟩ := exists_forall₂ sources
  have numbers : part.map number = chosen.map numbered := by
    rw [← List.forall₂_eq_eq_eq, List.forall₂_map_left_iff, List.forall₂_map_right_iff]
    exact related.imp fun entry source => same entry source
  exact ⟨chosen, sublist_of_rising numbered (numbers ▸ part_rises) whole_rises within, related⟩

end Rising

end Foundation
