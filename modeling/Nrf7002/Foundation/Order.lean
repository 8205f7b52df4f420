import Mathlib.Data.List.Forall2
import Mathlib.Order.Defs.Unbundled

/-! # The order of entries in a log

A log grows at its end.  `InOrder marks log` finds entries for the marks in the order of
the marks, and `OnlyAfter P Q log` says that an entry with `P` is added to logs with `Q`
only. -/

set_option autoImplicit false

namespace Foundation

section Order
variable {α : Type}

/-- The log has an entry for every mark, in the order of the marks. -/
def InOrder (marks : List (α → Prop)) (log : List α) : Prop :=
  List.SublistForall₂ (fun mark entry => mark entry) marks log

theorem inOrder_iff {marks : List (α → Prop)} {log : List α} :
    InOrder marks log ↔
      ∃ found, List.Forall₂ (fun mark entry => mark entry) marks found ∧ found.Sublist log :=
  List.sublistForall₂_iff

theorem inOrder_nil (log : List α) : InOrder [] log := .nil

/-- What is in order stays so while the log grows. -/
theorem InOrder.append {marks : List (α → Prop)} {log : List α} (ordered : InOrder marks log)
    (added : List α) : InOrder marks (log ++ added) := by
  obtain ⟨found, matched, inside⟩ := inOrder_iff.mp ordered
  exact inOrder_iff.mpr ⟨found, matched, inside.trans (List.sublist_append_left log added)⟩

/-- The entry that is added is the next mark. -/
theorem InOrder.snoc {marks : List (α → Prop)} {log : List α} (ordered : InOrder marks log)
    {mark : α → Prop} {entry : α} (holds : mark entry) :
    InOrder (marks ++ [mark]) (log ++ [entry]) := by
  obtain ⟨found, matched, inside⟩ := inOrder_iff.mp ordered
  refine inOrder_iff.mpr ⟨found ++ [entry], ?_, inside.append (List.Sublist.refl [entry])⟩
  exact List.rel_append matched (.cons holds .nil)

/-- The first mark has its entry in the log. -/
theorem InOrder.exists_first {marks : List (α → Prop)} {mark : α → Prop} {log : List α}
    (ordered : InOrder (mark :: marks) log) : ∃ entry ∈ log, mark entry := by
  obtain ⟨found, matched, inside⟩ := inOrder_iff.mp ordered
  cases matched with
  | cons holds _ => exact ⟨_, inside.subset List.mem_cons_self, holds⟩

theorem InOrder.length_le {marks : List (α → Prop)} {log : List α} (ordered : InOrder marks log) :
    marks.length ≤ log.length := by
  obtain ⟨found, matched, inside⟩ := inOrder_iff.mp ordered
  rw [matched.length_eq]
  exact inside.length_le

/-- Every entry with `P` was added to a log with `Q`. -/
def OnlyAfter (P : α → Prop) (Q : List α → Prop) (log : List α) : Prop :=
  ∀ before entry after, log = before ++ entry :: after → P entry → Q before

theorem onlyAfter_nil (P : α → Prop) (Q : List α → Prop) : OnlyAfter P Q [] := by
  intro before entry after splits
  exact absurd splits.symm (by simp)

section Growth
variable {P : α → Prop} {Q : List α → Prop} {log : List α}

theorem OnlyAfter.snoc (holds : OnlyAfter P Q log) {last : α} (guarded : P last → Q log) :
    OnlyAfter P Q (log ++ [last]) := by
  intro before entry after splits marked
  rcases List.eq_nil_or_concat after with rfl | ⟨front, final, rfl⟩
  · obtain ⟨rfl, same⟩ := List.append_inj' splits rfl
    obtain rfl : last = entry := by simpa using same
    exact guarded marked
  · rw [List.concat_eq_append, ← List.cons_append, ← List.append_assoc] at splits
    exact holds before entry front (List.append_inj' splits rfl).1 marked

/-- Entries without `P` may be added to any log. -/
theorem OnlyAfter.append (holds : OnlyAfter P Q log) {added : List α}
    (unmarked : ∀ entry ∈ added, ¬ P entry) : OnlyAfter P Q (log ++ added) := by
  induction added generalizing log with
  | nil => rwa [List.append_nil]
  | cons entry rest hypothesis =>
      rw [List.append_cons]
      apply hypothesis
      · exact holds.snoc fun marked => absurd marked (unmarked entry List.mem_cons_self)
      · exact fun other member => unmarked other (List.mem_cons_of_mem entry member)

/-- Entries with `P` are added where `Q` holds, and `Q` lasts. -/
theorem OnlyAfter.append_of (holds : OnlyAfter P Q log)
    (lasts : ∀ before more, Q before → Q (before ++ more)) {added : List α}
    (guarded : ∀ entry ∈ added, P entry → Q log) : OnlyAfter P Q (log ++ added) := by
  induction added generalizing log with
  | nil => rwa [List.append_nil]
  | cons entry rest hypothesis =>
      rw [List.append_cons]
      apply hypothesis
      · exact holds.snoc (guarded entry List.mem_cons_self)
      · intro other member marked
        exact lasts log [entry] (guarded other (List.mem_cons_of_mem entry member) marked)

end Growth

/-! ### Logs that grow -/

/-- The log grew, by entries with `P` only. -/
def GrowsBy (P : α → Prop) (before after : List α) : Prop :=
  ∃ added, after = before ++ added ∧ ∀ entry ∈ added, P entry

section GrowsBy
variable {P Q : α → Prop} {log before after : List α}

theorem growsBy_refl (P : α → Prop) (log : List α) : GrowsBy P log log :=
  ⟨[], (List.append_nil log).symm, by simp⟩

theorem GrowsBy.trans {first second third : List α} (left : GrowsBy P first second)
    (right : GrowsBy P second third) : GrowsBy P first third := by
  obtain ⟨added, rfl, holds⟩ := left
  obtain ⟨more, rfl, later⟩ := right
  refine ⟨added ++ more, List.append_assoc _ _ _, ?_⟩
  intro entry member
  rcases List.mem_append.mp member with earlier | new
  · exact holds entry earlier
  · exact later entry new

instance growsByPreorder : IsPreorder (List α) (GrowsBy P) where
  refl := growsBy_refl P
  trans _ _ _ := GrowsBy.trans

theorem growsBy_snoc {entry : α} (holds : P entry) : GrowsBy P log (log ++ [entry]) :=
  ⟨[entry], rfl, by simpa using holds⟩

theorem GrowsBy.mono (grows : GrowsBy P before after) (weaker : ∀ entry, P entry → Q entry) :
    GrowsBy Q before after := by
  obtain ⟨added, grown, holds⟩ := grows
  exact ⟨added, grown, fun entry member => weaker entry (holds entry member)⟩

end GrowsBy

end Order

end Foundation
