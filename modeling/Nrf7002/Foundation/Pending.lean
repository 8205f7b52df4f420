import Mathlib.Data.List.Induction

/-! # What a trace of events leaves open

Some events open something, and some close what is open.  `pending` scans a trace from
its start and remembers the last thing opened and not yet closed.  The lemmas turn what
the scan found into where the trace has its events. -/

set_option autoImplicit false

namespace Foundation

section Pending
variable {E F : Type} (opens : E → Option F) (closes : E → Bool)

def pendingAfter (open_ : Option F) (event : E) : Option F :=
  match opens event with
  | some f => some f
  | none => if closes event then none else open_

def pending (trace : List E) : Option F := trace.foldl (pendingAfter opens closes) none

theorem pending_append (trace : List E) (event : E) :
    pending opens closes (trace ++ [event]) =
      pendingAfter opens closes (pending opens closes trace) event := by
  simp [pending]

variable {opens closes}

theorem pending_append_opens {trace : List E} {event : E} {f : F} (opened : opens event = some f) :
    pending opens closes (trace ++ [event]) = some f := by
  simp [pending_append, pendingAfter, opened]

theorem pending_append_closes {trace : List E} {event : E} (quiet : opens event = none)
    (closed : closes event = true) : pending opens closes (trace ++ [event]) = none := by
  simp [pending_append, pendingAfter, quiet, closed]

theorem pending_append_other {trace : List E} {event : E} (quiet : opens event = none)
    (neutral : closes event = false) :
    pending opens closes (trace ++ [event]) = pending opens closes trace := by
  simp [pending_append, pendingAfter, quiet, neutral]

theorem isSome_pending_append (trace : List E) (event : E) :
    (pending opens closes (trace ++ [event])).isSome =
      ((opens event).isSome || (!closes event && (pending opens closes trace).isSome)) := by
  rw [pending_append, pendingAfter]
  cases opens event <;> cases closes event <;> simp

/-- What is open was opened by an event after which nothing was opened or closed. -/
theorem opened_of_pending {trace : List E} {f : F} (found : pending opens closes trace = some f) :
    ∃ older event since, trace = older ++ event :: since ∧ opens event = some f ∧
      ∀ later ∈ since, opens later = none ∧ closes later = false := by
  induction trace using List.reverseRecOn with
  | nil => cases found
  | append_singleton trace last hypothesis =>
      cases opened : opens last with
      | some g =>
          rw [pending_append_opens opened] at found
          cases found
          exact ⟨trace, last, [], rfl, opened, by simp⟩
      | none =>
          cases closed : closes last with
          | true =>
              rw [pending_append_closes opened closed] at found
              cases found
          | false =>
              rw [pending_append_other opened closed] at found
              obtain ⟨older, event, since, same, first, rest⟩ := hypothesis found
              refine ⟨older, event, since ++ [last], by simp [same], first, ?_⟩
              intro later member
              cases List.mem_append.mp member with
              | inl before => exact rest later before
              | inr at_ =>
                  cases List.mem_singleton.mp at_
                  exact ⟨opened, closed⟩

/-- Where nothing is open, every event that opened something was followed by one that
closes. -/
theorem closed_of_pending {trace : List E} (found : pending opens closes trace = none)
    {before after : List E} {event : E} (place : trace = before ++ event :: after)
    (opened : (opens event).isSome) : ∃ later ∈ after, closes later = true := by
  induction trace using List.reverseRecOn generalizing after with
  | nil => simp at place
  | append_singleton trace last hypothesis =>
      cases opens_ : opens last with
      | some g =>
          rw [pending_append_opens opens_] at found
          cases found
      | none =>
          cases after using List.reverseRecOn with
          | nil =>
              obtain ⟨_, same⟩ := List.append_inj' place rfl
              cases same
              rw [opens_] at opened
              cases opened
          | append_singleton after final =>
              rw [← List.cons_append, ← List.append_assoc] at place
              obtain ⟨shorter, same⟩ := List.append_inj' place rfl
              cases same
              cases closed : closes last with
              | true => exact ⟨last, by simp, closed⟩
              | false =>
                  rw [pending_append_other opens_ closed] at found
                  obtain ⟨later, member, closes_⟩ := hypothesis found shorter
                  exact ⟨later, List.mem_append_left _ member, closes_⟩

end Pending

/-! ## Justified events -/

section Justified
variable {E : Type} {P : List E → E → Prop}

/-- Every event of the trace is justified by the events before it. -/
def Justified (P : List E → E → Prop) (trace : List E) : Prop :=
  ∀ before event after, trace = before ++ event :: after → P before event

theorem justified_nil : Justified P [] := by
  intro before event after place
  simp at place

theorem Justified.append {trace : List E} {event : E} (justified : Justified P trace)
    (next : P trace event) : Justified P (trace ++ [event]) := by
  intro before at_ after place
  cases after using List.reverseRecOn with
  | nil =>
      obtain ⟨same, last⟩ := List.append_inj' place rfl
      cases same
      cases last
      exact next
  | append_singleton after final =>
      rw [← List.cons_append, ← List.append_assoc] at place
      obtain ⟨shorter, _⟩ := List.append_inj' place rfl
      exact justified before at_ after shorter

end Justified

end Foundation
