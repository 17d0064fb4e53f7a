import Collabo.Library.PartialRuns
import Mathlib.Data.List.Induction

/-!
# Turning points of a run

A property that holds at the end of a run and did not hold at its start was brought
about by some step, behind which it has held ever since.
-/

namespace TurningPoints

open PartialRuns

set_option autoImplicit false

variable {State Event : Type*} {step : State → Event → Option State} {property : State → Prop}
  {start state : State}

/-- The property holds behind each front of the run. -/
def HoldsThrough (step : State → Event → Option State) (property : State → Prop) (state : State)
    (events : List Event) : Prop :=
  ∀ front, front <+: events → ∀ reached, front.foldlM step state = some reached → property reached

/-- The step that brought the property about, and what follows it. -/
structure TurningPoint (step : State → Event → Option State) (property : State → Prop)
    (start : State) (events : List Event) (before : State) (event : Event) (after : State) :
    Prop where
  split : ∃ earlier later, events = earlier ++ event :: later ∧
    earlier.foldlM step start = some before ∧ HoldsThrough step property after later
  stepped : step before event = some after
  off : ¬property before
  on : property after

theorem ran_append {first second : List Event} (ran : (first ++ second).foldlM step start =
    some state) : ∃ middle, first.foldlM step start = some middle ∧
      second.foldlM step middle = some state := by
  rw [List.foldlM_append] at ran
  exact Option.bind_eq_some_iff.mp ran

theorem holds_through_end {after : State} {later : List Event} {event : Event}
    (through : HoldsThrough step property after later)
    (last : ∀ reached, (later ++ [event]).foldlM step after = some reached → property reached) :
    HoldsThrough step property after (later ++ [event]) := by
  intro front isFront reached ran
  rcases List.prefix_concat_iff.mp isFront with all | shorter
  · rw [all] at ran
    exact last reached ran
  · exact through front shorter reached ran

theorem turning_point {events : List Event} (ran : events.foldlM step start = some state)
    (off : ¬property start) (on : property state) :
    ∃ before event after, TurningPoint step property start events before event after := by
  induction events using List.reverseRecOn generalizing state with
  | nil =>
      rw [← Option.some.inj ran] at on
      exact absurd on off
  | append_singleton events event induction =>
      obtain ⟨middle, front, last⟩ := ran_append ran
      have stepped : step middle event = some state := by
        rw [List.foldlM_cons] at last
        obtain ⟨reached, made, same⟩ := Option.bind_eq_some_iff.mp last
        rw [made, ← Option.some.inj same]
      by_cases already : property middle
      · obtain ⟨before, turning, after, point⟩ := induction front already
        obtain ⟨earlier, later, split, led, through⟩ := point.split
        refine ⟨before, turning, after, ⟨earlier, later ++ [event], ?_, led, ?_⟩, point.stepped,
          point.off, point.on⟩
        · rw [split, List.append_assoc, List.cons_append]
        · apply holds_through_end through
          intro reached ranOn
          have whole : (earlier ++ turning :: (later ++ [event])).foldlM step start =
              some reached := by
            rw [List.foldlM_append, led]
            change (turning :: (later ++ [event])).foldlM step before = some reached
            rw [List.foldlM_cons, point.stepped]
            exact ranOn
          rw [split, List.append_assoc, List.cons_append, whole] at ran
          rw [Option.some.inj ran]
          exact on
      · refine ⟨middle, event, state, ⟨events, [], rfl, front, ?_⟩, stepped, already, on⟩
        intro front isFront reached ranOn
        rw [List.prefix_nil.mp isFront] at ranOn
        rw [← Option.some.inj ranOn]
        exact on

end TurningPoints
