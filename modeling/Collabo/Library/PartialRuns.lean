import Mathlib.Tactic.TypeStar

/-!
# Runs of a partial machine

A machine is a function that takes a state and an event to the next state, or
to `none` where the event leads nowhere. A run is a list of events. Two views
of a run are used below: the states that runs meeting a condition reach, and
the statement that each event of one given run meets a condition.
-/

namespace PartialRuns

set_option autoImplicit false

variable {State Event : Type*}

/-- The states that some run from `start` reaches while each of its events is
allowed in the state it arrives in. -/
inductive Reaches (step : State → Event → Option State) (allowed : State → Event → Prop)
    (start : State) : State → Prop where
  | start : Reaches step allowed start start
  | next {state following : State}
      (prior : Reaches step allowed start state) (event : Event)
      (permitted : allowed state event)
      (stepped : step state event = some following) :
      Reaches step allowed start following

/-- Each event of the run meets `condition` in the state it arrives in. A run
ends at the first event that leads nowhere, and that event is still checked. -/
def Along (step : State → Event → Option State) (condition : State → Event → Prop) :
    State → List Event → Prop
  | _, [] => True
  | state, event :: rest =>
      condition state event ∧
        ∀ following, step state event = some following → Along step condition following rest

def after (step : State → Event → Option State) (start : State) (events : List Event) : State :=
  (events.foldlM step start).getD start

/-- A machine whose steps all succeed runs as the plain fold. -/
theorem foldlM_of_steps {stepChecked : State → Event → Option State} {step : State → Event → State}
    {events : List Event}
    (succeeds : ∀ event ∈ events, ∀ state, stepChecked state event = some (step state event))
    (state : State) : events.foldlM stepChecked state = some (events.foldl step state) := by
  induction events generalizing state with
  | nil => rfl
  | cons event rest induction =>
      rw [List.foldlM_cons, succeeds event List.mem_cons_self state]
      exact induction (fun other member => succeeds other (List.mem_cons_of_mem event member)) _

section Rules

variable {step : State → Event → Option State} {allowed : State → Event → Prop}
  {start state : State}

theorem invariant_of_step (invariant : State → Prop) (initial : invariant start)
    (preserved : ∀ state event following, invariant state → allowed state event →
      step state event = some following → invariant following)
    (reached : Reaches step allowed start state) : invariant state := by
  induction reached with
  | start => exact initial
  | next prior event permitted stepped induction =>
      exact preserved _ _ _ induction permitted stepped

theorem reaches_of_prior {prior : State} (reached : Reaches step allowed start prior)
    {events : List Event} (permitted : Along step allowed prior events)
    (ran : events.foldlM step prior = some state) : Reaches step allowed start state := by
  induction events generalizing prior with
  | nil =>
      rw [← Option.some.inj ran]
      exact reached
  | cons event rest induction =>
      cases stepped : step prior event with
      | none =>
          simp only [List.foldlM_cons, stepped] at ran
          cases ran
      | some following =>
          simp only [List.foldlM_cons, stepped] at ran
          exact induction (reached.next event permitted.1 stepped)
            (permitted.2 following stepped) ran

theorem reaches_onward {prior : State} (reached : Reaches step allowed start prior)
    {events : List Event} (permitted : Along step allowed prior events)
    (ran : (events.foldlM step prior).isSome) :
    Reaches step allowed start (after step prior events) := by
  rcases Option.isSome_iff_exists.mp ran with ⟨state, same⟩
  unfold after
  rw [same]
  exact reaches_of_prior reached permitted same

theorem reaches_after {events : List Event} (permitted : Along step allowed start events)
    (ran : (events.foldlM step start).isSome) :
    Reaches step allowed start (after step start events) :=
  reaches_onward .start permitted ran

theorem along_of_mem {condition : State → Event → Prop} {events : List Event}
    (always : ∀ event ∈ events, ∀ state, condition state event) :
    Along step condition start events := by
  induction events generalizing start with
  | nil => trivial
  | cons event rest induction =>
      refine ⟨always event List.mem_cons_self start, ?_⟩
      intro _ _
      exact induction fun other member => always other (List.mem_cons_of_mem event member)

theorem along_of_forall {condition : State → Event → Prop}
    (always : ∀ state event, condition state event) (events : List Event) :
    Along step condition start events :=
  along_of_mem fun event _ state => always state event

theorem along_cons {condition : State → Event → Prop} {following : State} {event : Event}
    {rest : List Event} (stepped : step start event = some following)
    (head : condition start event) (tail : Along step condition following rest) :
    Along step condition start (event :: rest) := by
  refine ⟨head, ?_⟩
  intro other otherStepped
  rw [stepped] at otherStepped
  rw [← Option.some.inj otherStepped]
  exact tail

/-- The rest of a run, from the state that its first part leads to. -/
theorem along_rest {condition : State → Event → Prop} {first rest : List Event}
    (along : Along step condition start (first ++ rest))
    (ran : first.foldlM step start = some state) : Along step condition state rest := by
  induction first generalizing start with
  | nil =>
      rw [← Option.some.inj ran]
      exact along
  | cons event later induction =>
      cases stepped : step start event with
      | none =>
          simp only [List.foldlM_cons, stepped] at ran
          cases ran
      | some following =>
          simp only [List.foldlM_cons, stepped] at ran
          exact induction (along.2 following stepped) ran

theorem along_and {left right : State → Event → Prop} {events : List Event}
    (lefts : Along step left start events) (rights : Along step right start events) :
    Along step (fun state event => left state event ∧ right state event) start events := by
  induction events generalizing start with
  | nil => trivial
  | cons event rest induction =>
      refine ⟨⟨lefts.1, rights.1⟩, ?_⟩
      intro following stepped
      exact induction (lefts.2 following stepped) (rights.2 following stepped)

/-- What an invariant and a permitted event imply is true of each event of a run. -/
theorem along_of_invariant {claimed : State → Event → Prop} (invariant : State → Prop)
    (sound : ∀ state event, invariant state → allowed state event → claimed state event)
    (preserved : ∀ state event following, invariant state → allowed state event →
      step state event = some following → invariant following)
    {events : List Event} (initial : invariant start)
    (permitted : Along step allowed start events) : Along step claimed start events := by
  induction events generalizing start with
  | nil => trivial
  | cons event rest induction =>
      refine ⟨sound start event initial permitted.1, ?_⟩
      intro following stepped
      apply induction _ (permitted.2 following stepped)
      exact preserved start event following initial permitted.1 stepped

/-- The exactness rule. Where, in every invariant state, what is claimed of an
event holds just when the condition does, and a claim that holds carries the
invariant to the next state, the claim holds along a run just when the
condition does. -/
theorem along_iff_of_invariant {claimed condition : State → Event → Prop}
    (given : State → Event → Prop) (invariant : State → Prop)
    (exact_step : ∀ state event, invariant state → given state event →
      (claimed state event ↔ condition state event))
    (preserved : ∀ state event following, invariant state → given state event →
      claimed state event → step state event = some following → invariant following)
    {events : List Event} (initial : invariant start)
    (legal : Along step given start events) :
    Along step claimed start events ↔ Along step condition start events := by
  induction events generalizing start with
  | nil => exact Iff.rfl
  | cons event rest induction =>
      have head := exact_step start event initial legal.1
      constructor
      · intro holds
        refine ⟨head.mp holds.1, ?_⟩
        intro following stepped
        have carried := preserved start event following initial legal.1 holds.1 stepped
        exact (induction carried (legal.2 following stepped)).mp (holds.2 following stepped)
      · intro meets
        have claim := head.mpr meets.1
        refine ⟨claim, ?_⟩
        intro following stepped
        have carried := preserved start event following initial legal.1 claim stepped
        exact (induction carried (legal.2 following stepped)).mpr (meets.2 following stepped)

end Rules

end PartialRuns
